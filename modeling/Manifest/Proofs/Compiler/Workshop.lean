import Mathlib.Logic.Function.Basic
import Manifest.Proofs.Compiler.Fresh
import Manifest.Proofs.Compiler.Outlook
import Manifest.Proofs.Environment.Written
import Manifest.Proofs.Evaluation.Strictness

/-!
# Compilers over sources in memory

Each call asks an environment for its collection, and none of this shows in what calls answer: the
number of a collection does not matter for evaluations, and a catalog is offered again after the
environment was asked exactly if it was before.  So every call ends as the outlook for its key says.

## Main definitions

* `Compiler.Workshop` — a compiler whose environments have their units in memory.
* `Compiler.Workshop.outlook` — what the calls for a key depend on.
* `Compiler.Workshop.WellKept` — what holds in the course of a run.
* `Compiler.Workshop.Foreseen` — a call ends as the outlook says.

## Main results

* `run_eq_of_alike` — the number and the markers of a collection do not matter for evaluations.
* `Compiler.Workshop.WellKept.outlook_read` — asking an environment does not show.
* `Compiler.Workshop.WellKept.foreseen_call` — every call ends as the outlook says.
-/

namespace Manifest

open Evaluation

/-! ### Evaluations of collections that are alike -/

/-- An evaluation of a collection in which nothing else differs. -/
def Setting.on (setting : Setting) (collection : Collection) : Setting :=
  { setting with collection := collection }

theorem lockstep_on {setting : Setting} {collection : Collection}
    (h : collection.Alike setting.collection) :
    Lockstep (.equal fun _ => False) setting (setting.on collection) :=
  lockstep_equal h rfl (fun _ _ => Or.inl rfl) fun _ _ _ => Coupling.equal_couples_self _

theorem depthLimit_eq {c d : Collection} (h : c.Alike d) : depthLimit c = depthLimit d := by
  rw [depthLimit, depthLimit, h.definitions_eq]

theorem run_eq_of_alike (setting : Setting) {collection : Collection}
    (h : collection.Alike setting.collection) : run (setting.on collection) = run setting := by
  have hstep := lockstep_on h
  have hprogram : (Coupling.equal fun _ => False).Couples
      (program setting (depthLimit setting.collection))
      (program (setting.on collection) (depthLimit collection)) := by
    rw [depthLimit_eq h]
    exact (hstep.executeSite (hstep.enter _)).bind fun _ => Coupling.equal_couples_self _
  rcases (hprogram (EvalState.start setting) _ rfl).ok_or_error with
    ⟨c, s, t, h₁, h₂, rfl⟩ | ⟨e, s, t, h₁, h₂, rfl⟩ | ⟨e, s, h₁, hexcused⟩
  · exact (run_of_program_ok h₂).trans (run_of_program_ok h₁).symm
  · exact (run_of_program_error h₂).trans (run_of_program_error h₁).symm
  · exact hexcused.elim

namespace Compiler

/-- A compiler whose environments have their units in memory. -/
structure Workshop where
  compiler : Compiler
  /-- The units of each environment. -/
  memory : String → MemorySources
  clock : Clock
  /-- What runs the version command. -/
  shell : Shell

namespace Workshop

/-- A call of the compiler. -/
def call (w : Workshop) (node : Node) (environment : Option String) : Outcome :=
  w.compiler.compile (fun name => (w.memory name).provider) w.clock node environment w.shell

/-- A workshop without units whose compiler keeps nothing yet. -/
def start (environments : Environments) (registry : Registry) (config : Config) (clock : Clock)
    (shell : Shell) : Workshop :=
  ⟨Compiler.new environments registry config, fun _ => .empty, clock, shell⟩

/-- The workshop after a step. -/
def step (w : Workshop) : Step → Workshop
  | .compile node environment =>
    { w with compiler := (w.call node environment).compiler }
  | .write environment now name text =>
    { w with memory :=
        Function.update w.memory environment ((w.memory environment).set now name text) }
  | .setClock clock => { w with clock := clock }
  | .changeShell shell => { w with shell := shell }
  | .markStale environment => { w with compiler := w.compiler.markStale environment }

/-- What a step answers to the one who has a key. -/
def answer? (w : Workshop) (key : CacheKey) : Step → Option (Except CompileError Catalog)
  | .compile node environment =>
    if w.compiler.config.keyOf node environment = key then
      some (w.call node environment).result
    else none
  | _ => none

/-- What some steps answer to the one who has a key, oldest first: catalogs with their versions, and
errors. -/
def answers (key : CacheKey) (w : Workshop) : List Step → List (Except CompileError Catalog)
  | [] => []
  | s :: rest => (w.answer? key s).toList ++ answers key (w.step s) rest

/-- Whether the catalog that is kept for a key was made from the collection that is held. -/
def offered (w : Workshop) (key : CacheKey) : Bool :=
  match w.compiler.environments.get? (some key.environment), Cache.get? w.compiler.cache key with
  | some e, some entry => e.offers (w.memory key.environment).provider entry.generation
  | _, _ => false

/-- What the calls for a key depend on. -/
def outlook (w : Workshop) (key : CacheKey) : Outlook where
  registry := w.compiler.registry
  config := w.compiler.config
  known := (w.compiler.environments.get? (some key.environment)).isSome
  sources := w.memory key.environment
  clock := w.clock
  shell := w.shell
  kept := (Cache.get? w.compiler.cache key).map fun entry => (entry.node, entry.catalog)
  offered := w.offered key

/-- Every environment mirrors its units, and nothing is kept from a later collection than the one
that was read last. -/
structure WellKept (w : Workshop) : Prop where
  named (name : String) : (w.memory name).Named
  mirrors {name : String} {e : Environment} :
    w.compiler.environments.get? (some name) = some e → e.Mirrors (w.memory name)
  generation_le {key : CacheKey} {entry : CacheEntry} {e : Environment} :
    Cache.get? w.compiler.cache key = some entry →
      w.compiler.environments.get? (some key.environment) = some e →
        entry.generation ≤ e.generations

variable {w : Workshop} {key : CacheKey} {e : Environment} {node : Node}
  {environment : Option String}

theorem config_outlook (w : Workshop) (key : CacheKey) :
    (w.outlook key).config = w.compiler.config := rfl

/-! ### Environments that are asked -/

/-- The workshop after an environment was asked for its collection. -/
def read (w : Workshop) (name : String) (e : Environment) : Workshop :=
  { w with compiler := w.compiler.reading (e.collection (w.memory name).provider).environment }

/-- The workshop in which a catalog is kept for a node. -/
def keep (w : Workshop) (node : Node) (key : CacheKey) (collection : Collection)
    (catalog : Catalog) : Workshop :=
  { w with compiler := w.compiler.keeping node key collection catalog }

/-- Another environment in the place of one that is there. -/
theorem get?_reading_of_name {c : Compiler} {name : String} {e e' : Environment}
    (hfound : c.environments.get? (some name) = some e) (hname : e'.name = e.name)
    (other : String) :
    (c.reading e').environments.get? (some other) =
      if other = name then some e' else c.environments.get? (some other) := by
  rw [get?_reading, hname, Environments.name_eq_of_get? hfound]

theorem offered_eq {entry : CacheEntry}
    (hfound : w.compiler.environments.get? (some key.environment) = some e)
    (hkept : Cache.get? w.compiler.cache key = some entry) :
    w.offered key = e.offers (w.memory key.environment).provider entry.generation := by
  rw [offered, hfound, hkept]

/-- Replacing an environment can only change what is offered. -/
theorem outlook_reading {name : String} {e' : Environment}
    (hfound : w.compiler.environments.get? (some name) = some e) (hname : e'.name = e.name)
    (key : CacheKey) :
    let replaced : Workshop := { w with compiler := w.compiler.reading e' }
    replaced.outlook key = { w.outlook key with offered := replaced.offered key } := by
  intro replaced
  rw [outlook, outlook, Outlook.mk.injEq]
  refine ⟨rfl, rfl, ?_, rfl, rfl, rfl, rfl, rfl⟩
  rw [get?_reading_of_name hfound hname]
  split
  · next hkey => rw [hkey, hfound]; rfl
  · rfl

/-- It changes what is offered there as it changes the offers of the environment. -/
theorem offered_reading {name : String} {e' : Environment}
    (hfound : w.compiler.environments.get? (some name) = some e) (hname : e'.name = e.name)
    (key : CacheKey) :
    ({ w with compiler := w.compiler.reading e' } : Workshop).offered key =
      if key.environment = name then
        ((Cache.get? w.compiler.cache key).map fun entry =>
          e'.offers (w.memory name).provider entry.generation).getD false
      else w.offered key := by
  rw [offered, offered, get?_reading_of_name hfound hname]
  by_cases hkey : key.environment = name
  · rw [if_pos hkey, if_pos hkey, hkey]
    cases hkept : Cache.get? w.compiler.cache key <;> simp [reading, hkept]
  · rw [if_neg hkey, if_neg hkey]
    rfl

namespace WellKept

theorem start {environments : Environments}
    (hnew : ∀ name e, environments.get? (some name) = some e → e.current = none)
    (registry : Registry) (config : Config) (clock : Clock) (shell : Shell) :
    (start environments registry config clock shell).WellKept where
  named _ _ h := by cases h
  mirrors h := .of_current_eq_none (hnew _ _ h)
  generation_le h := by cases h

/-- Asking an environment for its collection does not show in any outlook. -/
theorem outlook_read (h : w.WellKept) {name : String}
    (hfound : w.compiler.environments.get? (some name) = some e) (key : CacheKey) :
    (w.read name e).outlook key = w.outlook key := by
  have hname := (e.reads_collection (w.memory name).provider).name_eq
  have hoffered : (w.read name e).offered key = w.offered key := by
    rw [Workshop.read, offered_reading hfound hname]
    split
    · next hkey =>
      subst hkey
      cases hkept : Cache.get? w.compiler.cache key with
      | none => simp [offered, hfound, hkept]
      | some entry =>
        rw [offered_eq hfound hkept]
        exact (h.mirrors hfound).offers_collection (h.named _) (h.generation_le hkept hfound)
    · rfl
  calc (w.read name e).outlook key
      = { w.outlook key with offered := (w.read name e).offered key } :=
        outlook_reading hfound hname key
    _ = w.outlook key := by rw [hoffered]; rfl

/-- Another environment in the place of one that is there, which mirrors the units as well. -/
theorem reading (h : w.WellKept) {name : String} {e' : Environment}
    (hfound : w.compiler.environments.get? (some name) = some e) (hname : e'.name = e.name)
    (hmirrors : e'.Mirrors (w.memory name)) (hle : e.generations ≤ e'.generations) :
    ({ w with compiler := w.compiler.reading e' } : Workshop).WellKept := by
  have hget := get?_reading_of_name hfound hname
  constructor
  · exact h.named
  · intro other d hd
    simp only [hget] at hd
    split at hd
    · next hother =>
      cases hd
      rw [hother]
      exact hmirrors
    · exact h.mirrors hd
  · intro key entry d hkept hd
    simp only [hget] at hd
    split at hd
    · next hkey =>
      cases hd
      exact Nat.le_trans (h.generation_le hkept (hkey ▸ hfound)) hle
    · exact h.generation_le hkept hd

theorem read (h : w.WellKept) {name : String}
    (hfound : w.compiler.environments.get? (some name) = some e) : (w.read name e).WellKept := by
  have hreads := e.reads_collection (w.memory name).provider
  exact h.reading hfound hreads.name_eq ((h.mirrors hfound).collection (h.named name))
    hreads.generations_le

/-- A catalog is kept for the collection that was read. -/
theorem keep (h : w.WellKept) {collection : Collection}
    (hfound : w.compiler.environments.get? (some key.environment) = some e)
    (hcurrent : e.current = some collection) (node : Node) (catalog : Catalog) :
    (w.keep node key collection catalog).WellKept where
  named := h.named
  mirrors := h.mirrors
  generation_le := by
    intro other entry d hkept hd
    rw [Workshop.keep, keeping, Cache.get?_insert] at hkept
    split at hkept
    · next heq =>
      cases hkept
      cases heq
      cases Option.some.inj (hfound.symm.trans hd)
      exact Nat.le_of_eq (e.generation_eq collection hcurrent)
    · exact h.generation_le hkept hd

end WellKept

/-- What is kept for one key does not show in the outlook for another one. -/
theorem outlook_keep_of_ne {other : CacheKey} (h : other ≠ key) (w : Workshop) (node : Node)
    (collection : Collection) (catalog : Catalog) :
    (w.keep node key collection catalog).outlook other = w.outlook other := by
  have hget : Cache.get? (w.compiler.keeping node key collection catalog).cache other =
      Cache.get? w.compiler.cache other := by
    rw [keeping, Cache.get?_insert, if_neg h]
  simp only [outlook, offered, keep, hget]
  rfl

theorem outlook_keep {collection : Collection} {catalog : Catalog}
    (hfound : w.compiler.environments.get? (some key.environment) = some e)
    (hoffers : e.offers (w.memory key.environment).provider collection.generation = true) :
    (w.keep node key collection catalog).outlook key =
      { w.outlook key with kept := some (node, catalog), offered := true } := by
  have hget : Cache.get? (w.compiler.keeping node key collection catalog).cache key =
      some ⟨collection.generation, node, catalog⟩ := by
    rw [keeping, Cache.get?_insert, if_pos rfl]
  have hoffered := (w.keep node key collection catalog).offered_eq hfound hget
  rw [outlook, outlook, hoffered, keep, hget, Outlook.mk.injEq]
  exact ⟨rfl, rfl, rfl, rfl, rfl, rfl, rfl, hoffers⟩

/-! ### What a call answers -/

/-- An evaluation depends on the outlook and the collection, whose number does not matter. -/
theorem evaluate_eq_make (w : Workshop) (node : Node) (key : CacheKey) (loaded : Collection)
    (generation : Nat) :
    let evaluated := w.compiler.evaluate w.clock w.shell node key (loaded.numbered generation)
    let made := (w.outlook key).make key node loaded
    evaluated.result = made ∧
      ({ w with compiler := evaluated.compiler } : Workshop) =
        match made with
        | .ok catalog => w.keep node key (loaded.numbered generation) catalog
        | .error _ => w := by
  intro evaluated made
  -- An evaluation does not look at the number of the collection.
  have hrun : run (w.compiler.setting node key.environment (loaded.numbered generation)) =
      run (w.compiler.setting node key.environment loaded) :=
    run_eq_of_alike (w.compiler.setting node key.environment loaded) ⟨rfl, rfl, rfl⟩
  have hevaluated : evaluated =
      w.compiler.evaluate w.clock w.shell node key (loaded.numbered generation) := rfl
  have hmade : made = (w.outlook key).make key node loaded := rfl
  have hprevious : w.compiler.previousVersion? key =
      (w.outlook key).kept.map fun k => k.2.version := by
    simp [previousVersion?, outlook, Function.comp_def]
  rw [evaluate, hrun, hprevious, setting] at hevaluated
  rw [Outlook.make] at hmade
  simp only [outlook] at hmade hevaluated
  rcases hcatalog : run ⟨node, key.environment, loaded, w.compiler.registry,
      w.compiler.config.strictVariables⟩ with ⟨error | catalog, events⟩
  · rw [hcatalog] at hevaluated hmade
    rw [hevaluated, hmade]
    exact ⟨rfl, rfl⟩
  · rw [hcatalog] at hevaluated hmade
    rcases hversion : Version.stamp w.compiler.config w.clock w.shell with ⟨error | version, more⟩
    · rw [hversion] at hevaluated hmade
      rw [hevaluated, hmade]
      exact ⟨rfl, rfl⟩
    · rw [hversion] at hevaluated hmade
      rw [hevaluated, hmade]
      exact ⟨rfl, rfl⟩

/-- A catalog that is kept is returned again as the outlook says. -/
theorem WellKept.cached?_eq (h : w.WellKept)
    (hfound : w.compiler.environments.get? (some key.environment) = some e)
    {collection : Collection}
    (hread : (e.collection (w.memory key.environment).provider).result = .ok collection)
    (node : Node) :
    w.compiler.cached? key collection.generation node = (w.outlook key).reused? node := by
  rw [cached?, Outlook.reused?, outlook]
  cases hkept : Cache.get? w.compiler.cache key with
  | none => rfl
  | some entry =>
    have hoffered : w.offered key = (entry.generation == collection.generation) := by
      rw [offered_eq hfound hkept]
      exact Environment.offers_of_ok hread (h.generation_le hkept hfound)
    simp only [Option.map_some, hoffered]
    by_cases hsame : (entry.generation == collection.generation && entry.node.same node) = true
    · simp [Option.filter, hsame]
    · simp [Option.filter, hsame]

/-! ### Single calls -/

section Calls

variable {name : String} {collection : Collection}

theorem call_of_unknown (hname : w.compiler.environmentName node environment = name)
    (hfound : w.compiler.environments.get? (some name) = none) :
    w.call node environment =
      ⟨.error ⟨node.name, .unknownEnvironment name⟩, w.compiler, []⟩ := by
  rw [call, compile, hname]
  simp only [hfound]

theorem call_of_error (hname : w.compiler.environmentName node environment = name)
    (hfound : w.compiler.environments.get? (some name) = some e) {problem : LoadError}
    (hread : (e.collection (w.memory name).provider).result = .error problem) :
    (w.call node environment).result = .error ⟨node.name, .load problem⟩ ∧
      w.step (.compile node environment) = w.read name e := by
  obtain rfl := Environments.name_eq_of_get? hfound
  rw [step, call, compile, hname]
  simp only [hfound, hread]
  exact ⟨trivial, rfl⟩

theorem call_of_cached (hname : w.compiler.environmentName node environment = name)
    (hfound : w.compiler.environments.get? (some name) = some e)
    (hread : (e.collection (w.memory name).provider).result = .ok collection) {catalog : Catalog}
    (hcached : w.compiler.cached? ⟨node.name, name⟩ collection.generation node = some catalog) :
    (w.call node environment).result = .ok catalog ∧
      w.step (.compile node environment) = w.read name e := by
  obtain rfl := Environments.name_eq_of_get? hfound
  have hcached : (w.read e.name e).compiler.cached? ⟨node.name, e.name⟩ collection.generation node =
      some catalog := hcached
  rw [read, reading] at hcached
  rw [step, call, compile, hname]
  simp only [hfound, hread, hcached]
  exact ⟨trivial, rfl⟩

theorem call_of_missed (hname : w.compiler.environmentName node environment = name)
    (hfound : w.compiler.environments.get? (some name) = some e)
    (hread : (e.collection (w.memory name).provider).result = .ok collection)
    (hcached : w.compiler.cached? ⟨node.name, name⟩ collection.generation node = none) :
    let made := (w.read name e).compiler.evaluate w.clock w.shell node ⟨node.name, name⟩ collection
    (w.call node environment).result = made.result ∧
      w.step (.compile node environment) = { w with compiler := made.compiler } := by
  obtain rfl := Environments.name_eq_of_get? hfound
  have hcached : (w.read e.name e).compiler.cached? ⟨node.name, e.name⟩ collection.generation node =
      none := hcached
  rw [read, reading] at hcached
  intro made
  rw [step, call, compile, hname]
  simp only [hfound, hread, hcached]
  exact ⟨rfl, rfl⟩

end Calls

/-- A call answers what the outlook for its key says and changes it as the outlook says.  It does
not show in any other outlook. -/
structure Foreseen (w : Workshop) (key : CacheKey) (node : Node)
    (result : Except CompileError Catalog) (called : Workshop) : Prop where
  result_eq : result = (w.outlook key).answer key node
  outlook_eq : called.outlook key = (w.outlook key).called key node
  outlook_of_ne {other : CacheKey} : other ≠ key → called.outlook other = w.outlook other
  wellKept : called.WellKept

namespace WellKept

variable {name : String} {collection loaded : Collection}

/-- A call of which nothing is left but that the environment was asked. -/
theorem foreseen_read (h : w.WellKept)
    (hfound : w.compiler.environments.get? (some name) = some e)
    (hcalled : (w.outlook key).called key node = w.outlook key) :
    Foreseen w key node ((w.outlook key).answer key node) (w.read name e) where
  result_eq := rfl
  outlook_eq := by rw [hcalled, h.outlook_read hfound]
  outlook_of_ne _ := h.outlook_read hfound _
  wellKept := h.read hfound

/-- A call that has given a new catalog. -/
theorem foreseen_keep (h : w.WellKept)
    (hfound : w.compiler.environments.get? (some key.environment) = some e)
    (hread : (e.collection (w.memory key.environment).provider).result = .ok collection)
    {catalog : Catalog} (hanswer : (w.outlook key).answer key node = .ok catalog)
    (hreused : (w.outlook key).reused? node = none) :
    Foreseen w key node (.ok catalog)
      ((w.read key.environment e).keep node key collection catalog) := by
  have hreads := Environment.reads_of_result hread
  have hfound' : (w.read key.environment e).compiler.environments.get? (some key.environment) =
      some (e.collection (w.memory key.environment).provider).environment :=
    get?_reading_collection hfound _
  have hoffers := (h.mirrors hfound).offers_collection_ok (h.named _) hread collection.generation
  rw [beq_self_eq_true] at hoffers
  constructor
  · exact hanswer.symm
  · rw [Outlook.called_of_ok hreused hanswer, ← h.outlook_read hfound key]
    exact outlook_keep hfound' hoffers
  · intro other hne
    rw [outlook_keep_of_ne hne, h.outlook_read hfound]
  · exact (h.read hfound).keep hfound' hreads.current_eq node catalog

/-- A call that is not answered from what is kept. -/
theorem foreseen_missed (h : w.WellKept)
    (hname : w.compiler.environmentName node environment = name)
    (hfound : w.compiler.environments.get? (some name) = some e)
    (hread : (e.collection (w.memory name).provider).result = .ok collection)
    (hreused : (w.outlook ⟨node.name, name⟩).reused? node = none) :
    Foreseen w ⟨node.name, name⟩ node (w.call node environment).result
      (w.step (.compile node environment)) := by
  obtain ⟨loaded, hload, hcollection⟩ := (h.mirrors hfound).load_eq_ok hread
  have hknown : (w.outlook ⟨node.name, name⟩).known = true := by simp [outlook, hfound]
  have hanswer : (w.outlook ⟨node.name, name⟩).answer ⟨node.name, name⟩ node =
      (w.outlook ⟨node.name, name⟩).make ⟨node.name, name⟩ node loaded :=
    Outlook.answer_of_missed hknown hload hreused
  have hcached : w.compiler.cached? ⟨node.name, name⟩ collection.generation node = none :=
    (h.cached?_eq hfound hread node).trans hreused
  obtain ⟨hcall, hstep⟩ := call_of_missed hname hfound hread hcached
  obtain ⟨hmade, hkept⟩ := (w.read name e).evaluate_eq_make node ⟨node.name, name⟩ loaded
    collection.generation
  rw [← hcollection, h.outlook_read hfound, ← hanswer] at hmade hkept
  rw [hcall.trans hmade, hstep.trans hkept]
  cases hnew : (w.outlook ⟨node.name, name⟩).answer ⟨node.name, name⟩ node with
  | error error =>
    have hforeseen := h.foreseen_read hfound (Outlook.called_of_error hnew)
    rw [hnew] at hforeseen
    exact hforeseen
  | ok catalog => exact h.foreseen_keep hfound hread hnew hreused

theorem foreseen_call (h : w.WellKept)
    (hname : w.compiler.environmentName node environment = name) :
    Foreseen w ⟨node.name, name⟩ node (w.call node environment).result
      (w.step (.compile node environment)) := by
  cases hfound : w.compiler.environments.get? (some name) with
  | none =>
    have hanswer : (w.outlook ⟨node.name, name⟩).answer ⟨node.name, name⟩ node =
        .error ⟨node.name, .unknownEnvironment name⟩ :=
      Outlook.answer_of_unknown (by simp [outlook, hfound])
    have hcall := call_of_unknown hname hfound
    have hstep : w.step (.compile node environment) = w := by simp only [step, hcall]
    rw [hstep, hcall, ← hanswer]
    exact ⟨rfl, (Outlook.called_of_error hanswer).symm, fun _ => rfl, h⟩
  | some e =>
    have hknown : (w.outlook ⟨node.name, name⟩).known = true := by simp [outlook, hfound]
    -- The environment reads what it would read anew: an error of loading, or the same units.
    cases hread : (e.collection (w.memory name).provider).result with
    | error problem =>
      have hanswer : (w.outlook ⟨node.name, name⟩).answer ⟨node.name, name⟩ node =
          .error ⟨node.name, .load problem⟩ :=
        Outlook.answer_of_error hknown ((h.mirrors hfound).load_eq_error hread)
      obtain ⟨hcall, hstep⟩ := call_of_error hname hfound hread
      rw [hcall, hstep, ← hanswer]
      exact h.foreseen_read hfound (Outlook.called_of_error hanswer)
    | ok collection =>
      cases hreused : (w.outlook ⟨node.name, name⟩).reused? node with
      | none => exact h.foreseen_missed hname hfound hread hreused
      | some catalog =>
        obtain ⟨loaded, hload, -⟩ := (h.mirrors hfound).load_eq_ok hread
        have hanswer : (w.outlook ⟨node.name, name⟩).answer ⟨node.name, name⟩ node = .ok catalog :=
          Outlook.answer_of_reused hknown hload hreused
        have hcached : w.compiler.cached? ⟨node.name, name⟩ collection.generation node =
            some catalog := (h.cached?_eq hfound hread node).trans hreused
        obtain ⟨hcall, hstep⟩ := call_of_cached hname hfound hread hcached
        rw [hcall, hstep, ← hanswer]
        exact h.foreseen_read hfound (Outlook.called_of_reused hreused)

end WellKept

end Workshop

end Compiler

end Manifest
