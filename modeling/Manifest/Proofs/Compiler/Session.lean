import Manifest.Compiler
import Manifest.Proofs.Environment

/-!
# Runs of a compiler

A compiler is used over and over, while sources, clock and shell change around it.  A run is any
order of calls and changes; the registry and the configuration stay.

## Main definitions

* `Compiler.Compiles` — the ways in which a call of the compiler can end.
* `Compiler.Session`, `Compiler.Action` — a compiler with its surroundings, and what happens to it.
* `Compiler.Session.run` — a run.
* `Compiler.Session.answers` — the catalogs that it returned.

## Main results

* `Compiler.compiles_compile` — there are no other ways.
* `Compiler.Session.invariant` — what all actions keep holds after a run.
-/

namespace Manifest

namespace Cache

theorem get?_insert (cache : Cache) (key other : CacheKey) (entry : CacheEntry) :
    get? (insert cache key entry) other = if other = key then some entry else get? cache other := by
  rw [get?, insert]
  by_cases h : other = key
  · rw [if_pos h, List.find?_cons_of_pos (by simp [h])]
    rfl
  · rw [if_neg h, List.find?_cons_of_neg (by simpa using Ne.symm h), List.find?_filter, get?]
    congr 2
    funext e
    by_cases he : e.1 = other
    · simp [he, h]
    · simp [he]

end Cache

namespace Compiler

/-- The compiler after an environment was asked for its collection. -/
def reading (c : Compiler) (e : Environment) : Compiler :=
  { c with environments := c.environments.insert e }

/-- The compiler that keeps a catalog for a node. -/
def keeping (c : Compiler) (node : Node) (key : CacheKey) (collection : Collection)
    (catalog : Catalog) : Compiler :=
  { c with cache := Cache.insert c.cache key ⟨collection.generation, node, catalog⟩ }

/-- The ways in which the compiler can answer for a node in an environment. -/
inductive Compiles (c : Compiler) (p : Provider) (clock : Clock) (shell : Shell) (node : Node)
    (name : String) : Except CompileError Catalog → Compiler → Prop
  /-- There is no such environment. -/
  | unknown (missing : c.environments.get? (some name) = none) (error : CompileError) :
    Compiles c p clock shell node name (.error error) c
  /-- Its sources cannot be read. -/
  | unread {e : Environment} (found : c.environments.get? (some name) = some e)
    {problem : LoadError} (read : (e.collection p).result = .error problem)
    (error : CompileError) :
    Compiles c p clock shell node name (.error error) (c.reading (e.collection p).environment)
  /-- The catalog that is kept is returned. -/
  | reused {e : Environment} (found : c.environments.get? (some name) = some e)
    {collection : Collection} (read : (e.collection p).result = .ok collection)
    {entry : CacheEntry} (kept : Cache.get? c.cache ⟨node.name, name⟩ = some entry)
    (generation : entry.generation = collection.generation)
    (same : entry.node.same node = true) :
    Compiles c p clock shell node name (.ok entry.catalog) (c.reading (e.collection p).environment)
  /-- The node cannot be evaluated or the catalog cannot be stamped. -/
  | refused {e : Environment} (found : c.environments.get? (some name) = some e)
    {collection : Collection} (read : (e.collection p).result = .ok collection)
    (missed : c.cached? ⟨node.name, name⟩ collection.generation node = none)
    (error : CompileError) :
    Compiles c p clock shell node name (.error error) (c.reading (e.collection p).environment)
  /-- A new catalog is returned and kept. -/
  | made {e : Environment} (found : c.environments.get? (some name) = some e)
    {collection : Collection} (read : (e.collection p).result = .ok collection)
    (missed : c.cached? ⟨node.name, name⟩ collection.generation node = none)
    {catalog : Catalog}
    (evaluated : (Evaluation.run (c.setting node name collection)).1 = .ok catalog)
    {version : Version} (stamped : (Version.stamp c.config clock shell).1 = .ok version)
    {stamp : Version} (advanced : stamp = version.advance (c.previousVersion? ⟨node.name, name⟩)) :
    Compiles c p clock shell node name (.ok { catalog with version := stamp })
      ((c.reading (e.collection p).environment).keeping node ⟨node.name, name⟩ collection
        { catalog with version := stamp })

theorem cached?_eq_some {c : Compiler} {key : CacheKey} {generation : Nat} {node : Node}
    {catalog : Catalog} (h : c.cached? key generation node = some catalog) :
    ∃ entry, Cache.get? c.cache key = some entry ∧ entry.generation = generation ∧
      entry.node.same node = true ∧ entry.catalog = catalog := by
  obtain ⟨entry, hentry, rfl⟩ := Option.map_eq_some_iff.mp h
  obtain ⟨hkept, hmatch⟩ := Option.filter_eq_some_iff.mp hentry
  rw [Bool.and_eq_true, beq_iff_eq] at hmatch
  exact ⟨entry, hkept, hmatch.1, hmatch.2, rfl⟩

theorem evaluate_cases (c : Compiler) (clock : Clock) (shell : Shell) (node : Node)
    (key : CacheKey) (collection : Collection) :
    (∃ error, (c.evaluate clock shell node key collection).result = .error error ∧
      (c.evaluate clock shell node key collection).compiler = c) ∨
    ∃ (catalog : Catalog) (version : Version),
      (Evaluation.run (c.setting node key.environment collection)).1 = .ok catalog ∧
      (Version.stamp c.config clock shell).1 = .ok version ∧
      (c.evaluate clock shell node key collection).result =
        .ok { catalog with version := version.advance (c.previousVersion? key) } ∧
      (c.evaluate clock shell node key collection).compiler = c.keeping node key collection
        { catalog with version := version.advance (c.previousVersion? key) } := by
  rw [evaluate]
  rcases hrun : Evaluation.run (c.setting node key.environment collection) with
    ⟨error | catalog, events⟩
  · exact Or.inl ⟨_, rfl, rfl⟩
  · rcases hstamp : Version.stamp c.config clock shell with ⟨error | version, more⟩
    · exact Or.inl ⟨_, rfl, rfl⟩
    · exact Or.inr ⟨catalog, version, rfl, rfl, rfl, rfl⟩

theorem compiles_compile (c : Compiler) (sources : String → Provider) (clock : Clock)
    (shell : Shell) (node : Node) (environment : Option String) :
    Compiles c (sources (c.environmentName node environment)) clock shell node
      (c.environmentName node environment) (c.compile sources clock node environment shell).result
      (c.compile sources clock node environment shell).compiler := by
  generalize hname : c.environmentName node environment = name
  rw [compile, hname]
  cases hfound : c.environments.get? (some name) with
  | none => exact .unknown hfound _
  | some e =>
    obtain rfl : e.name = name := Environments.name_eq_of_get? hfound
    cases hread : (e.collection (sources e.name)).result with
    | error problem =>
      simp only [hread]
      exact .unread hfound hread _
    | ok collection =>
      simp only [hread]
      cases hcached : c.cached? ⟨node.name, e.name⟩ collection.generation node with
      | some catalog =>
        -- Asking for the collection changes nothing of what is kept.
        have hkept : Compiler.cached? (c.reading (e.collection (sources e.name)).environment)
            ⟨node.name, e.name⟩ collection.generation node = some catalog := hcached
        obtain ⟨entry, hentry, hgeneration, hsame, rfl⟩ := cached?_eq_some hcached
        rw [reading] at hkept
        simp only [hkept]
        exact .reused hfound hread hentry hgeneration hsame
      | none =>
        have hkept : Compiler.cached? (c.reading (e.collection (sources e.name)).environment)
            ⟨node.name, e.name⟩ collection.generation node = none := hcached
        rw [reading] at hkept
        simp only [hkept]
        rcases evaluate_cases (c.reading (e.collection (sources e.name)).environment) clock shell
            node ⟨node.name, e.name⟩ collection with
          ⟨error, hresult, hcompiler⟩ | ⟨catalog, version, hrun, hstamp, hresult, hcompiler⟩
        · rw [reading] at hresult hcompiler
          rw [hresult, hcompiler]
          exact .refused hfound hread hcached error
        · rw [reading] at hresult hcompiler
          rw [hresult, hcompiler]
          exact .made hfound hread hcached hrun hstamp rfl

/-! ### Runs -/

/-- A compiler with what surrounds it. -/
structure Session where
  compiler : Compiler
  /-- What the sources of each environment answer. -/
  sources : String → Provider
  clock : Clock
  /-- What runs the version command. -/
  shell : Shell

/-- What happens to a compiler. -/
inductive Action
  /-- A node is compiled, perhaps in an environment that the caller names. -/
  | compile (node : Node) (environment : Option String)
  /-- Units are written or removed, or cannot be read any more. -/
  | changeSources (sources : String → Provider)
  /-- The clock is set, forwards or backwards. -/
  | setClock (clock : Clock)
  /-- From now on the version command prints something else, or fails. -/
  | changeShell (shell : Shell)
  /-- The collection of an environment is marked stale. -/
  | markStale (environment : String)
  /-- All catalogs that are kept are forgotten. -/
  | clearCache

/-- A catalog that was returned. -/
structure Answer where
  key : CacheKey
  node : Node
  /-- The collection that the environment held after the call. -/
  collection : Option Collection
  catalog : Catalog

/-- Marks the collection of an environment stale. -/
def markStale (c : Compiler) (name : String) : Compiler :=
  match c.environments.get? (some name) with
  | some e => c.reading e.markStale
  | none => c

namespace Session

/-- A compiler that keeps nothing yet. -/
def start (environments : Environments) (registry : Registry) (config : Config)
    (sources : String → Provider) (clock : Clock) (shell : Shell) : Session :=
  ⟨Compiler.new environments registry config, sources, clock, shell⟩

/-- A call of the compiler. -/
def call (s : Session) (node : Node) (environment : Option String) : Outcome :=
  s.compiler.compile s.sources s.clock node environment s.shell

/-- The session after an action. -/
def act (s : Session) : Action → Session
  | .compile node environment => { s with compiler := (s.call node environment).compiler }
  | .changeSources sources => { s with sources := sources }
  | .setClock clock => { s with clock := clock }
  | .changeShell shell => { s with shell := shell }
  | .markStale environment => { s with compiler := s.compiler.markStale environment }
  | .clearCache => { s with compiler := s.compiler.clearCache }

/-- The session after some actions. -/
def run (s : Session) (actions : List Action) : Session := actions.foldl act s

/-- The collection that an environment holds. -/
def held? (s : Session) (environment : String) : Option Collection :=
  (s.compiler.environments.get? (some environment)).bind Environment.current

/-- The catalog that an action returns. -/
def answer? (s : Session) : Action → Option Answer
  | .compile node environment =>
    match (s.call node environment).result with
    | .ok catalog =>
      let name := s.compiler.environmentName node environment
      some ⟨⟨node.name, name⟩, node, (s.act (.compile node environment)).held? name, catalog⟩
    | .error _ => none
  | _ => none

/-- The catalogs that the actions return, oldest first. -/
def answers (s : Session) : List Action → List Answer
  | [] => []
  | action :: rest => (s.answer? action).toList ++ (s.act action).answers rest

variable {s : Session}

theorem compiles_call (s : Session) (node : Node) (environment : Option String) :
    Compiles s.compiler (s.sources (s.compiler.environmentName node environment)) s.clock s.shell
      node (s.compiler.environmentName node environment) (s.call node environment).result
      (s.call node environment).compiler :=
  compiles_compile s.compiler s.sources s.clock s.shell node environment

/-- No action changes the registry or the configuration. -/
theorem unchanged_act (s : Session) (action : Action) :
    (s.act action).compiler.registry = s.compiler.registry ∧
      (s.act action).compiler.config = s.compiler.config := by
  cases action with
  | compile node environment =>
    have hc := s.compiles_call node environment
    rw [act]
    generalize (s.call node environment).result = result,
      (s.call node environment).compiler = c' at hc
    cases hc <;> exact ⟨rfl, rfl⟩
  | changeSources sources => exact ⟨rfl, rfl⟩
  | setClock clock => exact ⟨rfl, rfl⟩
  | changeShell shell => exact ⟨rfl, rfl⟩
  | markStale environment =>
    rw [act, Compiler.markStale]
    cases s.compiler.environments.get? (some environment) <;> exact ⟨rfl, rfl⟩
  | clearCache => exact ⟨rfl, rfl⟩

theorem run_concat (s : Session) (actions : List Action) (action : Action) :
    s.run (actions ++ [action]) = (s.run actions).act action := by
  rw [run, run, List.foldl_append, List.foldl_cons, List.foldl_nil]

/-- The collection of an answer is the one that its environment holds after the call. -/
theorem collection_of_answer? {node : Node} {environment : Option String} {a : Answer}
    (h : s.answer? (.compile node environment) = some a) :
    a.collection = (s.act (.compile node environment)).held? a.key.environment := by
  rw [answer?] at h
  cases hresult : (s.call node environment).result with
  | ok catalog =>
    rw [hresult] at h
    cases h
    rfl
  | error error =>
    rw [hresult] at h
    cases h

/-- What holds of a session and is kept by every action holds after a run. -/
theorem invariant {P : Session → Prop} (hs : P s) (hact : ∀ s action, P s → P (s.act action)) :
    ∀ actions : List Action, P (s.run actions) := by
  intro actions
  induction actions generalizing s with
  | nil => exact hs
  | cons action rest ih => exact ih (hact s action hs)

theorem unchanged_run (s : Session) (actions : List Action) :
    (s.run actions).compiler.registry = s.compiler.registry ∧
      (s.run actions).compiler.config = s.compiler.config := by
  refine invariant (P := fun t => t.compiler.registry = s.compiler.registry ∧
    t.compiler.config = s.compiler.config) ⟨rfl, rfl⟩ ?_ actions
  rintro t action ⟨hregistry, hconfig⟩
  obtain ⟨hregistry', hconfig'⟩ := t.unchanged_act action
  exact ⟨hregistry'.trans hregistry, hconfig'.trans hconfig⟩

end Session

end Compiler

end Manifest
