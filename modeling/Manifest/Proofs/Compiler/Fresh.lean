import Manifest.Proofs.Compiler.Session
import Manifest.Proofs.Evaluation.FactOrder

/-!
# Catalogs are fresh

Whatever has happened to a compiler, a catalog that it returns is the one that a new evaluation of
the node gives against the collection that the environment holds now; only the version may be
older.  A call that fails leaves the kept catalogs alone.

## Main definitions

* `Compiler.IsFresh` — a catalog is what a new evaluation gives, apart from its version.
* `Compiler.Keeps` — something is known of all that is kept for the collections held now.
* `Compiler.Sound` — what is kept is fresh as long as its collection is held.

## Main results

* `Compiler.Keeps.compiles` — a call keeps what is known if it holds of new catalogs.
* `Compiler.Session.sound_run` — the compiler is sound after every run.
* `Compiler.Session.fresh_or_unchanged` — what a call returns, and what a failing call leaves.
-/

namespace Manifest.Compiler

/-- A catalog is what a new evaluation of a node gives, apart from its version. -/
def IsFresh (c : Compiler) (node : Node) (name : String) (collection : Collection)
    (catalog : Catalog) : Prop :=
  ∃ made, (Evaluation.run (c.setting node name collection)).1 = .ok made ∧
    catalog = { made with version := catalog.version }

/-- The order of the facts does not matter. -/
theorem IsFresh.of_same {c : Compiler} {a b : Node} {name : String} {collection : Collection}
    {catalog : Catalog} (h : c.IsFresh a name collection catalog) (hsame : a.same b = true) :
    c.IsFresh b name collection catalog := by
  obtain ⟨made, hrun, hcatalog⟩ := h
  have hequal : Evaluation.run (c.setting b name collection) =
      Evaluation.run (c.setting a name collection) :=
    run_eq_of_same (c.setting a name collection) hsame
  exact ⟨made, hequal ▸ hrun, hcatalog⟩

/-- What is kept was made from the collection that its environment holds or from an older one, and
in the first case, unless the collection was marked stale, something is known of it. -/
def Keeps (c : Compiler) (P : Node → String → Collection → Catalog → Prop) : Prop :=
  ∀ key entry e, Cache.get? c.cache key = some entry →
    c.environments.get? (some key.environment) = some e →
    entry.generation ≤ e.generations ∧
      ∀ collection, e.current = some collection → collection.forcedStale = false →
        entry.generation = e.generations →
        P entry.node key.environment collection entry.catalog

/-- What is kept for the collections held now is fresh. -/
def Sound (c : Compiler) : Prop := c.Keeps c.IsFresh

variable {c : Compiler} {e e' : Environment} {name : String}
  {P : Node → String → Collection → Catalog → Prop}

theorem keeps_new (environments : Environments) (registry : Registry) (config : Config) :
    (Compiler.new environments registry config).Keeps P := by
  intro key entry e h
  cases h

theorem sound_new (environments : Environments) (registry : Registry) (config : Config) :
    (Compiler.new environments registry config).Sound := keeps_new environments registry config

theorem get?_reading (c : Compiler) (e : Environment) (name : String) :
    (c.reading e).environments.get? (some name) =
      if name = e.name then some e else c.environments.get? (some name) :=
  Environments.get?_insert c.environments e name

/-- Another environment in the place of one that is there, which holds the same or something
newer or stale. -/
theorem Keeps.reading (h : c.Keeps P) (hfound : c.environments.get? (some name) = some e)
    (hname : e'.name = e.name) (hle : e.generations ≤ e'.generations)
    (hnew : e' = e ∨ e.generations < e'.generations ∨
      ∀ collection, e'.current = some collection → collection.forcedStale = true) :
    (c.reading e').Keeps P := by
  intro key entry d hentry hd
  rw [get?_reading] at hd
  split at hd
  · next hkey =>
    cases hd
    have hkey : key.environment = name := by
      rw [hkey, hname, Environments.name_eq_of_get? hfound]
    obtain ⟨hgeneration, hfresh⟩ := h key entry e hentry (hkey ▸ hfound)
    refine ⟨Nat.le_trans hgeneration hle, fun collection hcurrent hforced hequal => ?_⟩
    rcases hnew with rfl | hlt | hstale
    · exact hfresh collection hcurrent hforced hequal
    · -- Nothing was kept yet for a collection that is newer.
      omega
    · rw [hstale collection hcurrent] at hforced
      cases hforced
  · exact h key entry d hentry hd

theorem get?_reading_collection (hfound : c.environments.get? (some name) = some e)
    (p : Provider) :
    (c.reading (e.collection p).environment).environments.get? (some name) =
      some (e.collection p).environment := by
  have hname : name = (e.collection p).environment.name := by
    rw [(e.reads_collection p).name_eq, Environments.name_eq_of_get? hfound]
  rw [get?_reading, if_pos hname]

theorem Keeps.markStale (h : c.Keeps P) (name : String) : (c.markStale name).Keeps P := by
  rw [Compiler.markStale]
  cases hfound : c.environments.get? (some name) with
  | none => exact h
  | some e =>
    refine h.reading hfound rfl (Nat.le_refl _) (Or.inr (Or.inr fun collection hcurrent => ?_))
    obtain ⟨d, -, rfl⟩ := Option.map_eq_some_iff.mp hcurrent
    rfl

/-- A catalog of which the same is known is kept. -/
theorem Keeps.keeping (h : c.Keeps P) {node : Node} {key : CacheKey} {collection : Collection}
    {catalog : Catalog} (hfound : c.environments.get? (some key.environment) = some e)
    (hcurrent : e.current = some collection)
    (hnew : P node key.environment collection catalog) :
    (c.keeping node key collection catalog).Keeps P := by
  intro other entry d hentry hd
  rw [Compiler.keeping, Cache.get?_insert] at hentry
  split at hentry
  · next hkey =>
    cases hentry
    cases hkey
    -- The entry belongs to the collection that the environment holds.
    have hde : d = e := Option.some.inj (hd.symm.trans hfound)
    subst hde
    refine ⟨Nat.le_of_eq (d.generation_eq collection hcurrent), fun collection' hcurrent' _ _ => ?_⟩
    cases Option.some.inj (hcurrent.symm.trans hcurrent')
    exact hnew
  · exact h other entry d hentry hd

theorem Keeps.reading_collection (h : c.Keeps P)
    (hfound : c.environments.get? (some name) = some e) (p : Provider) :
    (c.reading (e.collection p).environment).Keeps P := by
  have hreads := e.reads_collection p
  exact h.reading hfound hreads.name_eq hreads.generations_le
    (hreads.eq_or_lt.imp_right Or.inl)

/-- A failing call keeps what was kept. -/
theorem Compiles.cache_eq {p : Provider} {clock : Clock} {shell : Shell} {node : Node}
    {c' : Compiler} {error : CompileError}
    (hc : Compiles c p clock shell node name (.error error) c') :
    c'.cache = c.cache := by
  cases hc with
  | unknown missing error => rfl
  | unread found read error => rfl
  | refused found read missed error => rfl

/-- What is kept was not made for a collection that was read just now. -/
theorem Keeps.reused (h : c.Keeps P) (hfound : c.environments.get? (some name) = some e)
    {p : Provider} {collection : Collection} (hread : (e.collection p).result = .ok collection)
    {key : CacheKey} (hkey : key.environment = name) {entry : CacheEntry}
    (hkept : Cache.get? c.cache key = some entry)
    (hgeneration : entry.generation = collection.generation) :
    P entry.node name collection entry.catalog := by
  have hreads := Environment.reads_of_result hread
  subst hkey
  obtain ⟨hle, hknown⟩ := h key entry e hkept hfound
  rcases hreads.held_or_newer with ⟨hcurrent, hstale⟩ | hlt
  · exact hknown collection hcurrent (Collection.forcedStale_of_isStale hstale)
      (hgeneration.trans (e.generation_eq collection hcurrent))
  · -- What is kept is older than a collection that was read just now.
    have hnewer := hreads.generation_eq
    omega

/-- What a call of a sound compiler returns is fresh. -/
theorem Sound.fresh {p : Provider} {clock : Clock} {shell : Shell} {node : Node} {c' : Compiler}
    {catalog : Catalog} (h : c.Sound) (hc : Compiles c p clock shell node name (.ok catalog) c') :
    ∃ e collection, c'.environments.get? (some name) = some e ∧
      e.current = some collection ∧ c.IsFresh node name collection catalog := by
  cases hc with
  | @reused e found collection read entry kept generation same =>
    have hreads := Environment.reads_of_result read
    refine ⟨_, collection, get?_reading_collection found p, hreads.current_eq, ?_⟩
    -- The entry was made for a node that is the same up to the order of its facts.
    exact IsFresh.of_same (h.reused found read rfl kept generation) same
  | @made e found collection read missed catalog evaluated version stamped stamp advanced =>
    have hreads := Environment.reads_of_result read
    exact ⟨_, collection, get?_reading_collection found p, hreads.current_eq, catalog, evaluated,
      rfl⟩

/-- A call keeps what is known of fresh catalogs. -/
theorem Keeps.compiles {p : Provider} {clock : Clock} {shell : Shell} {node : Node} {c' : Compiler}
    {result : Except CompileError Catalog} (h : c.Keeps P)
    (hfresh : ∀ {collection catalog}, c.IsFresh node name collection catalog →
      P node name collection catalog)
    (hc : Compiles c p clock shell node name result c') : c'.Keeps P := by
  cases hc with
  | unknown missing error => exact h
  | unread found read error => exact h.reading_collection found p
  | refused found read missed error => exact h.reading_collection found p
  | reused found read kept generation same => exact h.reading_collection found p
  | @made e found collection read missed catalog evaluated version stamped stamp advanced =>
    have hreads := Environment.reads_of_result read
    exact (h.reading_collection found p).keeping (get?_reading_collection found p)
      hreads.current_eq (hfresh ⟨catalog, evaluated, rfl⟩)

namespace Session

/-- An action keeps what is known of fresh catalogs. -/
theorem keeps_act {P : Node → String → Collection → Catalog → Prop} {s : Session}
    (h : s.compiler.Keeps P)
    (hfresh : ∀ {node name collection catalog},
      s.compiler.IsFresh node name collection catalog → P node name collection catalog)
    (action : Action) : (s.act action).compiler.Keeps P := by
  cases action with
  | compile node environment => exact h.compiles hfresh (s.compiles_call node environment)
  | changeSources sources => exact h
  | setClock clock => exact h
  | changeShell shell => exact h
  | markStale environment => exact h.markStale environment
  | clearCache => exact fun _ _ _ hentry _ => by cases hentry

theorem isFresh_act (s : Session) (action : Action) :
    (s.act action).compiler.IsFresh = s.compiler.IsFresh := by
  obtain ⟨hregistry, hconfig⟩ := s.unchanged_act action
  funext node name collection catalog
  rw [IsFresh, IsFresh, setting, setting, hregistry, hconfig]

/-- The compiler is sound after every run. -/
theorem sound_run {s : Session} (h : s.compiler.Sound) (actions : List Action) :
    (s.run actions).compiler.Sound := by
  refine invariant (P := fun s => s.compiler.Sound) h (fun s action hs => ?_) actions
  rw [Sound, isFresh_act]
  exact keeps_act hs id action

/-- After any run, a catalog that a call returns is, apart from its version, what a new evaluation
of the node gives against the collection that the environment holds after the call; and a call
that fails leaves all catalogs that are kept as they were.  In the run the shell may change, so the
version command may fail in this call after it has succeeded in others. -/
theorem fresh_or_unchanged (environments : Environments) (registry : Registry) (config : Config)
    (sources : String → Provider) (clock : Clock) (shell : Shell) (actions : List Action)
    (node : Node) (environment : Option String) :
    let s := (start environments registry config sources clock shell).run actions
    let name := s.compiler.environmentName node environment
    let after := s.act (.compile node environment)
    match (s.call node environment).result with
    | .ok catalog => ∃ collection made, after.held? name = some collection ∧
        (Evaluation.run ⟨node, name, collection, registry, config.strictVariables⟩).1 =
          .ok made ∧
        catalog = { made with version := catalog.version }
    | .error _ => after.compiler.cache = s.compiler.cache := by
  intro s name after
  obtain ⟨hregistry, hconfig⟩ : s.compiler.registry = registry ∧ s.compiler.config = config :=
    (start environments registry config sources clock shell).unchanged_run actions
  have hsound : s.compiler.Sound := sound_run (sound_new environments registry config) actions
  have hcall := s.compiles_call node environment
  cases hc : (s.call node environment).result with
  | error error =>
    rw [hc] at hcall
    exact hcall.cache_eq
  | ok catalog =>
    rw [hc] at hcall
    obtain ⟨e, collection, hfound, hcurrent, made, hrun, hcatalog⟩ := hsound.fresh hcall
    refine ⟨collection, made, ?_, ?_, hcatalog⟩
    · exact Option.bind_eq_some_iff.mpr ⟨e, hfound, hcurrent⟩
    · rw [setting, hregistry, hconfig] at hrun
      exact hrun

end Session

end Manifest.Compiler
