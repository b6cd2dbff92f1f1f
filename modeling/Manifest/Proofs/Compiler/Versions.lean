import Manifest.Proofs.Compiler.Fresh
import Manifest.Proofs.Evaluation.Containment

/-!
# Versions go up

Without a version command the catalogs that are returned for a node in an environment are stamped
with the time.  Whatever the clock does in between, the next one is the same catalog again or has a
later version; and while nothing has changed it is the same.

## Main definitions

* `Catalog.FollowedBy` — one catalog is the other one or has a later version.
* `Compiler.Session.Remembers` — what is kept is the last catalog that was returned.

## Main results

* `Version.advance_newer` — a version that follows another one is later.
* `Compiler.Session.goesOn_act` — what one action returns and keeps.
* `Compiler.Session.versions_increase` — what any run does.
-/

namespace Manifest

namespace Version

/-- The last version that a clock can stamp. -/
def final : Version := timestamp (.ofNat (UInt64.size - 1))

/-- One timestamp is later than another one. -/
def Later (a b : Version) : Prop := ∃ m n, a = timestamp m ∧ b = timestamp n ∧ m < n

theorem lt_add_one_of_ne_final {last : UInt64} (h : timestamp last ≠ final) : last < last + 1 := by
  have hne : last.toNat ≠ UInt64.size - 1 := by
    intro he
    apply h
    rw [final, ← he, UInt64.ofNat_toNat]
  have hlt : last.toNat < UInt64.size := last.toNat_lt
  have hsize : UInt64.size = 18446744073709551616 := rfl
  have hone : (1 : UInt64).toNat = 1 := rfl
  rw [UInt64.lt_iff_toNat_lt, UInt64.toNat_add, hone]
  omega

/-- A version that follows another one is later, whatever the clock showed. -/
theorem advance_newer (now : UInt64) {last : UInt64} (h : timestamp last ≠ final) :
    (timestamp last).Later ((timestamp now).advance (some (timestamp last))) := by
  rw [advance]
  split
  · exact ⟨last, last + 1, rfl, rfl, lt_add_one_of_ne_final h⟩
  · next hle => exact ⟨last, now, rfl, rfl, UInt64.not_le.mp hle⟩

/-- A timestamp is followed by a timestamp. -/
theorem exists_advance (now : UInt64) (previous : Option Version)
    (h : ∀ v ∈ previous, ∃ last, v = timestamp last) :
    ∃ seconds, (timestamp now).advance previous = timestamp seconds := by
  cases previous with
  | none => exact ⟨now, rfl⟩
  | some v =>
    obtain ⟨last, rfl⟩ := h v rfl
    rw [advance]
    split
    · exact ⟨last + 1, rfl⟩
    · exact ⟨now, rfl⟩

end Version

/-- One catalog is the other one again, or the other one has a later version. -/
def Catalog.FollowedBy (a b : Catalog) : Prop := b = a ∨ a.version.Later b.version

namespace Compiler

theorem stamp_eq {config : Config} (h : config.effectiveCommand? = none) (clock : Clock)
    (shell : Shell) : (Version.stamp config clock shell).1 = .ok (.timestamp clock.seconds) := by
  rw [Version.stamp, h]

/-! ### Single calls -/

namespace Compiles

variable {c c' : Compiler} {p : Provider} {clock : Clock} {shell : Shell} {node : Node}
  {name : String} {catalog : Catalog}

/-- A call leaves alone what is kept for others. -/
theorem get?_cache_of_ne {result : Except CompileError Catalog}
    (hc : Compiles c p clock shell node name result c') {key : CacheKey}
    (h : key ≠ ⟨node.name, name⟩) :
    Cache.get? c'.cache key = Cache.get? c.cache key := by
  cases hc with
  | unknown missing error => rfl
  | unread found read error => rfl
  | refused found read missed error => rfl
  | reused found read kept generation same => rfl
  | made found read missed evaluated stamped advanced =>
    rw [keeping, Cache.get?_insert, if_neg h]
    rfl

/-- After a call the catalog that it returned is kept, for the collection held now. -/
theorem kept (hc : Compiles c p clock shell node name (.ok catalog) c') :
    ∃ e collection entry, c'.environments.get? (some name) = some e ∧
      e.current = some collection ∧ Cache.get? c'.cache ⟨node.name, name⟩ = some entry ∧
      entry.catalog = catalog ∧ entry.node.same node = true ∧
      entry.generation = collection.generation := by
  cases hc with
  | @reused e found collection read entry kept generation same =>
    have hreads := Environment.reads_of_result read
    exact ⟨_, collection, entry, get?_reading_collection found p, hreads.current_eq, kept, rfl,
      same, generation⟩
  | @made e found collection read missed made evaluated version stamped stamp advanced =>
    have hreads := Environment.reads_of_result read
    refine ⟨_, collection, ⟨collection.generation, node, { made with version := stamp }⟩,
      get?_reading_collection found p, hreads.current_eq, ?_, rfl, node.same_refl, rfl⟩
    rw [keeping, Cache.get?_insert, if_pos rfl]

/-- The catalog that a call returns was kept before, or it is stamped after the one that was. -/
theorem kept_or_advanced (hcommand : c.config.effectiveCommand? = none)
    (hc : Compiles c p clock shell node name (.ok catalog) c') :
    (∃ entry, Cache.get? c.cache ⟨node.name, name⟩ = some entry ∧ catalog = entry.catalog) ∨
      catalog.version =
        (Version.timestamp clock.seconds).advance (c.previousVersion? ⟨node.name, name⟩) := by
  cases hc with
  | reused found read kept generation same => exact Or.inl ⟨_, kept, rfl⟩
  | made found read missed evaluated stamped advanced =>
    rw [stamp_eq hcommand] at stamped
    cases stamped
    exact Or.inr advanced

end Compiles

/-! ### Runs -/

namespace Session

variable {s : Session} {key : CacheKey}

/-- What is kept for a key is the last catalog that was returned for it, and was made for the same
node from the same collection. -/
def Remembers (key : CacheKey) (s : Session) : Option Answer → Prop
  | none => Cache.get? s.compiler.cache key = none
  | some a => ∃ entry collection seconds, Cache.get? s.compiler.cache key = some entry ∧
      entry.catalog = a.catalog ∧ entry.node.same a.node = true ∧
      a.collection = some collection ∧ entry.generation = collection.generation ∧
      a.node.name = key.node ∧ a.catalog.version = .timestamp seconds

/-- The catalogs that were returned for a key. -/
def answersFor (key : CacheKey) (s : Session) (actions : List Action) : List Answer :=
  (s.answers actions).filter (·.key = key)

/-- How the answer to an action goes on from the last one for a key. -/
def GoesOn (key : CacheKey) (s : Session) (action : Action) (last : Option Answer) : Prop :=
  match (s.answer? action).filter (·.key = key) with
  | none => Remembers key (s.act action) last
  | some b => Remembers key (s.act action) (some b) ∧
      ∀ a ∈ last, a.catalog.version ≠ .final → a.catalog.FollowedBy b.catalog

theorem Remembers.of_cache_eq {t : Session} {last : Option Answer} (h : Remembers key s last)
    (hcache : Cache.get? t.compiler.cache key = Cache.get? s.compiler.cache key) :
    Remembers key t last := by
  cases last with
  | none => exact hcache.trans h
  | some a =>
    obtain ⟨entry, collection, seconds, hentry, hrest⟩ := h
    exact ⟨entry, collection, seconds, hcache.trans hentry, hrest⟩

theorem answer?_of_error {node : Node} {environment : Option String} {error : CompileError}
    (h : (s.call node environment).result = .error error) :
    s.answer? (.compile node environment) = none := by
  rw [answer?, h]

theorem answer?_of_ok {node : Node} {environment : Option String} {catalog : Catalog}
    (h : (s.call node environment).result = .ok catalog) :
    s.answer? (.compile node environment) =
      some ⟨⟨node.name, s.compiler.environmentName node environment⟩, node,
        (s.act (.compile node environment)).held?
          (s.compiler.environmentName node environment), catalog⟩ := by
  rw [answer?, h]

theorem Remembers.previousVersion? {last : Option Answer} (h : Remembers key s last) :
    s.compiler.previousVersion? key = last.map fun a => a.catalog.version := by
  cases last with
  | none => rw [Compiler.previousVersion?, h]; rfl
  | some a =>
    obtain ⟨entry, collection, seconds, hentry, hcatalog, -⟩ := h
    rw [Compiler.previousVersion?, hentry, Option.map_some, hcatalog]
    rfl

/-- What a call returns is stamped with a time and follows the last catalog. -/
theorem Remembers.followedBy {c' : Compiler} {p : Provider} {node : Node} {name : String}
    {catalog : Catalog} (hcommand : s.compiler.config.effectiveCommand? = none)
    (hcall : Compiles s.compiler p s.clock s.shell node name (.ok catalog) c')
    {last : Option Answer} (h : Remembers ⟨node.name, name⟩ s last) :
    (∃ seconds, catalog.version = .timestamp seconds) ∧
      ∀ a ∈ last, a.catalog.version ≠ .final → a.catalog.FollowedBy catalog := by
  rcases hcall.kept_or_advanced hcommand with ⟨entry, hentry, rfl⟩ | hversion
  · cases last with
    | none =>
      rw [Remembers, hentry] at h
      cases h
    | some a =>
      -- What was kept is what was returned last.
      obtain ⟨entry', collection, seconds, hentry', hcatalog, -, -, -, -, hversion⟩ := h
      cases Option.some.inj (hentry.symm.trans hentry')
      rw [hcatalog]
      exact ⟨⟨seconds, hversion⟩, fun b hb _ => by cases hb; exact Or.inl rfl⟩
  · rw [h.previousVersion?] at hversion
    cases last with
    | none => exact ⟨⟨_, hversion⟩, fun _ hb => by cases hb⟩
    | some a =>
      obtain ⟨entry, collection, seconds, -, -, -, -, -, -, hlast⟩ := h
      rw [Option.map_some, hlast] at hversion
      obtain ⟨next, hnext⟩ := Version.exists_advance s.clock.seconds
        (some (.timestamp seconds)) (fun v hv => ⟨seconds, by cases hv; rfl⟩)
      refine ⟨⟨next, hversion.trans hnext⟩, fun b hb hfinal => Or.inr ?_⟩
      cases hb
      rw [hlast] at hfinal ⊢
      rw [hversion]
      exact Version.advance_newer s.clock.seconds hfinal

/-- A call that returns a catalog. -/
theorem goesOn_call (hcommand : s.compiler.config.effectiveCommand? = none) {node : Node}
    {environment : Option String} {catalog : Catalog}
    (hok : (s.call node environment).result = .ok catalog) {last : Option Answer}
    (h : Remembers ⟨node.name, s.compiler.environmentName node environment⟩ s last) :
    GoesOn ⟨node.name, s.compiler.environmentName node environment⟩ s
      (.compile node environment) last := by
  have hcall := s.compiles_call node environment
  rw [hok] at hcall
  obtain ⟨e, collection, entry, hfound, hcurrent, hentry, hcatalog, hsame, hgeneration⟩ :=
    hcall.kept
  have hheld : (s.act (.compile node environment)).held?
      (s.compiler.environmentName node environment) = some collection :=
    Option.bind_eq_some_iff.mpr ⟨e, hfound, hcurrent⟩
  obtain ⟨⟨seconds, hversion⟩, hfollowed⟩ := h.followedBy hcommand hcall
  rw [GoesOn, answer?_of_ok hok, Option.filter_some, if_pos (by simp)]
  exact ⟨⟨entry, collection, seconds, hentry, hcatalog, hsame, hheld, hgeneration, rfl, hversion⟩,
    hfollowed⟩

/-- Whatever happens, what is kept for a key is the last catalog that was returned for it. -/
theorem goesOn_act (hcommand : s.compiler.config.effectiveCommand? = none) {action : Action}
    (hkeep : action ≠ .clearCache) {last : Option Answer} (h : Remembers key s last) :
    GoesOn key s action last := by
  cases action with
  | changeSources sources => exact h
  | setClock clock => exact h
  | changeShell shell => exact h
  | markStale environment =>
    refine h.of_cache_eq ?_
    rw [act, Compiler.markStale]
    cases s.compiler.environments.get? (some environment) <;> rfl
  | clearCache => exact absurd rfl hkeep
  | compile node environment =>
    have hcall := s.compiles_call node environment
    cases hresult : (s.call node environment).result with
    | error error =>
      rw [hresult] at hcall
      rw [GoesOn, answer?_of_error hresult]
      exact h.of_cache_eq (congrArg (Cache.get? · key) hcall.cache_eq)
    | ok catalog =>
      by_cases hkey : key = ⟨node.name, s.compiler.environmentName node environment⟩
      · subst hkey
        exact goesOn_call hcommand hresult h
      · rw [GoesOn, answer?_of_ok hresult, Option.filter_some, if_neg (by simpa using Ne.symm hkey)]
        exact h.of_cache_eq (hcall.get?_cache_of_ne hkey)

theorem answersFor_cons (key : CacheKey) (s : Session) (action : Action) (rest : List Action) :
    s.answersFor key (action :: rest) =
      ((s.answer? action).filter (·.key = key)).toList ++ (s.act action).answersFor key rest := by
  rw [answersFor, answers, List.filter_append, answersFor]
  cases s.answer? action with
  | none => rfl
  | some a =>
    rw [Option.filter_some, Option.toList_some, List.filter_cons]
    split <;> rfl

/-- The answer to the last action is the last answer for its key. -/
theorem getLast?_answersFor {action : Action} {a : Answer} :
    ∀ {actions : List Action} {s : Session}, (s.run actions).answer? action = some a →
      (s.answersFor a.key (actions ++ [action])).getLast? = some a
  | [], s, h => by
    have hanswer : s.answer? action = some a := h
    rw [List.nil_append, answersFor_cons, hanswer, Option.filter_some, if_pos (by simp)]
    rfl
  | first :: rest, s, h => by
    have ih : ((s.act first).answersFor a.key (rest ++ [action])).getLast? = some a :=
      getLast?_answersFor h
    rw [List.cons_append, answersFor_cons, List.getLast?_append, ih]
    rfl

/-- Along a run every catalog for a key is followed by the next one, and the last one is kept. -/
theorem goesOn_run : ∀ {actions : List Action} {s : Session} {last : Option Answer},
    s.compiler.config.effectiveCommand? = none → .clearCache ∉ actions → Remembers key s last →
      (last.toList ++ s.answersFor key actions).IsChain (fun a b =>
        a.catalog.version ≠ .final → a.catalog.FollowedBy b.catalog) ∧
      Remembers key (s.run actions) (last.toList ++ s.answersFor key actions).getLast?
  | [], s, last, _, _, h => by
    cases last with
    | none => exact ⟨.nil, h⟩
    | some a => exact ⟨.singleton a, h⟩
  | action :: rest, s, last, hcommand, hkeep, h => by
    -- The last catalog is carried along, so that the next one is compared with it.
    rw [List.mem_cons, not_or] at hkeep
    have hcommand' : (s.act action).compiler.config.effectiveCommand? = none :=
      (s.unchanged_act action).2 ▸ hcommand
    have hgoes := goesOn_act hcommand (Ne.symm hkeep.1) h
    rw [GoesOn] at hgoes
    rw [answersFor_cons]
    cases hanswer : (s.answer? action).filter (·.key = key) with
    | none =>
      rw [hanswer] at hgoes
      exact goesOn_run hcommand' hkeep.2 hgoes
    | some b =>
      rw [hanswer] at hgoes
      obtain ⟨hb, hfollowed⟩ := hgoes
      obtain ⟨hchain, hlast⟩ := goesOn_run hcommand' hkeep.2 hb
      cases last with
      | none => exact ⟨hchain, hlast⟩
      | some a =>
        refine ⟨List.isChain_cons_cons.mpr ⟨hfollowed a rfl, hchain⟩, ?_⟩
        rw [Option.toList_some, Option.toList_some, List.singleton_append, List.singleton_append,
          List.getLast?_cons_cons]
        exact hlast

/-- As long as an environment holds the collection of the last answer and it is not stale, the
same node gets the same catalog. -/
theorem Remembers.result_eq {a : Answer} (h : Remembers key s (some a)) {node : Node}
    {environment : Option String}
    (hname : s.compiler.environmentName node environment = key.environment)
    (hheld : s.held? key.environment = a.collection)
    (hfresh : ∀ collection ∈ a.collection,
      collection.isStale (s.sources key.environment) = .ok false)
    (hsame : a.node.same node = true) :
    (s.call node environment).result = .ok a.catalog := by
  obtain ⟨entry, collection, seconds, hentry, hcatalog, hnode, hcollection, hgeneration, hkey, -⟩ :=
    h
  have hkey : key = ⟨node.name, key.environment⟩ := by
    have := (Node.same_iff.mp hsame).1
    rw [← this, hkey]
  obtain ⟨e, hfound, hcurrent⟩ := Option.bind_eq_some_iff.mp (hheld.trans hcollection)
  have hread : (e.collection (s.sources key.environment)).result = .ok collection := by
    rw [Environment.collection, hcurrent]
    simp only [hfresh collection hcollection]
  have hcached : s.compiler.cached? ⟨node.name, key.environment⟩ collection.generation node =
      some entry.catalog := by
    rw [cached?, ← hkey, hentry, Option.filter_some, if_pos]
    · rfl
    · simp [hgeneration, Node.same_trans hnode hsame]
  have hcall := s.compiles_call node environment
  rw [hname] at hcall
  generalize (s.call node environment).result = result,
    (s.call node environment).compiler = c' at hcall
  -- No other way to end is possible, since the environment is there, its collection can be read
  -- and what is kept fits the node.
  cases hcall with
  | unknown missing error => rw [hfound] at missing; cases missing
  | unread found read error =>
    cases Option.some.inj (hfound.symm.trans found)
    rw [hread] at read
    cases read
  | refused found read missed error =>
    cases Option.some.inj (hfound.symm.trans found)
    cases hread.symm.trans read
    rw [hcached] at missed
    cases missed
  | reused found read kept generation same =>
    rw [← hkey, hentry] at kept
    cases kept
    rw [hcatalog]
  | made found read missed evaluated stamped advanced =>
    cases Option.some.inj (hfound.symm.trans found)
    cases hread.symm.trans read
    rw [hcached] at missed
    cases missed

/-- In a run without a version command in which the kept catalogs are not forgotten, each catalog
that is returned for a node in an environment is followed by the same catalog or by one with a
later version, unless the clock has come to its end; and the last one is returned again, whatever
the clock shows, as long as the environment holds its collection, the collection is not stale, and
the node is the same. -/
theorem versions_increase {config : Config} (hcommand : config.effectiveCommand? = none)
    (environments : Environments) (registry : Registry) (sources : String → Provider)
    (clock : Clock) (shell : Shell) {actions : List Action} (hkeep : .clearCache ∉ actions)
    (key : CacheKey) :
    let begun := start environments registry config sources clock shell
    ((begun.answersFor key actions).IsChain fun a b =>
        a.catalog.version ≠ .final → a.catalog.FollowedBy b.catalog) ∧
      ∀ last ∈ (begun.answersFor key actions).getLast?, ∀ (now : Clock) (node : Node) environment,
        let s := (begun.run actions).act (.setClock now)
        s.compiler.environmentName node environment = key.environment →
          s.held? key.environment = last.collection →
          (∀ collection ∈ last.collection,
            collection.isStale (s.sources key.environment) = .ok false) →
          last.node.same node = true →
          (s.call node environment).result = .ok last.catalog := by
  intro begun
  have hbegun : Remembers key begun none := rfl
  obtain ⟨hchain, hlast⟩ := goesOn_run (s := begun) hcommand hkeep hbegun
  refine ⟨hchain, ?_⟩
  intro last hmem now node environment s hname hheld hfresh hsame
  rw [Option.toList_none, List.nil_append, hmem] at hlast
  exact Remembers.result_eq (s := s) (hlast.of_cache_eq rfl) hname hheld hfresh hsame

end Session

end Compiler

/-! ### A run with a clock that goes back -/

namespace Sample

/-- An environment that holds a collection. -/
def environments : Environments :=
  (Environments.new "production").insert ⟨"production", some collection, 0, by
    intro c hc
    cases hc
    rfl⟩

/-- A node with a fact. -/
def node (value : String) : Node := ⟨"web1", Table.empty.insert "os" value, none⟩

/-- A node is compiled, and compiled again with another fact by an earlier clock. -/
def actions : List Compiler.Action :=
  [.compile (node "linux") none, .setClock ⟨3⟩, .compile (node "bsd") none]

/-- Sources that are as the collection was read from. -/
def provider : Provider := ⟨.ok [], .ok .empty⟩

/-- A compiler whose sources do not change. -/
def session : Compiler.Session :=
  .start environments .builtin {} (fun _ => provider) ⟨7⟩ Shell.run

end Sample

open Compiler.Session in
theorem versions_increase_sample :
    (Sample.session.answersFor ⟨"web1", "production"⟩ Sample.actions).map (·.catalog.version) =
        [.timestamp 7, .timestamp 8] ∧
      ((Sample.session.answersFor ⟨"web1", "production"⟩ Sample.actions).IsChain fun a b =>
        a.catalog.version ≠ .final → a.catalog.FollowedBy b.catalog) ∧
      ∃ last ∈ (Sample.session.answersFor ⟨"web1", "production"⟩ Sample.actions).getLast?,
        ∀ now, (((Sample.session.run Sample.actions).act (.setClock now)).call
          (Sample.node "bsd") none).result = .ok last.catalog := by
  have hkeep : Compiler.Action.clearCache ∉ Sample.actions := by simp [Sample.actions]
  have hcommand : ({} : Config).effectiveCommand? = none := rfl
  have hbegun : start Sample.environments .builtin {} (fun _ => Sample.provider) ⟨7⟩ Shell.run =
    Sample.session := rfl
  have hall := versions_increase hcommand Sample.environments .builtin
    (fun _ => Sample.provider) ⟨7⟩ Shell.run hkeep ⟨"web1", "production"⟩
  simp only [hbegun] at hall
  refine ⟨by decide +kernel, hall.1, ?_⟩
  -- What the last call answers, and what is there after it.
  have hanswer : ((Sample.session.run Sample.actions.dropLast).answer?
      (.compile (Sample.node "bsd") none)).map (fun a => (a.key, a.node.same (Sample.node "bsd"),
        a.collection.map fun c => (c.isStale Sample.provider).toOption)) =
      some (⟨"web1", "production"⟩, true, some (some false)) := by decide +kernel
  have hname : (Sample.session.run Sample.actions).compiler.environmentName (Sample.node "bsd")
      none = "production" := by decide +kernel
  have hsources : (Sample.session.run Sample.actions).sources = fun _ => Sample.provider := rfl
  have hactions : Sample.actions =
    Sample.actions.dropLast ++ [.compile (Sample.node "bsd") none] := rfl
  rw [hactions, run_concat] at hall hname hsources
  rw [hactions, run_concat]
  obtain ⟨last, hlast, hread⟩ := Option.map_eq_some_iff.mp hanswer
  rw [Prod.mk.injEq, Prod.mk.injEq] at hread
  obtain ⟨hkey, hsame, hstale⟩ := hread
  have hmem := getLast?_answersFor hlast
  have hheld := collection_of_answer? hlast
  rw [hkey] at hmem hheld
  -- From here on the run itself does not matter any more.
  generalize (Sample.session.run Sample.actions.dropLast).act
    (.compile (Sample.node "bsd") none) = after at hall hname hsources hheld ⊢
  refine ⟨last, hmem, fun now => ?_⟩
  refine hall.2 last hmem now (Sample.node "bsd") none hname hheld.symm ?_ hsame
  intro c hc
  have hfresh : (c.isStale Sample.provider).toOption = some false := by
    rw [hc] at hstale
    exact Option.some.inj hstale
  have hread : c.isStale (after.sources "production") = .ok false := by
    rw [hsources]
    cases h : c.isStale Sample.provider with
    | error e => rw [h] at hfresh; cases hfresh
    | ok stale => rw [h] at hfresh; cases hfresh; rfl
  exact hread

end Manifest
