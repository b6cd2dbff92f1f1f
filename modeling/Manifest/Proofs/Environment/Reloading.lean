import Manifest.Proofs.Environment
import Manifest.Proofs.Source.Staleness

/-!
# Environments that are asked again and again

An environment is asked for its collection, or told that the one it holds is stale, in any order,
while its sources change, cannot be read and can be read again.  What it holds is the collection
that it answered last.  The next answer is that collection again unless it is stale, and otherwise
one that was read just now, under the next number; and a call that fails leaves everything as it
was.

## Main definitions

* `Provider.Agrees` — the units and the markers that are answered belong together.
* `Environment.Use`, `Environment.after`, `Environment.answers` — what is done with an environment.
* `Environment.Recalls` — the last answer is held.

## Main results

* `Collection.isStale_of_load` — what was read just now is not stale.
* `Environment.collection_eq_ok_iff`, `Environment.collection_eq_error_iff` — how a call ends.
* `Environment.recalls_after` — after any use the last answer is held.
* `Environment.answers_collection` — what an environment answers after any use.
-/

namespace Manifest

/-! ### Sources that are read at one time -/

/-- Units and markers belong together: if the units can be read so can the markers, and each unit is
listed with the marker that it has. -/
def Provider.Agrees (p : Provider) : Prop :=
  ∀ sources, p.load = .ok sources → ∃ markers, p.markers = .ok markers ∧
    ∀ name, markers.get? name = (Table.ofList (sources.map fun s => (s.name, s.marker))).get? name

theorem MemorySources.agrees_provider {m : MemorySources} (h : m.Named) : m.provider.Agrees := by
  intro sources hsources
  refine ⟨m.units.map Source.marker, rfl, fun name => ?_⟩
  cases hsources
  rw [h.map_values, Table.get?_ofList (m.units.map Source.marker).nodup]
  rfl

namespace Collection

/-- A collection that nobody has asked to read anew. -/
def unmarked (c : Collection) : Collection := { c with forcedStale := false }

/-- A collection under a number. -/
def numbered (c : Collection) (generation : Nat) : Collection := { c with generation := generation }

@[simp] theorem unmarked_markStale (c : Collection) : c.markStale.unmarked = c.unmarked := rfl

@[simp] theorem generation_unmarked (c : Collection) : c.unmarked.generation = c.generation := rfl

@[simp] theorem generation_numbered (c : Collection) (generation : Nat) :
    (c.numbered generation).generation = generation := rfl

/-- The number does not matter for staleness. -/
@[simp] theorem isStale_numbered (c : Collection) (generation : Nat) (p : Provider) :
    (c.numbered generation).isStale p = c.isStale p := rfl

theorem unmarked_of_isStale {c : Collection} {p : Provider} (h : c.isStale p = .ok false) :
    c.unmarked = c := by
  have hforced := forcedStale_of_isStale h
  cases c
  cases hforced
  rfl

/-- Of units that can be read a collection gets the markers. -/
theorem load_eq_ok {c : Collection} {p : Provider} (h : load p = .ok c) :
    ∃ sources, p.load = .ok sources ∧
      c.markers = Table.ofList (sources.map fun s => (s.name, s.marker)) ∧
      c.forcedStale = false := by
  rw [load] at h
  cases hsources : p.load with
  | error e =>
    rw [hsources] at h
    cases h
  | ok sources =>
    simp only [hsources] at h
    obtain ⟨hmarkers, hforced⟩ := foldlM_addSource (c := empty) h
    refine ⟨sources, rfl, ?_, hforced⟩
    rw [hmarkers, Table.ofList, List.foldl_map]
    rfl

/-- A collection that was read just now is not stale. -/
theorem isStale_of_load {c : Collection} {p : Provider} (hp : p.Agrees) (h : load p = .ok c) :
    c.isStale p = .ok false := by
  obtain ⟨sources, hsources, hmarkers, hforced⟩ := load_eq_ok h
  obtain ⟨markers, hread, hlisted⟩ := hp sources hsources
  have hsame : markers.sameEntries c.markers = true := by
    rw [hmarkers, Table.sameEntries_iff]
    exact hlisted
  rw [isStale, hforced, hread]
  simp [hsame]

/-- Unless it was marked stale, a collection can be compared with sources that can be read. -/
theorem exists_isStale {p : Provider} (hp : p.Agrees) {loaded : Collection}
    (h : load p = .ok loaded) (c : Collection) : ∃ stale, c.isStale p = .ok stale := by
  obtain ⟨sources, hsources, -⟩ := load_eq_ok h
  obtain ⟨markers, hread, -⟩ := hp sources hsources
  rw [isStale, hread]
  cases c.forcedStale with
  | true => exact ⟨true, rfl⟩
  | false => exact ⟨_, rfl⟩

end Collection

namespace Environment

/-! ### Single calls -/

variable {e : Environment} {p : Provider} {c : Collection}

theorem reload_eq_ok_iff :
    (e.reload p).result = .ok c ↔
      ∃ loaded, Collection.load p = .ok loaded ∧ c = loaded.numbered (e.generations + 1) := by
  rw [reload]
  cases Collection.load p with
  | error error => simp
  | ok loaded =>
    simp only [Except.ok.injEq, exists_eq_left']
    exact eq_comm

theorem reload_eq_error_iff {error : LoadError} :
    (e.reload p).result = .error error ↔ Collection.load p = .error error := by
  rw [reload]
  cases Collection.load p <;> simp

/-- The answer is the collection that is held, if it is not stale.  It is one that was read just now
if the one that is held is stale or there is none. -/
theorem collection_eq_ok_iff :
    (e.collection p).result = .ok c ↔
      (e.current = some c ∧ c.isStale p = .ok false) ∨
      ((∀ d ∈ e.current, d.isStale p = .ok true) ∧
        ∃ loaded, Collection.load p = .ok loaded ∧ c = loaded.numbered (e.generations + 1)) := by
  rw [collection]
  cases hcurrent : e.current with
  | none => simp [reload_eq_ok_iff]
  | some d =>
    -- A collection that is held is answered or replaced, depending on what it says of its markers.
    cases hstale : d.isStale p with
    | error cause =>
      simp only [hstale, Option.some.injEq, reduceCtorEq, false_iff]
      rintro (⟨rfl, hfresh⟩ | ⟨hall, -⟩)
      · rw [hstale] at hfresh
        cases hfresh
      · rw [hall d rfl] at hstale
        cases hstale
    | ok stale =>
      cases stale with
      | false =>
        simp only [hstale, Except.ok.injEq, Option.some.injEq]
        constructor
        · rintro rfl
          exact Or.inl ⟨rfl, hstale⟩
        · rintro (⟨rfl, -⟩ | ⟨hall, -⟩)
          · rfl
          · rw [hall d rfl] at hstale
            cases hstale
      | true =>
        simp only [hstale, reload_eq_ok_iff, Option.some.injEq, Option.mem_some_iff]
        constructor
        · intro h
          refine Or.inr ⟨?_, h⟩
          rintro _ rfl
          exact hstale
        · rintro (⟨rfl, hfresh⟩ | ⟨-, h⟩)
          · rw [hstale] at hfresh
            cases hfresh
          · exact h

/-- There is no answer if nobody can tell whether the collection that is held is stale, or if it is
stale or missing and no other one can be read. -/
theorem collection_eq_error_iff {error : LoadError} :
    (e.collection p).result = .error error ↔
      (∃ d ∈ e.current, ∃ cause, d.isStale p = .error cause ∧ error = .source cause) ∨
      ((∀ d ∈ e.current, d.isStale p = .ok true) ∧ Collection.load p = .error error) := by
  rw [collection]
  cases hcurrent : e.current with
  | none => simp [reload_eq_error_iff]
  | some d =>
    cases hstale : d.isStale p with
    | error cause => simp [hstale, eq_comm]
    | ok stale => cases stale <;> simp [hstale, reload_eq_error_iff]

theorem environment_of_error {error : LoadError} (h : (e.collection p).result = .error error) :
    (e.collection p).environment = e := by
  have hreads := e.reads_collection p
  rw [h] at hreads
  generalize (e.collection p).environment = e' at hreads
  cases hreads with
  | failed error => rfl

/-! ### Uses -/

/-- What is done with an environment. -/
inductive Use
  /-- It is asked for its collection, and this is what its sources answer at that time. -/
  | collection (p : Provider)
  /-- The collection that it holds is marked stale. -/
  | markStale

/-- The environment after it was used. -/
def use (e : Environment) : Use → Environment
  | .collection p => (e.collection p).environment
  | .markStale => e.markStale

/-- The collection that is answered. -/
def answer? (e : Environment) : Use → Option Collection
  | .collection p => (e.collection p).result.toOption
  | .markStale => none

/-- The environment after it was used some times. -/
def after (e : Environment) (uses : List Use) : Environment := uses.foldl use e

/-- The collections that are answered, oldest first. -/
def answers (e : Environment) : List Use → List Collection
  | [] => []
  | u :: rest => (e.answer? u).toList ++ (e.use u).answers rest

/-- The last answer is held, perhaps marked stale, and its number is that of the last reading. -/
structure Recalls (e : Environment) (last : Option Collection) : Prop where
  current_eq : e.current.map Collection.unmarked = last
  generations_eq : e.generations = (last.map Collection.generation).getD 0

variable {last : Option Collection}

theorem recalls_new (name : String) : (new name).Recalls none := ⟨rfl, rfl⟩

theorem Recalls.markStale (h : e.Recalls last) : e.markStale.Recalls last where
  current_eq := by
    have hcurrent : e.markStale.current.map Collection.unmarked =
        e.current.map Collection.unmarked := by
      simp [Environment.markStale, Function.comp_def]
    rw [hcurrent, h.current_eq]
  generations_eq := h.generations_eq

/-- An answer is not marked stale. -/
theorem unmarked_of_collection (h : (e.collection p).result = .ok c) : c.unmarked = c := by
  rcases collection_eq_ok_iff.mp h with ⟨-, hfresh⟩ | ⟨-, loaded, hloaded, rfl⟩
  · exact Collection.unmarked_of_isStale hfresh
  · obtain ⟨sources, -, -, hforced⟩ := Collection.load_eq_ok hloaded
    rw [Collection.unmarked, Collection.numbered, ← hforced]

/-- What is answered is held from then on. -/
theorem recalls_of_collection (h : (e.collection p).result = .ok c) :
    (e.collection p).environment.Recalls (some c) := by
  have hreads := reads_of_result h
  constructor
  · rw [hreads.current_eq, Option.map_some, unmarked_of_collection h]
  · exact hreads.generation_eq.symm

theorem Recalls.use (h : e.Recalls last) (u : Use) : (e.use u).Recalls ((e.answer? u).or last) := by
  cases u with
  | markStale => exact h.markStale
  | collection p =>
    rw [Environment.use, answer?]
    cases hresult : (e.collection p).result with
    | ok c => exact recalls_of_collection hresult
    | error error =>
      rw [environment_of_error hresult]
      exact h

/-- However an environment is used, it holds its last answer. -/
theorem Recalls.after (uses : List Use) :
    ∀ {e : Environment} {last : Option Collection}, e.Recalls last →
      (e.after uses).Recalls ((e.answers uses).getLast?.or last) := by
  induction uses with
  | nil =>
    intro e last h
    exact h
  | cons u rest ih =>
    intro e last h
    have hrest := ih (h.use u)
    have hlast : (e.answers (u :: rest)).getLast?.or last =
        ((e.use u).answers rest).getLast?.or ((e.answer? u).or last) := by
      rw [answers, List.getLast?_append, Option.or_assoc]
      cases e.answer? u <;> rfl
    rw [hlast]
    exact hrest

theorem recalls_after (name : String) (uses : List Use) :
    ((new name).after uses).Recalls ((new name).answers uses).getLast? := by
  have h := (recalls_new name).after uses
  rwa [Option.or_none] at h

/-- After any use an environment holds what it answered last, but for having been marked stale.
When it is asked for its collection, an answer is never stale.  It is the very collection that is
held if that one is not stale, and otherwise one that was read just now, whose number is one higher
than that of the last answer.  If there is none, the environment is as it was before, and the next
call answers as soon as the sources can be read. -/
theorem answers_collection (name : String) (uses : List Use) {p : Provider} (hp : p.Agrees) :
    let e := (new name).after uses
    let last := ((new name).answers uses).getLast?
    let asked := e.collection p
    e.current.map Collection.unmarked = last ∧
      (∀ c, asked.result = .ok c →
        c.isStale p = .ok false ∧ asked.environment.current = some c) ∧
      (∀ c, e.current = some c → c.isStale p = .ok false →
        asked.result = .ok c ∧ asked.environment = e) ∧
      ((∀ c, e.current = some c → c.isStale p ≠ .ok false) → ∀ c, asked.result = .ok c →
        ∃ loaded, Collection.load p = .ok loaded ∧
          c = loaded.numbered ((last.map Collection.generation).getD 0 + 1)) ∧
      ∀ error, asked.result = .error error →
        asked.environment = e ∧
          ∀ q : Provider, q.Agrees → ∀ loaded, Collection.load q = .ok loaded →
            ∃ c, (asked.environment.collection q).result = .ok c := by
  intro e last asked
  have hrecalls : e.Recalls last := recalls_after name uses
  refine ⟨hrecalls.current_eq, ?_, ?_, ?_, ?_⟩
  · intro c hresult
    have hreads := reads_of_result hresult
    refine ⟨?_, hreads.current_eq⟩
    rcases collection_eq_ok_iff.mp hresult with ⟨-, hfresh⟩ | ⟨-, loaded, hloaded, rfl⟩
    · exact hfresh
    · rw [Collection.isStale_numbered]
      exact Collection.isStale_of_load hp hloaded
  · intro c hcurrent hfresh
    have hasked : asked = ⟨.ok c, e, []⟩ := by
      simp only [asked, Environment.collection, hcurrent, hfresh]
    rw [hasked]
    exact ⟨rfl, rfl⟩
  · intro hstale c hresult
    rcases collection_eq_ok_iff.mp hresult with ⟨hcurrent, hfresh⟩ | ⟨-, loaded, hloaded, hc⟩
    · exact absurd hfresh (hstale c hcurrent)
    · rw [hrecalls.generations_eq] at hc
      exact ⟨loaded, hloaded, hc⟩
  · intro error hresult
    refine ⟨environment_of_error hresult, ?_⟩
    intro q hq loaded hloaded
    -- Neither the comparison with the markers nor the reading can fail now.
    cases hnext : (asked.environment.collection q).result with
    | ok c => exact ⟨c, rfl⟩
    | error error' =>
      rcases collection_eq_error_iff.mp hnext with ⟨d, -, cause, hcause, -⟩ | ⟨-, hunread⟩
      · obtain ⟨stale, hread⟩ := Collection.exists_isStale hq hloaded d
        rw [hread] at hcause
        cases hcause
      · rw [hloaded] at hunread
        cases hunread

end Environment

/-! ### An environment whose sources break -/

namespace Sample

/-- Sources with one unit, which is written at the beginning of a second. -/
def unit (second : Nat) (text : String) : MemorySources :=
  MemorySources.empty.edited [.set ⟨second, 0⟩ "a.pp" text]

/-- A unit is read, marked stale, and replaced by one that is no manifest. -/
def breaking : List Environment.Use :=
  [.collection (unit 1 "$x = 1").provider, .markStale, .collection (unit 2 "\x7d").provider]

end Sample

open Environment in
theorem answers_collection_sample :
    (Sample.unit 1 "$x = 1").provider.Agrees ∧
      (((new "production").after Sample.breaking).collection
        (Sample.unit 2 "\x7d").provider).result.toOption.isNone = true ∧
      ∃ c, (((new "production").after Sample.breaking).collection
          (Sample.unit 1 "$x = 1").provider).result = .ok c ∧
        c.generation = 2 ∧ c.isStale (Sample.unit 1 "$x = 1").provider = .ok false := by
  have hagrees : (Sample.unit 1 "$x = 1").provider.Agrees :=
    MemorySources.agrees_provider (MemorySources.named_edited _)
  have hanswer : (((new "production").after Sample.breaking).collection
      (Sample.unit 1 "$x = 1").provider).result.toOption.map Collection.generation = some 2 := by
    decide +kernel
  obtain ⟨c, hc, hgeneration⟩ := Option.map_eq_some_iff.mp hanswer
  have hresult := Except.eq_ok_of_toOption hc
  have hall := answers_collection "production" Sample.breaking hagrees
  exact ⟨hagrees, by decide +kernel, c, hresult, hgeneration, (hall.2.1 c hresult).1⟩

end Manifest
