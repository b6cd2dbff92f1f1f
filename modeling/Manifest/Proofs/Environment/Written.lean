import Manifest.Proofs.Environment.Reloading

/-!
# Environments over units that are only written

The units of an environment are in memory, and units are written but never removed.  Then a
collection that is held and not stale was loaded from the units as they are now, so that an
environment always answers with what loading gives; only the number depends on how often it was
asked before.

## Main definitions

* `MemorySources.Precedes` — sources to which units were written since.
* `Collection.LoadedFrom` — a collection is what loading gives, but for its number.
* `Environment.Mirrors` — the collection that is held was loaded at some time before.
* `Environment.offers` — a number is that of a collection that is held and not stale.

## Main results

* `Environment.Mirrors.result_collection` — what an environment answers.
* `Environment.Mirrors.offers_collection` — asking for the collection takes no offer back.
-/

namespace Manifest

/-! ### Units that are written -/

namespace MemorySources

variable {earlier m : MemorySources}

/-- Units were written to the `earlier` sources since, and none was removed. -/
def Precedes (earlier m : MemorySources) : Prop := earlier.Follows [] m

namespace Precedes

theorem refl (m : MemorySources) : m.Precedes m := Follows.refl m []

theorem set (h : earlier.Precedes m) (now : Timestamp) (name text : String) :
    earlier.Precedes (m.set now name text) := Follows.set h now name text

/-- Writing a unit never leads back, whatever its text is. -/
theorem set_ne (h : earlier.Precedes m) (now : Timestamp) (name text : String) :
    m.set now name text ≠ earlier := by
  intro heq
  have hunit : earlier.units.get? name =
      some ⟨name, text, nextMarker now ((m.units.get? name).map Source.marker)⟩ := by
    rw [← heq, MemorySources.set, Table.get?_insert, if_pos rfl]
  exact Timestamp.lt_irrefl _ (Follows.lt_marker_set h now List.not_mem_nil _ hunit)

end Precedes

end MemorySources

/-! ### Collections that were loaded -/

namespace Collection

variable {c : Collection} {earlier m : MemorySources}

/-- A collection is what loading gives, but for its number and for having been marked stale. -/
def LoadedFrom (c : Collection) (m : MemorySources) : Prop :=
  m.Named ∧ ∃ loaded, load m.provider = .ok loaded ∧ c.unmarked = loaded.numbered c.generation

theorem LoadedFrom.eq_numbered (h : c.LoadedFrom m) {p : Provider}
    (hfresh : c.isStale p = .ok false) :
    ∃ loaded, load m.provider = .ok loaded ∧ c = loaded.numbered c.generation := by
  obtain ⟨-, loaded, hloaded, hc⟩ := h
  rw [unmarked_of_isStale hfresh] at hc
  exact ⟨loaded, hloaded, hc⟩

/-- As long as a collection is not stale, nothing was written since it was loaded. -/
theorem LoadedFrom.eq_of_isStale (h : c.LoadedFrom earlier) (hm : earlier.Precedes m)
    (hfresh : c.isStale m.provider = .ok false) : m = earlier := by
  obtain ⟨loaded, hloaded, hc⟩ := h.eq_numbered hfresh
  have hread := (markers_load h.1 hloaded).1
  rw [isStale_eq (forcedStale_of_isStale hfresh), hc] at hfresh
  have hsame : (m.units.map Source.marker).sameEntries loaded.markers = true := by
    simpa [numbered] using hfresh
  refine MemorySources.Follows.eq_of_sameEntries hm (List.forall_mem_nil _) ?_
  rw [Table.sameEntries_iff] at hsame ⊢
  exact fun key => (hsame key).trans (hread key)

end Collection

/-! ### Environments -/

namespace Environment

variable {e : Environment} {m : MemorySources} {p : Provider} {c : Collection}

/-- The collection that is held was loaded at some time before the sources were as they are now. -/
def Mirrors (e : Environment) (m : MemorySources) : Prop :=
  ∀ c ∈ e.current, ∃ earlier, c.LoadedFrom earlier ∧ earlier.Precedes m

/-- Whether a number is that of a collection that is held and not stale. -/
def offers (e : Environment) (p : Provider) (generation : Nat) : Bool :=
  match e.current with
  | some c => c.generation == generation && (c.isStale p).toOption == some false
  | none => false

theorem offers_iff {generation : Nat} :
    e.offers p generation = true ↔
      ∃ c, e.current = some c ∧ c.generation = generation ∧ c.isStale p = .ok false := by
  rw [offers]
  cases e.current with
  | none => simp
  | some c => cases hstale : c.isStale p <;> simp [hstale, Except.toOption]

theorem offers_markStale (e : Environment) (p : Provider) (generation : Nat) :
    e.markStale.offers p generation = false := by
  rw [Bool.eq_false_iff, Ne, offers_iff]
  rintro ⟨c, hc, -, hfresh⟩
  obtain ⟨d, -, rfl⟩ := Option.map_eq_some_iff.mp hc
  cases Collection.forcedStale_of_isStale hfresh

/-- What is offered is what would be answered. -/
theorem offers_of_ok (h : (e.collection p).result = .ok c) {generation : Nat}
    (hle : generation ≤ e.generations) : e.offers p generation = (generation == c.generation) := by
  rw [Bool.eq_iff_iff, offers_iff, beq_iff_eq]
  rcases collection_eq_ok_iff.mp h with ⟨hcurrent, hfresh⟩ | ⟨hstale, loaded, -, rfl⟩
  · constructor
    · rintro ⟨d, hd, rfl, -⟩
      rw [Option.some.inj (hcurrent.symm.trans hd)]
    · rintro rfl
      exact ⟨c, hcurrent, rfl, hfresh⟩
  · constructor
    · rintro ⟨d, hd, -, hfresh⟩
      rw [hstale d hd] at hfresh
      cases hfresh
    · -- The number of a collection that was read just now is new.
      intro hnumber
      rw [Collection.generation_numbered] at hnumber
      omega

namespace Mirrors

theorem of_current_eq_none (h : e.current = none) : e.Mirrors m := by
  intro c hc
  rw [h] at hc
  cases hc

theorem set (h : e.Mirrors m) (now : Timestamp) (name text : String) :
    e.Mirrors (m.set now name text) := by
  intro c hc
  obtain ⟨earlier, hloaded, hprecedes⟩ := h c hc
  exact ⟨earlier, hloaded, hprecedes.set now name text⟩

theorem markStale (h : e.Mirrors m) : e.markStale.Mirrors m := by
  intro c hc
  obtain ⟨d, hd, rfl⟩ := Option.map_eq_some_iff.mp hc
  exact h d hd

/-- After a unit was written nothing is offered. -/
theorem offers_set (h : e.Mirrors m) (now : Timestamp) (name text : String) (generation : Nat) :
    e.offers (m.set now name text).provider generation = false := by
  rw [Bool.eq_false_iff, Ne, offers_iff]
  rintro ⟨c, hc, -, hfresh⟩
  obtain ⟨earlier, hloaded, hprecedes⟩ := h c hc
  exact hprecedes.set_ne now name text
    (hloaded.eq_of_isStale (hprecedes.set now name text) hfresh)

/-- An environment answers with what loading gives, under the number of its last reading. -/
theorem result_collection (h : e.Mirrors m) :
    (e.collection m.provider).result = (Collection.load m.provider).map
      (Collection.numbered · (e.collection m.provider).environment.generations) := by
  cases hresult : (e.collection m.provider).result with
  | ok c =>
    have hreads := reads_of_result hresult
    rw [← hreads.generation_eq]
    rcases collection_eq_ok_iff.mp hresult with ⟨hcurrent, hfresh⟩ | ⟨-, loaded, hloaded, rfl⟩
    · obtain ⟨earlier, hearlier, hprecedes⟩ := h c hcurrent
      obtain ⟨loaded, hloaded, hc⟩ := hearlier.eq_numbered hfresh
      rw [hearlier.eq_of_isStale hprecedes hfresh, hloaded, Except.map, ← hc]
    · rw [hloaded]
      rfl
  | error error =>
    rcases collection_eq_error_iff.mp hresult with ⟨c, -, cause, hcause, -⟩ | ⟨-, hunread⟩
    · -- Markers in memory can always be compared.
      rw [Collection.isStale] at hcause
      split at hcause <;> cases hcause
    · rw [hunread]
      rfl

theorem load_eq_ok (h : e.Mirrors m) (hresult : (e.collection m.provider).result = .ok c) :
    ∃ loaded, Collection.load m.provider = .ok loaded ∧ c = loaded.numbered c.generation := by
  rw [h.result_collection] at hresult
  cases hloaded : Collection.load m.provider with
  | error error =>
    rw [hloaded] at hresult
    cases hresult
  | ok loaded =>
    rw [hloaded] at hresult
    cases hresult
    exact ⟨loaded, rfl, rfl⟩

theorem load_eq_error (h : e.Mirrors m) {error : LoadError}
    (hresult : (e.collection m.provider).result = .error error) :
    Collection.load m.provider = .error error := by
  rw [h.result_collection] at hresult
  cases hloaded : Collection.load m.provider with
  | error error' =>
    rw [hloaded] at hresult
    cases hresult
    rfl
  | ok loaded =>
    rw [hloaded] at hresult
    cases hresult

/-- What is answered is not stale. -/
theorem isStale_collection (h : e.Mirrors m) (hm : m.Named)
    (hresult : (e.collection m.provider).result = .ok c) : c.isStale m.provider = .ok false := by
  obtain ⟨loaded, hloaded, hc⟩ := h.load_eq_ok hresult
  rw [hc, Collection.isStale_numbered]
  exact Collection.isStale_of_load (MemorySources.agrees_provider hm) hloaded

theorem collection (h : e.Mirrors m) (hm : m.Named) :
    (e.collection m.provider).environment.Mirrors m := by
  cases hresult : (e.collection m.provider).result with
  | error error =>
    rw [environment_of_error hresult]
    exact h
  | ok c =>
    have hreads := reads_of_result hresult
    intro d hd
    cases Option.some.inj (hreads.current_eq.symm.trans hd)
    obtain ⟨loaded, hloaded, hc⟩ := h.load_eq_ok hresult
    refine ⟨m, ⟨hm, loaded, hloaded, ?_⟩, .refl m⟩
    rw [unmarked_of_collection hresult]
    exact hc

/-- The collection that is answered is offered from then on. -/
theorem offers_collection_ok (h : e.Mirrors m) (hm : m.Named)
    (hresult : (e.collection m.provider).result = .ok c) (generation : Nat) :
    (e.collection m.provider).environment.offers m.provider generation =
      (generation == c.generation) := by
  have hreads := reads_of_result hresult
  have hfresh := h.isStale_collection hm hresult
  rw [Bool.eq_iff_iff, offers_iff, beq_iff_eq, hreads.current_eq]
  constructor
  · rintro ⟨d, hd, rfl, -⟩
    rw [Option.some.inj hd]
  · rintro rfl
    exact ⟨c, rfl, rfl, hfresh⟩

/-- Asking for the collection neither makes an offer nor takes one back. -/
theorem offers_collection (h : e.Mirrors m) (hm : m.Named) {generation : Nat}
    (hle : generation ≤ e.generations) :
    (e.collection m.provider).environment.offers m.provider generation =
      e.offers m.provider generation := by
  cases hresult : (e.collection m.provider).result with
  | error error => rw [environment_of_error hresult]
  | ok c => rw [h.offers_collection_ok hm hresult, offers_of_ok hresult hle]

end Mirrors

end Environment

end Manifest
