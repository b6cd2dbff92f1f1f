import Manifest.Table
import Mathlib.Data.List.Induction
import Mathlib.Data.List.Perm.Subperm
import Mathlib.Data.List.Nodup

/-!
# Reading tables

A table is determined by its entries, but mostly all that matters is what its keys stand for.

## Main results

* `Table.entries_insert` — a new key comes to the end.
* `Table.get?_ofList` — a table that was written from a list without repeated keys.
* `Table.get?_ofList_getLast?` — one that was written from any list.
* `Table.sameEntries_iff` — equality up to order is equality of everything that is read.
-/

namespace Manifest.Table

variable {α β : Type}

theorem lookup_eq_none_iff {key : String} {es : List (String × α)} :
    lookup key es = none ↔ key ∉ es.map Prod.fst := by
  induction es with
  | nil => simp [lookup]
  | cons e rest ih =>
    by_cases h : e.1 = key
    · simp [lookup, h]
    · simp [lookup, h, ih, Ne.symm h]

theorem get?_eq_none_iff {t : Table α} {key : String} : t.get? key = none ↔ key ∉ t.keys :=
  lookup_eq_none_iff

theorem put_of_notMem {key : String} {value : α} {es : List (String × α)}
    (h : key ∉ es.map Prod.fst) : put key value es = es ++ [(key, value)] := by
  induction es with
  | nil => rfl
  | cons e rest ih =>
    rw [List.map_cons, List.mem_cons, not_or] at h
    rw [put, if_neg (Ne.symm h.1), ih h.2, List.cons_append]

/-- A new key comes to the end. -/
theorem entries_insert {t : Table α} {key : String} (h : t.get? key = none) (value : α) :
    (t.insert key value).entries = t.entries ++ [(key, value)] :=
  put_of_notMem (get?_eq_none_iff.mp h)

theorem lookup_of_mem {key : String} {value : α} {es : List (String × α)}
    (hnodup : (es.map Prod.fst).Nodup) (h : (key, value) ∈ es) : lookup key es = some value := by
  induction es with
  | nil => cases h
  | cons e rest ih =>
    rw [List.map_cons, List.nodup_cons] at hnodup
    rcases List.mem_cons.mp h with rfl | h
    · rw [lookup, if_pos rfl]
    · have hne : e.1 ≠ key := fun he => hnodup.1 (he ▸ List.mem_map_of_mem (f := Prod.fst) h)
      rw [lookup, if_neg hne]
      exact ih hnodup.2 h

/-- An entry is what its key stands for. -/
theorem get?_eq_some_iff {t : Table α} {key : String} {value : α} :
    t.get? key = some value ↔ (key, value) ∈ t.entries :=
  ⟨mem_of_get?, lookup_of_mem t.nodup⟩

theorem lookup_map (f : α → β) (key : String) (es : List (String × α)) :
    lookup key (es.map fun e => (e.1, f e.2)) = (lookup key es).map f := by
  induction es with
  | nil => rfl
  | cons e rest ih =>
    rw [List.map_cons, lookup, lookup]
    split
    · rfl
    · exact ih

theorem get?_map (f : α → β) (t : Table α) (key : String) :
    (t.map f).get? key = (t.get? key).map f := lookup_map f key t.entries

theorem lookup_filter_ne {key other : String} (h : key ≠ other) (es : List (String × α)) :
    lookup key (es.filter (·.1 ≠ other)) = lookup key es := by
  induction es with
  | nil => rfl
  | cons e rest ih =>
    by_cases he : e.1 = other
    · have hne : e.1 ≠ key := fun hk => h (hk.symm.trans he)
      rw [List.filter_cons_of_neg (by simpa using he), ih, lookup, if_neg hne]
    · rw [List.filter_cons_of_pos (by simpa using he), lookup, lookup, ih]

theorem get?_foldl_insert (key : String) :
    ∀ (es : List (String × α)) (t : Table α), (es.map Prod.fst).Nodup →
      (es.foldl (fun t e => t.insert e.1 e.2) t).get? key = (lookup key es).or (t.get? key)
  | [], _, _ => rfl
  | e :: rest, t, h => by
    rw [List.map_cons, List.nodup_cons] at h
    rw [List.foldl_cons, get?_foldl_insert key rest _ h.2, get?_insert, lookup]
    by_cases hk : e.1 = key
    · -- What is written under the key now is not overwritten later.
      have hnone : lookup key rest = none := lookup_eq_none_iff.mpr (hk ▸ h.1)
      rw [hnone, if_pos hk.symm, if_pos hk]
      rfl
    · rw [if_neg (Ne.symm hk), if_neg hk]

/-- Writing entries with different keys into a table. -/
theorem get?_ofList {es : List (String × α)} (h : (es.map Prod.fst).Nodup) (key : String) :
    (ofList es).get? key = lookup key es := by
  rw [ofList, get?_foldl_insert key es empty h, get?_empty, Option.or_none]

theorem ofList_concat (es : List (String × α)) (e : String × α) :
    ofList (es ++ [e]) = (ofList es).insert e.1 e.2 := by
  rw [ofList, List.foldl_append]
  rfl

/-- Of what is written under a key the last stays. -/
theorem get?_ofList_getLast? (es : List (String × α)) (key : String) :
    (ofList es).get? key = ((es.filter fun e => e.1 = key).getLast?).map Prod.snd := by
  induction es using List.reverseRecOn with
  | nil => rfl
  | append_singleton es e ih =>
    rw [ofList_concat, get?_insert, List.filter_append]
    by_cases h : e.1 = key
    · rw [if_pos h.symm, List.filter_cons_of_pos (by simpa using h), List.filter_nil,
        List.getLast?_concat]
      rfl
    · rw [if_neg (Ne.symm h), List.filter_cons_of_neg (by simpa using h), List.filter_nil,
        List.append_nil, ih]

/-- Two tables with the same entries in any order are read alike. -/
theorem sameEntries_iff [BEq α] [LawfulBEq α] {s t : Table α} :
    s.sameEntries t = true ↔ ∀ key, s.get? key = t.get? key := by
  rw [sameEntries, Bool.and_eq_true, beq_iff_eq, List.all_eq_true]
  constructor
  · rintro ⟨hsize, hall⟩ key
    have hsub : ∀ e ∈ s.entries, e ∈ t.entries := fun e he =>
      get?_eq_some_iff.mp (beq_iff_eq.mp (hall e he))
    -- Without repetition and with as many entries, nothing can be left over.
    have hperm : s.entries.Perm t.entries :=
      ((List.subperm_of_subset (List.Nodup.of_map _ s.nodup) hsub).perm_of_length_le
        (Nat.le_of_eq hsize.symm))
    cases hk : s.get? key with
    | some value =>
      exact (get?_eq_some_iff.mpr (hsub _ (get?_eq_some_iff.mp hk))).symm
    | none =>
      rw [get?_eq_none_iff] at hk
      exact (get?_eq_none_iff.mpr fun hm => hk ((hperm.map Prod.fst).mem_iff.mpr hm)).symm
  · intro h
    have hmem : ∀ e, e ∈ s.entries ↔ e ∈ t.entries := fun e => by
      rw [← get?_eq_some_iff (t := s), ← get?_eq_some_iff (t := t), h]
    have hperm : s.entries.Perm t.entries :=
      (List.perm_ext_iff_of_nodup (List.Nodup.of_map _ s.nodup) (List.Nodup.of_map _ t.nodup)).mpr
        hmem
    refine ⟨hperm.length_eq, fun e he => beq_iff_eq.mpr ?_⟩
    exact get?_eq_some_iff.mpr ((hmem e).mp he)

end Manifest.Table
