import Manifest.Collection
import Manifest.Source.Memory
import Manifest.Proofs.Except
import Manifest.Proofs.Table

/-!
# What the markers show of sources in memory

A collection compares markers only, while its loading depends on texts and on the order of the
units.  Writing a unit that is there moves its marker forward.  A unit that was removed and is added
again gets the time of the clock, which may be the marker that it had.  So the markers show every
change unless a unit that was removed stands there in the end with the marker that it was loaded
with.

## Main definitions

* `SourceEdit`, `MemorySources.edited` — changes of sources in memory.
* `MemorySources.ReturnsChanged` — what was removed does not stand there with its old marker.
* `MemorySources.Follows` — what is left of the units that were loaded and not removed since.

## Main results

* `Collection.markers_load` — a collection has the markers of the units that it was loaded from.
* `MemorySources.Follows.edited` — what the changes keep.
* `isStale_edited_iff` — a collection is stale exactly if loading would give something else.
* `isStale_readded` — without the condition on units that come back this is not so.
-/

namespace Manifest

/-! ### The order of timestamps -/

namespace Timestamp

variable {a b c : Timestamp}

theorem lt_iff : a < b ↔ a.seconds < b.seconds ∨ (a.seconds = b.seconds ∧ a.nanos < b.nanos) :=
  Iff.rfl

theorem le_iff : a ≤ b ↔ a.seconds < b.seconds ∨ (a.seconds = b.seconds ∧ a.nanos ≤ b.nanos) :=
  Iff.rfl

theorem lt_irrefl (a : Timestamp) : ¬ a < a := by
  rw [lt_iff]
  omega

theorem lt_trans (h : a < b) (h' : b < c) : a < c := by
  rw [lt_iff] at *
  omega

theorem lt_of_not_le (h : ¬ a ≤ b) : b < a := by
  rw [le_iff] at h
  rw [lt_iff]
  omega

theorem lt_successor (t : Timestamp) : t < t.successor := by
  rw [lt_iff, successor]
  split
  · exact Or.inl (Nat.lt_succ_self _)
  · exact Or.inr ⟨rfl, Nat.lt_succ_self _⟩

end Timestamp

/-! ### The markers of a collection -/

namespace Collection

variable {c c' : Collection}

theorem addSource_eq_ok {s : Source} (h : c.addSource s = .ok c') :
    c'.markers = c.markers.insert s.name s.marker ∧ c'.forcedStale = c.forcedStale := by
  rw [addSource] at h
  cases hparse : parse s.name s.text with
  | error e => rw [hparse] at h; cases h
  | ok ast =>
    simp only [hparse] at h
    cases hdefine : (definitionsOf ast).foldlM define c with
    | error e => rw [hdefine] at h; cases h
    | ok d =>
      rw [hdefine] at h
      cases h
      -- Defining something leaves the markers alone.
      have hd : d.markers = c.markers ∧ d.forcedStale = c.forcedStale := by
        refine Except.foldlM_invariant
          (P := fun d => d.markers = c.markers ∧ d.forcedStale = c.forcedStale) hdefine ?_
          ⟨rfl, rfl⟩
        rintro definition - a b ha hb
        rw [define] at hb
        cases hget : a.definitions.get? definition.name with
        | some existing => rw [hget] at hb; cases hb
        | none => rw [hget] at hb; cases hb; exact ha
      exact ⟨by rw [hd.1], hd.2⟩

theorem foldlM_addSource : ∀ {sources : List Source} {c c' : Collection},
    sources.foldlM addSource c = .ok c' →
      c'.markers = sources.foldl (fun t s => t.insert s.name s.marker) c.markers ∧
        c'.forcedStale = c.forcedStale
  | [], _, _, h => by
    rw [List.foldlM_nil] at h
    cases h
    exact ⟨rfl, rfl⟩
  | s :: rest, c, c', h => by
    rw [List.foldlM_cons] at h
    obtain ⟨d, hd, h⟩ := Except.bind_eq_ok_iff.mp h
    obtain ⟨hmarkers, hforced⟩ := addSource_eq_ok hd
    obtain ⟨hmarkers', hforced'⟩ := foldlM_addSource h
    exact ⟨by rw [hmarkers', hmarkers, List.foldl_cons], hforced'.trans hforced⟩

end Collection

/-! ### Changes of sources -/

/-- A change of sources in memory. -/
inductive SourceEdit
  /-- A unit is written at a time. -/
  | set (now : Timestamp) (name text : String)
  | remove (name : String)

/-- The names of the units that some changes remove, whether or not they come back. -/
def removedNames (edits : List SourceEdit) : List String :=
  edits.filterMap fun
    | .remove name => some name
    | .set .. => none

namespace MemorySources

variable {loaded m : MemorySources}

/-- The sources after a change. -/
def edit (m : MemorySources) : SourceEdit → MemorySources
  | .set now name text => m.set now name text
  | .remove name => m.remove name

/-- The sources after some changes. -/
def edited (m : MemorySources) (edits : List SourceEdit) : MemorySources := edits.foldl edit m

/-- Every unit stands under its own name. -/
def Named (m : MemorySources) : Prop := ∀ e ∈ m.units.entries, e.1 = e.2.name

theorem Named.edit (h : m.Named) (e : SourceEdit) : (m.edit e).Named := by
  intro u hu
  cases e with
  | set now name text =>
    rcases Table.mem_put hu with rfl | hu
    · rfl
    · exact h u hu
  | remove name => exact h u (List.mem_filter.mp hu).1

theorem named_edited (edits : List SourceEdit) : (empty.edited edits).Named := by
  have hfold : ∀ (es : List SourceEdit) (m : MemorySources), m.Named → (m.edited es).Named := by
    intro es
    induction es with
    | nil => exact fun _ h => h
    | cons e rest ih => exact fun m h => ih (m.edit e) (h.edit e)
  exact hfold edits empty fun _ hu => by cases hu

/-- The units stand in the order of their names with their markers. -/
theorem Named.map_values (h : m.Named) :
    m.units.values.map (fun s => (s.name, s.marker)) = (m.units.map Source.marker).entries := by
  rw [Table.values, List.map_map, Table.map]
  refine List.map_congr_left fun e he => ?_
  rw [Function.comp, ← h e he]

end MemorySources

namespace Collection

/-- A collection has the markers of the units that it was loaded from. -/
theorem markers_load {m : MemorySources} (hm : m.Named) {c : Collection}
    (h : load m.provider = .ok c) :
    (∀ key, c.markers.get? key = (m.units.map Source.marker).get? key) ∧
      c.forcedStale = false := by
  obtain ⟨hmarkers, hforced⟩ := foldlM_addSource (c := empty) h
  refine ⟨fun key => ?_, hforced⟩
  have hlist : c.markers = Table.ofList (m.units.map Source.marker).entries := by
    rw [hmarkers, Table.ofList, ← hm.map_values, List.foldl_map]
    rfl
  rw [hlist, Table.get?_ofList (m.units.map Source.marker).nodup]
  rfl

theorem isStale_eq {m : MemorySources} {c : Collection} (h : c.forcedStale = false) :
    c.isStale m.provider = .ok (!(m.units.map Source.marker).sameEntries c.markers) := by
  rw [isStale, h]
  rfl

end Collection

/-! ### What is left of the units that were loaded -/

namespace MemorySources

variable {loaded m : MemorySources}

/-- No unit that was removed by some changes stands there in the end with the marker with which it
was `loaded`. -/
def ReturnsChanged (loaded : MemorySources) (edits : List SourceEdit) : Prop :=
  ∀ name ∈ removedNames edits, ∀ old ∈ loaded.units.get? name,
    ∀ unit ∈ (loaded.edited edits).units.get? name, unit.marker ≠ old.marker

/-- What is left of the units that were `loaded`, but for those with the `removed` names: none of
them is missing, each one is as it was or has a later marker, and those that are as they were stand
in their old order. -/
structure Follows (loaded : MemorySources) (removed : List String) (m : MemorySources) : Prop where
  kept_or_later : ∀ e ∈ m.units.entries, e.1 ∉ removed →
    e ∈ loaded.units.entries ∨ ∀ s ∈ loaded.units.get? e.1, s.marker < e.2.marker
  get?_eq_none : ∀ name ∉ removed, m.units.get? name = none → loaded.units.get? name = none
  sublist : (m.units.entries.filter fun e => e ∈ loaded.units.entries ∧ e.1 ∉ removed).Sublist
    loaded.units.entries

theorem lt_nextMarker (now marker : Timestamp) : marker < nextMarker now (some marker) := by
  rw [nextMarker]
  split
  · exact marker.lt_successor
  · next h => exact Timestamp.lt_of_not_le h

namespace Follows

variable {removed : List String}

theorem refl (m : MemorySources) (removed : List String) : m.Follows removed m :=
  ⟨fun _ he _ => Or.inl he, fun _ _ h => h, List.filter_sublist⟩

theorem remove (h : loaded.Follows removed m) {name : String} (hname : name ∈ removed) :
    loaded.Follows removed (m.remove name) := by
  refine ⟨fun e he => h.kept_or_later e (List.mem_filter.mp he).1, ?_, ?_⟩
  · intro other hother hnone
    have hne : other ≠ name := fun heq => hother (heq ▸ hname)
    exact h.get?_eq_none other hother ((Table.lookup_filter_ne hne _).symm.trans hnone)
  · exact (List.filter_sublist.filter _).trans h.sublist

/-- An entry that is not looked for may be written anywhere. -/
theorem filter_put_sublist {key : String} {value : Source} {p : String × Source → Bool}
    (h : p (key, value) = false) (es : List (String × Source)) :
    ((Table.put key value es).filter p).Sublist (es.filter p) := by
  induction es with
  | nil => simp [Table.put, h]
  | cons e rest ih =>
    rw [Table.put]
    split
    · rw [List.filter_cons_of_neg (by simp [h])]
      exact (List.sublist_cons_self e rest).filter p
    · rw [List.filter_cons, List.filter_cons]
      split
      · exact ih.cons_cons e
      · exact ih

/-- A unit that was never removed gets a later marker than it was loaded with. -/
theorem lt_marker_set (h : loaded.Follows removed m) (now : Timestamp) {name : String}
    (hname : name ∉ removed) :
    ∀ s ∈ loaded.units.get? name,
      s.marker < nextMarker now ((m.units.get? name).map Source.marker) := by
  intro s hs
  cases hold : m.units.get? name with
  | none =>
    rw [h.get?_eq_none name hname hold] at hs
    cases hs
  | some old =>
    have hnext : old.marker < nextMarker now (some old.marker) := lt_nextMarker now old.marker
    rcases h.kept_or_later _ (Table.mem_of_get? hold) hname with hkept | hlate
    · rw [Table.get?_eq_some_iff.mpr hkept] at hs
      cases hs
      exact hnext
    · exact Timestamp.lt_trans (hlate s hs) hnext

theorem set (h : loaded.Follows removed m) (now : Timestamp) (name text : String) :
    loaded.Follows removed (m.set now name text) := by
  let unit : Source := ⟨name, text, nextMarker now ((m.units.get? name).map Source.marker)⟩
  have hnew : ¬ ((name, unit) ∈ loaded.units.entries ∧ name ∉ removed) := by
    rintro ⟨hunit, hname⟩
    have hlater := h.lt_marker_set now hname unit (Table.get?_eq_some_iff.mpr hunit)
    exact Timestamp.lt_irrefl _ hlater
  refine ⟨?_, ?_, ?_⟩
  · intro e he hkept
    rcases Table.mem_put he with rfl | he
    · exact Or.inr (h.lt_marker_set now hkept)
    · exact h.kept_or_later e he hkept
  · intro other hother hnone
    rw [MemorySources.set, Table.get?_insert] at hnone
    split at hnone
    · cases hnone
    · exact h.get?_eq_none other hother hnone
  · exact (filter_put_sublist (by simpa using hnew) m.units.entries).trans h.sublist

theorem edited {edits : List SourceEdit} :
    ∀ {m : MemorySources}, removedNames edits ⊆ removed →
      loaded.Follows removed m → loaded.Follows removed (m.edited edits) := by
  induction edits with
  | nil => exact fun _ h => h
  | cons e rest ih =>
    intro m hremoved h
    cases e with
    | set now name text => exact ih hremoved (h.set now name text)
    | remove name =>
      obtain ⟨hname, hrest⟩ := List.cons_subset.mp hremoved
      exact ih hrest (h.remove hname)

/-- With the markers of the units that were loaded, everything is as it was, unless a unit has been
removed and has got its old marker again. -/
theorem eq_of_sameEntries (h : loaded.Follows removed m)
    (hreturns : ∀ name ∈ removed, ∀ old ∈ loaded.units.get? name, ∀ unit ∈ m.units.get? name,
      unit.marker ≠ old.marker)
    (hmarkers : (m.units.map Source.marker).sameEntries (loaded.units.map Source.marker) = true) :
    m = loaded := by
  have hread := Table.sameEntries_iff.mp hmarkers
  have hkept : ∀ e ∈ m.units.entries, e ∈ loaded.units.entries ∧ e.1 ∉ removed := by
    intro e he
    have hunit : m.units.get? e.1 = some e.2 := Table.get?_eq_some_iff.mpr he
    have hget := hread e.1
    rw [Table.get?_map, Table.get?_map, hunit] at hget
    obtain ⟨old, hold, hmarker⟩ := Option.map_eq_some_iff.mp hget.symm
    have hname : e.1 ∉ removed := fun hname => hreturns e.1 hname old hold e.2 hunit hmarker.symm
    refine ⟨(h.kept_or_later e he hname).resolve_right fun hlate => ?_, hname⟩
    exact Timestamp.lt_irrefl _ (hmarker ▸ hlate old hold)
  -- Nothing is new, nothing is missing, and the order is the old one.
  have hlength : m.units.entries.length = loaded.units.entries.length := by
    have hsize := (Bool.and_eq_true _ _ ▸ hmarkers).1
    simpa [Table.size, Table.map] using hsize
  have hsublist := h.sublist
  rw [List.filter_eq_self.mpr (by simpa using hkept)] at hsublist
  have hentries := hsublist.eq_of_length hlength
  cases m
  cases loaded
  exact congrArg MemorySources.mk (Table.ext hentries)

end Follows

end MemorySources

/-! ### Staleness -/

open MemorySources in
/-- After any changes, unless a unit that was removed stands there in the end with the marker that
it was loaded with, a collection is not stale exactly if loading gives the same units, in the same
order, with the same texts and markers. -/
theorem isStale_edited_iff {before after : List SourceEdit} {c : Collection}
    (hload : Collection.load (empty.edited before).provider = .ok c)
    (hreturns : (empty.edited before).ReturnsChanged after) :
    c.isStale ((empty.edited before).edited after).provider = .ok false ↔
      ((empty.edited before).edited after).provider.load =
        (empty.edited before).provider.load := by
  obtain ⟨hmarkers, hforced⟩ := Collection.markers_load (named_edited before) hload
  -- Names that are removed anywhere in the run are set aside from its beginning.
  have hfollows := (Follows.refl (empty.edited before) (removedNames after)).edited
    (List.Subset.refl _)
  rw [ReturnsChanged] at hreturns
  generalize hm : (empty.edited before).edited after = m at *
  rw [Collection.isStale_eq hforced]
  constructor
  · intro h
    have hsame : (m.units.map Source.marker).sameEntries c.markers = true := by
      simpa using Except.ok.inj h
    rw [hfollows.eq_of_sameEntries hreturns]
    rw [Table.sameEntries_iff] at hsame ⊢
    exact fun key => (hsame key).trans (hmarkers key)
  · intro h
    have hnamed : m.Named := by
      rw [← hm, edited, edited, ← List.foldl_append]
      exact named_edited (before ++ after)
    -- The units with their names and markers are all that the comparison looks at.
    have hentries : (m.units.map Source.marker).entries =
        ((empty.edited before).units.map Source.marker).entries := by
      rw [← hnamed.map_values, ← (named_edited before).map_values, Except.ok.inj h]
    have hsame : (m.units.map Source.marker).sameEntries c.markers = true := by
      rw [Table.sameEntries_iff, Table.ext hentries]
      exact fun key => (hmarkers key).symm
    rw [hsame]
    rfl

namespace Sample

/-- Two empty units, written in the first second. -/
def written : List SourceEdit := [.set ⟨1, 0⟩ "a.pp" "", .set ⟨1, 0⟩ "b.pp" ""]

/-- One of them is removed and comes back in a second. -/
def returning (second : Nat) : List SourceEdit :=
  [.remove "a.pp", .set ⟨second, 0⟩ "a.pp" "$x = 1"]

end Sample

open MemorySources in
/-- The unit comes back by a clock that has gone back, which is a change as well. -/
theorem isStale_edited_iff_sample :
    ∃ c, Collection.load (empty.edited Sample.written).provider = .ok c ∧
      (empty.edited Sample.written).ReturnsChanged (Sample.returning 0) ∧
      (c.isStale ((empty.edited Sample.written).edited (Sample.returning 0)).provider = .ok false ↔
        ((empty.edited Sample.written).edited (Sample.returning 0)).provider.load =
          (empty.edited Sample.written).provider.load) := by
  have hreturns : (empty.edited Sample.written).ReturnsChanged (Sample.returning 0) := by
    unfold ReturnsChanged
    decide +kernel
  exact ⟨_, rfl, hreturns, isStale_edited_iff rfl hreturns⟩

open MemorySources in
/-- A unit that is removed and added again in the second in which it was written has the marker
that it had, whatever its text and its place are. -/
theorem isStale_readded :
    ∃ c, Collection.load (empty.edited Sample.written).provider = .ok c ∧
      c.isStale ((empty.edited Sample.written).edited (Sample.returning 1)).provider = .ok false ∧
      ((empty.edited Sample.written).edited (Sample.returning 1)).provider.load ≠
        (empty.edited Sample.written).provider.load :=
  ⟨_, rfl, by decide +kernel, by decide +kernel⟩

end Manifest
