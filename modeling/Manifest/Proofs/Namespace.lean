import Manifest.Proofs.Name
import Manifest.Proofs.Text.Ascii

/-!
# Namespaces made of segments

The walk outwards from a namespace leaves one segment after the other away.  Where the segments are
neither empty nor have colons in them, what remains after each step is the beginning of the list of
segments, and nothing else.

## Main definitions

* `Name.path` — the name that consists of segments.
* `Name.IsSpace` — segments that make a namespace in lower case.

## Main results

* `Name.candidates_path` — the full names that a name may stand for, segment by segment.
* `Name.lower_path` — such a namespace is in lower case as a whole.
* `Text.isQualified_lower`, `Text.absolute?_lower_eq_none` — lower case moves no separators.
-/

namespace Manifest

namespace Name

variable {segments : List String} {s name : String}

/-- The name that consists of segments. -/
def path (segments : List String) : String := separator.intercalate segments

/-- Segments in lower case that are neither empty nor have a colon in them. -/
def IsSpace (segments : List String) : Prop :=
  ∀ s ∈ segments, s ≠ "" ∧ ':' ∉ s.toList ∧ Text.lower s = s

theorem IsSpace.of_concat (h : IsSpace (segments ++ [s])) : IsSpace segments ∧ IsSpace [s] :=
  List.forall_mem_append.mp h

@[simp] theorem path_nil : path [] = "" := rfl

@[simp] theorem path_singleton (s : String) : path [s] = s := String.intercalate_singleton

theorem path_concat (h : segments ≠ []) (s : String) :
    path (segments ++ [s]) = path segments ++ separator ++ s := by
  rw [path, String.intercalate_append_of_ne_nil h (List.cons_ne_nil s []),
    String.intercalate_singleton, path]

theorem path_concat_ne_empty (hs : s ≠ "") : path (segments ++ [s]) ≠ "" := by
  by_cases hne : segments = []
  · simpa [hne] using hs
  · rw [path_concat hne]
    intro hempty
    have hlist := congrArg String.toList hempty
    simp [separator] at hlist

/-- A name in a namespace is one more segment. -/
theorem join_path (h : s ≠ "") (name : String) :
    join (path (segments ++ [s])) name = path (segments ++ [s] ++ [name]) := by
  have hne : segments ++ [s] ≠ [] := List.concat_ne_nil s segments
  rw [join, if_neg (path_concat_ne_empty h), path_concat hne name]

/-- What encloses a name is all but its last segment. -/
theorem parent_path (hs : ':' ∉ s.toList) : parent (path (segments ++ [s])) = path segments := by
  by_cases hne : segments = []
  · have hunqualified : isQualified s = false :=
      (isQualified_eq_false_iff s).mpr fun hi => hs (hi.subset List.mem_cons_self)
    rw [hne, List.nil_append, path_singleton, parent, (splitLast?_eq_none_iff s).mpr hunqualified,
      path_nil]
  · -- One colon of its own is not enough for a separator.
    have hcolons : ¬ colons <:+: s.toList.reverse ++ [':'] := fun hi => by
      have hcount := hi.sublist.count_le ':'
      simp [colons, List.count_eq_zero_of_not_mem, hs] at hcount
    rw [parent, splitLast?, path_concat hne]
    have hsplit := splitReversed_append hcolons (path segments).toList.reverse
    have hlist : (path segments ++ separator ++ s).toList.reverse =
        s.toList.reverse ++ ':' :: ':' :: (path segments).toList.reverse := by
      simp [separator]
    rw [hlist, hsplit]
    simp

theorem namespaces_path_concat (h : IsSpace (segments ++ [s])) :
    namespaces (path (segments ++ [s])) = path (segments ++ [s]) :: namespaces (path segments) := by
  obtain ⟨hne, hcolon, -⟩ := h s (by simp)
  rw [namespaces_eq (path_concat_ne_empty hne), parent_path hcolon]

theorem candidates_path_concat (h : IsSpace (segments ++ [s])) (name : String) :
    candidates (path (segments ++ [s])) name =
      path (segments ++ [s] ++ [name]) :: candidates (path segments) name := by
  rw [candidates, namespaces_path_concat h, List.map_cons, List.cons_append,
    join_path (h s (by simp)).1]
  rfl

/-- The full names that a name may stand for have fewer and fewer segments before the name. -/
theorem candidates_path (h : IsSpace segments) (name : String) :
    candidates (path segments) name =
      segments.inits.reverse.map fun leading => path (leading ++ [name]) := by
  induction segments using List.reverseRecOn with
  | nil => simp [candidates, namespaces]
  | append_singleton segments s ih =>
    rw [candidates_path_concat h, ih h.of_concat.1, List.inits_append]
    simp

theorem forall_mem_path {P : Char → Prop} (hcolon : P ':')
    (h : ∀ s ∈ segments, ∀ c ∈ s.toList, P c) : ∀ c ∈ (path segments).toList, P c := by
  induction segments using List.reverseRecOn with
  | nil => nofun
  | append_singleton segments s ih =>
    obtain ⟨hsegments, hs⟩ := List.forall_mem_append.mp h
    have hs := hs s (List.mem_singleton_self s)
    by_cases hne : segments = []
    · simpa [hne] using hs
    · have hseparator : ∀ c ∈ separator.toList, P c := by simpa [separator] using hcolon
      rw [path_concat hne, String.toList_append, String.toList_append]
      exact List.forall_mem_append.mpr
        ⟨List.forall_mem_append.mpr ⟨ih hsegments, hseparator⟩, hs⟩

/-- A namespace of segments in lower case is in lower case. -/
theorem lower_path (h : IsSpace segments) : Text.lower (path segments) = path segments := by
  have hsmall : ∀ c ∈ (path segments).toList, Text.IsSmall c := by
    refine forall_mem_path (by decide) fun s hs c hc => ?_
    have hlower := congrArg String.toList (h s hs).2.2
    rw [Text.lower, String.toList_ofList] at hlower
    rw [← hlower] at hc
    exact Text.isSmall_of_mem_lowerFrom hc
  rw [Text.lower, Text.lowerChars, Text.lowerFrom_of_isSmall [] hsmall, String.ofList_toList]

/-- A name has an anchor exactly if it begins with the separator. -/
theorem absolute?_eq_some_iff {full : String} :
    absolute? name = some full ↔ name = separator ++ full := by
  have hseparator : separator.toList = [':', ':'] := rfl
  rw [absolute?, ← String.toList_inj, String.toList_append, hseparator]
  split
  · rename_i rest hname
    rw [hname, Option.some.injEq, ← String.toList_inj, String.toList_ofList]
    simp
  · rename_i hname
    simp only [reduceCtorEq, false_iff]
    exact fun h => hname _ h

end Name

namespace Text

variable {name : String}

theorem hasSeparator_map_toLower : ∀ {cs : List Char}, (∀ c ∈ cs, c.toNat < 128) →
    Name.hasSeparator (cs.map Char.toLower) = Name.hasSeparator cs
  | [], _ => rfl
  | [c], h => by
    simp [Name.hasSeparator]
  | c :: d :: cs, h => by
    have ih := hasSeparator_map_toLower fun x hx => h x (List.mem_cons_of_mem c hx)
    have hc := toLower_eq_colon_iff (h c (by simp))
    have hd := toLower_eq_colon_iff (h d (by simp))
    rw [List.map_cons, Name.hasSeparator, Name.hasSeparator, ih]
    simp [Bool.beq_eq_decide_eq, hc, hd]

theorem isQualified_lower (h : IsAscii name) :
    Name.isQualified (lower name) = Name.isQualified name := by
  rw [Name.isQualified, Name.isQualified, toList_lower h, hasSeparator_map_toLower h]

theorem lower_anchored (h : IsAscii name) :
    lower (Name.separator ++ name) = Name.separator ++ lower name := by
  have hanchored : IsAscii (Name.separator ++ name) := by
    intro c hc
    rw [String.toList_append] at hc
    rcases List.mem_append.mp hc with hc | hc
    · exact (by decide : IsAscii Name.separator) c hc
    · exact h c hc
  rw [← String.toList_inj, toList_lower hanchored, String.toList_append, String.toList_append,
    List.map_append, toList_lower h]
  rfl

/-- A name that has no anchor gets none in lower case. -/
theorem absolute?_lower_eq_none (h : IsAscii name)
    (hanchor : ∀ full, name ≠ Name.separator ++ full) : Name.absolute? (lower name) = none := by
  refine Option.eq_none_iff_forall_ne_some.mpr fun full hfull => ?_
  rw [Name.absolute?_eq_some_iff, ← String.toList_inj, toList_lower h,
    String.toList_append] at hfull
  have hcolons : name.toList.map Char.toLower = ':' :: ':' :: full.toList := hfull
  obtain ⟨c, cs, hcs, hc, hmore⟩ := List.map_eq_cons_iff.mp hcolons
  obtain ⟨d, rest, rfl, hd, -⟩ := List.map_eq_cons_iff.mp hmore
  obtain rfl := (toLower_eq_colon_iff (h c (by simp [hcs]))).mp hc
  obtain rfl := (toLower_eq_colon_iff (h d (by simp [hcs]))).mp hd
  refine hanchor (String.ofList rest) ?_
  rw [← String.toList_inj, hcs, String.toList_append, String.toList_ofList]
  rfl

end Text

end Manifest
