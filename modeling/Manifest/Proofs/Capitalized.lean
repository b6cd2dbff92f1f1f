import Manifest.Proofs.Name
import Manifest.Proofs.Text.Case

/-!
# Names in lower case and in their capitalised form

A definition is called by a name in lower case, a reference by the capitalised form of it, and both
say the same: the segments of such a name begin with small ASCII letters or underscores, so that
nothing is lost when their first characters are capitalised and brought back to lower case.  Other
first characters would not come back, such as a dotless i.

## Main definitions

* `Name.IsPlain` — the shape of names without anchor.
* `Name.IsCanonical` — such a name in lower case.

## Main results

* `Name.isCanonical_lower`, `Name.IsCanonical.join` — how canonical names come about.
* `Name.IsCanonical.lower_capitalize` — they are read off their capitalised forms.
* `Name.notMem_capitalize` — a capitalised form holds no other caseless characters than the name.
* `Name.capitalize_lower` — a name has the same capitalised form in any case.
-/

namespace Manifest.Name

/-! ### Segments -/

theorem mem_of_mem_dropAnchors {c : Char} : ∀ {cs : List Char}, c ∈ dropAnchors cs → c ∈ cs := by
  intro cs
  fun_induction dropAnchors cs with
  | case1 rest ih => exact fun h => List.mem_cons_of_mem _ (List.mem_cons_of_mem _ (ih h))
  | case2 cs => exact id

theorem mem_of_mem_segments {c : Char} :
    ∀ {cs s : List Char}, s ∈ segments cs → c ∈ s → c ∈ cs := by
  intro cs
  fun_induction segments cs with
  | case1 =>
    intro s hs hc
    rw [List.mem_singleton.mp hs] at hc
    exact hc
  | case2 rest ih =>
    intro s hs hc
    rcases List.mem_cons.mp hs with rfl | hs
    · cases hc
    · exact List.mem_cons_of_mem _ (List.mem_cons_of_mem _ (ih hs hc))
  | case3 d rest _ hnil ih =>
    intro s hs hc
    rw [List.mem_singleton.mp hs, List.mem_singleton] at hc
    exact hc ▸ List.mem_cons_self
  | case4 d rest _ first more hrest ih =>
    intro s hs hc
    rw [hrest] at ih
    rcases List.mem_cons.mp hs with rfl | hs
    · rcases List.mem_cons.mp hc with rfl | hc
      · exact List.mem_cons_self
      · exact List.mem_cons_of_mem d (ih List.mem_cons_self hc)
    · exact List.mem_cons_of_mem d (ih (List.mem_cons_of_mem first hs) hc)

/-- Only colons are put between segments. -/
theorem mem_joinSegments {c : Char} : ∀ {ss : List (List Char)}, c ∈ joinSegments ss →
    c = ':' ∨ ∃ s ∈ ss, c ∈ s
  | [], h => absurd h List.not_mem_nil
  | [s], h => .inr ⟨s, List.mem_cons_self, h⟩
  | s :: t :: more, h => by
    simp only [joinSegments, List.mem_append, List.mem_cons] at h
    rcases h with h | h | h | h
    · exact .inr ⟨s, List.mem_cons_self, h⟩
    · exact .inl h
    · exact .inl h
    · exact (mem_joinSegments h).imp_right fun ⟨u, hu, hc⟩ => ⟨u, List.mem_cons_of_mem s hu, hc⟩

theorem notMem_capitalize {a : Char} (ha : Text.IsCaseless a) (hcolon : a ≠ ':') {name : String}
    (h : a ∉ name.toList) : a ∉ (capitalize name).toList := by
  rw [capitalize, String.toList_ofList]
  intro hmem
  obtain ⟨s, hs, has⟩ := (mem_joinSegments hmem).resolve_left hcolon
  obtain ⟨t, ht, rfl⟩ := List.mem_map.mp hs
  exact ha.notMem_capitalizeChars
    (fun hat => h (mem_of_mem_dropAnchors (mem_of_mem_segments ht hat))) has

theorem segments_ne_nil (cs : List Char) : segments cs ≠ [] := by
  fun_induction segments cs <;> nofun

theorem joinSegments_segments (cs : List Char) : joinSegments (segments cs) = cs := by
  fun_induction segments cs with
  | case1 => rfl
  | case2 rest ih =>
    cases hrest : segments rest with
    | nil => exact absurd hrest (segments_ne_nil rest)
    | cons s more => rw [joinSegments, ← hrest, ih]; rfl; nofun
  | case3 c rest _ hnil _ => exact absurd hnil (segments_ne_nil rest)
  | case4 c rest _ s more hrest ih =>
    rw [hrest] at ih
    rw [← ih]
    cases more <;> rfl

/-! ### The shape of a name -/

/-- A name without anchor, each of whose segments begins with a small ASCII letter or an
underscore. -/
def IsPlain (inside : Char → Prop) : List Char → Prop :=
  IsPlainName Text.isLowerStart Text.isLowerStart inside

/-- A character that stands inside a segment of a name in lower case. -/
def IsInside (c : Char) : Prop := c ≠ ':' ∧ Text.IsSmall c

/-- A name without anchor in lower case. -/
def IsCanonical (name : String) : Prop := IsPlain IsInside name.toList

variable {inside : Char → Prop} {cs ds : List Char} {c : Char} {name space : String}

/-- What is known of the characters that segments begin with. -/
theorem isInside_of_isLowerStart (h : Text.isLowerStart c = true) :
    IsInside c ∧ Text.upperChar c = [c.toUpper] ∧ c.toUpper ≠ 'Σ' ∧
      Text.lowerChar c.toUpper = [c] := by
  obtain ⟨hcolon, hsigma, hascii, hlower, hcapital, hback⟩ :=
    nameStart_forall (P := fun c => Text.isLowerStart c = true →
        c ≠ ':' ∧ c ≠ 'Σ' ∧ c.toNat < 128 ∧ c.toLower = c ∧
          (c.toUpper ≠ 'Σ' ∧ c.toUpper.toNat < 128) ∧ c.toUpper.toLower = c)
      (by decide) (isNameStart_of_isLowerStart h) h
  refine ⟨⟨hcolon, hsigma, ?_⟩, ?_, hcapital.1, ?_⟩
  · rw [Text.lowerChar, if_pos hascii, hlower]
  · rw [Text.upperChar, if_pos hascii]
  · rw [Text.lowerChar, if_pos hcapital.2, hback]

/-! ### Canonical names -/

theorem isSmall_colon : Text.IsSmall ':' := by decide

/-- The tail of a name keeps its shape in lower case. -/
theorem isNameTail_lowerFrom
    (h : IsNameTail Text.isLowerStart (Text.isWordChar · = true) cs) :
    ∀ before, IsNameTail Text.isLowerStart IsInside (Text.lowerFrom before cs) := by
  induction h with
  | nil => exact fun _ => .nil
  | @inside c rest hc _ ih =>
    intro before
    have hcolon : c ≠ ':' := by
      rintro rfl
      exact absurd hc (by decide)
    refine (IsNameTail.of_forall fun d hd => ⟨?_, Text.isSmall_of_mem_lowerAt hd⟩).append (ih _)
    rintro rfl
    exact Text.isCaseless_colon.notMem_lowerAt hcolon before rest hd
  | @segment c rest hc _ ih =>
    intro before
    have hsmall := (isInside_of_isLowerStart hc).1.2
    simp only [Text.lowerFrom, Text.lowerAt_of_isSmall isSmall_colon,
      Text.lowerAt_of_isSmall hsmall, List.singleton_append]
    exact .segment hc (ih _)

theorem isCanonical_lower (h : IsPlain (Text.isWordChar · = true) name.toList) :
    IsCanonical (Text.lower name) := by
  obtain ⟨c, rest, hname, hc, hrest⟩ := h
  rw [IsCanonical, Text.lower, String.toList_ofList, Text.lowerChars, hname, Text.lowerFrom,
    Text.lowerAt_of_isSmall (isInside_of_isLowerStart hc).1.2]
  exact ⟨c, _, rfl, hc, isNameTail_lowerFrom hrest _⟩

theorem IsPlain.append (h : IsPlain inside cs) (h' : IsPlain inside ds) :
    IsPlain inside (cs ++ ':' :: ':' :: ds) := by
  obtain ⟨c, rest, rfl, hc, hrest⟩ := h
  obtain ⟨d, more, rfl, hd, hmore⟩ := h'
  exact ⟨c, _, rfl, hc, hrest.append (.segment hd hmore)⟩

theorem not_isCanonical_empty : ¬IsCanonical "" := by
  rintro ⟨c, rest, hname, -⟩
  cases hname

/-- A canonical name inside a namespace. -/
theorem IsCanonical.join (hspace : space = "" ∨ IsCanonical space) (h : IsCanonical name) :
    IsCanonical (Name.join space name) := by
  unfold Name.join
  split
  · exact h
  · next hne =>
    rw [IsCanonical, String.toList_append, String.toList_append, List.append_assoc]
    exact (hspace.resolve_left hne).append h

/-! ### Capitalised forms -/

/-- A segment of a canonical name. -/
def IsCanonicalSegment (s : List Char) : Prop :=
  ∃ c rest, s = c :: rest ∧ Text.isLowerStart c = true ∧ ∀ d ∈ rest, IsInside d

theorem segments_cons (h : c ≠ ':') {s : List Char} {more : List (List Char)}
    (hcs : segments cs = s :: more) : segments (c :: cs) = (c :: s) :: more := by
  rw [segments, hcs]
  rintro rest rfl
  exact absurd rfl h

/-- The segments of a tail: the rest of the first one, and whole ones. -/
theorem segments_of_isNameTail (h : IsNameTail Text.isLowerStart IsInside cs) :
    ∃ s more, segments cs = s :: more ∧ (∀ d ∈ s, IsInside d) ∧
      ∀ t ∈ more, IsCanonicalSegment t := by
  induction h with
  | nil => exact ⟨[], [], rfl, nofun, nofun⟩
  | inside hc _ ih =>
    obtain ⟨s, more, hcs, hs, hmore⟩ := ih
    exact ⟨_, more, segments_cons hc.1 hcs, List.forall_mem_cons.mpr ⟨hc, hs⟩, hmore⟩
  | @segment c rest hc _ ih =>
    obtain ⟨s, more, hcs, hs, hmore⟩ := ih
    have hsegments := segments_cons (isInside_of_isLowerStart hc).1.1 hcs
    refine ⟨[], (c :: s) :: more, congrArg ([] :: ·) hsegments, nofun, ?_⟩
    exact List.forall_mem_cons.mpr ⟨⟨c, s, rfl, hc, hs⟩, hmore⟩

theorem IsPlain.segments (h : IsPlain IsInside cs) : ∀ t ∈ segments cs, IsCanonicalSegment t := by
  obtain ⟨c, rest, rfl, hc, hrest⟩ := h
  obtain ⟨s, more, hsegments, hs, hmore⟩ := segments_of_isNameTail hrest
  rw [segments_cons (isInside_of_isLowerStart hc).1.1 hsegments]
  exact List.forall_mem_cons.mpr ⟨⟨c, s, rfl, hc, hs⟩, hmore⟩

theorem IsPlain.dropAnchors (h : IsPlain IsInside cs) : dropAnchors cs = cs := by
  obtain ⟨c, rest, rfl, hc, -⟩ := h
  rw [Name.dropAnchors]
  rintro tail hcons
  cases (List.cons.inj hcons).1
  exact absurd hc (by decide)

/-- A segment is read off its capitalised form, which holds no capital sigma. -/
theorem IsCanonicalSegment.flatMap_capitalizeChars {s : List Char} (h : IsCanonicalSegment s) :
    'Σ' ∉ Text.capitalizeChars s ∧ (Text.capitalizeChars s).flatMap Text.lowerChar = s := by
  obtain ⟨c, rest, rfl, hc, hrest⟩ := h
  obtain ⟨hinside, hupper, hsigma, hlower⟩ := isInside_of_isLowerStart hc
  have hsmall : ∀ d ∈ c :: rest, Text.IsSmall d :=
    List.forall_mem_cons.mpr ⟨hinside.2, fun d hd => (hrest d hd).2⟩
  have hcapital : Text.capitalizeChars (c :: rest) = c.toUpper :: rest := by
    rw [Text.capitalizeChars, Text.lowerChars, Text.lowerFrom_of_isSmall [] hsmall]
    simp only [hupper, List.singleton_append]
  have hkept : rest.flatMap Text.lowerChar = rest := by
    rw [← Text.lowerFrom_eq_flatMap [] fun hmem => (hrest _ hmem).2.1 rfl]
    exact Text.lowerFrom_of_isSmall [] fun d hd => (hrest d hd).2
  rw [hcapital]
  refine ⟨?_, by rw [List.flatMap_cons, hlower, hkept]; rfl⟩
  rw [List.mem_cons, not_or]
  exact ⟨hsigma.symm, fun hmem => (hrest _ hmem).2.1 rfl⟩

theorem flatMap_joinSegments : ∀ ss : List (List Char),
    (joinSegments ss).flatMap Text.lowerChar =
      joinSegments (ss.map (List.flatMap Text.lowerChar))
  | [] => rfl
  | [s] => rfl
  | s :: t :: more => by
    have ih := flatMap_joinSegments (t :: more)
    rw [List.map_cons] at ih
    simp only [joinSegments, List.map_cons, List.flatMap_append, List.flatMap_cons,
      isSmall_colon.2, ih]
    rfl

/-- The name is what the capitalised form is in lower case. -/
theorem IsCanonical.lower_capitalize (h : IsCanonical name) :
    Text.lower (capitalize name) = name := by
  have hsegments : ∀ t ∈ segments name.toList, IsCanonicalSegment t := IsPlain.segments h
  rw [capitalize, IsPlain.dropAnchors h, Text.lower, Text.lowerChars, String.toList_ofList,
    Text.lowerFrom_eq_flatMap, flatMap_joinSegments, List.map_map]
  · have hread : (segments name.toList).map
        (List.flatMap Text.lowerChar ∘ Text.capitalizeChars) = segments name.toList :=
      (List.map_congr_left fun t ht => (hsegments t ht).flatMap_capitalizeChars.2).trans
        (List.map_id _)
    rw [hread, joinSegments_segments, String.ofList_toList]
  · intro hmem
    obtain hcolon | ⟨s, hs, hsigma⟩ := mem_joinSegments hmem
    · exact absurd hcolon (by decide)
    · obtain ⟨t, ht, rfl⟩ := List.mem_map.mp hs
      exact (hsegments t ht).flatMap_capitalizeChars.1 hsigma

/-! ### Names in any case -/

/-- A colon in lower case has been one before. -/
theorem exists_of_flatMap_lowerChar {more : List Char}
    (h : cs.flatMap Text.lowerChar = ':' :: more) :
    ∃ rest, cs = ':' :: rest ∧ rest.flatMap Text.lowerChar = more := by
  cases cs with
  | nil => cases h
  | cons c rest =>
    by_cases hc : c = ':'
    · rw [hc, List.flatMap_cons, isSmall_colon.2] at h
      exact ⟨rest, by rw [hc], List.tail_eq_of_cons_eq h⟩
    · obtain ⟨d, ds, hd⟩ := List.exists_cons_of_ne_nil (Text.lowerChar_ne_nil c)
      have hnot := Text.isCaseless_colon.notMem_lowerChar hc
      rw [List.flatMap_cons, hd, List.cons_append] at h
      rw [hd, List.head_eq_of_cons_eq h] at hnot
      exact absurd List.mem_cons_self hnot

theorem dropAnchors_flatMap_lowerChar (cs : List Char) :
    dropAnchors (cs.flatMap Text.lowerChar) = (dropAnchors cs).flatMap Text.lowerChar := by
  fun_induction dropAnchors cs with
  | case1 rest ih =>
    simp only [List.flatMap_cons, isSmall_colon.2, List.singleton_append, dropAnchors]
    exact ih
  | case2 cs hcs =>
    rw [dropAnchors]
    intro rest h
    obtain ⟨tail, rfl, htail⟩ := exists_of_flatMap_lowerChar h
    obtain ⟨more, rfl, -⟩ := exists_of_flatMap_lowerChar htail
    exact hcs more rfl

theorem segments_append {s : List Char} {more : List (List Char)} (hcs : segments cs = s :: more) :
    ∀ {xs : List Char}, ':' ∉ xs → segments (xs ++ cs) = (xs ++ s) :: more
  | [], _ => hcs
  | _ :: _, h => by
    rw [List.mem_cons, not_or] at h
    exact segments_cons (Ne.symm h.1) (segments_append hcs h.2)

theorem segments_flatMap_lowerChar (cs : List Char) :
    segments (cs.flatMap Text.lowerChar) = (segments cs).map (List.flatMap Text.lowerChar) := by
  fun_induction segments cs with
  | case1 => rfl
  | case2 rest ih =>
    simp only [List.flatMap_cons, isSmall_colon.2, List.singleton_append, segments, ih,
      List.map_cons]
    rfl
  | case3 c rest _ hnil _ => exact absurd hnil (segments_ne_nil rest)
  | case4 c rest hcolons s more hrest ih =>
    rw [hrest, List.map_cons] at ih
    by_cases hc : c = ':'
    · -- A single colon stays a single one, and belongs to the segment.
      rw [hc, List.flatMap_cons, isSmall_colon.2, List.singleton_append, segments, ih,
        List.map_cons, List.flatMap_cons, isSmall_colon.2, List.singleton_append]
      intro tail _ h
      obtain ⟨behind, hbehind, -⟩ := exists_of_flatMap_lowerChar h
      exact hcolons behind hc hbehind
    · rw [List.flatMap_cons, segments_append ih (Text.isCaseless_colon.notMem_lowerChar hc),
        List.map_cons, List.flatMap_cons]

/-- The capitalised form of a name does not depend on the case in which it is written, as long as
every character has a lower case of its own. -/
theorem capitalize_lower (h : 'Σ' ∉ name.toList) :
    capitalize (Text.lower name) = capitalize name := by
  have hsegment : ∀ s ∈ segments (dropAnchors name.toList),
      Text.capitalizeChars (s.flatMap Text.lowerChar) = Text.capitalizeChars s := by
    intro s hs
    have hsigma : 'Σ' ∉ s := fun hmem => h (mem_of_mem_dropAnchors (mem_of_mem_segments hs hmem))
    rw [← Text.lowerFrom_eq_flatMap [] hsigma]
    exact Text.capitalizeChars_lowerChars s
  rw [capitalize, capitalize, Text.lower, String.toList_ofList, Text.lowerChars,
    Text.lowerFrom_eq_flatMap [] h, dropAnchors_flatMap_lowerChar, segments_flatMap_lowerChar,
    List.map_map]
  exact congrArg (fun ss => String.ofList (joinSegments ss)) (List.map_congr_left hsegment)

/-- A canonical name has no anchor. -/
theorem IsCanonical.absolute?_eq_none (h : IsCanonical name) : absolute? name = none := by
  obtain ⟨c, rest, hname, hc, -⟩ := h
  rw [absolute?, hname]
  split
  · next hcons =>
    cases (List.cons.inj hcons).1
    exact absurd hc (by decide)
  · rfl

end Manifest.Name
