import Manifest.Proofs.Capitalized
import Manifest.Reference
import Mathlib.Data.List.DropRight

/-!
# Blanks and quotes around a title

Reading a reference drops the blanks at both ends of the title and then one quote at each end of
what is left.  Nothing is dropped exactly if there is no blank at an end and the title does not
stand in quotes.  Capitalising a name neither brings blanks or quotes in nor takes any away, so it
cannot make up for what has been dropped.

## Main definitions

* `Reference.IsPadded`, `Reference.IsInQuotes` — titles of which something is dropped.
* `Reference.bare` — what is left of a title.
* `Reference.isWrapper` — blanks and quotes.

## Main results

* `Reference.bare_eq_self_iff` — when nothing is dropped.
* `Reference.filter_capitalize` — capitalising leaves blanks and quotes where they are.
* `Reference.capitalize_bare_eq_iff` — when a capitalised title is read as itself.
-/

namespace Manifest.Reference

variable {c : Char} {cs : List Char} {name : String} {p q : Char → Bool}

/-! ### What is dropped -/

/-- There is a blank at one end. -/
def IsPadded (cs : List Char) : Prop :=
  ∃ b rest, Text.isBlank b = true ∧ (cs = b :: rest ∨ cs = rest ++ [b])

/-- There is a quote at both ends, of either kind. -/
def IsInQuotes (cs : List Char) : Prop :=
  ∃ q inner r, isQuote q = true ∧ isQuote r = true ∧ cs = q :: (inner ++ [r])

/-- What is left of a title. -/
def bare (cs : List Char) : List Char := unquote (Text.trimChars cs)

/-- A blank or a quote. -/
def isWrapper (c : Char) : Bool := Text.isBlank c || isQuote c

/-- A text stands in another one with nothing but certain characters around it. -/
def Surrounded (p : Char → Bool) (inner outer : List Char) : Prop :=
  ∃ before after, outer = before ++ (inner ++ after) ∧ ∀ c ∈ before ++ after, p c = true

theorem Surrounded.length_le {inner : List Char} (h : Surrounded p inner cs) :
    inner.length ≤ cs.length := by
  obtain ⟨before, after, rfl, -⟩ := h
  simp only [List.length_append]
  omega

theorem Surrounded.eq_of_length_le {inner : List Char} (h : Surrounded p inner cs)
    (hlength : cs.length ≤ inner.length) : inner = cs := by
  obtain ⟨before, after, rfl, -⟩ := h
  simp only [List.length_append] at hlength
  obtain rfl : before = [] := List.length_eq_zero_iff.mp (by omega)
  obtain rfl : after = [] := List.length_eq_zero_iff.mp (by omega)
  rw [List.nil_append, List.append_nil]

/-- If there are as many of these characters in it as in the other one, there are none around it. -/
theorem Surrounded.eq_of_filter {inner : List Char} (h : Surrounded p inner cs)
    (hfilter : inner.filter p = cs.filter p) : inner = cs := by
  refine h.eq_of_length_le ?_
  obtain ⟨before, after, rfl, hp⟩ := h
  obtain ⟨hbefore, hafter⟩ := List.forall_mem_append.mp hp
  have hlength := congrArg List.length hfilter
  rw [List.filter_append, List.filter_append, List.filter_eq_self.mpr hbefore,
    List.filter_eq_self.mpr hafter] at hlength
  simp only [List.length_append] at hlength ⊢
  omega

theorem Surrounded.trans {inner outer : List Char} (h : Surrounded p inner cs)
    (h' : Surrounded q cs outer) : Surrounded (fun c => q c || p c) inner outer := by
  obtain ⟨before, after, rfl, hp⟩ := h
  obtain ⟨before', after', rfl, hq⟩ := h'
  refine ⟨before' ++ before, after ++ after', by simp only [List.append_assoc], fun c hc => ?_⟩
  have hmem : c ∈ before ++ after ∨ c ∈ before' ++ after' := by
    simp only [List.mem_append] at hc ⊢
    tauto
  rw [Bool.or_eq_true]
  exact hmem.elim (fun hc => .inr (hp c hc)) fun hc => .inl (hq c hc)

theorem trimChars_eq (cs : List Char) :
    Text.trimChars cs = (cs.dropWhile Text.isBlank).rdropWhile Text.isBlank := rfl

theorem surrounded_trimChars (cs : List Char) :
    Surrounded Text.isBlank (Text.trimChars cs) cs := by
  refine ⟨cs.takeWhile Text.isBlank, (cs.dropWhile Text.isBlank).rtakeWhile Text.isBlank, ?_,
    List.forall_mem_append.mpr ⟨fun _ => List.mem_takeWhile_imp,
      fun _ => List.mem_rtakeWhile_imp⟩⟩
  rw [trimChars_eq, List.rdropWhile_append_rtakeWhile, List.takeWhile_append_dropWhile]

theorem trimChars_eq_self_iff : Text.trimChars cs = cs ↔ ¬ IsPadded cs := by
  constructor
  · rintro h ⟨b, rest, hb, hcs⟩
    have hlength : cs.length ≤ (cs.dropWhile Text.isBlank).length := by
      conv_lhs => rw [← h, trimChars_eq]
      exact (List.rdropWhile_prefix _ _).length_le
    have hdrop : cs.dropWhile Text.isBlank = cs :=
      (List.dropWhile_suffix _).eq_of_length_le hlength
    have hrdrop : cs.rdropWhile Text.isBlank = cs := by rw [trimChars_eq, hdrop] at h; exact h
    rcases hcs with rfl | rfl
    · rw [List.dropWhile_cons_of_pos hb] at hdrop
      have hlength := (List.dropWhile_suffix Text.isBlank (l := rest)).length_le
      rw [hdrop, List.length_cons] at hlength
      omega
    · exact List.rdropWhile_eq_self_iff.mp hrdrop (List.concat_ne_nil b rest) (by simpa using hb)
  · intro h
    have hdrop : cs.dropWhile Text.isBlank = cs := by
      cases cs with
      | nil => rfl
      | cons b rest => exact List.dropWhile_cons_of_neg fun hb => h ⟨b, rest, hb, .inl rfl⟩
    rw [trimChars_eq, hdrop]
    exact List.rdropWhile_eq_self_iff.mpr fun hne hb =>
      h ⟨_, _, hb, .inr (List.dropLast_append_getLast hne).symm⟩

theorem unquote_of_quotes {q r : Char} {inner : List Char} (hq : isQuote q = true)
    (hr : isQuote r = true) : unquote (q :: (inner ++ [r])) = inner := by
  simp [unquote, hq, hr]

theorem unquote_of_not_inQuotes (h : ¬ IsInQuotes cs) : unquote cs = cs := by
  unfold unquote
  split
  · rfl
  · rename_i q rest
    split
    · rename_i r hr
      split
      · rename_i hquotes
        rw [Bool.and_eq_true] at hquotes
        obtain ⟨inner, rfl⟩ := List.getLast?_eq_some_iff.mp hr
        exact absurd ⟨q, inner, r, hquotes.1, hquotes.2, rfl⟩ h
      · rfl
    · rfl

theorem surrounded_unquote (cs : List Char) : Surrounded isQuote (unquote cs) cs := by
  by_cases h : IsInQuotes cs
  · obtain ⟨q, inner, r, hq, hr, rfl⟩ := h
    refine ⟨[q], [r], ?_, by simp [hq, hr]⟩
    rw [unquote_of_quotes hq hr]
    rfl
  · exact ⟨[], [], by simp [unquote_of_not_inQuotes h], nofun⟩

theorem unquote_eq_self_iff : unquote cs = cs ↔ ¬ IsInQuotes cs := by
  refine ⟨?_, unquote_of_not_inQuotes⟩
  rintro h ⟨q, inner, r, hq, hr, rfl⟩
  rw [unquote_of_quotes hq hr] at h
  have hlength := congrArg List.length h
  simp only [List.length_cons, List.length_append, List.length_nil] at hlength
  omega

/-- Nothing but blanks and quotes is dropped. -/
theorem surrounded_bare (cs : List Char) : Surrounded isWrapper (bare cs) cs :=
  (surrounded_unquote _).trans (surrounded_trimChars cs)

/-- Nothing is dropped of titles without a blank at an end that do not stand in quotes. -/
theorem bare_eq_self_iff : bare cs = cs ↔ ¬ IsPadded cs ∧ ¬ IsInQuotes cs := by
  refine ⟨fun h => ?_, fun ⟨hpadded, hquotes⟩ => ?_⟩
  · rw [bare] at h
    have hlength := (surrounded_unquote (Text.trimChars cs)).length_le
    rw [h] at hlength
    have htrim : Text.trimChars cs = cs := (surrounded_trimChars cs).eq_of_length_le hlength
    rw [htrim] at h
    exact ⟨trimChars_eq_self_iff.mp htrim, unquote_eq_self_iff.mp h⟩
  · rw [bare, trimChars_eq_self_iff.mpr hpadded, unquote_of_not_inQuotes hquotes]

/-! ### Capitalising leaves blanks and quotes alone -/

/-- The codes of blanks and quotes. -/
def wrapperCodes : List Nat :=
  [0x9, 0xA, 0xB, 0xC, 0xD, 0x20, 0x22, 0x27, 0x85, 0xA0, 0x1680, 0x2000, 0x2001, 0x2002, 0x2003,
   0x2004, 0x2005, 0x2006, 0x2007, 0x2008, 0x2009, 0x200A, 0x2028, 0x2029, 0x202F, 0x205F, 0x3000]

theorem mem_wrapperCodes (h : isWrapper c = true) : c.toNat ∈ wrapperCodes := by
  rw [isWrapper, Bool.or_eq_true] at h
  rcases h with h | h
  · rw [Text.isBlank, Text.Ranges.contains] at h
    simp only [Text.blankRanges, List.any_cons, List.any_nil, Bool.or_false, Bool.or_eq_true,
      Bool.and_eq_true, decide_eq_true_eq] at h
    simp only [wrapperCodes, List.mem_cons, List.not_mem_nil, or_false]
    omega
  · rw [isQuote, Bool.or_eq_true, beq_iff_eq, beq_iff_eq] at h
    rcases h with rfl | rfl <;> decide

theorem isCaseless_ofNat : ∀ n ∈ wrapperCodes, Text.IsCaseless (Char.ofNat n) := fun n hn =>
  { ne_zero := (by decide +kernel : ∀ n ∈ wrapperCodes, Char.ofNat n ≠ '\x00') n hn
    ascii := (by decide +kernel : ∀ m ∈ wrapperCodes, ∀ n < 128, Char.ofNat n ≠ Char.ofNat m →
      (Char.ofNat n).toLower ≠ Char.ofNat m ∧ (Char.ofNat n).toUpper ≠ Char.ofNat m) n hn
    single := (by decide +kernel : ∀ m ∈ wrapperCodes, Char.ofNat m ∉ ['i', '\u0307', 'ς', 'σ'] ∧
      ∀ e ∈ Text.upperExpansions, Char.ofNat m ∉ e.2.map Char.ofNat) n hn
    runs := (by decide +kernel : ∀ m ∈ wrapperCodes,
      (∀ r ∈ Text.lowerRuns, Text.Run.Avoids (Char.ofNat m).toNat r) ∧
        ∀ r ∈ Text.upperRuns, Text.Run.Avoids (Char.ofNat m).toNat r) n hn }

theorem isCaseless_of_isWrapper (h : isWrapper c = true) : Text.IsCaseless c :=
  Char.ofNat_toNat c ▸ isCaseless_ofNat c.toNat (mem_wrapperCodes h)

theorem fixed_ofNat : ∀ n ∈ wrapperCodes, Char.ofNat n ≠ 'Σ' ∧
    Text.lowerChar (Char.ofNat n) = [Char.ofNat n] ∧
      Text.upperChar (Char.ofNat n) = [Char.ofNat n] := by decide +kernel

/-- Blanks and quotes have no case. -/
theorem lowerChar_of_isWrapper (h : isWrapper c = true) :
    c ≠ 'Σ' ∧ Text.lowerChar c = [c] ∧ Text.upperChar c = [c] :=
  Char.ofNat_toNat c ▸ fixed_ofNat c.toNat (mem_wrapperCodes h)

/-- A change of case that leaves blanks and quotes as they are keeps them, and brings none in. -/
theorem filter_eq_of_fixed {ds : List Char} (hfixed : isWrapper c = true → ds = [c])
    (hcaseless : ∀ a ∈ ds, Text.IsCaseless a → c = a) :
    ds.filter isWrapper = [c].filter isWrapper := by
  cases hc : isWrapper c with
  | true => rw [hfixed hc]
  | false =>
    have hnone : [c].filter isWrapper = [] := by simp [hc]
    rw [hnone, List.filter_eq_nil_iff]
    intro a ha hwrapper
    rw [hcaseless a ha (isCaseless_of_isWrapper hwrapper), hwrapper] at hc
    cases hc

theorem filter_lowerAt (before after : List Char) :
    (Text.lowerAt before c after).filter isWrapper = [c].filter isWrapper := by
  refine filter_eq_of_fixed (fun hc => ?_) fun a ha hcaseless => ?_
  · obtain ⟨hsigma, hlower, -⟩ := lowerChar_of_isWrapper hc
    rw [Text.lowerAt, if_neg hsigma, hlower]
  · by_contra hne
    exact hcaseless.notMem_lowerAt hne before after ha

theorem filter_upperChar : (Text.upperChar c).filter isWrapper = [c].filter isWrapper := by
  refine filter_eq_of_fixed (fun hc => (lowerChar_of_isWrapper hc).2.2) fun a ha hcaseless => ?_
  by_contra hne
  exact hcaseless.notMem_upperChar hne ha

theorem filter_lowerFrom : ∀ (before cs : List Char),
    (Text.lowerFrom before cs).filter isWrapper = cs.filter isWrapper
  | _, [] => rfl
  | before, c :: cs => by
    rw [Text.lowerFrom, List.filter_append, filter_lowerAt, filter_lowerFrom (c :: before) cs,
      ← List.filter_append, List.singleton_append]

theorem filter_capitalizeChars (cs : List Char) :
    (Text.capitalizeChars cs).filter isWrapper = cs.filter isWrapper := by
  rw [← filter_lowerFrom [] cs, ← Text.lowerChars, Text.capitalizeChars]
  cases Text.lowerChars cs with
  | nil => rfl
  | cons c rest =>
    simp only
    rw [List.filter_append, filter_upperChar, ← List.filter_append, List.singleton_append]

theorem filter_joinSegments (ss : List (List Char)) :
    (Name.joinSegments ss).filter isWrapper = ss.flatMap (List.filter isWrapper) := by
  have hcolon : isWrapper ':' = false := by decide
  fun_induction Name.joinSegments ss with
  | case1 => rfl
  | case2 s => rw [List.flatMap_singleton]
  | case3 s more _ ih =>
    rw [List.filter_append, List.filter_cons, List.filter_cons, hcolon, ih]
    rfl

theorem filter_dropAnchors (cs : List Char) :
    (Name.dropAnchors cs).filter isWrapper = cs.filter isWrapper := by
  have hcolon : isWrapper ':' = false := by decide
  fun_induction Name.dropAnchors cs with
  | case1 rest ih => rw [ih, List.filter_cons, List.filter_cons, hcolon]; rfl
  | case2 cs => rfl

/-- Capitalising a name leaves its blanks and quotes as they are. -/
theorem filter_capitalize (name : String) :
    (Name.capitalize name).toList.filter isWrapper = name.toList.filter isWrapper := by
  have hsegments := filter_joinSegments (Name.segments (Name.dropAnchors name.toList))
  rw [Name.joinSegments_segments, filter_dropAnchors] at hsegments
  rw [Name.capitalize, String.toList_ofList, filter_joinSegments, hsegments, List.flatMap_map]
  exact List.flatMap_congr fun s _ => filter_capitalizeChars s

/-- A capitalised title is read as itself if nothing is dropped of it and it is capitalised. -/
theorem capitalize_bare_eq_iff :
    (Name.capitalize (String.ofList (bare cs))).toList = cs ↔
      bare cs = cs ∧ (Name.capitalize (String.ofList cs)).toList = cs := by
  refine ⟨fun h => ?_, fun ⟨hbare, h⟩ => by rw [hbare, h]⟩
  have hfilter := filter_capitalize (String.ofList (bare cs))
  rw [h, String.toList_ofList] at hfilter
  have hbare : bare cs = cs := (surrounded_bare cs).eq_of_filter hfilter.symm
  rw [hbare] at h
  exact ⟨hbare, h⟩

end Manifest.Reference
