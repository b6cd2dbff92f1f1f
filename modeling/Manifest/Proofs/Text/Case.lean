import Manifest.Proofs.Token.Lexemes
import Manifest.Text.Case

/-!
# What changing the case of characters leaves as it is

Characters that are in lower case stay so, wherever they stand: the mapping of single characters is
read off its tables, and only a capital sigma is mapped with regard to its neighbours.  Characters
without a case, such as brackets and colons, come from themselves alone.

## Main definitions

* `IsSmall` — lower case leaves a character as it is.
* `IsCaseless` — no other character becomes this one.

## Main results

* `isSmall_of_mem_lowerFrom` — a text in lower case consists of such characters.
* `lowerFrom_of_isSmall`, `lowerFrom_eq_flatMap` — what lower case makes of a text without sigmas.
* `capitalizeChars_lowerChars` — capitalising a text does not depend on its case.
* `notMem_lowerFrom`, `notMem_capitalizeChars` — changing the case brings no caseless characters in.
-/

namespace Manifest.Text

variable {a c d : Char} {cs : List Char}

/-! ### Characters in lower case -/

/-- Lower case leaves a character as it is, whatever stands around it. -/
def IsSmall (c : Char) : Prop := c ≠ 'Σ' ∧ lowerChar c = [c]

instance (c : Char) : Decidable (IsSmall c) := inferInstanceAs (Decidable (_ ∧ _))

namespace Run

/-- Whether a run maps a code point. -/
def Holds (r : Run) (n : Nat) : Prop :=
  r.first ≤ n ∧ n ≤ r.last ∧ (n - r.first) % r.step = 0

/-- The code points that a run maps to. -/
def image (r : Run) : Run :=
  ⟨((r.first : Int) + r.offset).toNat, ((r.last : Int) + r.offset).toNat, r.step, 0⟩

/-- Runs that lie one behind the other, or the first of which goes in steps of the second one but
begins between two of its code points. -/
def apart (r q : Run) : Bool :=
  r.last.blt q.first || q.last.blt r.first ||
    ((r.first == r.last || r.step % q.step == 0) && q.first ≤ r.first &&
      (r.first - q.first) % q.step != 0)

theorem not_holds_of_apart {r q : Run} {n : Nat} (h : r.apart q = true) (hn : r.Holds n) :
    ¬ q.Holds n := by
  rintro ⟨hfirst, hlast, hstep⟩
  unfold Holds at hn
  simp only [apart, Bool.or_eq_true, Bool.and_eq_true, beq_iff_eq, bne_iff_ne, decide_eq_true_eq,
    Nat.blt_eq] at h
  rcases h with (h | h) | ⟨⟨hr, hle⟩, hbetween⟩
  · omega
  · omega
  · have hdvd : q.step ∣ n - r.first := by
      rcases hr with hone | hr
      · have hzero : n - r.first = 0 := by omega
        rw [hzero]
        exact Nat.dvd_zero q.step
      · exact Nat.dvd_trans (Nat.dvd_of_mod_eq_zero hr) (Nat.dvd_of_mod_eq_zero hn.2.2)
    have hsum : n - q.first = n - r.first + (r.first - q.first) := by omega
    rw [hsum] at hstep
    have hrest := (Nat.dvd_add_right hdvd).mp (Nat.dvd_of_mod_eq_zero hstep)
    exact hbetween (Nat.mod_eq_zero_of_dvd hrest)

theorem Holds.image {r : Run} {n : Nat} (h : r.Holds n) (hr : -r.offset ≤ r.first) :
    r.image.Holds ((n : Int) + r.offset).toNat := by
  obtain ⟨hfirst, hlast, hstep⟩ := h
  have hmoved : ((n : Int) + r.offset).toNat - ((r.first : Int) + r.offset).toNat =
      n - r.first := by omega
  refine ⟨by simp only [Run.image]; omega, by simp only [Run.image]; omega, ?_⟩
  simp only [Run.image, hmoved, hstep]

theorem apply?_eq_some {runs : List Run} {n m : Nat} (h : Run.apply? runs n = some m) :
    ∃ r ∈ runs, r.Holds n ∧ m = ((n : Int) + r.offset).toNat := by
  obtain ⟨r, hr, rfl⟩ := Option.map_eq_some_iff.mp h
  have hin := List.find?_some hr
  simp only [Bool.and_eq_true, decide_eq_true_eq, beq_iff_eq] at hin
  exact ⟨r, List.mem_of_find?_eq_some hr, ⟨hin.1.1, hin.1.2, hin.2⟩, rfl⟩

end Run

theorem apart_lowerRuns :
    (lowerRuns.all fun r => lowerRuns.all r.image.apart) = true := by decide +kernel

theorem neg_offset_le : ∀ r ∈ lowerRuns, -r.offset ≤ r.first := by decide +kernel

/-- What a run of capitals maps to is held by no run of capitals. -/
theorem apply?_lowerRuns_image {n m : Nat} (h : Run.apply? lowerRuns n = some m) :
    Run.apply? lowerRuns m = none := by
  obtain ⟨r, hr, hholds, rfl⟩ := Run.apply?_eq_some h
  rw [← Option.not_isSome_iff_eq_none, Option.isSome_iff_exists]
  rintro ⟨k, hk⟩
  obtain ⟨q, hq, hholds', -⟩ := Run.apply?_eq_some hk
  have hapart := List.all_eq_true.mp (List.all_eq_true.mp apart_lowerRuns r hr) q hq
  exact Run.not_holds_of_apart hapart (hholds.image (neg_offset_le r hr)) hholds'

/-- The code point of the one capital whose lower case is two characters. -/
def dotted : Run := ⟨0x130, 0x130, 1, 0⟩

/-- A run maps to characters above ASCII, or to a single one in lower case. -/
theorem image_lowerRuns : ∀ r ∈ lowerRuns, r.image.apart dotted = true ∧
    (128 ≤ r.image.first ∨
      r.image.first = r.image.last ∧ IsSmall (Char.ofNat r.image.first)) := by decide +kernel

theorem isSmall_ofNat {n m : Nat} (h : Run.apply? lowerRuns n = some m) :
    IsSmall (Char.ofNat m) := by
  by_cases hvalid : m.isValidChar
  · have hm : (Char.ofNat m).toNat = m := by
      rw [Char.ofNat, dif_pos hvalid]
      rfl
    have hnone := apply?_lowerRuns_image h
    obtain ⟨r, hr, hholds, rfl⟩ := Run.apply?_eq_some h
    have hin := hholds.image (neg_offset_le r hr)
    obtain ⟨hdotted, hascii⟩ := image_lowerRuns r hr
    refine ⟨fun hsigma => ?_, ?_⟩
    · rw [← hm, hsigma] at hnone
      exact absurd hnone (by decide +kernel)
    · unfold lowerChar
      rw [hm]
      split
      · next hlow =>
        -- A run with an ASCII character among its images has no other image.
        obtain hle | ⟨hone, hsmall⟩ := hascii
        · exact absurd hin.1 (by omega)
        · have hsame : ((n : Int) + r.offset).toNat = r.image.first := by
            have hfirst := hin.1
            have hlast := hin.2.1
            omega
          have hlower := hsmall.2
          rw [← hsame, lowerChar, hm, if_pos hlow] at hlower
          exact hlower
      · rw [if_neg, hnone]
        intro hcapital
        refine Run.not_holds_of_apart hdotted hin ?_
        rw [← hm, hcapital]
        exact ⟨Nat.le_refl _, Nat.le_refl _, rfl⟩
  · rw [Char.ofNat, dif_neg hvalid]
    decide +kernel

/-- Mapping a character to lower case once is enough. -/
theorem isSmall_of_mem_lowerChar (h : d ∈ lowerChar c) : IsSmall d := by
  unfold lowerChar at h
  split at h
  · next hascii =>
    have hlower : c.toLower ≠ 'Σ' ∧ c.toLower.toNat < 128 ∧ c.toLower.toLower = c.toLower :=
      ascii_forall (P := fun c => c.toLower ≠ 'Σ' ∧ c.toLower.toNat < 128 ∧
        c.toLower.toLower = c.toLower) (by decide) hascii
    rw [List.mem_singleton.mp h]
    exact ⟨hlower.1, by rw [lowerChar, if_pos hlower.2.1, hlower.2.2]⟩
  · next hascii =>
    split at h
    · rcases List.mem_pair.mp h with rfl | rfl <;> decide +kernel
    · next hne =>
      cases hrun : Run.apply? lowerRuns c.toNat with
      | some m =>
        have hd : d = Char.ofNat m := by simpa only [hrun, List.mem_singleton] using h
        rw [hd]
        exact isSmall_ofNat hrun
      | none =>
        obtain rfl : d = c := by simpa only [hrun, List.mem_singleton] using h
        refine ⟨?_, by rw [lowerChar, if_neg hascii, if_neg hne, hrun]⟩
        -- A capital sigma is in one of the runs.
        rintro rfl
        exact absurd hrun (by decide +kernel)

theorem lowerAt_of_isSmall (h : IsSmall c) (before after : List Char) :
    lowerAt before c after = [c] := by
  rw [lowerAt, if_neg h.1, h.2]

theorem isSmall_of_mem_lowerAt {before after : List Char} (h : d ∈ lowerAt before c after) :
    IsSmall d := by
  unfold lowerAt at h
  split at h
  · have hsigma : IsSmall 'ς' ∧ IsSmall 'σ' := by decide +kernel
    rw [List.mem_singleton.mp h]
    split
    · exact hsigma.1
    · exact hsigma.2
  · exact isSmall_of_mem_lowerChar h

/-- A text in lower case consists of characters that stay as they are. -/
theorem isSmall_of_mem_lowerFrom : ∀ {before cs : List Char}, d ∈ lowerFrom before cs → IsSmall d
  | _, [], h => absurd h List.not_mem_nil
  | _, _ :: _, h =>
    (List.mem_append.mp h).elim isSmall_of_mem_lowerAt isSmall_of_mem_lowerFrom

theorem lowerFrom_of_isSmall : ∀ (before : List Char) {cs : List Char}, (∀ c ∈ cs, IsSmall c) →
    lowerFrom before cs = cs
  | _, [], _ => rfl
  | before, c :: rest, h => by
    obtain ⟨hc, hrest⟩ := List.forall_mem_cons.mp h
    rw [lowerFrom, lowerAt_of_isSmall hc, lowerFrom_of_isSmall (c :: before) hrest]
    rfl

/-- Without capital sigmas every character is mapped on its own. -/
theorem lowerFrom_eq_flatMap : ∀ (before : List Char) {cs : List Char}, 'Σ' ∉ cs →
    lowerFrom before cs = cs.flatMap lowerChar
  | _, [], _ => rfl
  | before, c :: rest, h => by
    rw [List.mem_cons, not_or] at h
    rw [lowerFrom, lowerAt, if_neg (Ne.symm h.1), lowerFrom_eq_flatMap (c :: before) h.2,
      List.flatMap_cons]

theorem lowerChars_lowerChars (cs : List Char) : lowerChars (lowerChars cs) = lowerChars cs :=
  lowerFrom_of_isSmall [] fun _ hc => isSmall_of_mem_lowerFrom hc

/-- A text is capitalised as it is in lower case. -/
theorem capitalizeChars_lowerChars (cs : List Char) :
    capitalizeChars (lowerChars cs) = capitalizeChars cs := by
  rw [capitalizeChars, capitalizeChars, lowerChars_lowerChars]

theorem lowerChar_ne_nil (c : Char) : lowerChar c ≠ [] := by
  unfold lowerChar
  split
  · nofun
  · split
    · nofun
    · cases Run.apply? lowerRuns c.toNat <;> nofun

/-! ### Characters without a case -/

/-- No run of characters moves a character to this place. -/
def Run.Avoids (code : Nat) (r : Run) : Prop :=
  (r.last : Int) + r.offset < code ∨ (code : Int) < r.first + r.offset

instance (code : Nat) (r : Run) : Decidable (r.Avoids code) :=
  inferInstanceAs (Decidable (_ ∨ _))

theorem apply?_ne_of_avoids {runs : List Run} {code n : Nat} (hruns : ∀ r ∈ runs, r.Avoids code)
    (hcode : code ≠ 0) : Run.apply? runs n ≠ some code := by
  intro h
  obtain ⟨r, hr, ⟨hfirst, hlast, -⟩, himage⟩ := Run.apply?_eq_some h
  have havoids := hruns r hr
  unfold Run.Avoids at havoids
  omega

/-- A character that no other one becomes when its case is changed. -/
structure IsCaseless (a : Char) : Prop where
  ne_zero : a ≠ '\x00'
  /-- No other ASCII character becomes this one. -/
  ascii : ∀ n < 128, Char.ofNat n ≠ a → (Char.ofNat n).toLower ≠ a ∧ (Char.ofNat n).toUpper ≠ a
  /-- It is no part of what a single character is mapped to by a rule of its own. -/
  single : a ∉ ['i', '\u0307', 'ς', 'σ'] ∧ ∀ e ∈ upperExpansions, a ∉ e.2.map Char.ofNat
  runs : (∀ r ∈ lowerRuns, r.Avoids a.toNat) ∧ ∀ r ∈ upperRuns, r.Avoids a.toNat

theorem isCaseless_bracket : IsCaseless '[' where
  ne_zero := by decide
  ascii := by decide
  single := by decide +kernel
  runs := by decide +kernel

theorem isCaseless_colon : IsCaseless ':' where
  ne_zero := by decide
  ascii := by decide
  single := by decide +kernel
  runs := by decide +kernel

namespace IsCaseless

/-- The code of such a character. -/
theorem eq_of_ofNat_eq (ha : IsCaseless a) {n : Nat} (h : Char.ofNat n = a) : n = a.toNat := by
  by_cases hn : n.isValidChar
  · rw [Char.ofNat, dif_pos hn] at h
    exact congrArg Char.toNat h
  · rw [Char.ofNat, dif_neg hn] at h
    exact absurd h.symm ha.ne_zero

theorem apply?_ne (ha : IsCaseless a) {runs : List Run} (hruns : ∀ r ∈ runs, r.Avoids a.toNat)
    {n image : Nat} (himage : Run.apply? runs n = some image) : a ≠ Char.ofNat image := by
  intro h
  rw [ha.eq_of_ofNat_eq h.symm] at himage
  refine apply?_ne_of_avoids hruns (fun hzero => ha.ne_zero ?_) himage
  rw [← Char.ofNat_toNat a, hzero]

theorem notMem_lowerChar (ha : IsCaseless a) (h : c ≠ a) : a ∉ lowerChar c := by
  unfold lowerChar
  split
  · next hascii =>
    have hlower : c ≠ a → c.toLower ≠ a ∧ c.toUpper ≠ a :=
      ascii_forall (P := fun c => c ≠ a → c.toLower ≠ a ∧ c.toUpper ≠ a) ha.ascii hascii
    rw [List.mem_singleton]
    exact (hlower h).1.symm
  · split
    · exact fun hmem => ha.single.1 (List.mem_append_left ['ς', 'σ'] hmem)
    · cases hrun : Run.apply? lowerRuns c.toNat with
      | none => simpa using h.symm
      | some image =>
        rw [List.mem_singleton]
        exact ha.apply?_ne ha.runs.1 hrun

theorem notMem_upperChar (ha : IsCaseless a) (h : c ≠ a) : a ∉ upperChar c := by
  unfold upperChar
  split
  · next hascii =>
    have hupper : c ≠ a → c.toLower ≠ a ∧ c.toUpper ≠ a :=
      ascii_forall (P := fun c => c ≠ a → c.toLower ≠ a ∧ c.toUpper ≠ a) ha.ascii hascii
    rw [List.mem_singleton]
    exact (hupper h).2.symm
  · cases hexpansion : upperExpansions.find? (·.1 == c.toNat) with
    | some e => exact ha.single.2 e (List.mem_of_find?_eq_some hexpansion)
    | none =>
      cases hrun : Run.apply? upperRuns c.toNat with
      | none => simpa using h.symm
      | some image =>
        simp only [List.mem_singleton]
        exact ha.apply?_ne ha.runs.2 hrun

theorem notMem_lowerAt (ha : IsCaseless a) (h : c ≠ a) (before after : List Char) :
    a ∉ lowerAt before c after := by
  unfold lowerAt
  split
  · have hsigma : a ≠ 'ς' ∧ a ≠ 'σ' := by
      have hsingle := ha.single.1
      simp only [List.mem_cons, not_or] at hsingle
      exact ⟨hsingle.2.2.1, hsingle.2.2.2.1⟩
    rw [List.mem_singleton]
    split
    · exact hsigma.1
    · exact hsigma.2
  · exact ha.notMem_lowerChar h

theorem notMem_lowerFrom (ha : IsCaseless a) : ∀ (before : List Char) {cs : List Char}, a ∉ cs →
    a ∉ lowerFrom before cs
  | _, [], _ => List.not_mem_nil
  | before, c :: rest, h => by
    rw [List.mem_cons, not_or] at h
    rw [lowerFrom, List.mem_append, not_or]
    exact ⟨ha.notMem_lowerAt (Ne.symm h.1) before rest, ha.notMem_lowerFrom (c :: before) h.2⟩

theorem notMem_capitalizeChars (ha : IsCaseless a) (h : a ∉ cs) : a ∉ capitalizeChars cs := by
  have hlower : a ∉ lowerChars cs := ha.notMem_lowerFrom [] h
  unfold capitalizeChars
  cases hcs : lowerChars cs with
  | nil => exact List.not_mem_nil
  | cons c rest =>
    rw [hcs, List.mem_cons, not_or] at hlower
    rw [List.mem_append, not_or]
    exact ⟨ha.notMem_upperChar (Ne.symm hlower.1), hlower.2⟩

end IsCaseless

end Manifest.Text
