import Manifest.Value

/-!
# Loose equality

Loose equality looks at values of different kinds in different ways.  All of it comes to comparing
one thing, the likeness of a value: the likenesses of its elements, a reference as it is, or else a
text without the case of ASCII letters.  The text of the absent value is empty, so it is like the
empty text, and no boolean or integer is.

## Main definitions

* `Value.Likeness`, `Value.likeness` — what loose equality sees of a value.

## Main results

* `Value.looseEq_iff` — values are loosely equal exactly if their likenesses are the same.
* `Value.equivalence_looseEq` — so loose equality is an equivalence.
* `Value.looseEq_congr` — and it answers alike for values that are loosely equal.
-/

namespace Manifest

namespace Text

/-- The characters of a text without the case of ASCII letters. -/
def caseless (s : String) : List Char := s.toList.map Char.toLower

theorem equalIgnoringCase_iff {s t : String} :
    equalIgnoringCase s t = true ↔ caseless s = caseless t := beq_iff_eq

theorem caseless_eq_nil_iff {s : String} : caseless s = [] ↔ s = "" := by
  rw [caseless, List.map_eq_nil_iff, String.toList_eq_nil_iff]

end Text

namespace Value

/-- What loose equality sees of a value. -/
inductive Likeness
  | text (characters : List Char)
  | items (likenesses : List Likeness)
  | reference (r : Reference)

mutual

/-- The likeness of a value. -/
def likeness : Value → Likeness
  | array xs => .items (likenesses xs)
  | reference r => .reference r
  | v => .text (Text.caseless v.text)

/-- The likenesses of values. -/
def likenesses : List Value → List Likeness
  | [] => []
  | v :: rest => v.likeness :: likenesses rest

end

/-! ### Scalars -/

/-- A value that is neither an array nor a reference. -/
def IsScalar : Value → Prop
  | array _ | reference _ => False
  | absent | bool _ | integer _ | string _ => True

theorem likeness_of_isScalar {v : Value} (h : v.IsScalar) :
    v.likeness = .text (Text.caseless v.text) := by
  cases v with
  | array | reference => exact h.elim
  | absent | bool | integer | string => rfl

/-- The absent value is no exception, because its text is empty. -/
theorem looseEq_of_isScalar {v w : Value} (hv : v.IsScalar) (hw : w.IsScalar) :
    v.looseEq w = true ↔ Text.caseless v.text = Text.caseless w.text := by
  have hempty : ∀ s : String, (s == "") = true ↔ Text.caseless s = [] := fun s => by
    rw [beq_iff_eq, Text.caseless_eq_nil_iff]
  cases v with
  | array | reference => exact hv.elim
  | absent =>
    cases w with
    | array | reference => exact hw.elim
    | absent => exact ⟨fun _ => rfl, fun _ => rfl⟩
    | string s => exact (hempty s).trans eq_comm
    | bool | integer => exact Text.equalIgnoringCase_iff
  | string s =>
    cases w with
    | array | reference => exact hw.elim
    | absent => exact hempty s
    | bool | integer | string => exact Text.equalIgnoringCase_iff
  | bool | integer =>
    cases w with
    | array | reference => exact hw.elim
    | absent | bool | integer | string => exact Text.equalIgnoringCase_iff

/-- Scalars are loosely equal to scalars at most. -/
theorem looseEq_iff_of_isScalar {v : Value} (hv : v.IsScalar) (w : Value) :
    v.looseEq w = true ↔ v.likeness = w.likeness := by
  have hscalar : ∀ w : Value, w.IsScalar → (v.looseEq w = true ↔ v.likeness = w.likeness) := by
    intro w hw
    rw [looseEq_of_isScalar hv hw, likeness_of_isScalar hv, likeness_of_isScalar hw,
      Likeness.text.injEq]
  cases w with
  | array ys =>
    cases v with
    | array | reference => exact hv.elim
    | absent | bool | integer | string => simp [looseEq, likeness]
  | reference r =>
    cases v with
    | array | reference => exact hv.elim
    | absent | bool | integer | string => simp [looseEq, likeness]
  | absent => exact hscalar absent trivial
  | bool b => exact hscalar (bool b) trivial
  | integer n => exact hscalar (integer n) trivial
  | string s => exact hscalar (string s) trivial

/-! ### All values -/

mutual

/-- Values are loosely equal exactly if they have the same likeness. -/
theorem looseEq_iff : ∀ v w : Value, v.looseEq w = true ↔ v.likeness = w.likeness
  | array xs, w => by
    cases w with
    | array ys => simpa only [looseEq, likeness, Likeness.items.injEq] using looseEqAll_iff xs ys
    | absent | bool | integer | string | reference => simp [looseEq, likeness]
  | reference r, w => by
    cases w <;> simp [looseEq, likeness]
  | absent, w => looseEq_iff_of_isScalar (v := absent) trivial w
  | bool b, w => looseEq_iff_of_isScalar (v := bool b) trivial w
  | integer n, w => looseEq_iff_of_isScalar (v := integer n) trivial w
  | string s, w => looseEq_iff_of_isScalar (v := string s) trivial w

theorem looseEqAll_iff : ∀ xs ys : List Value,
    looseEqAll xs ys = true ↔ likenesses xs = likenesses ys
  | [], [] => by simp [looseEqAll, likenesses]
  | [], _ :: _ => by simp [looseEqAll, likenesses]
  | _ :: _, [] => by simp [looseEqAll, likenesses]
  | x :: xs, y :: ys => by
    simp [looseEqAll, likenesses, looseEq_iff x y, looseEqAll_iff xs ys]

end

/-- Loose equality is an equivalence. -/
theorem equivalence_looseEq : Equivalence fun v w : Value => v.looseEq w = true where
  refl v := (looseEq_iff v v).mpr rfl
  symm h := (looseEq_iff _ _).mpr ((looseEq_iff _ _).mp h).symm
  trans h h' := (looseEq_iff _ _).mpr (((looseEq_iff _ _).mp h).trans ((looseEq_iff _ _).mp h'))

theorem looseEq_comm (v w : Value) : v.looseEq w = w.looseEq v :=
  Bool.eq_iff_iff.mpr ⟨equivalence_looseEq.symm, equivalence_looseEq.symm⟩

/-- Loose equality answers alike for values that are loosely equal. -/
theorem looseEq_congr {v v' w w' : Value} (hv : v.looseEq v' = true) (hw : w.looseEq w' = true) :
    v.looseEq w = v'.looseEq w' := by
  rw [Bool.eq_iff_iff, looseEq_iff, looseEq_iff, (looseEq_iff v v').mp hv, (looseEq_iff w w').mp hw]

end Value

end Manifest
