import Manifest.Proofs.Text.Case

/-!
# The case of ASCII characters

Among ASCII characters each one is mapped on its own, to one character, and it is mapped to the same
one again if this is done twice.

## Main definitions

* `Text.IsAscii` — a text of ASCII characters.

## Main results

* `Text.toList_lower`, `Text.capitalizeChars_of_ascii` — changing the case of such a text.
* `Text.toLower_eq_colon_iff`, `Text.toUpper_eq_colon_iff` — only a colon becomes a colon.
-/

namespace Manifest.Text

variable {c : Char} {cs : List Char} {name : String}

/-- A text of ASCII characters. -/
def IsAscii (text : String) : Prop := ∀ c ∈ text.toList, c.toNat < 128

instance (text : String) : Decidable (IsAscii text) :=
  List.decidableBAll (fun c : Char => c.toNat < 128) text.toList

theorem lowerChar_of_ascii (h : c.toNat < 128) : lowerChar c = [c.toLower] := if_pos h

theorem upperChar_of_ascii (h : c.toNat < 128) : upperChar c = [c.toUpper] := if_pos h

theorem toLower_lt (h : c.toNat < 128) : c.toLower.toNat < 128 :=
  ascii_forall (P := fun c => c.toLower.toNat < 128) (by decide) h

theorem toUpper_lt (h : c.toNat < 128) : c.toUpper.toNat < 128 :=
  ascii_forall (P := fun c => c.toUpper.toNat < 128) (by decide) h

theorem toUpper_toLower (h : c.toNat < 128) : c.toLower.toUpper = c.toUpper :=
  ascii_forall (P := fun c => c.toLower.toUpper = c.toUpper) (by decide) h

theorem toUpper_toUpper (h : c.toNat < 128) : c.toUpper.toUpper = c.toUpper :=
  ascii_forall (P := fun c => c.toUpper.toUpper = c.toUpper) (by decide) h

theorem toLower_toLower (h : c.toNat < 128) : c.toLower.toLower = c.toLower :=
  ascii_forall (P := fun c => c.toLower.toLower = c.toLower) (by decide) h

/-- Only a colon becomes a colon. -/
theorem toLower_eq_colon_iff (h : c.toNat < 128) : c.toLower = ':' ↔ c = ':' :=
  ascii_forall (P := fun c => c.toLower = ':' ↔ c = ':') (by decide) h

theorem toUpper_eq_colon_iff (h : c.toNat < 128) : c.toUpper = ':' ↔ c = ':' :=
  ascii_forall (P := fun c => c.toUpper = ':' ↔ c = ':') (by decide) h

/-- Only a bracket becomes a bracket. -/
theorem toLower_eq_bracket_iff (h : c.toNat < 128) : c.toLower = '[' ↔ c = '[' :=
  ascii_forall (P := fun c => c.toLower = '[' ↔ c = '[') (by decide) h

theorem toUpper_eq_bracket_iff (h : c.toNat < 128) : c.toUpper = '[' ↔ c = '[' :=
  ascii_forall (P := fun c => c.toUpper = '[' ↔ c = '[') (by decide) h

theorem lowerChars_of_ascii (h : ∀ c ∈ cs, c.toNat < 128) :
    lowerChars cs = cs.map Char.toLower := by
  have hsigma : 'Σ' ∉ cs := fun hmem => absurd (h _ hmem) (by decide)
  rw [lowerChars, lowerFrom_eq_flatMap [] hsigma, List.map_eq_flatMap]
  exact List.flatMap_congr fun c hc => lowerChar_of_ascii (h c hc)

theorem toList_lower (h : IsAscii name) : (lower name).toList = name.toList.map Char.toLower := by
  rw [lower, String.toList_ofList, lowerChars_of_ascii h]

/-- The first character becomes a capital, and no other one is. -/
theorem capitalizeChars_of_ascii (hc : c.toNat < 128) (h : ∀ d ∈ cs, d.toNat < 128) :
    capitalizeChars (c :: cs) = c.toUpper :: cs.map Char.toLower := by
  rw [capitalizeChars, lowerChars_of_ascii (List.forall_mem_cons.mpr ⟨hc, h⟩), List.map_cons]
  simp only
  rw [upperChar_of_ascii (toLower_lt hc), toUpper_toLower hc, List.singleton_append]

end Manifest.Text
