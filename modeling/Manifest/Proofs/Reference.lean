import Manifest.Proofs.Capitalized
import Manifest.Reference

/-!
# The written form of references

A reference is found by its text `Type[title]`.  Titles may hold any characters, brackets among
them; as long as types hold no opening bracket, the first one in the text is where the title
begins, and no two references have the same text.  The type of a reference is a name in its
capitalised form, and changing the case of characters brings no bracket in.

## Main definitions

* `Reference.Bracketless` — the type of a reference holds no opening bracket.

## Main results

* `Reference.bracketless_of` — a type without a bracket makes a reference without one.
* `Reference.text_injective` — such references are told apart by their texts.
-/

namespace Manifest

namespace Reference

/-- The type of a reference holds no opening bracket. -/
def Bracketless (r : Reference) : Prop := '[' ∉ r.typeName.toList

instance (r : Reference) : Decidable r.Bracketless := inferInstanceAs (Decidable (¬ _))

/-- A type without a bracket makes a reference without one, whatever its title. -/
theorem bracketless_of {type : String} (h : '[' ∉ type.toList) (title : String) :
    (of type title).Bracketless :=
  Name.notMem_capitalize Text.isCaseless_bracket (by decide) h

theorem toList_text (r : Reference) :
    r.text.toList = r.typeName.toList ++ '[' :: (r.title.toList ++ [']']) := by
  simp [text]

/-- The first bracket parts a list in one way only. -/
theorem eq_of_append_bracket : ∀ {xs ys us vs : List Char}, '[' ∉ xs → '[' ∉ ys →
    xs ++ '[' :: us = ys ++ '[' :: vs → xs = ys ∧ us = vs
  | [], [], _, _, _, _, h => ⟨rfl, List.tail_eq_of_cons_eq h⟩
  | [], y :: ys, _, _, _, hy, h => by
    have hhead : '[' = y := List.head_eq_of_cons_eq h
    exact absurd (hhead ▸ List.mem_cons_self) hy
  | x :: xs, [], _, _, hx, _, h => by
    have hhead : x = '[' := List.head_eq_of_cons_eq h
    exact absurd (hhead ▸ List.mem_cons_self) hx
  | x :: xs, y :: ys, _, _, hx, hy, h => by
    rw [List.mem_cons, not_or] at hx hy
    rw [List.cons_append, List.cons_append, List.cons.injEq] at h
    obtain ⟨rfl, hrest⟩ := eq_of_append_bracket hx.2 hy.2 h.2
    exact ⟨by rw [h.1], hrest⟩

/-- References whose types hold no bracket are told apart by their texts. -/
theorem text_injective {a b : Reference} (ha : a.Bracketless) (hb : b.Bracketless)
    (h : a.text = b.text) : a = b := by
  have hlist := congrArg String.toList h
  rw [toList_text, toList_text] at hlist
  obtain ⟨htype, htitle⟩ := eq_of_append_bracket ha hb hlist
  have htitles : a.title.toList = b.title.toList := List.append_cancel_right htitle
  cases a
  cases b
  rw [Reference.mk.injEq]
  exact ⟨String.toList_inj.mp htype, String.toList_inj.mp htitles⟩

/-- With brackets in types, two references may have one text. -/
example : (Reference.mk "A[b" "c").text = (Reference.mk "A" "b[c").text := by decide

end Reference

end Manifest
