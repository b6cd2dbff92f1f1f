import Manifest.Reference

/-!
# Values

## Main definitions

* `Value` — what an expression evaluates to.
* `Value.text` — the text of a value in messages, titles and templates.
* `Value.isTruthy` — what conditionals go by.
* `Value.looseEq` — the equality of `==` and `case`.
* `Value.flatten` — the elements of a value, arrays in arrays opened.
-/

namespace Manifest

/-- What an expression evaluates to. -/
inductive Value
  /-- The absent value. -/
  | absent
  | bool (b : Bool)
  | integer (n : Int)
  | string (s : String)
  | array (items : List Value)
  | reference (r : Reference)
  deriving Repr, Inhabited

namespace Value

/-! ### Equality -/

mutual

/-- Whether two values are equal. -/
def same : Value → Value → Bool
  | absent, absent => true
  | bool a, bool b => a == b
  | integer m, integer n => m == n
  | string s, string t => s == t
  | array xs, array ys => sameAll xs ys
  | reference a, reference b => a == b
  | _, _ => false

/-- Whether two lists of values are equal. -/
def sameAll : List Value → List Value → Bool
  | [], [] => true
  | x :: xs, y :: ys => same x y && sameAll xs ys
  | _, _ => false

end

mutual

theorem same_iff : ∀ a b : Value, same a b = true ↔ a = b
  | absent, b => by cases b <;> simp [same]
  | bool _, b => by cases b <;> simp [same]
  | integer _, b => by cases b <;> simp [same]
  | string _, b => by cases b <;> simp [same]
  | reference _, b => by cases b <;> simp [same]
  | array xs, b => by
    cases b with
    | array ys => simpa [same] using sameAll_iff xs ys
    | _ => simp [same]

theorem sameAll_iff : ∀ xs ys : List Value, sameAll xs ys = true ↔ xs = ys
  | [], [] => by simp [sameAll]
  | [], _ :: _ => by simp [sameAll]
  | _ :: _, [] => by simp [sameAll]
  | x :: xs, y :: ys => by simp [sameAll, same_iff x y, sameAll_iff xs ys]

end

instance : DecidableEq Value := fun a b => decidable_of_iff _ (same_iff a b)

/-! ### Text, truth and loose equality -/

mutual

/-- The text of a value; the absent value has none. -/
def text : Value → String
  | absent => ""
  | bool b => if b then "true" else "false"
  | integer n => toString n
  | string s => s
  | array items => "[" ++ String.intercalate ", " (texts items) ++ "]"
  | reference r => r.text

/-- The texts of the elements of an array. -/
def texts : List Value → List String
  | [] => []
  | v :: rest => v.text :: texts rest

end

/-- What conditionals go by: `false`, the absent value and the empty text do not hold. -/
def isTruthy : Value → Bool
  | absent => false
  | bool b => b
  | string s => s ≠ ""
  | integer _ | array _ | reference _ => true

mutual

/-- The equality of `==` and `case`. Arrays are compared by their elements, references as they
are, and all other values by their texts, where the case of ASCII letters does not count. -/
def looseEq : Value → Value → Bool
  | array xs, array ys => looseEqAll xs ys
  | reference a, reference b => a == b
  | absent, absent => true
  | absent, string s | string s, absent => s == ""
  | array _, _ | reference _, _ | _, array _ | _, reference _ => false
  | a, b => Text.equalIgnoringCase a.text b.text

/-- Whether two arrays have the same length and elements that are equal place by place. -/
def looseEqAll : List Value → List Value → Bool
  | [], [] => true
  | x :: xs, y :: ys => looseEq x y && looseEqAll xs ys
  | _, _ => false

end

mutual

/-- The elements of a value: an array is opened at every depth, any other value is one element. -/
def flatten : Value → List Value
  | array items => flattenAll items
  | v => [v]

/-- The elements of all values of a list. -/
def flattenAll : List Value → List Value
  | [] => []
  | v :: rest => flatten v ++ flattenAll rest

end

/-- The reference that a value is, if it is one. -/
def asReference? : Value → Option Reference
  | reference r => some r
  | _ => none

end Value

end Manifest
