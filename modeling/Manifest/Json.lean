/-!
# JSON values

## Main definitions

* `Json` — a JSON value; the members of an object keep their order.
* `Json.fits` — whether a value can be taken in, nested no deeper than a limit.
* `Json.sorted` — the value with the members of every object in the order of their keys.
-/

namespace Manifest

/-- A JSON value. -/
inductive Json
  | null
  | bool (b : Bool)
  /-- A whole number of 64 bits, signed or unsigned. -/
  | integer (n : Int)
  /-- Any other number, as it was written. -/
  | decimal (written : String)
  | string (s : String)
  /-- A text or object whose form is right but which has half of a surrogate pair in it and so
  stands for no value. -/
  | unreadable
  | array (items : List Json)
  | object (members : List (String × Json))
  deriving Repr, Inhabited

namespace Json

/-! ### Depth -/

/-- How deep arrays and objects may be nested in what is taken in. -/
def maxDepth : Nat := 127

mutual

/-- Whether all parts of a value stand for something and arrays and objects are nested no deeper
than a limit. -/
def fits (depth : Nat) : Json → Bool
  | null | bool _ | integer _ | decimal _ | string _ => true
  | unreadable => false
  | array items => depth ≠ 0 && allFit (depth - 1) items
  | object members => depth ≠ 0 && membersFit (depth - 1) members

/-- Whether every item fits. -/
def allFit (depth : Nat) : List Json → Bool
  | [] => true
  | v :: rest => fits depth v && allFit depth rest

/-- Whether the value of every member fits. -/
def membersFit (depth : Nat) : List (String × Json) → Bool
  | [] => true
  | (_, v) :: rest => fits depth v && membersFit depth rest

end

/-! ### Sorted members -/

/-- Puts a member among members that are sorted by key; it replaces one with the same key. -/
def insertSorted (key : String) (value : Json) : List (String × Json) → List (String × Json)
  | [] => [(key, value)]
  | (k, v) :: rest =>
    if key < k then (key, value) :: (k, v) :: rest
    else if key = k then (key, value) :: rest
    else (k, v) :: insertSorted key value rest

/-- Members sorted by key; of several with one key the last stays. -/
def sortMembers (members : List (String × Json)) : List (String × Json) :=
  members.foldl (fun sorted m => insertSorted m.1 m.2 sorted) []

mutual

/-- The value with the members of every object sorted by key. -/
def sorted : Json → Json
  | array items => array (sortedAll items)
  | object members => object (sortMembers (sortedValues members))
  | null => null
  | bool b => bool b
  | integer n => integer n
  | decimal written => decimal written
  | string s => string s
  | unreadable => unreadable

/-- The items, each sorted. -/
def sortedAll : List Json → List Json
  | [] => []
  | v :: rest => sorted v :: sortedAll rest

/-- The members in their order, each value sorted. -/
def sortedValues : List (String × Json) → List (String × Json)
  | [] => []
  | (k, v) :: rest => (k, sorted v) :: sortedValues rest

end

/-! ### Scalars -/

/-- How many numbers 32 bits hold. -/
def span32 : Nat := 4294967296

/-- How many numbers 63 bits hold, which are the signed ones of 64 bits that are not negative. -/
def span63 : Nat := 9223372036854775808

/-- How many numbers 64 bits hold. -/
def span64 : Nat := 18446744073709551616

/-- The text that a value is. -/
def asString? : Json → Option String
  | string s => some s
  | _ => none

/-- The truth value that a value is. -/
def asBool? : Json → Option Bool
  | bool b => some b
  | _ => none

/-- The natural number below a bound that a value is. -/
def asNatBelow? (bound : Nat) : Json → Option Nat
  | integer n => if 0 ≤ n ∧ n < bound then some n.toNat else none
  | _ => none

/-- The array of texts that a value is. -/
def asStrings? : Json → Option (List String)
  | array items => items.mapM asString?
  | _ => none

/-- What a value is read as, or nothing if it is `null`. -/
def asOptional? {α : Type} (read : Json → Option α) : Json → Option (Option α)
  | null => some none
  | v => (read v).map some

end Json

end Manifest
