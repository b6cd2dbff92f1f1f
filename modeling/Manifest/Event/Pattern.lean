import Manifest.Text.Word

/-!
# Well-formed patterns

A filter may ask for the value of a field by a pattern, a regular expression. A filter with a
pattern that is not well formed is refused as a whole, which is all that patterns are looked at for.

Braces are left out: they would count repetitions, but a closing brace ends the place of a pattern
in a filter. Word boundaries are refused, because whole values are matched.

## Main definitions

* `Pattern.escape?` — reads what follows a backslash.
* `Pattern.class?` — reads a class of characters in square brackets.
* `Pattern.isWellFormed` — whether a text is a pattern.
-/

namespace Manifest.Pattern

/-! ### Escapes -/

/-- What an escape or a member of a class stands for. -/
inductive Meaning
  /-- This character. -/
  | literal (c : Char)
  /-- Any character of a set. -/
  | set
  /-- A place between characters. -/
  | place
  deriving DecidableEq, Repr

/-- The value of a hexadecimal digit. -/
def hexDigit? (c : Char) : Option Nat :=
  if c.isDigit then some (c.toNat - '0'.toNat)
  else if 'a' ≤ c && c ≤ 'f' then some (c.toNat - 'a'.toNat + 10)
  else if 'A' ≤ c && c ≤ 'F' then some (c.toNat - 'A'.toNat + 10)
  else none

/-- Reads the code of a character, in as many digits. -/
def hexEscape? (digits : Nat) (cs : List Char) : Option (Meaning × List Char) := do
  let values ← (cs.take digits).mapM hexDigit?
  let code := values.foldl (fun n d => 16 * n + d) 0
  if values.length = digits ∧ code.isValidChar then
    some (.literal (Char.ofNat code), cs.drop digits)
  else none

/-- Reads the property of characters after `\p`, the initial of a general category. -/
def propertyEscape? : List Char → Option (Meaning × List Char)
  | c :: rest => if c.toUpper ∈ "LMNPSZC".toList then some (.set, rest) else none
  | [] => none

/-- Reads what follows a backslash. -/
def escape? : List Char → Option (Meaning × List Char)
  | [] => none
  | 'x' :: rest => hexEscape? 2 rest
  | 'u' :: rest => hexEscape? 4 rest
  | 'U' :: rest => hexEscape? 8 rest
  | c :: rest =>
    if c = 'p' || c = 'P' then propertyEscape? rest
    else if c ∈ "dDsSwW".toList then some (.set, rest)
    else if c ∈ "aftnrv".toList then some (.literal c, rest)
    else if c = 'A' || c = 'z' then some (.place, rest)
    else if c.toNat < 128 && !c.isAlphanum && c ≠ '<' && c ≠ '>' then some (.literal c, rest)
    else none

/-! ### Classes -/

/-- Reads one member of a class. -/
def member? : List Char → Option (Meaning × List Char)
  | [] => none
  | '\\' :: rest => escape? rest
  | c :: rest => some (.literal c, rest)

/-- Whether a class may have the range between two members, both of them characters in order. -/
def isRange : Meaning → Meaning → Bool
  | .literal first, .literal last => first ≤ last
  | _, _ => false

/-- Skips what has a meaning of its own only at the beginning of a class: a negation, dashes and
then a closing bracket. -/
def classStart (cs : List Char) : List Char :=
  let cs := match cs with
    | '^' :: rest => rest
    | _ => cs
  match cs with
  | '-' :: rest => rest.dropWhile (· == '-')
  | ']' :: rest => rest
  | _ => cs

/-- Reads the members up to the end of the outermost class, where `depth` further classes are
open. -/
def classFrom? : Nat → Nat → List Char → Option (List Char)
  | 0, _, _ => none
  | _, _, [] => none
  | bound + 1, depth, ']' :: rest =>
    match depth with
    | 0 => some rest
    | depth + 1 => classFrom? bound depth rest
  | bound + 1, depth, '[' :: rest => classFrom? bound (depth + 1) (classStart rest)
  | bound + 1, depth, cs => do
    let (first, rest) ← member? cs
    if first = .place then none
    match rest with
    | '-' :: c :: more =>
      if c = ']' || c = '-' then classFrom? bound depth rest
      else
        let (last, rest) ← member? (c :: more)
        if isRange first last then classFrom? bound depth rest else none
    | _ => classFrom? bound depth rest

/-- Reads a class after its opening bracket. -/
def class? (cs : List Char) : Option (List Char) :=
  classFrom? (cs.length + 1) 0 (classStart cs)

/-! ### Groups -/

/-- Whether these are the flags of a group: no letter twice, and a letter after a minus sign. -/
def areFlags (flags : List Char) : Bool :=
  flags.all (· ∈ "imsUuRx-".toList) && flags.Nodup && flags.getLast? ≠ some '-'

/-- Whether this is the name of a group. -/
def isGroupName : List Char → Bool
  | [] => false
  | c :: rest =>
    (c == '_' || (Text.isLetterOrNumber c && !c.isDigit)) &&
      rest.all fun d => d == '_' || d ∈ ".[]".toList || Text.isLetterOrNumber d

/-- Reads the name of a group with its closing bracket. -/
def groupName? (cs : List Char) : Option (List Char) :=
  match cs.span (· ≠ '>') with
  | (name, '>' :: rest) => if isGroupName name then some rest else none
  | _ => none

/-- Reads what follows an opening parenthesis and tells whether a group begins there. Flags may
stand in parentheses on their own. -/
def groupStart? : List Char → Option (Bool × List Char)
  | '?' :: 'P' :: '<' :: rest => (groupName? rest).map (true, ·)
  | '?' :: '<' :: rest => (groupName? rest).map (true, ·)
  | '?' :: rest =>
    match rest.span fun c => c ≠ ':' && c ≠ ')' with
    | (flags, ':' :: rest) => if areFlags flags then some (true, rest) else none
    | (flags, ')' :: rest) => if flags ≠ [] && areFlags flags then some (false, rest) else none
    | _ => none
  | rest => some (true, rest)

/-! ### Patterns -/

/-- Whether the rest of a pattern is well formed, where `depth` groups are open and `repeatable`
tells whether something stands here that can be repeated. -/
def isTail : Nat → Nat → Bool → List Char → Bool
  | 0, _, _, _ => false
  | _, depth, _, [] => depth == 0
  | bound + 1, depth, _, '(' :: rest =>
    match groupStart? rest with
    | some (opens, rest) => isTail bound (if opens then depth + 1 else depth) false rest
    | none => false
  | bound + 1, depth, _, ')' :: rest => depth ≠ 0 && isTail bound (depth - 1) true rest
  | bound + 1, depth, _, '[' :: rest =>
    match class? rest with
    | some rest => isTail bound depth true rest
    | none => false
  | bound + 1, depth, _, '\\' :: rest =>
    match escape? rest with
    | some (_, rest) => isTail bound depth true rest
    | none => false
  | bound + 1, depth, repeatable, c :: rest =>
    if c = '|' then isTail bound depth false rest
    else if c = '*' || c = '+' || c = '?' then repeatable && isTail bound depth true rest
    else c ≠ '\x7b' && isTail bound depth true rest

/-- Whether a text is a pattern. -/
def isWellFormed (text : String) : Bool :=
  isTail (text.toList.length + 1) 0 false text.toList

end Manifest.Pattern
