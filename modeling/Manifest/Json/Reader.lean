import Manifest.Json

/-!
# Reading JSON

A reader takes a value from the front of the characters and leaves the rest. Arrays and objects
are read by a reader for what stands in them, so the depth of the nesting bounds the recursion.

## Main definitions

* `Json.readString?`, `Json.readNumber?` — the scalars.
* `Json.readItems?`, `Json.readMembers?` — what stands between brackets.
* `Json.readValue?` — a value.
* `Json.read?` — the value that a whole text is.
-/

namespace Manifest.Json

/-- What is read, with the characters that are left. -/
abbrev Read (α : Type) := Option (α × List Char)

/-- White space between the parts of a value. -/
def isBlank (c : Char) : Bool := c == ' ' || c == '\n' || c == '\r' || c == '\t'

/-- The characters from the first that is not blank. -/
def skipBlanks (cs : List Char) : List Char := cs.dropWhile isBlank

/-- The characters behind a given beginning. -/
def skip? (start : List Char) (cs : List Char) : Option (List Char) :=
  if start.isPrefixOf cs then some (cs.drop start.length) else none

/-! ### Texts -/

/-- A piece of a quoted text: a character, or an escaped unit of 16 bits. -/
inductive StringPiece
  | char (c : Char)
  | unit (n : Nat)
  deriving DecidableEq, Repr

/-- The value of a hexadecimal digit. -/
def hexValue? (c : Char) : Option Nat :=
  if c.isDigit then some (c.toNat - 48)
  else if 'a' ≤ c && c ≤ 'f' then some (c.toNat - 87)
  else if 'A' ≤ c && c ≤ 'F' then some (c.toNat - 55)
  else none

/-- The unit that four hexadecimal digits stand for. -/
def hexUnit? (a b c d : Char) : Option Nat := do
  let a ← hexValue? a
  let b ← hexValue? b
  let c ← hexValue? c
  let d ← hexValue? d
  some (((a * 16 + b) * 16 + c) * 16 + d)

/-- The character for the letter of a short escape. -/
def shortEscape? : Char → Option Char
  | '"' => some '"'
  | '\\' => some '\\'
  | '/' => some '/'
  | 'b' => some '\x08'
  | 'f' => some '\x0c'
  | 'n' => some '\n'
  | 'r' => some '\r'
  | 't' => some '\t'
  | _ => none

/-- The pieces of a text behind its opening quote. Control characters must be escaped. -/
def readPieces? : List Char → Read (List StringPiece)
  | [] => none
  | '"' :: rest => some ([], rest)
  | '\\' :: 'u' :: a :: b :: c :: d :: rest =>
    (hexUnit? a b c d).bind fun n => (readPieces? rest).map fun r => (.unit n :: r.1, r.2)
  | '\\' :: c :: rest =>
    (shortEscape? c).bind fun e => (readPieces? rest).map fun r => (.char e :: r.1, r.2)
  | c :: rest =>
    if c.toNat < 32 || c = '\\' then none
    else (readPieces? rest).map fun r => (.char c :: r.1, r.2)

/-- The first half of a surrogate pair. -/
def isHighSurrogate (n : Nat) : Bool := 0xD800 ≤ n && n < 0xDC00

/-- The second half of a surrogate pair. -/
def isLowSurrogate (n : Nat) : Bool := 0xDC00 ≤ n && n < 0xE000

/-- The characters that pieces stand for; there are none if half of a pair stands alone. -/
def charsOfPieces? : List StringPiece → Option (List Char)
  | [] => some []
  | .unit high :: .unit low :: rest =>
    if isHighSurrogate high then
      if isLowSurrogate low then
        (charsOfPieces? rest).map
          (Char.ofNat (0x10000 + (high - 0xD800) * 1024 + (low - 0xDC00)) :: ·)
      else none
    else if isLowSurrogate high then none
    else (charsOfPieces? (.unit low :: rest)).map (Char.ofNat high :: ·)
  | .unit n :: rest =>
    if isHighSurrogate n || isLowSurrogate n then none
    else (charsOfPieces? rest).map (Char.ofNat n :: ·)
  | .char c :: rest => (charsOfPieces? rest).map (c :: ·)

/-- A text behind its opening quote; what is read is nothing if it stands for no text. -/
def readString? (cs : List Char) : Read (Option String) :=
  (readPieces? cs).map fun r => ((charsOfPieces? r.1).map String.ofList, r.2)

/-! ### Numbers -/

/-- At least one digit. -/
def readDigits? (cs : List Char) : Read (List Char) :=
  let digits := cs.takeWhile Char.isDigit
  if digits.isEmpty then none else some (digits, cs.drop digits.length)

/-- The whole part of a number, which begins with a zero only if it is zero. -/
def readWhole? (cs : List Char) : Read (List Char) :=
  match cs with
  | '0' :: rest => some (['0'], rest)
  | _ => readDigits? cs

/-- A point with the digits behind it, if there is a point. -/
def readFraction? (cs : List Char) : Read (List Char) :=
  match cs with
  | '.' :: rest => (readDigits? rest).map fun r => ('.' :: r.1, r.2)
  | _ => some ([], cs)

/-- The sign of an exponent, if there is one. -/
def readSign (cs : List Char) : List Char × List Char :=
  match cs with
  | '+' :: rest => (['+'], rest)
  | '-' :: rest => (['-'], rest)
  | _ => ([], cs)

/-- An exponent, if there is one. -/
def readExponent? (cs : List Char) : Read (List Char) :=
  match cs with
  | [] => some ([], [])
  | e :: rest =>
    if e = 'e' || e = 'E' then
      let sign := readSign rest
      (readDigits? sign.2).map fun r => (e :: sign.1 ++ r.1, r.2)
    else some ([], cs)

/-- The number that decimal digits stand for. -/
def natOfDigits (cs : List Char) : Nat := cs.foldl (fun n c => 10 * n + (c.toNat - 48)) 0

/-- The number with a sign and a whole part, if it has no further part and fits into 64 bits. The
negative zero is no whole number. -/
def wholeNumber? (negative : Bool) (whole : List Char) : Option Int :=
  let n := natOfDigits whole
  if negative then if n ≠ 0 ∧ n ≤ span63 then some (-n) else none
  else if n < span64 then some n else none

/-- A number without sign, given whether a sign stood before it. -/
def readUnsigned? (negative : Bool) (cs : List Char) : Option (Json × List Char) := do
  let (whole, rest) ← readWhole? cs
  let (fraction, rest) ← readFraction? rest
  let (exponent, rest) ← readExponent? rest
  let written := (if negative then ['-'] else []) ++ whole ++ fraction ++ exponent
  match if fraction.isEmpty && exponent.isEmpty then wholeNumber? negative whole else none with
  | some n => some (.integer n, rest)
  | none => some (.decimal (String.ofList written), rest)

/-- A number. -/
def readNumber? (cs : List Char) : Read Json :=
  match cs with
  | '-' :: rest => readUnsigned? true rest
  | _ => readUnsigned? false cs

/-! ### Arrays and objects -/

/-- The items up to the closing bracket, at least one, where the bound is at least the number of
items. -/
def readItems? (item : List Char → Read Json) : Nat → List Char → Read (List Json)
  | 0, _ => none
  | bound + 1, cs =>
    (item cs).bind fun r =>
      match skipBlanks r.2 with
      | ']' :: rest => some ([r.1], rest)
      | ',' :: rest => (readItems? item bound rest).map fun s => (r.1 :: s.1, s.2)
      | _ => none

/-- A member of an object: a key, a colon and a value. -/
def readMember? (item : List Char → Read Json) (cs : List Char) :
    Read (Option String × Json) :=
  match skipBlanks cs with
  | '"' :: rest =>
    (readString? rest).bind fun k =>
      match skipBlanks k.2 with
      | ':' :: rest => (item rest).map fun v => ((k.1, v.1), v.2)
      | _ => none
  | _ => none

/-- The members up to the closing brace, at least one, where the bound is at least the number of
members. -/
def readMembers? (item : List Char → Read Json) :
    Nat → List Char → Read (List (Option String × Json))
  | 0, _ => none
  | bound + 1, cs =>
    (readMember? item cs).bind fun r =>
      match skipBlanks r.2 with
      | '}' :: rest => some ([r.1], rest)
      | ',' :: rest => (readMembers? item bound rest).map fun s => (r.1 :: s.1, s.2)
      | _ => none

/-- The object with these members; every key must be a text. -/
def ofMembers (members : List (Option String × Json)) : Json :=
  match members.mapM fun m => m.1.map fun k => (k, m.2) with
  | some ms => .object ms
  | none => .unreadable

/-- An array behind its opening bracket. -/
def readArray? (item : List Char → Read Json) (cs : List Char) : Read Json :=
  match skipBlanks cs with
  | ']' :: rest => some (.array [], rest)
  | _ => (readItems? item cs.length cs).map fun r => (.array r.1, r.2)

/-- An object behind its opening brace. -/
def readObject? (item : List Char → Read Json) (cs : List Char) : Read Json :=
  match skipBlanks cs with
  | '}' :: rest => some (.object [], rest)
  | _ => (readMembers? item cs.length cs).map fun r => (ofMembers r.1, r.2)

/-! ### Values -/

/-- A value with at most `depth` arrays and objects around each other. -/
def readValue? : Nat → List Char → Read Json
  | 0, _ => none
  | depth + 1, cs =>
    match skipBlanks cs with
    | [] => none
    | '"' :: rest =>
      (readString? rest).map fun r => ((r.1.map Json.string).getD .unreadable, r.2)
    | '[' :: rest => readArray? (readValue? depth) rest
    | '{' :: rest => readObject? (readValue? depth) rest
    | 'n' :: rest => (skip? "ull".toList rest).map fun r => (.null, r)
    | 't' :: rest => (skip? "rue".toList rest).map fun r => (.bool true, r)
    | 'f' :: rest => (skip? "alse".toList rest).map fun r => (.bool false, r)
    | c :: rest => readNumber? (c :: rest)

/-- The value that a whole text is, blanks around it aside. -/
def read? (text : String) : Option Json :=
  let cs := text.toList
  (readValue? (cs.length + 1) cs).bind fun r =>
    if (skipBlanks r.2).isEmpty then some r.1 else none

end Manifest.Json
