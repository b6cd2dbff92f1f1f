import Manifest.Json

/-!
# Writing JSON

A value is written on one line without blanks, or with every item and member on a line of its own.

## Main definitions

* `Json.Layout` — where lines break and what follows a key.
* `Json.chars` — the characters of a value in a layout.
* `Json.compact`, `Json.pretty` — the two written forms.
-/

namespace Manifest.Json

/-! ### Texts -/

/-- A hexadecimal digit in small letters. -/
def hexDigit (n : Nat) : Char := if n < 10 then Char.ofNat (48 + n) else Char.ofNat (87 + n)

/-- One character as it stands in a quoted text. -/
def escaped (c : Char) : List Char :=
  if c = '"' then ['\\', '"']
  else if c = '\\' then ['\\', '\\']
  else if c = '\n' then ['\\', 'n']
  else if c = '\r' then ['\\', 'r']
  else if c = '\t' then ['\\', 't']
  else if c = '\x08' then ['\\', 'b']
  else if c = '\x0c' then ['\\', 'f']
  else if c.toNat < 32 then ['\\', 'u', '0', '0', hexDigit (c.toNat / 16), hexDigit (c.toNat % 16)]
  else [c]

/-- A text between double quotes. -/
def quotedChars (s : String) : List Char := '"' :: (s.toList.flatMap escaped ++ ['"'])

/-! ### Values -/

/-- Where lines break and what follows a key. -/
structure Layout where
  /-- What stands before an item or a closing bracket at a depth. -/
  lineBreak : Nat → List Char
  /-- What stands between a key and its value. -/
  colon : List Char

/-- Everything on one line, without blanks. -/
def Layout.compact : Layout := ⟨fun _ => [], [':']⟩

/-- Every item on its own line, two blanks further in than its bracket. -/
def Layout.pretty : Layout := ⟨fun depth => '\n' :: List.replicate (2 * depth) ' ', [':', ' ']⟩

mutual

/-- The characters of a value that stands at a depth. -/
def chars (layout : Layout) (depth : Nat) : Json → List Char
  | null | unreadable => "null".toList
  | bool b => (if b then "true" else "false").toList
  | integer n => (toString n).toList
  | decimal written => written.toList
  | string s => quotedChars s
  | array [] => ['[', ']']
  | array (v :: rest) =>
    '[' :: layout.lineBreak (depth + 1) ++ chars layout (depth + 1) v ++
      restChars layout (depth + 1) rest ++ layout.lineBreak depth ++ [']']
  | object [] => ['{', '}']
  | object ((k, v) :: rest) =>
    '{' :: layout.lineBreak (depth + 1) ++ quotedChars k ++ layout.colon ++
      chars layout (depth + 1) v ++ memberChars layout (depth + 1) rest ++
      layout.lineBreak depth ++ ['}']

/-- The characters of the items behind the first. -/
def restChars (layout : Layout) (depth : Nat) : List Json → List Char
  | [] => []
  | v :: rest =>
    ',' :: layout.lineBreak depth ++ chars layout depth v ++ restChars layout depth rest

/-- The characters of the members behind the first. -/
def memberChars (layout : Layout) (depth : Nat) : List (String × Json) → List Char
  | [] => []
  | (k, v) :: rest =>
    ',' :: layout.lineBreak depth ++ quotedChars k ++ layout.colon ++ chars layout depth v ++
      memberChars layout depth rest

end

/-- A value on one line. -/
def compact (v : Json) : String := String.ofList (v.chars .compact 0)

/-- A value over several lines. -/
def pretty (v : Json) : String := String.ofList (v.chars .pretty 0)

end Manifest.Json
