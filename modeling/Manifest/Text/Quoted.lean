import Manifest.Text.PrintTable

/-!
# Quoted characters and texts

Diagnostics show a character between single quotes and a name between double quotes, with every
character that would not be seen written as an escape.

## Main definitions

* `isHidden`, `isExtending` — characters that are shown by their code point.
* `quotedChar` — a character between single quotes.
* `quoted` — a text between double quotes.
-/

namespace Manifest.Text

/-- Characters that print as nothing or as an unknown glyph. -/
def isHidden (c : Char) : Bool :=
  if c.toNat < 128 then c.toNat < 32 || c.toNat == 127 else hiddenRanges.contains c

/-- Marks that attach to the character before them. -/
def isExtending (c : Char) : Bool :=
  if c.toNat < 128 then false else extendingRanges.contains c

/-- A code point in small hexadecimal digits, without leading zeros. -/
def hexCode (n : Nat) : String := String.ofList (Nat.toDigits 16 n)

/-- One character as it stands inside a pair of the given quotes. -/
def escapeChar (quote c : Char) : String :=
  if c = '\x00' then "\\0"
  else if c = '\t' then "\\t"
  else if c = '\r' then "\\r"
  else if c = '\n' then "\\n"
  else if c = quote || c = '\\' then String.ofList ['\\', c]
  else if isExtending c || isHidden c then "\\u\x7b" ++ hexCode c.toNat ++ "\x7d"
  else c.toString

/-- A character between single quotes. -/
def quotedChar (c : Char) : String := "'" ++ escapeChar '\'' c ++ "'"

/-- A text between double quotes. -/
def quoted (s : String) : String :=
  "\"" ++ String.join (s.toList.map (escapeChar '"')) ++ "\""

end Manifest.Text
