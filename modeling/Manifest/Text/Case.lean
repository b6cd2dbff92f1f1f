import Manifest.Text.CaseTable

/-!
# Lower and upper case

Case mapping is the full mapping of Unicode: a character may become several, and a capital sigma
at the end of a word becomes the final form.

## Main definitions

* `lowerChar`, `upperChar` — the mapping of one character.
* `lower` — a text in lower case.
* `capitalize` — a text in lower case whose first character is in upper case.
* `equalIgnoringCase` — equality up to the case of ASCII letters.
-/

namespace Manifest.Text

/-- The lower case of one character, apart from the final sigma. -/
def lowerChar (c : Char) : List Char :=
  if c.toNat < 128 then [c.toLower]
  else if c = 'İ' then ['i', '\u0307']
  else match Run.apply? lowerRuns c.toNat with
    | some code => [Char.ofNat code]
    | none => [c]

/-- The upper case of one character. -/
def upperChar (c : Char) : List Char :=
  if c.toNat < 128 then [c.toUpper]
  else match upperExpansions.find? (·.1 == c.toNat) with
    | some (_, codes) => codes.map Char.ofNat
    | none => match Run.apply? upperRuns c.toNat with
      | some code => [Char.ofNat code]
      | none => [c]

/-- Characters with a case of their own. -/
def isCased (c : Char) : Bool :=
  if c.toNat < 128 then c.isAlpha else casedRanges.contains c

/-- Characters that do not interrupt a cased word, such as the apostrophe. -/
def isCaseIgnorable (c : Char) : Bool :=
  if c.toNat < 128 then c ∈ ['\'', '.', ':', '^', '\x60'] else ignorableRanges.contains c

/-- Whether the first character that matters for a cased word is a cased one. -/
def meetsCased (cs : List Char) : Bool :=
  match cs.dropWhile isCaseIgnorable with
  | [] => false
  | c :: _ => isCased c

/-- The lower case of a character between the text before it, in reverse, and the text after it.
A capital sigma takes its final form when it ends a cased word. -/
def lowerAt (before : List Char) (c : Char) (after : List Char) : List Char :=
  if c = 'Σ' then
    [if meetsCased before && !meetsCased after then 'ς' else 'σ']
  else lowerChar c

/-- Lower case of a list of characters that follows the reversed text `before`. -/
def lowerFrom (before : List Char) : List Char → List Char
  | [] => []
  | c :: rest => lowerAt before c rest ++ lowerFrom (c :: before) rest

/-- A list of characters in lower case. -/
def lowerChars (cs : List Char) : List Char := lowerFrom [] cs

/-- A text in lower case. -/
def lower (s : String) : String := String.ofList (lowerChars s.toList)

/-- A list of characters in lower case, its first character then in upper case. -/
def capitalizeChars (cs : List Char) : List Char :=
  match lowerChars cs with
  | [] => []
  | c :: rest => upperChar c ++ rest

/-- Equality of texts up to the case of ASCII letters. -/
def equalIgnoringCase (s t : String) : Bool :=
  s.toList.map Char.toLower == t.toList.map Char.toLower

end Manifest.Text
