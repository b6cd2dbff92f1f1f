import Manifest.Token.Lexer
import Mathlib.Data.List.Chain

/-!
# How tokens are spelled

Every token has a plain spelling over ASCII, and a text of tokens is their spellings with a blank
between any two.  The shape of names is given without the scanner that reads them; it is used with
ASCII characters inside the segments here, and with all word characters where any text is read.
Quoted texts may be any texts, with a backslash before each character that means something.

## Main definitions

* `IsNameTail`, `IsPlainName`, `IsName` — the shape of names.
* `TemplatePart.IsWritable`, `IsTemplate` — the pieces of a double-quoted string.
* `TokenKind.IsSpellable` — tokens with a spelling.
* `TokenKind.spelling`, `spell` — the spelling of a token and the text of a list of tokens.
-/

namespace Manifest

/-! ### The shape of names -/

/-- An ASCII letter, a digit or an underscore. -/
def isAsciiWordChar (c : Char) : Bool := c.isAlphanum || c == '_'

/-- What may stand behind the first character of a name: characters inside its segment, and further
segments behind `::`. -/
inductive IsNameTail (start : Char → Bool) (inside : Char → Prop) : List Char → Prop
  | nil : IsNameTail start inside []
  | inside {c : Char} {rest : List Char} (hc : inside c) (hrest : IsNameTail start inside rest) :
    IsNameTail start inside (c :: rest)
  | segment {c : Char} {rest : List Char} (hc : start c = true)
    (hrest : IsNameTail start inside rest) : IsNameTail start inside (':' :: ':' :: c :: rest)

/-- A name without anchor, the first segment of which begins with other characters than the further
ones. -/
def IsPlainName (first start : Char → Bool) (inside : Char → Prop) (cs : List Char) : Prop :=
  ∃ c tail, cs = c :: tail ∧ first c = true ∧ IsNameTail start inside tail

/-- A name, anchored or not. -/
def IsName (first start : Char → Bool) (inside : Char → Prop) (cs : List Char) : Prop :=
  ∃ anchor name, (anchor = [] ∨ anchor = [':', ':']) ∧ IsPlainName first start inside name ∧
    cs = anchor ++ name

/-! ### The pieces of a template -/

namespace TemplatePart

/-- Whether a piece is text that stands for itself. -/
def isLiteral : TemplatePart → Bool
  | literal _ => true
  | interpolated _ => false

/-- A text that is not empty, or a variable whose name consists of letters, digits, underscores
and colons. -/
def IsWritable : TemplatePart → Prop
  | literal text => text ≠ ""
  | interpolated name => name ≠ "" ∧ name.toList.all fun c => isAsciiWordChar c || c == ':'

end TemplatePart

/-- The pieces of a double-quoted string: one empty text, or texts and variables among which no two
texts stand next to each other. -/
def IsTemplate (parts : List TemplatePart) : Prop :=
  parts = [.literal ""] ∨ parts ≠ [] ∧ (∀ p ∈ parts, p.IsWritable) ∧
    parts.IsChain fun p q => p.isLiteral = false ∨ q.isLiteral = false

/-! ### Tokens -/

/-- Tokens with a spelling: all but the end of the input, as long as names have the shape of names,
words are no keywords and numbers have 64 bits. -/
def TokenKind.IsSpellable : TokenKind → Prop
  | keyword _ | string _ | symbol _ => True
  | name text => IsName Text.isLowerStart Text.isLowerStart (isAsciiWordChar · = true) text.toList ∧
    Keyword.ofText? text = none
  | typeName text =>
    IsName Text.isUpperStart Text.isNameStart (isAsciiWordChar · = true) text.toList
  | variableName text =>
    IsName Text.isNameStart Text.isNameStart (isAsciiWordChar · = true) text.toList
  | template parts => IsTemplate parts
  | integer value => 0 ≤ value ∧ value ≤ maxInteger
  | eof => False

/-- Characters with a backslash before each special one. -/
def escape (special : List Char) (cs : List Char) : List Char :=
  cs.flatMap fun c => if c ∈ special then ['\\', c] else [c]

/-- How a piece of a template is written. -/
def TemplatePart.spelling : TemplatePart → List Char
  | literal text => escape ['\\', '"', '$'] text.toList
  | interpolated name => '$' :: '{' :: (name.toList ++ ['}'])

/-- How a token is written. -/
def TokenKind.spelling : TokenKind → List Char
  | keyword word => word.text.toList
  | name text | typeName text => text.toList
  | variableName text => '$' :: text.toList
  | string text => '\'' :: (escape ['\\', '\''] text.toList ++ ['\''])
  | template parts => '"' :: (parts.flatMap TemplatePart.spelling ++ ['"'])
  | integer value => Nat.toDigits 10 value.toNat
  | symbol sign => sign.text.toList
  | eof => []

/-- The spellings of tokens, with a blank between any two. -/
def spellings (kinds : List TokenKind) : List Char :=
  [' '].intercalate (kinds.map TokenKind.spelling)

/-- The text of tokens. -/
def spell (kinds : List TokenKind) : String := String.ofList (spellings kinds)

end Manifest
