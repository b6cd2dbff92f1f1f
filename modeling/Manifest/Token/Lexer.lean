import Manifest.ParseError
import Manifest.Text.Blank
import Manifest.Text.Word
import Manifest.Token.Template

/-!
# From text to tokens

The rules for lexemes are tried in a fixed order at the current place, and the first that matches
takes as many characters as it can. White space and comments are lexemes without a token.

## Main definitions

* `LexRule` — the rules.
* `LexRule.length` — how many characters a rule takes at the beginning of a text.
* `LexRule.token?` — the token for a lexeme.
* `lex` — the tokens of a text, with the end of input last.
-/

namespace Manifest

/-- The rules for lexemes. -/
inductive LexRule
  | blanks | lineComment | blockComment
  | variableName | typeName | word | integer | singleQuoted | doubleQuoted | symbol
  deriving DecidableEq, Repr

/-! ### How far a lexeme reaches -/

/-- The length of a leading separator. -/
def anchorLength : List Char → Nat
  | ':' :: ':' :: _ => 2
  | _ => 0

/-- The length of the rest of a name behind its first character: word characters, and further
segments behind `::` whose first character satisfies `start`. -/
def nameTailLength (start : Char → Bool) : List Char → Nat
  | [] => 0
  | ':' :: ':' :: c :: rest => if start c then nameTailLength start rest + 3 else 0
  | c :: rest => if Text.isWordChar c then nameTailLength start rest + 1 else 0

/-- The length of a name, anchored or not, whose first character satisfies `first` and whose later
segments begin with `start`. -/
def nameLength (first start : Char → Bool) (cs : List Char) : Nat :=
  match cs.drop (anchorLength cs) with
  | [] => 0
  | c :: rest => if first c then anchorLength cs + nameTailLength start rest + 1 else 0

/-- The length of a block comment behind its opening, up to the first closing. -/
def commentTailLength? : List Char → Option Nat
  | [] => none
  | '*' :: '/' :: _ => some 2
  | _ :: rest => (commentTailLength? rest).map (· + 1)

/-- The length of a quoted string behind its opening quote. A backslash takes the character behind
it along, which must not be a line break. -/
def quotedTailLength? (quote : Char) : List Char → Option Nat
  | [] => none
  | '\\' :: rest =>
    match rest with
    | [] => none
    | c :: more => if c = '\n' then none else (quotedTailLength? quote more).map (· + 2)
  | c :: rest => if c = quote then some 1 else (quotedTailLength? quote rest).map (· + 1)

/-- The first sign that a text begins with. -/
def symbolAt? (cs : List Char) : Option Symbol :=
  Symbol.all.find? fun s => s.text.toList.isPrefixOf cs

namespace LexRule

/-- The rules in the order in which they are tried. -/
def all : List LexRule :=
  [blanks, lineComment, blockComment, variableName, typeName, word, integer, singleQuoted,
   doubleQuoted, symbol]

/-- How many characters a rule takes at the beginning of a text; zero if it does not match. -/
def length : LexRule → List Char → Nat
  | blanks, cs => (cs.takeWhile Text.isBlank).length
  | lineComment, cs =>
    match cs with
    | '#' :: rest => (rest.takeWhile (· ≠ '\n')).length + 1
    | _ => 0
  | blockComment, cs =>
    match cs with
    | '/' :: '*' :: rest => ((commentTailLength? rest).map (· + 2)).getD 0
    | _ => 0
  | variableName, cs =>
    match cs with
    | '$' :: rest =>
      match nameLength Text.isNameStart Text.isNameStart rest with
      | 0 => 0
      | n + 1 => n + 2
    | _ => 0
  | typeName, cs => nameLength Text.isUpperStart Text.isNameStart cs
  | word, cs => nameLength Text.isLowerStart Text.isLowerStart cs
  | integer, cs => (cs.takeWhile Text.isDecimalDigit).length
  | singleQuoted, cs =>
    match cs with
    | '\'' :: rest => ((quotedTailLength? '\'' rest).map (· + 1)).getD 0
    | _ => 0
  | doubleQuoted, cs =>
    match cs with
    | '"' :: rest => ((quotedTailLength? '"' rest).map (· + 1)).getD 0
    | _ => 0
  | symbol, cs => ((symbolAt? cs).map fun s => s.text.toList.length).getD 0

/-- The first rule that matches at the beginning of a text, with the length of its lexeme. -/
def first? (cs : List Char) : Option (LexRule × Nat) :=
  (all.map fun r => (r, r.length cs)).find? fun m => m.2 ≠ 0

end LexRule

/-! ### The token for a lexeme -/

/-- The largest integer of 64 bits. -/
def maxInteger : Nat := 9223372036854775807

/-- The number that ASCII digits stand for. -/
def decimalValue (cs : List Char) : Nat :=
  cs.foldl (fun n c => 10 * n + (c.toNat - '0'.toNat)) 0

/-- The number token for a run of digits. Digits of other scripts and numbers beyond 64 bits are
refused. -/
def integerToken (location : Location) (lexeme : List Char) : Except ParseError TokenKind :=
  if lexeme.all Char.isDigit && decimalValue lexeme ≤ maxInteger then
    .ok (.integer (decimalValue lexeme))
  else .error (.invalidNumber (String.ofList lexeme) location)

/-- The characters between two quotes. -/
def insideQuotes (lexeme : List Char) : List Char := lexeme.tail.dropLast

/-- The token for a lexeme of a rule; blanks and comments have none. -/
def LexRule.token? (location : Location) (lexeme : List Char) :
    LexRule → Except ParseError (Option TokenKind)
  | blanks | lineComment | blockComment => .ok none
  | variableName => .ok (some (.variableName (String.ofList lexeme.tail)))
  | typeName => .ok (some (.typeName (String.ofList lexeme)))
  | word => .ok (some (.ofWord (String.ofList lexeme)))
  | integer => (integerToken location lexeme).map some
  | singleQuoted =>
    .ok (some (.string (String.ofList (unescapeSingle (insideQuotes lexeme)))))
  | doubleQuoted => .ok (some (.template (templateParts (insideQuotes lexeme))))
  | symbol => .ok ((symbolAt? lexeme).map .symbol)

/-- The error where no rule matches: an unclosed string or comment, or else a stray character. -/
def unmatched (location : Location) (c : Char) (rest : List Char) : ParseError :=
  if c = '\'' || c = '"' then .unterminated .string location
  else if c = '/' && rest.head? = some '*' then .unterminated .comment location
  else .unexpectedChar c location

/-! ### Walking over the text -/

/-- The place behind a character that stands at a place. -/
def Location.after (l : Location) (c : Char) : Location :=
  if c = '\n' then ⟨l.file, l.line + 1, 1⟩ else ⟨l.file, l.line, l.column + 1⟩

/-- The tokens of a text that begins at a place, where the first `skip` characters belong to a
lexeme that has been read. -/
def lexFrom (location : Location) : Nat → List Char → Except ParseError (List Token)
  | _, [] => .ok [⟨.eof, location⟩]
  | skip + 1, c :: rest => lexFrom (location.after c) skip rest
  | 0, c :: rest =>
    match LexRule.first? (c :: rest) with
    | none => .error (unmatched location c rest)
    | some (rule, length) =>
      match rule.token? location ((c :: rest).take length) with
      | .error e => .error e
      | .ok none => lexFrom (location.after c) (length - 1) rest
      | .ok (some kind) =>
        match lexFrom (location.after c) (length - 1) rest with
        | .error e => .error e
        | .ok tokens => .ok (⟨kind, location⟩ :: tokens)

/-- The tokens of a text, with the end of input as the last one. -/
def lex (file text : String) : Except ParseError (List Token) :=
  lexFrom ⟨file, 1, 1⟩ 0 text.toList

end Manifest
