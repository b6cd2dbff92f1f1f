import Manifest.Token

/-!
# The inside of quoted strings

A single-quoted string knows two escapes. A double-quoted one knows more and has variables in it,
written `$name` or with the name between braces.

## Main definitions

* `unescapeSingle` — the text of a single-quoted string.
* `interpolation` — the variable name behind a dollar.
* `templateParts` — the pieces of a double-quoted string.
-/

namespace Manifest

/-- The text of a single-quoted string: a backslash escapes a quote or another backslash, and
otherwise stands for itself. -/
def unescapeSingle : List Char → List Char
  | [] => []
  | '\\' :: '\'' :: rest => '\'' :: unescapeSingle rest
  | '\\' :: '\\' :: rest => '\\' :: unescapeSingle rest
  | c :: rest => c :: unescapeSingle rest

/-- Characters that belong to an interpolated name. -/
def isInterpolatedChar (c : Char) : Bool := c.isAlphanum || c == '_' || c == ':'

/-- The characters without the colons at their end. -/
def dropLastColons (cs : List Char) : List Char := (cs.reverse.dropWhile (· == ':')).reverse

/-- The variable name behind a dollar, with the number of characters it takes up. Between braces
stands the name alone; without braces the name goes as far as it can, but colons at its end belong
to the text behind it. The name is empty if there is none. -/
def interpolation (cs : List Char) : List Char × Nat :=
  match cs with
  | '{' :: inner =>
    let name := inner.takeWhile (· ≠ '}')
    if name.length < inner.length && !name.isEmpty && name.all isInterpolatedChar then
      (name, name.length + 2)
    else ([], 0)
  | _ =>
    let name := dropLastColons (cs.takeWhile isInterpolatedChar)
    (name, name.length)

/-- One character of text or one variable. -/
inductive TemplatePiece
  | char (c : Char)
  | name (text : List Char)
  deriving DecidableEq, Repr

/-- The character for an escape, if the character behind the backslash makes one. -/
def escapedChar? : Char → Option Char
  | 'n' => some '\n'
  | 't' => some '\t'
  | '"' => some '"'
  | '\\' => some '\\'
  | '$' => some '$'
  | _ => none

/-- The pieces of a double-quoted string behind its first `skip` characters. -/
def templatePieces : Nat → List Char → List TemplatePiece
  | _, [] => []
  | skip + 1, _ :: rest => templatePieces skip rest
  | 0, '\\' :: c :: rest =>
    match escapedChar? c with
    | some e => .char e :: templatePieces 0 rest
    | none => .char '\\' :: .char c :: templatePieces 0 rest
  | 0, '$' :: rest =>
    let found := interpolation rest
    if found.1.isEmpty then .char '$' :: templatePieces 0 rest
    else .name found.1 :: templatePieces found.2 rest
  | 0, c :: rest => .char c :: templatePieces 0 rest

/-- Joins neighbouring characters to literals. -/
def joinPieces : List TemplatePiece → List TemplatePart
  | [] => []
  | .name n :: rest => .interpolated (String.ofList n) :: joinPieces rest
  | .char c :: rest =>
    match joinPieces rest with
    | .literal text :: more => .literal (String.ofList (c :: text.toList)) :: more
    | parts => .literal (String.ofList [c]) :: parts

/-- The pieces of a double-quoted string; an empty string is one empty literal. -/
def templateParts (body : List Char) : List TemplatePart :=
  match joinPieces (templatePieces 0 body) with
  | [] => [.literal ""]
  | parts => parts

end Manifest
