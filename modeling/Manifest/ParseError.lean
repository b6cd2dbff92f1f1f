import Manifest.Text.Quoted
import Manifest.Token

/-!
# Errors in a manifest

## Main definitions

* `ParseError` — why a text is no manifest.
* `Misplacement` — a definition that stands where it must not.
* `ParseError.message` — the wording.
-/

namespace Manifest

/-- What lacks its closing delimiter. -/
inductive Unclosed
  | string
  | comment
  deriving DecidableEq, Repr

/-- How an unclosed thing is called. -/
def Unclosed.text : Unclosed → String
  | string => "string"
  | comment => "comment"

/-- What the grammar asks for at a place. -/
inductive Expectation
  | token (kind : TokenKind)
  | name
  | statement
  | expression
  | parameter
  | attributeName
  | nodeName
  | literalNodeName
  | relationshipArrow
  deriving DecidableEq, Repr

/-- How messages speak of what the grammar asks for. -/
def Expectation.text : Expectation → String
  | token kind => kind.describe
  | name => "name"
  | statement => "statement"
  | expression => "expression"
  | parameter => "parameter"
  | attributeName => "attribute name"
  | nodeName => "node name"
  | literalNodeName => "literal node name"
  | relationshipArrow => "'->' or '~>'"

/-- What must not be given twice. -/
inductive Repeatable
  | parameter
  | attributeName
  deriving DecidableEq, Repr

/-- How a repeated thing is called. -/
def Repeatable.text : Repeatable → String
  | parameter => "parameter"
  | attributeName => "attribute"

/-- The definition that a misplacement is about. -/
inductive PlacedDefinition
  | classNamed (name : String)
  | defineNamed (name : String)
  | node
  deriving DecidableEq, Repr

/-- How messages speak of a definition. -/
def PlacedDefinition.text : PlacedDefinition → String
  | classNamed name => "class " ++ name
  | defineNamed name => "define " ++ name
  | node => "node"

/-- Why a definition must not stand where it does. -/
inductive PlacementFault
  | insideConditional
  | insideNode
  | notTopLevel
  deriving DecidableEq, Repr

/-- How messages give the reason. -/
def PlacementFault.text : PlacementFault → String
  | insideConditional => "cannot be defined inside a conditional"
  | insideNode => "cannot be defined inside a node definition"
  | notTopLevel => "can only be defined at top level"

/-- A definition that stands where it must not. -/
structure Misplacement where
  definition : PlacedDefinition
  fault : PlacementFault
  location : Location
  deriving DecidableEq, Repr

/-- Why a text is no manifest. -/
inductive ParseError
  /-- A character that begins no token. -/
  | unexpectedChar (found : Char) (location : Location)
  /-- A string or comment that is not closed. -/
  | unterminated (what : Unclosed) (location : Location)
  /-- A run of digits that is no integer of 64 bits. -/
  | invalidNumber (digits : String) (location : Location)
  /-- A token that does not fit the grammar. -/
  | unexpectedToken (expected : Expectation) (found : TokenKind) (location : Location)
  /-- A parameter or attribute given twice. -/
  | duplicate (what : Repeatable) (name : String) (location : Location)
  /-- A definition that stands where it must not. -/
  | misplaced (fault : Misplacement)
  deriving DecidableEq, Repr

namespace ParseError

/-- The wording of an error, which starts with its place. -/
def message : ParseError → String
  | unexpectedChar found l => l.text ++ ": unexpected character " ++ Text.quotedChar found
  | unterminated what l => l.text ++ ": unterminated " ++ what.text
  | invalidNumber digits l => l.text ++ ": invalid number " ++ digits
  | unexpectedToken expected found l =>
    l.text ++ ": expected " ++ expected.text ++ ", found " ++ found.describe
  | duplicate what name l => l.text ++ ": duplicate " ++ what.text ++ " '" ++ name ++ "'"
  | misplaced m => m.location.text ++ ": " ++ m.definition.text ++ " " ++ m.fault.text

/-- Whether the error is about the place of a definition. -/
def isStructural : ParseError → Bool
  | misplaced _ => true
  | _ => false

end ParseError

end Manifest
