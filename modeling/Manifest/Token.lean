import Manifest.Location

/-!
# Tokens

## Main definitions

* `Keyword`, `Symbol` — the words and signs with a meaning of their own.
* `TokenKind` — what a token is.
* `TokenKind.describe` — how messages speak of it.
* `Token` — a token at its place.
-/

namespace Manifest

/-- The reserved words. -/
inductive Keyword
  | classWord | defineWord | nodeWord | inheritsWord
  | ifWord | elsifWord | elseWord | unlessWord | caseWord | defaultWord
  | andWord | orWord | trueWord | falseWord | undefWord
  deriving DecidableEq, Repr

namespace Keyword

/-- How a keyword is written. -/
def text : Keyword → String
  | classWord => "class"
  | defineWord => "define"
  | nodeWord => "node"
  | inheritsWord => "inherits"
  | ifWord => "if"
  | elsifWord => "elsif"
  | elseWord => "else"
  | unlessWord => "unless"
  | caseWord => "case"
  | defaultWord => "default"
  | andWord => "and"
  | orWord => "or"
  | trueWord => "true"
  | falseWord => "false"
  | undefWord => "undef"

/-- Every keyword. -/
def all : List Keyword :=
  [classWord, defineWord, nodeWord, inheritsWord, ifWord, elsifWord, elseWord, unlessWord,
   caseWord, defaultWord, andWord, orWord, trueWord, falseWord, undefWord]

/-- The keyword written like this, if it is one. -/
def ofText? (word : String) : Option Keyword := all.find? (·.text == word)

end Keyword

/-- The signs. -/
inductive Symbol
  | leftBrace | rightBrace | leftParen | rightParen | leftBracket | rightBracket
  | comma | colon | semicolon | assign | fatArrow | equal | notEqual | bang
  | arrow | tildeArrow
  deriving DecidableEq, Repr

namespace Symbol

/-- How a sign is written. -/
def text : Symbol → String
  | leftBrace => "\x7b"
  | rightBrace => "\x7d"
  | leftParen => "("
  | rightParen => ")"
  | leftBracket => "["
  | rightBracket => "]"
  | comma => ","
  | colon => ":"
  | semicolon => ";"
  | assign => "="
  | fatArrow => "=>"
  | equal => "=="
  | notEqual => "!="
  | bang => "!"
  | arrow => "->"
  | tildeArrow => "~>"

/-- Every sign, those of two characters first. -/
def all : List Symbol :=
  [fatArrow, equal, notEqual, arrow, tildeArrow, leftBrace, rightBrace, leftParen, rightParen,
   leftBracket, rightBracket, comma, colon, semicolon, assign, bang]

end Symbol

/-- A piece of a double-quoted string. -/
inductive TemplatePart
  /-- Text that stands for itself. -/
  | literal (text : String)
  /-- A variable, whose value is put in; its name is held without the dollar. -/
  | interpolated (name : String)
  deriving DecidableEq, Repr

/-- What a token is. -/
inductive TokenKind
  | keyword (word : Keyword)
  /-- A name in small letters, possibly qualified. -/
  | name (text : String)
  /-- A capitalised type name, possibly qualified. -/
  | typeName (text : String)
  /-- The name of a variable, without the dollar. -/
  | variableName (text : String)
  /-- The text of a single-quoted string. -/
  | string (text : String)
  /-- The pieces of a double-quoted string. -/
  | template (parts : List TemplatePart)
  | integer (value : Int)
  | symbol (sign : Symbol)
  /-- The end of the input. -/
  | eof
  deriving DecidableEq, Repr

namespace TokenKind

/-- What a bare word is: a keyword or else a name. -/
def ofWord (word : String) : TokenKind :=
  match Keyword.ofText? word with
  | some k => keyword k
  | none => name word

/-- How messages speak of a token. -/
def describe : TokenKind → String
  | keyword word => "'" ++ word.text ++ "'"
  | name text => "name '" ++ text ++ "'"
  | typeName text => "type name '" ++ text ++ "'"
  | variableName text => "variable '$" ++ text ++ "'"
  | string _ | template _ => "string"
  | integer value => "number " ++ toString value
  | symbol sign => "'" ++ sign.text ++ "'"
  | eof => "end of input"

end TokenKind

/-- A token at the place where it starts. -/
structure Token where
  kind : TokenKind
  location : Location
  deriving DecidableEq, Repr

end Manifest
