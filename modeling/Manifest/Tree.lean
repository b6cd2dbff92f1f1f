import Manifest.Token

/-!
# The tree of a manifest

A manifest is a list of statements. Conditionals of all kinds are lists of branches; expressions
carry the places that messages name.

## Main definitions

* `Expr` — expressions.
* `Statement`, `Branch` — statements and the branches of conditionals.
* `ClassDefinition`, `DefineDefinition`, `NodeDefinition` — definitions with their bodies.
* `Ast` — the tree of one source unit.
* `Ast.classes`, `Ast.defines`, `Ast.nodes` — the definitions in it.
-/

namespace Manifest

/-- The operators between two expressions. -/
inductive BinaryOp
  | equal | notEqual | and | or
  deriving DecidableEq, Repr

/-- How an operator is written. -/
def BinaryOp.text : BinaryOp → String
  | equal => "=="
  | notEqual => "!="
  | and => "and"
  | or => "or"

/-- The arrows between two resources. -/
inductive Arrow
  /-- The left side is applied before the right one. -/
  | before
  /-- The left side is applied before the right one and notifies it. -/
  | notify
  deriving DecidableEq, Repr

/-- How an arrow is written. -/
def Arrow.text : Arrow → String
  | before => "->"
  | notify => "~>"

/-! ### Expressions -/

/-- An expression at its place. -/
inductive Expr
  | string (text : String) (location : Location)
  | template (parts : List TemplatePart) (location : Location)
  | integer (value : Int) (location : Location)
  | bool (value : Bool) (location : Location)
  | absent (location : Location)
  /-- A word without quotes, which stands for its text. -/
  | bareword (text : String) (location : Location)
  | variableRead (name : String) (location : Location)
  | array (items : List Expr) (location : Location)
  /-- References of one type, written `Type[title, …]`. -/
  | reference (typeName : String) (titles : List Expr) (location : Location)
  | not (operand : Expr) (location : Location)
  | binary (op : BinaryOp) (left right : Expr) (location : Location)
  | call (function : String) (args : List Expr) (location : Location)
  /-- A chain of operands with an arrow between any two neighbours. -/
  | relationship (operands : List Expr) (arrows : List Arrow) (location : Location)
  deriving Repr, Inhabited

/-- Where an expression stands. -/
def Expr.location : Expr → Location
  | string _ l | template _ l | integer _ l | bool _ l | absent l | bareword _ l
  | variableRead _ l | array _ l | reference _ _ l | not _ l | binary _ _ _ l | call _ _ l
  | relationship _ _ l => l

/-! ### Statements -/

/-- A parameter of a class or define. -/
structure Parameter where
  /-- The name without the dollar. -/
  name : String
  default : Option Expr
  location : Location
  deriving Repr

/-- An attribute of a resource body. -/
structure Attribute where
  name : String
  value : Expr
  location : Location
  deriving Repr

/-- A title with attributes, in a resource declaration. -/
structure ResourceBody where
  title : Expr
  attributes : List Attribute
  location : Location
  deriving Repr

/-- What stands before the body of a class definition. -/
structure ClassHeader where
  /-- The full name in lower case. -/
  name : String
  parameters : List Parameter
  /-- The name of the inherited class as it is written, in lower case. -/
  parent : Option String
  /-- The full name of the definition around it. -/
  enclosing : Option String
  location : Location
  deriving Repr

/-- What stands before the body of a define. -/
structure DefineHeader where
  /-- The full name in lower case. -/
  name : String
  parameters : List Parameter
  /-- The full name of the definition around it. -/
  enclosing : Option String
  location : Location
  deriving Repr

/-- The nodes that a node definition is for. -/
inductive NodeName
  /-- The node with this name, in lower case. -/
  | exact (name : String)
  /-- All nodes that no other definition is for. -/
  | fallback
  deriving DecidableEq, Repr

/-- What stands before the body of a node definition. -/
structure NodeHeader where
  names : List NodeName
  location : Location
  deriving Repr

mutual

/-- A statement. -/
inductive Statement
  | classDefinition (header : ClassHeader) (body : List Statement)
  | defineDefinition (header : DefineHeader) (body : List Statement)
  | nodeDefinition (header : NodeHeader) (body : List Statement)
  /-- The type is in lower case; it is `class` for a class declared like a resource. -/
  | resource (typeName : String) (bodies : List ResourceBody) (location : Location)
  /-- The first branch whose guard holds is taken. -/
  | conditional (branches : List Branch) (location : Location)
  | assignment (name : String) (value : Expr) (location : Location)
  /-- A function call or a chain of relationships. -/
  | expression (value : Expr)

/-- A branch of a conditional; without a guard it is always taken. -/
inductive Branch
  | mk (guard : Option Expr) (body : List Statement) (location : Location)

end

instance : Inhabited Statement := ⟨.conditional [] default⟩

/-- Where a statement begins. -/
def Statement.location : Statement → Location
  | classDefinition header _ => header.location
  | defineDefinition header _ => header.location
  | nodeDefinition header _ => header.location
  | resource _ _ l | conditional _ l | assignment _ _ l => l
  | expression value => value.location

/-! ### Definitions -/

/-- A class with its body. -/
structure ClassDefinition extends ClassHeader where
  body : List Statement

/-- A define with its body. -/
structure DefineDefinition extends DefineHeader where
  body : List Statement

/-- A node definition with its body. -/
structure NodeDefinition extends NodeHeader where
  body : List Statement

/-- The tree of a source unit. -/
structure Ast where
  /-- The name of the unit. -/
  file : String
  statements : List Statement

mutual

/-- The classes that a statement defines, itself first. Only bodies of classes and defines are
looked into. -/
def Statement.classes : Statement → List ClassDefinition
  | .classDefinition header body => ⟨header, body⟩ :: classesIn body
  | .defineDefinition _ body => classesIn body
  | _ => []

/-- The classes that statements define. -/
def classesIn : List Statement → List ClassDefinition
  | [] => []
  | s :: rest => s.classes ++ classesIn rest

end

mutual

/-- The defines that a statement defines, itself first. Only bodies of classes and defines are
looked into. -/
def Statement.defines : Statement → List DefineDefinition
  | .classDefinition _ body => definesIn body
  | .defineDefinition header body => ⟨header, body⟩ :: definesIn body
  | _ => []

/-- The defines that statements define. -/
def definesIn : List Statement → List DefineDefinition
  | [] => []
  | s :: rest => s.defines ++ definesIn rest

end

/-- The node definition that a statement is, if it is one. -/
def Statement.asNode? : Statement → Option NodeDefinition
  | .nodeDefinition header body => some ⟨header, body⟩
  | _ => none

namespace Ast

/-- The classes of a unit in the order of their definitions, nested ones included. -/
def classes (a : Ast) : List ClassDefinition := classesIn a.statements

/-- The defines of a unit in the order of their definitions, nested ones included. -/
def defines (a : Ast) : List DefineDefinition := definesIn a.statements

/-- The node definitions of a unit, which stand at top level. -/
def nodes (a : Ast) : List NodeDefinition := a.statements.filterMap Statement.asNode?

end Ast

end Manifest
