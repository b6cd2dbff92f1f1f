import Manifest.EvalError

/-!
# Scopes

The scopes of an evaluation are counted in the order of their creation, beginning with the top
scope. A scope sees its own variables and those of its parent, its parent's parent and so on; the
parent is chosen once and older than the scope.

## Main definitions

* `Scope` — a scope with its variables.
* `ScopeArena` — all scopes of an evaluation.
* `ScopeArena.ancestors` — a scope and those that it sees.
* `ScopeArena.setVariable`, `ScopeArena.resolve?` — writing and reading variables.
-/

namespace Manifest

/-- A scope. -/
structure Scope where
  /-- The scope around it; the top scope has none. -/
  parent : Option ScopeId
  /-- Where names of classes and types are looked for. -/
  space : String
  /-- The resource that the scope belongs to. -/
  owner : Reference
  bindings : Table Value
  deriving DecidableEq

/-- The scopes of an evaluation by number. -/
structure ScopeArena where
  scopes : Array Scope
  deriving DecidableEq

namespace ScopeArena

/-- The class that owns the top scope. -/
def mainClass : Reference := .ofClass "main"

/-- The number of the top scope. -/
def top : ScopeId := 0

/-- The top scope. -/
def topScope : Scope := ⟨none, "", mainClass, .empty⟩

/-- The top scope alone. -/
def new : ScopeArena := ⟨#[topScope]⟩

/-- The number of scopes. -/
def size (a : ScopeArena) : Nat := a.scopes.size

/-- The scope with a number, or the top scope if there is none. -/
def get (a : ScopeArena) (id : ScopeId) : Scope := a.scopes[id]?.getD topScope

/-- Where a scope looks for names. -/
def space (a : ScopeArena) (id : ScopeId) : String := (a.get id).space

/-- The resource that a scope belongs to. -/
def owner (a : ScopeArena) (id : ScopeId) : Reference := (a.get id).owner

/-- How a scope is called. -/
def label (id : ScopeId) : String := "scope_" ++ toString id

/-- The number that the next scope gets. -/
def next (a : ScopeArena) : ScopeId := a.size

/-- Adds a scope inside another one; its number is `next`. -/
def child (a : ScopeArena) (parent : ScopeId) (space : String) (owner : Reference) : ScopeArena :=
  ⟨a.scopes.push ⟨some parent, space, owner, .empty⟩⟩

/-- A scope and those around it, innermost first. -/
def ancestors (a : ScopeArena) (id : ScopeId) : List ScopeId :=
  id ::
    match (a.get id).parent with
    | some parent => if _h : parent < id then a.ancestors parent else []
    | none => []
termination_by id

/-- The value of a variable that is set in a scope itself. -/
def localVariable? (a : ScopeArena) (id : ScopeId) (name : String) : Option Value :=
  (a.get id).bindings.get? name

/-- The value of a variable that a scope sees: the innermost one. -/
def resolve? (a : ScopeArena) (id : ScopeId) (name : String) : Option Value :=
  (a.ancestors id).findSome? fun s => a.localVariable? s name

/-- Sets a variable, which must have no value in the scope itself. -/
def setVariable (a : ScopeArena) (id : ScopeId) (name : String) (value : Value)
    (location : Location) : Except EvalError ScopeArena :=
  match a.localVariable? id name with
  | some _ => .error (.reassignment name location)
  | none => .ok ⟨a.scopes.modify id fun s =>
      { s with bindings := s.bindings.insert name value }⟩

/-- The class that a name stands for in a scope. -/
def qualifyClass? (a : ScopeArena) (id : ScopeId) (name : String) (c : Collection) :
    Option ClassDefinition :=
  c.findClass? name (a.space id)

end ScopeArena

end Manifest
