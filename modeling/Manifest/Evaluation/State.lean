import Manifest.Node
import Manifest.Registry
import Manifest.Scope

/-!
# The state of an evaluation

An evaluation works on scopes and a catalog that nobody else sees. Edges are recorded while it
runs and put into the catalog at the end.

## Main definitions

* `Setting` — what an evaluation is about; it does not change.
* `EvalState` — what it works on.
* `Eval` — a step, which changes the state or fails.
* `Entry` — a class or define that is entered with its parameters.
* `EvalState.valueOf?` — what a variable stands for in a scope.
-/

namespace Manifest

/-- What an evaluation is about. -/
structure Setting where
  node : Node
  /-- The name of the environment. -/
  environment : String
  collection : Collection
  registry : Registry
  /-- Whether reading a variable without a value is an error. -/
  strict : Bool

/-- An edge that waits for the end of the evaluation. -/
structure Relationship where
  source : Reference
  target : Reference
  kind : EdgeKind
  location : Location
  deriving DecidableEq, Repr

/-- What an evaluation works on. -/
structure EvalState where
  scopes : ScopeArena
  catalog : Catalog
  /-- The scopes of the classes that are evaluated, by full name. -/
  classScopes : Table ScopeId
  /-- The classes whose inherited classes are being evaluated. -/
  inheriting : List String
  /-- The recorded edges, oldest first. -/
  relationships : List Relationship
  /-- The reports, oldest first. -/
  events : List Event
  deriving DecidableEq

/-- A step of an evaluation. -/
abbrev Eval (α : Type) := EStateM EvalError EvalState α

/-- A class or define that is entered. -/
inductive Entry
  /-- A class that is not evaluated yet, with the parameters of a declaration like that of a
  resource, declared in a scope. -/
  | ofClass (definition : ClassDefinition) (given : Option (Table Value)) (declaring : ScopeId)
      (location : Location)
  /-- An instance of a define with its parameters. -/
  | ofDefine (definition : DefineDefinition) (reference : Reference) (given : Table Value)
      (location : Location)

/-- Enters a class or define and answers its scope. -/
abbrev Enter := Entry → Eval ScopeId

namespace EvalState

/-! ### Names in a scope -/

/-- The value of a variable. A name behind an anchor is looked for in the top scope, a qualified
one in the scope of the class that it begins with, and a plain one in the scope and those around
it. -/
def valueOf? (s : EvalState) (scope : ScopeId) (name : String) : Option Value :=
  let anchored := Name.absolute? name
  match Name.splitLast? (anchored.getD name) with
  | some (space, last) =>
    (s.classScopes.get? (Text.lower space)).bind fun id => s.scopes.localVariable? id last
  | none =>
    match anchored with
    | some full => s.scopes.localVariable? ScopeArena.top full
    | none => s.scopes.resolve? scope name

/-- The scope around the body of a definition: that of the class around it if it is evaluated, or
else the top scope. -/
def lexicalParent (s : EvalState) (enclosing : Option String) : ScopeId :=
  (enclosing.bind s.classScopes.get?).getD ScopeArena.top

end EvalState

namespace Evaluation

/-! ### Steps -/

/-- Reports an event. -/
def report (e : Event) : Eval Unit := modify fun s => { s with events := s.events ++ [e] }

/-- Sets a variable in a scope. -/
def setVariable (scope : ScopeId) (name : String) (value : Value) (location : Location) :
    Eval Unit := do
  match (← get).scopes.setVariable scope name value location with
  | .ok scopes => modify fun s => { s with scopes := scopes }
  | .error e => throw e

/-- Reads a variable; without a value it is an error or stands for the absent value. -/
def readVariable (setting : Setting) (scope : ScopeId) (name : String) (location : Location) :
    Eval Value := do
  match (← get).valueOf? scope name with
  | some value => return value
  | none => if setting.strict then throw (.undefinedVariable name location) else return .absent

/-- Adds a scope and answers its number. -/
def newScope (parent : ScopeId) (space : String) (owner : Reference) : Eval ScopeId := do
  let id := (← get).scopes.next
  modify fun s => { s with scopes := s.scopes.child parent space owner }
  return id

/-- Adds a resource to the catalog. -/
def addResource (r : Resource) : Eval Unit := do
  match (← get).catalog.addResource r with
  | .ok catalog => modify fun s => { s with catalog := catalog }
  | .error e => throw (.ofCatalog e)

/-- Says that the owner of a scope contains a resource. -/
def contain (scope : ScopeId) (reference : Reference) : Eval Unit := do
  let s ← get
  match s.catalog.addEdge ⟨s.scopes.owner scope, reference, .contains⟩ with
  | .ok catalog => modify fun s => { s with catalog := catalog }
  | .error e => throw (.ofCatalog e)

/-- Adds a resource, which the owner of a scope contains. -/
def place (scope : ScopeId) (r : Resource) : Eval Unit := do
  addResource r
  contain scope r.reference

/-- Records an edge. -/
def relate (r : Relationship) : Eval Unit :=
  modify fun s => { s with relationships := s.relationships ++ [r] }

/-- The class that a name stands for in a scope. -/
def resolveClass (setting : Setting) (scope : ScopeId) (name : String) (location : Location) :
    Eval ClassDefinition := do
  match (← get).scopes.qualifyClass? scope name setting.collection with
  | some c => return c
  | none => throw (.unresolvedReference ("class " ++ name) location)

/-- Makes sure that a class is evaluated and answers its scope. A class that is evaluated must not
be declared like a resource any more. -/
def evaluateClass (enter : Enter) (c : ClassDefinition) (given : Option (Table Value))
    (declaring : ScopeId) (location : Location) : Eval ScopeId := do
  let s ← get
  match s.classScopes.get? c.name with
  | none => enter (.ofClass c given declaring location)
  | some scope =>
    if given.isNone then return scope
    else
      let reference := Reference.ofClass c.name
      let first := ((s.catalog.get? reference).map Resource.location).getD c.location
      throw (.duplicateResource reference first location)

/-- The reference that a value is or is the text of. -/
def referenceOf (location : Location) : Value → Except EvalError Reference
  | .reference r => .ok r
  | .string text =>
    match Reference.ofText? text with
    | some r => .ok r
    | none => .error (.unresolvedReference text location)
  | other => .error (.unresolvedReference other.text location)

/-- The references that the elements of a value are. -/
def referencesOf (location : Location) (v : Value) : Except EvalError (List Reference) :=
  v.flatten.mapM (referenceOf location)

end Evaluation

end Manifest
