import Manifest.Evaluation.Expression

/-!
# Executing statements

Definitions are not executed where they stand; the collection knows them. A conditional executes
its branch in the same scope.

## Main definitions

* `Evaluation.declare` — declares resources or classes.
* `Evaluation.execute`, `Evaluation.executeAll` — executes statements in a scope.
-/

namespace Manifest.Evaluation

/-! ### Declarations -/

/-- The values of attributes. -/
def evaluateAttributes (setting : Setting) (enter : Enter) (scope : ScopeId)
    (attributes : List Attribute) : Eval (Table Value) :=
  attributes.foldlM (fun values a => do
    return values.insert a.name (← evaluate setting enter scope a.value)) Table.empty

/-- The titles that a title expression stands for, one for each element. -/
def evaluateTitle (setting : Setting) (enter : Enter) (scope : ScopeId) (title : Expr) :
    Eval (List String) := do
  return (← evaluate setting enter scope title).flatten.map Value.text

/-- Declares one class like a resource. -/
def declareClass (setting : Setting) (enter : Enter) (scope : ScopeId) (given : Table Value)
    (location : Location) (title : String) : Eval Unit := do
  let c ← resolveClass setting scope title location
  let _ ← evaluateClass enter c (some given) scope location

/-- Declares the classes of a body, one for each title. -/
def declareClasses (setting : Setting) (enter : Enter) (scope : ScopeId) (body : ResourceBody) :
    Eval Unit := do
  let given ← evaluateAttributes setting enter scope body.attributes
  (← evaluateTitle setting enter scope body.title).forM
    (declareClass setting enter scope given body.location)

/-- What a type name stands for in a declaration. -/
inductive DeclaredType
  | define (definition : DefineDefinition)
  | registered (name : String)

/-- The name of the type in references. -/
def DeclaredType.name : DeclaredType → String
  | define d => d.name
  | registered name => name

/-- The type with a name in a scope: a define or else a registered type. -/
def resolveType (setting : Setting) (scope : ScopeId) (name : String) (location : Location) :
    Eval DeclaredType := do
  match setting.collection.findDefine? name ((← get).scopes.space scope) with
  | some d => return .define d
  | none =>
    if setting.registry.contains name then return .registered name
    else throw (.unresolvedReference ("resource type " ++ name) location)

/-- Declares one resource, and evaluates the define that it is an instance of. -/
def declareResource (enter : Enter) (scope : ScopeId) (type : DeclaredType) (given : Table Value)
    (location : Location) (title : String) : Eval Unit := do
  let reference := Reference.of type.name title
  place scope { Resource.new reference scope location with parameters := given }
  match type with
  | .define d =>
    let _ ← enter (.ofDefine d reference given location)
  | .registered _ => return ()

/-- Declares the resources of a body, one for each title. -/
def declareResources (setting : Setting) (enter : Enter) (scope : ScopeId) (type : DeclaredType)
    (body : ResourceBody) : Eval Unit := do
  let given ← evaluateAttributes setting enter scope body.attributes
  (← evaluateTitle setting enter scope body.title).forM
    (declareResource enter scope type given body.location)

/-- Declares resources or classes. -/
def declare (setting : Setting) (enter : Enter) (scope : ScopeId) (typeName : String)
    (bodies : List ResourceBody) (location : Location) : Eval Unit := do
  if typeName = "class" then bodies.forM (declareClasses setting enter scope)
  else
    let type ← resolveType setting scope typeName location
    bodies.forM (declareResources setting enter scope type)

/-! ### Statements -/

/-- Whether the guard of a branch holds. -/
def guardHolds (setting : Setting) (enter : Enter) (scope : ScopeId) : Option Expr → Eval Bool
  | none => return true
  | some guard => do return (← evaluate setting enter scope guard).isTruthy

mutual

/-- Executes a statement in a scope. -/
def execute (setting : Setting) (enter : Enter) (scope : ScopeId) : Statement → Eval Unit
  | .classDefinition .. | .defineDefinition .. | .nodeDefinition .. => return ()
  | .assignment name value location => do
    let v ← evaluate setting enter scope value
    setVariable scope name v location
  | .resource typeName bodies location => declare setting enter scope typeName bodies location
  | .conditional branches _ => executeFirst setting enter scope branches
  | .expression value => do
    let _ ← evaluate setting enter scope value

/-- Executes statements one after the other. -/
def executeAll (setting : Setting) (enter : Enter) (scope : ScopeId) :
    List Statement → Eval Unit
  | [] => return ()
  | s :: rest => do
    execute setting enter scope s
    executeAll setting enter scope rest

/-- Executes the first branch whose guard holds. -/
def executeFirst (setting : Setting) (enter : Enter) (scope : ScopeId) :
    List Branch → Eval Unit
  | [] => return ()
  | .mk guard body _ :: rest => do
    if ← guardHolds setting enter scope guard then executeAll setting enter scope body
    else executeFirst setting enter scope rest

end

end Manifest.Evaluation
