import Manifest.Evaluation.Statement

/-!
# Entering classes and defines

A class is evaluated after the class that it inherits from, in a scope of its own inside that of
the inherited class or else inside that of the class around it. The scope that includes a class is
not visible to it.

## Main definitions

* `Evaluation.bindParameters` — gives the parameters their values.
* `Evaluation.parentScope` — evaluates the inherited class.
* `Evaluation.executeClass`, `Evaluation.executeDefine` — executes a body in its scope.
* `Evaluation.enterClass`, `Evaluation.enterDefine` — opens the scope and executes the body.
* `Evaluation.enter` — the same, with a limit on how often bodies are entered within each other.
-/

namespace Manifest.Evaluation

/-- Whether a parameter may be given to a definition with these parameters. -/
def isKnownParameter (declared : List Parameter) (acceptsName : Bool) (name : String) : Bool :=
  isMetaparameter name || (acceptsName && name == "name") || declared.any (·.name == name)

/-- Gives a parameter its value: the given one or else its default, which is evaluated in the new
scope. -/
def bindParameter (setting : Setting) (enter : Enter) (given : Table Value) (resource : Reference)
    (scope : ScopeId) (location : Location) (p : Parameter) : Eval Unit := do
  let value ← match given.get? p.name, p.default with
    | some value, _ => pure value
    | none, some default => evaluate setting enter scope default
    | none, none => throw (.missingParameter resource p.name location)
  setVariable scope p.name value p.location

/-- Gives the declared parameters their values, one after the other. Only these, metaparameters and
perhaps `name` may be given. -/
def bindParameters (setting : Setting) (enter : Enter) (declared : List Parameter)
    (given : Table Value) (resource : Reference) (scope : ScopeId) (location : Location)
    (acceptsName : Bool) : Eval Unit := do
  match given.keys.find? fun name => !isKnownParameter declared acceptsName name with
  | some name => throw (.invalidParameter resource name location)
  | none => declared.forM (bindParameter setting enter given resource scope location)

/-- Evaluates the class that a class inherits from, and answers its scope. -/
def enterParent (setting : Setting) (enter : Enter) (c : ClassDefinition) (parentName : String)
    (declaring : ScopeId) (location : Location) : Eval ScopeId := do
  match setting.collection.findClass? parentName (Name.parent c.name) with
  | none => throw (.unresolvedReference ("parent class " ++ parentName) c.location)
  | some parent =>
    let inheriting := (← get).inheriting
    if inheriting.contains c.name || parent.name == c.name || inheriting.contains parent.name then
      throw (.circularInheritance c.name c.location)
    else
      modify fun s => { s with inheriting := c.name :: s.inheriting }
      let scope ← evaluateClass enter parent none declaring location
      modify fun s => { s with inheriting := s.inheriting.erase c.name }
      return scope

/-- Gives a class its scope and its resource, and answers the scope. -/
def openClass (c : ClassDefinition) (given : Table Value) (parent declaring : ScopeId)
    (location : Location) : Eval ScopeId := do
  report (.classEntered c.name)
  let reference := Reference.ofClass c.name
  let scope ← newScope parent c.name reference
  modify fun s => { s with classScopes := s.classScopes.insert c.name scope }
  place declaring { Resource.new reference scope location with parameters := given }
  return scope

/-- The scope around that of a class: the one of the class that it inherits from, which is
evaluated first, or else the one around its definition. -/
def parentScope (setting : Setting) (enter : Enter) (c : ClassDefinition) (declaring : ScopeId)
    (location : Location) : Eval ScopeId :=
  match c.parent with
  | some parentName => enterParent setting enter c parentName declaring location
  | none => do return (← get).lexicalParent c.enclosing

/-- Executes the body of a class in its scope. -/
def executeClass (setting : Setting) (enter : Enter) (c : ClassDefinition) (given : Table Value)
    (scope : ScopeId) (location : Location) : Eval Unit := do
  bindParameters setting enter c.parameters given (.ofClass c.name) scope location false
  executeAll setting enter scope c.body

/-- Evaluates a class in a scope of its own inside another one and answers its scope. -/
def enterClassIn (setting : Setting) (enter : Enter) (c : ClassDefinition) (given : Table Value)
    (parent declaring : ScopeId) (location : Location) : Eval ScopeId := do
  let scope ← openClass c given parent declaring location
  executeClass setting enter c given scope location
  return scope

/-- Evaluates a class and answers its scope. -/
def enterClass (setting : Setting) (enter : Enter) (c : ClassDefinition)
    (given : Option (Table Value)) (declaring : ScopeId) (location : Location) :
    Eval ScopeId := do
  let parent ← parentScope setting enter c declaring location
  enterClassIn setting enter c (given.getD Table.empty) parent declaring location

/-- Gives the variable `name` of an instance its value unless a parameter has done so. -/
def bindName (scope : ScopeId) (name : Value) (location : Location) : Eval Unit := do
  if ((← get).scopes.localVariable? scope "name").isNone then
    setVariable scope "name" name location

/-- Executes the body of a define in the scope of an instance. It sees the title, and the name,
which is the title unless it is given. -/
def executeDefine (setting : Setting) (enter : Enter) (d : DefineDefinition)
    (reference : Reference) (given : Table Value) (scope : ScopeId) (location : Location) :
    Eval Unit := do
  let title := Value.string reference.title
  setVariable scope "title" title location
  bindParameters setting enter d.parameters given reference scope location true
  bindName scope ((given.get? "name").getD title) location
  executeAll setting enter scope d.body

/-- Evaluates an instance of a define and answers its scope. -/
def enterDefine (setting : Setting) (enter : Enter) (d : DefineDefinition)
    (reference : Reference) (given : Table Value) (location : Location) : Eval ScopeId := do
  let scope ← newScope ((← get).lexicalParent d.enclosing) d.name reference
  executeDefine setting enter d reference given scope location
  return scope

/-- Enters a class or define, where `inner` enters those within it. -/
def enterWith (setting : Setting) (inner : Enter) : Enter
  | .ofClass c given declaring location => enterClass setting inner c given declaring location
  | .ofDefine d reference given location => enterDefine setting inner d reference given location

/-- Enters a class or define; at most `limit` bodies are entered within each other. -/
def enter (setting : Setting) : Nat → Enter
  | 0, _ => throw .tooDeep
  | limit + 1, entry => enterWith setting (enter setting limit) entry

end Manifest.Evaluation
