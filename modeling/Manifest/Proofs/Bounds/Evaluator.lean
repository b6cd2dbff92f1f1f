import Manifest.Evaluation

/-!
# Evaluation that looks before it reaches

The functions here do what those of `Manifest.Evaluation` do, but they look up every scope and every
element of a list by its number before they use it.  Where nothing stands under the number they fail
with an error that is given from outside: an evaluation that is the same whatever this error is has
not met it.  Whatever looks nothing up by number is taken over as it is.

## Main definitions

* `Checked.scopeAt`, `Checked.outwards` — a scope, and all scopes that it sees, which must be there.
* `Checked.linkFrom` — the edges of a chain, whose arrows look for their operands by number.
* `Checked.evaluate`, `Checked.execute` — expressions and statements.
* `Checked.enter`, `Checked.run` — classes and defines, and whole evaluations.
-/

namespace Manifest.Checked

open Evaluation (Operand DeclaredType Function)

/-! ### Scopes -/

/-- The scope with a number. -/
def scopeAt (fault : EvalError) (id : ScopeId) : Eval Scope := do
  match (← get).scopes.scopes[id]? with
  | some scope => return scope
  | none => throw fault

/-- A scope and those around it, innermost first, if they are all there and each one is older than
the one inside it. -/
def outwards? (a : ScopeArena) (id : ScopeId) : Option (List Scope) :=
  match a.scopes[id]? with
  | none => none
  | some scope =>
    match scope.parent with
    | none => some [scope]
    | some parent => if _h : parent < id then (outwards? a parent).map (scope :: ·) else none
termination_by id

/-- A scope and those around it, innermost first. -/
def outwards (fault : EvalError) (id : ScopeId) : Eval (List Scope) := do
  match outwards? (← get).scopes id with
  | some scopes => return scopes
  | none => throw fault

/-- Adds a scope inside another one and answers its number. -/
def newScope (fault : EvalError) (parent : ScopeId) (space : String) (owner : Reference) :
    Eval ScopeId := do
  let _ ← scopeAt fault parent
  Evaluation.newScope parent space owner

/-- Sets a variable in a scope. -/
def setVariable (fault : EvalError) (scope : ScopeId) (name : String) (value : Value)
    (location : Location) : Eval Unit := do
  -- Nothing but this scope is read or changed.
  let _ ← scopeAt fault scope
  Evaluation.setVariable scope name value location

/-- What a variable stands for in a scope. -/
def valueOf (fault : EvalError) (scope : ScopeId) (name : String) : Eval (Option Value) := do
  let anchored := Name.absolute? name
  match Name.splitLast? (anchored.getD name) with
  | some (space, last) =>
    match (← get).classScopes.get? (Text.lower space) with
    | some id => return (← scopeAt fault id).bindings.get? last
    | none => return none
  | none =>
    match anchored with
    | some full => return (← scopeAt fault ScopeArena.top).bindings.get? full
    | none => return (← outwards fault scope).findSome? fun s => s.bindings.get? name

/-- Reads a variable; without a value it is an error or stands for the absent value. -/
def readVariable (fault : EvalError) (setting : Setting) (scope : ScopeId) (name : String)
    (location : Location) : Eval Value := do
  match ← valueOf fault scope name with
  | some value => return value
  | none => if setting.strict then throw (.undefinedVariable name location) else return .absent

/-- Says that the owner of a scope contains a resource. -/
def contain (fault : EvalError) (scope : ScopeId) (reference : Reference) : Eval Unit := do
  let owner := (← scopeAt fault scope).owner
  match (← get).catalog.addEdge ⟨owner, reference, .contains⟩ with
  | .ok catalog => modify fun s => { s with catalog := catalog }
  | .error e => throw (.ofCatalog e)

/-- Adds a resource, which the owner of a scope contains and which keeps the number of a scope
itself. -/
def place (fault : EvalError) (scope : ScopeId) (r : Resource) : Eval Unit := do
  let _ ← scopeAt fault r.scope
  Evaluation.addResource r
  contain fault scope r.reference

/-! ### Classes and references -/

/-- The class that a name stands for in a scope. -/
def resolveClass (fault : EvalError) (setting : Setting) (scope : ScopeId) (name : String)
    (location : Location) : Eval ClassDefinition := do
  match setting.collection.findClass? name (← scopeAt fault scope).space with
  | some c => return c
  | none => throw (.unresolvedReference ("class " ++ name) location)

/-- Evaluates the class that a name stands for in a scope. -/
def includeClass (fault : EvalError) (setting : Setting) (enter : Enter) (scope : ScopeId)
    (location : Location) (name : String) : Eval ClassDefinition := do
  let c ← resolveClass fault setting scope name location
  let _ ← Evaluation.evaluateClass enter c none scope location
  return c

/-- Evaluates a class and applies it before the owner of a scope. -/
def requireClass (fault : EvalError) (setting : Setting) (enter : Enter) (scope : ScopeId)
    (location : Location) (name : String) : Eval Unit := do
  let c ← includeClass fault setting enter scope location name
  Evaluation.relate ⟨.ofClass c.name, (← scopeAt fault scope).owner, .before, location⟩

/-- Calls a function. -/
def apply (fault : EvalError) (setting : Setting) (enter : Enter) (scope : ScopeId)
    (location : Location) (args : List Value) : Function → Eval Unit
  | .includeClasses =>
    (Evaluation.classNames args).forM fun name => do
      let _ ← includeClass fault setting enter scope location name
  | .requireClasses =>
    (Evaluation.classNames args).forM (requireClass fault setting enter scope location)
  | .notice =>
    Evaluation.report (.notice setting.node.name location.text (Evaluation.messageText args))
  | .fail => throw (.failed (Evaluation.messageText args) location)

/-- Records the edges that arrows make between operands; the first arrow stands behind operand
`i`. -/
def linkFrom (fault : EvalError) (sides : List Operand) : Nat → List Arrow → Eval Unit
  | _, [] => return ()
  | i, arrow :: arrows => do
    -- The arrow stands between this operand and the next one.
    match sides[i]?, sides[i + 1]? with
    | some source, some target => (Evaluation.link arrow source target).forM Evaluation.relate
    | _, _ => throw fault
    linkFrom fault sides (i + 1) arrows

/-- The reference for a type and a title in a scope. -/
def referTo (fault : EvalError) (setting : Setting) (enter : Enter) (scope : ScopeId)
    (type : String) (location : Location) (title : String) : Eval Reference := do
  let space := (← scopeAt fault scope).space
  let key := Text.lower type
  if key = "class" then
    match setting.collection.findClass? title space with
    | some c =>
      let _ ← Evaluation.evaluateClass enter c none scope location
      return .ofClass c.name
    | none => return .ofClass title
  else
    match setting.collection.findDefine? key space with
    | some d => return .of d.name title
    | none => return .of type title

/-- The value of an expression `Type[title, …]`: the only reference or an array of them. -/
def referenceValue (fault : EvalError) (references : List Reference) : Eval Value :=
  if references.length = 1 then
    match references[0]? with
    | some reference => return .reference reference
    | none => throw fault
  else return .array (references.map .reference)

/-- The text of a piece of a template. -/
def pieceText (fault : EvalError) (setting : Setting) (scope : ScopeId) (location : Location) :
    TemplatePart → Eval String
  | .literal text => return text
  | .interpolated name => do return (← readVariable fault setting scope name location).text

/-! ### Expressions -/

mutual

/-- The value of an expression in a scope. -/
def evaluate (fault : EvalError) (setting : Setting) (enter : Enter) (scope : ScopeId) :
    Expr → Eval Value
  | .string text _ | .bareword text _ => return .string text
  | .template parts location => do
    let texts ← parts.mapM (pieceText fault setting scope location)
    return .string (String.join texts)
  | .integer n _ => return .integer n
  | .bool b _ => return .bool b
  | .absent _ => return .absent
  | .variableRead name location => readVariable fault setting scope name location
  | .array items _ => do return .array (← evaluateAll fault setting enter scope items)
  | .reference type titles _ => do
    let references ← evaluateTitles fault setting enter scope type titles
    referenceValue fault references
  | .not operand _ => do
    let value ← evaluate fault setting enter scope operand
    return .bool !value.isTruthy
  | .binary op left right _ => do
    let l ← evaluate fault setting enter scope left
    match op with
    | .and =>
      if l.isTruthy then
        let r ← evaluate fault setting enter scope right
        return .bool r.isTruthy
      else return .bool false
    | .or =>
      if l.isTruthy then return .bool true
      else
        let r ← evaluate fault setting enter scope right
        return .bool r.isTruthy
    | .equal =>
      let r ← evaluate fault setting enter scope right
      return .bool (l.looseEq r)
    | .notEqual =>
      let r ← evaluate fault setting enter scope right
      return .bool !(l.looseEq r)
  | .call name args location =>
    match Function.ofName? name with
    | none => throw (.unknownFunction name location)
    | some function => do
      let values ← evaluateAll fault setting enter scope args
      apply fault setting enter scope location values function
      return .absent
  | .relationship operands arrows _ => do
    let sides ← evaluateOperands fault setting enter scope operands
    linkFrom fault sides 0 arrows
    return .absent

/-- The values of expressions. -/
def evaluateAll (fault : EvalError) (setting : Setting) (enter : Enter) (scope : ScopeId) :
    List Expr → Eval (List Value)
  | [] => return []
  | e :: rest => do
    let value ← evaluate fault setting enter scope e
    return value :: (← evaluateAll fault setting enter scope rest)

/-- The references of one type with the titles that expressions stand for. -/
def evaluateTitles (fault : EvalError) (setting : Setting) (enter : Enter) (scope : ScopeId)
    (type : String) : List Expr → Eval (List Reference)
  | [] => return []
  | e :: rest => do
    let value ← evaluate fault setting enter scope e
    let references ← value.flatten.mapM fun v =>
      referTo fault setting enter scope type e.location v.text
    return references ++ (← evaluateTitles fault setting enter scope type rest)

/-- The operands of a chain of relationships. -/
def evaluateOperands (fault : EvalError) (setting : Setting) (enter : Enter) (scope : ScopeId) :
    List Expr → Eval (List Operand)
  | [] => return []
  | e :: rest => do
    let value ← evaluate fault setting enter scope e
    match Evaluation.referencesOf e.location value with
    | .error error => throw error
    | .ok references =>
      return ⟨references, e.location⟩ :: (← evaluateOperands fault setting enter scope rest)

end

/-! ### Declarations -/

/-- The values of attributes. -/
def evaluateAttributes (fault : EvalError) (setting : Setting) (enter : Enter) (scope : ScopeId)
    (attributes : List Attribute) : Eval (Table Value) :=
  attributes.foldlM (fun values a => do
    return values.insert a.name (← evaluate fault setting enter scope a.value)) Table.empty

/-- The titles that a title expression stands for, one for each element. -/
def evaluateTitle (fault : EvalError) (setting : Setting) (enter : Enter) (scope : ScopeId)
    (title : Expr) : Eval (List String) := do
  return (← evaluate fault setting enter scope title).flatten.map Value.text

/-- Declares one class like a resource. -/
def declareClass (fault : EvalError) (setting : Setting) (enter : Enter) (scope : ScopeId)
    (given : Table Value) (location : Location) (title : String) : Eval Unit := do
  let c ← resolveClass fault setting scope title location
  let _ ← Evaluation.evaluateClass enter c (some given) scope location

/-- Declares the classes of a body, one for each title. -/
def declareClasses (fault : EvalError) (setting : Setting) (enter : Enter) (scope : ScopeId)
    (body : ResourceBody) : Eval Unit := do
  let given ← evaluateAttributes fault setting enter scope body.attributes
  (← evaluateTitle fault setting enter scope body.title).forM
    (declareClass fault setting enter scope given body.location)

/-- The type with a name in a scope: a define or else a registered type. -/
def resolveType (fault : EvalError) (setting : Setting) (scope : ScopeId) (name : String)
    (location : Location) : Eval DeclaredType := do
  match setting.collection.findDefine? name (← scopeAt fault scope).space with
  | some d => return .define d
  | none =>
    if setting.registry.contains name then return .registered name
    else throw (.unresolvedReference ("resource type " ++ name) location)

/-- Declares one resource, and evaluates the define that it is an instance of. -/
def declareResource (fault : EvalError) (enter : Enter) (scope : ScopeId) (type : DeclaredType)
    (given : Table Value) (location : Location) (title : String) : Eval Unit := do
  let reference := Reference.of type.name title
  place fault scope { Resource.new reference scope location with parameters := given }
  match type with
  | .define d =>
    let _ ← enter (.ofDefine d reference given location)
  | .registered _ => return ()

/-- Declares the resources of a body, one for each title. -/
def declareResources (fault : EvalError) (setting : Setting) (enter : Enter) (scope : ScopeId)
    (type : DeclaredType) (body : ResourceBody) : Eval Unit := do
  let given ← evaluateAttributes fault setting enter scope body.attributes
  (← evaluateTitle fault setting enter scope body.title).forM
    (declareResource fault enter scope type given body.location)

/-- Declares resources or classes. -/
def declare (fault : EvalError) (setting : Setting) (enter : Enter) (scope : ScopeId)
    (typeName : String) (bodies : List ResourceBody) (location : Location) : Eval Unit := do
  if typeName = "class" then bodies.forM (declareClasses fault setting enter scope)
  else
    let type ← resolveType fault setting scope typeName location
    bodies.forM (declareResources fault setting enter scope type)

/-! ### Statements -/

/-- Whether the guard of a branch holds. -/
def guardHolds (fault : EvalError) (setting : Setting) (enter : Enter) (scope : ScopeId) :
    Option Expr → Eval Bool
  | none => return true
  | some guard => do return (← evaluate fault setting enter scope guard).isTruthy

mutual

/-- Executes a statement in a scope. -/
def execute (fault : EvalError) (setting : Setting) (enter : Enter) (scope : ScopeId) :
    Statement → Eval Unit
  | .classDefinition .. | .defineDefinition .. | .nodeDefinition .. => return ()
  | .assignment name value location => do
    let v ← evaluate fault setting enter scope value
    setVariable fault scope name v location
  | .resource typeName bodies location =>
    declare fault setting enter scope typeName bodies location
  | .conditional branches _ => executeFirst fault setting enter scope branches
  | .expression value => do
    let _ ← evaluate fault setting enter scope value

/-- Executes statements one after the other. -/
def executeAll (fault : EvalError) (setting : Setting) (enter : Enter) (scope : ScopeId) :
    List Statement → Eval Unit
  | [] => return ()
  | s :: rest => do
    execute fault setting enter scope s
    executeAll fault setting enter scope rest

/-- Executes the first branch whose guard holds. -/
def executeFirst (fault : EvalError) (setting : Setting) (enter : Enter) (scope : ScopeId) :
    List Branch → Eval Unit
  | [] => return ()
  | .mk guard body _ :: rest => do
    if ← guardHolds fault setting enter scope guard then
      executeAll fault setting enter scope body
    else executeFirst fault setting enter scope rest

end

/-! ### Classes and defines -/

/-- Gives a parameter its value. -/
def bindParameter (fault : EvalError) (setting : Setting) (enter : Enter) (given : Table Value)
    (resource : Reference) (scope : ScopeId) (location : Location) (p : Parameter) :
    Eval Unit := do
  let value ← match given.get? p.name, p.default with
    | some value, _ => pure value
    | none, some default => evaluate fault setting enter scope default
    | none, none => throw (.missingParameter resource p.name location)
  setVariable fault scope p.name value p.location

/-- Gives the declared parameters their values, one after the other. -/
def bindParameters (fault : EvalError) (setting : Setting) (enter : Enter)
    (declared : List Parameter) (given : Table Value) (resource : Reference) (scope : ScopeId)
    (location : Location) (acceptsName : Bool) : Eval Unit := do
  match given.keys.find? fun name =>
      !Evaluation.isKnownParameter declared acceptsName name with
  | some name => throw (.invalidParameter resource name location)
  | none => declared.forM (bindParameter fault setting enter given resource scope location)

/-- Gives a class its scope and its resource, and answers the scope. -/
def openClass (fault : EvalError) (c : ClassDefinition) (given : Table Value)
    (parent declaring : ScopeId) (location : Location) : Eval ScopeId := do
  Evaluation.report (.classEntered c.name)
  let reference := Reference.ofClass c.name
  let scope ← newScope fault parent c.name reference
  modify fun s => { s with classScopes := s.classScopes.insert c.name scope }
  place fault declaring { Resource.new reference scope location with parameters := given }
  return scope

/-- Executes the body of a class in its scope. -/
def executeClass (fault : EvalError) (setting : Setting) (enter : Enter) (c : ClassDefinition)
    (given : Table Value) (scope : ScopeId) (location : Location) : Eval Unit := do
  bindParameters fault setting enter c.parameters given (.ofClass c.name) scope location false
  executeAll fault setting enter scope c.body

/-- Evaluates a class and answers its scope. -/
def enterClass (fault : EvalError) (setting : Setting) (enter : Enter) (c : ClassDefinition)
    (given : Option (Table Value)) (declaring : ScopeId) (location : Location) :
    Eval ScopeId := do
  let parent ← Evaluation.parentScope setting enter c declaring location
  let scope ← openClass fault c (given.getD Table.empty) parent declaring location
  executeClass fault setting enter c (given.getD Table.empty) scope location
  return scope

/-- Gives the variable `name` of an instance its value unless a parameter has done so. -/
def bindName (fault : EvalError) (scope : ScopeId) (name : Value) (location : Location) :
    Eval Unit := do
  if ((← scopeAt fault scope).bindings.get? "name").isNone then
    setVariable fault scope "name" name location

/-- Executes the body of a define in the scope of an instance. -/
def executeDefine (fault : EvalError) (setting : Setting) (enter : Enter) (d : DefineDefinition)
    (reference : Reference) (given : Table Value) (scope : ScopeId) (location : Location) :
    Eval Unit := do
  let title := Value.string reference.title
  setVariable fault scope "title" title location
  bindParameters fault setting enter d.parameters given reference scope location true
  bindName fault scope ((given.get? "name").getD title) location
  executeAll fault setting enter scope d.body

/-- Evaluates an instance of a define and answers its scope. -/
def enterDefine (fault : EvalError) (setting : Setting) (enter : Enter) (d : DefineDefinition)
    (reference : Reference) (given : Table Value) (location : Location) : Eval ScopeId := do
  let scope ← newScope fault ((← get).lexicalParent d.enclosing) d.name reference
  executeDefine fault setting enter d reference given scope location
  return scope

/-- Enters a class or define, where `inner` enters those within it. -/
def enterWith (fault : EvalError) (setting : Setting) (inner : Enter) : Enter
  | .ofClass c given declaring location =>
    enterClass fault setting inner c given declaring location
  | .ofDefine d reference given location =>
    enterDefine fault setting inner d reference given location

/-- Enters a class or define; at most `limit` bodies are entered within each other. -/
def enter (fault : EvalError) (setting : Setting) : Nat → Enter
  | 0, _ => throw .tooDeep
  | limit + 1, entry => enterWith fault setting (enter fault setting limit) entry

/-! ### Whole evaluations -/

/-- Gives the node its resource, and executes its definition in a scope of its own. -/
def enterNode (fault : EvalError) (setting : Setting) (enter : Enter) (n : NodeDefinition) :
    Eval Unit := do
  let reference := Reference.of "node" (Evaluation.nodeTitle n)
  Evaluation.report (.nodeEntered setting.node.name reference.text)
  place fault ScopeArena.top (Resource.new reference ScopeArena.top n.location)
  let scope ← newScope fault ScopeArena.top "" reference
  executeAll fault setting enter scope n.body

/-- Executes the definition for the node, if there are node definitions at all. -/
def executeNode (fault : EvalError) (setting : Setting) (enter : Enter) : Eval Unit :=
  if setting.collection.nodes.isEmpty then return ()
  else
    match setting.collection.nodeDefinition? setting.node.name with
    | none => throw (.noNodeDefinition setting.node.name)
    | some n => enterNode fault setting enter n

/-- Executes all manifests in the top scope and then the definition for the node. -/
def executeSite (fault : EvalError) (setting : Setting) (enter : Enter) : Eval Unit := do
  setting.collection.manifests.forM fun ast =>
    executeAll fault setting enter ScopeArena.top ast.statements
  executeNode fault setting enter

/-- The finished catalog of the state. The tags of a resource come from its scope and those around
it, all of which are looked up before. -/
def finishState (fault : EvalError) (setting : Setting) : Eval Catalog := do
  (← get).catalog.resources.values.forM fun r => do
    let _ ← outwards fault r.scope
  Evaluation.finishState setting

/-- All steps of an evaluation, where at most `limit` bodies are entered within each other. -/
def program (fault : EvalError) (setting : Setting) (limit : Nat) : Eval Catalog := do
  executeSite fault setting (enter fault setting limit)
  finishState fault setting

/-- The catalog for a node, with the reports up to its end or failure. -/
def run (fault : EvalError) (setting : Setting) : Except EvalError Catalog × List Event :=
  match (program fault setting (Evaluation.depthLimit setting.collection)).run
      (EvalState.start setting) with
  | .ok catalog s => (.ok catalog, s.events)
  | .error e s => (.error e, s.events)

end Manifest.Checked
