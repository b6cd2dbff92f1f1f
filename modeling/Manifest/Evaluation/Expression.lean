import Manifest.Evaluation.State

/-!
# Evaluating expressions

Expressions are evaluated from left to right. A reference to a class evaluates the class.

## Main definitions

* `Evaluation.Function` — the functions that may be called.
* `Evaluation.evaluate` — the value of an expression in a scope.
-/

namespace Manifest.Evaluation

/-! ### Functions -/

/-- The functions that may be called. -/
inductive Function
  /-- Evaluates classes. -/
  | includeClasses
  /-- Evaluates classes and applies them before the caller. -/
  | requireClasses
  /-- Reports a text. -/
  | notice
  /-- Ends the evaluation. -/
  | fail
  deriving DecidableEq, Repr

/-- The function with a name. -/
def Function.ofName? : String → Option Function
  | "include" => some includeClasses
  | "require" => some requireClasses
  | "notice" => some notice
  | "fail" => some fail
  | _ => none

/-- The class name that a value is: the title of a reference to a class, or else its text. -/
def className : Value → String
  | .reference r => if r.isClass then r.title else r.text
  | v => v.text

/-- The class names in the arguments of a function. -/
def classNames (args : List Value) : List String :=
  args.flatMap fun v => v.flatten.map className

/-- The text that the arguments of a function make up. -/
def messageText (args : List Value) : String := String.intercalate " " (args.map Value.text)

/-- Evaluates the class that a name stands for in a scope. -/
def includeClass (setting : Setting) (enter : Enter) (scope : ScopeId) (location : Location)
    (name : String) : Eval ClassDefinition := do
  let c ← resolveClass setting scope name location
  let _ ← evaluateClass enter c none scope location
  return c

/-- Evaluates a class and applies it before the owner of a scope. -/
def requireClass (setting : Setting) (enter : Enter) (scope : ScopeId) (location : Location)
    (name : String) : Eval Unit := do
  let c ← includeClass setting enter scope location name
  relate ⟨.ofClass c.name, (← get).scopes.owner scope, .before, location⟩

/-- Calls a function. -/
def apply (setting : Setting) (enter : Enter) (scope : ScopeId) (location : Location)
    (args : List Value) : Function → Eval Unit
  | .includeClasses =>
    (classNames args).forM fun name => do
      let _ ← includeClass setting enter scope location name
  | .requireClasses => (classNames args).forM (requireClass setting enter scope location)
  | .notice => report (.notice setting.node.name location.text (messageText args))
  | .fail => throw (.failed (messageText args) location)

/-! ### Relationships -/

/-- The kind of edge that an arrow makes. -/
def edgeKind : Arrow → EdgeKind
  | .before => .before
  | .notify => .notify

/-- An operand of a chain of relationships. -/
structure Operand where
  references : List Reference
  location : Location

/-- The edges from every reference of an operand to every one of the next operand, which says
where they stand. -/
def link (arrow : Arrow) (source target : Operand) : List Relationship :=
  source.references.flatMap fun s =>
    target.references.map fun t => ⟨s, t, edgeKind arrow, target.location⟩

/-- The edges of a chain. -/
def chain : List Arrow → List Operand → List Relationship
  | arrow :: arrows, source :: target :: rest =>
    link arrow source target ++ chain arrows (target :: rest)
  | _, _ => []

/-! ### References and templates -/

/-- The reference for a type and a title in a scope. A class is looked for in the namespace of the
scope and evaluated, a define is looked for there too. -/
def referTo (setting : Setting) (enter : Enter) (scope : ScopeId) (type : String)
    (location : Location) (title : String) : Eval Reference := do
  let space := (← get).scopes.space scope
  let key := Text.lower type
  if key = "class" then
    match setting.collection.findClass? title space with
    | some c =>
      let _ ← evaluateClass enter c none scope location
      return .ofClass c.name
    | none => return .ofClass title
  else
    match setting.collection.findDefine? key space with
    | some d => return .of d.name title
    | none => return .of type title

/-- The value of an expression `Type[title, …]`: a single reference or an array of them. -/
def referenceValue : List Reference → Value
  | [r] => .reference r
  | rs => .array (rs.map .reference)

/-- The text of a piece of a template. -/
def pieceText (setting : Setting) (scope : ScopeId) (location : Location) :
    TemplatePart → Eval String
  | .literal text => return text
  | .interpolated name => do return (← readVariable setting scope name location).text

/-! ### Expressions -/

mutual

/-- The value of an expression in a scope. -/
def evaluate (setting : Setting) (enter : Enter) (scope : ScopeId) : Expr → Eval Value
  | .string text _ | .bareword text _ => return .string text
  | .template parts location => do
    let texts ← parts.mapM (pieceText setting scope location)
    return .string (String.join texts)
  | .integer n _ => return .integer n
  | .bool b _ => return .bool b
  | .absent _ => return .absent
  | .variableRead name location => readVariable setting scope name location
  | .array items _ => do return .array (← evaluateAll setting enter scope items)
  | .reference type titles _ => do
    return referenceValue (← evaluateTitles setting enter scope type titles)
  | .not operand _ => do
    let value ← evaluate setting enter scope operand
    return .bool !value.isTruthy
  | .binary op left right _ => do
    let l ← evaluate setting enter scope left
    match op with
    | .and =>
      if l.isTruthy then
        let r ← evaluate setting enter scope right
        return .bool r.isTruthy
      else return .bool false
    | .or =>
      if l.isTruthy then return .bool true
      else
        let r ← evaluate setting enter scope right
        return .bool r.isTruthy
    | .equal =>
      let r ← evaluate setting enter scope right
      return .bool (l.looseEq r)
    | .notEqual =>
      let r ← evaluate setting enter scope right
      return .bool !(l.looseEq r)
  | .call name args location =>
    match Function.ofName? name with
    | none => throw (.unknownFunction name location)
    | some function => do
      let values ← evaluateAll setting enter scope args
      apply setting enter scope location values function
      return .absent
  | .relationship operands arrows _ => do
    let sides ← evaluateOperands setting enter scope operands
    (chain arrows sides).forM relate
    return .absent

/-- The values of expressions. -/
def evaluateAll (setting : Setting) (enter : Enter) (scope : ScopeId) :
    List Expr → Eval (List Value)
  | [] => return []
  | e :: rest => do
    let value ← evaluate setting enter scope e
    return value :: (← evaluateAll setting enter scope rest)

/-- The references of one type with the titles that expressions stand for. -/
def evaluateTitles (setting : Setting) (enter : Enter) (scope : ScopeId) (type : String) :
    List Expr → Eval (List Reference)
  | [] => return []
  | e :: rest => do
    let value ← evaluate setting enter scope e
    let references ← value.flatten.mapM fun v =>
      referTo setting enter scope type e.location v.text
    return references ++ (← evaluateTitles setting enter scope type rest)

/-- The operands of a chain of relationships. -/
def evaluateOperands (setting : Setting) (enter : Enter) (scope : ScopeId) :
    List Expr → Eval (List Operand)
  | [] => return []
  | e :: rest => do
    let value ← evaluate setting enter scope e
    match referencesOf e.location value with
    | .error error => throw error
    | .ok references =>
      return ⟨references, e.location⟩ :: (← evaluateOperands setting enter scope rest)

end

end Manifest.Evaluation
