import Manifest.Grammar.Expression
import Manifest.Name
import Manifest.Text.Case

/-!
# The grammar of statements

A definition inside another one belongs to its namespace. `unless` becomes a conditional with a
negated guard and `case` one with comparisons as guards, its `default` last.

## Main definitions

* `Grammar.resourceDeclaration`, `Grammar.ifStatement` and the like — the kinds of statements.
* `Grammar.statement` — statements nested less deep than a bound.
* `Grammar.program` — all statements up to the end of input.
-/

namespace Manifest.Grammar

/-! ### Blocks -/

/-- Reads statements up to a token that stops; semicolons between them are passed over. -/
def statements (stops : TokenKind → Bool) (statement : Parse Statement) :
    Nat → Parse (List Statement)
  | 0 => return []
  | bound + 1 => do
    if stops (← peek).kind then return []
    if ← eat (.symbol .semicolon) then statements stops statement bound
    else
      let first ← statement
      return first :: (← statements stops statement bound)

/-- Reads statements between braces. -/
def block (statement : Parse Statement) (bound : Nat) : Parse (List Statement) := do
  let _ ← expect (.symbol .leftBrace)
  let body ← statements (fun k => k == .symbol .rightBrace || k == .eof) statement bound
  let _ ← expect (.symbol .rightBrace)
  return body

/-! ### Definitions -/

/-- The full name of a definition inside the definition `space`; an anchored name stands for
itself. -/
def qualify (space : Option String) (name : String) : String :=
  match Name.absolute? name with
  | some full => Text.lower full
  | none => Name.join (space.getD "") (Text.lower name)

/-- Reads a parameter that differs from those that are `found`. -/
def parameter (bound : Nat) (found : List Parameter) : Parse Parameter := do
  let token ← peek
  match token.kind with
  | .variableName name =>
    let _ ← advance
    if found.any (·.name == name) then throw (.duplicate .parameter name token.location)
    if ← eat (.symbol .assign) then
      return ⟨name, some (← expression bound), token.location⟩
    else return ⟨name, none, token.location⟩
  | _ => unexpected .parameter

/-- Reads parameters between parentheses, if there are any. -/
def parameters (bound : Nat) : Parse (List Parameter) := do
  if ← eat (.symbol .leftParen) then enclosedList .rightParen (parameter bound) bound
  else return []

/-- Reads a class inside the definition `space`, where `inner` reads the statements of its body
inside the definition that it is given. -/
def classDefinition (inner : Option String → Parse Statement) (space : Option String)
    (bound : Nat) : Parse Statement := do
  let start ← expect (.keyword .classWord)
  let name := qualify space (← expectName)
  let parameters ← parameters bound
  let parent ← if ← eat (.keyword .inheritsWord) then
      pure (some (Text.lower (← expectName)))
    else pure none
  let body ← block (inner (some name)) bound
  return .classDefinition ⟨name, parameters, parent, space, start.location⟩ body

/-- Reads a define inside the definition `space`. -/
def defineDefinition (inner : Option String → Parse Statement) (space : Option String)
    (bound : Nat) : Parse Statement := do
  let start ← expect (.keyword .defineWord)
  let name := qualify space (← expectName)
  let parameters ← parameters bound
  let body ← block (inner (some name)) bound
  return .defineDefinition ⟨name, parameters, space, start.location⟩ body

/-- The text of a double-quoted string without variables. -/
def literalText? : List TemplatePart → Option String
  | [] => some ""
  | .literal text :: rest => (literalText? rest).map (text ++ ·)
  | .interpolated _ :: _ => none

/-- Reads the name of a node. -/
def nodeName : Parse NodeName := do
  match (← peek).kind with
  | .keyword .defaultWord =>
    let _ ← advance
    return .fallback
  | .name text | .string text =>
    let _ ← advance
    return .exact (Text.lower text)
  | .template parts =>
    match literalText? parts with
    | some text =>
      let _ ← advance
      return .exact (Text.lower text)
    | none => unexpected .literalNodeName
  | _ => unexpected .nodeName

/-- Reads a node definition. -/
def nodeDefinition (inner : Parse Statement) (bound : Nat) : Parse Statement := do
  let start ← expect (.keyword .nodeWord)
  let names ← separatedList .comma (fun _ => false) (fun _ => nodeName) bound []
  let body ← block inner bound
  return .nodeDefinition ⟨names, start.location⟩ body

/-! ### Resources, assignments, calls and relationships -/

/-- The name that a token is as an attribute; keywords are names here. -/
def attributeName? : TokenKind → Option String
  | .name text => some text
  | .keyword word => some word.text
  | _ => none

/-- Reads an attribute that differs from those that are `found`. -/
def attributeOf (bound : Nat) (found : List Attribute) : Parse Attribute := do
  let token ← peek
  match attributeName? token.kind with
  | some name =>
    let _ ← advance
    if found.any (·.name == name) then throw (.duplicate .attributeName name token.location)
    let _ ← expect (.symbol .fatArrow)
    return ⟨name, ← expression bound, token.location⟩
  | none => unexpected .attributeName

/-- Reads a title and its attributes. -/
def resourceBody (bound : Nat) : Parse ResourceBody := do
  let title ← expression bound
  let _ ← expect (.symbol .colon)
  let stops (k : TokenKind) : Bool := k == .symbol .semicolon || k == .symbol .rightBrace
  let attributes ← separatedList .comma stops (attributeOf bound) bound []
  return ⟨title, attributes, title.location⟩

/-- Reads the bodies of a resource declaration. -/
def resourceDeclaration (typeName : String) (location : Location) (bound : Nat) :
    Parse Statement := do
  let _ ← expect (.symbol .leftBrace)
  let bodies ← separatedList .semicolon (· == .symbol .rightBrace)
    (fun _ => resourceBody bound) bound []
  let _ ← expect (.symbol .rightBrace)
  return .resource typeName bodies location

/-- Reads an assignment to a variable. -/
def assignment (name : String) (location : Location) (bound : Nat) : Parse Statement := do
  let _ ← expect (.symbol .assign)
  return .assignment name (← expression bound) location

/-- Reads the arguments of a call, between parentheses or without them. -/
def callStatement (function : String) (location : Location) (bound : Nat) : Parse Statement := do
  let args ← if ← eat (.symbol .leftParen) then
      expressionList (expression bound) .rightParen bound
    else separatedList .comma (fun _ => false) (fun _ => expression bound) bound []
  return .expression (.call function args location)

/-- The arrow that a token is, if it is one. -/
def arrow? : TokenKind → Option Arrow
  | .symbol .arrow => some .before
  | .symbol .tildeArrow => some .notify
  | _ => none

/-- Reads arrows, each with an operand behind it. -/
def arrowChain (operand : Parse Expr) : Nat → Parse (List (Arrow × Expr))
  | 0 => return []
  | bound + 1 => do
    match arrow? (← peek).kind with
    | some arrow =>
      let _ ← advance
      let next ← operand
      return (arrow, next) :: (← arrowChain operand bound)
    | none => return []

/-- Reads a chain of relationships, which has at least one arrow. -/
def relationshipStatement (bound : Nat) : Parse Statement := do
  let first ← expression bound
  let chain ← arrowChain (expression bound) bound
  if chain.isEmpty then unexpected .relationshipArrow
  else
    return .expression
      (.relationship (first :: chain.map Prod.snd) (chain.map Prod.fst) first.location)

/-! ### Conditionals -/

/-- Reads a guard and the block that it guards. -/
def guardedBranch (inner : Parse Statement) (bound : Nat) : Parse Branch := do
  let guard ← expression bound
  return .mk (some guard) (← block inner bound) guard.location

/-- Reads `else` and its block. -/
def elseBranch (inner : Parse Statement) (bound : Nat) : Parse Branch := do
  let token ← expect (.keyword .elseWord)
  return .mk none (← block inner bound) token.location

/-- Reads the branches behind the first one of an `if`. -/
def furtherBranches (inner : Parse Statement) (bound : Nat) : Nat → Parse (List Branch)
  | 0 => return []
  | rounds + 1 => do
    if ← eat (.keyword .elsifWord) then
      let branch ← guardedBranch inner bound
      return branch :: (← furtherBranches inner bound rounds)
    else if ← isNext (.keyword .elseWord) then return [← elseBranch inner bound]
    else return []

/-- Reads an `if` with its branches. -/
def ifStatement (inner : Parse Statement) (bound : Nat) : Parse Statement := do
  let start ← expect (.keyword .ifWord)
  let first ← guardedBranch inner bound
  return .conditional (first :: (← furtherBranches inner bound bound)) start.location

/-- Reads an `unless`, whose guard is negated, with an optional `else`. -/
def unlessStatement (inner : Parse Statement) (bound : Nat) : Parse Statement := do
  let start ← expect (.keyword .unlessWord)
  let guard ← expression bound
  let body ← block inner bound
  let first := Branch.mk (some (.not guard guard.location)) body guard.location
  if ← isNext (.keyword .elseWord) then
    return .conditional [first, ← elseBranch inner bound] start.location
  else return .conditional [first] start.location

/-- Whether the subject of a `case` equals a value. -/
def caseTest (subject value : Expr) : Expr := .binary .equal subject value value.location

/-- The guard of a branch of a `case`: the subject equals one of the values. -/
def caseGuard (subject : Expr) : List Expr → Option Expr
  | [] => none
  | value :: rest =>
    some (rest.foldl (fun guard v => .binary .or guard (caseTest subject v) v.location)
      (caseTest subject value))

/-- Reads the branches of a `case` up to the closing brace. The last `default` goes behind the
other branches, and those before it are dropped. -/
def caseBranches (inner : Parse Statement) (subject : Expr) (bound : Nat) :
    Nat → List Branch → Option Branch → Parse (List Branch)
  | 0, branches, fallback => return branches ++ fallback.toList
  | rounds + 1, branches, fallback => do
    let token ← peek
    if token.kind == .symbol .rightBrace then return branches ++ fallback.toList
    if ← eat (.keyword .defaultWord) then
      let _ ← expect (.symbol .colon)
      let body ← block inner bound
      caseBranches inner subject bound rounds branches (some (.mk none body token.location))
    else
      let values ← separatedList .comma (fun _ => false) (fun _ => expression bound) bound []
      let _ ← expect (.symbol .colon)
      let body ← block inner bound
      let branch := Branch.mk (caseGuard subject values) body token.location
      caseBranches inner subject bound rounds (branches ++ [branch]) fallback

/-- Reads a `case`. -/
def caseStatement (inner : Parse Statement) (bound : Nat) : Parse Statement := do
  let start ← expect (.keyword .caseWord)
  let subject ← expression bound
  let _ ← expect (.symbol .leftBrace)
  let branches ← caseBranches inner subject bound bound [] none
  let _ ← expect (.symbol .rightBrace)
  return .conditional branches start.location

/-! ### Statements -/

/-- Reads a statement inside the definition `space`, where `inner` reads the statements of bodies
inside the definition that it is given. -/
def statementOf (inner : Option String → Parse Statement) (space : Option String)
    (bound : Nat) : Parse Statement := do
  let token ← peek
  match token.kind with
  | .keyword .classWord =>
    if (← peekSecond) == .symbol .leftBrace then
      let _ ← advance
      resourceDeclaration "class" token.location bound
    else classDefinition inner space bound
  | .keyword .defineWord => defineDefinition inner space bound
  | .keyword .nodeWord => nodeDefinition (inner space) bound
  | .keyword .ifWord => ifStatement (inner space) bound
  | .keyword .unlessWord => unlessStatement (inner space) bound
  | .keyword .caseWord => caseStatement (inner space) bound
  | .variableName name =>
    let _ ← advance
    assignment name token.location bound
  | .name name =>
    let _ ← advance
    if ← isNext (.symbol .leftBrace) then
      resourceDeclaration (Text.lower name) token.location bound
    else callStatement name token.location bound
  | .typeName _ => relationshipStatement bound
  | _ => unexpected .statement

/-- Reads a statement; what stands in a block is nested one level deeper. -/
def statement : Nat → Option String → Parse Statement
  | 0, _ => unexpected .statement
  | bound + 1, space => statementOf (statement bound) space (bound + 1)

/-- Reads all statements up to the end of input. -/
def program (bound : Nat) : Parse (List Statement) :=
  statements (· == .eof) (statement bound none) bound

end Manifest.Grammar
