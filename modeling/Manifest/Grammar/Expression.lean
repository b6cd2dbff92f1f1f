import Manifest.Grammar.Stream
import Manifest.Tree

/-!
# The grammar of expressions

`or` binds weakest, then `and`, then `==` and `!=`, which do not chain, then `!`. Both `or` and
`and` group to the left.

## Main definitions

* `Grammar.primary` — literals, references, calls, arrays and parentheses.
* `Grammar.expression` — expressions nested less deep than a bound.
-/

namespace Manifest.Grammar

/-- An operation stands where its left side does. -/
def binary (op : BinaryOp) (left right : Expr) : Expr := .binary op left right left.location

/-- Reads expressions up to a closing sign. -/
def expressionList (inner : Parse Expr) (close : Symbol) (bound : Nat) : Parse (List Expr) :=
  enclosedList close (fun _ => inner) bound

/-- Reads a literal, variable, array, reference, call, bareword or expression in parentheses,
where `inner` reads what stands between brackets. -/
def primary (inner : Parse Expr) (bound : Nat) : Parse Expr := do
  let token ← peek
  let l := token.location
  match token.kind with
  | .string s =>
    let _ ← advance
    return .string s l
  | .template parts =>
    let _ ← advance
    return .template parts l
  | .integer n =>
    let _ ← advance
    return .integer n l
  | .keyword .trueWord =>
    let _ ← advance
    return .bool true l
  | .keyword .falseWord =>
    let _ ← advance
    return .bool false l
  | .keyword .undefWord =>
    let _ ← advance
    return .absent l
  | .variableName name =>
    let _ ← advance
    return .variableRead name l
  | .symbol .leftBracket =>
    let _ ← advance
    return .array (← expressionList inner .rightBracket bound) l
  | .symbol .leftParen =>
    let _ ← advance
    let e ← inner
    let _ ← expect (.symbol .rightParen)
    return e
  | .typeName type =>
    let _ ← advance
    if ← eat (.symbol .leftBracket) then
      return .reference type (← expressionList inner .rightBracket bound) l
    else return .bareword type l
  | .name name =>
    let _ ← advance
    if ← eat (.symbol .leftParen) then
      return .call name (← expressionList inner .rightParen bound) l
    else return .bareword name l
  | _ => unexpected .expression

/-- Reads an operand with any number of negations before it. -/
def unary (operand : Parse Expr) : Nat → Parse Expr
  | 0 => operand
  | bound + 1 => do
    let token ← peek
    if token.kind == .symbol .bang then
      let _ ← advance
      return .not (← unary operand bound) token.location
    else operand

/-- The comparison that a token is, if it is one. -/
def comparisonOp? : TokenKind → Option BinaryOp
  | .symbol .equal => some .equal
  | .symbol .notEqual => some .notEqual
  | _ => none

/-- Reads an operand or one comparison of two operands. -/
def comparison (operand : Parse Expr) : Parse Expr := do
  let left ← operand
  match comparisonOp? (← peek).kind with
  | some op =>
    let _ ← advance
    return binary op left (← operand)
  | none => return left

/-- Reads further operands behind a keyword, grouping to the left. -/
def leftChain (op : BinaryOp) (word : Keyword) (operand : Parse Expr) :
    Nat → Expr → Parse Expr
  | 0, left => return left
  | bound + 1, left => do
    if ← eat (.keyword word) then
      let right ← operand
      leftChain op word operand bound (binary op left right)
    else return left

/-- Reads operands joined by a keyword. -/
def joined (op : BinaryOp) (word : Keyword) (operand : Parse Expr) (bound : Nat) :
    Parse Expr := do
  let first ← operand
  leftChain op word operand bound first

/-- Reads an expression; what stands between brackets is nested one level deeper. -/
def expression : Nat → Parse Expr
  | 0 => unexpected .expression
  | bound + 1 =>
    let operand := unary (primary (expression bound) (bound + 1)) (bound + 1)
    let conjunction := joined .and .andWord (comparison operand) (bound + 1)
    joined .or .orWord conjunction (bound + 1)

end Manifest.Grammar
