/-!
# Arithmetic in commands

## Main definitions

* `Shell.evaluateArithmetic?` — the value of an expression of whole numbers, variables, brackets
  and the signs `+`, `-`, `*`, `/` and `%`.
-/

namespace Manifest.Shell

/-- What is read, with the characters that are left. -/
abbrev Partial := Option (Int × List Char)

/-- The characters without blanks. -/
def withoutBlanks (cs : List Char) : List Char := cs.filter fun c => !c.isWhitespace

/-- Reads a number, variable, signed operand or expression in parentheses. -/
def readOperand (value : String → Int) (inner : List Char → Partial) : List Char → Partial
  | [] => none
  | '(' :: rest =>
    match inner rest with
    | some (n, ')' :: more) => some (n, more)
    | _ => none
  | '-' :: rest => (readOperand value inner rest).map fun r => (-r.1, r.2)
  | '+' :: rest => readOperand value inner rest
  | c :: rest =>
    let word := (c :: rest).takeWhile fun x => x.isAlphanum || x == '_'
    let more := (c :: rest).drop word.length
    if word.isEmpty then none
    else if c.isDigit then (String.ofList word).toNat?.map fun n => ((n : Int), more)
    else some (value (String.ofList word), more)

/-- The operation of a sign that binds as tightly as a product; division by zero has no value. -/
def product? (sign : Char) (a b : Int) : Option Int :=
  match sign with
  | '*' => some (a * b)
  | '/' => if b = 0 then none else some (a.tdiv b)
  | '%' => if b = 0 then none else some (a.tmod b)
  | _ => none

/-- The operation of a sign that binds as tightly as a sum. -/
def sum? (sign : Char) (a b : Int) : Option Int :=
  match sign with
  | '+' => some (a + b)
  | '-' => some (a - b)
  | _ => none

/-- Reads further operands joined by signs of one rank, at most `bound` of them. -/
def readJoined (signs : List Char) (join : Char → Int → Int → Option Int)
    (operand : List Char → Partial) : Nat → Int → List Char → Partial
  | 0, a, cs => some (a, cs)
  | _, a, [] => some (a, [])
  | bound + 1, a, c :: rest =>
    if signs.contains c then
      (operand rest).bind fun r =>
        (join c a r.1).bind fun n => readJoined signs join operand bound n r.2
    else some (a, c :: rest)

/-- Reads an expression with at most `depth` parentheses around each other. -/
def readSum (value : String → Int) : Nat → List Char → Partial
  | 0, _ => none
  | depth + 1, cs =>
    let operand := readOperand value (readSum value depth)
    let product (ds : List Char) : Partial :=
      (operand ds).bind fun r => readJoined ['*', '/', '%'] product? operand ds.length r.1 r.2
    (product cs).bind fun r => readJoined ['+', '-'] sum? product cs.length r.1 r.2

/-- The value of an expression; an empty one is zero. -/
def evaluateArithmetic? (value : String → Int) (cs : List Char) : Option Int :=
  let cs := withoutBlanks cs
  if cs.isEmpty then some 0
  else
    match readSum value (cs.length + 1) cs with
    | some (n, []) => some n
    | _ => none

end Manifest.Shell
