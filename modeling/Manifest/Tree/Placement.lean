import Manifest.ParseError
import Manifest.Tree

/-!
# Where definitions may stand

Classes and defines stand at top level or in the bodies of other classes and defines, node
definitions at top level. No guard is looked at: what a conditional holds is refused whether or
not its branch would be taken.

## Main definitions

* `Surroundings` — what a statement stands in.
* `Statement.misplaced?`, `misplacedIn?` — the first definition that stands where it must not.
* `Ast.misplaced?` — the same for a whole unit.
-/

namespace Manifest

/-- What a statement stands in. -/
inductive Surroundings
  | topLevel
  /-- The body of a class or define. -/
  | definition
  | conditional
  | nodeBody
  deriving DecidableEq, Repr

namespace Surroundings

/-- Why no class or define may stand here, if none may. -/
def fault? : Surroundings → Option PlacementFault
  | topLevel | definition => none
  | conditional => some .insideConditional
  | nodeBody => some .insideNode

/-- The surroundings in an inner block: within conditionals and nodes they stay what they are. -/
def inner (outer block : Surroundings) : Surroundings :=
  match outer with
  | conditional | nodeBody => outer
  | topLevel | definition => block

end Surroundings

mutual

/-- The first misplaced definition in a statement that stands in given surroundings. -/
def Statement.misplaced? (around : Surroundings) : Statement → Option Misplacement
  | .classDefinition header body =>
    match around.fault? with
    | some fault => some ⟨.classNamed header.name, fault, header.location⟩
    | none => misplacedIn? (around.inner .definition) body
  | .defineDefinition header body =>
    match around.fault? with
    | some fault => some ⟨.defineNamed header.name, fault, header.location⟩
    | none => misplacedIn? (around.inner .definition) body
  | .nodeDefinition header body =>
    if around = .topLevel then misplacedIn? .nodeBody body
    else some ⟨.node, .notTopLevel, header.location⟩
  | .conditional branches _ => misplacedInBranches? (around.inner .conditional) branches
  | .resource .. | .assignment .. | .expression _ => none

/-- The first misplaced definition in statements. -/
def misplacedIn? (around : Surroundings) : List Statement → Option Misplacement
  | [] => none
  | s :: rest => (s.misplaced? around).or (misplacedIn? around rest)

/-- The first misplaced definition in a branch. -/
def Branch.misplaced? (around : Surroundings) : Branch → Option Misplacement
  | .mk _ body _ => misplacedIn? around body

/-- The first misplaced definition in branches. -/
def misplacedInBranches? (around : Surroundings) : List Branch → Option Misplacement
  | [] => none
  | b :: rest => (b.misplaced? around).or (misplacedInBranches? around rest)

end

/-- The first misplaced definition in a unit. -/
def Ast.misplaced? (a : Ast) : Option Misplacement := misplacedIn? .topLevel a.statements

end Manifest
