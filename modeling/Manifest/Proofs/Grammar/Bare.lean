import Manifest.Tree.Placement

/-!
# Trees without places

Two trees that say the same at different places are equal once all places are taken out.

## Main definitions

* `Expr.bare`, `Statement.bare` — trees with all places replaced by one.

## Main results

* `misplacedIn?_bare` — whether definitions stand where they may does not depend on places.
-/

namespace Manifest

mutual

/-- An expression with all places replaced by one. -/
def Expr.bare : Expr → Expr
  | .string text _ => .string text .builtin
  | .template parts _ => .template parts .builtin
  | .integer value _ => .integer value .builtin
  | .bool value _ => .bool value .builtin
  | .absent _ => .absent .builtin
  | .bareword text _ => .bareword text .builtin
  | .variableRead name _ => .variableRead name .builtin
  | .array items _ => .array (bareAll items) .builtin
  | .reference typeName titles _ => .reference typeName (bareAll titles) .builtin
  | .not operand _ => .not operand.bare .builtin
  | .binary op left right _ => .binary op left.bare right.bare .builtin
  | .call function args _ => .call function (bareAll args) .builtin
  | .relationship operands arrows _ => .relationship (bareAll operands) arrows .builtin

/-- Expressions with all places replaced by one. -/
def bareAll : List Expr → List Expr
  | [] => []
  | e :: rest => e.bare :: bareAll rest

end

/-- A parameter with all places replaced by one. -/
def Parameter.bare (p : Parameter) : Parameter := ⟨p.name, p.default.map Expr.bare, .builtin⟩

/-- An attribute with all places replaced by one. -/
def Attribute.bare (a : Attribute) : Attribute := ⟨a.name, a.value.bare, .builtin⟩

/-- A resource body with all places replaced by one. -/
def ResourceBody.bare (b : ResourceBody) : ResourceBody :=
  ⟨b.title.bare, b.attributes.map Attribute.bare, .builtin⟩

/-- What stands before the body of a class, with all places replaced by one. -/
def ClassHeader.bare (h : ClassHeader) : ClassHeader :=
  { h with parameters := h.parameters.map Parameter.bare, location := .builtin }

/-- What stands before the body of a define, with all places replaced by one. -/
def DefineHeader.bare (h : DefineHeader) : DefineHeader :=
  { h with parameters := h.parameters.map Parameter.bare, location := .builtin }

/-- What stands before the body of a node definition, with its place replaced. -/
def NodeHeader.bare (h : NodeHeader) : NodeHeader := { h with location := .builtin }

mutual

/-- A statement with all places replaced by one. -/
def Statement.bare : Statement → Statement
  | .classDefinition header body => .classDefinition header.bare (bareIn body)
  | .defineDefinition header body => .defineDefinition header.bare (bareIn body)
  | .nodeDefinition header body => .nodeDefinition header.bare (bareIn body)
  | .resource typeName bodies _ => .resource typeName (bodies.map ResourceBody.bare) .builtin
  | .conditional branches _ => .conditional (bareBranches branches) .builtin
  | .assignment name value _ => .assignment name value.bare .builtin
  | .expression value => .expression value.bare

/-- Statements with all places replaced by one. -/
def bareIn : List Statement → List Statement
  | [] => []
  | s :: rest => s.bare :: bareIn rest

/-- A branch with all places replaced by one. -/
def Branch.bare : Branch → Branch
  | .mk guard body _ => .mk (guard.map Expr.bare) (bareIn body) .builtin

/-- Branches with all places replaced by one. -/
def bareBranches : List Branch → List Branch
  | [] => []
  | b :: rest => b.bare :: bareBranches rest

end

theorem bareAll_eq_map : ∀ es : List Expr, bareAll es = es.map Expr.bare
  | [] => rfl
  | e :: rest => by rw [bareAll, List.map_cons, bareAll_eq_map rest]

theorem bareIn_eq_map : ∀ ss : List Statement, bareIn ss = ss.map Statement.bare
  | [] => rfl
  | s :: rest => by rw [bareIn, List.map_cons, bareIn_eq_map rest]

/-! ### Placement -/

mutual

theorem Statement.misplaced?_bare (around : Surroundings) : ∀ s : Statement,
    s.bare.misplaced? around = none ↔ s.misplaced? around = none
  | .classDefinition header body => by
    rw [Statement.bare, Statement.misplaced?, Statement.misplaced?]
    cases around.fault? with
    | some fault => simp
    | none => exact misplacedIn?_bare _ body
  | .defineDefinition header body => by
    rw [Statement.bare, Statement.misplaced?, Statement.misplaced?]
    cases around.fault? with
    | some fault => simp
    | none => exact misplacedIn?_bare _ body
  | .nodeDefinition header body => by
    rw [Statement.bare, Statement.misplaced?, Statement.misplaced?]
    split
    · exact misplacedIn?_bare _ body
    · simp
  | .conditional branches _ => by
    rw [Statement.bare, Statement.misplaced?, Statement.misplaced?]
    exact misplacedInBranches?_bare _ branches
  | .resource .. => by rw [Statement.bare, Statement.misplaced?, Statement.misplaced?]
  | .assignment .. => by rw [Statement.bare, Statement.misplaced?, Statement.misplaced?]
  | .expression _ => by rw [Statement.bare, Statement.misplaced?, Statement.misplaced?]

/-- Whether definitions stand where they may does not depend on places. -/
theorem misplacedIn?_bare (around : Surroundings) : ∀ ss : List Statement,
    misplacedIn? around (bareIn ss) = none ↔ misplacedIn? around ss = none
  | [] => Iff.rfl
  | s :: rest => by
    rw [bareIn, misplacedIn?, misplacedIn?, Option.or_eq_none_iff, Option.or_eq_none_iff,
      Statement.misplaced?_bare around s, misplacedIn?_bare around rest]

theorem misplacedInBranches?_bare (around : Surroundings) : ∀ bs : List Branch,
    misplacedInBranches? around (bareBranches bs) = none ↔ misplacedInBranches? around bs = none
  | [] => Iff.rfl
  | .mk guard body location :: rest => by
    rw [bareBranches, Branch.bare, misplacedInBranches?, misplacedInBranches?, Branch.misplaced?,
      Branch.misplaced?, Option.or_eq_none_iff, Option.or_eq_none_iff,
      misplacedIn?_bare around body, misplacedInBranches?_bare around rest]

end

/-- Statements that say the same are legal together. -/
theorem misplacedIn?_of_bare_eq {around : Surroundings} {ss ss' : List Statement}
    (h : bareIn ss' = bareIn ss) (hlegal : misplacedIn? around ss = none) :
    misplacedIn? around ss' = none := by
  rw [← misplacedIn?_bare, h, misplacedIn?_bare]
  exact hlegal

end Manifest
