import Manifest.Proofs.Grammar.Headings
import Manifest.Proofs.Grammar.WellFormed

/-!
# The parts of a tree

All statements and all expressions of a tree, at any depth, are listed.  The definitions among the
statements are those that occur in the tree, and whatever is part of something well formed is well
formed itself, inside of the definition in whose body it stands.

## Main definitions

* `Expr.parts` — all expressions in an expression.
* `Statement.parts`, `Ast.parts` — all statements in a statement or tree.
* `Statement.exprs` — the expressions that stand in a statement.

## Main results

* `Ast.definitions_eq` — the definitions among the parts of a tree.
* `Statement.WellFormed.of_mem_parts` — parts of a well-formed statement are well formed.
-/

namespace Manifest

/-! ### Expressions -/

mutual

/-- All expressions in an expression, itself first. -/
def Expr.parts : Expr → List Expr
  | .array items l => .array items l :: partsOf items
  | .reference typeName titles l => .reference typeName titles l :: partsOf titles
  | .not operand l => .not operand l :: operand.parts
  | .binary op left right l => .binary op left right l :: (left.parts ++ right.parts)
  | .call function args l => .call function args l :: partsOf args
  | .relationship operands arrows l => .relationship operands arrows l :: partsOf operands
  | e => [e]

/-- All expressions in expressions. -/
def partsOf : List Expr → List Expr
  | [] => []
  | e :: rest => e.parts ++ partsOf rest

end

mutual

/-- There is no chain of relationships anywhere in a plain expression. -/
theorem Expr.Plain.of_mem_parts : ∀ {e : Expr}, e.Plain → ∀ part ∈ e.parts, part.Plain
  | .array .., h => List.forall_mem_cons.mpr ⟨h, AllPlain.of_mem_parts h⟩
  | .reference .., h => List.forall_mem_cons.mpr ⟨h, AllPlain.of_mem_parts h⟩
  | .call .., h => List.forall_mem_cons.mpr ⟨h, AllPlain.of_mem_parts h⟩
  | .not operand _, h =>
    List.forall_mem_cons.mpr ⟨h, Expr.Plain.of_mem_parts (e := operand) h⟩
  | .binary .., h => List.forall_mem_cons.mpr ⟨h, List.forall_mem_append.mpr
      ⟨Expr.Plain.of_mem_parts h.1, Expr.Plain.of_mem_parts h.2⟩⟩
  | .string .., h | .template .., h | .integer .., h | .bool .., h | .absent _, h
  | .bareword .., h | .variableRead .., h => List.forall_mem_singleton.mpr h

theorem AllPlain.of_mem_parts : ∀ {es : List Expr}, AllPlain es → ∀ part ∈ partsOf es, part.Plain
  | [], _ => List.forall_mem_nil _
  | _ :: _, h => List.forall_mem_append.mpr
      ⟨Expr.Plain.of_mem_parts h.1, AllPlain.of_mem_parts h.2⟩

end

/-! ### Statements -/

mutual

/-- All statements in a statement, itself first. -/
def Statement.parts : Statement → List Statement
  | .classDefinition header body => .classDefinition header body :: partsIn body
  | .defineDefinition header body => .defineDefinition header body :: partsIn body
  | .nodeDefinition header body => .nodeDefinition header body :: partsIn body
  | .conditional branches l => .conditional branches l :: partsInBranches branches
  | s => [s]

/-- All statements in statements. -/
def partsIn : List Statement → List Statement
  | [] => []
  | s :: rest => s.parts ++ partsIn rest

/-- All statements in branches. -/
def partsInBranches : List Branch → List Statement
  | [] => []
  | .mk _ body _ :: rest => partsIn body ++ partsInBranches rest

end

/-- All statements of a unit, at any depth. -/
def Ast.parts (a : Ast) : List Statement := partsIn a.statements

/-- The guard of a branch, if it has one. -/
def Branch.guard? : Branch → Option Expr
  | .mk guard _ _ => guard

/-- The expressions that stand in a statement, without those in its blocks. -/
def Statement.exprs : Statement → List Expr
  | .classDefinition header _ => header.parameters.filterMap Parameter.default
  | .defineDefinition header _ => header.parameters.filterMap Parameter.default
  | .nodeDefinition .. => []
  | .resource _ bodies _ => bodies.flatMap fun b => b.title :: b.attributes.map Attribute.value
  | .conditional branches _ => branches.filterMap Branch.guard?
  | .assignment _ value _ => [value]
  | .expression value => [value]

/-! ### Definitions among the statements -/

namespace Definition

/-- The parameters. -/
def parameters : Definition → List Parameter
  | ofClass c => c.parameters
  | ofDefine d => d.parameters

/-- The statements in its body. -/
def body : Definition → List Statement
  | ofClass c => c.body
  | ofDefine d => d.body

end Definition

/-- The class or define that a statement is, if it is one. -/
def Statement.asDefinition? : Statement → Option Definition
  | .classDefinition header body => some (.ofClass ⟨header, body⟩)
  | .defineDefinition header body => some (.ofDefine ⟨header, body⟩)
  | _ => none

mutual

theorem Statement.filterMap_parts (around : List Enclosure) : ∀ s : Statement,
    s.parts.filterMap Statement.asDefinition? =
      (s.occurrences around).filterMap (·.definition.asDefinition?)
  | .classDefinition header body =>
    congrArg (Definition.ofClass ⟨header, body⟩ :: ·) (filterMap_partsIn _ body)
  | .defineDefinition header body =>
    congrArg (Definition.ofDefine ⟨header, body⟩ :: ·) (filterMap_partsIn _ body)
  | .nodeDefinition _ body => filterMap_partsIn _ body
  | .conditional branches _ => filterMap_partsInBranches _ branches
  | .resource .. | .assignment .. | .expression _ => rfl

theorem filterMap_partsIn (around : List Enclosure) : ∀ ss : List Statement,
    (partsIn ss).filterMap Statement.asDefinition? =
      (occurrencesIn around ss).filterMap (·.definition.asDefinition?)
  | [] => rfl
  | s :: rest => by
    rw [partsIn, occurrencesIn, List.filterMap_append, List.filterMap_append,
      s.filterMap_parts around, filterMap_partsIn around rest]

theorem filterMap_partsInBranches (around : List Enclosure) : ∀ bs : List Branch,
    (partsInBranches bs).filterMap Statement.asDefinition? =
      (occurrencesInBranches around bs).filterMap (·.definition.asDefinition?)
  | [] => rfl
  | .mk _ body _ :: rest => by
    rw [partsInBranches, occurrencesInBranches, List.filterMap_append, List.filterMap_append,
      filterMap_partsIn around body, filterMap_partsInBranches around rest]

end

/-- The definitions that occur in a tree are those among its parts. -/
theorem Ast.definitions_eq (a : Ast) :
    a.definitions = a.parts.filterMap Statement.asDefinition? :=
  (filterMap_partsIn [] a.statements).symm

/-! ### Well-formed parts -/

mutual

/-- Whatever is part of a well-formed statement is well formed inside of some definition. -/
theorem Statement.WellFormed.of_mem_parts {space : Option String} : ∀ {s : Statement},
    s.WellFormed space → ∀ part ∈ s.parts, ∃ inside, part.WellFormed inside
  | .classDefinition .., h =>
    List.forall_mem_cons.mpr ⟨⟨space, h⟩, WellFormedIn.of_mem_parts h.2.2⟩
  | .defineDefinition .., h =>
    List.forall_mem_cons.mpr ⟨⟨space, h⟩, WellFormedIn.of_mem_parts h.2.2⟩
  | .nodeDefinition _ body, h =>
    List.forall_mem_cons.mpr
      ⟨⟨space, h⟩, (show WellFormedIn space body from h).of_mem_parts⟩
  | .conditional branches _, h =>
    List.forall_mem_cons.mpr
      ⟨⟨space, h⟩, (show WellFormedBranches space branches from h).of_mem_parts⟩
  | .resource .., h | .assignment .., h | .expression _, h =>
    List.forall_mem_singleton.mpr ⟨space, h⟩

theorem WellFormedIn.of_mem_parts {space : Option String} : ∀ {body : List Statement},
    WellFormedIn space body → ∀ part ∈ partsIn body, ∃ inside, part.WellFormed inside
  | [], _ => List.forall_mem_nil _
  | _ :: _, h => List.forall_mem_append.mpr
      ⟨Statement.WellFormed.of_mem_parts h.1, WellFormedIn.of_mem_parts h.2⟩

theorem WellFormedBranches.of_mem_parts {space : Option String} : ∀ {branches : List Branch},
    WellFormedBranches space branches →
      ∀ part ∈ partsInBranches branches, ∃ inside, part.WellFormed inside
  | [], _ => List.forall_mem_nil _
  | .mk .. :: _, h => List.forall_mem_append.mpr
      ⟨WellFormedIn.of_mem_parts h.2.2.1, WellFormedBranches.of_mem_parts h.2.2.2⟩

end

theorem WellFormedBranches.plain_guard {space : Option String} : ∀ {branches : List Branch},
    WellFormedBranches space branches → ∀ e ∈ branches.filterMap Branch.guard?, e.Plain
  | [], _, _, he => absurd he List.not_mem_nil
  | .mk guard body l :: rest, h, e, he => by
    rw [List.filterMap_cons] at he
    cases guard with
    | none => exact WellFormedBranches.plain_guard h.2.2.2 e he
    | some g =>
      rcases List.mem_cons.mp he with rfl | he
      · exact h.1 e rfl
      · exact WellFormedBranches.plain_guard h.2.2.2 e he

/-- Only a branch behind all others may be without a guard. -/
theorem WellFormedBranches.eq_nil {space : Option String} {body : List Statement} {l : Location}
    {after : List Branch} : ∀ {before : List Branch},
      WellFormedBranches space (before ++ .mk none body l :: after) → after = []
  | [], h => h.2.1 rfl
  | .mk .. :: _, h => WellFormedBranches.eq_nil h.2.2.2

theorem NormalParameters.plain_default {ps : List Parameter} (h : NormalParameters ps) :
    ∀ e ∈ ps.filterMap Parameter.default, e.Plain := by
  intro e he
  obtain ⟨p, hp, hdefault⟩ := List.mem_filterMap.mp he
  exact h.2 p hp e hdefault

/-- Chains of relationships stand alone. -/
theorem Statement.WellFormed.plain_or_isChain {space : Option String} {s : Statement}
    (h : s.WellFormed space) : ∀ e ∈ s.exprs, e.Plain ∨ e.IsChain := by
  cases s with
  | classDefinition header body => exact fun e he => .inl (h.2.1.plain_default e he)
  | defineDefinition header body => exact fun e he => .inl (h.2.1.plain_default e he)
  | nodeDefinition header body => exact List.forall_mem_nil _
  | resource typeName bodies l =>
    intro e he
    obtain ⟨b, hb, he⟩ := List.mem_flatMap.mp he
    rcases List.mem_cons.mp he with rfl | he
    · exact .inl (h b hb).1
    · obtain ⟨a, ha, rfl⟩ := List.mem_map.mp he
      exact .inl ((h b hb).2.2 a ha)
  | conditional branches l =>
    have hbranches : WellFormedBranches space branches := h
    exact fun e he => .inl (hbranches.plain_guard e he)
  | assignment name value l => exact List.forall_mem_singleton.mpr (.inl h)
  | expression value => exact List.forall_mem_singleton.mpr h

/-- Every chain of relationships has its arrows and operands. -/
theorem relationship_of_mem_parts {e : Expr} (h : e.Plain ∨ e.IsChain) {operands : List Expr}
    {arrows : List Arrow} {l : Location} (hmem : .relationship operands arrows l ∈ e.parts) :
    arrows ≠ [] ∧ operands.length = arrows.length + 1 := by
  rcases h with hplain | hchain
  · exact (hplain.of_mem_parts _ hmem).elim
  · cases e with
    | relationship operands' arrows' l' =>
      rcases List.mem_cons.mp hmem with heq | hmem
      · cases heq
        exact ⟨hchain.1, hchain.2.1⟩
      · exact (hchain.2.2.of_mem_parts _ hmem).elim
    | _ => exact hchain.elim

end Manifest
