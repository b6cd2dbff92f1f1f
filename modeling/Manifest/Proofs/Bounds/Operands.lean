import Manifest.Proofs.Collection
import Manifest.Proofs.Grammar.WellFormed

/-!
# Arrows between operands

A chain of relationships has one operand more than it has arrows, so that each arrow stands between
two of them.  Trees are not built so by their type; the grammar reads them so, from any tokens, and
a collection holds nothing but what the grammar has read.

## Main definitions

* `Expr.HasOperands`, `Statement.HasOperands`, `Collection.HasOperands` — every arrow in an
  expression, statement or collection has its two operands.

## Main results

* `hasOperands_of_build` — the tree for any tokens has all its operands.
* `Collection.hasOperands_of_ofSources` — so have the collections of all texts.
-/

namespace Manifest

/-! ### Trees with all their operands -/

mutual

/-- Every arrow in an expression stands between two operands. -/
def Expr.HasOperands : Expr → Prop
  | .array items _ => HaveOperands items
  | .reference _ titles _ => HaveOperands titles
  | .not operand _ => operand.HasOperands
  | .binary _ left right _ => left.HasOperands ∧ right.HasOperands
  | .call _ args _ => HaveOperands args
  | .relationship operands arrows _ =>
    operands.length = arrows.length + 1 ∧ HaveOperands operands
  | .string .. | .template .. | .integer .. | .bool .. | .absent _ | .bareword ..
  | .variableRead .. => True

/-- Every arrow in the expressions stands between two operands. -/
def HaveOperands : List Expr → Prop
  | [] => True
  | e :: rest => e.HasOperands ∧ HaveOperands rest

end

/-- Every arrow in the default value of a parameter stands between two operands. -/
def Parameter.HasOperands (p : Parameter) : Prop := ∀ e, p.default = some e → e.HasOperands

/-- Every arrow in the attributes and the title stands between two operands. -/
def ResourceBody.HasOperands (b : ResourceBody) : Prop :=
  b.title.HasOperands ∧ ∀ a ∈ b.attributes, a.value.HasOperands

mutual

/-- Every arrow in a statement stands between two operands. -/
def Statement.HasOperands : Statement → Prop
  | .classDefinition header body =>
    (∀ p ∈ header.parameters, p.HasOperands) ∧ HaveOperandsIn body
  | .defineDefinition header body =>
    (∀ p ∈ header.parameters, p.HasOperands) ∧ HaveOperandsIn body
  | .nodeDefinition _ body => HaveOperandsIn body
  | .resource _ bodies _ => ∀ b ∈ bodies, b.HasOperands
  | .conditional branches _ => HaveOperandsInBranches branches
  | .assignment _ value _ => value.HasOperands
  | .expression value => value.HasOperands

/-- Every arrow in the statements stands between two operands. -/
def HaveOperandsIn : List Statement → Prop
  | [] => True
  | s :: rest => s.HasOperands ∧ HaveOperandsIn rest

/-- Every arrow in the branches stands between two operands. -/
def HaveOperandsInBranches : List Branch → Prop
  | [] => True
  | .mk guard body _ :: rest =>
    (∀ e, guard = some e → e.HasOperands) ∧ HaveOperandsIn body ∧ HaveOperandsInBranches rest

end

/-! ### Well-formed trees -/

mutual

theorem Expr.Plain.hasOperands : ∀ {e : Expr}, e.Plain → e.HasOperands
  | .array .., h => AllPlain.haveOperands h
  | .reference .., h => AllPlain.haveOperands h
  | .call .., h => AllPlain.haveOperands h
  | .not operand _, h => Expr.Plain.hasOperands (e := operand) h
  | .binary .., h => ⟨Expr.Plain.hasOperands h.1, Expr.Plain.hasOperands h.2⟩
  | .string .., _ | .template .., _ | .integer .., _ | .bool .., _ | .absent _, _
  | .bareword .., _ | .variableRead .., _ => trivial

theorem AllPlain.haveOperands : ∀ {es : List Expr}, AllPlain es → HaveOperands es
  | [], _ => trivial
  | _ :: _, h => ⟨Expr.Plain.hasOperands h.1, AllPlain.haveOperands h.2⟩

end

theorem Expr.IsChain.hasOperands : ∀ {e : Expr}, e.IsChain → e.HasOperands
  | .relationship .., h => ⟨h.2.1, h.2.2.haveOperands⟩

theorem NormalParameters.hasOperands {ps : List Parameter} (h : NormalParameters ps) :
    ∀ p ∈ ps, p.HasOperands := fun p hp e he => (h.2 p hp e he).hasOperands

mutual

/-- In well-formed statements every arrow has its operands. -/
theorem Statement.WellFormed.hasOperands {space : Option String} :
    ∀ {s : Statement}, s.WellFormed space → s.HasOperands
  | .classDefinition .., h => ⟨h.2.1.hasOperands, WellFormedIn.hasOperands h.2.2⟩
  | .defineDefinition .., h => ⟨h.2.1.hasOperands, WellFormedIn.hasOperands h.2.2⟩
  | .nodeDefinition _ body, h => (show WellFormedIn space body from h).hasOperands
  | .resource .., h => fun b hb =>
    ⟨(h b hb).1.hasOperands, fun a ha => ((h b hb).2.2 a ha).hasOperands⟩
  | .conditional branches _, h => (show WellFormedBranches space branches from h).hasOperands
  | .assignment _ value _, h => Expr.Plain.hasOperands (e := value) h
  | .expression _, h => h.elim Expr.Plain.hasOperands Expr.IsChain.hasOperands

theorem WellFormedIn.hasOperands {space : Option String} :
    ∀ {body : List Statement}, WellFormedIn space body → HaveOperandsIn body
  | [], _ => trivial
  | _ :: _, h => ⟨h.1.hasOperands, WellFormedIn.hasOperands h.2⟩

theorem WellFormedBranches.hasOperands {space : Option String} :
    ∀ {branches : List Branch}, WellFormedBranches space branches → HaveOperandsInBranches branches
  | [], _ => trivial
  | .mk .. :: _, h => ⟨fun e he => (h.1 e he).hasOperands, h.2.2.1.hasOperands,
      WellFormedBranches.hasOperands h.2.2.2⟩

end

/-- Whatever the tokens are, in the tree that is built from them every arrow has its operands. -/
theorem hasOperands_of_build {file : String} {tokens : List Token} {ast : Ast}
    (h : build file tokens = .ok ast) : HaveOperandsIn ast.statements :=
  (wellFormedIn_of_build h).hasOperands

theorem hasOperands_of_parse {file text : String} {ast : Ast} (h : parse file text = .ok ast) :
    HaveOperandsIn ast.statements := by
  unfold parse at h
  split at h
  · cases h
  · exact hasOperands_of_build h

/-! ### Definitions with all their operands -/

/-- Every arrow in a class or define stands between two operands. -/
def Definition.HasOperands : Definition → Prop
  | .ofClass c => (∀ p ∈ c.parameters, p.HasOperands) ∧ HaveOperandsIn c.body
  | .ofDefine d => (∀ p ∈ d.parameters, p.HasOperands) ∧ HaveOperandsIn d.body

mutual

theorem Statement.HasOperands.classes :
    ∀ {s : Statement}, s.HasOperands → ∀ c ∈ s.classes, (Definition.ofClass c).HasOperands
  | .classDefinition header body, h, c, hc => by
    rcases List.mem_cons.mp hc with rfl | hc
    · exact h
    · exact HaveOperandsIn.classes h.2 c hc
  | .defineDefinition header body, h, c, hc => HaveOperandsIn.classes h.2 c hc
  | .nodeDefinition .., _, _, hc | .resource .., _, _, hc | .conditional .., _, _, hc
  | .assignment .., _, _, hc | .expression .., _, _, hc => absurd hc List.not_mem_nil

theorem HaveOperandsIn.classes : ∀ {body : List Statement}, HaveOperandsIn body →
    ∀ c ∈ classesIn body, (Definition.ofClass c).HasOperands
  | [], _, _, hc => absurd hc List.not_mem_nil
  | _ :: _, h, c, hc =>
    (List.mem_append.mp hc).elim (Statement.HasOperands.classes h.1 c)
      (HaveOperandsIn.classes h.2 c)

end

mutual

theorem Statement.HasOperands.defines :
    ∀ {s : Statement}, s.HasOperands → ∀ d ∈ s.defines, (Definition.ofDefine d).HasOperands
  | .classDefinition header body, h, d, hd => HaveOperandsIn.defines h.2 d hd
  | .defineDefinition header body, h, d, hd => by
    rcases List.mem_cons.mp hd with rfl | hd
    · exact h
    · exact HaveOperandsIn.defines h.2 d hd
  | .nodeDefinition .., _, _, hd | .resource .., _, _, hd | .conditional .., _, _, hd
  | .assignment .., _, _, hd | .expression .., _, _, hd => absurd hd List.not_mem_nil

theorem HaveOperandsIn.defines : ∀ {body : List Statement}, HaveOperandsIn body →
    ∀ d ∈ definesIn body, (Definition.ofDefine d).HasOperands
  | [], _, _, hd => absurd hd List.not_mem_nil
  | _ :: _, h, d, hd =>
    (List.mem_append.mp hd).elim (Statement.HasOperands.defines h.1 d)
      (HaveOperandsIn.defines h.2 d)

end

theorem HaveOperandsIn.nodes : ∀ {body : List Statement}, HaveOperandsIn body →
    ∀ n ∈ body.filterMap Statement.asNode?, HaveOperandsIn n.body
  | [], _, _, hn => absurd hn List.not_mem_nil
  | s :: rest, h, n, hn => by
    obtain ⟨s', hs', hnode⟩ := List.mem_filterMap.mp hn
    rcases List.mem_cons.mp hs' with rfl | hs'
    · cases s' with
      | nodeDefinition header body =>
        cases hnode
        exact h.1
      | _ => cases hnode
    · exact HaveOperandsIn.nodes h.2 n (List.mem_filterMap.mpr ⟨s', hs', hnode⟩)

/-! ### Collections with all their operands -/

namespace Collection

variable {c : Collection}

/-- Every arrow in everything that a collection holds stands between two operands. -/
structure HasOperands (c : Collection) : Prop where
  manifests : ∀ a ∈ c.manifests, HaveOperandsIn a.statements
  definitions : ∀ e ∈ c.definitions.entries, e.2.HasOperands
  nodes : ∀ n ∈ c.nodes, HaveOperandsIn n.body

theorem hasOperands_of_mem_definitionsOf {a : Ast} (h : HaveOperandsIn a.statements) :
    ∀ d ∈ definitionsOf a, d.HasOperands := by
  intro d hd
  rcases List.mem_append.mp hd with hd | hd
  · obtain ⟨c, hc, rfl⟩ := List.mem_map.mp hd
    exact h.classes c hc
  · obtain ⟨e, he, rfl⟩ := List.mem_map.mp hd
    exact h.defines e he

/-- In the collection of any units every arrow has its operands. -/
theorem hasOperands_of_ofSources {sources : List Source} (h : ofSources sources = .ok c) :
    c.HasOperands := by
  have hread := isRead_of_ofSources h
  refine ⟨fun a ha => ?_, fun e he => ?_, fun n hn => ?_⟩
  · obtain ⟨file, text, hparse⟩ := hread.manifests a ha
    exact hasOperands_of_parse hparse
  · obtain ⟨file, text, a, hparse, hmem⟩ := hread.definitions e he
    exact hasOperands_of_mem_definitionsOf (hasOperands_of_parse hparse) e.2 hmem
  · obtain ⟨file, text, a, hparse, hmem⟩ := hread.nodes n hn
    exact (hasOperands_of_parse hparse).nodes n hmem

end Collection

end Manifest
