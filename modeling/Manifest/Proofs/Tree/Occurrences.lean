import Manifest.Collection
import Manifest.Tree.Placement
import Mathlib.Data.List.Induction

/-!
# Where definitions stand

Every definition in a tree is listed with all that is around it, whatever statement it stands under.
Two walks are compared with this list: the one that looks for misplaced definitions enters all
bodies and carries along what they stand in, and the one that collects definitions enters the bodies
of classes and defines alone.  If the first one finds nothing, the second one has missed nothing.

The list is in the order of the tree: a definition stands before those in its body, and statements
and branches stand in the order in which the tree has them.

## Main definitions

* `Enclosure`, `TreeDefinition`, `Occurrence` — a definition with what is around it.
* `Ast.occurrences` — all definitions of a tree.
* `Occurrence.IsPlaced` — a definition may stand where it does.
* `Occurrence.misplacement?` — what is wrong with a definition where it stands.
* `Statement.collected`, `collectedIn` — the classes and defines that are collected.

## Main results

* `Ast.misplaced?_eq_findSome?` — the first misplaced definition is what the check finds.
* `classesIn_eq_filterMap`, `definesIn_eq_filterMap` — classes and defines are collected in one
  order.
* `collectedIn_eq`, `nodes_eq` — in a legal tree no definition is missed.
* `Ast.check_and_index` — both for a whole tree.
-/

namespace Manifest

/-! ### Definitions and what is around them -/

/-- What a definition can stand in. -/
inductive Enclosure
  | classBody | defineBody | nodeBody
  /-- A branch of a conditional. -/
  | branch
  deriving DecidableEq, Repr

namespace Enclosure

/-- Classes and defines may stand in here. -/
def IsDefinition (e : Enclosure) : Prop := e = classBody ∨ e = defineBody

instance : DecidablePred IsDefinition := fun e =>
  inferInstanceAs (Decidable (e = classBody ∨ e = defineBody))

/-- Why no class or define may stand in here. -/
def fault? : Enclosure → Option PlacementFault
  | classBody | defineBody => none
  | nodeBody => some .insideNode
  | branch => some .insideConditional

/-- What a block of this kind is for the walk that looks for misplaced definitions. -/
def surroundings : Enclosure → Surroundings
  | classBody | defineBody => .definition
  | nodeBody => .nodeBody
  | branch => .conditional

theorem fault?_eq_none_iff {e : Enclosure} : e.fault? = none ↔ e.IsDefinition := by
  cases e <;> simp [fault?, IsDefinition]

end Enclosure

/-- A definition of any kind. -/
inductive TreeDefinition
  | ofClass (definition : ClassDefinition)
  | ofDefine (definition : DefineDefinition)
  | ofNode (definition : NodeDefinition)

namespace TreeDefinition

/-- Where the definition is. -/
def location : TreeDefinition → Location
  | ofClass c => c.location
  | ofDefine d => d.location
  | ofNode n => n.location

/-- How messages name the definition. -/
def named : TreeDefinition → PlacedDefinition
  | ofClass c => .classNamed c.name
  | ofDefine d => .defineNamed d.name
  | ofNode _ => .node

/-- The class that a definition is. -/
def asClass? : TreeDefinition → Option ClassDefinition
  | ofClass c => some c
  | _ => none

/-- The define that a definition is. -/
def asDefine? : TreeDefinition → Option DefineDefinition
  | ofDefine d => some d
  | _ => none

/-- The node definition that a definition is. -/
def asNode? : TreeDefinition → Option NodeDefinition
  | ofNode n => some n
  | _ => none

/-- The class or define that a definition of any kind is. -/
def asDefinition? : TreeDefinition → Option Definition
  | ofClass c => some (.ofClass c)
  | ofDefine d => some (.ofDefine d)
  | ofNode _ => none

theorem bind_asClass? (d : TreeDefinition) :
    d.asDefinition?.bind Definition.asClass? = d.asClass? := by
  cases d <;> rfl

theorem bind_asDefine? (d : TreeDefinition) :
    d.asDefinition?.bind Definition.asDefine? = d.asDefine? := by
  cases d <;> rfl

end TreeDefinition

/-- A definition with all that is around it. -/
structure Occurrence where
  /-- What is around the definition, outermost first. -/
  around : List Enclosure
  definition : TreeDefinition

namespace Occurrence

/-- A node definition must stand at top level; around classes and defines only classes and defines
may be. -/
def IsPlaced (o : Occurrence) : Prop :=
  match o.definition with
  | .ofClass _ | .ofDefine _ => ∀ e ∈ o.around, e.IsDefinition
  | .ofNode _ => o.around = []

/-- Why a definition must not stand where it does; for classes and defines it is the outermost
enclosure that counts. -/
def fault? (o : Occurrence) : Option PlacementFault :=
  match o.definition with
  | .ofClass _ | .ofDefine _ => o.around.findSome? Enclosure.fault?
  | .ofNode _ => if o.around = [] then none else some .notTopLevel

/-- What is reported of a definition that must not stand where it does. -/
def misplacement? (o : Occurrence) : Option Misplacement :=
  o.fault?.map fun fault => ⟨o.definition.named, fault, o.definition.location⟩

theorem fault?_eq_none_iff {o : Occurrence} : o.fault? = none ↔ o.IsPlaced := by
  obtain ⟨around, definition⟩ := o
  cases definition <;>
    simp [fault?, IsPlaced, List.findSome?_eq_none_iff, Enclosure.fault?_eq_none_iff]

theorem misplacement?_eq_none_iff {o : Occurrence} : o.misplacement? = none ↔ o.IsPlaced := by
  rw [misplacement?, Option.map_eq_none_iff, fault?_eq_none_iff]

end Occurrence

mutual

/-- All definitions in a statement, itself first, where `around` is around the statement. -/
def Statement.occurrences (around : List Enclosure) : Statement → List Occurrence
  | .classDefinition header body =>
    ⟨around, .ofClass ⟨header, body⟩⟩ :: occurrencesIn (around ++ [.classBody]) body
  | .defineDefinition header body =>
    ⟨around, .ofDefine ⟨header, body⟩⟩ :: occurrencesIn (around ++ [.defineBody]) body
  | .nodeDefinition header body =>
    ⟨around, .ofNode ⟨header, body⟩⟩ :: occurrencesIn (around ++ [.nodeBody]) body
  | .conditional branches _ => occurrencesInBranches (around ++ [.branch]) branches
  | .resource .. | .assignment .. | .expression _ => []

/-- All definitions in statements. -/
def occurrencesIn (around : List Enclosure) : List Statement → List Occurrence
  | [] => []
  | s :: rest => s.occurrences around ++ occurrencesIn around rest

/-- All definitions in branches. -/
def occurrencesInBranches (around : List Enclosure) : List Branch → List Occurrence
  | [] => []
  | .mk _ body _ :: rest => occurrencesIn around body ++ occurrencesInBranches around rest

end

/-- All definitions of a unit, at any depth and under any statement. -/
def Ast.occurrences (a : Ast) : List Occurrence := occurrencesIn [] a.statements

/-! ### The walk that looks for misplaced definitions -/

namespace Surroundings

/-- What the walk carries along inside of these enclosures. -/
def within (around : List Enclosure) : Surroundings :=
  around.foldl (fun outer e => outer.inner e.surroundings) topLevel

theorem within_append (around : List Enclosure) (e : Enclosure) :
    within (around ++ [e]) = (within around).inner e.surroundings := by
  rw [within, List.foldl_append, List.foldl_cons, List.foldl_nil, within]

theorem inner_ne_topLevel (outer : Surroundings) (e : Enclosure) :
    outer.inner e.surroundings ≠ topLevel := by
  cases outer <;> cases e <;> simp [inner, Enclosure.surroundings]

theorem within_eq_topLevel_iff {around : List Enclosure} :
    within around = topLevel ↔ around = [] := by
  constructor
  · intro h
    rcases List.eq_nil_or_concat around with rfl | ⟨outer, e, rfl⟩
    · rfl
    · rw [List.concat_eq_append, within_append] at h
      exact absurd h (inner_ne_topLevel _ e)
  · rintro rfl
    rfl

/-- Once there is a reason, it stays the reason. -/
theorem fault?_inner (outer : Surroundings) (e : Enclosure) :
    (outer.inner e.surroundings).fault? = outer.fault?.or e.fault? := by
  cases outer <;> cases e <;> rfl

theorem fault?_within (around : List Enclosure) :
    (within around).fault? = around.findSome? Enclosure.fault? := by
  induction around using List.reverseRecOn with
  | nil => rfl
  | append_singleton outer e ih =>
    rw [within_append, fault?_inner, ih, List.findSome?_append]
    cases outer.findSome? Enclosure.fault? <;> cases e <;> rfl

end Surroundings

open Surroundings in
mutual

theorem Statement.misplaced?_eq_findSome? (around : List Enclosure) : ∀ s : Statement,
    s.misplaced? (within around) = (s.occurrences around).findSome? Occurrence.misplacement?
  | .classDefinition header body => by
    have ih := misplacedIn?_eq_findSome? (around ++ [.classBody]) body
    have hfault := fault?_within around
    rw [within_append] at ih
    rw [Statement.misplaced?, Statement.occurrences, List.findSome?_cons, hfault]
    simp only [Occurrence.misplacement?, Occurrence.fault?]
    -- A definition that is misplaced itself is found before those in its body.
    cases around.findSome? Enclosure.fault? with
    | none => exact ih
    | some fault => rfl
  | .defineDefinition header body => by
    have ih := misplacedIn?_eq_findSome? (around ++ [.defineBody]) body
    have hfault := fault?_within around
    rw [within_append] at ih
    rw [Statement.misplaced?, Statement.occurrences, List.findSome?_cons, hfault]
    simp only [Occurrence.misplacement?, Occurrence.fault?]
    cases around.findSome? Enclosure.fault? with
    | none => exact ih
    | some fault => rfl
  | .nodeDefinition header body => by
    have ih := misplacedIn?_eq_findSome? (around ++ [.nodeBody]) body
    rw [within_append] at ih
    rw [Statement.misplaced?, Statement.occurrences, List.findSome?_cons]
    simp only [Occurrence.misplacement?, Occurrence.fault?]
    by_cases htop : around = []
    · subst htop
      exact ih
    · rw [if_neg (mt within_eq_topLevel_iff.mp htop), if_neg htop]
      rfl
  | .conditional branches _ => by
    have ih := misplacedInBranches?_eq_findSome? (around ++ [.branch]) branches
    rw [within_append] at ih
    exact ih
  | .resource .. => rfl
  | .assignment .. => rfl
  | .expression _ => rfl

/-- The walk finds the first definition that must not stand where it does. -/
theorem misplacedIn?_eq_findSome? (around : List Enclosure) : ∀ ss : List Statement,
    misplacedIn? (within around) ss = (occurrencesIn around ss).findSome? Occurrence.misplacement?
  | [] => rfl
  | s :: rest => by
    rw [misplacedIn?, occurrencesIn, List.findSome?_append, s.misplaced?_eq_findSome? around,
      misplacedIn?_eq_findSome? around rest]

theorem misplacedInBranches?_eq_findSome? (around : List Enclosure) : ∀ bs : List Branch,
    misplacedInBranches? (within around) bs =
      (occurrencesInBranches around bs).findSome? Occurrence.misplacement?
  | [] => rfl
  | .mk _ body _ :: rest => by
    rw [misplacedInBranches?, Branch.misplaced?, occurrencesInBranches, List.findSome?_append,
      misplacedIn?_eq_findSome? around body, misplacedInBranches?_eq_findSome? around rest]

end

theorem Ast.misplaced?_eq_findSome? (a : Ast) :
    a.misplaced? = a.occurrences.findSome? Occurrence.misplacement? :=
  misplacedIn?_eq_findSome? [] a.statements

theorem Ast.misplaced?_eq_none_iff {a : Ast} :
    a.misplaced? = none ↔ ∀ o ∈ a.occurrences, o.IsPlaced := by
  rw [a.misplaced?_eq_findSome?, List.findSome?_eq_none_iff]
  simp only [Occurrence.misplacement?_eq_none_iff]

/-! ### The walk that collects definitions -/

mutual

/-- What is around a statement is around everything in it. -/
theorem Statement.prefix_around (around : List Enclosure) : ∀ s : Statement,
    ∀ o ∈ s.occurrences around, around <+: o.around
  | .classDefinition _ body => List.forall_mem_cons.mpr ⟨List.prefix_refl around, fun o ho =>
      (List.prefix_append _ _).trans (prefix_around_in _ body o ho)⟩
  | .defineDefinition _ body => List.forall_mem_cons.mpr ⟨List.prefix_refl around, fun o ho =>
      (List.prefix_append _ _).trans (prefix_around_in _ body o ho)⟩
  | .nodeDefinition _ body => List.forall_mem_cons.mpr ⟨List.prefix_refl around, fun o ho =>
      (List.prefix_append _ _).trans (prefix_around_in _ body o ho)⟩
  | .conditional branches _ => fun o ho =>
      (List.prefix_append _ _).trans (prefix_around_inBranches _ branches o ho)
  | .resource .. => List.forall_mem_nil _
  | .assignment .. => List.forall_mem_nil _
  | .expression _ => List.forall_mem_nil _

theorem prefix_around_in (around : List Enclosure) : ∀ ss : List Statement,
    ∀ o ∈ occurrencesIn around ss, around <+: o.around
  | [] => List.forall_mem_nil _
  | s :: rest => List.forall_mem_append.mpr
      ⟨s.prefix_around around, prefix_around_in around rest⟩

theorem prefix_around_inBranches (around : List Enclosure) : ∀ bs : List Branch,
    ∀ o ∈ occurrencesInBranches around bs, around <+: o.around
  | [] => List.forall_mem_nil _
  | .mk _ body _ :: rest => List.forall_mem_append.mpr
      ⟨prefix_around_in around body, prefix_around_inBranches around rest⟩

end

namespace Occurrence

variable {os : List Occurrence} {around : List Enclosure} {e : Enclosure}

/-- In a branch or the body of a node nothing is placed. -/
theorem not_isPlaced {o : Occurrence} (he : ¬ e.IsDefinition) (ho : e ∈ o.around) :
    ¬ o.IsPlaced := by
  obtain ⟨around, definition⟩ := o
  intro hplaced
  cases definition with
  | ofClass c => exact he (hplaced e ho)
  | ofDefine d => exact he (hplaced e ho)
  | ofNode n =>
    have hnil : around = [] := hplaced
    rw [hnil] at ho
    cases ho

/-- So if all definitions there are placed there are none. -/
theorem eq_nil_of_confined (he : ¬ e.IsDefinition)
    (hinside : ∀ o ∈ os, (around ++ [e]) <+: o.around) (hplaced : ∀ o ∈ os, o.IsPlaced) :
    os = [] := by
  apply List.eq_nil_iff_forall_not_mem.mpr
  intro o ho
  have hmem : e ∈ o.around := (hinside o ho).subset (by simp)
  exact not_isPlaced he hmem (hplaced o ho)

/-- Node definitions are placed at top level only. -/
theorem asNode?_eq_none {o : Occurrence} (hinside : (around ++ [e]) <+: o.around)
    (hplaced : o.IsPlaced) : o.definition.asNode? = none := by
  obtain ⟨outer, definition⟩ := o
  cases definition with
  | ofClass c => rfl
  | ofDefine d => rfl
  | ofNode n =>
    have hnil : outer = [] := hplaced
    rw [hnil, List.prefix_nil] at hinside
    simp at hinside

end Occurrence

theorem branch_occurrences_eq_nil {around : List Enclosure} {branches : List Branch}
    (h : ∀ o ∈ occurrencesInBranches (around ++ [.branch]) branches, o.IsPlaced) :
    occurrencesInBranches (around ++ [.branch]) branches = [] :=
  Occurrence.eq_nil_of_confined (by decide) (prefix_around_inBranches _ branches) h

theorem node_occurrences_eq_nil {around : List Enclosure} {body : List Statement}
    (h : ∀ o ∈ occurrencesIn (around ++ [.nodeBody]) body, o.IsPlaced) :
    occurrencesIn (around ++ [.nodeBody]) body = [] :=
  Occurrence.eq_nil_of_confined (by decide) (prefix_around_in _ body) h

mutual

/-- The classes and defines that are collected of a statement, itself first. -/
def Statement.collected : Statement → List Definition
  | .classDefinition header body => .ofClass ⟨header, body⟩ :: collectedIn body
  | .defineDefinition header body => .ofDefine ⟨header, body⟩ :: collectedIn body
  | _ => []

/-- The classes and defines that are collected of statements. -/
def collectedIn : List Statement → List Definition
  | [] => []
  | s :: rest => s.collected ++ collectedIn rest

end

mutual

theorem Statement.classes_eq_filterMap : ∀ s : Statement,
    s.classes = s.collected.filterMap Definition.asClass?
  | .classDefinition header body =>
    congrArg (ClassDefinition.mk header body :: ·) (classesIn_eq_filterMap body)
  | .defineDefinition _ body => classesIn_eq_filterMap body
  | .nodeDefinition .. | .resource .. | .conditional .. | .assignment .. | .expression _ => rfl

/-- The classes are those among the definitions that are collected. -/
theorem classesIn_eq_filterMap : ∀ ss : List Statement,
    classesIn ss = (collectedIn ss).filterMap Definition.asClass?
  | [] => rfl
  | s :: rest => by
    rw [classesIn, collectedIn, List.filterMap_append, s.classes_eq_filterMap,
      classesIn_eq_filterMap rest]

end

mutual

theorem Statement.defines_eq_filterMap : ∀ s : Statement,
    s.defines = s.collected.filterMap Definition.asDefine?
  | .classDefinition _ body => definesIn_eq_filterMap body
  | .defineDefinition header body =>
    congrArg (DefineDefinition.mk header body :: ·) (definesIn_eq_filterMap body)
  | .nodeDefinition .. | .resource .. | .conditional .. | .assignment .. | .expression _ => rfl

/-- The defines are the others among them. -/
theorem definesIn_eq_filterMap : ∀ ss : List Statement,
    definesIn ss = (collectedIn ss).filterMap Definition.asDefine?
  | [] => rfl
  | s :: rest => by
    rw [definesIn, collectedIn, List.filterMap_append, s.defines_eq_filterMap,
      definesIn_eq_filterMap rest]

end

mutual

theorem Statement.collected_eq (around : List Enclosure) : ∀ s : Statement,
    (∀ o ∈ s.occurrences around, o.IsPlaced) →
      s.collected = (s.occurrences around).filterMap (·.definition.asDefinition?)
  | .classDefinition header body, h => by
    rw [Statement.occurrences] at h ⊢
    rw [Statement.collected, collectedIn_eq _ body (List.forall_mem_cons.mp h).2]
    rfl
  | .defineDefinition header body, h => by
    rw [Statement.occurrences] at h ⊢
    rw [Statement.collected, collectedIn_eq _ body (List.forall_mem_cons.mp h).2]
    rfl
  | .nodeDefinition header body, h => by
    rw [Statement.occurrences] at h ⊢
    rw [node_occurrences_eq_nil (List.forall_mem_cons.mp h).2]
    rfl
  | .conditional branches _, h => by
    rw [Statement.occurrences] at h ⊢
    rw [branch_occurrences_eq_nil h]
    rfl
  | .resource .., _ => rfl
  | .assignment .., _ => rfl
  | .expression _, _ => rfl

/-- Where every definition is placed, no class or define is missed. -/
theorem collectedIn_eq (around : List Enclosure) : ∀ ss : List Statement,
    (∀ o ∈ occurrencesIn around ss, o.IsPlaced) →
      collectedIn ss = (occurrencesIn around ss).filterMap (·.definition.asDefinition?)
  | [], _ => rfl
  | s :: rest, h => by
    obtain ⟨hs, hrest⟩ := List.forall_mem_append.mp h
    rw [collectedIn, occurrencesIn, List.filterMap_append, s.collected_eq around hs,
      collectedIn_eq around rest hrest]

end

theorem classesIn_eq (around : List Enclosure) (ss : List Statement)
    (h : ∀ o ∈ occurrencesIn around ss, o.IsPlaced) :
    classesIn ss = (occurrencesIn around ss).filterMap (·.definition.asClass?) := by
  rw [classesIn_eq_filterMap, collectedIn_eq around ss h, List.filterMap_filterMap]
  simp only [TreeDefinition.bind_asClass?]

theorem definesIn_eq (around : List Enclosure) (ss : List Statement)
    (h : ∀ o ∈ occurrencesIn around ss, o.IsPlaced) :
    definesIn ss = (occurrencesIn around ss).filterMap (·.definition.asDefine?) := by
  rw [definesIn_eq_filterMap, collectedIn_eq around ss h, List.filterMap_filterMap]
  simp only [TreeDefinition.bind_asDefine?]

/-- Inside of a class or define there is no node definition that is placed. -/
theorem filterMap_asNode?_eq_nil {around : List Enclosure} {e : Enclosure} {body : List Statement}
    (h : ∀ o ∈ occurrencesIn (around ++ [e]) body, o.IsPlaced) :
    (occurrencesIn (around ++ [e]) body).filterMap (·.definition.asNode?) = [] := by
  rw [List.filterMap_eq_nil_iff]
  intro o ho
  exact Occurrence.asNode?_eq_none (prefix_around_in _ body o ho) (h o ho)

theorem Statement.asNode?_eq (s : Statement) (h : ∀ o ∈ s.occurrences [], o.IsPlaced) :
    s.asNode?.toList = (s.occurrences []).filterMap (·.definition.asNode?) := by
  cases s with
  | classDefinition header body =>
    rw [Statement.occurrences] at h ⊢
    have hnone := filterMap_asNode?_eq_nil (List.forall_mem_cons.mp h).2
    exact hnone.symm
  | defineDefinition header body =>
    rw [Statement.occurrences] at h ⊢
    have hnone := filterMap_asNode?_eq_nil (List.forall_mem_cons.mp h).2
    exact hnone.symm
  | nodeDefinition header body =>
    rw [Statement.occurrences] at h ⊢
    rw [node_occurrences_eq_nil (List.forall_mem_cons.mp h).2]
    rfl
  | conditional branches location =>
    rw [Statement.occurrences] at h ⊢
    rw [branch_occurrences_eq_nil h]
    rfl
  | resource typeName bodies location => rfl
  | assignment name value location => rfl
  | expression value => rfl

/-- Where every definition is placed, no node definition is missed at top level. -/
theorem nodes_eq (ss : List Statement) (h : ∀ o ∈ occurrencesIn [] ss, o.IsPlaced) :
    ss.filterMap Statement.asNode? = (occurrencesIn [] ss).filterMap (·.definition.asNode?) := by
  induction ss with
  | nil => rfl
  | cons s rest ih =>
    obtain ⟨hs, hrest⟩ := List.forall_mem_append.mp h
    have hcons : (s :: rest).filterMap Statement.asNode? =
        s.asNode?.toList ++ rest.filterMap Statement.asNode? := by
      rw [List.filterMap_cons]
      cases s.asNode? <;> rfl
    rw [hcons, occurrencesIn, List.filterMap_append, s.asNode?_eq hs, ih hrest]

/-- A tree is legal exactly if every class and define has only classes and defines around it and
every node definition stands at top level.  What is reported of a tree that is not legal is the
first definition for which this fails, with its place.  And in a legal tree the lists of classes,
defines and node definitions have every definition that occurs anywhere in the tree, once and in its
order.  All order is that of the tree.  The grammar puts the default branch of a case behind the
others, so in a tree that was parsed a definition in a default branch comes after those of the
branches that it is written before. -/
theorem Ast.check_and_index (a : Ast) :
    (a.misplaced? = none ↔ ∀ o ∈ a.occurrences, o.IsPlaced) ∧
      (∀ m, a.misplaced? = some m ↔ ∃ before o after,
        a.occurrences = before ++ o :: after ∧ (∀ b ∈ before, b.IsPlaced) ∧ ¬ o.IsPlaced ∧
          ∃ fault, o.fault? = some fault ∧ m = ⟨o.definition.named, fault, o.definition.location⟩) ∧
      (a.misplaced? = none →
        a.classes = a.occurrences.filterMap (·.definition.asClass?) ∧
        a.defines = a.occurrences.filterMap (·.definition.asDefine?) ∧
        a.nodes = a.occurrences.filterMap (·.definition.asNode?)) := by
  refine ⟨Ast.misplaced?_eq_none_iff, ?_, ?_⟩
  · intro m
    rw [a.misplaced?_eq_findSome?, List.findSome?_eq_some_iff]
    constructor
    · rintro ⟨before, o, after, hos, hm, hbefore⟩
      obtain ⟨fault, hfault, rfl⟩ := Option.map_eq_some_iff.mp hm
      refine ⟨before, o, after, hos, ?_, ?_, fault, hfault, rfl⟩
      · intro b hb
        exact Occurrence.misplacement?_eq_none_iff.mp (hbefore b hb)
      · intro hplaced
        rw [Occurrence.fault?_eq_none_iff.mpr hplaced] at hfault
        cases hfault
    · rintro ⟨before, o, after, hos, hbefore, -, fault, hfault, rfl⟩
      refine ⟨before, o, after, hos, ?_, ?_⟩
      · rw [Occurrence.misplacement?, hfault]
        rfl
      · intro b hb
        exact Occurrence.misplacement?_eq_none_iff.mpr (hbefore b hb)
  · intro hlegal
    have hplaced := Ast.misplaced?_eq_none_iff.mp hlegal
    exact ⟨classesIn_eq [] a.statements hplaced, definesIn_eq [] a.statements hplaced,
      nodes_eq a.statements hplaced⟩

end Manifest
