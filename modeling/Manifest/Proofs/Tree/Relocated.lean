import Manifest.Proofs.Grammar.Bare

/-!
# Trees whose places are moved

What stands further down in a manifest has the same tree with other places.

## Main definitions

* `Location.down` — the place some lines further down.
* `Token.relocate` — a token with its place moved.
* `Expr.relocate`, `Statement.relocate` — trees with every place moved.

## Main results

* `relocateIn_id` — moving nothing leaves a tree as it is.
* `misplacedIn?_relocateIn` — definitions stand where they may wherever the tree is moved.
-/

namespace Manifest

/-- The place that is some lines further down. -/
def Location.down (lines : Nat) (l : Location) : Location := ⟨l.file, l.line + lines, l.column⟩

section Relocation

variable (f : Location → Location)

/-- A token with its place moved. -/
def Token.relocate (t : Token) : Token := ⟨t.kind, f t.location⟩

mutual

/-- An expression with every place moved. -/
def Expr.relocate : Expr → Expr
  | .string text l => .string text (f l)
  | .template parts l => .template parts (f l)
  | .integer value l => .integer value (f l)
  | .bool value l => .bool value (f l)
  | .absent l => .absent (f l)
  | .bareword text l => .bareword text (f l)
  | .variableRead name l => .variableRead name (f l)
  | .array items l => .array (relocateAll items) (f l)
  | .reference typeName titles l => .reference typeName (relocateAll titles) (f l)
  | .not operand l => .not operand.relocate (f l)
  | .binary op left right l => .binary op left.relocate right.relocate (f l)
  | .call function args l => .call function (relocateAll args) (f l)
  | .relationship operands arrows l => .relationship (relocateAll operands) arrows (f l)

/-- Expressions with every place moved. -/
def relocateAll : List Expr → List Expr
  | [] => []
  | e :: rest => e.relocate :: relocateAll rest

end

/-- A parameter with every place moved. -/
def Parameter.relocate (p : Parameter) : Parameter :=
  ⟨p.name, p.default.map (Expr.relocate f), f p.location⟩

/-- An attribute with every place moved. -/
def Attribute.relocate (a : Attribute) : Attribute := ⟨a.name, a.value.relocate f, f a.location⟩

/-- A resource body with every place moved. -/
def ResourceBody.relocate (b : ResourceBody) : ResourceBody :=
  ⟨b.title.relocate f, b.attributes.map (Attribute.relocate f), f b.location⟩

/-- What stands before the body of a class, with every place moved. -/
def ClassHeader.relocate (h : ClassHeader) : ClassHeader :=
  { h with parameters := h.parameters.map (Parameter.relocate f), location := f h.location }

/-- What stands before the body of a define, with every place moved. -/
def DefineHeader.relocate (h : DefineHeader) : DefineHeader :=
  { h with parameters := h.parameters.map (Parameter.relocate f), location := f h.location }

/-- What stands before the body of a node definition, with its place moved. -/
def NodeHeader.relocate (h : NodeHeader) : NodeHeader := { h with location := f h.location }

mutual

/-- A statement with every place moved. -/
def Statement.relocate : Statement → Statement
  | .classDefinition header body => .classDefinition (header.relocate f) (relocateIn body)
  | .defineDefinition header body => .defineDefinition (header.relocate f) (relocateIn body)
  | .nodeDefinition header body => .nodeDefinition (header.relocate f) (relocateIn body)
  | .resource typeName bodies l => .resource typeName (bodies.map (ResourceBody.relocate f)) (f l)
  | .conditional branches l => .conditional (relocateBranches branches) (f l)
  | .assignment name value l => .assignment name (value.relocate f) (f l)
  | .expression value => .expression (value.relocate f)

/-- Statements with every place moved. -/
def relocateIn : List Statement → List Statement
  | [] => []
  | s :: rest => s.relocate :: relocateIn rest

/-- A branch with every place moved. -/
def Branch.relocate : Branch → Branch
  | .mk guard body l => .mk (guard.map (Expr.relocate f)) (relocateIn body) (f l)

/-- Branches with every place moved. -/
def relocateBranches : List Branch → List Branch
  | [] => []
  | b :: rest => b.relocate :: relocateBranches rest

end

theorem relocateAll_eq_map (es : List Expr) :
    relocateAll f es = es.map (Expr.relocate f) := by
  induction es with
  | nil => rfl
  | cons e rest ih => rw [relocateAll, List.map_cons, ih]

theorem relocateIn_eq_map (ss : List Statement) :
    relocateIn f ss = ss.map (Statement.relocate f) := by
  induction ss with
  | nil => rfl
  | cons s rest ih => rw [relocateIn, List.map_cons, ih]

theorem relocateBranches_eq_map (bs : List Branch) :
    relocateBranches f bs = bs.map (Branch.relocate f) := by
  induction bs with
  | nil => rfl
  | cons b rest ih => rw [relocateBranches, List.map_cons, ih]

theorem relocateBranches_append (bs bs' : List Branch) :
    relocateBranches f (bs ++ bs') = relocateBranches f bs ++ relocateBranches f bs' := by
  simp only [relocateBranches_eq_map, List.map_append]

@[simp] theorem Expr.location_relocate (e : Expr) : (e.relocate f).location = f e.location := by
  cases e <;> rfl

/-! ### The same without places -/

mutual

theorem Expr.bare_relocate : ∀ e : Expr, (e.relocate f).bare = e.bare
  | .string .. | .template .. | .integer .. | .bool .. | .absent _ | .bareword .. |
    .variableRead .. => rfl
  | .array items _ => by rw [Expr.relocate, Expr.bare, Expr.bare, bareAll_relocateAll items]
  | .reference _ titles _ => by
    rw [Expr.relocate, Expr.bare, Expr.bare, bareAll_relocateAll titles]
  | .not operand _ => by rw [Expr.relocate, Expr.bare, Expr.bare, operand.bare_relocate]
  | .binary _ left right _ => by
    rw [Expr.relocate, Expr.bare, Expr.bare, left.bare_relocate, right.bare_relocate]
  | .call _ args _ => by rw [Expr.relocate, Expr.bare, Expr.bare, bareAll_relocateAll args]
  | .relationship operands _ _ => by
    rw [Expr.relocate, Expr.bare, Expr.bare, bareAll_relocateAll operands]

theorem bareAll_relocateAll : ∀ es : List Expr, bareAll (relocateAll f es) = bareAll es
  | [] => rfl
  | e :: rest => by
    rw [relocateAll, bareAll, bareAll, e.bare_relocate, bareAll_relocateAll rest]

end

theorem Parameter.bare_relocate (p : Parameter) : (p.relocate f).bare = p.bare := by
  simp [Parameter.bare, Parameter.relocate, Function.comp_def, Expr.bare_relocate]

theorem Attribute.bare_relocate (a : Attribute) : (a.relocate f).bare = a.bare := by
  simp [Attribute.bare, Attribute.relocate, Expr.bare_relocate]

theorem ResourceBody.bare_relocate (b : ResourceBody) : (b.relocate f).bare = b.bare := by
  simp [ResourceBody.bare, ResourceBody.relocate, Expr.bare_relocate, Attribute.bare_relocate]

mutual

theorem Statement.bare_relocate : ∀ s : Statement, (s.relocate f).bare = s.bare
  | .classDefinition header body => by
    simp [Statement.relocate, Statement.bare, ClassHeader.bare, ClassHeader.relocate,
      Parameter.bare_relocate, bareIn_relocateIn body]
  | .defineDefinition header body => by
    simp [Statement.relocate, Statement.bare, DefineHeader.bare, DefineHeader.relocate,
      Parameter.bare_relocate, bareIn_relocateIn body]
  | .nodeDefinition header body => by
    simp [Statement.relocate, Statement.bare, NodeHeader.bare, NodeHeader.relocate,
      bareIn_relocateIn body]
  | .resource typeName bodies _ => by
    simp [Statement.relocate, Statement.bare, ResourceBody.bare_relocate]
  | .conditional branches _ => by
    rw [Statement.relocate, Statement.bare, Statement.bare, bareBranches_relocateBranches branches]
  | .assignment name value _ => by
    rw [Statement.relocate, Statement.bare, Statement.bare, value.bare_relocate]
  | .expression value => by
    rw [Statement.relocate, Statement.bare, Statement.bare, value.bare_relocate]

theorem bareIn_relocateIn : ∀ ss : List Statement, bareIn (relocateIn f ss) = bareIn ss
  | [] => rfl
  | s :: rest => by rw [relocateIn, bareIn, bareIn, s.bare_relocate, bareIn_relocateIn rest]

theorem bareBranches_relocateBranches :
    ∀ bs : List Branch, bareBranches (relocateBranches f bs) = bareBranches bs
  | [] => rfl
  | .mk guard body _ :: rest => by
    simp only [relocateBranches, Branch.relocate, bareBranches, Branch.bare, Option.map_map,
      Function.comp_def, Expr.bare_relocate, bareIn_relocateIn body,
      bareBranches_relocateBranches rest]

end

/-- Definitions stand where they may wherever the tree is moved. -/
theorem misplacedIn?_relocateIn {around : Surroundings} {ss : List Statement}
    (h : misplacedIn? around ss = none) : misplacedIn? around (relocateIn f ss) = none :=
  misplacedIn?_of_bare_eq (bareIn_relocateIn f ss) h

end Relocation

/-- Statements are legal together if the first ones are and those behind them. -/
theorem misplacedIn?_append (around : Surroundings) (ss' : List Statement) :
    ∀ ss : List Statement, misplacedIn? around (ss ++ ss') =
      (misplacedIn? around ss).or (misplacedIn? around ss')
  | [] => rfl
  | s :: rest => by
    rw [List.cons_append, misplacedIn?, misplacedIn?, misplacedIn?_append around ss' rest,
      Option.or_assoc]

/-! ### Moving nothing -/

mutual

theorem Expr.relocate_id : ∀ e : Expr, e.relocate id = e
  | .string .. | .template .. | .integer .. | .bool .. | .absent _ | .bareword .. |
    .variableRead .. => rfl
  | .array items _ => by rw [Expr.relocate, relocateAll_id items, id]
  | .reference _ titles _ => by rw [Expr.relocate, relocateAll_id titles, id]
  | .not operand _ => by rw [Expr.relocate, operand.relocate_id, id]
  | .binary _ left right _ => by rw [Expr.relocate, left.relocate_id, right.relocate_id, id]
  | .call _ args _ => by rw [Expr.relocate, relocateAll_id args, id]
  | .relationship operands _ _ => by rw [Expr.relocate, relocateAll_id operands, id]

theorem relocateAll_id : ∀ es : List Expr, relocateAll id es = es
  | [] => rfl
  | e :: rest => by rw [relocateAll, e.relocate_id, relocateAll_id rest]

end

theorem Parameter.relocate_id (p : Parameter) : p.relocate id = p := by
  simp [Parameter.relocate, funext Expr.relocate_id]

theorem Attribute.relocate_id (a : Attribute) : a.relocate id = a := by
  simp [Attribute.relocate, Expr.relocate_id]

theorem ResourceBody.relocate_id (b : ResourceBody) : b.relocate id = b := by
  simp [ResourceBody.relocate, Expr.relocate_id, funext Attribute.relocate_id]

mutual

theorem Statement.relocate_id : ∀ s : Statement, s.relocate id = s
  | .classDefinition header body => by
    simp [Statement.relocate, ClassHeader.relocate, funext Parameter.relocate_id,
      relocateIn_id body]
  | .defineDefinition header body => by
    simp [Statement.relocate, DefineHeader.relocate, funext Parameter.relocate_id,
      relocateIn_id body]
  | .nodeDefinition header body => by
    simp [Statement.relocate, NodeHeader.relocate, relocateIn_id body]
  | .resource typeName bodies _ => by
    simp [Statement.relocate, funext ResourceBody.relocate_id]
  | .conditional branches _ => by rw [Statement.relocate, relocateBranches_id branches, id]
  | .assignment name value _ => by rw [Statement.relocate, value.relocate_id, id]
  | .expression value => by rw [Statement.relocate, value.relocate_id]

/-- Moving nothing leaves statements as they are. -/
theorem relocateIn_id : ∀ ss : List Statement, relocateIn id ss = ss
  | [] => rfl
  | s :: rest => by rw [relocateIn, s.relocate_id, relocateIn_id rest]

theorem relocateBranches_id : ∀ bs : List Branch, relocateBranches id bs = bs
  | [] => rfl
  | .mk guard body _ :: rest => by
    simp [relocateBranches, Branch.relocate, funext Expr.relocate_id, relocateIn_id body,
      relocateBranches_id rest]

end

end Manifest
