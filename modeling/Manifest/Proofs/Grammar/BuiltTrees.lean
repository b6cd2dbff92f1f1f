import Manifest.Proofs.Tree.Parts

/-!
# What holds of the trees that are built

Whoever works with a tree takes some things for granted: that a definition knows the one around it,
that there is one value for each parameter and attribute, that each arrow has an operand on both
sides, that nothing stands behind a branch that is always taken.  All this holds of the trees that
are built, from any tokens whose names have the shape of names.

Full names need that shape.  In front of the name of a definition stands the full name of the one
around it, unless this is empty, and from written names no empty one comes about.

## Main definitions

* `Definition.IsNamed` — the full name of a definition that is written with some name.
* `Ast.IsWellFormed` — what is taken for granted of a tree for some tokens.

## Main results

* `Statement.WellFormed.enclosing_ne` — no definition stands in one with an empty name.
* `isWellFormed_of_build` — the trees that are built are well formed.
-/

namespace Manifest

/-! ### Full names -/

/-- The full name of a definition that is written with some name.  What stands behind an anchor is
the full name, and any other name stands behind the full name of the definition around it. -/
def Definition.IsNamed (d : Definition) (written : String) : Prop :=
  match Name.absolute? written, d.enclosing with
  | some full, _ => d.name = Text.lower full
  | none, some outer => d.name = outer ++ "::" ++ Text.lower written
  | none, none => d.name = Text.lower written

theorem Definition.IsQualified.isNamed {d : Definition} {written : String}
    (h : d.IsQualified written) (hne : d.enclosing ≠ some "") : d.IsNamed written := by
  unfold Definition.IsQualified Grammar.qualify at h
  unfold Definition.IsNamed
  cases habsolute : Name.absolute? written with
  | some full =>
    rw [habsolute] at h
    exact h
  | none =>
    rw [habsolute] at h
    cases houter : d.enclosing with
    | none =>
      rw [houter] at h
      exact h
    | some outer =>
      rw [houter] at h hne
      have houter : outer ≠ "" := fun heq => hne (heq ▸ rfl)
      rw [h]
      exact if_neg houter

mutual

/-- If no definition has an empty name, none stands in one that has. -/
theorem Statement.WellFormed.enclosing_ne {space : Option String} (hspace : space ≠ some "") :
    ∀ {s : Statement}, s.WellFormed space → (∀ d ∈ s.collected, d.name ≠ "") →
      ∀ d ∈ s.collected, d.enclosing ≠ some ""
  | .classDefinition header body, h, hnames => by
    obtain ⟨hname, hbody⟩ := List.forall_mem_cons.mp hnames
    refine List.forall_mem_cons.mpr ⟨fun heq => hspace (h.1.symm.trans heq), ?_⟩
    exact WellFormedIn.enclosing_ne (fun heq => hname (Option.some.inj heq)) h.2.2 hbody
  | .defineDefinition header body, h, hnames => by
    obtain ⟨hname, hbody⟩ := List.forall_mem_cons.mp hnames
    refine List.forall_mem_cons.mpr ⟨fun heq => hspace (h.1.symm.trans heq), ?_⟩
    exact WellFormedIn.enclosing_ne (fun heq => hname (Option.some.inj heq)) h.2.2 hbody
  | .nodeDefinition .., _, _ | .resource .., _, _ | .conditional .., _, _ | .assignment .., _, _
  | .expression _, _, _ => List.forall_mem_nil _

theorem WellFormedIn.enclosing_ne {space : Option String} (hspace : space ≠ some "") :
    ∀ {body : List Statement}, WellFormedIn space body → (∀ d ∈ collectedIn body, d.name ≠ "") →
      ∀ d ∈ collectedIn body, d.enclosing ≠ some ""
  | [], _, _ => List.forall_mem_nil _
  | _ :: _, h, hnames => by
    obtain ⟨hfirst, hrest⟩ := List.forall_mem_append.mp hnames
    exact List.forall_mem_append.mpr ⟨Statement.WellFormed.enclosing_ne hspace h.1 hfirst,
      WellFormedIn.enclosing_ne hspace h.2 hrest⟩

end

/-- Canonical names are not empty. -/
theorem CanonicalNamesIn.name_ne {body : List Statement} (h : CanonicalNamesIn body) :
    ∀ d ∈ collectedIn body, d.name ≠ "" := by
  intro d hd hname
  cases d with
  | ofClass c =>
    have hc : c ∈ classesIn body := by
      rw [classesIn_eq_filterMap]
      exact List.mem_filterMap.mpr ⟨_, hd, rfl⟩
    exact Name.not_isCanonical_empty (hname ▸ h.1 c hc)
  | ofDefine e =>
    have he : e ∈ definesIn body := by
      rw [definesIn_eq_filterMap]
      exact List.mem_filterMap.mpr ⟨_, hd, rfl⟩
    exact Name.not_isCanonical_empty (hname ▸ h.2 e he)

/-! ### Trees -/

/-- What is taken for granted of the tree for some tokens. -/
structure Ast.IsWellFormed (a : Ast) (tokens : List Token) : Prop where
  /-- Around a definition at top level there is no other one. -/
  topLevel : ∀ s ∈ a.statements, ∀ d, s.asDefinition? = some d → d.enclosing = none
  /-- A definition in the body of another one knows the full name of that one. -/
  nested : ∀ outer ∈ a.definitions, ∀ s ∈ outer.body, ∀ d, s.asDefinition? = some d →
    d.enclosing = some outer.name
  /-- Every definition begins in the tokens with its keyword and a name, and has the full name that
  comes from it. -/
  named : Headed Definition.IsNamed a.definitions tokens
  parameters : ∀ d ∈ a.definitions, (d.parameters.map Parameter.name).Nodup
  attributes : ∀ typeName bodies l, .resource typeName bodies l ∈ a.parts →
    ∀ b ∈ bodies, (b.attributes.map Attribute.name).Nodup
  relationships : ∀ s ∈ a.parts, ∀ e ∈ s.exprs, ∀ operands arrows l,
    .relationship operands arrows l ∈ e.parts →
      arrows ≠ [] ∧ operands.length = arrows.length + 1
  /-- Nothing stands behind a branch without a guard. -/
  conditionals : ∀ branches l, .conditional branches l ∈ a.parts →
    ∀ before body l' after, branches = before ++ .mk none body l' :: after → after = []

/-- What a well-formed statement says of the class or define that it is. -/
theorem Statement.WellFormed.definition {space : Option String} {s : Statement}
    (h : s.WellFormed space) {d : Definition} (hd : s.asDefinition? = some d) :
    d.enclosing = space ∧ NormalParameters d.parameters ∧ WellFormedIn (some d.name) d.body := by
  cases s with
  | classDefinition header body => cases hd; exact h
  | defineDefinition header body => cases hd; exact h
  | _ => cases hd

/-- The tree that is built from tokens whose names have the shape of names is well formed. -/
theorem isWellFormed_of_build {file : String} {tokens : List Token} {a : Ast}
    (h : build file tokens = .ok a) (hwritten : ∀ t ∈ tokens, t.kind.IsWritten) :
    a.IsWellFormed tokens := by
  have hwell : WellFormedIn none a.statements := wellFormedIn_of_build h
  have hparts : ∀ s ∈ a.parts, ∃ space, s.WellFormed space := hwell.of_mem_parts
  have hdefinitions : ∀ d ∈ a.definitions, ∃ (space : Option String) (s : Statement),
      s.WellFormed space ∧ s.asDefinition? = some d := by
    intro d hd
    rw [a.definitions_eq] at hd
    obtain ⟨s, hs, hsd⟩ := List.mem_filterMap.mp hd
    obtain ⟨space, hspace⟩ := hparts s hs
    exact ⟨space, s, hspace, hsd⟩
  refine ⟨?_, ?_, ?_, ?_, ?_, ?_, ?_⟩
  · intro s hs d hd
    exact ((wellFormedIn_iff.mp hwell s hs).definition hd).1
  · intro outer houter s hs d hd
    obtain ⟨space, definition, hdefinition, heq⟩ := hdefinitions outer houter
    obtain ⟨-, -, hbody⟩ := hdefinition.definition heq
    exact ((wellFormedIn_iff.mp hbody s hs).definition hd).1
  · refine (headed_of_build h).imp fun d hd written hqualified => hqualified.isNamed ?_
    obtain ⟨-, -, hplaced⟩ := build_eq_ok_iff.mp h
    rw [Ast.definitions_eq_collectedIn hplaced] at hd
    have htop : (none : Option String) ≠ some "" := nofun
    exact hwell.enclosing_ne htop (canonicalNames_of_build h hwritten).name_ne d hd
  · intro d hd
    obtain ⟨space, s, hs, heq⟩ := hdefinitions d hd
    obtain ⟨-, hparameters, -⟩ := hs.definition heq
    exact hparameters.1
  · intro typeName bodies l hmem b hb
    obtain ⟨space, hresource⟩ := hparts _ hmem
    exact (hresource b hb).2.1
  · intro s hs e he operands arrows l hmem
    obtain ⟨space, hspace⟩ := hparts s hs
    exact relationship_of_mem_parts (hspace.plain_or_isChain e he) hmem
  · rintro branches l hmem before body l' after rfl
    obtain ⟨space, hconditional⟩ := hparts _ hmem
    have hbranches : WellFormedBranches space (before ++ .mk none body l' :: after) := hconditional
    exact hbranches.eq_nil

/-- Definitions in definitions, one of them with an anchor, and in one of them a conditional, a
resource and a chain of relationships. -/
def Sample.nestedDefinitions : String :=
  "class aB($x) { define c { } class ::d { if $x { } else { } e { 1: f => 1 } E[1] -> E[2] } }"

theorem isWellFormed_of_build_sample :
    ∃ tokens a, lex "site.pp" Sample.nestedDefinitions = .ok tokens ∧
      build "site.pp" tokens = .ok a ∧
      (∀ t ∈ tokens, t.kind.IsWritten) ∧
      a.definitions.map Definition.name = ["ab", "ab::c", "d"] ∧
      a.definitions.map Definition.enclosing = [none, some "ab", some "ab"] ∧
      a.parts.length = 6 ∧ a.IsWellFormed tokens := by
  have hread : ((lex "site.pp" Sample.nestedDefinitions).toOption.bind fun tokens =>
      (build "site.pp" tokens).toOption.map fun a => (a.definitions.map Definition.name,
        a.definitions.map Definition.enclosing, a.parts.length)) =
      some (["ab", "ab::c", "d"], [none, some "ab", some "ab"], 6) := by
    decide +kernel
  obtain ⟨tokens, hlex, hread⟩ := Option.bind_eq_some_iff.mp hread
  obtain ⟨a, hbuild, hread⟩ := Option.map_eq_some_iff.mp hread
  have hlex : lex "site.pp" Sample.nestedDefinitions = .ok tokens := Except.eq_ok_of_toOption hlex
  have hbuild : build "site.pp" tokens = .ok a := Except.eq_ok_of_toOption hbuild
  have hwritten : ∀ t ∈ tokens, t.kind.IsWritten := isWritten_of_lex hlex
  obtain ⟨hnames, hspaces, hlength⟩ := Prod.mk.inj hread |>.imp id Prod.mk.inj
  exact ⟨tokens, a, hlex, hbuild, hwritten, hnames, hspaces, hlength,
    isWellFormed_of_build hbuild hwritten⟩

end Manifest
