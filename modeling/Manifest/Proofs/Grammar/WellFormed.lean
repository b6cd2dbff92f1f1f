import Manifest.Proofs.Grammar.Answers
import Manifest.Proofs.Grammar.FullReading
import Mathlib.Data.List.Nodup

/-!
# Well-formed statements

Whatever the tokens are, the statements that are read are well formed: a class or define knows the
definition around it, parameters and attributes have different names, a chain of relationships has
one operand more than it has arrows, and of the branches of a conditional only the last one may be
without a guard.

The branches of a `case` need a look at the way in which they are put together: one without a guard
is set aside until all the others are there, and each of the others has at least one value, from
which its guard is made.

## Main definitions

* `Expr.IsChain` — a chain of relationships between operands.
* `Statement.WellFormed`, `WellFormedIn` — statements inside a definition are well formed.

## Main results

* `Grammar.wellFormed_statement` — what is read is well formed.
* `wellFormedIn_of_build` — so is the tree for any tokens.
-/

namespace Manifest

/-- A chain of relationships with at least one arrow, each between two operands. -/
def Expr.IsChain : Expr → Prop
  | .relationship operands arrows _ =>
    arrows ≠ [] ∧ operands.length = arrows.length + 1 ∧ AllPlain operands
  | _ => False

mutual

/-- A statement inside the definition `space` is well formed. -/
def Statement.WellFormed (space : Option String) : Statement → Prop
  | .classDefinition header body =>
    header.enclosing = space ∧ NormalParameters header.parameters ∧
      WellFormedIn (some header.name) body
  | .defineDefinition header body =>
    header.enclosing = space ∧ NormalParameters header.parameters ∧
      WellFormedIn (some header.name) body
  | .nodeDefinition _ body => WellFormedIn space body
  | .resource _ bodies _ => ∀ b ∈ bodies, b.Normal
  | .conditional branches _ => WellFormedBranches space branches
  | .assignment _ value _ => value.Plain
  | .expression value => value.Plain ∨ value.IsChain

/-- Statements inside the definition `space` are well formed. -/
def WellFormedIn (space : Option String) : List Statement → Prop
  | [] => True
  | s :: rest => s.WellFormed space ∧ WellFormedIn space rest

/-- Branches inside the definition `space` are well formed, and only the last one may be without a
guard. -/
def WellFormedBranches (space : Option String) : List Branch → Prop
  | [] => True
  | .mk guard body _ :: rest =>
    (∀ e ∈ guard, e.Plain) ∧ (guard = none → rest = []) ∧ WellFormedIn space body ∧
      WellFormedBranches space rest

end

theorem wellFormedIn_iff {space : Option String} {body : List Statement} :
    WellFormedIn space body ↔ ∀ s ∈ body, s.WellFormed space := by
  induction body with
  | nil => simp [WellFormedIn]
  | cons s rest ih => rw [WellFormedIn, List.forall_mem_cons, ih]

/-- Further branches stand behind those that all have a guard. -/
theorem wellFormedBranches_append {space : Option String} : ∀ {bs cs : List Branch},
    (∀ b ∈ bs, b.isGuarded = true) → WellFormedBranches space bs → WellFormedBranches space cs →
      WellFormedBranches space (bs ++ cs)
  | [], _, _, _, hcs => hcs
  | .mk guard body _ :: bs, _, hguarded, hbs, hcs => by
    obtain ⟨hfirst, hrest⟩ := List.forall_mem_cons.mp hguarded
    obtain ⟨hplain, -, hbody, hbs⟩ := hbs
    refine ⟨hplain, ?_, hbody, wellFormedBranches_append hrest hbs hcs⟩
    rintro rfl
    cases hfirst

/-- A further item has a name that is not yet there. -/
theorem nodup_map_concat {α : Type} {name : α → String} {items : List α}
    (h : (items.map name).Nodup) {item : α} (hnew : ¬items.any (name · == name item) = true) :
    ((items ++ [item]).map name).Nodup := by
  rw [List.map_append, List.map_singleton, ← List.concat_eq_append]
  exact h.concat (by simpa using hnew)

theorem NormalParameters.concat {ps : List Parameter} (h : NormalParameters ps) {p : Parameter}
    (hnew : ¬ps.any (·.name == p.name) = true) (hplain : ∀ e ∈ p.default, e.Plain) :
    NormalParameters (ps ++ [p]) :=
  ⟨nodup_map_concat h.1 hnew,
    List.forall_mem_append.mpr ⟨h.2, List.forall_mem_singleton.mpr hplain⟩⟩

/-- Attributes with different names. -/
def NormalAttributes (as : List Attribute) : Prop :=
  (as.map Attribute.name).Nodup ∧ ∀ a ∈ as, a.value.Plain

theorem NormalAttributes.concat {as : List Attribute} (h : NormalAttributes as) {a : Attribute}
    (hnew : ¬as.any (·.name == a.name) = true) (hplain : a.value.Plain) :
    NormalAttributes (as ++ [a]) :=
  ⟨nodup_map_concat h.1 hnew,
    List.forall_mem_append.mpr ⟨h.2, List.forall_mem_singleton.mpr hplain⟩⟩

namespace Grammar

variable {inner : Parse Statement} {space : Option String}

/-! ### Blocks -/

theorem wellFormed_statements {stops : TokenKind → Bool}
    (h : Answers (Statement.WellFormed space) inner) :
    ∀ bound, Answers (WellFormedIn space) (statements stops inner bound)
  | 0 => .pure trivial
  | bound + 1 => by
    refine .after fun token => .ite (.pure trivial) (.after fun semicolon => .ite ?_ ?_)
    · exact wellFormed_statements h bound
    · exact h.bind fun first hfirst => (wellFormed_statements h bound).bind fun rest hrest =>
        .pure ⟨hfirst, hrest⟩

theorem wellFormed_block (h : Answers (Statement.WellFormed space) inner) (bound : Nat) :
    Answers (WellFormedIn space) (block inner bound) :=
  .after fun _ => (wellFormed_statements h bound).bind fun _ hbody => .after fun _ => .pure hbody

/-! ### Definitions -/

theorem normal_parameter (bound : Nat) {found : List Parameter} (h : NormalParameters found) :
    Answers (fun p => NormalParameters (found ++ [p])) (parameter bound found) := by
  refine .after fun token => ?_
  obtain ⟨kind, l⟩ := token
  cases kind with
  | variableName name =>
    refine .after fun _ => ?_
    split
    · exact .bind (P := fun _ => False) .throw nofun
    · next hnew =>
      refine .after fun assigned => .ite ?_ (.pure (h.concat hnew fun _ he => by cases he))
      exact (answers_expression bound).bind fun e he =>
        .pure (h.concat hnew fun _ heq => Option.some.inj heq ▸ he)
  | _ => exact .unexpected

theorem normal_parameters (bound : Nat) : Answers NormalParameters (parameters bound) :=
  .after fun _ => .ite
    (.enclosedList (fun _ hfound => normal_parameter bound hfound) ⟨.nil, nofun⟩ bound)
    (.pure ⟨.nil, nofun⟩)

section Definitions

variable {inner : Option String → Parse Statement}
  (h : ∀ space, Answers (Statement.WellFormed space) (inner space))
include h

theorem wellFormed_classDefinition (space : Option String) (bound : Nat) :
    Answers (Statement.WellFormed space) (classDefinition inner space bound) := by
  refine .after fun start => .after fun name => ?_
  refine (normal_parameters bound).bind fun parameters hparameters => ?_
  -- The body is read alike whatever the inherited class is, if there is one.
  have hbody : ∀ parent : Option String, Answers (Statement.WellFormed space) (do
      let body ← block (inner (some (qualify space name))) bound
      return .classDefinition ⟨qualify space name, parameters, parent, space, start.location⟩
        body) :=
    fun _ => (wellFormed_block (h _) bound).bind fun _ hbody => .pure ⟨rfl, hparameters, hbody⟩
  refine .after fun found => .ite ?_ ?_
  · exact .after fun _ => .after hbody
  · exact .after hbody

theorem wellFormed_defineDefinition (space : Option String) (bound : Nat) :
    Answers (Statement.WellFormed space) (defineDefinition inner space bound) := by
  refine .after fun start => .after fun name => ?_
  refine (normal_parameters bound).bind fun parameters hparameters => ?_
  exact (wellFormed_block (h _) bound).bind fun body hbody => .pure ⟨rfl, hparameters, hbody⟩

end Definitions

theorem wellFormed_nodeDefinition (h : Answers (Statement.WellFormed space) inner) (bound : Nat) :
    Answers (Statement.WellFormed space) (nodeDefinition inner bound) :=
  .after fun _ => .after fun _ => (wellFormed_block h bound).bind fun _ hbody => .pure hbody

/-! ### Resources, assignments, calls and relationships -/

theorem normal_attributeOf (bound : Nat) {found : List Attribute} (h : NormalAttributes found) :
    Answers (fun a => NormalAttributes (found ++ [a])) (attributeOf bound found) := by
  refine .after fun token => ?_
  cases attributeName? token.kind with
  | none => exact .unexpected
  | some name =>
    refine .after fun _ => ?_
    split
    · exact .bind (P := fun _ => False) .throw nofun
    · next hnew =>
      exact .after fun _ => (answers_expression bound).bind fun e he => .pure (h.concat hnew he)

theorem normal_resourceBody (bound : Nat) :
    Answers ResourceBody.Normal (resourceBody bound) := by
  refine (answers_expression bound).bind fun title htitle => .after fun _ => ?_
  refine .bind (P := NormalAttributes) ?_ fun _ h => .pure ⟨htitle, h⟩
  exact .separatedList (fun _ hfound => normal_attributeOf bound hfound) bound ⟨.nil, nofun⟩

theorem wellFormed_resourceDeclaration (typeName : String) (location : Location) (bound : Nat) :
    Answers (Statement.WellFormed space) (resourceDeclaration typeName location bound) :=
  .after fun _ => (Answers.list (normal_resourceBody bound) bound).bind fun _ hbodies =>
    .after fun _ => .pure hbodies

theorem wellFormed_assignment (name : String) (location : Location) (bound : Nat) :
    Answers (Statement.WellFormed space) (assignment name location bound) :=
  .after fun _ => (answers_expression bound).bind fun _ he => .pure he

theorem wellFormed_callStatement (function : String) (location : Location) (bound : Nat) :
    Answers (Statement.WellFormed space) (callStatement function location bound) := by
  have hcall : ∀ args, AllPlain args → Answers (Statement.WellFormed space)
      (pure (.expression (.call function args location))) :=
    fun _ hargs => .pure (.inl hargs)
  refine .after fun _ => .ite ?_ ?_
  · exact (answers_expressionList (answers_expression bound) _ bound).bind hcall
  · refine (Answers.list (answers_expression bound) bound).bind fun args hargs => ?_
    exact hcall args (allPlain_iff.mpr hargs)

theorem answers_arrowChain {operand : Parse Expr} (h : Answers Expr.Plain operand) :
    ∀ bound, Answers (fun chain => AllPlain (chain.map Prod.snd)) (arrowChain operand bound)
  | 0 => .pure trivial
  | bound + 1 => by
    refine .after fun token => ?_
    cases arrow? token.kind with
    | none => exact .pure trivial
    | some arrow =>
      exact .after fun _ => h.bind fun next hnext =>
        (answers_arrowChain h bound).bind fun rest hrest => .pure ⟨hnext, hrest⟩

/-- Behind the first operand every arrow brings its own one along. -/
theorem wellFormed_relationshipStatement (bound : Nat) :
    Answers (Statement.WellFormed space) (relationshipStatement bound) := by
  refine (answers_expression bound).bind fun first hfirst => ?_
  refine (answers_arrowChain (answers_expression bound) bound).bind fun chain hchain => ?_
  split
  · exact .unexpected
  · next hne =>
    -- Operands and arrows are counted off the same list.
    refine .pure (.inr ⟨by simpa using hne, ?_, hfirst, hchain⟩)
    simp only [List.length_cons, List.length_map]

/-! ### Conditionals -/

theorem wellFormed_guardedBranch (h : Answers (Statement.WellFormed space) inner) (bound : Nat) :
    Answers (fun b => b.isGuarded = true ∧ WellFormedBranches space [b])
      (guardedBranch inner bound) := by
  refine (answers_expression bound).bind fun guard hguard => ?_
  refine (wellFormed_block h bound).bind fun body hbody => ?_
  exact .pure ⟨rfl, fun _ he => Option.some.inj he ▸ hguard, nofun, hbody, trivial⟩

theorem wellFormed_elseBranch (h : Answers (Statement.WellFormed space) inner) (bound : Nat) :
    Answers (fun b => WellFormedBranches space [b]) (elseBranch inner bound) :=
  .after fun _ => (wellFormed_block h bound).bind fun _ hbody =>
    .pure ⟨nofun, fun _ => rfl, hbody, trivial⟩

/-- Branches behind one with a guard. -/
theorem wellFormedBranches_cons {b : Branch} {bs : List Branch} (hguarded : b.isGuarded = true)
    (hb : WellFormedBranches space [b]) (hbs : WellFormedBranches space bs) :
    WellFormedBranches space (b :: bs) :=
  wellFormedBranches_append (List.forall_mem_singleton.mpr hguarded) hb hbs

theorem wellFormed_furtherBranches (h : Answers (Statement.WellFormed space) inner) (bound : Nat) :
    ∀ rounds, Answers (WellFormedBranches space) (furtherBranches inner bound rounds)
  | 0 => .pure trivial
  | rounds + 1 => by
    refine .after fun found => .ite ?_ (.after fun last => .ite ?_ (.pure trivial))
    · refine (wellFormed_guardedBranch h bound).bind fun branch hbranch => ?_
      exact (wellFormed_furtherBranches h bound rounds).bind fun rest hrest =>
        .pure (wellFormedBranches_cons hbranch.1 hbranch.2 hrest)
    · exact (wellFormed_elseBranch h bound).bind fun _ hbranch => .pure hbranch

theorem wellFormed_ifStatement (h : Answers (Statement.WellFormed space) inner) (bound : Nat) :
    Answers (Statement.WellFormed space) (ifStatement inner bound) := by
  refine .after fun _ => (wellFormed_guardedBranch h bound).bind fun first hfirst => ?_
  exact (wellFormed_furtherBranches h bound bound).bind fun rest hrest =>
    .pure (wellFormedBranches_cons hfirst.1 hfirst.2 hrest)

theorem wellFormed_unlessStatement (h : Answers (Statement.WellFormed space) inner) (bound : Nat) :
    Answers (Statement.WellFormed space) (unlessStatement inner bound) := by
  refine .after fun _ => (answers_expression bound).bind fun guard hguard => ?_
  refine (wellFormed_block h bound).bind fun body hbody => ?_
  have hfirst : WellFormedBranches space
      [.mk (some (.not guard guard.location)) body guard.location] :=
    ⟨fun _ he => Option.some.inj he ▸ hguard, nofun, hbody, trivial⟩
  refine .after fun last => .ite ?_ (.pure hfirst)
  exact (wellFormed_elseBranch h bound).bind fun _ hlast =>
    .pure (wellFormedBranches_cons rfl hfirst hlast)

/-- The guard of a branch of a `case` is made of the subject and the values alone. -/
theorem plain_caseGuard {subject : Expr} (hsubject : subject.Plain) :
    ∀ {values : List Expr}, (∀ v ∈ values, v.Plain) →
      ∀ e ∈ caseGuard subject values, e.Plain
  | [], _, _, h => by cases h
  | value :: rest, hvalues, e, h => by
    obtain ⟨hvalue, hrest⟩ := List.forall_mem_cons.mp hvalues
    rw [← Option.some.inj h]
    refine List.foldlRecOn rest _ (motive := Expr.Plain) ⟨hsubject, hvalue⟩ ?_
    exact fun guard hguard v hv => ⟨hguard, hsubject, hrest v hv⟩

/-- The values of a branch of a `case`. -/
theorem answers_values (bound : Nat) :
    Answers (fun values => values ≠ [] ∧ ∀ v ∈ values, v.Plain)
      (separatedList .comma (fun _ => false) (fun _ => expression (bound + 1)) (bound + 1) []) := by
  intro s values s' h
  exact ⟨separatedList_ne_nil h (.inr (Nat.succ_ne_zero bound)),
    Answers.list (answers_expression _) _ s values s' h⟩

theorem wellFormed_caseBranches (h : Answers (Statement.WellFormed space) inner) {subject : Expr}
    (hsubject : subject.Plain) (bound : Nat) :
    ∀ (rounds : Nat) {branches : List Branch} {fallback : Option Branch},
      (∀ b ∈ branches, b.isGuarded = true) → WellFormedBranches space branches →
      WellFormedBranches space fallback.toList →
      Answers (WellFormedBranches space)
        (caseBranches inner subject (bound + 1) rounds branches fallback)
  | 0, _, _, hguarded, hbranches, hfallback =>
    .pure (wellFormedBranches_append hguarded hbranches hfallback)
  | rounds + 1, branches, fallback, hguarded, hbranches, hfallback => by
    refine .after fun token => .ite (.pure ?_) (.after fun last => .ite ?_ ?_)
    · exact wellFormedBranches_append hguarded hbranches hfallback
    · -- The branch takes the place of an earlier one for everything else.
      refine .after fun _ => (wellFormed_block h _).bind fun body hbody => ?_
      exact wellFormed_caseBranches h hsubject bound rounds hguarded hbranches
        ⟨nofun, fun _ => rfl, hbody, trivial⟩
    · refine (answers_values bound).bind fun values hvalues => ?_
      refine .after fun _ => (wellFormed_block h _).bind fun body hbody => ?_
      have hsome : (caseGuard subject values).isSome = true := by
        obtain ⟨value, rest, rfl⟩ := List.exists_cons_of_ne_nil hvalues.1
        rfl
      refine wellFormed_caseBranches h hsubject bound rounds ?_ ?_ hfallback
      · exact List.forall_mem_append.mpr ⟨hguarded, List.forall_mem_singleton.mpr hsome⟩
      · refine wellFormedBranches_append hguarded hbranches ⟨?_, fun _ => rfl, hbody, trivial⟩
        exact plain_caseGuard hsubject hvalues.2

theorem wellFormed_caseStatement (h : Answers (Statement.WellFormed space) inner) (bound : Nat) :
    Answers (Statement.WellFormed space) (caseStatement inner (bound + 1)) := by
  refine .after fun _ => (answers_expression _).bind fun subject hsubject => .after fun _ => ?_
  have hcase : Answers (WellFormedBranches space)
      (caseBranches inner subject (bound + 1) (bound + 1) [] none) :=
    wellFormed_caseBranches h hsubject bound _ nofun trivial trivial
  exact hcase.bind fun _ hbranches => .after fun _ => .pure hbranches

/-! ### Programs -/

theorem wellFormed_statementOf {inner : Option String → Parse Statement}
    (h : ∀ space, Answers (Statement.WellFormed space) (inner space)) (space : Option String)
    (bound : Nat) : Answers (Statement.WellFormed space) (statementOf inner space (bound + 1)) := by
  refine .after fun token => ?_
  obtain ⟨kind, l⟩ := token
  cases kind with
  | keyword word =>
    cases word with
    | classWord =>
      refine .after fun second => .ite (.after fun _ => ?_) ?_
      · exact wellFormed_resourceDeclaration _ _ _
      · exact wellFormed_classDefinition h space _
    | defineWord => exact wellFormed_defineDefinition h space _
    | nodeWord => exact wellFormed_nodeDefinition (h space) _
    | ifWord => exact wellFormed_ifStatement (h space) _
    | unlessWord => exact wellFormed_unlessStatement (h space) _
    | caseWord => exact wellFormed_caseStatement (h space) bound
    | inheritsWord | elsifWord | elseWord | defaultWord | trueWord | falseWord | undefWord
    | andWord | orWord => exact .unexpected
  | variableName name => exact .after fun _ => wellFormed_assignment name _ _
  | name name =>
    refine .after fun _ => .after fun found => .ite ?_ ?_
    · exact wellFormed_resourceDeclaration _ _ _
    · exact wellFormed_callStatement name _ _
  | typeName type => exact wellFormed_relationshipStatement _
  | string | template | integer | symbol | eof => exact .unexpected

theorem wellFormed_statement : ∀ (bound : Nat) (space : Option String),
    Answers (Statement.WellFormed space) (statement bound space)
  | 0, _ => .unexpected
  | bound + 1, space => wellFormed_statementOf (wellFormed_statement bound) space bound

theorem wellFormed_program (bound : Nat) : Answers (WellFormedIn none) (program bound) :=
  wellFormed_statements (wellFormed_statement bound none) bound

end Grammar

/-- Whatever the tokens are, the tree that is built from them is well formed. -/
theorem wellFormedIn_of_build {file : String} {tokens : List Token} {ast : Ast}
    (h : build file tokens = .ok ast) : WellFormedIn none ast.statements := by
  unfold build at h
  simp only at h
  split at h
  · cases h
  · next statements s' hp =>
    split at h
    · cases h
    · cases h
      exact Grammar.wellFormed_program _ _ statements s' hp

end Manifest
