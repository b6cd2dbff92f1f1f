import Manifest.Grammar.Statement
import Manifest.Proofs.Grammar.InStepExpression

/-!
# Statements in step

A block ends with its brace, and neither the end of input nor what is behind it is mistaken for one.
As for expressions, every level of nesting and every round of a loop takes a token away.

## Main results

* `inStep_block` and the like — the parts of statements are read in step.
* `alwaysInStep_statement`, `inStep_program` — so are statements and whole manifests.
-/

namespace Manifest.Grammar

variable {x : Option (List Token × Location)} {b b' n : Nat} {s : TokenStream}

/-! ### Blocks -/

theorem inStep_statements {inner inner' : Parse Statement} {stops : TokenKind → Bool}
    (hinner : AlwaysInStep x b b' inner inner') :
    ∀ {c c' n : Nat} {s : TokenStream}, Room b b' s → Room c c' s → s.tokens.length < n →
      InStep x n s (statements stops inner c) (statements stops inner' c')
  | 0, 0, _, _, _, _, hn => .pure hn
  | 0, _ + 1, _, _, _, hroom, _ => absurd hroom Room.not_zero_succ
  | _ + 1, 0, _, _, _, hroom, _ => absurd hroom Room.not_succ_zero
  | c + 1, c' + 1, n, s, hroom, hroom', hn => by
    have hmore : ∀ s', s'.tokens.length < s.tokens.length →
        InStep x n s' (statements stops inner c) (statements stops inner' c') := fun s' hs' =>
      inStep_statements hinner (hroom.mono (Nat.le_of_lt hs')) (hroom'.pred hs') (by omega)
    refine .peek_bind ?_
    split
    · exact .pure hn
    · refine .eat_bind nofun hmore ?_
      refine .bind (hinner s hroom) fun first s₁ h₁ => ?_
      exact .bind (hmore s₁ h₁) fun rest s₂ h₂ => .pure h₂

section Bodies

variable {inner inner' : Parse Statement} (hinner : AlwaysInStep x b b' inner inner')
include hinner

theorem inStep_block (hroom : Room (b + 1) (b' + 1) s) :
    InStep x s.tokens.length s (block inner (b + 1)) (block inner' (b' + 1)) := by
  refine .bind (.expect nofun) fun _ s₁ h₁ => ?_
  refine .bind (inStep_statements hinner (hroom.pred h₁) (hroom.mono (Nat.le_of_lt h₁))
    (Nat.lt_succ_self _)) fun body s₂ h₂ => ?_
  exact .bind (.expect nofun) fun _ s₃ h₃ => .pure (by omega)

/-- What ends with a block. -/
theorem inStep_body {α : Type} {f : List Statement → α} (hroom : Room (b + 1) (b' + 1) s)
    (hn : s.tokens.length ≤ n) :
    InStep x n s (block inner (b + 1) >>= fun body => pure (f body))
      (block inner' (b' + 1) >>= fun body => pure (f body)) :=
  .bind (inStep_block hinner hroom) fun _ _ h₁ => .pure (Nat.lt_of_lt_of_le h₁ hn)

end Bodies

/-! ### Definitions -/

theorem inStep_parameter (found : List Parameter) (hroom : Room b b' s) :
    InStep x s.tokens.length s (parameter b found) (parameter b' found) := by
  refine .peek_bind ?_
  cases hkind : (front s).kind with
  | variableName name =>
    refine .bind (.advance (by rw [hkind]; nofun)) fun _ s₁ h₁ => ?_
    cases found.any (·.name == name) with
    | true => exact .throw
    | false =>
      refine .eat_bind nofun (fun s₂ h₂ => ?_) (.pure h₁)
      refine .bind (alwaysInStep_expression s₂ (hroom.mono (by omega))) fun value s₃ h₃ => ?_
      exact .pure (by omega)
  | keyword | name | typeName | string | template | integer | symbol | eof => exact .unexpected

theorem inStep_parameters (hroom : Room b b' s) (hn : s.tokens.length < n) :
    InStep x n s (parameters b) (parameters b') := by
  refine .eat_bind nofun (fun s₁ h₁ => ?_) (.pure hn)
  refine .enclosedList (fun found s₂ h₂ => ?_) (hroom.mono (Nat.le_of_lt h₁)) (by omega)
  exact inStep_parameter found (hroom.mono (by omega))

theorem inStep_nodeName : InStep x s.tokens.length s nodeName nodeName := by
  refine .peek_bind ?_
  have hleaf : ∀ name : NodeName, (front s).kind ≠ .eof → InStep x s.tokens.length s
      (advance >>= fun _ => pure name) (advance >>= fun _ => pure name) := fun name hk =>
    .bind (.advance hk) fun _ _ hlength => .pure hlength
  cases hkind : (front s).kind with
  | name | string => exact hleaf _ (by rw [hkind]; nofun)
  | template parts =>
    simp only
    cases literalText? parts with
    | none => exact .unexpected
    | some text => exact hleaf _ (by rw [hkind]; nofun)
  | keyword word =>
    cases word with
    | defaultWord => exact hleaf _ (by rw [hkind]; nofun)
    | classWord | defineWord | nodeWord | inheritsWord | ifWord | elsifWord | elseWord
    | unlessWord | caseWord | andWord | orWord | trueWord | falseWord | undefWord =>
      exact .unexpected
  | typeName | variableName | integer | symbol | eof => exact .unexpected

section Definitions

variable {inner inner' : Option String → Parse Statement}
  (hinner : ∀ space, AlwaysInStep x b b' (inner space) (inner' space))
  (hroom : Room (b + 1) (b' + 1) s)
include hinner hroom

theorem inStep_classDefinition (space : Option String) :
    InStep x s.tokens.length s (classDefinition inner space (b + 1))
      (classDefinition inner' space (b' + 1)) := by
  refine .bind (.expect nofun) fun start s₁ h₁ => ?_
  refine .bind .expectName fun name s₂ h₂ => ?_
  refine .bind (inStep_parameters (hroom.mono (by omega)) h₂) fun parameters s₃ h₃ => ?_
  refine .eat_bind nofun (fun s₄ h₄ => ?_) ?_
  · refine .bind .expectName fun parent s₅ h₅ => ?_
    exact inStep_body (hinner _) (hroom.mono (by omega)) (by omega)
  · exact inStep_body (hinner _) (hroom.mono (by omega)) (by omega)

theorem inStep_defineDefinition (space : Option String) :
    InStep x s.tokens.length s (defineDefinition inner space (b + 1))
      (defineDefinition inner' space (b' + 1)) := by
  refine .bind (.expect nofun) fun start s₁ h₁ => ?_
  refine .bind .expectName fun name s₂ h₂ => ?_
  refine .bind (inStep_parameters (hroom.mono (by omega)) h₂) fun parameters s₃ h₃ => ?_
  exact inStep_body (hinner _) (hroom.mono (by omega)) (by omega)

theorem inStep_nodeDefinition (space : Option String) :
    InStep x s.tokens.length s (nodeDefinition (inner space) (b + 1))
      (nodeDefinition (inner' space) (b' + 1)) := by
  refine .bind (.expect nofun) fun start s₁ h₁ => ?_
  refine .bind (.separatedList (fun _ _ _ => inStep_nodeName) (hroom.mono (Nat.le_of_lt h₁)) h₁)
    fun names s₂ h₂ => ?_
  exact inStep_body (hinner space) (hroom.mono (Nat.le_of_lt h₂)) (Nat.le_of_lt h₂)

end Definitions

/-! ### Resources, assignments, calls and relationships -/

theorem inStep_attributeOf (found : List Attribute) (hroom : Room b b' s) :
    InStep x s.tokens.length s (attributeOf b found) (attributeOf b' found) := by
  refine .peek_bind ?_
  cases hname : attributeName? (front s).kind with
  | none => exact .unexpected
  | some name =>
    have hk : (front s).kind ≠ .eof := fun heof => by rw [heof] at hname; cases hname
    refine .bind (.advance hk) fun _ s₁ h₁ => ?_
    cases found.any (·.name == name) with
    | true => exact .throw
    | false =>
      refine .bind (.expect nofun) fun _ s₂ h₂ => ?_
      refine .bind (alwaysInStep_expression s₂ (hroom.mono (by omega))) fun value s₃ h₃ => ?_
      exact .pure (by omega)

theorem inStep_resourceBody (hroom : Room b b' s) :
    InStep x s.tokens.length s (resourceBody b) (resourceBody b') := by
  refine .bind (alwaysInStep_expression s hroom) fun title s₁ h₁ => ?_
  refine .bind (.expect nofun) fun _ s₂ h₂ => ?_
  have hattributes : ∀ stops, InStep x s.tokens.length s₂
      (separatedList .comma stops (attributeOf b) b [])
      (separatedList .comma stops (attributeOf b') b' []) := fun stops =>
    .separatedList (fun found s₃ h₃ => inStep_attributeOf found (hroom.mono (by omega)))
      (hroom.mono (by omega)) (by omega)
  exact .bind (hattributes _) fun attributes s₃ h₃ => .pure h₃

theorem inStep_resourceDeclaration (typeName : String) (l : Location) (hroom : Room b b' s) :
    InStep x s.tokens.length s (resourceDeclaration typeName l b)
      (resourceDeclaration typeName l b') := by
  refine .bind (.expect nofun) fun _ s₁ h₁ => ?_
  refine .bind (.separatedList (fun _ s₂ h₂ => inStep_resourceBody (hroom.mono (by omega)))
    (hroom.mono (Nat.le_of_lt h₁)) h₁) fun bodies s₂ h₂ => ?_
  exact .bind (.expect nofun) fun _ s₃ h₃ => .pure (by omega)

theorem inStep_assignment (name : String) (l : Location) (hroom : Room b b' s) :
    InStep x s.tokens.length s (assignment name l b) (assignment name l b') := by
  refine .bind (.expect nofun) fun _ s₁ h₁ => ?_
  refine .bind (alwaysInStep_expression s₁ (hroom.mono (Nat.le_of_lt h₁))) fun value s₂ h₂ => ?_
  exact .pure (by omega)

/-- Expressions with commas between them and nothing around them. -/
theorem inStep_values (hroom : Room b b' s) (hn : s.tokens.length < n) :
    InStep x n s (separatedList .comma (fun _ => false) (fun _ => expression b) b [])
      (separatedList .comma (fun _ => false) (fun _ => expression b') b' []) :=
  .separatedList (fun _ s₁ h₁ => alwaysInStep_expression s₁ (hroom.mono h₁)) hroom hn

theorem inStep_callStatement (function : String) (l : Location) (hroom : Room b b' s)
    (hn : s.tokens.length < n) :
    InStep x n s (callStatement function l b) (callStatement function l b') := by
  refine .eat_bind nofun (fun s₁ h₁ => ?_) ?_
  · have hroom₁ : Room b b' s₁ := hroom.mono (Nat.le_of_lt h₁)
    refine .bind (inStep_expressionList alwaysInStep_expression hroom₁ hroom₁
      (Nat.lt_trans h₁ hn)) ?_
    exact fun args s₂ h₂ => .pure h₂
  · exact .bind (inStep_values hroom hn) fun args s₁ h₁ => .pure h₁

theorem inStep_arrowChain {operand operand' : Parse Expr}
    (hoperand : AlwaysInStep x b b' operand operand') :
    ∀ {c c' n : Nat} {s : TokenStream}, Room b b' s → Room c c' s → s.tokens.length < n →
      InStep x n s (arrowChain operand c) (arrowChain operand' c')
  | 0, 0, _, _, _, _, hn => .pure hn
  | 0, _ + 1, _, _, _, hroom, _ => absurd hroom Room.not_zero_succ
  | _ + 1, 0, _, _, _, hroom, _ => absurd hroom Room.not_succ_zero
  | c + 1, c' + 1, n, s, hroom, hroom', hn => by
    refine .peek_bind ?_
    cases harrow : arrow? (front s).kind with
    | none => exact .pure hn
    | some arrow =>
      have hk : (front s).kind ≠ .eof := fun heof => by rw [heof] at harrow; cases harrow
      refine .bind (.advance hk) fun _ s₁ h₁ => ?_
      refine .bind (hoperand s₁ (hroom.mono (Nat.le_of_lt h₁))) fun next s₂ h₂ => ?_
      have h₃ : s₂.tokens.length < s.tokens.length := Nat.lt_trans h₂ h₁
      refine .bind (inStep_arrowChain hoperand (hroom.mono (Nat.le_of_lt h₃)) (hroom'.pred h₃)
        (Nat.lt_trans h₃ hn)) ?_
      exact fun rest s₃ h₄ => .pure h₄

theorem inStep_relationshipStatement (hroom : Room b b' s) :
    InStep x s.tokens.length s (relationshipStatement b) (relationshipStatement b') := by
  refine .bind (alwaysInStep_expression s hroom) fun first s₁ h₁ => ?_
  have hroom₁ : Room b b' s₁ := hroom.mono (Nat.le_of_lt h₁)
  refine .bind (inStep_arrowChain alwaysInStep_expression hroom₁ hroom₁ h₁) fun chain s₂ h₂ => ?_
  split
  · exact .unexpected
  · exact .pure h₂

/-! ### Conditionals -/

section Conditionals

variable {inner inner' : Parse Statement} (hinner : AlwaysInStep x b b' inner inner')
include hinner

theorem inStep_elseBranch (hroom : Room (b + 1) (b' + 1) s) :
    InStep x s.tokens.length s (elseBranch inner (b + 1)) (elseBranch inner' (b' + 1)) := by
  refine .bind (.expect nofun) fun token s₁ h₁ => ?_
  exact inStep_body hinner (hroom.mono (Nat.le_of_lt h₁)) (Nat.le_of_lt h₁)

theorem inStep_guardedBranch (hroom : Room (b + 1) (b' + 1) s) :
    InStep x s.tokens.length s (guardedBranch inner (b + 1)) (guardedBranch inner' (b' + 1)) := by
  refine .bind (alwaysInStep_expression s hroom) fun guard s₁ h₁ => ?_
  exact inStep_body hinner (hroom.mono (Nat.le_of_lt h₁)) (Nat.le_of_lt h₁)

theorem inStep_furtherBranches : ∀ {c c' n : Nat} {s : TokenStream}, Room (b + 1) (b' + 1) s →
    Room c c' s → s.tokens.length < n →
      InStep x n s (furtherBranches inner (b + 1) c) (furtherBranches inner' (b' + 1) c')
  | 0, 0, _, _, _, _, hn => .pure hn
  | 0, _ + 1, _, _, _, hroom, _ => absurd hroom Room.not_zero_succ
  | _ + 1, 0, _, _, _, hroom, _ => absurd hroom Room.not_succ_zero
  | c + 1, c' + 1, n, s, hroom, hroom', hn => by
    refine .eat_bind nofun (fun s₁ h₁ => ?_) ?_
    · refine .bind (inStep_guardedBranch hinner (hroom.mono (Nat.le_of_lt h₁)))
        fun branch s₂ h₂ => ?_
      have h₃ : s₂.tokens.length < s.tokens.length := Nat.lt_trans h₂ h₁
      refine .bind (inStep_furtherBranches (hroom.mono (Nat.le_of_lt h₃)) (hroom'.pred h₃)
        (Nat.lt_trans h₃ hn)) ?_
      exact fun rest s₃ h₄ => .pure h₄
    · refine .isNext_bind (fun _ => ?_) (.pure hn)
      refine .bind (inStep_elseBranch hinner hroom) fun branch s₁ h₁ => ?_
      exact .pure (Nat.lt_trans h₁ hn)

theorem inStep_ifStatement (hroom : Room (b + 1) (b' + 1) s) :
    InStep x s.tokens.length s (ifStatement inner (b + 1)) (ifStatement inner' (b' + 1)) := by
  refine .bind (.expect nofun) fun start s₁ h₁ => ?_
  refine .bind (inStep_guardedBranch hinner (hroom.mono (Nat.le_of_lt h₁))) fun first s₂ h₂ => ?_
  have hroom₂ : Room (b + 1) (b' + 1) s₂ := hroom.mono (by omega)
  refine .bind (inStep_furtherBranches hinner hroom₂ hroom₂ (Nat.lt_trans h₂ h₁)) ?_
  exact fun rest s₃ h₃ => .pure h₃

theorem inStep_unlessStatement (hroom : Room (b + 1) (b' + 1) s) :
    InStep x s.tokens.length s (unlessStatement inner (b + 1))
      (unlessStatement inner' (b' + 1)) := by
  refine .bind (.expect nofun) fun start s₁ h₁ => ?_
  refine .bind (alwaysInStep_expression s₁ (hroom.mono (Nat.le_of_lt h₁))) fun guard s₂ h₂ => ?_
  refine .bind (inStep_block hinner (hroom.mono (by omega))) fun body s₃ h₃ => ?_
  refine .isNext_bind (fun _ => ?_) (.pure (by omega))
  refine .bind (inStep_elseBranch hinner (hroom.mono (by omega))) fun last s₄ h₄ => ?_
  exact .pure (by omega)

theorem inStep_caseBranches (subject : Expr) : ∀ {c c' n : Nat} {s : TokenStream}
    (branches : List Branch) (fallback : Option Branch), Room (b + 1) (b' + 1) s → Room c c' s →
      s.tokens.length < n →
        InStep x n s (caseBranches inner subject (b + 1) c branches fallback)
          (caseBranches inner' subject (b' + 1) c' branches fallback)
  | 0, 0, _, _, _, _, _, _, hn => .pure hn
  | 0, _ + 1, _, _, _, _, _, hroom, _ => absurd hroom Room.not_zero_succ
  | _ + 1, 0, _, _, _, _, _, hroom, _ => absurd hroom Room.not_succ_zero
  | c + 1, c' + 1, n, s, branches, fallback, hroom, hroom', hn => by
    have hmore : ∀ s' branches fallback, s'.tokens.length < s.tokens.length →
        InStep x n s' (caseBranches inner subject (b + 1) c branches fallback)
          (caseBranches inner' subject (b' + 1) c' branches fallback) := fun s' _ _ hs' =>
      inStep_caseBranches subject _ _ (hroom.mono (Nat.le_of_lt hs')) (hroom'.pred hs') (by omega)
    refine .peek_bind ?_
    split
    · exact .pure hn
    refine .eat_bind nofun (fun s₁ h₁ => ?_) ?_
    · refine .bind (.expect nofun) fun _ s₂ h₂ => ?_
      refine .bind (inStep_block hinner (hroom.mono (by omega))) fun body s₃ h₃ => ?_
      exact hmore s₃ _ _ (by omega)
    · refine .bind (inStep_values hroom (Nat.lt_succ_self _)) fun values s₁ h₁ => ?_
      refine .bind (.expect nofun) fun _ s₂ h₂ => ?_
      refine .bind (inStep_block hinner (hroom.mono (by omega))) fun body s₃ h₃ => ?_
      exact hmore s₃ _ _ (by omega)

theorem inStep_caseStatement (hroom : Room (b + 1) (b' + 1) s) :
    InStep x s.tokens.length s (caseStatement inner (b + 1)) (caseStatement inner' (b' + 1)) := by
  refine .bind (.expect nofun) fun start s₁ h₁ => ?_
  refine .bind (alwaysInStep_expression s₁ (hroom.mono (Nat.le_of_lt h₁))) fun subject s₂ h₂ => ?_
  refine .bind (.expect nofun) fun _ s₃ h₃ => ?_
  have hroom₃ : Room (b + 1) (b' + 1) s₃ := hroom.mono (by omega)
  refine .bind (inStep_caseBranches hinner subject [] none hroom₃ hroom₃ (Nat.lt_succ_self _)) ?_
  intro branches s₄ h₄
  exact .bind (.expect nofun) fun _ s₅ h₅ => .pure (by omega)

end Conditionals

/-! ### Statements -/

theorem inStep_statementOf {inner inner' : Option String → Parse Statement}
    (hinner : ∀ space, AlwaysInStep x b b' (inner space) (inner' space))
    (hroom : Room (b + 1) (b' + 1) s) (space : Option String) :
    InStep x s.tokens.length s (statementOf inner space (b + 1))
      (statementOf inner' space (b' + 1)) := by
  refine .peek_bind ?_
  cases hkind : (front s).kind with
  | keyword word =>
    cases word with
    | classWord =>
      refine .peekSecond_bind (by rw [hkind]; nofun) fun second => ?_
      split
      · refine .bind (.advance (by rw [hkind]; nofun)) fun _ s₁ h₁ => ?_
        exact (inStep_resourceDeclaration _ _ (hroom.mono (Nat.le_of_lt h₁))).mono
          (Nat.le_of_lt h₁)
      · exact inStep_classDefinition hinner hroom space
    | defineWord => exact inStep_defineDefinition hinner hroom space
    | nodeWord => exact inStep_nodeDefinition hinner hroom space
    | ifWord => exact inStep_ifStatement (hinner space) hroom
    | unlessWord => exact inStep_unlessStatement (hinner space) hroom
    | caseWord => exact inStep_caseStatement (hinner space) hroom
    | inheritsWord | elsifWord | elseWord | defaultWord | andWord | orWord | trueWord | falseWord
    | undefWord => exact .unexpected
  | variableName name =>
    refine .bind (.advance (by rw [hkind]; nofun)) fun _ s₁ h₁ => ?_
    exact (inStep_assignment name _ (hroom.mono (Nat.le_of_lt h₁))).mono (Nat.le_of_lt h₁)
  | name name =>
    refine .bind (.advance (by rw [hkind]; nofun)) fun _ s₁ h₁ => ?_
    have hroom₁ : Room (b + 1) (b' + 1) s₁ := hroom.mono (Nat.le_of_lt h₁)
    refine .isNext_bind (fun _ => ?_) (inStep_callStatement name _ hroom₁ h₁)
    exact (inStep_resourceDeclaration _ _ hroom₁).mono (Nat.le_of_lt h₁)
  | typeName => exact inStep_relationshipStatement hroom
  | string | template | integer | symbol | eof => exact .unexpected

/-- Statements are read in step. -/
theorem alwaysInStep_statement : ∀ {b b' : Nat} (space : Option String),
    AlwaysInStep x b b' (statement b space) (statement b' space)
  | 0, 0, _ => fun _ _ => .unexpected
  | 0, _ + 1, _ => fun _ hroom => absurd hroom Room.not_zero_succ
  | _ + 1, 0, _ => fun _ hroom => absurd hroom Room.not_succ_zero
  | _ + 1, _ + 1, space => fun _ hroom =>
    inStep_statementOf (fun space => alwaysInStep_statement space) hroom space

/-- Whole manifests are read in step. -/
theorem inStep_program (hroom : Room b b' s) (hn : s.tokens.length < n) :
    InStep x n s (program b) (program b') :=
  inStep_statements (alwaysInStep_statement none) hroom hroom hn

end Manifest.Grammar
