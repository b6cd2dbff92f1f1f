import Manifest.Grammar.Expression
import Manifest.Proofs.Grammar.InStep

/-!
# Expressions in step

No expression begins with the end of input or goes on with it, and every level of nesting and every
round of a loop takes a token away.

## Main definitions

* `AlwaysInStep` — two readers are in step wherever there is room for them.

## Main results

* `alwaysInStep_expression` — expressions are read in step.
-/

namespace Manifest.Grammar

variable {x : Option (List Token × Location)} {b b' n : Nat} {s : TokenStream}

/-- Two readers are in step wherever there is room for them, and each time they take a token. -/
def AlwaysInStep {α : Type} (x : Option (List Token × Location)) (b b' : Nat) (p q : Parse α) :
    Prop :=
  ∀ s, Room b b' s → InStep x s.tokens.length s p q

section Operands

variable {inner inner' : Parse Expr}

theorem inStep_expressionList {close : Symbol} (hinner : AlwaysInStep x b b' inner inner')
    (hroom : Room b b' s) {c c' : Nat} (hroom' : Room c c' s) (hn : s.tokens.length < n) :
    InStep x n s (expressionList inner close c) (expressionList inner' close c') :=
  .enclosedList (fun _ s' h' => hinner s' (hroom.mono h')) hroom' (Nat.le_of_lt hn)

/-- A word alone, or with expressions between brackets behind it. -/
theorem inStep_bracketed {opening closing : Symbol} {word : Expr} {all : List Expr → Expr}
    (hinner : AlwaysInStep x b b' inner inner') (hroom : Room (b + 1) (b' + 1) s)
    (hk : (front s).kind ≠ .eof) :
    InStep x s.tokens.length s
      (advance >>= fun _ => eat (.symbol opening) >>= fun found =>
        if found then expressionList inner closing (b + 1) >>= fun es => pure (all es)
        else pure word)
      (advance >>= fun _ => eat (.symbol opening) >>= fun found =>
        if found then expressionList inner' closing (b' + 1) >>= fun es => pure (all es)
        else pure word) := by
  refine .bind (.advance hk) fun _ s₁ h₁ => ?_
  refine .eat_bind nofun (fun s₂ h₂ => ?_) (.pure h₁)
  have h₃ : s₂.tokens.length < s.tokens.length := Nat.lt_trans h₂ h₁
  refine .bind (inStep_expressionList hinner (hroom.pred h₃) (hroom.mono (Nat.le_of_lt h₃)) h₃) ?_
  exact fun _ _ h => .pure h

theorem alwaysInStep_primary (hinner : AlwaysInStep x b b' inner inner') :
    AlwaysInStep x (b + 1) (b' + 1) (primary inner (b + 1)) (primary inner' (b' + 1)) := by
  intro s hroom
  refine .peek_bind ?_
  have hleaf : ∀ e : Expr, (front s).kind ≠ .eof → InStep x s.tokens.length s
      (advance >>= fun _ => pure e) (advance >>= fun _ => pure e) := fun e hk =>
    .bind (.advance hk) fun _ _ hlength => .pure hlength
  cases hkind : (front s).kind with
  | string | template | integer | variableName => exact hleaf _ (by rw [hkind]; nofun)
  | typeName | name => exact inStep_bracketed hinner hroom (by rw [hkind]; nofun)
  | keyword word =>
    cases word with
    | trueWord | falseWord | undefWord => exact hleaf _ (by rw [hkind]; nofun)
    | classWord | defineWord | nodeWord | inheritsWord | ifWord | elsifWord | elseWord
    | unlessWord | caseWord | defaultWord | andWord | orWord => exact .unexpected
  | symbol sign =>
    cases sign with
    | leftBracket =>
      refine .bind (.advance (by rw [hkind]; nofun)) fun _ s₁ h₁ => ?_
      refine .bind (inStep_expressionList hinner (hroom.pred h₁) (hroom.mono (Nat.le_of_lt h₁)) h₁)
        ?_
      exact fun _ _ h => .pure h
    | leftParen =>
      refine .bind (.advance (by rw [hkind]; nofun)) fun _ s₁ h₁ => ?_
      refine .bind (hinner s₁ (hroom.pred h₁)) fun e s₂ h₂ => ?_
      exact .bind (.expect nofun) fun _ s₃ h₃ => .pure (by omega)
    | leftBrace | rightBrace | rightParen | rightBracket | comma | colon | semicolon | assign
    | fatArrow | equal | notEqual | bang | arrow | tildeArrow => exact .unexpected
  | eof => exact .unexpected

end Operands

section Operators

variable {operand operand' : Parse Expr}

theorem inStep_unary (hoperand : AlwaysInStep x b b' operand operand') :
    ∀ {c c' : Nat} {s : TokenStream}, Room b b' s → Room c c' s →
      InStep x s.tokens.length s (unary operand c) (unary operand' c')
  | 0, 0, _, hroom, _ => hoperand _ hroom
  | 0, _ + 1, _, _, hroom => absurd hroom Room.not_zero_succ
  | _ + 1, 0, _, _, hroom => absurd hroom Room.not_succ_zero
  | c + 1, c' + 1, s, hroom, hroom' => by
    refine .peek_bind ?_
    split
    · next hbang =>
      refine .bind (.advance (by rw [beq_iff_eq.mp hbang]; nofun)) fun _ s₁ h₁ => ?_
      refine .bind (inStep_unary hoperand (hroom.mono (Nat.le_of_lt h₁)) (hroom'.pred h₁)) ?_
      exact fun e s₂ h₂ => .pure (Nat.lt_trans h₂ h₁)
    · exact hoperand s hroom

theorem alwaysInStep_comparison (hoperand : AlwaysInStep x b b' operand operand') :
    AlwaysInStep x b b' (comparison operand) (comparison operand') := by
  intro s hroom
  refine .bind (hoperand s hroom) fun left s₁ h₁ => .peek_bind ?_
  cases hop : comparisonOp? (front s₁).kind with
  | none => exact .pure h₁
  | some op =>
    have hk : (front s₁).kind ≠ .eof := fun heof => by rw [heof] at hop; cases hop
    refine .bind (.advance hk) fun _ s₂ h₂ => ?_
    refine .bind (hoperand s₂ (hroom.mono (by omega))) fun right s₃ h₃ => ?_
    exact .pure (by omega)

theorem inStep_leftChain {op : BinaryOp} {word : Keyword}
    (hoperand : AlwaysInStep x b b' operand operand') :
    ∀ {c c' : Nat} {s : TokenStream} (left : Expr), Room b b' s → Room c c' s →
      s.tokens.length < n →
        InStep x n s (leftChain op word operand c left) (leftChain op word operand' c' left)
  | 0, 0, _, _, _, _, hn => .pure hn
  | 0, _ + 1, _, _, _, hroom, _ => absurd hroom Room.not_zero_succ
  | _ + 1, 0, _, _, _, hroom, _ => absurd hroom Room.not_succ_zero
  | c + 1, c' + 1, s, left, hroom, hroom', hn => by
    refine .eat_bind nofun (fun s₁ h₁ => ?_) (.pure hn)
    refine .bind (hoperand s₁ (hroom.mono (Nat.le_of_lt h₁))) fun right s₂ h₂ => ?_
    have h₃ : s₂.tokens.length < s.tokens.length := Nat.lt_trans h₂ h₁
    exact inStep_leftChain hoperand _ (hroom.mono (Nat.le_of_lt h₃)) (hroom'.pred h₃) (by omega)

theorem alwaysInStep_joined {op : BinaryOp} {word : Keyword}
    (hoperand : AlwaysInStep x b b' operand operand') :
    AlwaysInStep x b b' (joined op word operand b) (joined op word operand' b') := by
  intro s hroom
  refine .bind (hoperand s hroom) fun first s₁ h₁ => ?_
  have hroom₁ : Room b b' s₁ := hroom.mono (Nat.le_of_lt h₁)
  exact inStep_leftChain hoperand first hroom₁ hroom₁ h₁

end Operators

/-- Expressions are read in step. -/
theorem alwaysInStep_expression : ∀ {b b' : Nat},
    AlwaysInStep x b b' (expression b) (expression b')
  | 0, 0 => fun _ _ => .unexpected
  | 0, _ + 1 => fun _ hroom => absurd hroom Room.not_zero_succ
  | _ + 1, 0 => fun _ hroom => absurd hroom Room.not_succ_zero
  | b + 1, b' + 1 => by
    refine alwaysInStep_joined (alwaysInStep_joined (alwaysInStep_comparison fun s hroom => ?_))
    exact inStep_unary (alwaysInStep_primary alwaysInStep_expression) hroom hroom

end Manifest.Grammar
