import Manifest.Grammar.Expression
import Manifest.Proofs.Grammar.Carried

/-!
# Carried expressions

An expression ends before a token with which none goes on.  What stands between brackets is followed
by the closing one, so it does not matter what comes behind the stream.

## Main definitions

* `CarriesExpressions` — a reader of expressions is carried from short streams.

## Main results

* `carriesExpressions` — expressions are carried.
-/

namespace Manifest.Grammar

variable {x : Extension} {atEnd : Prop} {b b' n m : Nat} {s : TokenStream}

/-- What a reader of expressions reads from streams of less than so many tokens is carried. -/
def CarriesExpressions (x : Extension) (atEnd : Prop) (n : Nat) (p q : Parse Expr) : Prop :=
  ∀ s : TokenStream, s.tokens.length < n →
    Carried x atEnd s.tokens.length s p q (Expr.relocate x.move)

theorem relocate_binary (f : Location → Location) (op : BinaryOp) (left right : Expr) :
    (binary op left right).relocate f = binary op (left.relocate f) (right.relocate f) := by
  rw [binary, binary, Expr.relocate, Expr.location_relocate]

/-! ### Operands -/

section Operands

variable {inner inner' : Parse Expr}

theorem carried_expressionList {close : Symbol} (hinner : CarriesExpressions x False n inner inner')
    (hn : s.tokens.length < n) (hb : s.tokens.length < b) (hb' : s.tokens.length < b')
    (hm : s.tokens.length < m) :
    Carried x atEnd m s (expressionList inner close b) (expressionList inner' close b')
      (relocateAll x.move) := by
  rw [funext (relocateAll_eq_map x.move)]
  exact .enclosedList (fun _ s' h' => hinner s' (by omega)) hb hb' (Nat.le_of_lt hm)

/-- A word alone, or with expressions between brackets behind it. -/
theorem carried_bracketed {opening closing : Symbol} {word word' : Expr}
    {all all' : List Expr → Expr} (ho : atEnd → x.Loose)
    (hinner : CarriesExpressions x False b inner inner') (hb : b ≤ b')
    (hs : s.tokens.length < b + 1) (hne : s.tokens ≠ [])
    (hopening : .symbol opening ∈ continuations) (hword : word' = word.relocate x.move)
    (hall : ∀ es, all' (relocateAll x.move es) = (all es).relocate x.move) :
    Carried x atEnd s.tokens.length s
      (advance >>= fun _ => eat (.symbol opening) >>= fun found =>
        if found then expressionList inner closing (b + 1) >>= fun es => pure (all es)
        else pure word)
      (advance >>= fun _ => eat (.symbol opening) >>= fun found =>
        if found then expressionList inner' closing (b' + 1) >>= fun es => pure (all' es)
        else pure word')
      (Expr.relocate x.move) := by
  refine .bind (.advance hne) fun _ s₁ h₁ => ?_
  refine .eat_bind nofun (fun h => (ho h).ne hopening) (fun s₂ h₂ => ?_) (.pure h₁ hword)
  have hlist : Carried x atEnd s.tokens.length s₂ (expressionList inner closing (b + 1))
      (expressionList inner' closing (b' + 1)) (relocateAll x.move) :=
    carried_expressionList hinner (by omega) (by omega) (by omega) (by omega)
  exact .bind hlist fun es s₃ h₃ => .pure h₃ (hall es)

theorem carriesExpressions_primary (ho : atEnd → x.Loose)
    (hinner : CarriesExpressions x False b inner inner') (hb : b ≤ b') :
    CarriesExpressions x atEnd (b + 1) (primary inner (b + 1)) (primary inner' (b' + 1)) := by
  intro s hs
  refine .peek_bind (fun hne => ?_) (fun _ => .unexpected) fun _ => rfl
  generalize front s = token
  obtain ⟨kind, l⟩ := token
  have hleaf : ∀ e : Expr, Carried x atEnd s.tokens.length s
      (advance >>= fun _ => pure e) (advance >>= fun _ => pure (e.relocate x.move))
      (Expr.relocate x.move) :=
    fun e => .bind (.advance hne) fun _ _ hlength => .pure hlength rfl
  cases kind with
  | string text => exact hleaf (.string text l)
  | template parts => exact hleaf (.template parts l)
  | integer value => exact hleaf (.integer value l)
  | variableName name => exact hleaf (.variableRead name l)
  | typeName type =>
    have hall : ∀ es, Expr.reference type (relocateAll x.move es) (x.move l) =
        (Expr.reference type es l).relocate x.move := fun _ => rfl
    exact carried_bracketed ho hinner hb hs hne (by decide) rfl hall
  | name name =>
    have hall : ∀ es, Expr.call name (relocateAll x.move es) (x.move l) =
        (Expr.call name es l).relocate x.move := fun _ => rfl
    exact carried_bracketed ho hinner hb hs hne (by decide) rfl hall
  | keyword word =>
    cases word with
    | trueWord => exact hleaf (.bool true l)
    | falseWord => exact hleaf (.bool false l)
    | undefWord => exact hleaf (.absent l)
    | classWord | defineWord | nodeWord | inheritsWord | ifWord | elsifWord | elseWord
    | unlessWord | caseWord | defaultWord | andWord | orWord => exact .unexpected
  | symbol sign =>
    cases sign with
    | leftBracket =>
      refine .bind (.advance hne) fun _ s₁ h₁ => ?_
      refine .bind (carried_expressionList hinner (by omega) (by omega) (by omega) h₁) ?_
      exact fun _ s₂ h₂ => .pure h₂ rfl
    | leftParen =>
      refine .bind (.advance hne) fun _ s₁ h₁ => ?_
      refine .bind_taking ((hinner s₁ (by omega)).mono (by omega)) fun e s₂ => ?_
      exact .bind (.expect nofun) fun _ _ h₃ => .pure h₃ rfl
    | leftBrace | rightBrace | rightParen | rightBracket | comma | colon | semicolon | assign
    | fatArrow | equal | notEqual | bang | arrow | tildeArrow => exact .unexpected
  | eof => exact .unexpected

end Operands

/-! ### Operators -/

section Operators

variable {operand operand' : Parse Expr}

theorem carried_unary (hoperand : CarriesExpressions x atEnd n operand operand') :
    ∀ {b b' : Nat} {s : TokenStream}, s.tokens.length < n → s.tokens.length < b →
      s.tokens.length < b' →
        Carried x atEnd s.tokens.length s (unary operand b) (unary operand' b')
          (Expr.relocate x.move)
  | 0, _, _, _, hb, _ => absurd hb (Nat.not_lt_zero _)
  | _, 0, _, _, _, hb' => absurd hb' (Nat.not_lt_zero _)
  | b + 1, b' + 1, s, hn, hb, hb' => by
    refine .peek_bind (fun hne => ?_) (fun hnil => (hoperand s hn).of_nil hnil) fun _ => rfl
    by_cases hbang : (front s).kind = .symbol .bang
    · simp only [Token.relocate, hbang, beq_self_eq_true, if_true]
      refine .bind (.advance hne) fun _ s₁ h₁ => ?_
      refine .bind (carried_unary hoperand (by omega) (by omega) (by omega)) fun e s₂ h₂ => ?_
      exact .pure (by omega) rfl
    · simp only [Token.relocate, hbang, beq_iff_eq, if_false]
      exact hoperand s hn

theorem comparisonOp?_eq_none (h : x.Loose) : comparisonOp? (front x.behind).kind = none := by
  have hequal : (front x.behind).kind ≠ .symbol .equal := h.ne (by decide)
  have hnotEqual : (front x.behind).kind ≠ .symbol .notEqual := h.ne (by decide)
  rw [comparisonOp?]
  · exact hequal
  · exact hnotEqual

theorem carriesExpressions_comparison (ho : atEnd → x.Loose)
    (hoperand : CarriesExpressions x atEnd n operand operand') :
    CarriesExpressions x atEnd n (comparison operand) (comparison operand') := by
  intro s hs
  refine .bind (hoperand s hs) fun left s₁ h₁ => ?_
  have hstop : Carried x atEnd s.tokens.length s₁ (pure left) (pure (left.relocate x.move))
      (Expr.relocate x.move) := .pure h₁ rfl
  refine .peek_bind (fun hne => ?_) (fun _ => hstop) fun h => by rw [comparisonOp?_eq_none (ho h)]
  have hkind : ((front s₁).relocate x.move).kind = (front s₁).kind := rfl
  rw [hkind]
  cases comparisonOp? (front s₁).kind with
  | none => exact hstop
  | some op =>
    refine .bind (.advance hne) fun _ s₂ h₂ => ?_
    refine .bind (hoperand s₂ (by omega)) fun right s₃ h₃ => ?_
    exact .pure (by omega) (relocate_binary _ op left right).symm

theorem carried_leftChain {op : BinaryOp} {word : Keyword}
    (hword : atEnd → (front x.behind).kind ≠ .keyword word)
    (hoperand : CarriesExpressions x atEnd n operand operand') :
    ∀ {b b' : Nat} {s : TokenStream} (left : Expr), s.tokens.length < n → s.tokens.length < b →
      s.tokens.length < b' → s.tokens.length < m →
        Carried x atEnd m s (leftChain op word operand b left)
          (leftChain op word operand' b' (left.relocate x.move)) (Expr.relocate x.move)
  | 0, _, _, _, _, hb, _, _ => absurd hb (Nat.not_lt_zero _)
  | _, 0, _, _, _, _, hb', _ => absurd hb' (Nat.not_lt_zero _)
  | b + 1, b' + 1, s, left, hn, hb, hb', hm => by
    refine .eat_bind nofun hword (fun s₁ h₁ => ?_) (.pure hm rfl)
    refine .bind (hoperand s₁ (by omega)) fun right s₂ h₂ => ?_
    rw [← relocate_binary]
    exact carried_leftChain hword hoperand (binary op left right) (by omega) (by omega) (by omega)
      (by omega)

theorem carriesExpressions_joined {op : BinaryOp} {word : Keyword}
    (hword : atEnd → (front x.behind).kind ≠ .keyword word) (hb : n ≤ b) (hb' : n ≤ b')
    (hoperand : CarriesExpressions x atEnd n operand operand') :
    CarriesExpressions x atEnd n (joined op word operand b) (joined op word operand' b') := by
  intro s hs
  refine .bind (hoperand s hs) fun first s₁ h₁ => ?_
  exact carried_leftChain hword hoperand first (by omega) (by omega) (by omega) h₁

end Operators

/-- Expressions are carried from streams that are shorter than both bounds. -/
theorem carriesExpressions : ∀ {b b' : Nat} {atEnd : Prop}, (atEnd → x.Loose) → b ≤ b' →
    CarriesExpressions x atEnd b (expression b) (expression b')
  | 0, _, _, _, _ => fun _ hs => absurd hs (Nat.not_lt_zero _)
  | _ + 1, 0, _, _, hb => absurd hb (Nat.not_succ_le_zero _)
  | b + 1, b' + 1, atEnd, ho, hb => by
    have hb' : b ≤ b' := Nat.le_of_succ_le_succ hb
    have hinner : CarriesExpressions x False b (expression b) (expression b') :=
      carriesExpressions False.elim hb'
    have hprimary := carriesExpressions_primary ho hinner hb'
    refine carriesExpressions_joined (fun h => (ho h).ne (by decide)) (Nat.le_refl _) hb ?_
    refine carriesExpressions_joined (fun h => (ho h).ne (by decide)) (Nat.le_refl _) hb ?_
    refine carriesExpressions_comparison ho fun s hs => ?_
    exact carried_unary hprimary hs hs (Nat.lt_of_lt_of_le hs hb)

end Manifest.Grammar
