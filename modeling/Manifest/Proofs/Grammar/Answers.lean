import Manifest.Grammar.Expression
import Manifest.Proofs.Grammar.Parse
import Manifest.Proofs.Grammar.Written

/-!
# What readers answer

A reader is followed through its steps without a look at the stream: what it answers has a property
whatever the tokens are.  The items of a list are read one after the other, each with those before
it at hand, and so a property of the list as far as it has been read is carried along.

In the grammar of expressions there are no chains of relationships.

## Main definitions

* `Grammar.Answers` — what a reader answers has a property.

## Main results

* `Grammar.Answers.bind`, `Grammar.Answers.list` and the like — one step after another.
* `Grammar.answers_expression` — there are no chains of relationships in an expression that is read.
-/

namespace Manifest.Grammar

variable {α β : Type} {P : α → Prop} {Q : β → Prop} {p : Parse α} {f : α → Parse β}

/-- Whatever a reader answers has a property. -/
def Answers (P : α → Prop) (p : Parse α) : Prop := ∀ s a s', p s = .ok (a, s') → P a

namespace Answers

theorem any (p : Parse α) : Answers (fun _ => True) p := fun _ _ _ _ => trivial

theorem pure {a : α} (h : P a) : Answers P (pure a) := by
  rintro s _ s' ⟨⟩
  exact h

theorem unexpected {e : Expectation} : Answers P (Grammar.unexpected e) := nofun

theorem throw {e : ParseError} : Answers P (throw e : Parse α) := nofun

theorem mono {R : α → Prop} (hp : Answers P p) (h : ∀ a, P a → R a) : Answers R p :=
  fun s a s' ha => h a (hp s a s' ha)

theorem bind (hp : Answers P p) (hf : ∀ a, P a → Answers Q (f a)) : Answers Q (p >>= f) := by
  intro s b s' h
  obtain ⟨a, t, ha, hb⟩ := bind_eq_ok_iff.mp h
  exact hf a (hp s a t ha) t b s' hb

/-- What comes after a reader whatever it answers. -/
theorem after (hf : ∀ a, Answers Q (f a)) : Answers Q (p >>= f) := (any p).bind fun a _ => hf a

theorem ite {c : Prop} [Decidable c] {q : Parse α} (hp : Answers P p) (hq : Answers P q) :
    Answers P (if c then p else q) := by
  split
  · exact hp
  · exact hq

/-! ### Lists -/

/-- Each item keeps what holds of those before it. -/
theorem separatedList {separator : Symbol} {stops : TokenKind → Bool} {item : List α → Parse α}
    {R : List α → Prop}
    (hitem : ∀ found, R found → Answers (fun a => R (found ++ [a])) (item found)) :
    ∀ (bound : Nat) {found : List α}, R found →
      Answers R (separatedList separator stops item bound found)
  | 0, _, h => .pure h
  | bound + 1, found, h => by
    refine .after fun token => .ite (.pure h) ?_
    refine (hitem found h).bind fun next hnext => ?_
    exact .after fun more => .ite (separatedList hitem bound hnext) (.pure hnext)

theorem enclosedList {close : Symbol} {item : List α → Parse α} {R : List α → Prop}
    (hitem : ∀ found, R found → Answers (fun a => R (found ++ [a])) (item found)) (h : R [])
    (bound : Nat) : Answers R (enclosedList close item bound) :=
  (separatedList hitem bound h).bind fun _ h => .after fun _ => .pure h

/-- Items that do not depend on those before them. -/
theorem list {separator : Symbol} {stops : TokenKind → Bool} {item : Parse α}
    (hitem : Answers P item) (bound : Nat) :
    Answers (fun as => ∀ a ∈ as, P a)
      (Grammar.separatedList separator stops (fun _ => item) bound []) :=
  separatedList (fun _ hfound => hitem.mono fun _ ha =>
    List.forall_mem_append.mpr ⟨hfound, List.forall_mem_singleton.mpr ha⟩) bound nofun

end Answers

/-! ### Expressions -/

variable {inner operand : Parse Expr}

theorem answers_expressionList (h : Answers Expr.Plain inner) (close : Symbol) (bound : Nat) :
    Answers AllPlain (expressionList inner close bound) :=
  (Answers.list h bound).bind fun _ hes => .after fun _ => .pure (allPlain_iff.mpr hes)

theorem answers_primary (h : Answers Expr.Plain inner) (bound : Nat) :
    Answers Expr.Plain (primary inner bound) := by
  refine .after fun token => ?_
  obtain ⟨kind, l⟩ := token
  cases kind with
  | string text => exact .after fun _ => .pure trivial
  | template parts => exact .after fun _ => .pure trivial
  | integer value => exact .after fun _ => .pure trivial
  | variableName name => exact .after fun _ => .pure trivial
  | typeName type =>
    refine .after fun _ => .after fun found => .ite ?_ (.pure trivial)
    exact (answers_expressionList h _ _).bind fun _ hes => .pure hes
  | name name =>
    refine .after fun _ => .after fun found => .ite ?_ (.pure trivial)
    exact (answers_expressionList h _ _).bind fun _ hes => .pure hes
  | keyword word =>
    cases word with
    | trueWord | falseWord | undefWord => exact .after fun _ => .pure trivial
    | classWord | defineWord | nodeWord | inheritsWord | ifWord | elsifWord | elseWord
    | unlessWord | caseWord | defaultWord | andWord | orWord => exact .unexpected
  | symbol sign =>
    cases sign with
    | leftBracket =>
      exact .after fun _ => (answers_expressionList h _ _).bind fun _ hes => .pure hes
    | leftParen => exact .after fun _ => h.bind fun _ he => .after fun _ => .pure he
    | leftBrace | rightBrace | rightParen | rightBracket | comma | colon | semicolon | assign
    | fatArrow | equal | notEqual | bang | arrow | tildeArrow => exact .unexpected
  | eof => exact .unexpected

theorem answers_unary (h : Answers Expr.Plain operand) :
    ∀ bound, Answers Expr.Plain (unary operand bound)
  | 0 => h
  | bound + 1 => by
    refine .after fun token => .ite ?_ h
    exact .after fun _ => (answers_unary h bound).bind fun _ he => .pure he

theorem answers_comparison (h : Answers Expr.Plain operand) :
    Answers Expr.Plain (comparison operand) := by
  refine h.bind fun left hleft => .after fun token => ?_
  cases comparisonOp? token.kind with
  | none => exact .pure hleft
  | some op => exact .after fun _ => h.bind fun _ hright => .pure ⟨hleft, hright⟩

theorem answers_leftChain {op : BinaryOp} {word : Keyword} (h : Answers Expr.Plain operand) :
    ∀ (bound : Nat) {left : Expr}, left.Plain →
      Answers Expr.Plain (leftChain op word operand bound left)
  | 0, _, hleft => .pure hleft
  | bound + 1, left, hleft => by
    refine .after fun found => .ite ?_ (.pure hleft)
    exact h.bind fun right hright => answers_leftChain h bound ⟨hleft, hright⟩

theorem answers_joined {op : BinaryOp} {word : Keyword} (h : Answers Expr.Plain operand)
    (bound : Nat) : Answers Expr.Plain (joined op word operand bound) :=
  h.bind fun _ hfirst => answers_leftChain h bound hfirst

theorem answers_expression : ∀ bound, Answers Expr.Plain (expression bound)
  | 0 => .unexpected
  | bound + 1 =>
    answers_joined (answers_joined (answers_comparison
      (answers_unary (answers_primary (answers_expression bound) _) _)) _) _

end Manifest.Grammar
