import Manifest.Proofs.Grammar.Bare
import Manifest.Proofs.Grammar.Written

/-!
# Written expressions are read back

The grammar has a reader for each rank of expressions.  It is shown by induction on an expression
that the reader for its own rank reads its tokens, and from there that every reader does so for the
tokens at its rank: a looser reader asks a tighter one, and finds nothing behind it to go on with;
a tighter one finds parentheses.

Operators that group to the left are read in a loop.  So what is said of the two loosest ranks is
how the loop has gone on once the tokens of an expression are taken away.

## Main definitions

* `Ends` — the tokens that cannot go on an expression.
* `level` — the reader for a rank.
* `ReadsAt` — the reader for a rank takes the tokens of an expression away.
* `Expr.ReadBack` — each reader reads an expression at its rank.

## Main results

* `ReadsAt.lower` — from one rank to the one below.
* `Expr.reads` — written expressions are read back.
-/

namespace Manifest

open Grammar

/-! ### What stands behind an expression -/

/-- A token that cannot go on an expression of some rank. -/
def Ends (r : Nat) (k : TokenKind) : Prop :=
  k ≠ .symbol .leftParen ∧ k ≠ .symbol .leftBracket ∧ (r ≤ 2 → comparisonOp? k = none) ∧
    (r ≤ 1 → k ≠ .keyword .andWord) ∧ (r = 0 → k ≠ .keyword .orWord)

theorem Ends.mono {r r' : Nat} {k : TokenKind} (h : Ends r k) (hr : r ≤ r') : Ends r' k :=
  ⟨h.1, h.2.1, fun h' => h.2.2.1 (Nat.le_trans hr h'), fun h' => h.2.2.2.1 (Nat.le_trans hr h'),
    fun h' => h.2.2.2.2 (by omega)⟩

/-! ### The reader for a rank -/

/-- Reads an expression that needs no operator. -/
def atom (b : Nat) : Parse Expr := primary (expression b) (b + 1)

/-- Reads an expression that is at least as tight as a negation. -/
def negated (b : Nat) : Parse Expr := unary (atom b) (b + 1)

/-- Reads an expression that is at least as tight as a comparison. -/
def compared (b : Nat) : Parse Expr := comparison (negated b)

/-- Reads an expression that is at least as tight as `and`. -/
def conjoined (b : Nat) : Parse Expr := joined .and .andWord (compared b) (b + 1)

/-- The reader for expressions of a rank, where `b + 1` bounds the nesting. -/
def level (b : Nat) : Nat → Parse Expr
  | 0 => expression (b + 1)
  | 1 => conjoined b
  | 2 => compared b
  | 3 => negated b
  | _ => atom b

/-- The loop of an operator that groups to the left has taken the tokens of an expression away, in
some rounds. -/
def Chains (op : BinaryOp) (word : Keyword) (operand : Parse Expr) (r : Nat)
    (ks : List TokenKind) (e : Expr) : Prop :=
  ∀ s s', s.Spells ks s' → Ends (r + 1) (front s').kind → ∃ e' n, e'.bare = e.bare ∧
    n ≤ ks.length ∧ ∀ rounds, joined op word operand (rounds + n) s =
      leftChain op word operand rounds e' s'

/-- The reader for a rank takes the tokens of an expression away and answers that expression. -/
def ReadsAt (b : Nat) (ks : List TokenKind) (e : Expr) : Nat → Prop
  | 0 => Chains .or .orWord (conjoined b) 0 ks e
  | 1 => Chains .and .andWord (compared b) 1 ks e
  | 2 => Reads (compared b) ks (Ends 2) (fun e' => e'.bare = e.bare)
  | 3 => ∀ n, ks.length ≤ n + 1 →
    Reads (unary (atom b) n) ks (Ends 3) (fun e' => e'.bare = e.bare)
  | _ => Reads (atom b) ks (Ends 4) (fun e' => e'.bare = e.bare)

variable {b : Nat} {ks : List TokenKind} {e : Expr}

theorem leftChain_of_ne {op : BinaryOp} {word : Keyword} {operand : Parse Expr}
    {s : TokenStream} (h : (front s).kind ≠ .keyword word) (left : Expr) :
    ∀ rounds, leftChain op word operand rounds left s = .ok (left, s)
  | 0 => rfl
  | rounds + 1 => by
    rw [leftChain, bind_of_ok (eat_of_ne h)]
    rfl

/-- Where the loop cannot go on, what it has read is the whole. -/
theorem Chains.reads {op : BinaryOp} {word : Keyword} {operand : Parse Expr} {r : Nat}
    (h : Chains op word operand r ks e) (hword : ∀ k, Ends r k → k ≠ .keyword word)
    (hb : ks.length ≤ b + 1) :
    Reads (joined op word operand (b + 1)) ks (Ends r) (fun e' => e'.bare = e.bare) := by
  intro s s' hs hk
  obtain ⟨e', n, hbare, hn, hjoined⟩ := h s s' hs (hk.mono (Nat.le_succ r))
  obtain ⟨rounds, hrounds⟩ := Nat.exists_eq_add_of_le' (Nat.le_trans hn hb)
  refine ⟨e', ?_, hbare⟩
  rw [hrounds, hjoined, leftChain_of_ne (hword _ hk)]

/-- One operand alone takes no round of the loop. -/
theorem chains_of_reads {op : BinaryOp} {word : Keyword} {operand : Parse Expr} {r : Nat}
    (h : Reads operand ks (Ends (r + 1)) (fun e' => e'.bare = e.bare)) :
    Chains op word operand r ks e := by
  intro s s' hs hk
  obtain ⟨e', he', hbare⟩ := h s s' hs hk
  exact ⟨e', 0, hbare, Nat.zero_le _, fun rounds => bind_of_ok he' _⟩

/-- One more operand takes one more round of the loop. -/
theorem Chains.snoc {op : BinaryOp} {word : Keyword} {operand : Parse Expr} {r : Nat}
    {ks' : List TokenKind} {e' : Expr} (h : Chains op word operand r ks e)
    (hword : Ends (r + 1) (.keyword word))
    (hoperand : Reads operand ks' (Ends (r + 1)) (fun e'' => e''.bare = e'.bare))
    (location : Location) :
    Chains op word operand r (ks ++ .keyword word :: ks') (.binary op e e' location) := by
  intro s s' hs hk
  obtain ⟨t, hfirst, hs⟩ := TokenStream.spells_append_iff.mp hs
  obtain ⟨token, t', hkind, rfl, hsecond⟩ := TokenStream.spells_cons_iff.mp hs
  obtain ⟨left, n, hleft, hn, hjoined⟩ := h s _ hfirst (by
    rw [front, List.head?_cons, Option.getD_some, hkind]
    exact hword)
  obtain ⟨right, hread, hright⟩ := hoperand t' s' hsecond hk
  refine ⟨Grammar.binary op left right, n + 1, ?_, ?_, fun rounds => ?_⟩
  · rw [Grammar.binary, Expr.bare, Expr.bare, hleft, hright]
  · rw [List.length_append, List.length_cons]
    omega
  · rw [← Nat.add_assoc, Nat.add_right_comm, hjoined, leftChain,
      bind_of_ok (eat_cons hkind t')]
    exact bind_of_ok hread _

/-! ### From one rank to the others -/

/-- The reader for a rank, once the room that it has is known to be enough. -/
theorem ReadsAt.reads {r : Nat} (hr : r ≤ 4) (h : ReadsAt b ks e r) (hb : ks.length ≤ b + 1) :
    Reads (level b r) ks (Ends r) (fun e' => e'.bare = e.bare) := by
  match r, hr with
  | 0, _ => exact Chains.reads h (fun k hk => hk.2.2.2.2 rfl) hb
  | 1, _ => exact Chains.reads h (fun k hk => hk.2.2.2.1 (Nat.le_refl 1)) hb
  | 2, _ => exact h
  | 3, _ => exact h (b + 1) (Nat.le_succ_of_le hb)
  | 4, _ => exact h

/-- What a reader reads, the one for the rank below reads too: it finds nothing to go on with. -/
theorem ReadsAt.lower {r : Nat} (hr : r < 4) (h : ReadsAt b ks e (r + 1))
    (hb : ks.length ≤ b + 1) (hbang : r = 3 → Meets (· ≠ .symbol .bang) ks fun _ => True) :
    ReadsAt b ks e r := by
  match r, hr with
  | 0, _ => exact chains_of_reads (h.reads (by decide) hb)
  | 1, _ => exact chains_of_reads (h.reads (by decide) hb)
  | 2, _ =>
    refine (h.reads (by decide) hb).bind_nil (fun k hk => hk.mono (by decide)) fun e' he' => ?_
    refine .peek_bind (P := fun k => comparisonOp? k = none)
      (fun k hk => hk.2.2.1 (Nat.le_refl 2)) fun token htoken => ?_
    simp only [htoken]
    exact .pure he'
  | 3, _ =>
    intro n _
    have hatom : Reads (atom b) ks (Ends 3) (fun e' => e'.bare = e.bare) :=
      Reads.mono h (fun k hk => hk.mono (by decide)) fun _ => id
    cases n with
    | zero => exact hatom
    | succ n =>
      rw [unary]
      refine .peek_bind ((hbang rfl).mono fun _ _ => trivial) fun token htoken => ?_
      rw [if_neg (by simpa using htoken)]
      exact hatom

theorem ReadsAt.lowerTo {r r' : Nat} (hr : r ≤ r') (hr' : r' ≤ 4) (h : ReadsAt b ks e r')
    (hb : ks.length ≤ b + 1) (hbang : r' = 4 → Meets (· ≠ .symbol .bang) ks fun _ => True) :
    ReadsAt b ks e r := by
  induction hr with
  | refl => exact h
  | step _ ih =>
    exact ih (by omega) (h.lower (by omega) hb fun h3 => hbang (by omega)) fun h4 => by omega

/-- An expression in parentheses. -/
theorem ReadsAt.parentheses (h : ReadsAt b ks e 0) (hb : ks.length ≤ b + 1) :
    ReadsAt (b + 1) (.symbol .leftParen :: (ks ++ [.symbol .rightParen])) e 4 := by
  have hinner := h.reads (Nat.zero_le 4) hb
  have hends : Ends 0 (.symbol .rightParen) := by simp [Ends, comparisonOp?]
  refine .peek_cons_bind fun token htoken => ?_
  simp only [htoken]
  refine .advance_bind fun _ _ => hinner.bind hends fun e' he' => ?_
  exact .expect_bind fun _ _ => .pure he'

/-- Each reader reads the tokens of an expression at its rank. -/
def Expr.ReadBack (e : Expr) : Prop :=
  ∀ b r, r ≤ 4 → (e.tokensAt r).length ≤ b + 1 → ReadsAt b (e.tokensAt r) e r

/-- It is enough that the reader for the rank of an expression reads its tokens. -/
theorem readBack_of_rank (hplain : e.Plain)
    (h : ∀ b, e.tokens.length ≤ b + 1 → ReadsAt b e.tokens e e.rank) : e.ReadBack := by
  intro b r hr hb
  have hbang := fun hrank => Expr.meets_ne_bang hplain hrank
  rw [Expr.tokensAt, grouped] at hb ⊢
  by_cases hlt : e.rank < r
  · -- Too loose for its place, the expression stands in parentheses.
    rw [if_pos (decide_eq_true hlt)] at hb ⊢
    rw [List.length_cons, List.length_append, List.length_singleton] at hb
    obtain ⟨b, rfl⟩ : ∃ b', b = b' + 1 := ⟨b - 1, by omega⟩
    have hloosest := (h b (by omega)).lowerTo (Nat.zero_le _) e.rank_le (by omega) hbang
    refine (hloosest.parentheses (by omega)).lowerTo hr (Nat.le_refl 4) ?_ fun _ => ?_
    · rw [List.length_cons, List.length_append, List.length_singleton]
      omega
    · simp [Meets]
  · rw [if_neg (by simpa using hlt)] at hb ⊢
    exact (h b hb).lowerTo (Nat.le_of_not_lt hlt) e.rank_le hb hbang

theorem Expr.ReadBack.reads (h : e.ReadBack) (hplain : e.Plain) (hb : e.tokens.length ≤ b) :
    Reads (expression b) e.tokens (Ends 0) (fun e' => e'.bare = e.bare) := by
  have hpos := Expr.length_tokens_pos hplain
  obtain ⟨b, rfl⟩ : ∃ b', b = b' + 1 := ⟨b - 1, by omega⟩
  exact (h b 0 (Nat.zero_le 4) hb).reads (Nat.zero_le 4) hb

/-! ### Lists of expressions -/

theorem reads_expressions {es : List Expr} (close : Symbol) (hread : ∀ e ∈ es, e.ReadBack)
    (hplain : AllPlain es) (hends : Ends 0 (.symbol close))
    (hclose : close ≠ .comma ∧ beginsExpression (.symbol close) = false) (bound : Nat)
    (hb : (separated .comma (eachTokens es)).length ≤ b)
    (hbound : (separated .comma (eachTokens es)).length < bound) (next : TokenKind → Prop) :
    Reads (expressionList (expression b) close bound)
      (separated .comma (eachTokens es) ++ [.symbol close]) next
      (fun es' => bareAll es' = bareAll es) := by
  rw [allPlain_iff] at hplain
  rw [eachTokens_eq_map] at hb hbound ⊢
  simp only [bareAll_eq_map]
  refine Reads.enclosedList next hclose.1 ?_ (fun e he => ?_) hbound
  · intro before e after hes found _
    have he : e ∈ es := by simp [hes]
    have hlength := length_le_separated .comma (List.mem_map_of_mem (f := Expr.tokens) he)
    refine ((hread e he).reads (hplain e he) (Nat.le_trans hlength hb)).mono ?_ fun _ => id
    rintro k (rfl | rfl)
    · simp [Ends, comparisonOp?]
    · exact hends
  · refine (e.meets_tokens (hplain e he)).imp fun k hk => ?_
    rintro rfl
    rw [hclose.2] at hk
    cases hk

/-! ### Every expression -/

theorem readsAt_not {operand : Expr} (h : operand.ReadBack) (hplain : operand.Plain)
    (location : Location) (hb : (Expr.not operand location).tokens.length ≤ b + 1) :
    ReadsAt b (Expr.not operand location).tokens (.not operand location) 3 := by
  -- Each sign takes one round, so there is a round less left for the operand.
  intro n hn
  rw [Expr.tokens, ← Expr.tokensAt] at hb hn ⊢
  rw [List.length_cons] at hb hn
  have hpos := Expr.length_tokensAt_pos hplain 3
  obtain ⟨n, rfl⟩ : ∃ n', n = n' + 1 := ⟨n - 1, by omega⟩
  rw [unary]
  refine .peek_cons_bind fun token htoken => ?_
  rw [if_pos (by simp [htoken])]
  refine .advance_bind fun _ _ => ?_
  refine (h b 3 (by decide) (by omega) n (by omega)).bind_nil (fun _ => id) fun e he => ?_
  exact .pure (by rw [Expr.bare, Expr.bare, he])

/-- A comparison is read from its two sides, neither of which is one. -/
theorem reads_comparison {op : BinaryOp} {left right : Expr}
    (hop : comparisonOp? op.token = some op)
    (hleft : left.ReadBack) (hright : right.ReadBack) (location : Location)
    (hb : (left.tokensAt 3 ++ op.token :: right.tokensAt 3).length ≤ b + 1) :
    Reads (compared b) (left.tokensAt 3 ++ op.token :: right.tokensAt 3) (Ends 2)
      (fun e' => e'.bare = (Expr.binary op left right location).bare) := by
  rw [List.length_append, List.length_cons] at hb
  have hends : Ends 3 op.token := by cases op <;> simp [Ends, BinaryOp.token]
  have hreadLeft := (hleft b 3 (by decide) (by omega)).reads (by decide) (by omega)
  have hreadRight := (hright b 3 (by decide) (by omega)).reads (by decide) (by omega)
  refine hreadLeft.bind hends fun e he => ?_
  refine .peek_cons_bind fun token htoken => ?_
  simp only [htoken, hop]
  refine .advance_bind fun _ _ => ?_
  refine hreadRight.bind_nil (fun k hk => hk.mono (by decide)) fun e' he' => ?_
  exact .pure (by rw [Grammar.binary, Expr.bare, Expr.bare, he, he'])

theorem readsAt_binary {op : BinaryOp} {left right : Expr} (hleft : left.ReadBack)
    (hright : right.ReadBack) (location : Location)
    (hb : (Expr.binary op left right location).tokens.length ≤ b + 1) :
    ReadsAt b (Expr.binary op left right location).tokens (.binary op left right location)
      op.rank := by
  rw [Expr.tokens, ← Expr.tokensAt, ← Expr.tokensAt] at hb ⊢
  have hlength := hb
  rw [List.length_append, List.length_cons] at hlength
  have hreadLeft := hleft b op.leftRank (by cases op <;> decide) (by omega)
  have hreadRight := (hright b op.rightRank (by cases op <;> decide) (by omega)).reads
    (by cases op <;> decide) (by omega)
  cases op with
  | equal => exact reads_comparison rfl hleft hright location hb
  | notEqual => exact reads_comparison rfl hleft hright location hb
  | and => exact Chains.snoc hreadLeft (by simp [Ends, comparisonOp?]) hreadRight location
  | or => exact Chains.snoc hreadLeft (by simp [Ends, comparisonOp?]) hreadRight location

mutual

/-- Each reader reads the tokens of an expression at its rank. -/
theorem Expr.readBack : ∀ e : Expr, e.Plain → e.ReadBack
  | .string .., h | .template .., h | .integer .., h | .absent _, h | .variableRead .., h =>
    readBack_of_rank h fun b _ => by
      refine .peek_cons_bind fun token htoken => ?_
      simp only [htoken]
      exact .advance_bind fun _ _ => .pure rfl
  | .bool value l, h => readBack_of_rank h fun b _ => by
    cases value <;>
    · refine .peek_cons_bind fun token htoken => ?_
      simp only [htoken]
      exact .advance_bind fun _ _ => .pure rfl
  | .bareword text l, h => readBack_of_rank h fun b _ => by
    rw [Expr.tokens, wordToken]
    -- Words are names or keywords, and are told apart by their tokens.
    split
    · refine .peek_cons_bind fun token htoken => ?_
      simp only [htoken]
      exact .advance_bind fun _ _ => .eat_bind_of_ne (fun k hk => hk.2.1) (.pure rfl)
    · refine .peek_cons_bind fun token htoken => ?_
      simp only [htoken]
      exact .advance_bind fun _ _ => .eat_bind_of_ne (fun k hk => hk.1) (.pure rfl)
  | .array items l, h => readBack_of_rank h fun b hb => by
    rw [Expr.tokens] at hb ⊢
    rw [List.length_cons, List.length_append, List.length_singleton] at hb
    have hlist := reads_expressions .rightBracket (readBack_of_mem items h) h
      (by simp [Ends, comparisonOp?]) (by decide) (b + 1) (show _ ≤ b by omega) (by omega) (Ends 4)
    refine .peek_cons_bind fun token htoken => ?_
    simp only [htoken]
    refine .advance_bind fun _ _ => hlist.bind_nil (fun _ => id) fun items' hitems => .pure ?_
    rw [Expr.bare, Expr.bare, hitems]
  | .reference typeName titles l, h => readBack_of_rank h fun b hb => by
    rw [Expr.tokens] at hb ⊢
    rw [List.length_cons, List.length_cons, List.length_append, List.length_singleton] at hb
    have hlist := reads_expressions .rightBracket (readBack_of_mem titles h) h
      (by simp [Ends, comparisonOp?]) (by decide) (b + 1) (show _ ≤ b by omega) (by omega) (Ends 4)
    refine .peek_cons_bind fun token htoken => ?_
    simp only [htoken]
    refine .advance_bind fun _ _ => .eat_bind ?_
    refine hlist.bind_nil (fun _ => id) fun titles' htitles => .pure ?_
    rw [Expr.bare, Expr.bare, htitles]
  | .not operand l, h => readBack_of_rank h fun b hb => readsAt_not (operand.readBack h) h l hb
  | .binary op left right l, h => readBack_of_rank h fun b hb =>
    readsAt_binary (left.readBack h.1) (right.readBack h.2) l hb
  | .call function args l, h => readBack_of_rank h fun b hb => by
    rw [Expr.tokens] at hb ⊢
    rw [List.length_cons, List.length_cons, List.length_append, List.length_singleton] at hb
    have hlist := reads_expressions .rightParen (readBack_of_mem args h) h
      (by simp [Ends, comparisonOp?]) (by decide) (b + 1) (show _ ≤ b by omega) (by omega) (Ends 4)
    refine .peek_cons_bind fun token htoken => ?_
    simp only [htoken]
    refine .advance_bind fun _ _ => .eat_bind ?_
    refine hlist.bind_nil (fun _ => id) fun args' hargs => .pure ?_
    rw [Expr.bare, Expr.bare, hargs]
  | .relationship .., h => h.elim

theorem readBack_of_mem : ∀ es : List Expr, AllPlain es → ∀ e ∈ es, e.ReadBack
  | [], _ => List.forall_mem_nil _
  | e :: rest, h => List.forall_mem_cons.mpr ⟨e.readBack h.1, readBack_of_mem rest h.2⟩

end

/-- A written expression is read back. -/
theorem Expr.reads (h : e.Plain) (hb : e.tokens.length ≤ b) :
    Reads (expression b) e.tokens (Ends 0) (fun e' => e'.bare = e.bare) :=
  (e.readBack h).reads h hb

end Manifest
