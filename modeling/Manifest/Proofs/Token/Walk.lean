import Manifest.Proofs.Token.Seam

/-!
# The walk over a text

A text is read lexeme by lexeme.  The places at which a lexeme begins are those that the walk comes
to; each of them lies behind the one before it, so that no two of them are the same place.  A text
that is refused is refused at such a place, either because no rule matches there or because the
lexeme that begins there has no token.

## Main definitions

* `Location.Before` — the order of the places in a text.
* `Reaches` — the walk over a text comes to a place.

## Main results

* `Reaches.lexFrom_eq` — what is read from a place on is read in the whole text.
* `exists_reaches_of_error` — where a text is refused.
* `Reaches.unique` — a place tells what stands behind it.
* `pairwise_before_of_lex` — the tokens of a text stand in their order.
-/

namespace Manifest

variable {l m : Location} {cs rest : List Char}

/-! ### The order of places -/

/-- One place comes before another one: it is on an earlier line, or further left on the same. -/
def Location.Before (l m : Location) : Prop :=
  l.line < m.line ∨ l.line = m.line ∧ l.column < m.column

namespace Location

theorem Before.trans {k : Location} (h : k.Before l) (h' : l.Before m) : k.Before m := by
  unfold Before at *
  omega

theorem Before.ne (h : l.Before m) : l ≠ m := by
  rintro rfl
  unfold Before at h
  omega

theorem before_after (l : Location) (c : Char) : l.Before (l.after c) := by
  unfold Before after
  split
  · exact .inl (Nat.lt_succ_self _)
  · exact .inr ⟨rfl, Nat.lt_succ_self _⟩

theorem before_afterAll (l : Location) (hcs : cs ≠ []) : l.Before (l.afterAll cs) := by
  induction cs generalizing l with
  | nil => exact absurd rfl hcs
  | cons c cs ih =>
    have hstep : l.afterAll (c :: cs) = (l.after c).afterAll cs := rfl
    rw [hstep]
    by_cases hnil : cs = []
    · rw [hnil]
      exact before_after l c
    · exact (before_after l c).trans (ih (l.after c) hnil)

end Location

/-! ### One lexeme after the other -/

/-- The walk over a text that begins at a place comes to another place, where the rest of the text
is still to be read. -/
inductive Reaches : Location → List Char → Location → List Char → Prop
  | here (l : Location) (cs : List Char) : Reaches l cs l cs
  /-- A lexeme is read first. -/
  | lexeme {l m : Location} {cs rest : List Char} {rule : LexRule} {n : Nat}
    {kind? : Option TokenKind} (first : LexRule.first? cs = some (rule, n))
    (token : rule.token? l (cs.take n) = .ok kind?)
    (walk : Reaches (l.afterAll (cs.take n)) (cs.drop n) m rest) : Reaches l cs m rest

variable {rule : LexRule} {n : Nat} {kind? : Option TokenKind}

theorem take_ne_nil_of_first? (h : LexRule.first? cs = some (rule, n)) : cs.take n ≠ [] := by
  have hne := (LexRule.length_of_first? h).2
  have hle := LexRule.first?_le h
  intro hnil
  have hlength := congrArg List.length hnil
  rw [List.length_take, List.length_nil] at hlength
  omega

/-- Reading goes on behind the first lexeme. -/
theorem lexFrom_of_first? (hfirst : LexRule.first? cs = some (rule, n))
    (htoken : rule.token? l (cs.take n) = .ok kind?) :
    lexFrom l 0 cs =
      (lexFrom (l.afterAll (cs.take n)) 0 (cs.drop n)).map (lexemeTokens l kind? ++ ·) := by
  have htake := take_ne_nil_of_first? hfirst
  have hle := LexRule.first?_le hfirst
  cases cs with
  | nil => exact absurd List.take_nil htake
  | cons c cs =>
    cases n with
    | zero => exact absurd rfl htake
    | succ n =>
      rw [List.length_cons] at hle
      have hskip := lexFrom_append (cs.drop n) (cs.take n) (l.after c)
      have hlength : (cs.take n).length = n := List.length_take_of_le (Nat.le_of_succ_le_succ hle)
      rw [List.take_append_drop, hlength] at hskip
      rw [lexFrom_cons hfirst htoken, Nat.add_sub_cancel, hskip]
      rfl

/-- What is read from a place on is read behind the tokens of what stands before it. -/
theorem Reaches.lexFrom_eq (h : Reaches l cs m rest) :
    ∃ tokens, lexFrom l 0 cs = (lexFrom m 0 rest).map (tokens ++ ·) := by
  induction h with
  | here l cs => exact ⟨[], (congrFun Except.map_id _).symm⟩
  | @lexeme l m cs rest rule n kind? hfirst htoken _ ih =>
    obtain ⟨tokens, htokens⟩ := ih
    refine ⟨lexemeTokens l kind? ++ tokens, ?_⟩
    rw [lexFrom_of_first? hfirst htoken, htokens]
    cases lexFrom m 0 rest with
    | error e => rfl
    | ok read => exact congrArg Except.ok (List.append_assoc ..).symm

/-- The walk goes forwards. -/
theorem Reaches.eq_or_before (h : Reaches l cs m rest) : l = m ∧ cs = rest ∨ l.Before m := by
  induction h with
  | here => exact .inl ⟨rfl, rfl⟩
  | @lexeme l _ _ _ _ _ _ hfirst _ _ ih =>
    have hforward := Location.before_afterAll l (take_ne_nil_of_first? hfirst)
    rcases ih with ⟨rfl, -⟩ | ih
    · exact .inr hforward
    · exact .inr (hforward.trans ih)

/-- The walk comes to a place only once, so that the place tells what stands behind it. -/
theorem Reaches.unique {rest' : List Char} (h : Reaches l cs m rest) (h' : Reaches l cs m rest') :
    rest = rest' := by
  induction h with
  | here l cs =>
    rcases h'.eq_or_before with ⟨-, hcs⟩ | hbefore
    · exact hcs
    · exact absurd rfl hbefore.ne
  | @lexeme l m cs rest rule n kind? hfirst htoken hwalk ih =>
    have hforward := Location.before_afterAll l (take_ne_nil_of_first? hfirst)
    cases h' with
    | here =>
      -- The walk has left the place, and does not come back to it.
      rcases hwalk.eq_or_before with ⟨hsame, -⟩ | hbefore
      · exact absurd hsame.symm hforward.ne
      · exact absurd rfl (hforward.trans hbefore).ne
    | lexeme hfirst' _ hwalk' =>
      rw [hfirst] at hfirst'
      cases hfirst'
      exact ih hwalk'

/-! ### The order of tokens -/

/-- Tokens stand one after the other, none of them before a place. -/
def OrderedFrom (l : Location) (ts : List Token) : Prop :=
  ts.Pairwise (fun t u => t.location.Before u.location) ∧
    ∀ t ∈ ts, t.location = l ∨ l.Before t.location

theorem OrderedFrom.of_before {l m : Location} {ts : List Token} (h : OrderedFrom m ts)
    (hl : l.Before m) : ∀ t ∈ ts, l.Before t.location := by
  intro t ht
  rcases h.2 t ht with heq | hbefore
  · rw [heq]
    exact hl
  · exact hl.trans hbefore

theorem orderedFrom_of_lexFrom : ∀ {cs : List Char} {skip : Nat} {l : Location} {ts : List Token},
    lexFrom l skip cs = .ok ts → OrderedFrom l ts
  | [], _, l, ts, h => by
    rw [lexFrom] at h
    cases h
    exact ⟨List.pairwise_singleton _ _, List.forall_mem_singleton.mpr (.inl rfl)⟩
  | c :: cs, skip + 1, l, ts, h => by
    rw [lexFrom] at h
    have hmore := orderedFrom_of_lexFrom h
    exact ⟨hmore.1, fun t ht => .inr (hmore.of_before (l.before_after c) t ht)⟩
  | c :: cs, 0, l, ts, h => by
    obtain ⟨rule, n, kind?, tokens, -, -, hmore, rfl⟩ := lexFrom_cons_eq_ok h
    have hmore := orderedFrom_of_lexFrom hmore
    have hbehind := hmore.of_before (l.before_after c)
    cases kind? with
    | none => exact ⟨hmore.1, fun t ht => .inr (hbehind t ht)⟩
    | some kind =>
      exact ⟨List.pairwise_cons.mpr ⟨hbehind, hmore.1⟩,
        List.forall_mem_cons.mpr ⟨.inl rfl, fun t ht => .inr (hbehind t ht)⟩⟩

/-- The tokens of a text stand in their order. -/
theorem pairwise_before_of_lex {file text : String} {ts : List Token}
    (h : lex file text = .ok ts) : ts.Pairwise fun t u => t.location.Before u.location :=
  (orderedFrom_of_lexFrom h).1

/-! ### Where a text is refused -/

/-- At the first character of a text no rule matches, or the lexeme has no token. -/
inductive RefusedAt (l : Location) : List Char → ParseError → Prop
  | unmatched {c : Char} {rest : List Char} (none : LexRule.first? (c :: rest) = none) :
    RefusedAt l (c :: rest) (unmatched l c rest)
  | token {cs : List Char} {rule : LexRule} {n : Nat} {e : ParseError}
    (first : LexRule.first? cs = some (rule, n)) (error : rule.token? l (cs.take n) = .error e) :
    RefusedAt l cs e

theorem RefusedAt.lexFrom_eq {e : ParseError} (h : RefusedAt l cs e) :
    lexFrom l 0 cs = .error e := by
  cases h with
  | unmatched hnone => rw [lexFrom, hnone]
  | token hfirst herror =>
    have htake := take_ne_nil_of_first? hfirst
    cases cs with
    | nil => exact absurd List.take_nil htake
    | cons c cs =>
      rw [lexFrom, hfirst]
      simp only [herror]

/-- A text that is refused is refused at a place that the walk comes to. -/
theorem exists_reaches_of_error {e : ParseError} (h : lexFrom l 0 cs = .error e) :
    ∃ m rest, Reaches l cs m rest ∧ RefusedAt m rest e := by
  induction hlength : cs.length using Nat.strong_induction_on generalizing l cs with
  | _ length ih =>
    cases cs with
    | nil => cases h
    | cons c cs =>
      cases hfirst : LexRule.first? (c :: cs) with
      | none =>
        rw [lexFrom, hfirst] at h
        cases h
        exact ⟨l, c :: cs, .here _ _, .unmatched hfirst⟩
      | some found =>
        obtain ⟨rule, n⟩ := found
        cases htoken : rule.token? l ((c :: cs).take n) with
        | error e' =>
          have hrefused : RefusedAt l (c :: cs) e' := .token hfirst htoken
          rw [hrefused.lexFrom_eq] at h
          cases h
          exact ⟨l, c :: cs, .here _ _, hrefused⟩
        | ok kind? =>
          rw [lexFrom_of_first? hfirst htoken] at h
          cases hmore : lexFrom (l.afterAll ((c :: cs).take n)) 0 ((c :: cs).drop n) with
          | ok tokens =>
            rw [hmore] at h
            cases h
          | error e' =>
            rw [hmore] at h
            cases h
            -- The lexeme is not empty, so that less is left behind it.
            have hn := (LexRule.length_of_first? hfirst).2
            have hshorter : ((c :: cs).drop n).length < length := by
              rw [List.length_drop, hlength]
              rw [List.length_cons] at hlength
              omega
            obtain ⟨m, rest, hwalk, hrefused⟩ := ih _ hshorter hmore rfl
            exact ⟨m, rest, .lexeme hfirst htoken hwalk, hrefused⟩

end Manifest
