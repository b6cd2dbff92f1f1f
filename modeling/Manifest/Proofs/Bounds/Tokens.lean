import Manifest.Grammar.Stream

/-!
# Tokens by their numbers

The grammar reads a stream from its front.  Here the tokens stay in an array, with the number of
the next one: looking ahead never goes behind the last token, and taking a token away moves on
unless it is the last one.  An access with any other number fails.

None does, whatever is looked at and taken away, for any tokens: the end of input is put behind them
if it is not there, so there is a last one.  Until the first end of input the array shows what the
stream holds.  Behind it, where an array that no text has may go on, the stream ends, and the
grammar takes no end of input away.

## Main definitions

* `Cursor` — tokens in an array with the number of the next one.
* `Cursor.peek?`, `Cursor.advance?` — looking and taking, which may fail.
* `Cursor.Shows` — what the array shows is what a stream holds.

## Main results

* `Cursor.Shows.peek?`, `Cursor.Shows.advance?` — looking at the array and taking from it is looking
  at the stream and taking from it.
* `Cursor.exists_skip?` — no access fails, whatever has been taken away.
-/

namespace Manifest

open Grammar

/-- Tokens in an array with the number of the next one. -/
structure Cursor where
  tokens : Array Token
  position : Nat

namespace Cursor

variable {c : Cursor} {s : TokenStream}

/-- The end of input behind tokens that do not have it. -/
def ending (file : String) (tokens : List Token) : List Token :=
  match tokens.getLast? with
  | some last => if last.kind = .eof then [] else [⟨.eof, last.location⟩]
  | none => [⟨.eof, ⟨file, 1, 1⟩⟩]

/-- Tokens to be read from the beginning. -/
def new (file : String) (tokens : List Token) : Cursor :=
  ⟨(tokens ++ ending file tokens).toArray, 0⟩

/-- The token so many tokens ahead, or the last one. -/
def peek? (c : Cursor) (ahead : Nat) : Option Token :=
  if c.tokens.size = 0 then none
  else c.tokens[min (c.position + ahead) (c.tokens.size - 1)]?

/-- Takes the next token away, unless it is the last one. -/
def advance? (c : Cursor) : Option (Token × Cursor) := do
  let token ← c.peek? 0
  if c.position < c.tokens.size - 1 then return (token, { c with position := c.position + 1 })
  else return (token, c)

/-- Takes so many tokens away. -/
def skip? : Nat → Cursor → Option Cursor
  | 0, c => some c
  | n + 1, c => do
    let (_, c) ← c.advance?
    skip? n c

/-! ### Accesses -/

/-- The next token is there. -/
def InRange (c : Cursor) : Prop := c.position < c.tokens.size

/-- Looking ahead succeeds, however far. -/
theorem InRange.peek? (h : c.InRange) (ahead : Nat) : ∃ token, c.peek? ahead = some token := by
  have hsize : c.tokens.size ≠ 0 := Nat.ne_of_gt (Nat.zero_lt_of_lt h)
  have hlt : min (c.position + ahead) (c.tokens.size - 1) < c.tokens.size := by
    omega
  rw [Cursor.peek?, if_neg hsize, Array.getElem?_eq_getElem hlt]
  exact ⟨_, rfl⟩

/-- Taking a token away succeeds, and the next one is there again. -/
theorem InRange.advance? (h : c.InRange) :
    ∃ token c', c.advance? = some (token, c') ∧ c'.InRange := by
  obtain ⟨token, hpeek⟩ := h.peek? 0
  unfold Cursor.advance?
  rw [hpeek]
  by_cases hlast : c.position < c.tokens.size - 1
  · refine ⟨_, { c with position := c.position + 1 }, if_pos hlast, ?_⟩
    exact Nat.add_lt_of_lt_sub hlast
  · exact ⟨_, c, if_neg hlast, h⟩

theorem InRange.skip? : ∀ (n : Nat) {c : Cursor}, c.InRange →
    ∃ c', c.skip? n = some c' ∧ c'.InRange
  | 0, c, h => ⟨c, rfl, h⟩
  | n + 1, c, h => by
    obtain ⟨token, c₁, hadvance, h₁⟩ := h.advance?
    obtain ⟨c₂, hskip, h₂⟩ := InRange.skip? n h₁
    refine ⟨c₂, ?_, h₂⟩
    rw [Cursor.skip?, hadvance]
    exact hskip

/-! ### The stream -/

/-- What is left in the array begins with what a stream holds and an end of input. -/
def Shows (c : Cursor) (s : TokenStream) : Prop :=
  ∃ behind, c.tokens.toList.drop c.position = s.tokens ++ ⟨.eof, s.stop⟩ :: behind

theorem Shows.length_lt (h : c.Shows s) : c.position + s.tokens.length < c.tokens.size := by
  obtain ⟨behind, hdrop⟩ := h
  have hlength := congrArg List.length hdrop
  rw [List.length_drop, List.length_append, List.length_cons, Array.length_toList] at hlength
  omega

theorem Shows.inRange (h : c.Shows s) : c.InRange :=
  Nat.lt_of_le_of_lt (Nat.le_add_right _ _) h.length_lt

/-- Looking ahead shows what the stream holds, up to its end. -/
theorem Shows.peek? (h : c.Shows s) {n : Nat} (hn : n ≤ s.tokens.length) :
    c.peek? n = some (front ⟨s.tokens.drop n, s.stop⟩) := by
  have hlt := h.length_lt
  have hsize : c.tokens.size ≠ 0 := by omega
  have hmin : min (c.position + n) (c.tokens.size - 1) = c.position + n := by omega
  obtain ⟨behind, hdrop⟩ := h
  have hget : c.tokens[c.position + n]? = (s.tokens ++ ⟨.eof, s.stop⟩ :: behind)[n]? := by
    rw [← hdrop, List.getElem?_drop, Array.getElem?_toList]
  rw [Cursor.peek?, if_neg hsize, hmin, hget, front, List.head?_drop]
  rcases Nat.lt_or_eq_of_le hn with hlt | rfl
  · rw [List.getElem?_append_left hlt, List.getElem?_eq_getElem hlt]
    rfl
  · rw [List.getElem?_append_right (Nat.le_refl _), List.getElem?_eq_none (Nat.le_refl _),
      Nat.sub_self]
    rfl

/-- Taking a token away from the array takes it away from the stream. -/
theorem Shows.advance? (h : c.Shows s) (hs : s.tokens ≠ []) :
    ∃ c', c.advance? = some (front s, c') ∧ c'.Shows ⟨s.tokens.tail, s.stop⟩ := by
  have hpeek := h.peek? (Nat.zero_le _)
  have hlt := h.length_lt
  have hpos : 0 < s.tokens.length := List.length_pos_iff.mpr hs
  have hmore : c.position < c.tokens.size - 1 := by omega
  refine ⟨{ c with position := c.position + 1 }, ?_, ?_⟩
  · rw [Cursor.advance?, hpeek]
    exact if_pos hmore
  · obtain ⟨behind, hdrop⟩ := h
    refine ⟨behind, ?_⟩
    rw [← List.tail_drop, hdrop, List.tail_append_of_ne_nil hs]

/-- Any tokens show what the grammar reads of them. -/
theorem shows_new (file : String) (tokens : List Token) :
    (new file tokens).Shows (TokenStream.ofTokens file tokens) := by
  show ∃ behind, (tokens ++ ending file tokens).toArray.toList.drop 0 = _
  rw [List.drop_zero, TokenStream.ofTokens]
  cases hend : tokens.find? fun t => t.kind == .eof with
  | some e =>
    obtain ⟨he, before, behind, rfl, hbefore⟩ := List.find?_eq_some_iff_append.mp hend
    have htake : (before ++ e :: behind).takeWhile (fun t => !(t.kind == .eof)) = before := by
      rw [List.takeWhile_append_of_pos hbefore, List.takeWhile_cons, he]
      exact List.append_nil before
    have hlast : e = ⟨.eof, e.location⟩ := by
      rw [← beq_iff_eq.mp he]
    refine ⟨behind ++ ending file (before ++ e :: behind), ?_⟩
    simp only [htake, ← hlast, List.append_assoc, List.cons_append]
  | none =>
    have hall : ∀ t ∈ tokens, (!(t.kind == .eof)) = true := fun t ht => by
      simpa using List.find?_eq_none.mp hend t ht
    have htake : tokens.takeWhile (fun t => !(t.kind == .eof)) = tokens := by
      have happend : (tokens ++ []).takeWhile (fun t => !(t.kind == TokenKind.eof)) =
          tokens ++ [] := List.takeWhile_append_of_pos hall
      rwa [List.append_nil] at happend
    refine ⟨[], ?_⟩
    simp only [htake, ending]
    cases hlast : tokens.getLast? with
    | none => rfl
    | some last =>
      have hkind : last.kind ≠ .eof := by
        simpa using hall last (List.mem_of_getLast? hlast)
      simp only [if_neg hkind]
      rfl

/-- What is taken away from the array is taken away from the stream. -/
theorem Shows.skip? : ∀ {n : Nat} {c : Cursor} {s : TokenStream}, c.Shows s →
    n ≤ s.tokens.length → ∃ c', c.skip? n = some c' ∧ c'.Shows ⟨s.tokens.drop n, s.stop⟩
  | 0, c, s, h, _ => ⟨c, rfl, h⟩
  | n + 1, c, s, h, hn => by
    have hs : s.tokens ≠ [] := List.length_pos_iff.mp (Nat.zero_lt_of_lt hn)
    obtain ⟨c₁, hadvance, h₁⟩ := h.advance? hs
    have hn₁ : n ≤ s.tokens.tail.length := by
      rw [List.length_tail]
      omega
    obtain ⟨c₂, hskip, h₂⟩ := h₁.skip? hn₁
    refine ⟨c₂, ?_, ?_⟩
    · rw [Cursor.skip?, hadvance]
      exact hskip
    · rwa [List.drop_tail] at h₂

/-- Whatever has been taken away, the next access succeeds, and up to the first end of input it
shows what the grammar reads there. -/
theorem exists_skip? (file : String) (tokens : List Token) (n : Nat) :
    ∃ c, (new file tokens).skip? n = some c ∧ (∃ token c', c.advance? = some (token, c')) ∧
      ∀ ahead, (∃ token, c.peek? ahead = some token) ∧
        (n + ahead ≤ (TokenStream.ofTokens file tokens).tokens.length →
          c.peek? ahead = some (front
            { TokenStream.ofTokens file tokens with
              tokens := (TokenStream.ofTokens file tokens).tokens.drop (n + ahead) })) := by
  obtain ⟨c, hskip, hrange⟩ := InRange.skip? n (shows_new file tokens).inRange
  obtain ⟨token, c', hadvance, -⟩ := hrange.advance?
  refine ⟨c, hskip, ⟨token, c', hadvance⟩, fun ahead => ⟨hrange.peek? ahead, fun hahead => ?_⟩⟩
  obtain ⟨c₁, hskip₁, hshows⟩ := (shows_new file tokens).skip? (Nat.le_of_add_right_le hahead)
  obtain rfl : c = c₁ := Option.some.inj (hskip.symm.trans hskip₁)
  rw [hshows.peek? (by rw [List.length_drop]; exact Nat.le_sub_of_add_le' hahead), List.drop_drop]

end Cursor

end Manifest
