import Mathlib.Data.List.TakeWhile
import Manifest.Grammar
import Manifest.Proofs.Grammar.InStepStatement

/-!
# The end of input

A list of tokens may have the end of input at its end, in its midst, several times or not at all.
The tree is made from what stands before the first one.  Here the same grammar also reads the whole
list, in which the end of input is a token like the others, and nothing else comes of it: no reader
goes past the end of input, and so nothing that stands behind it is ever read.

The grammar is bounded, but its bounds do not decide anything.  A reader answers the same under all
bounds that exceed the number of tokens, and so it satisfies the equations of the recursion without
bounds, each call of which stands behind a token that has been taken away.

## Main definitions

* `TokenStream.whole` — all tokens of a list, also those behind an end of input.
* `readTree` — the tree for the statements in a stream.
* `Grammar.EndsByItself` — a reader takes tokens away and does not depend on its bound.

## Main results

* `TokenStream.exists_whole_eq` — a whole list is the part up to the first end of input, followed by
  the rest.
* `build_ends` — the tree for the part is the tree for the whole.
-/

namespace Manifest

/-! ### Whole lists of tokens -/

namespace TokenStream

/-- All tokens of a list.  If the last one is not the end of input, the input ends where it
stands. -/
def whole (file : String) (tokens : List Token) : TokenStream :=
  match tokens.getLast? with
  | none => ⟨[], ⟨file, 1, 1⟩⟩
  | some last =>
    if last.kind = .eof then ⟨tokens.dropLast, last.location⟩ else ⟨tokens, last.location⟩

variable {file : String} {tokens before behind : List Token} {l : Location}

theorem whole_concat (file : String) (tokens : List Token) (last : Token) :
    whole file (tokens ++ [last]) = if last.kind = .eof then ⟨tokens, last.location⟩
      else ⟨tokens ++ [last], last.location⟩ := by
  rw [whole, List.getLast?_concat]
  simp only [List.dropLast_concat]

theorem ofTokens_of_ne (h : ∀ t ∈ tokens, t.kind ≠ .eof) :
    ofTokens file tokens =
      ⟨tokens, (tokens.getLast?.map Token.location).getD ⟨file, 1, 1⟩⟩ := by
  have hfind : tokens.find? (fun t => t.kind == .eof) = none := by simpa using h
  have htake : tokens.takeWhile (fun t => !(t.kind == .eof)) = tokens :=
    List.takeWhile_eq_self_iff.mpr (by simpa using h)
  rw [ofTokens]
  simp only [hfind, htake]

/-- What stands behind the first end of input does not matter. -/
theorem ofTokens_append (h : ∀ t ∈ before, t.kind ≠ .eof) (l : Location) (behind : List Token) :
    ofTokens file (before ++ ⟨.eof, l⟩ :: behind) = ⟨before, l⟩ := by
  have hfind : (before ++ ⟨.eof, l⟩ :: behind).find? (fun t => t.kind == .eof) =
      some ⟨.eof, l⟩ := by
    rw [List.find?_append, List.find?_eq_none.mpr (by simpa using h)]
    rfl
  have htake : (before ++ ⟨.eof, l⟩ :: behind).takeWhile (fun t => !(t.kind == .eof)) =
      before := by
    rw [List.takeWhile_append_of_pos (by simpa using h)]
    simp
  rw [ofTokens]
  simp only [hfind, htake]

/-- A list is free of the end of input, or there is a first one. -/
theorem eof_cases (tokens : List Token) : (∀ t ∈ tokens, t.kind ≠ .eof) ∨
    ∃ before l behind, tokens = before ++ ⟨.eof, l⟩ :: behind ∧ ∀ t ∈ before, t.kind ≠ .eof := by
  cases hfind : tokens.find? fun t => t.kind == .eof with
  | none => exact .inl (by simpa using hfind)
  | some e =>
    obtain ⟨he, before, behind, rfl, hbefore⟩ := List.find?_eq_some_iff_append.mp hfind
    obtain ⟨kind, l⟩ := e
    obtain rfl := beq_iff_eq.mp he
    exact .inr ⟨before, l, behind, rfl, by simpa using hbefore⟩

/-- A whole list is the part up to the first end of input, followed by the rest. -/
theorem exists_whole_eq (file : String) (tokens : List Token) :
    ∃ x, whole file tokens = (ofTokens file tokens).followed x := by
  rcases eof_cases tokens with h | ⟨before, l, behind, rfl, h⟩
  · refine ⟨none, ?_⟩
    rw [ofTokens_of_ne h, followed]
    rcases List.eq_nil_or_concat tokens with rfl | ⟨rest, last, rfl⟩
    · rfl
    · rw [List.concat_eq_append, whole_concat, if_neg (h last (by simp)), List.getLast?_concat]
      rfl
  · rw [ofTokens_append h]
    rcases List.eq_nil_or_concat behind with rfl | ⟨rest, last, rfl⟩
    · exact ⟨none, by rw [whole_concat, if_pos rfl, followed]⟩
    · rw [List.concat_eq_append, ← List.cons_append, ← List.append_assoc, whole_concat]
      split
      · exact ⟨some (rest, last.location), rfl⟩
      · exact ⟨some (rest ++ [last], last.location), by simp [followed]⟩

theorem length_ofTokens_le (file : String) (tokens : List Token) :
    (ofTokens file tokens).tokens.length ≤ tokens.length :=
  (List.takeWhile_sublist _).length_le

end TokenStream

/-! ### Readers -/

namespace Grammar

/-- Under all bounds that exceed the number of tokens a reader does the same, and whatever it reads
it takes a token away, but neither the end of input nor anything behind it. -/
structure EndsByItself {α : Type} (read : Nat → Parse α) : Prop where
  same : ∀ (b b' : Nat) (s : TokenStream), s.tokens.length < b → s.tokens.length < b' →
    read b s = read b' s
  takes : ∀ (b : Nat) (s : TokenStream) (a : α) (s' : TokenStream), read b s = .ok (a, s') →
    ∃ taken, taken ≠ [] ∧ s.Takes taken s'

theorem endsByItself_of_inStep {α : Type} {read : Nat → Parse α}
    (h : ∀ b b', AlwaysInStep none b b' (read b) (read b')) : EndsByItself read where
  same b b' s hb hb' := by
    have hsame := (h b b' s (.inr ⟨hb, hb'⟩)).same
    cases hread : read b s with
    | error e => rw [hread] at hsame; exact hsame.symm
    | ok result => rw [hread] at hsame; exact hsame.symm
  takes b s a s' hread := by
    obtain ⟨hlength, taken, htaken⟩ := (h b b s (.inl rfl)).takes a s' hread
    refine ⟨taken, ?_, htaken⟩
    rintro rfl
    rw [htaken.length_eq] at hlength
    simp at hlength

end Grammar

/-! ### Trees -/

/-- The tree for the statements in a stream, read under a bound. -/
def readTree (bound : Nat) (file : String) (stream : TokenStream) : Except ParseError Ast :=
  match (Grammar.program bound).run stream with
  | .error e => .error e
  | .ok (statements, _) =>
    let ast : Ast := ⟨file, statements⟩
    match ast.misplaced? with
    | some fault => .error (.misplaced fault)
    | none => .ok ast

/-- It does not matter what follows a stream, or under which bound it is read. -/
theorem readTree_followed {bound bound' : Nat} {stream : TokenStream} (file : String)
    (x : Option (List Token × Location)) (h : stream.tokens.length < bound)
    (h' : stream.tokens.length < bound') :
    readTree bound' file (stream.followed x) = readTree bound file stream := by
  have hsame : Grammar.program bound' (stream.followed x) = _ :=
    (Grammar.inStep_program (x := x) (.inr ⟨h, h'⟩) (Nat.lt_succ_self _)).same
  rw [readTree, readTree, StateT.run, StateT.run, hsame]
  cases Grammar.program bound stream <;> rfl

/-- The tree for a list of tokens, or the error, is that for the part up to the first end of input.
All tokens are read for it, and what is read stands before the first end of input.  It does not
depend on bounds, and each statement and each expression takes tokens away. -/
theorem build_ends (file : String) (tokens : List Token) :
    (∀ bound, tokens.length < bound →
      readTree bound file (.whole file tokens) = build file tokens) ∧
    (∀ before l behind, tokens = before ++ ⟨.eof, l⟩ :: behind →
      build file tokens = build file (before ++ [⟨.eof, l⟩])) ∧
    (∀ space, Grammar.EndsByItself fun bound => Grammar.statement bound space) ∧
    Grammar.EndsByItself Grammar.expression := by
  refine ⟨fun bound hbound => ?_, ?_, fun space => ?_, ?_⟩
  · obtain ⟨x, hx⟩ := TokenStream.exists_whole_eq file tokens
    have hlength := TokenStream.length_ofTokens_le file tokens
    rw [hx]
    exact readTree_followed file x (Nat.lt_succ_self _) (by omega)
  · rintro before l behind rfl
    have hstream : TokenStream.ofTokens file (before ++ ⟨.eof, l⟩ :: behind) =
        TokenStream.ofTokens file (before ++ [⟨.eof, l⟩]) := by
      rcases TokenStream.eof_cases before with h | ⟨before', l', behind', rfl, h⟩
      · rw [TokenStream.ofTokens_append h, TokenStream.ofTokens_append h]
      · rw [List.append_assoc, List.append_assoc, List.cons_append, List.cons_append,
          TokenStream.ofTokens_append h, TokenStream.ofTokens_append h]
    rw [build, build, hstream]
  · exact Grammar.endsByItself_of_inStep fun _ _ => Grammar.alwaysInStep_statement space
  · exact Grammar.endsByItself_of_inStep fun _ _ => Grammar.alwaysInStep_expression

/-- An assignment, the end of input, and a brace that opens nothing. -/
def Sample.endedEarly : List Token :=
  [⟨.variableName "a", ⟨"site.pp", 1, 1⟩⟩, ⟨.symbol .assign, ⟨"site.pp", 1, 4⟩⟩,
    ⟨.integer 1, ⟨"site.pp", 1, 6⟩⟩, ⟨.eof, ⟨"site.pp", 1, 7⟩⟩,
    ⟨.symbol .leftBrace, ⟨"site.pp", 1, 8⟩⟩]

theorem build_ends_sample :
    (build "site.pp" Sample.endedEarly).toOption.map (·.statements.map Statement.location) =
        some [⟨"site.pp", 1, 1⟩] ∧
      readTree 9 "site.pp" (.whole "site.pp" Sample.endedEarly) =
        build "site.pp" Sample.endedEarly ∧
      build "site.pp" Sample.endedEarly = build "site.pp" (Sample.endedEarly.take 4) ∧
      ∃ taken, taken ≠ [] ∧ (TokenStream.whole "site.pp" Sample.endedEarly).Takes taken
        ⟨Sample.endedEarly.drop 3, ⟨"site.pp", 1, 8⟩⟩ := by
  obtain ⟨hwhole, hcut, hstatement, -⟩ := build_ends "site.pp" Sample.endedEarly
  refine ⟨by decide +kernel, hwhole 9 (by decide),
    hcut (Sample.endedEarly.take 3) ⟨"site.pp", 1, 7⟩ (Sample.endedEarly.drop 4) rfl, ?_⟩
  exact (hstatement none).takes 9 _ (.assignment "a" (.integer 1 ⟨"site.pp", 1, 6⟩)
    ⟨"site.pp", 1, 1⟩) _ rfl

end Manifest
