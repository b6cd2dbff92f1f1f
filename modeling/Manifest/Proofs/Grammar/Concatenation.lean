import Manifest.Proofs.Except
import Manifest.Proofs.Grammar.CarriedStatement
import Manifest.Proofs.Grammar.RoundTrip
import Manifest.Proofs.Token.Seam

/-!
# Manifests one behind the other

No statement begins with a token with which another one could go on.  Where one manifest ends and
another one begins on a new line, the statements of both are read one after the other.

## Main results

* `Grammar.notMem_continuations` — no manifest begins with a token with which a statement goes on.
* `Grammar.statements_apply` — a manifest is read in front of another one.
* `parse_append_line` — two manifests with a line break between them have the statements of both.
-/

namespace Manifest

namespace Grammar

/-! ### One round -/

section Rounds

variable {inner : Parse Statement} {b : Nat} {s : TokenStream}

theorem statements_of_eof (h : (front s).kind = .eof) :
    statements (· == .eof) inner b s = .ok ([], s) := by
  cases b with
  | zero => rfl
  | succ b =>
    change (if (front s).kind == .eof then pure [] else _ : Parse (List Statement)) s = _
    rw [if_pos (beq_iff_eq.mpr h)]
    rfl

theorem statements_of_semicolon {token : Token} {rest : List Token} {stop : Location}
    (h : token.kind = .symbol .semicolon) :
    statements (· == .eof) inner (b + 1) ⟨token :: rest, stop⟩ =
      statements (· == .eof) inner b ⟨rest, stop⟩ := by
  have heof : token.kind ≠ .eof := by simp [h]
  change (if token.kind == .eof then pure [] else _ : Parse (List Statement)) _ = _
  rw [if_neg (by simpa using heof), bind_of_ok (eat_cons h ⟨rest, stop⟩)]
  rfl

theorem statements_of_ne (heof : (front s).kind ≠ .eof)
    (hsemicolon : (front s).kind ≠ .symbol .semicolon) :
    statements (· == .eof) inner (b + 1) s = (inner >>= fun first =>
      statements (· == .eof) inner b >>= fun rest => pure (first :: rest)) s := by
  change (if (front s).kind == .eof then pure [] else _ : Parse (List Statement)) s = _
  rw [if_neg (by simpa using heof), bind_of_ok (eat_of_ne hsemicolon)]
  rfl

end Rounds

/-! ### How a manifest begins -/

theorem statementOf_eq_unexpected {inner : Option String → Parse Statement}
    {space : Option String} {bound : Nat} {s : TokenStream} (h : (front s).kind ∈ continuations) :
    statementOf inner space bound s = unexpected .statement s := by
  obtain ⟨tokens, stop⟩ := s
  cases tokens with
  | nil => exact absurd h (show TokenKind.eof ∉ continuations by decide)
  | cons token rest =>
    obtain ⟨kind, location⟩ := token
    have hkind : kind ∈ continuations := h
    simp only [continuations, List.mem_cons, List.not_mem_nil, or_false] at hkind
    rcases hkind with
      rfl | rfl | rfl | rfl | rfl | rfl | rfl | rfl | rfl | rfl | rfl | rfl | rfl <;> rfl

/-- No manifest begins with a token with which a statement goes on. -/
theorem notMem_continuations {bound : Nat} {s s' : TokenStream} {ss : List Statement}
    (h : program (bound + 1) s = .ok (ss, s')) : (front s).kind ∉ continuations := by
  intro hkind
  have heof : (front s).kind ≠ .eof := by
    intro heof
    exact absurd (heof ▸ hkind) (by decide)
  have hsemicolon : (front s).kind ≠ .symbol .semicolon := by
    intro hsemicolon
    exact absurd (hsemicolon ▸ hkind) (by decide)
  rw [program, statements_of_ne heof hsemicolon] at h
  obtain ⟨first, t, hfirst, -⟩ := bind_eq_ok_iff.mp h
  rw [statement, statementOf_eq_unexpected hkind] at hfirst
  cases hfirst

/-! ### Two manifests -/

variable {x : Extension}

/-- What a manifest says is read in front of what stands behind it. -/
theorem statements_apply {c c' : Nat} {ss' : List Statement} {t : TokenStream} (hx : x.Loose)
    (hc : c ≤ c')
    (hbehind : ∀ b, x.behind.tokens.length < b →
      statements (· == .eof) (statement c' none) b x.behind = .ok (ss', t)) :
    ∀ {b b' : Nat} {s s' : TokenStream} {ss : List Statement},
      (∀ token ∈ s.tokens, token.kind ≠ .eof) → s.tokens.length < c → s.tokens.length < b →
        s.tokens.length + x.behind.tokens.length < b' →
          statements (· == .eof) (statement c none) b s = .ok (ss, s') →
            statements (· == .eof) (statement c' none) b' (x.apply s) =
              .ok (relocateIn x.move ss ++ ss', t)
  | 0, _, _, _, _, _, _, hb, _, _ => absurd hb (Nat.not_lt_zero _)
  | _, 0, _, _, _, _, _, _, hb', _ => absurd hb' (Nat.not_lt_zero _)
  | b + 1, b' + 1, ⟨[], stop⟩, s', ss, heof, hs, hb, hb', h => by
    -- The first reader is at the end; the second one goes on with what stands behind.
    rw [statements_of_eof rfl] at h
    cases h
    exact hbehind (b' + 1) (Nat.lt_of_le_of_lt (Nat.le_add_left _ _) hb')
  | b + 1, b' + 1, ⟨token :: rest, stop⟩, s', ss, heof, hs, hb, hb', h => by
    obtain ⟨htoken, hrest⟩ := List.forall_mem_cons.mp heof
    rw [List.length_cons] at hs hb hb'
    by_cases hsemicolon : token.kind = .symbol .semicolon
    · rw [statements_of_semicolon hsemicolon] at h
      have hmoved : (token.relocate x.move).kind = .symbol .semicolon := hsemicolon
      have hbehind' : rest.length + x.behind.tokens.length < b' := by omega
      have ih := statements_apply hx hc hbehind hrest (Nat.lt_of_succ_lt hs)
        (Nat.lt_of_succ_lt_succ hb) hbehind' h
      exact (statements_of_semicolon hmoved).trans ih
    · rw [statements_of_ne (s := ⟨token :: rest, stop⟩) htoken hsemicolon] at h
      obtain ⟨first, s₁, hfirst, hmore⟩ := bind_eq_ok_iff.mp h
      obtain ⟨more, s₂, hread, hcons⟩ := bind_eq_ok_iff.mp hmore
      cases hcons
      have hcarries : CarriesStatements x True c (statement c none) (statement c' none) :=
        carriesStatements none (fun _ => hx) hc
      obtain ⟨hsuffix, hlength, hcarry⟩ := hcarries ⟨token :: rest, stop⟩ hs first s₁ hfirst
      have hrest' : ∀ token ∈ s₁.tokens, token.kind ≠ .eof := fun token htoken =>
        heof token (hsuffix.subset htoken)
      rw [List.length_cons] at hlength
      have hb₁ : s₁.tokens.length + x.behind.tokens.length < b' := by omega
      have ih := statements_apply hx hc hbehind hrest' (by omega) (by omega) hb₁ hread
      rw [statements_of_ne (s := x.apply ⟨token :: rest, stop⟩) htoken hsemicolon,
        bind_of_ok (hcarry (.inr trivial)), bind_of_ok ih]
      rfl

/-- Moving the places of a stream without putting anything behind it. -/
def moved (f : Location → Location) (stop : Location) : Extension := ⟨f, ⟨[], stop⟩⟩

theorem loose_moved (f : Location → Location) (stop : Location) : (moved f stop).Loose :=
  show TokenKind.eof ∉ continuations by decide

/-- A manifest further down is read as it is read alone. -/
theorem statements_moved (f : Location → Location) (stop : Location) {s r : TokenStream}
    {ss : List Statement} (h : program (s.tokens.length + 1) s = .ok (ss, r)) {b c : Nat}
    (hb : s.tokens.length < b) (hc : s.tokens.length < c) :
    statements (· == .eof) (statement c none) b ((moved f stop).apply s) =
      .ok (relocateIn f ss, (moved f stop).apply r) := by
  have hend : (front (moved f stop).behind).kind = .eof := rfl
  have hsemicolon : (front (moved f stop).behind).kind ≠ .symbol .semicolon := by simp [hend]
  have hinner : CarriesStatements (moved f stop) True (s.tokens.length + 1)
      (statement (s.tokens.length + 1) none) (statement c none) :=
    carriesStatements none (fun _ => loose_moved f stop) hc
  have hcarried : Carried (moved f stop) True (s.tokens.length + 1) s
      (program (s.tokens.length + 1)) (statements (· == .eof) (statement c none) b)
      (relocateIn f) :=
    carried_statements (fun _ => rfl) (fun _ => hsemicolon) hinner (Nat.lt_succ_self _)
      (Nat.lt_succ_self _) hb (Nat.lt_succ_self _)
  exact (hcarried ss r h).2.2 (.inr trivial)

/-- Two manifests are read one behind the other, with the places of the second one moved. -/
theorem program_append (f : Location → Location) (stop : Location) (s s' : TokenStream)
    {r r' : TokenStream} {ss ss' : List Statement} (heof : ∀ token ∈ s.tokens, token.kind ≠ .eof)
    (h : program (s.tokens.length + 1) s = .ok (ss, r))
    (h' : program (s'.tokens.length + 1) s' = .ok (ss', r')) :
    ∃ t, program (s.tokens.length + s'.tokens.length + 1)
      ⟨s.tokens ++ s'.tokens.map (Token.relocate f), stop⟩ = .ok (ss ++ relocateIn f ss', t) := by
  have hbehind : (moved f stop).apply s' = ⟨s'.tokens.map (Token.relocate f), stop⟩ :=
    congrArg (TokenStream.mk · stop) (List.append_nil _)
  have hlength : ((moved f stop).apply s').tokens.length = s'.tokens.length := by
    rw [hbehind, List.length_map]
  have hloose : Extension.Loose ⟨id, (moved f stop).apply s'⟩ := by
    by_cases hnil : s'.tokens = []
    · rw [Extension.Loose, (moved f stop).front_apply_nil hnil]
      exact loose_moved f stop
    · rw [Extension.Loose, (moved f stop).front_apply hnil]
      exact notMem_continuations h'
  have hroom : s.tokens.length + ((moved f stop).apply s').tokens.length <
      s.tokens.length + s'.tokens.length + 1 := by rw [hlength]; exact Nat.lt_succ_self _
  have hread := statements_apply hloose (Nat.succ_le_succ (Nat.le_add_right _ s'.tokens.length))
    (fun b hb => statements_moved f stop h' (hlength ▸ hb) (by omega)) heof (Nat.lt_succ_self _)
    (Nat.lt_succ_self _) hroom h
  rw [relocateIn_id, Extension.apply, hbehind] at hread
  have hid : s.tokens.map (Token.relocate id) = s.tokens := List.map_id _
  rw [hid] at hread
  exact ⟨_, hread⟩

end Grammar

open Grammar

theorem TokenStream.ofTokens_append_eof (file : String) {read : List Token}
    (hread : ∀ t ∈ read, t.kind ≠ .eof) (stop : Location) :
    TokenStream.ofTokens file (read ++ [⟨.eof, stop⟩]) = ⟨read, stop⟩ := by
  have hnone : read.find? (fun t => t.kind == .eof) = none :=
    List.find?_eq_none.mpr fun t ht => by simpa using hread t ht
  have hall : ∀ t ∈ read, (!t.kind == .eof) = true := fun t ht => by simpa using hread t ht
  rw [TokenStream.ofTokens]
  simp [List.find?_append, hnone, List.takeWhile_append_of_pos hall]

/-- What is known of an accepted manifest. -/
theorem parse_eq_ok {file text : String} {ast : Ast} (h : parse file text = .ok ast) :
    ∃ read stop rest, lex file text = .ok (read ++ [⟨.eof, stop⟩]) ∧
      (∀ t ∈ read, t.kind ≠ .eof) ∧
      program (read.length + 1) ⟨read, stop⟩ = .ok (ast.statements, rest) ∧
      ast.misplaced? = none := by
  rw [parse] at h
  cases hlex : lex file text with
  | error e =>
    rw [hlex] at h
    cases h
  | ok tokens =>
    obtain ⟨read, stop, rfl, hread⟩ := lex_eq_ok hlex
    simp only [hlex, build, TokenStream.ofTokens_append_eof file hread] at h
    cases hprogram : (program (read.length + 1)).run ⟨read, stop⟩ with
    | error e =>
      simp only [hprogram] at h
      cases h
    | ok result =>
      obtain ⟨ss, rest⟩ := result
      simp only [hprogram] at h
      cases hlegal : (⟨file, ss⟩ : Ast).misplaced? with
      | some fault =>
        simp only [hlegal] at h
        cases h
      | none =>
        simp only [hlegal] at h
        cases h
        exact ⟨read, stop, rest, rfl, hread, hprogram, hlegal⟩

/-- Two accepted manifests with a line break between them are accepted, and have the statements of
the first one and then those of the second one, whose places are further down by the lines of the
first one. -/
theorem parse_append_line (file a b : String) {x y : Ast} (ha : parse file a = .ok x)
    (hb : parse file b = .ok y) :
    parse file (a ++ "\n" ++ b) = .ok ⟨file, x.statements ++
      y.statements.map (Statement.relocate (Location.down (a.toList.count '\n' + 1)))⟩ := by
  obtain ⟨read, stop, r, hlex, hread, hprogram, hlegal⟩ := parse_eq_ok ha
  obtain ⟨read', stop', r', hlex', hread', hprogram', hlegal'⟩ := parse_eq_ok hb
  rw [← relocateIn_eq_map]
  generalize hf : Location.down (a.toList.count '\n' + 1) = f
  -- The tokens of the second text come behind those of the first one, moved down.
  obtain ⟨tokens, htokens, hstream⟩ : ∃ tokens, lex file (a ++ "\n" ++ b) = .ok tokens ∧
      TokenStream.ofTokens file tokens = ⟨read ++ read'.map (Token.relocate f), f stop'⟩ := by
    refine ⟨(read ++ read'.map (Token.relocate f)) ++ [⟨.eof, f stop'⟩], ?_, ?_⟩
    · rw [lex_append_line hlex hlex', hf, List.map_append, List.append_assoc]
      rfl
    · refine TokenStream.ofTokens_append_eof file ?_ (f stop')
      exact List.forall_mem_append.mpr ⟨hread, List.forall_mem_map.mpr hread'⟩
  -- The first program is over where its text ends, whatever stands behind it.
  obtain ⟨t, hboth⟩ : ∃ t, program (read.length + read'.length + 1)
      ⟨read ++ read'.map (Token.relocate f), f stop'⟩ =
        .ok (x.statements ++ relocateIn f y.statements, t) :=
    program_append f (f stop') ⟨read, stop⟩ ⟨read', stop'⟩ hread hprogram hprogram'
  -- Whether definitions may stand where they do has nothing to do with lines.
  have hlegalBoth : (⟨file, x.statements ++ relocateIn f y.statements⟩ : Ast).misplaced? =
      none := by
    rw [Ast.misplaced?] at hlegal hlegal' ⊢
    rw [misplacedIn?_append, hlegal, misplacedIn?_relocateIn f hlegal']
    rfl
  have hjoined : program ((TokenStream.ofTokens file tokens).tokens.length + 1)
      (TokenStream.ofTokens file tokens) = .ok (x.statements ++ relocateIn f y.statements, t) := by
    rw [hstream, List.length_append, List.length_map]
    exact hboth
  rw [parse, htokens]
  exact build_eq_ok hjoined hlegalBoth

namespace Sample

/-- Two lines, the second one ending with a comment. -/
def upper : String := "if $on \x7b notice 'up' \x7d\n$x = $on == true # and"

/-- Two lines, the first one beginning with a comment. -/
def lower : String := "/* more */ File['/a'] -> File['/b']\nclass web \x7b $y = 1 \x7d"

end Sample

theorem parse_append_line_sample :
    ∃ x y, parse "site.pp" Sample.upper = .ok x ∧ parse "site.pp" Sample.lower = .ok y ∧
      x.statements.map Statement.location = [⟨"site.pp", 1, 1⟩, ⟨"site.pp", 2, 1⟩] ∧
      y.statements.map Statement.location = [⟨"site.pp", 1, 12⟩, ⟨"site.pp", 2, 1⟩] ∧
      parse "site.pp" (Sample.upper ++ "\n" ++ Sample.lower) = .ok ⟨"site.pp", x.statements ++
        y.statements.map (Statement.relocate (Location.down 2))⟩ := by
  have hlocations : ∀ text places,
      (parse "site.pp" text).toOption.map (·.statements.map Statement.location) = some places →
        ∃ x, parse "site.pp" text = .ok x ∧ x.statements.map Statement.location = places := by
    intro text places h
    obtain ⟨x, hx, hplaces⟩ := Option.map_eq_some_iff.mp h
    exact ⟨x, Except.eq_ok_of_toOption hx, hplaces⟩
  obtain ⟨x, hx, hupper⟩ := hlocations Sample.upper [⟨"site.pp", 1, 1⟩, ⟨"site.pp", 2, 1⟩]
    (by decide +kernel)
  obtain ⟨y, hy, hlower⟩ := hlocations Sample.lower [⟨"site.pp", 1, 12⟩, ⟨"site.pp", 2, 1⟩]
    (by decide +kernel)
  have hlines : Sample.upper.toList.count '\n' + 1 = 2 := by decide +kernel
  have hboth := parse_append_line "site.pp" Sample.upper Sample.lower hx hy
  rw [hlines] at hboth
  exact ⟨x, y, hx, hy, hupper, hlower, hboth⟩

end Manifest
