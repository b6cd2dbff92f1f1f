import Manifest.Proofs.Token.LineBreak
import Manifest.Proofs.Token.RoundTrip
import Manifest.Proofs.Tree.Relocated

/-!
# Texts that are joined at a line break

An accepted text has the same tokens in front of a line break, whatever stands behind it, and what
stands behind the line break is read as on its own, but further down.

## Main results

* `lexFrom_cons_eq_ok` — what an accepted text begins with.
* `lexFrom_line` — an accepted text is read in front of a line break as it is read alone.
* `lexFrom_down` — what is read does not depend on the line.
* `lex_append_line` — two accepted texts are read with a line break between them.
-/

namespace Manifest

/-! ### One lexeme -/

variable {c : Char} {location : Location} {rule : LexRule} {n : Nat} {kind? : Option TokenKind}
  {cs : List Char} {ts : List Token}

/-- The token for a lexeme, if it has one. -/
def lexemeTokens (location : Location) (kind? : Option TokenKind) : List Token :=
  (kind?.map (⟨·, location⟩)).toList

/-- The walk at the beginning of a lexeme. -/
theorem lexFrom_cons (hfirst : LexRule.first? (c :: cs) = some (rule, n))
    (htoken : rule.token? location ((c :: cs).take n) = .ok kind?) :
    lexFrom location 0 (c :: cs) =
      (lexFrom (location.after c) (n - 1) cs).map (lexemeTokens location kind? ++ ·) := by
  rw [lexFrom]
  simp only [hfirst, htoken]
  cases kind? with
  | none => exact (congrFun Except.map_id _).symm
  | some kind => cases lexFrom (location.after c) (n - 1) cs <;> rfl

/-- What an accepted text begins with. -/
theorem lexFrom_cons_eq_ok (h : lexFrom location 0 (c :: cs) = .ok ts) :
    ∃ rule n kind? tokens, LexRule.first? (c :: cs) = some (rule, n) ∧
      rule.token? location ((c :: cs).take n) = .ok kind? ∧
      lexFrom (location.after c) (n - 1) cs = .ok tokens ∧
      ts = lexemeTokens location kind? ++ tokens := by
  cases hfirst : LexRule.first? (c :: cs) with
  | none =>
    rw [lexFrom, hfirst] at h
    cases h
  | some found =>
    obtain ⟨rule, n⟩ := found
    cases htoken : rule.token? location ((c :: cs).take n) with
    | error e =>
      rw [lexFrom, hfirst] at h
      simp only [htoken] at h
      cases h
    | ok kind? =>
      rw [lexFrom_cons hfirst htoken] at h
      cases hmore : lexFrom (location.after c) (n - 1) cs with
      | error e =>
        rw [hmore] at h
        cases h
      | ok tokens =>
        rw [hmore] at h
        cases h
        exact ⟨rule, n, kind?, tokens, rfl, htoken, hmore, rfl⟩

/-- No lexeme is the end of input. -/
theorem LexRule.token?_ne_eof {rule : LexRule} {location : Location} {lexeme : List Char}
    {kind : TokenKind} (h : rule.token? location lexeme = .ok (some kind)) : kind ≠ .eof := by
  rintro rfl
  cases rule <;> simp only [LexRule.token?, integerToken] at h
  case symbol => cases hsign : symbolAt? lexeme <;> simp [hsign] at h
  case word =>
    rw [TokenKind.ofWord] at h
    split at h <;> cases h
  case integer => split at h <;> cases h
  all_goals cases h

/-! ### In front of a line break -/

/-- An accepted text is read in front of a line break as it is read alone. -/
theorem lexFrom_line (bs : List Char) :
    ∀ {cs : List Char} {skip : Nat} {location : Location} {ts : List Token}, skip ≤ cs.length →
      lexFrom location skip cs = .ok ts →
        ∃ read, ts = read ++ [⟨.eof, location.afterAll cs⟩] ∧ (∀ t ∈ read, t.kind ≠ .eof) ∧
          lexFrom location skip (cs ++ '\n' :: bs) =
            (lexFrom ((location.afterAll cs).after '\n') 0 bs).map (read ++ ·)
  | [], 0, location, ts, _, h => by
    cases h
    refine ⟨[], rfl, List.forall_mem_nil _, ?_⟩
    rw [List.nil_append, lexFrom_blank (by decide)]
    exact (congrFun Except.map_id _).symm
  | c :: cs, skip + 1, location, ts, hskip, h => by
    -- Inside a lexeme nothing is matched; it is over before the line break (`hskip`).
    rw [lexFrom] at h
    have ih := lexFrom_line bs (Nat.le_of_succ_le_succ hskip) h
    exact ih
  | c :: cs, 0, location, ts, _, h => by
    -- White space is the one lexeme that goes on behind the line break, so it is taken one by one.
    by_cases hblank : Text.isBlank c = true
    · rw [lexFrom_blank hblank] at h
      rw [List.cons_append, lexFrom_blank hblank]
      exact lexFrom_line bs (Nat.zero_le _) h
    · obtain ⟨rule, n, kind?, tokens, hfirst, htoken, hmore, rfl⟩ := lexFrom_cons_eq_ok h
      have hn := LexRule.first?_le hfirst
      obtain ⟨read, rfl, hread, hseam⟩ := lexFrom_line bs (Nat.sub_le_of_le_add hn) hmore
      have hmatch : LexRule.first? (c :: cs) ≠ none := by simp [hfirst]
      have hline := LexRule.first?_line bs (by simpa using hblank) hmatch
      have htake : ((c :: cs) ++ '\n' :: bs).take n = (c :: cs).take n :=
        List.take_append_of_le_length hn
      refine ⟨lexemeTokens location kind? ++ read, (List.append_assoc ..).symm, ?_, ?_⟩
      · refine List.forall_mem_append.mpr ⟨fun t ht => ?_, hread⟩
        obtain ⟨kind, rfl, rfl⟩ := Option.map_eq_some_iff.mp (Option.mem_toList.mp ht)
        exact LexRule.token?_ne_eof htoken
      · have hplace : location.afterAll (c :: cs) = (location.after c).afterAll cs := rfl
        rw [List.cons_append, lexFrom_cons (hline.trans hfirst) (htake ▸ htoken), hseam, hplace]
        cases lexFrom (((location.after c).afterAll cs).after '\n') 0 bs with
        | error e => rfl
        | ok tokens => exact congrArg Except.ok (List.append_assoc ..).symm

/-! ### Moving down -/

theorem Location.down_after (lines : Nat) (l : Location) (c : Char) :
    (l.down lines).after c = (l.after c).down lines := by
  unfold Location.after Location.down
  split
  · simp only [Nat.add_right_comm]
  · rfl

/-- A token does not depend on its place. -/
theorem LexRule.token?_of_ok {lexeme : List Char} (h : rule.token? location lexeme = .ok kind?)
    (location' : Location) : rule.token? location' lexeme = .ok kind? := by
  cases rule with
  | integer =>
    rw [LexRule.token?, integerToken] at h ⊢
    split at h
    · next hvalue => rwa [if_pos hvalue]
    · cases h
  | _ => exact h

/-- What is read does not depend on the line. -/
theorem lexFrom_down (lines : Nat) :
    ∀ {cs : List Char} {skip : Nat} {location : Location} {ts : List Token},
      lexFrom location skip cs = .ok ts →
        lexFrom (location.down lines) skip cs = .ok (ts.map (Token.relocate (Location.down lines)))
  | [], _, location, ts, h => by
    cases h
    rfl
  | c :: cs, skip + 1, location, ts, h => by
    rw [lexFrom, Location.down_after]
    exact lexFrom_down lines h
  | c :: cs, 0, location, ts, h => by
    obtain ⟨rule, n, kind?, tokens, hfirst, htoken, hmore, rfl⟩ := lexFrom_cons_eq_ok h
    rw [lexFrom_cons hfirst (LexRule.token?_of_ok htoken _), Location.down_after,
      lexFrom_down lines hmore, List.map_append]
    cases kind? <;> rfl

/-- Behind some lines the next one begins. -/
theorem Location.afterAll_after (l : Location) (cs : List Char) :
    (l.afterAll cs).after '\n' = ⟨l.file, l.line + cs.count '\n' + 1, 1⟩ := by
  induction cs generalizing l with
  | nil => rfl
  | cons c cs ih =>
    have hstep : l.afterAll (c :: cs) = (l.after c).afterAll cs := rfl
    rw [hstep, ih, List.count_cons]
    by_cases hc : c = '\n' <;> simp [Location.after, hc]
    omega

/-- The tokens of an accepted text end with the end of input and have no other one. -/
theorem lex_eq_ok {file text : String} {ts : List Token} (h : lex file text = .ok ts) :
    ∃ read stop, ts = read ++ [⟨.eof, stop⟩] ∧ ∀ t ∈ read, t.kind ≠ .eof := by
  obtain ⟨read, hts, hread, -⟩ := lexFrom_line [] (Nat.zero_le _) h
  exact ⟨read, _, hts, hread⟩

/-- Two accepted texts are read with a line break between them: the tokens of the second one come
behind those of the first one. -/
theorem lex_append_line {file a b : String} {read us : List Token} {stop : Location}
    (ha : lex file a = .ok (read ++ [⟨.eof, stop⟩])) (hb : lex file b = .ok us) :
    lex file (a ++ "\n" ++ b) =
      .ok (read ++ us.map (Token.relocate (Location.down (a.toList.count '\n' + 1)))) := by
  obtain ⟨read', hts, -, hseam⟩ := lexFrom_line b.toList (Nat.zero_le _) ha
  obtain rfl : read = read' := List.append_inj_left' hts rfl
  have htext : (a ++ "\n" ++ b).toList = a.toList ++ '\n' :: b.toList := by simp
  have hplace : ((Location.mk file 1 1).afterAll a.toList).after '\n' =
      (Location.mk file 1 1).down (a.toList.count '\n' + 1) := by
    simp [Location.afterAll_after, Location.down, Nat.add_assoc]
  rw [lex, htext, hseam, hplace, lexFrom_down _ hb]
  rfl

end Manifest
