import Manifest.Proofs.Token.Quoted
import Manifest.Proofs.Token.Walk

/-!
# Strings that are not closed

A quoted string ends at the next quote of its kind that is not escaped, where a backslash escapes
the one character behind it.  The rules for strings know all such escapes but one: they do not pass
over an escaped line break.  So a text is refused with an unclosed string where no closing quote
follows, and also where one does, but a line break is escaped before it.

## Main definitions

* `IsQuoted` — what may stand between two quotes.
* `EscapesBreak` — a line break is escaped in it.
* `StaysOpen` — a text has no closing quote before which no line break is escaped.

## Main results

* `quotedTailLength?_eq_none_iff` — where the scanner for the closing quote does not find one.
* `unterminated_iff` — where a text is refused with an unclosed string.
* `unterminated_closed` — this may be in front of a string that is closed.
-/

namespace Manifest

/-! ### Between two quotes -/

/-- What may stand between two quotes: any characters but this quote and backslashes, and
backslashes, each with the character behind it. -/
inductive IsQuoted (quote : Char) : List Char → Prop
  | nil : IsQuoted quote []
  | char {c : Char} {rest : List Char} (hquote : c ≠ quote) (hbackslash : c ≠ '\\')
    (h : IsQuoted quote rest) : IsQuoted quote (c :: rest)
  /-- The escaped character may be any one. -/
  | escape (c : Char) {rest : List Char} (h : IsQuoted quote rest) :
    IsQuoted quote ('\\' :: c :: rest)

/-- One of the backslashes that escape something stands before a line break. -/
def EscapesBreak (quote : Char) (body : List Char) : Prop :=
  ∃ before behind, body = before ++ '\\' :: '\n' :: behind ∧ IsQuoted quote before

/-- No closing quote follows, or a line break is escaped before it. -/
def StaysOpen (quote : Char) (rest : List Char) : Prop :=
  ∀ body behind, rest = body ++ quote :: behind → IsQuoted quote body → EscapesBreak quote body

variable {quote : Char} {cs body rest : List Char}

/-- The scanner stops in front of an escaped line break. -/
theorem quotedTailLength?_break (h : IsQuoted quote body) (behind : List Char) :
    quotedTailLength? quote (body ++ '\\' :: '\n' :: behind) = none := by
  induction h with
  | nil => rfl
  | char hquote hbackslash _ ih =>
    rw [List.cons_append, quotedTailLength?, if_neg hquote, ih]
    · rfl
    · exact hbackslash
  | escape c _ ih =>
    rw [List.cons_append, List.cons_append, quotedTailLength?, ih]
    split <;> rfl

/-- It passes over everything else. -/
theorem IsQuoted.passes (h : IsQuoted quote body) (hbreak : ¬ EscapesBreak quote body) :
    Passes quote body := by
  induction h with
  | nil => exact passes_nil
  | @char c rest hquote hbackslash _ ih =>
    refine (passes_char hbackslash hquote).append (ih ?_)
    rintro ⟨before, behind, rfl, hbefore⟩
    exact hbreak ⟨c :: before, behind, rfl, .char hquote hbackslash hbefore⟩
  | @escape c rest _ ih =>
    have hc : c ≠ '\n' := by
      rintro rfl
      exact hbreak ⟨[], rest, rfl, .nil⟩
    refine (passes_escaped hc).append (ih ?_)
    rintro ⟨before, behind, rfl, hbefore⟩
    exact hbreak ⟨'\\' :: c :: before, behind, rfl, .escape c hbefore⟩

/-- What the scanner has passed over when it finds the quote. -/
theorem exists_quoted_of_quotedTailLength? {n : Nat} (h : quotedTailLength? quote cs = some n) :
    ∃ body behind, cs = body ++ quote :: behind ∧ IsQuoted quote body := by
  fun_induction quotedTailLength? quote cs generalizing n with
  | case1 => cases h
  | case2 => cases h
  | case3 => cases h
  | case4 c more hc ih =>
    obtain ⟨m, hm, -⟩ := Option.map_eq_some_iff.mp h
    obtain ⟨body, behind, rfl, hbody⟩ := ih hm
    exact ⟨'\\' :: c :: body, behind, rfl, .escape c hbody⟩
  | case5 cs hescape => exact ⟨[], cs, rfl, .nil⟩
  | case6 c cs hescape hc ih =>
    obtain ⟨m, hm, -⟩ := Option.map_eq_some_iff.mp h
    obtain ⟨body, behind, rfl, hbody⟩ := ih hm
    exact ⟨c :: body, behind, rfl, .char hc hescape hbody⟩

/-- The scanner does not find the closing quote if there is none or it stops at an escaped line
break before. -/
theorem quotedTailLength?_eq_none_iff (hquote : quote ≠ '\\') :
    quotedTailLength? quote rest = none ↔ StaysOpen quote rest := by
  constructor
  · rintro hnone body behind rfl hbody
    by_contra hbreak
    have hfound := (hbody.passes hbreak).quotedTailLength hquote behind
    rw [hnone] at hfound
    cases hfound
  · intro hopen
    cases hclose : quotedTailLength? quote rest with
    | none => rfl
    | some n =>
      obtain ⟨body, behind, rfl, hbody⟩ := exists_quoted_of_quotedTailLength? hclose
      obtain ⟨before, more, rfl, hbefore⟩ := hopen body behind rfl hbody
      rw [List.append_assoc, List.cons_append, List.cons_append,
        quotedTailLength?_break hbefore] at hclose
      cases hclose

/-! ### Refused strings -/

/-- A quote begins a lexeme exactly if the string is found to be closed. -/
theorem first?_quote_eq_none_iff (hquote : quote = '\'' ∨ quote = '"') :
    LexRule.first? (quote :: rest) = none ↔ StaysOpen quote rest := by
  have hbackslash : quote ≠ '\\' := by
    rcases hquote with rfl | rfl <;> decide
  obtain ⟨rule, hrule, hlength⟩ : ∃ rule : LexRule,
      (rule, quote) ∈ [(.blockComment, '/'), (.singleQuoted, '\''), (.doubleQuoted, '"')] ∧
        rule.length (quote :: rest) = ((quotedTailLength? quote rest).map (· + 1)).getD 0 := by
    rcases hquote with rfl | rfl
    · exact ⟨.singleQuoted, by simp, rfl⟩
    · exact ⟨.doubleQuoted, by simp, rfl⟩
  rw [← quotedTailLength?_eq_none_iff hbackslash]
  constructor
  · intro hnone
    cases hclose : quotedTailLength? quote rest with
    | none => rfl
    | some n =>
      -- Then the rule for this string would match.
      rw [hclose] at hlength
      rw [LexRule.first?, List.find?_eq_none] at hnone
      have hmem : (rule, rule.length (quote :: rest)) ∈
          LexRule.all.map fun r => (r, r.length (quote :: rest)) :=
        List.mem_map_of_mem (by cases rule <;> decide)
      have hzero := hnone _ hmem
      rw [hlength] at hzero
      exact absurd rfl hzero
  · intro hnone
    rw [hnone] at hlength
    exact LexRule.first?_eq_none hrule hlength

variable {file text : String} {place : Location}

/-- A lexeme that is refused is a number. -/
theorem eq_invalidNumber_of_token? {rule : LexRule} {l : Location} {lexeme : List Char}
    {e : ParseError} (h : rule.token? l lexeme = .error e) :
    e = .invalidNumber (String.ofList lexeme) l := by
  cases rule with
  | integer =>
    rw [LexRule.token?, integerToken] at h
    split at h <;> cases h
    rfl
  | _ => cases h

theorem RefusedAt.of_unterminated {l : Location}
    (h : RefusedAt l cs (.unterminated .string place)) :
    l = place ∧ ∃ quote rest, cs = quote :: rest ∧ (quote = '\'' ∨ quote = '"') ∧
      StaysOpen quote rest := by
  generalize he : ParseError.unterminated .string place = e at h
  cases h with
  | token _ herror =>
    rw [eq_invalidNumber_of_token? herror] at he
    cases he
  | @unmatched c rest hnone =>
    unfold Manifest.unmatched at he
    split at he
    · next hquote =>
      cases he
      rw [Bool.or_eq_true, decide_eq_true_eq, decide_eq_true_eq] at hquote
      exact ⟨rfl, c, rest, rfl, hquote, (first?_quote_eq_none_iff hquote).mp hnone⟩
    · split at he <;> cases he

/-- At a place where a quote begins a lexeme, a text is refused with an unclosed string exactly if
no closing quote follows or a line break is escaped before it. -/
theorem unterminated_iff (hquote : quote = '\'' ∨ quote = '"')
    (h : Reaches ⟨file, 1, 1⟩ text.toList place (quote :: rest)) :
    lex file text = .error (.unterminated .string place) ↔ StaysOpen quote rest := by
  constructor
  · intro herror
    obtain ⟨m, rest', hwalk, hrefused⟩ := exists_reaches_of_error herror
    obtain ⟨rfl, _, _, rfl, -, hopen⟩ := hrefused.of_unterminated
    -- Only one text stands behind the place.
    cases h.unique hwalk
    exact hopen
  · intro hopen
    have hrefused : RefusedAt place (quote :: rest) (unmatched place quote rest) :=
      .unmatched ((first?_quote_eq_none_iff hquote).mpr hopen)
    have herror : unmatched place quote rest = .unterminated .string place := by
      rcases hquote with rfl | rfl <;> rfl
    obtain ⟨tokens, hread⟩ := h.lexFrom_eq
    rw [lex, hread, hrefused.lexFrom_eq, herror]
    rfl

/-- An escaped quote closes nothing, so that the string behind the word stays open. -/
theorem unterminated_iff_sample :
    Reaches ⟨"site.pp", 1, 1⟩ "x 'it\\'s".toList ⟨"site.pp", 1, 3⟩ "'it\\'s".toList ∧
      lex "site.pp" "x 'it\\'s" = .error (.unterminated .string ⟨"site.pp", 1, 3⟩) ∧
      StaysOpen '\'' "it\\'s".toList := by
  have hword : LexRule.first? "x 'it\\'s".toList = some (.word, 1) := by decide +kernel
  have hblank : LexRule.first? " 'it\\'s".toList = some (.blanks, 1) := by decide +kernel
  have hwalk : Reaches ⟨"site.pp", 1, 1⟩ "x 'it\\'s".toList ⟨"site.pp", 1, 3⟩ "'it\\'s".toList :=
    .lexeme hword rfl (.lexeme hblank rfl (.here _ _))
  have herror : lex "site.pp" "x 'it\\'s" = .error (.unterminated .string ⟨"site.pp", 1, 3⟩) := by
    decide +kernel
  exact ⟨hwalk, herror, (unterminated_iff (.inl rfl) hwalk).mp herror⟩

/-- A string with a closing quote behind an escaped line break is refused as well. -/
theorem unterminated_closed :
    Reaches ⟨"site.pp", 1, 1⟩ "'a\\\nb'".toList ⟨"site.pp", 1, 1⟩ ('\'' :: "a\\\nb'".toList) ∧
      (∃ body behind, "a\\\nb'".toList = body ++ '\'' :: behind ∧ IsQuoted '\'' body) ∧
      lex "site.pp" "'a\\\nb'" = .error (.unterminated .string ⟨"site.pp", 1, 1⟩) := by
  have hbody : IsQuoted '\'' ['a', '\\', '\n', 'b'] :=
    .char (by decide) (by decide) (.escape '\n' (.char (by decide) (by decide) .nil))
  exact ⟨.here _ _, ⟨_, [], rfl, hbody⟩, by decide +kernel⟩

end Manifest
