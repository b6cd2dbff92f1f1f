import Manifest.Proofs.Token.Quoted

/-!
# Spelled tokens are read back

The spelling of every token is a lexeme of one of the rules.  A text of spellings with a blank
between any two is therefore read token by token, each blank being skipped alone.

## Main results

* `TokenKind.IsSpellable.lexeme` — the spelling of a token is a lexeme.
* `lexFrom_lexeme`, `lexFrom_blank` — one lexeme and one blank are read.
* `lex_spell` — a text of spelled tokens is read back.
-/

namespace Manifest

/-! ### Single tokens -/

theorem ofText?_text (k : Keyword) : Keyword.ofText? k.text = some k := by cases k <;> decide

theorem isName_text (k : Keyword) :
    IsName Text.isLowerStart Text.isLowerStart (isAsciiWordChar · = true) k.text.toList := by
  have hfirst : k.text.toList.head?.all Text.isLowerStart = true := by cases k <;> decide
  have hinside : k.text.toList.tail.all isAsciiWordChar = true := by cases k <;> decide
  cases htext : k.text.toList with
  | nil => cases k <;> cases htext
  | cons c tail =>
    rw [htext] at hfirst hinside
    exact ⟨[], _, .inl rfl, ⟨c, tail, rfl, hfirst, .of_forall (List.all_eq_true.mp hinside)⟩, rfl⟩

/-- The spelling of a token is a lexeme. -/
theorem TokenKind.IsSpellable.lexeme {kind : TokenKind} (h : kind.IsSpellable) :
    ∃ rule, Lexeme rule kind.spelling kind := by
  cases kind with
  | keyword word =>
    have hlexeme := lexeme_word (isName_text word)
    rw [String.ofList_toList, TokenKind.ofWord, ofText?_text] at hlexeme
    exact ⟨.word, hlexeme⟩
  | name text =>
    have hlexeme := lexeme_word h.1
    rw [String.ofList_toList, TokenKind.ofWord, h.2] at hlexeme
    exact ⟨.word, hlexeme⟩
  | typeName text =>
    have hlexeme := lexeme_typeName h
    rw [String.ofList_toList] at hlexeme
    exact ⟨.typeName, hlexeme⟩
  | variableName text =>
    have hlexeme := lexeme_variableName h
    rw [String.ofList_toList] at hlexeme
    exact ⟨.variableName, hlexeme⟩
  | string text => exact ⟨.singleQuoted, lexeme_string text⟩
  | template parts => exact ⟨.doubleQuoted, lexeme_template h⟩
  | integer value =>
    obtain ⟨n, rfl⟩ := Int.eq_ofNat_of_zero_le h.1
    exact ⟨.integer, lexeme_integer (Int.ofNat_le.mp h.2)⟩
  | symbol sign => exact ⟨.symbol, lexeme_symbol sign⟩
  | eof => exact h.elim

/-! ### Walking over the text -/

/-- The place behind characters that begin at a place. -/
def Location.afterAll (l : Location) (cs : List Char) : Location := cs.foldl Location.after l

theorem lexFrom_append (rest : List Char) :
    ∀ (cs : List Char) (location : Location),
      lexFrom location cs.length (cs ++ rest) = lexFrom (location.afterAll cs) 0 rest
  | [], _ => rfl
  | c :: cs, location => lexFrom_append rest cs (location.after c)

variable {rule : LexRule} {cs rest : List Char} {kind : TokenKind}

/-- Blanks are skipped before anything else. -/
theorem first?_blanks (h : LexRule.blanks.length cs ≠ 0) :
    LexRule.first? cs = some (.blanks, LexRule.blanks.length cs) :=
  LexRule.first?_eq_some h fun r hr => absurd (show r ∈ [] from hr) List.not_mem_nil

theorem Lexeme.ne_nil (h : Lexeme rule cs kind) : cs ≠ [] := by
  rintro rfl
  have hfound := List.find?_some (h.first [] (.inl rfl))
  simp at hfound

/-- One lexeme is read. -/
theorem lexFrom_lexeme (h : Lexeme rule cs kind) (hrest : Stops rest) (location : Location) :
    lexFrom location 0 (cs ++ rest) =
      (lexFrom (location.afterAll cs) 0 rest).map (⟨kind, location⟩ :: ·) := by
  have hfirst := h.first rest hrest
  cases cs with
  | nil => exact absurd rfl h.ne_nil
  | cons c cs =>
    have htake : (c :: (cs ++ rest)).take (cs.length + 1) = c :: cs := by simp
    have hwalk := lexFrom_append rest cs (location.after c)
    rw [List.cons_append, List.length_cons] at hfirst
    rw [List.cons_append, lexFrom, hfirst]
    simp only [htake, h.token location, Nat.add_sub_cancel, hwalk]
    have hafter : location.afterAll (c :: cs) = (location.after c).afterAll cs := rfl
    rw [hafter]
    cases lexFrom ((location.after c).afterAll cs) 0 rest <;> rfl

theorem lexFrom_blanks {c : Char} (hc : Text.isBlank c = true) (location : Location)
    (cs : List Char) : lexFrom location 0 (c :: cs) =
      lexFrom (location.after c) (cs.takeWhile Text.isBlank).length cs := by
  have hlength : LexRule.blanks.length (c :: cs) = (cs.takeWhile Text.isBlank).length + 1 := by
    rw [LexRule.length, List.takeWhile_cons, if_pos hc, List.length_cons]
  rw [lexFrom, first?_blanks (hlength ▸ Nat.succ_ne_zero _), hlength]
  rfl

/-- Blanks may as well be skipped one by one. -/
theorem lexFrom_blank {c : Char} (hc : Text.isBlank c = true) (location : Location)
    (cs : List Char) : lexFrom location 0 (c :: cs) = lexFrom (location.after c) 0 cs := by
  rw [lexFrom_blanks hc]
  cases cs with
  | nil => rfl
  | cons d rest =>
    by_cases hd : Text.isBlank d = true
    · rw [lexFrom_blanks hd, List.takeWhile_cons, if_pos hd, List.length_cons, lexFrom]
    · rw [List.takeWhile_cons, if_neg hd, List.length_nil]

/-! ### Texts of tokens -/

theorem spellings_singleton (kind : TokenKind) : spellings [kind] = kind.spelling := by
  simp [spellings]

theorem spellings_cons_cons (kind next : TokenKind) (more : List TokenKind) :
    spellings (kind :: next :: more) = kind.spelling ++ ' ' :: spellings (next :: more) := by
  simp [spellings, List.intercalate_cons_cons]

/-- From any place on, a text of tokens is read back. -/
theorem lexFrom_spellings :
    ∀ {kinds : List TokenKind}, (∀ kind ∈ kinds, kind.IsSpellable) → ∀ location : Location,
      (lexFrom location 0 (spellings kinds)).map (List.map Token.kind) = .ok (kinds ++ [.eof])
  | [], _, location => rfl
  | [kind], h, location => by
    obtain ⟨rule, hlexeme⟩ := (h kind List.mem_cons_self).lexeme
    have hread := lexFrom_lexeme hlexeme (.inl rfl) location
    rw [List.append_nil] at hread
    rw [spellings_singleton, hread]
    rfl
  | kind :: next :: more, h, location => by
    obtain ⟨rule, hlexeme⟩ := (h kind List.mem_cons_self).lexeme
    have hmore : ∀ k ∈ next :: more, k.IsSpellable := fun k hk => h k (List.mem_cons_of_mem kind hk)
    have ih := lexFrom_spellings hmore ((location.afterAll kind.spelling).after ' ')
    rw [spellings_cons_cons, lexFrom_lexeme hlexeme (.inr ⟨_, rfl⟩),
      lexFrom_blank (by decide)]
    cases hread : lexFrom ((location.afterAll kind.spelling).after ' ') 0
        (spellings (next :: more)) with
    | error e =>
      rw [hread] at ih
      cases ih
    | ok tokens =>
      rw [hread] at ih
      exact congrArg (Except.map (kind :: ·)) ih

/-- The text of spelled tokens is read back as these tokens, with the end of the input behind
them. -/
theorem lex_spell (file : String) (kinds : List TokenKind)
    (h : ∀ kind ∈ kinds, kind.IsSpellable) :
    (lex file (spell kinds)).map (List.map Token.kind) = .ok (kinds ++ [.eof]) := by
  rw [lex, spell, String.toList_ofList]
  exact lexFrom_spellings h ⟨file, 1, 1⟩

namespace Sample

/-- A token of every kind, with what has to be escaped in quotes. -/
def tokens : List TokenKind :=
  [.keyword .classWord, .name "a::b_1", .typeName "::File::line", .variableName "::a::B2",
   .string "it's \\\n", .template [.literal "\"$\\n", .interpolated "x::y", .interpolated "z"],
   .template [.literal ""], .integer 9223372036854775807, .symbol .arrow]

theorem isSpellable_tokens : ∀ kind ∈ tokens, kind.IsSpellable := by
  have hname : IsName Text.isLowerStart Text.isLowerStart (isAsciiWordChar · = true)
      "a::b_1".toList :=
    ⟨[], _, .inl rfl, ⟨'a', [':', ':', 'b', '_', '1'], rfl, by decide,
      .segment (by decide) (.of_forall (List.all_eq_true.mp rfl))⟩, rfl⟩
  have htype : IsName Text.isUpperStart Text.isNameStart (isAsciiWordChar · = true)
      "::File::line".toList :=
    ⟨[':', ':'], _, .inr rfl, ⟨'F', ['i', 'l', 'e', ':', ':', 'l', 'i', 'n', 'e'], rfl, by decide,
      .inside (by decide) (.inside (by decide) (.inside (by decide)
        (.segment (by decide) (.of_forall (List.all_eq_true.mp rfl)))))⟩, rfl⟩
  have hvariable : IsName Text.isNameStart Text.isNameStart (isAsciiWordChar · = true)
      "::a::B2".toList :=
    ⟨[':', ':'], _, .inr rfl, ⟨'a', [':', ':', 'B', '2'], rfl, by decide,
      .segment (by decide) (.of_forall (List.all_eq_true.mp rfl))⟩, rfl⟩
  have htemplate : IsTemplate [.literal "\"$\\n", .interpolated "x::y", .interpolated "z"] := by
    refine .inr ⟨List.cons_ne_nil _ _, ?_, by simp [TemplatePart.isLiteral]⟩
    simp only [List.forall_mem_cons, TemplatePart.IsWritable]
    exact ⟨by decide, ⟨by decide, by decide⟩, ⟨by decide, by decide⟩, by simp⟩
  intro kind hkind
  simp only [tokens, List.mem_cons, List.not_mem_nil, or_false] at hkind
  rcases hkind with rfl | rfl | rfl | rfl | rfl | rfl | rfl | rfl | rfl
  · trivial
  · exact ⟨hname, by decide⟩
  · exact htype
  · exact hvariable
  · trivial
  · exact htemplate
  · exact .inl rfl
  · exact ⟨by decide, by decide⟩
  · trivial

end Sample

theorem lex_spell_sample :
    (∀ kind ∈ Sample.tokens, kind.IsSpellable) ∧
      spell Sample.tokens = "class a::b_1 ::File::line $::a::B2 'it\\'s \\\\\n' " ++
        "\"\\\"\\$\\\\n$\x7bx::y\x7d$\x7bz\x7d\" \"\" 9223372036854775807 ->" ∧
      (lex "site.pp" (spell Sample.tokens)).map (List.map Token.kind) =
        .ok (Sample.tokens ++ [.eof]) :=
  ⟨Sample.isSpellable_tokens, by decide +kernel,
    lex_spell "site.pp" Sample.tokens Sample.isSpellable_tokens⟩

end Manifest
