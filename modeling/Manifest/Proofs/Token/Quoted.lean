import Manifest.Proofs.Token.Lexemes

/-!
# Quoted strings

A scanner that looks for the closing quote passes over escaped texts, whatever is in them, and over
variables between braces.  What it leaves between the quotes is read back as the text or the pieces
that were written.

## Main definitions

* `Passes` — a scanner for a quote passes over a text.
* `TemplatePart.pieces` — a piece of a template character by character.

## Main results

* `lexeme_string`, `lexeme_template` — quoted strings are read back.
* `unescapeSingle_escape` — the text of a single-quoted string.
* `templatePieces_spelling`, `joinPieces_pieces` — the pieces of a double-quoted string.
-/

namespace Manifest

variable {cs body : List Char} {parts : List TemplatePart}

/-! ### To the closing quote -/

/-- A scanner that looks for a quote passes over a text. -/
def Passes (quote : Char) (body : List Char) : Prop :=
  ∀ rest, quotedTailLength? quote (body ++ rest) =
    (quotedTailLength? quote rest).map (· + body.length)

section Passes

variable {quote : Char}

theorem passes_nil : Passes quote [] := fun rest => by simp

theorem Passes.append {body' : List Char} (h : Passes quote body) (h' : Passes quote body') :
    Passes quote (body ++ body') := fun rest => by
  rw [List.append_assoc, h, h', Option.map_map, List.length_append]
  congr 1
  funext n
  simp only [Function.comp_apply]
  omega

theorem passes_flatMap {α : Type} {f : α → List Char} :
    ∀ {as : List α}, (∀ a ∈ as, Passes quote (f a)) → Passes quote (as.flatMap f)
  | [], _ => passes_nil
  | a :: _, h => (h a List.mem_cons_self).append
    (passes_flatMap fun b hb => h b (List.mem_cons_of_mem a hb))

theorem passes_char {c : Char} (hc : c ≠ '\\') (hquote : c ≠ quote) : Passes quote [c] :=
  fun rest => by
    rw [List.singleton_append, quotedTailLength?, if_neg hquote]
    · rfl
    · exact fun h => hc h

theorem passes_escaped {c : Char} (hc : c ≠ '\n') : Passes quote ['\\', c] := fun rest => by
  rw [List.cons_append, List.singleton_append, quotedTailLength?, if_neg hc]
  rfl

/-- An escaped text hides its quotes. -/
theorem passes_escape {special : List Char} (hbackslash : '\\' ∈ special) (hquote : quote ∈ special)
    (hbreak : '\n' ∉ special) (cs : List Char) : Passes quote (escape special cs) := by
  refine passes_flatMap fun c _ => ?_
  by_cases hc : c ∈ special
  · rw [if_pos hc]
    exact passes_escaped fun h => hbreak (h ▸ hc)
  · rw [if_neg hc]
    exact passes_char (fun h => hc (h ▸ hbackslash)) fun h => hc (h ▸ hquote)

theorem Passes.quotedTailLength (h : Passes quote body) (hquote : quote ≠ '\\')
    (rest : List Char) :
    quotedTailLength? quote (body ++ quote :: rest) = some (body.length + 1) := by
  have hclose : quotedTailLength? quote (quote :: rest) = some 1 := by
    rw [quotedTailLength?, if_pos rfl]
    exact fun h => hquote h
  rw [h, hclose, Option.map_some, Nat.add_comm]

end Passes

theorem insideQuotes_quoted (quote : Char) (body : List Char) :
    insideQuotes (quote :: (body ++ [quote])) = body := by
  rw [insideQuotes, List.tail_cons, List.dropLast_concat]

/-! ### Single quotes -/

/-- The text of a single-quoted string is what was escaped. -/
theorem unescapeSingle_escape : ∀ cs : List Char, unescapeSingle (escape ['\\', '\''] cs) = cs
  | [] => rfl
  | c :: cs => by
    have ih := unescapeSingle_escape cs
    have hcons : escape ['\\', '\''] (c :: cs) =
        (if c ∈ ['\\', '\''] then ['\\', c] else [c]) ++ escape ['\\', '\''] cs := rfl
    by_cases hc : c ∈ ['\\', '\'']
    · rw [hcons, if_pos hc]
      rcases List.mem_pair.mp hc with rfl | rfl
      · exact congrArg ('\\' :: ·) ih
      · exact congrArg ('\'' :: ·) ih
    · rw [hcons, if_neg hc, List.singleton_append, unescapeSingle, ih]
      · rintro _ rfl -
        exact hc List.mem_cons_self
      · rintro _ rfl -
        exact hc List.mem_cons_self

theorem lexeme_string (text : String) :
    Lexeme .singleQuoted (TokenKind.string text).spelling (.string text) := by
  have hpasses : Passes '\'' (escape ['\\', '\''] text.toList) :=
    passes_escape (by decide) (by decide) (by decide) text.toList
  refine .of_opens (by decide) (fun rest _ => ?_) fun location => ?_
  · rw [List.append_assoc, List.singleton_append, LexRule.length,
      hpasses.quotedTailLength (by decide)]
    simp
  · rw [LexRule.token?, insideQuotes_quoted, unescapeSingle_escape, String.ofList_toList]

/-! ### Double quotes -/

/-- A piece of a template character by character. -/
def TemplatePart.pieces : TemplatePart → List TemplatePiece
  | literal text => text.toList.map .char
  | interpolated name => [.name name.toList]

theorem templatePieces_append (cs rest : List Char) :
    templatePieces cs.length (cs ++ rest) = templatePieces 0 rest := by
  induction cs with
  | nil => rfl
  | cons c cs ih => exact ih

theorem templatePieces_escape (rest : List Char) :
    ∀ cs : List Char, templatePieces 0 (escape ['\\', '"', '$'] cs ++ rest) =
      cs.map .char ++ templatePieces 0 rest
  | [] => rfl
  | c :: cs => by
    have ih := templatePieces_escape rest cs
    have hcons : escape ['\\', '"', '$'] (c :: cs) =
        (if c ∈ ['\\', '"', '$'] then ['\\', c] else [c]) ++ escape ['\\', '"', '$'] cs := rfl
    by_cases hc : c ∈ ['\\', '"', '$']
    · have hescaped : escapedChar? c = some c := by
        simp only [List.mem_cons, List.not_mem_nil, or_false] at hc
        rcases hc with rfl | rfl | rfl <;> rfl
      rw [hcons, if_pos hc, List.append_assoc, List.cons_append, List.singleton_append,
        templatePieces, hescaped]
      exact congrArg (.char c :: ·) ih
    · rw [hcons, if_neg hc, List.append_assoc, List.singleton_append, templatePieces, ih]
      · rfl
      · rintro _ _ rfl -
        exact hc (by decide)
      · rintro rfl
        exact hc (by decide)

theorem interpolation_braces {name : List Char} (hname : name ≠ [])
    (hchars : name.all fun c => isAsciiWordChar c || c == ':') (rest : List Char) :
    interpolation ('{' :: (name ++ '}' :: rest)) = (name, name.length + 2) := by
  have hbrace : ∀ c ∈ name, decide (c ≠ '}') = true := by
    intro c hc
    refine decide_eq_true ?_
    rintro rfl
    exact absurd (List.all_eq_true.mp hchars _ hc) (by decide)
  have htake : (name ++ '}' :: rest).takeWhile (· ≠ '}') = name := by
    rw [List.takeWhile_append_of_pos hbrace]
    simp
  have hall : name.all isInterpolatedChar = true := hchars
  simp only [interpolation, htake, hall]
  simp [hname]

theorem templatePieces_interpolated {name : List Char} (hname : name ≠ [])
    (hchars : name.all fun c => isAsciiWordChar c || c == ':') (rest : List Char) :
    templatePieces 0 ('$' :: '{' :: (name ++ '}' :: rest)) =
      .name name :: templatePieces 0 rest := by
  have hskip := templatePieces_append ('{' :: (name ++ ['}'])) rest
  have hlength : ('{' :: (name ++ ['}'])).length = name.length + 2 := by simp
  rw [hlength, List.cons_append, List.append_assoc, List.singleton_append] at hskip
  rw [templatePieces, interpolation_braces hname hchars]
  simp only [List.isEmpty_eq_false_iff.mpr hname, Bool.false_eq_true, if_false, hskip]

/-- The pieces of a double-quoted string are those that were written. -/
theorem templatePieces_spelling :
    ∀ {parts : List TemplatePart}, (∀ p ∈ parts, p.IsWritable) →
      templatePieces 0 (parts.flatMap TemplatePart.spelling) = parts.flatMap TemplatePart.pieces
  | [], _ => rfl
  | .literal text :: parts, h => by
    have ih := templatePieces_spelling fun p hp => h p (List.mem_cons_of_mem _ hp)
    rw [List.flatMap_cons, List.flatMap_cons, TemplatePart.spelling, templatePieces_escape, ih]
    rfl
  | .interpolated name :: parts, h => by
    obtain ⟨hname, hchars⟩ := h _ List.mem_cons_self
    have ih := templatePieces_spelling fun p hp => h p (List.mem_cons_of_mem _ hp)
    rw [List.flatMap_cons, List.flatMap_cons, TemplatePart.spelling, List.cons_append,
      List.cons_append, List.append_assoc, List.singleton_append,
      templatePieces_interpolated (fun h => hname (String.toList_eq_nil_iff.mp h)) hchars, ih]
    rfl

/-- Characters are joined with each other, but with no variable behind them. -/
theorem joinPieces_chars {pieces : List TemplatePiece}
    (h : ∀ p ∈ (joinPieces pieces).head?, p.isLiteral = false) :
    ∀ {cs : List Char}, cs ≠ [] →
      joinPieces (cs.map .char ++ pieces) = .literal (String.ofList cs) :: joinPieces pieces
  | [c], _ => by
    rw [List.map_singleton, List.singleton_append, joinPieces]
    cases hparts : joinPieces pieces with
    | nil => rfl
    | cons p rest =>
      cases p with
      | literal text => exact absurd (h _ (by rw [hparts]; rfl)) (by simp [TemplatePart.isLiteral])
      | interpolated name => rfl
  | c :: d :: cs, _ => by
    have ih := joinPieces_chars h (List.cons_ne_nil d cs)
    rw [List.map_cons, List.cons_append, joinPieces, ih]
    simp

/-- Pieces are joined to what was written. -/
theorem joinPieces_pieces :
    ∀ {parts : List TemplatePart}, (∀ p ∈ parts, p.IsWritable) →
      parts.IsChain (fun p q => p.isLiteral = false ∨ q.isLiteral = false) →
      joinPieces (parts.flatMap TemplatePart.pieces) = parts
  | [], _, _ => rfl
  | .interpolated name :: parts, h, hchain => by
    have ih := joinPieces_pieces (fun p hp => h p (List.mem_cons_of_mem _ hp)) hchain.tail
    rw [List.flatMap_cons, TemplatePart.pieces, List.singleton_append, joinPieces, ih,
      String.ofList_toList]
  | .literal text :: parts, h, hchain => by
    have ih := joinPieces_pieces (fun p hp => h p (List.mem_cons_of_mem _ hp)) hchain.tail
    have htext : text.toList ≠ [] :=
      fun he => h _ List.mem_cons_self (String.toList_eq_nil_iff.mp he)
    have hnext : ∀ p ∈ parts.head?, p.isLiteral = false := fun p hp =>
      ((List.isChain_cons.mp hchain).1 p hp).resolve_left (by simp [TemplatePart.isLiteral])
    rw [List.flatMap_cons, TemplatePart.pieces, joinPieces_chars (ih.symm ▸ hnext) htext, ih,
      String.ofList_toList]

/-- What is between the quotes is read back as the pieces that were written. -/
theorem templateParts_spelling (h : IsTemplate parts) :
    templateParts (parts.flatMap TemplatePart.spelling) = parts := by
  rcases h with rfl | ⟨hne, hwritable, hchain⟩
  · rfl
  · rw [templateParts, templatePieces_spelling hwritable, joinPieces_pieces hwritable hchain]
    cases parts with
    | nil => exact absurd rfl hne
    | cons p parts => rfl

theorem passes_spelling {p : TemplatePart} (h : p.IsWritable ∨ p.isLiteral = true) :
    Passes '"' p.spelling := by
  cases p with
  | literal text => exact passes_escape (by decide) (by decide) (by decide) text.toList
  | interpolated name =>
    obtain ⟨-, hchars⟩ := h.resolve_right (by simp [TemplatePart.isLiteral])
    have hname : Passes '"' name.toList := by
      have hplain : Passes '"' (name.toList.flatMap fun c => [c]) := by
        refine passes_flatMap fun c hc => ?_
        have hchar := List.all_eq_true.mp hchars c hc
        refine passes_char ?_ ?_
        · rintro rfl
          exact absurd hchar (by decide)
        · rintro rfl
          exact absurd hchar (by decide)
      rwa [List.flatMap_singleton'] at hplain
    have hopen : Passes '"' ['$', '{'] :=
      (passes_char (c := '$') (by decide) (by decide)).append
        (passes_char (c := '{') (by decide) (by decide))
    have hclose : Passes '"' ['}'] := passes_char (by decide) (by decide)
    exact hopen.append (hname.append hclose)

theorem lexeme_template (h : IsTemplate parts) :
    Lexeme .doubleQuoted (TokenKind.template parts).spelling (.template parts) := by
  have hpasses : Passes '"' (parts.flatMap TemplatePart.spelling) := by
    refine passes_flatMap fun p hp => passes_spelling ?_
    rcases h with rfl | ⟨-, hwritable, -⟩
    · exact .inr (List.mem_singleton.mp hp ▸ rfl)
    · exact .inl (hwritable p hp)
  refine .of_opens (by decide) (fun rest _ => ?_) fun location => ?_
  · rw [List.append_assoc, List.singleton_append, LexRule.length,
      hpasses.quotedTailLength (by decide)]
    simp
  · rw [LexRule.token?, insideQuotes_quoted, templateParts_spelling h]

end Manifest
