import Manifest.Proofs.Token.Interpolation
import Manifest.Proofs.Token.Languages

/-!
# The tokens of a text at their places

A text consists of the lexemes of its tokens, with white space and comments between them, and every
token stands where its lexeme begins.  Lines and columns are counted here from the beginning of the
text, and not while it is read: the line by the line breaks before a place, the column by the
characters behind the last of them.  A text that is refused is refused at the place up to which it
is such a text, because nothing begins there, or a number that is none of 64 bits.

## Main definitions

* `placeAfter` — the place behind the beginning of a text.
* `IsSpacing`, `TokenKind.IsSpelled` — the lexemes without a token, and those of a token.
* `Laid` — tokens in a text, from one place to another.
* `Starts`, `StartsBadNumber` — what begins at a place.
* `ReadTo` — how far a text is read.

## Main results

* `afterAll_placeAfter` — the place that is kept while reading is the one that is counted.
* `isSpelled_of_token?` — a token is written like its lexeme.
* `exists_readTo` — every text is read up to some place.
* `lex_laid` — all of it.
-/

namespace Manifest

variable {cs piece rest before : List Char} {file : String}

/-! ### Places -/

/-- The place behind the characters at the beginning of a text. -/
def placeAfter (file : String) (before : List Char) : Location :=
  ⟨file, before.count '\n' + 1, (before.reverse.takeWhile (· ≠ '\n')).length + 1⟩

theorem placeAfter_concat (file : String) (before : List Char) (c : Char) :
    placeAfter file (before ++ [c]) = (placeAfter file before).after c := by
  rw [placeAfter, List.count_append, List.reverse_append, Location.after]
  by_cases hc : c = '\n'
  · simp [hc, placeAfter]
  · simp [hc, placeAfter]

/-- The place that is kept while a text is read is the one that is counted from its beginning. -/
theorem afterAll_placeAfter (file : String) (before cs : List Char) :
    (placeAfter file before).afterAll cs = placeAfter file (before ++ cs) := by
  induction cs generalizing before with
  | nil => rw [List.append_nil]; rfl
  | cons c cs ih =>
    have hstep : (placeAfter file before).afterAll (c :: cs) =
        ((placeAfter file before).after c).afterAll cs := rfl
    rw [hstep, ← placeAfter_concat, ih, List.append_assoc, List.singleton_append]

/-- The place that an error names. -/
def ParseError.location : ParseError → Location
  | unexpectedChar _ l | unterminated _ l | invalidNumber _ l | unexpectedToken _ _ l
  | duplicate _ _ l => l
  | misplaced fault => fault.location

/-! ### Lexemes and their tokens -/

/-- White space or a comment. -/
def IsSpacing (piece : List Char) : Prop :=
  ∃ rule ∈ [LexRule.blanks, .lineComment, .blockComment], rule.Matches piece

/-- How the token of a kind is written; an integer is one of 64 bits with a sign. -/
def TokenKind.IsSpelled : TokenKind → List Char → Prop
  | keyword word, piece => piece = word.text.toList
  | name text, piece => piece = text.toList ∧ LexRule.word.Matches piece ∧
    ∀ word : Keyword, word.text ≠ text
  | typeName text, piece => piece = text.toList ∧ LexRule.typeName.Matches piece
  | variableName text, piece => piece = '$' :: text.toList ∧ LexRule.variableName.Matches piece
  | string text, piece => ∃ body, piece = '\'' :: (body ++ ['\'']) ∧ IsStringBody '\'' body ∧
    text.toList = unescapeSingle body
  | template parts, piece => ∃ body, piece = '"' :: (body ++ ['"']) ∧ IsStringBody '"' body ∧
    ReadsAs body (parts.flatMap TemplatePart.pieces) ∧ IsTemplate parts
  | integer value, piece => piece ≠ [] ∧ (∀ c ∈ piece, c.isDigit = true) ∧
    value = Nat.ofDigitChars 10 piece 0 ∧ value ≤ 9223372036854775807
  | symbol sign, piece => piece = sign.text.toList
  | eof, _ => False

/-- What is written for a token is a lexeme of some rule. -/
theorem exists_matches_of_isSpelled {kind : TokenKind} (h : kind.IsSpelled piece) :
    ∃ rule : LexRule, rule.Matches piece := by
  cases kind with
  | keyword word =>
    obtain rfl : piece = word.text.toList := h
    have hlength : LexRule.word.length word.text.toList = word.text.toList.length := by
      cases word <;> decide
    have hmatches : LexRule.word.Matches
        (word.text.toList.take (LexRule.word.length word.text.toList)) :=
      LexRule.matches_take_length (by cases word <;> decide)
    rw [hlength, List.take_length] at hmatches
    exact ⟨.word, hmatches⟩
  | name text => exact ⟨.word, h.2.1⟩
  | typeName text => exact ⟨.typeName, h.2⟩
  | variableName text => exact ⟨.variableName, h.2⟩
  | string text =>
    obtain ⟨body, hpiece, hbody, -⟩ := h
    exact ⟨.singleQuoted, body, hpiece, hbody⟩
  | template parts =>
    obtain ⟨body, hpiece, hbody, -⟩ := h
    exact ⟨.doubleQuoted, body, hpiece, hbody⟩
  | integer value =>
    exact ⟨.integer, h.1, fun c hc => (isDecimalDigit_of_isDigit (h.2.1 c hc)).1⟩
  | symbol sign => exact ⟨.symbol, sign, h⟩
  | eof => exact h.elim

variable {l : Location} {rule : LexRule} {n : Nat} {kind : TokenKind}

/-- A lexeme without a token is white space or a comment. -/
theorem isSpacing_of_token? (hpiece : rule.Matches piece) (h : rule.token? l piece = .ok none) :
    IsSpacing piece := by
  cases rule with
  | blanks | lineComment | blockComment => exact ⟨_, by simp, hpiece⟩
  | variableName | typeName | word | singleQuoted | doubleQuoted => cases h
  | integer =>
    rw [LexRule.token?] at h
    cases hvalue : integerToken l piece <;> rw [hvalue] at h <;> cases h
  | symbol =>
    obtain ⟨sign, rfl⟩ := hpiece
    obtain ⟨found, hfound, -⟩ := exists_symbolAt? sign []
    rw [List.append_nil] at hfound
    rw [LexRule.token?, hfound] at h
    cases h

theorem isSpelled_ofWord (hpiece : LexRule.word.Matches piece) :
    (TokenKind.ofWord (String.ofList piece)).IsSpelled piece := by
  rw [TokenKind.ofWord]
  split
  · next word hword =>
    have htext := List.find?_some (p := fun k : Keyword => k.text == String.ofList piece) hword
    rw [beq_iff_eq] at htext
    rw [TokenKind.IsSpelled, htext, String.toList_ofList]
  · next hnone =>
    refine ⟨String.toList_ofList.symm, hpiece, fun word htext => ?_⟩
    have hno := List.find?_eq_none.mp hnone word (by cases word <;> decide)
    exact hno (beq_iff_eq.mpr htext)

theorem decimalValue_eq (cs : List Char) : decimalValue cs = Nat.ofDigitChars 10 cs 0 := by
  rw [decimalValue, Nat.ofDigitChars_eq_foldl]

theorem isSpelled_of_integerToken (hpiece : LexRule.integer.Matches piece)
    (h : integerToken l piece = .ok kind) : kind.IsSpelled piece := by
  rw [integerToken] at h
  split at h
  · next hvalue =>
    cases h
    rw [Bool.and_eq_true, List.all_eq_true, decide_eq_true_eq, decimalValue_eq, maxInteger]
      at hvalue
    rw [decimalValue_eq]
    exact ⟨hpiece.1, hvalue.1, rfl, by omega⟩
  · cases h

/-- A number that is refused is written for no integer. -/
theorem not_isSpelled_of_integerToken {e : ParseError} (h : integerToken l piece = .error e)
    (value : Int) : ¬ (TokenKind.integer value).IsSpelled piece := by
  rintro ⟨-, hdigits, rfl, hvalue⟩
  have hmax : decimalValue piece ≤ maxInteger := by
    rw [decimalValue_eq, maxInteger]
    omega
  have hall : piece.all Char.isDigit = true := List.all_eq_true.mpr hdigits
  rw [integerToken, hall, decide_eq_true hmax] at h
  cases h

/-- A token is written like the lexeme that it is made of. -/
theorem isSpelled_of_token? (hpiece : rule.Matches piece)
    (h : rule.token? l piece = .ok (some kind)) : kind.IsSpelled piece := by
  cases rule with
  | blanks | lineComment | blockComment => cases h
  | variableName =>
    cases h
    obtain ⟨name, rfl, hname⟩ := hpiece
    exact ⟨by rw [String.toList_ofList, List.tail_cons], name, rfl, hname⟩
  | typeName =>
    cases h
    exact ⟨String.toList_ofList.symm, hpiece⟩
  | word =>
    cases h
    exact isSpelled_ofWord hpiece
  | integer =>
    rw [LexRule.token?] at h
    cases hvalue : integerToken l piece with
    | error e => rw [hvalue] at h; cases h
    | ok kind' =>
      rw [hvalue] at h
      cases h
      exact isSpelled_of_integerToken hpiece hvalue
  | singleQuoted =>
    cases h
    obtain ⟨body, rfl, hbody⟩ := hpiece
    exact ⟨body, rfl, hbody, by rw [insideQuotes_quoted, String.toList_ofList]⟩
  | doubleQuoted =>
    cases h
    obtain ⟨body, rfl, hbody⟩ := hpiece
    rw [insideQuotes_quoted]
    have hread := readsAs_templatePieces body
    rw [← pieces_templateParts] at hread
    exact ⟨body, rfl, hbody, hread, isTemplate_templateParts body⟩
  | symbol =>
    obtain ⟨sign, rfl⟩ := hpiece
    obtain ⟨found, hfound, hlength⟩ := exists_symbolAt? sign []
    rw [List.append_nil] at hfound
    rw [LexRule.token?, hfound] at h
    cases h
    -- What is found is no shorter, and it is all there is.
    have hbegins := List.find?_some
      (p := fun s : Symbol => s.text.toList.isPrefixOf sign.text.toList) hfound
    exact ((List.isPrefixOf_iff_prefix.mp hbegins).eq_of_length_le hlength).symm

/-! ### Tokens at their places -/

/-- A text begins with a lexeme that no other one exceeds. -/
def LongestIn (piece text : List Char) : Prop :=
  piece <+: text ∧
    ∀ (rule : LexRule) (other : List Char), rule.Matches other → other <+: text →
      other.length ≤ piece.length

theorem length_take_of_first? (hfirst : LexRule.first? cs = some (rule, n)) :
    (cs.take n).length = n :=
  List.length_take_of_le (LexRule.first?_le hfirst)

/-- What is taken from a text is its longest lexeme. -/
theorem longestIn_of_first? (hfirst : LexRule.first? cs = some (rule, n)) :
    LongestIn (cs.take n) cs := by
  refine ⟨List.take_prefix n cs, fun r other hother hbegins => ?_⟩
  rw [length_take_of_first? hfirst]
  exact (LexRule.longest_of_first? hfirst).2 r other hother hbegins

/-- Tokens stand in a text, from the place behind some characters to the place behind more. -/
inductive Laid (file : String) : List Char → List Char → List Token → List Char → List Char → Prop
  | done (before rest : List Char) : Laid file before rest [] before rest
  /-- Between two tokens there may be white space and comments. -/
  | spacing {before piece more before' rest : List Char} {tokens : List Token}
    (spaced : IsSpacing piece) (longest : LongestIn piece (piece ++ more))
    (h : Laid file (before ++ piece) more tokens before' rest) :
    Laid file before (piece ++ more) tokens before' rest
  /-- A token stands where its lexeme begins. -/
  | token {before piece more before' rest : List Char} {kind : TokenKind} {tokens : List Token}
    (spelled : kind.IsSpelled piece) (longest : LongestIn piece (piece ++ more))
    (h : Laid file (before ++ piece) more tokens before' rest) :
    Laid file before (piece ++ more) (⟨kind, placeAfter file before⟩ :: tokens) before' rest

/-- White space, a comment or a token begins here. -/
def Starts (text : List Char) : Prop :=
  ∃ piece, piece <+: text ∧ (IsSpacing piece ∨ ∃ kind : TokenKind, kind.IsSpelled piece)

/-- A run of digits begins here, and it is written for no integer of 64 bits. -/
def StartsBadNumber (text : List Char) : Prop :=
  ∃ digits, LexRule.integer.Matches digits ∧ LongestIn digits text ∧
    ∀ value, ¬ (TokenKind.integer value).IsSpelled digits

/-- At the place of an error nothing begins, or a number that is none. -/
theorem RefusedAt.starts {e : ParseError} (h : RefusedAt l cs e) :
    e.location = l ∧ cs ≠ [] ∧ (¬ Starts cs ∨ StartsBadNumber cs) := by
  cases h with
  | @unmatched c rest hnone =>
    refine ⟨?_, List.cons_ne_nil c rest, .inl ?_⟩
    · unfold Manifest.unmatched
      split
      · rfl
      · split <;> rfl
    · rintro ⟨piece, hbegins, hpiece⟩
      obtain ⟨rule, hrule⟩ : ∃ rule : LexRule, rule.Matches piece := by
        rcases hpiece with ⟨rule, -, hrule⟩ | ⟨kind, hkind⟩
        · exact ⟨rule, hrule⟩
        · exact exists_matches_of_isSpelled hkind
      exact LexRule.first?_eq_none_iff.mp hnone rule piece hrule hbegins
  | @token _ rule n _ hfirst herror =>
    have hlongest := longestIn_of_first? hfirst
    refine ⟨by rw [eq_invalidNumber_of_token? herror]; rfl, ?_, .inr ⟨cs.take n, ?_, hlongest, ?_⟩⟩
    · rintro rfl
      exact take_ne_nil_of_first? hfirst List.take_nil
    · cases rule with
      | integer => exact (LexRule.longest_of_first? hfirst).1
      | _ => cases herror
    · cases rule with
      | integer =>
        rw [LexRule.token?] at herror
        cases hvalue : integerToken l (cs.take n) with
        | ok kind => rw [hvalue] at herror; cases herror
        | error e => exact not_isSpelled_of_integerToken hvalue
      | _ => cases herror

/-- One lexeme more is laid out before the others. -/
theorem Laid.lexeme {before' : List Char} {tokens : List Token} {kind? : Option TokenKind}
    (hfirst : LexRule.first? cs = some (rule, n))
    (htoken : rule.token? (placeAfter file before) (cs.take n) = .ok kind?)
    (h : Laid file (before ++ cs.take n) (cs.drop n) tokens before' rest) :
    Laid file before cs (lexemeTokens (placeAfter file before) kind? ++ tokens) before' rest := by
  have hmatches := (LexRule.longest_of_first? hfirst).1
  have hcs : cs.take n ++ cs.drop n = cs := List.take_append_drop n cs
  have hlongest : LongestIn (cs.take n) (cs.take n ++ cs.drop n) := by
    rw [hcs]
    exact longestIn_of_first? hfirst
  rw [← hcs]
  cases kind? with
  | none => exact .spacing (isSpacing_of_token? hmatches htoken) hlongest h
  | some kind => exact .token (isSpelled_of_token? hmatches htoken) hlongest h

/-- How far a text is read that stands behind other characters: up to its end, or to a place at
which it is refused.  What stands before this place is read alike on its own. -/
structure ReadTo (file : String) (before cs : List Char) (tokens : List Token)
    (taken rest : List Char) : Prop where
  split : cs = taken ++ rest
  laid : Laid file before cs tokens (before ++ taken) rest
  alone : lexFrom (placeAfter file before) 0 taken =
    .ok (tokens ++ [⟨.eof, placeAfter file (before ++ taken)⟩])
  ends : rest = [] ∨ ∃ e, RefusedAt (placeAfter file (before ++ taken)) rest e ∧
    lexFrom (placeAfter file before) 0 cs = .error e

theorem readTo_nil (file : String) (before : List Char) : ReadTo file before [] [] [] [] where
  split := rfl
  laid := by
    rw [List.append_nil]
    exact .done before []
  alone := by
    rw [List.append_nil]
    rfl
  ends := .inl rfl

theorem readTo_of_refusedAt {e : ParseError} (h : RefusedAt (placeAfter file before) cs e) :
    ReadTo file before cs [] [] cs where
  split := rfl
  laid := by
    rw [List.append_nil]
    exact .done before cs
  alone := by
    rw [List.append_nil]
    rfl
  ends := by
    rw [List.append_nil]
    exact .inr ⟨e, h, h.lexFrom_eq⟩

/-- A lexeme is read before what is read behind it. -/
theorem ReadTo.lexeme {tokens : List Token} {taken : List Char} {kind? : Option TokenKind}
    (hfirst : LexRule.first? cs = some (rule, n))
    (htoken : rule.token? (placeAfter file before) (cs.take n) = .ok kind?)
    (h : ReadTo file (before ++ cs.take n) (cs.drop n) tokens taken rest) :
    ReadTo file before cs (lexemeTokens (placeAfter file before) kind? ++ tokens)
      (cs.take n ++ taken) rest where
  split := by rw [List.append_assoc, ← h.split, List.take_append_drop]
  laid := by
    rw [← List.append_assoc]
    exact .lexeme hfirst htoken h.laid
  alone := by
    have hlength := length_take_of_first? hfirst
    have hcs : cs.take n ++ taken ++ rest = cs := by
      rw [List.append_assoc, ← h.split, List.take_append_drop]
    have htake : (cs.take n ++ taken).take n = cs.take n := List.take_left' hlength
    have hdrop : (cs.take n ++ taken).drop n = taken := List.drop_left' hlength
    -- The lexeme does not depend on what is not read any more.
    have hfirst' : LexRule.first? (cs.take n ++ taken) = some (rule, n) := by
      refine LexRule.first?_append (hcs.symm ▸ hfirst) ?_
      rw [List.length_append, hlength]
      exact Nat.le_add_right n _
    rw [lexFrom_of_first? hfirst' (htake.symm ▸ htoken), htake, hdrop, afterAll_placeAfter, h.alone,
      ← List.append_assoc]
    exact congrArg Except.ok (List.append_assoc ..).symm
  ends := by
    rw [← List.append_assoc]
    refine h.ends.imp_right fun ⟨e, hrefused, herror⟩ => ⟨e, hrefused, ?_⟩
    rw [lexFrom_of_first? hfirst htoken, afterAll_placeAfter, herror]
    rfl

/-- Every text is read up to some place. -/
theorem exists_readTo (file : String) (before cs : List Char) :
    ∃ tokens taken rest, ReadTo file before cs tokens taken rest := by
  induction hlength : cs.length using Nat.strong_induction_on generalizing before cs with
  | _ length ih =>
    cases cs with
    | nil => exact ⟨[], [], [], readTo_nil file before⟩
    | cons c cs =>
      cases hfirst : LexRule.first? (c :: cs) with
      | none => exact ⟨[], [], c :: cs, readTo_of_refusedAt (.unmatched hfirst)⟩
      | some found =>
        obtain ⟨rule, n⟩ := found
        cases htoken : rule.token? (placeAfter file before) ((c :: cs).take n) with
        | error e => exact ⟨[], [], c :: cs, readTo_of_refusedAt (.token hfirst htoken)⟩
        | ok kind? =>
          -- The lexeme is not empty, so that less is left behind it.
          have hshorter : ((c :: cs).drop n).length < length := by
            have hn := (LexRule.length_of_first? hfirst).2
            rw [List.length_drop, hlength]
            rw [List.length_cons] at hlength
            omega
          obtain ⟨tokens, taken, rest, h⟩ := ih _ hshorter _ _ rfl
          exact ⟨_, _, rest, h.lexeme hfirst htoken⟩

/-! ### All of it -/

/-- The tokens of an accepted text stand in it one after the other, each of them written where it
stands, with white space and comments between them and the end of input behind the text.  A text is
refused at the place up to which it has such tokens, and up to which it is accepted on its own:
nothing begins there but perhaps digits that are written for no integer. -/
theorem lex_laid (file text : String) :
    (∀ tokens, lex file text = .ok tokens → ∃ read,
      tokens = read ++ [⟨.eof, placeAfter file text.toList⟩] ∧
        Laid file [] text.toList read text.toList []) ∧
    ∀ e, lex file text = .error e → ∃ before rest read, text.toList = before ++ rest ∧
      Laid file [] text.toList read before rest ∧
      lex file (String.ofList before) = .ok (read ++ [⟨.eof, placeAfter file before⟩]) ∧
      e.location = placeAfter file before ∧ rest ≠ [] ∧ (¬ Starts rest ∨ StartsBadNumber rest) := by
  -- What is read before the first place that is refused, or before the end, is laid out either way.
  obtain ⟨read, before, rest, h⟩ := exists_readTo file [] text.toList
  have hlaid := h.laid
  have halone := h.alone
  rw [List.nil_append] at hlaid halone
  constructor
  · intro tokens hok
    rcases h.ends with rfl | ⟨e, -, herror⟩
    · have htext := h.split
      rw [List.append_nil] at htext
      rw [← htext] at hlaid halone
      exact ⟨read, Except.ok.inj (hok.symm.trans halone), hlaid⟩
    · cases hok.symm.trans herror
  · intro e herror
    rcases h.ends with rfl | ⟨e', hrefused, herror'⟩
    · have htext := h.split
      rw [List.append_nil] at htext
      rw [← htext] at halone
      cases herror.symm.trans halone
    · cases herror.symm.trans herror'
      obtain ⟨hlocation, hne, hstarts⟩ := hrefused.starts
      refine ⟨before, rest, read, h.split, hlaid, ?_, hlocation, hne, hstarts⟩
      rw [lex, String.toList_ofList]
      exact halone

/-- A string over two lines and a comment stand before a variable, and in the other text a character
that begins nothing stands on the second line. -/
theorem lex_laid_sample :
    (∃ read stop, lex "site.pp" "'a\nb' # é\n $x" = .ok (read ++ [⟨.eof, stop⟩]) ∧
      read.map Token.location = [⟨"site.pp", 1, 1⟩, ⟨"site.pp", 3, 2⟩] ∧
      Laid "site.pp" [] "'a\nb' # é\n $x".toList read "'a\nb' # é\n $x".toList []) ∧
    ∃ before rest, "a\n %".toList = before ++ rest ∧
      placeAfter "site.pp" before = ⟨"site.pp", 2, 2⟩ ∧ (¬ Starts rest ∨ StartsBadNumber rest) := by
  constructor
  · have hok : lex "site.pp" "'a\nb' # é\n $x" = .ok
        ([⟨.string "a\nb", ⟨"site.pp", 1, 1⟩⟩, ⟨.variableName "x", ⟨"site.pp", 3, 2⟩⟩] ++
          [⟨.eof, ⟨"site.pp", 3, 4⟩⟩]) := by
      decide +kernel
    obtain ⟨read, htokens, hlaid⟩ := (lex_laid _ _).1 _ hok
    obtain rfl := List.append_inj_left' htokens rfl
    exact ⟨_, _, hok, rfl, hlaid⟩
  · have herror : lex "site.pp" "a\n %" =
        .error (.unexpectedChar '%' ⟨"site.pp", 2, 2⟩) := by
      decide +kernel
    obtain ⟨before, rest, -, hsplit, -, -, hlocation, -, hstarts⟩ := (lex_laid _ _).2 _ herror
    exact ⟨before, rest, hsplit, hlocation.symm, hstarts⟩

end Manifest
