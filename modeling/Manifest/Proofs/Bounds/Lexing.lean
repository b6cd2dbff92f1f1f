import Manifest.Proofs.Bounds.Text
import Manifest.Proofs.Token.Interpolation
import Manifest.Proofs.Token.Languages

/-!
# Lexemes by their places

The tokens of a text are read once more, now from a place in the text that goes on by the bytes of
each lexeme.  What stands behind the place is cut out of the text, signs and quotes are cut off the
lexeme, and in a double-quoted string single characters are looked up by their number.  All of this
may fail, and none of it does: a lexeme ends between two characters, and the first and last
characters of a quoted one are its quotes.

## Main definitions

* `Checked.items?` — a part of a list by the numbers of its ends.
* `Checked.templateParts?`, `Checked.token?`, `Checked.lex?` — reading with such accesses.

## Main results

* `Checked.lex?_eq` — no access fails when a text is read.
-/

namespace Manifest.Checked

/-! ### Reading by places -/

/-- A part of a list by the numbers of its ends. -/
def items? {α : Type} (start stop : Nat) (as : List α) : Option (List α) :=
  if start ≤ stop ∧ stop ≤ as.length then some ((as.take stop).drop start) else none

/-- How many of the first characters are left without the colons at their end. -/
def withoutColons? (cs : List Char) : Nat → Option Nat
  | 0 => some 0
  | n + 1 => do
    if (← cs[n]?) = ':' then withoutColons? cs n else return n + 1

/-- The variable name behind a dollar, with the number of characters it takes up. -/
def interpolation? (cs : List Char) : Option (List Char × Nat) :=
  if cs.head? = some '{' then
    match cs.findIdx? (· == '}') with
    | none => some ([], 0)
    | some stop => do
      let name ← items? 1 stop cs
      if name.isEmpty || !name.all isInterpolatedChar then return ([], 0)
      else return (name, stop + 1)
  else do
    let length ← withoutColons? cs (cs.takeWhile isInterpolatedChar).length
    return (← items? 0 length cs, length)

/-- The pieces for an escaped character. -/
def escapedPieces (c : Char) : List TemplatePiece :=
  match escapedChar? c with
  | some e => [.char e]
  | none => [.char '\\', .char c]

/-- The pieces of a double-quoted string from the character with a number on. -/
def templatePieces? (cs : List Char) : Nat → Nat → Option (List TemplatePiece)
  | 0, _ => none
  | bound + 1, place =>
    if place < cs.length then do
      let c ← cs[place]?
      if c = '\\' ∧ place + 1 < cs.length then
        return escapedPieces (← cs[place + 1]?) ++ (← templatePieces? cs bound (place + 2))
      else if c = '$' then
        let found ← interpolation? (← items? (place + 1) cs.length cs)
        if found.1.isEmpty then return .char '$' :: (← templatePieces? cs bound (place + 1))
        else return .name found.1 :: (← templatePieces? cs bound (place + 1 + found.2))
      else return .char c :: (← templatePieces? cs bound (place + 1))
    else some []

/-- The pieces of a double-quoted string. -/
def templateParts? (body : List Char) : Option (List TemplatePart) := do
  match joinPieces (← templatePieces? body (body.length + 1) 0) with
  | [] => return [.literal ""]
  | parts => return parts

/-- The characters between two quotes. -/
def insideQuotes? (lexeme : List Char) : Option (List Char) :=
  Text.slice? 1 (Text.byteSize lexeme - 1) lexeme

/-- The token for a lexeme of a rule. -/
def token? (location : Location) (lexeme : List Char) :
    LexRule → Option (Except ParseError (Option TokenKind))
  | .variableName => do
    let name ← Text.slice? 1 (Text.byteSize lexeme) lexeme
    return .ok (some (.variableName (String.ofList name)))
  | .singleQuoted => do
    let body ← insideQuotes? lexeme
    return .ok (some (.string (String.ofList (unescapeSingle body))))
  | .doubleQuoted => do
    let parts ← templateParts? (← insideQuotes? lexeme)
    return .ok (some (.template parts))
  | rule => some (rule.token? location lexeme)

/-- The tokens of a text from a place on. -/
def lexAt? (text : List Char) : Nat → Nat → Location → Option (Except ParseError (List Token))
  | 0, _, _ => none
  | bound + 1, place, location =>
    if place < Text.byteSize text then do
      match ← Text.slice? place (Text.byteSize text) text with
      | [] => none
      | c :: rest =>
        match LexRule.first? (c :: rest) with
        | none => return .error (unmatched location c rest)
        | some (rule, length) =>
          let lexeme := (c :: rest).take length
          match ← token? location lexeme rule with
          | .error e => return .error e
          | .ok kind? =>
            let tokens ← lexAt? text bound (place + Text.byteSize lexeme) (location.afterAll lexeme)
            return tokens.map (lexemeTokens location kind? ++ ·)
    else some (.ok [⟨.eof, location⟩])

/-- The tokens of a text. -/
def lex? (file text : String) : Option (Except ParseError (List Token)) :=
  lexAt? text.toList (text.toList.length + 1) 0 ⟨file, 1, 1⟩

/-! ### Double-quoted strings -/

variable {cs : List Char}

theorem items?_eq {α : Type} {start stop : Nat} {as : List α} (h : start ≤ stop)
    (hstop : stop ≤ as.length) : items? start stop as = some ((as.take stop).drop start) :=
  if_pos ⟨h, hstop⟩

/-- The colons at the end are found from behind. -/
theorem withoutColons?_eq (cs more : List Char) :
    withoutColons? (cs ++ more) cs.length = some (dropLastColons cs).length := by
  induction cs using List.reverseRecOn generalizing more with
  | nil => rfl
  | append_singleton cs c ih =>
    have hlast : ((cs ++ [c]) ++ more)[cs.length]? = some c := by simp
    have hlength : (cs ++ [c]).length = cs.length + 1 := by simp
    have hdrop : dropLastColons (cs ++ [c]) =
        if (c == ':') = true then dropLastColons cs else cs ++ [c] :=
      List.rdropWhile_concat (· == ':') cs c
    rw [hlength, withoutColons?, hlast, hdrop]
    by_cases hc : c = ':'
    · have hmore := ih ([c] ++ more)
      rw [← List.append_assoc] at hmore
      simpa [hc] using hmore
    · simp [hc]

/-- A text has no closing brace, or its first one stands behind a name. -/
theorem brace_cases (cs : List Char) : ('}' ∉ cs ∧ cs.takeWhile (· ≠ '}') = cs) ∨
    ∃ name rest, cs = name ++ '}' :: rest ∧ '}' ∉ name ∧ cs.takeWhile (· ≠ '}') = name := by
  have hnone : '}' ∉ cs.takeWhile (· ≠ '}') := by
    intro hmem
    simpa using List.mem_takeWhile_imp hmem
  by_cases hlt : (cs.takeWhile (· ≠ '}')).length < cs.length
  · obtain ⟨rest, hcs⟩ := exists_eq_takeWhile_append hlt
    exact Or.inr ⟨_, rest, hcs, hnone, rfl⟩
  · have hall : cs.takeWhile (· ≠ '}') = cs :=
      (List.takeWhile_prefix _).eq_of_length_le (Nat.le_of_not_lt hlt)
    exact Or.inl ⟨hall ▸ hnone, hall⟩

theorem findIdx?_brace_eq_none (h : '}' ∉ cs) : cs.findIdx? (· == '}') = none := by
  rw [List.findIdx?_eq_none_iff]
  intro c hc
  exact beq_eq_false_iff_ne.mpr fun he => h (he ▸ hc)

/-- The first brace is found by its number. -/
theorem findIdx?_brace {name : List Char} (h : '}' ∉ name) (rest : List Char) :
    (name ++ '}' :: rest).findIdx? (· == '}') = some name.length := by
  rw [List.findIdx?_append, findIdx?_brace_eq_none h, List.findIdx?_cons]
  simp

/-- No access fails when a name between braces is looked for. -/
theorem interpolation?_brace (inner : List Char) :
    interpolation? ('{' :: inner) = some (interpolation ('{' :: inner)) := by
  have hhead : ('{' :: inner).head? = some '{' := rfl
  have hopen : '}' ≠ '{' := by decide
  rw [interpolation?, if_pos hhead]
  rcases brace_cases inner with ⟨hnone, hall⟩ | ⟨name, rest, rfl, hname, htake⟩
  · rw [findIdx?_brace_eq_none (List.not_mem_cons_of_ne_of_not_mem hopen hnone)]
    simp only [interpolation, hall, Nat.lt_irrefl, decide_false, Bool.false_and, Bool.false_eq_true,
      if_false]
  · have hplace := findIdx?_brace (List.not_mem_cons_of_ne_of_not_mem hopen hname) rest
    rw [List.cons_append] at hplace
    have hitems : items? 1 ('{' :: name).length ('{' :: (name ++ '}' :: rest)) = some name := by
      rw [items?_eq (by simp) (by simp)]
      simp
    have hlt : name.length < (name ++ '}' :: rest).length := by simp
    simp only [hplace, hitems, interpolation, htake, hlt, decide_true, Bool.true_and,
      Option.bind_eq_bind, Option.bind_some]
    cases name.isEmpty <;> cases name.all isInterpolatedChar <;> rfl

/-- No access fails when a variable name is looked for. -/
theorem interpolation?_eq (cs : List Char) : interpolation? cs = some (interpolation cs) := by
  by_cases hbrace : cs.head? = some '{'
  · obtain ⟨inner, rfl⟩ := List.head?_eq_some_iff.mp hbrace
    exact interpolation?_brace inner
  · obtain ⟨rest, hrest⟩ := List.takeWhile_prefix isInterpolatedChar (l := cs)
    have hlength := withoutColons?_eq (cs.takeWhile isInterpolatedChar) rest
    have hprefix : dropLastColons (cs.takeWhile isInterpolatedChar) <+: cs :=
      (List.rdropWhile_prefix (· == ':') _).trans (List.takeWhile_prefix isInterpolatedChar)
    have hitems : items? 0 (dropLastColons (cs.takeWhile isInterpolatedChar)).length cs =
        some (dropLastColons (cs.takeWhile isInterpolatedChar)) := by
      rw [items?_eq (Nat.zero_le _) hprefix.length_le, List.drop_zero,
        ← List.prefix_iff_eq_take.mp hprefix]
    rw [hrest] at hlength
    rw [interpolation?, if_neg hbrace, hlength, interpolation_bare hbrace]
    simp only [Option.bind_eq_bind, Option.bind_some, hitems]
    rfl

/-- The pieces for an escaped character are two characters or one. -/
theorem templatePieces_escaped (c : Char) (rest : List Char) :
    templatePieces 0 ('\\' :: c :: rest) = escapedPieces c ++ templatePieces 0 rest := by
  rw [templatePieces, escapedPieces]
  cases escapedChar? c <;> rfl

/-- The pieces from a character on are those of what is left. -/
theorem templatePieces?_eq (cs : List Char) : ∀ {bound place : Nat}, cs.length - place < bound →
    templatePieces? cs bound place = some (templatePieces 0 (cs.drop place))
  | 0, _, h => absurd h (Nat.not_lt_zero _)
  | bound + 1, place, h => by
    rw [templatePieces?]
    by_cases hplace : place < cs.length
    · have hmore : ∀ k, templatePieces? cs bound (place + 1 + k) =
          some (templatePieces 0 (cs.drop (place + 1 + k))) :=
        fun k => templatePieces?_eq cs (by omega)
      have hnext := hmore 0
      have hdrop := List.drop_eq_getElem_cons hplace
      rw [if_pos hplace, List.getElem?_eq_getElem hplace, hdrop]
      generalize cs[place] = c
      simp only [Option.bind_eq_bind, Option.bind_some]
      by_cases hescape : c = '\\' ∧ place + 1 < cs.length
      · obtain ⟨rfl, hsecond⟩ := hescape
        have hdrop' := List.drop_eq_getElem_cons hsecond
        rw [if_pos ⟨rfl, hsecond⟩, List.getElem?_eq_getElem hsecond, hdrop',
          templatePieces_escaped, hmore 1]
        rfl
      · rw [if_neg hescape]
        have hplain : ∀ d rest, c = '\\' → cs.drop (place + 1) = d :: rest → False := by
          intro d rest hc hrest
          refine hescape ⟨hc, ?_⟩
          have hlength := congrArg List.length hrest
          rw [List.length_drop, List.length_cons] at hlength
          omega
        by_cases hdollar : c = '$'
        · subst hdollar
          have hitems : items? (place + 1) cs.length cs = some (cs.drop (place + 1)) := by
            rw [items?_eq hplace (Nat.le_refl _), List.take_length]
          rw [if_pos rfl, hitems, templatePieces]
          simp only [Option.bind_some, interpolation?_eq]
          generalize interpolation (cs.drop (place + 1)) = found
          rw [templatePieces_drop found.2, List.drop_drop]
          split
          · rw [hnext]
            rfl
          · rw [hmore found.2]
            rfl
        · rw [if_neg hdollar, templatePieces, hnext]
          · rfl
          · exact hplain
          · exact hdollar
    · rw [if_neg hplace, List.drop_eq_nil_of_le (Nat.le_of_not_lt hplace)]
      rfl

theorem templateParts?_eq (body : List Char) : templateParts? body = some (templateParts body) := by
  have hpieces : templatePieces? body (body.length + 1) 0 = some (templatePieces 0 body) :=
    templatePieces?_eq body (Nat.lt_succ_of_le (Nat.sub_le _ _))
  rw [templateParts?, hpieces, templateParts]
  simp only [Option.bind_eq_bind, Option.bind_some]
  cases joinPieces (templatePieces 0 body) <;> rfl

/-! ### Lexemes -/

variable {rule : LexRule} {quote : Char} {n : Nat} {lexeme : List Char}

/-- Quotes of one byte can be cut off. -/
theorem insideQuotes?_eq (hquote : quote.utf8Size = 1) (body : List Char) :
    insideQuotes? (quote :: (body ++ [quote])) =
      some (insideQuotes (quote :: (body ++ [quote]))) := by
  have hone : Text.byteSize [quote] = 1 := by
    rw [Text.byteSize_cons, Text.byteSize_nil, hquote]
  have hcut := Text.slice?_append [quote] body [quote]
  have hsize : Text.byteSize (quote :: (body ++ [quote])) - 1 = 1 + Text.byteSize body := by
    rw [Text.byteSize_cons, Text.byteSize_append, hone, hquote]
    omega
  rw [hone, List.singleton_append] at hcut
  rw [insideQuotes?, hsize, hcut, insideQuotes_quoted]

/-- No access fails when a lexeme is taken apart. -/
theorem token?_eq (location : Location) (h : rule.Matches lexeme) :
    token? location lexeme rule = some (rule.token? location lexeme) := by
  cases rule with
  | variableName =>
    obtain ⟨name, rfl, -⟩ := h
    have hcut := Text.slice?_behind ['$'] name
    rw [List.singleton_append] at hcut
    rw [token?, show 1 = Text.byteSize ['$'] from rfl, hcut]
    rfl
  | singleQuoted =>
    obtain ⟨body, rfl, -⟩ := h
    rw [token?, insideQuotes?_eq rfl]
    rfl
  | doubleQuoted =>
    obtain ⟨body, rfl, -⟩ := h
    rw [token?, insideQuotes?_eq rfl]
    simp only [Option.bind_eq_bind, Option.bind_some, templateParts?_eq]
    rfl
  | _ => rfl

/-! ### Texts -/

/-- What is left of a lexeme is skipped. -/
theorem lexFrom_skip {location : Location} (h : n ≤ cs.length) :
    lexFrom location n cs = lexFrom (location.afterAll (cs.take n)) 0 (cs.drop n) := by
  have happend := lexFrom_append (cs.drop n) (cs.take n) location
  rwa [List.length_take_of_le h, List.take_append_drop] at happend

/-- From the place behind a lexeme on, a text is read as what is left of it. -/
theorem lexAt?_eq : ∀ {bound : Nat} (pre : List Char) {rest : List Char} (location : Location),
    rest.length < bound →
    lexAt? (pre ++ rest) bound (Text.byteSize pre) location = some (lexFrom location 0 rest)
  | 0, _, _, _, h => absurd h (Nat.not_lt_zero _)
  | bound + 1, pre, rest, location, h => by
    rw [lexAt?, Text.slice?_behind]
    cases rest with
    | nil =>
      rw [List.append_nil, if_neg (Nat.lt_irrefl _)]
      rfl
    | cons c rest =>
      have hplace : Text.byteSize pre < Text.byteSize (pre ++ c :: rest) := by
        rw [Text.byteSize_append]
        exact Nat.lt_add_of_pos_right (Text.byteSize_pos (List.cons_ne_nil c rest))
      rw [if_pos hplace]
      simp only [Option.bind_eq_bind, Option.bind_some]
      cases hfirst : LexRule.first? (c :: rest) with
      | none =>
        rw [lexFrom, hfirst]
        rfl
      | some found =>
        obtain ⟨rule, n⟩ := found
        obtain ⟨hlength, hn⟩ := LexRule.length_of_first? hfirst
        have hmatches : rule.Matches ((c :: rest).take n) :=
          hlength ▸ LexRule.matches_take_length (hlength ▸ hn)
        simp only [token?_eq location hmatches, Option.bind_some]
        cases htoken : rule.token? location ((c :: rest).take n) with
        | error e =>
          rw [lexFrom, hfirst]
          simp only [htoken]
          rfl
        | ok kind? =>
          obtain ⟨m, rfl⟩ := Nat.exists_eq_succ_of_ne_zero hn
          have hleft : (rest.drop m).length < bound := by
            rw [List.length_drop]
            exact Nat.lt_of_le_of_lt (Nat.sub_le _ _) (Nat.lt_of_succ_lt_succ h)
          have hmore := lexAt?_eq (pre ++ c :: rest.take m)
            (location.afterAll (c :: rest.take m)) hleft
          have htext : pre ++ c :: rest.take m ++ rest.drop m = pre ++ c :: rest := by simp
          rw [htext, Text.byteSize_append] at hmore
          have hle : m ≤ rest.length := Nat.le_of_succ_le_succ (LexRule.first?_le hfirst)
          rw [lexFrom_cons hfirst htoken, Nat.succ_sub_one, lexFrom_skip hle]
          simp only [List.take_succ_cons, hmore, Option.bind_some]
          rfl

/-- No access fails when a text is read. -/
theorem lex?_eq (file text : String) : lex? file text = some (lex file text) := by
  have h := lexAt?_eq [] ⟨file, 1, 1⟩ (Nat.lt_succ_self text.toList.length)
  exact h

end Manifest.Checked
