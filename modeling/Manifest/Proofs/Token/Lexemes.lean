import Manifest.Proofs.Token.Spelling

/-!
# Where lexemes end

A lexeme that is followed by a blank or by nothing is read as far as it goes, by the rule that it is
written for and by no earlier one.  For each kind of lexeme there is one lemma that says so; that no
earlier rule takes anything is read off the first character.

What the scanner for names takes is a name, and it takes every name that a text begins with; both
are said for names with any word characters in them.

## Main definitions

* `Stops` — what follows a lexeme: a blank, or nothing.
* `LexRule.opens` — the characters that a lexeme of a rule may begin with.
* `Lexeme` — a lexeme of a rule, with its token.

## Main results

* `isName_take`, `IsName.nameLength_append` — what the scanner for names takes.
* `lexeme_word`, `lexeme_typeName`, `lexeme_variableName`, `lexeme_integer`, `lexeme_symbol`.
-/

namespace Manifest

/-! ### Classes of ASCII characters -/

/-- What holds of all 128 ASCII characters. -/
theorem ascii_forall {P : Char → Prop} (h : ∀ n < 128, P (Char.ofNat n)) {c : Char}
    (hc : c.toNat < 128) : P c := by
  have := h c.toNat hc
  rwa [Char.ofNat_toNat] at this

theorem toNat_lt_of_isAsciiWordChar {c : Char} (h : isAsciiWordChar c = true) : c.toNat < 128 := by
  delta isAsciiWordChar Char.isAlphanum Char.isAlpha Char.isUpper Char.isLower Char.isDigit at h
  simp only [Bool.or_eq_true, Bool.and_eq_true, decide_eq_true_eq, beq_iff_eq] at h
  rcases h with ((⟨-, h⟩ | ⟨-, h⟩) | ⟨-, h⟩) | rfl
  · exact Nat.lt_of_le_of_lt h (by decide)
  · exact Nat.lt_of_le_of_lt h (by decide)
  · exact Nat.lt_of_le_of_lt h (by decide)
  · decide

theorem isWordChar_of_isAsciiWordChar {c : Char} (h : isAsciiWordChar c = true) :
    Text.isWordChar c = true ∧ c ≠ ':' :=
  ascii_forall (P := fun c => isAsciiWordChar c = true → Text.isWordChar c = true ∧ c ≠ ':')
    (by decide) (toNat_lt_of_isAsciiWordChar h) h

/-- Whatever a segment begins with may stand further back in it. -/
theorem isAsciiWordChar_of_isNameStart {c : Char} (h : Text.isNameStart c = true) :
    isAsciiWordChar c = true := by
  delta Text.isNameStart Text.isUpperStart Text.isLowerStart at h
  delta isAsciiWordChar Char.isAlphanum Char.isAlpha
  rw [Bool.or_eq_true, Bool.or_eq_true] at h
  rw [Bool.or_eq_true, Bool.or_eq_true, Bool.or_eq_true]
  tauto

/-- What holds of all ASCII characters holds of those that a segment begins with. -/
theorem nameStart_forall {P : Char → Prop} (h : ∀ n < 128, P (Char.ofNat n)) {c : Char}
    (hc : Text.isNameStart c = true) : P c :=
  ascii_forall h (toNat_lt_of_isAsciiWordChar (isAsciiWordChar_of_isNameStart hc))

theorem isNameStart_of_isUpperStart {c : Char} (h : Text.isUpperStart c = true) :
    Text.isNameStart c = true := by rw [Text.isNameStart, h, Bool.true_or]

theorem isNameStart_of_isLowerStart {c : Char} (h : Text.isLowerStart c = true) :
    Text.isNameStart c = true := by rw [Text.isNameStart, h, Bool.or_true]

/-! ### Names -/

section Names

variable {first start : Char → Bool} {inside inside' : Char → Prop} {cs ds : List Char}

namespace IsNameTail

theorem append (h : IsNameTail start inside cs) (h' : IsNameTail start inside ds) :
    IsNameTail start inside (cs ++ ds) := by
  induction h with
  | nil => exact h'
  | inside hc _ ih => exact .inside hc ih
  | segment hc _ ih => exact .segment hc ih

theorem of_forall : ∀ {cs : List Char}, (∀ c ∈ cs, inside c) → IsNameTail start inside cs
  | [], _ => .nil
  | _ :: _, h => .inside (List.forall_mem_cons.mp h).1 (of_forall (List.forall_mem_cons.mp h).2)

/-- Only the characters that are there matter. -/
theorem imp (h : IsNameTail start inside cs) (himp : ∀ c ∈ cs, inside c → inside' c) :
    IsNameTail start inside' cs := by
  induction h with
  | nil => exact .nil
  | @inside c rest hc _ ih =>
    obtain ⟨hhead, hrest⟩ := List.forall_mem_cons.mp himp
    exact .inside (hhead hc) (ih hrest)
  | @segment c rest hc _ ih =>
    exact .segment hc (ih fun d hd => himp d (by simp [hd]))

/-- The scanner takes a tail that a text begins with and goes on behind it. -/
theorem nameTailLength_append (h : IsNameTail start (Text.isWordChar · = true) cs)
    (rest : List Char) :
    nameTailLength start (cs ++ rest) = cs.length + nameTailLength start rest := by
  induction h with
  | nil => simp
  | @inside c tail hc _ ih =>
    rw [List.cons_append, nameTailLength, if_pos hc, ih, List.length_cons]
    · omega
    · rintro _ _ rfl
      exact absurd hc (by decide)
  | @segment c tail hc _ ih =>
    simp only [List.cons_append, nameTailLength, if_pos hc, ih, List.length_cons]
    omega

end IsNameTail

theorem isNameTail_take (start : Char → Bool) (cs : List Char) :
    IsNameTail start (Text.isWordChar · = true) (cs.take (nameTailLength start cs)) := by
  fun_induction nameTailLength start cs with
  | case1 => exact .nil
  | case2 c rest hc ih => exact .segment hc ih
  | case3 c rest hc => exact .nil
  | case4 c rest _ hc ih => exact .inside hc ih
  | case5 c rest _ hc => exact .nil

theorem exists_anchor (cs : List Char) :
    ∃ anchor rest, (anchor = [] ∨ anchor = [':', ':']) ∧ anchorLength cs = anchor.length ∧
      cs = anchor ++ rest := by
  unfold anchorLength
  split
  · exact ⟨[':', ':'], _, .inr rfl, rfl, rfl⟩
  · exact ⟨[], _, .inl rfl, rfl, rfl⟩

/-- What the scanner for names sees behind the anchor. -/
theorem nameLength_anchor {anchor : List Char} (hanchor : anchor = [] ∨ anchor = [':', ':'])
    {c : Char} (hc : c ≠ ':') (cs : List Char) :
    nameLength first start (anchor ++ c :: cs) =
      if first c = true then anchor.length + nameTailLength start cs + 1 else 0 := by
  have hlength : anchorLength (anchor ++ c :: cs) = anchor.length := by
    rcases hanchor with rfl | rfl
    · rw [List.nil_append, anchorLength]
      · rfl
      · rintro _ hcons
        exact hc (List.cons.inj hcons).1
    · rfl
  rw [nameLength, hlength, List.drop_left]

/-- What the scanner for names takes is a name. -/
theorem isName_take (h : nameLength first start cs ≠ 0) :
    IsName first start (Text.isWordChar · = true) (cs.take (nameLength first start cs)) := by
  obtain ⟨anchor, rest, hanchor, hlength, hcs⟩ := exists_anchor cs
  have hdrop : cs.drop (anchorLength cs) = rest := by rw [hlength, hcs, List.drop_left]
  rw [nameLength, hdrop] at h ⊢
  cases rest with
  | nil => exact absurd rfl h
  | cons c rest =>
    simp only at h ⊢
    -- Behind the anchor the scanner looks at one character and then at the tail.
    by_cases hc : first c = true
    · refine ⟨anchor, c :: rest.take (nameTailLength start rest), hanchor,
        ⟨c, _, rfl, hc, isNameTail_take start rest⟩, ?_⟩
      rw [if_pos hc, hlength, hcs, Nat.add_assoc, List.take_length_add_append, List.take_succ_cons]
    · exact absurd (if_neg hc) h

namespace IsName

theorem imp (h : IsName first start inside cs) (himp : ∀ c ∈ cs, inside c → inside' c) :
    IsName first start inside' cs := by
  obtain ⟨anchor, name, hanchor, ⟨c, tail, rfl, hc, htail⟩, rfl⟩ := h
  exact ⟨anchor, _, hanchor, ⟨c, tail, rfl, hc, htail.imp fun d hd => himp d (by simp [hd])⟩, rfl⟩

/-- A name begins with a character for its first segment or with the separator. -/
theorem eq_cons (h : IsName first start inside cs) :
    ∃ c tail, cs = c :: tail ∧ (first c = true ∨ c = ':') := by
  obtain ⟨anchor, name, rfl | rfl, ⟨c, tail, rfl, hc, -⟩, rfl⟩ := h
  · exact ⟨c, tail, rfl, .inl hc⟩
  · exact ⟨':', _, rfl, .inr rfl⟩

/-- The scanner takes a name that a text begins with and goes on behind it. -/
theorem nameLength_append (h : IsName first start (Text.isWordChar · = true) cs)
    (hcolon : first ':' = false) (rest : List Char) :
    nameLength first start (cs ++ rest) = cs.length + nameTailLength start rest := by
  obtain ⟨anchor, name, hanchor, ⟨c, tail, rfl, hc, htail⟩, rfl⟩ := h
  have hne : c ≠ ':' := by
    rintro rfl
    cases hcolon.symm.trans hc
  rw [List.append_assoc, List.cons_append, nameLength_anchor hanchor hne, if_pos hc,
    htail.nameTailLength_append, List.length_append, List.length_cons]
  omega

/-- A scanner for names that begin in another way takes nothing. -/
theorem nameLength_other (h : IsName first start inside cs) (hcolon : first ':' = false)
    {other : Char → Bool} (hother : ∀ c, first c = true → other c = false)
    (otherStart : Char → Bool) (rest : List Char) :
    nameLength other otherStart (cs ++ rest) = 0 := by
  obtain ⟨anchor, name, hanchor, ⟨c, tail, rfl, hc, -⟩, rfl⟩ := h
  have hne : c ≠ ':' := by
    rintro rfl
    cases hcolon.symm.trans hc
  rw [List.append_assoc, List.cons_append, nameLength_anchor hanchor hne, hother c hc,
    if_neg Bool.false_ne_true]

end IsName

end Names

/-! ### The rule for a lexeme -/

/-- What follows a lexeme. -/
def Stops (rest : List Char) : Prop := rest = [] ∨ ∃ more, rest = ' ' :: more

namespace LexRule

/-- The characters that a lexeme of a rule may begin with. -/
def opens : LexRule → Char → Bool
  | blanks, c => Text.isBlank c
  | lineComment, c => c == '#'
  | blockComment, c => c == '/'
  | variableName, c => c == '$'
  | typeName, c => Text.isUpperStart c || c == ':'
  | word, c => Text.isLowerStart c || c == ':'
  | integer, c => Text.isDecimalDigit c
  | singleQuoted, c => c == '\''
  | doubleQuoted, c => c == '"'
  | symbol, _ => true

/-- The rules that are tried before a rule. -/
def earlier (rule : LexRule) : List LexRule := all.takeWhile (· ≠ rule)

theorem nameLength_eq_zero {first start : Char → Bool} {c : Char} (h : first c = false)
    (hc : c ≠ ':') (cs : List Char) : nameLength first start (c :: cs) = 0 := by
  rw [← List.nil_append (c :: cs), nameLength_anchor (.inl rfl) hc, h, if_neg Bool.false_ne_true]

/-- A rule takes nothing where its lexemes cannot begin. -/
theorem length_eq_zero {rule : LexRule} {c : Char} (h : rule.opens c = false) (cs : List Char) :
    rule.length (c :: cs) = 0 := by
  cases rule with
  | blanks => simp only [opens] at h; simp [length, h]
  | lineComment =>
    rw [opens, beq_eq_false_iff_ne] at h
    rw [length]
    exact fun _ hc => h (List.cons.inj hc).1
  | blockComment =>
    rw [opens, beq_eq_false_iff_ne] at h
    rw [length]
    exact fun _ hc => h (List.cons.inj hc).1
  | variableName =>
    rw [opens, beq_eq_false_iff_ne] at h
    rw [length]
    exact fun _ hc => h (List.cons.inj hc).1
  | typeName =>
    rw [opens, Bool.or_eq_false_iff, beq_eq_false_iff_ne] at h
    exact nameLength_eq_zero h.1 h.2 cs
  | word =>
    rw [opens, Bool.or_eq_false_iff, beq_eq_false_iff_ne] at h
    exact nameLength_eq_zero h.1 h.2 cs
  | integer => simp only [opens] at h; simp [length, h]
  | singleQuoted =>
    rw [opens, beq_eq_false_iff_ne] at h
    rw [length]
    exact fun _ hc => h (List.cons.inj hc).1
  | doubleQuoted =>
    rw [opens, beq_eq_false_iff_ne] at h
    rw [length]
    exact fun _ hc => h (List.cons.inj hc).1
  | symbol => cases h

/-- A rule that takes something is the first one if those before it take nothing. -/
theorem first?_eq_some {rule : LexRule} {cs : List Char} (hlength : rule.length cs ≠ 0)
    (hearlier : ∀ r ∈ rule.earlier, r.length cs = 0) :
    first? cs = some (rule, rule.length cs) := by
  have hall : ∃ later, all = rule.earlier ++ rule :: later :=
    ⟨(all.dropWhile (· ≠ rule)).tail, by cases rule <;> rfl⟩
  obtain ⟨later, hall⟩ := hall
  rw [first?, List.find?_map, List.find?_eq_some_iff_append.mpr ⟨?_, _, _, hall, ?_⟩]
  · rfl
  · simpa using hlength
  · simpa using hearlier

end LexRule

/-- A lexeme that a rule reads, and no earlier one does, with its token. -/
structure Lexeme (rule : LexRule) (lexeme : List Char) (kind : TokenKind) : Prop where
  first : ∀ rest, Stops rest → LexRule.first? (lexeme ++ rest) = some (rule, lexeme.length)
  token : ∀ location, rule.token? location lexeme = .ok (some kind)

/-- A lexeme of a rule for which no earlier rule takes anything. -/
theorem Lexeme.of_length {rule : LexRule} {c : Char} {cs : List Char} {kind : TokenKind}
    (hlength : ∀ rest, Stops rest → rule.length (c :: (cs ++ rest)) = cs.length + 1)
    (hearlier : ∀ rest, ∀ r ∈ rule.earlier, r.length (c :: (cs ++ rest)) = 0)
    (htoken : ∀ location, rule.token? location (c :: cs) = .ok (some kind)) :
    Lexeme rule (c :: cs) kind where
  first := fun rest hrest => by
    have hlen := hlength rest hrest
    have hfirst := LexRule.first?_eq_some (hlen ▸ Nat.succ_ne_zero _) (hearlier rest)
    rw [List.cons_append, hfirst, hlen, List.length_cons]
  token := htoken

/-- A lexeme of a rule where the lexemes of no earlier rule can begin. -/
theorem Lexeme.of_opens {rule : LexRule} {c : Char} {cs : List Char} {kind : TokenKind}
    (hopens : ∀ r ∈ rule.earlier, r.opens c = false)
    (hlength : ∀ rest, Stops rest → rule.length (c :: (cs ++ rest)) = cs.length + 1)
    (htoken : ∀ location, rule.token? location (c :: cs) = .ok (some kind)) :
    Lexeme rule (c :: cs) kind :=
  .of_length hlength (fun _ r hr => LexRule.length_eq_zero (hopens r hr) _) htoken

/-! ### Lexemes with names -/

/-- A spelled name is read to its end. -/
theorem IsName.nameLength_stops {first start : Char → Bool} {cs rest : List Char}
    (h : IsName first start (isAsciiWordChar · = true) cs) (hcolon : first ':' = false)
    (hrest : Stops rest) : nameLength first start (cs ++ rest) = cs.length := by
  have hword : IsName first start (Text.isWordChar · = true) cs :=
    h.imp fun c _ hc => (isWordChar_of_isAsciiWordChar hc).1
  rw [hword.nameLength_append hcolon]
  rcases hrest with rfl | ⟨more, rfl⟩
  · rfl
  · rfl

theorem isUpperStart_eq_false {c : Char} (h : Text.isLowerStart c = true) :
    Text.isUpperStart c = false :=
  nameStart_forall (P := fun c => Text.isLowerStart c = true → Text.isUpperStart c = false)
    (by decide) (isNameStart_of_isLowerStart h) h

theorem lexeme_typeName {cs : List Char}
    (h : IsName Text.isUpperStart Text.isNameStart (isAsciiWordChar · = true) cs) :
    Lexeme .typeName cs (.typeName (String.ofList cs)) := by
  obtain ⟨c, tail, rfl, hc⟩ := h.eq_cons
  have hopens : ∀ r ∈ LexRule.typeName.earlier, r.opens c = false := by
    rcases hc with hc | rfl
    · exact nameStart_forall (P := fun c => Text.isUpperStart c = true →
        ∀ r ∈ LexRule.typeName.earlier, r.opens c = false)
        (by decide) (isNameStart_of_isUpperStart hc) hc
    · decide
  exact .of_opens hopens (fun rest hrest => h.nameLength_stops (by decide) hrest) fun _ => rfl

theorem lexeme_word {cs : List Char}
    (h : IsName Text.isLowerStart Text.isLowerStart (isAsciiWordChar · = true) cs) :
    Lexeme .word cs (.ofWord (String.ofList cs)) := by
  obtain ⟨c, tail, rfl, hc⟩ := h.eq_cons
  have hopens : ∀ r ∈ LexRule.word.earlier, r ≠ .typeName → r.opens c = false := by
    rcases hc with hc | rfl
    · exact nameStart_forall (P := fun c => Text.isLowerStart c = true →
        ∀ r ∈ LexRule.word.earlier, r ≠ .typeName → r.opens c = false)
        (by decide) (isNameStart_of_isLowerStart hc) hc
    · decide
  refine .of_length (fun rest hrest => h.nameLength_stops (by decide) hrest)
    (fun rest r hr => ?_) fun _ => rfl
  -- Anchored names of types begin like this one, but go on with a capital.
  by_cases htype : r = .typeName
  · rw [htype]
    exact h.nameLength_other (by decide) (fun _ => isUpperStart_eq_false) Text.isNameStart rest
  · exact LexRule.length_eq_zero (hopens r hr htype) _

theorem lexeme_variableName {cs : List Char}
    (h : IsName Text.isNameStart Text.isNameStart (isAsciiWordChar · = true) cs) :
    Lexeme .variableName ('$' :: cs) (.variableName (String.ofList cs)) := by
  refine .of_opens (by decide) (fun rest hrest => ?_) fun _ => rfl
  obtain ⟨c, tail, rfl, -⟩ := h.eq_cons
  have hlength := h.nameLength_stops (by decide) hrest
  rw [List.length_cons] at hlength
  simp only [LexRule.length, hlength, List.length_cons]

/-! ### Numbers -/

theorem isDecimalDigit_of_isDigit {c : Char} (h : c.isDigit = true) :
    Text.isDecimalDigit c = true ∧ ∀ r ∈ LexRule.integer.earlier, r.opens c = false := by
  have hword : isAsciiWordChar c = true := by simp [isAsciiWordChar, Char.isAlphanum, h]
  exact ascii_forall
    (P := fun c => c.isDigit = true → Text.isDecimalDigit c = true ∧
      ∀ r ∈ LexRule.integer.earlier, r.opens c = false)
    (by decide) (toNat_lt_of_isAsciiWordChar hword) h

theorem decimalValue_toDigits (n : Nat) : decimalValue (Nat.toDigits 10 n) = n := by
  rw [decimalValue, ← Nat.ofDigitChars_eq_foldl, Nat.ofDigitChars_ten_toDigits]

theorem lexeme_integer {n : Nat} (h : n ≤ maxInteger) :
    Lexeme .integer (Nat.toDigits 10 n) (.integer n) := by
  have hdigits : ∀ c ∈ Nat.toDigits 10 n, c.isDigit = true :=
    fun c hc => Nat.isDigit_of_mem_toDigits (by decide) (by decide) hc
  have htoken : ∀ location, integerToken location (Nat.toDigits 10 n) = .ok (.integer n) := by
    intro location
    have hall : (Nat.toDigits 10 n).all Char.isDigit = true := List.all_eq_true.mpr hdigits
    rw [integerToken, decimalValue_toDigits, hall]
    simp [h]
  cases hcs : Nat.toDigits 10 n with
  | nil => exact absurd hcs Nat.toDigits_ne_nil
  | cons c cs =>
    rw [hcs] at hdigits htoken
    have hopens := (isDecimalDigit_of_isDigit (hdigits c List.mem_cons_self)).2
    refine .of_opens hopens (fun rest hrest => ?_) fun location => ?_
    · have hstop : rest.takeWhile Text.isDecimalDigit = [] := by
        rcases hrest with rfl | ⟨more, rfl⟩
        · rfl
        · rfl
      rw [LexRule.length, ← List.cons_append, List.takeWhile_append_of_pos
        fun d hd => (isDecimalDigit_of_isDigit (hdigits d hd)).1, hstop, List.append_nil,
        List.length_cons]
    · rw [LexRule.token?, htoken]
      rfl

/-! ### Signs -/

theorem lexeme_symbol (s : Symbol) : Lexeme .symbol s.text.toList (.symbol s) where
  first := by
    rintro rest (rfl | ⟨more, rfl⟩)
    · cases s <;> rfl
    · cases s <;> rfl
  token := fun location => by cases s <;> rfl

end Manifest
