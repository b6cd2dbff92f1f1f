import Manifest.Proofs.Token.Closing
import Mathlib.Data.List.TakeWhile

/-!
# The lexemes of the rules

A rule is a scanner that looks for the end of its lexeme.  Here it is said for every rule which
texts its lexemes are, without the scanner.  At the beginning of a text the scanner takes the
longest lexeme of its rule, and the rule that is tried first the longest one of all rules.  So what
is taken does not depend on what stands behind it, and where no rule matches no lexeme begins.

## Main definitions

* `LexRule.Matches` — the lexemes of a rule.

## Main results

* `LexRule.matches_take_length`, `LexRule.Matches.length_le` — a rule takes its longest lexeme.
* `LexRule.length_append` — what a rule takes does not depend on what stands behind it.
* `LexRule.longest_of_first?` — the first rule that matches takes the longest lexeme of all.
* `LexRule.first?_eq_none_iff` — no rule matches exactly where no lexeme begins.
-/

namespace Manifest

variable {cs piece rest : List Char} {n : Nat}

/-! ### Comments and strings -/

/-- A block comment is over where it is closed for the first time. -/
theorem exists_of_commentTailLength? (h : commentTailLength? cs = some n) :
    ∃ body rest, cs = body ++ '*' :: '/' :: rest ∧ n = body.length + 2 ∧
      ¬ ['*', '/'] <:+: body ++ ['*'] := by
  fun_induction commentTailLength? cs generalizing n with
  | case1 => cases h
  | case2 rest =>
    cases h
    exact ⟨[], rest, rfl, rfl, by decide⟩
  | case3 c cs hclose ih =>
    obtain ⟨m, hm, rfl⟩ := Option.map_eq_some_iff.mp h
    obtain ⟨body, rest, rfl, rfl, hbody⟩ := ih hm
    refine ⟨c :: body, rest, rfl, rfl, ?_⟩
    rw [List.cons_append, List.infix_cons_iff, not_or]
    refine ⟨fun hbegins => ?_, hbody⟩
    obtain ⟨rfl, hnext⟩ := List.cons_prefix_cons.mp hbegins
    cases body with
    | nil => exact absurd hnext (by decide)
    | cons d body =>
      obtain ⟨rfl, -⟩ := List.cons_prefix_cons.mp hnext
      exact hclose _ rfl rfl

theorem commentTailLength?_of_not_infix :
    ∀ {body : List Char}, ¬ ['*', '/'] <:+: body ++ ['*'] → ∀ rest : List Char,
      commentTailLength? (body ++ '*' :: '/' :: rest) = some (body.length + 2)
  | [], _, _ => rfl
  | c :: body, h, rest => by
    rw [List.cons_append, List.infix_cons_iff, not_or] at h
    rw [List.cons_append, commentTailLength?, commentTailLength?_of_not_infix h.2]
    · rw [Option.map_some, List.length_cons, Nat.add_right_comm]
    · rintro more rfl hmore
      -- Then the comment would be closed here.
      cases body with
      | nil => cases hmore
      | cons d body =>
        cases hmore
        exact h.1 ⟨_, rfl⟩

/-- What stands between two quotes when the second one closes the string. -/
def IsStringBody (quote : Char) (body : List Char) : Prop :=
  IsQuoted quote body ∧ ¬ EscapesBreak quote body

theorem IsStringBody.quotedTailLength? {quote : Char} {body : List Char}
    (h : IsStringBody quote body) (hquote : quote ≠ '\\') (rest : List Char) :
    quotedTailLength? quote (body ++ quote :: rest) = some (body.length + 1) :=
  (h.1.passes h.2).quotedTailLength hquote rest

theorem exists_of_quotedTailLength? {quote : Char} (hquote : quote ≠ '\\')
    (h : quotedTailLength? quote cs = some n) :
    ∃ body rest, cs = body ++ quote :: rest ∧ n = body.length + 1 ∧ IsStringBody quote body := by
  obtain ⟨body, rest, rfl, hbody⟩ := exists_quoted_of_quotedTailLength? h
  have hclosed : IsStringBody quote body := by
    refine ⟨hbody, ?_⟩
    rintro ⟨before, behind, rfl, hbefore⟩
    rw [List.append_assoc, List.cons_append, List.cons_append, quotedTailLength?_break hbefore] at h
    cases h
  rw [hclosed.quotedTailLength? hquote] at h
  cases h
  exact ⟨body, rest, rfl, rfl, hclosed⟩

/-! ### Signs -/

/-- A sign that is found is no shorter than any other one that a text begins with, as those of two
characters are tried first. -/
theorem exists_symbolAt? (sign : Symbol) (rest : List Char) :
    ∃ found, symbolAt? (sign.text.toList ++ rest) = some found ∧
      sign.text.toList.length ≤ found.text.toList.length := by
  have hmem : sign ∈ Symbol.all := by cases sign <;> decide
  have hbegins : sign.text.toList.isPrefixOf (sign.text.toList ++ rest) = true :=
    List.isPrefixOf_iff_prefix.mpr (List.prefix_append _ _)
  cases hfound : symbolAt? (sign.text.toList ++ rest) with
  | none => exact absurd hbegins (List.find?_eq_none.mp hfound sign hmem)
  | some found =>
    obtain ⟨-, before, behind, hall, hbefore⟩ := List.find?_eq_some_iff_append.mp hfound
    have hsorted : Symbol.all.Pairwise fun s t => t.text.toList.length ≤ s.text.toList.length := by
      decide
    rw [hall] at hmem hsorted
    refine ⟨found, rfl, ?_⟩
    rcases List.mem_append.mp hmem with hmem | hmem
    · have hno := hbefore sign hmem
      rw [hbegins] at hno
      cases hno
    · rcases List.mem_cons.mp hmem with rfl | hmem
      · exact Nat.le_refl _
      · exact (List.pairwise_cons.mp (List.pairwise_append.mp hsorted).2.1).1 sign hmem

/-! ### All rules -/

/-- The lexemes of a rule. -/
def LexRule.Matches : LexRule → List Char → Prop
  | blanks, cs => cs ≠ [] ∧ ∀ c ∈ cs, Text.isBlank c = true
  | lineComment, cs => ∃ body, cs = '#' :: body ∧ '\n' ∉ body
  | blockComment, cs =>
    ∃ body, cs = '/' :: '*' :: (body ++ ['*', '/']) ∧ ¬ ['*', '/'] <:+: body ++ ['*']
  | variableName, cs =>
    ∃ name, cs = '$' :: name ∧
      IsName Text.isNameStart Text.isNameStart (Text.isWordChar · = true) name
  | typeName, cs => IsName Text.isUpperStart Text.isNameStart (Text.isWordChar · = true) cs
  | word, cs => IsName Text.isLowerStart Text.isLowerStart (Text.isWordChar · = true) cs
  | integer, cs => cs ≠ [] ∧ ∀ c ∈ cs, Text.isDecimalDigit c = true
  | singleQuoted, cs => ∃ body, cs = '\'' :: (body ++ ['\'']) ∧ IsStringBody '\'' body
  | doubleQuoted, cs => ∃ body, cs = '"' :: (body ++ ['"']) ∧ IsStringBody '"' body
  | symbol, cs => ∃ sign : Symbol, cs = sign.text.toList

namespace LexRule

variable {rule : LexRule}

theorem matches_run {p : Char → Bool} (h : (cs.takeWhile p).length ≠ 0) :
    cs.take (cs.takeWhile p).length ≠ [] ∧ ∀ c ∈ cs.take (cs.takeWhile p).length, p c = true := by
  rw [← List.prefix_iff_eq_take.mp (List.takeWhile_prefix p)]
  exact ⟨fun hnil => h (congrArg List.length hnil), fun c => List.mem_takeWhile_imp⟩

theorem matches_quoted {quote : Char} (hquote : quote ≠ '\\')
    (h : ((quotedTailLength? quote cs).map (· + 1)).getD 0 ≠ 0) :
    ∃ body, (quote :: cs).take (((quotedTailLength? quote cs).map (· + 1)).getD 0) =
      quote :: (body ++ [quote]) ∧ IsStringBody quote body := by
  cases hclose : quotedTailLength? quote cs with
  | none =>
    rw [hclose] at h
    exact absurd rfl h
  | some n =>
    obtain ⟨body, rest, rfl, rfl, hbody⟩ := exists_of_quotedTailLength? hquote hclose
    refine ⟨body, ?_, hbody⟩
    have htake : (body ++ quote :: rest).take (body.length + 1) = body ++ [quote] := by
      rw [List.take_length_add_append]
      rfl
    exact congrArg (quote :: ·) htake

/-- What a rule takes is one of its lexemes. -/
theorem matches_take_length (h : rule.length cs ≠ 0) : rule.Matches (cs.take (rule.length cs)) := by
  cases rule with
  | blanks => exact matches_run h
  | integer => exact matches_run h
  | typeName => exact isName_take h
  | word => exact isName_take h
  | lineComment =>
    simp only [length] at h ⊢
    split at h
    · next rest =>
      rw [List.take_succ_cons, ← List.prefix_iff_eq_take.mp (List.takeWhile_prefix _)]
      exact ⟨_, rfl, fun hbreak => by simpa using List.mem_takeWhile_imp hbreak⟩
    · exact absurd rfl h
  | blockComment =>
    simp only [length] at h ⊢
    split at h
    · next rest =>
      cases hclose : commentTailLength? rest with
      | none =>
        rw [hclose] at h
        exact absurd rfl h
      | some n =>
        obtain ⟨body, behind, rfl, rfl, hbody⟩ := exists_of_commentTailLength? hclose
        refine ⟨body, ?_, hbody⟩
        have htake : (body ++ '*' :: '/' :: behind).take (body.length + 2) =
            body ++ ['*', '/'] := by
          rw [List.take_length_add_append]
          rfl
        exact congrArg ('/' :: '*' :: ·) htake
    · exact absurd rfl h
  | variableName =>
    simp only [length] at h ⊢
    split at h
    · next rest =>
      split at h
      · exact absurd rfl h
      · next n hn =>
        have hne : nameLength Text.isNameStart Text.isNameStart rest ≠ 0 := by
          rw [hn]
          exact Nat.succ_ne_zero n
        have hname := isName_take hne
        rw [hn] at hname
        exact ⟨_, List.take_succ_cons, hname⟩
    · exact absurd rfl h
  | singleQuoted =>
    simp only [length] at h ⊢
    split at h
    · exact matches_quoted (by decide) h
    · exact absurd rfl h
  | doubleQuoted =>
    simp only [length] at h ⊢
    split at h
    · exact matches_quoted (by decide) h
    · exact absurd rfl h
  | symbol =>
    simp only [length] at h ⊢
    cases hsign : symbolAt? cs with
    | none =>
      rw [hsign] at h
      exact absurd rfl h
    | some sign =>
      have hbegins := List.find?_some (p := fun s : Symbol => s.text.toList.isPrefixOf cs) hsign
      exact ⟨sign, (List.prefix_iff_eq_take.mp (List.isPrefixOf_iff_prefix.mp hbegins)).symm⟩

/-- A rule takes every lexeme of its own that a text begins with. -/
theorem Matches.length_le (h : rule.Matches piece) (rest : List Char) :
    piece.length ≤ rule.length (piece ++ rest) := by
  cases rule with
  | blanks =>
    rw [length, List.takeWhile_append_of_pos h.2, List.length_append]
    exact Nat.le_add_right _ _
  | integer =>
    rw [length, List.takeWhile_append_of_pos h.2, List.length_append]
    exact Nat.le_add_right _ _
  | lineComment =>
    obtain ⟨body, rfl, hbody⟩ := h
    have hline : ∀ c ∈ body, decide (c ≠ '\n') = true := fun c hc =>
      decide_eq_true fun hbreak => hbody (hbreak ▸ hc)
    rw [List.cons_append, length, List.takeWhile_append_of_pos hline, List.length_append,
      List.length_cons]
    exact Nat.succ_le_succ (Nat.le_add_right _ _)
  | blockComment =>
    obtain ⟨body, rfl, hbody⟩ := h
    have hclose := commentTailLength?_of_not_infix hbody rest
    simp only [List.cons_append, List.append_assoc, List.nil_append, length, hclose]
    simp
  | variableName =>
    obtain ⟨name, rfl, hname⟩ := h
    have hlength := hname.nameLength_append (by decide) rest
    obtain ⟨c, tail, rfl, -⟩ := hname.eq_cons
    rw [List.length_cons, Nat.add_right_comm] at hlength
    rw [List.cons_append, length, hlength]
    simp only [List.length_cons]
    omega
  | typeName =>
    rw [length, IsName.nameLength_append h (by decide) rest]
    exact Nat.le_add_right _ _
  | word =>
    rw [length, IsName.nameLength_append h (by decide) rest]
    exact Nat.le_add_right _ _
  | singleQuoted =>
    obtain ⟨body, rfl, hbody⟩ := h
    have hclose := hbody.quotedTailLength? (by decide) rest
    simp only [List.cons_append, List.append_assoc, List.nil_append, length, hclose]
    simp
  | doubleQuoted =>
    obtain ⟨body, rfl, hbody⟩ := h
    have hclose := hbody.quotedTailLength? (by decide) rest
    simp only [List.cons_append, List.append_assoc, List.nil_append, length, hclose]
    simp
  | symbol =>
    obtain ⟨sign, rfl⟩ := h
    obtain ⟨found, hfound, hlength⟩ := exists_symbolAt? sign rest
    rw [length, hfound]
    exact hlength

/-! ### What stands behind a lexeme -/

theorem Matches.ne_nil (h : rule.Matches piece) : piece ≠ [] := by
  rintro rfl
  cases rule with
  | blanks => exact h.1 rfl
  | integer => exact h.1 rfl
  | lineComment => obtain ⟨body, hnil, -⟩ := h; cases hnil
  | blockComment => obtain ⟨body, hnil, -⟩ := h; cases hnil
  | variableName => obtain ⟨name, hnil, -⟩ := h; cases hnil
  | typeName => obtain ⟨c, tail, hnil, -⟩ := IsName.eq_cons h; cases hnil
  | word => obtain ⟨c, tail, hnil, -⟩ := IsName.eq_cons h; cases hnil
  | singleQuoted => obtain ⟨body, hnil, -⟩ := h; cases hnil
  | doubleQuoted => obtain ⟨body, hnil, -⟩ := h; cases hnil
  | symbol => obtain ⟨sign, hnil⟩ := h; cases sign <;> cases hnil

/-- A rule takes a lexeme that is over before the end of a text as if the text ended there. -/
theorem length_append (h : rule.length (cs ++ rest) ≤ cs.length) :
    rule.length cs = rule.length (cs ++ rest) := by
  apply Nat.le_antisymm
  · by_cases hzero : rule.length cs = 0
    · exact hzero ▸ Nat.zero_le _
    · have hle := (matches_take_length hzero).length_le (cs.drop (rule.length cs) ++ rest)
      rwa [← List.append_assoc, List.take_append_drop, List.length_take,
        Nat.min_eq_left (LexRule.length_le rule cs)] at hle
  · by_cases hzero : rule.length (cs ++ rest) = 0
    · exact hzero ▸ Nat.zero_le _
    · have hmatches := matches_take_length hzero
      rw [List.take_append_of_le_length h] at hmatches
      have hle := hmatches.length_le (cs.drop (rule.length (cs ++ rest)))
      rwa [List.take_append_drop, List.length_take, Nat.min_eq_left h] at hle

theorem first?_eq_some_iff :
    first? cs = some (rule, n) ↔ rule.length cs = n ∧ n ≠ 0 ∧
      ∃ before behind, all = before ++ rule :: behind ∧ ∀ r ∈ before, r.length cs = 0 := by
  rw [first?, List.find?_map, Option.map_eq_some_iff]
  constructor
  · rintro ⟨r, hfound, heq⟩
    cases heq
    obtain ⟨hne, before, behind, hall, hbefore⟩ := List.find?_eq_some_iff_append.mp hfound
    exact ⟨rfl, by simpa using hne, before, behind, hall, by simpa using hbefore⟩
  · rintro ⟨rfl, hne, before, behind, hall, hbefore⟩
    exact ⟨rule, List.find?_eq_some_iff_append.mpr
      ⟨by simpa using hne, before, behind, hall, by simpa using hbefore⟩, rfl⟩

/-- What is taken first does not depend on what stands behind it. -/
theorem first?_append (h : first? (cs ++ rest) = some (rule, n)) (hn : n ≤ cs.length) :
    first? cs = some (rule, n) := by
  obtain ⟨rfl, hne, before, behind, hall, hbefore⟩ := first?_eq_some_iff.mp h
  refine first?_eq_some_iff.mpr ⟨length_append hn, hne, before, behind, hall, fun r hr => ?_⟩
  have hzero := hbefore r hr
  rw [length_append (hzero ▸ Nat.zero_le _), hzero]

/-! ### No other rule takes more -/

theorem exists_of_nameLength {first start : Char → Bool} (h : nameLength first start cs ≠ 0) :
    ∃ c rest, cs.drop (anchorLength cs) = c :: rest ∧ first c = true := by
  rw [nameLength] at h
  split at h
  · exact absurd rfl h
  · next c rest hdrop =>
    refine ⟨c, rest, hdrop, ?_⟩
    by_contra hc
    exact absurd (if_neg hc) h

/-- No text begins both with the name of a type and with a plain name. -/
theorem word_length_eq_zero (h : typeName.length cs ≠ 0) : word.length cs = 0 := by
  by_contra hword
  obtain ⟨c, rest, hdrop, hc⟩ := exists_of_nameLength h
  obtain ⟨d, more, hdrop', hd⟩ := exists_of_nameLength hword
  rw [hdrop] at hdrop'
  cases hdrop'
  rw [isUpperStart_eq_false hd] at hc
  cases hc

theorem isDecimalDigit_of_isBlank {c : Char} (h : Text.isBlank c = true) :
    Text.isDecimalDigit c = false := by
  by_cases hc : c.toNat < 128
  · exact ascii_forall (P := fun c => Text.isBlank c = true → Text.isDecimalDigit c = false)
      (by decide) hc h
  · -- No range of blanks meets a range of digits.
    have hdisjoint : ∀ a ∈ Text.blankRanges, ∀ b ∈ Text.digitRanges, a.2 < b.1 ∨ b.2 < a.1 := by
      decide +kernel
    rw [Text.isDecimalDigit, if_neg hc]
    rw [Text.isBlank, Text.Ranges.contains, List.any_eq_true] at h
    obtain ⟨a, ha, hblank⟩ := h
    refine List.any_eq_false.mpr fun b hb => ?_
    have := hdisjoint a ha b hb
    simp only [Bool.and_eq_true, decide_eq_true_eq] at hblank ⊢
    omega

/-- A character above ASCII begins white space or a number, if anything. -/
theorem eq_of_opens {r : LexRule} {c : Char} (hc : ¬ c.toNat < 128) (hr : r.opens c = true)
    (hsymbol : r ≠ symbol) : r = blanks ∨ r = integer := by
  have hascii : ∀ d : Char, d.toNat < 128 → (c == d) = false := fun d hd =>
    beq_eq_false_iff_ne.mpr fun h => hc (h ▸ hd)
  have hstart : Text.isNameStart c = false := by
    by_contra h
    exact hc (toNat_lt_of_isAsciiWordChar
      (isAsciiWordChar_of_isNameStart (Bool.eq_true_of_not_eq_false h)))
  obtain ⟨hupper, hlower⟩ := Bool.or_eq_false_iff.mp hstart
  cases r <;> simp_all [opens]

/-- Where a lexeme begins that is neither a name nor a sign, no other one does but a sign. -/
theorem eq_of_opens_of_opens {r r' : LexRule} {c : Char} (hname : r ∉ [typeName, word, symbol])
    (hr : r.opens c = true) (hr' : r'.opens c = true) : r' = r ∨ r' = symbol := by
  by_cases hc : c.toNat < 128
  · have hothers : r ∈ all.filter (· ∉ [typeName, word, symbol]) := by
      cases r <;> simp_all [all]
    have hmem : r' ∈ all := by cases r' <;> decide
    exact ascii_forall (P := fun c => ∀ r ∈ all.filter (· ∉ [typeName, word, symbol]), ∀ r' ∈ all,
      (r.opens c && r'.opens c) = true → r' = r ∨ r' = symbol)
      (by decide +kernel) hc r hothers r' hmem (by rw [hr, hr']; rfl)
  by_cases hsymbol : r' = symbol
  · exact .inr hsymbol
  -- Beyond ASCII only blanks and digits are left, and no character is both.
  have hapart : blanks.opens c = true → integer.opens c = false := isDecimalDigit_of_isBlank
  rcases eq_of_opens hc hr (by rintro rfl; simp at hname) with rfl | rfl
  · rcases eq_of_opens hc hr' hsymbol with rfl | rfl
    · exact .inl rfl
    · exact absurd (hapart hr) (by rw [hr']; decide)
  · rcases eq_of_opens hc hr' hsymbol with rfl | rfl
    · exact absurd (hapart hr') (by rw [hr]; decide)
    · exact .inl rfl

/-- Where something else begins, a sign has one character. -/
theorem symbol_length_le {r : LexRule} (hr : r.length cs ≠ 0) (hsymbol : r ≠ symbol) :
    symbol.length cs ≤ 1 := by
  by_cases hzero : symbol.length cs = 0
  · exact hzero ▸ Nat.zero_le 1
  obtain ⟨sign, hsign⟩ := matches_take_length hzero
  have hlength : symbol.length cs = sign.text.toList.length := by
    rw [← hsign, List.length_take, Nat.min_eq_left (LexRule.length_le symbol cs)]
  obtain ⟨rest, hcs⟩ : ∃ rest, cs = sign.text.toList ++ rest :=
    ⟨_, hsign ▸ (List.take_append_drop _ cs).symm⟩
  have hsigns : ∀ s ∈ Symbol.all, ∀ q ∈ all.erase symbol,
      s.text.toList.length = 1 ∨ (s.text.toList.head?.all fun c => !q.opens c) = true := by
    decide +kernel
  rcases hsigns sign (by cases sign <;> decide) r (by cases r <;> simp_all [all]) with hone | hnone
  · rw [hlength, hone]
  · have hmatches : symbol.Matches sign.text.toList := ⟨sign, rfl⟩
    obtain ⟨c, tail, htext⟩ := List.exists_cons_of_ne_nil hmatches.ne_nil
    rw [htext, List.head?_cons, Option.all_some, Bool.not_eq_true'] at hnone
    rw [hcs, htext] at hr
    exact absurd (length_eq_zero hnone _) hr

/-- Beside signs, only one rule takes something. -/
theorem eq_of_length {r r' : LexRule} (hr : r.length cs ≠ 0) (hr' : r'.length cs ≠ 0)
    (hsymbol : r ≠ symbol) (hsymbol' : r' ≠ symbol) : r = r' := by
  have hopens : ∀ {r : LexRule}, r.length cs ≠ 0 → ∃ c ∈ cs.head?, r.opens c = true := by
    intro r hr
    cases cs with
    | nil => exact absurd (Nat.le_zero.mp (LexRule.length_le r [])) hr
    | cons c cs =>
      refine ⟨c, rfl, Bool.eq_true_of_not_eq_false fun hopens => ?_⟩
      exact hr (length_eq_zero hopens cs)
  obtain ⟨c, hc, hopens₁⟩ := hopens hr
  obtain ⟨d, hd, hopens₂⟩ := hopens hr'
  obtain rfl : c = d := Option.some.inj (hc.symm.trans hd)
  by_cases hname : r ∈ [typeName, word, symbol]
  · by_cases hname' : r' ∈ [typeName, word, symbol]
    · -- Both are names, and these differ in their first letter.
      simp only [List.mem_cons, List.not_mem_nil, or_false, hsymbol, hsymbol'] at hname hname'
      rcases hname with rfl | rfl
      · rcases hname' with rfl | rfl
        · rfl
        · exact absurd (word_length_eq_zero hr) hr'
      · rcases hname' with rfl | rfl
        · exact absurd (word_length_eq_zero hr') hr
        · rfl
    · exact (eq_of_opens_of_opens hname' hopens₂ hopens₁).resolve_right hsymbol
  · exact ((eq_of_opens_of_opens hname hopens₁ hopens₂).resolve_right hsymbol').symm

/-- The first rule that matches takes the longest lexeme of all rules. -/
theorem length_le_of_first? (h : first? cs = some (rule, n)) (r : LexRule) : r.length cs ≤ n := by
  obtain ⟨rfl, hne, before, behind, hall, hbefore⟩ := first?_eq_some_iff.mp h
  by_cases hzero : r.length cs = 0
  · exact hzero ▸ Nat.zero_le _
  by_cases hrule : rule = symbol
  · -- Signs are tried last, so nothing else takes anything here.
    have hmem : r ∈ all := by cases r <;> decide
    have hlast : all.Pairwise fun earlier _ => earlier ≠ symbol := by decide
    rw [hall] at hmem hlast
    rcases List.mem_append.mp hmem with hmem | hmem
    · exact absurd (hbefore r hmem) hzero
    · rcases List.mem_cons.mp hmem with rfl | hmem
      · exact Nat.le_refl _
      · have hnot := (List.pairwise_cons.mp (List.pairwise_append.mp hlast).2.1).1 r hmem
        exact absurd hrule hnot
  by_cases hsymbol : r = symbol
  · rw [hsymbol]
    exact Nat.le_trans (symbol_length_le hne hrule) (Nat.one_le_iff_ne_zero.mpr hne)
  · rw [eq_of_length hzero hne hsymbol hrule]

/-! ### What is taken first -/

/-- At the beginning of a text a lexeme is taken that no other one exceeds. -/
theorem longest_of_first? (h : first? cs = some (rule, n)) :
    rule.Matches (cs.take n) ∧
      ∀ (r : LexRule) (other : List Char), r.Matches other → other <+: cs → other.length ≤ n := by
  obtain ⟨rfl, hne, -⟩ := first?_eq_some_iff.mp h
  refine ⟨matches_take_length hne, ?_⟩
  rintro r other hother ⟨rest, rfl⟩
  exact Nat.le_trans (hother.length_le rest) (length_le_of_first? h r)

/-- Where no rule matches no lexeme begins. -/
theorem first?_eq_none_iff :
    first? cs = none ↔ ∀ (r : LexRule) (piece : List Char), r.Matches piece → ¬ piece <+: cs := by
  constructor
  · rintro hnone r piece hpiece ⟨rest, rfl⟩
    have hmem : r ∈ all := by cases r <;> decide
    rw [first?, List.find?_eq_none] at hnone
    have hzero := hnone _ (List.mem_map_of_mem hmem)
    have hle := hpiece.length_le rest
    have hpos := List.length_pos_iff.mpr hpiece.ne_nil
    simp only [decide_eq_true_eq, not_not] at hzero
    omega
  · intro hnothing
    cases hfirst : first? cs with
    | none => rfl
    | some found => exact absurd (List.take_prefix _ cs) (hnothing _ _ (longest_of_first? hfirst).1)

end LexRule

end Manifest
