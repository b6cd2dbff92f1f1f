import Manifest.Proofs.Token.Lexemes
import Mathlib.Data.List.Find

/-!
# Where a line break ends a lexeme

Beside white space only quoted strings and block comments have line breaks in them, and these must
be closed.  A lexeme that is taken at the end of a text is therefore taken in front of a line break
too, whatever comes behind it; where a string or a comment is not closed, no rule matches.

## Main results

* `LexRule.length_le` — a lexeme is no longer than the text.
* `LexRule.length_line`, `LexRule.first?_line` — what is taken does not depend on what stands behind
  a line break.
-/

namespace Manifest

variable {cs : List Char}

/-! ### Lengths -/

theorem nameTailLength_le (start : Char → Bool) (cs : List Char) :
    nameTailLength start cs ≤ cs.length := by
  fun_induction nameTailLength start cs <;> grind

theorem nameLength_le (first start : Char → Bool) (cs : List Char) :
    nameLength first start cs ≤ cs.length := by
  have hlength : (cs.drop (anchorLength cs)).length = cs.length - anchorLength cs :=
    List.length_drop
  rw [nameLength]
  split
  · exact Nat.zero_le _
  · next c rest hdrop =>
    have htail := nameTailLength_le start rest
    rw [hdrop, List.length_cons] at hlength
    split <;> omega

theorem commentTailLength?_le {cs : List Char} {n : Nat} (h : commentTailLength? cs = some n) :
    n ≤ cs.length := by
  fun_induction commentTailLength? cs generalizing n with
  | case1 => cases h
  | case2 => cases h; simp
  | case3 c cs hclose ih =>
    obtain ⟨m, hm, rfl⟩ := Option.map_eq_some_iff.mp h
    exact Nat.succ_le_succ (ih hm)

theorem quotedTailLength?_le {quote : Char} {cs : List Char} {n : Nat}
    (h : quotedTailLength? quote cs = some n) : n ≤ cs.length := by
  fun_induction quotedTailLength? quote cs generalizing n with
  | case1 => cases h
  | case2 => cases h
  | case3 => cases h
  | case4 c more hc ih =>
    obtain ⟨m, hm, rfl⟩ := Option.map_eq_some_iff.mp h
    exact Nat.add_le_add_right (ih hm) 2
  | case5 cs hescape => cases h; simp
  | case6 c cs hescape hc ih =>
    obtain ⟨m, hm, rfl⟩ := Option.map_eq_some_iff.mp h
    exact Nat.succ_le_succ (ih hm)

namespace LexRule

/-- A lexeme is no longer than the text. -/
theorem length_le (rule : LexRule) (cs : List Char) : rule.length cs ≤ cs.length := by
  -- Every rule takes a run of characters, a name, a closed text or a sign.
  have htake : ∀ (p : Char → Bool) (ds : List Char), (ds.takeWhile p).length ≤ ds.length :=
    fun p ds => (List.takeWhile_prefix p).length_le
  have hquoted : ∀ (quote : Char) (ds : List Char),
      ((quotedTailLength? quote ds).map (· + 1)).getD 0 ≤ ds.length + 1 := by
    intro quote ds
    cases hclose : quotedTailLength? quote ds with
    | none => exact Nat.zero_le _
    | some n => exact Nat.succ_le_succ (quotedTailLength?_le hclose)
  cases rule <;> simp only [length]
  case blanks => exact htake _ cs
  case lineComment =>
    split
    · exact Nat.succ_le_succ (htake _ _)
    · exact Nat.zero_le _
  case blockComment =>
    split
    · next rest =>
      cases hclose : commentTailLength? rest with
      | none => exact Nat.zero_le _
      | some n => exact Nat.add_le_add_right (commentTailLength?_le hclose) 2
    · exact Nat.zero_le _
  case variableName =>
    split
    · next rest =>
      have hname := nameLength_le Text.isNameStart Text.isNameStart rest
      split
      · exact Nat.zero_le _
      · next n hn =>
        rw [hn] at hname
        exact Nat.succ_le_succ hname
    · exact Nat.zero_le _
  case typeName => exact nameLength_le _ _ cs
  case word => exact nameLength_le _ _ cs
  case integer => exact htake _ cs
  case singleQuoted =>
    split
    · exact hquoted _ _
    · exact Nat.zero_le _
  case doubleQuoted =>
    split
    · exact hquoted _ _
    · exact Nat.zero_le _
  case symbol =>
    cases hsign : symbolAt? cs with
    | none => exact Nat.zero_le _
    | some s =>
      have hfound : s.text.toList.isPrefixOf cs = true :=
        List.find?_some (p := fun s : Symbol => s.text.toList.isPrefixOf cs) hsign
      exact (List.isPrefixOf_iff_prefix.mp hfound).length_le

/-- The rule that matches first takes as many characters as it says, and at least one. -/
theorem length_of_first? {cs : List Char} {rule : LexRule} {n : Nat}
    (h : first? cs = some (rule, n)) : rule.length cs = n ∧ n ≠ 0 := by
  obtain ⟨r, -, hr⟩ := List.mem_map.mp (List.mem_of_find?_eq_some h)
  cases hr
  have hne := List.find?_some h
  exact ⟨rfl, of_decide_eq_true hne⟩

theorem first?_le {cs : List Char} {rule : LexRule} {n : Nat} (h : first? cs = some (rule, n)) :
    n ≤ cs.length := by
  rw [← (length_of_first? h).1]
  exact length_le rule cs

end LexRule

/-! ### In front of a line break -/

section LineBreak

variable (bs : List Char)

theorem takeWhile_line {p : Char → Bool} (hp : p '\n' = false) (cs : List Char) :
    (cs ++ '\n' :: bs).takeWhile p = cs.takeWhile p := by
  induction cs with
  | nil => simp [hp]
  | cons c cs ih => rw [List.cons_append, List.takeWhile_cons, List.takeWhile_cons, ih]

theorem anchorLength_line : ∀ cs, anchorLength (cs ++ '\n' :: bs) = anchorLength cs
  | [] => rfl
  | [c] => by simp [anchorLength]
  | c :: d :: rest => by
    simp only [List.cons_append]
    unfold anchorLength
    split <;> split <;> simp_all

theorem nameTailLength_line {start : Char → Bool} (hstart : start '\n' = false) (cs : List Char) :
    nameTailLength start (cs ++ '\n' :: bs) = nameTailLength start cs := by
  fun_induction nameTailLength start cs with
  | case1 => rfl
  | case2 c rest hc ih => simp [nameTailLength, hc, ih]
  | case3 c rest hc => simp [nameTailLength, hc]
  | case4 c rest hanchor hc ih =>
    have hcolon : c ≠ ':' := by
      rintro rfl
      exact absurd hc (by decide)
    rw [List.cons_append, nameTailLength, if_pos hc, ih]
    exact fun _ _ h => absurd h hcolon
  | case5 c rest hanchor hc =>
    by_cases hcolons : c = ':' ∧ rest = [':']
    · obtain ⟨rfl, rfl⟩ := hcolons
      simp [nameTailLength, hstart]
    · rw [List.cons_append, nameTailLength, if_neg hc]
      intro d more hfirst hsecond
      rcases rest with _ | ⟨e, _ | ⟨f, rest⟩⟩
      · cases hsecond
      · cases hsecond
        exact hcolons ⟨hfirst, rfl⟩
      · cases hsecond
        exact hanchor _ _ hfirst rfl

theorem nameLength_line {first start : Char → Bool} (hfirst : first '\n' = false)
    (hstart : start '\n' = false) (cs : List Char) :
    nameLength first start (cs ++ '\n' :: bs) = nameLength first start cs := by
  have hanchor : anchorLength cs ≤ cs.length := by
    unfold anchorLength
    split <;> simp
  rw [nameLength, nameLength, anchorLength_line, List.drop_append_of_le_length hanchor]
  cases cs.drop (anchorLength cs) with
  | nil => simp [hfirst]
  | cons c rest => simp only [List.cons_append, nameTailLength_line bs hstart]

theorem isPrefixOf_line {sign : List Char} (h : '\n' ∉ sign) (cs : List Char) :
    sign.isPrefixOf (cs ++ '\n' :: bs) = sign.isPrefixOf cs := by
  induction sign generalizing cs with
  | nil => simp
  | cons c sign ih =>
    obtain ⟨hc, hsign⟩ := List.ne_and_not_mem_of_not_mem_cons h
    cases cs with
    | nil => simp [List.isPrefixOf, Ne.symm hc]
    | cons d cs => simp [List.isPrefixOf, ih hsign]

theorem symbolAt?_line (cs : List Char) : symbolAt? (cs ++ '\n' :: bs) = symbolAt? cs := by
  have hsigns : ∀ s ∈ Symbol.all, '\n' ∉ s.text.toList := by decide
  refine List.find?_congr fun s hs => ?_
  exact isPrefixOf_line bs (hsigns s hs) cs

end LineBreak

/-- A closed comment is as long whatever stands behind it. -/
theorem commentTailLength?_append (rest : List Char) {cs : List Char} {n : Nat}
    (h : commentTailLength? cs = some n) : commentTailLength? (cs ++ rest) = some n := by
  fun_induction commentTailLength? cs generalizing n with
  | case1 => cases h
  | case2 => exact h
  | case3 c cs hclose ih =>
    obtain ⟨m, hm, rfl⟩ := Option.map_eq_some_iff.mp h
    rw [List.cons_append, commentTailLength?, ih hm]
    · rfl
    · intro more hc hmore
      rcases cs with _ | ⟨d, cs⟩
      · cases hm
      · cases hmore
        exact hclose _ hc rfl

/-- A closed quoted string is as long whatever stands behind it. -/
theorem quotedTailLength?_append (quote : Char) (rest : List Char) {cs : List Char} {n : Nat}
    (h : quotedTailLength? quote cs = some n) : quotedTailLength? quote (cs ++ rest) = some n := by
  fun_induction quotedTailLength? quote cs generalizing n with
  | case1 => cases h
  | case2 => cases h
  | case3 => cases h
  | case4 c more hc ih =>
    obtain ⟨m, hm, rfl⟩ := Option.map_eq_some_iff.mp h
    simp [quotedTailLength?, hc, ih hm]
  | case5 cs hescape =>
    rw [List.cons_append, quotedTailLength?, if_pos rfl]
    · exact h
    · exact hescape
  | case6 c cs hescape hc ih =>
    obtain ⟨m, hm, rfl⟩ := Option.map_eq_some_iff.mp h
    rw [List.cons_append, quotedTailLength?, if_neg hc, ih hm]
    · rfl
    · exact hescape

namespace LexRule

/-- A quote or a slash begins a lexeme of one rule alone, so nothing matches if that rule does
not. -/
theorem first?_eq_none {rule : LexRule} {c : Char}
    (h : (rule, c) ∈ [(blockComment, '/'), (singleQuoted, '\''), (doubleQuoted, '"')])
    (hlength : rule.length (c :: cs) = 0) : first? (c :: cs) = none := by
  obtain ⟨hothers, hsymbol⟩ : (∀ r, r ≠ rule → r ≠ symbol → r.opens c = false) ∧
      symbol.length (c :: cs) = 0 := by
    simp only [List.mem_cons, Prod.mk.injEq, List.not_mem_nil, or_false] at h
    rcases h with ⟨rfl, rfl⟩ | ⟨rfl, rfl⟩ | ⟨rfl, rfl⟩
    all_goals exact ⟨fun r => by cases r <;> decide, rfl⟩
  have hzero : ∀ r : LexRule, r.length (c :: cs) = 0 := by
    intro r
    by_cases hrule : r = rule
    · rw [hrule, hlength]
    · by_cases hsign : r = symbol
      · rw [hsign, hsymbol]
      · exact length_eq_zero (hothers r hrule hsign) cs
  simp [first?, hzero]

/-- A string that is taken at the end of a text is closed. -/
theorem quoted_line (bs : List Char) {rule : LexRule} {quote : Char}
    (h : (rule, quote) ∈ [(blockComment, '/'), (singleQuoted, '\''), (doubleQuoted, '"')])
    (hlength : ∀ cs, rule.length (quote :: cs) =
      ((quotedTailLength? quote cs).map (· + 1)).getD 0)
    (hfirst : first? (quote :: cs) ≠ none) :
    rule.length (quote :: (cs ++ '\n' :: bs)) = rule.length (quote :: cs) := by
  cases hclose : quotedTailLength? quote cs with
  | none => exact absurd (first?_eq_none h (by simp [hlength, hclose])) hfirst
  | some n => simp [hlength, hclose, quotedTailLength?_append _ _ hclose]

/-- Where some rule matches, every rule takes as much in front of a line break as at the end of the
text. -/
theorem length_line (bs : List Char) {c : Char} (hblank : Text.isBlank c = false)
    (hfirst : first? (c :: cs) ≠ none) (rule : LexRule) :
    rule.length (c :: (cs ++ '\n' :: bs)) = rule.length (c :: cs) := by
  -- Only a rule that the first character opens looks further.
  by_cases hopens : rule.opens c = false
  · rw [length_eq_zero hopens, length_eq_zero hopens]
  cases rule with
  | blanks => exact absurd hblank hopens
  | lineComment =>
    obtain rfl : c = '#' := by simpa [opens] using hopens
    rw [length, length, takeWhile_line bs (by decide)]
  | blockComment =>
    obtain rfl : c = '/' := by simpa [opens] using hopens
    rcases cs with _ | ⟨d, rest⟩
    · simp [length]
    · by_cases hd : d = '*'
      · subst hd
        cases hclose : commentTailLength? rest with
        | none =>
          have hlength : blockComment.length ('/' :: '*' :: rest) = 0 := by simp [length, hclose]
          exact absurd (first?_eq_none (by simp) hlength) hfirst
        | some n => simp [length, hclose, commentTailLength?_append _ hclose]
      · simp [length, hd]
  | variableName =>
    obtain rfl : c = '$' := by simpa [opens] using hopens
    rw [length, length, nameLength_line bs (by decide) (by decide)]
  | typeName => exact nameLength_line bs (by decide) (by decide) (c :: cs)
  | word => exact nameLength_line bs (by decide) (by decide) (c :: cs)
  | integer => rw [length, length, ← List.cons_append, takeWhile_line bs (by decide)]
  | singleQuoted =>
    obtain rfl : c = '\'' := by simpa [opens] using hopens
    exact quoted_line bs (by simp) (fun _ => rfl) hfirst
  | doubleQuoted =>
    obtain rfl : c = '"' := by simpa [opens] using hopens
    exact quoted_line bs (by simp) (fun _ => rfl) hfirst
  | symbol => rw [length, length, ← List.cons_append, symbolAt?_line]

theorem first?_line (bs : List Char) {c : Char} (hblank : Text.isBlank c = false)
    (hfirst : first? (c :: cs) ≠ none) :
    first? (c :: (cs ++ '\n' :: bs)) = first? (c :: cs) := by
  simp only [first?, length_line bs hblank hfirst]

end LexRule

end Manifest
