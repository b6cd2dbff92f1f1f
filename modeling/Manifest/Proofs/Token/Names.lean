import Manifest.Proofs.Capitalized
import Manifest.Proofs.Token.Seam

/-!
# The names in a text

Whatever a text says, its names have the shape that the scanner for names looks for: behind an
anchor, if there is one, every segment begins with a small ASCII letter or an underscore.

## Main definitions

* `Name.IsWritten` — the shape of a name in a text.
* `TokenKind.IsWritten` — a token is no name or has this shape.

## Main results

* `isWritten_of_lex` — so have all tokens of all texts.
-/

namespace Manifest

/-! ### The scanner for names -/

/-- A name as it is written: behind the anchor, if there is one, it consists of segments. -/
def Name.IsWritten (name : String) : Prop :=
  Name.IsPlain (Text.isWordChar · = true) ((Name.absolute? name).getD name).toList

/-- What the scanner takes has this shape. -/
theorem isWritten_take_length {cs : List Char} (h : LexRule.word.length cs ≠ 0) :
    Name.IsWritten (String.ofList (cs.take (LexRule.word.length cs))) := by
  have hname := isName_take h
  rw [LexRule.length]
  generalize cs.take (nameLength Text.isLowerStart Text.isLowerStart cs) = lexeme at hname
  obtain ⟨anchor, name, hanchor, hplain, rfl⟩ := hname
  have habsolute : (Name.absolute? (String.ofList (anchor ++ name))).getD
      (String.ofList (anchor ++ name)) = String.ofList name := by
    unfold Name.absolute?
    rw [String.toList_ofList]
    rcases hanchor with rfl | rfl
    · obtain ⟨c, tail, rfl, hc, -⟩ := hplain
      have hne : c ≠ ':' := by
        rintro rfl
        exact absurd hc (by decide)
      simp [hne]
    · rfl
  rw [Name.IsWritten, habsolute, String.toList_ofList]
  exact hplain

/-! ### Tokens -/

/-- A token that is a name has the shape of one. -/
def TokenKind.IsWritten : TokenKind → Prop
  | .name text => Name.IsWritten text
  | _ => True

variable {location : Location} {rule : LexRule} {cs : List Char} {kind : TokenKind} {n : Nat}

theorem isWritten_of_first? (h : LexRule.first? cs = some (rule, n))
    (htoken : rule.token? location (cs.take n) = .ok (some kind)) : kind.IsWritten := by
  obtain ⟨rfl, hn⟩ := LexRule.length_of_first? h
  cases rule with
  | word =>
    cases htoken
    rw [TokenKind.ofWord]
    split
    · trivial
    · exact isWritten_take_length hn
  | integer =>
    rw [LexRule.token?, integerToken] at htoken
    split at htoken <;> cases htoken
    trivial
  | symbol =>
    rw [LexRule.token?] at htoken
    cases hsign : symbolAt? (cs.take (LexRule.symbol.length cs)) with
    | none => rw [hsign] at htoken; cases htoken
    | some sign => rw [hsign] at htoken; cases htoken; trivial
  | variableName | typeName | singleQuoted | doubleQuoted => cases htoken; trivial
  | blanks | lineComment | blockComment => cases htoken

theorem isWritten_of_lexFrom : ∀ {cs : List Char} {skip : Nat} {location : Location}
    {ts : List Token}, lexFrom location skip cs = .ok ts → ∀ t ∈ ts, t.kind.IsWritten
  | [], _, location, ts, h => by
    rw [lexFrom] at h
    cases h
    exact List.forall_mem_singleton.mpr trivial
  | c :: cs, skip + 1, location, ts, h => by
    rw [lexFrom] at h
    exact isWritten_of_lexFrom h
  | c :: cs, 0, location, ts, h => by
    obtain ⟨rule, n, kind?, tokens, hfirst, htoken, hmore, rfl⟩ := lexFrom_cons_eq_ok h
    refine List.forall_mem_append.mpr ⟨fun t ht => ?_, isWritten_of_lexFrom hmore⟩
    obtain ⟨kind, rfl, rfl⟩ := Option.map_eq_some_iff.mp (Option.mem_toList.mp ht)
    exact isWritten_of_first? hfirst htoken

/-- The names in a text have the shape of names. -/
theorem isWritten_of_lex {file text : String} {ts : List Token} (h : lex file text = .ok ts) :
    ∀ t ∈ ts, t.kind.IsWritten := isWritten_of_lexFrom h

end Manifest
