import Manifest.Proofs.Token.LineBreak
import Manifest.Proofs.Token.Quoted
import Mathlib.Data.List.DropRight

/-!
# Variables in double-quoted strings

A double-quoted string is read from left to right: an escape makes one character, a dollar with a
name behind it makes a variable, and every other character stands for itself.  The name may consist
of any letters, digits, underscores and colons, whether it stands between braces or not; only colons
at its end are left to the text if it does not.  The rule for variables outside strings asks for
more: every segment of a name begins with a letter or an underscore, and colons only separate
segments.

## Main definitions

* `Interpolates` — a text begins with the name of a variable.
* `ReadsAs` — the pieces of a double-quoted string, rule by rule.
* `IsVariableName` — a name that the rule for variables takes as a whole.

## Main results

* `readsAs_iff` — the pieces of a string are those that the rules give.
* `isTemplate_templateParts`, `pieces_templateParts` — neighbouring characters are joined.
* `exists_interpolated_iff` — which names variables in strings have.
* `isVariableName_iff` — which of them the rule for variables takes.
* `templateParts_read` — all of it.
* `templateParts_lax` — some names in strings are no variable names.
-/

namespace Manifest

/-! ### The name behind a dollar -/

/-- What stands behind a dollar begins with the name of a variable, and goes on behind it. -/
inductive Interpolates : List Char → List Char → List Char → Prop
  | braces {name rest : List Char} (hname : name ≠ [])
    (hchars : ∀ c ∈ name, isInterpolatedChar c = true) :
    Interpolates ('{' :: (name ++ '}' :: rest)) name rest
  /-- Without braces the name goes as far as it can, but for the colons at its end. -/
  | bare {name colons rest : List Char} (hname : name ≠ [])
    (hchars : ∀ c ∈ name, isInterpolatedChar c = true) (hlast : name.getLast hname ≠ ':')
    (hcolons : ∀ c ∈ colons, c = ':') (hstop : ∀ c ∈ rest.head?, isInterpolatedChar c = false) :
    Interpolates (name ++ (colons ++ rest)) name (colons ++ rest)

variable {cs name rest body : List Char} {ps : List TemplatePiece}

theorem Interpolates.name_chars (h : Interpolates cs name rest) :
    name ≠ [] ∧ ∀ c ∈ name, isInterpolatedChar c = true := by
  cases h with
  | braces hname hchars => exact ⟨hname, hchars⟩
  | bare hname hchars => exact ⟨hname, hchars⟩

theorem takeWhile_interpolated (hchars : ∀ c ∈ cs, isInterpolatedChar c = true)
    (hstop : ∀ c ∈ rest.head?, isInterpolatedChar c = false) :
    (cs ++ rest).takeWhile isInterpolatedChar = cs := by
  rw [List.takeWhile_append_of_pos hchars]
  cases rest with
  | nil => simp
  | cons c rest => simp [hstop c rfl]

theorem dropLastColons_append {colons : List Char} (hname : name ≠ [])
    (hlast : name.getLast hname ≠ ':') (hcolons : ∀ c ∈ colons, c = ':') :
    dropLastColons (name ++ colons) = name := by
  have hdrop : colons.reverse.dropWhile (· == ':') = [] :=
    List.dropWhile_eq_nil_iff.mpr fun c hc => by simp [hcolons c (List.mem_reverse.mp hc)]
  have hkeep : dropLastColons name = name :=
    List.rdropWhile_eq_self_iff.mpr fun _ => by simpa using hlast
  rw [dropLastColons, List.reverse_append, List.dropWhile_append, hdrop]
  exact hkeep

/-- What is dropped are the colons at the end. -/
theorem exists_dropLastColons (cs : List Char) :
    ∃ colons, cs = dropLastColons cs ++ colons ∧ (∀ c ∈ colons, c = ':') ∧
      ∀ h : dropLastColons cs ≠ [], (dropLastColons cs).getLast h ≠ ':' := by
  refine ⟨cs.rtakeWhile (· == ':'), List.rdropWhile_append_rtakeWhile.symm, fun c hc => ?_,
    fun h => ?_⟩
  · simpa using List.mem_rtakeWhile_imp hc
  · exact fun hlast => List.rdropWhile_last_not (· == ':') cs h (beq_iff_eq.mpr hlast)

/-- Without a brace the name is what the class of characters allows. -/
theorem interpolation_bare (h : cs.head? ≠ some '{') :
    interpolation cs = (dropLastColons (cs.takeWhile isInterpolatedChar),
      (dropLastColons (cs.takeWhile isInterpolatedChar)).length) := by
  rw [interpolation]
  rintro inner rfl
  exact h rfl

/-- Such a name is found. -/
theorem Interpolates.interpolation_eq (h : Interpolates cs name rest) :
    ∃ n, interpolation cs = (name, n) ∧ cs.drop n = rest := by
  cases h with
  | braces hname hchars =>
    refine ⟨_, interpolation_braces hname (List.all_eq_true.mpr hchars) rest, ?_⟩
    simp
  | @bare _ colons rest hname hchars hlast hcolons hstop =>
    have hcolon : ∀ c ∈ colons, isInterpolatedChar c = true := fun c hc => by
      rw [hcolons c hc]
      decide
    have htake : (name ++ (colons ++ rest)).takeWhile isInterpolatedChar = name ++ colons := by
      rw [← List.append_assoc]
      exact takeWhile_interpolated
        (List.forall_mem_append.mpr ⟨hchars, hcolon⟩) hstop
    have hhead : (name ++ (colons ++ rest)).head? ≠ some '{' := by
      obtain ⟨c, name, rfl⟩ := List.exists_cons_of_ne_nil hname
      rintro h
      cases h
      exact absurd (hchars _ List.mem_cons_self) (by decide)
    refine ⟨name.length, ?_, by simp⟩
    rw [interpolation_bare hhead, htake, dropLastColons_append hname hlast hcolons]

/-- A character that cuts off the rest of a text stands where the text was cut. -/
theorem exists_eq_takeWhile_append {c : Char}
    (h : (cs.takeWhile (· ≠ c)).length < cs.length) :
    ∃ rest, cs = cs.takeWhile (· ≠ c) ++ c :: rest := by
  induction cs with
  | nil => exact absurd h (Nat.lt_irrefl _)
  | cons d cs ih =>
    by_cases hd : d = c
    · exact ⟨cs, by simp [hd]⟩
    · have htake : (d :: cs).takeWhile (· ≠ c) = d :: cs.takeWhile (· ≠ c) := by simp [hd]
      rw [htake, List.length_cons, List.length_cons] at h
      obtain ⟨rest, hrest⟩ := ih (Nat.lt_of_succ_lt_succ h)
      exact ⟨rest, by rw [htake, List.cons_append, ← hrest]⟩

/-- Between braces the name is what stands before the closing one. -/
theorem interpolates_of_braces {inner : List Char} (h : (interpolation ('{' :: inner)).1 ≠ []) :
    Interpolates ('{' :: inner) (interpolation ('{' :: inner)).1
      (('{' :: inner).drop (interpolation ('{' :: inner)).2) := by
  by_cases hcond : ((inner.takeWhile (· ≠ '}')).length < inner.length &&
      !(inner.takeWhile (· ≠ '}')).isEmpty &&
        (inner.takeWhile (· ≠ '}')).all isInterpolatedChar) = true
  · have hfound : interpolation ('{' :: inner) =
        (inner.takeWhile (· ≠ '}'), (inner.takeWhile (· ≠ '}')).length + 2) := if_pos hcond
    rw [Bool.and_eq_true, Bool.and_eq_true, decide_eq_true_eq] at hcond
    obtain ⟨⟨hlength, -⟩, hall⟩ := hcond
    obtain ⟨rest, hrest⟩ := exists_eq_takeWhile_append hlength
    rw [hfound] at h ⊢
    generalize inner.takeWhile (· ≠ '}') = name at h hall hrest ⊢
    subst hrest
    have hbraces : Interpolates ('{' :: (name ++ '}' :: rest)) name rest :=
      .braces h (List.all_eq_true.mp hall)
    simpa using hbraces
  · have hfound : interpolation ('{' :: inner) = ([], 0) := if_neg hcond
    exact absurd (congrArg Prod.fst hfound) h

/-- Without braces the name is followed by the colons that were given back, if there are any. -/
theorem interpolates_of_bare (hbrace : cs.head? ≠ some '{') (h : (interpolation cs).1 ≠ []) :
    Interpolates cs (interpolation cs).1 (cs.drop (interpolation cs).2) := by
  rw [interpolation_bare hbrace] at h ⊢
  obtain ⟨colons, hsplit, hcolons, hlast⟩ :=
    exists_dropLastColons (cs.takeWhile isInterpolatedChar)
  have hchars : ∀ c ∈ cs.takeWhile isInterpolatedChar, isInterpolatedChar c = true :=
    fun _ => List.mem_takeWhile_imp
  have hstop : ∀ c ∈ (cs.dropWhile isInterpolatedChar).head?, isInterpolatedChar c = false := by
    intro c hc
    have := List.head?_dropWhile_not isInterpolatedChar cs
    rw [hc] at this
    exact this
  have hwhole : cs = cs.takeWhile isInterpolatedChar ++ cs.dropWhile isInterpolatedChar :=
    List.takeWhile_append_dropWhile.symm
  rw [hsplit] at hwhole hchars
  generalize dropLastColons (cs.takeWhile isInterpolatedChar) = name at *
  rw [List.append_assoc] at hwhole
  have hbare := Interpolates.bare h (fun c hc => hchars c (List.mem_append_left _ hc)) (hlast h)
    hcolons hstop
  rw [← hwhole] at hbare
  have hdrop : cs.drop name.length = colons ++ cs.dropWhile isInterpolatedChar := by
    conv_lhs => rw [hwhole, List.drop_left]
  rw [hdrop]
  exact hbare

/-- What is found is such a name. -/
theorem exists_interpolates (h : (interpolation cs).1 ≠ []) :
    Interpolates cs (interpolation cs).1 (cs.drop (interpolation cs).2) := by
  by_cases hbrace : cs.head? = some '{'
  · cases cs with
    | nil => cases hbrace
    | cons c inner =>
      obtain rfl : c = '{' := Option.some.inj hbrace
      exact interpolates_of_braces h
  · exact interpolates_of_bare hbrace h

/-- A name is found if and only if there is one. -/
theorem interpolation_eq_nil_iff :
    (interpolation cs).1 = [] ↔ ∀ name rest, ¬ Interpolates cs name rest := by
  refine ⟨fun h name rest hname => ?_, fun h => ?_⟩
  · obtain ⟨n, heq, -⟩ := hname.interpolation_eq
    rw [heq] at h
    exact hname.name_chars.1 h
  · by_contra hne
    exact h _ _ (exists_interpolates hne)

/-! ### From left to right -/

/-- The pieces of the inside of a double-quoted string. -/
inductive ReadsAs : List Char → List TemplatePiece → Prop
  | nil : ReadsAs [] []
  | escape {c e : Char} {cs : List Char} {ps : List TemplatePiece} (h : escapedChar? c = some e)
    (hrest : ReadsAs cs ps) : ReadsAs ('\\' :: c :: cs) (.char e :: ps)
  /-- A backslash before any other character is no escape. -/
  | kept {c : Char} {cs : List Char} {ps : List TemplatePiece} (h : escapedChar? c = none)
    (hrest : ReadsAs cs ps) : ReadsAs ('\\' :: c :: cs) (.char '\\' :: .char c :: ps)
  | interpolated {cs name rest : List Char} {ps : List TemplatePiece}
    (h : Interpolates cs name rest) (hrest : ReadsAs rest ps) :
    ReadsAs ('$' :: cs) (.name name :: ps)
  | dollar {cs : List Char} {ps : List TemplatePiece}
    (h : ∀ name rest, ¬ Interpolates cs name rest) (hrest : ReadsAs cs ps) :
    ReadsAs ('$' :: cs) (.char '$' :: ps)
  | char {c : Char} {cs : List Char} {ps : List TemplatePiece} (hdollar : c ≠ '$')
    (hbackslash : c = '\\' → cs = []) (hrest : ReadsAs cs ps) : ReadsAs (c :: cs) (.char c :: ps)

theorem templatePieces_drop : ∀ (n : Nat) (cs : List Char),
    templatePieces n cs = templatePieces 0 (cs.drop n)
  | 0, _ => rfl
  | _ + 1, [] => rfl
  | n + 1, _ :: cs => templatePieces_drop n cs

theorem templatePieces_dollar (cs : List Char) :
    templatePieces 0 ('$' :: cs) =
      if (interpolation cs).1 = [] then .char '$' :: templatePieces 0 cs
      else .name (interpolation cs).1 :: templatePieces 0 (cs.drop (interpolation cs).2) := by
  rw [templatePieces]
  simp only [List.isEmpty_iff, templatePieces_drop (interpolation cs).2 cs]

theorem templatePieces_char {c : Char} (hdollar : c ≠ '$') (hbackslash : c = '\\' → cs = []) :
    templatePieces 0 (c :: cs) = .char c :: templatePieces 0 cs := by
  rw [templatePieces]
  · rintro d rest hc rfl
    cases hbackslash hc
  · exact hdollar

/-- The scanner follows the rules. -/
theorem ReadsAs.templatePieces_eq (h : ReadsAs body ps) : templatePieces 0 body = ps := by
  induction h with
  | nil => rfl
  | escape h _ ih => rw [templatePieces, h, ih]
  | kept h _ ih => rw [templatePieces, h, ih]
  | interpolated h _ ih =>
    obtain ⟨n, hfound, hdrop⟩ := h.interpolation_eq
    rw [templatePieces_dollar, hfound, if_neg h.name_chars.1, hdrop, ih]
  | dollar h _ ih => rw [templatePieces_dollar, if_pos (interpolation_eq_nil_iff.mpr h), ih]
  | char hdollar hbackslash _ ih => rw [templatePieces_char hdollar hbackslash, ih]

/-- There are rules for every string. -/
theorem readsAs_templatePieces (body : List Char) : ReadsAs body (templatePieces 0 body) := by
  -- A variable takes up more than one character, so the induction is on the length.
  induction hn : body.length using Nat.strong_induction_on generalizing body with
  | h n ih =>
    have hread : ∀ cs : List Char, cs.length < n → ReadsAs cs (templatePieces 0 cs) :=
      fun cs hcs => ih _ hcs cs rfl
    match body with
    | [] => exact .nil
    | c :: cs =>
      rw [List.length_cons] at hn
      by_cases hdollar : c = '$'
      · rw [hdollar, templatePieces_dollar]
        split
        · rename_i hnil
          exact .dollar (interpolation_eq_nil_iff.mp hnil) (hread cs (by omega))
        · rename_i hname
          refine .interpolated (exists_interpolates hname) (hread _ ?_)
          rw [List.length_drop]
          omega
      · by_cases hbackslash : c = '\\' → cs = []
        · rw [templatePieces_char hdollar hbackslash]
          exact .char hdollar hbackslash (hread cs (by omega))
        · obtain ⟨rfl, hcs⟩ := Classical.not_imp.mp hbackslash
          obtain ⟨d, cs, rfl⟩ := List.exists_cons_of_ne_nil hcs
          have hrest := hread cs (by rw [List.length_cons] at hn; omega)
          rw [templatePieces]
          cases he : escapedChar? d with
          | some e => exact .escape he hrest
          | none => exact .kept he hrest

/-- The pieces of a string are those that the rules give. -/
theorem readsAs_iff : ReadsAs body ps ↔ templatePieces 0 body = ps :=
  ⟨ReadsAs.templatePieces_eq, fun h => h ▸ readsAs_templatePieces body⟩

/-! ### Joined characters -/

/-- Joined characters are still those that were there. -/
theorem pieces_joinPieces (ps : List TemplatePiece) :
    (joinPieces ps).flatMap TemplatePart.pieces = ps := by
  induction ps with
  | nil => rfl
  | cons p ps ih =>
    cases p with
    | name n => rw [joinPieces, List.flatMap_cons, ih, TemplatePart.pieces, String.toList_ofList,
        List.singleton_append]
    | char c =>
      rw [joinPieces]
      split
      · rename_i text more hparts
        rw [hparts, List.flatMap_cons, TemplatePart.pieces] at ih
        rw [List.flatMap_cons, TemplatePart.pieces, String.toList_ofList, List.map_cons,
          List.cons_append, ih]
      · rw [List.flatMap_cons, ih, TemplatePart.pieces, String.toList_ofList, List.map_singleton,
          List.singleton_append]

/-- No two literals are left next to each other. -/
theorem isChain_joinPieces (ps : List TemplatePiece) :
    (joinPieces ps).IsChain fun p q => p.isLiteral = false ∨ q.isLiteral = false := by
  induction ps with
  | nil => exact .nil
  | cons p ps ih =>
    cases p with
    | name n => exact List.isChain_cons.mpr ⟨fun _ _ => .inl rfl, ih⟩
    | char c =>
      rw [joinPieces]
      split
      · rename_i text more hparts
        rw [hparts] at ih
        exact List.isChain_cons.mpr (List.isChain_cons.mp ih)
      · rename_i hliteral
        refine List.isChain_cons.mpr ⟨fun q hq => .inr ?_, ih⟩
        cases q with
        | interpolated n => rfl
        | literal text =>
          obtain ⟨more, hmore⟩ := List.head?_eq_some_iff.mp hq
          exact (hliteral text more hmore).elim

/-- No literal is empty. -/
theorem ne_empty_of_mem_joinPieces {text : String} (h : .literal text ∈ joinPieces ps) :
    text ≠ "" := by
  have hcons : ∀ (c : Char) (cs : List Char), String.ofList (c :: cs) ≠ "" := fun c cs hempty => by
    simpa using congrArg String.toList hempty
  induction ps with
  | nil => cases h
  | cons p ps ih =>
    cases p with
    | name n => exact ih ((List.mem_cons.mp h).resolve_left (by simp))
    | char c =>
      rw [joinPieces] at h
      split at h
      · rename_i more hparts
        rcases List.mem_cons.mp h with heq | h
        · cases heq
          exact hcons c _
        · exact ih (hparts ▸ List.mem_cons_of_mem _ h)
      · rcases List.mem_cons.mp h with heq | h
        · cases heq
          exact hcons c []
        · exact ih h

/-- Every variable is one of the pieces. -/
theorem name_mem_of_mem_joinPieces {n : String} (h : .interpolated n ∈ joinPieces ps) :
    .name n.toList ∈ ps := by
  have hmem : .name n.toList ∈ (joinPieces ps).flatMap TemplatePart.pieces :=
    List.mem_flatMap.mpr ⟨_, h, List.mem_singleton_self _⟩
  rwa [pieces_joinPieces] at hmem

/-- Every name that the rules give consists of the right characters. -/
theorem ReadsAs.name_chars (h : ReadsAs body ps) (hname : .name name ∈ ps) :
    name ≠ [] ∧ ∀ c ∈ name, isInterpolatedChar c = true := by
  induction h with
  | nil => cases hname
  | interpolated h _ ih =>
    rcases List.mem_cons.mp hname with heq | hname
    · cases heq
      exact h.name_chars
    · exact ih hname
  | kept h _ ih => exact ih (by simpa using hname)
  | escape h _ ih => exact ih (by simpa using hname)
  | dollar h _ ih => exact ih (by simpa using hname)
  | char h _ _ ih => exact ih (by simpa using hname)

theorem templateParts_of_ne_nil (h : joinPieces (templatePieces 0 body) ≠ []) :
    templateParts body = joinPieces (templatePieces 0 body) := by
  rw [templateParts]
  split
  · rename_i hnil
    exact absurd hnil h
  · rfl

theorem templateParts_of_nil (h : joinPieces (templatePieces 0 body) = []) :
    templateParts body = [.literal ""] := by rw [templateParts, h]

theorem isTemplate_templateParts (body : List Char) : IsTemplate (templateParts body) := by
  by_cases hnil : joinPieces (templatePieces 0 body) = []
  · exact .inl (templateParts_of_nil hnil)
  · rw [templateParts_of_ne_nil hnil]
    refine .inr ⟨hnil, fun p hp => ?_, isChain_joinPieces _⟩
    cases p with
    | literal text => exact ne_empty_of_mem_joinPieces hp
    | interpolated n =>
      obtain ⟨hne, hchars⟩ :=
        (readsAs_templatePieces body).name_chars (name_mem_of_mem_joinPieces hp)
      exact ⟨fun hempty => hne (hempty ▸ rfl), List.all_eq_true.mpr hchars⟩

/-- Written out, the parts are the pieces. -/
theorem pieces_templateParts (body : List Char) :
    (templateParts body).flatMap TemplatePart.pieces = templatePieces 0 body := by
  have hpieces := pieces_joinPieces (templatePieces 0 body)
  by_cases hnil : joinPieces (templatePieces 0 body) = []
  · rw [templateParts_of_nil hnil, ← hpieces, hnil]
    rfl
  · rw [templateParts_of_ne_nil hnil, hpieces]

/-! ### Names that the rule for variables takes -/

/-- A name that the rule for variables takes as a whole, behind the dollar. -/
def IsVariableName (name : String) : Prop :=
  LexRule.variableName.length ('$' :: name.toList) = name.toList.length + 1

instance (name : String) : Decidable (IsVariableName name) := inferInstanceAs (Decidable (_ = _))

theorem variableName_length_iff :
    LexRule.variableName.length ('$' :: cs) = cs.length + 1 ↔
      cs ≠ [] ∧ nameLength Text.isNameStart Text.isNameStart cs = cs.length := by
  rw [LexRule.length, ← List.length_pos_iff]
  cases nameLength Text.isNameStart Text.isNameStart cs with
  | zero => simp only; omega
  | succ n => simp only; omega

/-- The rule for variables takes a name as a whole if and only if every segment of the name, behind
the anchor if there is one, begins with a letter or an underscore. -/
theorem isVariableName_iff {name : String}
    (hchars : ∀ c ∈ name.toList, isInterpolatedChar c = true) :
    IsVariableName name ↔
      IsName Text.isNameStart Text.isNameStart (isAsciiWordChar · = true) name.toList := by
  rw [IsVariableName, variableName_length_iff]
  constructor
  · rintro ⟨hne, hlength⟩
    have hname := isName_take (hlength ▸ mt List.length_eq_zero_iff.mp hne)
    rw [hlength, List.take_length] at hname
    -- Among the characters of an interpolated name the colon alone is no word character.
    refine hname.imp fun c hc hword => (Bool.or_eq_true_iff.mp (hchars c hc)).resolve_right ?_
    rintro hcolon
    rw [beq_iff_eq.mp hcolon] at hword
    exact absurd hword (by decide)
  · intro h
    have hlength := h.nameLength_stops (by decide) (.inl rfl)
    rw [List.append_nil] at hlength
    obtain ⟨c, tail, htail, -⟩ := h.eq_cons
    exact ⟨htail ▸ List.cons_ne_nil c tail, hlength⟩

/-! ### All of it -/

/-- Any letters, digits, underscores and colons are a name in some string. -/
theorem exists_interpolated_iff (name : String) :
    (∃ body, .interpolated name ∈ templateParts body) ↔
      name ≠ "" ∧ ∀ c ∈ name.toList, isInterpolatedChar c = true := by
  refine ⟨fun ⟨body, h⟩ => ?_, fun ⟨hname, hchars⟩ => ?_⟩
  · rcases isTemplate_templateParts body with hparts | ⟨-, hwritable, -⟩
    · rw [hparts] at h
      cases List.mem_singleton.mp h
    · obtain ⟨hname, hchars⟩ := hwritable _ h
      exact ⟨hname, List.all_eq_true.mp hchars⟩
  · have hwritable : ∀ p ∈ [TemplatePart.interpolated name], p.IsWritable :=
      List.forall_mem_singleton.mpr ⟨hname, List.all_eq_true.mpr hchars⟩
    have htemplate : IsTemplate [.interpolated name] :=
      .inr ⟨List.cons_ne_nil _ _, hwritable, .singleton _⟩
    have hparts := templateParts_spelling htemplate
    exact ⟨_, hparts ▸ List.mem_singleton_self _⟩

/-- A double-quoted string is read rule by rule, whatever is in it: what belongs to no escape and to
no variable stands for itself, in its place.  The names of its variables are names for the rule for
variables only as far as they consist of segments; the scanner for strings does not look for
those. -/
theorem templateParts_read (body : List Char) :
    ReadsAs body ((templateParts body).flatMap TemplatePart.pieces) ∧
      IsTemplate (templateParts body) ∧
        ∀ name, .interpolated name ∈ templateParts body →
          (IsVariableName name ↔
            IsName Text.isNameStart Text.isNameStart (isAsciiWordChar · = true) name.toList) := by
  refine ⟨?_, isTemplate_templateParts body, fun name h => ?_⟩
  · rw [pieces_templateParts]
    exact readsAs_templatePieces body
  · exact isVariableName_iff ((exists_interpolated_iff name).mp ⟨body, h⟩).2

theorem templateParts_read_sample :
    .interpolated "os::family" ∈ templateParts "on $os::family:".toList ∧
      IsName Text.isNameStart Text.isNameStart (isAsciiWordChar · = true) "os::family".toList := by
  have hmem : .interpolated "os::family" ∈ templateParts "on $os::family:".toList := by decide
  exact ⟨hmem, ((templateParts_read _).2.2 "os::family" hmem).mp (by decide)⟩

/-- A number, or segments with one colon between them, make a variable in a string, but the rule for
variables does not take them. -/
theorem templateParts_lax :
    (templateParts "$1".toList = [.interpolated "1"] ∧ ¬ IsVariableName "1") ∧
      templateParts "$a:b".toList = [.interpolated "a:b"] ∧ ¬ IsVariableName "a:b" := by
  decide

end Manifest
