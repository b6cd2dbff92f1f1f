import Manifest.Json.Reader
import Manifest.Json.Writer
import Mathlib.Data.Nat.Basic
import Mathlib.Data.List.Basic

/-!
# Written values are read back

A value that is written, on one line or over several, is read back from the front of whatever
stands behind it.  Each kind of character of a text is read as it is escaped, numbers end where
their digits do, and an item or member is read by the reader for one level less.

A whole number that does not fit into 64 bits comes back as a decimal; nothing else is changed, so
that no two values are written alike.

## Main definitions

* `Json.IsPlain` — a value of texts, whole numbers and the like, which may be written.
* `Json.asRead` — what a value is read back as.
* `Json.Layout.IsBlank` — a layout in which only blanks stand between the parts of a value.

## Main results

* `Json.readString?_quoted`, `Json.readNumber?_integer` — scalars are read back.
* `Json.readValue?_chars` — values are.
* `Json.chars_injective` — different values are written differently.
-/

namespace Manifest.Json

variable {c : Char} {cs rest : List Char} {n : Nat}

/-! ### Texts -/

/-- The piece that an escaped character is read as: a unit if its code has been written. -/
def piece (c : Char) : StringPiece := if (escaped c).length = 6 then .unit c.toNat else .char c

theorem hexUnit?_hexDigit (h : n < 32) :
    hexUnit? '0' '0' (hexDigit (n / 16)) (hexDigit (n % 16)) = some n := by
  have hall : ∀ n < 32, hexUnit? '0' '0' (hexDigit (n / 16)) (hexDigit (n % 16)) = some n := by
    decide
  exact hall n h

/-- A character that needs no escape is read as itself. -/
theorem readPieces?_cons (hquote : c ≠ '"') (hbackslash : c ≠ '\\') (hcontrol : ¬ c.toNat < 32)
    (cs : List Char) :
    readPieces? (c :: cs) = (readPieces? cs).map fun r => (.char c :: r.1, r.2) := by
  rw [readPieces?]
  · simp [hbackslash, hcontrol]
  · exact hquote
  · exact fun _ _ _ _ _ h => absurd h hbackslash
  · exact fun _ _ h => absurd h hbackslash

/-- An escaped character is read as its piece. -/
theorem readPieces?_escaped (c : Char) (cs : List Char) :
    readPieces? (escaped c ++ cs) = (readPieces? cs).map fun r => (piece c :: r.1, r.2) := by
  unfold piece escaped
  split
  · next h => subst h; rfl
  split
  · next h => subst h; rfl
  split
  · next h => subst h; rfl
  split
  · next h => subst h; rfl
  split
  · next h => subst h; rfl
  split
  · next h => subst h; rfl
  split
  · next h => subst h; rfl
  · next hquote hbackslash _ _ _ _ _ =>
    split
    · next hcontrol =>
      show readPieces? ('\\' :: 'u' :: '0' :: '0' :: hexDigit (c.toNat / 16) ::
        hexDigit (c.toNat % 16) :: cs) = _
      rw [readPieces?, hexUnit?_hexDigit hcontrol]
      rfl
    · next hcontrol => exact readPieces?_cons hquote hbackslash hcontrol cs

/-- A quoted text is read as its pieces up to the closing quote. -/
theorem readPieces?_quoted (cs rest : List Char) :
    readPieces? (cs.flatMap escaped ++ '"' :: rest) = some (cs.map piece, rest) := by
  induction cs with
  | nil => rfl
  | cons c cs ih =>
    rw [List.flatMap_cons, List.append_assoc, readPieces?_escaped, ih]
    rfl

/-- No unit that is written for a character is half of a pair. -/
theorem charsOfPieces?_piece (c : Char) (ps : List StringPiece) :
    charsOfPieces? (piece c :: ps) = (charsOfPieces? ps).map (c :: ·) := by
  unfold piece
  split
  · next h =>
    have hcode : c.toNat < 32 := by
      revert h
      unfold escaped
      split_ifs <;> simp_all
    have hhigh : isHighSurrogate c.toNat = false := by
      simp [isHighSurrogate]
      omega
    have hlow : isLowSurrogate c.toNat = false := by
      simp [isLowSurrogate]
      omega
    have hchar : Char.ofNat c.toNat = c := Char.ofNat_toNat c
    cases ps with
    | nil => simp [charsOfPieces?, hhigh, hlow, hchar]
    | cons p ps => cases p <;> simp [charsOfPieces?, hhigh, hlow, hchar]
  · rw [charsOfPieces?]

theorem charsOfPieces?_pieces (cs : List Char) : charsOfPieces? (cs.map piece) = some cs := by
  induction cs with
  | nil => rfl
  | cons c cs ih =>
    rw [List.map_cons, charsOfPieces?_piece, ih]
    rfl

/-- A quoted text is read back behind its opening quote. -/
theorem readString?_quoted (s : String) (rest : List Char) :
    readString? (s.toList.flatMap escaped ++ '"' :: rest) = some (some s, rest) := by
  rw [readString?, readPieces?_quoted, Option.map_some, charsOfPieces?_pieces, Option.map_some,
    String.ofList_toList]

/-! ### Numbers -/

/-- Characters that a number ends before. -/
def EndsNumber (rest : List Char) : Prop :=
  ∀ c ∈ rest.head?, c.isDigit = false ∧ c ≠ '.' ∧ c ≠ 'e' ∧ c ≠ 'E'

theorem takeWhile_digits {digits : List Char} (hdigits : ∀ c ∈ digits, c.isDigit = true)
    (hrest : EndsNumber rest) : (digits ++ rest).takeWhile Char.isDigit = digits := by
  have hstop : rest.takeWhile Char.isDigit = [] := by
    cases rest with
    | nil => rfl
    | cons c cs => rw [List.takeWhile_cons_of_neg (by simp [(hrest c rfl).1])]
  rw [List.takeWhile_append_of_pos hdigits, hstop, List.append_nil]

theorem readDigits?_append {digits : List Char} (hdigits : ∀ c ∈ digits, c.isDigit = true)
    (hne : digits ≠ []) (hrest : EndsNumber rest) :
    readDigits? (digits ++ rest) = some (digits, rest) := by
  unfold readDigits?
  rw [takeWhile_digits hdigits hrest]
  simp [hne]

/-- Only zero is written with a zero in front. -/
theorem head?_toDigits (h : n ≠ 0) : (Nat.toDigits 10 n).head? ≠ some '0' := by
  induction n using Nat.strong_induction_on with
  | _ n ih =>
    by_cases hlt : n < 10
    · rw [Nat.toDigits_of_lt_base hlt]
      have hall : ∀ n < 10, n ≠ 0 → [n.digitChar].head? ≠ some '0' := by decide
      exact hall n hlt h
    · have hfront := ih (n / 10) (by omega) (by omega)
      rw [Nat.toDigits_of_base_le (by omega) (by omega)]
      rw [List.head?_append_of_ne_nil _ Nat.toDigits_ne_nil]
      exact hfront

theorem readWhole?_toDigits (n : Nat) (hrest : EndsNumber rest) :
    readWhole? (Nat.toDigits 10 n ++ rest) = some (Nat.toDigits 10 n, rest) := by
  by_cases h : n = 0
  · subst h
    rfl
  · have hdigits : ∀ c ∈ Nat.toDigits 10 n, c.isDigit = true :=
      fun c hc => Nat.isDigit_of_mem_toDigits (by decide) (by decide) hc
    have hhead := head?_toDigits h
    have hread := readDigits?_append hdigits Nat.toDigits_ne_nil hrest
    cases hcs : Nat.toDigits 10 n with
    | nil => exact absurd hcs Nat.toDigits_ne_nil
    | cons c cs =>
      rw [hcs] at hhead hread
      rw [List.cons_append, readWhole?]
      · exact hread
      · intro more hmore
        rw [(List.cons.inj hmore).1] at hhead
        exact hhead rfl

theorem natOfDigits_toDigits (n : Nat) : natOfDigits (Nat.toDigits 10 n) = n := by
  have hdigits : Nat.ofDigitChars 10 (Nat.toDigits 10 n) 0 = n := Nat.ofDigitChars_ten_toDigits
  rw [Nat.ofDigitChars_eq_foldl] at hdigits
  exact hdigits

/-- What a whole number is read back as: only those of 64 bits, with or without sign, are whole
numbers for the reader. -/
def integerAsRead (n : Int) : Json :=
  if -span63 ≤ n ∧ n < span64 then .integer n else .decimal (toString n)

theorem readFraction?_of_ends (hrest : EndsNumber rest) : readFraction? rest = some ([], rest) := by
  cases rest with
  | nil => rfl
  | cons c cs =>
    obtain ⟨-, hpoint, -, -⟩ := hrest c rfl
    rw [readFraction?]
    exact fun _ h => hpoint (List.cons.inj h).1

theorem readExponent?_of_ends (hrest : EndsNumber rest) : readExponent? rest = some ([], rest) := by
  cases rest with
  | nil => rfl
  | cons c cs =>
    obtain ⟨-, -, hsmall, hlarge⟩ := hrest c rfl
    simp [readExponent?, hsmall, hlarge]

/-- Digits behind a sign or none are read as a whole number if they are one. -/
theorem readUnsigned?_toDigits (negative : Bool) (n : Nat) (hrest : EndsNumber rest) :
    readUnsigned? negative (Nat.toDigits 10 n ++ rest) =
      match wholeNumber? negative (Nat.toDigits 10 n) with
      | some i => some (.integer i, rest)
      | none => some (.decimal (String.ofList
          ((if negative then ['-'] else []) ++ Nat.toDigits 10 n)), rest) := by
  unfold readUnsigned?
  rw [readWhole?_toDigits n hrest]
  cases hwhole : wholeNumber? negative (Nat.toDigits 10 n) with
  | none => simp [readFraction?_of_ends hrest, readExponent?_of_ends hrest, hwhole]
  | some i => simp [readFraction?_of_ends hrest, readExponent?_of_ends hrest, hwhole]

theorem readNumber?_toDigits (n : Nat) (rest : List Char) :
    readNumber? (Nat.toDigits 10 n ++ rest) = readUnsigned? false (Nat.toDigits 10 n ++ rest) := by
  cases hcs : Nat.toDigits 10 n with
  | nil => exact absurd hcs Nat.toDigits_ne_nil
  | cons c cs =>
    have hdigit : c.isDigit = true := Nat.isDigit_of_mem_toDigits (by decide) (by decide)
      (hcs ▸ List.mem_cons_self : c ∈ Nat.toDigits 10 n)
    rw [List.cons_append, readNumber?]
    intro more hmore
    rw [(List.cons.inj hmore).1] at hdigit
    cases hdigit

theorem toList_negSucc (n : Nat) :
    (toString (Int.negSucc n)).toList = '-' :: Nat.toDigits 10 (n + 1) := by
  show ("-" ++ (n + 1).repr).toList = _
  rw [String.toList_append, Nat.toList_repr]
  rfl

theorem toList_ofNat (n : Nat) : (toString (Int.ofNat n)).toList = Nat.toDigits 10 n :=
  Nat.toList_repr

/-- A whole number is read back, as a decimal if it is too large. -/
theorem readNumber?_integer (n : Int) (hrest : EndsNumber rest) :
    readNumber? ((toString n).toList ++ rest) = some (integerAsRead n, rest) := by
  unfold integerAsRead
  cases n with
  | ofNat m =>
    have hwritten : String.ofList (Nat.toDigits 10 m) = toString (Int.ofNat m) := by
      rw [← toList_ofNat, String.ofList_toList]
    have hbounds : (-span63 ≤ Int.ofNat m ∧ Int.ofNat m < span64) ↔ m < span64 := by
      show (-(span63 : Int) ≤ (m : Int) ∧ (m : Int) < (span64 : Int)) ↔ _
      omega
    rw [toList_ofNat, readNumber?_toDigits, readUnsigned?_toDigits false m hrest, wholeNumber?,
      natOfDigits_toDigits]
    by_cases hm : m < span64
    · rw [if_pos (hbounds.mpr hm)]
      simp [hm]
    · rw [if_neg fun h => hm (hbounds.mp h)]
      simp [hm, hwritten]
  | negSucc m =>
    have hwritten : String.ofList ('-' :: Nat.toDigits 10 (m + 1)) = toString (Int.negSucc m) := by
      rw [← toList_negSucc, String.ofList_toList]
    have hbounds : (-span63 ≤ Int.negSucc m ∧ Int.negSucc m < span64) ↔ m + 1 ≤ span63 := by
      show (-(span63 : Int) ≤ Int.negSucc m ∧ Int.negSucc m < (span64 : Int)) ↔ _
      omega
    rw [toList_negSucc, List.cons_append, readNumber?, readUnsigned?_toDigits true (m + 1) hrest,
      wholeNumber?, natOfDigits_toDigits]
    by_cases hm : m + 1 ≤ span63
    · have hneg : Int.negSucc m = -((m + 1 : Nat) : Int) := rfl
      rw [if_pos (hbounds.mpr hm), hneg]
      simp [hm]
    · rw [if_neg fun h => hm (hbounds.mp h)]
      simp [hm, hwritten]

/-! ### Values -/

mutual

/-- A value without parts that only stand for something that was read. -/
def IsPlain : Json → Prop
  | null | bool _ | integer _ | string _ => True
  | decimal _ | unreadable => False
  | array items => ArePlain items
  | object members => MembersPlain members

/-- Every item is plain. -/
def ArePlain : List Json → Prop
  | [] => True
  | v :: rest => IsPlain v ∧ ArePlain rest

/-- The value of every member is plain. -/
def MembersPlain : List (String × Json) → Prop
  | [] => True
  | (_, v) :: rest => IsPlain v ∧ MembersPlain rest

end

mutual

/-- What a value is read back as. -/
def asRead : Json → Json
  | null => null
  | bool b => bool b
  | integer n => integerAsRead n
  | decimal written => decimal written
  | string s => string s
  | unreadable => unreadable
  | array items => array (allAsRead items)
  | object members => object (membersAsRead members)

/-- What items are read back as. -/
def allAsRead : List Json → List Json
  | [] => []
  | v :: rest => asRead v :: allAsRead rest

/-- What members are read back as. -/
def membersAsRead : List (String × Json) → List (String × Json)
  | [] => []
  | (k, v) :: rest => (k, asRead v) :: membersAsRead rest

end

/-- Only blanks stand between the parts of a value. -/
structure Layout.IsBlank (layout : Layout) : Prop where
  lineBreak : ∀ depth, ∀ c ∈ layout.lineBreak depth, isBlank c = true
  colon : ∃ blanks, layout.colon = ':' :: blanks ∧ ∀ c ∈ blanks, Json.isBlank c = true

theorem Layout.isBlank_compact : Layout.compact.IsBlank where
  lineBreak _ _ h := nomatch h
  colon := ⟨[], rfl, fun _ h => nomatch h⟩

theorem Layout.isBlank_pretty : Layout.pretty.IsBlank := by
  refine ⟨fun depth c hc => ?_, [' '], rfl, fun c hc => ?_⟩
  · rcases List.mem_cons.mp hc with rfl | hc
    · rfl
    · rw [List.eq_of_mem_replicate hc]
      rfl
  · rw [List.mem_singleton.mp hc]
    rfl

theorem skipBlanks_append {blanks : List Char} (h : ∀ c ∈ blanks, isBlank c = true)
    (cs : List Char) : skipBlanks (blanks ++ cs) = skipBlanks cs :=
  List.dropWhile_append_of_pos h

theorem skipBlanks_cons (h : isBlank c = false) (cs : List Char) :
    skipBlanks (c :: cs) = c :: cs := List.dropWhile_cons_of_neg (by simp [h])

/-- Blanks in front of a value do not matter. -/
theorem readValue?_blanks {blanks : List Char} (h : ∀ c ∈ blanks, isBlank c = true) (limit : Nat)
    (cs : List Char) : readValue? limit (blanks ++ cs) = readValue? limit cs := by
  cases limit with
  | zero => rfl
  | succ limit => rw [readValue?, readValue?, skipBlanks_append h]

theorem readItems?_blanks {blanks : List Char} (h : ∀ c ∈ blanks, isBlank c = true)
    (limit bound : Nat) (cs : List Char) :
    readItems? (readValue? limit) bound (blanks ++ cs) =
      readItems? (readValue? limit) bound cs := by
  cases bound with
  | zero => rfl
  | succ bound => rw [readItems?, readItems?, readValue?_blanks h]

theorem readMembers?_blanks {blanks : List Char} (h : ∀ c ∈ blanks, isBlank c = true)
    (item : List Char → Read Json) (bound : Nat) (cs : List Char) :
    readMembers? item bound (blanks ++ cs) = readMembers? item bound cs := by
  cases bound with
  | zero => rfl
  | succ bound => rw [readMembers?, readMembers?, readMember?, readMember?, skipBlanks_append h]

/-- The characters of items, without the line break in front of the first one. -/
def itemsChars (layout : Layout) (depth : Nat) : List Json → List Char
  | [] => []
  | v :: rest => chars layout depth v ++ restChars layout depth rest

/-- The characters of members, without the line break in front of the first one. -/
def membersChars (layout : Layout) (depth : Nat) : List (String × Json) → List Char
  | [] => []
  | (k, v) :: rest =>
    quotedChars k ++ layout.colon ++ chars layout depth v ++ memberChars layout depth rest

theorem endsNumber_cons (hdigit : c.isDigit = false) (hpoint : c ≠ '.') (hsmall : c ≠ 'e')
    (hlarge : c ≠ 'E') (cs : List Char) : EndsNumber (c :: cs) := by
  intro d hd
  cases hd
  exact ⟨hdigit, hpoint, hsmall, hlarge⟩

/-- A number ends where a blank stands. -/
theorem endsNumber_blanks {blanks : List Char} (h : ∀ c ∈ blanks, isBlank c = true)
    (hrest : EndsNumber rest) : EndsNumber (blanks ++ rest) := by
  cases blanks with
  | nil => exact hrest
  | cons c cs =>
    have hblank := h c List.mem_cons_self
    simp only [isBlank, Bool.or_eq_true, beq_iff_eq] at hblank
    rcases hblank with ((rfl | rfl) | rfl) | rfl <;>
      exact endsNumber_cons (by decide) (by decide) (by decide) (by decide) _

/-! #### The first character -/

/-- The first character of a number. -/
def StartsNumber (c : Char) : Prop := c = '-' ∨ c.isDigit = true

theorem startsNumber_integer (n : Int) :
    ∃ c cs, (toString n).toList = c :: cs ∧ StartsNumber c := by
  cases n with
  | negSucc m => exact ⟨'-', _, toList_negSucc m, .inl rfl⟩
  | ofNat m =>
    cases hcs : Nat.toDigits 10 m with
    | nil => exact absurd hcs Nat.toDigits_ne_nil
    | cons c cs =>
      have hdigit : c.isDigit = true := Nat.isDigit_of_mem_toDigits (by decide) (by decide)
        (hcs ▸ List.mem_cons_self : c ∈ Nat.toDigits 10 m)
      exact ⟨c, cs, (toList_ofNat m).trans hcs, .inr hdigit⟩

theorem StartsNumber.isBlank_eq (h : StartsNumber c) : isBlank c = false := by
  have hne : ∀ d : Char, ¬ StartsNumber d → c ≠ d := by
    rintro d hd rfl
    exact hd h
  have hspace : c ≠ ' ' := hne _ (by simp [StartsNumber])
  have hline : c ≠ '\n' := hne _ (by simp [StartsNumber])
  have hreturn : c ≠ '\r' := hne _ (by simp [StartsNumber])
  have htab : c ≠ '\t' := hne _ (by simp [StartsNumber])
  simp [isBlank, hspace, hline, hreturn, htab]

/-- What starts like a number is read as one. -/
theorem readValue?_of_startsNumber (h : StartsNumber c) (limit : Nat) (cs : List Char) :
    readValue? (limit + 1) (c :: cs) = readNumber? (c :: cs) := by
  have hne : ∀ d : Char, ¬ StartsNumber d → ∀ rest, c :: cs = d :: rest → False := by
    rintro d hd rest hcons
    rw [← (List.cons.inj hcons).1] at hd
    exact hd h
  rw [readValue?, skipBlanks_cons h.isBlank_eq]
  split
  · next heq => cases heq
  · next heq => exact (hne _ (by simp [StartsNumber]) _ heq).elim
  · next heq => exact (hne _ (by simp [StartsNumber]) _ heq).elim
  · next heq => exact (hne _ (by simp [StartsNumber]) _ heq).elim
  · next heq => exact (hne _ (by simp [StartsNumber]) _ heq).elim
  · next heq => exact (hne _ (by simp [StartsNumber]) _ heq).elim
  · next heq => exact (hne _ (by simp [StartsNumber]) _ heq).elim
  · next heq =>
    cases heq
    rfl

/-- No value begins with a blank or with a closing bracket. -/
theorem chars_eq_cons (layout : Layout) (depth : Nat) {v : Json} (hv : v.IsPlain) :
    ∃ c cs, chars layout depth v = c :: cs ∧ isBlank c = false ∧ c ≠ ']' := by
  cases v with
  | decimal written => exact hv.elim
  | unreadable => exact hv.elim
  | null => exact ⟨'n', _, rfl, by decide, by decide⟩
  | bool b => cases b <;> exact ⟨_, _, rfl, by decide, by decide⟩
  | string s => exact ⟨'"', _, rfl, by decide, by decide⟩
  | array items => cases items <;> exact ⟨'[', _, rfl, by decide, by decide⟩
  | object members => cases members <;> exact ⟨'\x7b', _, rfl, by decide, by decide⟩
  | integer n =>
    obtain ⟨c, cs, hcs, hc⟩ := startsNumber_integer n
    refine ⟨c, cs, hcs, hc.isBlank_eq, ?_⟩
    rintro rfl
    simp [StartsNumber] at hc

/-! #### Arrays and objects -/

/-- What stands behind an item is no further part of a number. -/
theorem endsNumber_restChars (layout : Layout) (depth : Nat) (items : List Json)
    (hrest : EndsNumber rest) : EndsNumber (restChars layout depth items ++ rest) := by
  cases items with
  | nil => exact hrest
  | cons v items =>
    exact endsNumber_cons (by decide) (by decide) (by decide) (by decide) _

theorem endsNumber_memberChars (layout : Layout) (depth : Nat) (members : List (String × Json))
    (hrest : EndsNumber rest) : EndsNumber (memberChars layout depth members ++ rest) := by
  cases members with
  | nil => exact hrest
  | cons m members =>
    exact endsNumber_cons (by decide) (by decide) (by decide) (by decide) _

theorem length_le_restChars (layout : Layout) (depth : Nat) (items : List Json) :
    items.length ≤ (restChars layout depth items).length := by
  induction items with
  | nil => exact Nat.le_refl _
  | cons v items ih =>
    simp only [restChars, List.length_cons, List.cons_append, List.length_append]
    omega

theorem length_le_memberChars (layout : Layout) (depth : Nat) (members : List (String × Json)) :
    members.length ≤ (memberChars layout depth members).length := by
  induction members with
  | nil => exact Nat.le_refl _
  | cons m members ih =>
    simp only [memberChars, List.length_cons, List.cons_append, List.length_append]
    omega

/-- Every item has a character of its own. -/
theorem length_le_itemsChars (layout : Layout) (depth : Nat) {v : Json} (hv : v.IsPlain)
    (items : List Json) :
    (v :: items).length ≤ (itemsChars layout depth (v :: items)).length := by
  obtain ⟨c, cs, hcs, -, -⟩ := chars_eq_cons layout depth hv
  have hrest := length_le_restChars layout depth items
  simp only [itemsChars, hcs, List.length_cons, List.cons_append, List.length_append]
  omega

theorem length_le_membersChars (layout : Layout) (depth : Nat) (m : String × Json)
    (members : List (String × Json)) :
    (m :: members).length ≤ (membersChars layout depth (m :: members)).length := by
  have hrest := length_le_memberChars layout depth members
  simp only [membersChars, quotedChars, List.length_cons, List.cons_append, List.length_append]
  omega

/-- An array that is not empty is read item by item. -/
theorem readArray?_itemsChars (item : List Char → Read Json) {blanks : List Char}
    (hblanks : ∀ c ∈ blanks, isBlank c = true) (layout : Layout) (depth : Nat) {v : Json}
    (hv : v.IsPlain) (items : List Json) (rest : List Char) :
    readArray? item (blanks ++ (itemsChars layout depth (v :: items) ++ rest)) =
      (readItems? item (blanks ++ (itemsChars layout depth (v :: items) ++ rest)).length
        (blanks ++ (itemsChars layout depth (v :: items) ++ rest))).map
        fun r => (.array r.1, r.2) := by
  obtain ⟨c, cs, hcs, hblank, hbracket⟩ := chars_eq_cons layout depth hv
  rw [readArray?, skipBlanks_append hblanks, itemsChars, hcs, List.cons_append, List.cons_append,
    skipBlanks_cons hblank]
  split
  · next heq => exact absurd (List.cons.inj heq).1 hbracket
  · rfl

theorem readObject?_membersChars (item : List Char → Read Json) {blanks : List Char}
    (hblanks : ∀ c ∈ blanks, isBlank c = true) (layout : Layout) (depth : Nat)
    (m : String × Json) (members : List (String × Json)) (rest : List Char) :
    readObject? item (blanks ++ (membersChars layout depth (m :: members) ++ rest)) =
      (readMembers? item (blanks ++ (membersChars layout depth (m :: members) ++ rest)).length
        (blanks ++ (membersChars layout depth (m :: members) ++ rest))).map
        fun r => (ofMembers r.1, r.2) := by
  rw [readObject?, skipBlanks_append hblanks]
  rfl

theorem ofMembers_some (members : List (String × Json)) :
    ofMembers (members.map fun m => (some m.1, m.2)) = .object members := by
  have hkeys : (members.map fun m => (some m.1, m.2)).mapM
      (fun m : Option String × Json => m.1.map fun k => (k, m.2)) = some members := by
    induction members with
    | nil => rfl
    | cons m members ih =>
      rw [List.map_cons, List.mapM_cons, ih]
      rfl
  rw [ofMembers, hkeys]

mutual

/-- A value that is written is read back from the front of whatever does not go on with a number. -/
theorem readValue?_chars {layout : Layout} (hl : layout.IsBlank) :
    ∀ (v : Json), v.IsPlain → ∀ (depth limit : Nat) (rest : List Char),
      (chars layout depth v).length < limit → EndsNumber rest →
      readValue? limit (chars layout depth v ++ rest) = some (asRead v, rest)
  | v, hv, depth, 0, rest, hlimit, hrest => absurd hlimit (Nat.not_lt_zero _)
  | .null, _, _, limit + 1, rest, _, _ => rfl
  | .bool true, _, _, limit + 1, rest, _, _ => rfl
  | .bool false, _, _, limit + 1, rest, _, _ => rfl
  | .decimal _, hv, _, _, _, _, _ => hv.elim
  | .unreadable, hv, _, _, _, _, _ => hv.elim
  | .string s, _, depth, limit + 1, rest, _, _ => by
    have hread := readString?_quoted s rest
    rw [chars, quotedChars, List.cons_append, List.append_assoc]
    show (readString? (s.toList.flatMap escaped ++ '"' :: rest)).map _ = _
    rw [hread]
    rfl
  | .integer n, _, depth, limit + 1, rest, _, hrest => by
    obtain ⟨c, cs, hcs, hc⟩ := startsNumber_integer n
    have hread := readNumber?_integer n hrest
    rw [chars]
    rw [hcs] at hread ⊢
    rw [List.cons_append, readValue?_of_startsNumber hc]
    exact hread
  | .array [], _, _, limit + 1, rest, _, _ => rfl
  | .array (v :: items), hv, depth, limit + 1, rest, hlimit, hrest => by
    have hchars : chars layout depth (.array (v :: items)) ++ rest =
        '[' :: (layout.lineBreak (depth + 1) ++ (itemsChars layout (depth + 1) (v :: items) ++
          (layout.lineBreak depth ++ ']' :: rest))) := by
      simp [chars, itemsChars]
    have hlt : (itemsChars layout (depth + 1) (v :: items)).length < limit := by
      simp only [chars, List.length_cons, List.cons_append, List.length_append] at hlimit
      simp only [itemsChars, List.length_append]
      omega
    -- There are no more items than characters, so the bound of the loop is large enough.
    have hlength := length_le_itemsChars layout (depth + 1) hv.1 items
    have hitems := readItems?_chars hl (v :: items) (List.cons_ne_nil _ _) hv (depth + 1) limit
      (layout.lineBreak (depth + 1) ++ (itemsChars layout (depth + 1) (v :: items) ++
        (layout.lineBreak depth ++ ']' :: rest))).length rest hlt
      (by rw [List.length_append, List.length_append]; omega) (hl.lineBreak depth)
    rw [hchars]
    show readArray? (readValue? limit) _ = _
    rw [readArray?_itemsChars _ (hl.lineBreak _) layout _ hv.1, readItems?_blanks (hl.lineBreak _),
      hitems]
    rfl
  | .object [], _, _, limit + 1, rest, _, _ => rfl
  | .object ((k, v) :: members), hv, depth, limit + 1, rest, hlimit, hrest => by
    have hchars : chars layout depth (.object ((k, v) :: members)) ++ rest =
        '\x7b' :: (layout.lineBreak (depth + 1) ++
          (membersChars layout (depth + 1) ((k, v) :: members) ++
            (layout.lineBreak depth ++ '\x7d' :: rest))) := by
      simp [chars, membersChars]
    have hlt : (membersChars layout (depth + 1) ((k, v) :: members)).length < limit := by
      simp only [chars, List.length_cons, List.cons_append, List.length_append] at hlimit
      simp only [membersChars, List.length_append]
      omega
    have hlength := length_le_membersChars layout (depth + 1) (k, v) members
    have hmembers := readMembers?_chars hl ((k, v) :: members) (List.cons_ne_nil _ _) hv (depth + 1)
      limit (layout.lineBreak (depth + 1) ++ (membersChars layout (depth + 1) ((k, v) :: members) ++
        (layout.lineBreak depth ++ '\x7d' :: rest))).length rest hlt
      (by rw [List.length_append, List.length_append]; omega) (hl.lineBreak depth)
    rw [hchars]
    show readObject? (readValue? limit) _ = _
    rw [readObject?_membersChars _ (hl.lineBreak _), readMembers?_blanks (hl.lineBreak _), hmembers,
      Option.map_some, ofMembers_some]
    rfl

/-- Items are read back up to the closing bracket. -/
theorem readItems?_chars {layout : Layout} (hl : layout.IsBlank) :
    ∀ (items : List Json), items ≠ [] → ArePlain items →
      ∀ (depth limit bound : Nat) {blanks : List Char} (rest : List Char),
      (itemsChars layout depth items).length < limit → items.length ≤ bound →
      (∀ c ∈ blanks, isBlank c = true) →
      readItems? (readValue? limit) bound
        (itemsChars layout depth items ++ (blanks ++ ']' :: rest)) = some (allAsRead items, rest)
  | [], hne, _, _, _, _, _, _, _, _, _ => absurd rfl hne
  | v :: items, _, hv, depth, limit, 0, _, _, _, hbound, _ => absurd hbound (Nat.not_succ_le_zero _)
  | v :: items, _, hv, depth, limit, bound + 1, blanks, rest, hlimit, hbound, hblanks => by
    rw [itemsChars, List.length_append] at hlimit
    -- A number is over at whatever follows it: a comma, or the closing bracket behind blanks.
    have hclosing : EndsNumber (blanks ++ ']' :: rest) := endsNumber_blanks hblanks
      (endsNumber_cons (by decide) (by decide) (by decide) (by decide) _)
    have hfirst := readValue?_chars hl v hv.1 depth limit
      (restChars layout depth items ++ (blanks ++ ']' :: rest)) (by omega)
      (endsNumber_restChars layout depth items hclosing)
    rw [itemsChars, List.append_assoc, readItems?, hfirst, Option.bind_some]
    cases items with
    | nil =>
      rw [restChars, List.nil_append, skipBlanks_append hblanks, skipBlanks_cons (by decide)]
      rfl
    | cons w items =>
      have hrest : restChars layout depth (w :: items) ++ (blanks ++ ']' :: rest) =
          ',' :: (layout.lineBreak depth ++ (itemsChars layout depth (w :: items) ++
            (blanks ++ ']' :: rest))) := by
        simp [restChars, itemsChars]
      have hlt : (itemsChars layout depth (w :: items)).length < limit := by
        simp only [restChars, List.length_cons, List.cons_append, List.length_append] at hlimit
        simp only [itemsChars, List.length_append]
        omega
      have hmore := readItems?_chars hl (w :: items) (List.cons_ne_nil _ _) hv.2 depth limit bound
        rest hlt (Nat.le_of_succ_le_succ hbound) hblanks
      rw [hrest, skipBlanks_cons (by decide)]
      show (readItems? _ _ _).map _ = _
      rw [readItems?_blanks (hl.lineBreak depth), hmore]
      rfl

/-- Members are read back up to the closing brace. -/
theorem readMembers?_chars {layout : Layout} (hl : layout.IsBlank) :
    ∀ (members : List (String × Json)), members ≠ [] → MembersPlain members →
      ∀ (depth limit bound : Nat) {blanks : List Char} (rest : List Char),
      (membersChars layout depth members).length < limit → members.length ≤ bound →
      (∀ c ∈ blanks, isBlank c = true) →
      readMembers? (readValue? limit) bound
        (membersChars layout depth members ++ (blanks ++ '\x7d' :: rest)) =
          some ((membersAsRead members).map fun m => (some m.1, m.2), rest)
  | [], hne, _, _, _, _, _, _, _, _, _ => absurd rfl hne
  | m :: members, _, hv, depth, limit, 0, _, _, _, hbound, _ =>
    absurd hbound (Nat.not_succ_le_zero _)
  | (k, v) :: members, _, hv, depth, limit, bound + 1, blanks, rest, hlimit, hbound, hblanks => by
    obtain ⟨space, hcolon, hspace⟩ := hl.colon
    rw [membersChars, List.length_append, List.length_append] at hlimit
    have hclosing : EndsNumber (blanks ++ '\x7d' :: rest) := endsNumber_blanks hblanks
      (endsNumber_cons (by decide) (by decide) (by decide) (by decide) _)
    have hvalue := readValue?_chars hl v hv.1 depth limit
      (memberChars layout depth members ++ (blanks ++ '\x7d' :: rest)) (by omega)
      (endsNumber_memberChars layout depth members hclosing)
    -- A member is its quoted key, the colon and its value, of which the reader gives back the rest.
    have hmember : readMember? (readValue? limit)
        (quotedChars k ++ (layout.colon ++ (chars layout depth v ++
          (memberChars layout depth members ++ (blanks ++ '\x7d' :: rest))))) =
        some ((some k, asRead v),
          memberChars layout depth members ++ (blanks ++ '\x7d' :: rest)) := by
      have hkey := readString?_quoted k (layout.colon ++ (chars layout depth v ++
        (memberChars layout depth members ++ (blanks ++ '\x7d' :: rest))))
      rw [quotedChars, List.cons_append, List.append_assoc]
      show (readString? (k.toList.flatMap escaped ++ '"' :: (layout.colon ++
        (chars layout depth v ++
          (memberChars layout depth members ++ (blanks ++ '\x7d' :: rest)))))).bind _ = _
      rw [hkey, Option.bind_some, hcolon, List.cons_append]
      show (readValue? limit (space ++ _)).map _ = _
      rw [readValue?_blanks hspace, hvalue]
      rfl
    rw [membersChars, List.append_assoc, List.append_assoc, List.append_assoc, readMembers?,
      hmember, Option.bind_some]
    cases members with
    | nil =>
      rw [memberChars, List.nil_append, skipBlanks_append hblanks, skipBlanks_cons (by decide)]
      rfl
    | cons m members =>
      have hrest : memberChars layout depth (m :: members) ++ (blanks ++ '\x7d' :: rest) =
          ',' :: (layout.lineBreak depth ++ (membersChars layout depth (m :: members) ++
            (blanks ++ '\x7d' :: rest))) := by
        simp [memberChars, membersChars]
      have hlt : (membersChars layout depth (m :: members)).length < limit := by
        simp only [memberChars, List.length_cons, List.cons_append, List.length_append] at hlimit
        simp only [membersChars, List.length_append]
        omega
      have hmore := readMembers?_chars hl (m :: members) (List.cons_ne_nil _ _) hv.2 depth limit
        bound rest hlt (Nat.le_of_succ_le_succ hbound) hblanks
      rw [hrest, skipBlanks_cons (by decide)]
      show (readMembers? _ _ _).map _ = _
      rw [readMembers?_blanks (hl.lineBreak depth), hmore]
      rfl

end

/-! ### Whole texts -/

/-- A whole text that is written is read back. -/
theorem read?_chars {layout : Layout} (hl : layout.IsBlank) {v : Json} (hv : v.IsPlain) :
    read? (String.ofList (chars layout 0 v)) = some (asRead v) := by
  have hends : EndsNumber [] := fun c hc => nomatch hc
  have hread := readValue?_chars hl v hv 0 ((chars layout 0 v).length + 1) [] (Nat.lt_succ_self _)
    hends
  rw [List.append_nil] at hread
  rw [read?, String.toList_ofList, hread]
  rfl

theorem minus_notMem_toDigits (n : Nat) : '-' ∉ Nat.toDigits 10 n := by
  intro h
  have hdigit : '-'.isDigit = true := Nat.isDigit_of_mem_toDigits (by decide) (by decide) h
  cases hdigit

theorem toString_injective {m n : Int} (h : toString m = toString n) : m = n := by
  have hchars := congrArg String.toList h
  cases m with
  | ofNat m =>
    cases n with
    | ofNat n =>
      rw [toList_ofNat, toList_ofNat] at hchars
      have hdigits := congrArg natOfDigits hchars
      rw [natOfDigits_toDigits, natOfDigits_toDigits] at hdigits
      exact congrArg Int.ofNat hdigits
    | negSucc n =>
      rw [toList_ofNat, toList_negSucc] at hchars
      exact absurd (hchars ▸ List.mem_cons_self) (minus_notMem_toDigits m)
  | negSucc m =>
    cases n with
    | ofNat n =>
      rw [toList_ofNat, toList_negSucc] at hchars
      exact absurd (hchars ▸ List.mem_cons_self) (minus_notMem_toDigits n)
    | negSucc n =>
      rw [toList_negSucc, toList_negSucc] at hchars
      have hdigits := congrArg natOfDigits (List.cons.inj hchars).2
      rw [natOfDigits_toDigits, natOfDigits_toDigits] at hdigits
      exact congrArg Int.negSucc (Nat.succ.inj hdigits)

/-- Large numbers are told apart by their digits. -/
theorem integerAsRead_injective {m n : Int} (h : integerAsRead m = integerAsRead n) : m = n := by
  unfold integerAsRead at h
  split at h
  · split at h
    · exact Json.integer.inj h
    · cases h
  · split at h
    · cases h
    · exact toString_injective (Json.decimal.inj h)

theorem integerAsRead_cases (n : Int) :
    integerAsRead n = .integer n ∨ integerAsRead n = .decimal (toString n) := by
  unfold integerAsRead
  split
  · exact .inl rfl
  · exact .inr rfl

/-- Nothing else is read back as a whole number is. -/
theorem eq_integer_of_asRead {n : Int} {v : Json} (hv : v.IsPlain)
    (h : integerAsRead n = asRead v) : .integer n = v := by
  cases v with
  | integer m => exact congrArg Json.integer (integerAsRead_injective h)
  | decimal written => exact hv.elim
  | unreadable => exact hv.elim
  | _ =>
    rcases integerAsRead_cases n with hn | hn <;>
    · rw [hn, asRead] at h
      cases h

mutual

/-- Plain values are not confused when they are read back. -/
theorem asRead_injective : ∀ {v w : Json}, v.IsPlain → w.IsPlain → asRead v = asRead w → v = w
  | .decimal _, _, hv, _, _ => hv.elim
  | .unreadable, _, hv, _, _ => hv.elim
  | _, .decimal _, _, hw, _ => hw.elim
  | _, .unreadable, _, hw, _ => hw.elim
  | .integer m, w, _, hw, h => eq_integer_of_asRead hw h
  | v, .integer n, hv, _, h => (eq_integer_of_asRead hv h.symm).symm
  | .null, .null, _, _, _ => rfl
  | .bool _, .bool _, _, _, h => by cases h; rfl
  | .string _, .string _, _, _, h => by cases h; rfl
  | .array vs, .array ws, hv, hw, h =>
    congrArg Json.array (allAsRead_injective hv hw (Json.array.inj h))
  | .object vs, .object ws, hv, hw, h =>
    congrArg Json.object (membersAsRead_injective hv hw (Json.object.inj h))

theorem allAsRead_injective : ∀ {vs ws : List Json}, ArePlain vs → ArePlain ws →
    allAsRead vs = allAsRead ws → vs = ws
  | [], [], _, _, _ => rfl
  | [], _ :: _, _, _, h => nomatch h
  | _ :: _, [], _, _, h => nomatch h
  | v :: vs, w :: ws, hv, hw, h => by
    obtain ⟨hfirst, hrest⟩ := List.cons.inj h
    rw [asRead_injective hv.1 hw.1 hfirst, allAsRead_injective hv.2 hw.2 hrest]

theorem membersAsRead_injective : ∀ {vs ws : List (String × Json)}, MembersPlain vs →
    MembersPlain ws → membersAsRead vs = membersAsRead ws → vs = ws
  | [], [], _, _, _ => rfl
  | [], _ :: _, _, _, h => nomatch h
  | _ :: _, [], _, _, h => nomatch h
  | (k, v) :: vs, (l, w) :: ws, hv, hw, h => by
    obtain ⟨hfirst, hrest⟩ := List.cons.inj h
    obtain ⟨rfl, hvalue⟩ := Prod.mk.inj hfirst
    rw [asRead_injective hv.1 hw.1 hvalue, membersAsRead_injective hv.2 hw.2 hrest]

end

/-- Different plain values are written differently. -/
theorem chars_injective {layout : Layout} (hl : layout.IsBlank) {v w : Json} (hv : v.IsPlain)
    (hw : w.IsPlain) (h : chars layout 0 v = chars layout 0 w) : v = w := by
  have hread := read?_chars hl hv
  rw [h, read?_chars hl hw] at hread
  exact asRead_injective hv hw (Option.some.inj hread).symm

end Manifest.Json
