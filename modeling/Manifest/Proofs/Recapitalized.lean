import Manifest.Proofs.Capitalized
import Manifest.Proofs.Text.Ascii

/-!
# Capitalising names twice

Among ASCII characters capitalising a name is a walk over its characters: the first one and each one
behind a separator becomes a capital, and all others come into lower case.  What the walk has made
stays as it is if the walk is made again, and so does the part of it before the first bracket.

## Main definitions

* `Name.capitalizeFrom` — the walk.

## Main results

* `Name.capitalize_eq_capitalizeFrom` — capitalising ASCII names is this walk.
* `Name.capitalize_beforeBracket` — a capitalised name stays as it is, as far as the first bracket.
-/

namespace Manifest.Name

variable {c : Char} {cs : List Char} {name : String} {first : Bool}

/-! ### Character by character -/

/-- A capital at the beginning of a segment, and a small letter inside of one. -/
def capitalizeChar (first : Bool) (c : Char) : Char := if first then c.toUpper else c.toLower

/-- The walk from the beginning of a segment on, or from a place inside of one. -/
def capitalizeFrom : Bool → List Char → List Char
  | _, [] => []
  | _, ':' :: ':' :: rest => ':' :: ':' :: capitalizeFrom true rest
  | first, c :: rest => capitalizeChar first c :: capitalizeFrom false rest

/-- One segment, or what is left of one. -/
def capitalizeWord : Bool → List Char → List Char
  | _, [] => []
  | first, c :: rest => capitalizeChar first c :: rest.map Char.toLower

@[simp] theorem capitalizeFrom_nil (first : Bool) : capitalizeFrom first [] = [] := by
  cases first <;> rfl

@[simp] theorem capitalizeFrom_colons (first : Bool) (cs : List Char) :
    capitalizeFrom first (':' :: ':' :: cs) = ':' :: ':' :: capitalizeFrom true cs := by
  cases first <;> rfl

theorem capitalizeFrom_cons (h : ∀ more, c = ':' → cs = ':' :: more → False) :
    capitalizeFrom first (c :: cs) = capitalizeChar first c :: capitalizeFrom false cs := by
  rw [capitalizeFrom]
  exact h

theorem capitalizeChar_lt (h : c.toNat < 128) : (capitalizeChar first c).toNat < 128 := by
  cases first
  · exact Text.toLower_lt h
  · exact Text.toUpper_lt h

theorem capitalizeChar_eq_colon_iff (h : c.toNat < 128) :
    capitalizeChar first c = ':' ↔ c = ':' := by
  cases first
  · exact Text.toLower_eq_colon_iff h
  · exact Text.toUpper_eq_colon_iff h

theorem capitalizeChar_eq_bracket_iff (h : c.toNat < 128) :
    capitalizeChar first c = '[' ↔ c = '[' := by
  cases first
  · exact Text.toLower_eq_bracket_iff h
  · exact Text.toUpper_eq_bracket_iff h

theorem capitalizeChar_capitalizeChar (h : c.toNat < 128) :
    capitalizeChar first (capitalizeChar first c) = capitalizeChar first c := by
  cases first
  · exact Text.toLower_toLower h
  · exact Text.toUpper_toUpper h

/-! ### One walk in place of the segments -/

theorem capitalizeWord_false (cs : List Char) : capitalizeWord false cs = cs.map Char.toLower := by
  cases cs <;> rfl

theorem capitalizeWord_true (h : ∀ c ∈ cs, c.toNat < 128) :
    capitalizeWord true cs = Text.capitalizeChars cs := by
  cases cs with
  | nil => rfl
  | cons c cs =>
    obtain ⟨hc, hcs⟩ := List.forall_mem_cons.mp h
    rw [Text.capitalizeChars_of_ascii hc hcs]
    rfl

theorem joinSegments_cons (s : List Char) {more : List (List Char)} (h : more ≠ []) :
    joinSegments (s :: more) = s ++ ':' :: ':' :: joinSegments more := by
  cases more with
  | nil => exact absurd rfl h
  | cons t more => rfl

theorem joinSegments_cons_cons (c : Char) (s : List Char) (more : List (List Char)) :
    joinSegments ((c :: s) :: more) = c :: joinSegments (s :: more) := by
  cases more <;> rfl

theorem joinSegments_capitalizeWord : ∀ {cs : List Char} {first : Bool} {s : List Char}
    {more : List (List Char)}, (∀ c ∈ cs, c.toNat < 128) → segments cs = s :: more →
      joinSegments (capitalizeWord first s :: more.map Text.capitalizeChars) =
        capitalizeFrom first cs := by
  intro cs
  fun_induction segments cs with
  | case1 =>
    rintro first s more - hcs
    cases hcs
    rw [capitalizeFrom_nil]
    cases first <;> rfl
  | case2 rest ih =>
    rintro first s more h hcs
    cases hcs
    have hrest : ∀ c ∈ rest, c.toNat < 128 := fun c hc => h c (by simp [hc])
    obtain ⟨t, ts, hts⟩ := List.exists_cons_of_ne_nil (segments_ne_nil rest)
    have ht : ∀ c ∈ t, c.toNat < 128 := fun c hc =>
      hrest c (mem_of_mem_segments (hts ▸ List.mem_cons_self) hc)
    have hword := @ih true t ts hrest hts
    rw [capitalizeWord_true ht, ← List.map_cons, ← hts] at hword
    rw [joinSegments_cons _ (mt List.map_eq_nil_iff.mp (segments_ne_nil rest)), hword,
      capitalizeFrom_colons]
    cases first <;> rfl
  | case3 c rest _ hnil _ => exact absurd hnil (segments_ne_nil rest)
  | case4 c rest hcolons s' more' hrest ih =>
    rintro first s more h hcs
    cases hcs
    have hword := @ih false _ _ (fun d hd => h d (List.mem_cons_of_mem c hd)) hrest
    rw [capitalizeWord_false] at hword
    rw [capitalizeFrom_cons fun more hc hmore => hcolons more hc hmore, ← hword, capitalizeWord,
      joinSegments_cons_cons]

/-- Capitalising ASCII names is a walk over their characters. -/
theorem capitalize_eq_capitalizeFrom (h : Text.IsAscii name) :
    capitalize name = String.ofList (capitalizeFrom true (dropAnchors name.toList)) := by
  have hascii : ∀ c ∈ dropAnchors name.toList, c.toNat < 128 :=
    fun c hc => h c (mem_of_mem_dropAnchors hc)
  obtain ⟨s, more, hsegments⟩ :=
    List.exists_cons_of_ne_nil (segments_ne_nil (dropAnchors name.toList))
  have hs : ∀ c ∈ s, c.toNat < 128 := fun c hc =>
    hascii c (mem_of_mem_segments (hsegments ▸ List.mem_cons_self) hc)
  rw [capitalize, ← joinSegments_capitalizeWord hascii hsegments, hsegments, List.map_cons,
    capitalizeWord_true hs]

/-! ### What the walk leaves as it is -/

theorem toNat_lt_of_mem_capitalizeFrom (h : ∀ c ∈ cs, c.toNat < 128) :
    ∀ c ∈ capitalizeFrom first cs, c.toNat < 128 := by
  fun_induction capitalizeFrom first cs with
  | case1 => nofun
  | case2 first rest ih =>
    have hrest := ih fun c hc => h c (by simp [hc])
    rw [List.forall_mem_cons, List.forall_mem_cons]
    exact ⟨by decide, by decide, hrest⟩
  | case3 first c rest _ ih =>
    obtain ⟨hc, hrest⟩ := List.forall_mem_cons.mp h
    exact List.forall_mem_cons.mpr ⟨capitalizeChar_lt hc, ih hrest⟩

/-- No colon comes to the beginning, and none goes away from there. -/
theorem exists_capitalizeFrom_eq_colon (h : ∀ c ∈ cs, c.toNat < 128) {more : List Char}
    (hmore : capitalizeFrom first cs = ':' :: more) : ∃ rest, cs = ':' :: rest := by
  revert hmore
  fun_cases capitalizeFrom first cs with
  | case1 => nofun
  | case2 first rest => exact fun _ => ⟨_, rfl⟩
  | case3 first c rest _ =>
    intro hmore
    obtain ⟨hc, -⟩ := List.forall_mem_cons.mp h
    obtain rfl := (capitalizeChar_eq_colon_iff hc).mp (List.head_eq_of_cons_eq hmore)
    exact ⟨rest, rfl⟩

/-- Where no separator was there is none after the walk. -/
theorem not_colons_capitalizeFrom (h : ∀ d ∈ c :: cs, d.toNat < 128)
    (hcolons : ∀ more, c = ':' → cs = ':' :: more → False) (more : List Char)
    (hc : capitalizeChar first c = ':') (hcs : capitalizeFrom false cs = ':' :: more) : False := by
  obtain ⟨hascii, hrest⟩ := List.forall_mem_cons.mp h
  obtain ⟨rest, rfl⟩ := exists_capitalizeFrom_eq_colon hrest hcs
  exact hcolons rest ((capitalizeChar_eq_colon_iff hascii).mp hc) rfl

theorem capitalizeFrom_ne_colons (h : ∀ c ∈ cs, c.toNat < 128)
    (hcs : ∀ more, cs ≠ ':' :: ':' :: more) (rest : List Char) :
    capitalizeFrom first cs ≠ ':' :: ':' :: rest := by
  intro hcolons
  cases cs with
  | nil =>
    rw [capitalizeFrom_nil] at hcolons
    cases hcolons
  | cons c cs =>
    have hne : ∀ more, c = ':' → cs = ':' :: more → False := fun more hc hmore =>
      hcs more (by rw [hc, hmore])
    rw [capitalizeFrom_cons hne] at hcolons
    obtain ⟨hc, htail⟩ := List.cons.inj hcolons
    exact not_colons_capitalizeFrom h hne rest hc htail

theorem capitalizeFrom_capitalizeFrom (h : ∀ c ∈ cs, c.toNat < 128) :
    capitalizeFrom first (capitalizeFrom first cs) = capitalizeFrom first cs := by
  fun_induction capitalizeFrom first cs with
  | case1 first => exact capitalizeFrom_nil first
  | case2 first rest ih =>
    rw [capitalizeFrom_colons, ih fun c hc => h c (by simp [hc])]
  | case3 first c rest hcolons ih =>
    obtain ⟨hc, hrest⟩ := List.forall_mem_cons.mp h
    rw [capitalizeFrom_cons (not_colons_capitalizeFrom h hcolons), ih hrest,
      capitalizeChar_capitalizeChar hc]

theorem takeWhile_capitalizeFrom (h : ∀ c ∈ cs, c.toNat < 128) :
    (capitalizeFrom first cs).takeWhile (· ≠ '[') =
      capitalizeFrom first (cs.takeWhile (· ≠ '[')) := by
  fun_induction capitalizeFrom first cs with
  | case1 first => rw [List.takeWhile_nil, capitalizeFrom_nil]
  | case2 first rest ih =>
    have htake : ∀ cs : List Char, (':' :: ':' :: cs).takeWhile (· ≠ '[') =
        ':' :: ':' :: cs.takeWhile (· ≠ '[') := fun cs => by simp
    rw [htake, htake, capitalizeFrom_colons, ih fun c hc => h c (by simp [hc])]
  | case3 first c rest hcolons ih =>
    obtain ⟨hc, hrest⟩ := List.forall_mem_cons.mp h
    have hbracket : capitalizeChar first c = '[' ↔ c = '[' := capitalizeChar_eq_bracket_iff hc
    rw [List.takeWhile_cons, List.takeWhile_cons, ih hrest]
    by_cases hne : c = '['
    · rw [if_neg (by simp [hbracket.mpr hne]), if_neg (by simp [hne]), capitalizeFrom_nil]
    · rw [if_pos (by simp [mt hbracket.mp hne]), if_pos (by simp [hne])]
      refine (capitalizeFrom_cons fun more hcolon hmore => ?_).symm
      -- What is cut off stands behind the colon.
      obtain ⟨tail, htail⟩ := List.takeWhile_prefix (p := fun c => decide (c ≠ '[')) (l := rest)
      rw [hmore] at htail
      exact hcolons (more ++ tail) hcolon htail.symm

theorem dropAnchors_ne (cs rest : List Char) : dropAnchors cs ≠ ':' :: ':' :: rest := by
  fun_induction dropAnchors cs with
  | case1 rest ih => exact ih
  | case2 cs hcs => exact hcs rest

theorem dropAnchors_eq_self (h : ∀ rest, cs ≠ ':' :: ':' :: rest) : dropAnchors cs = cs := by
  rw [dropAnchors]
  exact h

/-- A capitalised name stays as it is, as far as the first bracket. -/
theorem capitalize_beforeBracket (h : Text.IsAscii name) :
    (capitalize (String.ofList ((capitalize name).toList.takeWhile (· ≠ '[')))).toList =
      (capitalize name).toList.takeWhile (· ≠ '[') := by
  have hascii : ∀ c ∈ (dropAnchors name.toList).takeWhile (· ≠ '['), c.toNat < 128 :=
    fun c hc => h c (mem_of_mem_dropAnchors ((List.takeWhile_prefix _).subset hc))
  have hpart : (capitalize name).toList.takeWhile (· ≠ '[') =
      capitalizeFrom true ((dropAnchors name.toList).takeWhile (· ≠ '[')) := by
    rw [capitalize_eq_capitalizeFrom h, String.toList_ofList,
      takeWhile_capitalizeFrom fun c hc => h c (mem_of_mem_dropAnchors hc)]
  have hanchor : ∀ rest, capitalizeFrom true ((dropAnchors name.toList).takeWhile (· ≠ '[')) ≠
      ':' :: ':' :: rest := by
    refine capitalizeFrom_ne_colons hascii fun more hmore => ?_
    obtain ⟨tail, htail⟩ := List.takeWhile_prefix (p := fun c => decide (c ≠ '['))
      (l := dropAnchors name.toList)
    rw [hmore] at htail
    exact dropAnchors_ne _ _ htail.symm
  rw [hpart, capitalize_eq_capitalizeFrom, String.toList_ofList, String.toList_ofList,
    dropAnchors_eq_self hanchor, capitalizeFrom_capitalizeFrom hascii]
  intro c hc
  rw [String.toList_ofList] at hc
  exact toNat_lt_of_mem_capitalizeFrom hascii c hc

end Manifest.Name
