import Manifest.Name
import Mathlib.Data.List.Infix

/-!
# Where names are split

A name is split at its last two colons.  What comes behind them has no two colons of its own, and
a name that cannot be split has none at all, so the parts of a name are told from the characters
alone.

## Main definitions

* `Name.colons` — two colons, as characters.

## Main results

* `Name.splitReversed_append`, `Name.splitReversed_eq_none` — where reversed characters are split.
* `Name.splitLast?_eq_some`, `Name.splitLast?_eq_none_iff` — where a name is split.
* `Name.namespaces_eq` — a namespace and those around it begin with the one that encloses it.
-/

namespace Manifest.Name

variable {cs xs : List Char}

/-- Two colons. -/
def colons : List Char := [':', ':']

/-- Two colons that do not stand in a list behind another character do not stand at its
beginning. -/
theorem ne_colons_behind {x : Char} {rest more : List Char}
    (h : ¬ colons <:+: x :: xs ++ [':']) (hrest : rest = xs ++ ':' :: more) :
    ∀ tail, x = ':' → rest = ':' :: tail → False := by
  rintro tail rfl rfl
  refine h (List.IsPrefix.isInfix ?_)
  cases xs with
  | nil => exact List.prefix_rfl
  | cons y ys =>
    obtain rfl : ':' = y := List.head_eq_of_cons_eq hrest
    exact ⟨ys ++ [':'], rfl⟩

/-- A list begins with two colons, or its first sign is none of two. -/
theorem colons_cases (x : Char) (xs : List Char) :
    (∃ more, x = ':' ∧ xs = ':' :: more) ∨ ∀ tail, x = ':' → xs = ':' :: tail → False := by
  by_cases h : ∃ more, x = ':' ∧ xs = ':' :: more
  · exact .inl h
  · exact .inr fun tail hx hxs => h ⟨tail, hx, hxs⟩

theorem splitReversed_cons {x : Char} (h : ∀ tail, x = ':' → xs = ':' :: tail → False) :
    splitReversed (x :: xs) = (splitReversed xs).map fun p => (x :: p.1, p.2) := by
  rw [splitReversed]
  exact h

theorem splitReversed_append (h : ¬ colons <:+: xs ++ [':']) (more : List Char) :
    splitReversed (xs ++ ':' :: ':' :: more) = some (xs, more) := by
  induction xs with
  | nil => rfl
  | cons x xs ih =>
    have hxs : ¬ colons <:+: xs ++ [':'] := fun hi => h (List.infix_cons_iff.mpr (.inr hi))
    rw [List.cons_append, splitReversed_cons (ne_colons_behind h rfl), ih hxs]
    rfl

theorem splitReversed_eq_none (h : ¬ colons <:+: xs) : splitReversed xs = none := by
  induction xs with
  | nil => rfl
  | cons x xs ih =>
    rw [List.infix_cons_iff, not_or] at h
    rw [splitReversed_cons, ih h.2]
    · rfl
    · rintro tail rfl rfl
      exact h.1 ⟨tail, rfl⟩

/-- What stands before the last separator is the next namespace outwards. -/
theorem enclosingReversed_eq : ∀ xs : List Char, enclosingReversed xs =
    (splitReversed xs).elim [] fun p =>
      if p.2.isEmpty then [] else p.2 :: enclosingReversed p.2
  | [] => rfl
  | x :: xs => by
    rcases colons_cases x xs with ⟨more, rfl, rfl⟩ | hx
    · rfl
    · rw [splitReversed_cons hx, enclosingReversed, enclosingReversed_eq xs]
      · cases splitReversed xs <;> rfl
      · exact hx

theorem splitReversed_lt : ∀ {xs left right : List Char},
    splitReversed xs = some (left, right) → right.length < xs.length
  | [], _, _, h => by cases h
  | x :: xs, left, right, h => by
    rcases colons_cases x xs with ⟨more, rfl, rfl⟩ | hx
    · cases h
      exact Nat.lt_add_of_pos_right Nat.two_pos
    · rw [splitReversed_cons hx] at h
      obtain ⟨p, hp, heq⟩ := Option.map_eq_some_iff.mp h
      cases heq
      exact Nat.lt_succ_of_lt (splitReversed_lt hp)

/-- A namespace and those around it begin with the one that encloses it. -/
theorem namespaces_eq {space : String} (h : space ≠ "") :
    namespaces space = space :: namespaces (parent space) := by
  rw [namespaces, if_neg h, enclosingReversed_eq, parent, splitLast?]
  cases hsplit : splitReversed space.toList.reverse with
  | none => rfl
  | some p =>
    obtain ⟨left, right⟩ := p
    cases right with
    | nil => rfl
    | cons c rest =>
      have hne : String.ofList (c :: rest).reverse ≠ "" := by
        intro he
        have hnil := congrArg String.toList he
        simp at hnil
      simp only [Option.map_some, namespaces, if_neg hne, String.toList_ofList,
        List.reverse_reverse]
      rfl

theorem ne_nil_of_mem_enclosingReversed {x : List Char} : ∀ {xs : List Char},
    x ∈ enclosingReversed xs → x ≠ [] := by
  intro xs
  fun_induction enclosingReversed xs with
  | case1 => nofun
  | case2 rest hempty => nofun
  | case3 rest hrest ih =>
    intro hx
    rcases List.mem_cons.mp hx with rfl | hx
    · exact fun hnil => hrest (by rw [hnil]; rfl)
    · exact ih hx
  | case4 c rest _ ih => exact ih

/-- The global namespace is none of those around another one. -/
theorem ne_empty_of_mem_namespaces {space outer : String} (h : outer ∈ namespaces space) :
    outer ≠ "" := by
  unfold namespaces at h
  split at h
  · cases h
  · next hspace =>
    rcases List.mem_cons.mp h with rfl | h
    · exact hspace
    · obtain ⟨x, hx, rfl⟩ := List.mem_map.mp h
      intro hempty
      have hnil := congrArg String.toList hempty
      exact ne_nil_of_mem_enclosingReversed hx (by simpa using hnil)

theorem length_parent_lt {space : String} (h : space ≠ "") :
    (parent space).toList.length < space.toList.length := by
  rw [parent, splitLast?]
  cases hsplit : splitReversed space.toList.reverse with
  | none =>
    exact List.length_pos_iff.mpr fun he => h (String.toList_eq_nil_iff.mp he)
  | some p =>
    obtain ⟨left, right⟩ := p
    simpa using splitReversed_lt hsplit

theorem not_colons_infix_reverse (h : ¬ colons <:+: cs) : ¬ colons <:+: cs.reverse :=
  fun hi => h (List.reverse_infix.mp hi)

/-- What is reversed behind the last colons does not run into them. -/
theorem not_colons_infix_reverse_append (h : ¬ colons <:+: (colons ++ cs).tail) :
    ¬ colons <:+: cs.reverse ++ [':'] := by
  have hcons : cs.reverse ++ [':'] = (':' :: cs).reverse := List.reverse_cons.symm
  rw [hcons]
  exact not_colons_infix_reverse h

/-! ### Names with and without separators -/

theorem hasSeparator_iff : ∀ cs : List Char, hasSeparator cs = true ↔ colons <:+: cs
  | [] => by simp [hasSeparator, colons]
  | c :: rest => by
    have hprefix : (c == ':' && rest.head? == some ':') = true ↔ colons <+: c :: rest := by
      cases rest with
      | nil => simp [colons]
      | cons d rest =>
        rw [Bool.and_eq_true, beq_iff_eq, beq_iff_eq, List.head?_cons, Option.some.injEq, colons,
          List.cons_prefix_cons, List.cons_prefix_cons, eq_comm, @eq_comm _ d]
        exact ⟨fun h => ⟨h.1, h.2, List.nil_prefix⟩, fun h => ⟨h.1, h.2.1⟩⟩
    rw [hasSeparator, Bool.or_eq_true, hprefix, hasSeparator_iff rest, List.infix_cons_iff]

theorem isQualified_iff (name : String) : isQualified name = true ↔ colons <:+: name.toList :=
  hasSeparator_iff name.toList

theorem isQualified_eq_false_iff (name : String) :
    isQualified name = false ↔ ¬ colons <:+: name.toList := by
  rw [← isQualified_iff, Bool.not_eq_true]

theorem splitReversed_eq_some : ∀ {xs left right : List Char},
    splitReversed xs = some (left, right) →
      xs = left ++ ':' :: ':' :: right ∧ ¬ colons <:+: left
  | [], _, _, h => by cases h
  | x :: xs, left, right, h => by
    rcases colons_cases x xs with ⟨more, rfl, rfl⟩ | hx
    · cases h
      exact ⟨rfl, by simp [colons]⟩
    · rw [splitReversed_cons hx] at h
      obtain ⟨⟨inner, behind⟩, hp, heq⟩ := Option.map_eq_some_iff.mp h
      cases heq
      obtain ⟨rfl, hinner⟩ := splitReversed_eq_some hp
      refine ⟨rfl, fun hi => ?_⟩
      rcases List.infix_cons_iff.mp hi with ⟨tail, htail⟩ | hi
      · -- The two colons would have been found where they begin.
        cases htail
        exact hx _ rfl rfl
      · exact hinner hi

theorem not_infix_of_splitReversed : ∀ {xs : List Char}, splitReversed xs = none →
    ¬ colons <:+: xs
  | [], _ => by simp [colons]
  | x :: xs, h => by
    rcases colons_cases x xs with ⟨more, rfl, rfl⟩ | hx
    · cases h
    · rw [splitReversed_cons hx, Option.map_eq_none_iff] at h
      rw [List.infix_cons_iff, not_or]
      refine ⟨?_, not_infix_of_splitReversed h⟩
      rintro ⟨tail, htail⟩
      cases htail
      exact hx _ rfl rfl

theorem splitLast?_eq_some {name space last : String} (h : splitLast? name = some (space, last)) :
    name.toList = space.toList ++ ':' :: ':' :: last.toList ∧ isQualified last = false := by
  obtain ⟨⟨left, right⟩, hp, heq⟩ := Option.map_eq_some_iff.mp h
  cases heq
  obtain ⟨hxs, hleft⟩ := splitReversed_eq_some hp
  refine ⟨?_, ?_⟩
  · have hreverse := congrArg List.reverse hxs
    simpa using hreverse
  · rw [isQualified_eq_false_iff, String.toList_ofList]
    exact not_colons_infix_reverse hleft

theorem splitLast?_eq_none_iff (name : String) :
    splitLast? name = none ↔ isQualified name = false := by
  rw [isQualified_eq_false_iff]
  refine ⟨fun h hi => ?_, fun h => ?_⟩
  · have hnone := not_infix_of_splitReversed (Option.map_eq_none_iff.mp h)
    exact hnone (List.reverse_infix.mpr hi)
  · rw [splitLast?, splitReversed_eq_none (not_colons_infix_reverse h)]
    rfl

/-- A name with an anchor has a separator. -/
theorem isQualified_of_absolute? {name full : String} (h : absolute? name = some full) :
    isQualified name = true := by
  rw [isQualified_iff]
  rw [absolute?] at h
  split at h
  · next rest hname => exact ⟨[], rest, by simp [colons, hname]⟩
  · cases h

theorem absolute?_eq_none {name : String} (h : isQualified name = false) :
    absolute? name = none := by
  cases habsolute : absolute? name with
  | none => rfl
  | some full =>
    rw [isQualified_of_absolute? habsolute] at h
    cases h

end Manifest.Name
