import Manifest.Collection
import Manifest.Proofs.Name
import Manifest.Reference

/-!
# Cutting texts at bytes

A place in a text is the number of bytes before it, and a text can only be cut at the places
between its characters.  Here references, names and the names of nodes are taken apart by looking
for a sign and cutting there; a cut at any other place, or behind the end, fails.  None of them
does, and the parts are those that are found without counting bytes.

## Main definitions

* `Text.splitBytes?`, `Text.slice?` — cutting a text, which may fail.
* `Text.firstPlace?`, `Text.lastPlace?` — the places of a sign.
* `Checked.parent?`, `Checked.find?`, `Checked.nodeDefinition?`, `Checked.reference?` — looking up
  and reading with such cuts.

## Main results

* `Text.splitBytes?_eq_some_iff` — where a text can be cut.
* `Checked.parent?_eq`, `Checked.find?_eq`, `Checked.nodeDefinition?_eq`, `Checked.reference?_eq` —
  no cut fails.
-/

namespace Manifest

namespace Text

variable {cs pre post sign : List Char} {n : Nat}

/-! ### Cutting -/

/-- The number of bytes of characters. -/
def byteSize (cs : List Char) : Nat := (String.ofList cs).utf8ByteSize

theorem byteSize_nil : byteSize [] = 0 := rfl

theorem byteSize_append (cs ds : List Char) :
    byteSize (cs ++ ds) = byteSize cs + byteSize ds := by
  rw [byteSize, String.ofList_append, String.utf8ByteSize_append, byteSize, byteSize]

theorem byteSize_cons (c : Char) (cs : List Char) :
    byteSize (c :: cs) = c.utf8Size + byteSize cs := by
  have hc : byteSize [c] = c.utf8Size := by
    rw [byteSize, ← String.singleton_eq_ofList, String.utf8ByteSize_singleton]
  rw [← List.singleton_append, byteSize_append, hc]

theorem byteSize_pos (h : cs ≠ []) : 0 < byteSize cs := by
  cases cs with
  | nil => exact absurd rfl h
  | cons c cs =>
    rw [byteSize_cons]
    exact Nat.add_pos_left c.utf8Size_pos _

/-- The characters before and behind so many bytes.  Behind the end of a text and inside of a
character there is no place to cut. -/
def splitBytes? : Nat → List Char → Option (List Char × List Char)
  | 0, cs => some ([], cs)
  | _ + 1, [] => none
  | n + 1, c :: cs =>
    if c.utf8Size ≤ n + 1 then
      (splitBytes? (n + 1 - c.utf8Size) cs).map fun parts => (c :: parts.1, parts.2)
    else none

theorem splitBytes?_append (pre post : List Char) :
    splitBytes? (byteSize pre) (pre ++ post) = some (pre, post) := by
  induction pre with
  | nil => cases post <;> rfl
  | cons c pre ih =>
    have hpos := c.utf8Size_pos
    obtain ⟨n, hn⟩ : ∃ n, byteSize (c :: pre) = n + 1 :=
      Nat.exists_eq_add_one.mpr (byteSize_pos (List.cons_ne_nil c pre))
    have hrest : n + 1 - c.utf8Size = byteSize pre := by
      rw [← hn, byteSize_cons, Nat.add_sub_cancel_left]
    have hfits : c.utf8Size ≤ n + 1 := by
      rw [← hn, byteSize_cons]
      exact Nat.le_add_right _ _
    rw [hn, List.cons_append, splitBytes?, if_pos hfits, hrest, ih]
    rfl

/-- A text can be cut between its characters and nowhere else. -/
theorem splitBytes?_eq_some_iff :
    splitBytes? n cs = some (pre, post) ↔ cs = pre ++ post ∧ n = byteSize pre := by
  refine ⟨fun h => ?_, ?_⟩
  · induction cs generalizing n pre with
    | nil =>
      cases n with
      | zero => cases h; exact ⟨rfl, rfl⟩
      | succ n => cases h
    | cons c cs ih =>
      cases n with
      | zero => cases h; exact ⟨rfl, rfl⟩
      | succ n =>
        rw [splitBytes?] at h
        split at h
        · next hfits =>
          obtain ⟨parts, hparts, heq⟩ := Option.map_eq_some_iff.mp h
          cases heq
          obtain ⟨rfl, hsize⟩ := ih hparts
          refine ⟨rfl, ?_⟩
          rw [byteSize_cons]
          omega
        · cases h
  · rintro ⟨rfl, rfl⟩
    exact splitBytes?_append pre post

/-- Between the two bytes of a letter there is no place to cut. -/
example : splitBytes? 1 ['é', 'a'] = none := by decide

/-- The characters from one place to another one. -/
def slice? (start stop : Nat) (cs : List Char) : Option (List Char) :=
  if start ≤ stop then do
    let (_, behind) ← splitBytes? start cs
    let (inside, _) ← splitBytes? (stop - start) behind
    return inside
  else none

theorem slice?_append (pre inside post : List Char) :
    slice? (byteSize pre) (byteSize pre + byteSize inside) (pre ++ (inside ++ post)) =
      some inside := by
  rw [slice?, if_pos (Nat.le_add_right _ _), Nat.add_sub_cancel_left, splitBytes?_append]
  simp only [Option.bind_eq_bind, Option.bind_some, splitBytes?_append]
  rfl

theorem slice?_before (pre post : List Char) :
    slice? 0 (byteSize pre) (pre ++ post) = some pre := by
  have h := slice?_append [] pre post
  rwa [List.nil_append, byteSize_nil, Nat.zero_add] at h

theorem slice?_behind (pre post : List Char) :
    slice? (byteSize pre) (byteSize (pre ++ post)) (pre ++ post) = some post := by
  have h := slice?_append pre post []
  rwa [List.append_nil, ← byteSize_append] at h

/-! ### Looking for a sign -/

/-- The first place at which a sign stands. -/
def firstPlace? (sign : List Char) : List Char → Option Nat
  | [] => none
  | c :: cs =>
    if sign.isPrefixOf (c :: cs) then some 0 else (firstPlace? sign cs).map (· + c.utf8Size)

/-- The last place at which a sign stands. -/
def lastPlace? (sign : List Char) : List Char → Option Nat
  | [] => none
  | c :: cs =>
    match lastPlace? sign cs with
    | some place => some (place + c.utf8Size)
    | none => if sign.isPrefixOf (c :: cs) then some 0 else none

/-- A sign of one character stands nowhere before its first place. -/
theorem firstPlace?_eq_some {c : Char} (h : firstPlace? [c] cs = some n) :
    ∃ pre post, cs = pre ++ c :: post ∧ n = byteSize pre ∧ c ∉ pre := by
  induction cs generalizing n with
  | nil => cases h
  | cons d cs ih =>
    rw [firstPlace?] at h
    split at h
    · next hd =>
      cases h
      have hfirst : c = d := by simpa using hd
      exact ⟨[], cs, by rw [hfirst, List.nil_append], rfl, List.not_mem_nil⟩
    · next hd =>
      obtain ⟨m, hm, rfl⟩ := Option.map_eq_some_iff.mp h
      obtain ⟨pre, post, rfl, rfl, hpre⟩ := ih hm
      have hne : c ≠ d := by simpa using hd
      refine ⟨d :: pre, post, rfl, ?_, ?_⟩
      · rw [byteSize_cons, Nat.add_comm]
      · rw [List.mem_cons, not_or]
        exact ⟨hne, hpre⟩

theorem firstPlace?_eq_none {c : Char} (h : firstPlace? [c] cs = none) : c ∉ cs := by
  induction cs with
  | nil => exact List.not_mem_nil
  | cons d cs ih =>
    rw [firstPlace?] at h
    split at h
    · cases h
    · next hd =>
      have hne : c ≠ d := by simpa using hd
      rw [List.mem_cons, not_or]
      exact ⟨hne, ih (Option.map_eq_none_iff.mp h)⟩

theorem lastPlace?_eq_none (hsign : sign ≠ []) (h : lastPlace? sign cs = none) :
    ¬ sign <:+: cs := by
  induction cs with
  | nil => rwa [List.infix_nil]
  | cons c cs ih =>
    rw [lastPlace?] at h
    split at h
    · cases h
    · next hlater =>
      split at h
      · cases h
      · next hhere =>
        rw [List.infix_cons_iff, not_or]
        exact ⟨fun hp => hhere (List.isPrefixOf_iff_prefix.mpr hp), ih hlater⟩

/-- A sign stands nowhere behind its last place. -/
theorem lastPlace?_eq_some (hsign : sign ≠ []) (h : lastPlace? sign cs = some n) :
    ∃ pre post, cs = pre ++ (sign ++ post) ∧ n = byteSize pre ∧
      ¬ sign <:+: (sign ++ post).tail := by
  induction cs generalizing n with
  | nil => cases h
  | cons c cs ih =>
    rw [lastPlace?] at h
    split at h
    · next place hlater =>
      cases h
      obtain ⟨pre, post, rfl, rfl, hpost⟩ := ih hlater
      refine ⟨c :: pre, post, rfl, ?_, hpost⟩
      rw [byteSize_cons, Nat.add_comm]
    · next hlater =>
      split at h
      · next hhere =>
        cases h
        obtain ⟨post, hpost⟩ := List.isPrefixOf_iff_prefix.mp hhere
        refine ⟨[], post, hpost.symm, rfl, ?_⟩
        rw [hpost]
        exact lastPlace?_eq_none hsign hlater
      · cases h

end Text

/-! ### Looking up and reading with cuts -/

namespace Checked

variable {α : Type}

/-- The namespace around a name: what stands before its last separator. -/
def parent? (name : List Char) : Option (List Char) :=
  match Text.lastPlace? Name.colons name with
  | some place => Text.slice? 0 place name
  | none => some []

/-- A namespace and those around it, innermost first. -/
def namespaces? : Nat → List Char → Option (List (List Char))
  | 0, _ => none
  | bound + 1, space =>
    if space.isEmpty then some []
    else do
      let outer ← parent? space
      return space :: (← namespaces? bound outer)

/-- The full names that a name may stand for in a namespace. -/
def fullNames? (name space : String) : Option (List String) :=
  match Name.absolute? name with
  | some full => some [full]
  | none =>
    if Name.isQualified name then some [name]
    else do
      let around := (Text.lower space).toList
      let spaces ← namespaces? (around.length + 1) around
      return spaces.map (fun s => Name.join (String.ofList s) name) ++ [name]

/-- The first definition that a name may stand for. -/
def find? (c : Collection) (pick : Definition → Option α) (name space : String) :
    Option (Option α) := do
  let names ← fullNames? (Text.lower name) space
  return names.findSome? fun full => (c.definitions.get? full).bind pick

/-- The definition for a node, which is looked for under shorter and shorter names. -/
def nodeWithin? (c : Collection) : Nat → List Char → Option (Option NodeDefinition)
  | 0, _ => none
  | bound + 1, name =>
    match c.nodeNamed? (.exact (String.ofList name)) with
    | some n => some (some n)
    | none =>
      match Text.lastPlace? ['.'] name with
      | some place => do
        let shorter ← Text.slice? 0 place name
        nodeWithin? c bound shorter
      | none => some (c.nodeNamed? .fallback)

/-- The definition for a node. -/
def nodeDefinition? (c : Collection) (name : String) : Option (Option NodeDefinition) :=
  let lower := (Text.lower name).toList
  nodeWithin? c (lower.length + 1) lower

/-- Reads `Type[title]`. -/
def reference? (text : String) : Option (Option Reference) :=
  let cs := text.toList
  match Text.firstPlace? ['['] cs with
  | none => some none
  | some opening =>
    if cs.getLast? ≠ some ']' || opening = 0 then some none
    else do
      let title ← Text.slice? (opening + 1) (Text.byteSize cs - 1) cs
      let type ← Text.slice? 0 opening cs
      return some (Reference.of (String.ofList type)
        (String.ofList (Reference.unquote (Text.trimChars title))))

/-! ### Names -/

variable {bound : Nat} {cs : List Char}

/-- The namespace around a name is cut off where its last separator begins. -/
theorem parent?_eq (name : String) : parent? name.toList = some (Name.parent name).toList := by
  have hcolons : Name.colons ≠ [] := List.cons_ne_nil _ _
  rw [parent?, Name.parent, Name.splitLast?]
  cases hplace : Text.lastPlace? Name.colons name.toList with
  | none =>
    have hnone := Text.lastPlace?_eq_none hcolons hplace
    rw [Name.splitReversed_eq_none (Name.not_colons_infix_reverse hnone)]
    rfl
  | some place =>
    obtain ⟨pre, post, hname, rfl, hpost⟩ := Text.lastPlace?_eq_some hcolons hplace
    have hreverse : name.toList.reverse = post.reverse ++ ':' :: ':' :: pre.reverse := by
      rw [hname]
      simp [Name.colons]
    rw [hreverse, Name.splitReversed_append (Name.not_colons_infix_reverse_append hpost), hname]
    simp only [Option.map_some, List.reverse_reverse, String.toList_ofList]
    exact Text.slice?_before pre _

theorem namespaces?_eq : ∀ {bound : Nat} {space : String}, space.toList.length < bound →
    namespaces? bound space.toList = some ((Name.namespaces space).map String.toList)
  | 0, _, h => absurd h (Nat.not_lt_zero _)
  | bound + 1, space, h => by
    rw [namespaces?]
    by_cases hspace : space = ""
    · subst hspace
      rfl
    · have hne : space.toList.isEmpty = false :=
        List.isEmpty_eq_false_iff.mpr fun he => hspace (String.toList_eq_nil_iff.mp he)
      have hshorter := Name.length_parent_lt hspace
      have ih : namespaces? bound (Name.parent space).toList =
          some ((Name.namespaces (Name.parent space)).map String.toList) :=
        namespaces?_eq (by omega)
      rw [hne, Name.namespaces_eq hspace, parent?_eq]
      simp [ih]

theorem fullNames?_eq (name space : String) :
    fullNames? name space = some (Collection.fullNames name space) := by
  rw [fullNames?, Collection.fullNames]
  cases Name.absolute? name with
  | some full => rfl
  | none =>
    show (if Name.isQualified name then some [name] else _) = _
    by_cases hname : Name.isQualified name = true
    · rw [if_pos hname, if_pos hname]
    · rw [if_neg hname]
      simp only [hname, namespaces?_eq (Nat.lt_succ_self _), Name.candidates]
      simp [Function.comp_def]

/-- No cut fails when a class or define is looked up. -/
theorem find?_eq (c : Collection) (pick : Definition → Option α) (name space : String) :
    find? c pick name space = some (c.find? pick name space) := by
  rw [find?, fullNames?_eq]
  rfl

/-! ### Names of nodes -/

theorem shortenedReversed_append {xs : List Char} (h : '.' ∉ xs) (more : List Char) :
    Collection.shortenedReversed (xs ++ '.' :: more) =
      more :: Collection.shortenedReversed more := by
  induction xs with
  | nil => rfl
  | cons x xs ih =>
    rw [List.mem_cons, not_or] at h
    rw [List.cons_append, Collection.shortenedReversed, ih h.2]
    exact fun hx => h.1 hx.symm

theorem shortenedReversed_eq_nil {xs : List Char} (h : '.' ∉ xs) :
    Collection.shortenedReversed xs = [] := by
  induction xs with
  | nil => rfl
  | cons x xs ih =>
    rw [List.mem_cons, not_or] at h
    rw [Collection.shortenedReversed, ih h.2]
    exact fun hx => h.1 hx.symm

/-- The names of a node without its last labels, found one after the other. -/
theorem shortenings_append {pre post : List Char} (h : '.' ∉ post) :
    Collection.shortenings (String.ofList (pre ++ '.' :: post)) =
      String.ofList (pre ++ '.' :: post) :: Collection.shortenings (String.ofList pre) := by
  have hreverse : (pre ++ '.' :: post).reverse = post.reverse ++ '.' :: pre.reverse := by simp
  have hpost : '.' ∉ post.reverse := fun hp => h (List.mem_reverse.mp hp)
  rw [Collection.shortenings, String.toList_ofList, hreverse, shortenedReversed_append hpost,
    List.map_cons, List.reverse_reverse, Collection.shortenings, String.toList_ofList]

theorem nodeWithin?_eq (c : Collection) : ∀ {bound : Nat} {cs : List Char}, cs.length < bound →
    nodeWithin? c bound cs =
      some (((Collection.shortenings (String.ofList cs)).findSome? fun s =>
        c.nodeNamed? (.exact s)).or (c.nodeNamed? .fallback))
  | 0, _, h => absurd h (Nat.not_lt_zero _)
  | bound + 1, cs, h => by
    have hdot : ['.'] ≠ [] := List.cons_ne_nil _ _
    rw [nodeWithin?]
    cases hplace : Text.lastPlace? ['.'] cs with
    | none =>
      have hnone : '.' ∉ cs.reverse := fun hmem =>
        Text.lastPlace?_eq_none hdot hplace
          ((List.singleton_infix_iff _ _).mpr (List.mem_reverse.mp hmem))
      rw [Collection.shortenings, String.toList_ofList, shortenedReversed_eq_nil hnone]
      cases hnamed : c.nodeNamed? (.exact (String.ofList cs)) <;> simp [hnamed]
    | some place =>
      obtain ⟨pre, post, rfl, rfl, hpost⟩ := Text.lastPlace?_eq_some hdot hplace
      have hpost' : '.' ∉ post := fun hmem => hpost ((List.singleton_infix_iff _ _).mpr hmem)
      have hshorter : pre.length < bound := by
        simp at h
        omega
      have ih := nodeWithin?_eq c hshorter
      simp only [List.singleton_append]
      rw [shortenings_append hpost', List.findSome?_cons, Text.slice?_before]
      cases hnamed : c.nodeNamed? (.exact (String.ofList (pre ++ '.' :: post))) with
      | some n => rfl
      | none => simp [ih]

/-- No cut fails when the definition for a node is looked up. -/
theorem nodeDefinition?_eq (c : Collection) (name : String) :
    nodeDefinition? c name = some (c.nodeDefinition? name) := by
  rw [nodeDefinition?, nodeWithin?_eq c (Nat.lt_succ_self _), String.ofList_toList]
  rfl

/-! ### References -/

/-- What stands between the brackets is cut out. -/
theorem slice?_title (type title : List Char) :
    Text.slice? (Text.byteSize type + 1) (Text.byteSize (type ++ '[' :: (title ++ [']'])) - 1)
      (type ++ '[' :: (title ++ [']'])) = some title := by
  have hopening : Text.byteSize (type ++ ['[']) = Text.byteSize type + 1 :=
    Text.byteSize_append type ['[']
  have hclosing : Text.byteSize (type ++ '[' :: (title ++ [']'])) =
      Text.byteSize (type ++ ['[']) + Text.byteSize title + 1 := by
    have hlast : Text.byteSize (title ++ [']']) = Text.byteSize title + 1 :=
      Text.byteSize_append title [']']
    rw [← List.singleton_append, ← List.append_assoc, Text.byteSize_append, hlast, Nat.add_assoc]
  have hcut := Text.slice?_append (type ++ ['[']) title [']']
  rw [hclosing, Nat.add_sub_cancel, ← hopening]
  rwa [List.append_assoc, List.singleton_append] at hcut

/-- No cut fails when a reference is read. -/
theorem reference?_eq (text : String) : reference? text = some (Reference.ofText? text) := by
  rw [reference?, Reference.ofText?]
  cases hplace : Text.firstPlace? ['['] text.toList with
  | none =>
    have hnone := Text.firstPlace?_eq_none hplace
    have hall : ∀ c ∈ text.toList, decide (c ≠ '[') = true := fun c hc =>
      decide_eq_true fun he => hnone (he ▸ hc)
    have hdrop : text.toList.dropWhile (· ≠ '[') = [] := by
      have happend : (text.toList ++ []).dropWhile (· ≠ '[') = [] :=
        List.dropWhile_append_of_pos hall
      rwa [List.append_nil] at happend
    simp only [hdrop]
  | some opening =>
    obtain ⟨type, inner, htext, rfl, htype⟩ := Text.firstPlace?_eq_some hplace
    have hplain : ∀ c ∈ type, decide (c ≠ '[') = true := fun c hc =>
      decide_eq_true fun he => htype (he ▸ hc)
    have htake : (type ++ '[' :: inner).takeWhile (· ≠ '[') = type := by
      rw [List.takeWhile_append_of_pos hplain]
      simp
    have hdrop : (type ++ '[' :: inner).dropWhile (· ≠ '[') = '[' :: inner := by
      rw [List.dropWhile_append_of_pos hplain]
      simp
    simp only [htext, htake, hdrop]
    rcases List.eq_nil_or_concat inner with rfl | ⟨title, last, rfl⟩
    · -- The opening bracket is the last character, which is no closing one.
      simp
    · have hend : (type ++ '[' :: (title ++ [last])).getLast? = some last := by
        rw [← List.cons_append, ← List.append_assoc, List.getLast?_concat]
      have hinner : (title ++ [last]).getLast? = some last := List.getLast?_concat
      simp only [List.concat_eq_append, hend, hinner, List.dropLast_concat]
      by_cases hlast : last = ']'
      · subst hlast
        by_cases hempty : type = []
        · simp [hempty, Text.byteSize_nil]
        · have hsize : Text.byteSize type ≠ 0 := Nat.ne_of_gt (Text.byteSize_pos hempty)
          simp [slice?_title, Text.slice?_before, hempty, hsize]
      · simp [hlast]

end Checked

end Manifest
