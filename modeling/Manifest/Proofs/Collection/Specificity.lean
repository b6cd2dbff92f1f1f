import Manifest.Collection

/-!
# Which node definition is for a node

The definition for a node is found by the name of the node without more and more of its last
labels.  What is tried is the name itself and what stands before any of its dots, the longest one
first, so the order of the definitions decides only between those that list the same name.  The
definition for all other nodes is taken only if none of these names is listed.

## Main definitions

* `IsShortening` — a name, or what stands before one of its dots.
* `Collection.Lists`, `Collection.ListsFirst` — some definition lists a name, and which one is the
  first to do so.
* `Collection.Serves` — the definition for a node, or that there is none.

## Main results

* `mem_shortenings`, `pairwise_shortenings` — what is tried, and in which order.
* `Collection.serves_iff` — what is found is the definition that lists the longest name.
-/

namespace Manifest.Collection

/-! ### Shortened names -/

/-- A name, or what stands before one of its dots. -/
def IsShortening (short name : String) : Prop :=
  short = name ∨ ∃ labels, name = short ++ "." ++ labels

/-- The walk comes to what stands behind any of the dots. -/
theorem mem_shortenedReversed {cs rest : List Char} :
    rest ∈ shortenedReversed cs ↔ ∃ before, cs = before ++ '.' :: rest := by
  fun_induction shortenedReversed cs with
  | case1 => simp
  | case2 cs ih =>
    rw [List.mem_cons, ih]
    constructor
    · rintro (rfl | ⟨before, rfl⟩)
      · exact ⟨[], rfl⟩
      · exact ⟨'.' :: before, rfl⟩
    · rintro ⟨before, h⟩
      cases before with
      | nil => exact .inl (List.cons.inj h).2.symm
      | cons d before => exact .inr ⟨before, (List.cons.inj h).2⟩
  | case3 c cs hc ih =>
    rw [ih]
    constructor
    · rintro ⟨before, rfl⟩
      exact ⟨c :: before, rfl⟩
    · rintro ⟨before, h⟩
      cases before with
      | nil => exact absurd (List.cons.inj h).1 hc
      | cons d before => exact ⟨before, (List.cons.inj h).2⟩

theorem length_lt_of_mem_shortenedReversed {cs rest : List Char}
    (h : rest ∈ shortenedReversed cs) : rest.length < cs.length := by
  obtain ⟨before, rfl⟩ := mem_shortenedReversed.mp h
  rw [List.length_append, List.length_cons]
  omega

/-- It comes to shorter and shorter rests. -/
theorem pairwise_shortenedReversed (cs : List Char) :
    (shortenedReversed cs).Pairwise fun longer shorter => shorter.length < longer.length := by
  fun_induction shortenedReversed cs with
  | case1 => exact .nil
  | case2 cs ih => exact .cons (fun rest => length_lt_of_mem_shortenedReversed) ih
  | case3 c cs hc ih => exact ih

theorem mem_shortenings {short name : String} :
    short ∈ shortenings name ↔ IsShortening short name := by
  rw [shortenings, List.mem_cons, List.mem_map]
  refine or_congr_right ⟨?_, ?_⟩
  · rintro ⟨rest, hrest, rfl⟩
    obtain ⟨before, hsplit⟩ := mem_shortenedReversed.mp hrest
    refine ⟨String.ofList before.reverse, String.toList_injective ?_⟩
    have hname : name.toList = rest.reverse ++ '.' :: before.reverse := by
      simpa using congrArg List.reverse hsplit
    simp [hname]
  · rintro ⟨labels, rfl⟩
    refine ⟨short.toList.reverse, mem_shortenedReversed.mpr ⟨labels.toList.reverse, ?_⟩, ?_⟩
    · simp
    · simp

/-- Longer names are tried first. -/
theorem pairwise_shortenings (name : String) :
    (shortenings name).Pairwise fun longer shorter => shorter.length < longer.length := by
  have hmap := (pairwise_shortenedReversed name.toList.reverse).map
    (fun cs => String.ofList cs.reverse) (S := fun longer shorter => shorter.length < longer.length)
    fun cs ds hlength => by simpa using hlength
  refine .cons (fun short hshort => ?_) hmap
  obtain ⟨rest, hrest, rfl⟩ := List.mem_map.mp hshort
  have hlength := length_lt_of_mem_shortenedReversed hrest
  rwa [List.length_reverse, String.length_toList, ← List.length_reverse, ← String.length_ofList]
    at hlength

/-- The first answer for the names in their order is that for the longest one that has one. -/
theorem findSome?_shortenings {α : Type} {f : String → Option α} {a : α} {name : String} :
    (shortenings name).findSome? f = some a ↔
      ∃ short, IsShortening short name ∧ f short = some a ∧
        ∀ longer, IsShortening longer name → short.length < longer.length → f longer = none := by
  have hsorted := pairwise_shortenings name
  simp only [← mem_shortenings]
  rw [List.findSome?_eq_some_iff]
  constructor
  · rintro ⟨before, short, behind, hsplit, hanswer, hbefore⟩
    rw [hsplit] at hsorted ⊢
    refine ⟨short, by simp, hanswer, fun longer hlonger hlength => ?_⟩
    rcases List.mem_append.mp hlonger with hlonger | hlonger
    · exact hbefore longer hlonger
    · -- What stands behind it in the list is not longer.
      have hbehind := (List.pairwise_cons.mp (List.pairwise_append.mp hsorted).2.1).1
      rcases List.mem_cons.mp hlonger with rfl | hlonger
      · exact absurd hlength (Nat.lt_irrefl _)
      · exact absurd (hbehind longer hlonger) (Nat.lt_asymm hlength)
  · rintro ⟨short, hshort, hanswer, hlongest⟩
    obtain ⟨before, behind, hsplit⟩ := List.append_of_mem hshort
    refine ⟨before, short, behind, hsplit, hanswer, fun longer hlonger => ?_⟩
    rw [hsplit] at hsorted hlongest
    have hlength := (List.pairwise_append.mp hsorted).2.2 longer hlonger short List.mem_cons_self
    exact hlongest longer (List.mem_append_left _ hlonger) hlength

/-! ### Definitions that list a name -/

variable {c : Collection} {name : String}

/-- Some node definition lists a name. -/
def Lists (c : Collection) (name : NodeName) : Prop := ∃ n ∈ c.nodes, name ∈ n.names

/-- A node definition lists a name, and none that was read before it does. -/
def ListsFirst (c : Collection) (name : NodeName) (n : NodeDefinition) : Prop :=
  ∃ before behind, c.nodes = before ++ n :: behind ∧ name ∈ n.names ∧ ∀ m ∈ before, name ∉ m.names

theorem nodeNamed?_eq_some_iff {name : NodeName} {n : NodeDefinition} :
    c.nodeNamed? name = some n ↔ c.ListsFirst name n := by
  rw [nodeNamed?, List.find?_eq_some_iff_append]
  simp only [List.contains_iff_mem, Bool.not_eq_eq_eq_not, Bool.not_true, ← Bool.not_eq_true]
  constructor
  · rintro ⟨hname, before, behind, hnodes, hbefore⟩
    exact ⟨before, behind, hnodes, hname, hbefore⟩
  · rintro ⟨before, behind, hnodes, hname, hbefore⟩
    exact ⟨hname, before, behind, hnodes, hbefore⟩

theorem nodeNamed?_eq_none_iff {name : NodeName} : c.nodeNamed? name = none ↔ ¬ c.Lists name := by
  rw [nodeNamed?, List.find?_eq_none, Lists]
  simp only [List.contains_iff_mem, not_exists, not_and]

/-! ### The definition for a node -/

/-- The definition for a node with a name in lower case, or that there is none. -/
inductive Serves (c : Collection) (name : String) : Option NodeDefinition → Prop
  /-- The first one that lists the longest of the names that are listed at all. -/
  | exact {short : String} {n : NodeDefinition} (shortening : IsShortening short name)
    (first : c.ListsFirst (.exact short) n)
    (longest : ∀ longer, IsShortening longer name → short.length < longer.length →
      ¬ c.Lists (.exact longer)) : Serves c name (some n)
  | fallback {n : NodeDefinition}
    (unlisted : ∀ short, IsShortening short name → ¬ c.Lists (.exact short))
    (first : c.ListsFirst .fallback n) : Serves c name (some n)
  | nothing (unlisted : ∀ short, IsShortening short name → ¬ c.Lists (.exact short))
    (noFallback : ¬ c.Lists .fallback) : Serves c name none

variable {n : NodeDefinition} {answer : Option NodeDefinition}

theorem ListsFirst.lists {name : NodeName} (h : c.ListsFirst name n) :
    c.Lists name := by
  obtain ⟨before, behind, hnodes, hname, -⟩ := h
  exact ⟨n, by simp [hnodes], hname⟩

/-- No name that is tried is listed. -/
theorem findSome?_eq_none_iff :
    ((shortenings name).findSome? fun short => c.nodeNamed? (.exact short)) = none ↔
      ∀ short, IsShortening short name → ¬ c.Lists (.exact short) := by
  rw [List.findSome?_eq_none_iff]
  simp only [mem_shortenings, nodeNamed?_eq_none_iff]

/-- Of the names that are listed the longest one decides. -/
theorem findSome?_eq_some_iff :
    ((shortenings name).findSome? fun short => c.nodeNamed? (.exact short)) = some n ↔
      ∃ short, IsShortening short name ∧ c.ListsFirst (.exact short) n ∧
        ∀ longer, IsShortening longer name → short.length < longer.length →
          ¬ c.Lists (.exact longer) := by
  rw [findSome?_shortenings]
  simp only [nodeNamed?_eq_some_iff, nodeNamed?_eq_none_iff]

/-- What is found serves the node. -/
theorem serves_nodeDefinition? (c : Collection) (name : String) :
    c.Serves (Text.lower name) (c.nodeDefinition? name) := by
  rw [nodeDefinition?]
  cases hexact : (shortenings (Text.lower name)).findSome? fun s => c.nodeNamed? (.exact s) with
  | some n =>
    obtain ⟨short, hshort, hfirst, hlongest⟩ := findSome?_eq_some_iff.mp hexact
    exact .exact hshort hfirst hlongest
  | none =>
    have hunlisted := findSome?_eq_none_iff.mp hexact
    cases hfallback : c.nodeNamed? .fallback with
    | some n => exact .fallback hunlisted (nodeNamed?_eq_some_iff.mp hfallback)
    | none => exact .nothing hunlisted (nodeNamed?_eq_none_iff.mp hfallback)

/-- Nothing else serves it. -/
theorem Serves.nodeDefinition?_eq (h : c.Serves (Text.lower name) answer) :
    c.nodeDefinition? name = answer := by
  rw [nodeDefinition?]
  cases h with
  | exact hshort hfirst hlongest =>
    rw [findSome?_eq_some_iff.mpr ⟨_, hshort, hfirst, hlongest⟩, Option.some_or]
  | fallback hunlisted hfirst =>
    rw [findSome?_eq_none_iff.mpr hunlisted, Option.none_or, nodeNamed?_eq_some_iff.mpr hfirst]
  | nothing hunlisted hfallback =>
    rw [findSome?_eq_none_iff.mpr hunlisted, Option.none_or, nodeNamed?_eq_none_iff.mpr hfallback]

/-- Whoever lists a name of the node, the definition that serves it lists one as long. -/
theorem Serves.exists_of_lists (h : c.Serves name answer) {short : String}
    (hshort : IsShortening short name) (hlists : c.Lists (.exact short)) :
    ∃ longer n, answer = some n ∧ IsShortening longer name ∧ short.length ≤ longer.length ∧
      .exact longer ∈ n.names := by
  cases h with
  | @exact longest n hlongest hfirst hunlisted =>
    obtain ⟨before, behind, -, hname, -⟩ := hfirst
    refine ⟨longest, n, rfl, hlongest, Nat.le_of_not_lt fun hlength => ?_, hname⟩
    exact hunlisted short hshort hlength hlists
  | fallback hunlisted _ => exact absurd hlists (hunlisted short hshort)
  | nothing hunlisted _ => exact absurd hlists (hunlisted short hshort)

/-- The definition for a node is the first one that lists the longest of its names that are listed
at all, and if none of them is, the first one that is for all other nodes.  So a definition that
lists a longer name is preferred to one that lists a shorter one, or none, wherever they stand. -/
theorem serves_iff (c : Collection) (name : String) :
    (∀ answer, c.nodeDefinition? name = answer ↔ c.Serves (Text.lower name) answer) ∧
      ∀ short, IsShortening short (Text.lower name) → c.Lists (.exact short) →
        ∃ longer n, c.nodeDefinition? name = some n ∧ IsShortening longer (Text.lower name) ∧
          short.length ≤ longer.length ∧ .exact longer ∈ n.names := by
  have hserves := serves_nodeDefinition? c name
  refine ⟨fun answer => ⟨?_, Serves.nodeDefinition?_eq⟩, fun short => hserves.exists_of_lists⟩
  rintro rfl
  exact hserves

/-! ### Three definitions for a node -/

/-- Definitions for all other nodes and for a host. -/
def widerNodes : List NodeDefinition :=
  [⟨⟨[.fallback], ⟨"site.pp", 1, 1⟩⟩, []⟩, ⟨⟨[.exact "db"], ⟨"site.pp", 2, 1⟩⟩, []⟩]

/-- A definition for a host in a domain. -/
def domainNode : NodeDefinition :=
  ⟨⟨[.exact "web", .exact "db.example"], ⟨"site.pp", 3, 1⟩⟩, []⟩

/-- The definition for the host in the domain stands behind the others. -/
def withHosts : Collection := { empty with nodes := widerNodes ++ [domainNode] }

/-- It serves a node in the domain all the same, as it lists the longest name. -/
theorem serves_iff_sample : withHosts.nodeDefinition? "DB.Example.com" = some domainNode := by
  have hlower : Text.lower "DB.Example.com" = "db.example.com" := by decide
  have hfirst : withHosts.ListsFirst (.exact "db.example") domainNode :=
    ⟨widerNodes, [], rfl, by decide, by decide⟩
  -- No name that is listed is longer.
  have hlongest : ∀ n ∈ withHosts.nodes, ∀ name, .exact name ∈ n.names → name.length ≤ 10 := by
    intro n hn name hname
    have hlisted : .exact name ∈ withHosts.nodes.flatMap (·.names) :=
      List.mem_flatMap.mpr ⟨n, hn, hname⟩
    have hall : withHosts.nodes.flatMap (·.names) =
        [.fallback, .exact "db", .exact "web", .exact "db.example"] := rfl
    simp only [hall, List.mem_cons, List.not_mem_nil, or_false] at hlisted
    rcases hlisted with h | h | h | h <;> cases h <;> decide
  refine ((serves_iff withHosts "DB.Example.com").1 _).mpr ?_
  rw [hlower]
  refine .exact (.inr ⟨"com", rfl⟩) hfirst fun longer _ hlength hlists => ?_
  obtain ⟨n, hn, hname⟩ := hlists
  exact absurd hlength (Nat.not_lt.mpr (hlongest n hn longer hname))

end Manifest.Collection
