import Manifest.Tree.Placement

/-!
# Definitions in branches that are dropped

Whether definitions stand where they may is looked up in the finished tree.  Of several `default`
branches of a `case` the tree has only the last one, so nobody looks at the definitions in those
before it.  Here statements still have all branches, and it is said what is kept of them: if that
is in order, definitions stand inside of branches and node bodies only where branches are dropped.

## Main definitions

* `Statement.kept`, `keptIn` — statements without the branches that are dropped.
* `Statement.definitions`, `definitionsIn` — all definitions in statements.
* `Statement.confined`, `confinedIn` — those inside of branches and node bodies.
* `Statement.superseded`, `supersededIn` — those in branches that are dropped.

## Main results

* `definitionsIn_eq_of_legal` — the definitions where none may stand.
* `confinedIn_eq_of_legal` — the definitions inside of branches and node bodies.
-/

namespace Manifest

/-! ### What is kept -/

namespace Branch

/-- Whether a branch has a guard. -/
def isGuarded : Branch → Bool
  | .mk guard _ _ => guard.isSome

/-- The guarded branches, and behind them the last one without a guard. -/
def settled (branches : List Branch) : List Branch :=
  branches.filter isGuarded ++ (branches.filter (!·.isGuarded)).getLast?.toList

end Branch

mutual

/-- A statement without the branches that are dropped in it. -/
def Statement.kept : Statement → Statement
  | .classDefinition header body => .classDefinition header (keptIn body)
  | .defineDefinition header body => .defineDefinition header (keptIn body)
  | .nodeDefinition header body => .nodeDefinition header (keptIn body)
  | .resource typeName bodies location => .resource typeName bodies location
  | .conditional branches location => .conditional (Branch.settled (keptBranches branches)) location
  | .assignment name value location => .assignment name value location
  | .expression value => .expression value

/-- Statements without the branches that are dropped in them. -/
def keptIn : List Statement → List Statement
  | [] => []
  | s :: rest => s.kept :: keptIn rest

/-- A branch without the branches that are dropped in its body. -/
def Branch.kept : Branch → Branch
  | .mk guard body location => .mk guard (keptIn body) location

/-- Branches without the branches that are dropped in their bodies. -/
def keptBranches : List Branch → List Branch
  | [] => []
  | b :: rest => b.kept :: keptBranches rest

end

/-! ### Definitions and where they stand -/

mutual

/-- All definitions in a statement, itself first. -/
def Statement.definitions : Statement → List Statement
  | .classDefinition header body => .classDefinition header body :: definitionsIn body
  | .defineDefinition header body => .defineDefinition header body :: definitionsIn body
  | .nodeDefinition header body => .nodeDefinition header body :: definitionsIn body
  | .conditional branches _ => definitionsInBranches branches
  | .resource .. | .assignment .. | .expression _ => []

/-- All definitions in statements. -/
def definitionsIn : List Statement → List Statement
  | [] => []
  | s :: rest => s.definitions ++ definitionsIn rest

/-- All definitions in branches. -/
def definitionsInBranches : List Branch → List Statement
  | [] => []
  | .mk _ body _ :: rest => definitionsIn body ++ definitionsInBranches rest

end

mutual

/-- The definitions in a statement that stand inside of a branch or the body of a node. -/
def Statement.confined : Statement → List Statement
  | .classDefinition _ body | .defineDefinition _ body => confinedIn body
  | .nodeDefinition _ body => definitionsIn body
  | .conditional branches _ => definitionsInBranches branches
  | .resource .. | .assignment .. | .expression _ => []

/-- The definitions in statements that stand inside of a branch or the body of a node. -/
def confinedIn : List Statement → List Statement
  | [] => []
  | s :: rest => s.confined ++ confinedIn rest

end

mutual

/-- The definitions in a statement that stand in branches which are dropped. -/
def Statement.superseded : Statement → List Statement
  | .classDefinition _ body | .defineDefinition _ body | .nodeDefinition _ body => supersededIn body
  | .conditional branches _ => supersededInBranches branches
  | .resource .. | .assignment .. | .expression _ => []

/-- The definitions in statements that stand in branches which are dropped. -/
def supersededIn : List Statement → List Statement
  | [] => []
  | s :: rest => s.superseded ++ supersededIn rest

/-- The definitions in branches without a guard that another one without a guard follows, and those
in branches which are dropped in the bodies of the others. -/
def supersededInBranches : List Branch → List Statement
  | [] => []
  | .mk guard body _ :: rest =>
    (if guard.isNone && rest.any (!·.isGuarded) then definitionsIn body else supersededIn body) ++
      supersededInBranches rest

end

/-! ### Placement in what is kept -/

theorem keptIn_eq_map (ss : List Statement) : keptIn ss = ss.map Statement.kept := by
  induction ss with
  | nil => rfl
  | cons s rest ih => rw [keptIn, List.map_cons, ih]

theorem keptBranches_eq_map (bs : List Branch) : keptBranches bs = bs.map Branch.kept := by
  induction bs with
  | nil => rfl
  | cons b rest ih => rw [keptBranches, List.map_cons, ih]

namespace Branch

@[simp] theorem isGuarded_kept (b : Branch) : b.kept.isGuarded = b.isGuarded := by
  cases b
  rw [kept, isGuarded, isGuarded]

variable {b : Branch} {branches : List Branch}

theorem mem_settled_of_guarded (h : b.isGuarded = true) (hb : b ∈ branches) :
    b ∈ settled branches :=
  List.mem_append_left _ (List.mem_filter.mpr ⟨hb, h⟩)

/-- What is left of some branches is left with another one before them. -/
theorem mem_settled_cons_of_mem (first : Branch) (h : b ∈ settled branches) :
    b ∈ settled (first :: branches) := by
  rw [settled, List.mem_append] at h
  rcases h with h | h
  · obtain ⟨hb, hguarded⟩ := List.mem_filter.mp h
    exact mem_settled_of_guarded hguarded (List.mem_cons_of_mem first hb)
  · rw [Option.mem_toList] at h
    refine List.mem_append_right _ (Option.mem_toList.mpr ?_)
    rw [List.filter_cons]
    split
    · rw [List.getLast?_cons, h]
      rfl
    · exact h

/-- A first branch is left unless it has no guard and another one without a guard follows. -/
theorem mem_settled_cons (h : (!b.isGuarded && branches.any (!·.isGuarded)) = false) :
    b ∈ settled (b :: branches) := by
  cases hb : b.isGuarded with
  | true => exact mem_settled_of_guarded hb List.mem_cons_self
  | false =>
    have hrest : branches.filter (!·.isGuarded) = [] := by
      simpa [hb, List.filter_eq_nil_iff] using h
    refine List.mem_append_right _ (Option.mem_toList.mpr ?_)
    rw [List.filter_cons_of_pos (by simp [hb]), hrest]
    rfl

end Branch

theorem any_keptBranches (bs : List Branch) :
    (keptBranches bs).any (!·.isGuarded) = bs.any (!·.isGuarded) := by
  simp [keptBranches_eq_map, List.any_map, Function.comp_def]

theorem misplacedInBranches?_eq_none_iff {around : Surroundings} :
    ∀ {branches : List Branch}, misplacedInBranches? around branches = none ↔
      ∀ b ∈ branches, b.misplaced? around = none
  | [] => by simp [misplacedInBranches?]
  | b :: rest => by
    rw [misplacedInBranches?, Option.or_eq_none_iff, List.forall_mem_cons,
      misplacedInBranches?_eq_none_iff]

theorem Surroundings.inner_of_fault {around block : Surroundings} (h : around.fault? ≠ none) :
    around.inner block = around := by
  cases around with
  | topLevel | definition => exact absurd rfl h
  | conditional | nodeBody => rfl

theorem Surroundings.fault?_inner_definition {around : Surroundings} (h : around.fault? = none) :
    (around.inner .definition).fault? = none := by
  cases around with
  | topLevel | definition => rfl
  | conditional | nodeBody => cases h

mutual

/-- Where no definition may stand, the only ones were in branches that have been dropped. -/
theorem Statement.definitions_eq_of_legal {around : Surroundings} (hfault : around.fault? ≠ none) :
    ∀ s : Statement, s.kept.misplaced? around = none → s.definitions = s.superseded
  | .classDefinition header body, h => by
    obtain ⟨fault, hsome⟩ := Option.ne_none_iff_exists'.mp hfault
    simp [Statement.kept, Statement.misplaced?, hsome] at h
  | .defineDefinition header body, h => by
    obtain ⟨fault, hsome⟩ := Option.ne_none_iff_exists'.mp hfault
    simp [Statement.kept, Statement.misplaced?, hsome] at h
  | .nodeDefinition header body, h => by
    have hinside : around ≠ .topLevel := fun htop => hfault (by rw [htop]; rfl)
    simp [Statement.kept, Statement.misplaced?, hinside] at h
  | .conditional branches _, h => by
    rw [Statement.kept, Statement.misplaced?, Surroundings.inner_of_fault hfault,
      misplacedInBranches?_eq_none_iff] at h
    exact definitionsInBranches_eq_of_legal hfault branches h
  | .resource .., _ => rfl
  | .assignment .., _ => rfl
  | .expression _, _ => rfl

theorem definitionsIn_eq_of_legal {around : Surroundings} (hfault : around.fault? ≠ none) :
    ∀ ss : List Statement, misplacedIn? around (keptIn ss) = none →
      definitionsIn ss = supersededIn ss
  | [], _ => rfl
  | s :: rest, h => by
    rw [keptIn, misplacedIn?, Option.or_eq_none_iff] at h
    rw [definitionsIn, supersededIn, Statement.definitions_eq_of_legal hfault s h.1,
      definitionsIn_eq_of_legal hfault rest h.2]

theorem definitionsInBranches_eq_of_legal {around : Surroundings}
    (hfault : around.fault? ≠ none) : ∀ bs : List Branch,
      (∀ b ∈ Branch.settled (keptBranches bs), b.misplaced? around = none) →
        definitionsInBranches bs = supersededInBranches bs
  | [], _ => rfl
  | .mk guard body location :: rest, h => by
    rw [keptBranches] at h
    have hrest := definitionsInBranches_eq_of_legal hfault rest fun b hb =>
      h b (Branch.mem_settled_cons_of_mem _ hb)
    rw [definitionsInBranches, supersededInBranches, hrest]
    split
    · rfl
    · next hlast =>
      -- This branch is left, so its body has been looked at.
      have hmem : Branch.kept (.mk guard body location) ∈
          Branch.settled (Branch.kept (.mk guard body location) :: keptBranches rest) := by
        refine Branch.mem_settled_cons ?_
        have hguard : (!(Branch.mk guard body location).isGuarded) = guard.isNone := by
          cases guard <;> rfl
        rw [Branch.isGuarded_kept, any_keptBranches, hguard]
        exact Bool.eq_false_iff.mpr hlast
      have hbody := h _ hmem
      rw [Branch.kept, Branch.misplaced?] at hbody
      rw [definitionsIn_eq_of_legal hfault body hbody]

end

mutual

theorem Statement.confined_eq_of_legal {around : Surroundings} (hfault : around.fault? = none) :
    ∀ s : Statement, s.kept.misplaced? around = none → s.confined = s.superseded
  | .classDefinition header body, h => by
    rw [Statement.kept, Statement.misplaced?, hfault] at h
    exact confinedIn_eq_of_legal (Surroundings.fault?_inner_definition hfault) body h
  | .defineDefinition header body, h => by
    rw [Statement.kept, Statement.misplaced?, hfault] at h
    exact confinedIn_eq_of_legal (Surroundings.fault?_inner_definition hfault) body h
  | .nodeDefinition header body, h => by
    rw [Statement.kept, Statement.misplaced?] at h
    split at h
    · exact definitionsIn_eq_of_legal (by simp [Surroundings.fault?]) body h
    · cases h
  | .conditional branches _, h => by
    rw [Statement.kept, Statement.misplaced?, misplacedInBranches?_eq_none_iff] at h
    have hinner : (around.inner .conditional).fault? ≠ none := by
      cases around with
      | topLevel | definition => exact Option.some_ne_none _
      | conditional | nodeBody => cases hfault
    exact definitionsInBranches_eq_of_legal hinner branches h
  | .resource .., _ => rfl
  | .assignment .., _ => rfl
  | .expression _, _ => rfl

/-- In the bodies of definitions and at top level, what stands inside of branches and node bodies
was in branches that have been dropped. -/
theorem confinedIn_eq_of_legal {around : Surroundings} (hfault : around.fault? = none) :
    ∀ ss : List Statement, misplacedIn? around (keptIn ss) = none →
      confinedIn ss = supersededIn ss
  | [], _ => rfl
  | s :: rest, h => by
    rw [keptIn, misplacedIn?, Option.or_eq_none_iff] at h
    rw [confinedIn, supersededIn, Statement.confined_eq_of_legal hfault s h.1,
      confinedIn_eq_of_legal hfault rest h.2]

end

end Manifest
