import Manifest.Proofs.Evaluation.Simulation
import Manifest.Proofs.Scope
import Mathlib.Logic.Relation

/-!
# The steps of an evaluation

Whatever manifests say, an evaluation only ever does one of a few things to its state.  They are
the constructors of `Step`, with what is known when they happen; the opening of a class, from its
report to the edge that contains it, is a single step, since nothing else is evaluated meanwhile.
A property of all states of all evaluations is proved by looking at these steps alone.

## Main definitions

* `Step` — one change of the state of an evaluation.
* `Reachable` — the states that steps lead to from the start of an evaluation.
* `EvalState.Orderly` — what is true of the classes on the way in every reachable state.

## Main results

* `Reachable.orderly` — in a reachable state, a class whose inherited class is being evaluated has
  no scope, and a class was entered at most once.
-/

namespace Manifest

open Evaluation

theorem Evaluation.lt_size_of_openClass {c : ClassDefinition} {given : Table Value}
    {parent declaring scope : ScopeId} {location : Location} {s s' : EvalState}
    (h : openClass c given parent declaring location s = .ok scope s') :
    scope < s'.scopes.size := by
  obtain ⟨rfl, hp⟩ := openClass_eq_ok h
  obtain ⟨c', c'', -, -, rfl⟩ := place_eq_ok hp
  exact s.scopes.next_lt_size_child parent c.name (.ofClass c.name)

/-- One change of the state of an evaluation. -/
inductive Step (setting : Setting) : EvalState → EvalState → Prop
  /-- Something is reported, but no class. -/
  | report {s : EvalState} {e : Event} (quiet : ¬ e.IsClassEntered) :
    Step setting s { s with events := s.events ++ [e] }
  /-- A variable is set. -/
  | setVariable {s : EvalState} {scope : ScopeId} {name : String} {value : Value}
    {location : Location} {scopes : ScopeArena}
    (set : s.scopes.setVariable scope name value location = .ok scopes) :
    Step setting s { s with scopes := scopes }
  /-- An edge is recorded that says nothing about containment. -/
  | relate {s : EvalState} {r : Relationship} (kind : r.kind ≠ .contains) :
    Step setting s { s with relationships := s.relationships ++ [r] }
  /-- A resource is added, which the owner of a scope contains. -/
  | place {s : EvalState} {scope : ScopeId} {r : Resource} {c c' : Catalog}
    (add : s.catalog.addResource r = .ok c)
    (contain : c.addEdge ⟨s.scopes.owner scope, r.reference, .contains⟩ = .ok c') :
    Step setting s { s with catalog := c' }
  /-- A scope is opened for a resource that is in the catalog. -/
  | openScope {s : EvalState} {parent : ScopeId} {space : String} {owner : Reference}
    (listed : owner ∈ s.catalog.references) :
    Step setting s { s with scopes := s.scopes.child parent space owner }
  /-- A class turns to the class that it inherits from. -/
  | ascend {s : EvalState} {c : ClassDefinition} (defined : setting.collection.Defines c)
    (inherits : c.parent ≠ none) (new : s.classScopes.get? c.name = none)
    (free : c.name ∉ s.inheriting) :
    Step setting s { s with inheriting := c.name :: s.inheriting }
  /-- The inherited class is evaluated. -/
  | descend {s : EvalState} {name : String} {rest : List String}
    (top : s.inheriting = name :: rest) :
    Step setting s { s with inheriting := rest }
  /-- A class gets its scope and its resource. -/
  | openClass {s : EvalState} {cls : ClassDefinition} {given : Table Value}
    {parent declaring : ScopeId} {location : Location} {c c' : Catalog}
    (defined : setting.collection.Defines cls) (new : s.classScopes.get? cls.name = none)
    (free : cls.name ∉ s.inheriting) (declared : declaring < s.scopes.size)
    (add : s.catalog.addResource (classResource cls given s.scopes.next location) = .ok c)
    (contain : c.addEdge ⟨s.scopes.owner declaring, .ofClass cls.name, .contains⟩ = .ok c') :
    Step setting s { s.opened cls parent with catalog := c' }

/-- Any number of steps. -/
abbrev Steps (setting : Setting) : EvalState → EvalState → Prop :=
  Relation.ReflTransGen (Step setting)

/-- The states that steps lead to from the start. -/
def Reachable (setting : Setting) (s : EvalState) : Prop :=
  Steps setting (EvalState.start setting) s

namespace Reachable

variable {setting : Setting} {s s' : EvalState}

theorem start (setting : Setting) : Reachable setting (EvalState.start setting) :=
  Relation.ReflTransGen.refl

theorem tail (h : Reachable setting s) (hs : Step setting s s') : Reachable setting s' :=
  Relation.ReflTransGen.tail h hs

theorem trans (h : Reachable setting s) (hs : Steps setting s s') : Reachable setting s' :=
  Relation.ReflTransGen.trans h hs

/-- What holds at the start and is kept by every step holds in every reachable state. -/
theorem invariant {P : EvalState → Prop} (h : Reachable setting s)
    (hstart : P (EvalState.start setting))
    (hstep : ∀ s s', P s → Step setting s s' → P s') : P s := by
  induction h with
  | refl => exact hstart
  | tail _ hs ih => exact hstep _ _ ih hs

end Reachable

theorem Step.size_le {setting : Setting} {s s' : EvalState} (h : Step setting s s') :
    s.scopes.size ≤ s'.scopes.size := by
  cases h with
  | setVariable set => exact Nat.le_of_eq (ScopeArena.size_setVariable set).symm
  | openScope listed => rw [ScopeArena.size_child]; exact Nat.le_succ _
  | openClass => rw [EvalState.opened, ScopeArena.size_child]; exact Nat.le_succ _
  | _ => exact Nat.le_refl _

/-- Scopes stay. -/
theorem Steps.size_le {setting : Setting} {s s' : EvalState} (h : Steps setting s s') :
    s.scopes.size ≤ s'.scopes.size := by
  induction h with
  | refl => exact Nat.le_refl _
  | tail _ hs ih => exact Nat.le_trans ih hs.size_le

theorem Step.space_eq {setting : Setting} {s s' : EvalState} (h : Step setting s s')
    {scope : ScopeId} (hscope : scope < s.scopes.size) :
    s'.scopes.space scope = s.scopes.space scope := by
  cases h with
  | setVariable set => exact ScopeArena.space_setVariable set scope
  | openScope listed => exact congrArg Scope.space (ScopeArena.get_child_of_lt hscope _ _ _)
  | openClass => exact congrArg Scope.space (ScopeArena.get_child_of_lt hscope _ _ _)
  | _ => rfl

/-- A scope looks for names where it always did. -/
theorem Steps.space_eq {setting : Setting} {s s' : EvalState} (h : Steps setting s s')
    {scope : ScopeId} (hscope : scope < s.scopes.size) :
    s'.scopes.space scope = s.scopes.space scope := by
  induction h with
  | refl => rfl
  | tail hs hstep ih =>
    exact (hstep.space_eq (Nat.lt_of_lt_of_le hscope (Steps.size_le hs))).trans ih

/-! ### Classes on the way -/

namespace EvalState

/-- How often a class was entered so far. -/
def timesEntered (s : EvalState) (name : String) : Nat := s.events.count (.classEntered name)

/-- No class was entered twice. -/
def EntersOnce (s : EvalState) : Prop := ∀ name, s.timesEntered name ≤ 1

/-- What is true of the classes on the way. -/
structure Orderly (setting : Setting) (s : EvalState) : Prop where
  /-- Only classes that inherit wait for the class that they inherit from. -/
  inherits : ∀ name ∈ s.inheriting,
    ∃ c, setting.collection.Defines c ∧ c.name = name ∧ c.parent ≠ none
  /-- A class that waits has no scope yet. -/
  waits : ∀ name ∈ s.inheriting, s.classScopes.get? name = none
  /-- A class is entered when it gets its scope. -/
  entered : ∀ name, s.classScopes.get? name = none → s.timesEntered name = 0
  entersOnce : s.EntersOnce

theorem timesEntered_report {s : EvalState} {e : Event} (quiet : ¬ e.IsClassEntered)
    (name : String) :
    EvalState.timesEntered { s with events := s.events ++ [e] } name = s.timesEntered name := by
  have hne : e ≠ .classEntered name := fun h => quiet ⟨name, h⟩
  simp [timesEntered, List.count_append, hne]

theorem timesEntered_enter {s s' : EvalState} {cls : String}
    (h : s'.events = s.events ++ [.classEntered cls]) (name : String) :
    s'.timesEntered name = s.timesEntered name + if name = cls then 1 else 0 := by
  by_cases hname : name = cls
  · simp [timesEntered, h, List.count_append, hname]
  · simp [timesEntered, h, List.count_append, hname, Ne.symm hname]

/-- Entering a class for the first time enters no class twice. -/
theorem Orderly.entersOnce_enter {setting : Setting} {s s' : EvalState} (hs : s.Orderly setting)
    {cls : String} (new : s.classScopes.get? cls = none)
    (h : s'.events = s.events ++ [.classEntered cls]) : s'.EntersOnce := by
  intro name
  rw [timesEntered_enter h]
  by_cases hname : name = cls
  · have hzero : s.timesEntered name = 0 := hs.entered name (hname ▸ new)
    rw [if_pos hname]
    omega
  · rw [if_neg hname]
    exact hs.entersOnce name

theorem orderly_start (setting : Setting) : (EvalState.start setting).Orderly setting where
  inherits := fun _ h => by cases h
  waits := fun _ h => by cases h
  entered := fun _ _ => rfl
  entersOnce := fun _ => Nat.zero_le 1

theorem Orderly.step {setting : Setting} {s s' : EvalState} (h : s.Orderly setting)
    (hs : Step setting s s') : s'.Orderly setting := by
  cases hs with
  | report quiet =>
    refine ⟨h.inherits, h.waits, fun name hname => ?_, fun name => ?_⟩
    · rw [timesEntered_report quiet]
      exact h.entered name hname
    · rw [timesEntered_report quiet]
      exact h.entersOnce name
  | setVariable set => exact ⟨h.inherits, h.waits, h.entered, h.entersOnce⟩
  | relate kind => exact ⟨h.inherits, h.waits, h.entered, h.entersOnce⟩
  | place add contain => exact ⟨h.inherits, h.waits, h.entered, h.entersOnce⟩
  | openScope listed => exact ⟨h.inherits, h.waits, h.entered, h.entersOnce⟩
  | ascend defined inherits new free =>
    refine ⟨fun name hname => ?_, fun name hname => ?_, h.entered, h.entersOnce⟩
    · rcases List.mem_cons.mp hname with rfl | hname
      · exact ⟨_, defined, rfl, inherits⟩
      · exact h.inherits name hname
    · rcases List.mem_cons.mp hname with rfl | hname
      · exact new
      · exact h.waits name hname
  | descend top =>
    -- Fewer classes wait, and nothing else has changed.
    have hmem : ∀ name ∈ _, name ∈ s.inheriting :=
      fun name hname => top ▸ List.mem_cons_of_mem _ hname
    exact ⟨fun name hname => h.inherits name (hmem name hname),
      fun name hname => h.waits name (hmem name hname), h.entered, h.entersOnce⟩
  | @openClass cls given parent declaring location c c' defined new free declared add contain =>
    refine ⟨h.inherits, fun name hname => ?_, fun name hname => ?_,
      h.entersOnce_enter new rfl⟩
    · -- Here it matters that a class that waits is never opened.
      have hne : name ≠ cls.name := fun he => free (by rwa [he] at hname)
      rw [EvalState.opened, Table.get?_insert, if_neg hne]
      exact h.waits name hname
    · rw [EvalState.opened, Table.get?_insert] at hname
      split at hname
      · cases hname
      · next hne =>
        have hreport : (s.opened cls parent).events = s.events ++ [.classEntered cls.name] := rfl
        refine (timesEntered_enter hreport name).trans ?_
        rw [if_neg hne]
        exact h.entered name hname

end EvalState

theorem Reachable.orderly {setting : Setting} {s : EvalState} (h : Reachable setting s) :
    s.Orderly setting :=
  h.invariant (EvalState.orderly_start setting) fun _ _ => EvalState.Orderly.step

end Manifest
