import Manifest.Proofs.Evaluation.ClassesOnce
import Mathlib.Data.List.Count

/-!
# How much room an evaluation needs

Bodies are entered within each other.  A class that is entered is from then on evaluated, or waits
for the class that it inherits from, and is not entered again; a define can only lead to defines
below it, if none of them declares an instance of itself.  So what is left to be entered from some
place is bounded by the classes that are free and by the rank of the define there.

## Main definitions

* `Collection.Instantiates`, `Collection.InstancesEnd` — defines whose bodies declare instances.
* `Collection.rank` — how many defines a define leads to.
* `Setting.free` — how many classes are neither evaluated nor wait.
* `Setting.room` — how often bodies can still be entered within each other.

## Main results

* `Collection.rank_lt` — a define leads to more defines than the ones that its body declares.
* `Setting.free_ascend_lt`, `Setting.free_openClass_lt` — a class that is entered is free no more.
-/

namespace Manifest

open Evaluation

/-- Of two properties of which one implies the other, the weaker one is met more often, if it is met
where the other one fails. -/
theorem countP_lt_countP {α : Type} {p q : α → Bool} {as : List α}
    (himp : ∀ a ∈ as, p a = true → q a = true) {a : α} (ha : a ∈ as) (hq : q a = true)
    (hp : p a = false) : as.countP p < as.countP q := by
  have hfilter : (as.filter q).countP p < (as.filter q).length :=
    List.countP_lt_length_iff.mpr ⟨a, List.mem_filter.mpr ⟨ha, hq⟩, by simp [hp]⟩
  rw [← List.countP_eq_length_filter, List.countP_filter] at hfilter
  refine Nat.lt_of_le_of_lt (List.countP_mono_left fun b hb hpb => ?_) hfilter
  simp [hpb, himp b hb hpb]

/-! ### Defines that declare instances -/

namespace Collection

/-- The body of a define declares an instance of another one, in some branch at least. -/
def Instantiates (collection : Collection) (d e : DefineDefinition) : Prop :=
  ∃ name ∈ typeNamesIn d.body, collection.findDefine? name d.name = some e

/-- No define declares an instance of itself, directly or through the bodies of other defines. -/
def InstancesEnd (collection : Collection) : Prop :=
  ∀ d, collection.HasDefine d → ¬ Relation.TransGen collection.Instantiates d d

/-- The classes of a collection. -/
def allClasses (collection : Collection) : List ClassDefinition :=
  collection.definitions.values.filterMap Definition.asClass?

/-- The defines of a collection. -/
def allDefines (collection : Collection) : List DefineDefinition :=
  collection.definitions.values.filterMap Definition.asDefine?

open Classical in
/-- How many defines a define leads to. -/
noncomputable def rank (collection : Collection) (d : DefineDefinition) : Nat :=
  collection.allDefines.countP fun e => decide (Relation.TransGen collection.Instantiates d e)

variable {collection : Collection} {d e : DefineDefinition} {c : ClassDefinition}

theorem Defines.mem_allClasses (h : collection.Defines c) : c ∈ collection.allClasses :=
  List.mem_filterMap.mpr ⟨.ofClass c, List.mem_map_of_mem (Table.mem_of_get? h), rfl⟩

theorem HasDefine.mem_allDefines (h : collection.HasDefine d) : d ∈ collection.allDefines :=
  List.mem_filterMap.mpr ⟨.ofDefine d, List.mem_map_of_mem (Table.mem_of_get? h), rfl⟩

theorem Instantiates.hasDefine (h : collection.Instantiates d e) : collection.HasDefine e := by
  obtain ⟨name, -, hfound⟩ := h
  exact hasDefine_of_findDefine? hfound

open Classical in
/-- A define leads to more defines than the ones that its body declares. -/
theorem rank_lt (hend : collection.InstancesEnd) (h : collection.Instantiates d e) :
    collection.rank e < collection.rank d := by
  refine countP_lt_countP (fun x _ hx => ?_) h.hasDefine.mem_allDefines ?_ ?_
  · exact decide_eq_true (.head h (of_decide_eq_true hx))
  · exact decide_eq_true (.single h)
  · exact decide_eq_false (hend e h.hasDefine)

/-- No define leads to all defines. -/
theorem rank_lt_length (hend : collection.InstancesEnd) (h : collection.HasDefine d) :
    collection.rank d < collection.allDefines.length :=
  List.countP_lt_length_iff.mpr ⟨d, h.mem_allDefines, by simpa using hend d h⟩

end Collection

/-! ### Classes that are free -/

/-- A class is neither evaluated nor waits for the class that it inherits from. -/
def EvalState.isFree (s : EvalState) (c : ClassDefinition) : Bool :=
  (s.classScopes.get? c.name).isNone && !s.inheriting.contains c.name

namespace Setting

/-- How many classes are free. -/
def free (setting : Setting) (s : EvalState) : Nat := setting.collection.allClasses.countP s.isFree

/-- How often bodies can still be entered within each other, where a body may only declare defines
up to a rank. -/
def room (setting : Setting) (s : EvalState) (rank : Nat) : Nat :=
  setting.free s * (setting.collection.allDefines.length + 1) + rank + 1

variable {setting : Setting} {s s' : EvalState} {c : ClassDefinition} {rank : Nat}

theorem isFree_of_steps (hs : Steps setting s s') (hi : s'.inheriting = s.inheriting)
    (h : s'.isFree c = true) : s.isFree c = true := by
  rw [EvalState.isFree, Bool.and_eq_true] at h ⊢
  refine ⟨?_, hi ▸ h.2⟩
  cases hscope : s.classScopes.get? c.name with
  | none => rfl
  | some scope =>
    rw [hs.classScopes hscope] at h
    exact absurd h.1 Bool.false_ne_true

/-- No class gets free. -/
theorem free_le_of_steps (hs : Steps setting s s') (hi : s'.inheriting = s.inheriting) :
    setting.free s' ≤ setting.free s :=
  List.countP_mono_left fun _ _ => isFree_of_steps hs hi

theorem room_le_of_steps (hs : Steps setting s s') (hi : s'.inheriting = s.inheriting) :
    setting.room s' rank ≤ setting.room s rank := by
  have := Nat.mul_le_mul_right (setting.collection.allDefines.length + 1)
    (free_le_of_steps hs hi)
  unfold room
  omega

/-- A class that turns to the class that it inherits from is free no more. -/
theorem free_ascend_lt (hc : setting.collection.Defines c) (h : s.isFree c = true) :
    setting.free { s with inheriting := c.name :: s.inheriting } < setting.free s := by
  refine countP_lt_countP (fun d _ hd => ?_) hc.mem_allClasses h ?_
  · rw [EvalState.isFree, List.contains_cons, Bool.not_or, Bool.and_eq_true,
      Bool.and_eq_true] at hd
    rw [EvalState.isFree, Bool.and_eq_true]
    exact ⟨hd.1, hd.2.2⟩
  · simp [EvalState.isFree]

/-- A class that gets its scope is free no more. -/
theorem free_openClass_lt (hc : setting.collection.Defines c) (h : s.isFree c = true)
    (hs : Steps setting s s') (hi : s'.inheriting = s.inheriting)
    (hscope : (s'.classScopes.get? c.name).isSome) : setting.free s' < setting.free s := by
  refine countP_lt_countP (fun d _ => isFree_of_steps hs hi) hc.mem_allClasses h ?_
  rw [EvalState.isFree, Option.isNone_eq_false_iff.mpr hscope]
  rfl

/-- What is left of the room within a class that was free. -/
theorem room_le_of_free_lt {limit : Nat} (h : setting.free s' < setting.free s)
    (hroom : setting.room s rank ≤ limit + 1) :
    setting.room s' setting.collection.allDefines.length ≤ limit := by
  have := Nat.mul_le_mul_right (setting.collection.allDefines.length + 1) (Nat.succ_le_of_lt h)
  unfold room at hroom ⊢
  rw [Nat.succ_mul] at this
  omega

end Setting

end Manifest
