import Manifest.Proofs.Evaluation.ClassBodies
import Manifest.Proofs.Evaluation.Room

/-!
# Classes that are said to inherit from themselves

A class is refused while it waits for the class that it inherits from, and the error says that it
inherits from itself.  A class that does so is refused indeed, whenever it is evaluated: following
the classes that it inherits from one meets a class that waits, since none of them can have a scope.
But a class may also be met again from the body of one of its ancestors, which includes it, and is
refused then as well.  And a class `main` counts as evaluated from the start, so that nobody follows
the classes that it inherits from.

## Main definitions

* `Collection.Loops` — a class whose ancestors run into a loop.
* `EvalState.Detours` — a class waits while an ancestor of it has its scope.
* `EvalState.Grounded` — classes have their scopes after the classes that they inherit from.

## Main results

* `exists_of_circularInheritance` — which class is said to inherit from itself.
* `grounded_of_executeAll`, `grounded_of_program` — evaluations leave states that are grounded.
* `circular_of_loops` — a class whose ancestors run into a loop is refused.
* `circular_inheritance` — all of it.
-/

namespace Manifest

open Evaluation

variable {setting : Setting} {s s' : EvalState} {c parent : ClassDefinition} {id : ScopeId}
  {limit : Nat}

/-! ### Ancestors -/

namespace Collection

variable {collection : Collection}

/-- Following the classes that a class inherits from, one runs into a loop. -/
def Loops (collection : Collection) (c : ClassDefinition) : Prop :=
  ∃ d, Relation.ReflTransGen collection.Inherits c d ∧ Relation.TransGen collection.Inherits d d

/-- Neither a class nor any class that it inherits from is called `main`. -/
def AvoidsMain (collection : Collection) (c : ClassDefinition) : Prop :=
  ∀ d, Relation.ReflTransGen collection.Inherits c d → d.name ≠ "main"

theorem Loops.exists_inherits (h : collection.Loops c) :
    ∃ parent, collection.Inherits c parent := by
  obtain ⟨d, hcd, hdd⟩ := h
  obtain ⟨parent, hparent, -⟩ := Relation.TransGen.head'_iff.mp (.trans_right hcd hdd)
  exact ⟨parent, hparent⟩

/-- The loop is met from the class that the class inherits from as well. -/
theorem Loops.of_inherits (h : collection.Loops c) (hparent : collection.Inherits c parent) :
    collection.Loops parent := by
  obtain ⟨d, hcd, hdd⟩ := h
  rcases hcd.cases_head with rfl | ⟨other, hother, hrest⟩
  · -- The class is on the loop itself.
    obtain ⟨other, hother, hrest⟩ := Relation.TransGen.head'_iff.mp hdd
    exact ⟨c, hparent.unique hother ▸ hrest, hdd⟩
  · exact ⟨d, hparent.unique hother ▸ hrest, hdd⟩

theorem AvoidsMain.of_inherits (h : collection.AvoidsMain c)
    (hparent : collection.Inherits c parent) : collection.AvoidsMain parent :=
  fun d hd => h d (hd.head hparent)

end Collection

/-! ### Which class is said to inherit from itself -/

namespace EvalState

/-- A class waits for the class that it inherits from, while one of its ancestors has a scope: the
body of that one has led back to it. -/
def Detours (s : EvalState) (setting : Setting) (c : ClassDefinition) : Prop :=
  c.name ∈ s.inheriting ∧ ∃ d, Relation.TransGen setting.collection.Inherits c d ∧
    (s.classScopes.get? d.name).isSome

/-- Every class that waits leads to a class, or one of its ancestors has a scope. -/
def LeadsTo (s : EvalState) (setting : Setting) (c : ClassDefinition) : Prop :=
  ∀ name ∈ s.inheriting, ∃ waiting, setting.collection.Defines waiting ∧ waiting.name = name ∧
    (Relation.TransGen setting.collection.Inherits waiting c ∨ s.Detours setting waiting)

/-- All classes that wait have ancestors with scopes. -/
def AllDetour (s : EvalState) (setting : Setting) : Prop :=
  ∀ name ∈ s.inheriting, ∃ waiting, setting.collection.Defines waiting ∧ waiting.name = name ∧
    s.Detours setting waiting

theorem Detours.of_steps (h : s.Detours setting c) (hs : Steps setting s s')
    (hi : s'.inheriting = s.inheriting) : s'.Detours setting c := by
  obtain ⟨hwaits, d, hd, hscope⟩ := h
  obtain ⟨id, hid⟩ := Option.isSome_iff_exists.mp hscope
  exact ⟨hi ▸ hwaits, d, hd, Option.isSome_iff_exists.mpr ⟨id, hs.classScopes hid⟩⟩

/-- The class that is refused leads back to itself, or one of two classes detours. -/
theorem LeadsTo.circular (h : s.LeadsTo setting c) (hc : setting.collection.Defines c)
    (hinherits : setting.collection.Inherits c parent) (hrefuses : s.Refuses c parent) :
    Relation.TransGen setting.collection.Inherits c c ∨
      ∃ p, (p = c ∨ setting.collection.Inherits c p) ∧ s.Detours setting p := by
  rcases hrefuses with hwaits | hname | hwaits
  · -- The class itself waits, and so it leads to itself unless it detours.
    obtain ⟨waiting, hwaiting, hname, hleads⟩ := h c.name hwaits
    obtain rfl := hwaiting.unique hc hname
    exact hleads.imp_right fun hdetours => ⟨waiting, .inl rfl, hdetours⟩
  · obtain rfl := hinherits.defines.unique hc hname
    exact .inl (.single hinherits)
  · -- The class that it inherits from waits, and one step more leads back.
    obtain ⟨waiting, hwaiting, hname, hleads⟩ := h parent.name hwaits
    obtain rfl := hwaiting.unique hinherits.defines hname
    exact hleads.imp (fun hleads => .head hinherits hleads)
      fun hdetours => ⟨waiting, .inr hinherits, hdetours⟩

end EvalState

/-- What a class must be to be said to inherit from itself. -/
def Blamed (setting : Setting) (s : EvalState) (name : String) (location : Location) : Prop :=
  ∃ c, setting.collection.Defines c ∧ c.name = name ∧ c.location = location ∧
    (Relation.TransGen setting.collection.Inherits c c ∨
      ∃ p, (p = c ∨ setting.collection.Inherits c p) ∧ s.Detours setting p)

/-- The watch on classes that are refused. -/
def refusalWatch (setting : Setting) : Watch setting where
  holds _ _ := True
  fails e s := ∀ name location, e = .circularInheritance name location →
    Blamed setting s name location
  still s := s.AllDetour setting
  ready c s := s.LeadsTo setting c
  trans := fun _ _ => trivial
  quiet := fun _ _ => trivial
  ordinary := fun _ hne name location he => absurd he (hne name location)
  stays := fun h hs hi name hname => by
    obtain ⟨waiting, hwaiting, hw, hdetours⟩ := h name (hi ▸ hname)
    exact ⟨waiting, hwaiting, hw, hdetours.of_steps hs hi⟩
  ready_of_still := fun h name hname => by
    obtain ⟨waiting, hwaiting, hw, hdetours⟩ := h name hname
    exact ⟨waiting, hwaiting, hw, .inr hdetours⟩
  ascends := by
    intro c parent s hc h hinherits name hname
    rcases List.mem_cons.mp hname with rfl | hname
    · exact ⟨c, hc, rfl, .inl (.single hinherits)⟩
    · obtain ⟨waiting, hwaiting, hw, hleads⟩ := h name hname
      exact ⟨waiting, hwaiting, hw, hleads.imp (·.tail hinherits)
        fun ⟨hwaits, hscope⟩ => ⟨List.mem_cons_of_mem _ hwaits, hscope⟩⟩
  circular := by
    intro c parent s hc h hinherits hrefuses name location he
    cases he
    exact ⟨c, hc, rfl, rfl, h.circular hc hinherits hrefuses⟩
  opens := by
    intro c given parent declaring id location s s₁ s₂ h hs hi hopen name hname
    obtain ⟨waiting, hwaiting, hw, hleads⟩ := h name (hi ▸ hname)
    refine ⟨waiting, hwaiting, hw, ?_⟩
    rcases hleads with hleads | hdetours
    · -- The class that is opened is an ancestor of the one that waits.
      refine ⟨hw ▸ hname, c, hleads, ?_⟩
      exact Option.isSome_iff_exists.mpr ⟨id, (hasScope_of_openClass hopen).2.1⟩
    · exact hdetours.of_steps hs hi
  evaluates := fun _ _ _ _ _ _ _ _ => trivial

/-- A class that is said to inherit from itself does so, or it or the class that it inherits from
waits while an ancestor has its scope. -/
theorem exists_of_circularInheritance {name : String} {location : Location}
    (h : program setting limit (EvalState.start setting) =
      .error (.circularInheritance name location) s) : Blamed setting s name location := by
  have hstart : (EvalState.start setting).AllDetour setting := fun _ hname => by cases hname
  have hheeds := (refusalWatch setting).heeds_program hstart limit
  rw [h] at hheeds
  exact hheeds name location rfl

/-! ### Classes after those that they inherit from -/

/-- Every class with a scope, except for `main`, has a scope after that of the class that it
inherits from. -/
def EvalState.Grounded (s : EvalState) (setting : Setting) : Prop :=
  ∀ c parent id, setting.collection.Defines c → c.name ≠ "main" →
    setting.collection.Inherits c parent → s.classScopes.get? c.name = some id →
    ∃ older < id, s.classScopes.get? parent.name = some older

theorem EvalState.grounded_start (setting : Setting) :
    (EvalState.start setting).Grounded setting := by
  intro c parent id _ hmain _ hid
  obtain ⟨hname, -⟩ | ⟨hne, -⟩ := (EvalState.scoped_start setting).space_eq c.name id hid
  · exact absurd hname hmain
  · exact absurd (Nat.lt_one_iff.mp ((EvalState.scoped_start setting).lt_size c.name id hid)) hne

/-- A class that is opened is the youngest one. -/
theorem EvalState.Grounded.openClass {given : Table Value} {around declaring : ScopeId}
    {location : Location} (h : s.Grounded setting) (hs : Reachable setting s)
    (hc : setting.collection.Defines c) (hinherited : s.HasInherited setting c)
    (hopen : openClass c given around declaring location s = .ok id s') : s'.Grounded setting := by
  have hnew := new_of_openClass hs hopen
  obtain ⟨rfl, hplace⟩ := openClass_eq_ok hopen
  obtain ⟨catalog, catalog', -, -, rfl⟩ := place_eq_ok hplace
  -- No scope is replaced, not even if the class inherited from itself.
  have hkept : ∀ {name older}, s.classScopes.get? name = some older →
      (s.classScopes.insert c.name s.scopes.next).get? name = some older := by
    intro name older hold
    have hne : name ≠ c.name := by
      rintro rfl
      rw [hnew] at hold
      cases hold
    rw [Table.get?_insert, if_neg hne]
    exact hold
  intro d parent id hd hmain hinherits hid
  change (s.classScopes.insert c.name s.scopes.next).get? d.name = some id at hid
  rw [Table.get?_insert] at hid
  split at hid
  · next hname =>
    -- The new scope has the largest number of all.
    cases hid
    obtain rfl := hd.unique hc hname
    obtain ⟨older, hold⟩ := Option.isSome_iff_exists.mp (hinherited parent hinherits)
    exact ⟨older, hs.scoped.lt_size parent.name older hold, hkept hold⟩
  · obtain ⟨older, hlt, hold⟩ := h d parent id hd hmain hinherits hid
    exact ⟨older, hlt, hkept hold⟩

/-- The watch on classes that are opened. -/
def groundWatch (setting : Setting) : Watch setting where
  holds s s' := s.Grounded setting → s'.Grounded setting
  fails _ _ := True
  still _ := True
  ready _ _ := True
  trans := fun h₁ h₂ h => h₂ (h₁ h)
  quiet := fun _ heq h c parent id => by
    rw [heq]
    exact h c parent id
  ordinary := fun _ _ => trivial
  stays := fun _ _ _ => trivial
  ready_of_still := fun _ => trivial
  ascends := fun _ _ _ => trivial
  circular := fun _ _ _ _ => trivial
  opens := fun _ _ _ _ => trivial
  evaluates := fun hc hs hinherited hopen _ _ _ hbody h =>
    hbody (h.openClass hs hc hinherited hopen)

section Executing

variable {scope : ScopeId} (hs : Reachable setting s) (hscope : scope < s.scopes.size)
  (hg : s.Grounded setting)
include hs hscope hg

theorem grounded_of_couples {α : Type} {m : Eval α} {a : α} (h : m s = .ok a s')
    (hm : ∀ e, Simulation ((groundWatch setting).coupling s e) setting setting
      (Evaluation.enter setting limit) (Evaluation.enter setting limit) scope →
      ((groundWatch setting).coupling s e).Couples m m) : s'.Grounded setting := by
  have hheeds := Watch.heeds_of_couples fun e => hm e ((groundWatch setting).simulation
    ((groundWatch setting).enters_enter limit) (entersByStep_enter setting limit) hs trivial hscope
    e)
  rw [h] at hheeds
  exact hheeds hg

/-- Executing statements leaves classes after those that they inherit from. -/
theorem grounded_of_executeAll {body : List Statement}
    (h : executeAll setting (Evaluation.enter setting limit) scope body s = .ok () s') :
    s'.Grounded setting :=
  grounded_of_couples hs hscope hg h fun _ sim => sim.executeAll body Coupling.permits_all

theorem grounded_of_evaluate {e : Expr} {v : Value}
    (h : evaluate setting (Evaluation.enter setting limit) scope e s = .ok v s') :
    s'.Grounded setting :=
  grounded_of_couples hs hscope hg h fun _ sim => sim.evaluate e

/-- The body of a class is executed in a state where this is so. -/
theorem grounded_of_opened {given : Table Value} {around : ScopeId} {location : Location}
    {s₁ s₂ : EvalState} (hc : setting.collection.Defines c)
    (hnew : s.classScopes.get? c.name = none)
    (hparent : parentScope setting (Evaluation.enter setting limit) c scope location s =
      .ok around s₁)
    (hopen : openClass c given around scope location s₁ = .ok id s₂) : s₂.Grounded setting := by
  have hsteps := entersByStep_enter setting limit
  have hheeds := Watch.heeds_parentScope ((groundWatch setting).enters_enter limit) hsteps hs hc
    hnew trivial hscope location
  obtain ⟨hends, -⟩ := endsByStep_parentScope hsteps hs hc hnew hscope location
  rw [hparent] at hheeds hends
  have hinherited := hasInherited_of_parentScope hs hc hnew hscope hparent
  exact (hheeds hg).openClass (hs.trans hends.1) hc hinherited hopen

end Executing

theorem grounded_of_program {catalog : Catalog}
    (h : program setting limit (EvalState.start setting) = .ok catalog s) :
    s.Grounded setting := by
  have hheeds := (groundWatch setting).heeds_program trivial limit
  rw [h] at hheeds
  exact hheeds (EvalState.grounded_start setting)

/-! ### Classes whose ancestors run into a loop -/

/-- No class has a scope whose ancestors run into a loop: each would have an older scope than the
one before. -/
theorem EvalState.Grounded.get?_eq_none (h : s.Grounded setting)
    (hc : setting.collection.Defines c) (hloops : setting.collection.Loops c)
    (hmain : setting.collection.AvoidsMain c) : s.classScopes.get? c.name = none := by
  cases hid : s.classScopes.get? c.name with
  | none => rfl
  | some id =>
    -- By induction on the age of the scope, for all classes that run into the loop.
    induction id using Nat.strong_induction_on generalizing c with
    | _ id ih =>
      obtain ⟨parent, hinherits⟩ := hloops.exists_inherits
      obtain ⟨older, hlt, hold⟩ := h c parent id hc (hmain c .refl) hinherits hid
      cases ih older hlt hinherits.defines (hloops.of_inherits hinherits)
        (hmain.of_inherits hinherits) hold

/-- A class whose ancestors run into a loop is refused, or one of its ancestors is. -/
theorem circular_of_loops (declaring : ScopeId) (location : Location) :
    ∀ (limit : Nat) (given : Option (Table Value)) {c : ClassDefinition} {s : EvalState},
      setting.collection.Defines c → setting.collection.Loops c →
      setting.collection.AvoidsMain c → s.Grounded setting → setting.free s < limit →
      ∃ d s', Relation.ReflTransGen setting.collection.Inherits c d ∧
        evaluateClass (Evaluation.enter setting limit) c given declaring location s =
          .error (.circularInheritance d.name d.location) s'
  | 0, _, _, _, _, _, _, _, hroom => absurd hroom (Nat.not_lt_zero _)
  | limit + 1, given, c, s, hc, hloops, hmain, hg, hroom => by
    have hnew := hg.get?_eq_none hc hloops hmain
    obtain ⟨parent, hinherits⟩ := hloops.exists_inherits
    have hevaluate : evaluateClass (Evaluation.enter setting (limit + 1)) c given declaring location
        s = enterClass setting (Evaluation.enter setting limit) c given declaring location s := by
      rw [evaluateClass_apply, hnew]
      rfl
    rw [hevaluate]
    by_cases hrefuses : s.Refuses c parent
    · refine ⟨c, s, .refl, ?_⟩
      rw [enterClass, bind_apply, parentScope_of_refuses hinherits hrefuses]
    · -- One class less is free while the next one is evaluated.
      have hwaits : c.name ∉ s.inheriting := fun hm => hrefuses (.inl hm)
      have hfree : s.isFree c = true := by simp [EvalState.isFree, hnew, hwaits]
      have hless := Setting.free_ascend_lt hc hfree
      obtain ⟨d, s', hd, hfails⟩ := circular_of_loops declaring location limit none
        (s := { s with inheriting := c.name :: s.inheriting }) hinherits.defines
        (hloops.of_inherits hinherits) (hmain.of_inherits hinherits) hg
        (Nat.lt_of_lt_of_le hless (Nat.lt_succ_iff.mp hroom))
      refine ⟨d, s', hd.head hinherits, ?_⟩
      rw [enterClass, bind_apply, parentScope_of_not_refuses hinherits hrefuses, hfails]

/-! ### Evaluations that refuse loops -/

/-- What evaluations do about classes that inherit from themselves. -/
structure RefusesLoops (setting : Setting) (limit : Nat) : Prop where
  /-- A class is said to inherit from itself only if it does so, or if a body has led back to it. -/
  blames : ∀ name location s,
    program setting limit (EvalState.start setting) =
      .error (.circularInheritance name location) s → Blamed setting s name location
  /-- Evaluating a class whose ancestors run into a loop fails, wherever it is asked for. -/
  refuses : ∀ s c given declaring location, s.Grounded setting → setting.collection.Defines c →
    setting.collection.Loops c → setting.collection.AvoidsMain c → setting.free s < limit →
    ∃ d s', Relation.ReflTransGen setting.collection.Inherits c d ∧
      evaluateClass (Evaluation.enter setting limit) c given declaring location s =
        .error (.circularInheritance d.name d.location) s'
  /-- For evaluations start with a state that is grounded, and they never leave such states: not by
  executing statements, not by evaluating expressions, and not by opening a class. -/
  starts : (EvalState.start setting).Grounded setting
  executes : ∀ scope body s s', Reachable setting s → scope < s.scopes.size →
    s.Grounded setting →
    executeAll setting (Evaluation.enter setting limit) scope body s = .ok () s' →
    s'.Grounded setting
  evaluates : ∀ scope e v s s', Reachable setting s → scope < s.scopes.size →
    s.Grounded setting →
    evaluate setting (Evaluation.enter setting limit) scope e s = .ok v s' → s'.Grounded setting
  opens : ∀ c given around scope id location s s₁ s₂, Reachable setting s →
    scope < s.scopes.size → s.Grounded setting → setting.collection.Defines c →
    s.classScopes.get? c.name = none →
    parentScope setting (Evaluation.enter setting limit) c scope location s = .ok around s₁ →
    openClass c given around scope location s₁ = .ok id s₂ → s₂.Grounded setting
  ends : ∀ catalog s, program setting limit (EvalState.start setting) = .ok catalog s →
    s.Grounded setting

/-- The error that a class inherits from itself is raised only for a class that does so or to which
a body of an ancestor has led back, and it is always raised when a class is evaluated whose
ancestors run into a loop, unless one of them is called `main`. -/
theorem circular_inheritance (setting : Setting) (limit : Nat) : RefusesLoops setting limit where
  blames _ _ _ h := exists_of_circularInheritance h
  refuses _ _ given declaring location hg hc hloops hmain hroom :=
    circular_of_loops declaring location limit given hc hloops hmain hg hroom
  starts := EvalState.grounded_start setting
  executes _ _ _ _ hs hscope hg h := grounded_of_executeAll hs hscope hg h
  evaluates _ _ _ _ _ hs hscope hg h := grounded_of_evaluate hs hscope hg h
  opens _ _ _ _ _ _ _ _ _ hs hscope hg hc hnew hparent hopen :=
    grounded_of_opened hs hscope hg hc hnew hparent hopen
  ends _ _ h := grounded_of_program h

/-! #### Classes that inherit from each other, and classes that only seem to -/

/-- A class leads not back to itself if the class that it inherits from inherits from none. -/
theorem Collection.not_transGen_inherits {collection : Collection}
    (h : collection.Inherits c parent) (hroot : parent.parent = none) :
    ¬ Relation.TransGen collection.Inherits c c := by
  intro hloop
  obtain ⟨other, hother, hrest⟩ := Relation.TransGen.head'_iff.mp hloop
  obtain rfl := h.unique hother
  have hnone : ∀ d, ¬ collection.Inherits parent d := by
    rintro d ⟨name, hname, -⟩
    rw [hroot] at hname
    cases hname
  rcases hrest.cases_head with rfl | ⟨d, hd, -⟩
  · exact hnone _ h
  · exact hnone d hd

namespace Sample

/-- The setting for a manifest. -/
def settingFor (text : String) : Setting := settingOf ((collectionOf text).toOption.getD .empty)

/-- Two classes that inherit from each other. -/
def eachOther : Setting :=
  settingFor "class a inherits b \x7b \x7d class b inherits a \x7b \x7d include a"

/-- A class that inherits from one whose body includes it. -/
def ledBack : Setting :=
  settingFor "class a inherits b \x7b \x7d class b \x7b include a \x7d include a"

/-- A class `main` that inherits from itself. -/
def ownParent : Setting := settingFor "class main inherits main \x7b \x7d include main"

/-- What a computation fails with. -/
def error? {α : Type} : EStateM.Result EvalError EvalState α → Option EvalError
  | .ok _ _ => none
  | .error e _ => some e

theorem eq_error_of_error? {α : Type} {r : EStateM.Result EvalError EvalState α} {e : EvalError}
    (h : error? r = some e) : r = .error e (finalState r) := by
  cases r with
  | ok a s => cases h
  | error f s =>
    cases h
    rfl

/-- A class that is found at the top. -/
theorem exists_class {collection : Collection} {name : String} {parent : Option String}
    (h : (collection.findClass? name "").map (fun c => (c.name, c.parent)) =
      some (name, parent)) :
    ∃ c, collection.findClass? name "" = some c ∧ collection.Defines c ∧ c.name = name ∧
      c.parent = parent := by
  obtain ⟨c, hfind, heq⟩ := Option.map_eq_some_iff.mp h
  obtain ⟨hname, hparent⟩ := Prod.mk.inj heq
  exact ⟨c, hfind, Collection.defines_of_findClass? hfind, hname, hparent⟩

/-- A class of a single segment finds the class that it inherits from at the top. -/
theorem inherits_of_findClass? {collection : Collection} {name : String}
    (htop : Name.parent c.name = "") (hname : c.parent = some name)
    (hfind : collection.findClass? name "" = some parent) : collection.Inherits c parent :=
  ⟨name, hname, htop ▸ hfind⟩

end Sample

/-- Whichever of the two classes is evaluated, one of them is refused. -/
theorem circular_inheritance_sample :
    ∃ a, (EvalState.start Sample.eachOther).Grounded Sample.eachOther ∧
      Sample.eachOther.collection.Defines a ∧ Sample.eachOther.collection.Loops a ∧
      Sample.eachOther.collection.AvoidsMain a ∧
      Sample.eachOther.free (EvalState.start Sample.eachOther) < 3 ∧
      ∃ d s', Relation.ReflTransGen Sample.eachOther.collection.Inherits a d ∧
        evaluateClass (Evaluation.enter Sample.eachOther 3) a none ScopeArena.top Sample.first
            (EvalState.start Sample.eachOther) =
          .error (.circularInheritance d.name d.location) s' := by
  let collection := Sample.eachOther.collection
  have hclassa : (collection.findClass? "a" "").map (fun c => (c.name, c.parent)) =
      some ("a", some "b") := by decide +kernel
  have hclassb : (collection.findClass? "b" "").map (fun c => (c.name, c.parent)) =
      some ("b", some "a") := by decide +kernel
  have htop : Name.parent "a" = "" ∧ Name.parent "b" = "" := by decide +kernel
  obtain ⟨a, hfinda, ha, hnamea, hparenta⟩ := Sample.exists_class hclassa
  obtain ⟨b, hfindb, -, hnameb, hparentb⟩ := Sample.exists_class hclassb
  have hab : collection.Inherits a b :=
    Sample.inherits_of_findClass? (hnamea ▸ htop.1) hparenta hfindb
  have hba : collection.Inherits b a :=
    Sample.inherits_of_findClass? (hnameb ▸ htop.2) hparentb hfinda
  have hloops : collection.Loops a := ⟨a, .refl, .head hab (.single hba)⟩
  have hmain : collection.AvoidsMain a := by
    intro d hd
    have hchain : d = a ∨ d = b := by
      induction hd with
      | refl => exact .inl rfl
      | tail _ hstep ih =>
        rcases ih with rfl | rfl
        · exact .inr (hstep.unique hab)
        · exact .inl (hstep.unique hba)
    rcases hchain with rfl | rfl
    · exact hnamea ▸ by decide
    · exact hnameb ▸ by decide
  have hroom : Sample.eachOther.free (EvalState.start Sample.eachOther) < 3 := by decide +kernel
  have hrefuses := circular_inheritance Sample.eachOther 3
  exact ⟨a, hrefuses.starts, ha, hloops, hmain, hroom, hrefuses.refuses (EvalState.start _) a none
    ScopeArena.top Sample.first hrefuses.starts ha hloops hmain hroom⟩

/-- A class is said to inherit from itself that does not, and a class `main` that does is evaluated
all the same. -/
theorem inheritance_misjudged :
    (∃ c s, Sample.ledBack.collection.Defines c ∧
      program Sample.ledBack 3 (EvalState.start Sample.ledBack) =
        .error (.circularInheritance c.name c.location) s ∧
      ¬ Relation.TransGen Sample.ledBack.collection.Inherits c c) ∧
    ∃ c catalog id, Sample.ownParent.collection.Defines c ∧ Sample.ownParent.collection.Loops c ∧
      evaluateClass (Evaluation.enter Sample.ownParent 3) c none ScopeArena.top Sample.first
        (EvalState.start Sample.ownParent) = .ok id (EvalState.start Sample.ownParent) ∧
      program Sample.ownParent 3 (EvalState.start Sample.ownParent) =
        .ok catalog (EvalState.start Sample.ownParent) := by
  constructor
  · have hclassa : (Sample.ledBack.collection.findClass? "a" "").map (fun c => (c.name, c.parent)) =
        some ("a", some "b") := by decide +kernel
    have hclassb : (Sample.ledBack.collection.findClass? "b" "").map (fun c => (c.name, c.parent)) =
        some ("b", none) := by decide +kernel
    have hplace : (Sample.ledBack.collection.findClass? "a" "").map (fun c => c.location) =
        some Sample.first := by decide +kernel
    have htop : Name.parent "a" = "" := by decide +kernel
    have herror : Sample.error? (program Sample.ledBack 3 (EvalState.start Sample.ledBack)) =
        some (.circularInheritance "a" Sample.first) := by decide +kernel
    obtain ⟨a, hfinda, ha, hnamea, hparenta⟩ := Sample.exists_class hclassa
    obtain ⟨b, hfindb, -, hnameb, hparentb⟩ := Sample.exists_class hclassb
    rw [hfinda] at hplace
    rw [← hnamea, ← Option.some.inj hplace] at herror
    exact ⟨a, _, ha, Sample.eq_error_of_error? herror, Collection.not_transGen_inherits
      (Sample.inherits_of_findClass? (hnamea ▸ htop) hparenta hfindb) hparentb⟩
  · have hclass : (Sample.ownParent.collection.findClass? "main" "").map
        (fun c => (c.name, c.parent)) = some ("main", some "main") := by decide +kernel
    have htop : Name.parent "main" = "" := by decide +kernel
    have hstate : Sample.finalState
        (program Sample.ownParent 3 (EvalState.start Sample.ownParent)) =
          EvalState.start Sample.ownParent := by decide +kernel
    obtain ⟨catalog, hprogram⟩ := Sample.exists_of_answer?
      (r := program Sample.ownParent 3 (EvalState.start Sample.ownParent)) (by decide +kernel)
    rw [hstate] at hprogram
    obtain ⟨c, hfind, hc, hname, hparent⟩ := Sample.exists_class hclass
    have hinherits := Sample.inherits_of_findClass? (hname ▸ htop) hparent hfind
    refine ⟨c, catalog, ScopeArena.top, hc, ⟨c, .refl, .single hinherits⟩, ?_, hprogram⟩
    rw [evaluateClass_apply, hname, get?_main (.start _)]
    rfl

end Manifest
