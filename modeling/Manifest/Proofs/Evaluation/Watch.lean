import Manifest.Proofs.Evaluation.ClassesOnce
import Manifest.Proofs.Evaluation.RegistryGrowth

/-!
# Watching classes on the way

What is said about classes that inherit from each other depends on where they are entered: from the
statements of a body, or because another class waits for them.  A watch says what is true at either
place and what is to be shown of a class that is refused or that has been evaluated; everything else
an evaluation does is seen to by the watch itself.  The walk through bodies within bodies, down to
the limit, is done here once.

## Main definitions

* `Collection.Inherits` — a class inherits from another one.
* `Watch` — what is watched, with all that has to be shown for it.
* `Watch.Heeds` — an outcome that is as the watch says.

## Main results

* `Watch.enters_enter` — classes and defines are entered as the watch says.
* `Watch.heeds_executeSite`, `Watch.heeds_program` — so are whole evaluations.
-/

namespace Manifest

open Evaluation

variable {α β : Type} {setting : Setting} {base s s' : EvalState} {c d parent : ClassDefinition}

/-! ### Inheritance -/

namespace Collection

variable {collection : Collection}

/-- A class inherits from another one: the name that it inherits from stands for that one in the
namespace around it. -/
def Inherits (collection : Collection) (c parent : ClassDefinition) : Prop :=
  ∃ name, c.parent = some name ∧ collection.findClass? name (Name.parent c.name) = some parent

theorem Inherits.defines (h : collection.Inherits c parent) : collection.Defines parent := by
  obtain ⟨name, -, hfind⟩ := h
  exact defines_of_findClass? hfind

/-- A class inherits from one class at most. -/
theorem Inherits.unique (h : collection.Inherits c parent) (h' : collection.Inherits c d) :
    parent = d := by
  obtain ⟨name, hname, hfind⟩ := h
  obtain ⟨name', hname', hfind'⟩ := h'
  rw [hname, Option.some.injEq] at hname'
  rw [hname', hfind', Option.some.injEq] at hfind
  exact hfind.symm

end Collection

/-- A class is refused because it or the class that it inherits from waits. -/
def EvalState.Refuses (s : EvalState) (c parent : ClassDefinition) : Prop :=
  c.name ∈ s.inheriting ∨ parent.name = c.name ∨ parent.name ∈ s.inheriting

section Ascending

variable {inner : Enter} {declaring id : ScopeId} {location : Location}

theorem parentScope_of_refuses (hinherits : setting.collection.Inherits c parent)
    (h : s.Refuses c parent) :
    parentScope setting inner c declaring location s =
      .error (.circularInheritance c.name c.location) s := by
  obtain ⟨name, hname, hfind⟩ := hinherits
  have hguard : (s.inheriting.contains c.name || parent.name == c.name ||
      s.inheriting.contains parent.name) = true := by
    simpa [EvalState.Refuses, or_assoc] using h
  simp only [parentScope, hname, enterParent_apply, hfind, if_pos hguard]

/-- A class that is not refused waits while the class that it inherits from is evaluated. -/
theorem parentScope_of_not_refuses (hinherits : setting.collection.Inherits c parent)
    (h : ¬ s.Refuses c parent) :
    parentScope setting inner c declaring location s =
      match evaluateClass inner parent none declaring location
        { s with inheriting := c.name :: s.inheriting } with
      | .ok scope s' => .ok scope { s' with inheriting := s'.inheriting.erase c.name }
      | .error e s' => .error e s' := by
  obtain ⟨name, hname, hfind⟩ := hinherits
  have hguard : ¬ (s.inheriting.contains c.name || parent.name == c.name ||
      s.inheriting.contains parent.name) = true := by
    simpa [EvalState.Refuses, or_assoc] using h
  have happly := enterParent_apply setting inner c name declaring location s
  simp only [hfind, if_neg hguard] at happly
  rw [parentScope, hname]
  refine happly.trans ?_
  cases evaluateClass inner parent none declaring location _ <;> rfl

/-- The class that a class inherits from has a scope, if there is one. -/
def EvalState.HasInherited (s : EvalState) (setting : Setting) (c : ClassDefinition) : Prop :=
  ∀ parent, setting.collection.Inherits c parent → (s.classScopes.get? parent.name).isSome

theorem step_ascend (hc : setting.collection.Defines c)
    (hinherits : setting.collection.Inherits c parent) (hnew : s.classScopes.get? c.name = none)
    (h : ¬ s.Refuses c parent) :
    Step setting s { s with inheriting := c.name :: s.inheriting } := by
  obtain ⟨name, hname, -⟩ := hinherits
  exact .ascend hc (by simp [hname]) hnew fun hm => h (.inl hm)

/-- The class that a class inherits from is evaluated first. -/
theorem hasInherited_of_parentScope {limit : Nat} (hs : Reachable setting s)
    (hc : setting.collection.Defines c) (hnew : s.classScopes.get? c.name = none)
    (hd : declaring < s.scopes.size)
    (h : parentScope setting (Evaluation.enter setting limit) c declaring location s = .ok id s') :
    s'.HasInherited setting c := by
  intro parent hinherits
  by_cases hrefuses : s.Refuses c parent
  · rw [parentScope_of_refuses hinherits hrefuses] at h
    cases h
  · have hup := step_ascend hc hinherits hnew hrefuses
    rw [parentScope_of_not_refuses hinherits hrefuses] at h
    cases hr : evaluateClass (Evaluation.enter setting limit) parent none declaring location
        { s with inheriting := c.name :: s.inheriting } with
    | error e s₁ =>
      rw [hr] at h
      cases h
    | ok scope s₁ =>
      rw [hr] at h
      cases h
      exact (isSome_of_evaluateClass (hs.tail hup) hinherits.defines hd hr).2

end Ascending

/-! ### Watches -/

/-- What is watched while an evaluation goes by steps. -/
structure Watch (setting : Setting) where
  /-- What is true of a later state in view of an earlier one. -/
  holds : EvalState → EvalState → Prop
  /-- What is true of a failure and the state that it leaves. -/
  fails : EvalError → EvalState → Prop
  /-- Where statements are executed. -/
  still : EvalState → Prop
  /-- Where a class is entered. -/
  ready : ClassDefinition → EvalState → Prop
  trans {s₁ s₂ s₃ : EvalState} : holds s₁ s₂ → holds s₂ s₃ → holds s₁ s₃
  /-- Where no class gets a scope there is nothing to be seen. -/
  quiet {s s' : EvalState} : Steps setting s s' → s'.classScopes = s.classScopes → holds s s'
  /-- No other error is watched than that a class inherits from itself. -/
  ordinary {e : EvalError} (s : EvalState) :
    (∀ name location, e ≠ .circularInheritance name location) → fails e s
  stays {s s' : EvalState} : still s → Steps setting s s' → s'.inheriting = s.inheriting → still s'
  /-- Statements may enter any class. -/
  ready_of_still {c : ClassDefinition} {s : EvalState} : still s → ready c s
  /-- A class that waits leads to the one that it inherits from. -/
  ascends {c parent : ClassDefinition} {s : EvalState} : setting.collection.Defines c →
    ready c s → setting.collection.Inherits c parent →
    ready parent { s with inheriting := c.name :: s.inheriting }
  /-- A class is refused. -/
  circular {c parent : ClassDefinition} {s : EvalState} : setting.collection.Defines c →
    ready c s → setting.collection.Inherits c parent → s.Refuses c parent →
    fails (.circularInheritance c.name c.location) s
  /-- The body of a class is executed where the class has its scope. -/
  opens {c : ClassDefinition} {given : Table Value} {parent declaring id : ScopeId}
    {location : Location} {s s₁ s₂ : EvalState} : ready c s → Steps setting s s₂ →
    s₂.inheriting = s.inheriting → openClass c given parent declaring location s₁ = .ok id s₂ →
    still s₂
  /-- A class has been evaluated. -/
  evaluates {limit : Nat} {c : ClassDefinition} {given : Table Value}
    {parent declaring id : ScopeId} {location : Location} {s₁ s₂ s₃ : EvalState} :
    setting.collection.Defines c →
    Reachable setting s₁ → s₁.HasInherited setting c →
    openClass c given parent declaring location s₁ = .ok id s₂ → Steps setting s₁ s₂ →
    executeClass setting (Evaluation.enter setting limit) c given id location s₂ = .ok () s₃ →
    Steps setting s₂ s₃ → holds s₂ s₃ → holds s₁ s₃

namespace Watch

variable {w : Watch setting}

theorem refl (w : Watch setting) (s : EvalState) : w.holds s s := w.quiet .refl rfl

/-- An outcome that is as the watch says. -/
def Heeds (w : Watch setting) (base : EvalState) : EStateM.Result EvalError EvalState α → Prop :=
  EndsIn (w.holds base) w.fails

/-- What goes on as the watch says from a later state does so from the first one. -/
theorem Heeds.rebase {r : EStateM.Result EvalError EvalState α} (hs : w.holds base s)
    (h : w.Heeds s r) : w.Heeds base r := h.imp (fun _ => w.trans hs) fun _ _ hfails => hfails

/-- The states of an evaluation with itself that is watched for one error. -/
def coupling (w : Watch setting) (base : EvalState) (e : EvalError) : Coupling where
  running s t := (Track setting base).running s t ∧ w.holds base s
  failed s t := s = t ∧ w.fails e s
  excused f := f ≠ e

theorem outcomes {r : EStateM.Result EvalError EvalState α} (h : EndsByStep setting base r)
    (hr : w.Heeds base r) (e : EvalError) : (w.coupling base e).Outcomes r r := by
  cases r with
  | ok a s => exact ⟨rfl, ⟨rfl, h⟩, hr⟩
  | error f s =>
    by_cases hf : f = e
    · subst hf
      exact .error ⟨rfl, hr⟩
    · exact .of_excused (C := w.coupling base e) hf s _

theorem heeds_of_couples {m : Eval α} (h : ∀ e, (w.coupling s e).Couples m m) :
    w.Heeds s (m s) := by
  have hself : ∀ e, (w.coupling s e).Outcomes (m s) (m s) := fun e =>
    h e s s ⟨⟨rfl, .refl, rfl⟩, w.refl s⟩
  cases hm : m s with
  | ok a s' =>
    have hok := hself .tooDeep
    rw [hm] at hok
    exact hok.2.2
  | error e s' =>
    have herror := hself e
    rw [hm] at herror
    exact (herror.resolve_left fun hne => hne rfl).2.2

/-- What is as the watch says from every state keeps to the coupling. -/
theorem couples (hb : Reachable setting base) {m : Eval α}
    (hm : ∀ s, Reachable setting s → base.scopes.size ≤ s.scopes.size → Steps setting base s →
      s.inheriting = base.inheriting → EndsByStep setting s (m s) ∧ w.Heeds s (m s))
    (e : EvalError) : (w.coupling base e).Couples m m := by
  rintro s _ ⟨⟨rfl, hs, hi⟩, hholds⟩
  obtain ⟨hends, hheeds⟩ := hm s (hb.trans hs) hs.size_le hs hi
  exact outcomes (hends.rebase hs hi) (hheeds.rebase hholds) e

/-! #### Operations that give no class a scope -/

/-- An outcome that gives no class a scope, and that is no failure of entering. -/
structure Quiet (s : EvalState) (r : EStateM.Result EvalError EvalState α) : Prop where
  failsInside : FailsInside r
  classScopes_eq : ∀ a s', r = .ok a s' → s'.classScopes = s.classScopes

theorem ordinary_of_isOfEntering {e : EvalError} (h : e.isOfEntering = false) (s : EvalState) :
    w.fails e s :=
  w.ordinary s fun name location he => by
    rw [he] at h
    cases h

theorem heeds_of_quiet {r : EStateM.Result EvalError EvalState α} (hends : EndsByStep setting s r)
    (h : Quiet s r) : w.Heeds s r := by
  cases r with
  | ok a s' => exact w.quiet hends.1 (h.classScopes_eq a s' rfl)
  | error e s' => exact w.ordinary_of_isOfEntering h.failsInside s'

theorem quiet_readVariable (scope : ScopeId) (name : String) (location : Location)
    (s : EvalState) : Quiet s (readVariable setting scope name location s) := by
  refine ⟨failsInside_readVariable setting scope name location s, fun value s' h => ?_⟩
  rw [readVariable_apply] at h
  split at h
  · cases h
    rfl
  · split at h <;> cases h
    rfl

theorem quiet_setVariable (scope : ScopeId) (name : String) (value : Value) (location : Location)
    (s : EvalState) : Quiet s (setVariable scope name value location s) := by
  refine ⟨failsInside_setVariable scope name value location s, fun _ s' h => ?_⟩
  rw [setVariable_apply] at h
  split at h <;> cases h
  rfl

theorem quiet_place (scope : ScopeId) (r : Resource) (s : EvalState) :
    Quiet s (place scope r s) := by
  refine ⟨failsInside_place scope r s, fun _ s' h => ?_⟩
  obtain ⟨catalog, catalog', -, -, rfl⟩ := place_eq_ok h
  rfl

theorem quiet_modify {f : EvalState → EvalState} (h : (f s).classScopes = s.classScopes) :
    Quiet s ((modify f : Eval PUnit) s) :=
  ⟨trivial, fun _ s' hs' => by cases hs'; exact h⟩

/-! #### Executing statements -/

/-- What is entered may be entered where it is. -/
def Allows (w : Watch setting) : Entry → EvalState → Prop
  | .ofClass c _ _ _, s => w.ready c s
  | .ofDefine .., s => w.still s

/-- A way to enter classes and defines that is as the watch says. -/
def Enters (w : Watch setting) (enter : Enter) : Prop :=
  ∀ entry s, Reachable setting s → entry.Ready setting s → w.Allows entry s →
    w.Heeds s (enter entry s)

/-- Statements are executed as the watch says if classes and defines are entered so. -/
theorem simulation {enter : Enter} (h : w.Enters enter) (hsteps : EntersByStep setting enter)
    (hb : Reachable setting base) (hstill : w.still base) {scope : ScopeId}
    (hscope : scope < base.scopes.size) (e : EvalError) :
    Simulation (w.coupling base e) setting setting enter enter scope := by
  have track := hsteps.simulation hb hscope
  have sim : ∀ {s}, Reachable setting s → base.scopes.size ≤ s.scopes.size →
      Simulation (Track setting s) setting setting enter enter scope := fun hs hle =>
    hsteps.simulation hs (Nat.lt_of_lt_of_le hscope hle)
  -- An operation that goes by steps and is quiet keeps to the coupling.
  have plain : ∀ {α : Type} {m : Eval α},
      (∀ s, Reachable setting s → base.scopes.size ≤ s.scopes.size →
        (Track setting s).Couples m m) →
      (∀ s, Quiet s (m s)) → (w.coupling base e).Couples m m := fun hm hq =>
    couples hb (fun s hs hle _ _ =>
      have hends := endsByStep_of_couples (hm s hs hle)
      ⟨hends, heeds_of_quiet hends (hq s)⟩) e
  refine {
    collection_alike := .refl _
    registry_contains := fun _ _ => Or.inl rfl
    node_name_eq := rfl
    refuses := ?refuses
    space_eq := fun hst => track.space_eq hst.1
    owner_eq := fun hst => track.owner_eq hst.1
    classScopes_eq := fun hst => track.classScopes_eq hst.1
    localVariable_eq := fun name hst => track.localVariable_eq name hst.1
    location_eq := fun c hst => track.location_eq c hst.1
    readVariable := fun name location =>
      plain (fun _ hs hle => (sim hs hle).readVariable name location)
        (quiet_readVariable scope name location)
    setVariable := fun name value location =>
      plain (fun _ hs hle => (sim hs hle).setVariable name value location)
        (quiet_setVariable scope name value location)
    report := fun hquiet => plain (fun _ hs hle => (sim hs hle).report hquiet) fun _ =>
      quiet_modify rfl
    relate := fun kind => plain (fun _ hs hle => (sim hs hle).relate kind) fun _ =>
      quiet_modify rfl
    place := fun hr => plain (fun _ hs hle => (sim hs hle).place hr) (quiet_place scope _)
    blames_of_place := fun _ _ => trivial
    enterClass := ?enterClass
    enterDefine := ?enterDefine }
  case refuses =>
    rintro f hf - s _ ⟨⟨rfl, hs, hi⟩, hholds⟩
    have hends : EndsByStep setting base (.error f s : EStateM.Result EvalError EvalState Unit) :=
      Stopped.after hs
    exact outcomes hends (w.ordinary_of_isOfEntering hf s) e
  case enterClass =>
    rintro c given location s _ hc ⟨⟨rfl, hs, hi⟩, hholds⟩ hnew
    have hready : Entry.Ready setting s (.ofClass c given scope location) :=
      ⟨hc, hnew, Nat.lt_of_lt_of_le hscope hs.size_le⟩
    have hends := hsteps _ s (hb.trans hs) hready
    have hheeds := h _ s (hb.trans hs) hready (w.ready_of_still (w.stays hstill hs hi))
    exact outcomes (hends.rebase hs hi) (hheeds.rebase hholds) e
  case enterDefine =>
    rintro d reference given location s _ - - ⟨⟨rfl, hs, hi⟩, hholds⟩ hm
    have hends := hsteps (.ofDefine d reference given location) s (hb.trans hs) hm
    have hheeds := h (.ofDefine d reference given location) s (hb.trans hs) hm
      (w.stays hstill hs hi)
    exact outcomes (hends.rebase hs hi) (hheeds.rebase hholds) e

/-! #### Entering classes and defines -/

/-- A class that another one inherits from is entered as the watch says, or has its scope. -/
theorem heeds_evaluateClass {enter : Enter} (h : w.Enters enter) (hs : Reachable setting s)
    (hc : setting.collection.Defines c) (hready : w.ready c s) {declaring : ScopeId}
    (hd : declaring < s.scopes.size) (location : Location) :
    w.Heeds s (evaluateClass enter c none declaring location s) := by
  rw [evaluateClass_apply]
  cases hnew : s.classScopes.get? c.name with
  | none => exact h (.ofClass c none declaring location) s hs ⟨hc, hnew, hd⟩ hready
  | some id => exact w.refl s

theorem heeds_parentScope {inner : Enter} (h : w.Enters inner) (hsteps : EntersByStep setting inner)
    (hs : Reachable setting s) (hc : setting.collection.Defines c)
    (hnew : s.classScopes.get? c.name = none) (hready : w.ready c s) {declaring : ScopeId}
    (hd : declaring < s.scopes.size) (location : Location) :
    w.Heeds s (parentScope setting inner c declaring location s) := by
  cases hp : c.parent with
  | none =>
    rw [parentScope, hp]
    exact w.refl s
  | some parentName =>
    cases hfind : setting.collection.findClass? parentName (Name.parent c.name) with
    | none =>
      simp only [parentScope, hp, enterParent_apply, hfind]
      exact w.ordinary s fun _ _ => nofun
    | some parent =>
      have hinherits : setting.collection.Inherits c parent := ⟨parentName, hp, hfind⟩
      by_cases hrefuses : s.Refuses c parent
      · rw [parentScope_of_refuses hinherits hrefuses]
        exact w.circular hc hready hinherits hrefuses
      rw [parentScope_of_not_refuses hinherits hrefuses]
      let up : EvalState := { s with inheriting := c.name :: s.inheriting }
      have hup : Step setting s up := step_ascend hc hinherits hnew hrefuses
      have hheeds := heeds_evaluateClass h (hs.tail hup) hinherits.defines
        (w.ascends hc hready hinherits) hd location
      cases hr : evaluateClass inner parent none declaring location up with
      | error e s' =>
        rw [hr] at hheeds
        exact hheeds
      | ok scope s' =>
        rw [hr] at hheeds
        have hends := endsByStep_of_couples
          ((hsteps.simulation (hs.tail hup) hd).evaluateClass hinherits.defines none location)
        rw [hr] at hends
        -- Going up and coming down again give no class a scope.
        have hdown : Step setting s' { s' with inheriting := s'.inheriting.erase c.name } := by
          have herase : s'.inheriting.erase c.name = s.inheriting := by
            rw [hends.2, List.erase_cons_head]
          rw [herase]
          exact .descend hends.2
        exact w.trans (w.trans (w.quiet (.single hup) rfl) hheeds) (w.quiet (.single hdown) rfl)

theorem heeds_enterClass {limit : Nat} (h : w.Enters (Evaluation.enter setting limit))
    (hs : Reachable setting s) (hc : setting.collection.Defines c)
    (hnew : s.classScopes.get? c.name = none) (hready : w.ready c s) {declaring : ScopeId}
    (hd : declaring < s.scopes.size) (given : Option (Table Value)) (location : Location) :
    w.Heeds s
      (enterClass setting (Evaluation.enter setting limit) c given declaring location s) := by
  have hsteps := entersByStep_enter setting limit
  obtain ⟨hparent, hfree⟩ := endsByStep_parentScope hsteps hs hc hnew hd location
  refine (heeds_parentScope h hsteps hs hc hnew hready hd location).bind fun parent s₁ h₁ hs₁ => ?_
  rw [h₁] at hparent
  obtain ⟨hsteps₁, hi₁⟩ := hparent
  obtain ⟨hnew₁, hfree₁⟩ := hfree parent s₁ h₁
  have hopen := endsByStep_openClass (hs.trans hsteps₁) hc hnew₁ (hi₁ ▸ hfree₁)
    (Nat.lt_of_lt_of_le hd hsteps₁.size_le) (given.getD Table.empty) parent location
  refine Heeds.rebase hs₁ ?_
  rw [enterClassIn, bind_apply]
  -- Only a class whose body has been executed to its end is reported to the watch.
  cases h₂ : openClass c (given.getD Table.empty) parent declaring location s₁ with
  | error e s₂ =>
    have hfails := failsInside_openClass c (given.getD Table.empty) parent declaring location s₁
    rw [h₂] at hfails
    exact w.ordinary_of_isOfEntering hfails s₂
  | ok scope s₂ =>
    rw [h₂] at hopen
    obtain ⟨hsteps₂, hi₂⟩ := hopen
    have hscope : scope < s₂.scopes.size := lt_size_of_openClass h₂
    have hs₂ := (hs.trans hsteps₁).trans hsteps₂
    have hstill := w.opens hready (hsteps₁.trans hsteps₂) (hi₂.trans hi₁) h₂
    have hbody := heeds_of_couples fun e =>
      (w.simulation h hsteps hs₂ hstill hscope e).executeClass c (given.getD Table.empty) location
        Coupling.permits_all trivial
    simp only [bind_apply]
    cases h₃ : executeClass setting (Evaluation.enter setting limit) c (given.getD Table.empty)
        scope location s₂ with
    | error e s₃ =>
      rw [h₃] at hbody
      exact hbody
    | ok _ s₃ =>
      rw [h₃] at hbody
      have hsteps₃ := steps_of_couples ((hsteps.simulation hs₂ hscope).executeClass c
        (given.getD Table.empty) location Coupling.permits_all trivial) h₃
      exact w.evaluates hc (hs.trans hsteps₁) (hasInherited_of_parentScope hs hc hnew hd h₁) h₂
        hsteps₂ h₃ hsteps₃ hbody

theorem heeds_enterDefine {inner : Enter} (h : w.Enters inner) (hsteps : EntersByStep setting inner)
    (hs : Reachable setting s) (hstill : w.still s) (d : DefineDefinition) {reference : Reference}
    (hm : reference ∈ s.catalog.references) (given : Table Value) (location : Location) :
    w.Heeds s (enterDefine setting inner d reference given location s) := by
  have hopens : Opens setting s s.scopes.next (s.instantiated d reference) :=
    opens_instantiated hm d
  have hbody := heeds_of_couples fun e => (w.simulation h hsteps (hs.trans hopens.steps)
    (w.stays hstill hopens.steps hopens.inheriting_eq) hopens.scope_lt e).executeDefine d reference
      given location Coupling.permits_all trivial
  rw [enterDefine_apply]
  exact Heeds.rebase (w.quiet hopens.steps hopens.classScopes_eq)
    (hbody.bind_pure s.scopes.next)

/-- Classes and defines are entered as the watch says, with any limit. -/
theorem enters_enter (w : Watch setting) : ∀ limit, w.Enters (Evaluation.enter setting limit)
  | 0 => fun _ s _ _ _ => w.ordinary s fun _ _ => nofun
  | limit + 1 => by
    intro entry s hs hready hallows
    have ih := enters_enter w limit
    cases entry with
    | ofClass c given declaring location =>
      obtain ⟨hc, hnew, hd⟩ := hready
      exact heeds_enterClass ih hs hc hnew hallows hd given location
    | ofDefine d reference given location =>
      exact heeds_enterDefine ih (entersByStep_enter setting limit) hs hallows d hready given
        location

/-! ### Whole evaluations -/

theorem heeds_executeNode {enter : Enter} (h : w.Enters enter)
    (hsteps : EntersByStep setting enter) (hs : Reachable setting s) (hstill : w.still s) :
    w.Heeds s (executeNode setting enter s) := by
  rcases executeNode_cases hs enter with
    heq | ⟨e, s', heq, hinside, -⟩ | ⟨n, scope, s', heq, hopens⟩
  · rw [heq]
    exact w.refl s
  · rw [heq]
    exact w.ordinary_of_isOfEntering hinside s'
  · have hbody := heeds_of_couples fun e => (w.simulation h hsteps (hs.trans hopens.steps)
      (w.stays hstill hopens.steps hopens.inheriting_eq) hopens.scope_lt e).executeAll n.body
        Coupling.permits_all
    rw [heq]
    exact Heeds.rebase (w.quiet hopens.steps hopens.classScopes_eq) hbody

/-- Everything that is written for a node is executed as the watch says. -/
theorem heeds_executeSite (w : Watch setting) (hstart : w.still (EvalState.start setting))
    (limit : Nat) :
    w.Heeds (EvalState.start setting)
      (executeSite setting (Evaluation.enter setting limit) (EvalState.start setting)) := by
  have h := w.enters_enter limit
  have hsteps := entersByStep_enter setting limit
  have htop : ScopeArena.top < (EvalState.start setting).scopes.size := Nat.one_pos
  have hmanifests := fun e => Coupling.Couples.forM
    (fun ast : Ast => (w.simulation h hsteps (.start setting) hstart htop e).executeAll
      ast.statements Coupling.permits_all) setting.collection.manifests
  have htrack := Coupling.Couples.forM
    (fun ast : Ast => (hsteps.simulation (.start setting) htop).executeAll
      ast.statements Coupling.permits_all) setting.collection.manifests
  refine (heeds_of_couples hmanifests).bind fun _ s₁ h₁ hholds => ?_
  have hends := endsByStep_of_couples htrack
  rw [h₁] at hends
  obtain ⟨hs₁, hi₁⟩ := hends
  refine Heeds.rebase hholds ?_
  exact heeds_executeNode h hsteps hs₁ (w.stays hstart hs₁ hi₁)

/-- Whole evaluations go as the watch says. -/
theorem heeds_program (w : Watch setting) (hstart : w.still (EvalState.start setting))
    (limit : Nat) :
    w.Heeds (EvalState.start setting) (program setting limit (EvalState.start setting)) := by
  refine (w.heeds_executeSite hstart limit).bind fun _ s _ hholds => ?_
  rw [finishState_apply]
  cases h : finish setting.registry s with
  | ok catalog => exact hholds
  | error e => exact w.ordinary_of_isOfEntering (isOfEntering_of_finish h) s

end Watch

end Manifest
