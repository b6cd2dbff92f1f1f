import Manifest.Proofs.Evaluation.DeclaredReferences
import Manifest.Proofs.Evaluation.Includers
import Manifest.Proofs.Evaluation.Watch

/-!
# The bodies of included classes

A class gets its scope before its body is executed, and whoever includes it in the meantime finds
the scope and goes on.  In an evaluation that succeeds every body has been executed to its end all
the same, since the one who has opened the class goes on executing it.  There is one scope that no
class was opened for: the table of classes has the top scope under the name `main` from the start,
and so a class of this name is never evaluated.

## Main definitions

* `Executed`, `Evaluated` — the body of a class was executed in a scope of its own.
* `Includes` — a class is included in one of four ways.

## Main results

* `completes_of_program` — every class with a scope has been evaluated, except for `main`.
* `body_evaluated` — so has every class that is included.
* `main_passed_over` — a class `main` that is included without being evaluated.
-/

namespace Manifest

open Evaluation

variable {setting : Setting} {s s' s₁ s₂ : EvalState} {c : ClassDefinition} {scope id : ScopeId}
  {limit : Nat} {given : Table Value} {location : Location}

/-! ### Scopes and their variables stay -/

theorem ScopeArena.Keeps.trans {a b d : ScopeArena} (h : a.Keeps b) (h' : b.Keeps d) :
    a.Keeps d :=
  ⟨Nat.le_trans h.size_le h'.size_le, fun hv => h'.localVariable?_eq (h.localVariable?_eq hv)⟩

theorem Step.keeps (h : Step setting s s') : s.scopes.Keeps s'.scopes := by
  cases h with
  | setVariable set => exact (ScopeArena.Keeps.refl s.scopes).setVariable set
  | openScope listed => exact (ScopeArena.Keeps.refl s.scopes).child _ _ _
  | openClass => exact (ScopeArena.Keeps.refl s.scopes).child _ _ _
  | _ => exact .refl s.scopes

theorem Steps.keeps (h : Steps setting s s') : s.scopes.Keeps s'.scopes := by
  induction h with
  | refl => exact .refl s.scopes
  | tail _ hs ih => exact ih.trans hs.keeps

/-- Every class has a scope that is there, and except for `main` one that looks for names in the
class. -/
structure EvalState.Scoped (s : EvalState) : Prop where
  top_lt : ScopeArena.top < s.scopes.size
  lt_size : ∀ name id, s.classScopes.get? name = some id → id < s.scopes.size
  space_eq : ∀ name id, s.classScopes.get? name = some id →
    (name = "main" ∧ id = ScopeArena.top) ∨ (id ≠ ScopeArena.top ∧ s.scopes.space id = name)

theorem EvalState.scoped_start (setting : Setting) : (EvalState.start setting).Scoped := by
  have hstart : ∀ {name id}, (EvalState.start setting).classScopes.get? name = some id →
      name = "main" ∧ id = ScopeArena.top := by
    intro name id h
    have htable : (EvalState.start setting).classScopes =
        Table.empty.insert "main" ScopeArena.top := rfl
    rw [htable, Table.get?_insert] at h
    split at h
    · next hname => exact ⟨hname, (Option.some.inj h).symm⟩
    · cases h
  exact ⟨Nat.one_pos, fun name id h => (hstart h).2 ▸ Nat.one_pos, fun name id h => .inl (hstart h)⟩

theorem EvalState.Scoped.step (h : s.Scoped) (hs : Step setting s s') : s'.Scoped := by
  have hkept : ∀ {name id}, s.classScopes.get? name = some id → id < s'.scopes.size ∧
      ((name = "main" ∧ id = ScopeArena.top) ∨
        (id ≠ ScopeArena.top ∧ s'.scopes.space id = name)) := by
    intro name id hid
    have hlt := h.lt_size name id hid
    rw [hs.space_eq hlt]
    exact ⟨Nat.lt_of_lt_of_le hlt hs.size_le, h.space_eq name id hid⟩
  have hsame : s'.classScopes = s.classScopes → s'.Scoped := fun heq =>
    ⟨Nat.lt_of_lt_of_le h.top_lt hs.size_le, fun name id hid => (hkept (heq ▸ hid)).1,
      fun name id hid => (hkept (heq ▸ hid)).2⟩
  cases hs with
  | @openClass cls given parent declaring location catalog catalog' defined new free declared add
      contain =>
    have hnext : s.scopes.next < (s.opened cls parent).scopes.size :=
      s.scopes.next_lt_size_child parent cls.name (.ofClass cls.name)
    have hget : ∀ {name id}, (s.opened cls parent).classScopes.get? name = some id →
        (name = cls.name ∧ id = s.scopes.next) ∨ s.classScopes.get? name = some id := by
      intro name id hid
      rw [EvalState.opened, Table.get?_insert] at hid
      split at hid
      · next hname => exact .inl ⟨hname, (Option.some.inj hid).symm⟩
      · exact .inr hid
    refine ⟨Nat.lt_of_lt_of_le h.top_lt (Nat.le_of_lt hnext), fun name id hid => ?_,
      fun name id hid => ?_⟩
    · obtain ⟨-, rfl⟩ | hid := hget hid
      · exact hnext
      · exact (hkept hid).1
    · obtain ⟨rfl, rfl⟩ | hid := hget hid
      · exact .inr ⟨Nat.ne_of_gt h.top_lt,
          s.scopes.space_child_next parent cls.name (.ofClass cls.name)⟩
      · exact (hkept hid).2
  | _ => exact hsame rfl

theorem Reachable.scoped (h : Reachable setting s) : s.Scoped :=
  h.invariant (EvalState.scoped_start setting) fun _ _ => EvalState.Scoped.step

/-! ### Bodies that were executed -/

/-- A class was opened, and its body was executed to the end in the scope that it got. -/
def Executed (setting : Setting) (c : ClassDefinition) (id : ScopeId) (s : EvalState) : Prop :=
  ∃ limit given parent declaring location s₀ s₁ s₂,
    Reachable setting s₀ ∧ openClass c given parent declaring location s₀ = .ok id s₁ ∧
      Steps setting s₀ s₁ ∧
      executeClass setting (Evaluation.enter setting limit) c given id location s₁ = .ok () s₂ ∧
      Steps setting s₁ s₂ ∧ Steps setting s₂ s

theorem Executed.of_steps (h : Executed setting c id s) (hs : Steps setting s s') :
    Executed setting c id s' := by
  obtain ⟨limit, given, parent, declaring, location, s₀, s₁, s₂, hs₀, hopen, h₁, hbody, h₂, h₃⟩ := h
  exact ⟨limit, given, parent, declaring, location, s₀, s₁, s₂, hs₀, hopen, h₁, hbody, h₂,
    h₃.trans hs⟩

/-- The body of a class was executed in a scope of its own. -/
structure Evaluated (setting : Setting) (c : ClassDefinition) (id : ScopeId) (s : EvalState) :
    Prop where
  executed : Executed setting c id s
  owner : s.scopes.owner id = .ofClass c.name
  space : s.scopes.space id = c.name
  /-- All declared parameters have values. -/
  bound : ∀ p ∈ c.parameters, (s.scopes.localVariable? id p.name).isSome
  /-- No other class has this scope. -/
  own : ∀ name, s.classScopes.get? name = some id → name = c.name

theorem forM_of_bindParameters {enter : Enter} {declared : List Parameter} {resource : Reference}
    {acceptsName : Bool}
    (h : bindParameters setting enter declared given resource scope location acceptsName s =
      .ok () s') :
    (declared.forM (bindParameter setting enter given resource scope location) : Eval PUnit) s =
      .ok () s' := by
  unfold bindParameters at h
  cases hfind : given.keys.find? fun name => !isKnownParameter declared acceptsName name with
  | some name =>
    rw [hfind] at h
    cases h
  | none =>
    rw [hfind] at h
    exact h

/-- Parameters that were bound have values. -/
theorem isSome_of_bindParameter {resource : Reference} : ∀ {declared : List Parameter}
    {s s' : EvalState}, scope < s.scopes.size →
      (declared.forM (bindParameter setting (Evaluation.enter setting limit) given resource scope
        location) : Eval PUnit) s = .ok () s' →
      ∀ p ∈ declared, (s'.scopes.localVariable? scope p.name).isSome
  | [], _, _, _, _ => nofun
  | p :: declared, s, s', hscope, h => by
    obtain ⟨_, s₂, hfirst, hrest⟩ := bind_eq_ok h
    obtain ⟨value, s₁, hreceives, hset⟩ := bindParameter_eq_ok hfirst
    obtain ⟨scopes, hscopes, rfl⟩ := setVariable_eq_ok hset
    have hsize : scope < s₁.scopes.size := Nat.lt_of_lt_of_le hscope hreceives.size_le
    have hvalue : scopes.localVariable? scope p.name = some value := by
      rw [ScopeArena.localVariable?_setVariable hscopes, if_pos ⟨⟨rfl, hsize⟩, rfl⟩]
    have hsize' : scope < scopes.size := ScopeArena.size_setVariable hscopes ▸ hsize
    have hkeeps := (Coupling.Couples.forM ((keeps_simulation setting limit scopes
      scope).bindParameter given trivial location) declared).holding_ok (.refl _) hrest
    refine List.forall_mem_cons.mpr ⟨?_, isSome_of_bindParameter hsize' hrest⟩
    exact Option.isSome_iff_exists.mpr ⟨value, hkeeps.localVariable?_eq hvalue⟩

theorem isSome_of_executeClass (hscope : scope < s.scopes.size)
    (h : executeClass setting (Evaluation.enter setting limit) c given scope location s =
      .ok () s') :
    ∀ p ∈ c.parameters, (s'.scopes.localVariable? scope p.name).isSome := by
  obtain ⟨_, s₁, hbind, hbody⟩ := bind_eq_ok h
  have hall := forM_of_bindParameters hbind
  -- The body may set more variables, but it leaves the parameters alone.
  have hkeeps := ((keeps_simulation setting limit s₁.scopes scope).executeAll c.body
    Coupling.permits_all).holding_ok (.refl _) hbody
  intro p hp
  obtain ⟨value, hvalue⟩ := Option.isSome_iff_exists.mp (isSome_of_bindParameter hscope hall p hp)
  exact Option.isSome_iff_exists.mpr ⟨value, hkeeps.localVariable?_eq hvalue⟩

theorem space_of_openClass {parent declaring : ScopeId}
    (h : openClass c given parent declaring location s = .ok id s') :
    s'.scopes.space id = c.name ∧ s'.scopes.owner id = .ofClass c.name := by
  obtain ⟨rfl, hplace⟩ := openClass_eq_ok h
  obtain ⟨catalog, catalog', -, -, rfl⟩ := place_eq_ok hplace
  exact ⟨s.scopes.space_child_next parent c.name (.ofClass c.name),
    (s.scopes.owner_child parent c.name (.ofClass c.name) _).trans (if_pos rfl)⟩

/-- A class whose body was executed has its scope for itself. -/
theorem Executed.evaluated (h : Executed setting c id s) : Evaluated setting c id s := by
  have hexecuted := h
  obtain ⟨limit, given, parent, declaring, location, s₀, s₁, s₂, hs₀, hopen, h₁, hbody, h₂, h₃⟩ := h
  have hsteps : Steps setting s₁ s := h₂.trans h₃
  have hid : id = s₀.scopes.next := (openClass_eq_ok hopen).1
  have hlt : id < s₁.scopes.size := lt_size_of_openClass hopen
  obtain ⟨hspace₁, howner₁⟩ := space_of_openClass hopen
  have hspace : s.scopes.space id = c.name := (hsteps.space_eq hlt).trans hspace₁
  refine ⟨hexecuted, (hsteps.owner_eq hlt).trans howner₁, hspace, fun p hp => ?_,
    fun name hname => ?_⟩
  · obtain ⟨value, hvalue⟩ := Option.isSome_iff_exists.mp (isSome_of_executeClass hlt hbody p hp)
    exact Option.isSome_iff_exists.mpr ⟨value, h₃.keeps.localVariable?_eq hvalue⟩
  · have hs : Reachable setting s := (hs₀.trans h₁).trans hsteps
    obtain ⟨-, htop⟩ | ⟨-, hown⟩ := hs.scoped.space_eq name id hname
    · -- The top scope was there before.
      exact absurd (hid.symm.trans htop) (Nat.ne_of_gt hs₀.scoped.top_lt)
    · exact hown.symm.trans hspace

/-! ### Classes with a scope have been evaluated -/

/-- Every class that has got a scope between two states has been evaluated. -/
def CompletesClasses (setting : Setting) (s s' : EvalState) : Prop :=
  Steps setting s s' ∧ ∀ name id, s'.classScopes.get? name = some id →
    s.classScopes.get? name = some id ∨
      ∃ c, setting.collection.Defines c ∧ c.name = name ∧ Executed setting c id s'

/-- The watch on the bodies of classes. -/
def bodyWatch (setting : Setting) : Watch setting where
  holds := CompletesClasses setting
  fails _ _ := True
  still _ := True
  ready _ _ := True
  trans := fun ⟨h₁, hall₁⟩ ⟨h₂, hall₂⟩ => ⟨h₁.trans h₂, fun name id hid =>
    (hall₂ name id hid).elim
      (fun hid => (hall₁ name id hid).imp_right fun ⟨c, hc, hname, hexecuted⟩ =>
        ⟨c, hc, hname, hexecuted.of_steps h₂⟩)
      Or.inr⟩
  quiet := fun hs heq => ⟨hs, fun name id hid => .inl (heq ▸ hid)⟩
  ordinary := fun _ _ => trivial
  stays := fun _ _ _ => trivial
  ready_of_still := fun _ => trivial
  ascends := fun _ _ _ => trivial
  circular := fun _ _ _ _ => trivial
  opens := fun _ _ _ _ => trivial
  evaluates := by
    intro limit c given parent declaring id location s₁ s₂ s₃ hc hs₁ _ hopen h₂ hbody h₃ hholds
    refine ⟨h₂.trans h₃, fun name other hother => ?_⟩
    rcases hholds.2 name other hother with hother | hexecuted
    · -- Opening gives a scope to the class alone.
      obtain ⟨rfl, hplace⟩ := openClass_eq_ok hopen
      obtain ⟨catalog, catalog', -, -, rfl⟩ := place_eq_ok hplace
      rw [EvalState.opened, Table.get?_insert] at hother
      split at hother
      · next hname =>
        cases hother
        exact .inr ⟨c, hc, hname.symm, limit, given, parent, declaring, location, s₁, _, s₃, hs₁,
          hopen, h₂, hbody, h₃, .refl⟩
      · exact .inl hother
    · exact .inr hexecuted

/-- When an evaluation has succeeded, every class with a scope has been evaluated there, except for
`main`. -/
theorem completes_of_program {catalog : Catalog} {name : String}
    (h : program setting limit (EvalState.start setting) = .ok catalog s)
    (hid : s.classScopes.get? name = some id) (hmain : name ≠ "main") :
    ∃ c, setting.collection.Defines c ∧ c.name = name ∧ Executed setting c id s := by
  have hheeds := (bodyWatch setting).heeds_program trivial limit
  rw [h] at hheeds
  -- The only scope at the start is the one for `main`.
  refine (hheeds.2 name id hid).resolve_left fun hstart => ?_
  obtain ⟨hname, -⟩ | ⟨hne, -⟩ := (EvalState.scoped_start setting).space_eq name id hstart
  · exact hmain hname
  · exact hne (Nat.lt_one_iff.mp ((EvalState.scoped_start setting).lt_size name id hstart))

/-! ### The class `main` -/

theorem get?_main (hs : Reachable setting s) :
    s.classScopes.get? "main" = some ScopeArena.top :=
  Steps.classScopes hs (s := EvalState.start setting) rfl

/-- A class that is opened has no scope yet, or else its resource would be refused. -/
theorem new_of_openClass {parent declaring : ScopeId} (hs : Reachable setting s)
    (h : openClass c given parent declaring location s = .ok id s') :
    s.classScopes.get? c.name = none := by
  obtain ⟨-, hplace⟩ := openClass_eq_ok h
  obtain ⟨catalog, catalog', hadd, -⟩ := place_eq_ok hplace
  have hfree : s.catalog.get? (.ofClass c.name) = none := (Catalog.addResource_eq_ok hadd).1
  cases hnew : s.classScopes.get? c.name with
  | none => rfl
  | some other =>
    have hlisted := hs.listed c.name other hnew
    rw [Catalog.contains, hfree] at hlisted
    cases hlisted

/-- A class `main` is never opened, since there is a scope of this name from the start. -/
theorem not_executed_main (hc : c.name = "main") : ¬ Executed setting c id s := by
  rintro ⟨limit, given, parent, declaring, location, s₀, s₁, s₂, hs₀, hopen, -⟩
  have hnew := new_of_openClass hs₀ hopen
  rw [hc, get?_main hs₀] at hnew
  cases hnew

/-! ### Inclusions -/

/-- A class is included from a scope in one of four ways. -/
inductive Includes (setting : Setting) (enter : Enter) (scope : ScopeId) (c : ClassDefinition) :
    EvalState → EvalState → Prop
  /-- A call of `include`. -/
  | byInclude {name : String} {location : Location} {s s' : EvalState}
    (found : setting.collection.findClass? name (s.scopes.space scope) = some c)
    (included : includeClass setting enter scope location name s = .ok c s') :
    Includes setting enter scope c s s'
  /-- A call of `require`. -/
  | byRequire {name : String} {location : Location} {s s' : EvalState}
    (found : setting.collection.findClass? name (s.scopes.space scope) = some c)
    (required : requireClass setting enter scope location name s = .ok () s') :
    Includes setting enter scope c s s'
  /-- A reference `Class[…]`. -/
  | byReference {type title : String} {location : Location} {r : Reference} {s s' : EvalState}
    (isClass : Text.lower type = "class")
    (found : setting.collection.findClass? title (s.scopes.space scope) = some c)
    (referred : referTo setting enter scope type location title s = .ok r s') :
    Includes setting enter scope c s s'
  /-- A declaration like that of a resource. -/
  | byDeclaration {title : String} {given : Table Value} {location : Location} {s s' : EvalState}
    (found : setting.collection.findClass? title (s.scopes.space scope) = some c)
    (declared : declareClass setting enter scope given location title s = .ok () s') :
    Includes setting enter scope c s s'

/-- The class that `include` answers is included. -/
theorem Includes.of_includeClass {enter : Enter} {name : String}
    (h : includeClass setting enter scope location name s = .ok c s') :
    Includes setting enter scope c s s' := by
  have hincluded := h
  obtain ⟨d, s₁, hresolve, hrest⟩ := bind_eq_ok h
  rw [resolveClass_apply] at hresolve
  cases hfind : setting.collection.findClass? name (s.scopes.space scope) with
  | none =>
    rw [hfind] at hresolve
    cases hresolve
  | some d =>
    rw [hfind] at hresolve
    cases hresolve
    obtain ⟨_, _, -, heq⟩ := bind_eq_ok hrest
    cases heq
    exact .byInclude hfind hincluded

/-- Including a class makes sure that it has a scope; no more than an edge is recorded besides. -/
theorem Includes.exists_evaluateClass {enter : Enter} (h : Includes setting enter scope c s s') :
    setting.collection.Defines c ∧ ∃ given location id t,
      evaluateClass enter c given scope location s = .ok id t ∧
        s' = { t with relationships := s'.relationships } := by
  -- A class that is included and one that is required are looked up and evaluated alike.
  have hinclude : ∀ {name d t} {location : Location},
      setting.collection.findClass? name (s.scopes.space scope) = some c →
      includeClass setting enter scope location name s = .ok d t →
      d = c ∧ ∃ id, evaluateClass enter c none scope location s = .ok id t := by
    intro name d t location found h
    rw [includeClass_of_findClass? found] at h
    obtain ⟨id, _, hclass, hrest⟩ := bind_eq_ok h
    cases hrest
    exact ⟨rfl, id, hclass⟩
  cases h with
  | byInclude found included =>
    obtain ⟨-, id, hclass⟩ := hinclude found included
    exact ⟨Collection.defines_of_findClass? found, none, _, id, _, hclass, rfl⟩
  | byRequire found required =>
    obtain ⟨d, t, hincluded, hrest⟩ := bind_eq_ok required
    obtain ⟨-, id, hclass⟩ := hinclude found hincluded
    cases hrest
    exact ⟨Collection.defines_of_findClass? found, none, _, id, t, hclass, rfl⟩
  | byReference isClass found referred =>
    rw [referTo, get_bind_apply, if_pos isClass, found] at referred
    obtain ⟨id, _, hclass, hrest⟩ := bind_eq_ok referred
    cases hrest
    exact ⟨Collection.defines_of_findClass? found, none, _, id, _, hclass, rfl⟩
  | byDeclaration found declared =>
    obtain ⟨d, _, hresolve, hrest⟩ := bind_eq_ok declared
    rw [resolveClass_apply, found] at hresolve
    cases hresolve
    obtain ⟨id, _, hclass, hrest⟩ := bind_eq_ok hrest
    cases hrest
    exact ⟨Collection.defines_of_findClass? found, some _, _, id, _, hclass, rfl⟩

/-- Including the class `main` changes nothing, whatever its body says. -/
theorem Includes.eq_of_main {enter : Enter} (hs : Reachable setting s)
    (h : Includes setting enter scope c s s') (hmain : c.name = "main") :
    s' = { s with relationships := s'.relationships } := by
  obtain ⟨-, given, location, id, t, hclass, hrelated⟩ := h.exists_evaluateClass
  rw [evaluateClass_apply, hmain, get?_main hs] at hclass
  cases given with
  | some table => cases hclass
  | none =>
    cases hclass
    exact hrelated

theorem Includes.isSome (hs : Reachable setting s) (hscope : scope < s.scopes.size)
    (h : Includes setting (Evaluation.enter setting limit) scope c s s') :
    (s'.classScopes.get? c.name).isSome := by
  obtain ⟨hc, given, location, id, t, hclass, hrelated⟩ := h.exists_evaluateClass
  rw [hrelated]
  exact (isSome_of_evaluateClass hs hc hscope hclass).2

/-- If an evaluation succeeds in which a class was included in any way, the body of the class was
executed in a scope of its own, unless the class is called `main`.  Including that one does nothing
at all. -/
theorem body_evaluated {catalog : Catalog} {inner : Nat}
    (h : program setting limit (EvalState.start setting) = .ok catalog s)
    (hs₁ : Reachable setting s₁) (hscope : scope < s₁.scopes.size)
    (hincluded : Includes setting (Evaluation.enter setting inner) scope c s₁ s₂)
    (hs₂ : Steps setting s₂ s) :
    ((∃ id, s.classScopes.get? c.name = some id ∧ Evaluated setting c id s) ↔ c.name ≠ "main") ∧
      (c.name = "main" → s₂ = { s₁ with relationships := s₂.relationships }) := by
  refine ⟨⟨fun ⟨id, _, hevaluated⟩ hmain => ?_, fun hmain => ?_⟩, hincluded.eq_of_main hs₁⟩
  · exact not_executed_main hmain hevaluated.executed
  · obtain ⟨id, hid⟩ := Option.isSome_iff_exists.mp (hincluded.isSome hs₁ hscope)
    obtain ⟨d, hd, hname, hexecuted⟩ := completes_of_program h (hs₂.classScopes hid) hmain
    -- The scope belongs to a class of this name, of which there is one only.
    have hdc : d = c := hd.unique hincluded.exists_evaluateClass.1 hname
    exact ⟨id, hs₂.classScopes hid, hdc ▸ hexecuted.evaluated⟩

/-! #### A class of either name -/

namespace Sample

/-- The setting for a manifest with a class of a name, which it includes. -/
def including (name : String) : Setting :=
  settingOf ((collectionOf ("class " ++ name ++ "($a = 1) \x7b notify \x7b 'x': \x7d \x7d " ++
    "include " ++ name)).toOption.getD .empty)

/-- The inclusion in this manifest, evaluated at the beginning. -/
def inclusion (name : String) : EStateM.Result EvalError EvalState ClassDefinition :=
  includeClass (including name) (Evaluation.enter (including name) 2) ScopeArena.top
    ⟨"a.pp", 1, 36 + name.length⟩ name (EvalState.start (including name))

/-- The whole evaluation. -/
def compiled (name : String) : EStateM.Result EvalError EvalState Catalog :=
  program (including name) 2 (EvalState.start (including name))

/-- What succeeds does so with an answer in its last state. -/
theorem exists_of_answer? {α : Type} {r : EStateM.Result EvalError EvalState α}
    (h : (answer? r).isSome = true) : ∃ a, r = .ok a (finalState r) := by
  cases r with
  | ok a s => exact ⟨a, rfl⟩
  | error e s => cases h

end Sample

/-- A class `foo`, whose inclusion is all that there is to execute. -/
theorem body_evaluated_sample :
    ∃ c catalog s, Sample.compiled "foo" = .ok catalog s ∧
      Reachable (Sample.including "foo") (EvalState.start (Sample.including "foo")) ∧
      ScopeArena.top < (EvalState.start (Sample.including "foo")).scopes.size ∧
      Includes (Sample.including "foo") (Evaluation.enter (Sample.including "foo") 2)
        ScopeArena.top c (EvalState.start (Sample.including "foo")) s ∧
      Steps (Sample.including "foo") s s ∧ c.name = "foo" ∧
      ∃ id, s.classScopes.get? c.name = some id ∧ Evaluated (Sample.including "foo") c id s := by
  obtain ⟨catalog, hcompiled⟩ := Sample.exists_of_answer?
    (r := Sample.compiled "foo") (by decide +kernel)
  obtain ⟨c, hincluded⟩ := Sample.exists_of_answer?
    (r := Sample.inclusion "foo") (by decide +kernel)
  have hname : (Sample.answer? (Sample.inclusion "foo")).map (fun c => c.name) = some "foo" := by
    decide +kernel
  have hstate : Sample.finalState (Sample.inclusion "foo") =
      Sample.finalState (Sample.compiled "foo") := by decide +kernel
  rw [hincluded] at hname
  rw [hstate] at hincluded
  have hc : c.name = "foo" := Option.some.inj hname
  have htop : ScopeArena.top < (EvalState.start (Sample.including "foo")).scopes.size := Nat.one_pos
  have hincludes := Includes.of_includeClass hincluded
  have hevaluated := body_evaluated hcompiled (.start _) htop hincludes .refl
  have hmain : c.name ≠ "main" := by rw [hc]; decide
  exact ⟨c, catalog, _, hcompiled, .start _, htop, hincludes, .refl, hc, hevaluated.1.mpr hmain⟩

/-- A class `main` is included and the evaluation succeeds, but its body is never executed: nothing
has happened at all. -/
theorem main_passed_over :
    ∃ c catalog, c.name = "main" ∧ c.body ≠ [] ∧
      Includes (Sample.including "main") (Evaluation.enter (Sample.including "main") 2)
        ScopeArena.top c (EvalState.start (Sample.including "main"))
        (EvalState.start (Sample.including "main")) ∧
      Sample.compiled "main" = .ok catalog (EvalState.start (Sample.including "main")) ∧
      catalog.references = [.ofClass "main"] ∧
      ¬ ∃ id, Evaluated (Sample.including "main") c id
        (EvalState.start (Sample.including "main")) := by
  obtain ⟨catalog, hcompiled⟩ := Sample.exists_of_answer?
    (r := Sample.compiled "main") (by decide +kernel)
  obtain ⟨c, hincluded⟩ := Sample.exists_of_answer?
    (r := Sample.inclusion "main") (by decide +kernel)
  have hclass : (Sample.answer? (Sample.inclusion "main")).map (fun c => (c.name, c.body.isEmpty)) =
      some ("main", false) := by decide +kernel
  have hlisted : (Sample.answer? (Sample.compiled "main")).map (fun c => c.references) =
      some [.ofClass "main"] := by decide +kernel
  have hstates : Sample.finalState (Sample.inclusion "main") =
        EvalState.start (Sample.including "main") ∧
      Sample.finalState (Sample.compiled "main") = EvalState.start (Sample.including "main") := by
    constructor <;> decide +kernel
  rw [hincluded] at hclass
  rw [hcompiled] at hlisted
  rw [hstates.1] at hincluded
  rw [hstates.2] at hcompiled
  obtain ⟨hname, hbody⟩ := Prod.mk.inj (Option.some.inj hclass)
  refine ⟨c, catalog, hname, fun hempty => ?_, .of_includeClass hincluded, hcompiled,
    Option.some.inj hlisted, fun ⟨id, hevaluated⟩ => not_executed_main hname hevaluated.executed⟩
  rw [hempty] at hbody
  cases hbody

end Manifest
