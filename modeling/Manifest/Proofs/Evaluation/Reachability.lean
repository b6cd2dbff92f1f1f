import Manifest.Proofs.Evaluation.Owners

/-!
# Evaluations go by steps

Executing statements, evaluating expressions and entering classes and defines lead from reachable
states to reachable states, whatever is executed and however deep bodies are entered within each
other.  When a part succeeds, the list of the classes on the way is what it was: each class that
turned to its inherited class has been taken off again.

## Main definitions

* `Stopped` — where an evaluation stops that has failed.
* `EndsByStep` — an outcome that steps lead to.
* `EntersByStep` — a way to enter classes and defines that goes by steps.
* `Opens` — a scope is opened for an instance of a define or for the node.

## Main results

* `executeNode_cases` — what is done for the node.
* `entersByStep_enter` — entering classes and defines goes by steps, with any limit.
* `EntersByStep.simulation` — so does whatever is executed in a scope.
* `reachable_of_program`, `entersOnce_of_run` — so does a whole evaluation.
-/

namespace Manifest

open Evaluation

variable {α β : Type} {setting : Setting} {base s s' : EvalState}

/-- Where an evaluation stops that has failed: after some steps, or when a class has got its scope
but its resource is refused. -/
inductive Stopped (setting : Setting) (base : EvalState) : EvalState → Prop
  | after {s : EvalState} (steps : Steps setting base s) : Stopped setting base s
  | within {s : EvalState} (steps : Steps setting base s) {c : ClassDefinition}
    (new : s.classScopes.get? c.name = none) (parent : ScopeId) :
    Stopped setting base (s.opened c parent)

/-- An outcome that steps lead to. -/
def EndsByStep (setting : Setting) (base : EvalState) :
    EStateM.Result EvalError EvalState α → Prop :=
  EndsIn (fun s => Steps setting base s ∧ s.inheriting = base.inheriting)
    fun _ s => Stopped setting base s

/-- The states of an evaluation with itself. -/
def Track (setting : Setting) (base : EvalState) : Coupling where
  running s t := s = t ∧ Steps setting base s ∧ s.inheriting = base.inheriting
  failed s t := s = t ∧ Stopped setting base s

/-- What must be known of a state before something is entered. -/
def Entry.Ready (setting : Setting) (s : EvalState) : Entry → Prop
  | .ofClass c _ declaring _ =>
    setting.collection.Defines c ∧ s.classScopes.get? c.name = none ∧ declaring < s.scopes.size
  | .ofDefine _ reference _ _ => reference ∈ s.catalog.references

/-- A way to enter classes and defines that goes by steps. -/
def EntersByStep (setting : Setting) (enter : Enter) : Prop :=
  ∀ entry s, Reachable setting s → entry.Ready setting s → EndsByStep setting s (enter entry s)

theorem Stopped.entersOnce (hb : Reachable setting base) (h : Stopped setting base s) :
    s.EntersOnce := by
  cases h with
  | after steps => exact (hb.trans steps).orderly.entersOnce
  | within steps new parent => exact (hb.trans steps).orderly.entersOnce_enter new rfl

theorem Stopped.rebase (hs : Steps setting base s) (h : Stopped setting s s') :
    Stopped setting base s' := by
  cases h with
  | after steps => exact .after (hs.trans steps)
  | within steps new parent => exact .within (hs.trans steps) new parent

theorem endsByStep_ok {a : α} (hs : Step setting s s') (hi : s'.inheriting = s.inheriting) :
    EndsByStep setting s (.ok a s' : EStateM.Result EvalError EvalState α) :=
  ⟨.single hs, hi⟩

/-- What goes by steps from a later state does so from the first one. -/
theorem EndsByStep.rebase {r : EStateM.Result EvalError EvalState α} (hs : Steps setting base s)
    (hi : s.inheriting = base.inheriting) (h : EndsByStep setting s r) :
    EndsByStep setting base r :=
  h.imp (fun _ hlater => ⟨hs.trans hlater.1, hlater.2.trans hi⟩) fun _ _ hlater => hlater.rebase hs

/-- Two copies of one outcome along the track. -/
theorem outcomes_self_iff {r : EStateM.Result EvalError EvalState α} :
    (Track setting base).Outcomes r r ↔ EndsByStep setting base r := by
  cases r with
  | ok a s => exact ⟨fun h => h.2.2, fun h => ⟨rfl, rfl, h⟩⟩
  | error e s => exact ⟨fun h => (h.resolve_left id).2.2, fun h => .error ⟨rfl, h⟩⟩

/-- What goes by steps from every state on the track keeps to the track. -/
theorem couples_track (hb : Reachable setting base) {m : Eval α}
    (h : ∀ s, Reachable setting s → base.scopes.size ≤ s.scopes.size → EndsByStep setting s (m s)) :
    (Track setting base).Couples m m := by
  rintro s t ⟨rfl, hs, hi⟩
  exact outcomes_self_iff.mpr ((h s (hb.trans hs) hs.size_le).rebase hs hi)

theorem endsByStep_of_couples {m : Eval α} (h : (Track setting s).Couples m m) :
    EndsByStep setting s (m s) :=
  outcomes_self_iff.mp (h s s ⟨rfl, .refl, rfl⟩)

/-- What keeps to the track goes by steps when it succeeds. -/
theorem steps_of_couples {m : Eval α} {a : α} (h : (Track setting s).Couples m m)
    (hm : m s = .ok a s') : Steps setting s s' := by
  have hends := endsByStep_of_couples h
  rw [hm] at hends
  exact hends.1

/-! ### Single operations -/

theorem endsByStep_setVariable (scope : ScopeId) (name : String) (value : Value)
    (location : Location) (s : EvalState) :
    EndsByStep setting s (setVariable scope name value location s) := by
  rw [setVariable_apply]
  cases h : s.scopes.setVariable scope name value location with
  | ok scopes => exact endsByStep_ok (.setVariable h) rfl
  | error e => exact .after .refl

theorem endsByStep_place (hs : Reachable setting s) (scope : ScopeId) (r : Resource) :
    EndsByStep setting s (place scope r s) := by
  rw [place_apply]
  cases hr : s.catalog.addResource r with
  | error e => exact .after .refl
  | ok c =>
    obtain ⟨c', he⟩ := hs.contained.exists_contain hr scope
    simp only [contain_apply, he]
    exact endsByStep_ok (.place hr he) rfl

/-- Executing statements in a scope goes by steps if entering classes and defines does. -/
theorem EntersByStep.simulation {enter : Enter} (h : EntersByStep setting enter)
    (hb : Reachable setting base) {scope : ScopeId} (hscope : scope < base.scopes.size) :
    Simulation (Track setting base) setting setting enter enter scope where
  collection_alike := .refl _
  registry_contains := fun _ _ => Or.inl rfl
  node_name_eq := rfl
  refuses := by
    rintro e - - s t ⟨rfl, hs, -⟩
    exact .error ⟨rfl, .after hs⟩
  space_eq := by
    rintro s t ⟨rfl, -⟩
    rfl
  owner_eq := by
    rintro s t ⟨rfl, -⟩
    rfl
  classScopes_eq := by
    rintro s t ⟨rfl, -⟩
    rfl
  localVariable_eq := by
    rintro s t name ⟨rfl, -⟩
    rfl
  location_eq := by
    rintro s t c ⟨rfl, -⟩
    rfl
  readVariable := fun name location => couples_track hb fun s _ _ => by
    rw [readVariable_apply]
    cases s.valueOf? scope name with
    | some value => exact ⟨.refl, rfl⟩
    | none =>
      cases setting.strict with
      | true => exact .after .refl
      | false => exact ⟨.refl, rfl⟩
  setVariable := fun name value location => couples_track hb fun s _ _ =>
    endsByStep_setVariable scope name value location s
  report := fun quiet => couples_track hb fun _ _ _ => endsByStep_ok (.report quiet) rfl
  relate := fun kind => couples_track hb fun _ _ _ => endsByStep_ok (.relate kind) rfl
  place := fun _ => couples_track hb fun _ hs _ => endsByStep_place hs scope _
  enterClass := by
    rintro c given location s t hc ⟨rfl, hs, hi⟩ hnew
    have hdeclaring : scope < s.scopes.size := Nat.lt_of_lt_of_le hscope hs.size_le
    exact outcomes_self_iff.mpr ((h (.ofClass c given scope location) s (hb.trans hs)
      ⟨hc, hnew, hdeclaring⟩).rebase hs hi)
  blames_of_place := fun _ _ => trivial
  enterDefine := by
    rintro d reference given location s t - - ⟨rfl, hs, hi⟩ hm
    exact outcomes_self_iff.mpr
      ((h (.ofDefine d reference given location) s (hb.trans hs) hm).rebase hs hi)

/-! ### Entering classes -/

theorem endsByStep_openClass (hs : Reachable setting s) {c : ClassDefinition}
    (hc : setting.collection.Defines c) (hnew : s.classScopes.get? c.name = none)
    (hfree : c.name ∉ s.inheriting) {declaring : ScopeId} (hd : declaring < s.scopes.size)
    (given : Table Value) (parent : ScopeId) (location : Location) :
    EndsByStep setting s (openClass c given parent declaring location s) := by
  rw [openClass_apply, place_apply]
  cases hr : (s.opened c parent).catalog.addResource
      (classResource c given s.scopes.next location) with
  | error e => exact .within .refl hnew parent
  | ok c' =>
    -- The declaring scope is an older one than the scope of the class.
    have howner : (s.opened c parent).scopes.owner declaring = s.scopes.owner declaring :=
      ScopeArena.owner_child_of_lt hd parent c.name (.ofClass c.name)
    obtain ⟨c'', he⟩ := hs.contained.exists_contain hr declaring
    simp only [contain_apply, howner, he]
    exact endsByStep_ok (.openClass hc hnew hfree hd hr he) rfl

/-- The class that a class inherits from is evaluated while the class waits.  Meanwhile nobody can
give it a scope, and afterwards it does not wait any more. -/
theorem endsByStep_enterParent {inner : Enter} (h : EntersByStep setting inner)
    (hs : Reachable setting s) {c : ClassDefinition} (hc : setting.collection.Defines c)
    {parentName : String} (hp : c.parent = some parentName)
    (hnew : s.classScopes.get? c.name = none) {declaring : ScopeId}
    (hd : declaring < s.scopes.size) (location : Location) :
    EndsByStep setting s (enterParent setting inner c parentName declaring location s) ∧
      ∀ scope s', enterParent setting inner c parentName declaring location s = .ok scope s' →
        s'.classScopes.get? c.name = none ∧ c.name ∉ s.inheriting := by
  rw [enterParent_apply]
  cases hparent : setting.collection.findClass? parentName (Name.parent c.name) with
  | none => exact ⟨.after .refl, fun _ _ h => by cases h⟩
  | some parent =>
    simp only
    split
    · exact ⟨.after .refl, fun _ _ h => by cases h⟩
    · next hguard =>
      -- The guard stops whoever waits already.
      have hfree : c.name ∉ s.inheriting := fun hm => hguard (by simp [hm])
      let up : EvalState := { s with inheriting := c.name :: s.inheriting }
      have hstep : Step setting s up := .ascend hc (by simp [hp]) hnew hfree
      have hends : EndsByStep setting up
          (Evaluation.evaluateClass inner parent none declaring location up) :=
        endsByStep_of_couples ((h.simulation (hs.tail hstep) hd).evaluateClass
          (Collection.defines_of_findClass? hparent) none location)
      cases hr : Evaluation.evaluateClass inner parent none declaring location up with
      | error e s' =>
        rw [hr] at hends
        exact ⟨Stopped.rebase (.single hstep) hends, fun _ _ h => by cases h⟩
      | ok scope s' =>
        rw [hr] at hends
        obtain ⟨hsteps, hi⟩ := hends
        -- The class has waited all along, and so nobody has opened it.
        have hwait : s'.classScopes.get? c.name = none :=
          ((hs.tail hstep).trans hsteps).orderly.waits c.name (hi ▸ List.mem_cons_self)
        have herase : s'.inheriting.erase c.name = s.inheriting := by
          rw [hi, List.erase_cons_head]
        refine ⟨⟨?_, herase⟩, fun _ _ h => by cases h; exact ⟨hwait, hfree⟩⟩
        rw [herase]
        exact ((Relation.ReflTransGen.single hstep).trans hsteps).tail (.descend hi)

theorem endsByStep_parentScope {inner : Enter} (h : EntersByStep setting inner)
    (hs : Reachable setting s) {c : ClassDefinition} (hc : setting.collection.Defines c)
    (hnew : s.classScopes.get? c.name = none) {declaring : ScopeId}
    (hd : declaring < s.scopes.size) (location : Location) :
    EndsByStep setting s (parentScope setting inner c declaring location s) ∧
      ∀ scope s', parentScope setting inner c declaring location s = .ok scope s' →
        s'.classScopes.get? c.name = none ∧ c.name ∉ s.inheriting := by
  unfold parentScope
  cases hp : c.parent with
  | some parentName => exact endsByStep_enterParent h hs hc hp hnew hd location
  | none =>
    refine ⟨⟨.refl, rfl⟩, fun _ _ h => ?_⟩
    cases h
    refine ⟨hnew, fun hm => ?_⟩
    -- Only a class that inherits from another one can be waiting.
    obtain ⟨d, hd, hname, hinherits⟩ := hs.orderly.inherits c.name hm
    exact hinherits (hd.unique hc hname ▸ hp)

theorem endsByStep_enterClass {inner : Enter} (h : EntersByStep setting inner)
    (hs : Reachable setting s) {c : ClassDefinition} (hc : setting.collection.Defines c)
    (hnew : s.classScopes.get? c.name = none) {declaring : ScopeId}
    (hd : declaring < s.scopes.size) (given : Option (Table Value)) (location : Location) :
    EndsByStep setting s (enterClass setting inner c given declaring location s) := by
  obtain ⟨hparent, hfree⟩ := endsByStep_parentScope h hs hc hnew hd location
  refine hparent.bind fun parent s₁ h₁ hdone₁ => ?_
  obtain ⟨hs₁, hi₁⟩ := hdone₁
  refine EndsByStep.rebase hs₁ hi₁ ?_
  obtain ⟨hnew₁, hfree₁⟩ := hfree parent s₁ h₁
  rw [← hi₁] at hfree₁
  have hdeclaring : declaring < s₁.scopes.size := Nat.lt_of_lt_of_le hd hs₁.size_le
  have hopen := endsByStep_openClass (hs.trans hs₁) hc hnew₁ hfree₁ hdeclaring
    (given.getD Table.empty) parent location
  refine hopen.bind fun scope s₂ h₂ hdone₂ => ?_
  obtain ⟨hs₂, hi₂⟩ := hdone₂
  refine EndsByStep.rebase hs₂ hi₂ ?_
  have hscope : scope < s₂.scopes.size := lt_size_of_openClass h₂
  have hbody := (h.simulation ((hs.trans hs₁).trans hs₂) hscope).executeClass c
    (given.getD Table.empty) location Coupling.permits_all trivial
  exact (endsByStep_of_couples hbody).bind_pure scope

/-- The parts of entering a class, when it succeeds. -/
theorem exists_of_enterClass {inner : Enter} (h : EntersByStep setting inner)
    (hs : Reachable setting s) {c : ClassDefinition} (hc : setting.collection.Defines c)
    (hnew : s.classScopes.get? c.name = none) {declaring id : ScopeId}
    (hd : declaring < s.scopes.size) {given : Option (Table Value)} {location : Location}
    (hok : enterClass setting inner c given declaring location s = .ok id s') :
    ∃ parent s₁ s₂, parentScope setting inner c declaring location s = .ok parent s₁ ∧
      openClass c (given.getD .empty) parent declaring location s₁ = .ok id s₂ ∧
      Steps setting s s₁ ∧ Steps setting s₁ s₂ ∧ Steps setting s₂ s' := by
  obtain ⟨parent, s₁, hparent, hrest⟩ := bind_eq_ok hok
  obtain ⟨scope, s₂, hopen, hrest⟩ := bind_eq_ok hrest
  obtain ⟨_, s₃, hbody, hrest⟩ := bind_eq_ok hrest
  cases hrest
  obtain ⟨hends, hfree⟩ := endsByStep_parentScope h hs hc hnew hd location
  obtain ⟨hnew₁, hfree₁⟩ := hfree parent s₁ hparent
  rw [hparent] at hends
  obtain ⟨hsteps₁, hi₁⟩ := hends
  rw [← hi₁] at hfree₁
  have hends₂ := endsByStep_openClass (hs.trans hsteps₁) hc hnew₁ hfree₁
    (Nat.lt_of_lt_of_le hd hsteps₁.size_le) (given.getD .empty) parent location
  rw [hopen] at hends₂
  have hscope : id < s₂.scopes.size := lt_size_of_openClass hopen
  have hends₃ := endsByStep_of_couples ((h.simulation ((hs.trans hsteps₁).trans hends₂.1)
    hscope).executeClass c (given.getD .empty) location Coupling.permits_all trivial)
  rw [hbody] at hends₃
  exact ⟨parent, s₁, s₂, hparent, hopen, hsteps₁, hends₂.1, hends₃.1⟩

/-! ### Entering defines -/

/-- A scope is opened for something other than a class, and a body is about to be executed in it. -/
structure Opens (setting : Setting) (s : EvalState) (scope : ScopeId) (s' : EvalState) : Prop where
  steps : Steps setting s s'
  inheriting_eq : s'.inheriting = s.inheriting
  classScopes_eq : s'.classScopes = s.classScopes
  scope_lt : scope < s'.scopes.size

theorem opens_instantiated {reference : Reference} (hm : reference ∈ s.catalog.references)
    (d : DefineDefinition) : Opens setting s s.scopes.next (s.instantiated d reference) where
  steps := .single (.openScope hm)
  inheriting_eq := rfl
  classScopes_eq := rfl
  scope_lt := s.scopes.next_lt_size_child (s.lexicalParent d.enclosing) d.name reference

theorem endsByStep_enterDefine {inner : Enter} (h : EntersByStep setting inner)
    (hs : Reachable setting s) (d : DefineDefinition) {reference : Reference}
    (hm : reference ∈ s.catalog.references) (given : Table Value) (location : Location) :
    EndsByStep setting s (enterDefine setting inner d reference given location s) := by
  have hopens : Opens setting s s.scopes.next (s.instantiated d reference) :=
    opens_instantiated hm d
  have hbody := (h.simulation (hs.trans hopens.steps) hopens.scope_lt).executeDefine d reference
    given location Coupling.permits_all trivial
  rw [enterDefine_apply]
  exact EndsByStep.rebase hopens.steps hopens.inheriting_eq
    ((endsByStep_of_couples hbody).bind_pure s.scopes.next)

/-- Entering classes and defines goes by steps, with any limit. -/
theorem entersByStep_enter (setting : Setting) :
    ∀ limit, EntersByStep setting (Evaluation.enter setting limit)
  -- Beyond the limit entering fails at once.
  | 0 => fun _ _ _ _ => .after .refl
  | limit + 1 => by
    intro entry s hs hready
    cases entry with
    | ofClass c given declaring location =>
      obtain ⟨hc, hnew, hd⟩ := hready
      exact endsByStep_enterClass (entersByStep_enter setting limit) hs hc hnew hd given location
    | ofDefine d reference given location =>
      exact endsByStep_enterDefine (entersByStep_enter setting limit) hs d hready given location

/-! ### Whole evaluations -/

/-- The definition for the node has its resource refused, or its body is executed in a new scope. -/
theorem enterNode_cases (hs : Reachable setting s) (enter : Enter) (n : NodeDefinition) :
    (∃ e s', enterNode setting enter n s = .error e s' ∧ e.isOfEntering = false ∧
      Stopped setting s s') ∨
    ∃ scope s', enterNode setting enter n s = executeAll setting enter scope n.body s' ∧
      Opens setting s scope s' := by
  let reference := Reference.of "node" (nodeTitle n)
  let entered : EvalState :=
    { s with events := s.events ++ [.nodeEntered setting.node.name reference.text] }
  have hreport : Step setting s entered := .report (by simp [Event.IsClassEntered])
  let r := Resource.new reference ScopeArena.top n.location
  have hends := endsByStep_place (hs.tail hreport) ScopeArena.top r
  have hinside := failsInside_place ScopeArena.top r entered
  rw [enterNode, bind_apply, report_apply]
  simp only [bind_apply]
  -- Neither the report nor the new scope can fail; the resource of the node can be there already.
  cases hplace : place ScopeArena.top r entered with
  | error e s' =>
    rw [hplace] at hends hinside
    exact .inl ⟨e, s', rfl, hinside, Stopped.rebase (.single hreport) hends⟩
  | ok _ s₁ =>
    rw [hplace] at hends
    have hstep : Step setting s₁
        { s₁ with scopes := s₁.scopes.child ScopeArena.top "" reference } :=
      .openScope (mem_references_of_place hplace)
    obtain ⟨c, c', -, -, rfl⟩ := place_eq_ok hplace
    refine .inr ⟨entered.scopes.next, _, rfl, ?_⟩
    exact {
      steps := ((Relation.ReflTransGen.single hreport).trans hends.1).tail hstep
      inheriting_eq := rfl
      classScopes_eq := rfl
      scope_lt := s.scopes.next_lt_size_child ScopeArena.top "" reference }

/-- Without node definitions nothing is executed for the node; otherwise it is refused, or the body
of a definition is executed in a new scope. -/
theorem executeNode_cases (hs : Reachable setting s) (enter : Enter) :
    executeNode setting enter s = .ok () s ∨
    (∃ e s', executeNode setting enter s = .error e s' ∧ e.isOfEntering = false ∧
      Stopped setting s s') ∨
    ∃ (n : NodeDefinition) (scope : ScopeId) (s' : EvalState),
      executeNode setting enter s = executeAll setting enter scope n.body s' ∧
        Opens setting s scope s' := by
  unfold executeNode
  split
  · exact .inl rfl
  · cases setting.collection.nodeDefinition? setting.node.name with
    | none => exact .inr (.inl ⟨_, s, rfl, rfl, .after .refl⟩)
    | some n =>
      rcases enterNode_cases hs enter n with herror | ⟨scope, s', heq, hopens⟩
      · exact .inr (.inl herror)
      · exact .inr (.inr ⟨n, scope, s', heq, hopens⟩)

theorem endsByStep_executeNode {enter : Enter} (h : EntersByStep setting enter)
    (hs : Reachable setting s) : EndsByStep setting s (executeNode setting enter s) := by
  rcases executeNode_cases hs enter with
    heq | ⟨e, s', heq, -, hstopped⟩ | ⟨n, scope, s', heq, hopens⟩
  · rw [heq]
    exact ⟨.refl, rfl⟩
  · rw [heq]
    exact hstopped
  · rw [heq]
    have hbody := (h.simulation (hs.trans hopens.steps) hopens.scope_lt).executeAll n.body
      Coupling.permits_all
    exact EndsByStep.rebase hopens.steps hopens.inheriting_eq (endsByStep_of_couples hbody)

/-- Everything that is written for a node is executed by steps. -/
theorem endsByStep_executeSite (setting : Setting) (limit : Nat) :
    EndsByStep setting (EvalState.start setting)
      (executeSite setting (Evaluation.enter setting limit) (EvalState.start setting)) := by
  have h := entersByStep_enter setting limit
  have htop : ScopeArena.top < (EvalState.start setting).scopes.size := Nat.one_pos
  have hmanifests := Coupling.Couples.forM
    (fun ast : Ast =>
      (h.simulation (.start setting) htop).executeAll ast.statements Coupling.permits_all)
    setting.collection.manifests
  refine (endsByStep_of_couples hmanifests).bind fun _ s₁ _ hdone => ?_
  obtain ⟨hs₁, hi₁⟩ := hdone
  exact EndsByStep.rebase hs₁ hi₁ (endsByStep_executeNode h hs₁)

theorem endsByStep_program (setting : Setting) (limit : Nat) :
    EndsByStep setting (EvalState.start setting)
      (program setting limit (EvalState.start setting)) := by
  refine (endsByStep_executeSite setting limit).bind fun _ s _ hdone => ?_
  obtain ⟨hs, hi⟩ := hdone
  rw [finishState_apply]
  cases finish setting.registry s with
  | ok c => exact ⟨hs, hi⟩
  | error e => exact .after hs

/-- The state in which the catalog is finished is reachable. -/
theorem reachable_of_program {limit : Nat} {c : Catalog} {s : EvalState}
    (h : program setting limit (EvalState.start setting) = .ok c s) : Reachable setting s := by
  have hends := endsByStep_program setting limit
  rw [h] at hends
  exact hends.1

end Manifest
