import Manifest.Proofs.Evaluation.RegistryGrowth
import Manifest.Proofs.Evaluation.Room

/-!
# Evaluations end

If no define declares an instance of itself, neither directly nor through other defines, then every
evaluation ends by itself: bodies are entered within each other no more often than the room for them
allows, whatever classes include, inherit or refer to each other.  A limit beyond that is never
reached, and which one it is makes no difference.

## Main definitions

* `InTime` — an outcome that is no failure for lack of room.
* `EntersInTime` — a way to enter classes and defines that does not fail for lack of room as long as
  there is some.
* `Collection.nesting` — how much room every evaluation of a collection has enough with.

## Main results

* `entersInTime_enter` — entering with a limit.
* `program_eq_of_le` — a limit that was not reached may as well be larger.
* `run_ends` — evaluations end.
-/

namespace Manifest

open Evaluation

variable {α β : Type} {setting : Setting} {base s s' : EvalState}

/-! ### Outcomes that are no failure for lack of room -/

/-- An outcome that is no failure for lack of room. -/
def InTime : EStateM.Result EvalError EvalState α → Prop :=
  EndsIn (fun _ => True) fun e _ => e ≠ .tooDeep

theorem FailsInside.inTime {r : EStateM.Result EvalError EvalState α} (h : FailsInside r) :
    InTime r := by
  refine h.imp (fun _ => id) ?_
  rintro e s hinside rfl
  cases hinside

/-! ### Executing in time -/

/-- An evaluation that goes by steps and does not fail for lack of room. -/
def Settling (setting : Setting) (base : EvalState) : Coupling where
  running := (Track setting base).running
  failed _ _ := False
  excused e := e ≠ .tooDeep

theorem settling_outcomes_iff {r : EStateM.Result EvalError EvalState α} :
    (Settling setting base).Outcomes r r ↔
      InTime r ∧ ∀ a s, r = .ok a s → Steps setting base s ∧ s.inheriting = base.inheriting := by
  cases r with
  | ok a s =>
    refine ⟨fun h => ⟨trivial, ?_⟩, fun h => ⟨rfl, rfl, h.2 a s rfl⟩⟩
    rintro _ _ ⟨⟩
    exact h.2.2
  | error e s => exact ⟨fun h => ⟨h.elim id fun hf => hf.2.elim, nofun⟩, fun h => Or.inl h.1⟩

theorem inTime_of_couples {m : Eval α} (h : (Settling setting s).Couples m m) : InTime (m s) :=
  (settling_outcomes_iff.mp (h s s ⟨rfl, .refl, rfl⟩)).1

/-- What goes by steps and never fails for lack of room. -/
theorem settling_outcomes {r : EStateM.Result EvalError EvalState α}
    (h : (Track setting base).Outcomes r r) (hr : InTime r) :
    (Settling setting base).Outcomes r r := by
  refine settling_outcomes_iff.mpr ⟨hr, ?_⟩
  rintro a s rfl
  exact outcomes_self_iff.mp h

theorem settling_couples {m : Eval α} (h : (Track setting base).Couples m m)
    (hm : ∀ s, InTime (m s)) : (Settling setting base).Couples m m := by
  rintro s _ ⟨rfl, hs⟩
  exact settling_outcomes (h s s ⟨rfl, hs⟩) (hm s)

/-- What is entered is no define of this rank or above. -/
def Entry.Below (setting : Setting) (rank : Nat) : Entry → Prop
  | .ofClass .. => True
  | .ofDefine d .. => setting.collection.rank d < rank

/-- Entering classes and defines does not fail for lack of room where there is room enough. -/
def EntersInTime (setting : Setting) (limit : Nat) (enter : Enter) : Prop :=
  ∀ entry s rank, Reachable setting s → entry.Ready setting s → entry.Below setting rank →
    setting.room s rank ≤ limit → InTime (enter entry s)

/-- Executing statements in a scope does not fail for lack of room if entering classes and defines
does not. -/
theorem EntersInTime.simulation {limit rank : Nat} {enter : Enter}
    (h : EntersInTime setting limit enter) (hsteps : EntersByStep setting enter)
    (hb : Reachable setting base) {scope : ScopeId} (hscope : scope < base.scopes.size)
    (hroom : setting.room base rank ≤ limit) :
    Simulation (Settling setting base) setting setting enter enter scope
      (fun d => setting.collection.rank d < rank) := by
  have track := hsteps.simulation hb hscope
  refine {
    collection_alike := .refl _
    registry_contains := fun _ _ => Or.inl rfl
    node_name_eq := rfl
    refuses := fun he _ s t _ =>
      .of_excused (C := Settling setting base) (by rintro rfl; cases he) s _
    space_eq := track.space_eq
    owner_eq := track.owner_eq
    classScopes_eq := track.classScopes_eq
    localVariable_eq := track.localVariable_eq
    location_eq := track.location_eq
    readVariable := fun name location => settling_couples (track.readVariable name location)
      fun s => (failsInside_readVariable setting scope name location s).inTime
    setVariable := fun name value location => settling_couples
      (track.setVariable name value location)
      fun s => (failsInside_setVariable scope name value location s).inTime
    report := fun quiet => settling_couples (track.report quiet) fun _ => trivial
    relate := fun kind => settling_couples (track.relate kind) fun _ => trivial
    place := fun hr => settling_couples (track.place hr)
      fun s => (failsInside_place scope _ s).inTime
    blames_of_place := fun _ _ => trivial
    enterClass := ?enterClass
    enterDefine := ?enterDefine }
  case enterClass =>
    rintro c given location s _ hc ⟨rfl, hs, hi⟩ hnew
    have hready : scope < s.scopes.size := Nat.lt_of_lt_of_le hscope hs.size_le
    refine settling_outcomes (track.enterClass given location hc ⟨rfl, hs, hi⟩ hnew) ?_
    exact h _ s rank (hb.trans hs) ⟨hc, hnew, hready⟩ trivial
      (Nat.le_trans (Setting.room_le_of_steps hs hi) hroom)
  case enterDefine =>
    rintro d reference given location s _ hd - ⟨rfl, hs, hi⟩ hm
    refine settling_outcomes (track.enterDefine given location trivial trivial ⟨rfl, hs, hi⟩ hm) ?_
    exact h _ s rank (hb.trans hs) hm hd (Nat.le_trans (Setting.room_le_of_steps hs hi) hroom)

/-- Where any define may be declared. -/
theorem permits_rank_lt (hend : setting.collection.InstancesEnd) (C : Coupling) (scope : ScopeId)
    (names : List String) :
    C.Permits setting scope
      (fun d => setting.collection.rank d < setting.collection.allDefines.length) names :=
  fun _ _ _ _ _ _ hfound =>
    Collection.rank_lt_length hend (Collection.hasDefine_of_findDefine? hfound)

/-! ### Entering in time -/

/-- A class that waits is refused at once. -/
theorem inTime_enterClass_of_waiting (hs : Reachable setting s) {c : ClassDefinition}
    (hc : setting.collection.Defines c) (hwaits : c.name ∈ s.inheriting) (inner : Enter)
    (given : Option (Table Value)) (declaring : ScopeId) (location : Location) :
    InTime (enterClass setting inner c given declaring location s) := by
  obtain ⟨d, hd, hname, hinherits⟩ := hs.orderly.inherits c.name hwaits
  obtain ⟨parentName, hparent⟩ := Option.ne_none_iff_exists'.mp (hd.unique hc hname ▸ hinherits)
  have hguard : s.inheriting.contains c.name = true := List.contains_iff_mem.mpr hwaits
  rw [enterClass, bind_apply, parentScope, hparent]
  simp only [enterParent_apply, hguard, Bool.true_or, if_true]
  cases setting.collection.findClass? parentName (Name.parent c.name) <;> exact nofun

theorem inTime_parentScope {limit rank : Nat} {inner : Enter}
    (h : EntersInTime setting limit inner) (hsteps : EntersByStep setting inner)
    (hs : Reachable setting s) {c : ClassDefinition} (hc : setting.collection.Defines c)
    (hnew : s.classScopes.get? c.name = none) (hfree : s.isFree c = true)
    {declaring : ScopeId} (hd : declaring < s.scopes.size)
    (hroom : setting.room s rank ≤ limit + 1) (location : Location) :
    InTime (parentScope setting inner c declaring location s) := by
  unfold parentScope
  cases hp : c.parent with
  | none => trivial
  | some parentName =>
    simp only [enterParent_apply]
    cases hparent : setting.collection.findClass? parentName (Name.parent c.name) with
    | none => exact nofun
    | some parent =>
      simp only
      split
      · exact nofun
      · let up : EvalState := { s with inheriting := c.name :: s.inheriting }
        have hwaits : c.name ∉ s.inheriting := by
          have hnot := (Bool.and_eq_true_iff.mp hfree).2
          simpa using hnot
        have hstep : Step setting s up := .ascend hc (by simp [hp]) hnew hwaits
        -- The class waits now, which leaves room enough for the one that it inherits from.
        have hleft := Setting.room_le_of_free_lt (Setting.free_ascend_lt hc hfree) hroom
        have hends : InTime (evaluateClass inner parent none declaring location up) :=
          inTime_of_couples ((h.simulation hsteps (hs.tail hstep) hd hleft).evaluateClass
            (Collection.defines_of_findClass? hparent) none location)
        cases hr : evaluateClass inner parent none declaring location up with
        | ok scope s' => trivial
        | error e s' =>
          rw [hr] at hends
          exact hends

theorem inTime_enterClass {limit rank : Nat} {inner : Enter}
    (hend : setting.collection.InstancesEnd) (h : EntersInTime setting limit inner)
    (hsteps : EntersByStep setting inner) (hs : Reachable setting s) {c : ClassDefinition}
    (hc : setting.collection.Defines c) (hnew : s.classScopes.get? c.name = none)
    {declaring : ScopeId} (hd : declaring < s.scopes.size)
    (hroom : setting.room s rank ≤ limit + 1) (given : Option (Table Value))
    (location : Location) : InTime (enterClass setting inner c given declaring location s) := by
  by_cases hwaits : c.name ∈ s.inheriting
  · exact inTime_enterClass_of_waiting hs hc hwaits inner given declaring location
  have hfree : s.isFree c = true := by simp [EvalState.isFree, hnew, hwaits]
  obtain ⟨hparent, hafter⟩ := endsByStep_parentScope hsteps hs hc hnew hd location
  refine (inTime_parentScope h hsteps hs hc hnew hfree hd hroom location).bind
    fun parent s₁ h₁ _ => ?_
  rw [h₁] at hparent
  obtain ⟨hs₁, hi₁⟩ := hparent
  obtain ⟨hnew₁, -⟩ := hafter parent s₁ h₁
  refine (failsInside_openClass c _ parent declaring location s₁).inTime.bind
    fun scope s₂ h₂ _ => ?_
  have hopen := endsByStep_openClass (hs.trans hs₁) hc hnew₁ (hi₁ ▸ hwaits)
    (Nat.lt_of_lt_of_le hd hs₁.size_le) (given.getD Table.empty) parent location
  rw [h₂] at hopen
  obtain ⟨hs₂, hi₂⟩ := hopen
  -- From now on the class has a scope, which leaves room enough for its body.
  have hleft := Setting.room_le_of_free_lt (Setting.free_openClass_lt hc hfree (hs₁.trans hs₂)
    (hi₂.trans hi₁) (Option.isSome_iff_exists.mpr ⟨scope, (hasScope_of_openClass h₂).2.1⟩)) hroom
  have hscope : scope < s₂.scopes.size := lt_size_of_openClass h₂
  have hbody := (h.simulation hsteps ((hs.trans hs₁).trans hs₂) hscope hleft).executeClass c
    (given.getD Table.empty) location (permits_rank_lt hend _ _ _) trivial
  exact (inTime_of_couples hbody).bind_pure scope

theorem inTime_enterDefine {limit rank : Nat} {inner : Enter}
    (hend : setting.collection.InstancesEnd) (h : EntersInTime setting limit inner)
    (hsteps : EntersByStep setting inner) (hs : Reachable setting s) {d : DefineDefinition}
    (hrank : setting.collection.rank d < rank) {reference : Reference}
    (hm : reference ∈ s.catalog.references) (hroom : setting.room s rank ≤ limit + 1)
    (given : Table Value) (location : Location) :
    InTime (enterDefine setting inner d reference given location s) := by
  have hopens : Opens setting s s.scopes.next (s.instantiated d reference) :=
    opens_instantiated hm d
  have hleft : setting.room (s.instantiated d reference) (setting.collection.rank d) ≤ limit := by
    have hsame : setting.room (s.instantiated d reference) rank ≤ setting.room s rank :=
      Setting.room_le_of_steps hopens.steps hopens.inheriting_eq
    unfold Setting.room at hsame hroom ⊢
    omega
  -- In the scope of an instance names stand for what they stand for in the body of the define.
  have hspace : (s.instantiated d reference).scopes.space s.scopes.next = d.name :=
    s.scopes.space_child_next (s.lexicalParent d.enclosing) d.name reference
  have hpermits : (Settling setting (s.instantiated d reference)).Permits setting s.scopes.next
      (fun e => setting.collection.rank e < setting.collection.rank d) (typeNamesIn d.body) := by
    rintro name hname t _ e ⟨rfl, hs₁, -⟩ hfound
    rw [hs₁.space_eq hopens.scope_lt, hspace] at hfound
    exact Collection.rank_lt hend ⟨name, hname, hfound⟩
  have hbody := (h.simulation hsteps (hs.trans hopens.steps) hopens.scope_lt hleft).executeDefine d
    reference given location hpermits trivial
  rw [enterDefine_apply]
  exact (inTime_of_couples hbody).bind_pure s.scopes.next

/-- Where there is room within the limit, it is not reached. -/
theorem entersInTime_enter (hend : setting.collection.InstancesEnd) :
    ∀ limit, EntersInTime setting limit (Evaluation.enter setting limit)
  | 0 => fun _ _ _ _ _ _ hroom => absurd hroom (Nat.not_succ_le_zero _)
  | limit + 1 => by
    intro entry s rank hs hready hbelow hroom
    have ih := entersInTime_enter hend limit
    have hsteps := entersByStep_enter setting limit
    cases entry with
    | ofClass c given declaring location =>
      obtain ⟨hc, hnew, hd⟩ := hready
      exact inTime_enterClass hend ih hsteps hs hc hnew hd hroom given location
    | ofDefine d reference given location =>
      exact inTime_enterDefine hend ih hsteps hs hbelow hready hroom given location

/-! ### Whole evaluations -/

/-- How much room every evaluation of a collection has enough with: no class is entered within
itself, and between two classes no define is. -/
def Collection.nesting (collection : Collection) : Nat :=
  (collection.allClasses.length + 1) * (collection.allDefines.length + 1)

theorem room_start_le (setting : Setting) :
    setting.room (EvalState.start setting) setting.collection.allDefines.length ≤
      setting.collection.nesting := by
  have hfree : setting.free (EvalState.start setting) ≤ setting.collection.allClasses.length :=
    List.countP_le_length
  have := Nat.mul_le_mul_right (setting.collection.allDefines.length + 1) hfree
  unfold Setting.room Collection.nesting
  rw [Nat.succ_mul]
  omega

theorem inTime_executeNode {limit : Nat} {enter : Enter}
    (hend : setting.collection.InstancesEnd) (h : EntersInTime setting limit enter)
    (hsteps : EntersByStep setting enter) (hs : Reachable setting s)
    (hroom : setting.room s setting.collection.allDefines.length ≤ limit) :
    InTime (executeNode setting enter s) := by
  rcases executeNode_cases hs enter with
    heq | ⟨e, s', heq, hinside, -⟩ | ⟨n, scope, s', heq, hopens⟩
  · rw [heq]
    trivial
  · rw [heq]
    rintro rfl
    cases hinside
  · have hleft := Nat.le_trans (Setting.room_le_of_steps hopens.steps hopens.inheriting_eq) hroom
    have hbody := (h.simulation hsteps (hs.trans hopens.steps) hopens.scope_lt hleft).executeAll
      n.body (permits_rank_lt hend _ _ _)
    rw [heq]
    exact inTime_of_couples hbody

theorem inTime_executeSite {limit : Nat} (hend : setting.collection.InstancesEnd)
    (hlimit : setting.collection.nesting ≤ limit) :
    InTime (executeSite setting (Evaluation.enter setting limit) (EvalState.start setting)) := by
  have h := entersInTime_enter hend limit
  have hsteps := entersByStep_enter setting limit
  have hroom := Nat.le_trans (room_start_le setting) hlimit
  have htop : ScopeArena.top < (EvalState.start setting).scopes.size := Nat.one_pos
  have hmanifests := Coupling.Couples.forM
    (fun ast : Ast => (h.simulation hsteps (.start setting) htop hroom).executeAll ast.statements
      (permits_rank_lt hend _ _ _))
    setting.collection.manifests
  obtain ⟨hend₁, hafter⟩ := settling_outcomes_iff.mp (hmanifests _ _ ⟨rfl, .refl, rfl⟩)
  refine hend₁.bind fun _ s₁ h₁ _ => ?_
  obtain ⟨hs₁, hi₁⟩ := hafter _ s₁ h₁
  exact inTime_executeNode hend h hsteps hs₁
    (Nat.le_trans (Setting.room_le_of_steps hs₁ hi₁) hroom)

/-! #### Finishing -/

theorem inTime_program {limit : Nat} (hend : setting.collection.InstancesEnd)
    (hlimit : setting.collection.nesting ≤ limit) :
    InTime (program setting limit (EvalState.start setting)) := by
  refine (inTime_executeSite hend hlimit).bind fun _ s _ _ => ?_
  rw [finishState_apply]
  cases h : finish setting.registry s with
  | ok c => trivial
  | error e =>
    rintro rfl
    cases isOfEntering_of_finish h

/-- A limit that was not reached may as well be larger. -/
theorem program_eq_of_le {limit limit' : Nat} (hle : limit ≤ limit')
    (h : InTime (program setting limit s)) :
    program setting limit' s = program setting limit s := by
  have hstep : Lockstep (.equal (· = .tooDeep)) setting setting :=
    lockstep_equal (.refl _) rfl (fun _ _ => Or.inl rfl) fun _ _ _ => Coupling.equal_couples_self _
  have hcouples : (Coupling.equal (· = .tooDeep)).Couples (program setting limit)
      (program setting limit') :=
    (hstep.executeSite (hstep.enter_le rfl hle)).bind fun _ => Coupling.equal_couples_self _
  rcases (hcouples s s rfl).ok_or_error with
    ⟨c, t, t', h₁, h₂, rfl⟩ | ⟨e, t, t', h₁, h₂, rfl⟩ | ⟨e, t, h₁, rfl⟩
  · rw [h₁, h₂]
  · rw [h₁, h₂]
  · rw [h₁] at h
    exact absurd rfl h

/-- If no define declares an instance of itself, directly or through others, every evaluation ends:
there is an outcome, a catalog or an error, and no lack of room, that it has with every limit from a
certain one on; and it is the one of the evaluation with the limit that is set. -/
theorem run_ends (setting : Setting) (h : setting.collection.InstancesEnd) :
    ∃ outcome : EStateM.Result EvalError EvalState Catalog, InTime outcome ∧
      (∀ limit, setting.collection.nesting ≤ limit →
        program setting limit (EvalState.start setting) = outcome) ∧
      (match outcome with
        | .ok catalog s => run setting = (.ok catalog, s.events)
        | .error e s => run setting = (.error e, s.events)) := by
  have hends := inTime_program h (Nat.le_refl setting.collection.nesting)
  have hsame : ∀ limit, setting.collection.nesting ≤ limit →
      program setting limit (EvalState.start setting) =
        program setting setting.collection.nesting (EvalState.start setting) :=
    fun limit hlimit => program_eq_of_le hlimit hends
  have hrun := hsame (depthLimit setting.collection) (Nat.le_add_right _ _)
  refine ⟨_, hends, hsame, ?_⟩
  rw [← hrun]
  cases houtcome : program setting (depthLimit setting.collection) (EvalState.start setting) with
  | ok catalog s => exact run_of_program_ok houtcome
  | error e s => exact run_of_program_error houtcome

/-! ### Defines and a class that lead to each other -/

namespace Sample

/-- A resource with the title of the instance that declares it. -/
def namesake (typeName : String) (n : Nat) : Statement :=
  .resource typeName [⟨.variableRead "title" (line n), [], line n⟩] (line n)

/-- An instance of a define. -/
def instanceOf (typeName title : String) (n : Nat) : Statement :=
  .resource typeName [⟨.string title (line n), [], line n⟩] (line n)

/-- A define that includes a class. -/
def farm : DefineDefinition :=
  ⟨⟨"farm", [], none, line 1⟩,
    [.expression (.call "include" [.string "pool" (line 2)] (line 2)), namesake "page" 3]⟩

/-- A define that declares nothing of the kind. -/
def page : DefineDefinition := ⟨⟨"page", [], none, line 4⟩, [namesake "notify" 5]⟩

/-- The class that the define includes; it declares another instance of it. -/
def pool : ClassDefinition := ⟨⟨"pool", [], none, none, line 6⟩, [instanceOf "farm" "second" 7]⟩

/-- A manifest that declares an instance of the define. -/
def looped : Collection where
  manifests := [⟨"site.pp", [instanceOf "farm" "first" 8]⟩]
  definitions :=
    ⟨[("pool", .ofClass pool), ("farm", .ofDefine farm), ("page", .ofDefine page)], by decide⟩
  named := by
    intro e he
    simp only [List.mem_cons, List.not_mem_nil, or_false] at he
    rcases he with rfl | rfl | rfl <;> rfl
  nodes := []
  markers := .empty
  forcedStale := false
  generation := 0

theorem eq_farm_or_page {d : DefineDefinition} (h : looped.HasDefine d) : d = farm ∨ d = page := by
  have hmem := Table.mem_of_get? h
  simp only [looped, List.mem_cons, List.not_mem_nil, or_false, Prod.mk.injEq, reduceCtorEq,
    and_false, false_or, Definition.ofDefine.injEq] at hmem
  exact hmem.imp And.right And.right

/-- Only the first define declares instances, and only of the second one. -/
theorem of_instantiates {d e : DefineDefinition} (hd : looped.HasDefine d)
    (h : looped.Instantiates d e) : d = farm ∧ e = page := by
  have he := h.hasDefine
  obtain ⟨name, hname, hfound⟩ := h
  obtain rfl | rfl := eq_farm_or_page hd
  · refine ⟨rfl, (eq_farm_or_page he).resolve_left ?_⟩
    rintro rfl
    rw [List.mem_singleton.mp hname] at hfound
    have hpage : (looped.findDefine? "page" "farm").map (·.name) = some "page" := by
      decide +kernel
    rw [show looped.findDefine? "page" "farm" = some farm from hfound] at hpage
    exact absurd hpage (by decide)
  · rw [List.mem_singleton.mp hname] at hfound
    have hnotify : (looped.findDefine? "notify" "page").isNone = true := by decide +kernel
    rw [show looped.findDefine? "notify" "page" = some e from hfound] at hnotify
    cases hnotify

theorem instancesEnd_looped : looped.InstancesEnd := by
  intro d hd hloop
  obtain ⟨e, hfirst, hrest⟩ := Relation.TransGen.head'_iff.mp hloop
  obtain ⟨rfl, rfl⟩ := of_instantiates hd hfirst
  rcases hrest.cases_head with hsame | ⟨e, hsecond, -⟩
  · exact absurd (congrArg (·.name) hsame) (by decide)
  · have hsame := (of_instantiates hfirst.hasDefine hsecond).1
    exact absurd (congrArg (·.name) hsame) (by decide)

/-- The evaluation for a node without facts. -/
def nested : Setting := { Sample.setting with collection := looped }

end Sample

theorem run_ends_sample :
    Sample.nested.collection.InstancesEnd ∧
      (∃ outcome : EStateM.Result EvalError EvalState Catalog, InTime outcome ∧
        (∀ limit, Sample.nested.collection.nesting ≤ limit →
          program Sample.nested limit (EvalState.start Sample.nested) = outcome) ∧
        (match outcome with
          | .ok catalog s => run Sample.nested = (.ok catalog, s.events)
          | .error e s => run Sample.nested = (.error e, s.events))) ∧
      (run Sample.nested).1.toOption.map (fun c => c.references.length) = some 8 :=
  ⟨Sample.instancesEnd_looped, run_ends Sample.nested Sample.instancesEnd_looped, by
    decide +kernel⟩

end Manifest
