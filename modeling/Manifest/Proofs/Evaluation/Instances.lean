import Manifest.Proofs.Evaluation.Completion

/-!
# Instances of defines

What is given to an instance is checked against the parameters of its define when the instance is
declared.  If it fits, nothing that is executed later refuses it.  Finishing does not know what an
instance is: it asks the registry for a type with the name of the define, and if there happens to be
one, the instance is treated as a resource of that type.

## Main definitions

* `DefineDefinition.Fits` — what is given is what a define asks for.
* `Spares` — an outcome that does not refuse the parameters of a certain resource.
* `Treatment` — what finishing makes of an instance.

## Main results

* `spares_enter` — entering anything else does not refuse the parameters of a resource that is
  there.
* `spares_declareResource` — neither does declaring it, if they fit.
* `instance_treated` — what becomes of an instance, from its declaration to the finished catalog.
* `instance_rejected` — an instance that fits and is rejected for the sake of a registered type.
-/

namespace Manifest

open Evaluation

variable {α β : Type} {setting : Setting} {registry : Registry} {reference : Reference}
  {s s' t : EvalState}

/-- What is given to an instance is what its define asks for. -/
structure DefineDefinition.Fits (d : DefineDefinition) (given : Table Value) : Prop where
  /-- Only declared parameters, `name` and metaparameters are given, -/
  known : ∀ name ∈ given.keys, isKnownParameter d.parameters true name = true
  /-- and no parameter without a default is left out. -/
  required : ∀ p ∈ d.parameters, p.default = none → given.contains p.name = true

/-! ### Resources whose parameters are not refused -/

/-- A resource is there, and no failure is about its parameters. -/
def Spares (reference : Reference) : EStateM.Result EvalError EvalState α → Prop :=
  EndsIn (fun s => (s.catalog.get? reference).isSome = true) fun e _ => e.blamed? ≠ some reference

/-- An evaluation with itself that spares a resource. -/
def sparing (reference : Reference) : Coupling where
  running s t := s = t ∧ (s.catalog.get? reference).isSome = true
  failed _ _ := False
  excused e := e.blamed? ≠ some reference

theorem sparing_outcomes_iff {r : EStateM.Result EvalError EvalState α} :
    (sparing reference).Outcomes r r ↔ Spares reference r := by
  cases r with
  | ok a s => exact ⟨fun h => h.2.2, fun h => ⟨rfl, rfl, h⟩⟩
  | error e s => exact ⟨fun h => h.resolve_right fun hf => hf.2, .inl⟩

theorem sparing_couples {m : Eval α}
    (h : ∀ s, (s.catalog.get? reference).isSome = true → Spares reference (m s)) :
    (sparing reference).Couples m m := by
  rintro s _ ⟨rfl, hs⟩
  exact sparing_outcomes_iff.mpr (h s hs)

theorem spares_of_couples {m : Eval α} (h : (sparing reference).Couples m m)
    (hs : (s.catalog.get? reference).isSome = true) : Spares reference (m s) :=
  sparing_outcomes_iff.mp (h s s ⟨rfl, hs⟩)

/-! #### Single operations -/

theorem spares_error {e : EvalError} (h : e.blamed? = none) (s : EvalState) :
    Spares (α := α) reference (.error e s) := by
  intro hblamed
  rw [h] at hblamed
  cases hblamed

theorem spares_readVariable (scope : ScopeId) (name : String) (location : Location)
    (hs : (s.catalog.get? reference).isSome = true) :
    Spares reference (readVariable setting scope name location s) := by
  rw [readVariable_apply]
  cases s.valueOf? scope name with
  | some value => exact hs
  | none =>
    cases setting.strict with
    | true => exact spares_error rfl s
    | false => exact hs

theorem spares_setVariable (scope : ScopeId) (name : String) (value : Value) (location : Location)
    (hs : (s.catalog.get? reference).isSome = true) :
    Spares reference (setVariable scope name value location s) := by
  rw [setVariable_apply, ScopeArena.setVariable]
  cases s.scopes.localVariable? scope name with
  | some value => exact spares_error rfl s
  | none => exact hs

theorem blamed?_ofCatalog (refusal : CatalogError) :
    (EvalError.ofCatalog refusal).blamed? = none := by
  cases refusal <;> rfl

theorem blamed?_of_place {scope : ScopeId} {r : Resource} {e : EvalError}
    (h : place scope r s = .error e s') : e.blamed? = none := by
  rw [place_apply] at h
  cases hadd : s.catalog.addResource r with
  | error refusal =>
    rw [hadd] at h
    cases h
    exact blamed?_ofCatalog refusal
  | ok c =>
    simp only [hadd, contain_apply] at h
    split at h
    · cases h
    · next refusal _ =>
      cases h
      exact blamed?_ofCatalog refusal

theorem spares_place (scope : ScopeId) (r : Resource)
    (hs : (s.catalog.get? reference).isSome = true) : Spares reference (place scope r s) := by
  cases h : place scope r s with
  | ok _ s' =>
    obtain ⟨c, c', hadd, hcontain, rfl⟩ := place_eq_ok h
    obtain ⟨kept, hkept⟩ := Option.isSome_iff_exists.mp hs
    exact Option.isSome_iff_exists.mpr ⟨kept, Catalog.get?_place hadd hcontain hkept⟩
  | error e s' => exact spares_error (blamed?_of_place h) s'

/-- A resource that comes in is another one than those that are there. -/
theorem ne_of_place {scope : ScopeId} {r : Resource} (h : place scope r s = .ok () s')
    (hs : (s.catalog.get? reference).isSome = true) : r.reference ≠ reference := by
  rintro rfl
  obtain ⟨c, c', hadd, -, -⟩ := place_eq_ok h
  rw [(Catalog.addResource_eq_ok hadd).1] at hs
  cases hs

/-! #### Entering classes and defines -/

/-- What is entered is an instance with a certain reference. -/
def Entry.Instantiates (reference : Reference) : Entry → Prop
  | .ofClass .. => False
  | .ofDefine _ other _ _ => other = reference

/-- A way to enter classes and defines that spares a resource unless it is entered itself. -/
def EntersSparing (reference : Reference) (enter : Enter) : Prop :=
  ∀ entry s, (s.catalog.get? reference).isSome = true → ¬ entry.Instantiates reference →
    Spares reference (enter entry s)

theorem EntersSparing.simulation {enter : Enter} (h : EntersSparing reference enter)
    (setting : Setting) (scope : ScopeId) :
    Simulation (sparing reference) setting setting enter enter scope (fun _ => True)
      (· ≠ reference) where
  collection_alike := .refl _
  registry_contains := fun _ _ => Or.inl rfl
  node_name_eq := rfl
  refuses := fun _ hblamed => sparing_couples fun _ _ hsome => hblamed reference hsome rfl
  space_eq := by rintro s _ ⟨rfl, -⟩; rfl
  owner_eq := by rintro s _ ⟨rfl, -⟩; rfl
  classScopes_eq := by rintro s _ ⟨rfl, -⟩; rfl
  localVariable_eq := by rintro s _ name ⟨rfl, -⟩; rfl
  location_eq := by rintro s _ c ⟨rfl, -⟩; rfl
  readVariable := fun name location => sparing_couples fun _ hs =>
    spares_readVariable scope name location hs
  setVariable := fun name value location => sparing_couples fun _ hs =>
    spares_setVariable scope name value location hs
  report := fun _ => sparing_couples fun _ hs => hs
  relate := fun _ => sparing_couples fun _ hs => hs
  place := fun _ => sparing_couples fun _ hs => spares_place scope _ hs
  enterClass := by
    rintro c given location s _ - ⟨rfl, hs⟩ -
    exact sparing_outcomes_iff.mpr (h (.ofClass c given scope location) s hs id)
  blames_of_place := by
    rintro r s s' _ ⟨rfl, hs⟩ hplace
    exact ne_of_place hplace hs
  enterDefine := by
    rintro d other given location s _ - hother ⟨rfl, hs⟩ -
    exact sparing_outcomes_iff.mpr (h (.ofDefine d other given location) s hs hother)

theorem spares_enterParent {inner : Enter} (h : EntersSparing reference inner)
    (hs : (s.catalog.get? reference).isSome = true) (c : ClassDefinition) (parentName : String)
    (declaring : ScopeId) (location : Location) :
    Spares reference (enterParent setting inner c parentName declaring location s) := by
  rw [enterParent_apply]
  cases hparent : setting.collection.findClass? parentName (Name.parent c.name) with
  | none => exact spares_error rfl s
  | some parent =>
    simp only
    split
    · exact spares_error rfl s
    · have hspares := spares_of_couples ((h.simulation setting declaring).evaluateClass
        (Collection.defines_of_findClass? hparent) none location)
        (s := { s with inheriting := c.name :: s.inheriting }) hs
      cases hclass : Evaluation.evaluateClass inner parent none declaring location
          { s with inheriting := c.name :: s.inheriting } with
      | ok scope s' =>
        rw [hclass] at hspares
        exact hspares
      | error e s' =>
        rw [hclass] at hspares
        exact hspares

theorem spares_enterClass {inner : Enter} (h : EntersSparing reference inner)
    (hs : (s.catalog.get? reference).isSome = true) (c : ClassDefinition)
    (given : Option (Table Value)) (declaring : ScopeId) (location : Location) :
    Spares reference (enterClass setting inner c given declaring location s) := by
  have hparent : Spares reference (parentScope setting inner c declaring location s) := by
    unfold parentScope
    cases c.parent with
    | some parentName => exact spares_enterParent h hs c parentName declaring location
    | none => exact hs
  refine hparent.bind fun parent s₁ _ hs₁ => ?_
  have hopen : Spares reference
      (openClass c (given.getD Table.empty) parent declaring location s₁) := by
    have hplace := spares_place declaring
      (classResource c (given.getD Table.empty) s₁.scopes.next location)
      (s := s₁.opened c parent) hs₁
    rw [openClass_apply]
    cases hplaced : place declaring
        (classResource c (given.getD Table.empty) s₁.scopes.next location)
        (s₁.opened c parent) with
    | ok _ s₂ =>
      rw [hplaced] at hplace
      exact hplace
    | error e s₂ =>
      rw [hplaced] at hplace
      exact hplace
  refine hopen.bind fun scope s₂ h₂ hs₂ => ?_
  -- The class has just come in, and so it is not the resource that is to be spared.
  have hne : Reference.ofClass c.name ≠ reference :=
    ne_of_place (openClass_eq_ok h₂).2 hs₁
  have hbody := (h.simulation setting scope).executeClass c (given.getD Table.empty) location
    Coupling.permits_all hne
  exact (spares_of_couples hbody hs₂).bind_pure scope

/-- What the body of a define spares is spared when an instance is entered, since the new scope
leaves the catalog alone. -/
theorem spares_enterDefine {inner : Enter} {d : DefineDefinition} {other : Reference}
    {given : Table Value} {location : Location}
    (h : (sparing reference).Couples
      (executeDefine setting inner d other given s.scopes.next location)
      (executeDefine setting inner d other given s.scopes.next location))
    (hs : (s.catalog.get? reference).isSome = true) :
    Spares reference (enterDefine setting inner d other given location s) := by
  have hopened : Spares reference
      (executeDefine setting inner d other given s.scopes.next location (s.instantiated d other)) :=
    spares_of_couples h hs
  rw [enterDefine_apply]
  exact hopened.bind_pure s.scopes.next

/-- Entering anything else does not refuse the parameters of a resource that is there. -/
theorem spares_enter (setting : Setting) (reference : Reference) :
    ∀ limit, EntersSparing reference (enter setting limit)
  | 0 => fun _ s _ _ => spares_error rfl s
  | limit + 1 => by
    intro entry s hs hentry
    cases entry with
    | ofClass c given declaring location =>
      exact spares_enterClass (spares_enter setting reference limit) hs c given declaring location
    | ofDefine d other given location =>
      have sim := (spares_enter setting reference limit).simulation setting s.scopes.next
      exact spares_enterDefine
        (sim.executeDefine d other given location Coupling.permits_all hentry) hs

/-! ### The check of an instance -/

/-- A parameter that is left out ends the loop unless it has a default. -/
theorem contains_of_forM_bindParameter {enter : Enter} {given : Table Value} {scope : ScopeId}
    {location : Location} : ∀ {declared : List Parameter} {s : EvalState},
      (declared.forM (bindParameter setting enter given reference scope location) : Eval Unit) s =
        .ok () s' →
      ∀ p ∈ declared, p.default = none → given.contains p.name = true
  | [], _, _, p, hp, _ => nomatch hp
  | q :: rest, s, h, p, hp, hdefault => by
    rw [forM_cons_apply] at h
    cases hq : bindParameter setting enter given reference scope location q s with
    | error e t =>
      rw [hq] at h
      cases h
    | ok _ t =>
      rw [hq] at h
      rcases List.mem_cons.mp hp with rfl | hp
      · rw [Table.contains]
        cases hgiven : given.get? p.name with
        | some value => rfl
        | none =>
          simp only [bindParameter, hgiven, hdefault] at hq
          cases hq
      · exact contains_of_forM_bindParameter h p hp hdefault

theorem fits_of_bindParameters {enter : Enter} {d : DefineDefinition} {given : Table Value}
    {scope : ScopeId} {location : Location}
    (h : bindParameters setting enter d.parameters given reference scope location true s =
      .ok () s') : d.Fits given := by
  unfold bindParameters at h
  cases hfind : given.keys.find? fun name => !isKnownParameter d.parameters true name with
  | some name =>
    rw [hfind] at h
    cases h
  | none =>
    rw [hfind] at h
    refine ⟨fun name hname => ?_, contains_of_forM_bindParameter h⟩
    simpa using List.find?_eq_none.mp hfind name hname

/-- An instance is only evaluated if what is given to it fits. -/
theorem fits_of_declareResource {limit : Nat} {scope : ScopeId} {d : DefineDefinition}
    {given : Table Value} {location : Location} {title : String}
    (h : declareResource (enter setting limit) scope (.define d) given location title s =
      .ok () s') : d.Fits given := by
  obtain ⟨_, s₁, -, h⟩ := bind_eq_ok h
  obtain ⟨_, s₂, henter, -⟩ := bind_eq_ok h
  cases limit with
  | zero => cases henter
  | succ limit =>
    obtain ⟨_, s₃, -, henter⟩ := bind_eq_ok henter
    obtain ⟨_, s₄, -, henter⟩ := bind_eq_ok henter
    obtain ⟨_, s₅, hbody, -⟩ := bind_eq_ok henter
    obtain ⟨_, s₆, -, hbody⟩ := bind_eq_ok hbody
    obtain ⟨_, s₇, hbind, -⟩ := bind_eq_ok hbody
    exact fits_of_bindParameters hbind

theorem couples_bindParameters {inner : Enter} (h : EntersSparing reference inner)
    {d : DefineDefinition} {given : Table Value} (hfits : d.Fits given) (scope : ScopeId)
    (location : Location) :
    (sparing reference).Couples
      (bindParameters setting inner d.parameters given reference scope location true)
      (bindParameters setting inner d.parameters given reference scope location true) := by
  have sim := h.simulation setting scope
  have hknown : (given.keys.find? fun name => !isKnownParameter d.parameters true name) = none :=
    List.find?_eq_none.mpr fun name hname => by simp [hfits.known name hname]
  unfold bindParameters
  rw [hknown]
  refine .forM_mem fun p hp => ?_
  unfold bindParameter
  cases hgiven : given.get? p.name with
  | some value => exact sim.setVariable p.name value p.location
  | none =>
    cases hdefault : p.default with
    | some default =>
      exact (sim.evaluate default).bind fun v => sim.setVariable p.name v p.location
    | none =>
      have hrequired := hfits.required p hp hdefault
      rw [Table.contains, hgiven] at hrequired
      cases hrequired

/-- The resource that an instance of a define gets. -/
def DefineDefinition.resource (d : DefineDefinition) (given : Table Value) (scope : ScopeId)
    (location : Location) (title : String) : Resource :=
  { Resource.new (.of d.name title) scope location with parameters := given }

theorem DefineDefinition.reference_resource (d : DefineDefinition) (given : Table Value)
    (scope : ScopeId) (location : Location) (title : String) :
    (d.resource given scope location title).reference = .of d.name title := rfl

/-- An instance gets its resource before it is entered. -/
theorem declareResource_define (enter : Enter) (scope : ScopeId) (d : DefineDefinition)
    (given : Table Value) (location : Location) (title : String) :
    declareResource enter scope (.define d) given location title =
      (place scope (d.resource given scope location title) >>= fun _ =>
        enter (.ofDefine d (.of d.name title) given location) >>= fun _ => pure ()) := rfl

theorem couples_executeDefine (setting : Setting) {inner : Enter}
    (h : EntersSparing reference inner) {d : DefineDefinition} {given : Table Value}
    (hfits : d.Fits given) (scope : ScopeId) (location : Location) :
    (sparing reference).Couples
      (executeDefine setting inner d reference given scope location)
      (executeDefine setting inner d reference given scope location) := by
  have sim := h.simulation setting scope
  refine (sim.setVariable "title" (.string reference.title) location).bind fun _ => ?_
  refine (couples_bindParameters h hfits scope location).bind fun _ => ?_
  exact (sim.bindName _ location).bind fun _ => sim.executeAll d.body Coupling.permits_all

/-- If what is given to an instance fits, declaring it fails for other reasons, if it does. -/
theorem spares_declareResource (setting : Setting) (limit : Nat) (scope : ScopeId)
    {d : DefineDefinition} {given : Table Value} (hfits : d.Fits given) (location : Location)
    (title : String) (s : EvalState) :
    Spares (.of d.name title)
      (declareResource (enter setting limit) scope (.define d) given location title s) := by
  rw [declareResource_define, bind_apply]
  cases hplace : place scope (d.resource given scope location title) s with
  | error e s' => exact spares_error (blamed?_of_place hplace) s'
  | ok _ s₁ =>
    have hs₁ := get?_place hplace
    rw [DefineDefinition.reference_resource] at hs₁
    generalize Reference.of d.name title = reference at hs₁ ⊢
    have hthere : (s₁.catalog.get? reference).isSome = true := by rw [hs₁]; rfl
    cases limit with
    | zero => exact spares_error rfl s₁
    | succ limit =>
      have hinner := spares_enter setting reference limit
      have hbody := couples_executeDefine setting hinner hfits s₁.scopes.next location
      have hentered := spares_enterDefine hbody hthere
      exact hentered.bind fun _ _ _ h => h

/-! ### What is executed later -/

/-- An instance stays as it is declared until the catalog is finished. -/
theorem get?_of_declareResource {limit : Nat} {scope : ScopeId} {d : DefineDefinition}
    {given : Table Value} {location : Location} {title : String}
    (h : declareResource (enter setting limit) scope (.define d) given location title s =
      .ok () s') (hsteps : Steps setting s' t) :
    t.catalog.get? (.of d.name title) = some (d.resource given scope location title) := by
  refine hsteps.get?_eq ?_
  rw [declareResource_define] at h
  obtain ⟨_, s₁, hplace, h⟩ := bind_eq_ok h
  obtain ⟨id, s₂, henter, h⟩ := bind_eq_ok h
  cases h
  have hplaced := get?_place hplace
  rw [DefineDefinition.reference_resource] at hplaced
  generalize Reference.of d.name title = reference at hplaced henter ⊢
  have hstep := lockstep_get? setting reference (d.resource given scope location title)
  exact (hstep.enter limit _).along_ok hplaced henter

theorem spares_executeAll (setting : Setting) (limit : Nat) (scope : ScopeId)
    (statements : List Statement)
    (hs : (s.catalog.get? reference).isSome = true) :
    Spares reference (executeAll setting (enter setting limit) scope statements s) :=
  spares_of_couples (((spares_enter setting reference limit).simulation setting scope).executeAll
    statements Coupling.permits_all) hs

theorem spares_executeNode (setting : Setting) (limit : Nat)
    (hs : (s.catalog.get? reference).isSome = true) :
    Spares reference (executeNode setting (enter setting limit) s) := by
  unfold executeNode
  split
  · exact hs
  · cases setting.collection.nodeDefinition? setting.node.name with
    | none => exact spares_error rfl s
    | some n =>
      have hreported : Spares (α := Unit) reference (.ok () s) := hs
      unfold enterNode
      refine EndsIn.bind (m := report _) hs fun _ s₁ _ hs₁ => ?_
      refine (spares_place _ _ hs₁).bind fun _ s₂ _ hs₂ => ?_
      refine EndsIn.bind (m := newScope _ _ _) hs₂ fun scope s₃ _ hs₃ => ?_
      exact spares_executeAll setting limit scope n.body hs₃

/-! ### Finishing -/

/-- What finishing makes of an instance with given parameters.  It has nothing to do with the
define: what matters is a type that is registered under the same name, if there is one. -/
structure Treatment (registry : Registry) (reference : Reference) (given : Table Value)
    (s : EvalState) : Prop where
  /-- A finished instance has what it was given, unless there is such a type, -/
  kept : ∀ catalog, finish registry s = .ok catalog → ∃ r, catalog.get? reference = some r ∧
    (r.parameters = given ↔
      ∀ type, registry.get? reference.typeName = some type →
        given.contains type.namevar = true)
  /-- whose name variable it gets. -/
  added : ∀ catalog type, finish registry s = .ok catalog →
    registry.get? reference.typeName = some type → given.contains type.namevar = false →
    ∃ r, catalog.get? reference = some r ∧
      r.parameters = given.insert type.namevar (.string reference.title)
  /-- An instance is rejected only for a parameter that such a type does not take, -/
  rejected : ∀ e, finish registry s = .error e → e.blamed? = some reference →
    ∃ type name location, registry.get? reference.typeName = some type ∧ name ∈ given.keys ∧
      isMetaparameter name = false ∧ type.accepts name = false ∧
      e = .invalidParameter reference name location
  /-- and with such a parameter nothing is finished. -/
  conforms : ∀ catalog type, finish registry s = .ok catalog →
    registry.get? reference.typeName = some type →
    ∀ name ∈ given.keys, isMetaparameter name = true ∨ type.accepts name = true

theorem parameters_withNamevar (registry : Registry) (r : Resource) :
    (withNamevar registry r).parameters =
      match registry.get? r.reference.typeName with
      | some type =>
        if r.parameters.contains type.namevar then r.parameters
        else r.parameters.insert type.namevar (.string r.reference.title)
      | none => r.parameters := by
  rw [withNamevar]
  cases registry.get? r.reference.typeName with
  | none => rfl
  | some type =>
    simp only
    split <;> rfl

/-- Besides the name variable, a resource with its name variable has what it had before. -/
theorem mem_keys_withNamevar {r : Resource} {type : TypeDescriptor}
    (htype : registry.get? r.reference.typeName = some type) {name : String} :
    name ∈ (withNamevar registry r).parameters.keys ↔
      name ∈ r.parameters.keys ∨ name = type.namevar := by
  simp only [← Table.get?_isSome_iff, parameters_withNamevar, htype]
  split
  · next hgiven =>
    refine ⟨.inl, fun h => h.elim id ?_⟩
    rintro rfl
    exact hgiven
  · rw [Table.get?_insert]
    by_cases hname : name = type.namevar <;> simp [hname]

/-- A name variable is taken by its type. -/
theorem TypeDescriptor.accepts_namevar (type : TypeDescriptor) :
    type.accepts type.namevar = true := by
  simp [TypeDescriptor.accepts]

theorem treatment_of_get? (hs : Reachable setting s) {r : Resource}
    (hr : s.catalog.get? r.reference = some r) :
    Treatment setting.registry r.reference r.parameters s := by
  have hfinished : ∀ catalog, finish setting.registry s = .ok catalog →
      catalog.get? r.reference = some (finishResource setting.registry s.scopes r) := by
    intro catalog h
    rw [get?_finish h, hr]
    rfl
  refine {
    kept := fun catalog h => ⟨_, hfinished catalog h, ?kept⟩
    added := fun catalog type h htype hnew => ⟨_, hfinished catalog h, ?added⟩
    rejected := fun e h hblamed => ?rejected
    conforms := fun catalog type h htype name hname => ?conforms }
  case kept =>
    rw [parameters_finishResource, parameters_withNamevar]
    cases setting.registry.get? r.reference.typeName with
    | none => simp
    | some type =>
      simp only [Option.some.injEq, forall_eq']
      split
      · next hgiven => exact ⟨fun _ => hgiven, fun _ => rfl⟩
      · next hgiven =>
        refine ⟨fun h => ?_, fun h => absurd h hgiven⟩
        rw [Table.contains, ← h, Table.get?_insert, if_pos rfl]
        rfl
  case added =>
    rw [parameters_finishResource, parameters_withNamevar, htype]
    simp [hnew]
  case rejected =>
    rcases finish_eq_error h with ⟨text, location, rfl⟩ | ⟨q, hq, hrejected⟩
    · cases hblamed
    · obtain ⟨type, name, htype, hname, hmeta, haccepts, rfl⟩ := rejected?_eq_some hrejected
      have hreference : q.reference = r.reference := by
        rw [← reference_withNamevar setting.registry q]
        exact Option.some.inj hblamed
      -- There is only one resource with this reference.
      have hsame : q = r := by
        have hget := hs.contained.tree.keyed.get?_eq hq
        rw [hreference, hr] at hget
        exact (Option.some.inj hget).symm
      subst hsame
      rw [reference_withNamevar] at htype ⊢
      refine ⟨type, name, _, htype, ?_, hmeta, haccepts, rfl⟩
      rcases (mem_keys_withNamevar htype).mp hname with hname | rfl
      · exact hname
      · rw [type.accepts_namevar] at haccepts
        cases haccepts
  case conforms =>
    have hconforms := conforms_of_finish h _ (Catalog.mem_values_of_get? (hfinished catalog h))
    rw [Resource.Conforms, reference_finishResource, parameters_finishResource] at hconforms
    exact (hconforms type htype).2 name ((mem_keys_withNamevar htype).mpr (.inl hname))

/-! ### From the declaration to the finished catalog -/

/-- What becomes of an instance.  It is evaluated only if what is given to it fits its define.  If
it fits, neither its declaration nor anything that is executed afterwards refuses its parameters;
and what finishing does depends on the registry alone.  The declaration may fail for other reasons,
as that of an instance always does whose define declares `$title`: binding the parameter is a
`reassignment`, which refuses no parameter in the sense of `EvalError.blamed?`. -/
theorem instance_treated (setting : Setting) (limit : Nat) (scope : ScopeId) (d : DefineDefinition)
    (given : Table Value) (location : Location) (title : String) (s : EvalState) :
    (∀ s', declareResource (enter setting limit) scope (.define d) given location title s =
        .ok () s' →
      d.Fits given ∧ ∀ t, Steps setting s' t →
        (∀ limit' scope' statements e u,
          executeAll setting (enter setting limit') scope' statements t = .error e u →
            e.blamed? ≠ some (.of d.name title)) ∧
        (∀ limit' e u, executeNode setting (enter setting limit') t = .error e u →
            e.blamed? ≠ some (.of d.name title)) ∧
        (Reachable setting t → Treatment setting.registry (.of d.name title) given t)) ∧
      (d.Fits given → ∀ e s',
        declareResource (enter setting limit) scope (.define d) given location title s =
          .error e s' → e.blamed? ≠ some (.of d.name title)) := by
  refine ⟨fun s' h => ⟨fits_of_declareResource h, fun t hsteps => ?_⟩, fun hfits e s' h => ?_⟩
  · have hget := get?_of_declareResource h hsteps
    have hthere : (t.catalog.get? (.of d.name title)).isSome = true :=
      Option.isSome_iff_exists.mpr ⟨_, hget⟩
    refine ⟨fun limit' scope' statements e u he => ?_, fun limit' e u he => ?_, fun ht => ?_⟩
    · have hspares := spares_executeAll setting limit' scope' statements hthere
      rw [he] at hspares
      exact hspares
    · have hspares := spares_executeNode setting limit' hthere
      rw [he] at hspares
      exact hspares
    · exact treatment_of_get? (r := d.resource given scope location title) ht hget
  · have hspares := spares_declareResource setting limit scope hfits location title s
    rw [h] at hspares
    exact hspares

/-! #### A define with the name of a registered type -/

namespace Sample

/-- A define with one parameter, and the name of a type that is always there. -/
def banner (parameter : String) : DefineDefinition :=
  ⟨⟨"notify", [⟨parameter, none, line 1⟩], none, line 1⟩, []⟩

/-- A manifest with an instance of it. -/
def bannered (parameter : String) : Collection where
  manifests := [⟨"site.pp", [.resource "notify"
    [⟨.string "x" (line 2), [⟨parameter, .string "hi" (line 2), line 2⟩], line 2⟩] (line 2)]⟩]
  definitions := ⟨[("notify", .ofDefine (banner parameter))], by simp⟩
  named := by
    intro e he
    cases List.mem_singleton.mp he
    rfl
  nodes := []
  markers := .empty
  forcedStale := false
  generation := 0

/-- The evaluation for a node without facts. -/
def shadowing (parameter : String) : Setting :=
  ⟨⟨"web1", .empty, none⟩, "production", bannered parameter, .builtin, true⟩

/-- What is given to the instance. -/
def greeting (parameter : String) : Table Value := .ofList [(parameter, .string "hi")]

theorem fits_greeting (parameter : String) : (banner parameter).Fits (greeting parameter) := by
  have hkeys : (greeting parameter).keys = [parameter] := rfl
  refine ⟨fun name hname => ?_, fun p hp _ => ?_⟩
  · rw [hkeys, List.mem_singleton] at hname
    simp [isKnownParameter, banner, hname]
  · cases List.mem_singleton.mp hp
    simp [greeting, Table.contains, Table.ofList, Table.get?_insert]

end Sample

/-- What is given to the instance fits its define.  Nevertheless it is rejected if its parameter is
one that the registered type does not take, and otherwise it gets the name variable of the type. -/
theorem instance_rejected :
    ((Sample.banner "text").Fits (Sample.greeting "text") ∧
      (run (Sample.shadowing "text")).1 =
        .error (.invalidParameter (.of "notify" "x") "text" (Sample.line 2))) ∧
      (Sample.banner "message").Fits (Sample.greeting "message") ∧
      ((run (Sample.shadowing "message")).1.toOption.bind fun c =>
          c.get? (.of "notify" "x")).map (fun r => r.parameters.entries) =
        some [("message", .string "hi"), ("name", .string "x")] := by
  refine ⟨⟨Sample.fits_greeting "text", by decide +kernel⟩,
    Sample.fits_greeting "message", by decide +kernel⟩

/-- The instance is declared as it should be; the type that finishing treats it as does not take its
parameter. -/
theorem instance_treated_sample :
    ∃ s', declareResource (enter (Sample.shadowing "text") 1) ScopeArena.top
        (.define (Sample.banner "text")) (Sample.greeting "text") (Sample.line 2) "x"
        (EvalState.start (Sample.shadowing "text")) = .ok () s' ∧
      (Sample.banner "text").Fits (Sample.greeting "text") ∧
      Reachable (Sample.shadowing "text") s' ∧
      Treatment Registry.builtin (.of "notify" "x") (Sample.greeting "text") s' ∧
      (Registry.builtin.get? (Reference.of "notify" "x").typeName).map (·.accepts "text") =
        some false := by
  let setting := Sample.shadowing "text"
  have hknown : setting.Knows (.define (Sample.banner "text")) := rfl
  have hends : EndsByStep setting (EvalState.start setting)
      (declareResource (enter setting 1) ScopeArena.top (.define (Sample.banner "text"))
        (Sample.greeting "text") (Sample.line 2) "x" (EvalState.start setting)) :=
    endsByStep_of_couples (((entersByStep_enter setting 1).simulation (.start setting)
      Nat.one_pos).declareResource hknown (fun _ _ => trivial)
      (Sample.greeting "text") (Sample.line 2) "x")
  have hok : Sample.isDone (declareResource (enter setting 1) ScopeArena.top
      (.define (Sample.banner "text")) (Sample.greeting "text") (Sample.line 2) "x"
      (EvalState.start setting)) = true := by decide +kernel
  rcases hdeclared : declareResource (enter setting 1) ScopeArena.top
      (.define (Sample.banner "text")) (Sample.greeting "text") (Sample.line 2) "x"
      (EvalState.start setting) with ⟨⟨⟩, s'⟩ | ⟨e, s'⟩
  · rw [hdeclared] at hends
    obtain ⟨hfits, hlater⟩ := (instance_treated setting 1 ScopeArena.top (Sample.banner "text")
      (Sample.greeting "text") (Sample.line 2) "x" (EvalState.start setting)).1 s' hdeclared
    exact ⟨s', rfl, hfits, hends.1, (hlater s' .refl).2.2 hends.1, by decide +kernel⟩
  · rw [hdeclared] at hok
    cases hok

end Manifest
