import Manifest.Evaluation
import Manifest.Proofs.Catalog.Growth
import Manifest.Proofs.Except

/-!
# The operations of an evaluation at a state

An operation looks at the state, changes it or fails.  Each lemma says what one operation does
from a given state, so that later proofs need not open the operation.

## Main definitions

* `EvalState.opened`, `EvalState.instantiated` — a class or an instance has just got its scope.
* `Evaluation.EndsIn` — what is told of the state in which a computation ends.

## Main results

* `EndsIn.bind` — what is told of the parts of a computation holds of the whole.
* `evaluateClass_apply` — a class that is evaluated is left alone or refused, any other one is
  entered.
* `program_eq_ok` — the catalog of an evaluation is that of its last state, finished.
* `place_apply` — a resource is placed together with the edge from the owner of its scope.
-/

namespace Manifest

namespace Collection

/-- The collection defines this very class. -/
def Defines (collection : Collection) (c : ClassDefinition) : Prop :=
  collection.definitions.get? c.name = some (.ofClass c)

/-- What a name stands for is in the collection under its full name. -/
theorem exists_get?_of_find? {α : Type} {collection : Collection} {pick : Definition → Option α}
    {name space : String} {a : α} (h : collection.find? pick name space = some a) :
    ∃ d, collection.definitions.get? d.name = some d ∧ pick d = some a := by
  obtain ⟨full, -, hfull⟩ := List.exists_of_findSome?_eq_some h
  obtain ⟨d, hd, hpick⟩ := Option.bind_eq_some_iff.mp hfull
  have hname : full = d.name := collection.named _ (Table.mem_of_get? hd)
  exact ⟨d, hname ▸ hd, hpick⟩

theorem defines_of_findClass? {collection : Collection} {name space : String}
    {c : ClassDefinition} (h : collection.findClass? name space = some c) :
    collection.Defines c := by
  obtain ⟨d, hd, hpick⟩ := exists_get?_of_find? h
  cases d with
  | ofClass e =>
    cases hpick
    exact hd
  | ofDefine e => cases hpick

/-- A class is determined by its full name. -/
theorem Defines.unique {collection : Collection} {c d : ClassDefinition}
    (hc : collection.Defines c) (hd : collection.Defines d) (h : c.name = d.name) : c = d := by
  unfold Defines at hc hd
  rw [h, hd] at hc
  exact (Definition.ofClass.inj (Option.some.inj hc)).symm

end Collection

/-- The state in which a class has just got its scope. -/
def EvalState.opened (s : EvalState) (c : ClassDefinition) (parent : ScopeId) : EvalState :=
  { s with
    scopes := s.scopes.child parent c.name (.ofClass c.name)
    classScopes := s.classScopes.insert c.name s.scopes.next
    events := s.events ++ [.classEntered c.name] }

/-- The state in which an instance of a define has just got its scope. -/
def EvalState.instantiated (s : EvalState) (d : DefineDefinition) (reference : Reference) :
    EvalState :=
  { s with scopes := s.scopes.child (s.lexicalParent d.enclosing) d.name reference }

namespace Evaluation

/-- The resource of a class with a scope of its own. -/
def classResource (c : ClassDefinition) (given : Table Value) (scope : ScopeId)
    (location : Location) : Resource :=
  { Resource.new (.ofClass c.name) scope location with parameters := given }

/-- Reading the state changes nothing. -/
theorem get_bind_apply {α : Type} (f : EvalState → Eval α) (s : EvalState) :
    (get >>= f) s = f s s := rfl

/-- What comes after a success goes on from its state, a failure ends everything. -/
theorem bind_apply {α β : Type} (m : Eval α) (f : α → Eval β) (s : EvalState) :
    (m >>= f) s = match m s with
      | .ok a s => f a s
      | .error e s => .error e s := by
  simp only [bind, EStateM.bind]
  cases m s <;> rfl

/-- What comes after something has succeeded only if that has. -/
theorem bind_eq_ok {α β : Type} {m : Eval α} {f : α → Eval β} {b : β} {s s'' : EvalState}
    (h : (m >>= f) s = .ok b s'') : ∃ a s', m s = .ok a s' ∧ f a s' = .ok b s'' := by
  rw [bind_apply] at h
  cases hm : m s with
  | ok a s' =>
    rw [hm] at h
    exact ⟨a, s', rfl, h⟩
  | error e s' =>
    rw [hm] at h
    cases h

/-- An outcome whose state is as told: after a success it has one property, and after a failure
another one together with the error. -/
def EndsIn {α : Type} (done : EvalState → Prop) (failed : EvalError → EvalState → Prop) :
    EStateM.Result EvalError EvalState α → Prop
  | .ok _ s => done s
  | .error e s => failed e s

namespace EndsIn

variable {α β : Type} {done done' : EvalState → Prop}
  {failed failed' : EvalError → EvalState → Prop} {m : Eval α} {s : EvalState}

theorem imp {r : EStateM.Result EvalError EvalState α} (hdone : ∀ s, done s → done' s)
    (hfailed : ∀ e s, failed e s → failed' e s) (h : EndsIn done failed r) :
    EndsIn done' failed' r := by
  cases r with
  | ok a s => exact hdone s h
  | error e s => exact hfailed e s h

/-- What comes after a first part may use how that part ended. -/
theorem bind {f : α → Eval β} (h : EndsIn done failed (m s))
    (hf : ∀ a s', m s = .ok a s' → done s' → EndsIn done failed (f a s')) :
    EndsIn done failed ((m >>= f) s) := by
  rw [bind_apply]
  cases hm : m s with
  | ok a s' =>
    rw [hm] at h
    exact hf a s' hm h
  | error e s' =>
    rw [hm] at h
    exact h

/-- Answering something else changes nothing. -/
theorem bind_pure (h : EndsIn done failed (m s)) (b : β) :
    EndsIn done failed ((m >>= fun _ => pure b) s) := h.bind fun _ _ _ hs => hs

end EndsIn

theorem forM_cons_apply {α : Type} (f : α → Eval PUnit) (a : α) (as : List α) (s : EvalState) :
    ((a :: as).forM f : Eval PUnit) s = match f a s with
      | .ok _ s => (as.forM f : Eval PUnit) s
      | .error e s => .error e s := by
  have hcons : ((a :: as).forM f : Eval PUnit) = f a >>= fun _ => as.forM f := rfl
  rw [hcons, bind_apply]
  cases f a s <;> rfl

theorem forM_append_apply {α : Type} (f : α → Eval PUnit) (bs : List α) :
    ∀ (as : List α) (s : EvalState), ((as ++ bs).forM f : Eval PUnit) s =
      match (as.forM f : Eval PUnit) s with
      | .ok _ s => (bs.forM f : Eval PUnit) s
      | .error e s => .error e s
  | [], _ => rfl
  | a :: as, s => by
    rw [List.cons_append, forM_cons_apply, forM_cons_apply]
    cases f a s with
    | ok _ s' => exact forM_append_apply f bs as s'
    | error e s' => rfl

theorem modify_apply (f : EvalState → EvalState) (s : EvalState) :
    (modify f : Eval Unit) s = .ok () (f s) := rfl

theorem report_apply (e : Event) (s : EvalState) :
    report e s = .ok () { s with events := s.events ++ [e] } := rfl

theorem newScope_apply (parent : ScopeId) (space : String) (owner : Reference) (s : EvalState) :
    newScope parent space owner s =
      .ok s.scopes.next { s with scopes := s.scopes.child parent space owner } := rfl

/-- The body of a define is executed in the scope that its instance has just got. -/
theorem enterDefine_apply (setting : Setting) (enter : Enter) (d : DefineDefinition)
    (reference : Reference) (given : Table Value) (location : Location) (s : EvalState) :
    enterDefine setting enter d reference given location s =
      (executeDefine setting enter d reference given s.scopes.next location >>= fun _ =>
        pure s.scopes.next) (s.instantiated d reference) := by
  rw [enterDefine, get_bind_apply, bind_apply, newScope_apply]
  rfl

theorem setVariable_apply (scope : ScopeId) (name : String) (value : Value) (location : Location)
    (s : EvalState) :
    setVariable scope name value location s =
      match s.scopes.setVariable scope name value location with
      | .ok scopes => .ok () { s with scopes := scopes }
      | .error e => .error e s := by
  rw [setVariable, get_bind_apply]
  cases s.scopes.setVariable scope name value location <;> rfl

theorem readVariable_apply (setting : Setting) (scope : ScopeId) (name : String)
    (location : Location) (s : EvalState) :
    readVariable setting scope name location s =
      match s.valueOf? scope name with
      | some value => .ok value s
      | none =>
        if setting.strict then .error (.undefinedVariable name location) s else .ok .absent s := by
  rw [readVariable, get_bind_apply]
  cases s.valueOf? scope name with
  | some value => rfl
  | none => cases setting.strict <;> rfl

theorem addResource_apply (r : Resource) (s : EvalState) :
    addResource r s =
      match s.catalog.addResource r with
      | .ok catalog => .ok () { s with catalog := catalog }
      | .error e => .error (.ofCatalog e) s := by
  rw [addResource, get_bind_apply]
  cases s.catalog.addResource r <;> rfl

theorem contain_apply (scope : ScopeId) (reference : Reference) (s : EvalState) :
    contain scope reference s =
      match s.catalog.addEdge ⟨s.scopes.owner scope, reference, .contains⟩ with
      | .ok catalog => .ok () { s with catalog := catalog }
      | .error e => .error (.ofCatalog e) s := by
  rw [contain, get_bind_apply]
  cases s.catalog.addEdge ⟨s.scopes.owner scope, reference, .contains⟩ <;> rfl

theorem place_apply (scope : ScopeId) (r : Resource) (s : EvalState) :
    place scope r s =
      match s.catalog.addResource r with
      | .ok catalog => contain scope r.reference { s with catalog := catalog }
      | .error e => .error (.ofCatalog e) s := by
  rw [place, bind_apply, addResource_apply]
  cases s.catalog.addResource r <;> rfl

/-- Placing a resource, when it succeeds. -/
theorem place_eq_ok {scope : ScopeId} {r : Resource} {s s' : EvalState}
    (h : place scope r s = .ok () s') :
    ∃ c c', s.catalog.addResource r = .ok c ∧
      c.addEdge ⟨s.scopes.owner scope, r.reference, .contains⟩ = .ok c' ∧
      s' = { s with catalog := c' } := by
  rw [place_apply] at h
  cases hr : s.catalog.addResource r with
  | error e => rw [hr] at h; cases h
  | ok c =>
    simp only [hr, contain_apply] at h
    cases he : c.addEdge ⟨s.scopes.owner scope, r.reference, .contains⟩ with
    | error e => simp only [he] at h; cases h
    | ok c' =>
      simp only [he] at h
      cases h
      exact ⟨c, c', rfl, he, rfl⟩

/-- A resource that was placed is in the catalog. -/
theorem mem_references_of_place {scope : ScopeId} {r : Resource} {s s' : EvalState}
    (h : place scope r s = .ok () s') : r.reference ∈ s'.catalog.references := by
  obtain ⟨c, c', hr, he, rfl⟩ := place_eq_ok h
  have hc : r.reference ∈ c.references := by
    rw [Catalog.references_addResource hr]
    exact List.mem_append_right _ (List.mem_singleton_self _)
  simpa only [Catalog.references, Catalog.resources_addEdge he] using hc

theorem resolveClass_apply (setting : Setting) (scope : ScopeId) (name : String)
    (location : Location) (s : EvalState) :
    resolveClass setting scope name location s =
      match setting.collection.findClass? name (s.scopes.space scope) with
      | some c => .ok c s
      | none => .error (.unresolvedReference ("class " ++ name) location) s := by
  rw [resolveClass, get_bind_apply, ScopeArena.qualifyClass?]
  cases setting.collection.findClass? name (s.scopes.space scope) <;> rfl

/-- Where the resource of a class stands, or else its definition. -/
def firstLocation (c : ClassDefinition) (catalog : Catalog) : Location :=
  ((catalog.get? (.ofClass c.name)).map Resource.location).getD c.location

theorem evaluateClass_apply (enter : Enter) (c : ClassDefinition) (given : Option (Table Value))
    (declaring : ScopeId) (location : Location) (s : EvalState) :
    evaluateClass enter c given declaring location s =
      match s.classScopes.get? c.name with
      | none => enter (.ofClass c given declaring location) s
      | some scope =>
        if given.isNone then .ok scope s
        else .error (.duplicateResource (.ofClass c.name) (firstLocation c s.catalog) location)
          s := by
  rw [evaluateClass, get_bind_apply]
  cases s.classScopes.get? c.name with
  | none => rfl
  | some scope => cases given <;> rfl

/-- The only thing wrong with a value can be that it is no reference. -/
theorem unresolved_of_referencesOf {location : Location} {v : Value} {e : EvalError}
    (h : referencesOf location v = .error e) : ∃ text, e = .unresolvedReference text location := by
  obtain ⟨u, -, hu⟩ := Except.exists_of_mapM_error h
  cases u with
  | string text =>
    rw [referenceOf] at hu
    split at hu <;> cases hu
    exact ⟨text, rfl⟩
  | reference r => cases hu
  | _ =>
    cases hu
    exact ⟨_, rfl⟩

theorem resolveType_apply (setting : Setting) (scope : ScopeId) (name : String)
    (location : Location) (s : EvalState) :
    resolveType setting scope name location s =
      match setting.collection.findDefine? name (s.scopes.space scope) with
      | some d => .ok (.define d) s
      | none =>
        if setting.registry.contains name then .ok (.registered name) s
        else .error (.unresolvedReference ("resource type " ++ name) location) s := by
  rw [resolveType, get_bind_apply]
  cases setting.collection.findDefine? name (s.scopes.space scope) with
  | some d => rfl
  | none => cases setting.registry.contains name <;> rfl

theorem openClass_apply (c : ClassDefinition) (given : Table Value) (parent declaring : ScopeId)
    (location : Location) (s : EvalState) :
    openClass c given parent declaring location s =
      match place declaring (classResource c given s.scopes.next location) (s.opened c parent) with
      | .ok _ s' => .ok s.scopes.next s'
      | .error e s' => .error e s' := by
  simp only [openClass, bind_apply, report_apply, newScope_apply, modify_apply, classResource,
    EvalState.opened]
  cases place declaring _ _ <;> rfl

/-- Opening a class, when it succeeds. -/
theorem openClass_eq_ok {c : ClassDefinition} {given : Table Value}
    {parent declaring scope : ScopeId} {location : Location} {s s' : EvalState}
    (h : openClass c given parent declaring location s = .ok scope s') :
    scope = s.scopes.next ∧
      place declaring (classResource c given s.scopes.next location) (s.opened c parent) =
        .ok () s' := by
  rw [openClass_apply] at h
  cases hp : place declaring (classResource c given s.scopes.next location) (s.opened c parent) with
  | ok u t => rw [hp] at h; cases h; exact ⟨rfl, rfl⟩
  | error e t => rw [hp] at h; cases h

theorem enterParent_apply (setting : Setting) (enter : Enter) (c : ClassDefinition)
    (parentName : String) (declaring : ScopeId) (location : Location) (s : EvalState) :
    enterParent setting enter c parentName declaring location s =
      match setting.collection.findClass? parentName (Name.parent c.name) with
      | none => .error (.unresolvedReference ("parent class " ++ parentName) c.location) s
      | some parent =>
        if s.inheriting.contains c.name || parent.name == c.name ||
            s.inheriting.contains parent.name then
          .error (.circularInheritance c.name c.location) s
        else
          match evaluateClass enter parent none declaring location
            { s with inheriting := c.name :: s.inheriting } with
          | .ok scope s' => .ok scope { s' with inheriting := s'.inheriting.erase c.name }
          | .error e s' => .error e s' := by
  rw [enterParent]
  cases setting.collection.findClass? parentName (Name.parent c.name) with
  | none => rfl
  | some parent =>
    simp only [get_bind_apply]
    split
    · rfl
    · simp only [bind_apply, modify_apply]
      cases evaluateClass enter parent none declaring location
        { s with inheriting := c.name :: s.inheriting } <;> rfl

theorem finishState_apply (setting : Setting) (s : EvalState) :
    finishState setting s =
      match finish setting.registry s with
      | .ok catalog => .ok catalog s
      | .error e => .error e s := by
  rw [finishState, get_bind_apply]
  cases finish setting.registry s <;> rfl

/-- A whole evaluation, when it succeeds. -/
theorem program_eq_ok {setting : Setting} {limit : Nat} {s s' : EvalState} {c : Catalog}
    (h : program setting limit s = .ok c s') :
    executeSite setting (enter setting limit) s = .ok () s' ∧
      finish setting.registry s' = .ok c := by
  rw [program, bind_apply] at h
  cases hs : executeSite setting (enter setting limit) s with
  | error e t => rw [hs] at h; cases h
  | ok u t =>
    simp only [hs, finishState_apply] at h
    cases hf : finish setting.registry t with
    | error e => rw [hf] at h; cases h
    | ok catalog =>
      rw [hf] at h
      cases h
      exact ⟨rfl, hf⟩

theorem run_apply (setting : Setting) :
    run setting =
      match program setting (depthLimit setting.collection) (EvalState.start setting) with
      | .ok catalog s => (.ok catalog, s.events)
      | .error e s => (.error e, s.events) := rfl

theorem run_of_program_ok {setting : Setting} {c : Catalog} {s : EvalState}
    (h : program setting (depthLimit setting.collection) (EvalState.start setting) = .ok c s) :
    run setting = (.ok c, s.events) := by
  rw [run_apply, h]

theorem run_of_program_error {setting : Setting} {e : EvalError} {s : EvalState}
    (h : program setting (depthLimit setting.collection) (EvalState.start setting) = .error e s) :
    run setting = (.error e, s.events) := by
  rw [run_apply, h]

theorem program_of_run {setting : Setting} {c : Catalog} {events : List Event}
    (h : run setting = (.ok c, events)) :
    ∃ s, program setting (depthLimit setting.collection) (EvalState.start setting) = .ok c s ∧
      s.events = events := by
  rw [run_apply] at h
  cases hp : program setting (depthLimit setting.collection) (EvalState.start setting) with
  | error e s => rw [hp] at h; cases h
  | ok d s => rw [hp] at h; cases h; exact ⟨s, rfl, rfl⟩

end Evaluation

end Manifest
