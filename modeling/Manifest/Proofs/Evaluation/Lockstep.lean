import Manifest.Proofs.Evaluation.Simulation

/-!
# Whole evaluations in lockstep

Two settings are in lockstep when all operations keep to a coupling in every scope, opening scopes
and classes included.  Then entering classes and defines keeps to it as well, however deep, and so
does everything that is executed for a node.

## Main definitions

* `Lockstep` — a coupling that all operations of two evaluations keep to.
* `Coupling.equal` — the coupling along equal states.
* `Preserved` — a property of states that every operation of an evaluation keeps.

## Main results

* `Lockstep.simulation` — statements keep to it if entering classes and defines does.
* `Lockstep.enter`, `Lockstep.enter_le` — entering classes and defines does.
* `Lockstep.executeSite` — everything that is executed for a node keeps to it.
* `lockstep_equal` — evaluations that are equal up to failures that are excused.
* `Preserved.lockstep` — what every operation keeps is kept by everything.
-/

namespace Manifest

open Evaluation

/-- A coupling that all operations of two evaluations keep to in every scope. -/
structure Lockstep (C : Coupling) (setting₁ setting₂ : Setting) : Prop where
  collection_alike : setting₂.collection.Alike setting₁.collection
  registry_contains (name : String) (location : Location) :
    setting₂.registry.contains name = setting₁.registry.contains name ∨
      (setting₁.registry.contains name = false ∧
        C.excused (.unresolvedReference ("resource type " ++ name) location))
  node_name_eq : setting₂.node.name = setting₁.node.name
  failed_of_running {s t : EvalState} : C.running s t → C.failed s t
  space_eq (scope : ScopeId) {s t : EvalState} :
    C.running s t → t.scopes.space scope = s.scopes.space scope
  owner_eq (scope : ScopeId) {s t : EvalState} :
    C.running s t → t.scopes.owner scope = s.scopes.owner scope
  localVariable_eq (scope : ScopeId) (name : String) {s t : EvalState} : C.running s t →
    t.scopes.localVariable? scope name = s.scopes.localVariable? scope name
  classScopes_eq {s t : EvalState} : C.running s t → t.classScopes = s.classScopes
  location_eq (c : ClassDefinition) {s t : EvalState} :
    C.running s t → firstLocation c t.catalog = firstLocation c s.catalog
  inheriting_eq {s t : EvalState} : C.running s t → t.inheriting = s.inheriting
  inherit (names : List String) {s t : EvalState} : C.running s t →
    C.running { s with inheriting := names } { t with inheriting := names }
  readVariable (scope : ScopeId) (name : String) (location : Location) :
    C.Couples (readVariable setting₁ scope name location)
      (readVariable setting₂ scope name location)
  setVariable (scope : ScopeId) (name : String) (value : Value) (location : Location) :
    C.Couples (setVariable scope name value location) (setVariable scope name value location)
  report (e : Event) : C.Couples (report e) (report e)
  relate (r : Relationship) : C.Couples (relate r) (relate r)
  place (scope : ScopeId) {r : Resource} :
    setting₁.Declarable r → C.Couples (place scope r) (place scope r)
  newScope (parent : ScopeId) (space : String) (owner : Reference) :
    C.Couples (newScope parent space owner) (newScope parent space owner)
  giveScope (name : String) (scope : ScopeId) {s t : EvalState} : C.running s t →
    C.running { s with classScopes := s.classScopes.insert name scope }
      { t with classScopes := t.classScopes.insert name scope }

namespace Lockstep

variable {C : Coupling} {setting₁ setting₂ : Setting} {enter₁ enter₂ : Enter}

/-- Executing statements keeps to the coupling if entering classes and defines does. -/
theorem simulation (h : Lockstep C setting₁ setting₂)
    (hinner : ∀ entry, C.Couples (enter₁ entry) (enter₂ entry)) (scope : ScopeId) :
    Simulation C setting₁ setting₂ enter₁ enter₂ scope where
  collection_alike := h.collection_alike
  registry_contains := h.registry_contains
  node_name_eq := h.node_name_eq
  refuses := fun _ _ _ _ hst => .error (h.failed_of_running hst)
  space_eq := h.space_eq scope
  owner_eq := h.owner_eq scope
  classScopes_eq := h.classScopes_eq
  localVariable_eq := fun name => h.localVariable_eq scope name
  location_eq := fun c => h.location_eq c
  readVariable := h.readVariable scope
  setVariable := h.setVariable scope
  report := fun _ => h.report _
  relate := fun _ => h.relate _
  place := h.place scope
  enterClass := fun given location _ _ _ hst _ => hinner (.ofClass _ given scope location) _ _ hst
  blames_of_place := fun _ _ => trivial
  enterDefine := fun given location _ _ _ _ hst _ => hinner (.ofDefine _ _ given location) _ _ hst

theorem lexicalParent_eq (h : Lockstep C setting₁ setting₂) {s t : EvalState}
    (hst : C.running s t) (enclosing : Option String) :
    t.lexicalParent enclosing = s.lexicalParent enclosing := by
  rw [EvalState.lexicalParent, EvalState.lexicalParent, h.classScopes_eq hst]

/-! ### Entering classes and defines -/

theorem enterParent (h : Lockstep C setting₁ setting₂)
    (hinner : ∀ entry, C.Couples (enter₁ entry) (enter₂ entry)) (c : ClassDefinition)
    (parentName : String) (declaring : ScopeId) (location : Location) :
    C.Couples (enterParent setting₁ enter₁ c parentName declaring location)
      (enterParent setting₂ enter₂ c parentName declaring location) := by
  intro s t hst
  rw [enterParent_apply, enterParent_apply, h.collection_alike.findClass?_eq,
    h.inheriting_eq hst]
  cases hparent : setting₁.collection.findClass? parentName (Name.parent c.name) with
  | none => exact .error (h.failed_of_running hst)
  | some parent =>
    simp only
    split
    · exact .error (h.failed_of_running hst)
    · have hevaluate := (h.simulation hinner declaring).evaluateClass
        (Collection.defines_of_findClass? hparent) none location _ _
        (h.inherit (c.name :: s.inheriting) hst)
      rcases hevaluate.ok_or_error with
        ⟨id, s', t', h₁, h₂, hst'⟩ | ⟨e, s', t', h₁, h₂, hst'⟩ | ⟨e, s', h₁, hexcused⟩
      · simp only [h₁, h₂, h.inheriting_eq hst']
        exact ⟨rfl, h.inherit _ hst'⟩
      · simp only [h₁, h₂]
        exact .error hst'
      · simp only [h₁]
        exact .of_excused hexcused s' _

theorem parentScope (h : Lockstep C setting₁ setting₂)
    (hinner : ∀ entry, C.Couples (enter₁ entry) (enter₂ entry)) (c : ClassDefinition)
    (declaring : ScopeId) (location : Location) :
    C.Couples (parentScope setting₁ enter₁ c declaring location)
      (parentScope setting₂ enter₂ c declaring location) := by
  unfold Evaluation.parentScope
  cases c.parent with
  | some parentName => exact h.enterParent hinner c parentName declaring location
  | none =>
    intro s t hst
    exact ⟨(h.lexicalParent_eq hst c.enclosing).symm, hst⟩

theorem openClass (h : Lockstep C setting₁ setting₂) (c : ClassDefinition) (given : Table Value)
    (parent declaring : ScopeId) (location : Location) :
    C.Couples (openClass c given parent declaring location)
      (openClass c given parent declaring location) := by
  refine (h.report _).bind fun _ => (h.newScope _ _ _).bind fun scope => ?_
  -- What is left at the end is the entry in the table of classes.
  refine Coupling.Couples.bind ?_ fun _ => (h.place declaring
    (.ofClass c given scope location)).bind fun _ => .pure C scope
  exact fun s t hst => ⟨rfl, h.giveScope c.name scope hst⟩

theorem enterClass (h : Lockstep C setting₁ setting₂)
    (hinner : ∀ entry, C.Couples (enter₁ entry) (enter₂ entry)) (c : ClassDefinition)
    (given : Option (Table Value)) (declaring : ScopeId) (location : Location) :
    C.Couples (enterClass setting₁ enter₁ c given declaring location)
      (enterClass setting₂ enter₂ c given declaring location) := by
  refine (h.parentScope hinner c declaring location).bind fun parent => ?_
  refine (h.openClass c _ parent declaring location).bind fun scope => ?_
  exact ((h.simulation hinner scope).executeClass c _ location Coupling.permits_all
    trivial).bind fun _ => .pure C scope

theorem enterDefine (h : Lockstep C setting₁ setting₂)
    (hinner : ∀ entry, C.Couples (enter₁ entry) (enter₂ entry)) (d : DefineDefinition)
    (reference : Reference) (given : Table Value) (location : Location) :
    C.Couples (enterDefine setting₁ enter₁ d reference given location)
      (enterDefine setting₂ enter₂ d reference given location) := by
  intro s t hst
  rw [Evaluation.enterDefine, Evaluation.enterDefine, get_bind_apply, get_bind_apply,
    h.lexicalParent_eq hst]
  refine (h.newScope _ d.name reference s t hst).bind fun scope s' t' _ hst' => ?_
  have hbody := (h.simulation hinner scope).executeDefine d reference given location
    Coupling.permits_all trivial
  exact (hbody.bind fun _ => .pure C scope) s' t' hst'

/-- Entering classes and defines keeps to the coupling. -/
theorem enter (h : Lockstep C setting₁ setting₂) :
    ∀ limit entry, C.Couples (enter setting₁ limit entry) (enter setting₂ limit entry)
  | 0, _ => fun _ _ hst => .error (h.failed_of_running hst)
  | limit + 1, .ofClass c given declaring location =>
    h.enterClass (h.enter limit) c given declaring location
  | limit + 1, .ofDefine d reference given location =>
    h.enterDefine (h.enter limit) d reference given location

/-- With a larger limit on the second side it does so until the first one finds no more room. -/
theorem enter_le (h : Lockstep C setting₁ setting₂) (hdeep : C.excused .tooDeep) :
    ∀ {limit limit' : Nat}, limit ≤ limit' → ∀ entry,
      C.Couples (Evaluation.enter setting₁ limit entry) (Evaluation.enter setting₂ limit' entry)
  | 0, _, _, _ => fun s _ _ => .of_excused hdeep s _
  | _ + 1, _ + 1, hle, .ofClass c given declaring location =>
    h.enterClass (h.enter_le hdeep (Nat.le_of_succ_le_succ hle)) c given declaring location
  | _ + 1, _ + 1, hle, .ofDefine d reference given location =>
    h.enterDefine (h.enter_le hdeep (Nat.le_of_succ_le_succ hle)) d reference given location

/-! ### Whole evaluations -/

theorem executeNode (h : Lockstep C setting₁ setting₂)
    (hinner : ∀ entry, C.Couples (enter₁ entry) (enter₂ entry)) :
    C.Couples (executeNode setting₁ enter₁) (executeNode setting₂ enter₂) := by
  unfold Evaluation.executeNode
  rw [h.collection_alike.nodes_eq, h.collection_alike.nodeDefinition?_eq, h.node_name_eq]
  split
  · exact .pure C _
  · cases setting₁.collection.nodeDefinition? setting₁.node.name with
    | none => exact fun _ _ hst => .error (h.failed_of_running hst)
    | some n =>
      simp only [enterNode, h.node_name_eq]
      refine (h.report _).bind fun _ => (h.place _ (.ofNode n)).bind fun _ => ?_
      exact (h.newScope _ _ _).bind fun scope =>
        (h.simulation hinner scope).executeAll n.body Coupling.permits_all

/-- Everything that is executed for a node keeps to the coupling. -/
theorem executeSite (h : Lockstep C setting₁ setting₂)
    (hinner : ∀ entry, C.Couples (enter₁ entry) (enter₂ entry)) :
    C.Couples (executeSite setting₁ enter₁) (executeSite setting₂ enter₂) := by
  unfold Evaluation.executeSite
  rw [h.collection_alike.manifests_eq]
  have hmanifests := Coupling.Couples.forM
    (fun ast : Ast =>
      (h.simulation hinner ScopeArena.top).executeAll ast.statements Coupling.permits_all)
    setting₁.collection.manifests
  exact hmanifests.bind fun _ => h.executeNode hinner

end Lockstep

/-! ### Equal evaluations -/

namespace Coupling

/-- Evaluations that are the same unless the first one fails and is excused. -/
def equal (excused : EvalError → Prop) : Coupling where
  running := Eq
  failed := Eq
  excused := excused

theorem equal_couples_self {α : Type} {excused : EvalError → Prop} (m : Eval α) :
    (equal excused).Couples m m := by
  rintro s _ rfl
  cases m s with
  | ok a s' => exact ⟨rfl, rfl⟩
  | error e s' => exact .error rfl

end Coupling

/-- Evaluations of collections that are alike are equal if variables are read alike and a type that
only the second one knows is an excuse. -/
theorem lockstep_equal {setting₁ setting₂ : Setting} {excused : EvalError → Prop}
    (hcollection : setting₂.collection.Alike setting₁.collection)
    (hname : setting₂.node.name = setting₁.node.name)
    (hregistry : ∀ name location,
      setting₂.registry.contains name = setting₁.registry.contains name ∨
        (setting₁.registry.contains name = false ∧
          excused (.unresolvedReference ("resource type " ++ name) location)))
    (hread : ∀ scope name location, (Coupling.equal excused).Couples
      (readVariable setting₁ scope name location) (readVariable setting₂ scope name location)) :
    Lockstep (Coupling.equal excused) setting₁ setting₂ where
  collection_alike := hcollection
  registry_contains := hregistry
  node_name_eq := hname
  failed_of_running := id
  space_eq := by rintro scope s _ rfl; rfl
  owner_eq := by rintro scope s _ rfl; rfl
  localVariable_eq := by rintro scope name s _ rfl; rfl
  classScopes_eq := by rintro s _ rfl; rfl
  location_eq := by rintro c s _ rfl; rfl
  inheriting_eq := by rintro s _ rfl; rfl
  inherit := by rintro names s _ rfl; rfl
  readVariable := hread
  setVariable := fun _ _ _ _ => Coupling.equal_couples_self _
  report := fun _ => Coupling.equal_couples_self _
  relate := fun _ => Coupling.equal_couples_self _
  place := fun _ _ _ => Coupling.equal_couples_self _
  newScope := fun _ _ _ => Coupling.equal_couples_self _
  giveScope := by rintro name scope s _ rfl; rfl

/-! ### Properties that are kept -/

/-- A property of states that every operation of an evaluation keeps. -/
structure Preserved (setting : Setting) (P : EvalState → Prop) : Prop where
  inherit (names : List String) (s : EvalState) : P s → P { s with inheriting := names }
  setVariable {s : EvalState} {scope : ScopeId} {name : String} {value : Value}
    {location : Location} {scopes : ScopeArena} : P s →
    s.scopes.setVariable scope name value location = .ok scopes → P { s with scopes := scopes }
  report (e : Event) (s : EvalState) : P s → P { s with events := s.events ++ [e] }
  relate (r : Relationship) (s : EvalState) : P s →
    P { s with relationships := s.relationships ++ [r] }
  place {s s' : EvalState} {scope : ScopeId} {r : Resource} : setting.Declarable r → P s →
    Evaluation.place scope r s = .ok () s' → P s'
  newScope (parent : ScopeId) (space : String) (owner : Reference) (s : EvalState) : P s →
    P { s with scopes := s.scopes.child parent space owner }
  giveScope (name : String) (scope : ScopeId) (s : EvalState) : P s →
    P { s with classScopes := s.classScopes.insert name scope }

/-- What every operation keeps is kept by everything that is executed. -/
theorem Preserved.lockstep {setting : Setting} {P : EvalState → Prop} (h : Preserved setting P) :
    Lockstep (.holding P) setting setting where
  collection_alike := .refl _
  registry_contains := fun _ _ => Or.inl rfl
  node_name_eq := rfl
  failed_of_running := And.left
  space_eq := by rintro scope s _ ⟨rfl, -⟩; rfl
  owner_eq := by rintro scope s _ ⟨rfl, -⟩; rfl
  localVariable_eq := by rintro scope name s _ ⟨rfl, -⟩; rfl
  classScopes_eq := by rintro s _ ⟨rfl, -⟩; rfl
  location_eq := by rintro c s _ ⟨rfl, -⟩; rfl
  inheriting_eq := by rintro s _ ⟨rfl, -⟩; rfl
  inherit := by rintro names s _ ⟨rfl, hs⟩; exact ⟨rfl, h.inherit names s hs⟩
  readVariable := fun scope name location => Coupling.holding_couples fun s v s' hs hread => by
    -- Reading a variable leaves the state alone.
    rw [readVariable_apply] at hread
    cases hv : s.valueOf? scope name with
    | some value =>
      rw [hv] at hread
      cases hread
      exact hs
    | none =>
      cases hstrict : setting.strict with
      | true => simp [hv, hstrict] at hread
      | false =>
        simp only [hv, hstrict] at hread
        cases hread
        exact hs
  setVariable := fun scope name value location => Coupling.holding_couples fun s _ s' hs hset => by
    rw [setVariable_apply] at hset
    cases hscopes : s.scopes.setVariable scope name value location with
    | error e => simp [hscopes] at hset
    | ok scopes =>
      rw [hscopes] at hset
      cases hset
      exact h.setVariable hs hscopes
  report := fun e => Coupling.holding_couples fun s _ _ hs hok => by
    cases hok
    exact h.report e s hs
  relate := fun r => Coupling.holding_couples fun s _ _ hs hok => by
    cases hok
    exact h.relate r s hs
  place := fun _ _ hr => Coupling.holding_couples fun _ _ _ hs hok => h.place hr hs hok
  newScope := fun parent space owner => Coupling.holding_couples fun s _ _ hs hok => by
    cases hok
    exact h.newScope parent space owner s hs
  giveScope := by rintro name scope s _ ⟨rfl, hs⟩; exact ⟨rfl, h.giveScope name scope s hs⟩

end Manifest
