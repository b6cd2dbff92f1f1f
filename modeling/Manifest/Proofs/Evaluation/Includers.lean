import Manifest.Proofs.Evaluation.Containment
import Manifest.Proofs.Evaluation.Lockstep

/-!
# The including scope is not visible to a class

A class that is included from one scope and the same class included from another one are evaluated
alike.  Two evaluations are followed side by side whose states differ in the sources of some edges
of containment and in nothing else; since no operation but the placing of a resource ever looks at
edges, and that only at whether the new edge is there already, they go on side by side.

## Main definitions

* `Edge.Moved` — edges that differ in their sources at most, if they lead to certain classes.
* `Coupling.beside` — evaluations that differ in such edges at most.
* `EvalState.Enters` — a class and the ancestors that are evaluated with it.
* `SameButIncluder` — states that differ in the edges into these classes at most.

## Main results

* `lockstep_beside` — whatever is executed keeps evaluations side by side.
* `entersBeside_enter` — so does entering a class from two scopes.
* `includer_unseen` — what is left of the including scope are its edges.
-/

namespace Manifest

open Evaluation

variable {setting : Setting} {s s' t t' : EvalState} {P : Reference → Prop} {a b : Reference}

/-! ### Moved edges -/

/-- Two edges that are the same, or that say of the resources `a` and `b` that they contain the same
one of certain resources. -/
inductive Edge.Moved (P : Reference → Prop) (a b : Reference) : Edge → Edge → Prop
  | same (e : Edge) : Moved P a b e e
  | moved {target : Reference} (new : P target) :
    Moved P a b ⟨a, target, .contains⟩ ⟨b, target, .contains⟩

theorem Edge.Moved.target_eq {e f : Edge} (h : Edge.Moved P a b e f) : f.target = e.target := by
  cases h <;> rfl

/-- Moved edges lead where the others lead. -/
theorem Edge.Moved.map_target_eq {es fs : List Edge} (h : List.Forall₂ (Edge.Moved P a b) es fs) :
    fs.map Edge.target = es.map Edge.target := by
  induction h with
  | nil => rfl
  | cons hfirst _ ih => rw [List.map_cons, List.map_cons, hfirst.target_eq, ih]

/-- Moved edges are refused alike by catalogs with the same resources, which have `a` and `b`. -/
theorem Edge.Moved.addEdge {e f : Edge} (h : Edge.Moved P a b e f) {c d : Catalog}
    (hresources : d.resources = c.resources) (ha : c.contains a = true)
    (hb : c.contains b = true) :
    (∃ refusal, c.addEdge e = .error refusal ∧ d.addEdge f = .error refusal) ∨
      c.contains e.target = true ∧ c.addEdge e = .ok { c with edges := c.edges.insert e } ∧
        d.addEdge f = .ok { d with edges := d.edges.insert f } := by
  have hcontains := Catalog.contains_congr hresources
  cases h with
  | same e =>
    simp only [Catalog.addEdge, hcontains]
    cases c.contains e.source with
    | false => exact .inl ⟨_, rfl, rfl⟩
    | true =>
      cases c.contains e.target with
      | false => exact .inl ⟨_, rfl, rfl⟩
      | true => exact .inr ⟨rfl, rfl, rfl⟩
  | @moved target new =>
    simp only [Catalog.addEdge, hcontains, ha, hb]
    cases c.contains target with
    | false => exact .inl ⟨_, rfl, rfl⟩
    | true => exact .inr ⟨rfl, rfl, rfl⟩

/-- A state that differs in moved edges at most; the edges of both lead to resources that are
there. -/
def EvalState.Beside (s : EvalState) (P : Reference → Prop) (a b : Reference) (t : EvalState) :
    Prop :=
  ∃ edges, t = { s with catalog := { s.catalog with edges := edges } } ∧
    List.Forall₂ (Edge.Moved P a b) s.catalog.edges.items edges.items ∧
    (∀ e ∈ s.catalog.edges.items, s.catalog.contains e.target = true) ∧
    s.catalog.contains a = true ∧ s.catalog.contains b = true

/-- Evaluations that differ in moved edges at most. -/
def Coupling.beside (P : Reference → Prop) (a b : Reference) : Coupling where
  running s t := s.Beside P a b t
  failed _ _ := True

/-- A resource comes in, with an edge on either side. -/
theorem EvalState.Beside.add (h : s.Beside P a b t) {r : Resource} {c : Catalog}
    (add : s.catalog.addResource r = .ok c) {e f : Edge} (hmoved : Edge.Moved P a b e f)
    (he : e.target = r.reference) (hthere : c.contains e.target = true) :
    EvalState.Beside { s with catalog := { c with edges := c.edges.insert e } } P a b
      { t with catalog := { c with edges := t.catalog.edges.insert f } } := by
  obtain ⟨edges, rfl, hedges, hjoins, ha, hb⟩ := h
  have hcedges : c.edges = s.catalog.edges := Catalog.edges_addResource add
  -- No edge leads to the resource before it comes in, so both edges are new.
  have hfree : r.reference ∉ s.catalog.edges.items.map Edge.target := by
    intro hm
    obtain ⟨d, hd, htarget⟩ := List.mem_map.mp hm
    have hd := hjoins d hd
    rw [htarget, Catalog.contains, (Catalog.addResource_eq_ok add).1] at hd
    cases hd
  have hfirst : e ∉ s.catalog.edges.items := fun hd => hfree (he ▸ List.mem_map_of_mem hd)
  have hsecond : f ∉ edges.items := by
    intro hd
    have hm : f.target ∈ edges.items.map Edge.target := List.mem_map_of_mem hd
    rw [Edge.Moved.map_target_eq hedges, hmoved.target_eq, he] at hm
    exact hfree hm
  have hitems : (c.edges.insert e).items = s.catalog.edges.items ++ [e] := by
    rw [hcedges, OrderedSet.items_insert, if_neg hfirst]
  refine ⟨edges.insert f, rfl, ?_, fun d hd => ?_, Catalog.contains_addResource add ha,
    Catalog.contains_addResource add hb⟩
  · rw [hitems, OrderedSet.items_insert, if_neg hsecond]
    exact List.rel_append hedges (.cons hmoved .nil)
  · rw [hitems, List.mem_append, List.mem_singleton] at hd
    rcases hd with hd | rfl
    · exact Catalog.contains_addResource add (hjoins d hd)
    · exact hthere

/-! ### Side by side -/

/-- Whether a resource is refused does not depend on edges. -/
theorem Catalog.addResource_with_edges (c : Catalog) (edges : OrderedSet Edge) (r : Resource) :
    ({ c with edges := edges } : Catalog).addResource r =
      (c.addResource r).map fun d => { d with edges := edges } := by
  have hget : ({ c with edges := edges } : Catalog).get? r.reference = c.get? r.reference := rfl
  rw [addResource, addResource, hget]
  cases c.get? r.reference <;> rfl

/-- Placing a resource from two scopes, whose owners may differ if the edges may. -/
theorem outcomes_place (h : s.Beside P a b t) (first second : ScopeId) {r : Resource}
    (hmoved : Edge.Moved P a b ⟨s.scopes.owner first, r.reference, .contains⟩
      ⟨s.scopes.owner second, r.reference, .contains⟩) :
    (Coupling.beside P a b).Outcomes (place first r s) (place second r t) := by
  obtain ⟨edges, rfl, -, -, ha, hb⟩ := id h
  rw [place_apply, place_apply]
  simp only [Catalog.addResource_with_edges]
  cases add : s.catalog.addResource r with
  | error e => exact .error trivial
  | ok c =>
    simp only [Except.map, contain_apply]
    have hends := hmoved.addEdge (c := c) (d := { c with edges := edges }) rfl
      (Catalog.contains_addResource add ha) (Catalog.contains_addResource add hb)
    rcases hends with ⟨refusal, hc, hd⟩ | ⟨hthere, hc, hd⟩
    · rw [hc, hd]
      exact .error trivial
    · rw [hc, hd]
      exact ⟨rfl, h.add add hmoved rfl hthere⟩

/-- Whatever is executed keeps evaluations side by side. -/
theorem lockstep_beside (setting : Setting) (P : Reference → Prop) (a b : Reference) :
    Lockstep (.beside P a b) setting setting where
  collection_alike := .refl _
  registry_contains := fun _ _ => Or.inl rfl
  node_name_eq := rfl
  failed_of_running := fun _ => trivial
  space_eq := by rintro scope s _ ⟨edges, rfl, -⟩; rfl
  owner_eq := by rintro scope s _ ⟨edges, rfl, -⟩; rfl
  localVariable_eq := by rintro scope name s _ ⟨edges, rfl, -⟩; rfl
  classScopes_eq := by rintro s _ ⟨edges, rfl, -⟩; rfl
  location_eq := by rintro c s _ ⟨edges, rfl, -⟩; rfl
  inheriting_eq := by rintro s _ ⟨edges, rfl, -⟩; rfl
  inherit := by rintro names s _ ⟨edges, rfl, h⟩; exact ⟨edges, rfl, h⟩
  readVariable := by
    rintro scope name location s _ ⟨edges, rfl, h⟩
    have hvalue : EvalState.valueOf? { s with catalog := { s.catalog with edges := edges } } scope
        name = s.valueOf? scope name := rfl
    rw [readVariable_apply, readVariable_apply, hvalue]
    cases s.valueOf? scope name with
    | some value => exact ⟨rfl, edges, rfl, h⟩
    | none =>
      cases setting.strict with
      | true => exact .error trivial
      | false => exact ⟨rfl, edges, rfl, h⟩
  setVariable := by
    rintro scope name value location s _ ⟨edges, rfl, h⟩
    rw [setVariable_apply, setVariable_apply]
    cases s.scopes.setVariable scope name value location with
    | ok scopes => exact ⟨rfl, edges, rfl, h⟩
    | error e => exact .error trivial
  report := by rintro e s _ ⟨edges, rfl, h⟩; exact ⟨rfl, edges, rfl, h⟩
  relate := by rintro q s _ ⟨edges, rfl, h⟩; exact ⟨rfl, edges, rfl, h⟩
  place := fun scope r _ s t h => outcomes_place h scope scope (.same _)
  newScope := by rintro parent space owner s _ ⟨edges, rfl, h⟩; exact ⟨rfl, edges, rfl, h⟩
  giveScope := by rintro name scope s _ ⟨edges, rfl, h⟩; exact ⟨edges, rfl, h⟩

/-! ### A class from two scopes -/

/-- A class inherits from another one that is evaluated with it. -/
def EvalState.InheritsNew (setting : Setting) (s : EvalState) (c d : ClassDefinition) : Prop :=
  ∃ parentName, c.parent = some parentName ∧
    setting.collection.findClass? parentName (Name.parent c.name) = some d ∧
    s.classScopes.get? d.name = none

/-- The classes that are evaluated with a class: itself, and the ancestors up to the first one that
is evaluated already. -/
def EvalState.Enters (setting : Setting) (s : EvalState) :
    ClassDefinition → ClassDefinition → Prop :=
  Relation.ReflTransGen (s.InheritsNew setting)

theorem Step.owner_eq (h : Step setting s s') {scope : ScopeId} (hscope : scope < s.scopes.size) :
    s'.scopes.owner scope = s.scopes.owner scope := by
  cases h with
  | setVariable set => exact ScopeArena.owner_setVariable set scope
  | openScope listed => exact ScopeArena.owner_child_of_lt hscope _ _ _
  | openClass => exact ScopeArena.owner_child_of_lt hscope _ _ _
  | _ => rfl

/-- A scope belongs to whom it always did. -/
theorem Steps.owner_eq (h : Steps setting s s') {scope : ScopeId}
    (hscope : scope < s.scopes.size) : s'.scopes.owner scope = s.scopes.owner scope := by
  induction h with
  | refl => rfl
  | tail hs hstep ih =>
    exact (hstep.owner_eq (Nat.lt_of_lt_of_le hscope (Steps.size_le hs))).trans ih

/-- Opening a class from two scopes. -/
theorem outcomes_openClass (h : s.Beside P a b t) {first second : ScopeId}
    (hfirst : s.scopes.owner first = a) (hsecond : s.scopes.owner second = b)
    (hlt : first < s.scopes.size) (hlt' : second < s.scopes.size) {c : ClassDefinition}
    (hc : P (.ofClass c.name)) (given : Table Value) (parent : ScopeId) (location : Location) :
    (Coupling.beside P a b).Outcomes (openClass c given parent first location s)
      (openClass c given parent second location t) := by
  obtain ⟨edges, rfl, h⟩ := h
  have hopened : (s.opened c parent).Beside P a b
      (EvalState.opened { s with catalog := { s.catalog with edges := edges } } c parent) :=
    ⟨edges, rfl, h⟩
  have howner : ∀ {scope}, scope < s.scopes.size →
      (s.opened c parent).scopes.owner scope = s.scopes.owner scope :=
    fun hscope => ScopeArena.owner_child_of_lt hscope parent c.name (.ofClass c.name)
  have hmoved : Edge.Moved P a b
      ⟨(s.opened c parent).scopes.owner first, .ofClass c.name, .contains⟩
      ⟨(s.opened c parent).scopes.owner second, .ofClass c.name, .contains⟩ := by
    rw [howner hlt, howner hlt', hfirst, hsecond]
    exact .moved hc
  have hplace := outcomes_place hopened first second
    (r := classResource c given s.scopes.next location) hmoved
  rw [openClass_apply, openClass_apply]
  rcases hplace.ok_or_error with
    ⟨u, s', t', h₁, h₂, hst⟩ | ⟨e, s', t', h₁, h₂, -⟩ | ⟨e, s', -, hexcused⟩
  · simp only [h₁, h₂]
    exact ⟨rfl, hst⟩
  · simp only [h₁, h₂]
    exact .error trivial
  · exact hexcused.elim

/-- Entering classes that are not evaluated keeps evaluations side by side, from whatever scope it
is done on either side. -/
def EntersBeside (setting : Setting) (enter : Enter) : Prop :=
  ∀ (P : Reference → Prop) (a b : Reference) (s : EvalState) (c : ClassDefinition)
    (first second : ScopeId) (location : Location), Reachable setting s →
    setting.collection.Defines c → s.classScopes.get? c.name = none →
    first < s.scopes.size → second < s.scopes.size → s.scopes.owner first = a →
    s.scopes.owner second = b → (∀ d, s.Enters setting c d → P (.ofClass d.name)) →
    (Coupling.beside P a b).Outcomes (enter (.ofClass c none first location) s)
      (enter (.ofClass c none second location) s)

/-- In a reachable state nothing is in the way of going on side by side. -/
theorem Reachable.beside (hs : Reachable setting s) {first second : ScopeId}
    (hfirst : s.scopes.owner first = a) (hsecond : s.scopes.owner second = b) :
    s.Beside P a b s := by
  have htree := hs.contained.tree
  have howner := fun scope =>
    Catalog.contains_of_mem_references htree.keyed (hs.contained.owners scope)
  exact ⟨s.catalog.edges, rfl, List.forall₂_same.mpr fun e _ => .same e,
    fun e he => (htree.joins e he).2, hfirst ▸ howner first, hsecond ▸ howner second⟩

theorem outcomes_parentScope {inner : Enter} (h : EntersBeside setting inner)
    (hs : Reachable setting s) {c : ClassDefinition} (hc : setting.collection.Defines c)
    (hnew : s.classScopes.get? c.name = none) {first second : ScopeId}
    (hlt : first < s.scopes.size) (hlt' : second < s.scopes.size)
    (hfirst : s.scopes.owner first = a) (hsecond : s.scopes.owner second = b)
    (hP : ∀ d, s.Enters setting c d → P (.ofClass d.name)) (location : Location) :
    (Coupling.beside P a b).Outcomes (parentScope setting inner c first location s)
      (parentScope setting inner c second location s) := by
  unfold parentScope
  cases hp : c.parent with
  | none => exact ⟨rfl, hs.beside hfirst hsecond⟩
  | some parentName =>
    simp only [enterParent_apply]
    cases hparent : setting.collection.findClass? parentName (Name.parent c.name) with
    | none => exact .error trivial
    | some parent =>
      simp only
      split
      · exact .error trivial
      · next hguard =>
        have hfree : c.name ∉ s.inheriting := fun hm => hguard (by simp [hm])
        let up : EvalState := { s with inheriting := c.name :: s.inheriting }
        have hup : Reachable setting up := hs.tail (.ascend hc (by simp [hp]) hnew hfree)
        have hevaluate : (Coupling.beside P a b).Outcomes
            (evaluateClass inner parent none first location up)
            (evaluateClass inner parent none second location up) := by
          rw [evaluateClass_apply, evaluateClass_apply]
          cases hscope : up.classScopes.get? parent.name with
          | some id => exact ⟨rfl, hup.beside hfirst hsecond⟩
          | none =>
            -- The ancestors of the parent are among those of the class.
            exact h P a b up parent first second location hup
              (Collection.defines_of_findClass? hparent) hscope hlt hlt' hfirst hsecond
              fun d hd => hP d (.head ⟨parentName, hp, hparent, hscope⟩ hd)
        have hstep := lockstep_beside setting P a b
        rcases hevaluate.ok_or_error with
          ⟨id, s', t', h₁, h₂, hst⟩ | ⟨e, s', t', h₁, h₂, -⟩ | ⟨e, s', -, hexcused⟩
        · rw [h₁, h₂]
          simp only [hstep.inheriting_eq hst]
          exact ⟨rfl, hstep.inherit _ hst⟩
        · rw [h₁, h₂]
          exact .error trivial
        · exact hexcused.elim

/-- Entering classes keeps evaluations side by side, with any limit. -/
theorem entersBeside_enter (setting : Setting) :
    ∀ limit, EntersBeside setting (Evaluation.enter setting limit)
  | 0 => fun _ _ _ _ _ _ _ _ _ _ _ _ _ _ _ _ => .error trivial
  | limit + 1 => by
    intro P a b s c first second location hs hc hnew hlt hlt' hfirst hsecond hP
    have hstep := lockstep_beside setting P a b
    have hinner := entersByStep_enter setting limit
    refine (outcomes_parentScope (entersBeside_enter setting limit) hs hc hnew hlt hlt' hfirst
      hsecond hP location).bind fun parent s₁ t₁ h₁ hst => ?_
    -- The including scopes are where they were when the inherited class is evaluated.
    have hends := (endsByStep_parentScope hinner hs hc hnew hlt location).1
    rw [h₁] at hends
    have hsteps : Steps setting s s₁ := hends.1
    have howner : ∀ {scope}, scope < s.scopes.size →
        s₁.scopes.owner scope = s.scopes.owner scope := fun hscope => hsteps.owner_eq hscope
    refine (outcomes_openClass hst ((howner hlt).trans hfirst) ((howner hlt').trans hsecond)
      (Nat.lt_of_lt_of_le hlt hsteps.size_le) (Nat.lt_of_lt_of_le hlt' hsteps.size_le)
      (hP c .refl) Table.empty parent location).bind fun scope s₂ t₂ _ hst₂ => ?_
    have hbody := (hstep.simulation (hstep.enter limit) scope).executeClass c Table.empty location
      Coupling.permits_all trivial
    exact (hbody.bind fun _ => .pure _ scope) s₂ t₂ hst₂

/-! ### The edges of the includer -/

theorem Step.mem_edges (h : Step setting s s') {e : Edge} (he : e ∈ s.catalog.edges.items) :
    e ∈ s'.catalog.edges.items := by
  cases h with
  | place add contain =>
    exact (Catalog.mem_edges_addEdge contain e).mpr (.inr (Catalog.edges_addResource add ▸ he))
  | openClass defined new free declared add contain =>
    exact (Catalog.mem_edges_addEdge contain e).mpr (.inr (Catalog.edges_addResource add ▸ he))
  | _ => exact he

/-- Edges stay. -/
theorem Steps.mem_edges (h : Steps setting s s') {e : Edge} (he : e ∈ s.catalog.edges.items) :
    e ∈ s'.catalog.edges.items := by
  induction h with
  | refl => exact he
  | tail _ hs ih => exact hs.mem_edges ih

/-- A class that was opened is contained in the owner of the including scope. -/
theorem holds_of_openClass {c : ClassDefinition} {given : Table Value}
    {parent declaring id : ScopeId} {location : Location} (hd : declaring < s.scopes.size)
    (h : openClass c given parent declaring location s = .ok id s') :
    s'.catalog.Holds (s.scopes.owner declaring) (.ofClass c.name) := by
  obtain ⟨-, hplace⟩ := openClass_eq_ok h
  obtain ⟨c₁, c₂, -, hcontain, rfl⟩ := place_eq_ok hplace
  have howner : (s.opened c parent).scopes.owner declaring = s.scopes.owner declaring :=
    ScopeArena.owner_child_of_lt hd parent c.name (.ofClass c.name)
  rw [howner] at hcontain
  exact (Catalog.mem_edges_addEdge hcontain _).mpr (.inl rfl)

/-- A new inherited class is entered from the same scope, while the class waits. -/
theorem exists_of_parentScope {inner : Enter} {c parent : ClassDefinition} {parentName : String}
    (hp : c.parent = some parentName)
    (hfind : setting.collection.findClass? parentName (Name.parent c.name) = some parent)
    (hnew : s.classScopes.get? parent.name = none) {declaring id : ScopeId} {location : Location}
    (h : parentScope setting inner c declaring location s = .ok id t) :
    c.name ∉ s.inheriting ∧ ∃ t', inner (.ofClass parent none declaring location)
      { s with inheriting := c.name :: s.inheriting } = .ok id t' ∧ t'.catalog = t.catalog := by
  unfold parentScope at h
  rw [hp] at h
  simp only [enterParent_apply, hfind] at h
  split at h
  · cases h
  · next hguard =>
    refine ⟨fun hm => hguard (by simp [hm]), ?_⟩
    rw [evaluateClass_apply, hnew] at h
    cases hinner : inner (.ofClass parent none declaring location)
        { s with inheriting := c.name :: s.inheriting } with
    | error e t' => simp [hinner] at h
    | ok id' t' =>
      simp only [hinner] at h
      cases h
      exact ⟨t', rfl, rfl⟩

/-- The owner of the including scope contains the class and the ancestors evaluated with it. -/
theorem holds_of_enter (setting : Setting) (location : Location) :
    ∀ (limit : Nat) {s t : EvalState} {c : ClassDefinition} {scope id : ScopeId},
      Reachable setting s → setting.collection.Defines c → s.classScopes.get? c.name = none →
      scope < s.scopes.size →
      Evaluation.enter setting limit (.ofClass c none scope location) s = .ok id t →
      ∀ d, s.Enters setting c d → t.catalog.Holds (s.scopes.owner scope) (.ofClass d.name)
  | 0, _, _, _, _, _, _, _, _, _, hok, _, _ => by cases hok
  | limit + 1, s, t, c, scope, id, hs, hc, hnew, hlt, hok, d, hd => by
    obtain ⟨parent, s₁, s₂, hparent, hopen, hsteps₁, hsteps₂, hsteps₃⟩ :=
      exists_of_enterClass (entersByStep_enter setting limit) hs hc hnew hlt hok
    rcases hd.cases_head with rfl | ⟨e, ⟨parentName, hp, hfind, hscope⟩, hd⟩
    · rw [← hsteps₁.owner_eq hlt]
      exact hsteps₃.mem_edges
        (holds_of_openClass (Nat.lt_of_lt_of_le hlt hsteps₁.size_le) hopen)
    · -- The ancestors are contained as soon as the inherited class is evaluated.
      obtain ⟨hfree, t', hinner, hcatalog⟩ := exists_of_parentScope hp hfind hscope hparent
      have hup : Reachable setting { s with inheriting := c.name :: s.inheriting } :=
        hs.tail (.ascend hc (by simp [hp]) hnew hfree)
      have ih := holds_of_enter setting location limit hup
        (Collection.defines_of_findClass? hfind) hscope hlt hinner d hd
      rw [Catalog.Holds, hcatalog] at ih
      exact Steps.mem_edges (hsteps₂.trans hsteps₃) ih

/-! ### What is left of the including scope -/

/-- Two states after a class was evaluated from two scopes: they are equal up to edges, those are
equal up to the ones into the class and its ancestors that were evaluated with it, and the only
ones that contain these come from the owner of the including scope. -/
structure SameButIncluder (setting : Setting) (s : EvalState) (c : ClassDefinition)
    (first second : Reference) (t₁ t₂ : EvalState) : Prop where
  rest_eq : t₂ = { t₁ with catalog := { t₁.catalog with edges := t₂.catalog.edges } }
  edges : List.Forall₂ (fun e f => e = f ∨ ∃ d, s.Enters setting c d ∧
    e = ⟨first, .ofClass d.name, .contains⟩ ∧ f = ⟨second, .ofClass d.name, .contains⟩)
    t₁.catalog.edges.items t₂.catalog.edges.items
  holds_first : ∀ d, s.Enters setting c d → ∀ source,
    t₁.catalog.Holds source (.ofClass d.name) ↔ source = first
  holds_second : ∀ d, s.Enters setting c d → ∀ source,
    t₂.catalog.Holds source (.ofClass d.name) ↔ source = second

/-- In a reachable state nothing else contains what the owner of a scope contains. -/
theorem Reachable.holds_iff (hs : Reachable setting s) {source target : Reference}
    (h : s.catalog.Holds source target) (other : Reference) :
    s.catalog.Holds other target ↔ other = source := by
  have htree := hs.contained.tree
  have hne : target ≠ ScopeArena.mainClass := by
    rintro rfl
    exact htree.root source h
  obtain ⟨only, -, honly⟩ := htree.existsUnique target (htree.target_mem h) hne
  refine ⟨fun hother => (honly other hother).trans (honly source h).symm, ?_⟩
  rintro rfl
  exact h

/-- A class that is included for the first time is evaluated alike from any two scopes: with the
same error, or with states that differ in the edges to the including scopes only. -/
theorem includer_unseen (setting : Setting) (limit : Nat) {s : EvalState}
    (hs : Reachable setting s) {c : ClassDefinition} (hc : setting.collection.Defines c)
    (hnew : s.classScopes.get? c.name = none) {scope₁ scope₂ : ScopeId}
    (h₁ : scope₁ < s.scopes.size) (h₂ : scope₂ < s.scopes.size) (location : Location) :
    (∃ e t₁ t₂,
        evaluateClass (enter setting limit) c none scope₁ location s = .error e t₁ ∧
        evaluateClass (enter setting limit) c none scope₂ location s = .error e t₂) ∨
      ∃ id t₁ t₂,
        evaluateClass (enter setting limit) c none scope₁ location s = .ok id t₁ ∧
        evaluateClass (enter setting limit) c none scope₂ location s = .ok id t₂ ∧
        SameButIncluder setting s c (s.scopes.owner scope₁) (s.scopes.owner scope₂) t₁ t₂ := by
  have hentered : ∀ scope, evaluateClass (enter setting limit) c none scope location s =
      enter setting limit (.ofClass c none scope location) s := fun scope => by
    rw [evaluateClass_apply, hnew]
  simp only [hentered]
  -- The edges that may differ lead to the classes that are evaluated along with this one.
  have hbeside := entersBeside_enter setting limit
    (fun reference => ∃ d, s.Enters setting c d ∧ reference = .ofClass d.name) _ _ s c scope₁ scope₂
    location hs hc hnew h₁ h₂ rfl rfl fun d hd => ⟨d, hd, rfl⟩
  rcases hbeside.ok_or_error with
    ⟨id, t₁, t₂, hok₁, hok₂, hst⟩ | ⟨e, t₁, t₂, herror₁, herror₂, -⟩ | ⟨e, t, -, hexcused⟩
  · refine .inr ⟨id, t₁, t₂, hok₁, hok₂, ?_⟩
    have hreachable : ∀ {scope t}, scope < s.scopes.size →
        enter setting limit (.ofClass c none scope location) s = .ok id t →
        Reachable setting t := by
      intro scope t hscope hok
      have hends := entersByStep_enter setting limit (.ofClass c none scope location) s hs
        ⟨hc, hnew, hscope⟩
      rw [hok] at hends
      exact hs.trans hends.1
    -- Each of them is held by the owner of the scope that it was included from, and by nothing
    -- else.
    have hholds : ∀ {scope t}, scope < s.scopes.size →
        enter setting limit (.ofClass c none scope location) s = .ok id t →
        ∀ d, s.Enters setting c d → ∀ source,
          t.catalog.Holds source (.ofClass d.name) ↔ source = s.scopes.owner scope :=
      fun hscope hok d hd => (hreachable hscope hok).holds_iff
        (holds_of_enter setting location limit hs hc hnew hscope hok d hd)
    obtain ⟨edges, rfl, hedges, -⟩ := hst
    refine ⟨rfl, hedges.imp fun e f hmoved => ?_, hholds h₁ hok₁, hholds h₂ hok₂⟩
    cases hmoved with
    | same => exact .inl rfl
    | moved new =>
      obtain ⟨d, hd, rfl⟩ := new
      exact .inr ⟨d, hd, rfl, rfl⟩
  · exact .inl ⟨e, t₁, t₂, herror₁, herror₂⟩
  · exact hexcused.elim

/-! #### A class from the top scope and from another class -/

namespace Sample

/-- The class `web`, evaluated at the beginning. -/
def opening : EStateM.Result EvalError EvalState ScopeId :=
  evaluateClass (enter Sample.setting 2) web none ScopeArena.top (line 1)
    (EvalState.start Sample.setting)

/-- The state after the class is evaluated. -/
def opened : EvalState := finalState opening

theorem reachable_opened : Reachable Sample.setting opened := by
  have hends : EndsByStep Sample.setting (EvalState.start Sample.setting) opening :=
    endsByStep_of_couples (((entersByStep_enter Sample.setting 2).simulation (.start Sample.setting)
      Nat.one_pos).evaluateClass (c := web) rfl none (line 1))
  have hdone : isDone opening = true := by decide +kernel
  rw [opened]
  cases hopening : opening with
  | ok id s =>
    rw [hopening] at hends
    exact hends.1
  | error e s =>
    rw [hopening] at hdone
    cases hdone

end Sample

/-- The class `shop` from the top scope and from the scope of `web`. -/
theorem includer_unseen_sample :
    Reachable Sample.setting Sample.opened ∧ Sample.setting.collection.Defines Sample.shop ∧
      Sample.opened.classScopes.get? Sample.shop.name = none ∧
      0 < Sample.opened.scopes.size ∧ 1 < Sample.opened.scopes.size ∧
      ∃ id t₁ t₂,
        evaluateClass (enter Sample.setting 2) Sample.shop none 0 (Sample.line 7) Sample.opened =
          .ok id t₁ ∧
        evaluateClass (enter Sample.setting 2) Sample.shop none 1 (Sample.line 7) Sample.opened =
          .ok id t₂ ∧
        SameButIncluder Sample.setting Sample.opened Sample.shop (.ofClass "main") (.ofClass "web")
          t₁ t₂ := by
  have hs := Sample.reachable_opened
  have hnew : Sample.opened.classScopes.get? Sample.shop.name = none := by decide +kernel
  have hsize : Sample.opened.scopes.size = 2 := by decide +kernel
  have hdone : Sample.isDone (evaluateClass (enter Sample.setting 2) Sample.shop none 0
      (Sample.line 7) Sample.opened) = true := by decide +kernel
  have hmain : Sample.opened.scopes.owner 0 = .ofClass "main" := by decide +kernel
  have hweb : Sample.opened.scopes.owner 1 = .ofClass "web" := by decide +kernel
  have htop : 0 < Sample.opened.scopes.size := by omega
  have hinner : 1 < Sample.opened.scopes.size := by omega
  refine ⟨hs, rfl, hnew, htop, hinner, ?_⟩
  rcases includer_unseen Sample.setting 2 hs (c := Sample.shop) rfl hnew htop hinner
      (Sample.line 7) with ⟨e, t₁, t₂, herror, -⟩ | h
  · rw [herror] at hdone
    cases hdone
  · rw [hmain, hweb] at h
    exact h

end Manifest
