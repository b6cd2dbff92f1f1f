import Manifest.Proofs.Evaluation.Coupling
import Manifest.Proofs.Evaluation.Declared

/-!
# Executing statements keeps to a simulation

A coupling that every operation of an evaluation keeps to is kept by whole expressions and
statements.  The walk through the syntax is done here once; an invariant of evaluations, or the
equality of two of them, only has to look at the single operations and at entering classes and
defines.

## Main definitions

* `Collection.Alike` — collections that evaluations cannot tell apart.
* `Simulation` — a coupling that all operations in a scope keep to.

## Main results

* `Simulation.evaluate` — expressions keep to a simulation.
* `Simulation.executeAll` — statements keep to a simulation.
* `Simulation.executeClass`, `Simulation.executeDefine` — so do bodies with their parameters.
-/

namespace Manifest

open Evaluation

/-! ### Collections that are alike -/

namespace Collection

/-- Two collections have the same units and definitions.  Their markers and numbers may differ. -/
structure Alike (c d : Collection) : Prop where
  manifests_eq : c.manifests = d.manifests
  definitions_eq : c.definitions = d.definitions
  nodes_eq : c.nodes = d.nodes

namespace Alike

variable {c d : Collection}

theorem refl (c : Collection) : c.Alike c := ⟨rfl, rfl, rfl⟩

theorem find?_eq {α : Type} (h : c.Alike d) (pick : Definition → Option α) (name space : String) :
    c.find? pick name space = d.find? pick name space := by
  rw [Collection.find?, Collection.find?, h.definitions_eq]

theorem findClass?_eq (h : c.Alike d) (name space : String) :
    c.findClass? name space = d.findClass? name space :=
  h.find?_eq _ name space

theorem findDefine?_eq (h : c.Alike d) (name space : String) :
    c.findDefine? name space = d.findDefine? name space :=
  h.find?_eq _ name space

theorem nodeDefinition?_eq (h : c.Alike d) (name : String) :
    c.nodeDefinition? name = d.nodeDefinition? name := by
  simp only [nodeDefinition?, nodeNamed?, h.nodes_eq]

end Alike

end Collection

/-! ### Simulations -/

/-- The report that a class is about to be evaluated. -/
def Event.IsClassEntered (e : Event) : Prop := ∃ name, e = .classEntered name

/-- As long as a coupled evaluation runs, type names stand for none but certain defines. -/
def Coupling.Permits (C : Coupling) (setting : Setting) (scope : ScopeId)
    (defines : DefineDefinition → Prop) (names : List String) : Prop :=
  ∀ name ∈ names, ∀ s t d, C.running s t →
    setting.collection.findDefine? name (s.scopes.space scope) = some d → defines d

theorem Coupling.permits_all {C : Coupling} {setting : Setting} {scope : ScopeId}
    {names : List String} : C.Permits setting scope (fun _ => True) names :=
  fun _ _ _ _ _ _ _ => trivial

/-- The resource whose parameters an error is about.  A reassignment is not about parameters, even
where the variable is one: a define that declares `$title`, which every instance has already, can
have no instance, and it is `reassignment` that says so. -/
def EvalError.blamed? : EvalError → Option Reference
  | .invalidParameter resource _ _ | .missingParameter resource _ _ => some resource
  | _ => none

/-- Whether an error comes from entering classes and defines alone, and not from what is executed in
a scope. -/
def EvalError.isOfEntering : EvalError → Bool
  | .tooDeep | .circularInheritance .. => true
  | _ => false

/-! ### How single operations fail -/

/-- An outcome that is no failure of entering classes or defines. -/
def FailsInside {α : Type} : EStateM.Result EvalError EvalState α → Prop :=
  EndsIn (fun _ => True) fun e _ => e.isOfEntering = false

theorem failsInside_readVariable (setting : Setting) (scope : ScopeId) (name : String)
    (location : Location) (s : EvalState) :
    FailsInside (readVariable setting scope name location s) := by
  rw [readVariable_apply]
  cases s.valueOf? scope name with
  | some value => trivial
  | none => cases setting.strict <;> trivial

theorem failsInside_setVariable (scope : ScopeId) (name : String) (value : Value)
    (location : Location) (s : EvalState) :
    FailsInside (setVariable scope name value location s) := by
  rw [setVariable_apply, ScopeArena.setVariable]
  cases s.scopes.localVariable? scope name <;> trivial

theorem isOfEntering_ofCatalog (e : CatalogError) :
    (EvalError.ofCatalog e).isOfEntering = false := by
  cases e <;> rfl

theorem failsInside_place (scope : ScopeId) (r : Resource) (s : EvalState) :
    FailsInside (place scope r s) := by
  rw [place_apply]
  cases s.catalog.addResource r with
  | error e => exact isOfEntering_ofCatalog e
  | ok c =>
    simp only [contain_apply]
    cases c.addEdge ⟨s.scopes.owner scope, r.reference, .contains⟩ with
    | error e => exact isOfEntering_ofCatalog e
    | ok c' => trivial

/-- A class that gets no scope is refused by the catalog. -/
theorem failsInside_openClass (c : ClassDefinition) (given : Table Value)
    (parent declaring : ScopeId) (location : Location) (s : EvalState) :
    FailsInside (openClass c given parent declaring location s) := by
  have h := failsInside_place declaring (classResource c given s.scopes.next location)
    (s.opened c parent)
  rw [openClass_apply]
  cases hp : place declaring (classResource c given s.scopes.next location)
      (s.opened c parent) with
  | ok _ s' => trivial
  | error e s' =>
    rw [hp] at h
    exact h

/-! ### Couplings of single operations -/

/-- A coupling that two evaluations of statements in a scope keep to, where `enter₁` and `enter₂`
enter classes and those defines that may be declared there.  Of the errors about parameters only
those about certain resources have to keep to it. -/
structure Simulation (C : Coupling) (setting₁ setting₂ : Setting) (enter₁ enter₂ : Enter)
    (scope : ScopeId) (defines : DefineDefinition → Prop := fun _ => True)
    (blames : Reference → Prop := fun _ => True) : Prop where
  collection_alike : setting₂.collection.Alike setting₁.collection
  /-- What only the second registry knows is an excuse for the first one. -/
  registry_contains (name : String) (location : Location) :
    setting₂.registry.contains name = setting₁.registry.contains name ∨
      (setting₁.registry.contains name = false ∧
        C.excused (.unresolvedReference ("resource type " ++ name) location))
  node_name_eq : setting₂.node.name = setting₁.node.name
  /-- Failing keeps to the coupling, but for errors that do not come from a scope. -/
  refuses {e : EvalError} : e.isOfEntering = false → (∀ r, e.blamed? = some r → blames r) →
    C.Couples (throw e : Eval Unit) (throw e)
  space_eq {s t : EvalState} : C.running s t → t.scopes.space scope = s.scopes.space scope
  owner_eq {s t : EvalState} : C.running s t → t.scopes.owner scope = s.scopes.owner scope
  classScopes_eq {s t : EvalState} : C.running s t → t.classScopes = s.classScopes
  localVariable_eq {s t : EvalState} (name : String) : C.running s t →
    t.scopes.localVariable? scope name = s.scopes.localVariable? scope name
  location_eq {s t : EvalState} (c : ClassDefinition) :
    C.running s t → firstLocation c t.catalog = firstLocation c s.catalog
  readVariable (name : String) (location : Location) :
    C.Couples (readVariable setting₁ scope name location)
      (readVariable setting₂ scope name location)
  setVariable (name : String) (value : Value) (location : Location) :
    C.Couples (setVariable scope name value location) (setVariable scope name value location)
  report {e : Event} : ¬ e.IsClassEntered → C.Couples (report e) (report e)
  relate {r : Relationship} : r.kind ≠ .contains → C.Couples (relate r) (relate r)
  place {r : Resource} : setting₁.Declarable r → C.Couples (place scope r) (place scope r)
  enterClass {c : ClassDefinition} (given : Option (Table Value)) (location : Location)
    {s t : EvalState} : setting₁.collection.Defines c → C.running s t →
    s.classScopes.get? c.name = none →
    C.Outcomes (enter₁ (.ofClass c given scope location) s)
      (enter₂ (.ofClass c given scope location) t)
  /-- Parameters are only refused to resources that have come in. -/
  blames_of_place {r : Resource} {s s' t : EvalState} : C.running s t →
    Evaluation.place scope r s = .ok () s' → blames r.reference
  enterDefine {d : DefineDefinition} {reference : Reference} (given : Table Value)
    (location : Location) {s t : EvalState} : defines d → blames reference → C.running s t →
    reference ∈ s.catalog.references →
    C.Outcomes (enter₁ (.ofDefine d reference given location) s)
      (enter₂ (.ofDefine d reference given location) t)

namespace Simulation

variable {C : Coupling} {setting₁ setting₂ : Setting} {enter₁ enter₂ : Enter} {scope : ScopeId}
  {defines : DefineDefinition → Prop} {blames : Reference → Prop}

theorem throw {α : Type} (sim : Simulation C setting₁ setting₂ enter₁ enter₂ scope defines blames)
    {e : EvalError} (he : e.isOfEntering = false) (hr : ∀ r, e.blamed? = some r → blames r) :
    C.Couples (throw e : Eval α) (throw e) :=
  sim.refuses he hr

theorem error {α : Type} (sim : Simulation C setting₁ setting₂ enter₁ enter₂ scope defines blames)
    {e : EvalError} {s t : EvalState} (h : C.running s t) (he : e.isOfEntering = false)
    (hr : ∀ r, e.blamed? = some r → blames r) :
    C.Outcomes (α := α) (.error e s) (.error e t) := sim.refuses he hr s t h

/-! ### Classes and references -/

theorem evaluateClass (sim : Simulation C setting₁ setting₂ enter₁ enter₂ scope defines blames)
    {c : ClassDefinition} (hc : setting₁.collection.Defines c) (given : Option (Table Value))
    (location : Location) :
    C.Couples (evaluateClass enter₁ c given scope location)
      (evaluateClass enter₂ c given scope location) := by
  intro s t h
  rw [evaluateClass_apply, evaluateClass_apply, sim.classScopes_eq h, sim.location_eq c h]
  cases hs : s.classScopes.get? c.name with
  | none => exact sim.enterClass given location hc h hs
  | some id =>
    cases given with
    | none => exact ⟨rfl, h⟩
    | some _ => exact sim.error h rfl (by nofun)

/-- Looking up a class and going on with it. -/
theorem resolveClass_bind
    (sim : Simulation C setting₁ setting₂ enter₁ enter₂ scope defines blames) {β : Type}
    (name : String) (location : Location) {f₁ f₂ : ClassDefinition → Eval β}
    (hf : ∀ c, setting₁.collection.Defines c → C.Couples (f₁ c) (f₂ c)) :
    C.Couples (resolveClass setting₁ scope name location >>= f₁)
      (resolveClass setting₂ scope name location >>= f₂) := by
  intro s t h
  rw [bind_apply, bind_apply, resolveClass_apply, resolveClass_apply, sim.space_eq h,
    sim.collection_alike.findClass?_eq]
  cases hc : setting₁.collection.findClass? name (s.scopes.space scope) with
  | none => exact sim.error h rfl (by nofun)
  | some c => exact hf c (Collection.defines_of_findClass? hc) s t h

theorem includeClass (sim : Simulation C setting₁ setting₂ enter₁ enter₂ scope defines blames)
    (location : Location) (name : String) :
    C.Couples (includeClass setting₁ enter₁ scope location name)
      (includeClass setting₂ enter₂ scope location name) :=
  sim.resolveClass_bind name location fun c hc =>
    (sim.evaluateClass hc none location).bind fun _ => .pure C c

theorem requireClass (sim : Simulation C setting₁ setting₂ enter₁ enter₂ scope defines blames)
    (location : Location) (name : String) :
    C.Couples (requireClass setting₁ enter₁ scope location name)
      (requireClass setting₂ enter₂ scope location name) := by
  refine (sim.includeClass location name).bind fun c => ?_
  intro s t h
  rw [get_bind_apply, get_bind_apply, sim.owner_eq h]
  exact sim.relate (by simp) s t h

theorem referTo (sim : Simulation C setting₁ setting₂ enter₁ enter₂ scope defines blames)
    (type : String) (location : Location) (title : String) :
    C.Couples (referTo setting₁ enter₁ scope type location title)
      (referTo setting₂ enter₂ scope type location title) := by
  intro s t h
  rw [Evaluation.referTo, Evaluation.referTo, get_bind_apply, get_bind_apply, sim.space_eq h,
    sim.collection_alike.findClass?_eq, sim.collection_alike.findDefine?_eq]
  by_cases key : Text.lower type = "class"
  · rw [if_pos key, if_pos key]
    cases hc : setting₁.collection.findClass? title (s.scopes.space scope) with
    | none => exact ⟨rfl, h⟩
    | some c =>
      have hd := Collection.defines_of_findClass? hc
      exact ((sim.evaluateClass hd none location).bind fun _ => .pure C _) s t h
  · rw [if_neg key, if_neg key]
    cases setting₁.collection.findDefine? (Text.lower type) (s.scopes.space scope) with
    | none => exact ⟨rfl, h⟩
    | some d => exact ⟨rfl, h⟩

/-- Calling a function. -/
theorem apply (sim : Simulation C setting₁ setting₂ enter₁ enter₂ scope defines blames)
    (location : Location) (args : List Value) (f : Function) :
    C.Couples (apply setting₁ enter₁ scope location args f)
      (apply setting₂ enter₂ scope location args f) := by
  cases f with
  | includeClasses =>
    exact .forM (fun name => (sim.includeClass location name).bind fun _ => .pure C _) _
  | requireClasses => exact .forM (fun name => sim.requireClass location name) _
  | notice =>
    simp only [Evaluation.apply]
    rw [sim.node_name_eq]
    exact sim.report (by simp [Event.IsClassEntered])
  | fail => exact sim.throw rfl nofun

/-! ### Expressions -/

theorem pieceText (sim : Simulation C setting₁ setting₂ enter₁ enter₂ scope defines blames)
    (location : Location) (piece : TemplatePart) :
    C.Couples (pieceText setting₁ scope location piece)
      (pieceText setting₂ scope location piece) := by
  cases piece with
  | literal text => exact .pure C text
  | interpolated name =>
    exact (sim.readVariable name location).bind fun v => .pure C v.text

theorem chain_kind_ne_contains :
    ∀ (arrows : List Arrow) (operands : List Operand) {r : Relationship},
      r ∈ chain arrows operands → r.kind ≠ .contains
  | arrow :: arrows, source :: target :: rest, r, h => by
    rw [chain, List.mem_append] at h
    rcases h with h | h
    · obtain ⟨_, -, hr⟩ := List.mem_flatMap.mp h
      obtain ⟨_, -, rfl⟩ := List.mem_map.mp hr
      cases arrow <;> simp [edgeKind]
    · exact chain_kind_ne_contains arrows (target :: rest) h
  | [], _, _, h => by simp [chain] at h
  | _ :: _, [], _, h => by simp [chain] at h
  | _ :: _, [_], _, h => by simp [chain] at h

/-- Recording edges, none of which says that a resource contains another one. -/
theorem relateAll (sim : Simulation C setting₁ setting₂ enter₁ enter₂ scope defines blames) :
    ∀ rs : List Relationship, (∀ r ∈ rs, r.kind ≠ .contains) →
      C.Couples (rs.forM Evaluation.relate) (rs.forM Evaluation.relate)
  | [], _ => .pure C PUnit.unit
  | r :: rs, h =>
    (sim.relate (h r List.mem_cons_self)).bind fun _ =>
      relateAll sim rs fun q hq => h q (List.mem_cons_of_mem r hq)

mutual

/-- Expressions keep to a simulation. -/
theorem evaluate (sim : Simulation C setting₁ setting₂ enter₁ enter₂ scope defines blames) :
    ∀ e : Expr, C.Couples (evaluate setting₁ enter₁ scope e) (evaluate setting₂ enter₂ scope e)
  | .string text _ | .bareword text _ => .pure C _
  | .template parts location =>
    (Coupling.Couples.mapM (sim.pieceText location) parts).bind fun texts =>
      .pure C _
  | .integer n _ => .pure C _
  | .bool b _ => .pure C _
  | .absent _ => .pure C _
  | .variableRead name location => sim.readVariable name location
  | .array items _ => (evaluateAll sim items).bind fun vs => .pure C _
  | .reference type titles _ =>
    (evaluateTitles sim type titles).bind fun rs => .pure C _
  | .not operand _ => (evaluate sim operand).bind fun v => .pure C _
  | .binary op left right _ => by
    refine (evaluate sim left).bind fun l => ?_
    -- The right side of `and` and `or` is only evaluated when the left one leaves it open.
    cases op with
    | and =>
      simp only
      split
      · exact (evaluate sim right).bind fun r => .pure C _
      · exact .pure C _
    | or =>
      simp only
      split
      · exact .pure C _
      · exact (evaluate sim right).bind fun r => .pure C _
    | equal => exact (evaluate sim right).bind fun r => .pure C _
    | notEqual => exact (evaluate sim right).bind fun r => .pure C _
  | .call name args location => by
    rw [Evaluation.evaluate, Evaluation.evaluate]
    cases Function.ofName? name with
    | none => exact sim.throw rfl nofun
    | some function =>
      exact (evaluateAll sim args).bind fun vs =>
        (sim.apply location vs function).bind fun _ => .pure C _
  | .relationship operands arrows _ =>
    (evaluateOperands sim operands).bind fun sides =>
      (sim.relateAll _ fun _ hr => chain_kind_ne_contains arrows sides hr).bind fun _ =>
        .pure C _

theorem evaluateAll (sim : Simulation C setting₁ setting₂ enter₁ enter₂ scope defines blames) :
    ∀ es : List Expr,
      C.Couples (evaluateAll setting₁ enter₁ scope es) (evaluateAll setting₂ enter₂ scope es)
  | [] => .pure C _
  | e :: rest =>
    (evaluate sim e).bind fun _ => (evaluateAll sim rest).bind fun _ => .pure C _

theorem evaluateTitles (sim : Simulation C setting₁ setting₂ enter₁ enter₂ scope defines blames)
    (type : String) :
    ∀ es : List Expr, C.Couples (evaluateTitles setting₁ enter₁ scope type es)
      (evaluateTitles setting₂ enter₂ scope type es)
  | [] => .pure C _
  | e :: rest => by
    refine (evaluate sim e).bind fun v => ?_
    have titles : ∀ u : Value, C.Couples (Evaluation.referTo setting₁ enter₁ scope type e.location
        u.text) (Evaluation.referTo setting₂ enter₂ scope type e.location u.text) :=
      fun u => sim.referTo type e.location u.text
    refine (Coupling.Couples.mapM titles v.flatten).bind fun rs => ?_
    exact (evaluateTitles sim type rest).bind fun more => .pure C _

theorem evaluateOperands (sim : Simulation C setting₁ setting₂ enter₁ enter₂ scope defines blames) :
    ∀ es : List Expr, C.Couples (evaluateOperands setting₁ enter₁ scope es)
      (evaluateOperands setting₂ enter₂ scope es)
  | [] => .pure C _
  | e :: rest => by
    refine (evaluate sim e).bind fun v => ?_
    cases hr : referencesOf e.location v with
    | error error =>
      obtain ⟨text, rfl⟩ := unresolved_of_referencesOf hr
      exact sim.throw rfl nofun
    | ok references =>
      exact (evaluateOperands sim rest).bind fun more => .pure C _

end

/-! ### Declarations -/

theorem evaluateAttributes (sim : Simulation C setting₁ setting₂ enter₁ enter₂ scope defines blames)
    (attributes : List Attribute) :
    C.Couples (evaluateAttributes setting₁ enter₁ scope attributes)
      (evaluateAttributes setting₂ enter₂ scope attributes) := by
  refine Coupling.Couples.foldlM (fun values a => ?_) attributes Table.empty
  exact (sim.evaluate a.value).bind fun v => .pure C (values.insert a.name v)

theorem evaluateTitle (sim : Simulation C setting₁ setting₂ enter₁ enter₂ scope defines blames)
    (title : Expr) :
    C.Couples (evaluateTitle setting₁ enter₁ scope title)
      (evaluateTitle setting₂ enter₂ scope title) :=
  (sim.evaluate title).bind fun _ => .pure C _

theorem declareClasses (sim : Simulation C setting₁ setting₂ enter₁ enter₂ scope defines blames)
    (body : ResourceBody) :
    C.Couples (declareClasses setting₁ enter₁ scope body)
      (declareClasses setting₂ enter₂ scope body) := by
  refine (sim.evaluateAttributes body.attributes).bind fun given => ?_
  refine (sim.evaluateTitle body.title).bind fun titles => .forM (fun title => ?_) titles
  exact sim.resolveClass_bind title body.location fun c hc =>
    (sim.evaluateClass hc (some given) body.location).bind fun _ => .pure C _

theorem declareResource (sim : Simulation C setting₁ setting₂ enter₁ enter₂ scope defines blames)
    {type : DeclaredType} (hknown : setting₁.Knows type)
    (hdefines : ∀ d, type = .define d → defines d) (given : Table Value) (location : Location)
    (title : String) :
    C.Couples (declareResource enter₁ scope type given location title)
      (declareResource enter₂ scope type given location title) := by
  have hplace := sim.place (.ofType hknown given scope location title)
  cases type with
  | registered name => exact hplace.bind fun _ => .pure C _
  | define d =>
    intro s t h
    -- The define may only be entered once its resource is in the catalog.
    refine (hplace s t h).bind fun _ s' t' hs' h' => ?_
    refine (sim.enterDefine given location (hdefines d rfl) (sim.blames_of_place h hs') h'
      (mem_references_of_place hs')).bind ?_
    exact fun _ _ _ _ h'' => ⟨rfl, h''⟩

theorem declareResources (sim : Simulation C setting₁ setting₂ enter₁ enter₂ scope defines blames)
    {type : DeclaredType} (hknown : setting₁.Knows type)
    (hdefines : ∀ d, type = .define d → defines d) (body : ResourceBody) :
    C.Couples (declareResources setting₁ enter₁ scope type body)
      (declareResources setting₂ enter₂ scope type body) := by
  refine (sim.evaluateAttributes body.attributes).bind fun given => ?_
  exact (sim.evaluateTitle body.title).bind fun titles =>
    .forM (sim.declareResource hknown hdefines given body.location) titles

/-- Looking up a type and going on with it. -/
theorem resolveType_bind (sim : Simulation C setting₁ setting₂ enter₁ enter₂ scope defines blames)
    {β : Type} (name : String) (location : Location) {f₁ f₂ : DeclaredType → Eval β}
    (hf : ∀ type s t, C.running s t → setting₁.Resolves name (s.scopes.space scope) type →
      C.Couples (f₁ type) (f₂ type)) :
    C.Couples (resolveType setting₁ scope name location >>= f₁)
      (resolveType setting₂ scope name location >>= f₂) := by
  intro s t h
  rw [bind_apply, bind_apply, resolveType_apply, resolveType_apply, sim.space_eq h,
    sim.collection_alike.findDefine?_eq]
  cases hd : setting₁.collection.findDefine? name (s.scopes.space scope) with
  | some d => exact hf (.define d) s t h hd s t h
  | none =>
    rcases sim.registry_contains name location with heq | ⟨hmissing, hexcused⟩
    · rw [heq]
      cases hname : setting₁.registry.contains name with
      | true => exact hf (.registered name) s t h ⟨rfl, hname⟩ s t h
      | false => exact sim.error h rfl (by nofun)
    · rw [hmissing]
      exact .of_excused hexcused s _

theorem declare (sim : Simulation C setting₁ setting₂ enter₁ enter₂ scope defines blames)
    (typeName : String) (bodies : List ResourceBody) (location : Location)
    (hnames : C.Permits setting₁ scope defines
      (Statement.resource typeName bodies location).typeNames) :
    C.Couples (declare setting₁ enter₁ scope typeName bodies location)
      (declare setting₂ enter₂ scope typeName bodies location) := by
  unfold Evaluation.declare
  by_cases hclass : typeName = "class"
  · rw [if_pos hclass, if_pos hclass]
    exact .forM sim.declareClasses bodies
  · rw [if_neg hclass, if_neg hclass]
    rw [Statement.typeNames, if_neg hclass] at hnames
    refine sim.resolveType_bind typeName location fun type s t h htype => ?_
    refine .forM_mem fun body hbody => sim.declareResources htype.knows ?_ body
    rintro d rfl
    exact hnames typeName (List.mem_map.mpr ⟨body, hbody, rfl⟩) s t d h htype

/-! ### Statements -/

theorem guardHolds (sim : Simulation C setting₁ setting₂ enter₁ enter₂ scope defines blames) :
    ∀ guard : Option Expr, C.Couples (guardHolds setting₁ enter₁ scope guard)
      (guardHolds setting₂ enter₂ scope guard)
  | none => .pure C _
  | some guard => (sim.evaluate guard).bind fun _ => .pure C _

mutual

theorem execute (sim : Simulation C setting₁ setting₂ enter₁ enter₂ scope defines blames) :
    ∀ st : Statement, C.Permits setting₁ scope defines st.typeNames →
      C.Couples (execute setting₁ enter₁ scope st) (execute setting₂ enter₂ scope st)
  | .classDefinition .., _ | .defineDefinition .., _ | .nodeDefinition .., _ => .pure C _
  | .assignment name value location, _ =>
    (sim.evaluate value).bind fun v => sim.setVariable name v location
  | .resource typeName bodies location, h => sim.declare typeName bodies location h
  | .conditional branches _, h => executeFirst sim branches h
  | .expression value, _ => (sim.evaluate value).bind fun _ => .pure C _

/-- Statements keep to a simulation. -/
theorem executeAll (sim : Simulation C setting₁ setting₂ enter₁ enter₂ scope defines blames) :
    ∀ sts : List Statement, C.Permits setting₁ scope defines (typeNamesIn sts) →
      C.Couples (executeAll setting₁ enter₁ scope sts) (executeAll setting₂ enter₂ scope sts)
  | [], _ => .pure C _
  | st :: rest, h =>
    (execute sim st fun name hn => h name (List.mem_append_left _ hn)).bind fun _ =>
      executeAll sim rest fun name hn => h name (List.mem_append_right _ hn)

theorem executeFirst (sim : Simulation C setting₁ setting₂ enter₁ enter₂ scope defines blames) :
    ∀ branches : List Branch, C.Permits setting₁ scope defines (typeNamesInBranches branches) →
      C.Couples (executeFirst setting₁ enter₁ scope branches)
        (executeFirst setting₂ enter₂ scope branches)
  | [], _ => .pure C _
  | .mk guard body _ :: rest, h => by
    refine (sim.guardHolds guard).bind fun taken => ?_
    cases taken with
    | true => exact executeAll sim body fun name hn => h name (List.mem_append_left _ hn)
    | false => exact executeFirst sim rest fun name hn => h name (List.mem_append_right _ hn)

end

/-! ### Parameters -/

theorem bindParameter (sim : Simulation C setting₁ setting₂ enter₁ enter₂ scope defines blames)
    (given : Table Value) {resource : Reference} (hblames : blames resource)
    (location : Location) (p : Parameter) :
    C.Couples (bindParameter setting₁ enter₁ given resource scope location p)
      (bindParameter setting₂ enter₂ given resource scope location p) := by
  unfold Evaluation.bindParameter
  cases given.get? p.name with
  | some value => exact sim.setVariable p.name value p.location
  | none =>
    cases p.default with
    | some default =>
      exact (sim.evaluate default).bind fun v => sim.setVariable p.name v p.location
    | none => exact sim.throw rfl fun _ h => by cases h; exact hblames

theorem bindParameters (sim : Simulation C setting₁ setting₂ enter₁ enter₂ scope defines blames)
    (declared : List Parameter) (given : Table Value) {resource : Reference}
    (hblames : blames resource) (location : Location) (acceptsName : Bool) :
    C.Couples
      (bindParameters setting₁ enter₁ declared given resource scope location acceptsName)
      (bindParameters setting₂ enter₂ declared given resource scope location acceptsName) := by
  unfold Evaluation.bindParameters
  cases given.keys.find? fun name => !isKnownParameter declared acceptsName name with
  | some name => exact sim.throw rfl fun _ h => by cases h; exact hblames
  | none => exact .forM (sim.bindParameter given hblames location) declared

/-! ### Bodies -/

theorem bindName (sim : Simulation C setting₁ setting₂ enter₁ enter₂ scope defines blames)
    (name : Value) (location : Location) :
    C.Couples (bindName scope name location) (bindName scope name location) := by
  intro s t h
  rw [Evaluation.bindName, get_bind_apply, get_bind_apply, sim.localVariable_eq "name" h]
  cases (s.scopes.localVariable? scope "name").isNone with
  | true => exact sim.setVariable "name" name location s t h
  | false => exact ⟨rfl, h⟩

/-- The body of a class keeps to a simulation in its scope. -/
theorem executeClass (sim : Simulation C setting₁ setting₂ enter₁ enter₂ scope defines blames)
    (c : ClassDefinition) (given : Table Value) (location : Location)
    (hnames : C.Permits setting₁ scope defines (typeNamesIn c.body))
    (hblames : blames (.ofClass c.name)) :
    C.Couples (executeClass setting₁ enter₁ c given scope location)
      (executeClass setting₂ enter₂ c given scope location) :=
  (sim.bindParameters c.parameters given hblames location false).bind fun _ =>
    sim.executeAll c.body hnames

/-- The body of a define keeps to a simulation in the scope of an instance. -/
theorem executeDefine (sim : Simulation C setting₁ setting₂ enter₁ enter₂ scope defines blames)
    (d : DefineDefinition) (reference : Reference) (given : Table Value) (location : Location)
    (hnames : C.Permits setting₁ scope defines (typeNamesIn d.body)) (hblames : blames reference) :
    C.Couples (executeDefine setting₁ enter₁ d reference given scope location)
      (executeDefine setting₂ enter₂ d reference given scope location) := by
  refine (sim.setVariable "title" (.string reference.title) location).bind fun _ => ?_
  refine (sim.bindParameters d.parameters given hblames location true).bind fun _ => ?_
  exact (sim.bindName _ location).bind fun _ => sim.executeAll d.body hnames

end Simulation

end Manifest
