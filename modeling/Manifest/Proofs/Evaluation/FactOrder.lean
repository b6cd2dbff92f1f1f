import Manifest.Proofs.Evaluation.Lockstep
import Manifest.Proofs.Scope
import Manifest.Proofs.Table

/-!
# The order of facts does not matter

Facts are variables of the top scope, and an evaluation only ever asks what a variable stands for.
Two nodes that are the same up to the order of their facts therefore have the same evaluation.

## Main definitions

* `ScopeArena.Alike`, `EvalState.Alike` — states that differ in the order of variables at most.

## Main results

* `Node.same_iff`, `Node.same_trans` — nodes that are the same.
* `run_eq_of_same` — their evaluations are equal.
-/

namespace Manifest

open Evaluation

/-! ### Nodes that are the same -/

namespace Node

variable {a b c : Node}

theorem same_iff : a.same b = true ↔
    a.name = b.name ∧ (∀ key, a.facts.get? key = b.facts.get? key) ∧
      a.environment = b.environment := by
  simp only [same, Bool.and_eq_true, beq_iff_eq, Table.sameEntries_iff, and_assoc]

theorem same_refl (a : Node) : a.same a = true := same_iff.mpr ⟨rfl, fun _ => rfl, rfl⟩

theorem same_trans (h : a.same b = true) (h' : b.same c = true) : a.same c = true := by
  obtain ⟨hname, hfacts, henv⟩ := same_iff.mp h
  obtain ⟨hname', hfacts', henv'⟩ := same_iff.mp h'
  exact same_iff.mpr ⟨hname.trans hname', fun key => (hfacts key).trans (hfacts' key),
    henv.trans henv'⟩

end Node

/-! ### Scopes that are alike -/

/-- Scopes that differ in the order of their variables at most. -/
structure Scope.Alike (a b : Scope) : Prop where
  parent_eq : b.parent = a.parent
  space_eq : b.space = a.space
  owner_eq : b.owner = a.owner
  get?_eq : ∀ name, b.bindings.get? name = a.bindings.get? name

/-- As many scopes, each like its counterpart. -/
structure ScopeArena.Alike (a b : ScopeArena) : Prop where
  size_eq : b.size = a.size
  get : ∀ id, (a.get id).Alike (b.get id)

theorem Scope.Alike.refl (a : Scope) : a.Alike a := ⟨rfl, rfl, rfl, fun _ => rfl⟩

namespace ScopeArena.Alike

variable {a b : ScopeArena}

theorem localVariable?_eq (h : a.Alike b) (id : ScopeId) (name : String) :
    b.localVariable? id name = a.localVariable? id name := (h.get id).get?_eq name

theorem ancestors_eq (h : a.Alike b) (id : ScopeId) : b.ancestors id = a.ancestors id :=
  ancestors_congr (fun id => (h.get id).parent_eq) id

theorem resolve?_eq (h : a.Alike b) (id : ScopeId) (name : String) :
    b.resolve? id name = a.resolve? id name := by
  rw [resolve?, resolve?, h.ancestors_eq id]
  congr 1
  funext s
  exact h.localVariable?_eq s name

theorem child (h : a.Alike b) (parent : ScopeId) (space : String) (owner : Reference) :
    (a.child parent space owner).Alike (b.child parent space owner) := by
  refine ⟨?_, fun id => ?_⟩
  · rw [size_child, size_child, h.size_eq]
  · rw [get_child, get_child, h.size_eq]
    split
    · exact .refl _
    · exact h.get id

/-- Setting a variable in scopes that are alike. -/
theorem setVariable (h : a.Alike b) (scope : ScopeId) (name : String) (value : Value)
    (location : Location) :
    (∃ a' b', a.setVariable scope name value location = .ok a' ∧
      b.setVariable scope name value location = .ok b' ∧ a'.Alike b') ∨
    ∃ e, a.setVariable scope name value location = .error e ∧
      b.setVariable scope name value location = .error e := by
  rw [ScopeArena.setVariable, ScopeArena.setVariable, h.localVariable?_eq]
  cases a.localVariable? scope name with
  | some v => exact Or.inr ⟨_, rfl, rfl⟩
  | none =>
    refine Or.inl ⟨_, _, rfl, rfl, ?_, fun id => ?_⟩
    · simpa [size] using h.size_eq
    · rw [get_modify, get_modify, h.size_eq]
      split
      · refine ⟨(h.get id).parent_eq, (h.get id).space_eq, (h.get id).owner_eq, fun other => ?_⟩
        rw [Table.get?_insert, Table.get?_insert, (h.get id).get?_eq]
      · exact h.get id

end ScopeArena.Alike

/-! ### States that are alike -/

/-- States that differ in their scopes at most, which are alike. -/
def EvalState.Alike (s t : EvalState) : Prop :=
  ∃ scopes, s.scopes.Alike scopes ∧ t = { s with scopes := scopes }

/-- Evaluations that differ in the order of variables at most. -/
def unordered : Coupling where
  running := EvalState.Alike
  failed := EvalState.Alike

theorem EvalState.Alike.valueOf?_eq {s t : EvalState} (h : s.Alike t) (scope : ScopeId)
    (name : String) : t.valueOf? scope name = s.valueOf? scope name := by
  obtain ⟨b, hb, rfl⟩ := h
  simp only [EvalState.valueOf?, hb.localVariable?_eq, hb.resolve?_eq]

variable {setting : Setting} {node : Node}

theorem couples_setVariable (scope : ScopeId) (name : String) (value : Value)
    (location : Location) :
    unordered.Couples (setVariable scope name value location)
      (setVariable scope name value location) := by
  rintro s _ ⟨b, hb, rfl⟩
  rw [setVariable_apply, setVariable_apply]
  rcases hb.setVariable scope name value location with ⟨a', b', ha, hb', hab⟩ | ⟨e, ha, hb'⟩
  · simp only [ha, hb']
    exact ⟨rfl, b', hab, rfl⟩
  · simp only [ha, hb']
    exact .error ⟨b, hb, rfl⟩

theorem couples_readVariable (node : Node) (scope : ScopeId) (name : String)
    (location : Location) :
    unordered.Couples (readVariable setting scope name location)
      (readVariable { setting with node := node } scope name location) := by
  intro s t h
  rw [readVariable_apply, readVariable_apply, h.valueOf?_eq]
  cases s.valueOf? scope name with
  | some value => exact ⟨rfl, h⟩
  | none =>
    cases setting.strict with
    | true => exact .error h
    | false => exact ⟨rfl, h⟩

theorem couples_place (scope : ScopeId) (r : Resource) :
    unordered.Couples (place scope r) (place scope r) := by
  rintro s _ ⟨b, hb, rfl⟩
  have howner : b.owner scope = s.scopes.owner scope := (hb.get scope).owner_eq
  rw [place_apply, place_apply]
  cases s.catalog.addResource r with
  | error e => exact .error ⟨b, hb, rfl⟩
  | ok c =>
    simp only [contain_apply, howner]
    cases c.addEdge ⟨s.scopes.owner scope, r.reference, .contains⟩ with
    | error e => exact .error ⟨b, hb, rfl⟩
    | ok c' => exact ⟨rfl, b, hb, rfl⟩

/-- Evaluations for nodes of one name that are the same up to their facts are in lockstep. -/
theorem lockstep_unordered (hname : node.name = setting.node.name) :
    Lockstep unordered setting { setting with node := node } where
  collection_alike := .refl _
  registry_contains := fun _ _ => Or.inl rfl
  node_name_eq := hname
  failed_of_running := id
  space_eq := by
    rintro scope s _ ⟨b, hb, rfl⟩
    exact (hb.get scope).space_eq
  owner_eq := by
    rintro scope s _ ⟨b, hb, rfl⟩
    exact (hb.get scope).owner_eq
  localVariable_eq := by
    rintro scope name s _ ⟨b, hb, rfl⟩
    exact hb.localVariable?_eq scope name
  classScopes_eq := by
    rintro s _ ⟨b, hb, rfl⟩
    rfl
  location_eq := by
    rintro c s _ ⟨b, hb, rfl⟩
    rfl
  inheriting_eq := by
    rintro s _ ⟨b, hb, rfl⟩
    rfl
  inherit := by
    rintro names s _ ⟨b, hb, rfl⟩
    exact ⟨b, hb, rfl⟩
  -- Variables are looked up by name alone, so the order in which the facts were bound is not seen.
  readVariable := couples_readVariable node
  setVariable := couples_setVariable
  report := by
    rintro e s _ ⟨b, hb, rfl⟩
    exact ⟨rfl, b, hb, rfl⟩
  relate := by
    rintro r s _ ⟨b, hb, rfl⟩
    exact ⟨rfl, b, hb, rfl⟩
  place := fun scope r _ => couples_place scope r
  newScope := by
    rintro parent space owner s _ ⟨b, hb, rfl⟩
    exact ⟨hb.size_eq.symm, b.child parent space owner, hb.child parent space owner, rfl⟩
  giveScope := by
    rintro name scope s _ ⟨b, hb, rfl⟩
    exact ⟨b, hb, rfl⟩

/-! ### Whole evaluations -/

theorem finish_eq_of_alike {s t : EvalState} (h : s.Alike t) (registry : Registry) :
    finish registry t = finish registry s := by
  obtain ⟨b, hb, rfl⟩ := h
  -- Of scopes only the owners matter, and these are the same.
  have howners : ∀ scope, owningClasses b scope = owningClasses s.scopes scope := by
    intro scope
    have howner : b.owner = s.scopes.owner := funext fun id => (hb.get id).owner_eq
    rw [owningClasses, owningClasses, hb.ancestors_eq, howner]
  have hresource : finishResource registry b = finishResource registry s.scopes := by
    funext r
    simp only [finishResource, tagsOf, howners]
  simp only [finish, hresource]

theorem couples_program (hname : node.name = setting.node.name) (limit : Nat) :
    unordered.Couples (program setting limit)
      (program { setting with node := node } limit) := by
  have hstep := lockstep_unordered hname
  refine (hstep.executeSite (hstep.enter limit)).bind fun _ => ?_
  intro s t h
  rw [finishState_apply, finishState_apply, finish_eq_of_alike h]
  cases finish setting.registry s with
  | ok c => exact ⟨rfl, h⟩
  | error e => exact .error h

/-- What the variables of the top scope stand for. -/
theorem get?_bindings (setting : Setting) (name : String) :
    setting.bindings.get? name =
      if "environment" = name then some (.string setting.environment)
      else (setting.node.facts.get? name).map .string := by
  -- A fact by the name of the variable for the environment is left out, so no name comes twice.
  let facts := setting.node.facts.entries.filter (·.1 ≠ "environment")
  have hkeys : (facts.map fun f => (f.1, Value.string f.2)).map Prod.fst =
      facts.map Prod.fst := by
    rw [List.map_map]
    rfl
  have hnodup : ((("environment", Value.string setting.environment) ::
      facts.map fun f => (f.1, Value.string f.2)).map Prod.fst).Nodup := by
    rw [List.map_cons, hkeys, List.nodup_cons]
    refine ⟨fun hm => ?_, (List.filter_sublist.map _).nodup setting.node.facts.nodup⟩
    obtain ⟨f, hf, he⟩ := List.mem_map.mp hm
    have hne := (List.mem_filter.mp hf).2
    simp [he] at hne
  have hread : setting.bindings.get? name = _ := Table.get?_ofList hnodup name
  rw [hread, Table.lookup]
  split
  · rfl
  · next hne =>
    rw [Table.lookup_map, Table.lookup_filter_ne (Ne.symm hne)]
    rfl

theorem alike_start {setting : Setting} (h : setting.node.same node = true) :
    (EvalState.start setting).Alike (EvalState.start { setting with node := node }) := by
  obtain ⟨hname, hfacts, -⟩ := Node.same_iff.mp h
  refine ⟨(EvalState.start { setting with node := node }).scopes, ⟨rfl, fun id => ?_⟩, ?_⟩
  · rcases id with _ | id
    · refine ⟨rfl, rfl, rfl, fun name => ?_⟩
      have hbindings : Table.get? (Setting.bindings { setting with node := node }) name =
          setting.bindings.get? name := by
        rw [get?_bindings, get?_bindings, hfacts]
      exact hbindings
    · exact .refl _
  · simp only [EvalState.start, Setting.mainCatalog, hname]

/-- The evaluations of two nodes are equal if only the order of the facts differs. -/
theorem run_eq_of_same (setting : Setting) (h : setting.node.same node = true) :
    run { setting with node := node } = run setting := by
  have hname : node.name = setting.node.name := (Node.same_iff.mp h).1.symm
  have hcouples := couples_program hname (depthLimit setting.collection) _ _ (alike_start h)
  rw [run_apply, run_apply]
  rcases hcouples.ok_or_error with
    ⟨c, s, t, h₁, h₂, b, -, rfl⟩ | ⟨e, s, t, h₁, h₂, b, -, rfl⟩ | ⟨e, s, -, hexcused⟩
  · simp only [h₁, h₂]
  · simp only [h₁, h₂]
  · exact hexcused.elim

end Manifest
