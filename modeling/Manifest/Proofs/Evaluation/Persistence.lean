import Manifest.Proofs.Evaluation.Lockstep
import Manifest.Proofs.Evaluation.Reachability

/-!
# What is declared stays

While statements are executed a catalog only grows.  A resource comes in with the parameters that
its declaration gives it, and nothing that happens until the catalog is finished touches it again.

## Main definitions

* `Coupling.along` — evaluations of one setting whose catalogs have a property.
* `Declares` — a resource is declared with parameters between two states.

## Main results

* `declarable_of_executeSite` — an unfinished catalog has no other resources than those that can be
  declared.
* `Declares.get?_eq` — a declared resource stands in every later catalog with its parameters.
-/

namespace Manifest

open Evaluation
open ScopeArena (mainClass)

variable {α : Type} {setting : Setting} {s s' : EvalState}

/-! ### Properties of catalogs -/

/-- An evaluation with itself, as long as its catalog has a property. -/
def Coupling.along (P : Catalog → Prop) : Coupling where
  running s t := s = t ∧ P s.catalog
  failed s t := s = t

/-- What keeps the property, when it succeeds. -/
theorem Coupling.Couples.along_ok {P : Catalog → Prop} {m : Eval α}
    (h : (Coupling.along P).Couples m m) (hs : P s.catalog) {a : α} (hm : m s = .ok a s') :
    P s'.catalog :=
  Coupling.Couples.holding_ok (P := fun s => P s.catalog) h hs hm

/-- A property of catalogs is kept by everything if it is kept when resources are placed. -/
theorem lockstep_along {P : Catalog → Prop}
    (hplace : ∀ scope r s s', setting.Declarable r → P s.catalog → place scope r s = .ok () s' →
      P s'.catalog) : Lockstep (.along P) setting setting := by
  have hkept : Preserved setting fun s => P s.catalog :=
    { inherit := fun _ _ h => h
      setVariable := fun h _ => h
      report := fun _ _ h => h
      relate := fun _ _ h => h
      place := fun hr h hplaced => hplace _ _ _ _ hr h hplaced
      newScope := fun _ _ _ _ h => h
      giveScope := fun _ _ _ h => h }
  exact hkept.lockstep

/-! ### Resources that can be declared -/

theorem values_place {scope : ScopeId} {r : Resource} (h : place scope r s = .ok () s') :
    s'.catalog.resources.values = s.catalog.resources.values ++ [r] := by
  obtain ⟨c, c', hadd, hcontain, rfl⟩ := place_eq_ok h
  simp only [Catalog.resources_addEdge hcontain, Table.values, Catalog.entries_addResource hadd,
    List.map_append, List.map_cons, List.map_nil]

/-- An unfinished catalog has no other resources than those that can be declared. -/
theorem declarable_of_executeSite {limit : Nat}
    (h : executeSite setting (enter setting limit) (EvalState.start setting) = .ok () s) :
    ∀ r ∈ s.catalog.resources.values, setting.Declarable r := by
  have hstep : Lockstep (.along fun c => ∀ r ∈ c.resources.values, setting.Declarable r)
      setting setting := by
    refine lockstep_along fun scope r s s' hr hs hplace q hq => ?_
    rw [values_place hplace, List.mem_append, List.mem_singleton] at hq
    rcases hq with hq | rfl
    · exact hs q hq
    · exact hr
  refine (hstep.executeSite (hstep.enter limit)).along_ok (fun r hr => ?_) h
  cases List.mem_singleton.mp hr
  exact .main

/-! ### Resources stay -/

/-- A resource that came in is found. -/
theorem get?_place {scope : ScopeId} {r : Resource} (h : place scope r s = .ok () s') :
    s'.catalog.get? r.reference = some r := by
  obtain ⟨c, c', hadd, hcontain, rfl⟩ := place_eq_ok h
  obtain ⟨-, rfl⟩ := Catalog.addResource_eq_ok hadd
  rw [Catalog.get?, Catalog.resources_addEdge hcontain, Table.get?_insert, if_pos rfl]

theorem Catalog.get?_place {c c₁ c₂ : Catalog} {r q : Resource} {e : Edge}
    (add : c.addResource r = .ok c₁) (contain : c₁.addEdge e = .ok c₂) {reference : Reference}
    (h : c.get? reference = some q) : c₂.get? reference = some q := by
  obtain ⟨hnew, rfl⟩ := addResource_eq_ok add
  have hne : reference.text ≠ r.reference.text := by
    intro htext
    rw [get?, htext] at h
    rw [get?, h] at hnew
    cases hnew
  rw [get?, resources_addEdge contain, Table.get?_insert, if_neg hne]
  exact h

/-- A resource stays as it came in. -/
theorem lockstep_get? (setting : Setting) (reference : Reference) (r : Resource) :
    Lockstep (.along fun c => c.get? reference = some r) setting setting := by
  refine lockstep_along fun scope q s s' _ hs hplace => ?_
  obtain ⟨c, c', hadd, hcontain, rfl⟩ := place_eq_ok hplace
  exact Catalog.get?_place hadd hcontain hs

theorem Step.get?_eq {reference : Reference} {r : Resource} (h : Step setting s s')
    (hr : s.catalog.get? reference = some r) : s'.catalog.get? reference = some r := by
  cases h with
  | place add contain => exact Catalog.get?_place add contain hr
  | openClass defined new free declared add contain => exact Catalog.get?_place add contain hr
  | _ => exact hr

theorem Steps.get?_eq {reference : Reference} {r : Resource} (h : Steps setting s s')
    (hr : s.catalog.get? reference = some r) : s'.catalog.get? reference = some r := by
  induction h with
  | refl => exact hr
  | tail _ hs ih => exact hs.get?_eq ih

/-- New resources come in behind those that there are. -/
theorem Step.references (h : Step setting s s') :
    s.catalog.references <+: s'.catalog.references := by
  cases h with
  | place add contain => exact ⟨_, (Catalog.references_place add contain).symm⟩
  | openClass defined new free declared add contain =>
    exact ⟨_, (Catalog.references_place add contain).symm⟩
  | _ => exact List.prefix_rfl

theorem Steps.references (h : Steps setting s s') :
    s.catalog.references <+: s'.catalog.references := by
  induction h with
  | refl => exact List.prefix_rfl
  | tail _ hs ih => exact ih.trans hs.references

theorem references_of_place {scope : ScopeId} {r : Resource} (h : place scope r s = .ok () s') :
    s'.catalog.references = s.catalog.references ++ [r.reference] := by
  obtain ⟨c, c', hadd, hcontain, rfl⟩ := place_eq_ok h
  exact Catalog.references_place hadd hcontain

/-! ### Declarations -/

/-- Between two states a resource is declared with parameters. -/
inductive Declares (setting : Setting) (enter : Enter) :
    Reference → Table Value → EvalState → EvalState → Prop
  /-- A resource of a registered type, or an instance of a define with all that is in it. -/
  | ofType {scope : ScopeId} {type : DeclaredType} {given : Table Value} {location : Location}
    {title : String} {s s' : EvalState}
    (declared : declareResource enter scope type given location title s = .ok () s') :
    Declares setting enter (.of type.name title) given s s'
  /-- A class that is declared like a resource. -/
  | ofClass {scope : ScopeId} {given : Table Value} {location : Location} {title : String}
    {c : ClassDefinition} {s s' : EvalState}
    (found : setting.collection.findClass? title (s.scopes.space scope) = some c)
    (declared : declareClass setting enter scope given location title s = .ok () s') :
    Declares setting enter (.ofClass c.name) given s s'
  /-- A class that is evaluated because it is included, inherited from or referred to. -/
  | included {scope id : ScopeId} {location : Location} {c : ClassDefinition} {s s' : EvalState}
    (new : s.classScopes.get? c.name = none)
    (evaluated : evaluateClass enter c none scope location s = .ok id s') :
    Declares setting enter (.ofClass c.name) .empty s s'
  /-- The definition for the node. -/
  | ofNode {n : NodeDefinition} {s s' : EvalState}
    (entered : enterNode setting enter n s = .ok () s') :
    Declares setting enter (.of "node" (nodeTitle n)) .empty s s'

/-- A class that was entered stands in the catalog with what it was given. -/
theorem get?_of_enterClass {limit : Nat} {c : ClassDefinition} {given : Option (Table Value)}
    {declaring id : ScopeId} {location : Location}
    (h : enterClass setting (enter setting limit) c given declaring location s = .ok id s') :
    ∃ r, s'.catalog.get? (.ofClass c.name) = some r ∧ r.parameters = given.getD .empty := by
  obtain ⟨parent, s₁, -, h⟩ := bind_eq_ok h
  obtain ⟨_, s₂, hopen, h⟩ := bind_eq_ok h
  obtain ⟨_, s₃, hbody, h⟩ := bind_eq_ok h
  cases h
  have hplaced := get?_place (openClass_eq_ok hopen).2
  let placed := classResource c (given.getD .empty) s₁.scopes.next location
  have hstep := lockstep_get? setting (.ofClass c.name) placed
  have hkeeps := (hstep.simulation (hstep.enter limit) id).executeClass c
    (given.getD .empty) location Coupling.permits_all trivial
  exact ⟨placed, hkeeps.along_ok hplaced hbody, rfl⟩

theorem get?_of_evaluateClass {limit : Nat} {c : ClassDefinition} {given : Option (Table Value)}
    {declaring id : ScopeId} {location : Location}
    (hnew : s.classScopes.get? c.name = none ∨ given.isSome)
    (h : evaluateClass (enter setting limit) c given declaring location s = .ok id s') :
    ∃ r, s'.catalog.get? (.ofClass c.name) = some r ∧ r.parameters = given.getD .empty := by
  rw [evaluateClass_apply] at h
  cases hscope : s.classScopes.get? c.name with
  | none =>
    rw [hscope] at h
    cases limit with
    | zero => cases h
    | succ limit => exact get?_of_enterClass h
  | some scope =>
    obtain ⟨given, rfl⟩ := Option.isSome_iff_exists.mp (hnew.resolve_left (by simp [hscope]))
    rw [hscope] at h
    cases h

/-- A declared resource stands in every later catalog with its parameters. -/
theorem Declares.get?_eq {limit : Nat} {reference : Reference} {given : Table Value}
    {s₁ s₂ : EvalState} (h : Declares setting (enter setting limit) reference given s₁ s₂)
    (hs : Steps setting s₂ s) :
    ∃ r, s.catalog.get? reference = some r ∧ r.parameters = given := by
  -- Later steps leave resources alone, so it is enough to look at the state after the declaration.
  suffices hstands : ∃ r, s₂.catalog.get? reference = some r ∧ r.parameters = given by
    obtain ⟨r, hr, hgiven⟩ := hstands
    exact ⟨r, hs.get?_eq hr, hgiven⟩
  cases h with
  | @ofType scope type given location title _ _ declared =>
    obtain ⟨_, s, hplace, h⟩ := bind_eq_ok declared
    have hplaced := get?_place hplace
    let placed : Resource :=
      { Resource.new (.of type.name title) scope location with parameters := given }
    refine ⟨placed, ?_, rfl⟩
    cases type with
    | registered name =>
      cases h
      exact hplaced
    | define d =>
      obtain ⟨id, s', henter, h⟩ := bind_eq_ok h
      cases h
      have hstep := lockstep_get? setting (.of d.name title) placed
      exact (hstep.enter limit _).along_ok hplaced henter
  | @ofClass scope given location title c _ _ found declared =>
    obtain ⟨c', s, hresolve, h⟩ := bind_eq_ok declared
    rw [resolveClass_apply, found] at hresolve
    cases hresolve
    obtain ⟨id, s', hclass, h⟩ := bind_eq_ok h
    cases h
    exact get?_of_evaluateClass (.inr rfl) hclass
  | included new evaluated => exact get?_of_evaluateClass (.inl new) evaluated
  | @ofNode n _ _ entered =>
    obtain ⟨_, s, -, h⟩ := bind_eq_ok entered
    obtain ⟨_, s', hplace, h⟩ := bind_eq_ok h
    obtain ⟨scope, s'', hscope, h⟩ := bind_eq_ok h
    have hplaced := get?_place hplace
    let placed := Resource.new (.of "node" (nodeTitle n)) ScopeArena.top n.location
    have hstep := lockstep_get? setting (.of "node" (nodeTitle n)) placed
    have hkeeps := ((hstep.newScope ScopeArena.top "" (.of "node" (nodeTitle n))).along_ok hplaced
      hscope)
    exact ⟨placed, ((hstep.simulation (hstep.enter limit) scope).executeAll n.body
      Coupling.permits_all).along_ok hkeeps h, rfl⟩

end Manifest
