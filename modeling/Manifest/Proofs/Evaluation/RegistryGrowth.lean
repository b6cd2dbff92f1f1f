import Manifest.Proofs.Evaluation.Containment
import Manifest.Proofs.Evaluation.Lockstep

/-!
# Evaluations with more resource types

A registry is asked whether a type is there while statements are executed, and what its
parameters are when the catalog is finished.  With more types nothing that has succeeded is
executed in another way.  So what is left is to finish the catalog: it stays the same if it
conforms to the types that have been added, and otherwise it is refused or changed.

## Main definitions

* `Registry.Sub` — a registry has the types of another one.
* `Resource.Conforms`, `Catalog.Conforms` — resources are as the types of a registry ask for.

## Main results

* `conforms_of_finish`, `conforms_of_run` — a finished catalog conforms to the registry.
* `finish_eq_ok_iff` — finishing with more types.
* `run_eq_ok_iff` — evaluating with more types.
-/

namespace Manifest

open Evaluation

/-! ### Registries with more types -/

namespace Registry

/-- Every type of the first registry is one of the second. -/
def Sub (r r' : Registry) : Prop := ∀ name d, r.get? name = some d → r'.get? name = some d

variable {r r' r'' : Registry}

theorem Sub.refl (r : Registry) : r.Sub r := fun _ _ h => h

theorem Sub.trans (h : r.Sub r') (h' : r'.Sub r'') : r.Sub r'' :=
  fun name d hd => h' name d (h name d hd)

theorem sub_of_register {d : TypeDescriptor} (h : r.register d = .ok r') : r.Sub r' := by
  intro name e he
  rw [register] at h
  cases hnew : r.types.contains (Text.lower d.name) with
  | true => simp [hnew] at h
  | false =>
    simp only [hnew, Bool.false_eq_true, if_false, Except.ok.injEq] at h
    subst h
    -- The name of the new type was free, so it is another one.
    have hne : Text.lower name ≠ Text.lower d.name := by
      intro hname
      rw [get?, hname] at he
      rw [Table.contains, he] at hnew
      cases hnew
    rw [get?, Table.get?_insert, if_neg hne]
    exact he

theorem Sub.contains (h : r.Sub r') {name : String} (hname : r.contains name = true) :
    r'.contains name = true := by
  obtain ⟨d, hd⟩ := Option.isSome_iff_exists.mp hname
  rw [Registry.contains, h name d hd]
  rfl

end Registry

/-! ### Executing with more types -/

/-- Evaluations that are the same unless the first one does not know a resource type. -/
def growing : Coupling :=
  .equal fun e => ∃ name location, e = .unresolvedReference ("resource type " ++ name) location

variable {setting : Setting} {registry : Registry}

theorem lockstep_growing (h : setting.registry.Sub registry) :
    Lockstep growing setting { setting with registry := registry } := by
  refine lockstep_equal (.refl _) rfl (fun name location => ?_) fun _ _ _ =>
    Coupling.equal_couples_self _
  cases hname : setting.registry.contains name with
  | true => exact Or.inl (h.contains hname)
  | false => exact Or.inr ⟨rfl, name, location, rfl⟩

/-- What has been executed is executed with more types in the same way. -/
theorem executeSite_grow (h : setting.registry.Sub registry) {limit : Nat} {s s' : EvalState}
    (hs : executeSite setting (enter setting limit) s = .ok () s') :
    executeSite { setting with registry := registry }
      (enter { setting with registry := registry } limit) s = .ok () s' := by
  have hstep := lockstep_growing h
  rcases (hstep.executeSite (hstep.enter limit) s s rfl).ok_or_error with
    ⟨u, t, t', h₁, h₂, rfl⟩ | ⟨e, t, t', h₁, -, -⟩ | ⟨e, t, h₁, -⟩
  · rw [hs] at h₁
    cases h₁
    exact h₂
  · rw [hs] at h₁
    cases h₁
  · rw [hs] at h₁
    cases h₁

/-! ### Resources that conform to their types -/

/-- A resource is as a registry asks for: if its type is registered, its name variable is given, and
so are only parameters that the type takes. -/
def Resource.Conforms (r : Resource) (registry : Registry) : Prop :=
  ∀ d, registry.get? r.reference.typeName = some d →
    r.parameters.contains d.namevar = true ∧
      ∀ name ∈ r.parameters.keys, isMetaparameter name = true ∨ d.accepts name = true

/-- Every resource is as a registry asks for. -/
def Catalog.Conforms (c : Catalog) (registry : Registry) : Prop :=
  ∀ r ∈ c.resources.values, r.Conforms registry

theorem rejected?_eq_none_iff {r : Resource} :
    rejected? registry r = none ↔ ∀ d, registry.get? r.reference.typeName = some d →
      ∀ name ∈ r.parameters.keys, isMetaparameter name = true ∨ d.accepts name = true := by
  rw [rejected?]
  cases registry.get? r.reference.typeName with
  | none => simp
  | some d =>
    simp only [Option.bind_some, Option.map_eq_none_iff, List.find?_eq_none, Option.some.injEq,
      forall_eq']
    refine forall₂_congr fun name _ => ?_
    cases isMetaparameter name <;> cases d.accepts name <;> simp

/-- The first parameter that a type does not take is what a resource is rejected for. -/
theorem rejected?_eq_some {r : Resource} {e : EvalError} (h : rejected? registry r = some e) :
    ∃ d name, registry.get? r.reference.typeName = some d ∧ name ∈ r.parameters.keys ∧
      isMetaparameter name = false ∧ d.accepts name = false ∧
      e = .invalidParameter r.reference name r.location := by
  obtain ⟨d, hd, h⟩ := Option.bind_eq_some_iff.mp h
  obtain ⟨name, hname, rfl⟩ := Option.map_eq_some_iff.mp h
  have hrefused := List.find?_some hname
  rw [Bool.and_eq_true, Bool.not_eq_true', Bool.not_eq_true'] at hrefused
  exact ⟨d, name, hd, List.mem_of_find?_eq_some hname, hrefused.1, hrefused.2, rfl⟩

theorem contains_withNamevar (r : Resource) {d : TypeDescriptor}
    (h : registry.get? r.reference.typeName = some d) :
    (withNamevar registry r).parameters.contains d.namevar = true := by
  rw [withNamevar, h]
  simp only
  split
  · assumption
  · rw [Resource.setParameter, Table.contains, Table.get?_insert, if_pos rfl]
    rfl

theorem withNamevar_of_conforms {r : Resource} (h : r.Conforms registry) :
    withNamevar registry r = r := by
  rw [withNamevar]
  cases hd : registry.get? r.reference.typeName with
  | none => rfl
  | some d => simp only [(h d hd).1, if_true]

/-- A resource with its name variable conforms exactly if it is not rejected. -/
theorem withNamevar_conforms_iff {r : Resource} :
    (withNamevar registry r).Conforms registry ↔
      rejected? registry (withNamevar registry r) = none := by
  rw [rejected?_eq_none_iff, Resource.Conforms, reference_withNamevar]
  exact ⟨fun h d hd => (h d hd).2, fun h d hd => ⟨contains_withNamevar r hd, h d hd⟩⟩

theorem parameters_foldl_tag (tags : List String) (r : Resource) :
    (tags.foldl Resource.tag r).parameters = r.parameters := by
  induction tags generalizing r with
  | nil => rfl
  | cons tag rest ih => exact ih (r.tag tag)

theorem parameters_finishResource (registry : Registry) (scopes : ScopeArena) (r : Resource) :
    (finishResource registry scopes r).parameters = (withNamevar registry r).parameters := by
  simp only [finishResource, parameters_foldl_tag]

/-- Whether a finished resource conforms is decided by its name variable. -/
theorem finishResource_conforms_iff {registry' : Registry} {scopes : ScopeArena} {r : Resource} :
    (finishResource registry scopes r).Conforms registry' ↔
      (withNamevar registry r).Conforms registry' := by
  rw [Resource.Conforms, Resource.Conforms, parameters_finishResource, reference_finishResource,
    reference_withNamevar]

/-! ### Finishing with more types -/

/-- Finishing a catalog, when it succeeds: once the edges are there, no resource is rejected. -/
theorem finish_eq_ok {s : EvalState} {made : Catalog} (h : finish registry s = .ok made) :
    ∃ c : Catalog, c.resources = s.catalog.resources ∧
      (∀ registry', finish registry' s =
        match c.resources.values.findSome? fun r =>
          rejected? registry' (withNamevar registry' r) with
        | some e => .error e
        | none => .ok (c.mapResources (finishResource registry' s.scopes))) ∧
      (∀ r ∈ c.resources.values, rejected? registry (withNamevar registry r) = none) ∧
      made = c.mapResources (finishResource registry s.scopes) := by
  obtain ⟨asked, hasked, hconnect⟩ := Except.bind_eq_ok_iff.mp h
  obtain ⟨c, hc, hmade⟩ := Except.bind_eq_ok_iff.mp hconnect
  have hresources : c.resources = s.catalog.resources :=
    Except.foldlM_invariant (P := fun d => d.resources = s.catalog.resources) hc
      (fun _ _ _ _ hd hstep => (Catalog.resources_addEdge (connect_eq_ok hstep)).trans hd) rfl
  refine ⟨c, hresources, fun registry' => ?_, ?_⟩
  · rw [finish, hasked]
    change (List.foldlM connect s.catalog _ >>= _) = _
    rw [hc]
    rfl
  · cases hrejected : c.resources.values.findSome? fun r =>
        rejected? registry (withNamevar registry r) with
    | some e =>
      simp only [hrejected] at hmade
      cases hmade
    | none =>
      simp only [hrejected, Except.ok.injEq] at hmade
      exact ⟨List.findSome?_eq_none_iff.mp hrejected, hmade.symm⟩

theorem relationshipsOf_eq_error {r : Resource} {e : EvalError} (h : relationshipsOf r = .error e) :
    ∃ text location, e = .unresolvedReference text location := by
  rcases Except.bind_eq_error_iff.mp h with h | ⟨_, -, h⟩
  · obtain ⟨p, -, h⟩ := Except.exists_of_mapM_error h
    rw [relationshipsFrom] at h
    cases hp : r.parameter? p.name with
    | none =>
      rw [hp] at h
      cases h
    | some value =>
      simp only [hp] at h
      rcases Except.bind_eq_error_iff.mp h with h | ⟨_, -, h⟩
      · obtain ⟨text, rfl⟩ := unresolved_of_referencesOf h
        exact ⟨text, r.location, rfl⟩
      · cases h
  · cases h

theorem connect_eq_error {c : Catalog} {r : Relationship} {e : EvalError}
    (h : connect c r = .error e) : ∃ text location, e = .unresolvedReference text location := by
  rw [connect] at h
  cases hadd : c.addEdge ⟨r.source, r.target, r.kind⟩ with
  | ok c' =>
    rw [hadd] at h
    cases h
  | error refusal =>
    rw [hadd] at h
    rcases Catalog.addEdge_eq_error_iff.mp hadd with ⟨-, rfl⟩ | ⟨-, -, rfl⟩ <;>
    · cases h
      exact ⟨_, _, rfl⟩

/-- Finishing a catalog, when it fails: something refers to what is not there, or a resource is
rejected. -/
theorem finish_eq_error {s : EvalState} {e : EvalError} (h : finish registry s = .error e) :
    (∃ text location, e = .unresolvedReference text location) ∨
      ∃ r ∈ s.catalog.resources.values, rejected? registry (withNamevar registry r) = some e := by
  rcases Except.bind_eq_error_iff.mp h with h | ⟨asked, -, h⟩
  · obtain ⟨r, -, h⟩ := Except.exists_of_mapM_error h
    exact .inl (relationshipsOf_eq_error h)
  · rcases Except.bind_eq_error_iff.mp h with h | ⟨c, hc, h⟩
    · obtain ⟨_, _, h⟩ := Except.exists_of_foldlM_error h
      exact .inl (connect_eq_error h)
    · have hresources : c.resources = s.catalog.resources :=
        Except.foldlM_invariant (P := fun d => d.resources = s.catalog.resources) hc
          (fun _ _ _ _ hd hstep =>
            (Catalog.resources_addEdge (connect_eq_ok hstep)).trans hd) rfl
      split at h
      · next hrejected =>
        cases h
        obtain ⟨r, hr, h⟩ := List.exists_of_findSome?_eq_some hrejected
        exact .inr ⟨r, hresources ▸ hr, h⟩
      · cases h

/-- Nothing is entered while a catalog is finished. -/
theorem isOfEntering_of_finish {s : EvalState} {e : EvalError} (h : finish registry s = .error e) :
    e.isOfEntering = false := by
  rcases finish_eq_error h with ⟨text, location, rfl⟩ | ⟨r, -, h⟩
  · rfl
  · obtain ⟨d, name, -, -, -, -, rfl⟩ := rejected?_eq_some h
    rfl

theorem conforms_mapResources_iff {registry' : Registry} {scopes : ScopeArena} {c : Catalog} :
    (c.mapResources (finishResource registry scopes)).Conforms registry' ↔
      ∀ r ∈ c.resources.values, (withNamevar registry r).Conforms registry' := by
  have hvalues : (c.mapResources (finishResource registry scopes)).resources.values =
      c.resources.values.map (finishResource registry scopes) := by
    simp [Catalog.mapResources, Table.values, Table.map]
  simp only [Catalog.Conforms, hvalues, List.forall_mem_map, finishResource_conforms_iff]

/-- A finished catalog conforms to the registry. -/
theorem conforms_of_finish {s : EvalState} {made : Catalog} (h : finish registry s = .ok made) :
    made.Conforms registry := by
  obtain ⟨c, -, -, haccepted, rfl⟩ := finish_eq_ok h
  exact conforms_mapResources_iff.mpr fun r hr => withNamevar_conforms_iff.mpr (haccepted r hr)

/-- With more types a resource that conforms to them gets the same name variable. -/
theorem withNamevar_grow {registry' : Registry} (hsub : registry.Sub registry') {r : Resource}
    (h : (withNamevar registry r).Conforms registry') :
    withNamevar registry' r = withNamevar registry r := by
  cases hd : registry.get? r.reference.typeName with
  | some d => rw [withNamevar, withNamevar, hsub _ d hd, hd]
  | none =>
    have hsame : withNamevar registry r = r := by rw [withNamevar, hd]
    rw [hsame] at h ⊢
    exact withNamevar_of_conforms h

/-- A catalog that was finished is finished with more types in the same way exactly if it conforms
to them. -/
theorem finish_eq_ok_iff {registry' : Registry} (hsub : registry.Sub registry') {s : EvalState}
    {made : Catalog} (h : finish registry s = .ok made) :
    finish registry' s = .ok made ↔ made.Conforms registry' := by
  refine ⟨conforms_of_finish, fun hconforms => ?_⟩
  obtain ⟨c, -, hfinish, -, rfl⟩ := finish_eq_ok h
  rw [conforms_mapResources_iff] at hconforms
  have hnamevar : ∀ r ∈ c.resources.values, withNamevar registry' r = withNamevar registry r :=
    fun r hr => withNamevar_grow hsub (hconforms r hr)
  have haccepted : (c.resources.values.findSome? fun r =>
      rejected? registry' (withNamevar registry' r)) = none := by
    refine List.findSome?_eq_none_iff.mpr fun r hr => withNamevar_conforms_iff.mp ?_
    rw [hnamevar r hr]
    exact hconforms r hr
  have hresources : c.resources.map (finishResource registry' s.scopes) =
      c.resources.map (finishResource registry s.scopes) := by
    refine Table.ext (List.map_congr_left fun e he => ?_)
    have hr := hnamevar e.2 (List.mem_map_of_mem he)
    simp only [finishResource, hr]
  rw [hfinish, haccepted, Catalog.mapResources, Catalog.mapResources, hresources]

/-! ### Evaluating with more types -/

/-- The catalog of an evaluation conforms to the registry. -/
theorem conforms_of_run {made : Catalog} (h : (run setting).1 = .ok made) :
    made.Conforms setting.registry := by
  obtain ⟨s, hs, -⟩ := program_of_run (Prod.ext h rfl)
  exact conforms_of_finish (program_eq_ok hs).2

/-- A catalog that was made is made with more types exactly if it conforms to them. -/
theorem run_eq_ok_iff (hsub : setting.registry.Sub registry) {made : Catalog}
    (h : (run setting).1 = .ok made) :
    (run { setting with registry := registry }).1 = .ok made ↔ made.Conforms registry := by
  obtain ⟨s, hs, -⟩ := program_of_run (Prod.ext h rfl)
  obtain ⟨hexecute, hfinish⟩ := program_eq_ok hs
  let grown : Setting := { setting with registry := registry }
  have hgrown : executeSite grown (enter grown (depthLimit grown.collection))
      (EvalState.start grown) = .ok () s := executeSite_grow hsub hexecute
  have hrun' : (run grown).1 = finish registry s := by
    rw [run_apply, program, bind_apply, hgrown]
    simp only [finishState_apply]
    cases finish registry s <;> rfl
  rw [hrun']
  exact finish_eq_ok_iff hsub hfinish

end Manifest
