import Manifest.Catalog
import Manifest.Proofs.Table

/-!
# How a catalog grows

A new resource comes to the end of a catalog, and a new edge to the end of its edges.  Resources
are found by the texts of their references; in a catalog whose resources all stand under their own
texts, a reference that is not found is not there at all.

## Main definitions

* `Catalog.references` — the references of the resources, oldest first.
* `Catalog.Keyed` — every resource stands under the text of its reference.

## Main results

* `Catalog.references_addResource`, `Catalog.keyed_addResource` — adding a resource.
* `Catalog.resources_addEdge`, `Catalog.mem_edges_addEdge` — adding an edge.
-/

namespace Manifest

namespace Catalog

/-- The references of the resources, oldest first. -/
def references (c : Catalog) : List Reference := c.resources.values.map Resource.reference

/-- Every resource stands under the text of its reference. -/
def Keyed (c : Catalog) : Prop := ∀ e ∈ c.resources.entries, e.1 = e.2.reference.text

/-- A resource is found under its reference. -/
theorem Keyed.get?_eq {c : Catalog} (h : c.Keyed) {r : Resource} (hr : r ∈ c.resources.values) :
    c.get? r.reference = some r := by
  obtain ⟨e, he, rfl⟩ := List.mem_map.mp hr
  rw [get?, Table.get?_eq_some_iff, ← h e he]
  exact he

/-- Adding a resource, when it succeeds. -/
theorem addResource_eq_ok {c c' : Catalog} {r : Resource} (h : c.addResource r = .ok c') :
    c.get? r.reference = none ∧
      c' = { c with resources := c.resources.insert r.reference.text r } := by
  rw [addResource] at h
  cases hr : c.get? r.reference with
  | some existing => rw [hr] at h; cases h
  | none => rw [hr] at h; cases h; exact ⟨rfl, rfl⟩

/-- A resource is refused exactly if there is one with its reference; the error names the place of
the one that stays first. -/
theorem addResource_eq_error_iff {c : Catalog} {r : Resource} {error : CatalogError} :
    c.addResource r = .error error ↔
    ∃ kept, c.get? r.reference = some kept ∧
      error = .duplicateResource r.reference kept.location r.location := by
  rw [addResource]
  cases c.get? r.reference with
  | none => simp
  | some kept => simp [eq_comm]

theorem entries_addResource {c c' : Catalog} {r : Resource} (h : c.addResource r = .ok c') :
    c'.resources.entries = c.resources.entries ++ [(r.reference.text, r)] := by
  obtain ⟨hnew, rfl⟩ := addResource_eq_ok h
  exact Table.entries_insert hnew r

theorem references_addResource {c c' : Catalog} {r : Resource} (h : c.addResource r = .ok c') :
    c'.references = c.references ++ [r.reference] := by
  simp [references, Table.values, entries_addResource h]

theorem edges_addResource {c c' : Catalog} {r : Resource} (h : c.addResource r = .ok c') :
    c'.edges = c.edges := by
  obtain ⟨-, rfl⟩ := addResource_eq_ok h
  rfl

theorem keyed_addResource {c c' : Catalog} {r : Resource} (hc : c.Keyed)
    (h : c.addResource r = .ok c') : c'.Keyed := by
  intro e he
  rw [entries_addResource h, List.mem_append, List.mem_singleton] at he
  rcases he with he | rfl
  · exact hc e he
  · rfl

/-- Adding an edge, when it succeeds. -/
theorem addEdge_eq_ok {c c' : Catalog} {e : Edge} (h : c.addEdge e = .ok c') :
    c.contains e.source = true ∧ c.contains e.target = true ∧
      c' = { c with edges := c.edges.insert e } := by
  rw [addEdge] at h
  cases hs : c.contains e.source with
  | false => simp [hs] at h
  | true =>
    cases ht : c.contains e.target with
    | false => simp [hs, ht] at h
    | true =>
      simp only [hs, ht, Bool.not_true, Bool.false_eq_true, if_false, Except.ok.injEq] at h
      exact ⟨rfl, rfl, h.symm⟩

/-- An edge is refused exactly if one of its ends is not there; the error names the source if it is
missing. -/
theorem addEdge_eq_error_iff {c : Catalog} {e : Edge} {error : CatalogError} :
    c.addEdge e = .error error ↔
    (c.contains e.source = false ∧ error = .missingEndpoint e.source) ∨
      (c.contains e.source = true ∧ c.contains e.target = false ∧
        error = .missingEndpoint e.target) := by
  rw [addEdge]
  cases c.contains e.source <;> cases c.contains e.target <;> simp [eq_comm]

theorem addEdge_of_contains {c : Catalog} {e : Edge} (hs : c.contains e.source = true)
    (ht : c.contains e.target = true) :
    c.addEdge e = .ok { c with edges := c.edges.insert e } := by
  simp [addEdge, hs, ht]

theorem resources_addEdge {c c' : Catalog} {e : Edge} (h : c.addEdge e = .ok c') :
    c'.resources = c.resources := by
  obtain ⟨-, -, rfl⟩ := addEdge_eq_ok h
  rfl

theorem mem_edges_addEdge {c c' : Catalog} {e : Edge} (h : c.addEdge e = .ok c') (d : Edge) :
    d ∈ c'.edges.items ↔ d = e ∨ d ∈ c.edges.items := by
  obtain ⟨-, -, rfl⟩ := addEdge_eq_ok h
  exact OrderedSet.mem_insert c.edges e d

theorem contains_addResource {c c' : Catalog} {r : Resource} (h : c.addResource r = .ok c')
    {reference : Reference} (hc : c.contains reference = true) : c'.contains reference = true := by
  obtain ⟨-, rfl⟩ := addResource_eq_ok h
  rw [contains, get?] at hc ⊢
  rw [Table.get?_insert]
  split
  · rfl
  · exact hc

theorem contains_congr {c c' : Catalog} (h : c'.resources = c.resources) (reference : Reference) :
    c'.contains reference = c.contains reference := by
  rw [contains, get?, contains, get?, h]

/-- A resource that stands under its own text is found. -/
theorem contains_of_mem_references {c : Catalog} (hc : c.Keyed) {reference : Reference}
    (h : reference ∈ c.references) : c.contains reference = true := by
  obtain ⟨r, hr, rfl⟩ := List.mem_map.mp h
  obtain ⟨e, he, rfl⟩ := List.mem_map.mp hr
  rw [contains, get?, Table.get?_isSome_iff, ← hc e he]
  exact List.mem_map_of_mem he

theorem notMem_references {c : Catalog} (hc : c.Keyed) {reference : Reference}
    (h : c.get? reference = none) : reference ∉ c.references := by
  intro hm
  have := contains_of_mem_references hc hm
  rw [contains, h] at this
  cases this

/-! ### A resource with an edge -/

theorem references_place {c c₁ c₂ : Catalog} {r : Resource} {e : Edge}
    (add : c.addResource r = .ok c₁) (contain : c₁.addEdge e = .ok c₂) :
    c₂.references = c.references ++ [r.reference] := by
  rw [← references_addResource add, references, resources_addEdge contain]
  rfl

theorem contains_place {c c₁ c₂ : Catalog} {r : Resource} {e : Edge}
    (add : c.addResource r = .ok c₁) (contain : c₁.addEdge e = .ok c₂) {reference : Reference}
    (h : c.contains reference = true) : c₂.contains reference = true := by
  rw [contains_congr (resources_addEdge contain)]
  exact contains_addResource add h

end Catalog

end Manifest
