import Manifest.Proofs.Catalog.Growth
import Manifest.Scope
import Mathlib.Data.List.Basic
import Mathlib.Logic.ExistsUnique
import Mathlib.Logic.Relation

/-!
# Containment in a catalog

The edges that say that one resource contains another one form a tree with the main class at its
root.  A catalog with the main class alone is such a tree; it remains one when a resource comes in
together with the edge from a resource that is there, when other edges come in, and when resources
change apart from their references.

## Main definitions

* `Catalog.Holds` — one resource contains another one.
* `Catalog.IsContainmentTree` — the containing resources form a tree.

## Main results

* `Catalog.IsContainmentTree.place` — a resource comes in with its edge.
* `Catalog.IsContainmentTree.addEdge` — another edge comes in.
* `Catalog.IsContainmentTree.reaches` — the root is above every resource.
-/

namespace Manifest

namespace Catalog

open ScopeArena (mainClass)

/-- One resource contains another one. -/
def Holds (c : Catalog) (source target : Reference) : Prop :=
  ⟨source, target, .contains⟩ ∈ c.edges.items

/-- The containing resources form a tree with the main class at its root. -/
structure IsContainmentTree (c : Catalog) : Prop where
  keyed : c.Keyed
  nodup : c.references.Nodup
  main_mem : mainClass ∈ c.references
  /-- Nothing contains the main class. -/
  root : ∀ source, ¬ c.Holds source mainClass
  /-- Exactly one resource contains any other one. -/
  existsUnique : ∀ target ∈ c.references, target ≠ mainClass → ∃! source, c.Holds source target
  target_mem : ∀ {source target}, c.Holds source target → target ∈ c.references
  /-- What contains a resource was declared before it. -/
  earlier : ∀ {source target}, c.Holds source target →
    c.references.idxOf source < c.references.idxOf target
  /-- Edges of any kind join two resources. -/
  joins : ∀ e ∈ c.edges.items, c.contains e.source = true ∧ c.contains e.target = true

namespace IsContainmentTree

variable {c c₁ c₂ : Catalog}

theorem source_mem (h : c.IsContainmentTree) {source target : Reference}
    (hh : c.Holds source target) : source ∈ c.references := by
  rw [← List.idxOf_lt_length_iff]
  exact Nat.lt_trans (h.earlier hh) (List.idxOf_lt_length_iff.mpr (h.target_mem hh))

/-- A resource comes in, and a resource that is there contains it. -/
theorem place (h : c.IsContainmentTree) {r : Resource} {owner : Reference}
    (howner : owner ∈ c.references) (add : c.addResource r = .ok c₁)
    (contain : c₁.addEdge ⟨owner, r.reference, .contains⟩ = .ok c₂) : c₂.IsContainmentTree := by
  have hnew : r.reference ∉ c.references := notMem_references h.keyed (addResource_eq_ok add).1
  have href : c₂.references = c.references ++ [r.reference] := references_place add contain
  have hedge : ∀ e, e ∈ c₂.edges.items ↔ e = ⟨owner, r.reference, .contains⟩ ∨ e ∈ c.edges.items :=
    fun e => edges_addResource add ▸ mem_edges_addEdge contain e
  have hholds : ∀ a b, c₂.Holds a b ↔ (a = owner ∧ b = r.reference) ∨ c.Holds a b := by
    intro a b
    rw [Holds, hedge, Edge.mk.injEq, and_iff_left rfl]
    rfl
  have hne : ∀ b ∈ c.references, b ≠ r.reference := fun b hb he => hnew (he ▸ hb)
  have holder : ∀ {a b}, b ∈ c.references → (c₂.Holds a b ↔ c.Holds a b) := fun {a b} hb => by
    rw [hholds, or_iff_right fun he => hne b hb he.2]
  refine ⟨?keyed, ?nodup, ?main, ?root, ?unique, ?listed, ?earlier, ?joins⟩
  case keyed =>
    intro e he
    exact keyed_addResource h.keyed add e (resources_addEdge contain ▸ he)
  case nodup =>
    rw [href, List.nodup_append]
    refine ⟨h.nodup, List.nodup_cons.mpr ⟨List.not_mem_nil, List.nodup_nil⟩, ?_⟩
    intro a ha b hb
    rw [List.mem_singleton.mp hb]
    exact hne a ha
  case main => exact href ▸ List.mem_append_left _ h.main_mem
  case root =>
    intro a ha
    exact h.root a ((holder h.main_mem).mp ha)
  case unique =>
    intro b hb hmain
    rw [href, List.mem_append, List.mem_singleton] at hb
    rcases hb with hb | rfl
    · simpa only [holder hb] using h.existsUnique b hb hmain
    · refine ⟨owner, (hholds _ _).mpr (Or.inl ⟨rfl, rfl⟩), ?_⟩
      intro a ha
      -- Nothing contained the resource before it came in.
      rcases (hholds _ _).mp ha with ⟨rfl, -⟩ | ha
      · rfl
      · exact absurd (h.target_mem ha) hnew
  case listed =>
    intro a b hab
    rw [href]
    rcases (hholds _ _).mp hab with ⟨-, rfl⟩ | hab
    · exact List.mem_append_right _ (List.mem_singleton_self _)
    · exact List.mem_append_left _ (h.target_mem hab)
  case earlier =>
    intro a b hab
    rw [href]
    rcases (hholds _ _).mp hab with ⟨rfl, rfl⟩ | hab
    · -- The new resource stands behind everything that was there.
      rw [List.idxOf_append_of_mem howner, List.idxOf_append_of_notMem hnew]
      exact Nat.lt_of_lt_of_le (List.idxOf_lt_length_iff.mpr howner) (Nat.le_add_right _ _)
    · rw [List.idxOf_append_of_mem (h.source_mem hab), List.idxOf_append_of_mem (h.target_mem hab)]
      exact h.earlier hab
  case joins =>
    intro e he
    rcases (hedge e).mp he with rfl | he
    · obtain ⟨hs, ht, -⟩ := addEdge_eq_ok contain
      simp only [contains_congr (resources_addEdge contain)]
      exact ⟨hs, ht⟩
    · exact (h.joins e he).imp (contains_place add contain) (contains_place add contain)

/-- A catalog with the same resources in the same places and the same containing resources. -/
theorem congr (h : c.IsContainmentTree) (hkeyed : c₁.Keyed)
    (href : c₁.references = c.references) (hholds : ∀ a b, c₁.Holds a b ↔ c.Holds a b)
    (hjoins : ∀ e ∈ c₁.edges.items, c₁.contains e.source = true ∧ c₁.contains e.target = true) :
    c₁.IsContainmentTree where
  keyed := hkeyed
  nodup := href ▸ h.nodup
  main_mem := href ▸ h.main_mem
  root := fun a ha => h.root a ((hholds _ _).mp ha)
  existsUnique := fun b hb hmain => by
    simpa only [hholds] using h.existsUnique b (href ▸ hb) hmain
  target_mem := fun hab => href ▸ h.target_mem ((hholds _ _).mp hab)
  earlier := fun hab => href ▸ h.earlier ((hholds _ _).mp hab)
  joins := hjoins

/-- An edge comes in that says nothing about containment. -/
theorem addEdge (h : c.IsContainmentTree) {e : Edge} (hkind : e.kind ≠ .contains)
    (add : c.addEdge e = .ok c₁) : c₁.IsContainmentTree := by
  have hres : c₁.resources = c.resources := resources_addEdge add
  refine h.congr ?keyed ?references ?holds ?joins
  case keyed => exact fun d hd => h.keyed d (hres ▸ hd)
  case references => rw [references, hres]; rfl
  case holds =>
    intro a b
    rw [Holds, mem_edges_addEdge add, or_iff_right fun he : _ = e => hkind (he ▸ rfl)]
    rfl
  case joins =>
    intro d hd
    simp only [contains_congr hres]
    rcases (mem_edges_addEdge add d).mp hd with rfl | hd
    · obtain ⟨hs, ht, -⟩ := addEdge_eq_ok add
      exact ⟨hs, ht⟩
    · exact h.joins d hd

/-- Resources change apart from their references. -/
theorem mapResources (h : c.IsContainmentTree) {f : Resource → Resource}
    (hf : ∀ r, (f r).reference = r.reference) : (c.mapResources f).IsContainmentTree := by
  have hkeys : (c.mapResources f).resources.keys = c.resources.keys := by
    simp [Catalog.mapResources, Table.map, Table.keys]
  have hcontains : ∀ x, (c.mapResources f).contains x = c.contains x := fun x => by
    rw [contains, get?, contains, get?, Bool.eq_iff_iff, Table.get?_isSome_iff,
      Table.get?_isSome_iff, hkeys]
  refine h.congr ?keyed ?references (fun _ _ => Iff.rfl) ?joins
  case keyed =>
    intro e he
    obtain ⟨d, hd, rfl⟩ := List.mem_map.mp he
    rw [hf]
    exact h.keyed d hd
  case references =>
    simp [Catalog.mapResources, Table.map, references, Table.values, hf]
  case joins =>
    intro e he
    rw [hcontains, hcontains]
    exact h.joins e he

/-- Whatever is in the catalog, the main class contains it directly or through others. -/
theorem reaches (h : c.IsContainmentTree) {reference : Reference} (hm : reference ∈ c.references) :
    Relation.ReflTransGen c.Holds mainClass reference := by
  -- By induction on the place: what contains a resource stands further to the front.
  induction hn : c.references.idxOf reference using Nat.strongRecOn
    generalizing reference with
  | ind n ih =>
    by_cases hmain : reference = mainClass
    · rw [hmain]
    · obtain ⟨source, hsource, -⟩ := h.existsUnique reference hm hmain
      have hlt : c.references.idxOf source < n := hn ▸ h.earlier hsource
      exact (ih _ hlt (h.source_mem hsource) rfl).tail hsource

end IsContainmentTree

end Catalog

end Manifest
