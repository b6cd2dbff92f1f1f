import Manifest.Proofs.Evaluation.Reachability
import Manifest.Proofs.Except

/-!
# The containment tree of an evaluation

The catalog of every reachable state is a tree.  What is recorded for the end and what
metaparameters ask for says nothing about containment, and finishing keeps references.

## Main results

* `isContainmentTree_of_finish` — finishing keeps the tree.
* `isContainmentTree_of_run` — the catalog of an evaluation is a tree.
-/

namespace Manifest

open Evaluation
open ScopeArena (mainClass)

/-! ### Finishing -/

theorem kind_of_mem_relationshipsFrom {r : Resource} {p : RelationshipParameter}
    {rs : List Relationship} (h : relationshipsFrom r p = .ok rs) {q : Relationship} (hq : q ∈ rs) :
    q.kind = p.kind := by
  rw [relationshipsFrom] at h
  cases hp : r.parameter? p.name with
  | none =>
    rw [hp] at h
    cases h
    cases hq
  | some value =>
    simp only [hp] at h
    obtain ⟨references, -, h⟩ := Except.bind_eq_ok_iff.mp h
    cases h
    obtain ⟨other, -, rfl⟩ := List.mem_map.mp hq
    rw [RelationshipParameter.edge]
    split <;> rfl

/-- Metaparameters ask for no edges of containment. -/
theorem kind_ne_contains_of_mem_relationshipsOf {r : Resource} {rs : List Relationship}
    (h : relationshipsOf r = .ok rs) {q : Relationship} (hq : q ∈ rs) : q.kind ≠ .contains := by
  obtain ⟨lists, hlists, h⟩ := Except.bind_eq_ok_iff.mp h
  cases h
  obtain ⟨list, hlist, hq⟩ := List.mem_flatten.mp hq
  obtain ⟨p, hp, hlist⟩ := Except.exists_of_mem_mapM hlists list hlist
  rw [kind_of_mem_relationshipsFrom hlist hq]
  -- There are four such metaparameters.
  have hkinds : ∀ p ∈ relationshipParameters, p.kind ≠ .contains := by decide
  exact hkinds p hp

/-- Putting a recorded edge into a catalog, when it succeeds. -/
theorem connect_eq_ok {c c' : Catalog} {r : Relationship} (h : connect c r = .ok c') :
    c.addEdge ⟨r.source, r.target, r.kind⟩ = .ok c' := by
  rw [connect] at h
  cases he : c.addEdge ⟨r.source, r.target, r.kind⟩ with
  | ok d =>
    rw [he] at h
    cases h
    rfl
  | error e =>
    rw [he] at h
    cases e <;> cases h

theorem isContainmentTree_of_connect {c c' : Catalog} {r : Relationship}
    (h : c.IsContainmentTree) (hr : r.kind ≠ .contains) (hc : connect c r = .ok c') :
    c'.IsContainmentTree := h.addEdge hr (connect_eq_ok hc)

theorem reference_foldl_tag (tags : List String) (r : Resource) :
    (tags.foldl Resource.tag r).reference = r.reference := by
  induction tags generalizing r with
  | nil => rfl
  | cons tag rest ih => exact ih (r.tag tag)

theorem reference_withNamevar (registry : Registry) (r : Resource) :
    (withNamevar registry r).reference = r.reference := by
  rw [withNamevar]
  cases registry.get? r.reference.typeName with
  | none => rfl
  | some d =>
    simp only
    split <;> rfl

theorem reference_finishResource (registry : Registry) (scopes : ScopeArena) (r : Resource) :
    (finishResource registry scopes r).reference = r.reference := by
  simp only [finishResource, reference_foldl_tag, reference_withNamevar]

/-- Finishing keeps the tree. -/
theorem isContainmentTree_of_finish {registry : Registry} {s : EvalState} {c : Catalog}
    (hs : s.Contained) (h : finish registry s = .ok c) : c.IsContainmentTree := by
  obtain ⟨asked, hasked, h⟩ := Except.bind_eq_ok_iff.mp h
  obtain ⟨d, hd, h⟩ := Except.bind_eq_ok_iff.mp h
  have hkind : ∀ r ∈ s.relationships ++ asked.flatten, r.kind ≠ .contains := by
    intro r hr
    rcases List.mem_append.mp hr with hr | hr
    · exact hs.recorded r hr
    · obtain ⟨rs, hrs, hr⟩ := List.mem_flatten.mp hr
      obtain ⟨resource, -, hresource⟩ := Except.exists_of_mem_mapM hasked rs hrs
      exact kind_ne_contains_of_mem_relationshipsOf hresource hr
  -- The edges come in one after the other.
  have htree : d.IsContainmentTree := Except.foldlM_invariant hd
    (fun r hr _ _ hc hconnect => isContainmentTree_of_connect hc (hkind r hr) hconnect) hs.tree
  cases hrejected : d.resources.values.findSome? fun r =>
      rejected? registry (withNamevar registry r) with
  | some e =>
    simp only [hrejected] at h
    cases h
  | none =>
    simp only [hrejected] at h
    cases h
    exact htree.mapResources (reference_finishResource registry s.scopes)

theorem isContainmentTree_of_program {setting : Setting} {limit : Nat} {c : Catalog}
    {s : EvalState} (h : program setting limit (EvalState.start setting) = .ok c s) :
    c.IsContainmentTree :=
  isContainmentTree_of_finish (reachable_of_program h).contained (program_eq_ok h).2

/-- The catalog of an evaluation is a tree, and the main class is above every resource. -/
theorem isContainmentTree_of_run {setting : Setting} {c : Catalog} {events : List Event}
    (h : run setting = (.ok c, events)) :
    c.IsContainmentTree ∧
      ∀ reference ∈ c.references, Relation.ReflTransGen c.Holds mainClass reference := by
  obtain ⟨s, hs, -⟩ := program_of_run h
  have htree : c.IsContainmentTree := isContainmentTree_of_program hs
  exact ⟨htree, fun _ hm => htree.reaches hm⟩

/-! ### An evaluation of two manifests -/

namespace Sample

/-- A place in the manifest. -/
def line (n : Nat) : Location := ⟨"site.pp", n, 1⟩

/-- A notification with a title. -/
def notify (title : String) (n : Nat) : Statement :=
  .resource "notify" [⟨.string title (line n), [], line n⟩] (line n)

/-- A class with one resource. -/
def web : ClassDefinition := ⟨⟨"web", [], none, none, line 1⟩, [notify "up" 2]⟩

/-- Another class, which inherits from it. -/
def shop : ClassDefinition := ⟨⟨"shop", [], some "web", none, line 4⟩, [notify "open" 5]⟩

/-- A manifest that includes the inheriting class, with a node definition that includes both. -/
def collection : Collection where
  manifests := [⟨"site.pp", [.expression (.call "include" [.string "shop" (line 7)] (line 7))]⟩]
  definitions := ⟨[("web", .ofClass web), ("shop", .ofClass shop)], by decide⟩
  named := by
    intro e he
    simp only [List.mem_cons, List.not_mem_nil, or_false] at he
    rcases he with rfl | rfl <;> rfl
  nodes := [⟨⟨[.fallback], line 8⟩,
    [.expression (.call "require" [.string "web" (line 9)] (line 9)), notify "ready" 10]⟩]
  markers := .empty
  forcedStale := false
  generation := 0

/-- The evaluation for a node without facts. -/
def setting : Setting :=
  ⟨⟨"web1", .empty, none⟩, "production", collection, .builtin, true⟩

/-- Whether an evaluation has succeeded. -/
def isDone {α : Type} : EStateM.Result EvalError EvalState α → Bool
  | .ok _ _ => true
  | .error _ _ => false

/-- The state in which an evaluation ends. -/
def finalState {α : Type} : EStateM.Result EvalError EvalState α → EvalState
  | .ok _ s | .error _ s => s

end Sample

theorem isContainmentTree_of_run_sample :
    ∃ c events, run Sample.setting = (.ok c, events) ∧ c.references.length = 7 ∧
      c.IsContainmentTree ∧
      ∀ reference ∈ c.references, Relation.ReflTransGen c.Holds mainClass reference := by
  have hsize : (run Sample.setting).1.toOption.map (fun c => c.references.length) = some 7 := by
    decide +kernel
  rcases hrun : run Sample.setting with ⟨e | c, events⟩
  · rw [hrun] at hsize
    cases hsize
  · rw [hrun] at hsize
    exact ⟨c, events, rfl, Option.some.inj hsize, isContainmentTree_of_run hrun⟩

end Manifest
