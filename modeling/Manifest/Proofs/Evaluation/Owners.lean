import Manifest.Proofs.Catalog.Containment
import Manifest.Proofs.Evaluation.Step

/-!
# The owners of scopes

In every reachable state the owners of all scopes are in the catalog already, so that whatever is
placed in a scope hangs below something that was declared earlier, and only a second declaration
is refused.

## Main definitions

* `EvalState.Contained` — the catalog is a tree that has the owners of all scopes.

## Main results

* `Reachable.contained` — so it is in every reachable state.
* `EvalState.Contained.exists_contain` — a resource that is new is placed.
-/

namespace Manifest

open Evaluation
open ScopeArena (mainClass)

namespace EvalState

/-- The catalog is a tree that has the owners of all scopes. -/
structure Contained (s : EvalState) : Prop where
  tree : s.catalog.IsContainmentTree
  owners : ∀ id, s.scopes.owner id ∈ s.catalog.references
  recorded : ∀ r ∈ s.relationships, r.kind ≠ .contains

theorem contained_start (setting : Setting) : (EvalState.start setting).Contained where
  tree := {
    keyed := by
      intro e he
      cases List.mem_singleton.mp he
      rfl
    nodup := List.nodup_cons.mpr ⟨List.not_mem_nil, List.nodup_nil⟩
    main_mem := List.mem_singleton_self mainClass
    root := fun _ h => by cases h
    existsUnique := fun target h hmain => absurd (List.mem_singleton.mp h) hmain
    target_mem := fun h => by cases h
    earlier := fun h => by cases h
    joins := fun _ h => by cases h }
  owners := by
    intro id
    have : (EvalState.start setting).scopes.owner id = mainClass := by
      rcases id with _ | id <;> rfl
    rw [this]
    exact List.mem_singleton_self mainClass
  recorded := fun _ h => by cases h

theorem Contained.step {setting : Setting} {s s' : EvalState} (h : s.Contained)
    (hs : Step setting s s') : s'.Contained := by
  cases hs with
  | report quiet => exact ⟨h.tree, h.owners, h.recorded⟩
  | setVariable set =>
    exact ⟨h.tree, fun id => ScopeArena.owner_setVariable set id ▸ h.owners id, h.recorded⟩
  | relate kind =>
    refine ⟨h.tree, h.owners, fun r hr => ?_⟩
    rcases List.mem_append.mp hr with hr | hr
    · exact h.recorded r hr
    · exact List.mem_singleton.mp hr ▸ kind
  | place add contain =>
    refine ⟨h.tree.place (h.owners _) add contain, fun id => ?_, h.recorded⟩
    rw [Catalog.references_place add contain]
    exact List.mem_append_left _ (h.owners id)
  | openScope listed =>
    refine ⟨h.tree, fun id => ?_, h.recorded⟩
    rw [ScopeArena.owner_child]
    split
    · exact listed
    · exact h.owners id
  | ascend defined inherits new free => exact ⟨h.tree, h.owners, h.recorded⟩
  | descend top => exact ⟨h.tree, h.owners, h.recorded⟩
  | openClass defined new free declared add contain =>
    refine ⟨h.tree.place (h.owners _) add contain, fun id => ?_, h.recorded⟩
    rw [Catalog.references_place add contain, opened, ScopeArena.owner_child]
    -- The owner of the new scope has come in with this very step.
    split
    · exact List.mem_append_right _ (List.mem_singleton_self _)
    · exact List.mem_append_left _ (h.owners id)

end EvalState

/-- Whatever owns a scope is in the catalog. -/
theorem Reachable.contained {setting : Setting} {s : EvalState} (h : Reachable setting s) :
    s.Contained :=
  h.invariant (EvalState.contained_start setting) fun _ _ => EvalState.Contained.step

/-- A resource that came in gets its edge. -/
theorem EvalState.Contained.exists_contain {s : EvalState} (h : s.Contained) {r : Resource}
    {c : Catalog} (add : s.catalog.addResource r = .ok c) (scope : ScopeId) :
    ∃ c', c.addEdge ⟨s.scopes.owner scope, r.reference, .contains⟩ = .ok c' := by
  have hkeyed : c.Keyed := Catalog.keyed_addResource h.tree.keyed add
  have hmem : ∀ reference ∈ s.catalog.references ++ [r.reference],
      c.contains reference = true := fun reference hm =>
    Catalog.contains_of_mem_references hkeyed (Catalog.references_addResource add ▸ hm)
  have howner := hmem _ (List.mem_append_left _ (h.owners scope))
  have hr := hmem _ (List.mem_append_right _ (List.mem_singleton_self r.reference))
  exact ⟨_, Catalog.addEdge_of_contains (e := ⟨_, _, .contains⟩) howner hr⟩

end Manifest
