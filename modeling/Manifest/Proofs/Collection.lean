import Manifest.Collection
import Manifest.Proofs.Except

/-!
# What a collection holds

A collection that is made of units holds their trees, and the definitions in these, and nothing
else.

## Main definitions

* `Collection.IsRead` — everything in a collection stands in the tree for a text.

## Main results

* `Collection.isRead_of_ofSources` — collections of units are read.
-/

namespace Manifest.Collection

variable {c c' : Collection}

/-- Everything that a collection holds stands in the tree for a text. -/
structure IsRead (c : Collection) : Prop where
  manifests : ∀ a ∈ c.manifests, ∃ file text, parse file text = .ok a
  definitions : ∀ e ∈ c.definitions.entries,
    ∃ file text a, parse file text = .ok a ∧ e.2 ∈ definitionsOf a
  nodes : ∀ n ∈ c.nodes, ∃ file text a, parse file text = .ok a ∧ n ∈ a.nodes

theorem IsRead.define {d : Definition} {file text : String} {a : Ast} (h : c.IsRead)
    (ha : parse file text = .ok a) (hd : d ∈ definitionsOf a) (hc' : c.define d = .ok c') :
    c'.IsRead := by
  unfold Collection.define at hc'
  split at hc'
  · cases hc'
  · cases hc'
    refine ⟨h.manifests, fun e he => ?_, h.nodes⟩
    rcases Table.mem_put he with rfl | he
    · exact ⟨file, text, a, ha, hd⟩
    · exact h.definitions e he

theorem IsRead.addSource {s : Source} (h : c.IsRead) (hc' : c.addSource s = .ok c') :
    c'.IsRead := by
  unfold Collection.addSource at hc'
  split at hc'
  · cases hc'
  · next a ha =>
    split at hc'
    · cases hc'
    · next d hd =>
      cases hc'
      have hdefined : d.IsRead := Except.foldlM_invariant hd
        (fun e he _ _ hb hb' => hb.define ha he hb') h
      -- Next to the definitions a unit only adds its tree and its nodes.
      exact {
        manifests := List.forall_mem_append.mpr
          ⟨hdefined.manifests, List.forall_mem_singleton.mpr ⟨s.name, s.text, ha⟩⟩
        definitions := hdefined.definitions
        nodes := List.forall_mem_append.mpr
          ⟨hdefined.nodes, fun n hn => ⟨s.name, s.text, a, ha, hn⟩⟩ }

/-- The collection of any units holds what is read from them. -/
theorem isRead_of_ofSources {sources : List Source} (h : ofSources sources = .ok c) :
    c.IsRead := by
  refine Except.foldlM_invariant h (fun s _ _ _ hb hb' => hb.addSource hb') ?_
  exact ⟨fun _ ha => absurd ha List.not_mem_nil, fun _ he => absurd he List.not_mem_nil,
    fun _ hn => absurd hn List.not_mem_nil⟩

end Manifest.Collection
