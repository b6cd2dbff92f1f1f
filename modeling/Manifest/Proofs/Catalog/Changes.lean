import Manifest.Proofs.Catalog.Growth
import Manifest.Proofs.Reference

/-!
# Catalogs after any operations

Operations on a catalog are accepted or refused, one after the other; a refused one leaves the
catalog as it was.  What a catalog holds afterwards can be read off the operations alone: its
resources are those of the accepted additions, in their order, and each one is what was first added
under its reference, with the tags and parameters that it has got since.

## Main definitions

* `CatalogChange` — an operation on a catalog.
* `Catalog.attempt`, `Catalog.after` — what one operation and what several make of a catalog.
* `Catalog.accepted` — the operations that are not refused when it is their turn.
* `firstAddition?` — the first addition under a reference, with the operations behind it.
* `Catalog.Records` — a catalog holds what operations have put into it.

## Main results

* `Catalog.get?_perform` — what one operation does to what is found under a reference.
* `Catalog.references_after`, `Catalog.edges_after` — what is there and in which order.
* `Catalog.records_after` — a new catalog records whatever is done to it.
-/

namespace Manifest

/-- An operation on a catalog. -/
inductive CatalogChange
  | add (r : Resource)
  | connect (e : Edge)
  /-- The resource with a reference gets a tag. -/
  | tag (reference : Reference) (tag : String)
  /-- Every resource gets a tag. -/
  | tagAll (tag : String)
  | setParameter (reference : Reference) (name : String) (value : Value)
  | setVersion (version : Version)

namespace CatalogChange

/-- The reference under which an operation adds a resource. -/
def added? : CatalogChange → Option Reference
  | add r => some r.reference
  | _ => none

/-- The edge that an operation adds. -/
def edge? : CatalogChange → Option Edge
  | connect e => some e
  | _ => none

/-- The references that an operation mentions. -/
def mentioned : CatalogChange → List Reference
  | add r => [r.reference]
  | connect e => [e.source, e.target]
  | tag reference _ | setParameter reference _ _ => [reference]
  | tagAll _ | setVersion _ => []

theorem mem_mentioned_of_added? {change : CatalogChange} {reference : Reference}
    (h : change.added? = some reference) : reference ∈ change.mentioned := by
  cases change with
  | add r => cases h; exact List.mem_singleton_self _
  | _ => cases h

/-- What an operation makes of the resource with a reference. -/
def touch (reference : Reference) (r : Resource) : CatalogChange → Resource
  | tag other t => if other = reference then r.tag t else r
  | tagAll t => r.tag t
  | setParameter other name value => if other = reference then r.setParameter name value else r
  | add _ | connect _ | setVersion _ => r

/-- What is found under a reference after an operation. -/
def follow (reference : Reference) : Option Resource → CatalogChange → Option Resource
  | some r, change => some (change.touch reference r)
  | none, add r => if r.reference = reference then some r else none
  | none, _ => none

end CatalogChange

/-- The first resource that is added under a reference, with the operations behind it. -/
def firstAddition? (reference : Reference) :
    List CatalogChange → Option (Resource × List CatalogChange)
  | [] => none
  | .add r :: rest =>
    if r.reference = reference then some (r, rest) else firstAddition? reference rest
  | _ :: rest => firstAddition? reference rest

namespace Catalog

/-- What an operation makes of a catalog, or why it is refused. -/
def attempt (c : Catalog) : CatalogChange → Except CatalogError Catalog
  | .add r => c.addResource r
  | .connect e => c.addEdge e
  | .tag reference t => .ok (c.modify reference (·.tag t))
  | .tagAll t => .ok (c.mapResources (·.tag t))
  | .setParameter reference name value => .ok (c.modify reference (·.setParameter name value))
  | .setVersion version => .ok { c with version := version }

/-- The catalog after an operation. -/
def perform (c : Catalog) (change : CatalogChange) : Catalog :=
  match c.attempt change with
  | .ok c' => c'
  | .error _ => c

/-- The catalog after operations, one after the other. -/
def after (c : Catalog) (changes : List CatalogChange) : Catalog := changes.foldl perform c

/-- The operations that are not refused when it is their turn. -/
def accepted (c : Catalog) : List CatalogChange → List CatalogChange
  | [] => []
  | change :: rest =>
    match c.attempt change with
    | .ok c' => change :: accepted c' rest
    | .error _ => accepted c rest

variable {c c' : Catalog} {r : Resource} {e : Edge} {error : CatalogError}
  {reference : Reference} {change : CatalogChange} {changes : List CatalogChange}

/-! ### One operation -/

theorem perform_of_ok (h : c.attempt change = .ok c') : c.perform change = c' := by
  rw [perform, h]

theorem perform_of_error (h : c.attempt change = .error error) : c.perform change = c := by
  rw [perform, h]

theorem entries_modify (c : Catalog) (reference : Reference) (f : Resource → Resource) :
    (c.modify reference f).resources.entries =
      c.resources.entries.map fun e => (e.1, if e.1 = reference.text then f e.2 else e.2) := rfl

theorem references_map_entries {f : String × Resource → Resource}
    (h : c'.resources.entries = c.resources.entries.map fun e => (e.1, f e))
    (hf : ∀ e, (f e).reference = e.2.reference) : c'.references = c.references := by
  simp only [references, Table.values, h, List.map_map]
  exact List.map_congr_left fun e _ => hf e

theorem keyed_map_entries {f : String × Resource → Resource} (hc : c.Keyed)
    (h : c'.resources.entries = c.resources.entries.map fun e => (e.1, f e))
    (hf : ∀ e, (f e).reference = e.2.reference) : c'.Keyed := by
  intro e he
  rw [h] at he
  obtain ⟨d, hd, rfl⟩ := List.mem_map.mp he
  rw [hf]
  exact hc d hd

/-- An operation that adds no resource keeps the resources in their places. -/
theorem entries_attempt (h : c.attempt change = .ok c') (hchange : change.added? = none) :
    ∃ f : String × Resource → Resource, (∀ e, (f e).reference = e.2.reference) ∧
      c'.resources.entries = c.resources.entries.map fun e => (e.1, f e) := by
  cases change with
  | add r => cases hchange
  | connect e =>
    refine ⟨Prod.snd, fun _ => rfl, ?_⟩
    rw [resources_addEdge h]
    exact (List.map_id _).symm
  | tag other t =>
    cases h
    refine ⟨fun e => if e.1 = other.text then e.2.tag t else e.2, fun e => ?_, rfl⟩
    show (if _ then _ else _ : Resource).reference = _
    split <;> rfl
  | tagAll t =>
    cases h
    exact ⟨fun e => e.2.tag t, fun _ => rfl, rfl⟩
  | setParameter other name value =>
    cases h
    refine ⟨fun e => if e.1 = other.text then e.2.setParameter name value else e.2,
      fun e => ?_, rfl⟩
    show (if _ then _ else _ : Resource).reference = _
    split <;> rfl
  | setVersion version =>
    cases h
    exact ⟨Prod.snd, fun _ => rfl, (List.map_id _).symm⟩

/-- A resource comes to the end, and nothing else changes what is there. -/
theorem references_attempt (h : c.attempt change = .ok c') :
    c'.references = c.references ++ change.added?.toList := by
  cases hadded : change.added? with
  | some reference =>
    cases change with
    | add r =>
      cases hadded
      exact references_addResource h
    | _ => cases hadded
  | none =>
    obtain ⟨f, hf, hentries⟩ := entries_attempt h hadded
    rw [references_map_entries hentries hf, Option.toList_none, List.append_nil]

/-- Edges come in one by one, and nothing else changes them. -/
theorem edges_attempt (h : c.attempt change = .ok c') :
    c'.edges = match change.edge? with
      | some e => c.edges.insert e
      | none => c.edges := by
  cases change with
  | add r => exact edges_addResource h
  | connect e =>
    obtain ⟨-, -, rfl⟩ := addEdge_eq_ok h
    rfl
  | _ =>
    cases h
    rfl

/-- Resources stand under their own texts, whatever is done. -/
theorem Keyed.attempt (hkeyed : c.Keyed) (h : c.attempt change = .ok c') : c'.Keyed := by
  cases hadded : change.added? with
  | none =>
    obtain ⟨f, hf, hentries⟩ := entries_attempt h hadded
    exact keyed_map_entries hkeyed hentries hf
  | some reference =>
    cases change with
    | add r => exact keyed_addResource hkeyed h
    | _ => cases hadded

theorem Keyed.after (hkeyed : c.Keyed) (changes : List CatalogChange) :
    (c.after changes).Keyed := by
  induction changes generalizing c with
  | nil => exact hkeyed
  | cons change rest ih =>
    refine ih ?_
    cases h : c.attempt change with
    | ok c' =>
      rw [perform_of_ok h]
      exact hkeyed.attempt h
    | error error =>
      rw [perform_of_error h]
      exact hkeyed

/-! ### What is found under a reference -/

theorem lookup_map_if (key other : String) (f : Resource → Resource) :
    ∀ es : List (String × Resource),
      Table.lookup other (es.map fun e => (e.1, if e.1 = key then f e.2 else e.2)) =
        (Table.lookup other es).map fun r => if other = key then f r else r
  | [] => rfl
  | e :: rest => by
    rw [List.map_cons, Table.lookup, Table.lookup]
    by_cases he : e.1 = other
    · rw [if_pos he, if_pos he, he]
      rfl
    · rw [if_neg he, if_neg he]
      exact lookup_map_if key other f rest

/-- Changing the resource with one reference leaves those with other references alone. -/
theorem get?_modify {other : Reference} (ho : other.Bracketless) (hr : reference.Bracketless)
    (c : Catalog) (f : Resource → Resource) :
    (c.modify other f).get? reference =
      (c.get? reference).map fun r => if other = reference then f r else r := by
  have htext : reference.text = other.text ↔ other = reference :=
    ⟨fun h => (Reference.text_injective hr ho h).symm, fun h => h ▸ rfl⟩
  rw [get?, Table.get?, entries_modify, lookup_map_if, ← Table.get?, ← get?]
  simp only [htext]

/-- What one operation does to what is found under a reference. -/
theorem get?_perform (hmentioned : ∀ q ∈ change.mentioned, q.Bracketless)
    (hr : reference.Bracketless) (c : Catalog) :
    (c.perform change).get? reference = change.follow reference (c.get? reference) := by
  cases change with
  | add r =>
    have hadded : r.reference.Bracketless := hmentioned _ List.mem_cons_self
    cases h : c.addResource r with
    | error error =>
      -- Whoever is refused meets the resource that is there, and it stays as it is.
      obtain ⟨kept, hkept, -⟩ := addResource_eq_error_iff.mp h
      have hsame : c.perform (.add r) = c := perform_of_error h
      rw [hsame]
      cases hget : c.get? reference with
      | some found => rfl
      | none =>
        have hne : r.reference ≠ reference := by
          rintro rfl
          rw [hkept] at hget
          cases hget
        show none = if _ then _ else _
        rw [if_neg hne]
    | ok c' =>
      obtain ⟨hnew, hc'⟩ := addResource_eq_ok h
      have hadd : c.perform (.add r) = c' := perform_of_ok h
      rw [hadd, hc', get?, Table.get?_insert]
      by_cases heq : r.reference = reference
      · subst heq
        rw [if_pos rfl, hnew]
        exact (if_pos rfl).symm
      · have hne : reference.text ≠ r.reference.text :=
          fun htext => heq (Reference.text_injective hr hadded htext).symm
        rw [if_neg hne, ← get?]
        cases c.get? reference with
        | some found => rfl
        | none => exact (if_neg heq).symm
  | connect e =>
    have hsame : (c.perform (.connect e)).resources = c.resources := by
      cases h : c.addEdge e with
      | error error => exact congrArg Catalog.resources (perform_of_error h)
      | ok c' =>
        have hconnect : c.perform (.connect e) = c' := perform_of_ok h
        rw [hconnect, resources_addEdge h]
    rw [get?, hsame, ← get?]
    cases c.get? reference <;> rfl
  | tag other t =>
    have ho : other.Bracketless := hmentioned _ List.mem_cons_self
    rw [perform_of_ok rfl, get?_modify ho hr]
    cases c.get? reference <;> rfl
  | tagAll t =>
    rw [perform_of_ok rfl, get?, mapResources, Table.get?_map, ← get?]
    cases c.get? reference <;> rfl
  | setParameter other name value =>
    have ho : other.Bracketless := hmentioned _ List.mem_cons_self
    rw [perform_of_ok rfl, get?_modify ho hr]
    cases c.get? reference <;> rfl
  | setVersion version =>
    rw [perform_of_ok rfl, get?, ← get?]
    show c.get? reference = _
    cases c.get? reference <;> rfl

/-! ### Catalogs whose references are told apart -/

/-- Every resource stands under its own text, and texts tell the references apart. -/
structure Tidy (c : Catalog) : Prop where
  keyed : c.Keyed
  bracketless : ∀ q ∈ c.references, q.Bracketless
  /-- Edges join resources that are there. -/
  joined : ∀ e ∈ c.edges.items, e.source ∈ c.references ∧ e.target ∈ c.references

namespace Tidy

/-- What is found under a reference is the one resource that has it. -/
theorem get?_eq_some_iff (h : c.Tidy) (hr : reference.Bracketless) :
    c.get? reference = some r ↔ r ∈ c.resources.values ∧ r.reference = reference := by
  constructor
  · intro hget
    have hmem : (reference.text, r) ∈ c.resources.entries := Table.mem_of_get? hget
    have hvalue : r ∈ c.resources.values := List.mem_map_of_mem hmem
    have hlisted : r.reference.Bracketless := h.bracketless _ (List.mem_map_of_mem hvalue)
    exact ⟨hvalue, (Reference.text_injective hr hlisted (h.keyed _ hmem)).symm⟩
  · rintro ⟨hvalue, rfl⟩
    exact h.keyed.get?_eq hvalue

theorem contains_iff (h : c.Tidy) (hr : reference.Bracketless) :
    c.contains reference = true ↔ reference ∈ c.references := by
  refine ⟨fun hcontains => ?_, contains_of_mem_references h.keyed⟩
  obtain ⟨r, hget⟩ := Option.isSome_iff_exists.mp hcontains
  obtain ⟨hvalue, rfl⟩ := (h.get?_eq_some_iff hr).mp hget
  exact List.mem_map_of_mem hvalue

/-- Different texts belong to different references. -/
theorem nodup (h : c.Tidy) : c.references.Nodup := by
  have hkeys : c.references.map Reference.text = c.resources.keys := by
    simp only [references, Table.values, Table.keys, List.map_map]
    exact List.map_congr_left fun e he => (h.keyed e he).symm
  refine List.Nodup.of_map Reference.text ?_
  rw [hkeys]
  exact c.resources.nodup

theorem attempt (h : c.Tidy) (hmentioned : ∀ q ∈ change.mentioned, q.Bracketless)
    (hc : c.attempt change = .ok c') : c'.Tidy := by
  have href : c'.references = c.references ++ change.added?.toList := references_attempt hc
  refine ⟨?keyed, ?bracketless, ?joined⟩
  case keyed => exact h.keyed.attempt hc
  case bracketless =>
    intro q hq
    rw [href, List.mem_append] at hq
    rcases hq with hq | hq
    · exact h.bracketless q hq
    · refine hmentioned q ?_
      cases change with
      | add r => exact hq
      | _ => cases hq
  case joined =>
    intro e he
    suffices hends : e.source ∈ c.references ∧ e.target ∈ c.references by
      rw [href]
      exact ⟨List.mem_append_left _ hends.1, List.mem_append_left _ hends.2⟩
    rw [edges_attempt hc] at he
    cases change with
    | connect d =>
      rcases (OrderedSet.mem_insert _ _ _).mp he with rfl | he
      · obtain ⟨hsource, htarget, -⟩ := addEdge_eq_ok hc
        have hends : ∀ q ∈ [e.source, e.target], q.Bracketless := hmentioned
        exact ⟨(h.contains_iff (hends _ List.mem_cons_self)).mp hsource,
          (h.contains_iff (hends _ (List.mem_cons_of_mem _ List.mem_cons_self))).mp htarget⟩
      · exact h.joined e he
    | _ => exact h.joined e he

theorem perform (h : c.Tidy) (hmentioned : ∀ q ∈ change.mentioned, q.Bracketless) :
    (c.perform change).Tidy := by
  cases hc : c.attempt change with
  | ok c' =>
    rw [perform_of_ok hc]
    exact h.attempt hmentioned hc
  | error error =>
    rw [perform_of_error hc]
    exact h

theorem after (h : c.Tidy)
    (hmentioned : ∀ change ∈ changes, ∀ q ∈ change.mentioned, q.Bracketless) :
    (c.after changes).Tidy := by
  induction changes generalizing c with
  | nil => exact h
  | cons change rest ih =>
    exact ih (h.perform (hmentioned change List.mem_cons_self))
      fun x hx => hmentioned x (List.mem_cons_of_mem change hx)

end Tidy

theorem tidy_new (node environment : String) : (new node environment).Tidy where
  keyed _ h := nomatch h
  bracketless _ h := nomatch h
  joined _ h := nomatch h

/-! ### Several operations -/

theorem after_concat (c : Catalog) (changes : List CatalogChange) (change : CatalogChange) :
    c.after (changes ++ [change]) = (c.after changes).perform change := by
  simp [after]

theorem accepted_concat (c : Catalog) (changes : List CatalogChange) (change : CatalogChange) :
    c.accepted (changes ++ [change]) = c.accepted changes ++
      match (c.after changes).attempt change with
      | .ok _ => [change]
      | .error _ => [] := by
  induction changes generalizing c with
  | nil =>
    show c.accepted [change] = [] ++ match c.attempt change with
      | .ok _ => [change]
      | .error _ => []
    unfold accepted
    cases c.attempt change <;> rfl
  | cons first rest ih =>
    have hafter : c.after (first :: rest) = (c.perform first).after rest := rfl
    rw [List.cons_append, accepted, accepted, hafter]
    cases h : c.attempt first with
    | ok c' =>
      rw [perform_of_ok h]
      exact congrArg (first :: ·) (ih c')
    | error error =>
      rw [perform_of_error h]
      exact ih c

theorem accepted_subset (c : Catalog) (changes : List CatalogChange) :
    c.accepted changes ⊆ changes := by
  induction changes generalizing c with
  | nil => exact List.Subset.refl _
  | cons change rest ih =>
    rw [accepted]
    cases c.attempt change with
    | ok c' => exact List.cons_subset_cons change (ih c')
    | error error => exact List.subset_cons_of_subset change (ih c)

/-- Refused operations leave no trace: without them the catalog comes out the same. -/
theorem after_accepted (c : Catalog) (changes : List CatalogChange) :
    c.after (c.accepted changes) = c.after changes := by
  induction changes generalizing c with
  | nil => rfl
  | cons change rest ih =>
    have hafter : c.after (change :: rest) = (c.perform change).after rest := rfl
    rw [accepted, hafter]
    cases h : c.attempt change with
    | ok c' =>
      have haccepted : c.after (change :: c'.accepted rest) =
          (c.perform change).after (c'.accepted rest) := rfl
      rw [haccepted, perform_of_ok h]
      exact ih c'
    | error error =>
      rw [perform_of_error h]
      exact ih c

/-- The resources stand in the order in which their additions were accepted. -/
theorem references_after (c : Catalog) (changes : List CatalogChange) :
    (c.after changes).references =
      c.references ++ (c.accepted changes).filterMap CatalogChange.added? := by
  induction changes using List.reverseRecOn with
  | nil => exact (List.append_nil _).symm
  | append_singleton changes change ih =>
    rw [after_concat, accepted_concat]
    cases h : (c.after changes).attempt change with
    | ok c' =>
      have hlast : [change].filterMap CatalogChange.added? = change.added?.toList := by
        cases hadded : change.added? <;> simp [hadded]
      rw [perform_of_ok h, references_attempt h, ih, List.filterMap_append, List.append_assoc,
        hlast]
    | error error =>
      rw [perform_of_error h, ih, List.append_nil]

theorem eraseDups_concat {α : Type} [DecidableEq α] (as : List α) (a : α) :
    (as ++ [a]).eraseDups = if a ∈ as then as.eraseDups else as.eraseDups ++ [a] := by
  rw [List.eraseDups_append]
  by_cases h : a ∈ as
  · simp [h, List.removeAll]
  · simp [h, List.removeAll, List.eraseDups_cons]

/-- The edges stand in the order in which they were accepted first. -/
theorem edges_after (hc : c.edges.items = []) (changes : List CatalogChange) :
    (c.after changes).edges.items =
      ((c.accepted changes).filterMap CatalogChange.edge?).eraseDups := by
  induction changes using List.reverseRecOn with
  | nil => exact hc
  | append_singleton changes change ih =>
    rw [after_concat, accepted_concat]
    cases h : (c.after changes).attempt change with
    | error error => rw [perform_of_error h, ih, List.append_nil]
    | ok c' =>
      rw [perform_of_ok h, edges_attempt h, List.filterMap_append]
      cases hedge : change.edge? with
      | none => simp [hedge, ih]
      | some e =>
        have hmem : e ∈ (c.after changes).edges.items ↔
            e ∈ (c.accepted changes).filterMap CatalogChange.edge? := by
          rw [ih, List.mem_eraseDups]
        simp only [List.filterMap_cons, hedge, List.filterMap_nil]
        rw [OrderedSet.items_insert, eraseDups_concat, ih]
        simp only [hmem, ← ih]

/-- What is found under a reference is followed through all operations. -/
theorem get?_after (hmentioned : ∀ change ∈ changes, ∀ q ∈ change.mentioned, q.Bracketless)
    (hr : reference.Bracketless) (c : Catalog) :
    (c.after changes).get? reference =
      changes.foldl (CatalogChange.follow reference) (c.get? reference) := by
  induction changes generalizing c with
  | nil => rfl
  | cons change rest ih =>
    have hfirst := hmentioned change List.mem_cons_self
    have hafter : c.after (change :: rest) = (c.perform change).after rest := rfl
    rw [hafter, ih (fun x hx => hmentioned x (List.mem_cons_of_mem change hx)), List.foldl_cons,
      get?_perform hfirst hr]

theorem foldl_follow_some (reference : Reference) (r : Resource) (changes : List CatalogChange) :
    changes.foldl (CatalogChange.follow reference) (some r) =
      some (changes.foldl (CatalogChange.touch reference) r) := by
  induction changes generalizing r with
  | nil => rfl
  | cons change rest ih => exact ih (change.touch reference r)

theorem foldl_follow_none (reference : Reference) (changes : List CatalogChange) :
    changes.foldl (CatalogChange.follow reference) none =
      (firstAddition? reference changes).map fun first =>
        first.2.foldl (CatalogChange.touch reference) first.1 := by
  induction changes with
  | nil => rfl
  | cons change rest ih =>
    cases change with
    | add r =>
      rw [List.foldl_cons, firstAddition?, CatalogChange.follow]
      split
      · exact foldl_follow_some reference r rest
      · exact ih
    | _ => exact ih

/-! ### What a catalog records -/

/-- A catalog holds what operations on another one, which was empty, have put into it. -/
structure Records (start : Catalog) (changes : List CatalogChange) (c : Catalog) : Prop where
  /-- No two resources have one reference. -/
  distinct : c.references.Nodup
  /-- The resources stand in the order in which their additions were accepted. -/
  ordered : c.references = (start.accepted changes).filterMap CatalogChange.added?
  /-- Under a reference stands what was added there first, with what it has got since. -/
  found : ∀ reference : Reference, reference.Bracketless →
    c.get? reference = (firstAddition? reference changes).map fun first =>
      first.2.foldl (CatalogChange.touch reference) first.1
  /-- What is found under a reference is the one resource that has it. -/
  listed : ∀ (reference : Reference) (r : Resource), reference.Bracketless →
    (c.get? reference = some r ↔ r ∈ c.resources.values ∧ r.reference = reference)
  edges_distinct : c.edges.items.Nodup
  /-- The edges stand in the order in which each was accepted first. -/
  edges_ordered : c.edges.items =
    ((start.accepted changes).filterMap CatalogChange.edge?).eraseDups
  /-- Both ends of every edge are there. -/
  joined : ∀ e ∈ c.edges.items, e.source ∈ c.references ∧ e.target ∈ c.references
  hasEdge_iff : ∀ e, c.hasEdge e = true ↔ e ∈ c.edges.items
  /-- The edges that leave a resource, in their order. -/
  leaving : ∀ reference, (c.edgesFrom reference).Sublist c.edges.items ∧
    ∀ e, e ∈ c.edgesFrom reference ↔ c.hasEdge e = true ∧ e.source = reference
  /-- The edges that enter a resource, in their order. -/
  entering : ∀ reference, (c.edgesTo reference).Sublist c.edges.items ∧
    ∀ e, e ∈ c.edgesTo reference ↔ c.hasEdge e = true ∧ e.target = reference
  /-- Refused operations have left no trace, -/
  traceless : start.after (start.accepted changes) = c
  /-- and neither does the next one if it is refused. -/
  unchanged : ∀ change error, c.attempt change = .error error → c.perform change = c
  /-- A resource is refused exactly if one was added under its reference before; the error names
  the place of that one and then its own. -/
  refuses_resource : ∀ (r : Resource) (error : CatalogError), r.reference.Bracketless →
    (c.attempt (.add r) = .error error ↔ ∃ first later,
      firstAddition? r.reference changes = some (first, later) ∧
        error = .duplicateResource r.reference first.location r.location)
  /-- An edge is refused exactly if an end is missing; the error names the first such end. -/
  refuses_edge : ∀ (e : Edge) (error : CatalogError), e.source.Bracketless → e.target.Bracketless →
    (c.attempt (.connect e) = .error error ↔
      (e.source ∉ c.references ∧ error = .missingEndpoint e.source) ∨
        (e.source ∈ c.references ∧ e.target ∉ c.references ∧ error = .missingEndpoint e.target))

theorem location_foldl_touch (reference : Reference) (changes : List CatalogChange) (r : Resource) :
    (changes.foldl (CatalogChange.touch reference) r).location = r.location := by
  induction changes generalizing r with
  | nil => rfl
  | cons change rest ih =>
    have htouch : (change.touch reference r).location = r.location := by
      cases change with
      | tag other t =>
        show (if other = reference then r.tag t else r).location = r.location
        split <;> rfl
      | setParameter other name value =>
        show (if other = reference then r.setParameter name value else r).location = r.location
        split <;> rfl
      | _ => rfl
    exact (ih (change.touch reference r)).trans htouch

/-- A new catalog records whatever is done to it, as long as no bracket stands in the types of the
references.  Types that come from names without a bracket hold none, see
`Reference.bracketless_of`. -/
theorem records_after (node environment : String) {changes : List CatalogChange}
    (hmentioned : ∀ change ∈ changes, ∀ q ∈ change.mentioned, q.Bracketless) :
    Records (new node environment) changes ((new node environment).after changes) := by
  have htidy : ((new node environment).after changes).Tidy :=
    (tidy_new node environment).after hmentioned
  have hfound : ∀ reference : Reference, reference.Bracketless →
      ((new node environment).after changes).get? reference =
        (firstAddition? reference changes).map fun first =>
          first.2.foldl (CatalogChange.touch reference) first.1 := by
    intro reference hr
    rw [get?_after hmentioned hr]
    exact foldl_follow_none reference changes
  refine {
    distinct := htidy.nodup
    ordered := references_after _ changes
    found := hfound
    listed := fun reference r hr => htidy.get?_eq_some_iff hr
    edges_distinct := OrderedSet.nodup _
    edges_ordered := edges_after rfl changes
    joined := htidy.joined
    hasEdge_iff := fun e => decide_eq_true_iff
    leaving := fun reference => ⟨List.filter_sublist, fun e => ?leaving⟩
    entering := fun reference => ⟨List.filter_sublist, fun e => ?entering⟩
    traceless := after_accepted _ changes
    unchanged := fun change error h => perform_of_error h
    refuses_resource := ?resource
    refuses_edge := ?edge }
  case leaving => simp [edgesFrom, hasEdge, OrderedSet.contains]
  case entering => simp [edgesTo, hasEdge, OrderedSet.contains]
  case resource =>
    intro r error hr
    rw [attempt, addResource_eq_error_iff, hfound _ hr]
    cases hfirst : firstAddition? r.reference changes with
    | none => simp
    | some first =>
      obtain ⟨first, later⟩ := first
      have hlocation := location_foldl_touch r.reference later first
      simp [hlocation]
  case edge =>
    intro e error hsource htarget
    rw [attempt, addEdge_eq_error_iff, Bool.eq_false_iff, Bool.eq_false_iff, Ne, Ne,
      htidy.contains_iff hsource, htidy.contains_iff htarget]

/-- A resource that is added twice, the second time in vain, with brackets in its title, and an edge
that is refused until both of its ends are there. -/
theorem records_after_sample :
    let box (line : Nat) : Resource :=
      Resource.new (.of "box" "a][b]") 0 ⟨"site.pp", line, 1⟩
    let lid : Resource := Resource.new (.of "lid" "x") 0 ⟨"site.pp", 2, 1⟩
    let edge : Edge := ⟨.of "box" "a][b]", .of "lid" "x", .before⟩
    let changes : List CatalogChange :=
      [.connect edge, .add (box 1), .tag (.of "box" "a][b]") "Old", .add lid, .add (box 3),
        .connect edge, .connect edge, .setParameter (.of "lid" "x") "fits" (.bool true)]
    (∀ change ∈ changes, ∀ q ∈ change.mentioned, q.Bracketless) ∧
      Records (new "web1" "production") changes ((new "web1" "production").after changes) ∧
      ((new "web1" "production").after changes).references =
        [.of "box" "a][b]", .of "lid" "x"] ∧
      ((new "web1" "production").after changes).attempt (.add (box 3)) =
        .error (.duplicateResource (.of "box" "a][b]") ⟨"site.pp", 1, 1⟩ ⟨"site.pp", 3, 1⟩) := by
  intro box lid edge changes
  have hbox : (Reference.of "box" "a][b]").Bracketless := Reference.bracketless_of (by decide) _
  have hlid : (Reference.of "lid" "x").Bracketless := Reference.bracketless_of (by decide) _
  have hmentioned : ∀ change ∈ changes, ∀ q ∈ change.mentioned, q.Bracketless := by
    simp only [changes, List.forall_mem_cons, CatalogChange.mentioned]
    simp [box, lid, edge, Resource.new, hbox, hlid]
  exact ⟨hmentioned, records_after "web1" "production" hmentioned, by decide +kernel,
    by decide +kernel⟩

end Catalog

end Manifest
