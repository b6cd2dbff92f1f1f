import Manifest.Proofs.Collection
import Manifest.Proofs.Table
import Manifest.Proofs.Tree.Occurrences

/-!
# Which units make a collection

Units make a collection exactly if every one of them has a legal tree and no two of the classes and
defines in all these trees have the same full name, whatever their kinds are and wherever they
stand.  Nothing is lost on the way then: the collection has the trees, one entry for each
definition, every node definition, and the markers.

The trees are looked at through the definitions that occur anywhere in them, not through the walks
that collect classes, defines and node definitions one after the other.

## Main definitions

* `Source.Reads` — the text of a unit has a legal tree.
* `Ast.definitions`, `Ast.nodeDefinitions` — the definitions that occur in a tree, in its order.
* `Collection.Holds` — a collection is what reading units has led to so far.

## Main results

* `Collection.exists_foldlM_define_iff` — definitions are taken if their names are new and distinct.
* `Collection.Holds.addSource` — what a further unit adds.
* `Collection.indexes_sources` — which units make a collection, and what it holds.
-/

namespace Manifest

/-! ### The tree of a unit -/

/-- The text of a unit is cut into tokens, these are read as the statements of a tree, and every
definition in the tree stands where it may. -/
def Source.Reads (s : Source) (a : Ast) : Prop :=
  ∃ tokens, lex s.name s.text = .ok tokens ∧
    (∃ rest, (Grammar.program ((TokenStream.ofTokens s.name tokens).tokens.length + 1)).run
      (TokenStream.ofTokens s.name tokens) = .ok (a.statements, rest)) ∧
    a.file = s.name ∧ ∀ o ∈ a.occurrences, o.IsPlaced

theorem build_eq_ok_iff {file : String} {tokens : List Token} {a : Ast} :
    build file tokens = .ok a ↔
      (∃ rest, (Grammar.program ((TokenStream.ofTokens file tokens).tokens.length + 1)).run
        (TokenStream.ofTokens file tokens) = .ok (a.statements, rest)) ∧
      a.file = file ∧ ∀ o ∈ a.occurrences, o.IsPlaced := by
  rw [build]
  cases (Grammar.program ((TokenStream.ofTokens file tokens).tokens.length + 1)).run
      (TokenStream.ofTokens file tokens) with
  | error e => exact ⟨nofun, fun h => nomatch h.1⟩
  | ok read =>
    obtain ⟨statements, rest⟩ := read
    simp only
    cases hfault : (Ast.mk file statements).misplaced? with
    | some fault =>
      refine ⟨nofun, ?_⟩
      rintro ⟨⟨rest', hread⟩, rfl, hplaced⟩
      cases hread
      rw [Ast.misplaced?_eq_none_iff.mpr hplaced] at hfault
      cases hfault
    | none =>
      constructor
      · rintro ⟨⟩
        exact ⟨⟨rest, rfl⟩, rfl, Ast.misplaced?_eq_none_iff.mp hfault⟩
      · rintro ⟨⟨rest', hread⟩, rfl, -⟩
        cases hread
        rfl

theorem Source.reads_iff {s : Source} {a : Ast} : s.Reads a ↔ parse s.name s.text = .ok a := by
  rw [Source.Reads, parse]
  cases lex s.name s.text with
  | error e => exact ⟨fun ⟨_, h, _⟩ => (nomatch h), nofun⟩
  | ok tokens =>
    simp only [build_eq_ok_iff, Except.ok.injEq, exists_eq_left']

/-! ### The definitions in a tree -/

namespace Ast

/-- The classes and defines that occur in a tree, at any depth and under any statement. -/
def definitions (a : Ast) : List Definition :=
  a.occurrences.filterMap (·.definition.asDefinition?)

/-- The node definitions that occur in a tree, at any depth and under any statement. -/
def nodeDefinitions (a : Ast) : List NodeDefinition :=
  a.occurrences.filterMap (·.definition.asNode?)

end Ast

/-- In a tree in which every definition is placed these are the definitions that are collected. -/
theorem Ast.definitions_eq_collectedIn {a : Ast} (h : ∀ o ∈ a.occurrences, o.IsPlaced) :
    a.definitions = collectedIn a.statements :=
  (collectedIn_eq [] a.statements h).symm

/-- Classes first and defines then are the same definitions in another order. -/
theorem perm_filterMap_append (ds : List Definition) :
    ((ds.filterMap Definition.asClass?).map Definition.ofClass ++
        (ds.filterMap Definition.asDefine?).map Definition.ofDefine).Perm ds := by
  induction ds with
  | nil => exact .nil
  | cons d ds ih =>
    cases d with
    | ofClass c => exact ih.cons (.ofClass c)
    | ofDefine d => exact List.perm_middle.trans (ih.cons (.ofDefine d))

namespace Collection

variable {c c' : Collection} {d : Definition} {ds : List Definition} {s : Source} {a : Ast}
  {sources : List Source} {asts : List Ast}

/-- A unit with a legal tree gives all definitions that occur in the tree. -/
theorem perm_definitionsOf (h : s.Reads a) : (definitionsOf a).Perm a.definitions := by
  obtain ⟨-, -, -, -, hplaced⟩ := h
  rw [definitionsOf, Ast.classes, Ast.defines, classesIn_eq_filterMap, definesIn_eq_filterMap,
    Ast.definitions_eq_collectedIn hplaced]
  exact perm_filterMap_append (collectedIn a.statements)

theorem perm_flatMap_definitionsOf (h : List.Forall₂ Source.Reads sources asts) :
    (asts.flatMap definitionsOf).Perm (asts.flatMap Ast.definitions) := by
  induction h with
  | nil => exact .nil
  | cons ha _ ih => exact (perm_definitionsOf ha).append ih

theorem flatMap_nodes (h : List.Forall₂ Source.Reads sources asts) :
    asts.flatMap Ast.nodes = asts.flatMap Ast.nodeDefinitions := by
  induction h with
  | nil => rfl
  | cons ha _ ih =>
    obtain ⟨-, -, -, -, hplaced⟩ := ha
    rw [List.flatMap_cons, List.flatMap_cons, ih]
    exact congrArg (· ++ _) (nodes_eq _ hplaced)

/-! ### Adding definitions -/

/-- The entry of a definition in the index. -/
def entryOf (d : Definition) : String × Definition := (d.name, d)

theorem map_fst_entryOf (ds : List Definition) :
    (ds.map entryOf).map Prod.fst = ds.map Definition.name := by
  rw [List.map_map]
  rfl

/-- A collection with further definitions at the end of the index, which is otherwise the same. -/
structure Adds (c : Collection) (ds : List Definition) (c' : Collection) : Prop where
  entries : c'.definitions.entries = c.definitions.entries ++ ds.map entryOf
  manifests : c'.manifests = c.manifests
  nodes : c'.nodes = c.nodes
  markers : c'.markers = c.markers

theorem Adds.keys (h : c.Adds ds c') :
    c'.definitions.keys = c.definitions.keys ++ ds.map Definition.name := by
  rw [Table.keys, h.entries, List.map_append, map_fst_entryOf]
  rfl

theorem adds_of_define (h : c.define d = .ok c') : c.Adds [d] c' := by
  unfold Collection.define at h
  cases hget : c.definitions.get? d.name with
  | some existing =>
    rw [hget] at h
    cases h
  | none =>
    rw [hget] at h
    cases h
    exact ⟨Table.entries_insert hget d, rfl, rfl, rfl⟩

theorem exists_define (h : d.name ∉ c.definitions.keys) : ∃ c', c.define d = .ok c' := by
  rw [Collection.define, Table.get?_eq_none_iff.mpr h]
  exact ⟨_, rfl⟩

/-- Definitions that are taken one after the other stand in this order. -/
theorem adds_of_foldlM : ∀ {ds : List Definition} {c c' : Collection},
    ds.foldlM define c = .ok c' → c.Adds ds c'
  | [], c, _, h => by
    cases h
    exact ⟨(List.append_nil _).symm, rfl, rfl, rfl⟩
  | d :: ds, c, c', h => by
    obtain ⟨middle, hd, hds⟩ := Except.bind_eq_ok_iff.mp h
    have hfirst := adds_of_define hd
    have hrest := adds_of_foldlM hds
    refine ⟨?_, hrest.manifests.trans hfirst.manifests, hrest.nodes.trans hfirst.nodes,
      hrest.markers.trans hfirst.markers⟩
    rw [hrest.entries, hfirst.entries, List.append_assoc]
    rfl

/-- Definitions are taken if their names are distinct and none of them is there yet. -/
theorem exists_foldlM_define_iff : ∀ {ds : List Definition} {c : Collection},
    (∃ c', ds.foldlM define c = .ok c') ↔
      (c.definitions.keys ++ ds.map Definition.name).Nodup := by
  intro ds c
  constructor
  · rintro ⟨c', h⟩
    -- The keys of a table are distinct anyway.
    rw [← (adds_of_foldlM h).keys]
    exact c'.definitions.nodup
  · intro h
    induction ds generalizing c with
    | nil => exact ⟨c, rfl⟩
    | cons d ds ih =>
      have hnew : d.name ∉ c.definitions.keys := fun hmem =>
        List.disjoint_of_nodup_append h hmem List.mem_cons_self
      obtain ⟨middle, hmiddle⟩ := exists_define hnew
      have hkeys := (adds_of_define hmiddle).keys
      rw [List.map_singleton] at hkeys
      rw [List.map_cons, List.append_cons, ← hkeys] at h
      obtain ⟨c', hc'⟩ := ih h
      exact ⟨c', Except.bind_eq_ok_iff.mpr ⟨middle, hmiddle, hc'⟩⟩

/-! ### Adding units -/

/-- A collection is what reading units with these trees has led to. -/
structure Holds (c : Collection) (sources : List Source) (asts : List Ast) : Prop where
  manifests : c.manifests = asts
  entries : c.definitions.entries = (asts.flatMap definitionsOf).map entryOf
  nodes : c.nodes = asts.flatMap Ast.nodes
  markers : c.markers = .ofList (sources.map fun s => (s.name, s.marker))

theorem holds_empty : empty.Holds [] [] := ⟨rfl, rfl, rfl, rfl⟩

theorem Holds.keys (h : c.Holds sources asts) :
    c.definitions.keys = (asts.flatMap definitionsOf).map Definition.name := by
  rw [Table.keys, h.entries, map_fst_entryOf]

/-- A unit that is taken has a legal tree, and all that is in it is added. -/
theorem Holds.addSource (h : c.Holds sources asts) (hc' : c.addSource s = .ok c') :
    ∃ a, s.Reads a ∧ c'.Holds (sources ++ [s]) (asts ++ [a]) := by
  unfold Collection.addSource at hc'
  cases hparse : parse s.name s.text with
  | error e =>
    rw [hparse] at hc'
    cases hc'
  | ok a =>
    simp only [hparse] at hc'
    cases hdefine : (definitionsOf a).foldlM define c with
    | error e =>
      rw [hdefine] at hc'
      cases hc'
    | ok d =>
      rw [hdefine] at hc'
      cases hc'
      have hadds := adds_of_foldlM hdefine
      refine ⟨a, Source.reads_iff.mpr hparse, ?_, ?_, ?_, ?_⟩
      · rw [hadds.manifests, h.manifests]
      · rw [hadds.entries, h.entries, List.flatMap_append, List.map_append,
          List.flatMap_singleton]
      · rw [hadds.nodes, h.nodes, List.flatMap_append, List.flatMap_singleton]
      · rw [hadds.markers, h.markers, List.map_append, List.map_singleton, Table.ofList_concat]

/-- A unit with a legal tree is taken if the names in it are distinct and new. -/
theorem Holds.exists_addSource (h : c.Holds sources asts) (ha : s.Reads a)
    (hnodup : (((asts ++ [a]).flatMap definitionsOf).map Definition.name).Nodup) :
    ∃ c', c.addSource s = .ok c' := by
  rw [List.flatMap_append, List.map_append, ← h.keys, List.flatMap_singleton] at hnodup
  obtain ⟨d, hd⟩ := exists_foldlM_define_iff.mpr hnodup
  rw [Collection.addSource, Source.reads_iff.mp ha]
  simp only [hd]
  exact ⟨_, rfl⟩

theorem holds_of_foldlM : ∀ {more : List Source} {c c' : Collection} {sources : List Source}
    {asts : List Ast}, c.Holds sources asts → more.foldlM addSource c = .ok c' →
    ∃ trees, List.Forall₂ Source.Reads more trees ∧ c'.Holds (sources ++ more) (asts ++ trees)
  | [], _, _, sources, asts, h, hc' => by
    cases hc'
    refine ⟨[], .nil, ?_⟩
    rwa [List.append_nil, List.append_nil]
  | s :: more, c, c', sources, asts, h, hc' => by
    obtain ⟨middle, hs, hmore⟩ := Except.bind_eq_ok_iff.mp hc'
    obtain ⟨a, ha, hmiddle⟩ := h.addSource hs
    obtain ⟨trees, htrees, hholds⟩ := holds_of_foldlM hmiddle hmore
    refine ⟨a :: trees, .cons ha htrees, ?_⟩
    rwa [List.append_cons, List.append_cons asts]

theorem exists_foldlM_addSource {more : List Source} {trees : List Ast}
    (htrees : List.Forall₂ Source.Reads more trees) : ∀ {c : Collection} {sources : List Source}
    {asts : List Ast}, c.Holds sources asts →
      (((asts ++ trees).flatMap definitionsOf).map Definition.name).Nodup →
      ∃ c', more.foldlM addSource c = .ok c' := by
  induction htrees with
  | nil => exact fun {c _ _} _ _ => ⟨c, rfl⟩
  | @cons s a more trees ha _ ih =>
    intro c sources asts h hnodup
    rw [List.append_cons] at hnodup
    -- The names so far are among all names, and so they are distinct.
    have hfirst : (((asts ++ [a]).flatMap definitionsOf).map Definition.name).Nodup := by
      rw [List.flatMap_append, List.map_append] at hnodup
      exact hnodup.of_append_left
    obtain ⟨middle, hmiddle⟩ := h.exists_addSource ha hfirst
    obtain ⟨a', ha', hholds⟩ := h.addSource hmiddle
    have hsame : a' = a :=
      Except.ok.inj ((Source.reads_iff.mp ha').symm.trans (Source.reads_iff.mp ha))
    obtain ⟨c', hc'⟩ := ih (hsame ▸ hholds) hnodup
    exact ⟨c', Except.bind_eq_ok_iff.mpr ⟨middle, hmiddle, hc'⟩⟩

/-! ### Whole collections -/

/-- A collection has everything that is in units with these trees: the trees themselves, every class
and define under its full name, every node definition in its order, and for each name the marker of
the last unit of this name. -/
structure Indexes (c : Collection) (sources : List Source) (asts : List Ast) : Prop where
  manifests : c.manifests = asts
  definitions : c.definitions.entries.Perm
    ((asts.flatMap Ast.definitions).map fun d => (d.name, d))
  nodes : c.nodes = asts.flatMap Ast.nodeDefinitions
  markers : ∀ name, c.markers.get? name =
    ((sources.filter fun s => s.name = name).getLast?).map Source.marker

theorem Holds.indexes (h : c.Holds sources asts) (hreads : List.Forall₂ Source.Reads sources asts) :
    c.Indexes sources asts where
  manifests := h.manifests
  definitions := by
    rw [h.entries]
    exact (perm_flatMap_definitionsOf hreads).map entryOf
  nodes := h.nodes.trans (flatMap_nodes hreads)
  markers := by
    intro name
    rw [h.markers, Table.get?_ofList_getLast?, List.filter_map, List.getLast?_map, Option.map_map]
    rfl

/-- Units make a collection exactly if each of them has a legal tree and the full names of all
classes and defines that occur in these trees are distinct.  The collection has everything that is
in them. -/
theorem indexes_sources (sources : List Source) :
    ((∃ c, ofSources sources = .ok c) ↔
      ∃ asts, List.Forall₂ Source.Reads sources asts ∧
        ((asts.flatMap Ast.definitions).map Definition.name).Nodup) ∧
      ∀ c, ofSources sources = .ok c →
        ∃ asts, List.Forall₂ Source.Reads sources asts ∧ c.Indexes sources asts := by
  have hread : ∀ c, ofSources sources = .ok c →
      ∃ asts, List.Forall₂ Source.Reads sources asts ∧ c.Holds sources asts := by
    intro c h
    obtain ⟨asts, hreads, hholds⟩ := holds_of_foldlM holds_empty h
    exact ⟨asts, hreads, hholds⟩
  refine ⟨⟨?_, ?_⟩, fun c h => ?_⟩
  · rintro ⟨c, h⟩
    obtain ⟨asts, hreads, hholds⟩ := hread c h
    have hperm := (perm_flatMap_definitionsOf hreads).map Definition.name
    refine ⟨asts, hreads, hperm.nodup_iff.mp ?_⟩
    rw [← hholds.keys]
    exact c.definitions.nodup
  · rintro ⟨asts, hreads, hnodup⟩
    have hperm := (perm_flatMap_definitionsOf hreads).map Definition.name
    exact exists_foldlM_addSource hreads holds_empty (hperm.nodup_iff.mpr hnodup)
  · obtain ⟨asts, hreads, hholds⟩ := hread c h
    exact ⟨asts, hreads, hholds.indexes hreads⟩

end Collection

end Manifest
