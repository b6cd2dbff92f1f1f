import Manifest.Proofs.Evaluation.ClassesOnce
import Manifest.Proofs.Evaluation.Instances

/-!
# How relationships become edges

Edges other than those of containment come from three places: chains of arrows and the function
`require` record them while statements are executed, and four metaparameters ask for them when the
catalog is finished.  Finishing succeeds exactly if all of them can be read and have both ends in
the catalog and no resource has a parameter that its type does not take, and then it adds these
edges and no others.

## Main definitions

* `Value.RefersTo` — a value is a reference or its text.
* `Resource.Asks` — the edges that a resource asks for with its metaparameters.
* `EvalState.Finishable` — what finishing a state takes.
* `EvalState.Wants` — the edges that a catalog has after finishing a state.
* `Operand.OfElements` — an operand of a chain and the expression that it comes from.
* `FinishesRelationships` — what it means to turn relationships into edges.

## Main results

* `exists_finish_iff`, `mem_edges_of_finish` — when finishing succeeds, and which edges there are.
* `mem_chain` — the edges of a chain of arrows.
* `finishesRelationships` — all of it, from the expression to the finished catalog.
-/

namespace Manifest

open Evaluation

variable {setting : Setting} {registry : Registry} {s s' : EvalState} {r : Resource}
  {c c' : Catalog}

/-! ### Values that are references -/

/-- What a value refers to: the reference that it is, or the one that its text is. -/
inductive Value.RefersTo : Value → Reference → Prop
  | reference (r : Reference) : RefersTo (.reference r) r
  | text {text : String} {r : Reference} (reads : Reference.ofText? text = some r) :
    RefersTo (.string text) r

theorem referenceOf_eq_ok_iff {location : Location} {v : Value} {other : Reference} :
    referenceOf location v = .ok other ↔ v.RefersTo other := by
  constructor
  · intro h
    cases v with
    | reference r =>
      cases h
      exact .reference _
    | string text =>
      rw [referenceOf] at h
      split at h
      · next hreads =>
        cases h
        exact .text hreads
      · cases h
    | _ => cases h
  · rintro (_ | hreads)
    · rfl
    · rw [referenceOf, hreads]

/-- The elements of a value, each of which refers to something. -/
theorem referencesOf_eq_ok_iff {location : Location} {v : Value} {others : List Reference} :
    referencesOf location v = .ok others ↔ List.Forall₂ Value.RefersTo v.flatten others := by
  rw [referencesOf, Except.mapM_eq_ok_iff]
  simp only [referenceOf_eq_ok_iff]

/-! ### What a resource asks for -/

/-- The edge that a relationship becomes. -/
def Relationship.edge (q : Relationship) : Edge := ⟨q.source, q.target, q.kind⟩

namespace Resource

/-- An element of a parameter refers to a resource. -/
def Names (r : Resource) (parameter : String) (other : Reference) : Prop :=
  ∃ value, r.parameter? parameter = some value ∧ ∃ v ∈ value.flatten, v.RefersTo other

/-- The edges that a resource asks for with its metaparameters. -/
inductive Asks (r : Resource) : Edge → Prop
  /-- What it requires is applied before it. -/
  | require {other : Reference} (names : r.Names "require" other) :
    Asks r ⟨other, r.reference, .before⟩
  /-- It is applied before what stands there. -/
  | before {other : Reference} (names : r.Names "before" other) :
    Asks r ⟨r.reference, other, .before⟩
  /-- It notifies what stands there. -/
  | notify {other : Reference} (names : r.Names "notify" other) :
    Asks r ⟨r.reference, other, .notify⟩
  /-- It is notified by what it subscribes to. -/
  | subscribe {other : Reference} (names : r.Names "subscribe" other) :
    Asks r ⟨other, r.reference, .notify⟩

/-- Every element of a metaparameter that asks for edges refers to something. -/
def Legible (r : Resource) : Prop :=
  ∀ parameter ∈ ["require", "before", "notify", "subscribe"], ∀ value,
    r.parameter? parameter = some value → ∀ v ∈ value.flatten, ∃ other, v.RefersTo other

end Resource

theorem exists_relationshipsFrom_iff (r : Resource) (p : RelationshipParameter) :
    (∃ rs, relationshipsFrom r p = .ok rs) ↔ ∀ value, r.parameter? p.name = some value →
      ∀ v ∈ value.flatten, ∃ other, v.RefersTo other := by
  rw [relationshipsFrom]
  cases hvalue : r.parameter? p.name with
  | none => exact ⟨fun _ _ h => (by cases h), fun _ => ⟨[], rfl⟩⟩
  | some value =>
    have hreferences : (∃ others, referencesOf r.location value = .ok others) ↔
        ∀ v ∈ value.flatten, ∃ other, v.RefersTo other := by
      rw [referencesOf, Except.exists_mapM_iff]
      simp only [referenceOf_eq_ok_iff]
    simp only [Option.some.injEq, forall_eq', ← hreferences]
    constructor
    · rintro ⟨rs, h⟩
      obtain ⟨others, hothers, -⟩ := Except.bind_eq_ok_iff.mp h
      exact ⟨others, hothers⟩
    · rintro ⟨others, hothers⟩
      exact ⟨_, Except.bind_eq_ok_iff.mpr ⟨others, hothers, rfl⟩⟩

theorem mem_relationshipsFrom {p : RelationshipParameter} {rs : List Relationship}
    (h : relationshipsFrom r p = .ok rs) (q : Relationship) :
    q ∈ rs ↔ ∃ other, r.Names p.name other ∧ q = p.edge r other := by
  rw [relationshipsFrom] at h
  cases hvalue : r.parameter? p.name with
  | none =>
    rw [hvalue] at h
    cases h
    simp [Resource.Names, hvalue]
  | some value =>
    simp only [hvalue] at h
    obtain ⟨others, hothers, h⟩ := Except.bind_eq_ok_iff.mp h
    cases h
    have hmem : ∀ other, other ∈ others ↔ r.Names p.name other := fun other => by
      rw [Except.mem_of_mapM hothers]
      simp [Resource.Names, hvalue, referenceOf_eq_ok_iff]
    simp only [List.mem_map, hmem, eq_comm]

/-- The metaparameters of a resource can be read exactly if all their elements refer to
something. -/
theorem exists_relationshipsOf_iff (r : Resource) :
    (∃ rs, relationshipsOf r = .ok rs) ↔ r.Legible := by
  have hparameters : (∃ lists, relationshipParameters.mapM (relationshipsFrom r) = .ok lists) ↔
      r.Legible := by
    rw [Except.exists_mapM_iff]
    simp only [exists_relationshipsFrom_iff, relationshipParameters, Resource.Legible,
      List.forall_mem_cons, List.not_mem_nil, false_imp_iff, implies_true, and_true]
  rw [← hparameters]
  constructor
  · rintro ⟨rs, h⟩
    obtain ⟨lists, hlists, -⟩ := Except.bind_eq_ok_iff.mp h
    exact ⟨lists, hlists⟩
  · rintro ⟨lists, hlists⟩
    exact ⟨_, Except.bind_eq_ok_iff.mpr ⟨lists, hlists, rfl⟩⟩

/-- The edges that a resource asks for, one metaparameter after the other. -/
theorem Resource.asks_iff (e : Edge) :
    r.Asks e ↔ ∃ p ∈ relationshipParameters, ∃ other, r.Names p.name other ∧
      (p.edge r other).edge = e := by
  simp only [relationshipParameters, List.mem_cons, List.not_mem_nil, or_false, exists_eq_or_imp,
    exists_eq_left, RelationshipParameter.edge, if_true, Bool.false_eq_true, if_false,
    Relationship.edge]
  constructor
  · rintro (h | h | h | h)
    · exact .inl ⟨_, h, rfl⟩
    · exact .inr (.inl ⟨_, h, rfl⟩)
    · exact .inr (.inr (.inl ⟨_, h, rfl⟩))
    · exact .inr (.inr (.inr ⟨_, h, rfl⟩))
  · rintro (⟨_, h, rfl⟩ | ⟨_, h, rfl⟩ | ⟨_, h, rfl⟩ | ⟨_, h, rfl⟩)
    · exact .require h
    · exact .before h
    · exact .notify h
    · exact .subscribe h

/-- What the metaparameters of a resource ask for, once they can be read. -/
theorem exists_mem_relationshipsOf_iff {rs : List Relationship} (h : relationshipsOf r = .ok rs)
    (e : Edge) : (∃ q ∈ rs, q.edge = e) ↔ r.Asks e := by
  obtain ⟨lists, hlists, h⟩ := Except.bind_eq_ok_iff.mp h
  cases h
  rw [Resource.asks_iff]
  constructor
  · rintro ⟨q, hq, rfl⟩
    obtain ⟨list, hlist, hq⟩ := List.mem_flatten.mp hq
    obtain ⟨p, hp, hlist⟩ := (Except.mem_of_mapM hlists list).mp hlist
    obtain ⟨other, hnames, rfl⟩ := (mem_relationshipsFrom hlist q).mp hq
    exact ⟨p, hp, other, hnames, rfl⟩
  · rintro ⟨p, hp, other, hnames, rfl⟩
    obtain ⟨list, hlist⟩ := Except.exists_mapM_iff.mp ⟨lists, hlists⟩ p hp
    refine ⟨p.edge r other, List.mem_flatten.mpr ⟨list, ?_, ?_⟩, rfl⟩
    · exact (Except.mem_of_mapM hlists list).mpr ⟨p, hp, hlist⟩
    · exact (mem_relationshipsFrom hlist _).mpr ⟨other, hnames, rfl⟩

/-! ### Putting edges into a catalog -/

namespace Catalog

/-- Both ends of an edge are there. -/
def HasEnds (c : Catalog) (e : Edge) : Prop :=
  c.contains e.source = true ∧ c.contains e.target = true

end Catalog

theorem connect_eq_ok_iff {q : Relationship} :
    connect c q = .ok c' ↔ c.HasEnds q.edge ∧ c' = { c with edges := c.edges.insert q.edge } := by
  constructor
  · intro h
    obtain ⟨hsource, htarget, hc'⟩ := Catalog.addEdge_eq_ok (connect_eq_ok h)
    exact ⟨⟨hsource, htarget⟩, hc'⟩
  · rintro ⟨⟨hsource, htarget⟩, rfl⟩
    have hadd : c.addEdge ⟨q.source, q.target, q.kind⟩ =
        .ok { c with edges := c.edges.insert q.edge } :=
      Catalog.addEdge_of_contains hsource htarget
    rw [connect, hadd]

/-- Relationships can be put into a catalog exactly if all their ends are there. -/
theorem exists_foldlM_connect_iff : ∀ {rs : List Relationship} {c : Catalog},
    (∃ c', rs.foldlM connect c = .ok c') ↔ ∀ q ∈ rs, c.HasEnds q.edge
  | [], c => by
    rw [List.foldlM_nil]
    exact ⟨fun _ _ hq => (nomatch hq), fun _ => ⟨c, rfl⟩⟩
  | q :: rs, c => by
    let d : Catalog := { c with edges := c.edges.insert q.edge }
    -- A further edge changes no resource.
    have hrest : (∃ c', rs.foldlM connect d = .ok c') ↔ ∀ q ∈ rs, c.HasEnds q.edge :=
      exists_foldlM_connect_iff
    rw [List.foldlM_cons, List.forall_mem_cons, ← hrest]
    constructor
    · rintro ⟨c', h⟩
      obtain ⟨c₁, hfirst, h⟩ := Except.bind_eq_ok_iff.mp h
      obtain ⟨hends, rfl⟩ := connect_eq_ok_iff.mp hfirst
      exact ⟨hends, c', h⟩
    · rintro ⟨hends, c', h⟩
      exact ⟨c', Except.bind_eq_ok_iff.mpr ⟨d, connect_eq_ok_iff.mpr ⟨hends, rfl⟩, h⟩⟩

/-- The edges that were there stay in their order, and the new ones come after them. -/
theorem edges_foldlM_connect : ∀ {rs : List Relationship} {c : Catalog},
    rs.foldlM connect c = .ok c' →
      c'.resources = c.resources ∧ c.edges.items <+: c'.edges.items ∧
        ∀ e, e ∈ c'.edges.items ↔ e ∈ c.edges.items ∨ ∃ q ∈ rs, q.edge = e
  | [], c, h => by
    rw [List.foldlM_nil] at h
    cases h
    exact ⟨rfl, List.prefix_rfl, fun e => by simp⟩
  | q :: rs, c, h => by
    rw [List.foldlM_cons] at h
    obtain ⟨c₁, hfirst, h⟩ := Except.bind_eq_ok_iff.mp h
    obtain ⟨-, rfl⟩ := connect_eq_ok_iff.mp hfirst
    obtain ⟨hresources, hprefix, hmem⟩ := edges_foldlM_connect h
    refine ⟨hresources, List.IsPrefix.trans ?_ hprefix, fun e => ?_⟩
    · rw [OrderedSet.items_insert]
      split
      · exact List.prefix_rfl
      · exact List.prefix_append _ _
    · rw [hmem, OrderedSet.mem_insert, List.exists_mem_cons_iff, @eq_comm _ e, or_assoc,
        or_left_comm]

/-! ### Finishing -/

namespace EvalState

/-- What finishing a state takes. -/
structure Finishable (registry : Registry) (s : EvalState) : Prop where
  /-- What metaparameters refer to can be read. -/
  legible : ∀ r ∈ s.catalog.resources.values, r.Legible
  /-- Both ends of every recorded edge are in the catalog. -/
  recorded : ∀ q ∈ s.relationships, s.catalog.HasEnds q.edge
  /-- So are those of the edges that metaparameters ask for. -/
  asked : ∀ r ∈ s.catalog.resources.values, ∀ e, r.Asks e → s.catalog.HasEnds e
  /-- A resource of a registered type has no other parameters than metaparameters and those that
  its type takes. -/
  accepted : ∀ r ∈ s.catalog.resources.values, ∀ type,
    registry.get? r.reference.typeName = some type →
    ∀ name ∈ r.parameters.keys, isMetaparameter name = true ∨ type.accepts name = true

/-- The edges that a catalog has after finishing a state: those that are there, those that were
recorded and those that metaparameters ask for. -/
def Wants (s : EvalState) (e : Edge) : Prop :=
  e ∈ s.catalog.edges.items ∨ (∃ q ∈ s.relationships, q.edge = e) ∨
    ∃ r ∈ s.catalog.resources.values, r.Asks e

end EvalState

/-- The name variable, which a resource gets, is never refused. -/
theorem rejected?_withNamevar_iff :
    rejected? registry (withNamevar registry r) = none ↔
      ∀ type, registry.get? r.reference.typeName = some type →
        ∀ name ∈ r.parameters.keys, isMetaparameter name = true ∨ type.accepts name = true := by
  rw [rejected?_eq_none_iff, reference_withNamevar]
  refine forall₂_congr fun type htype => ?_
  simp only [mem_keys_withNamevar htype, or_imp, forall_and, forall_eq,
    TypeDescriptor.accepts_namevar, or_true, and_true]

/-- Everything that resources ask for, once it can be read. -/
theorem exists_mem_asked_iff {resources : List Resource} {asked : List (List Relationship)}
    (h : resources.mapM relationshipsOf = .ok asked) (e : Edge) :
    (∃ q ∈ asked.flatten, q.edge = e) ↔ ∃ r ∈ resources, r.Asks e := by
  constructor
  · rintro ⟨q, hq, rfl⟩
    obtain ⟨rs, hrs, hq⟩ := List.mem_flatten.mp hq
    obtain ⟨r, hr, hof⟩ := (Except.mem_of_mapM h rs).mp hrs
    exact ⟨r, hr, (exists_mem_relationshipsOf_iff hof _).mp ⟨q, hq, rfl⟩⟩
  · rintro ⟨r, hr, hasks⟩
    obtain ⟨rs, hof⟩ := Except.exists_mapM_iff.mp ⟨asked, h⟩ r hr
    obtain ⟨q, hq, he⟩ := (exists_mem_relationshipsOf_iff hof e).mpr hasks
    exact ⟨q, List.mem_flatten.mpr ⟨rs, (Except.mem_of_mapM h rs).mpr ⟨r, hr, hof⟩, hq⟩, he⟩

/-- When finishing succeeds. -/
theorem exists_finish_iff : (∃ made, finish registry s = .ok made) ↔ s.Finishable registry := by
  constructor
  · rintro ⟨made, h⟩
    obtain ⟨asked, hasked, h⟩ := Except.bind_eq_ok_iff.mp h
    obtain ⟨c, hc, hmade⟩ := Except.bind_eq_ok_iff.mp h
    have hends := exists_foldlM_connect_iff.mp ⟨c, hc⟩
    have hlegible := Except.exists_mapM_iff.mp ⟨asked, hasked⟩
    refine ⟨fun r hr => (exists_relationshipsOf_iff r).mp (hlegible r hr),
      fun q hq => hends q (List.mem_append_left _ hq), fun r hr e he => ?_, fun r hr => ?_⟩
    · obtain ⟨q, hq, rfl⟩ := (exists_mem_asked_iff hasked e).mpr ⟨r, hr, he⟩
      exact hends q (List.mem_append_right _ hq)
    · rw [← (edges_foldlM_connect hc).1] at hr
      -- Connecting leaves the resources alone, so those that are accepted are the old ones.
      cases hrejected : c.resources.values.findSome? fun r =>
          rejected? registry (withNamevar registry r) with
      | some e =>
        simp only [hrejected] at hmade
        cases hmade
      | none => exact rejected?_withNamevar_iff.mp (List.findSome?_eq_none_iff.mp hrejected r hr)
  · intro h
    obtain ⟨asked, hasked⟩ := Except.exists_mapM_iff.mpr fun r hr =>
      (exists_relationshipsOf_iff r).mpr (h.legible r hr)
    have hends : ∀ q ∈ s.relationships ++ asked.flatten, s.catalog.HasEnds q.edge := by
      intro q hq
      rcases List.mem_append.mp hq with hq | hq
      · exact h.recorded q hq
      · obtain ⟨r, hr, hasks⟩ := (exists_mem_asked_iff hasked _).mp ⟨q, hq, rfl⟩
        exact h.asked r hr _ hasks
    obtain ⟨c, hc⟩ := exists_foldlM_connect_iff.mpr hends
    have haccepted : (c.resources.values.findSome? fun r =>
        rejected? registry (withNamevar registry r)) = none := by
      refine List.findSome?_eq_none_iff.mpr fun r hr => rejected?_withNamevar_iff.mpr ?_
      rw [(edges_foldlM_connect hc).1] at hr
      exact h.accepted r hr
    refine ⟨c.mapResources (finishResource registry s.scopes), ?_⟩
    refine Except.bind_eq_ok_iff.mpr ⟨asked, hasked, Except.bind_eq_ok_iff.mpr ⟨c, hc, ?_⟩⟩
    simp only [haccepted]

/-- Which edges there are after finishing: the earlier ones in their order, and no others than
those that are wanted. -/
theorem mem_edges_of_finish {made : Catalog} (h : finish registry s = .ok made) :
    s.catalog.edges.items <+: made.edges.items ∧ ∀ e, e ∈ made.edges.items ↔ s.Wants e := by
  obtain ⟨asked, hasked, h⟩ := Except.bind_eq_ok_iff.mp h
  obtain ⟨c, hc, hmade⟩ := Except.bind_eq_ok_iff.mp h
  obtain ⟨-, hearlier, hmem⟩ := edges_foldlM_connect hc
  have hedges : made.edges = c.edges := by
    split at hmade
    · cases hmade
    · cases hmade
      rfl
  rw [hedges]
  refine ⟨hearlier, fun e => ?_⟩
  simp only [hmem, EvalState.Wants, List.mem_append, or_and_right, exists_or,
    exists_mem_asked_iff hasked e]

/-! ### Chains of arrows -/

/-- An operand of a chain that the elements of an expression make up. -/
def Evaluation.Operand.OfElements (setting : Setting) (enter : Enter) (scope : ScopeId) (e : Expr)
    (side : Operand) : Prop :=
  side.location = e.location ∧ ∃ v s s', evaluate setting enter scope e s = .ok v s' ∧
    List.Forall₂ Value.RefersTo v.flatten side.references

theorem mem_link {arrow : Arrow} {source target : Operand} {q : Relationship} :
    q ∈ link arrow source target ↔ q.source ∈ source.references ∧ q.target ∈ target.references ∧
      q.kind = edgeKind arrow ∧ q.location = target.location := by
  simp only [link, List.mem_flatMap, List.mem_map]
  constructor
  · rintro ⟨a, ha, b, hb, rfl⟩
    exact ⟨ha, hb, rfl, rfl⟩
  · rintro ⟨ha, hb, hkind, hlocation⟩
    exact ⟨q.source, ha, q.target, hb, by rw [← hkind, ← hlocation]⟩

/-- A chain leads from every element of an operand to every element of the next one. -/
theorem mem_chain (q : Relationship) : ∀ (arrows : List Arrow) (sides : List Operand),
    q ∈ chain arrows sides ↔ ∃ i arrow source target, arrows[i]? = some arrow ∧
      sides[i]? = some source ∧ sides[i + 1]? = some target ∧ q ∈ link arrow source target
  | [], sides => by simp [chain]
  | _ :: _, [] => by simp [chain]
  | _ :: _, [_] => by simp [chain]
  | arrow :: arrows, source :: target :: rest => by
    rw [chain, List.mem_append, mem_chain q arrows (target :: rest)]
    constructor
    · rintro (h | ⟨i, a, b, c, ha, hb, hc, h⟩)
      · exact ⟨0, arrow, source, target, rfl, rfl, rfl, h⟩
      · exact ⟨i + 1, a, b, c, ha, hb, hc, h⟩
    · rintro ⟨i, a, b, c, ha, hb, hc, h⟩
      cases i with
      | zero =>
        cases ha
        cases hb
        cases hc
        exact .inl h
      | succ i => exact .inr ⟨i, a, b, c, ha, hb, hc, h⟩

theorem ofElements_of_evaluateOperands {enter : Enter} {scope : ScopeId} :
    ∀ {operands : List Expr} {sides : List Operand} {s s' : EvalState},
      evaluateOperands setting enter scope operands s = .ok sides s' →
      List.Forall₂ (Operand.OfElements setting enter scope) operands sides
  | [], _, _, _, h => by
    cases h
    exact .nil
  | e :: rest, _, s, s', h => by
    rw [evaluateOperands] at h
    obtain ⟨v, s₁, hv, h⟩ := bind_eq_ok h
    cases hreferences : referencesOf e.location v with
    | error error =>
      rw [hreferences] at h
      cases h
    | ok references =>
      rw [hreferences] at h
      obtain ⟨sides, s₂, hrest, h⟩ := bind_eq_ok h
      cases h
      exact .cons ⟨rfl, v, s, s₁, hv, referencesOf_eq_ok_iff.mp hreferences⟩
        (ofElements_of_evaluateOperands hrest)

theorem forM_relate : ∀ (rs : List Relationship) (s : EvalState),
    (rs.forM relate : Eval PUnit) s = .ok () (s.recording rs)
  | [], s => by
    rw [EvalState.recording, List.append_nil]
    rfl
  | q :: rs, s => by
    rw [forM_cons_apply]
    refine (forM_relate rs (s.recording [q])).trans ?_
    rw [recording_append, List.singleton_append]

/-- A chain records its edges once its operands are evaluated. -/
theorem evaluate_relationship {enter : Enter} {scope : ScopeId} {operands : List Expr}
    {arrows : List Arrow} {location : Location} {v : Value}
    (h : evaluate setting enter scope (.relationship operands arrows location) s = .ok v s') :
    ∃ sides s₁, evaluateOperands setting enter scope operands s = .ok sides s₁ ∧
      List.Forall₂ (Operand.OfElements setting enter scope) operands sides ∧
      s' = s₁.recording (chain arrows sides) := by
  rw [evaluate] at h
  obtain ⟨sides, s₁, hsides, h⟩ := bind_eq_ok h
  rw [bind_apply, forM_relate] at h
  cases h
  exact ⟨sides, s₁, hsides, ofElements_of_evaluateOperands hsides, rfl⟩

/-- Requiring a class records one edge once the class is evaluated. -/
theorem requireClass_eq_ok {enter : Enter} {scope : ScopeId} {location : Location} {name : String}
    (h : requireClass setting enter scope location name s = .ok () s') :
    ∃ c s₁, includeClass setting enter scope location name s = .ok c s₁ ∧
      s' = s₁.recording [⟨.ofClass c.name, s₁.scopes.owner scope, .before, location⟩] := by
  obtain ⟨c, s₁, hinclude, h⟩ := bind_eq_ok h
  cases h
  exact ⟨c, s₁, hinclude, rfl⟩

/-! ### What is recorded stays -/

theorem Step.relationships (h : Step setting s s') : s.relationships <+: s'.relationships := by
  cases h with
  | relate kind => exact List.prefix_append _ _
  | _ => exact List.prefix_rfl

theorem Steps.relationships (h : Steps setting s s') : s.relationships <+: s'.relationships := by
  induction h with
  | refl => exact List.prefix_rfl
  | tail _ hs ih => exact ih.trans hs.relationships

/-- What can be declared is not finished. -/
theorem Setting.Declarable.finished_eq (h : setting.Declarable r) : r.finished = false := by
  cases h <;> rfl

/-! ### From relationships to edges -/

/-- What it means to turn relationships into edges. -/
structure FinishesRelationships (setting : Setting) : Prop where
  /-- No resource is finished before all others. -/
  unfinished {limit : Nat} {s : EvalState} :
    executeSite setting (enter setting limit) (EvalState.start setting) = .ok () s →
      ∀ r ∈ s.catalog.resources.values, r.finished = false
  /-- Finishing succeeds exactly if everything is there that it takes. -/
  succeeds (s : EvalState) :
    (∃ made, finish setting.registry s = .ok made) ↔ s.Finishable setting.registry
  /-- Then there are the wanted edges and no others, and the earlier ones come first. -/
  edges {s : EvalState} {made : Catalog} : finish setting.registry s = .ok made →
    s.catalog.edges.items <+: made.edges.items ∧ ∀ e, e ∈ made.edges.items ↔ s.Wants e
  /-- A chain of arrows records its edges. -/
  records {limit : Nat} {scope : ScopeId} {operands : List Expr} {arrows : List Arrow}
    {location : Location} {v : Value} {s s' : EvalState} :
    evaluate setting (enter setting limit) scope (.relationship operands arrows location) s =
        .ok v s' →
      ∃ sides s₁, evaluateOperands setting (enter setting limit) scope operands s = .ok sides s₁ ∧
        List.Forall₂ (Operand.OfElements setting (enter setting limit) scope) operands sides ∧
        s' = s₁.recording (chain arrows sides)
  /-- They lead from every element of an operand to every element of the next one. -/
  links (arrows : List Arrow) (sides : List Operand) (q : Relationship) :
    q ∈ chain arrows sides ↔ ∃ i arrow source target, arrows[i]? = some arrow ∧
      sides[i]? = some source ∧ sides[i + 1]? = some target ∧
      q.source ∈ source.references ∧ q.target ∈ target.references ∧
      q.kind = edgeKind arrow ∧ q.location = target.location
  /-- The function `require` records an edge from the class to the owner of the scope. -/
  requires {limit : Nat} {scope : ScopeId} {location : Location} {name : String}
    {s s' : EvalState} :
    requireClass setting (enter setting limit) scope location name s = .ok () s' →
      ∃ c s₁, includeClass setting (enter setting limit) scope location name s = .ok c s₁ ∧
        s' = s₁.recording [⟨.ofClass c.name, s₁.scopes.owner scope, .before, location⟩]
  /-- What is recorded stays until the catalog is finished. -/
  stays {s s' : EvalState} : Steps setting s s' → s.relationships <+: s'.relationships

/-- Every evaluation turns relationships into edges. -/
theorem finishesRelationships (setting : Setting) : FinishesRelationships setting where
  unfinished := fun h r hr => (declarable_of_executeSite h r hr).finished_eq
  succeeds := fun _ => exists_finish_iff
  edges := fun h => mem_edges_of_finish h
  records := fun h => evaluate_relationship h
  links := fun arrows sides q => by simp only [mem_chain, mem_link]
  requires := fun h => requireClass_eq_ok h
  stays := fun h => h.relationships

end Manifest
