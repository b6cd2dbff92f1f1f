import Manifest.Proofs.Grammar.Headings
import Manifest.Proofs.Token.Walk

/-!
# Definitions with the same name

If two definitions have the same full name, the place of one of them is reported as the first and
that of the other one as the second.  Of definitions in different units the first is the one in the
earlier unit, and of two classes or two defines in the same unit the one that stands earlier in the
text: the tokens of a text stand in it in their order, and the headings of definitions stand in the
tokens in theirs.

But all classes of a unit are taken before its defines.  Of a class and a define in the same unit
the class is reported as the first one, also if it stands behind the define.

## Main definitions

* `Definition.TakenBefore` — how two definitions of a unit stand that are taken in this order.
* `Collection.Duplicate` — two definitions of the same name in units.

## Main results

* `pairwise_before_definitions` — the definitions of a unit stand in its text in their order.
* `pairwise_takenBefore` — the definitions of a unit, as they are taken.
* `Collection.duplicate_reported` — which definitions are reported.
-/

namespace Manifest

/-! ### The order of definitions -/

/-- Definitions with headings in some tokens are where these are. -/
theorem Headed.sublist {R : Definition → String → Prop} {ds : List Definition} {ts : List Token}
    (h : Headed R ds ts) : (ds.map Definition.location).Sublist (ts.map Token.location) := by
  induction h with
  | nil => exact List.nil_sublist _
  | skip _ ih => exact ih.cons _
  | heading _ _ ih => exact (ih.cons _).cons_cons _

/-- The definitions in a unit stand in its text in their order. -/
theorem pairwise_before_definitions {s : Source} {a : Ast} (h : s.Reads a) :
    a.definitions.Pairwise fun d e => d.location.Before e.location := by
  obtain ⟨tokens, hlex, hread⟩ := h
  have hheaded := headed_of_build (build_eq_ok_iff.mpr hread)
  have htokens : (tokens.map Token.location).Pairwise Location.Before :=
    List.pairwise_map.mpr (pairwise_before_of_lex hlex)
  exact List.pairwise_map.mp (htokens.sublist hheaded.sublist)

/-- One of two definitions stands before the other. -/
def Definition.Apart (d e : Definition) : Prop :=
  d.location.Before e.location ∨ e.location.Before d.location

instance : Std.Symm Definition.Apart := ⟨fun _ _ => Or.symm⟩

/-- How two definitions of a unit stand of which the first one is taken before the second: it stands
before the second one if both are classes or both are defines, and in either order if it is a class
and the second one a define. -/
def Definition.TakenBefore (d e : Definition) : Prop :=
  d.kind = e.kind ∧ d.location.Before e.location ∨
    d.kind = "class" ∧ e.kind = "define" ∧ d.Apart e

theorem sublist_map_asClass? (ds : List Definition) :
    ((ds.filterMap Definition.asClass?).map Definition.ofClass).Sublist ds := by
  induction ds with
  | nil => exact .slnil
  | cons d ds ih =>
    cases d with
    | ofClass c => exact ih.cons_cons _
    | ofDefine d => exact ih.cons _

theorem sublist_map_asDefine? (ds : List Definition) :
    ((ds.filterMap Definition.asDefine?).map Definition.ofDefine).Sublist ds := by
  induction ds with
  | nil => exact .slnil
  | cons d ds ih =>
    cases d with
    | ofClass c => exact ih.cons _
    | ofDefine d => exact ih.cons_cons _

/-- The definitions of a unit, as they are taken. -/
theorem pairwise_takenBefore {s : Source} {a : Ast} (h : s.Reads a) :
    (Collection.definitionsOf a).Pairwise Definition.TakenBefore := by
  have hordered := pairwise_before_definitions h
  obtain ⟨-, -, -, -, hplaced⟩ := h
  have hfirst := sublist_map_asClass? a.definitions
  have hlast := sublist_map_asDefine? a.definitions
  rw [Collection.definitionsOf, Ast.classes, Ast.defines, classesIn_eq_filterMap,
    definesIn_eq_filterMap, ← Ast.definitions_eq_collectedIn hplaced, List.pairwise_append]
  refine ⟨?_, ?_, ?_⟩
  · refine (hordered.sublist hfirst).imp_of_mem fun hd he hbefore => .inl ⟨?_, hbefore⟩
    obtain ⟨_, -, rfl⟩ := List.mem_map.mp hd
    obtain ⟨_, -, rfl⟩ := List.mem_map.mp he
    rfl
  · refine (hordered.sublist hlast).imp_of_mem fun hd he hbefore => .inl ⟨?_, hbefore⟩
    obtain ⟨_, -, rfl⟩ := List.mem_map.mp hd
    obtain ⟨_, -, rfl⟩ := List.mem_map.mp he
    rfl
  · intro d hd e he
    -- Two different definitions do not stand in the same place.
    have hapart : a.definitions.Pairwise Definition.Apart := hordered.imp .inl
    have hd' := hfirst.subset hd
    have he' := hlast.subset he
    obtain ⟨_, -, rfl⟩ := List.mem_map.mp hd
    obtain ⟨_, -, rfl⟩ := List.mem_map.mp he
    exact .inr ⟨rfl, rfl, hapart.forall hd' he' fun heq => by cases heq⟩

/-! ### What is reported -/

namespace Collection

variable {c : Collection} {sources : List Source} {asts : List Ast} {kind name : String}
  {first second : Location}

theorem define_eq_error {d : Definition} {e : LoadError} (h : c.define d = .error e) :
    ∃ existing, (d.name, existing) ∈ c.definitions.entries ∧
      e = .duplicateDefinition d.kind d.name existing.location d.location := by
  unfold Collection.define at h
  cases hget : c.definitions.get? d.name with
  | none =>
    rw [hget] at h
    cases h
  | some existing =>
    rw [hget] at h
    cases h
    exact ⟨existing, Table.get?_eq_some_iff.mp hget, rfl⟩

theorem mem_of_mem_map_entryOf {d : Definition} {ds : List Definition} {name : String}
    (h : (name, d) ∈ ds.map entryOf) : d ∈ ds ∧ d.name = name := by
  obtain ⟨d', hd', heq⟩ := List.mem_map.mp h
  cases heq
  exact ⟨hd', rfl⟩

/-- A unit is refused for a name that is there already, or that is twice in it. -/
theorem Holds.duplicate (h : c.Holds sources asts) {s : Source}
    (hs : c.addSource s = .error (.duplicateDefinition kind name first second)) :
    ∃ a d e, s.Reads a ∧ e ∈ definitionsOf a ∧ d.name = name ∧ e.name = name ∧ e.kind = kind ∧
      d.location = first ∧ e.location = second ∧
      (d ∈ asts.flatMap definitionsOf ∨ d ∈ definitionsOf a ∧ d.TakenBefore e) := by
  unfold Collection.addSource at hs
  cases hparse : parse s.name s.text with
  | error e =>
    rw [hparse] at hs
    cases hs
  | ok a =>
    have hreads : s.Reads a := Source.reads_iff.mpr hparse
    simp only [hparse] at hs
    cases hdefine : (definitionsOf a).foldlM define c with
    | ok d =>
      rw [hdefine] at hs
      cases hs
    | error e =>
      rw [hdefine] at hs
      cases hs
      obtain ⟨before, e, after, c', hsplit, hbefore, herror⟩ :=
        Except.exists_split_of_foldlM_error hdefine
      obtain ⟨d, hd, heq⟩ := define_eq_error herror
      cases heq
      rw [(adds_of_foldlM hbefore).entries, h.entries, ← List.map_append] at hd
      obtain ⟨hd, hname⟩ := mem_of_mem_map_entryOf hd
      have he : e ∈ definitionsOf a := by simp [hsplit]
      refine ⟨a, d, e, hreads, he, hname, rfl, rfl, rfl, rfl, ?_⟩
      refine (List.mem_append.mp hd).imp_right fun hd => ⟨by simp [hsplit, hd], ?_⟩
      have hpairwise := pairwise_takenBefore hreads
      rw [hsplit, List.pairwise_append] at hpairwise
      exact hpairwise.2.2 d hd e List.mem_cons_self

/-- In units there are two definitions of the same name, the second of them of some kind, and all
units up to that one have legal trees.  The first definition is in an earlier unit, or it is in the
same one: there it stands before the second in the text, or else it is a class and the second a
define. -/
def Duplicate (sources : List Source) (kind name : String) (first second : Location) : Prop :=
  ∃ before s after asts a d e, sources = before ++ s :: after ∧
    List.Forall₂ Source.Reads before asts ∧ s.Reads a ∧ e ∈ a.definitions ∧
    d.name = name ∧ e.name = name ∧ e.kind = kind ∧ d.location = first ∧ e.location = second ∧
    (d ∈ asts.flatMap Ast.definitions ∨ d ∈ a.definitions ∧ d.TakenBefore e)

/-- If units make no collection because of a name, two definitions have this name, and the one that
is reported as the first is taken before the other one. -/
theorem duplicate_reported
    (h : ofSources sources = .error (.duplicateDefinition kind name first second)) :
    Duplicate sources kind name first second := by
  obtain ⟨before, s, after, c, hsplit, hbefore, herror⟩ := Except.exists_split_of_foldlM_error h
  obtain ⟨asts, hasts, hholds⟩ := holds_of_foldlM holds_empty hbefore
  obtain ⟨a, d, e, ha, he, hd, hnames⟩ := hholds.duplicate herror
  obtain ⟨hename, hekind, hdlocation, helocation, horder⟩ := hnames
  have hperm := perm_definitionsOf ha
  refine ⟨before, s, after, asts, a, d, e, hsplit, hasts, ha, hperm.mem_iff.mp he, hd, hename,
    hekind, hdlocation, helocation, ?_⟩
  rw [← (perm_flatMap_definitionsOf hasts).mem_iff, ← hperm.mem_iff]
  exact horder

/-- Why units make no collection, if they make none. -/
def refusal? (sources : List Source) : Option LoadError :=
  match ofSources sources with
  | .error e => some e
  | .ok _ => none

theorem refusal?_eq_some_iff {e : LoadError} :
    refusal? sources = some e ↔ ofSources sources = .error e := by
  rw [refusal?]
  cases ofSources sources <;> simp

/-- A define in one unit, and in another one a define of the same name inside of a class. -/
def definedTwice : List Source :=
  [⟨"a.pp", "class a { } define b { }", ⟨1, 0⟩⟩, ⟨"b.pp", "class c { define ::b { } }", ⟨1, 0⟩⟩]

theorem duplicate_reported_sample :
    ofSources definedTwice = .error
        (.duplicateDefinition "define" "b" ⟨"a.pp", 1, 13⟩ ⟨"b.pp", 1, 11⟩) ∧
      Duplicate definedTwice "define" "b" ⟨"a.pp", 1, 13⟩ ⟨"b.pp", 1, 11⟩ := by
  have herror : ofSources definedTwice = .error
      (.duplicateDefinition "define" "b" ⟨"a.pp", 1, 13⟩ ⟨"b.pp", 1, 11⟩) :=
    refusal?_eq_some_iff.mp (by decide +kernel)
  exact ⟨herror, duplicate_reported herror⟩

/-- Of a define and a class behind it on the same line the class is reported as the first. -/
theorem duplicate_behind :
    ofSources [⟨"site.pp", "define a { } class a { }", ⟨1, 0⟩⟩] = .error
        (.duplicateDefinition "define" "a" ⟨"site.pp", 1, 14⟩ ⟨"site.pp", 1, 1⟩) ∧
      (⟨"site.pp", 1, 1⟩ : Location).Before ⟨"site.pp", 1, 14⟩ :=
  ⟨refusal?_eq_some_iff.mp (by decide +kernel), .inr ⟨rfl, by decide⟩⟩

end Collection

end Manifest
