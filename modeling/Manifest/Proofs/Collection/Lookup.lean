import Manifest.Proofs.Collection
import Manifest.Proofs.Namespace
import Manifest.Proofs.Table

/-!
# What names stand for

A name without separators is looked for from a namespace outwards, and the first definition of the
right kind is the answer.  In terms of the segments of the namespace this is the definition behind
the longest leading part of them that there is one for.  A name with separators stands for one full
name only, wherever it is used.  Definitions of other kinds play no part in this.

## Main definitions

* `Collection.Has` — a class or define is in a collection.
* `Collection.IsAt` — a definition of a kind with a certain full name is in a collection.
* `Collection.Finds` — what a search for definitions of a kind answers.

## Main results

* `Collection.finds_find?` — the search for a kind answers this.
* `Collection.find?_congr` — it depends on nothing but the definitions of this kind.
* `Collection.finds_definitions` — both for classes, for defines and for the two together.
-/

namespace Manifest.Collection

variable {α β : Type} {c c' : Collection} {kind : α → Definition} {pick : Definition → Option α}
  {a : α} {d : Definition} {segments : List String} {full name space : String}

/-! ### The longest leading part -/

/-- The first answer, from the whole list to shorter and shorter leading parts of it. -/
theorem findSome?_inits_reverse {γ : Type} {f : List γ → Option β} {b : β} {l : List γ} :
    l.inits.reverse.findSome? f = some b ↔
      ∃ p, p <+: l ∧ f p = some b ∧ ∀ q, q <+: l → p.length < q.length → f q = none := by
  induction l using List.reverseRecOn with
  | nil =>
    have hnil : ([] : List γ).inits.reverse.findSome? f = f [] := List.findSome?_singleton
    rw [hnil]
    refine ⟨fun h => ⟨[], List.prefix_rfl, h, fun q hq hlength => ?_⟩, fun ⟨p, hp, h, _⟩ => ?_⟩
    · exact absurd hq.length_le (Nat.not_le.mpr hlength)
    · rwa [List.prefix_nil.mp hp] at h
  | append_singleton l x ih =>
    have hinits : (l ++ [x]).inits.reverse = (l ++ [x]) :: l.inits.reverse := by
      rw [List.inits_append]
      simp
    rw [hinits, List.findSome?_cons]
    cases hwhole : f (l ++ [x]) with
    | some b' =>
      -- No leading part is longer than the whole list, and every other one is shorter.
      refine ⟨fun h => ⟨_, List.prefix_rfl, by rw [hwhole]; exact h, fun q hq hlength => ?_⟩, ?_⟩
      · exact absurd hq.length_le (Nat.not_le.mpr hlength)
      · rintro ⟨p, hp, hpb, hlonger⟩
        rcases List.prefix_concat_iff.mp hp with rfl | hp
        · rw [← hwhole, hpb]
        · have hnone := hlonger _ List.prefix_rfl (by simpa using Nat.lt_succ_of_le hp.length_le)
          rw [hwhole] at hnone
          cases hnone
    | none =>
      rw [ih]
      refine ⟨?_, ?_⟩
      · rintro ⟨p, hp, hpb, hlonger⟩
        refine ⟨p, hp.trans (List.prefix_append l [x]), hpb, fun q hq hlength => ?_⟩
        rcases List.prefix_concat_iff.mp hq with rfl | hq
        · exact hwhole
        · exact hlonger q hq hlength
      · rintro ⟨p, hp, hpb, hlonger⟩
        rcases List.prefix_concat_iff.mp hp with rfl | hp
        · rw [hwhole] at hpb
          cases hpb
        · exact ⟨p, hp, hpb, fun q hq => hlonger q (hq.trans (List.prefix_append l [x]))⟩

/-! ### What is in a collection -/

/-- A class or define is in a collection. -/
def Has (c : Collection) (d : Definition) : Prop := ∃ e ∈ c.definitions.entries, e.2 = d

theorem get?_eq_some_iff : c.definitions.get? full = some d ↔ c.Has d ∧ d.name = full := by
  rw [Table.get?_eq_some_iff]
  refine ⟨fun h => ⟨⟨_, h, rfl⟩, (c.named _ h).symm⟩, ?_⟩
  rintro ⟨⟨⟨key, d⟩, h, rfl⟩, rfl⟩
  exact c.named _ h ▸ h

/-- A definition of a kind with this full name is in a collection. -/
def IsAt (c : Collection) (kind : α → Definition) (full : String) (a : α) : Prop :=
  c.Has (kind a) ∧ (kind a).name = full

/-- What `pick` takes are the definitions of a kind. -/
def Picks (pick : Definition → Option α) (kind : α → Definition) : Prop :=
  ∀ d a, pick d = some a ↔ d = kind a

theorem picks_class : Picks Definition.asClass? .ofClass := fun d a => by
  cases d <;> simp [Definition.asClass?]

theorem picks_define : Picks Definition.asDefine? .ofDefine := fun d a => by
  cases d <;> simp [Definition.asDefine?]

theorem picks_any : Picks some id := fun _ _ => Option.some_inj

theorem bind_eq_some_iff (h : Picks pick kind) :
    (c.definitions.get? full).bind pick = some a ↔ c.IsAt kind full a := by
  rw [Option.bind_eq_some_iff, IsAt, ← get?_eq_some_iff]
  refine ⟨?_, fun hget => ⟨_, hget, (h _ _).mpr rfl⟩⟩
  rintro ⟨d, hget, hd⟩
  rwa [(h d a).mp hd] at hget

theorem bind_eq_none_iff (h : Picks pick kind) :
    (c.definitions.get? full).bind pick = none ↔ ∀ a, ¬ c.IsAt kind full a := by
  rw [Option.eq_none_iff_forall_ne_some]
  exact forall_congr' fun a => not_congr (bind_eq_some_iff h)

/-! ### The answers -/

/-- What a search for definitions of a kind answers for ASCII names, from namespaces in lower
case. -/
structure Finds (c : Collection) (kind : α → Definition) (find : String → String → Option α) :
    Prop where
  /-- The definition behind the longest leading part of the namespace. -/
  some_iff : ∀ {segments name}, Name.IsSpace segments → Text.IsAscii name →
    Name.isQualified name = false → ∀ a, find name (Name.path segments) = some a ↔
      ∃ p, p <+: segments ∧ c.IsAt kind (Name.path (p ++ [Text.lower name])) a ∧
        ∀ q, q <+: segments → p.length < q.length →
          ∀ b, ¬ c.IsAt kind (Name.path (q ++ [Text.lower name])) b
  /-- Nothing, if there is no definition behind any leading part. -/
  none_iff : ∀ {segments name}, Name.IsSpace segments → Text.IsAscii name →
    Name.isQualified name = false → (find name (Name.path segments) = none ↔
      ∀ p, p <+: segments → ∀ b, ¬ c.IsAt kind (Name.path (p ++ [Text.lower name])) b)
  /-- A name with separators is a full name, whatever the namespace. -/
  qualified : ∀ {name}, Text.IsAscii name → Name.isQualified name = true →
    (∀ full, name ≠ Name.separator ++ full) → ∀ space a,
      find name space = some a ↔ c.IsAt kind (Text.lower name) a
  /-- So is what stands behind an anchor. -/
  anchored : ∀ {full}, Text.IsAscii full → ∀ space a,
    find (Name.separator ++ full) space = some a ↔ c.IsAt kind (Text.lower full) a

theorem fullNames_unqualified (hsegments : Name.IsSpace segments) (hname : Text.IsAscii name)
    (h : Name.isQualified name = false) :
    fullNames (Text.lower name) (Name.path segments) =
      segments.inits.reverse.map fun p => Name.path (p ++ [Text.lower name]) := by
  have hlower : Name.isQualified (Text.lower name) = false := by
    rw [Text.isQualified_lower hname, h]
  rw [fullNames, Name.absolute?_eq_none hlower]
  simp only [hlower, Bool.false_eq_true, if_false]
  rw [Name.lower_path hsegments, Name.candidates_path hsegments]

theorem fullNames_qualified (hname : Text.IsAscii name) (h : Name.isQualified name = true)
    (hanchor : ∀ full, name ≠ Name.separator ++ full) :
    fullNames (Text.lower name) space = [Text.lower name] := by
  rw [fullNames, Text.absolute?_lower_eq_none hname hanchor]
  simp only [Text.isQualified_lower hname, h, if_true]

theorem fullNames_anchored (hfull : Text.IsAscii full) :
    fullNames (Text.lower (Name.separator ++ full)) space = [Text.lower full] := by
  rw [fullNames, Text.lower_anchored hfull, Name.absolute?_eq_some_iff.mpr rfl]

/-- The search for definitions of a kind. -/
theorem finds_find? (h : Picks pick kind) : c.Finds kind (c.find? pick) where
  some_iff {segments name} hsegments hname hunqualified a := by
    rw [find?, fullNames_unqualified hsegments hname hunqualified, List.findSome?_map,
      findSome?_inits_reverse]
    simp only [Function.comp_apply, bind_eq_some_iff h, bind_eq_none_iff h]
  none_iff {segments name} hsegments hname hunqualified := by
    rw [find?, fullNames_unqualified hsegments hname hunqualified, List.findSome?_map,
      List.findSome?_eq_none_iff]
    simp only [List.mem_reverse, List.mem_inits, Function.comp_apply, bind_eq_none_iff h]
  qualified {name} hname hqualified hanchor space a := by
    rw [find?, fullNames_qualified hname hqualified hanchor]
    simp only [List.findSome?_singleton, bind_eq_some_iff h]
  anchored {full} hfull space a := by
    rw [find?, fullNames_anchored hfull]
    simp only [List.findSome?_singleton, bind_eq_some_iff h]

/-- The answers depend on nothing but the definitions of the kind. -/
theorem find?_congr (h : Picks pick kind) (hsame : ∀ a, c.Has (kind a) ↔ c'.Has (kind a))
    (name space : String) : c.find? pick name space = c'.find? pick name space := by
  have hbind : ∀ full, (c.definitions.get? full).bind pick = (c'.definitions.get? full).bind pick :=
    fun full => Option.ext fun a => by
      rw [bind_eq_some_iff h, bind_eq_some_iff h, IsAt, IsAt, hsame]
  simp only [find?, hbind]

/-- Classes are looked for among classes, defines among defines, and either among both: the
definition of the kind behind the longest leading part of the namespace, or the one with the full
name that was given.  Whatever else is in a collection does not change the answer. -/
theorem finds_definitions (c : Collection) :
    c.Finds .ofClass c.findClass? ∧ c.Finds .ofDefine c.findDefine? ∧ c.Finds id c.lookup? ∧
      ∀ c' : Collection,
        ((∀ d, c.Has (.ofClass d) ↔ c'.Has (.ofClass d)) →
          ∀ name space, c.findClass? name space = c'.findClass? name space) ∧
        ((∀ d, c.Has (.ofDefine d) ↔ c'.Has (.ofDefine d)) →
          ∀ name space, c.findDefine? name space = c'.findDefine? name space) :=
  ⟨finds_find? picks_class, finds_find? picks_define, finds_find? picks_any,
    fun _ => ⟨find?_congr picks_class, find?_congr picks_define⟩⟩

/-! ### A define in front of a class -/

/-- A class in the global namespace. -/
def outerClass : ClassDefinition := ⟨⟨"foo", [], none, none, ⟨"site.pp", 1, 1⟩⟩, []⟩

/-- A define of the same name in another namespace. -/
def innerDefine : DefineDefinition := ⟨⟨"a::foo", [], none, ⟨"site.pp", 2, 1⟩⟩, []⟩

/-- The class alone. -/
def withClass : Collection :=
  { empty with
    definitions := ⟨[("foo", .ofClass outerClass)], by decide⟩
    named := List.forall_mem_singleton.mpr rfl }

/-- The class and the define. -/
def withBoth : Collection :=
  { empty with
    definitions := ⟨[("foo", .ofClass outerClass), ("a::foo", .ofDefine innerDefine)], by decide⟩
    named := List.forall_mem_cons.mpr ⟨rfl, List.forall_mem_singleton.mpr rfl⟩ }

/-- The define does not hide the class, and the class is found in the same way without it. -/
theorem finds_definitions_inner :
    withBoth.findClass? "Foo" (Name.path ["a"]) = some outerClass ∧
      withBoth.findDefine? "::A::Foo" "b" = some innerDefine ∧
        ∀ name space, withBoth.findClass? name space = withClass.findClass? name space := by
  obtain ⟨hclasses, hdefines, -, hsame⟩ := finds_definitions withBoth
  have hspace : Name.IsSpace ["a"] := List.forall_mem_singleton.mpr (by decide)
  have hclass : withBoth.IsAt .ofClass "foo" outerClass := (bind_eq_some_iff picks_class).mp rfl
  have hdefine : withBoth.IsAt .ofDefine "a::foo" innerDefine :=
    (bind_eq_some_iff picks_define).mp rfl
  refine ⟨?_, ?_, (hsame withClass).1 fun d => ?_⟩
  · refine (hclasses.some_iff hspace (by decide) (by decide) outerClass).mpr
      ⟨[], List.nil_prefix, hclass, fun q hq hlength => ?_⟩
    obtain rfl : q = ["a"] := hq.eq_of_length_le hlength
    exact (bind_eq_none_iff picks_class).mp rfl
  · have hascii : Text.IsAscii "A::Foo" := by decide
    exact (hdefines.anchored hascii "b" innerDefine).mpr hdefine
  · simp [Has, withBoth, withClass]

end Manifest.Collection
