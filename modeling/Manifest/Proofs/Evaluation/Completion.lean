import Manifest.Proofs.Evaluation.Persistence
import Manifest.Proofs.Evaluation.RegistryGrowth

/-!
# Finished catalogs are complete

Finishing completes every resource that was declared: it gets its name variable and its tags, and
keeps what it was given.  The registry is asked for a type by the name that references give it,
though, and a type that is registered under a name with an anchor is not found like that: resources
of such a type are let through as they are.

## Main definitions

* `Setting.HasType` — the types that a resource may have.
* `Registry.Hides` — a type that is registered, but not under the name in references.
* `Completion` — a declared resource and what has become of it.
* `Completes` — a catalog with all that was declared until a state, completed.

## Main results

* `completion_finishResource` — what finishing does to one resource.
* `completes_of_run` — the catalog of an evaluation has what was declared, completed.
* `Registry.not_hides_builtin` — none of the types that are always there is hidden.
-/

namespace Manifest

open Evaluation
open ScopeArena (mainClass)

/-! ### Types of resources -/

/-- The types that a resource may have, as references name them. -/
def Setting.HasType (setting : Setting) (typeName : String) : Prop :=
  typeName = Reference.classType ∨ typeName = "Node" ∨
    (∃ d, setting.collection.HasDefine d ∧ typeName = Name.capitalize d.name) ∨
    setting.registry.contains typeName = true

/-- A type is registered, but references to its resources name it in a way in which it is not
found. -/
def Registry.Hides (registry : Registry) (typeName : String) : Prop :=
  registry.contains typeName = false ∧
    ∃ name, registry.contains name = true ∧ typeName = Name.capitalize name

variable {setting : Setting} {registry : Registry} {scopes : ScopeArena} {r : Resource}

theorem Setting.Declarable.hasType (h : setting.Declarable r) :
    setting.HasType r.reference.typeName ∨ setting.registry.Hides r.reference.typeName := by
  cases h with
  | main => exact .inl (.inl rfl)
  | ofNode n => exact .inl (.inr (.inl rfl))
  | ofClass c given scope location => exact .inl (.inl rfl)
  | @ofType type known given scope location title =>
    cases type with
    | define d => exact .inl (.inr (.inr (.inl ⟨d, known, rfl⟩)))
    | registered name =>
      cases hfound : setting.registry.contains (Name.capitalize name) with
      | true => exact .inl (.inr (.inr (.inr hfound)))
      | false => exact .inr ⟨hfound, name, known, rfl⟩

/-! #### Types that are always there -/

theorem mem_lowerFrom_colon : ∀ (before cs : List Char), ':' ∈ cs → ':' ∈ Text.lowerFrom before cs
  | before, c :: rest, h => by
    rw [Text.lowerFrom, List.mem_append]
    rcases List.mem_cons.mp h with rfl | h
    · exact .inl List.mem_cons_self
    · exact .inr (mem_lowerFrom_colon (c :: before) rest h)

theorem segments_of_notMem : ∀ {cs : List Char}, ':' ∉ cs → Name.segments cs = [cs]
  | [], _ => rfl
  | c :: rest, h => by
    have hc : c ≠ ':' := fun hc => h (hc ▸ List.mem_cons_self)
    have hrest := segments_of_notMem fun hm => h (List.mem_cons_of_mem c hm)
    rw [Name.segments]
    · rw [hrest]
    · exact fun _ hcolon => absurd hcolon hc

theorem dropAnchors_of_notMem {cs : List Char} (h : ':' ∉ cs) : Name.dropAnchors cs = cs := by
  cases cs with
  | nil => rfl
  | cons c rest =>
    rw [Name.dropAnchors]
    exact fun _ hcolon => absurd (hcolon ▸ List.mem_cons_self) h

/-- A name of one segment. -/
theorem capitalize_of_notMem {name : String} (h : ':' ∉ name.toList) :
    Name.capitalize name = String.ofList (Text.capitalizeChars name.toList) := by
  rw [Name.capitalize, dropAnchors_of_notMem h, segments_of_notMem h]
  rfl

/-- Only the lower case of a name matters to its form in references. -/
theorem capitalizeChars_congr {cs cs' : List Char} (h : Text.lowerChars cs = Text.lowerChars cs') :
    Text.capitalizeChars cs = Text.capitalizeChars cs' := by
  rw [Text.capitalizeChars, h, ← Text.capitalizeChars]

/-- None of the types that are always there is hidden. -/
theorem Registry.not_hides_builtin (typeName : String) : ¬ Registry.builtin.Hides typeName := by
  rintro ⟨hmissing, name, hname, rfl⟩
  have hkeys : ∀ key ∈ Registry.builtin.types.keys, ':' ∉ key.toList ∧
      Text.lowerChars key.toList = key.toList ∧
      Registry.builtin.contains (String.ofList (Text.capitalizeChars key.toList)) = true := by
    decide +kernel
  obtain ⟨hcolon, hlower, hcontains⟩ := hkeys _ ((Table.get?_isSome_iff _ _).mp hname)
  rw [Text.lower, String.toList_ofList] at hcolon hlower hcontains
  rw [capitalize_of_notMem fun hm => hcolon (mem_lowerFrom_colon [] _ hm),
    ← capitalizeChars_congr hlower, hcontains] at hmissing
  cases hmissing

/-! ### Tags -/

theorem tagged_foldl_tag (tag : String) : ∀ (tags : List String) (r : Resource),
    r.tagged tag = true ∨ tag ∈ tags → (tags.foldl Resource.tag r).tagged tag = true
  | [], _, h => h.resolve_right List.not_mem_nil
  | t :: tags, r, h => by
    refine tagged_foldl_tag tag tags (r.tag t) ?_
    have hmem := OrderedSet.mem_insert r.tags (Text.lower t) (Text.lower tag)
    rcases h with h | h
    · exact .inl (decide_eq_true (hmem.mpr (.inr (of_decide_eq_true h))))
    · rcases List.mem_cons.mp h with rfl | h
      · exact .inl (decide_eq_true (hmem.mpr (.inl rfl)))
      · exact .inr h

/-- A finished resource has its tags. -/
theorem tagged_finishResource {tag : String}
    (h : tag ∈ tagsOf scopes (withNamevar registry r)) :
    (finishResource registry scopes r).tagged tag = true := by
  have htagged := tagged_foldl_tag tag _ (withNamevar registry r) (.inr h)
  simp only [Resource.tagged] at htagged
  simpa only [Resource.tagged, finishResource] using htagged

/-- A class around a resource, other than the main class, is one of those that tag it. -/
theorem mem_owningClasses {scope id : ScopeId} (hid : id ∈ scopes.ancestors scope)
    (hclass : (scopes.owner id).isClass = true) (hmain : scopes.owner id ≠ mainClass) :
    Text.lower (scopes.owner id).title ∈ owningClasses scopes scope := by
  refine List.mem_filterMap.mpr ⟨id, hid, ?_⟩
  have htitle : (scopes.owner id).title ≠ "Main" := by
    intro htitle
    refine hmain ?_
    rw [Reference.isClass, beq_iff_eq] at hclass
    generalize scopes.owner id = owner at hclass htitle
    cases owner with
    | mk typeName title =>
      cases hclass
      cases htitle
      rfl
  simp [hclass, htitle]

/-! ### What finishing does to a resource -/

/-- A declared resource and the resource of the finished catalog that has become of it. -/
structure Completion (setting : Setting) (scopes : ScopeArena) (declared completed : Resource) :
    Prop where
  reference_eq : completed.reference = declared.reference
  location_eq : completed.location = declared.location
  scope_eq : completed.scope = declared.scope
  finished : completed.finished = true
  typed : setting.HasType completed.reference.typeName ∨
    setting.registry.Hides completed.reference.typeName
  conforms : completed.Conforms setting.registry
  /-- What was given has its value still. -/
  kept : ∀ name value, declared.parameter? name = some value →
    completed.parameter? name = some value
  /-- What was not given is the name variable, which is the title. -/
  added : ∀ name value, declared.parameter? name = none →
    completed.parameter? name = some value →
    ∃ d, setting.registry.get? completed.reference.typeName = some d ∧ name = d.namevar ∧
      value = .string completed.reference.title
  tagged_type : completed.tagged (Text.lower completed.reference.typeName) = true
  /-- The classes around the scope of the resource. -/
  tagged_class : ∀ id ∈ scopes.ancestors completed.scope, (scopes.owner id).isClass = true →
    scopes.owner id ≠ mainClass → completed.tagged (Text.lower (scopes.owner id).title) = true
  tagged_value : ∀ value, completed.parameter? "tag" = some value → ∀ v ∈ value.flatten,
    completed.tagged v.text = true

theorem foldl_tag_eq (tags : List String) (r : Resource) :
    (tags.foldl Resource.tag r).location = r.location ∧
      (tags.foldl Resource.tag r).scope = r.scope := by
  induction tags generalizing r with
  | nil => exact ⟨rfl, rfl⟩
  | cons tag rest ih => exact ih (r.tag tag)

theorem withNamevar_eq (registry : Registry) (r : Resource) :
    (withNamevar registry r).location = r.location ∧
      (withNamevar registry r).scope = r.scope := by
  rw [withNamevar]
  cases registry.get? r.reference.typeName with
  | none => exact ⟨rfl, rfl⟩
  | some d =>
    simp only
    split <;> exact ⟨rfl, rfl⟩

theorem finishResource_eq (registry : Registry) (scopes : ScopeArena) (r : Resource) :
    (finishResource registry scopes r).location = r.location ∧
      (finishResource registry scopes r).scope = r.scope := by
  simp only [finishResource, foldl_tag_eq, withNamevar_eq, and_self]

/-- A parameter of a resource with its name variable was given, or it is the name variable. -/
theorem parameter?_withNamevar (registry : Registry) (r : Resource) (name : String) :
    (withNamevar registry r).parameter? name = r.parameter? name ∨
      (r.parameter? name = none ∧
        (withNamevar registry r).parameter? name = some (.string r.reference.title) ∧
        ∃ d, registry.get? r.reference.typeName = some d ∧ name = d.namevar) := by
  rw [withNamevar]
  cases hd : registry.get? r.reference.typeName with
  | none => exact .inl rfl
  | some d =>
    simp only
    split
    · exact .inl rfl
    · next hnew =>
      by_cases hname : name = d.namevar
      · subst hname
        refine .inr ⟨by simpa [Table.contains, Resource.parameter?] using hnew, ?_, d, rfl, rfl⟩
        rw [Resource.parameter?, Resource.setParameter, Table.get?_insert, if_pos rfl]
      · refine .inl ?_
        rw [Resource.parameter?, Resource.setParameter, Table.get?_insert, if_neg hname]
        rfl

theorem parameter?_finishResource (registry : Registry) (scopes : ScopeArena) (r : Resource)
    (name : String) :
    (finishResource registry scopes r).parameter? name =
      (withNamevar registry r).parameter? name := by
  rw [Resource.parameter?, parameters_finishResource]
  rfl

/-- Finishing completes a resource that was declared. -/
theorem completion_finishResource (hr : setting.Declarable r)
    (hconforms : (finishResource setting.registry scopes r).Conforms setting.registry) :
    Completion setting scopes r (finishResource setting.registry scopes r) := by
  have hreference := reference_finishResource setting.registry scopes r
  have hnamed := reference_withNamevar setting.registry r
  obtain ⟨hlocation, hscope⟩ := finishResource_eq setting.registry scopes r
  refine {
    reference_eq := hreference
    location_eq := hlocation
    scope_eq := hscope
    finished := by simp only [finishResource]
    typed := by
      rw [hreference]
      exact hr.hasType
    conforms := hconforms
    kept := ?kept
    added := ?added
    tagged_type := ?type
    tagged_class := ?owner
    tagged_value := ?value }
  -- The name variable is added only where nothing was given for it, so what was given stays.
  case kept =>
    intro name value hgiven
    rw [parameter?_finishResource]
    rcases parameter?_withNamevar setting.registry r name with hsame | ⟨hnone, -⟩
    · exact hsame.trans hgiven
    · rw [hnone] at hgiven
      cases hgiven
  case added =>
    intro name value hnone hvalue
    rw [parameter?_finishResource] at hvalue
    rw [hreference]
    rcases parameter?_withNamevar setting.registry r name with hsame | ⟨-, htitle, d, hd, hname⟩
    · rw [hsame, hnone] at hvalue
      cases hvalue
    · rw [htitle] at hvalue
      exact ⟨d, hd, hname, (Option.some.inj hvalue).symm⟩
  case type =>
    refine tagged_finishResource ?_
    rw [hreference, tagsOf, hnamed]
    exact List.mem_append_left _ (List.mem_append_left _ List.mem_cons_self)
  case owner =>
    intro id hid hclass hmain
    refine tagged_finishResource ?_
    rw [hscope] at hid
    rw [tagsOf, (withNamevar_eq setting.registry r).2]
    refine List.mem_append_left _ (List.mem_append_right _ (List.mem_flatMap.mpr ?_))
    exact ⟨_, mem_owningClasses hid hclass hmain, List.mem_cons_self⟩
  case value =>
    intro value hvalue v hv
    rw [parameter?_finishResource] at hvalue
    refine tagged_finishResource ?_
    rw [tagsOf, hvalue]
    exact List.mem_append_right _ (List.mem_map_of_mem hv)

/-! ### Whole catalogs -/

theorem Catalog.mem_values_of_get? {c : Catalog} {reference : Reference} {r : Resource}
    (h : c.get? reference = some r) : r ∈ c.resources.values :=
  List.mem_map.mpr ⟨(reference.text, r), Table.mem_of_get? h, rfl⟩

/-- The resources of a finished catalog are those of the state, finished. -/
theorem resources_finish {s : EvalState} {made : Catalog} (h : finish registry s = .ok made) :
    made.resources = s.catalog.resources.map (finishResource registry s.scopes) := by
  obtain ⟨c, hresources, -, -, rfl⟩ := finish_eq_ok h
  exact congrArg (Table.map _) hresources

theorem get?_finish {s : EvalState} {made : Catalog} (h : finish registry s = .ok made)
    (reference : Reference) :
    made.get? reference =
      (s.catalog.get? reference).map (finishResource registry s.scopes) := by
  rw [Catalog.get?, resources_finish h, Table.get?_map]
  rfl

/-- A catalog has what was declared until a state, completed. -/
structure Completes (setting : Setting) (s : EvalState) (catalog : Catalog) : Prop where
  of_mem : ∀ completed ∈ catalog.resources.values, ∃ declared,
    s.catalog.get? completed.reference = some declared ∧
    Completion setting s.scopes declared completed
  /-- What a declaration on the way to the state has given to a resource is what has become
  complete. -/
  of_declares : ∀ limit reference given s₁ s₂,
    Declares setting (enter setting limit) reference given s₁ s₂ → Steps setting s₂ s →
    ∃ declared completed, declared.parameters = given ∧
      catalog.get? reference = some completed ∧ Completion setting s.scopes declared completed

/-- A declared resource that is found in the last state is found in the finished catalog. -/
theorem exists_completion {limit : Nat} {catalog : Catalog} {s : EvalState}
    (h : program setting limit (EvalState.start setting) = .ok catalog s) {reference : Reference}
    {declared : Resource} (hdeclared : s.catalog.get? reference = some declared) :
    catalog.get? reference = some (finishResource setting.registry s.scopes declared) ∧
      Completion setting s.scopes declared
        (finishResource setting.registry s.scopes declared) := by
  obtain ⟨hexecute, hfinish⟩ := program_eq_ok h
  have hget := get?_finish hfinish reference
  rw [hdeclared, Option.map_some] at hget
  have hr := declarable_of_executeSite hexecute declared (Catalog.mem_values_of_get? hdeclared)
  have hconforms := conforms_of_finish hfinish _ (Catalog.mem_values_of_get? hget)
  exact ⟨hget, completion_finishResource hr hconforms⟩

/-- The catalog of an evaluation has what was declared until its last state, completed. -/
theorem completes_of_run {catalog : Catalog} {events : List Event}
    (h : run setting = (.ok catalog, events)) :
    ∃ s, program setting (depthLimit setting.collection) (EvalState.start setting) =
      .ok catalog s ∧ Completes setting s catalog := by
  obtain ⟨s, hs, -⟩ := program_of_run h
  refine ⟨s, hs, ⟨fun completed hm => ?_, fun limit reference given s₁ s₂ hd hsteps => ?_⟩⟩
  · rw [resources_finish (program_eq_ok hs).2] at hm
    obtain ⟨e, he, rfl⟩ := List.mem_map.mp hm
    obtain ⟨entry, hentry, rfl⟩ := List.mem_map.mp he
    have hkey : entry.1 = entry.2.reference.text :=
      (reachable_of_program hs).contained.tree.keyed entry hentry
    have hget : s.catalog.get? entry.2.reference = some entry.2 := by
      rw [Catalog.get?, Table.get?_eq_some_iff, ← hkey]
      exact hentry
    obtain ⟨-, hcompletion⟩ := exists_completion hs hget
    refine ⟨entry.2, ?_, hcompletion⟩
    rw [hcompletion.reference_eq]
    exact hget
  · obtain ⟨declared, hdeclared, hgiven⟩ := hd.get?_eq hsteps
    obtain ⟨hget, hcompletion⟩ := exists_completion hs hdeclared
    exact ⟨declared, _, hgiven, hget, hcompletion⟩

theorem completes_of_run_sample :
    ∃ catalog events, run Sample.setting = (.ok catalog, events) ∧
      (catalog.get? (.of "notify" "up")).map (fun r => (r.parameters.entries, r.tags.items)) =
        some ([("name", .string "up")], ["notify", "web"]) ∧
      ∃ s, program Sample.setting (depthLimit Sample.setting.collection)
        (EvalState.start Sample.setting) = .ok catalog s ∧
        Completes Sample.setting s catalog := by
  have hup : ((run Sample.setting).1.toOption.bind fun c => c.get? (.of "notify" "up")).map
      (fun r => (r.parameters.entries, r.tags.items)) =
        some ([("name", .string "up")], ["notify", "web"]) := by decide +kernel
  rcases hrun : run Sample.setting with ⟨e | catalog, events⟩
  · rw [hrun] at hup
    cases hup
  · rw [hrun] at hup
    exact ⟨catalog, events, rfl, hup, completes_of_run hrun⟩

/-! ### A type with an anchor -/

namespace Sample

/-- The registry with a type under a name with an anchor. -/
def anchored : Registry :=
  (Registry.builtin.register ⟨"::widget", "name", .ofList ["a"], false, .null⟩).toOption.getD
    .builtin

/-- A resource of this type with a parameter that it does not take. -/
def widget : Collection := { Collection.empty with
  manifests := [⟨"site.pp", [.resource "::widget"
    [⟨.string "x" (line 1), [⟨"bogus", .integer 1 (line 1), line 1⟩], line 1⟩] (line 1)]⟩] }

/-- The evaluation for a node without facts. -/
def masked : Setting := ⟨⟨"web1", .empty, none⟩, "production", widget, anchored, true⟩

end Sample

/-- The type is registered and the resource is declared, but the resource is finished without its
name variable and with a parameter that the type does not take; under the name in its reference no
type is found. -/
theorem hides_anchored :
    (Sample.anchored.get? "::widget").map (fun d => (d.namevar, d.accepts "bogus")) =
        some ("name", false) ∧
      ((run Sample.masked).1.toOption.bind fun c => c.get? (.of "::widget" "x")).map
          (fun r => (r.reference.typeName, r.parameters.entries, r.finished)) =
        some ("Widget", [("bogus", .integer 1)], true) ∧
      Sample.anchored.Hides "Widget" ∧ ¬ Sample.masked.HasType "Widget" := by
  refine ⟨by decide +kernel, by decide +kernel, ⟨by decide +kernel, "::widget", ?_⟩, ?_⟩
  · exact ⟨by decide +kernel, by decide +kernel⟩
  · rintro (h | h | ⟨d, hd, -⟩ | h)
    · exact absurd h (by decide)
    · exact absurd h (by decide)
    · cases hd
    · exact absurd h (by decide +kernel)

end Manifest
