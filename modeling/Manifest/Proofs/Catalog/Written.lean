import Manifest.Catalog
import Manifest.Proofs.Json.ReadBack

/-!
# What the written form of a catalog says

The written form of a catalog tells everything about it but the scopes of its resources and whether
they are finished.  The keys of a reference stand among those of its resource, and values and
versions are written without a word on their kind; still nothing is confused, since what each of
them is written as is of another form.  A value is read back as it was, as long as its integers have
64 bits and it is not nested deeper than a reader goes.

## Main definitions

* `Value.depth` — how deep arrays and objects are nested in the written form of a value.
* `Value.HasSmallIntegers` — all integers in a value have 64 bits.
* `Catalog.SameContent` — catalogs that differ in nothing that is written.

## Main results

* `Value.toJson_injective`, `Value.ofJson?_toJson` — values are told apart and read back.
* `Catalog.text_eq_iff` — catalogs with one written form have the same content.
* `Catalog.written_faithfully` — both together.
-/

namespace Manifest

/-! ### Plain values -/

namespace Json

theorem arePlain_map {α : Type} {f : α → Json} (h : ∀ a, (f a).IsPlain) :
    ∀ as : List α, ArePlain (as.map f)
  | [] => trivial
  | a :: as => ⟨h a, arePlain_map h as⟩

theorem membersPlain_map {α : Type} {key : α → String} {f : α → Json} (h : ∀ a, (f a).IsPlain) :
    ∀ as : List α, MembersPlain (as.map fun a => (key a, f a))
  | [] => trivial
  | a :: as => ⟨h a, membersPlain_map h as⟩

end Json

theorem Reference.isPlain_toJson (r : Reference) : r.toJson.IsPlain := ⟨trivial, trivial, trivial⟩

theorem Location.isPlain_toJson (l : Location) : l.toJson.IsPlain :=
  ⟨trivial, trivial, trivial, trivial⟩

theorem Version.isPlain_toJson (v : Version) : v.toJson.IsPlain := by
  cases v <;> exact trivial

namespace Value

mutual

theorem isPlain_toJson : ∀ v : Value, v.toJson.IsPlain
  | absent | bool _ | integer _ | string _ => trivial
  | array items => arePlain_toJsonAll items
  | reference r => r.isPlain_toJson

theorem arePlain_toJsonAll : ∀ vs : List Value, Json.ArePlain (toJsonAll vs)
  | [] => trivial
  | v :: vs => ⟨isPlain_toJson v, arePlain_toJsonAll vs⟩

end

end Value

namespace Catalog

theorem isPlain_resourceToJson (r : Resource) : (resourceToJson r).IsPlain := by
  have hparameters : Json.MembersPlain (r.parameters.entries.map fun e => (e.1, e.2.toJson)) :=
    Json.membersPlain_map (fun e => e.2.isPlain_toJson) _
  have hname (tag : String) : (Json.string tag).IsPlain := trivial
  have htags : Json.ArePlain (r.tags.items.map .string) := Json.arePlain_map hname _
  exact ⟨trivial, trivial, hparameters, htags, r.location.isPlain_toJson, trivial⟩

theorem isPlain_edgeToJson (e : Edge) : (edgeToJson e).IsPlain :=
  ⟨e.source.isPlain_toJson, e.target.isPlain_toJson, trivial, trivial⟩

theorem isPlain_toJson (c : Catalog) : c.toJson.IsPlain :=
  ⟨trivial, trivial, c.version.isPlain_toJson,
    Json.membersPlain_map (fun e : String × Resource => isPlain_resourceToJson e.2)
      c.resources.entries,
    Json.arePlain_map isPlain_edgeToJson c.edges.items, trivial⟩

end Catalog

/-! ### Nothing is confused -/

theorem Reference.toJson_injective {r s : Reference} (h : r.toJson = s.toJson) : r = s := by
  simp only [toJson, Json.object.injEq, List.cons.injEq, Prod.mk.injEq, Json.string.injEq, true_and,
    and_true] at h
  cases r
  cases s
  rw [Reference.mk.injEq]
  exact h

theorem Location.toJson_injective {l m : Location} (h : l.toJson = m.toJson) : l = m := by
  simp only [toJson, Json.object.injEq, List.cons.injEq, Prod.mk.injEq, Json.string.injEq,
    Json.integer.injEq, Int.natCast_inj, true_and, and_true] at h
  cases l
  cases m
  rw [Location.mk.injEq]
  exact h

theorem Version.toJson_injective {v w : Version} (h : v.toJson = w.toJson) : v = w := by
  cases v with
  | timestamp seconds =>
    cases w with
    | timestamp others =>
      have hseconds : seconds.toNat = others.toNat := Int.ofNat.inj (Json.integer.inj h)
      rw [UInt64.toNat_inj.mp hseconds]
    | command output => cases h
  | command output =>
    cases w with
    | timestamp seconds => cases h
    | command other => rw [Json.string.inj h]

theorem EdgeKind.text_injective {k l : EdgeKind} (h : k.text = l.text) : k = l := by
  revert h
  cases k <;> cases l <;> decide

theorem Reference.ofJson?_toJson (r : Reference) : ofJson? r.toJson = some r := rfl

namespace Value

mutual

/-- Values are told apart by what they are written as, whatever their kind. -/
theorem toJson_injective : ∀ {v w : Value}, v.toJson = w.toJson → v = w
  | absent, w, h => by
    cases w with
    | absent => rfl
    | _ => cases h
  | bool b, w, h => by
    cases w with
    | bool c => rw [Json.bool.inj h]
    | _ => cases h
  | integer n, w, h => by
    cases w with
    | integer m => rw [Json.integer.inj h]
    | _ => cases h
  | string s, w, h => by
    cases w with
    | string t => rw [Json.string.inj h]
    | _ => cases h
  | array vs, w, h => by
    cases w with
    | array ws => rw [toJsonAll_injective (Json.array.inj h)]
    | _ => cases h
  | reference r, w, h => by
    cases w with
    | reference s => rw [Reference.toJson_injective h]
    | _ => cases h

theorem toJsonAll_injective : ∀ {vs ws : List Value}, toJsonAll vs = toJsonAll ws → vs = ws
  | [], [], _ => rfl
  | [], _ :: _, h => nomatch h
  | _ :: _, [], h => nomatch h
  | v :: vs, w :: ws, h => by
    obtain ⟨hfirst, hrest⟩ := List.cons.inj h
    rw [toJson_injective hfirst, toJsonAll_injective hrest]

end

/-! ### Values are read back -/

mutual

/-- How deep arrays and objects are nested in the written form of a value. -/
def depth : Value → Nat
  | absent | bool _ | integer _ | string _ => 0
  | array items => depthAll items + 1
  | reference _ => 1

/-- The depth of the deepest item. -/
def depthAll : List Value → Nat
  | [] => 0
  | v :: rest => max (depth v) (depthAll rest)

end

mutual

/-- All integers in a value have 64 bits. -/
def HasSmallIntegers : Value → Prop
  | integer n => isInteger64 n = true
  | array items => HaveSmallIntegers items
  | absent | bool _ | string _ | reference _ => True

/-- All integers in the items have 64 bits. -/
def HaveSmallIntegers : List Value → Prop
  | [] => True
  | v :: rest => HasSmallIntegers v ∧ HaveSmallIntegers rest

end

mutual

theorem fits_toJson : ∀ {v : Value} {limit : Nat}, v.depth ≤ limit → v.toJson.fits limit = true
  | absent, _, _ | bool _, _, _ | integer _, _, _ | string _, _, _ => rfl
  | array items, 0, h => absurd h (Nat.not_succ_le_zero _)
  | array items, limit + 1, h => by
    rw [toJson, Json.fits, Nat.add_sub_cancel, allFit_toJsonAll (Nat.le_of_succ_le_succ h)]
    rfl
  | reference r, 0, h => absurd h (Nat.not_succ_le_zero _)
  | reference r, limit + 1, h => rfl

theorem allFit_toJsonAll : ∀ {vs : List Value} {limit : Nat}, depthAll vs ≤ limit →
    Json.allFit limit (toJsonAll vs) = true
  | [], _, _ => rfl
  | v :: vs, limit, h => by
    rw [depthAll, Nat.max_le] at h
    rw [toJsonAll, Json.allFit, fits_toJson h.1, allFit_toJsonAll h.2]
    rfl

end

mutual

theorem decode?_toJson : ∀ {v : Value}, v.HasSmallIntegers → decode? v.toJson = some v
  | absent, _ | bool _, _ | string _, _ => rfl
  | integer n, h => if_pos h
  | array items, h => by
    rw [toJson, decode?, decodeAll?_toJsonAll h]
    rfl
  | reference r, _ => by
    show (Reference.ofJson? r.toJson).map reference = _
    rw [r.ofJson?_toJson]
    rfl

theorem decodeAll?_toJsonAll : ∀ {vs : List Value}, HaveSmallIntegers vs →
    decodeAll? (toJsonAll vs) = some vs
  | [], _ => rfl
  | v :: vs, h => by
    rw [toJsonAll, decodeAll?, decode?_toJson h.1, decodeAll?_toJsonAll h.2]
    rfl

end

mutual

/-- Small integers are whole numbers for a reader. -/
theorem asRead_toJson : ∀ {v : Value}, v.HasSmallIntegers → v.toJson.asRead = v.toJson
  | absent, _ | bool _, _ | string _, _ | reference _, _ => rfl
  | integer n, h => by
    have hbounds : isInteger64 n = true := h
    simp only [isInteger64, Bool.and_eq_true, decide_eq_true_eq] at hbounds
    have hspan : (Json.span63 : Int) < Json.span64 := by decide
    exact if_pos ⟨hbounds.1, by omega⟩
  | array items, h => congrArg Json.array (allAsRead_toJsonAll h)

theorem allAsRead_toJsonAll : ∀ {vs : List Value}, HaveSmallIntegers vs →
    Json.allAsRead (toJsonAll vs) = toJsonAll vs
  | [], _ => rfl
  | v :: vs, h => by
    rw [toJsonAll, Json.allAsRead, asRead_toJson h.1, allAsRead_toJsonAll h.2]

end

theorem ofJson?_toJson {v : Value} (h : v.HasSmallIntegers) (hdepth : v.depth ≤ Json.maxDepth) :
    ofJson? v.toJson = some v := by
  rw [ofJson?, fits_toJson hdepth, if_pos rfl, decode?_toJson h]

/-- A value is read back from its written form. -/
theorem ofJson?_chars {layout : Json.Layout} (hl : layout.IsBlank) {v : Value}
    (h : v.HasSmallIntegers) (hdepth : v.depth ≤ Json.maxDepth) :
    (Json.read? (String.ofList (v.toJson.chars layout 0))).bind ofJson? = some v := by
  rw [Json.read?_chars hl v.isPlain_toJson, asRead_toJson h]
  exact ofJson?_toJson h hdepth

end Value

/-! ### Catalogs -/

/-- What is written of a resource: everything but its scope and whether it is finished. -/
def Resource.shown (r : Resource) : Resource := { r with scope := 0, finished := false }

namespace Catalog

/-- Two catalogs differ in nothing that is written. -/
structure SameContent (c d : Catalog) : Prop where
  node : c.node = d.node
  environment : c.environment = d.environment
  version : c.version = d.version
  /-- The resources stand under the same texts, -/
  keys : c.resources.keys = d.resources.keys
  /-- and have the same references, parameters, tags and places. -/
  resources : c.resources.values.map Resource.shown = d.resources.values.map Resource.shown
  edges : c.edges = d.edges

theorem parametersToJson_injective {ps qs : Table Value}
    (h : (ps.entries.map fun e => (e.1, e.2.toJson)) = qs.entries.map fun e => (e.1, e.2.toJson)) :
    ps = qs := by
  refine Table.ext (List.map_injective_iff.mpr ?_ h)
  intro e f hef
  obtain ⟨hkey, hvalue⟩ := Prod.mk.inj hef
  exact Prod.ext hkey (Value.toJson_injective hvalue)

/-- What is written of a resource tells everything that is shown of it. -/
theorem resourceToJson_eq_iff {r s : Resource} :
    resourceToJson r = resourceToJson s ↔ r.shown = s.shown := by
  refine ⟨fun h => ?_, fun h => ?_⟩
  · simp only [resourceToJson, Json.object.injEq, List.cons.injEq, Prod.mk.injEq,
      Json.string.injEq, Json.array.injEq, true_and, and_true] at h
    obtain ⟨htype, htitle, hparameters, htags, hlocation⟩ := h
    have hreference : r.reference = s.reference := by
      cases hr : r.reference
      rw [hr] at htype htitle
      cases hs : s.reference
      rw [hs] at htype htitle
      rw [Reference.mk.injEq]
      exact ⟨htype, htitle⟩
    have hlist : r.tags = s.tags :=
      OrderedSet.ext (List.map_injective_iff.mpr (fun _ _ => Json.string.inj) htags)
    rw [Resource.shown, Resource.shown, hreference, parametersToJson_injective hparameters, hlist,
      Location.toJson_injective hlocation]
  · have hshown : ∀ q : Resource, resourceToJson q = resourceToJson q.shown := fun _ => rfl
    rw [hshown r, h, ← hshown s]

theorem edgeToJson_injective {e f : Edge} (h : edgeToJson e = edgeToJson f) : e = f := by
  simp only [edgeToJson, Json.object.injEq, List.cons.injEq, Prod.mk.injEq, Json.string.injEq,
    true_and, and_true] at h
  obtain ⟨hsource, htarget, hkind⟩ := h
  cases e
  cases f
  rw [Edge.mk.injEq]
  exact ⟨Reference.toJson_injective hsource, Reference.toJson_injective htarget,
    EdgeKind.text_injective hkind⟩

/-- The resources of a catalog as they are written, under their texts. -/
theorem resourcesToJson_eq_iff {es fs : List (String × Resource)} :
    ((es.map fun e => (e.1, resourceToJson e.2)) = fs.map fun e => (e.1, resourceToJson e.2)) ↔
      es.map Prod.fst = fs.map Prod.fst ∧
        (es.map Prod.snd).map Resource.shown = (fs.map Prod.snd).map Resource.shown := by
  induction es generalizing fs with
  | nil => cases fs <;> simp
  | cons e es ih =>
    cases fs with
    | nil => simp
    | cons f fs =>
      simp only [List.map_cons, List.cons.injEq, Prod.mk.injEq, resourceToJson_eq_iff, ih]
      constructor
      · rintro ⟨⟨hkey, hfirst⟩, hkeys, hrest⟩
        exact ⟨⟨hkey, hkeys⟩, hfirst, hrest⟩
      · rintro ⟨⟨hkey, hkeys⟩, hfirst, hrest⟩
        exact ⟨⟨hkey, hfirst⟩, hkeys, hrest⟩

theorem toJson_eq_iff {c d : Catalog} : c.toJson = d.toJson ↔ c.SameContent d := by
  refine ⟨fun h => ?_, fun h => ?_⟩
  · simp only [toJson, Json.object.injEq, List.cons.injEq, Prod.mk.injEq, Json.string.injEq,
      Json.array.injEq, true_and, and_true] at h
    obtain ⟨hnode, henvironment, hversion, hresources, hedges⟩ := h
    obtain ⟨hkeys, hvalues⟩ := resourcesToJson_eq_iff.mp hresources
    exact ⟨hnode, henvironment, Version.toJson_injective hversion, hkeys, hvalues,
      OrderedSet.ext (List.map_injective_iff.mpr (fun _ _ => edgeToJson_injective) hedges)⟩
  · have hresources := resourcesToJson_eq_iff.mpr ⟨h.keys, h.resources⟩
    rw [toJson, toJson, h.node, h.environment, h.version, h.edges, hresources]

/-- Two catalogs have one written form exactly if they have the same content. -/
theorem text_eq_iff {c d : Catalog} : c.text = d.text ↔ c.SameContent d := by
  rw [← toJson_eq_iff]
  refine ⟨fun h => ?_, fun h => congrArg Json.pretty h⟩
  exact Json.chars_injective Json.Layout.isBlank_pretty c.isPlain_toJson d.isPlain_toJson
    (String.ofList_injective h)

/-- The written form of a catalog tells its content, and a value is read back from its own, in
either layout. -/
theorem written_faithfully :
    (∀ c d : Catalog, c.text = d.text ↔ c.SameContent d) ∧
      ∀ v : Value, v.HasSmallIntegers → v.depth ≤ Json.maxDepth →
        (Json.read? v.toJson.pretty).bind Value.ofJson? = some v ∧
          (Json.read? v.toJson.compact).bind Value.ofJson? = some v :=
  ⟨fun _ _ => text_eq_iff, fun _ h hdepth =>
    ⟨Value.ofJson?_chars Json.Layout.isBlank_pretty h hdepth,
      Value.ofJson?_chars Json.Layout.isBlank_compact h hdepth⟩⟩

/-- An array with a text that looks like a number, and must be escaped, a reference and a number of
64 bits. -/
theorem written_faithfully_sample :
    let v : Value := .array [.string "1\n\"é\x01", .absent, .array [],
      .reference ⟨"File", "\x7b\"title\"\x7d"⟩, .integer (-9223372036854775808)]
    (v.HasSmallIntegers ∧ v.depth ≤ Json.maxDepth) ∧
      (Json.read? v.toJson.pretty).bind Value.ofJson? = some v ∧
      (Json.read? v.toJson.compact).bind Value.ofJson? = some v := by
  intro v
  have hsmall : v.HasSmallIntegers := ⟨trivial, trivial, trivial, trivial,
    (by decide : Value.isInteger64 (-9223372036854775808) = true), trivial⟩
  have hdepth : v.depth ≤ Json.maxDepth := by decide
  exact ⟨⟨hsmall, hdepth⟩, written_faithfully.2 v hsmall hdepth⟩

end Catalog

end Manifest
