import Manifest.Proofs.Evaluation.ClassesOnce
import Manifest.Proofs.Evaluation.Variables
import Manifest.Proofs.Grammar.DefinedNames

/-!
# Including what a reference names

A reference to a class holds the full name of the class that was found where it was written, and the
class is evaluated by then.  Including or requiring the reference reads this name again in the scope
that includes it.  A name of several segments is found again as it is, and so is one of a single
segment, unless a namespace around the including scope has a class of that name: then the innermost
such class is meant, and not the one that the reference names.

## Main definitions

* `Collection.hiding?` — the class that a namespace has under the name of another one.
* `Acts` — including or requiring a value acts on a class.
* `ReadsBack` — what including or requiring a reference acts on.

## Main results

* `Collection.findClass?_of_defines` — which class the name of a class is found as.
* `refersTo_of_evaluateTitles` — what references are made of.
* `acts_of_reference` — what references to classes are read as in every scope.
-/

namespace Manifest

open Evaluation

variable {setting : Setting} {s s' t : EvalState} {scope : ScopeId} {c d : ClassDefinition}
  {name space title : String}

/-! ### Looking a name up again -/

namespace Collection

variable {collection : Collection}

/-- The class that is found under the name of another one further inside a namespace, if the name
has a single segment: the innermost one. -/
def hiding? (collection : Collection) (space : String) (c : ClassDefinition) :
    Option ClassDefinition :=
  if Name.isQualified c.name then none
  else (Name.namespaces (Text.lower space)).findSome? fun outer =>
    (collection.definitions.get? (Name.join outer c.name)).bind Definition.asClass?

theorem asClass?_of_defines (h : collection.Defines c) :
    (collection.definitions.get? c.name).bind Definition.asClass? = some c := by
  rw [h]
  rfl

/-- The name of a class is found as the class, if none hides it. -/
theorem findClass?_of_defines (h : collection.Defines c) (hname : Name.IsCanonical c.name)
    (htitle : Text.lower title = c.name) (space : String) :
    collection.findClass? title space = some ((collection.hiding? space c).getD c) := by
  rw [findClass?, find?, htitle, fullNames, hname.absolute?_eq_none, hiding?]
  by_cases hqualified : Name.isQualified c.name = true
  · simp only [if_pos hqualified, List.findSome?_cons, asClass?_of_defines h]
    rfl
  · simp only [if_neg hqualified, Name.candidates, List.findSome?_append, List.findSome?_map,
      List.findSome?_cons, asClass?_of_defines h, Function.comp_def]
    cases List.findSome? _ (Name.namespaces (Text.lower space)) <;> rfl

/-- A class that hides another one is inside a namespace that ends with the name of that one. -/
theorem exists_of_hiding? (h : collection.hiding? space c = some d) :
    collection.Defines d ∧
      ∃ outer ∈ Name.namespaces (Text.lower space), d.name = Name.join outer c.name := by
  unfold hiding? at h
  split at h
  · cases h
  · obtain ⟨outer, houter, hget⟩ := List.exists_of_findSome?_eq_some h
    obtain ⟨definition, hdefinition, hclass⟩ := Option.bind_eq_some_iff.mp hget
    cases definition with
    | ofDefine e => cases hclass
    | ofClass e =>
      cases hclass
      have hname : Name.join outer c.name = d.name :=
        collection.named _ (Table.mem_of_get? hdefinition)
      refine ⟨?_, outer, houter, hname.symm⟩
      rw [Defines, ← hname, hdefinition]

/-- It is another class than the hidden one, whose name is shorter. -/
theorem ne_of_hiding? (h : collection.hiding? space c = some d) : d ≠ c := by
  obtain ⟨-, outer, houter, hname⟩ := exists_of_hiding? h
  rintro rfl
  have hne : outer ≠ "" := Name.ne_empty_of_mem_namespaces houter
  rw [Name.join, if_neg hne] at hname
  have hlength := congrArg String.length hname
  rw [String.length_append, String.length_append] at hlength
  have hseparator : Name.separator.length = 2 := rfl
  omega

end Collection

/-! ### The name in a reference -/

theorem Reference.title_ofClass (name : String) :
    (Reference.ofClass name).isClass = true ∧
      (Reference.ofClass name).title = Name.capitalize name := by
  have htype : Name.capitalize Reference.classType = Reference.classType := by decide +kernel
  constructor
  · rw [Reference.isClass, Reference.ofClass, Reference.of, htype]
    rfl
  · rw [Reference.ofClass, Reference.of, htype, if_pos rfl]

/-- What the name in a reference to a class is found as. -/
theorem findClass?_className (hread : setting.collection.IsRead)
    (hc : setting.collection.Defines c) (space : String) :
    setting.collection.findClass? (className (.reference (.ofClass c.name))) space =
      some ((setting.collection.hiding? space c).getD c) := by
  obtain ⟨hclass, htitle⟩ := Reference.title_ofClass c.name
  have hname : Name.IsCanonical c.name :=
    hread.isCanonical _ (Table.get?_eq_some_iff.mp hc)
  refine Collection.findClass?_of_defines hc hname ?_ space
  rw [className, hclass, if_pos rfl, htitle, hname.lower_capitalize]

/-! ### Including and requiring a value -/

/-- Including or requiring a value in a scope acts on a class: it is evaluated unless it was
evaluated before, and requiring also applies it before the owner of the scope. -/
structure Acts (setting : Setting) (scope : ScopeId) (u : Value) (c : ClassDefinition)
    (s : EvalState) : Prop where
  included : ∀ limit e location s',
    evaluate setting (enter setting limit) scope e s = .ok u s' →
      evaluate setting (enter setting limit) scope (.call "include" [e] location) s =
        (do
          let _ ← evaluateClass (enter setting limit) c none scope location
          return .absent : Eval Value) s'
  required : ∀ limit e location s',
    evaluate setting (enter setting limit) scope e s = .ok u s' →
      evaluate setting (enter setting limit) scope (.call "require" [e] location) s =
        (do
          let _ ← evaluateClass (enter setting limit) c none scope location
          relate ⟨.ofClass c.name, (← get).scopes.owner scope, .before, location⟩
          return .absent : Eval Value) s'

theorem includeClass_of_findClass? {enter : Enter}
    (h : setting.collection.findClass? name (s.scopes.space scope) = some c)
    (location : Location) :
    includeClass setting enter scope location name s =
      (do
        let _ ← evaluateClass enter c none scope location
        return c : Eval ClassDefinition) s := by
  rw [includeClass, bind_apply, resolveClass_apply, h]

theorem evaluateAll_singleton {enter : Enter} {e : Expr} {u : Value}
    (h : evaluate setting enter scope e s = .ok u s') :
    evaluateAll setting enter scope [e] s = .ok [u] s' := by
  rw [evaluateAll, bind_apply, h]
  rfl

/-- A value acts on the class that its name is found as. -/
theorem acts_of_findClass? {r : Reference} (hs : Reachable setting s)
    (hscope : scope < s.scopes.size)
    (h : setting.collection.findClass? (className (.reference r)) (s.scopes.space scope) = some c) :
    Acts setting scope (.reference r) c s := by
  have hfind : ∀ {limit : Nat} {e : Expr} {s' : EvalState},
      evaluate setting (enter setting limit) scope e s = .ok (.reference r) s' →
        setting.collection.findClass? (className (.reference r)) (s'.scopes.space scope) =
          some c := by
    intro limit e s' he
    have hends := endsByStep_of_couples
      (((entersByStep_enter setting limit).simulation hs hscope).evaluate e)
    rw [he] at hends
    rw [hends.1.space_eq hscope]
    exact h
  refine ⟨fun limit e location s' he => ?_, fun limit e location s' he => ?_⟩
  · have hname : Function.ofName? "include" = some .includeClasses := by decide
    rw [evaluate, hname]
    simp only [bind_apply, evaluateAll_singleton he, apply, classNames, List.flatMap_singleton,
      Value.flatten, List.map_singleton, forM_cons_apply,
      includeClass_of_findClass? (hfind he) location]
    cases evaluateClass (enter setting limit) c none scope location s' <;> rfl
  · have hname : Function.ofName? "require" = some .requireClasses := by decide
    rw [evaluate, hname]
    simp only [bind_apply, evaluateAll_singleton he, apply, classNames, List.flatMap_singleton,
      Value.flatten, List.map_singleton, forM_cons_apply, requireClass,
      includeClass_of_findClass? (hfind he) location]
    cases evaluateClass (enter setting limit) c none scope location s' <;> rfl

/-! ### What references are made of -/

/-- The reference for a title in a namespace: it holds the name of the class that the title stands
for, which has a scope, or else the title. -/
def RefersTo (setting : Setting) (space title : String) (s : EvalState) (r : Reference) : Prop :=
  match setting.collection.findClass? title space with
  | some c => r = .ofClass c.name ∧ (s.classScopes.get? c.name).isSome
  | none => r = .ofClass title

theorem RefersTo.of_steps {r : Reference} (h : RefersTo setting space title s r)
    (hs : Steps setting s s') : RefersTo setting space title s' r := by
  unfold RefersTo at h ⊢
  cases hfind : setting.collection.findClass? title space with
  | none =>
    rw [hfind] at h
    exact h
  | some c =>
    rw [hfind] at h
    obtain ⟨id, hid⟩ := Option.isSome_iff_exists.mp h.2
    exact ⟨h.1, Option.isSome_iff_exists.mpr ⟨id, hs.classScopes hid⟩⟩

/-- One of the expressions has a value, an element of which has this text. -/
def IsTitle (setting : Setting) (limit : Nat) (scope : ScopeId) (titles : List Expr)
    (title : String) : Prop :=
  ∃ e ∈ titles, ∃ s v s', evaluate setting (enter setting limit) scope e s = .ok v s' ∧
    ∃ u ∈ v.flatten, title = u.text

section Titles

variable {limit : Nat} {type : String} (htype : Text.lower type = "class")
include htype

theorem refersTo_of_referTo {r : Reference} {location : Location} (hs : Reachable setting s)
    (hscope : scope < s.scopes.size)
    (h : referTo setting (enter setting limit) scope type location title s = .ok r s') :
    Steps setting s s' ∧ RefersTo setting (s.scopes.space scope) title s' r := by
  unfold RefersTo
  rw [referTo, get_bind_apply, if_pos htype] at h
  cases hfind : setting.collection.findClass? title (s.scopes.space scope) with
  | none =>
    rw [hfind] at h
    cases h
    exact ⟨.refl, rfl⟩
  | some c =>
    rw [hfind] at h
    obtain ⟨id, s₁, hclass, hrest⟩ := bind_eq_ok h
    cases hrest
    obtain ⟨hsteps, hisSome⟩ :=
      isSome_of_evaluateClass hs (Collection.defines_of_findClass? hfind) hscope hclass
    exact ⟨hsteps, rfl, hisSome⟩

theorem refersTo_of_mapM {location : Location} : ∀ {vs : List Value} {rs : List Reference}
    {s s' : EvalState}, Reachable setting s → scope < s.scopes.size →
      (vs.mapM fun v => referTo setting (enter setting limit) scope type location v.text) s =
        .ok rs s' →
      Steps setting s s' ∧
        ∀ r ∈ rs, ∃ v ∈ vs, RefersTo setting (s.scopes.space scope) v.text s' r
  | [], _, _, _, _, _, h => by
    rw [List.mapM_nil] at h
    cases h
    exact ⟨.refl, fun _ hr => absurd hr List.not_mem_nil⟩
  | v :: vs, _, s, s', hs, hscope, h => by
    rw [List.mapM_cons] at h
    obtain ⟨r, s₁, hr, hrest⟩ := bind_eq_ok h
    obtain ⟨rs, s₂, hrs, heq⟩ := bind_eq_ok hrest
    cases heq
    obtain ⟨hsteps, hrefers⟩ := refersTo_of_referTo htype hs hscope hr
    obtain ⟨hmore, hall⟩ := refersTo_of_mapM (hs.trans hsteps)
      (Nat.lt_of_lt_of_le hscope hsteps.size_le) hrs
    rw [hsteps.space_eq hscope] at hall
    refine ⟨hsteps.trans hmore, List.forall_mem_cons.mpr
      ⟨⟨v, List.mem_cons_self, hrefers.of_steps hmore⟩, fun r hr => ?_⟩⟩
    obtain ⟨u, hu, hrefers⟩ := hall r hr
    exact ⟨u, List.mem_cons_of_mem v hu, hrefers⟩

/-- Every reference is made where the titles are evaluated. -/
theorem refersTo_of_evaluateTitles : ∀ {titles : List Expr} {rs : List Reference}
    {s s' : EvalState}, Reachable setting s → scope < s.scopes.size →
      evaluateTitles setting (enter setting limit) scope type titles s = .ok rs s' →
      Steps setting s s' ∧ ∀ r ∈ rs, ∃ title, IsTitle setting limit scope titles title ∧
        RefersTo setting (s.scopes.space scope) title s' r
  | [], _, _, _, _, _, h => by
    rw [evaluateTitles] at h
    cases h
    exact ⟨.refl, fun _ hr => absurd hr List.not_mem_nil⟩
  | e :: titles, _, s, s', hs, hscope, h => by
    rw [evaluateTitles] at h
    obtain ⟨v, s₁, hv, hrest⟩ := bind_eq_ok h
    obtain ⟨first, s₂, hfirst, hrest⟩ := bind_eq_ok hrest
    obtain ⟨more, s₃, hmore, heq⟩ := bind_eq_ok hrest
    cases heq
    have hends := endsByStep_of_couples
      (((entersByStep_enter setting limit).simulation hs hscope).evaluate e)
    rw [hv] at hends
    have hsteps₁ : Steps setting s s₁ := hends.1
    have hscope₁ := Nat.lt_of_lt_of_le hscope hsteps₁.size_le
    obtain ⟨hsteps₂, hrefers⟩ := refersTo_of_mapM htype (hs.trans hsteps₁) hscope₁ hfirst
    obtain ⟨hsteps₃, hall⟩ := refersTo_of_evaluateTitles
      ((hs.trans hsteps₁).trans hsteps₂) (Nat.lt_of_lt_of_le hscope₁ hsteps₂.size_le) hmore
    -- The scope looks for all titles in one namespace.
    rw [hsteps₁.space_eq hscope] at hrefers
    rw [hsteps₂.space_eq hscope₁, hsteps₁.space_eq hscope] at hall
    refine ⟨(hsteps₁.trans hsteps₂).trans hsteps₃,
      List.forall_mem_append.mpr ⟨fun r hr => ?_, fun r hr => ?_⟩⟩
    · obtain ⟨u, hu, hrefers⟩ := hrefers r hr
      exact ⟨u.text, ⟨e, List.mem_cons_self, s, v, s₁, hv, u, hu, rfl⟩, hrefers.of_steps hsteps₃⟩
    · obtain ⟨title, ⟨e', he', hvalue⟩, hrefers⟩ := hall r hr
      exact ⟨title, ⟨e', List.mem_cons_of_mem e he', hvalue⟩, hrefers⟩

end Titles

theorem flatten_referenceValue : ∀ rs : List Reference,
    (referenceValue rs).flatten = rs.map .reference
  | [r] => rfl
  | [] => rfl
  | r :: r' :: rs => by
    have hall : ∀ rs : List Reference,
        Value.flattenAll (rs.map .reference) = rs.map .reference := by
      intro rs
      induction rs with
      | nil => rfl
      | cons r rs ih => rw [List.map_cons, Value.flattenAll, ih]; rfl
    exact hall _

/-! ### References in other scopes -/

/-- What including or requiring a reference to a class acts on in a scope. -/
structure ReadsBack (setting : Setting) (c : ClassDefinition) (scope : ScopeId)
    (s : EvalState) : Prop where
  /-- The class has a scope, so that it is not evaluated again. -/
  evaluated : (s.classScopes.get? c.name).isSome
  /-- It is the class itself, if none hides it. -/
  itself : setting.collection.hiding? (s.scopes.space scope) c = none →
    Acts setting scope (.reference (.ofClass c.name)) c s
  /-- Or else it is the class that hides it. -/
  other : ∀ d, setting.collection.hiding? (s.scopes.space scope) c = some d →
    d ≠ c ∧ Acts setting scope (.reference (.ofClass c.name)) d s

theorem readsBack (hread : setting.collection.IsRead) (hs : Reachable setting s)
    (hscope : scope < s.scopes.size) (hc : setting.collection.Defines c)
    (hevaluated : (s.classScopes.get? c.name).isSome) : ReadsBack setting c scope s := by
  have hfind := findClass?_className hread hc (s.scopes.space scope)
  refine ⟨hevaluated, fun hnone => ?_, fun d hd => ⟨Collection.ne_of_hiding? hd, ?_⟩⟩
  · rw [hnone] at hfind
    exact acts_of_findClass? hs hscope hfind
  · rw [hd] at hfind
    exact acts_of_findClass? hs hscope hfind

/-- A reference holds the class that its title was found as, and including or requiring it from any
scope at any later time acts on this class, unless a class of the same simple name hides it from
that scope. -/
theorem acts_of_reference (hread : setting.collection.IsRead) (hs : Reachable setting s)
    (hscope : scope < s.scopes.size) {limit : Nat} {type : String} {titles : List Expr}
    {location : Location} {v : Value} (htype : Text.lower type = "class")
    (hv : evaluate setting (enter setting limit) scope (.reference type titles location) s =
      .ok v s') :
    ∀ u ∈ v.flatten, ∃ title, IsTitle setting limit scope titles title ∧
      match setting.collection.findClass? title (s.scopes.space scope) with
      | some c => u = .reference (.ofClass c.name) ∧
        ∀ later, Steps setting s' later → ∀ reader < later.scopes.size,
          ReadsBack setting c reader later
      | none => u = .reference (.ofClass title) := by
  rw [evaluate] at hv
  obtain ⟨rs, s₁, hrs, heq⟩ := bind_eq_ok hv
  cases heq
  obtain ⟨hsteps, hall⟩ := refersTo_of_evaluateTitles htype hs hscope hrs
  rw [flatten_referenceValue]
  intro u hu
  obtain ⟨r, hr, rfl⟩ := List.mem_map.mp hu
  obtain ⟨title, htitle, hrefers⟩ := hall r hr
  refine ⟨title, htitle, ?_⟩
  unfold RefersTo at hrefers
  -- What a title stands for is settled in the scope in which the reference is evaluated.
  cases hfind : setting.collection.findClass? title (s.scopes.space scope) with
  | none =>
    rw [hfind] at hrefers
    exact congrArg Value.reference hrefers
  | some c =>
    rw [hfind] at hrefers
    refine ⟨congrArg Value.reference hrefers.1, fun later hlater reader hreader => ?_⟩
    obtain ⟨id, hid⟩ := Option.isSome_iff_exists.mp hrefers.2
    exact readsBack hread ((hs.trans hsteps).trans hlater) hreader
      (Collection.defines_of_findClass? hfind)
      (Option.isSome_iff_exists.mpr ⟨id, hlater.classScopes hid⟩)

/-! #### A class that is hidden inside another one -/

namespace Sample

/-- A class `foo`, and a class `bar` with a class of the same simple name inside. -/
def namesakesText : String :=
  "class foo \x7b notify \x7b 'outer': \x7d \x7d " ++
  "class bar \x7b class foo \x7b notify \x7b 'inner': \x7d \x7d include $::c \x7d " ++
  "$c = Class['foo'] include bar"

/-- The definitions in this text. -/
def namesakes : Collection := (collectionOf namesakesText).toOption.getD .empty

/-- The reference in this text, evaluated at the beginning. -/
def referring : EStateM.Result EvalError EvalState Value :=
  evaluate (settingOf namesakes) (enter (settingOf namesakes) 2) ScopeArena.top
    (.reference "Class" [.string "foo" first] first) (EvalState.start (settingOf namesakes))

/-- What a computation answers. -/
def answer? {α : Type} : EStateM.Result EvalError EvalState α → Option α
  | .ok a _ => some a
  | .error _ _ => none

theorem isRead_settingOf {collection : Collection} (h : collection.IsRead) :
    (settingOf collection).collection.IsRead := h

/-- What a title stands for in the top scope. -/
theorem findClass?_settingOf (collection : Collection) (title : String) :
    (settingOf collection).collection.findClass? title
        ((EvalState.start (settingOf collection)).scopes.space ScopeArena.top) =
      collection.findClass? title "" := rfl

theorem isRead_namesakes : namesakes.IsRead := by
  have hdone : (collectionOf namesakesText).toOption.isSome = true := by decide +kernel
  cases hread : collectionOf namesakesText with
  | error e =>
    rw [hread] at hdone
    cases hdone
  | ok collection =>
    rw [namesakes, hread]
    exact Collection.isRead_of_ofSources hread

end Sample

/-- The class `foo` from the top scope. -/
theorem acts_of_reference_sample :
    (Sample.settingOf Sample.namesakes).collection.IsRead ∧
      Reachable (Sample.settingOf Sample.namesakes)
        (EvalState.start (Sample.settingOf Sample.namesakes)) ∧
      ScopeArena.top < (EvalState.start (Sample.settingOf Sample.namesakes)).scopes.size ∧
      Text.lower "Class" = "class" ∧
      ∃ c s', Sample.referring = .ok (.reference (.ofClass c.name)) s' ∧ c.name = "foo" ∧
        ReadsBack (Sample.settingOf Sample.namesakes) c ScopeArena.top s' := by
  have hread : (Sample.settingOf Sample.namesakes).collection.IsRead :=
    Sample.isRead_settingOf Sample.isRead_namesakes
  have htop : ScopeArena.top < (EvalState.start (Sample.settingOf Sample.namesakes)).scopes.size :=
    Nat.one_pos
  have htype : Text.lower "Class" = "class" := by decide +kernel
  refine ⟨hread, .start _, htop, htype, ?_⟩
  have hanswer : Sample.answer? Sample.referring = some (.reference (.ofClass "foo")) := by
    decide +kernel
  have hname : (Sample.namesakes.findClass? "foo" "").map (fun c => c.name) = some "foo" := by
    decide +kernel
  obtain ⟨c, hfind, hc⟩ := Option.map_eq_some_iff.mp hname
  cases hv : Sample.referring with
  | error e s' =>
    rw [hv] at hanswer
    cases hanswer
  | ok v s' =>
    rw [hv] at hanswer
    cases hanswer
    obtain ⟨title, ⟨e, he, _, w, _, hw, x, hx, rfl⟩, hacts⟩ :=
      acts_of_reference hread (.start _) htop htype hv _ List.mem_cons_self
    cases List.mem_singleton.mp he
    cases hw
    cases List.mem_singleton.mp hx
    rw [Sample.findClass?_settingOf, Value.text, hfind] at hacts
    have htop' : ScopeArena.top < s'.scopes.size := by
      have hsize : (Sample.finalState Sample.referring).scopes.size = 2 := by decide +kernel
      rw [hv] at hsize
      exact hsize.symm ▸ Nat.two_pos
    exact ⟨c, s', by rw [hc], hc, hacts.2 s' .refl ScopeArena.top htop'⟩

/-- In the class `bar` the reference to the class `foo` is read as its own class `bar::foo`. -/
theorem reference_misread :
    Sample.answer? Sample.referring = some (.reference (.ofClass "foo")) ∧
      (Sample.catalogOf Sample.namesakesText).map (fun c => c.toOption.map fun c =>
        (c.contains (.ofClass "foo"), c.contains (.ofClass "bar::foo"))) =
          some (some (true, true)) := by
  constructor <;> decide +kernel

end Manifest
