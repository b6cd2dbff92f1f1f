import Manifest.Proofs.Evaluation.ClassReferences
import Manifest.Proofs.Evaluation.Persistence

/-!
# References to what was just declared

A declaration and a reference look the name of their type up on ways of their own, and each makes
the references to resources of what it has found.  Both ways end at the same references: the case of
a name matters to neither of them, the scope looks for defines and classes in one namespace, and a
class that was declared has its scope when it is referred to.

## Main definitions

* `DeclaresTitle` — a resource is declared for a title.
* `DeclaresBodies` — what a declaration with several bodies and titles does, one after the other.
* `Setting.referenceFor` — the reference for a type and a title in a namespace.

## Main results

* `exists_declaresBodies` — a declaration that succeeds has done this.
* `DeclaresBodies.references` — its references come into the catalog in its order.
* `reference_of_declared` — a reference with the same type and titles answers these references.
-/

namespace Manifest

open Evaluation

variable {setting : Setting} {enter : Enter} {limit : Nat} {scope : ScopeId} {type name : String}
  {base s s' s₁ s₂ : EvalState} {given : Table Value} {location : Location} {title : String}
  {titles : List String} {bodies : List ResourceBody} {r : Reference} {rs : List Reference}

/-! ### Types of declarations -/

/-- The type that a name stands for in a declaration: a define or else a registered type. -/
def Setting.declaredType? (setting : Setting) (name space : String) : Option DeclaredType :=
  match setting.collection.findDefine? name space with
  | some d => some (.define d)
  | none => if setting.registry.contains name then some (.registered name) else none

theorem resolveType_eq_ok_iff {type : DeclaredType} :
    resolveType setting scope name location s = .ok type s' ↔
      s' = s ∧ setting.declaredType? name (s.scopes.space scope) = some type := by
  rw [resolveType_apply, Setting.declaredType?]
  cases setting.collection.findDefine? name (s.scopes.space scope) with
  | some d => simp [and_comm, eq_comm]
  | none =>
    cases setting.registry.contains name with
    | true => simp [and_comm, eq_comm]
    | false => simp

theorem Setting.knows_of_declaredType? {type : DeclaredType} {space : String}
    (h : setting.declaredType? name space = some type) : setting.Knows type := by
  unfold declaredType? at h
  split at h
  · next d hd =>
    cases h
    exact Collection.hasDefine_of_findDefine? hd
  · split at h <;> cases h
    next hname => exact hname

/-! ### Declarations, title by title -/

/-- A resource is declared for a title in a scope, and this is its reference. -/
inductive DeclaresTitle (setting : Setting) (enter : Enter) (scope : ScopeId) (name : String)
    (given : Table Value) (location : Location) (title : String) :
    Reference → EvalState → EvalState → Prop
  /-- A class that is declared like a resource. -/
  | ofClass {c : ClassDefinition} {s s' : EvalState} (isClass : name = "class")
    (found : setting.collection.findClass? title (s.scopes.space scope) = some c)
    (declared : declareClass setting enter scope given location title s = .ok () s') :
    DeclaresTitle setting enter scope name given location title (.ofClass c.name) s s'
  /-- A resource of a registered type, or an instance of a define with all that is in it. -/
  | ofType {type : DeclaredType} {s s' : EvalState} (isType : name ≠ "class")
    (found : setting.declaredType? name (s.scopes.space scope) = some type)
    (declared : declareResource enter scope type given location title s = .ok () s') :
    DeclaresTitle setting enter scope name given location title (.of type.name title) s s'

/-- Resources are declared for titles one after the other. -/
inductive DeclaresTitles (setting : Setting) (enter : Enter) (scope : ScopeId) (name : String)
    (given : Table Value) (location : Location) :
    List String → List Reference → EvalState → EvalState → Prop
  | nil (s : EvalState) : DeclaresTitles setting enter scope name given location [] [] s s
  | cons {title : String} {titles : List String} {r : Reference} {rs : List Reference}
    {s s₁ s₂ : EvalState}
    (first : DeclaresTitle setting enter scope name given location title r s s₁)
    (rest : DeclaresTitles setting enter scope name given location titles rs s₁ s₂) :
    DeclaresTitles setting enter scope name given location (title :: titles) (r :: rs) s s₂

/-- Resources are declared for all titles of bodies: for each body its attributes and its title are
evaluated first. -/
inductive DeclaresBodies (setting : Setting) (enter : Enter) (scope : ScopeId) (name : String) :
    List ResourceBody → List String → List Reference → EvalState → EvalState → Prop
  | nil (s : EvalState) : DeclaresBodies setting enter scope name [] [] [] s s
  | cons {body : ResourceBody} {bodies : List ResourceBody} {given : Table Value}
    {titles more : List String} {rs others : List Reference} {s s₁ s₂ s₃ s₄ : EvalState}
    (attributes : evaluateAttributes setting enter scope body.attributes s = .ok given s₁)
    (title : evaluateTitle setting enter scope body.title s₁ = .ok titles s₂)
    (declared : DeclaresTitles setting enter scope name given body.location titles rs s₂ s₃)
    (rest : DeclaresBodies setting enter scope name bodies more others s₃ s₄) :
    DeclaresBodies setting enter scope name (body :: bodies) (titles ++ more) (rs ++ others) s s₄

/-! #### Declaring goes by steps -/

theorem DeclaresTitle.steps (hs : Reachable setting s) (hscope : scope < s.scopes.size)
    (h : DeclaresTitle setting (Evaluation.enter setting limit) scope name given location title r
      s s') : Steps setting s s' := by
  have sim := (entersByStep_enter setting limit).simulation hs hscope
  cases h with
  | ofClass isClass found declared =>
    refine steps_of_couples ?_ declared
    exact sim.resolveClass_bind title location fun c hc =>
      (sim.evaluateClass hc (some given) location).bind fun _ => .pure _ _
  | ofType isType found declared =>
    exact steps_of_couples (sim.declareResource (Setting.knows_of_declaredType? found)
      (fun _ _ => trivial) given location title) declared

theorem DeclaresTitles.steps (hs : Reachable setting s) (hscope : scope < s.scopes.size)
    (h : DeclaresTitles setting (Evaluation.enter setting limit) scope name given location titles
      rs s s') : Steps setting s s' := by
  induction h with
  | nil s => exact .refl
  | cons first _ ih =>
    have hsteps := first.steps hs hscope
    exact hsteps.trans (ih (hs.trans hsteps) (Nat.lt_of_lt_of_le hscope hsteps.size_le))

/-! #### What succeeds has declared -/

/-- The attributes and the title of a body are evaluated by steps. -/
theorem steps_of_evaluated {body : ResourceBody} (hs : Reachable setting s)
    (hscope : scope < s.scopes.size)
    (attributes : evaluateAttributes setting (Evaluation.enter setting limit) scope body.attributes
      s = .ok given s₁)
    (title : evaluateTitle setting (Evaluation.enter setting limit) scope body.title s₁ =
      .ok titles s₂) : Steps setting s s₂ ∧ scope < s₂.scopes.size := by
  have hsim := entersByStep_enter setting limit
  have hsteps₁ := steps_of_couples
    ((hsim.simulation hs hscope).evaluateAttributes body.attributes) attributes
  have hscope₁ := Nat.lt_of_lt_of_le hscope hsteps₁.size_le
  have hsteps₂ := steps_of_couples
    ((hsim.simulation (hs.trans hsteps₁) hscope₁).evaluateTitle body.title) title
  exact ⟨hsteps₁.trans hsteps₂, Nat.lt_of_lt_of_le hscope₁ hsteps₂.size_le⟩

/-- Declaring titles one after the other, if declaring a single one always declares it. -/
theorem exists_declaresTitles {f : String → Eval PUnit} (hb : Reachable setting base)
    (hscope : scope < base.scopes.size)
    (hf : ∀ title s s', Steps setting base s → f title s = .ok () s' →
      ∃ r, DeclaresTitle setting (Evaluation.enter setting limit) scope name given location title r
        s s') :
    ∀ {titles : List String} {s s' : EvalState}, Steps setting base s →
      (titles.forM f : Eval PUnit) s = .ok () s' →
      ∃ rs, DeclaresTitles setting (Evaluation.enter setting limit) scope name given location titles
        rs s s'
  | [], _, _, _, h => by
    cases h
    exact ⟨[], .nil _⟩
  | title :: titles, s, s', hs, h => by
    obtain ⟨_, s₁, hfirst, hrest⟩ := bind_eq_ok h
    obtain ⟨r, hr⟩ := hf title s s₁ hs hfirst
    have hsteps := hr.steps (hb.trans hs) (Nat.lt_of_lt_of_le hscope hs.size_le)
    obtain ⟨rs, hrs⟩ := exists_declaresTitles hb hscope hf (hs.trans hsteps) hrest
    exact ⟨r :: rs, .cons hr hrs⟩

/-- Declaring bodies one after the other, if each title of a body is declared. -/
theorem exists_declaresBodies_of_forM {f : ResourceBody → Table Value → String → Eval PUnit}
    (hb : Reachable setting base) (hscope : scope < base.scopes.size)
    (hf : ∀ body given title s s', Steps setting base s → f body given title s = .ok () s' →
      ∃ r, DeclaresTitle setting (Evaluation.enter setting limit) scope name given body.location
        title r s s') :
    ∀ {bodies : List ResourceBody} {s s' : EvalState}, Steps setting base s →
      (bodies.forM fun body => do
        let given ←
          evaluateAttributes setting (Evaluation.enter setting limit) scope body.attributes
        (← evaluateTitle setting (Evaluation.enter setting limit) scope body.title).forM
          (f body given) : Eval PUnit) s = .ok () s' →
      ∃ titles rs, DeclaresBodies setting (Evaluation.enter setting limit) scope name bodies titles
        rs s s'
  | [], _, _, _, h => by
    cases h
    exact ⟨[], [], .nil _⟩
  | body :: bodies, s, s', hs, h => by
    obtain ⟨_, s₃, hbody, hrest⟩ := bind_eq_ok h
    obtain ⟨given, s₁, hgiven, hbody⟩ := bind_eq_ok hbody
    obtain ⟨titles, s₂, htitle, htitles⟩ := bind_eq_ok hbody
    obtain ⟨hsteps₂, hscope₂⟩ :=
      steps_of_evaluated (hb.trans hs) (Nat.lt_of_lt_of_le hscope hs.size_le) hgiven htitle
    have hs₂ := hs.trans hsteps₂
    obtain ⟨rs, hrs⟩ := exists_declaresTitles hb hscope (hf body given) hs₂ htitles
    have hs₃ := hs₂.trans (hrs.steps (hb.trans hs₂) hscope₂)
    obtain ⟨more, others, hmore⟩ := exists_declaresBodies_of_forM hb hscope hf hs₃ hrest
    exact ⟨titles ++ more, rs ++ others, .cons hgiven htitle hrs hmore⟩

/-- A declaration that succeeds has declared a resource for each title of its bodies. -/
theorem exists_declaresBodies (hs : Reachable setting s) (hscope : scope < s.scopes.size)
    (h : execute setting (Evaluation.enter setting limit) scope (.resource name bodies location) s =
      .ok () s') :
    ∃ titles rs, DeclaresBodies setting (Evaluation.enter setting limit) scope name bodies titles rs
      s s' := by
  rw [execute, declare] at h
  by_cases hclass : name = "class"
  · rw [if_pos hclass] at h
    refine exists_declaresBodies_of_forM hs hscope (fun body given title t t' _ hdeclared => ?_)
      .refl h
    obtain ⟨c, t₁, hresolve, -⟩ := bind_eq_ok hdeclared
    rw [resolveClass_apply] at hresolve
    cases hfind : setting.collection.findClass? title (t.scopes.space scope) with
    | none =>
      rw [hfind] at hresolve
      cases hresolve
    | some c => exact ⟨.ofClass c.name, .ofClass hclass hfind hdeclared⟩
  · rw [if_neg hclass] at h
    obtain ⟨type, s₁, hresolve, hbodies⟩ := bind_eq_ok h
    obtain ⟨rfl, hfound⟩ := resolveType_eq_ok_iff.mp hresolve
    refine exists_declaresBodies_of_forM hs hscope (fun body given title t t' ht hdeclared => ?_)
      .refl hbodies
    -- The scope looks the name up where it did before.
    rw [← ht.space_eq hscope] at hfound
    exact ⟨.of type.name title, .ofType hclass hfound hdeclared⟩

/-! ### The references in the catalog -/

/-- A class that is declared like a resource is opened with what it is given. -/
theorem exists_of_declareClass {c : ClassDefinition} (hs : Reachable setting s)
    (hscope : scope < s.scopes.size)
    (found : setting.collection.findClass? title (s.scopes.space scope) = some c)
    (declared : declareClass setting (Evaluation.enter setting limit) scope given location title s =
      .ok () s') :
    ∃ parent id s₁ s₂, openClass c given parent scope location s₁ = .ok id s₂ ∧
      Steps setting s s₁ ∧ Steps setting s₂ s' := by
  obtain ⟨c', s₁, hresolve, hrest⟩ := bind_eq_ok declared
  rw [resolveClass_apply, found] at hresolve
  cases hresolve
  obtain ⟨id, s₂, hclass, hrest⟩ := bind_eq_ok hrest
  cases hrest
  rw [evaluateClass_apply] at hclass
  cases hnew : s.classScopes.get? c.name with
  | some id =>
    rw [hnew] at hclass
    cases hclass
  | none =>
    rw [hnew] at hclass
    cases limit with
    | zero => cases hclass
    | succ limit =>
      obtain ⟨parent, s₁, s₂, -, hopen, hsteps₁, -, hsteps₂⟩ :=
        exists_of_enterClass (entersByStep_enter setting limit) hs
          (Collection.defines_of_findClass? found) hnew hscope hclass
      exact ⟨parent, id, s₁, s₂, hopen, hsteps₁, hsteps₂⟩

/-- The reference of what is declared comes into the catalog. -/
theorem DeclaresTitle.references (hs : Reachable setting s) (hscope : scope < s.scopes.size)
    (h : DeclaresTitle setting (Evaluation.enter setting limit) scope name given location title r
      s s') :
    ∃ added, s'.catalog.references = s.catalog.references ++ added ∧ r ∈ added := by
  cases h with
  | @ofClass c _ _ isClass found declared =>
    obtain ⟨parent, id, s₁, s₂, hopen, hsteps₁, hsteps₂⟩ :=
      exists_of_declareClass hs hscope found declared
    -- The class that it inherits from has come in before.
    obtain ⟨first, hfirst⟩ := hsteps₁.references
    obtain ⟨last, hlast⟩ := hsteps₂.references
    have hplace : s₂.catalog.references = s₁.catalog.references ++ [.ofClass c.name] :=
      references_of_place (openClass_eq_ok hopen).2
    refine ⟨first ++ [.ofClass c.name] ++ last, ?_,
      List.mem_append_left _ (List.mem_append_right _ List.mem_cons_self)⟩
    rw [← hlast, hplace, ← hfirst]
    simp only [List.append_assoc]
  | @ofType type _ _ isType found declared =>
    obtain ⟨_, s₁, hplace, hrest⟩ := bind_eq_ok declared
    have hfirst := references_of_place hplace
    have hs₁ : Steps setting s s₁ := steps_of_couples
      (((entersByStep_enter setting limit).simulation hs hscope).place
        (.ofType (Setting.knows_of_declaredType? found) given scope location title)) hplace
    have hlast : s₁.catalog.references <+: s'.catalog.references := by
      cases type with
      | registered name =>
        cases hrest
        exact List.prefix_rfl
      | define d =>
        obtain ⟨id, s₂, henter, hrest⟩ := bind_eq_ok hrest
        cases hrest
        have hends := entersByStep_enter setting limit
          (.ofDefine d (.of d.name title) given location) s₁ (hs.trans hs₁)
          (mem_references_of_place hplace)
        rw [DeclaredType.name] at henter
        rw [henter] at hends
        exact hends.1.references
    obtain ⟨last, hlast⟩ := hlast
    refine ⟨.of type.name title :: last, ?_, List.mem_cons_self⟩
    rw [← hlast, hfirst, List.append_assoc]
    rfl

theorem DeclaresTitles.references (hs : Reachable setting s) (hscope : scope < s.scopes.size)
    (h : DeclaresTitles setting (Evaluation.enter setting limit) scope name given location titles
      rs s s') :
    ∃ added, s'.catalog.references = s.catalog.references ++ added ∧ rs.Sublist added := by
  induction h with
  | nil s => exact ⟨[], (List.append_nil _).symm, .slnil⟩
  | cons first _ ih =>
    have hsteps := first.steps hs hscope
    obtain ⟨added, hadded, hr⟩ := first.references hs hscope
    obtain ⟨more, hmore, hrs⟩ :=
      ih (hs.trans hsteps) (Nat.lt_of_lt_of_le hscope hsteps.size_le)
    refine ⟨added ++ more, ?_, (List.singleton_sublist.mpr hr).append hrs⟩
    rw [hmore, hadded, List.append_assoc]

/-- The references of a declaration come into the catalog in their order. -/
theorem DeclaresBodies.references (hs : Reachable setting s) (hscope : scope < s.scopes.size)
    (h : DeclaresBodies setting (Evaluation.enter setting limit) scope name bodies titles rs s s') :
    Steps setting s s' ∧
      ∃ added, s'.catalog.references = s.catalog.references ++ added ∧ rs.Sublist added := by
  induction h with
  | nil s => exact ⟨.refl, [], (List.append_nil _).symm, .slnil⟩
  | @cons body bodies given titles more rs others t t₁ t₂ t₃ t₄ attributes title declared _ ih =>
    obtain ⟨hsteps₂, hscope₂⟩ := steps_of_evaluated hs hscope attributes title
    have hs₂ := hs.trans hsteps₂
    have hsteps₃ := declared.steps hs₂ hscope₂
    obtain ⟨first, hfirst⟩ := hsteps₂.references
    obtain ⟨added, hadded, hrs⟩ := declared.references hs₂ hscope₂
    obtain ⟨hsteps₄, last, hlast, hothers⟩ :=
      ih (hs₂.trans hsteps₃) (Nat.lt_of_lt_of_le hscope₂ hsteps₃.size_le)
    refine ⟨(hsteps₂.trans hsteps₃).trans hsteps₄, first ++ added ++ last, ?_,
      (hrs.trans (List.sublist_append_right first added)).append hothers⟩
    rw [hlast, hadded, ← hfirst]
    simp only [List.append_assoc]

/-! ### References to titles -/

/-- The reference for a type and a title in a namespace, where a class is looked for by its title
and a define by the name of the type. -/
def Setting.referenceFor (setting : Setting) (name space title : String) : Reference :=
  if name = "class" then
    ((setting.collection.findClass? title space).map fun c => .ofClass c.name).getD (.ofClass title)
  else .of (((setting.declaredType? name space).map DeclaredType.name).getD name) title

/-- What is declared has the reference for its title. -/
theorem DeclaresTitle.eq_referenceFor
    (h : DeclaresTitle setting enter scope name given location title r s s') :
    r = setting.referenceFor name (s.scopes.space scope) title := by
  unfold Setting.referenceFor
  cases h with
  | ofClass isClass found declared =>
    rw [if_pos isClass, found]
    rfl
  | ofType isType found declared =>
    rw [if_neg isType, found]
    rfl

theorem Reference.of_congr {type other : String} (h : Name.capitalize type = Name.capitalize other)
    (title : String) : Reference.of type title = Reference.of other title := by
  rw [Reference.of, Reference.of, h]

/-- Referring to a title answers the reference for it and changes nothing, if the title is not that
of a class without a scope. -/
theorem referTo_eq_referenceFor (hsigma : 'Σ' ∉ type.toList)
    (h : Text.lower type = "class" → ∃ c, s.HasClass setting scope title c) (location : Location) :
    referTo setting enter scope type location title s =
      .ok (setting.referenceFor (Text.lower type) (s.scopes.space scope) title) s := by
  unfold Setting.referenceFor
  by_cases hclass : Text.lower type = "class"
  · obtain ⟨c, hc⟩ := h hclass
    rw [referTo_of_hasClass hc hclass, if_pos hclass, hc.1]
    rfl
  · rw [referTo, get_bind_apply, if_neg hclass, if_neg hclass, Setting.declaredType?]
    cases setting.collection.findDefine? (Text.lower type) (s.scopes.space scope) with
    | some d => rfl
    | none =>
      -- A registered type has the very name that it is declared with.
      have hof : Reference.of type title = .of (Text.lower type) title :=
        Reference.of_congr (Name.capitalize_lower hsigma).symm title
      simp only [hof]
      cases setting.registry.contains (Text.lower type) <;> rfl

/-- Titles that are referred to without changing anything, one after the other. -/
theorem mapM_referTo_eq {f : String → Reference} {location : Location} : ∀ {vs : List Value},
    (∀ v ∈ vs, referTo setting enter scope type location v.text s = .ok (f v.text) s) →
      (vs.mapM fun v => referTo setting enter scope type location v.text) s =
        .ok ((vs.map Value.text).map f) s
  | [], _ => rfl
  | v :: vs, h => by
    obtain ⟨hv, hvs⟩ := List.forall_mem_cons.mp h
    rw [List.mapM_cons, bind_apply, hv]
    simp only [bind_apply, mapM_referTo_eq hvs]
    rfl

/-- So it is when the titles are evaluated in between. -/
theorem evaluateTitles_eq {f : String → Reference} : ∀ {es : List Expr} {values : List Value}
    {s s' : EvalState}, Reachable setting s → scope < s.scopes.size →
      evaluateAll setting (Evaluation.enter setting limit) scope es s = .ok values s' →
      (∀ title ∈ titleTexts values, ∀ location later, Steps setting s later →
        referTo setting (Evaluation.enter setting limit) scope type location title later =
          .ok (f title) later) →
      evaluateTitles setting (Evaluation.enter setting limit) scope type es s =
        .ok ((titleTexts values).map f) s'
  | [], _, _, _, _, _, hvalues, _ => by
    cases hvalues
    rfl
  | e :: es, _, s, s', hs, hscope, hvalues, h => by
    obtain ⟨v, s₁, hv, hrest⟩ := bind_eq_ok hvalues
    obtain ⟨vs, s₂, hvs, heq⟩ := bind_eq_ok hrest
    cases heq
    have hsteps := steps_of_couples
      (((entersByStep_enter setting limit).simulation hs hscope).evaluate e) hv
    have htexts : titleTexts (v :: vs) = v.flatten.map Value.text ++ titleTexts vs := rfl
    rw [htexts, List.forall_mem_append] at h
    have hfirst : (v.flatten.mapM fun u =>
        referTo setting (Evaluation.enter setting limit) scope type e.location u.text) s₁ =
          .ok ((v.flatten.map Value.text).map f) s₁ :=
      mapM_referTo_eq fun u hu => h.1 _ (List.mem_map_of_mem hu) e.location s₁ hsteps
    have ih := evaluateTitles_eq (hs.trans hsteps) (Nat.lt_of_lt_of_le hscope hsteps.size_le) hvs
      fun title ht location later hlater => h.2 title ht location later (hsteps.trans hlater)
    rw [evaluateTitles, bind_apply, hv]
    simp only [bind_apply, hfirst, ih]
    rw [htexts, List.map_append]
    rfl

/-! ### References after declarations -/

/-- A class that was declared has its scope. -/
theorem DeclaresTitle.hasClass (hs : Reachable setting s) (hscope : scope < s.scopes.size)
    (h : DeclaresTitle setting (Evaluation.enter setting limit) scope name given location title r
      s s') (hclass : name = "class") : ∃ c, s'.HasClass setting scope title c := by
  have hsteps := h.steps hs hscope
  cases h with
  | ofType isType found declared => exact absurd hclass isType
  | @ofClass c _ _ isClass found declared =>
    obtain ⟨parent, id, s₁, s₂, hopen, -, hlast⟩ := exists_of_declareClass hs hscope found declared
    have hscopes := hlast.classScopes (hasScope_of_openClass hopen).2.1
    refine ⟨c, ?_, Option.isSome_iff_exists.mpr ⟨id, hscopes⟩⟩
    rw [hsteps.space_eq hscope]
    exact found

/-- What references to titles answer in a state, and in all later ones. -/
structure EvalState.Refers (setting : Setting) (scope : ScopeId) (name : String)
    (titles : List String) (rs : List Reference) (s : EvalState) : Prop where
  eq_map : rs = titles.map (setting.referenceFor name (s.scopes.space scope))
  hasClass : name = "class" → ∀ title ∈ titles, ∃ c, s.HasClass setting scope title c

theorem EvalState.Refers.append {more : List String} {others : List Reference}
    (h : s.Refers setting scope name titles rs) (hmore : s.Refers setting scope name more others) :
    s.Refers setting scope name (titles ++ more) (rs ++ others) := by
  refine ⟨by rw [h.eq_map, hmore.eq_map, List.map_append], fun hclass => ?_⟩
  exact List.forall_mem_append.mpr ⟨h.hasClass hclass, hmore.hasClass hclass⟩

theorem EvalState.Refers.of_steps (h : s.Refers setting scope name titles rs)
    (hs : Steps setting s s') (hscope : scope < s.scopes.size) :
    s'.Refers setting scope name titles rs := by
  refine ⟨by rw [h.eq_map, hs.space_eq hscope], fun hclass title ht => ?_⟩
  exact (h.hasClass hclass title ht).imp fun _ hc => hc.of_steps hs hscope

theorem DeclaresTitle.refers (hs : Reachable setting s) (hscope : scope < s.scopes.size)
    (h : DeclaresTitle setting (Evaluation.enter setting limit) scope name given location title r
      s s') : s'.Refers setting scope name [title] [r] := by
  refine ⟨?_, fun hclass => List.forall_mem_singleton.mpr (h.hasClass hs hscope hclass)⟩
  rw [h.eq_referenceFor, (h.steps hs hscope).space_eq hscope]
  rfl

theorem DeclaresTitles.refers (hs : Reachable setting s) (hscope : scope < s.scopes.size)
    (h : DeclaresTitles setting (Evaluation.enter setting limit) scope name given location titles
      rs s s') : s'.Refers setting scope name titles rs := by
  induction h with
  | nil s => exact ⟨rfl, fun _ => nofun⟩
  | cons first rest ih =>
    have hsteps := first.steps hs hscope
    have hscope₁ := Nat.lt_of_lt_of_le hscope hsteps.size_le
    have hfirst := (first.refers hs hscope).of_steps (rest.steps (hs.trans hsteps) hscope₁) hscope₁
    exact hfirst.append (ih (hs.trans hsteps) hscope₁)

theorem DeclaresBodies.refers (hs : Reachable setting s) (hscope : scope < s.scopes.size)
    (h : DeclaresBodies setting (Evaluation.enter setting limit) scope name bodies titles rs s s') :
    s'.Refers setting scope name titles rs := by
  induction h with
  | nil s => exact ⟨rfl, fun _ => nofun⟩
  | cons attributes title declared rest ih =>
    obtain ⟨hsteps₂, hscope₂⟩ := steps_of_evaluated hs hscope attributes title
    have hs₂ := hs.trans hsteps₂
    have hsteps₃ := declared.steps hs₂ hscope₂
    have hscope₃ := Nat.lt_of_lt_of_le hscope₂ hsteps₃.size_le
    have hrest := rest.references (hs₂.trans hsteps₃) hscope₃
    have hfirst := (declared.refers hs₂ hscope₂).of_steps hrest.1 hscope₃
    exact hfirst.append (ih (hs₂.trans hsteps₃) hscope₃)

/-- A reference to titles answers what it refers to, whatever the case of the type. -/
theorem evaluate_reference_of_refers (hs : Reachable setting s) (hscope : scope < s.scopes.size)
    (hsigma : 'Σ' ∉ type.toList) (h : s.Refers setting scope (Text.lower type) titles rs)
    {es : List Expr} {values : List Value}
    (hvalues : evaluateAll setting (Evaluation.enter setting limit) scope es s = .ok values s')
    (htitles : titleTexts values = titles) (place : Location) :
    evaluate setting (Evaluation.enter setting limit) scope (.reference type es place) s =
      .ok (referenceValue rs) s' := by
  have hanswers : evaluateTitles setting (Evaluation.enter setting limit) scope type es s =
      .ok ((titleTexts values).map
        (setting.referenceFor (Text.lower type) (s.scopes.space scope))) s' := by
    refine evaluateTitles_eq hs hscope hvalues fun title ht at' later hlater => ?_
    have hlater' := h.of_steps hlater hscope
    rw [← hlater.space_eq hscope]
    exact referTo_eq_referenceFor hsigma
      (fun hclass => hlater'.hasClass hclass title (htitles ▸ ht)) at'
  rw [evaluate, bind_apply, hanswers, htitles, ← h.eq_map]
  rfl

/-- If a declaration succeeds, it has declared a resource for each of its titles, with references
that have come into the catalog in the order of the titles; and a reference expression in the same
scope, with the same type in any case and with these titles, answers exactly these references. -/
theorem reference_of_declared (hs : Reachable setting s) (hscope : scope < s.scopes.size)
    (hsigma : 'Σ' ∉ type.toList)
    (h : execute setting (Evaluation.enter setting limit) scope
      (.resource (Text.lower type) bodies location) s = .ok () s') :
    ∃ titles rs,
      DeclaresBodies setting (Evaluation.enter setting limit) scope (Text.lower type) bodies titles
        rs s s' ∧
      (∃ added, s'.catalog.references = s.catalog.references ++ added ∧ rs.Sublist added) ∧
      ∀ limit' es values place s'',
        evaluateAll setting (Evaluation.enter setting limit') scope es s' = .ok values s'' →
        titleTexts values = titles →
        evaluate setting (Evaluation.enter setting limit') scope (.reference type es place) s' =
          .ok (referenceValue rs) s'' := by
  obtain ⟨titles, rs, hdeclares⟩ := exists_declaresBodies hs hscope h
  obtain ⟨hsteps, hadded⟩ := hdeclares.references hs hscope
  refine ⟨titles, rs, hdeclares, hadded, fun limit' es values place s'' hvalues htitles => ?_⟩
  exact evaluate_reference_of_refers (hs.trans hsteps) (Nat.lt_of_lt_of_le hscope hsteps.size_le)
    hsigma (hdeclares.refers hs hscope) hvalues htitles place

/-! #### Instances of a define in a namespace -/

namespace Sample

/-- A define that is called by a name of two segments. -/
def sites : Collection :=
  (collectionOf "define web::site \x7b notify \x7b $title: \x7d \x7d").toOption.getD .empty

/-- Two titles. -/
def twoTitles : Expr := .array [.string "x" first, .string "y" first] first

/-- Instances with these titles are declared at the beginning. -/
def declaringSites : EStateM.Result EvalError EvalState Unit :=
  execute (settingOf sites) (Evaluation.enter (settingOf sites) 2) ScopeArena.top
    (.resource (Text.lower "Web::Site") [⟨twoTitles, [], first⟩] first)
    (EvalState.start (settingOf sites))

end Sample

/-- Two instances of this define are referred to after they are declared. -/
theorem reference_of_declared_sample :
    Reachable (Sample.settingOf Sample.sites) (EvalState.start (Sample.settingOf Sample.sites)) ∧
      ScopeArena.top < (EvalState.start (Sample.settingOf Sample.sites)).scopes.size ∧
      'Σ' ∉ "Web::Site".toList ∧
      ∃ s', Sample.declaringSites = .ok () s' ∧
        ⟨"Web::Site", "x"⟩ ∈ s'.catalog.references ∧
        evaluate (Sample.settingOf Sample.sites)
            (Evaluation.enter (Sample.settingOf Sample.sites) 2) ScopeArena.top
            (.reference "Web::Site" [Sample.twoTitles] Sample.first) s' =
          .ok (referenceValue [⟨"Web::Site", "x"⟩, ⟨"Web::Site", "y"⟩]) s' := by
  let setting := Sample.settingOf Sample.sites
  have htop : ScopeArena.top < (EvalState.start setting).scopes.size := Nat.one_pos
  have hsigma : 'Σ' ∉ "Web::Site".toList := by decide
  refine ⟨.start _, htop, hsigma, ?_⟩
  have hdone : Sample.answer? Sample.declaringSites = some () := by decide +kernel
  cases h : Sample.declaringSites with
  | error e s' =>
    rw [h] at hdone
    cases hdone
  | ok _ s' =>
    obtain ⟨titles, rs, hdeclares, ⟨added, hadded, hrs⟩, hreference⟩ :=
      reference_of_declared (.start setting) htop hsigma h
    have hrefers := hdeclares.refers (.start setting) htop
    have hspace : s'.scopes.space ScopeArena.top = "" :=
      (hdeclares.references (.start setting) htop).1.space_eq htop
    obtain rfl : titles = ["x", "y"] := by
      cases hdeclares with
      | cons attributes title declared rest =>
        cases attributes
        cases title
        cases rest
        rfl
    obtain rfl : rs = [⟨"Web::Site", "x"⟩, ⟨"Web::Site", "y"⟩] := by
      rw [hrefers.eq_map, hspace]
      decide +kernel
    refine ⟨s', rfl, ?_, hreference 2 _ _ Sample.first s' rfl rfl⟩
    rw [hadded]
    exact List.mem_append_right _ (hrs.subset List.mem_cons_self)

end Manifest
