import Manifest.Proofs.Evaluation.Lockstep
import Manifest.Proofs.Name
import Manifest.Proofs.Scope

/-!
# Variables read back

A variable is set under its name as it is written, in the scope itself.  Reading takes a name apart
at its last two colons, and what is then looked up has no two colons any more.  So a variable with
a plain name reads back, at once and as long as the evaluation goes on, and setting one whose name
has two colons changes nothing that anybody reads.

## Main definitions

* `ScopeArena.Keeps` — scopes with all variables of earlier ones.
* `Parameter.Receives` — the value that a parameter is given or has by default.
* `Assigned` — what becomes of a variable that was set.

## Main results

* `EvalState.valueOf?_of_isPlain`, `EvalState.valueOf?_congr` — what reading looks at.
* `assigned_variables` — what becomes of variables that are assigned and of parameters.
* `anchored_unread` — an assigned variable that does not read back.
-/

namespace Manifest

open Evaluation

variable {setting : Setting} {s s' : EvalState} {scope : ScopeId} {name : String}

/-! ### What reading looks at -/

namespace EvalState

/-- A plain name is looked for in the scope and those around it. -/
theorem valueOf?_of_isPlain (h : Name.isQualified name = false) :
    s.valueOf? scope name = s.scopes.resolve? scope name := by
  have habsolute := Name.absolute?_eq_none h
  have hsplit : Name.splitLast? name = none := (Name.splitLast?_eq_none_iff name).mpr h
  simp only [valueOf?, habsolute, Option.getD_none, hsplit]

/-- Reading looks at variables with plain names only. -/
theorem valueOf?_congr (hclasses : s'.classScopes = s.classScopes)
    (hparent : ∀ id, (s'.scopes.get id).parent = (s.scopes.get id).parent)
    (hlocal : ∀ id key, Name.isQualified key = false →
      s'.scopes.localVariable? id key = s.scopes.localVariable? id key)
    (scope : ScopeId) (name : String) : s'.valueOf? scope name = s.valueOf? scope name := by
  rw [valueOf?, valueOf?, hclasses]
  cases hsplit : Name.splitLast? ((Name.absolute? name).getD name) with
  | some parts =>
    -- What stands behind the last two colons has none.
    have hlast : Name.isQualified parts.2 = false := (Name.splitLast?_eq_some hsplit).2
    simp only [hlocal _ _ hlast]
  | none =>
    have hplain := (Name.splitLast?_eq_none_iff _).mp hsplit
    cases habsolute : Name.absolute? name with
    | some full =>
      rw [habsolute, Option.getD_some] at hplain
      exact hlocal _ _ hplain
    | none =>
      rw [habsolute, Option.getD_none] at hplain
      simp only [ScopeArena.resolve?, ScopeArena.ancestors_congr hparent, hlocal _ _ hplain]

end EvalState

/-! ### Variables stay -/

/-- Scopes with all scopes and variables of earlier ones. -/
structure ScopeArena.Keeps (a b : ScopeArena) : Prop where
  size_le : a.size ≤ b.size
  localVariable?_eq {id : ScopeId} {name : String} {value : Value} :
    a.localVariable? id name = some value → b.localVariable? id name = some value

namespace ScopeArena.Keeps

variable {a b c : ScopeArena}

theorem refl (a : ScopeArena) : a.Keeps a := ⟨Nat.le_refl _, id⟩

theorem child (h : a.Keeps b) (parent : ScopeId) (space : String) (owner : Reference) :
    a.Keeps (b.child parent space owner) := by
  refine ⟨?_, fun {id name value} hv => ?_⟩
  · rw [size_child]
    exact Nat.le_succ_of_le h.size_le
  · rw [localVariable?_child]
    split
    · next hid =>
      -- The new scope was not there, so it had no variables.
      rw [localVariable?_eq_none (hid ▸ h.size_le)] at hv
      cases hv
    · exact h.localVariable?_eq hv

theorem setVariable (h : a.Keeps b) {scope : ScopeId} {name : String} {value : Value}
    {location : Location} (hset : b.setVariable scope name value location = .ok c) :
    a.Keeps c := by
  refine ⟨size_setVariable hset ▸ h.size_le, fun {id other v} hv => ?_⟩
  have hb := h.localVariable?_eq hv
  rw [localVariable?_setVariable hset]
  split
  · next hsame =>
    -- A variable that has a value is not set again.
    obtain ⟨⟨rfl, -⟩, rfl⟩ := hsame
    rw [(setVariable_eq_ok hset).1] at hb
    cases hb
  · exact hb

/-- Nothing that is executed takes a variable away. -/
theorem preserved (setting : Setting) (a : ScopeArena) :
    Preserved setting fun s => a.Keeps s.scopes where
  inherit := fun _ _ h => h
  setVariable := fun h hset => h.setVariable hset
  report := fun _ _ h => h
  relate := fun _ _ h => h
  place := fun _ h hplace => by
    obtain ⟨c, c', -, -, rfl⟩ := place_eq_ok hplace
    exact h
  newScope := fun parent space owner _ h => h.child parent space owner
  giveScope := fun _ _ _ h => h

end ScopeArena.Keeps

/-! ### Setting a variable -/

/-- Whatever is executed in a scope keeps the variables that there were. -/
theorem keeps_simulation (setting : Setting) (limit : Nat) (a : ScopeArena) (scope : ScopeId) :
    Simulation (.holding fun s => a.Keeps s.scopes) setting setting
      (Evaluation.enter setting limit) (Evaluation.enter setting limit) scope :=
  have h := (ScopeArena.Keeps.preserved setting a).lockstep
  h.simulation (h.enter limit) scope

theorem setVariable_eq_ok {value : Value} {location : Location}
    (h : setVariable scope name value location s = .ok () s') :
    ∃ scopes, s.scopes.setVariable scope name value location = .ok scopes ∧
      s' = { s with scopes := scopes } := by
  rw [setVariable_apply] at h
  cases hset : s.scopes.setVariable scope name value location with
  | error e => rw [hset] at h; cases h
  | ok scopes =>
    rw [hset] at h
    cases h
    exact ⟨scopes, rfl, rfl⟩

/-- What becomes of a variable that was set between two states: in a later state it has its value
if its name is plain, and otherwise setting it has changed nothing that anybody reads. -/
structure Assigned (setting : Setting) (scope : ScopeId) (name : String) (value : Value)
    (before after later : EvalState) : Prop where
  reads : Name.isQualified name = false → ∀ location,
    readVariable setting scope name location later = .ok value later
  unread : Name.isQualified name = true → ∀ id other,
    after.valueOf? id other = before.valueOf? id other

theorem assigned_of_setVariable {value : Value} {location : Location} {later : EvalState}
    (hscope : scope < s.scopes.size) (h : setVariable scope name value location s = .ok () s')
    (hlater : s'.scopes.Keeps later.scopes) :
    Assigned setting scope name value s s' later := by
  obtain ⟨scopes, hset, rfl⟩ := setVariable_eq_ok h
  refine ⟨fun hplain at' => ?_, fun hqualified => ?_⟩
  · have hlocal : scopes.localVariable? scope name = some value := by
      rw [ScopeArena.localVariable?_setVariable hset, if_pos ⟨⟨rfl, hscope⟩, rfl⟩]
    have hresolve := ScopeArena.resolve?_of_localVariable? (hlater.localVariable?_eq hlocal)
    rw [readVariable_apply, EvalState.valueOf?_of_isPlain hplain, hresolve]
  · refine EvalState.valueOf?_congr rfl (ScopeArena.parent_setVariable hset) fun id key hkey => ?_
    have hne : key ≠ name := by
      rintro rfl
      rw [hqualified] at hkey
      cases hkey
    rw [ScopeArena.localVariable?_setVariable hset, if_neg fun hc => hne hc.2]

/-! ### Parameters -/

/-- The value that a parameter receives in a state, and the state afterwards: what it is given, or
else what its default is evaluated to. -/
inductive Parameter.Receives (setting : Setting) (enter : Enter) (given : Table Value)
    (scope : ScopeId) (p : Parameter) (s : EvalState) : Value → EvalState → Prop
  | given {value : Value} (found : given.get? p.name = some value) :
    Receives setting enter given scope p s value s
  | default {value : Value} {e : Expr} {s' : EvalState} (missing : given.get? p.name = none)
    (has : p.default = some e) (evaluated : evaluate setting enter scope e s = .ok value s') :
    Receives setting enter given scope p s value s'

theorem bindParameter_eq_ok {enter : Enter} {given : Table Value} {resource : Reference}
    {location : Location} {p : Parameter}
    (h : bindParameter setting enter given resource scope location p s = .ok () s') :
    ∃ value s₁, p.Receives setting enter given scope s value s₁ ∧
      setVariable scope p.name value p.location s₁ = .ok () s' := by
  unfold bindParameter at h
  cases hgiven : given.get? p.name with
  | some value =>
    rw [hgiven] at h
    exact ⟨value, s, .given hgiven, h⟩
  | none =>
    cases hdefault : p.default with
    | some e =>
      rw [hgiven, hdefault] at h
      obtain ⟨value, s₁, hvalue, hset⟩ := bind_eq_ok h
      exact ⟨value, s₁, .default hgiven hdefault hvalue, hset⟩
    | none =>
      rw [hgiven, hdefault] at h
      cases h

/-- The scopes that were there are there when a parameter has received its value. -/
theorem Parameter.Receives.size_le {limit : Nat} {given : Table Value} {p : Parameter}
    {value : Value}
    (h : p.Receives setting (Evaluation.enter setting limit) given scope s value s') :
    s.scopes.size ≤ s'.scopes.size := by
  cases h with
  | given => exact Nat.le_refl _
  | @default e _ missing has evaluated =>
    have hkeeps := (keeps_simulation setting limit s.scopes scope).evaluate e
    exact (hkeeps.holding_ok (.refl _) evaluated).size_le

theorem forM_append_eq_ok {α : Type} {f : α → Eval PUnit} {as bs : List α} {u : PUnit}
    (h : ((as ++ bs).forM f : Eval PUnit) s = .ok u s') :
    ∃ s₁, (as.forM f : Eval PUnit) s = .ok () s₁ ∧ (bs.forM f : Eval PUnit) s₁ = .ok () s' := by
  rw [forM_append_apply] at h
  cases has : (as.forM f : Eval PUnit) s with
  | error e s₁ => rw [has] at h; cases h
  | ok v s₁ =>
    rw [has] at h
    exact ⟨s₁, rfl, h⟩

/-! ### Assignments and parameters -/

/-- The value of an assignment reads back as long as the name of the variable is plain, and so does
what a parameter receives, which later parameters leave alone.  Under any other name nobody reads
it. -/
theorem assigned_variables (setting : Setting) (limit : Nat) (s : EvalState) (scope : ScopeId)
    (hscope : scope < s.scopes.size) :
    (∀ name e location s',
        execute setting (enter setting limit) scope (.assignment name e location) s = .ok () s' →
        ∃ value s₁, evaluate setting (enter setting limit) scope e s = .ok value s₁ ∧
          Assigned setting scope name value s₁ s' s') ∧
      ∀ declared given resource location acceptsName s',
        bindParameters setting (enter setting limit) declared given resource scope location
          acceptsName s = .ok () s' →
        ∀ before p after, declared = before ++ p :: after →
          ∃ value s₁ s₂ s₃,
            (before.forM (bindParameter setting (enter setting limit) given resource scope
              location) : Eval PUnit) s = .ok () s₁ ∧
            p.Receives setting (enter setting limit) given scope s₁ value s₂ ∧
            Assigned setting scope p.name value s₂ s₃ s' := by
  have hkeeps := fun a => keeps_simulation setting limit a scope
  refine ⟨fun name e location s' h => ?_,
    fun declared given resource location acceptsName s' h before p after hsplit => ?_⟩
  · obtain ⟨value, s₁, hvalue, hset⟩ := bind_eq_ok h
    have hsize := (((hkeeps s.scopes).evaluate e).holding_ok (.refl _) hvalue).size_le
    exact ⟨value, s₁, hvalue,
      assigned_of_setVariable (Nat.lt_of_lt_of_le hscope hsize) hset (.refl _)⟩
  · have hall : (declared.forM (bindParameter setting (enter setting limit) given resource scope
        location) : Eval PUnit) s = .ok () s' := by
      unfold bindParameters at h
      cases hfind : given.keys.find? fun name => !isKnownParameter declared acceptsName name with
      | some name =>
        rw [hfind] at h
        cases h
      | none =>
        rw [hfind] at h
        exact h
    rw [hsplit] at hall
    obtain ⟨s₁, hbefore, hrest⟩ := forM_append_eq_ok hall
    obtain ⟨_, s₃, hbind, hafter⟩ := bind_eq_ok hrest
    obtain ⟨value, s₂, hreceives, hset⟩ := bindParameter_eq_ok hbind
    refine ⟨value, s₁, s₂, s₃, hbefore, hreceives, assigned_of_setVariable ?_ hset ?_⟩
    · have hsize := (Coupling.Couples.forM ((hkeeps s.scopes).bindParameter given trivial location)
        before).holding_ok (.refl _) hbefore
      exact Nat.lt_of_lt_of_le hscope (Nat.le_trans hsize.size_le hreceives.size_le)
    · -- The parameters that come after it leave it alone.
      exact (Coupling.Couples.forM ((hkeeps s₃.scopes).bindParameter given trivial location)
        after).holding_ok (.refl _) hafter

/-! #### A plain and an anchored name -/

namespace Sample

/-- The place of an assignment. -/
def first : Location := ⟨"a.pp", 1, 1⟩

/-- An assignment to a variable. -/
def assignment (name : String) : Statement := .assignment name (.integer 1 first) first

/-- The setting for a node without facts. -/
def settingOf (collection : Collection) : Setting :=
  ⟨⟨"n", .empty, none⟩, "production", collection, .builtin, true⟩

/-- The collection of a single unit. -/
def collectionOf (text : String) : Except LoadError Collection :=
  Collection.ofSources [⟨"a.pp", text, ⟨1, 0⟩⟩]

/-- The catalog for a manifest, or why there is none. -/
def catalogOf (text : String) : Option (Except EvalError Catalog) :=
  (collectionOf text).toOption.map fun collection => (run (settingOf collection)).1

end Sample

/-- A plain name reads back. -/
theorem assigned_variables_sample :
    ScopeArena.top < (EvalState.start (Sample.settingOf .empty)).scopes.size ∧
      ∃ s', execute (Sample.settingOf .empty) (enter (Sample.settingOf .empty) 1) ScopeArena.top
          (Sample.assignment "x") (EvalState.start (Sample.settingOf .empty)) = .ok () s' ∧
        readVariable (Sample.settingOf .empty) ScopeArena.top "x" Sample.first s' =
          .ok (.integer 1) s' := by
  let setting := Sample.settingOf .empty
  have htop : ScopeArena.top < (EvalState.start setting).scopes.size := Nat.one_pos
  obtain ⟨s', hexecute⟩ : ∃ s', execute setting (enter setting 1) ScopeArena.top
      (Sample.assignment "x") (EvalState.start setting) = .ok () s' := ⟨_, rfl⟩
  obtain ⟨value, s₁, hvalue, hassigned⟩ :=
    (assigned_variables setting 1 (EvalState.start setting) ScopeArena.top htop).1 "x"
      (.integer 1 Sample.first) Sample.first s' hexecute
  cases hvalue
  exact ⟨htop, s', hexecute, hassigned.reads (by decide) Sample.first⟩

/-- An anchored name does not: the assignment succeeds, and reading the variable right afterwards
fails. -/
theorem anchored_unread :
    (∃ s', execute (Sample.settingOf .empty) (enter (Sample.settingOf .empty) 1) ScopeArena.top
          (Sample.assignment "::x") (EvalState.start (Sample.settingOf .empty)) = .ok () s' ∧
        readVariable (Sample.settingOf .empty) ScopeArena.top "::x" Sample.first s' =
          .error (.undefinedVariable "::x" Sample.first) s') ∧
      (Sample.catalogOf "$::x = 1").map (fun c => c.toOption.isSome) = some true ∧
      Sample.catalogOf "$::x = 1\nnotify \x7b 'a': message => $::x \x7d" =
        some (.error (.undefinedVariable "::x" ⟨"a.pp", 2, 26⟩)) :=
  ⟨⟨_, rfl, rfl⟩, by decide +kernel, by decide +kernel⟩

end Manifest
