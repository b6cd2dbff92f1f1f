import Mathlib.Data.List.Chain
import Manifest.Proofs.Scope

/-!
# Which variables a scope sees

A scope is added inside one that is there already, and the parent of a scope never changes.  So the
parents of a scope are a chain of older and older scopes that ends with the top scope, and a
variable is looked for along this chain.  Setting a variable changes what is seen from those scopes
alone whose chain comes to the changed scope before any other one that sets the variable.

## Main definitions

* `ScopeArena.Call`, `ScopeArena.after` — adding a scope and setting a variable, and what they lead
  to.
* `ScopeArena.Leads` — calls lead from some scopes to others.
* `ScopeArena.IsParentChain` — the scopes around a scope, up to the top scope.
* `ScopeArena.Sees` — a scope is the nearest place of a variable that is not set before.
* `ScopeArena.IsLexical` — what holds of the variables in scopes.

## Main results

* `ScopeArena.Leads.wellFormed` — parents are older, and only the top scope has none.
* `ScopeArena.WellFormed.isParentChain_ancestors` — the scopes around a scope are such a chain.
* `ScopeArena.resolve?_setVariable_of_sees`, `ScopeArena.resolve?_setVariable_of_not_sees` — what is
  seen after a variable was set.
* `ScopeArena.Leads.localVariable?` — a variable that is set stays as it is.
* `ScopeArena.isLexical_of_leads` — all of it.
-/

namespace Manifest.ScopeArena

/-! ### Calls -/

/-- A call that adds a scope or sets a variable. -/
inductive Call
  | child (parent : ScopeId) (space : String) (owner : Reference)
  | set (scope : ScopeId) (name : String) (value : Value) (location : Location)

/-- The scope that a call is about. -/
def Call.scope : Call → ScopeId
  | child parent _ _ => parent
  | set scope _ _ _ => scope

/-- The scopes after a call. If a variable cannot be set, nothing changes. -/
def after (a : ScopeArena) : Call → ScopeArena
  | .child parent space owner => a.child parent space owner
  | .set scope name value location =>
    match a.setVariable scope name value location with
    | .ok a' => a'
    | .error _ => a

/-- Calls, each of which is about a scope that was there, lead from some scopes to others. -/
inductive Leads (a : ScopeArena) : ScopeArena → Prop
  | refl : Leads a a
  | call {b : ScopeArena} {c : Call} (h : Leads a b) (scope : c.scope < b.size) :
    Leads a (b.after c)

variable {a a' : ScopeArena} {s t : ScopeId} {name : String} {value : Value} {location : Location}

/-! ### Parents -/

/-- The top scope has no parent, and the parent of any other scope is older. -/
structure WellFormed (a : ScopeArena) : Prop where
  top_lt : top < a.size
  parent_top : (a.get top).parent = none
  parent_lt : ∀ s, s < a.size → s ≠ top → ∃ p, (a.get s).parent = some p ∧ p < s

theorem wellFormed_new : WellFormed .new where
  top_lt := Nat.one_pos
  parent_top := rfl
  parent_lt _ hs hne := absurd (Nat.lt_one_iff.mp hs) hne

theorem WellFormed.child (h : WellFormed a) {parent : ScopeId} (hparent : parent < a.size)
    (space : String) (owner : Reference) : WellFormed (a.child parent space owner) where
  top_lt := by
    rw [size_child]
    exact Nat.lt_succ_of_lt h.top_lt
  parent_top := by
    rw [get_child_of_lt h.top_lt]
    exact h.parent_top
  parent_lt s hs hne := by
    rw [get_child]
    split
    · next hnew => exact ⟨parent, rfl, hnew ▸ hparent⟩
    · next hold =>
      rw [size_child] at hs
      exact h.parent_lt s (Nat.lt_of_le_of_ne (Nat.le_of_lt_succ hs) hold) hne

theorem WellFormed.setVariable (h : WellFormed a)
    (hset : a.setVariable t name value location = .ok a') : WellFormed a' where
  top_lt := size_setVariable hset ▸ h.top_lt
  parent_top := (parent_setVariable hset top).trans h.parent_top
  parent_lt s hs hne := by
    rw [parent_setVariable hset]
    exact h.parent_lt s (size_setVariable hset ▸ hs) hne

/-- Whatever calls are made, parents are older. -/
theorem Leads.wellFormed (hled : Leads a a') (h : WellFormed a) : WellFormed a' := by
  induction hled with
  | refl => exact h
  | @call b c _ hscope ih =>
    cases c with
    | child parent space owner => exact ih.child hscope space owner
    | set scope name value location =>
      rw [after]
      split
      · next a' hset => exact ih.setVariable hset
      · exact ih

/-! ### The chain of parents -/

/-- A list holds a scope, its parent, the parent of this one and so on to the top scope, where it
ends because the top scope has no parent. -/
structure IsParentChain (a : ScopeArena) (s : ScopeId) (chain : List ScopeId) : Prop where
  head : chain.head? = some s
  parents : chain.IsChain fun inner outer => (a.get inner).parent = some outer
  decreasing : chain.Pairwise fun inner outer => outer < inner
  last : chain.getLast? = some top
  parent_top : (a.get top).parent = none

/-- Nothing in a chain is younger than the scope that it belongs to. -/
theorem IsParentChain.le {chain : List ScopeId} (h : a.IsParentChain s chain)
    (ht : t ∈ chain) : t ≤ s := by
  obtain ⟨farther, rfl⟩ := List.head?_eq_some_iff.mp h.head
  cases List.mem_cons.mp ht with
  | inl hs => exact Nat.le_of_eq hs
  | inr hfarther => exact Nat.le_of_lt ((List.pairwise_cons.mp h.decreasing).1 t hfarther)

theorem WellFormed.ancestors_top (h : WellFormed a) : a.ancestors top = [top] := by
  rw [ancestors, h.parent_top]

theorem ancestors_of_parent {p : ScopeId} (hparent : (a.get s).parent = some p) (hlt : p < s) :
    a.ancestors s = s :: a.ancestors p := by
  rw [ancestors, hparent]
  simp only [dif_pos hlt]

/-- The scopes around a scope are the chain of its parents. -/
theorem WellFormed.isParentChain_ancestors (h : WellFormed a) (hs : s < a.size) :
    a.IsParentChain s (a.ancestors s) := by
  -- The parent is older, but it need not be the scope that came just before.
  induction s using Nat.strongRecOn with
  | ind s ih =>
    by_cases htop : s = top
    · rw [htop, h.ancestors_top]
      exact ⟨rfl, .singleton _, List.pairwise_singleton _ _, rfl, h.parent_top⟩
    · obtain ⟨p, hparent, hlt⟩ := h.parent_lt s hs htop
      have hchain := ih p hlt (Nat.lt_trans hlt hs)
      rw [ancestors_of_parent hparent hlt]
      refine ⟨rfl, ?parents, ?decreasing, ?last, h.parent_top⟩
      case parents =>
        refine List.isChain_cons.mpr ⟨fun outer houter => ?_, hchain.parents⟩
        rw [hchain.head] at houter
        exact Option.mem_some_iff.mp houter ▸ hparent
      case decreasing =>
        exact List.pairwise_cons.mpr
          ⟨fun outer houter => Nat.lt_of_le_of_lt (hchain.le houter) hlt, hchain.decreasing⟩
      case last =>
        rw [List.getLast?_cons, hchain.last]
        rfl

/-! ### What is seen -/

/-- Of the scopes around `s` that may set the variable, `t` is the nearest: it is one of them, and
no nearer one sets it. -/
def Sees (a : ScopeArena) (s : ScopeId) (name : String) (t : ScopeId) : Prop :=
  ∃ nearer farther, a.ancestors s = nearer ++ t :: farther ∧
    ∀ u ∈ nearer, a.localVariable? u name = none

/-- The value that is seen is the one in the nearest scope that sets the variable. -/
theorem resolve?_eq_some_iff :
    a.resolve? s name = some value ↔
      ∃ t, a.Sees s name t ∧ a.localVariable? t name = some value := by
  rw [resolve?, List.findSome?_eq_some_iff]
  constructor
  · rintro ⟨nearer, t, farther, hchain, hvalue, hnearer⟩
    exact ⟨t, ⟨nearer, farther, hchain, hnearer⟩, hvalue⟩
  · rintro ⟨t, ⟨nearer, farther, hchain, hnearer⟩, hvalue⟩
    exact ⟨nearer, t, farther, hchain, hvalue, hnearer⟩

theorem resolve?_eq_none_iff :
    a.resolve? s name = none ↔ ∀ t ∈ a.ancestors s, a.localVariable? t name = none := by
  rw [resolve?, List.findSome?_eq_none_iff]

/-- A scope is the nearest one if those up to it do not set the variable. -/
theorem sees_of_mem {nearer farther : List ScopeId} (hchain : a.ancestors s = nearer ++ farther)
    (hnearer : ∀ u ∈ nearer, a.localVariable? u name = none) (ht : t ∈ nearer) :
    a.Sees s name t := by
  obtain ⟨before, behind, rfl⟩ := List.append_of_mem ht
  refine ⟨before, behind ++ farther, ?_, fun u hu => hnearer u (List.mem_append_left _ hu)⟩
  rw [hchain, List.append_assoc, List.cons_append]

/-! ### Setting a variable -/

section
variable (hset : a.setVariable t name value location = .ok a')
include hset

theorem ancestors_setVariable (s : ScopeId) : a'.ancestors s = a.ancestors s :=
  ancestors_congr (parent_setVariable hset) s

/-- The scope that is changed sets the variable now. -/
theorem localVariable?_setVariable_self (ht : t < a.size) :
    a'.localVariable? t name = some value := by
  rw [localVariable?_setVariable hset, if_pos ⟨⟨rfl, ht⟩, rfl⟩]

/-- No other scope and no other variable changes. -/
theorem localVariable?_setVariable_of_ne {id : ScopeId} {other : String}
    (hne : ¬ (id = t ∧ other = name)) :
    a'.localVariable? id other = a.localVariable? id other := by
  rw [localVariable?_setVariable hset, if_neg]
  rintro ⟨⟨htarget, -⟩, hname⟩
  exact hne ⟨htarget.symm, hname⟩

/-- From where the changed scope is the nearest one, the new value is seen. -/
theorem resolve?_setVariable_of_sees (h : WellFormed a) (hs : s < a.size) (ht : t < a.size)
    (hsees : a.Sees s name t) : a'.resolve? s name = some value := by
  have hdecreasing := (h.isParentChain_ancestors hs).decreasing
  obtain ⟨nearer, farther, hchain, hnearer⟩ := hsees
  rw [hchain] at hdecreasing
  refine resolve?_eq_some_iff.mpr ⟨t, ?_, localVariable?_setVariable_self hset ht⟩
  refine ⟨nearer, farther, ancestors_setVariable hset s ▸ hchain, fun u hu => ?_⟩
  -- The chain does not come to the changed scope twice.
  have hlt : t < u := (List.pairwise_append.mp hdecreasing).2.2 u hu t (.head farther)
  rw [localVariable?_setVariable_of_ne hset fun hut => Nat.ne_of_gt hlt hut.1, hnearer u hu]

/-- From anywhere else, and of any other variable, the same is seen as before. -/
theorem resolve?_setVariable_of_not_sees {other : String}
    (hsees : ¬ (other = name ∧ a.Sees s name t)) : a'.resolve? s other = a.resolve? s other := by
  -- Whatever the look-up comes to without the variable is not the changed scope.
  have hkept : ∀ {nearer farther}, a.ancestors s = nearer ++ farther →
      (∀ u ∈ nearer, a.localVariable? u other = none) →
      ∀ u ∈ nearer, a'.localVariable? u other = none := by
    intro nearer farther hchain hnearer u hu
    rw [localVariable?_setVariable_of_ne hset, hnearer u hu]
    rintro ⟨rfl, rfl⟩
    exact hsees ⟨rfl, sees_of_mem hchain hnearer hu⟩
  have hchain' := ancestors_setVariable hset s
  cases hbefore : a.resolve? s other with
  | none =>
    have hnone := resolve?_eq_none_iff.mp hbefore
    rw [resolve?_eq_none_iff, hchain']
    exact hkept (List.append_nil _).symm hnone
  | some w =>
    obtain ⟨u, ⟨nearer, farther, hchain, hnearer⟩, hw⟩ := resolve?_eq_some_iff.mp hbefore
    refine resolve?_eq_some_iff.mpr
      ⟨u, ⟨nearer, farther, hchain' ▸ hchain, hkept hchain hnearer⟩, ?_⟩
    rw [localVariable?_setVariable_of_ne hset, hw]
    rintro ⟨rfl, rfl⟩
    -- The changed scope did not set the variable before.
    rw [(setVariable_eq_ok hset).1] at hw
    cases hw

end

theorem setVariable_eq_error_iff (a : ScopeArena) (t : ScopeId) (name : String) (value : Value)
    (location : Location) :
    (∃ e, a.setVariable t name value location = .error e) ↔
      ∃ bound, a.localVariable? t name = some bound := by
  rw [setVariable]
  cases a.localVariable? t name with
  | none => simp
  | some bound => simp

/-! ### Bindings stay -/

/-- A call leaves every variable that is set. -/
theorem localVariable?_after {id : ScopeId} {bound : Value} (c : Call)
    (hbound : a.localVariable? id name = some bound) :
    (a.after c).localVariable? id name = some bound := by
  cases c with
  | child parent space owner =>
    rw [after, localVariable?_child, if_neg, hbound]
    -- The scope that is added was not there, so it had no variables.
    rintro rfl
    rw [localVariable?_eq_none (Nat.le_refl _)] at hbound
    cases hbound
  | set scope other value location =>
    rw [after]
    split
    · next a' hset =>
      rw [localVariable?_setVariable_of_ne hset, hbound]
      rintro ⟨rfl, rfl⟩
      rw [(setVariable_eq_ok hset).1] at hbound
      cases hbound
    · exact hbound

/-- So do all calls. -/
theorem Leads.localVariable? {id : ScopeId} {bound : Value} (hled : Leads a a')
    (hbound : a.localVariable? id name = some bound) :
    a'.localVariable? id name = some bound := by
  induction hled with
  | refl => exact hbound
  | @call b c _ _ ih => exact localVariable?_after c ih

/-! ### All of it -/

/-- What holds of the variables in scopes. -/
structure IsLexical (a : ScopeArena) : Prop where
  /-- The scopes around a scope are its parents up to the top scope. -/
  chain : ∀ s, s < a.size → a.IsParentChain s (a.ancestors s)
  /-- A variable has the value that the nearest scope sets, if there is one. -/
  resolves : ∀ s x v, a.resolve? s x = some v ↔
    ∃ t, a.Sees s x t ∧ a.localVariable? t x = some v
  /-- The value that is set is seen from wherever no nearer scope sets the variable. -/
  shows : ∀ t x v location a', t < a.size → a.setVariable t x v location = .ok a' →
    ∀ s, s < a.size → a.Sees s x t → a'.resolve? s x = some v
  /-- Nothing else is seen differently. -/
  frames : ∀ t x v location a', a.setVariable t x v location = .ok a' →
    ∀ s y, ¬ (y = x ∧ a.Sees s x t) → a'.resolve? s y = a.resolve? s y
  /-- Setting a variable fails if the scope itself sets it. -/
  fails : ∀ t x v location,
    (∃ e, a.setVariable t x v location = .error e) ↔ ∃ w, a.localVariable? t x = some w
  /-- Nothing changes then. -/
  stays : ∀ t x v location, (∃ w, a.localVariable? t x = some w) →
    a.after (.set t x v location) = a
  /-- Whatever calls follow, a variable that is set stays as it is. -/
  keeps : ∀ a' t x v, Leads a a' → a.localVariable? t x = some v →
    a'.localVariable? t x = some v

/-- Whatever calls were made, the variables in scopes are lexical. -/
theorem isLexical_of_leads (hled : Leads .new a) : a.IsLexical where
  chain _ hs := (hled.wellFormed wellFormed_new).isParentChain_ancestors hs
  resolves _ _ _ := resolve?_eq_some_iff
  shows _ _ _ _ _ ht hset _ hs hsees :=
    resolve?_setVariable_of_sees hset (hled.wellFormed wellFormed_new) hs ht hsees
  frames _ _ _ _ _ hset _ _ hsees := resolve?_setVariable_of_not_sees hset hsees
  fails t x v location := setVariable_eq_error_iff a t x v location
  stays t x v location hbound := by
    obtain ⟨e, herror⟩ := (setVariable_eq_error_iff a t x v location).mpr hbound
    rw [after, herror]
  keeps _ _ _ _ hled' hbound := hled'.localVariable? hbound

/-! ### Two scopes side by side -/

/-- Two scopes in the top scope, for two classes. -/
def sideBySide : ScopeArena :=
  (new.after (.child top "web" (.ofClass "web"))).after (.child top "db" (.ofClass "db"))

theorem leads_sideBySide : Leads new sideBySide :=
  .call (.call .refl Nat.one_pos) (by decide : top < 2)

theorem ancestors_sideBySide : sideBySide.ancestors 2 = [2, top] := by
  have hparent : (sideBySide.get 2).parent = some top := rfl
  rw [ancestors_of_parent hparent (by decide),
    (leads_sideBySide.wellFormed wellFormed_new).ancestors_top]

/-- The port of the one is not seen from the other. -/
theorem isLexical_of_leads_sample :
    (sideBySide.after (.set 1 "port" (.integer 80) ⟨"site.pp", 1, 1⟩)).resolve? 2 "port" =
      sideBySide.resolve? 2 "port" := by
  refine (isLexical_of_leads leads_sideBySide).frames 1 "port" (.integer 80)
    ⟨"site.pp", 1, 1⟩ _ rfl 2 "port" ?_
  rintro ⟨-, nearer, farther, hchain, -⟩
  have hmem : 1 ∈ sideBySide.ancestors 2 := hchain ▸ List.mem_append_right _ (.head _)
  rw [ancestors_sideBySide] at hmem
  exact absurd hmem (by decide)

end Manifest.ScopeArena
