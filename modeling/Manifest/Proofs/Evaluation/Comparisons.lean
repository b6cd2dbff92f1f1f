import Manifest.Proofs.Evaluation.CaseChoice
import Manifest.Proofs.LooseEquality

/-!
# Comparisons of equal values

The operators `==` and `!=` and the branches of a `case` compare values by loose equality, which is
an equivalence.  So in a state it does not matter on which side a value stands, or which one of two
equal values is compared.

## Main definitions

* `CaseArm.Alike`, `WrittenCase.Alike` — the expressions of branches and of a `case` have equal
  values in a state, place by place.

## Main results

* `Expr.Equals.congr` — expressions may be replaced by such as have equal values.
* `WrittenCase.Alike.chooses_iff` — so may those of a `case`.
* `Evaluation.comparisons_respect_looseEq` — all of it.
-/

namespace Manifest

section Forall₂

variable {α β : Type} {R : α → β → Prop}

theorem exists_mem_of_forall₂ {as : List α} {bs : List β} {a : α} (h : List.Forall₂ R as bs)
    (ha : a ∈ as) : ∃ b ∈ bs, R a b := by
  induction h with
  | nil => cases ha
  | @cons _ b _ _ hab _ ih =>
    rcases List.mem_cons.mp ha with rfl | ha
    · exact ⟨b, List.mem_cons_self, hab⟩
    · obtain ⟨c, hc, hac⟩ := ih ha
      exact ⟨c, List.mem_cons_of_mem b hc, hac⟩

/-- Where the first list is taken apart the second one can be taken apart as well. -/
theorem exists_split_of_forall₂ {before behind : List α} {a : α} : ∀ {bs : List β},
    List.Forall₂ R (before ++ a :: behind) bs → ∃ before' b behind', bs = before' ++ b :: behind' ∧
      List.Forall₂ R before before' ∧ R a b := by
  induction before with
  | nil =>
    rintro _ (_ | ⟨hab, -⟩)
    exact ⟨[], _, _, rfl, .nil, hab⟩
  | cons c before ih =>
    rintro _ (_ | ⟨hc, hrest⟩)
    obtain ⟨before', b, behind', rfl, hbefore, hab⟩ := ih hrest
    exact ⟨_ :: before', b, behind', rfl, .cons hc hbefore, hab⟩

end Forall₂

section Choice

variable {setting : Setting} {enter : Enter} {scope : ScopeId} {s : EvalState}

/-! ### Expressions with equal values -/

section Expressions

variable {e e' e'' left left' right right' : Expr}

theorem Expr.Yields.unique {v w : Value} (hv : e.Yields setting enter scope s v)
    (hw : e.Yields setting enter scope s w) : v = w := by
  obtain ⟨s₁, hv⟩ := hv
  obtain ⟨s₂, hw⟩ := hw
  rw [hv] at hw
  cases hw
  rfl

theorem Expr.Equals.symm (h : left.Equals setting enter scope s right) :
    right.Equals setting enter scope s left := by
  obtain ⟨v, w, hv, hw, hequal⟩ := h
  exact ⟨w, v, hw, hv, Value.equivalence_looseEq.symm hequal⟩

theorem Expr.Equals.trans (h : e.Equals setting enter scope s e')
    (h' : e'.Equals setting enter scope s e'') : e.Equals setting enter scope s e'' := by
  obtain ⟨v, w, hv, hw, hequal⟩ := h
  obtain ⟨w', x, hw', hx, hequal'⟩ := h'
  cases hw.unique hw'
  exact ⟨v, x, hv, hx, Value.equivalence_looseEq.trans hequal hequal'⟩

/-- Expressions may be replaced by such as have equal values. -/
theorem Expr.Equals.congr (hleft : left.Equals setting enter scope s left')
    (hright : right.Equals setting enter scope s right') :
    left.Equals setting enter scope s right ↔ left'.Equals setting enter scope s right' :=
  ⟨fun h => hleft.symm.trans (h.trans hright), fun h => hleft.trans (h.trans hright.symm)⟩

end Expressions

/-! ### Branches and whole `case` statements -/

variable (setting enter scope s) in
/-- In a state the values of two branches are equal place by place, and for the rest the branches
agree. -/
structure CaseArm.Alike (arm arm' : CaseArm) : Prop where
  isFallback : arm.isFallback = arm'.isFallback
  body : arm.body = arm'.body
  exprs : List.Forall₂ (Expr.Equals setting enter scope s) arm.exprs arm'.exprs

variable (setting enter scope s) in
/-- In a state the subjects of two `case` statements are equal, and so are the values of their
branches. -/
structure WrittenCase.Alike (c c' : WrittenCase) : Prop where
  subject : c.subject.Equals setting enter scope s c'.subject
  arms : List.Forall₂ (CaseArm.Alike setting enter scope s) c.arms c'.arms

theorem CaseArm.Alike.symm {arm arm' : CaseArm} (h : arm.Alike setting enter scope s arm') :
    arm'.Alike setting enter scope s arm :=
  ⟨h.isFallback.symm, h.body.symm, (h.exprs.imp fun _ _ => Expr.Equals.symm).flip⟩

theorem WrittenCase.Alike.symm {c c' : WrittenCase} (h : c.Alike setting enter scope s c') :
    c'.Alike setting enter scope s c :=
  ⟨h.subject.symm, (h.arms.imp fun _ _ => CaseArm.Alike.symm).flip⟩

theorem CaseArm.Alike.matches {arm arm' : CaseArm} {subject subject' : Expr}
    (h : arm.Alike setting enter scope s arm')
    (hsubject : subject.Equals setting enter scope s subject')
    (hmatches : arm.Matches setting enter scope s subject) :
    arm'.Matches setting enter scope s subject' := by
  obtain ⟨e, he, hequal⟩ := hmatches
  obtain ⟨e', he', halike⟩ := exists_mem_of_forall₂ h.exprs he
  exact ⟨e', he', (hsubject.congr halike).mp hequal⟩

/-- Where no branch matches none of those that are alike does. -/
theorem CaseArm.not_matches_of_alike {arms arms' : List CaseArm} {subject subject' : Expr}
    (h : List.Forall₂ (CaseArm.Alike setting enter scope s) arms arms')
    (hsubject : subject.Equals setting enter scope s subject')
    (hnone : ∀ a ∈ arms, ¬ a.Matches setting enter scope s subject) :
    ∀ a ∈ arms', ¬ a.Matches setting enter scope s subject' := by
  intro a' ha' hmatches
  obtain ⟨a, ha, halike⟩ := exists_mem_of_forall₂ (h.imp fun _ _ => CaseArm.Alike.symm).flip ha'
  exact hnone a ha (halike.matches hsubject.symm hmatches)

theorem WrittenCase.Alike.chooses {c c' : WrittenCase} {block : List Statement}
    (h : c.Alike setting enter scope s c') (hblock : c.Chooses setting enter scope s block) :
    c'.Chooses setting enter scope s block := by
  cases hblock with
  | choice hwritten hfirst hfound =>
    obtain ⟨before', arm', behind', hwritten', hbefore, harm⟩ :=
      exists_split_of_forall₂ (hwritten ▸ h.arms)
    rw [harm.body]
    exact .choice hwritten' (CaseArm.not_matches_of_alike hbefore h.subject hfirst)
      (harm.matches h.subject hfound)
  | fallback hunmatched hmem hfallback =>
    obtain ⟨arm', hmem', harm⟩ := exists_mem_of_forall₂ h.arms hmem
    rw [harm.body]
    exact .fallback (CaseArm.not_matches_of_alike h.arms h.subject hunmatched) hmem'
      (harm.isFallback ▸ hfallback)
  | nothing hunmatched hnone =>
    refine .nothing (CaseArm.not_matches_of_alike h.arms h.subject hunmatched) fun a' ha' => ?_
    obtain ⟨a, ha, halike⟩ := exists_mem_of_forall₂ h.symm.arms ha'
    rw [halike.isFallback, hnone a ha]

/-- If the expressions of a `case` are replaced by such as have equal values, the same block is
chosen. -/
theorem WrittenCase.Alike.chooses_iff {c c' : WrittenCase} (h : c.Alike setting enter scope s c')
    (block : List Statement) :
    c.Chooses setting enter scope s block ↔ c'.Chooses setting enter scope s block :=
  ⟨h.chooses, h.symm.chooses⟩

end Choice

namespace Evaluation

variable {setting : Setting} {enter : Enter} {scope : ScopeId} {s : EvalState}
  {left left' right right' : Expr} {op : BinaryOp}

/-- What a comparison answers depends only on whether the operands are loosely equal. -/
theorem evaluate_comparison {v w : Value} (hop : op = .equal ∨ op = .notEqual)
    (hleft : evaluate setting enter scope left s = .ok v s)
    (hright : evaluate setting enter scope right s = .ok w s) (location : Location) :
    evaluate setting enter scope (.binary op left right location) s =
      .ok (.bool (v.looseEq w == (op == .equal))) s := by
  rw [evaluate]
  simp only [bind_apply, hleft]
  rcases hop with rfl | rfl
  · simp only [bind_apply, hright]
    cases v.looseEq w <;> rfl
  · simp only [bind_apply, hright]
    cases v.looseEq w <;> rfl

/-- Operands may be replaced by such as have equal values, and they may change sides. -/
theorem evaluate_comparison_congr (hop : op = .equal ∨ op = .notEqual)
    (hsteady : ∀ e ∈ [left, left', right, right'], Steady setting enter scope s e)
    (hleft : left.Equals setting enter scope s left')
    (hright : right.Equals setting enter scope s right') (l l' : Location) :
    evaluate setting enter scope (.binary op left right l) s =
        evaluate setting enter scope (.binary op left' right' l') s ∧
      evaluate setting enter scope (.binary op left right l) s =
        evaluate setting enter scope (.binary op right' left' l') s := by
  simp only [List.forall_mem_cons] at hsteady
  obtain ⟨⟨v, hv⟩, ⟨v', hv'⟩, ⟨w, hw⟩, ⟨w', hw'⟩, -⟩ := hsteady
  have hequal := Value.looseEq_congr ((equals_iff hv hv').mp hleft) ((equals_iff hw hw').mp hright)
  rw [evaluate_comparison hop hv hw, evaluate_comparison hop hv' hw',
    evaluate_comparison hop hw' hv', hequal, Value.looseEq_comm w' v']
  exact ⟨rfl, rfl⟩

/-- Loose equality is an equivalence on all values, and equal values are loosely equal.  So
comparing two values answers the same on either side, and for values that are loosely equal to them;
and so do `==` and `!=`, and the choice of a branch, in any state of an evaluation. -/
theorem comparisons_respect_looseEq :
    Equivalence (fun v w : Value => v.looseEq w = true) ∧
    (∀ v w : Value, v.same w = true → v.looseEq w = true) ∧
    (∀ v v' w w' : Value, v.looseEq v' = true → w.looseEq w' = true →
      v.looseEq w = v'.looseEq w' ∧ v.looseEq w = w'.looseEq v') ∧
    ∀ (setting : Setting) (enter : Enter) (scope : ScopeId) (s : EvalState),
      (∀ (op : BinaryOp) (left left' right right' : Expr) (l l' : Location),
        op = .equal ∨ op = .notEqual →
        (∀ e ∈ [left, left', right, right'], Steady setting enter scope s e) →
        left.Equals setting enter scope s left' → right.Equals setting enter scope s right' →
          evaluate setting enter scope (.binary op left right l) s =
              evaluate setting enter scope (.binary op left' right' l') s ∧
            evaluate setting enter scope (.binary op left right l) s =
              evaluate setting enter scope (.binary op right' left' l') s) ∧
      ∀ c c' : WrittenCase, c.Alike setting enter scope s c' → ∀ block,
        (c.Chooses setting enter scope s block ↔ c'.Chooses setting enter scope s block) := by
  refine ⟨Value.equivalence_looseEq, ?_, ?_, ?_⟩
  · intro v w hsame
    cases (Value.same_iff v w).mp hsame
    exact Value.equivalence_looseEq.refl v
  · intro v v' w w' hv hw
    have hcongr := Value.looseEq_congr hv hw
    exact ⟨hcongr, hcongr.trans (Value.looseEq_comm v' w')⟩
  · intro setting enter scope s
    refine ⟨?_, fun c c' halike block => halike.chooses_iff block⟩
    intro op left left' right right' l l' hop hsteady hleft hright
    exact evaluate_comparison_congr hop hsteady hleft hright l l'

end Evaluation

namespace Sample

/-- The absent value and a text in an array, and the same with an empty text and a capital. -/
def lowered : Value := .array [.absent, .array [.string "x", .integer 1]]

def raised : Value := .array [.string "", .array [.string "X", .string "1"]]

/-- The `case` of before with texts for its numbers, and a number for its text. -/
def retypedCase : WrittenCase where
  subject := .string "2" spot
  arms := [otherArm, .choice [.string "1" spot, .integer 2 spot] chosenBlock spot]
  location := spot

end Sample

open Sample in
theorem Evaluation.comparisons_respect_looseEq_sample :
    let setting := bareSetting
    let evaluateFirst := fun e =>
      evaluate setting (enter setting 0) ScopeArena.top e (EvalState.start setting)
    raised.looseEq lowered = lowered.looseEq raised ∧ lowered.looseEq raised = true ∧
      evaluateFirst (.binary .equal (.integer 2 spot) (.string "a" spot) spot) =
        evaluateFirst (.binary .equal (.bareword "A" spot) (.string "2" spot) spot) ∧
      ∀ block, defaultFirst.Chooses setting (enter setting 0) ScopeArena.top
          (EvalState.start setting) block ↔
        retypedCase.Chooses setting (enter setting 0) ScopeArena.top
          (EvalState.start setting) block := by
  intro setting evaluateFirst
  obtain ⟨hequivalence, -, hcongr, hstates⟩ := comparisons_respect_looseEq
  obtain ⟨hcompare, hcase⟩ :=
    hstates setting (enter setting 0) ScopeArena.top (EvalState.start setting)
  have hraised : raised.looseEq lowered = true := by decide
  have hnumber : (Value.integer 2).looseEq (.string "2") = true := by decide
  have hletter : (Value.string "a").looseEq (.string "A") = true := by decide
  refine ⟨(hcongr _ _ _ _ hraised (hequivalence.symm hraised)).1, hequivalence.symm hraised, ?_, ?_⟩
  · refine (hcompare .equal _ (.string "2" spot) _ (.bareword "A" spot) spot spot (.inl rfl) ?_
      ⟨_, _, ⟨_, rfl⟩, ⟨_, rfl⟩, hnumber⟩ ⟨_, _, ⟨_, rfl⟩, ⟨_, rfl⟩, hletter⟩).2
    simp only [List.forall_mem_cons]
    exact ⟨⟨_, rfl⟩, ⟨_, rfl⟩, ⟨_, rfl⟩, ⟨_, rfl⟩, nofun⟩
  · have hone : (Value.integer 1).looseEq (.string "1") = true := by decide
    have hother : otherArm.Alike setting (enter setting 0) ScopeArena.top
        (EvalState.start setting) otherArm := ⟨rfl, rfl, .nil⟩
    refine hcase _ _ ⟨⟨_, _, ⟨_, rfl⟩, ⟨_, rfl⟩, hnumber⟩, .cons hother (.cons ⟨rfl, rfl, ?_⟩ .nil)⟩
    exact .cons ⟨_, _, ⟨_, rfl⟩, ⟨_, rfl⟩, hone⟩
      (.cons ⟨_, _, ⟨_, rfl⟩, ⟨_, rfl⟩, hequivalence.symm hnumber⟩ .nil)

end Manifest
