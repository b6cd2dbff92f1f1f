import Manifest.Proofs.Evaluation.Operations

/-!
# Coupled evaluations

Two evaluations are coupled when from states that belong together they answer the same value or
fail with the same error, and leave states that belong together again.  Some failures of the first
one may be excused: then nothing is said about the second one.  An invariant is the special case
of an evaluation that is coupled with itself along equal states.

## Main definitions

* `Coupling` — which states belong together.
* `Coupling.Couples` — two computations that keep to a coupling.
* `Coupling.holding` — an evaluation with itself, as long as its state has a property.

## Main results

* `Coupling.Couples.bind`, `Coupling.Couples.forM`, `Coupling.Couples.mapM`,
  `Coupling.Couples.foldlM` — coupled parts make coupled wholes.
-/

namespace Manifest

open Evaluation

/-- Which states of two evaluations belong together. -/
structure Coupling where
  /-- As long as both run. -/
  running : EvalState → EvalState → Prop
  /-- Once both have failed. -/
  failed : EvalState → EvalState → Prop
  /-- The failures of the first one that leave the second one free to go on. -/
  excused : EvalError → Prop := fun _ => False

namespace Coupling

variable {α β : Type} {C : Coupling}

/-- Two outcomes with the same value or the same error, and with states that belong together, unless
the first one is an excused failure. -/
def Outcomes (C : Coupling) :
    EStateM.Result EvalError EvalState α → EStateM.Result EvalError EvalState α → Prop
  | .ok a s, .ok b t => a = b ∧ C.running s t
  | .error e s, .error f t => C.excused e ∨ (e = f ∧ C.failed s t)
  | .error e _, .ok _ _ => C.excused e
  | .ok _ _, .error _ _ => False

/-- Two computations that keep to a coupling. -/
def Couples (C : Coupling) (m₁ m₂ : Eval α) : Prop :=
  ∀ s t, C.running s t → C.Outcomes (m₁ s) (m₂ t)

theorem Outcomes.error {e : EvalError} {s t : EvalState} (h : C.failed s t) :
    C.Outcomes (α := α) (.error e s) (.error e t) := Or.inr ⟨rfl, h⟩

theorem Outcomes.of_excused {e : EvalError} (h : C.excused e) (s : EvalState) :
    ∀ r : EStateM.Result EvalError EvalState α, C.Outcomes (.error e s) r
  | .ok _ _ => h
  | .error _ _ => Or.inl h

/-- Both succeed, both fail, or the first one fails and is excused. -/
theorem Outcomes.ok_or_error {r₁ r₂ : EStateM.Result EvalError EvalState α}
    (h : C.Outcomes r₁ r₂) :
    (∃ a s t, r₁ = .ok a s ∧ r₂ = .ok a t ∧ C.running s t) ∨
      (∃ e s t, r₁ = .error e s ∧ r₂ = .error e t ∧ C.failed s t) ∨
      ∃ e s, r₁ = .error e s ∧ C.excused e := by
  cases r₁ with
  | ok a s =>
    cases r₂ with
    | ok b t =>
      obtain ⟨rfl, hst⟩ := h
      exact Or.inl ⟨a, s, t, rfl, rfl, hst⟩
    | error e t => exact h.elim
  | error e s =>
    cases r₂ with
    | ok b t => exact Or.inr (Or.inr ⟨e, s, rfl, h⟩)
    | error f t =>
      rcases h with hexcused | ⟨rfl, hst⟩
      · exact Or.inr (Or.inr ⟨e, s, rfl, hexcused⟩)
      · exact Or.inr (Or.inl ⟨e, s, t, rfl, rfl, hst⟩)

/-- What comes after a first part may use how that part ended. -/
theorem Outcomes.bind {m₁ m₂ : Eval α} {f₁ f₂ : α → Eval β} {s t : EvalState}
    (h : C.Outcomes (m₁ s) (m₂ t))
    (hf : ∀ a s' t', m₁ s = .ok a s' → C.running s' t' → C.Outcomes (f₁ a s') (f₂ a t')) :
    C.Outcomes ((m₁ >>= f₁) s) ((m₂ >>= f₂) t) := by
  rw [bind_apply, bind_apply]
  rcases h.ok_or_error with
    ⟨a, s', t', h₁, h₂, hst⟩ | ⟨e, s', t', h₁, h₂, hst⟩ | ⟨e, s', h₁, hexcused⟩
  · simp only [h₁, h₂]
    exact hf a s' t' h₁ hst
  · simp only [h₁, h₂]
    exact .error hst
  · simp only [h₁]
    exact .of_excused hexcused s' _

namespace Couples

theorem pure (C : Coupling) (a : α) : C.Couples (pure a) (pure a) := fun _ _ h => ⟨rfl, h⟩

theorem bind {m₁ m₂ : Eval α} {f₁ f₂ : α → Eval β} (h : C.Couples m₁ m₂)
    (hf : ∀ a, C.Couples (f₁ a) (f₂ a)) : C.Couples (m₁ >>= f₁) (m₂ >>= f₂) :=
  fun s t hst => (h s t hst).bind fun a s' t' _ h' => hf a s' t' h'

theorem forM_mem {f₁ f₂ : α → Eval PUnit} :
    ∀ {as : List α}, (∀ a ∈ as, C.Couples (f₁ a) (f₂ a)) → C.Couples (as.forM f₁) (as.forM f₂)
  | [], _ => Couples.pure C PUnit.unit
  | a :: _, h => (h a List.mem_cons_self).bind fun _ =>
    forM_mem fun b hb => h b (List.mem_cons_of_mem a hb)

theorem forM {f₁ f₂ : α → Eval PUnit} (h : ∀ a, C.Couples (f₁ a) (f₂ a)) (as : List α) :
    C.Couples (as.forM f₁) (as.forM f₂) := forM_mem fun a _ => h a

theorem mapM {f₁ f₂ : α → Eval β} (h : ∀ a, C.Couples (f₁ a) (f₂ a)) :
    ∀ as : List α, C.Couples (as.mapM f₁) (as.mapM f₂)
  | [] => Couples.pure C []
  | a :: as => by
    rw [List.mapM_cons, List.mapM_cons]
    exact (h a).bind fun b => (mapM h as).bind fun bs => Couples.pure C (b :: bs)

theorem foldlM {f₁ f₂ : β → α → Eval β} (h : ∀ b a, C.Couples (f₁ b a) (f₂ b a)) :
    ∀ (as : List α) (b : β), C.Couples (as.foldlM f₁ b) (as.foldlM f₂ b)
  | [], b => Couples.pure C b
  | a :: as, b => by
    rw [List.foldlM_cons, List.foldlM_cons]
    exact (h b a).bind fun b' => foldlM h as b'

end Couples

/-! ### One evaluation -/

/-- An evaluation with itself, as long as its state has a property. -/
def holding (P : EvalState → Prop) : Coupling where
  running s t := s = t ∧ P s
  failed s t := s = t

variable {P : EvalState → Prop} {m : Eval α}

theorem holding_outcomes_iff {r : EStateM.Result EvalError EvalState α} :
    (holding P).Outcomes r r ↔ ∀ a s, r = .ok a s → P s := by
  cases r with
  | ok a s =>
    refine ⟨?_, fun h => ⟨rfl, rfl, h a s rfl⟩⟩
    rintro ⟨-, -, hs⟩ _ _ ⟨⟩
    exact hs
  | error e s => exact ⟨fun _ => nofun, fun _ => .error rfl⟩

theorem holding_couples (h : ∀ s a s', P s → m s = .ok a s' → P s') :
    (holding P).Couples m m := by
  rintro s _ ⟨rfl, hs⟩
  exact holding_outcomes_iff.mpr fun a s' => h s a s' hs

/-- What keeps the property, when it succeeds. -/
theorem Couples.holding_ok (h : (holding P).Couples m m) {s s' : EvalState} (hs : P s) {a : α}
    (hm : m s = .ok a s') : P s' :=
  holding_outcomes_iff.mp (h s s ⟨rfl, hs⟩) a s' hm

end Coupling

end Manifest
