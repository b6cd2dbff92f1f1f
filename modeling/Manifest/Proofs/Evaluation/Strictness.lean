import Manifest.Proofs.Evaluation.Containment
import Manifest.Proofs.Evaluation.Lockstep

/-!
# Variables without a value

Reading a variable without a value is an error, or else it stands for the absent value.  That is the
only place where the two ways of evaluating differ: until a strict evaluation meets such a variable
a lenient one does the same, and if it never does they end alike, whatever was read in templates,
guards, defaults, titles and attributes.

## Main definitions

* `Setting.strictly`, `Setting.leniently` — the two ways.
* `cautious` — evaluations that are equal until the first one meets a variable without a value.

## Main results

* `couples_program_leniently` — they are coupled like this.
* `run_leniently` — a strict evaluation that meets no such variable is the lenient one.
-/

namespace Manifest

open Evaluation

namespace Setting

/-- Reading a variable without a value is an error. -/
def strictly (setting : Setting) : Setting := { setting with strict := true }

/-- A variable without a value stands for the absent value. -/
def leniently (setting : Setting) : Setting := { setting with strict := false }

end Setting

/-- Evaluations that are the same until the first one meets a variable without a value. -/
def cautious : Coupling := .equal fun e => ∃ name location, e = .undefinedVariable name location

variable {setting : Setting}

/-- A variable with a value is read alike, and one without is the excuse. -/
theorem couples_readVariable_leniently (scope : ScopeId) (name : String) (location : Location) :
    cautious.Couples (readVariable setting.strictly scope name location)
      (readVariable setting.leniently scope name location) := by
  rintro s _ rfl
  rw [readVariable_apply, readVariable_apply]
  cases s.valueOf? scope name with
  | some value => exact ⟨rfl, rfl⟩
  | none => exact .of_excused (C := cautious) ⟨name, location, rfl⟩ s _

theorem lockstep_leniently (setting : Setting) :
    Lockstep cautious setting.strictly setting.leniently :=
  lockstep_equal (.refl _) rfl (fun _ _ => Or.inl rfl) couples_readVariable_leniently

theorem couples_program_leniently (setting : Setting) (limit : Nat) :
    cautious.Couples (program setting.strictly limit) (program setting.leniently limit) := by
  have hstep := lockstep_leniently setting
  exact (hstep.executeSite (hstep.enter limit)).bind fun _ => Coupling.equal_couples_self _

/-- Unless a strict evaluation ends at a variable without a value, the lenient one ends like it:
with the same catalog or the same error, and with the same reports. -/
theorem run_leniently (setting : Setting)
    (h : ∀ name location, (run setting.strictly).1 ≠ .error (.undefinedVariable name location)) :
    run setting.leniently = run setting.strictly := by
  have hcouples := couples_program_leniently setting (depthLimit setting.collection)
    (EvalState.start setting.strictly) (EvalState.start setting.leniently) rfl
  rcases hcouples.ok_or_error with
    ⟨c, s, t, h₁, h₂, rfl⟩ | ⟨e, s, t, h₁, h₂, rfl⟩ | ⟨e, s, h₁, name, location, rfl⟩
  · exact (run_of_program_ok h₂).trans (run_of_program_ok h₁).symm
  · exact (run_of_program_error h₂).trans (run_of_program_error h₁).symm
  · exact absurd (congrArg Prod.fst (run_of_program_error h₁)) (h name location)

theorem run_leniently_sample :
    (∀ name location,
      (run Sample.setting.strictly).1 ≠ .error (.undefinedVariable name location)) ∧
      run Sample.setting.leniently = run Sample.setting.strictly := by
  have hok : (run Sample.setting.strictly).1.toOption.isSome = true := by decide +kernel
  have hmeets : ∀ name location,
      (run Sample.setting.strictly).1 ≠ .error (.undefinedVariable name location) := by
    intro name location herror
    rw [herror] at hok
    cases hok
  exact ⟨hmeets, run_leniently Sample.setting hmeets⟩

end Manifest
