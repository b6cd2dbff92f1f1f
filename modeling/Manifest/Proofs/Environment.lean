import Manifest.Environment

/-!
# What environments hold

Asking an environment for its collection either leaves it alone or gives it a newer collection, and
a collection that is answered is the one held afterwards.

## Main definitions

* `Environment.Reads` — the ways in which asking for the collection can end.

## Main results

* `Environment.reads_collection` — there are no others.
* `Environments.get?_insert` — the environments after one was replaced.
-/

namespace Manifest

namespace Environment

/-- The ways in which asking an environment for its collection can end. -/
inductive Reads (e : Environment) (p : Provider) :
    Except LoadError Collection → Environment → Prop
  /-- The collection held is not stale. -/
  | held {c : Collection} (current : e.current = some c) (fresh : c.isStale p = .ok false) :
    Reads e p (.ok c) e
  /-- The sources were read anew. -/
  | reloaded {c : Collection} {e' : Environment} (name : e'.name = e.name)
    (current : e'.current = some c) (newer : e'.generations = e.generations + 1) :
    Reads e p (.ok c) e'
  /-- Something could not be read, and the environment keeps what it holds. -/
  | failed (error : LoadError) : Reads e p (.error error) e

theorem reads_reload (e : Environment) (p : Provider) :
    Reads e p (e.reload p).result (e.reload p).environment := by
  rw [reload]
  cases Collection.load p with
  | ok c => exact .reloaded rfl rfl rfl
  | error error => exact .failed error

theorem reads_collection (e : Environment) (p : Provider) :
    Reads e p (e.collection p).result (e.collection p).environment := by
  rw [collection]
  cases hcurrent : e.current with
  | none => exact reads_reload e p
  | some c =>
    cases hstale : c.isStale p with
    | error error => simp only [hstale]; exact .failed _
    | ok stale =>
      cases stale with
      | false => simp only [hstale]; exact .held hcurrent hstale
      | true => simp only [hstale]; exact reads_reload e p

theorem reads_of_result {e : Environment} {p : Provider} {result : Except LoadError Collection}
    (h : (e.collection p).result = result) : e.Reads p result (e.collection p).environment :=
  h ▸ e.reads_collection p

namespace Reads

variable {e e' : Environment} {p : Provider} {result : Except LoadError Collection}

theorem name_eq (h : Reads e p result e') : e'.name = e.name := by
  cases h with
  | held current fresh => rfl
  | reloaded name current newer => exact name
  | failed error => rfl

theorem generations_le (h : Reads e p result e') : e.generations ≤ e'.generations := by
  cases h with
  | held current fresh => exact Nat.le_refl _
  | reloaded name current newer => exact newer ▸ Nat.le_succ _
  | failed error => exact Nat.le_refl _

/-- A collection that is answered is held afterwards. -/
theorem current_eq {c : Collection} (h : Reads e p (.ok c) e') : e'.current = some c := by
  cases h with
  | held current fresh => exact current
  | reloaded name current newer => exact current

/-- Unless the sources were read anew the environment is what it was. -/
theorem eq_or_lt (h : Reads e p result e') : e' = e ∨ e.generations < e'.generations := by
  cases h with
  | held current fresh => exact Or.inl rfl
  | reloaded name current newer => exact Or.inr (newer ▸ Nat.lt_succ_self _)
  | failed error => exact Or.inl rfl

/-- A collection that is answered was held and is not stale, or it is newer than the one held. -/
theorem held_or_newer {c : Collection} (h : Reads e p (.ok c) e') :
    (e.current = some c ∧ c.isStale p = .ok false) ∨ e.generations < e'.generations := by
  cases h with
  | held current fresh => exact Or.inl ⟨current, fresh⟩
  | reloaded name current newer => exact Or.inr (newer ▸ Nat.lt_succ_self _)

theorem generation_eq {c : Collection} (h : Reads e p (.ok c) e') :
    c.generation = e'.generations :=
  e'.generation_eq c h.current_eq

end Reads

end Environment

theorem Collection.forcedStale_of_isStale {c : Collection} {p : Provider}
    (h : c.isStale p = .ok false) : c.forcedStale = false := by
  rw [isStale] at h
  cases hforced : c.forcedStale with
  | false => rfl
  | true => rw [hforced] at h; cases h

namespace Environments

theorem get?_insert (es : Environments) (e : Environment) (name : String) :
    (es.insert e).get? (some name) =
      if name = e.name then some e else es.get? (some name) :=
  Table.get?_insert es.environments e.name name e

/-- An environment is found under its own name. -/
theorem name_eq_of_get? {es : Environments} {name : String} {e : Environment}
    (h : es.get? (some name) = some e) : e.name = name :=
  (es.named _ (Table.mem_of_get? h)).symm

end Environments

end Manifest
