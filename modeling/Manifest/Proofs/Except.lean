import Mathlib.Data.List.Forall2

/-!
# Computations that may fail

What is known of the parts of a computation that has succeeded.

## Main results

* `Except.bind_eq_ok_iff` — both parts of a sequence have succeeded.
* `Except.bind_eq_error_iff` — one of them has failed.
* `Except.exists_of_mem_mapM` — every result of a list comes from one of its elements.
* `Except.exists_of_mapM_error` — and so does its failure.
* `Except.mapM_eq_ok_iff`, `Except.exists_mapM_iff` — a list succeeds where all its elements do.
* `Except.exists_split_of_foldlM_error` — a loop fails where one of its steps does.
* `Except.foldlM_invariant` — what every step of a loop keeps holds after the loop.
-/

namespace Manifest.Except

variable {ε α β : Type}

theorem bind_eq_ok_iff {x : Except ε α} {f : α → Except ε β} {b : β} :
    (x >>= f) = .ok b ↔ ∃ a, x = .ok a ∧ f a = .ok b := by
  cases x with
  | error e => exact ⟨fun h => (by cases h), fun ⟨a, h, _⟩ => (by cases h)⟩
  | ok a => exact ⟨fun h => ⟨a, rfl, h⟩, fun ⟨a', h, hf⟩ => (by cases h; exact hf)⟩

theorem bind_eq_error_iff {x : Except ε α} {f : α → Except ε β} {e : ε} :
    (x >>= f) = .error e ↔ x = .error e ∨ ∃ a, x = .ok a ∧ f a = .error e := by
  cases x with
  | error e' => exact ⟨fun h => (by cases h; exact Or.inl rfl), fun h => (by
      rcases h with h | ⟨a, h, -⟩
      · cases h; rfl
      · cases h)⟩
  | ok a => exact ⟨fun h => Or.inr ⟨a, rfl, h⟩, fun h => (by
      rcases h with h | ⟨a', h, hf⟩
      · cases h
      · cases h; exact hf)⟩

theorem eq_ok_of_toOption {x : Except ε α} {a : α} (h : x.toOption = some a) : x = .ok a := by
  cases x with
  | error e => cases h
  | ok b => cases h; rfl

theorem exists_of_mem_mapM {f : α → Except ε β} :
    ∀ {as : List α} {bs : List β}, as.mapM f = .ok bs → ∀ b ∈ bs, ∃ a ∈ as, f a = .ok b
  | [], _, h, b, hb => by
    rw [List.mapM_nil] at h
    cases h
    cases hb
  | a :: as, _, h, b, hb => by
    rw [List.mapM_cons] at h
    obtain ⟨b', ha, h⟩ := bind_eq_ok_iff.mp h
    obtain ⟨bs', has, h⟩ := bind_eq_ok_iff.mp h
    cases h
    rcases List.mem_cons.mp hb with rfl | hb
    · exact ⟨a, List.mem_cons_self, ha⟩
    · obtain ⟨x, hx, hf⟩ := exists_of_mem_mapM has b hb
      exact ⟨x, List.mem_cons_of_mem a hx, hf⟩

/-- A list fails where one of its elements does. -/
theorem exists_of_mapM_error {f : α → Except ε β} {e : ε} :
    ∀ {as : List α}, as.mapM f = .error e → ∃ a ∈ as, f a = .error e
  | [], h => by
    rw [List.mapM_nil] at h
    cases h
  | a :: as, h => by
    rw [List.mapM_cons] at h
    rcases bind_eq_error_iff.mp h with ha | ⟨b, -, h⟩
    · exact ⟨a, List.mem_cons_self, ha⟩
    · rcases bind_eq_error_iff.mp h with has | ⟨bs, -, h⟩
      · obtain ⟨x, hx, hf⟩ := exists_of_mapM_error has
        exact ⟨x, List.mem_cons_of_mem a hx, hf⟩
      · cases h

/-- A list succeeds element by element. -/
theorem mapM_eq_ok_iff {f : α → Except ε β} : ∀ {as : List α} {bs : List β},
    as.mapM f = .ok bs ↔ List.Forall₂ (fun a b => f a = .ok b) as bs
  | [], bs => by
    rw [List.mapM_nil, List.forall₂_nil_left_iff]
    exact ⟨fun h => (Except.ok.inj h).symm, fun h => congrArg Except.ok h.symm⟩
  | a :: as, bs => by
    rw [List.mapM_cons, bind_eq_ok_iff, List.forall₂_cons_left_iff]
    constructor
    · rintro ⟨b, ha, h⟩
      obtain ⟨rest, has, h⟩ := bind_eq_ok_iff.mp h
      exact ⟨b, rest, ha, mapM_eq_ok_iff.mp has, (Except.ok.inj h).symm⟩
    · rintro ⟨b, rest, ha, has, rfl⟩
      exact ⟨b, ha, bind_eq_ok_iff.mpr ⟨rest, mapM_eq_ok_iff.mpr has, rfl⟩⟩

theorem exists_mapM_iff {f : α → Except ε β} : ∀ {as : List α},
    (∃ bs, as.mapM f = .ok bs) ↔ ∀ a ∈ as, ∃ b, f a = .ok b
  | [] => by
    rw [List.mapM_nil]
    exact ⟨fun _ _ ha => (nomatch ha), fun _ => ⟨[], rfl⟩⟩
  | a :: as => by
    rw [List.forall_mem_cons, ← exists_mapM_iff]
    constructor
    · rintro ⟨bs, h⟩
      obtain ⟨b, rest, ha, has, -⟩ := List.forall₂_cons_left_iff.mp (mapM_eq_ok_iff.mp h)
      exact ⟨⟨b, ha⟩, rest, mapM_eq_ok_iff.mpr has⟩
    · rintro ⟨⟨b, ha⟩, rest, has⟩
      exact ⟨b :: rest, mapM_eq_ok_iff.mpr (.cons ha (mapM_eq_ok_iff.mp has))⟩

/-- The results of a list are those of its elements. -/
theorem mem_of_mapM {f : α → Except ε β} {as : List α} {bs : List β} (h : as.mapM f = .ok bs)
    (b : β) : b ∈ bs ↔ ∃ a ∈ as, f a = .ok b := by
  refine ⟨exists_of_mem_mapM h b, ?_⟩
  rintro ⟨a, ha, hb⟩
  have hall := mapM_eq_ok_iff.mp h
  clear h
  induction hall with
  | nil => cases ha
  | cons hfirst _ ih =>
    rcases List.mem_cons.mp ha with rfl | ha
    · rw [hb] at hfirst
      cases hfirst
      exact List.mem_cons_self
    · exact List.mem_cons_of_mem _ (ih ha)

/-- A loop that fails does so at one of its elements, and has gone well up to it. -/
theorem exists_split_of_foldlM_error {f : β → α → Except ε β} {e : ε} :
    ∀ {as : List α} {b : β}, as.foldlM f b = .error e →
      ∃ before a after c, as = before ++ a :: after ∧ before.foldlM f b = .ok c ∧
        f c a = .error e
  | [], _, h => by
    rw [List.foldlM_nil] at h
    cases h
  | a :: as, b, h => by
    rw [List.foldlM_cons] at h
    rcases bind_eq_error_iff.mp h with h | ⟨c, hc, h⟩
    · exact ⟨[], a, as, b, rfl, rfl, h⟩
    · obtain ⟨before, a', after, c', rfl, hbefore, h⟩ := exists_split_of_foldlM_error h
      refine ⟨a :: before, a', after, c', rfl, ?_, h⟩
      rw [List.foldlM_cons]
      exact bind_eq_ok_iff.mpr ⟨c, hc, hbefore⟩

theorem exists_of_foldlM_error {f : β → α → Except ε β} {e : ε} {as : List α} {b : β}
    (h : as.foldlM f b = .error e) : ∃ a c, f c a = .error e := by
  obtain ⟨_, a, _, c, -, -, h⟩ := exists_split_of_foldlM_error h
  exact ⟨a, c, h⟩

theorem foldlM_invariant {f : β → α → Except ε β} {P : β → Prop} :
    ∀ {as : List α} {b b' : β}, as.foldlM f b = .ok b' →
      (∀ a ∈ as, ∀ c c', P c → f c a = .ok c' → P c') → P b → P b'
  | [], _, _, h, _, hb => by
    rw [List.foldlM_nil] at h
    cases h
    exact hb
  | a :: as, b, _, h, hstep, hb => by
    rw [List.foldlM_cons] at h
    -- The rest of the loop goes on from where the first step has led.
    obtain ⟨c, hc, h⟩ := bind_eq_ok_iff.mp h
    exact foldlM_invariant h (fun x hx => hstep x (List.mem_cons_of_mem a hx))
      (hstep a List.mem_cons_self b c hb hc)

end Manifest.Except
