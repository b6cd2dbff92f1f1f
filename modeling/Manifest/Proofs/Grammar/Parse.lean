import Manifest.Grammar.Stream

/-!
# Running readers

What is known of the parts of a reader that has succeeded at a stream.

## Main results

* `Grammar.bind_eq_ok_iff` — both parts of a sequence have succeeded.
* `Grammar.bind_congr_of_ok` — what comes second matters only for what the first part answers.
* `Grammar.expect_cons`, `Grammar.eat_cons`, `Grammar.eat_of_ne` — taking the next token away.
-/

namespace Manifest.Grammar

variable {α β : Type}

theorem bind_apply (m : Parse α) (f : α → Parse β) (s : TokenStream) :
    (m >>= f) s = match m s with
      | .ok (a, t) => f a t
      | .error e => .error e := by
  change (m s >>= fun r => f r.1 r.2) = _
  cases m s <;> rfl

theorem bind_of_ok {m : Parse α} {s t : TokenStream} {a : α} (h : m s = .ok (a, t))
    (f : α → Parse β) : (m >>= f) s = f a t := by
  rw [bind_apply, h]

theorem bind_eq_ok_iff {m : Parse α} {f : α → Parse β} {s s' : TokenStream} {b : β} :
    (m >>= f) s = .ok (b, s') ↔ ∃ a t, m s = .ok (a, t) ∧ f a t = .ok (b, s') := by
  rw [bind_apply]
  rcases m s with e | ⟨a, t⟩
  · exact ⟨fun h => (by cases h), fun ⟨_, _, h, _⟩ => (by cases h)⟩
  · exact ⟨fun h => ⟨a, t, rfl, h⟩, fun ⟨_, _, h, hf⟩ => (by cases h; exact hf)⟩

/-- Two sequences are equal if they begin alike and go on alike from everything that the first part
can answer. -/
theorem bind_congr_of_ok {m : Parse α} {f g : α → Parse β}
    (h : ∀ a s s', m s = .ok (a, s') → f a s' = g a s') : m >>= f = m >>= g := by
  funext s
  rw [bind_apply, bind_apply]
  rcases hm : m s with e | ⟨a, t⟩
  · rfl
  · exact h a s t hm

/-! ### The next token -/

variable {k : TokenKind} {token : Token} {s : TokenStream}

theorem expect_cons (h : token.kind = k) (r : TokenStream) :
    expect k ⟨token :: r.tokens, r.stop⟩ = .ok (token, r) := by
  change (if token.kind == k then advance else unexpected (.token k)) _ = _
  rw [if_pos (beq_iff_eq.mpr h)]
  rfl

theorem eat_cons (h : token.kind = k) (r : TokenStream) :
    eat k ⟨token :: r.tokens, r.stop⟩ = .ok (true, r) := by
  change (if token.kind == k then _ else _ : Parse Bool) _ = _
  rw [if_pos (beq_iff_eq.mpr h)]
  rfl

theorem eat_of_ne (h : (front s).kind ≠ k) : eat k s = .ok (false, s) := by
  change (if (front s).kind == k then _ else _ : Parse Bool) _ = _
  rw [if_neg (by simpa using h)]
  rfl

end Manifest.Grammar
