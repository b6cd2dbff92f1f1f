import Manifest.Proofs.Grammar.Parse

/-!
# Readers in step

A reader that has come to the end of input does not go past it.  So it does the same at a stream
that ends where the input ends, and at one in which the end of input is a token like the others and
more tokens stand behind it: it answers the same or fails alike, and it takes the same tokens away.
And it does the same under any two bounds that exceed the number of tokens.

## Main definitions

* `TokenStream.followed` — a stream with the end of input and more tokens behind it.
* `Grammar.Room` — two bounds are the same, or there is enough room under both of them.
* `Grammar.InStep` — two readers do the same, one at a stream and one at the followed stream.

## Main results

* `Grammar.InStep.bind`, `Grammar.InStep.eat_bind` and the like — one step after another.
* `Grammar.InStep.separatedList`, `Grammar.InStep.enclosedList` — lists.
-/

namespace Manifest

/-- A stream with the end of input behind its last token, and other tokens behind that one. -/
def TokenStream.followed (s : TokenStream) : Option (List Token × Location) → TokenStream
  | none => s
  | some (more, stop) => ⟨s.tokens ++ ⟨.eof, s.stop⟩ :: more, stop⟩

/-- The tokens that lead from a stream to what is left of it, none of which is the end of input. -/
def TokenStream.Takes (s : TokenStream) (taken : List Token) (s' : TokenStream) : Prop :=
  s = ⟨taken ++ s'.tokens, s'.stop⟩ ∧ ∀ t ∈ taken, t.kind ≠ .eof

namespace TokenStream

variable {s s' s'' : TokenStream} {taken taken' : List Token}

theorem takes_nil (s : TokenStream) : s.Takes [] s := ⟨rfl, nofun⟩

theorem Takes.trans (h : s.Takes taken s') (h' : s'.Takes taken' s'') :
    s.Takes (taken ++ taken') s'' := by
  obtain ⟨rfl, htaken⟩ := h
  obtain ⟨rfl, htaken'⟩ := h'
  exact ⟨by rw [List.append_assoc], List.forall_mem_append.mpr ⟨htaken, htaken'⟩⟩

theorem Takes.length_eq (h : s.Takes taken s') :
    s.tokens.length = taken.length + s'.tokens.length := by
  obtain ⟨rfl, -⟩ := h
  exact List.length_append

end TokenStream

namespace Grammar

variable {x : Option (List Token × Location)}

@[simp] theorem front_followed (s : TokenStream) : front (s.followed x) = front s := by
  obtain ⟨tokens, stop⟩ := s
  cases x <;> cases tokens <;> rfl

/-- A stream that shows another token than the end of input begins with it. -/
theorem exists_of_front {s : TokenStream} (h : (front s).kind ≠ .eof) :
    ∃ rest, s = ⟨front s :: rest, s.stop⟩ := by
  obtain ⟨tokens, stop⟩ := s
  cases tokens with
  | nil => exact absurd rfl h
  | cons token rest => exact ⟨rest, rfl⟩

/-! ### Bounds -/

/-- Two bounds are the same, or both of them exceed the number of tokens. -/
def Room (b b' : Nat) (s : TokenStream) : Prop :=
  b = b' ∨ s.tokens.length < b ∧ s.tokens.length < b'

namespace Room

variable {b b' : Nat} {s s' : TokenStream}

theorem mono (h : Room b b' s) (hs : s'.tokens.length ≤ s.tokens.length) : Room b b' s' := by
  unfold Room at h ⊢
  omega

/-- There is room one level deeper if a token has been taken away. -/
theorem pred (h : Room (b + 1) (b' + 1) s) (hs : s'.tokens.length < s.tokens.length) :
    Room b b' s' := by
  unfold Room at h ⊢
  omega

theorem not_zero_succ : ¬ Room 0 (b + 1) s := by
  unfold Room
  omega

theorem not_succ_zero : ¬ Room (b + 1) 0 s := by
  unfold Room
  omega

end Room

/-! ### Readers -/

/-- Two readers do the same, one at a stream and one at the followed stream.  What is left are less
than so many tokens, and the end of input is not taken away. -/
structure InStep {α : Type} (x : Option (List Token × Location)) (n : Nat) (s : TokenStream)
    (p q : Parse α) : Prop where
  same : q (s.followed x) = (p s).map (Prod.map id (TokenStream.followed · x))
  takes : ∀ a s', p s = .ok (a, s') → s'.tokens.length < n ∧ ∃ taken, s.Takes taken s'

namespace InStep

variable {α β : Type} {n n' : Nat} {s : TokenStream} {p q : Parse α} {k : TokenKind}

theorem pure {a : α} (hn : s.tokens.length < n) : InStep x n s (pure a) (pure a) where
  same := rfl
  takes := by
    rintro _ _ ⟨⟩
    exact ⟨hn, [], TokenStream.takes_nil s⟩

theorem unexpected {e : Expectation} : InStep x n s (unexpected e : Parse α) (unexpected e) where
  same := by
    change Except.error (ParseError.unexpectedToken e (front (s.followed x)).kind
      (front (s.followed x)).location) = _
    rw [front_followed]
    rfl
  takes := nofun

theorem throw {e : ParseError} : InStep x n s (throw e : Parse α) (throw e) where
  same := rfl
  takes := nofun

theorem mono (h : InStep x n s p q) (hn : n ≤ n') : InStep x n' s p q where
  same := h.same
  takes a s' ha := ⟨Nat.lt_of_lt_of_le (h.takes a s' ha).1 hn, (h.takes a s' ha).2⟩

theorem bind {f g : α → Parse β} (hp : InStep x n s p q)
    (hf : ∀ a s', s'.tokens.length < n → InStep x n' s' (f a) (g a)) :
    InStep x n' s (p >>= f) (q >>= g) where
  same := by
    rw [bind_apply, bind_apply, hp.same]
    rcases hps : p s with e | ⟨a, s'⟩
    · rfl
    · exact (hf a s' (hp.takes a s' hps).1).same
  takes := by
    intro b s'' h
    obtain ⟨a, s', ha, hb⟩ := bind_eq_ok_iff.mp h
    obtain ⟨hlength, taken, htaken⟩ := hp.takes a s' ha
    obtain ⟨hlength', taken', htaken'⟩ := (hf a s' hlength).takes b s'' hb
    exact ⟨hlength', taken ++ taken', htaken.trans htaken'⟩

/-! ### Single tokens -/

theorem peek_bind {f g : Token → Parse α} (h : InStep x n s (f (front s)) (g (front s))) :
    InStep x n s (peek >>= f) (peek >>= g) where
  same := by
    change g (front (s.followed x)) (s.followed x) = _
    rw [front_followed]
    exact h.same
  takes := h.takes

theorem advance (hk : (front s).kind ≠ .eof) : InStep x s.tokens.length s advance advance where
  same := by
    obtain ⟨rest, hs⟩ := exists_of_front hk
    rw [hs]
    cases x <;> rfl
  takes := by
    obtain ⟨rest, hs⟩ := exists_of_front hk
    rw [hs]
    rintro _ _ ⟨⟩
    refine ⟨Nat.lt_succ_self _, [front s], rfl, ?_⟩
    simpa using hk

theorem expect (hk : k ≠ .eof) : InStep x s.tokens.length s (expect k) (expect k) := by
  refine peek_bind ?_
  split
  · next hkind => exact advance fun heof => hk ((beq_iff_eq.mp hkind).symm.trans heof)
  · exact unexpected

theorem expectName : InStep x s.tokens.length s expectName expectName := by
  refine peek_bind ?_
  cases hkind : (front s).kind with
  | name text =>
    exact bind (advance (by rw [hkind]; nofun)) fun _ _ hlength => pure hlength
  | keyword | typeName | variableName | string | template | integer | symbol | eof =>
    exact unexpected

theorem isNext_bind {f g : Bool → Parse α}
    (htrue : (front s).kind = k → InStep x n s (f true) (g true))
    (hfalse : InStep x n s (f false) (g false)) :
    InStep x n s (isNext k >>= f) (isNext k >>= g) := by
  rw [isNext, bind_assoc, bind_assoc]
  refine peek_bind ?_
  rw [pure_bind, pure_bind]
  cases hkind : (front s).kind == k with
  | true => exact htrue (beq_iff_eq.mp hkind)
  | false => exact hfalse

theorem eat_bind {f g : Bool → Parse α} (hk : k ≠ .eof)
    (htrue : ∀ s', s'.tokens.length < s.tokens.length → InStep x n s' (f true) (g true))
    (hfalse : InStep x n s (f false) (g false)) :
    InStep x n s (eat k >>= f) (eat k >>= g) := by
  rw [eat, bind_assoc, bind_assoc]
  refine peek_bind ?_
  split
  · next hkind =>
    have heof : (front s).kind ≠ .eof := fun heof => hk ((beq_iff_eq.mp hkind).symm.trans heof)
    rw [bind_assoc, bind_assoc]
    refine bind (advance heof) fun _ s' hlength => ?_
    rw [pure_bind, pure_bind]
    exact htrue s' hlength
  · rw [pure_bind, pure_bind]
    exact hfalse

/-- The second token is looked at only if the first one is not the end of input. -/
theorem peekSecond_bind {f g : TokenKind → Parse α} (hk : (front s).kind ≠ .eof)
    (h : ∀ kind, InStep x n s (f kind) (g kind)) :
    InStep x n s (peekSecond >>= f) (peekSecond >>= g) := by
  obtain ⟨rest, hs⟩ := exists_of_front hk
  have hsecond : (front { s.followed x with tokens := (s.followed x).tokens.tail }) =
      front { s with tokens := s.tokens.tail } := by
    rw [hs]
    cases x <;> cases rest <;> rfl
  have hbind : ∀ (h : TokenKind → Parse α) (t : TokenStream),
      (peekSecond >>= h) t = h (front { t with tokens := t.tokens.tail }).kind t :=
    fun _ _ => rfl
  have hsame := h (front { s with tokens := s.tokens.tail }).kind
  refine ⟨?_, ?_⟩
  · rw [hbind, hbind, hsecond]
    exact hsame.same
  · intro a s' ha
    rw [hbind] at ha
    exact hsame.takes a s' ha

/-! ### Lists -/

theorem separatedList {separator : Symbol} {stops : TokenKind → Bool}
    {item item' : List α → Parse α} : ∀ {b b' : Nat} {s : TokenStream} {found : List α},
      (∀ found s', s'.tokens.length ≤ s.tokens.length →
        InStep x s'.tokens.length s' (item found) (item' found)) →
      Room b b' s → s.tokens.length < n →
        InStep x n s (separatedList separator stops item b found)
          (separatedList separator stops item' b' found)
  | 0, 0, _, _, _, _, hn => pure hn
  | 0, _ + 1, _, _, _, hroom, _ => absurd hroom Room.not_zero_succ
  | _ + 1, 0, _, _, _, hroom, _ => absurd hroom Room.not_succ_zero
  | b + 1, b' + 1, s, found, hitem, hroom, hn => by
    refine peek_bind ?_
    split
    · exact pure hn
    · refine bind (hitem found s (Nat.le_refl _)) fun a s₁ h₁ => ?_
      refine eat_bind nofun (fun s₂ h₂ => ?_) (pure (Nat.lt_trans h₁ hn))
      exact separatedList (fun found s' h' => hitem found s' (by omega))
        (hroom.pred (Nat.lt_trans h₂ h₁)) (by omega)

theorem enclosedList {close : Symbol} {item item' : List α → Parse α} {b b' : Nat}
    (hitem : ∀ found s', s'.tokens.length ≤ s.tokens.length →
      InStep x s'.tokens.length s' (item found) (item' found))
    (hroom : Room b b' s) (hn : s.tokens.length ≤ n) :
    InStep x n s (enclosedList close item b) (enclosedList close item' b') := by
  refine bind (separatedList hitem hroom (Nat.lt_succ_of_le hn)) fun found s₁ h₁ => ?_
  refine bind (expect nofun) fun _ s₂ h₂ => pure ?_
  omega

end InStep

end Grammar

end Manifest
