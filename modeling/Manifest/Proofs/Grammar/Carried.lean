import Manifest.Proofs.Grammar.Parse
import Manifest.Proofs.Tree.Relocated

/-!
# Readers at streams with more behind them

A reader looks at the tokens that it takes away and at one more.  What it reads from a stream it
reads as well when all places in the stream are moved and other tokens stand behind it, unless it
comes to the end of the stream and goes on with one of those.  The second reader may have another
bound than the first one, which is enough if it exceeds the number of tokens.

## Main definitions

* `Extension` — moving the places of a stream and putting tokens behind it.
* `continuations`, `Extension.Loose` — the tokens with which a reader goes on that could stop.
* `Carried` — what one reader reads from a stream another one reads from the extended stream.

## Main results

* `Carried.bind`, `Carried.peek_bind`, `Carried.eat_bind` and the like — one step after another.
* `Carried.bind_taking` — what is read before a closing sign is not read at the end of the stream.
* `Carried.separatedList`, `Carried.enclosedList` — lists.
-/

namespace Manifest.Grammar

/-! ### Extensions -/

/-- Moving the places of a stream and putting other tokens behind it. -/
structure Extension where
  move : Location → Location
  behind : TokenStream

/-- The tokens with which a reader goes on that could stop before them. -/
def continuations : List TokenKind :=
  [.symbol .leftBrace, .symbol .leftBracket, .symbol .leftParen, .symbol .comma, .symbol .equal,
   .symbol .notEqual, .symbol .arrow, .symbol .tildeArrow, .keyword .andWord, .keyword .orWord,
   .keyword .inheritsWord, .keyword .elsifWord, .keyword .elseWord]

namespace Extension

variable (x : Extension)

/-- The moved and extended stream. -/
def apply (s : TokenStream) : TokenStream :=
  ⟨s.tokens.map (Token.relocate x.move) ++ x.behind.tokens, x.behind.stop⟩

/-- No reader that could stop at the end of the stream goes on with what is put behind it. -/
def Loose : Prop := (front x.behind).kind ∉ continuations

variable {x} in
theorem Loose.ne (h : x.Loose) {k : TokenKind} (hk : k ∈ continuations) :
    (front x.behind).kind ≠ k := by
  rintro rfl
  exact h hk

theorem front_apply {s : TokenStream} (hs : s.tokens ≠ []) :
    front (x.apply s) = (front s).relocate x.move := by
  obtain ⟨tokens, stop⟩ := s
  cases tokens with
  | nil => exact absurd rfl hs
  | cons token rest => rfl

theorem front_apply_nil {s : TokenStream} (hs : s.tokens = []) :
    front (x.apply s) = front x.behind := by
  rw [apply, hs]
  rfl

end Extension

/-! ### Carried readers -/

/-- What a reader reads from a stream, leaving less than so many tokens, another one reads from the
moved and extended stream, with its places moved.  Where the first one leaves nothing, this is said
under a condition only. -/
def Carried {α β : Type} (x : Extension) (atEnd : Prop) (n : Nat) (s : TokenStream) (p : Parse α)
    (q : Parse β) (move : α → β) : Prop :=
  ∀ a s', p s = .ok (a, s') → s'.tokens <:+ s.tokens ∧ s'.tokens.length < n ∧
    (s'.tokens ≠ [] ∨ atEnd → q (x.apply s) = .ok (move a, x.apply s'))

namespace Carried

variable {α β γ δ : Type} {x : Extension} {atEnd : Prop} {n n' : Nat} {s : TokenStream}
  {p : Parse α} {q : Parse β} {move : α → β} {k : TokenKind}

theorem pure {a : α} {b : β} (hn : s.tokens.length < n) (hb : b = move a) :
    Carried x atEnd n s (pure a) (pure b) move := by
  rintro a' s' h
  cases h
  cases hb
  exact ⟨List.suffix_rfl, hn, fun _ => rfl⟩

/-- A reader that fails reads nothing. -/
theorem unexpected {e : Expectation} : Carried x atEnd n s (unexpected e) q move := nofun

theorem throw {e : ParseError} : Carried x atEnd n s (throw e) q move := nofun

theorem mono (h : Carried x atEnd n s p q move) (hn : n ≤ n') :
    Carried x atEnd n' s p q move := fun a s' hp => by
  obtain ⟨hsuffix, hlength, hcarry⟩ := h a s' hp
  exact ⟨hsuffix, Nat.lt_of_lt_of_le hlength hn, hcarry⟩

/-- A reader that takes tokens away reads nothing where there are none. -/
theorem of_nil {q' : Parse γ} {move' : α → γ} (h : Carried x atEnd s.tokens.length s p q move)
    (hs : s.tokens = []) : Carried x atEnd n s p q' move' := fun a s' hp => by
  obtain ⟨-, hlength, -⟩ := h a s' hp
  rw [hs] at hlength
  exact absurd hlength (Nat.not_lt_zero _)

theorem bind {f : α → Parse γ} {g : β → Parse δ} {move' : γ → δ}
    (hp : Carried x atEnd n s p q move)
    (hf : ∀ a s', s'.tokens.length < n → Carried x atEnd n' s' (f a) (g (move a)) move') :
    Carried x atEnd n' s (p >>= f) (q >>= g) move' := by
  intro c s'' h
  obtain ⟨a, s', ha, hc⟩ := bind_eq_ok_iff.mp h
  obtain ⟨hsuffix, hlength, hcarry⟩ := hp a s' ha
  obtain ⟨hsuffix', hlength', hcarry'⟩ := hf a s' hlength c s'' hc
  refine ⟨hsuffix'.trans hsuffix, hlength', fun hend => ?_⟩
  have hend' : s'.tokens ≠ [] ∨ atEnd := by
    refine hend.imp_left fun hne hnil => hne ?_
    rwa [hnil, List.suffix_nil] at hsuffix'
  rw [bind_of_ok (hcarry hend') g]
  exact hcarry' hend

/-- What is read before something else that takes a token away is not read at the end of the
stream. -/
theorem bind_taking {f : α → Parse γ} {g : β → Parse δ} {move' : γ → δ}
    (hp : Carried x False (n + 1) s p q move)
    (hf : ∀ a s', Carried x atEnd s'.tokens.length s' (f a) (g (move a)) move') :
    Carried x atEnd n s (p >>= f) (q >>= g) move' := by
  intro c s'' h
  obtain ⟨a, s', ha, hc⟩ := bind_eq_ok_iff.mp h
  obtain ⟨hsuffix, hlength, hcarry⟩ := hp a s' ha
  obtain ⟨hsuffix', hlength', hcarry'⟩ := hf a s' c s'' hc
  refine ⟨hsuffix'.trans hsuffix, by omega, fun hend => ?_⟩
  have hne : s'.tokens ≠ [] := List.length_pos_iff.mp (Nat.zero_lt_of_lt hlength')
  rw [bind_of_ok (hcarry (.inl hne)) g]
  exact hcarry' hend

/-! ### Single tokens -/

/-- At the end of the stream the second reader goes on with what stands behind; there it has to be
the reader `q` that stops as the first one does. -/
theorem peek_bind {f : Token → Parse α} {g : Token → Parse β}
    (hcons : s.tokens ≠ [] →
      Carried x atEnd n s (f (front s)) (g ((front s).relocate x.move)) move)
    (hnil : s.tokens = [] → Carried x atEnd n s (f ⟨.eof, s.stop⟩) q move)
    (hq : atEnd → g (front x.behind) = q) :
    Carried x atEnd n s (peek >>= f) (peek >>= g) move := by
  intro a s' h
  have hfirst : f (front s) s = .ok (a, s') := h
  have hsecond : (peek >>= g) (x.apply s) = g (front (x.apply s)) (x.apply s) := rfl
  rw [hsecond]
  by_cases hs : s.tokens = []
  · rw [front, hs] at hfirst
    obtain ⟨hsuffix, hlength, hcarry⟩ := hnil hs a s' hfirst
    refine ⟨hsuffix, hlength, fun hend => ?_⟩
    -- Nothing is left either, so this is the case that the condition is for.
    rw [hs, List.suffix_nil] at hsuffix
    have hatEnd : atEnd := hend.resolve_left fun hne => hne hsuffix
    rw [x.front_apply_nil hs, hq hatEnd]
    exact hcarry hend
  · rw [x.front_apply hs]
    exact hcons hs a s' hfirst

theorem advance (hs : s.tokens ≠ []) :
    Carried x atEnd s.tokens.length s advance advance (Token.relocate x.move) := by
  obtain ⟨tokens, stop⟩ := s
  cases tokens with
  | nil => exact absurd rfl hs
  | cons token rest =>
    intro a s' h
    cases h
    exact ⟨List.suffix_cons token rest, Nat.lt_succ_self _, fun _ => rfl⟩

theorem expect (hk : k ≠ .eof) :
    Carried x atEnd s.tokens.length s (expect k) (expect k) (Token.relocate x.move) := by
  refine peek_bind (fun hs => ?_) (fun _ => ?_) fun _ => rfl
  · by_cases hkind : (front s).kind = k
    · simp only [Token.relocate, hkind, beq_self_eq_true, if_true]
      exact advance hs
    · simp only [hkind, beq_iff_eq, if_false]
      exact unexpected
  · rw [if_neg (by simpa using Ne.symm hk)]
    exact unexpected

theorem expectName : Carried x atEnd s.tokens.length s expectName expectName id := by
  refine peek_bind (fun hs => ?_) (fun _ => unexpected) fun _ => rfl
  generalize front s = token
  obtain ⟨kind, location⟩ := token
  cases kind with
  | name text => exact bind (advance hs) fun _ _ hlength => pure hlength rfl
  | keyword | typeName | variableName | string | template | integer | symbol | eof =>
    exact unexpected

/-- What is done depends on the kind of the next token, and the end of the stream has to be of the
same sort as the token that stands behind it. -/
theorem kind_bind {c : TokenKind → Bool} {p' : Parse α} {q' : Parse β}
    (hend : atEnd → c (front x.behind).kind = c .eof)
    (hthen : c (front s).kind = true → Carried x atEnd n s p q move)
    (helse : Carried x atEnd n s p' q' move) :
    Carried x atEnd n s (peek >>= fun token => if c token.kind then p else p')
      (peek >>= fun token => if c token.kind then q else q') move := by
  have hboth : ∀ kind, (front s).kind = kind →
      Carried x atEnd n s (if c kind then p else p') (if c kind then q else q') move := by
    rintro kind rfl
    by_cases hkind : c (front s).kind = true
    · rw [if_pos hkind, if_pos hkind]
      exact hthen hkind
    · rw [if_neg hkind, if_neg hkind]
      exact helse
  refine peek_bind (fun _ => hboth _ rfl) (fun hs => hboth .eof ?_) fun h => by rw [hend h]
  rw [front, hs]
  rfl

theorem isNext_bind {f : Bool → Parse α} {g : Bool → Parse β} (hk : k ≠ .eof)
    (hne : atEnd → (front x.behind).kind ≠ k)
    (htrue : (front s).kind = k → Carried x atEnd n s (f true) (g true) move)
    (hfalse : Carried x atEnd n s (f false) (g false) move) :
    Carried x atEnd n s (isNext k >>= f) (isNext k >>= g) move := by
  have hnext : ∀ {γ : Type} (h : Bool → Parse γ), (isNext k >>= h) =
      peek >>= fun token => if token.kind == k then h true else h false := by
    intro γ h
    rw [isNext, bind_assoc]
    refine bind_congr fun token => ?_
    rw [pure_bind]
    cases token.kind == k <;> rfl
  rw [hnext, hnext]
  refine kind_bind (c := (· == k)) (fun h => ?_) (fun h => htrue (beq_iff_eq.mp h)) hfalse
  rw [beq_eq_false_iff_ne.mpr (hne h), beq_eq_false_iff_ne.mpr (Ne.symm hk)]

theorem eat_bind {f : Bool → Parse α} {g : Bool → Parse β} (hk : k ≠ .eof)
    (hne : atEnd → (front x.behind).kind ≠ k)
    (htrue : ∀ s', s'.tokens.length < s.tokens.length →
      Carried x atEnd n s' (f true) (g true) move)
    (hfalse : Carried x atEnd n s (f false) (g false) move) :
    Carried x atEnd n s (eat k >>= f) (eat k >>= g) move := by
  have heat : ∀ {γ : Type} (h : Bool → Parse γ), (eat k >>= h) = isNext k >>= fun next =>
      if next then Grammar.advance >>= fun _ => h true else h false := by
    intro γ h
    rw [eat, isNext, bind_assoc, bind_assoc]
    refine bind_congr fun token => ?_
    rw [pure_bind]
    split
    · rw [bind_assoc]
      rfl
    · rw [pure_bind]
  rw [heat, heat]
  refine isNext_bind hk hne (fun hkind => ?_) hfalse
  have hs : s.tokens ≠ [] := by
    intro hnil
    rw [front, hnil] at hkind
    exact hk hkind.symm
  exact bind (advance hs) fun _ s' hlength => htrue s' hlength

/-- The second token stands behind the stream if the first one is the last one, and whoever takes
that one away has come to the end. -/
theorem peekSecond_bind {p' : Parse α} {q' : Parse β} (hs : s.tokens ≠ []) (hk : k ≠ .eof)
    (hne : atEnd → (front x.behind).kind ≠ k)
    (hthen : Carried x atEnd s.tokens.length s p q move)
    (helse : Carried x atEnd s.tokens.length s p' q' move) :
    Carried x atEnd s.tokens.length s (peekSecond >>= fun kind => if kind == k then p else p')
      (peekSecond >>= fun kind => if kind == k then q else q') move := by
  obtain ⟨tokens, stop⟩ := s
  rcases tokens with _ | ⟨token, _ | ⟨second, rest⟩⟩
  · exact absurd rfl hs
  · intro a s' h
    change (if TokenKind.eof == k then p else p') _ = _ at h
    rw [if_neg (by simpa using Ne.symm hk)] at h
    obtain ⟨hsuffix, hlength, hcarry⟩ := helse a s' h
    refine ⟨hsuffix, hlength, fun hend => ?_⟩
    have hatEnd : atEnd := hend.resolve_left fun hleft =>
      hleft (List.length_eq_zero_iff.mp (Nat.lt_one_iff.mp hlength))
    change (if (front x.behind).kind == k then q else q') _ = _
    rw [if_neg (by simpa using hne hatEnd)]
    exact hcarry hend
  · intro a s' h
    change (if second.kind == k then p else p') _ = _ at h
    change _ ∧ _ ∧ (_ → (if second.kind == k then q else q') _ = _)
    by_cases hkind : second.kind = k
    · rw [if_pos (beq_iff_eq.mpr hkind)] at h ⊢
      exact hthen a s' h
    · rw [if_neg (by simpa using hkind)] at h ⊢
      exact helse a s' h

/-! ### Lists -/

theorem separatedList {separator : Symbol} {stops : TokenKind → Bool} {item : List α → Parse α}
    {item' : List β → Parse β} (hstops : atEnd → stops (front x.behind).kind = stops .eof)
    (hseparator : atEnd → (front x.behind).kind ≠ .symbol separator) :
    ∀ {b b' : Nat} {s : TokenStream} {found : List α},
      (∀ found s', s'.tokens.length ≤ s.tokens.length →
        Carried x atEnd s'.tokens.length s' (item found) (item' (found.map move)) move) →
      s.tokens.length < b → s.tokens.length < b' → s.tokens.length < n →
        Carried x atEnd n s (separatedList separator stops item b found)
          (separatedList separator stops item' b' (found.map move)) (List.map move)
  | 0, _, _, _, _, hb, _, _ => absurd hb (Nat.not_lt_zero _)
  | _, 0, _, _, _, _, hb', _ => absurd hb' (Nat.not_lt_zero _)
  | b + 1, b' + 1, s, found, hitem, hb, hb', hn => by
    refine kind_bind hstops (fun _ => pure hn rfl) ?_
    refine bind (hitem found s (Nat.le_refl _)) fun a s₁ h₁ => ?_
    have hmap : found.map move ++ [move a] = (found ++ [a]).map move := by simp
    rw [hmap]
    refine eat_bind nofun hseparator (fun s₂ h₂ => ?_) (pure (by omega) rfl)
    exact separatedList hstops hseparator (fun found s' h' => hitem found s' (by omega))
      (by omega) (by omega) (by omega)

theorem enclosedList {close : Symbol} {item : List α → Parse α} {item' : List β → Parse β}
    {b b' : Nat}
    (hitem : ∀ found s', s'.tokens.length ≤ s.tokens.length →
      Carried x False s'.tokens.length s' (item found) (item' (found.map move)) move)
    (hb : s.tokens.length < b) (hb' : s.tokens.length < b') (hn : s.tokens.length ≤ n) :
    Carried x atEnd n s (enclosedList close item b) (enclosedList close item' b')
      (List.map move) := by
  have hfound : Carried x False (n + 1) s
      (Grammar.separatedList .comma (· == .symbol close) item b [])
      (Grammar.separatedList .comma (· == .symbol close) item' b' []) (List.map move) :=
    separatedList False.elim False.elim hitem hb hb' (Nat.lt_succ_of_le hn)
  refine bind_taking hfound fun found s' => ?_
  exact bind (expect nofun) fun _ _ hlength => pure hlength rfl

end Carried

end Manifest.Grammar
