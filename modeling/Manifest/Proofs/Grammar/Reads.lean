import Manifest.Proofs.Grammar.Parse

/-!
# What readers read

A reader reads tokens of given kinds if at every stream that begins with such tokens, and goes on
with a token from behind which nothing is taken, it takes exactly these tokens away and answers
something good.  Readers that are put together read what is put together.

## Main definitions

* `TokenStream.Spells` — tokens of given kinds lead from one stream to another.
* `Reads` — a reader takes tokens of given kinds away.
* `Meets` — what the token at the front is like.
* `separated` — pieces with a sign between any two.

## Main results

* `Reads.bind`, `Reads.peek_bind`, `Reads.expect_bind` and the like — one step after another.
* `Reads.separatedList`, `Reads.enclosedList` — lists.
-/

namespace Manifest

open Grammar

/-! ### Streams that begin with tokens of given kinds -/

/-- The first stream begins with tokens of these kinds, and the second one is what is behind
them. -/
def TokenStream.Spells (s : TokenStream) (ks : List TokenKind) (s' : TokenStream) : Prop :=
  ∃ read : List Token, s = ⟨read ++ s'.tokens, s'.stop⟩ ∧ read.map Token.kind = ks

namespace TokenStream

variable {s s' : TokenStream} {k : TokenKind} {ks ks' : List TokenKind}

theorem spells_nil_iff : s.Spells [] s' ↔ s = s' := by
  constructor
  · rintro ⟨read, rfl, hread⟩
    rw [List.map_eq_nil_iff.mp hread]
    rfl
  · rintro rfl
    exact ⟨[], rfl, rfl⟩

theorem spells_cons_iff : s.Spells (k :: ks) s' ↔
    ∃ (token : Token) (r : TokenStream), token.kind = k ∧ s = ⟨token :: r.tokens, r.stop⟩ ∧
      r.Spells ks s' := by
  constructor
  · rintro ⟨read, rfl, hread⟩
    obtain ⟨token, read', rfl, hkind, hrest⟩ := List.map_eq_cons_iff.mp hread
    exact ⟨token, ⟨read' ++ s'.tokens, s'.stop⟩, hkind, rfl, read', rfl, hrest⟩
  · rintro ⟨token, r, rfl, rfl, read, rfl, hread⟩
    exact ⟨token :: read, rfl, by rw [List.map_cons, hread]⟩

theorem spells_append_iff : s.Spells (ks ++ ks') s' ↔ ∃ r, s.Spells ks r ∧ r.Spells ks' s' := by
  constructor
  · rintro ⟨read, rfl, hread⟩
    obtain ⟨first, second, rfl, hfirst, hsecond⟩ := List.map_eq_append_iff.mp hread
    exact ⟨⟨second ++ s'.tokens, s'.stop⟩, ⟨first, by simp, hfirst⟩, second, rfl, hsecond⟩
  · rintro ⟨r, ⟨first, rfl, hfirst⟩, second, rfl, hsecond⟩
    exact ⟨first ++ second, by simp, by rw [List.map_append, hfirst, hsecond]⟩

end TokenStream

/-- What comes first is like this, both in tokens of these kinds and, if there are none, in what
comes next. -/
def Meets (P : TokenKind → Prop) (ks : List TokenKind) (next : TokenKind → Prop) : Prop :=
  match ks with
  | [] => ∀ k, next k → P k
  | k :: _ => P k

namespace Meets

variable {P : TokenKind → Prop} {ks : List TokenKind} {next : TokenKind → Prop}

theorem nil (h : ∀ k, next k → P k) : Meets P [] next := h

theorem anything : Meets (fun _ => True) ks next := by
  cases ks with
  | nil => exact fun _ _ => .intro
  | cons => exact .intro

theorem front (h : Meets P ks next) {s s' : TokenStream} (hs : s.Spells ks s')
    (hnext : next (front s').kind) : P (front s).kind := by
  cases ks with
  | nil =>
    cases TokenStream.spells_nil_iff.mp hs
    exact h _ hnext
  | cons k ks =>
    obtain ⟨token, r, rfl, rfl, -⟩ := TokenStream.spells_cons_iff.mp hs
    exact h

/-- A list that begins in some way does so whatever comes behind it. -/
theorem append {next' : TokenKind → Prop} (h : Meets P ks fun _ => True)
    (ks' : List TokenKind) : Meets P (ks ++ ks') next' := by
  cases ks with
  | nil =>
    have hall : ∀ k, P k := fun k => h k trivial
    cases ks' with
    | nil => exact fun k _ => hall k
    | cons k rest => exact hall k
  | cons k rest => exact h

theorem imp {Q : TokenKind → Prop} (h : Meets P ks next) (hPQ : ∀ k, P k → Q k) :
    Meets Q ks next := by
  cases ks with
  | nil => exact fun k hk => hPQ k (h k hk)
  | cons k rest => exact hPQ k h

theorem mono {next' : TokenKind → Prop} (h : Meets P ks next) (hnext : ∀ k, next' k → next k) :
    Meets P ks next' := by
  cases ks with
  | nil => exact fun k hk => h k (hnext k hk)
  | cons k rest => exact h

end Meets

/-! ### Readers -/

/-- At a stream that begins with tokens of these kinds, with such a token behind them, a reader
takes them away and answers something good. -/
def Reads {α : Type} (p : Parse α) (ks : List TokenKind) (next : TokenKind → Prop)
    (good : α → Prop) : Prop :=
  ∀ s s', s.Spells ks s' → next (front s').kind → ∃ a, p s = .ok (a, s') ∧ good a

namespace Reads

variable {α β : Type} {next next' : TokenKind → Prop} {good : α → Prop} {good' : β → Prop}
  {k : TokenKind} {ks ks' : List TokenKind}

theorem pure {a : α} (h : good a) : Reads (pure a) [] next good := by
  intro s s' hs _
  cases TokenStream.spells_nil_iff.mp hs
  exact ⟨a, rfl, h⟩

theorem mono {p : Parse α} {good₂ : α → Prop} (h : Reads p ks next good)
    (hnext : ∀ k, next' k → next k) (hgood : ∀ a, good a → good₂ a) : Reads p ks next' good₂ := by
  intro s s' hs hk
  obtain ⟨a, ha, hgooda⟩ := h s s' hs (hnext _ hk)
  exact ⟨a, ha, hgood a hgooda⟩

theorem bind {p : Parse α} {f : α → Parse β} (hp : Reads p ks next' good)
    (hmeets : Meets next' ks' next) (hf : ∀ a, good a → Reads (f a) ks' next good') :
    Reads (p >>= f) (ks ++ ks') next good' := by
  intro s s' hs hk
  obtain ⟨r, hfirst, hsecond⟩ := TokenStream.spells_append_iff.mp hs
  obtain ⟨a, ha, hgood⟩ := hp s r hfirst (hmeets.front hsecond hk)
  obtain ⟨b, hb, hgood'⟩ := hf a hgood r s' hsecond hk
  exact ⟨b, (bind_of_ok ha f).trans hb, hgood'⟩

/-- The second part of a sequence takes nothing away. -/
theorem bind_nil {p : Parse α} {f : α → Parse β} (hp : Reads p ks next' good)
    (hnext : ∀ k, next k → next' k) (hf : ∀ a, good a → Reads (f a) [] next good') :
    Reads (p >>= f) ks next good' :=
  List.append_nil ks ▸ Reads.bind hp (Meets.nil hnext) hf

/-! ### Single tokens -/

theorem peek_bind {f : Token → Parse β} {P : TokenKind → Prop} (hmeets : Meets P ks next)
    (hf : ∀ token, P token.kind → Reads (f token) ks next good') :
    Reads (peek >>= f) ks next good' :=
  fun s s' hs hk => hf (front s) (hmeets.front hs hk) s s' hs hk

theorem peek_cons_bind {f : Token → Parse β}
    (hf : ∀ token, token.kind = k → Reads (f token) (k :: ks) next good') :
    Reads (peek >>= f) (k :: ks) next good' :=
  peek_bind (P := (· = k)) rfl hf

theorem advance_bind {f : Token → Parse β}
    (hf : ∀ token, token.kind = k → Reads (f token) ks next good') :
    Reads (advance >>= f) (k :: ks) next good' := by
  intro s s' hs hk
  obtain ⟨token, r, hkind, rfl, hrest⟩ := TokenStream.spells_cons_iff.mp hs
  exact hf token hkind r s' hrest hk

theorem expect_bind {f : Token → Parse β}
    (hf : ∀ token, token.kind = k → Reads (f token) ks next good') :
    Reads (expect k >>= f) (k :: ks) next good' := by
  intro s s' hs hk
  obtain ⟨token, r, hkind, rfl, hrest⟩ := TokenStream.spells_cons_iff.mp hs
  obtain ⟨b, hb, hgood⟩ := hf token hkind r s' hrest hk
  exact ⟨b, (bind_of_ok (expect_cons hkind r) f).trans hb, hgood⟩

theorem expectName_bind {name : String} {f : String → Parse β}
    (hf : Reads (f name) ks next good') :
    Reads (expectName >>= f) (.name name :: ks) next good' := by
  intro s s' hs hk
  obtain ⟨⟨kind, location⟩, r, rfl, rfl, hrest⟩ := TokenStream.spells_cons_iff.mp hs
  exact hf r s' hrest hk

theorem eat_bind {f : Bool → Parse β} (hf : Reads (f true) ks next good') :
    Reads (eat k >>= f) (k :: ks) next good' := by
  intro s s' hs hk
  obtain ⟨token, r, hkind, rfl, hrest⟩ := TokenStream.spells_cons_iff.mp hs
  obtain ⟨b, hb, hgood⟩ := hf r s' hrest hk
  exact ⟨b, (bind_of_ok (eat_cons hkind r) f).trans hb, hgood⟩

/-- Another token is left where it is. -/
theorem eat_bind_of_ne {f : Bool → Parse β} (hmeets : Meets (· ≠ k) ks next)
    (hf : Reads (f false) ks next good') : Reads (eat k >>= f) ks next good' := by
  intro s s' hs hk
  obtain ⟨b, hb, hgood⟩ := hf s s' hs hk
  exact ⟨b, (bind_of_ok (eat_of_ne (hmeets.front hs hk)) f).trans hb, hgood⟩

theorem isNext_bind {f : Bool → Parse β} {b : Bool}
    (hmeets : Meets (fun kind => (kind == k) = b) ks next) (hf : Reads (f b) ks next good') :
    Reads (isNext k >>= f) ks next good' := by
  intro s s' hs hk
  have hnext : isNext k s = .ok (b, s) :=
    congrArg (fun b => Except.ok (b, s)) (hmeets.front hs hk)
  obtain ⟨c, hc, hgood⟩ := hf s s' hs hk
  exact ⟨c, (bind_of_ok hnext f).trans hc, hgood⟩

theorem peekSecond_bind {second : TokenKind} {f : TokenKind → Parse β}
    (hf : Reads (f second) (k :: second :: ks) next good') :
    Reads (peekSecond >>= f) (k :: second :: ks) next good' := by
  intro s s' hs hk
  obtain ⟨b, hb, hgood⟩ := hf s s' hs hk
  obtain ⟨token, r, -, rfl, hrest⟩ := TokenStream.spells_cons_iff.mp hs
  obtain ⟨token', r', rfl, rfl, -⟩ := TokenStream.spells_cons_iff.mp hrest
  exact ⟨b, hb, hgood⟩

end Reads

/-! ### Lists -/

/-- Pieces with a sign between any two. -/
def separated (sign : Symbol) : List (List TokenKind) → List TokenKind
  | [] => []
  | [piece] => piece
  | piece :: more :: rest => piece ++ .symbol sign :: separated sign (more :: rest)

theorem length_le_separated (sign : Symbol) {piece : List TokenKind} :
    ∀ {pieces : List (List TokenKind)}, piece ∈ pieces →
      piece.length ≤ (separated sign pieces).length
  | [_], h => by rw [List.mem_singleton.mp h]; exact Nat.le_refl _
  | first :: more :: rest, h => by
    rw [separated, List.length_append, List.length_cons]
    rcases List.mem_cons.mp h with rfl | h
    · omega
    · have hrest := length_le_separated sign h
      omega

/-- There is a sign behind every piece but the last one. -/
theorem length_le_succ_separated (sign : Symbol) :
    ∀ pieces : List (List TokenKind), pieces.length ≤ (separated sign pieces).length + 1
  | [] => Nat.zero_le _
  | [_] => Nat.succ_le_succ (Nat.zero_le _)
  | first :: more :: rest => by
    have hrest := length_le_succ_separated sign (more :: rest)
    simp only [separated, List.length_append, List.length_cons] at hrest ⊢
    omega

/-- A list is read item by item if each of its items is read behind those before it, and it neither
stops before an item nor goes on behind the last one. -/
theorem Reads.separatedList {α γ : Type} {sign : Symbol} {stops : TokenKind → Bool}
    {item : List α → Parse α} {tokens : α → List TokenKind} {items : List α} (bare : α → γ)
    (next : TokenKind → Prop)
    (hitem : ∀ before a after, items = before ++ a :: after →
      ∀ found : List α, found.map bare = before.map bare →
        Reads (item found) (tokens a) (fun k => k = .symbol sign ∨ next k)
          (fun a' => bare a' = bare a))
    (hstart : ∀ a ∈ items, Meets (fun k => stops k = false) (tokens a) fun _ => True)
    (hnext : ∀ k, next k → k ≠ .symbol sign)
    (hstop : items = [] → ∀ k, next k → stops k = true) :
    ∀ {rounds : Nat}, (separated sign (items.map tokens)).length < rounds →
      Reads (Grammar.separatedList sign stops item rounds []) (separated sign (items.map tokens))
        next (fun found => found.map bare = items.map bare) := by
  -- The induction is on the items that are left, behind those that are found.
  have hrest : ∀ (after before : List α) {rounds : Nat} (found : List α),
      items = before ++ after → found.map bare = before.map bare → after.length ≤ rounds →
        (after = [] → ∀ k, next k → stops k = true) →
        Reads (Grammar.separatedList sign stops item rounds found)
          (separated sign (after.map tokens)) next
          (fun result => result.map bare = items.map bare) := by
    intro after
    induction after with
    | nil =>
      intro before rounds found hitems hfound _ hstops
      rw [List.append_nil] at hitems
      have hdone : found.map bare = items.map bare := by rw [hfound, hitems]
      cases rounds with
      | zero => exact .pure hdone
      | succ rounds =>
        rw [Grammar.separatedList]
        refine .peek_bind (P := fun k => stops k = true) (hstops rfl) fun token htoken => ?_
        rw [if_pos htoken]
        exact .pure hdone
    | cons a after ih =>
      intro before rounds found hitems hfound hrounds _
      cases rounds with
      | zero => exact absurd hrounds (Nat.not_succ_le_zero _)
      | succ rounds =>
        have hfound' : ∀ a' : α, bare a' = bare a →
            (found ++ [a']).map bare = (before ++ [a]).map bare := by
          intro a' ha'
          simp [hfound, ha']
        have hitems' : items = (before ++ [a]) ++ after := by simp [hitems]
        have hmem : a ∈ items := by simp [hitems]
        rw [Grammar.separatedList]
        cases after with
        | nil =>
          rw [List.map_singleton, separated, ← List.append_nil (tokens a)]
          refine .peek_bind ((hstart a hmem).append []) fun token htoken => ?_
          rw [if_neg (by simp [htoken])]
          refine (hitem before a [] hitems found hfound).bind (fun k => Or.inr) fun a' ha' => ?_
          refine .eat_bind_of_ne hnext ?_
          rw [if_neg Bool.false_ne_true]
          exact .pure (by rw [hfound' a' ha', hitems', List.append_nil])
        | cons b rest =>
          rw [List.map_cons, List.map_cons, separated, ← List.map_cons (f := tokens)]
          refine .peek_bind ((hstart a hmem).append _) fun token htoken => ?_
          rw [if_neg (by simp [htoken])]
          refine (hitem before a _ hitems found hfound).bind (Or.inl rfl) fun a' ha' => ?_
          refine .eat_bind ?_
          rw [if_pos rfl]
          exact ih (before ++ [a]) (found ++ [a']) hitems' (hfound' a' ha')
            (Nat.le_of_succ_le_succ hrounds) (fun h => by cases h)
  intro rounds hrounds
  have hlength := length_le_succ_separated sign (items.map tokens)
  rw [List.length_map] at hlength
  exact hrest items [] [] rfl rfl (by omega) hstop

/-- A list up to a closing sign, in which no item begins with that sign. -/
theorem Reads.enclosedList {α γ : Type} {close : Symbol} {item : List α → Parse α}
    {tokens : α → List TokenKind} {bare : α → γ} {items : List α} (next : TokenKind → Prop)
    (hclose : close ≠ .comma)
    (hitem : ∀ before a after, items = before ++ a :: after →
      ∀ found : List α, found.map bare = before.map bare →
        Reads (item found) (tokens a) (fun k => k = .symbol .comma ∨ k = .symbol close)
          (fun a' => bare a' = bare a))
    (hstart : ∀ a ∈ items, Meets (· ≠ .symbol close) (tokens a) fun _ => True)
    {bound : Nat} (hbound : (separated .comma (items.map tokens)).length < bound) :
    Reads (Grammar.enclosedList close item bound)
      (separated .comma (items.map tokens) ++ [.symbol close]) next
      (fun found => found.map bare = items.map bare) := by
  rw [Grammar.enclosedList]
  refine (Reads.separatedList bare (· = .symbol close) hitem (fun a ha => ?_) ?_ ?_ hbound).bind rfl
    fun found hfound => .expect_bind fun _ _ => .pure hfound
  · exact (hstart a ha).imp fun k hk => by simpa using hk
  · rintro k rfl
    simpa using hclose
  · rintro - k rfl
    simp

end Manifest
