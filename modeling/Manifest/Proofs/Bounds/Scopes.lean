import Manifest.Proofs.Bounds.Evaluator
import Manifest.Proofs.Evaluation.Operations
import Manifest.Proofs.Scope

/-!
# Numbers of scopes that name scopes

A number of a scope is given out when the scope is added, and scopes stay.  So the numbers that a
state keeps, as parents, for classes and in resources, name scopes of this state and of all later
ones, and looking them up first makes no difference.

## Main definitions

* `EvalState.IsSound` — every number that a state keeps names one of its scopes.
* `Checked.Agrees` — two computations do the same as long as there are some scopes already.

## Main results

* `Checked.outwards?_eq` — a scope that is there has all scopes around it.
* `Checked.Agrees.bind` and the rules behind it — parts that agree make wholes that agree.
* `Checked.agrees_readVariable`, `Checked.agrees_setVariable`, `Checked.agrees_newScope`,
  `Checked.agrees_place` — the operations agree in a scope that is there.
-/

namespace Manifest

open Evaluation

/-! ### Sound states -/

/-- Every number of a scope that a state keeps names one of its scopes, and what is around a scope
is older. -/
structure EvalState.IsSound (s : EvalState) : Prop where
  size_pos : 0 < s.scopes.size
  parents : ∀ id parent, id < s.scopes.size → (s.scopes.get id).parent = some parent → parent < id
  classes : ∀ name id, s.classScopes.get? name = some id → id < s.scopes.size
  resources : ∀ r ∈ s.catalog.resources.values, r.scope < s.scopes.size

namespace EvalState

variable {s : EvalState}

theorem isSound_start (setting : Setting) : (EvalState.start setting).IsSound where
  size_pos := Nat.one_pos
  parents := by
    rintro id parent h hparent
    obtain rfl : id = 0 := Nat.lt_one_iff.mp h
    cases hparent
  classes := by
    intro name id h
    rw [EvalState.start, Table.ofList, List.foldl_cons, List.foldl_nil, Table.get?_insert] at h
    split at h
    · cases h
      exact Nat.one_pos
    · cases h
  resources := by
    intro r hr
    obtain rfl := List.mem_singleton.mp hr
    exact Nat.one_pos

theorem IsSound.setVariable (h : s.IsSound) {scope : ScopeId} {name : String} {value : Value}
    {location : Location} {scopes : ScopeArena}
    (hset : s.scopes.setVariable scope name value location = .ok scopes) :
    IsSound { s with scopes := scopes } := by
  have hsize : scopes.size = s.scopes.size := ScopeArena.size_setVariable hset
  refine ⟨?_, ?_, ?_, ?_⟩
  · exact hsize ▸ h.size_pos
  · intro id parent hid hparent
    obtain ⟨bindings, hget⟩ := ScopeArena.get_setVariable hset id
    simp only [hget] at hparent
    exact h.parents id parent (hsize ▸ hid) hparent
  · exact fun name id hid => hsize ▸ h.classes name id hid
  · exact fun r hr => hsize ▸ h.resources r hr

theorem IsSound.child (h : s.IsSound) {parent : ScopeId} (hparent : parent < s.scopes.size)
    (space : String) (owner : Reference) :
    IsSound { s with scopes := s.scopes.child parent space owner } := by
  have hlt : ∀ id, id < s.scopes.size → id < (s.scopes.child parent space owner).size := by
    intro id hid
    rw [ScopeArena.size_child]
    exact Nat.lt_succ_of_lt hid
  refine ⟨hlt 0 h.size_pos, ?_, ?_, ?_⟩
  · -- Only the new scope has a parent that was not there as one before.
    intro id outer hid houter
    simp only [ScopeArena.get_child] at houter
    split at houter
    · next hnew => exact hnew ▸ Option.some.inj houter ▸ hparent
    · next hold =>
      rw [ScopeArena.size_child] at hid
      exact h.parents id outer (Nat.lt_of_le_of_ne (Nat.le_of_lt_succ hid) hold) houter
  · exact fun name id hid => hlt id (h.classes name id hid)
  · exact fun r hr => hlt r.scope (h.resources r hr)

/-- A class gets a scope that is there. -/
theorem IsSound.giveScope (h : s.IsSound) (name : String) {scope : ScopeId}
    (hscope : scope < s.scopes.size) :
    IsSound { s with classScopes := s.classScopes.insert name scope } := by
  refine ⟨h.size_pos, h.parents, fun other id hid => ?_, h.resources⟩
  rw [Table.get?_insert] at hid
  split at hid
  · exact Option.some.inj hid ▸ hscope
  · exact h.classes other id hid

theorem IsSound.place (h : s.IsSound) {r : Resource} {c c' : Catalog} {e : Edge}
    (hr : r.scope < s.scopes.size) (add : s.catalog.addResource r = .ok c)
    (contain : c.addEdge e = .ok c') : IsSound { s with catalog := c' } := by
  refine ⟨h.size_pos, h.parents, h.classes, fun q hq => ?_⟩
  simp only [Catalog.resources_addEdge contain, Table.values, Catalog.entries_addResource add,
    List.map_append, List.mem_append] at hq
  rcases hq with hq | hq
  · exact h.resources q hq
  · exact List.mem_singleton.mp hq ▸ hr

/-- Where a definition is evaluated that stands in another one, there is a scope. -/
theorem IsSound.lexicalParent_lt (h : s.IsSound) (enclosing : Option String) :
    s.lexicalParent enclosing < s.scopes.size := by
  unfold lexicalParent
  cases hid : enclosing.bind s.classScopes.get? with
  | none => exact h.size_pos
  | some id =>
    obtain ⟨name, -, hname⟩ := Option.bind_eq_some_iff.mp hid
    exact h.classes name id hname

end EvalState

namespace Checked

variable {fault : EvalError} {s : EvalState} {scope : ScopeId} {n : Nat}

/-! ### Looking scopes up -/

theorem getElem?_eq_some {a : ScopeArena} {id : ScopeId} (h : id < a.size) :
    a.scopes[id]? = some (a.get id) := by
  rw [ScopeArena.get, Array.getElem?_eq_getElem h, Option.getD_some]

theorem scopeAt_apply (h : scope < s.scopes.size) :
    scopeAt fault scope s = .ok (s.scopes.get scope) s := by
  rw [scopeAt, get_bind_apply, getElem?_eq_some h]
  rfl

/-- In a scope that is there, nothing depends on having looked. -/
theorem scopeAt_bind_apply {α : Type} (h : scope < s.scopes.size) (f : Scope → Eval α) :
    (scopeAt fault scope >>= f) s = f (s.scopes.get scope) s := by
  rw [bind_apply, scopeAt_apply h]

/-- A scope that is there has all scopes around it. -/
theorem outwards?_eq {a : ScopeArena}
    (h : ∀ id parent, id < a.size → (a.get id).parent = some parent → parent < id)
    (id : ScopeId) (hid : id < a.size) : outwards? a id = some ((a.ancestors id).map a.get) := by
  -- The scope around another one is older, but it need not be the one that came just before.
  induction id using Nat.strongRecOn with
  | ind id ih =>
    unfold outwards? ScopeArena.ancestors
    rw [getElem?_eq_some hid]
    simp only
    cases hparent : (a.get id).parent with
    | none => rfl
    | some parent =>
      have hlt : parent < id := h id parent hid hparent
      simp only [dif_pos hlt, ih parent hlt (Nat.lt_trans hlt hid), Option.map_some,
        List.map_cons]

theorem outwards_apply (hs : s.IsSound) (h : scope < s.scopes.size) :
    outwards fault scope s = .ok ((s.scopes.ancestors scope).map s.scopes.get) s := by
  rw [outwards, get_bind_apply, outwards?_eq hs.parents scope h]
  rfl

/-- Every place where a variable is looked for is there. -/
theorem valueOf_apply (hs : s.IsSound) (h : scope < s.scopes.size) (name : String) :
    valueOf fault scope name s = .ok (s.valueOf? scope name) s := by
  unfold valueOf EvalState.valueOf?
  simp only
  cases Name.splitLast? ((Name.absolute? name).getD name) with
  | some path =>
    obtain ⟨space, last⟩ := path
    simp only [get_bind_apply]
    cases hid : s.classScopes.get? (Text.lower space) with
    | none => rfl
    | some id =>
      -- The class has kept the number of its scope.
      simp only [scopeAt_bind_apply (hs.classes _ id hid)]
      rfl
  | none =>
    cases Name.absolute? name with
    | some full =>
      have htop : ScopeArena.top < s.scopes.size := hs.size_pos
      simp only [scopeAt_bind_apply htop]
      rfl
    | none =>
      simp only [bind_apply, outwards_apply hs h, ScopeArena.resolve?]
      rw [List.findSome?_map]
      rfl

/-! ### Agreement -/

/-- From every sound state with at least `n` scopes, two computations are the same and lead to a
sound state again, and their answer has a property among the scopes that there are then. -/
def Agrees {α : Type} (n : Nat) (P : Nat → α → Prop) (m₁ m₂ : Eval α) : Prop :=
  ∀ s : EvalState, s.IsSound → n ≤ s.scopes.size →
    m₁ s = m₂ s ∧
      ∀ a s', m₂ s = .ok a s' → s'.IsSound ∧ s.scopes.size ≤ s'.scopes.size ∧ P s'.scopes.size a

/-- Nothing is asked of an answer. -/
abbrev anything {α : Type} : Nat → α → Prop := fun _ _ => True

/-- An answer is the number of a scope. -/
abbrev isScope : Nat → ScopeId → Prop := fun size id => id < size

namespace Agrees

variable {α β : Type} {P : Nat → α → Prop} {Q : Nat → β → Prop} {m₁ m₂ : Eval α}
  {f₁ f₂ : α → Eval β}

theorem pure {a : α} (h : ∀ k, n ≤ k → P k a) : Agrees n P (pure a) (pure a) := by
  intro s hs hn
  refine ⟨rfl, ?_⟩
  rintro _ _ ⟨⟩
  exact ⟨hs, Nat.le_refl _, h _ hn⟩

/-- An answer of which nothing is asked. -/
theorem any (a : α) : Agrees n anything (Pure.pure a) (Pure.pure a) := .pure fun _ _ => trivial

theorem throw (e : EvalError) : Agrees n P (throw e) (throw e) :=
  fun _ _ _ => ⟨rfl, fun _ _ h => by cases h⟩

theorem bind (h : Agrees n P m₁ m₂) (hf : ∀ k a, n ≤ k → P k a → Agrees k Q (f₁ a) (f₂ a)) :
    Agrees n Q (m₁ >>= f₁) (m₂ >>= f₂) := by
  intro s hs hn
  obtain ⟨heq, hm⟩ := h s hs hn
  rw [bind_apply, bind_apply, heq]
  cases h₂ : m₂ s with
  | error e s' => exact ⟨rfl, fun _ _ h => by cases h⟩
  | ok a s' =>
    obtain ⟨hs', hle, ha⟩ := hm a s' h₂
    -- The second part begins with the scopes that the first one has left.
    obtain ⟨heq', hf'⟩ := hf s'.scopes.size a (Nat.le_trans hn hle) ha s' hs' (Nat.le_refl _)
    refine ⟨heq', fun b s'' hb => ?_⟩
    obtain ⟨hs'', hle', hQ⟩ := hf' b s'' hb
    exact ⟨hs'', Nat.le_trans hle hle', hQ⟩

/-- What comes after a first part whatever that answers. -/
theorem after (h : Agrees n P m₁ m₂) (hf : ∀ k a, n ≤ k → Agrees k Q (f₁ a) (f₂ a)) :
    Agrees n Q (m₁ >>= f₁) (m₂ >>= f₂) :=
  h.bind fun k a hk _ => hf k a hk

/-- An answer is made of another one. -/
theorem map (h : Agrees n P m₁ m₂) {g : α → β} (hg : ∀ k a, P k a → ∀ l, k ≤ l → Q l (g a)) :
    Agrees n Q (m₁ >>= fun a => Pure.pure (g a)) (m₂ >>= fun a => Pure.pure (g a)) :=
  h.bind fun k a _ ha => .pure (hg k a ha)

/-- Nothing is asked of an answer that is made of another one. -/
theorem made (h : Agrees n P m₁ m₂) {g : α → β} :
    Agrees n anything (m₁ >>= fun a => Pure.pure (g a)) (m₂ >>= fun a => Pure.pure (g a)) :=
  h.after fun _ a _ => .any (g a)

theorem ite {c : Prop} [Decidable c] {m₃ m₄ : Eval α} (h : Agrees n P m₁ m₂)
    (h' : Agrees n P m₃ m₄) : Agrees n P (if c then m₁ else m₃) (if c then m₂ else m₄) := by
  split
  · exact h
  · exact h'

theorem forM {f₁ f₂ : α → Eval PUnit} : ∀ {as : List α} {n : Nat},
    (∀ a ∈ as, ∀ k, n ≤ k → Agrees k anything (f₁ a) (f₂ a)) →
      Agrees n anything (as.forM f₁) (as.forM f₂)
  | [], _, _ => .any _
  | a :: _, n, h =>
    (h a List.mem_cons_self n (Nat.le_refl n)).after fun _ _ hk =>
      forM fun b hb l hl => h b (List.mem_cons_of_mem a hb) l (Nat.le_trans hk hl)

theorem mapM : ∀ {as : List α} {n : Nat},
    (∀ a ∈ as, ∀ k, n ≤ k → Agrees k anything (f₁ a) (f₂ a)) →
      Agrees n anything (as.mapM f₁) (as.mapM f₂)
  | [], _, _ => .any _
  | a :: _, n, h => by
    rw [List.mapM_cons, List.mapM_cons]
    refine (h a List.mem_cons_self n (Nat.le_refl n)).after fun k b hk => ?_
    exact (mapM fun c hc l hl => h c (List.mem_cons_of_mem a hc) l (Nat.le_trans hk hl)).made

theorem foldlM {f₁ f₂ : β → α → Eval β} : ∀ {as : List α} {b : β} {n : Nat},
    (∀ a ∈ as, ∀ b k, n ≤ k → Agrees k anything (f₁ b a) (f₂ b a)) →
      Agrees n anything (as.foldlM f₁ b) (as.foldlM f₂ b)
  | [], _, _, _ => .any _
  | a :: as, b, n, h => by
    rw [List.foldlM_cons, List.foldlM_cons]
    refine (h a List.mem_cons_self b n (Nat.le_refl n)).after fun k c hk => ?_
    exact foldlM fun d hd e l hl => h d (List.mem_cons_of_mem a hd) e l (Nat.le_trans hk hl)

end Agrees

/-! ### Operations -/

theorem agrees_report (e : Event) : Agrees n anything (report e) (report e) := by
  intro s hs _
  refine ⟨rfl, ?_⟩
  rintro _ _ ⟨⟩
  exact ⟨⟨hs.size_pos, hs.parents, hs.classes, hs.resources⟩, Nat.le_refl _, trivial⟩

theorem agrees_relate (r : Relationship) : Agrees n anything (relate r) (relate r) := by
  intro s hs _
  refine ⟨rfl, ?_⟩
  rintro _ _ ⟨⟩
  exact ⟨⟨hs.size_pos, hs.parents, hs.classes, hs.resources⟩, Nat.le_refl _, trivial⟩

theorem agrees_readVariable (h : scope < n) (setting : Setting) (name : String)
    (location : Location) :
    Agrees n anything (readVariable fault setting scope name location)
      (Evaluation.readVariable setting scope name location) := by
  intro s hs hn
  have hvalue : valueOf fault scope name s = .ok (s.valueOf? scope name) s :=
    valueOf_apply hs (Nat.lt_of_lt_of_le h hn) name
  rw [readVariable, bind_apply, hvalue, readVariable_apply]
  cases s.valueOf? scope name with
  | some value => exact Agrees.any value s hs hn
  | none =>
    cases setting.strict with
    | true => exact Agrees.throw (.undefinedVariable name location) s hs hn
    | false => exact Agrees.any Value.absent s hs hn

theorem agrees_setVariable (h : scope < n) (name : String) (value : Value)
    (location : Location) :
    Agrees n anything (setVariable fault scope name value location)
      (Evaluation.setVariable scope name value location) := by
  intro s hs hn
  refine ⟨by rw [setVariable, scopeAt_bind_apply (Nat.lt_of_lt_of_le h hn)], fun _ s' hs' => ?_⟩
  rw [setVariable_apply] at hs'
  cases hset : s.scopes.setVariable scope name value location with
  | error e => rw [hset] at hs'; cases hs'
  | ok scopes =>
    rw [hset] at hs'
    cases hs'
    exact ⟨hs.setVariable hset, Nat.le_of_eq (ScopeArena.size_setVariable hset).symm, trivial⟩

theorem agrees_newScope {parent : ScopeId} (h : parent < n) (space : String)
    (owner : Reference) :
    Agrees n isScope (newScope fault parent space owner)
      (Evaluation.newScope parent space owner) := by
  intro s hs hn
  have hparent : parent < s.scopes.size := Nat.lt_of_lt_of_le h hn
  refine ⟨by rw [newScope, scopeAt_bind_apply hparent], ?_⟩
  rintro _ _ ⟨⟩
  refine ⟨hs.child hparent space owner, ?_, ?_⟩
  · exact ScopeArena.size_child _ _ _ _ ▸ Nat.le_succ _
  · exact ScopeArena.next_lt_size_child _ _ _ _

theorem agrees_giveScope (h : scope < n) (name : String) :
    Agrees n anything
      (modify fun s => { s with classScopes := s.classScopes.insert name scope } : Eval Unit)
      (modify fun s => { s with classScopes := s.classScopes.insert name scope }) := by
  intro s hs hn
  refine ⟨rfl, ?_⟩
  rintro _ _ ⟨⟩
  exact ⟨hs.giveScope name (Nat.lt_of_lt_of_le h hn), Nat.le_refl _, trivial⟩

theorem contain_eq (h : scope < s.scopes.size) (reference : Reference) :
    contain fault scope reference s = Evaluation.contain scope reference s := by
  rw [contain, scopeAt_bind_apply h]
  rfl

theorem agrees_place (h : scope < n) {r : Resource} (hr : r.scope < n) :
    Agrees n anything (place fault scope r) (Evaluation.place scope r) := by
  intro s hs hn
  have hrs : r.scope < s.scopes.size := Nat.lt_of_lt_of_le hr hn
  refine ⟨?_, fun _ s' hs' => ?_⟩
  · rw [place, scopeAt_bind_apply hrs, Evaluation.place, bind_apply, bind_apply,
      addResource_apply]
    cases s.catalog.addResource r with
    | error e => rfl
    | ok c => exact contain_eq (s := { s with catalog := c }) (Nat.lt_of_lt_of_le h hn) r.reference
  · obtain ⟨c, c', add, contain, rfl⟩ := place_eq_ok hs'
    exact ⟨hs.place hrs add contain, Nat.le_refl _, trivial⟩

end Checked

end Manifest
