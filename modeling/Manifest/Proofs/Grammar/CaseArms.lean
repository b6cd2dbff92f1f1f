import Manifest.Proofs.Grammar.FullReading

/-!
# A `case` as it is written

The grammar turns a `case` into a conditional while it reads it: the values of a branch become one
guard, and `default` goes to the end.  Here the same tokens are read into what is written there, the
subject and the branches with their values, in the order in which they stand.  The conditional is
then made from that, and it is the one that the grammar makes.

## Main definitions

* `CaseArm` — a branch of a `case` with its values, or `default`.
* `WrittenCase` — a `case` with its branches.
* `WrittenCase.lowered` — the conditional for it.
* `Grammar.writtenCase` — reading a `case`.

## Main results

* `Grammar.caseStatement_eq` — the grammar reads a `case` and makes the conditional for it.
* `Grammar.hasValues_of_writtenCase` — every branch but `default` has a value.
-/

namespace Manifest

/-! ### Branches with their values -/

/-- A branch of a `case`. -/
inductive CaseArm
  /-- It is for a subject that equals one of the values. -/
  | choice (values : List Expr) (body : List Statement) (location : Location)
  /-- It is written `default`. -/
  | fallback (body : List Statement) (location : Location)

namespace CaseArm

/-- Whether a branch is a `default`. -/
def isFallback : CaseArm → Bool
  | choice .. => false
  | fallback .. => true

/-- The values that a branch is for. -/
def exprs : CaseArm → List Expr
  | choice values _ _ => values
  | fallback .. => []

def body : CaseArm → List Statement
  | choice _ body _ | fallback body _ => body

/-- A branch has a value unless it is a `default`. -/
def HasValues (arm : CaseArm) : Prop := arm.isFallback = false → arm.exprs ≠ []

/-- The branch of the conditional. -/
def branch (subject : Expr) : CaseArm → Branch
  | choice values body location => .mk (Grammar.caseGuard subject values) body location
  | fallback body location => .mk none body location

end CaseArm

/-- A `case`. -/
structure WrittenCase where
  subject : Expr
  /-- The branches in the order in which they are written. -/
  arms : List CaseArm
  location : Location

namespace WrittenCase

/-- The conditional for a `case`: the branches with values stand as they are written, and behind
them the last `default`. -/
def lowered (c : WrittenCase) : Statement :=
  .conditional (Branch.settled (c.arms.map (CaseArm.branch c.subject))) c.location

end WrittenCase

namespace Grammar

/-! ### Reading them -/

/-- Reads the branches of a `case` up to the closing brace. -/
def caseArms (inner : Parse Statement) (bound : Nat) : Nat → Parse (List CaseArm)
  | 0 => return []
  | rounds + 1 => do
    let token ← peek
    if token.kind == .symbol .rightBrace then return []
    if ← eat (.keyword .defaultWord) then
      let _ ← expect (.symbol .colon)
      let body ← block inner bound
      return .fallback body token.location :: (← caseArms inner bound rounds)
    else
      let values ← separatedList .comma (fun _ => false) (fun _ => expression bound) bound []
      let _ ← expect (.symbol .colon)
      let body ← block inner bound
      return .choice values body token.location :: (← caseArms inner bound rounds)

/-- Reads a `case` as it is written. -/
def caseOf (inner : Parse Statement) (bound : Nat) : Parse WrittenCase := do
  let start ← expect (.keyword .caseWord)
  let subject ← expression bound
  let _ ← expect (.symbol .leftBrace)
  let arms ← caseArms inner bound bound
  let _ ← expect (.symbol .rightBrace)
  return ⟨subject, arms, start.location⟩

/-- Reads a `case` inside the definition `space`, nested less deep than a bound. -/
def writtenCase : Nat → Option String → Parse WrittenCase
  | 0, _ => unexpected .statement
  | bound + 1, space => caseOf (statement bound space) (bound + 1)

section Lowering

variable (inner : Parse Statement) (bound : Nat)

theorem fullCaseBranches_eq (subject : Expr) : ∀ rounds,
    fullCaseBranches inner subject bound rounds =
      List.map (CaseArm.branch subject) <$> caseArms inner bound rounds
  | 0 => by
    rw [fullCaseBranches, caseArms, map_pure]
    rfl
  | rounds + 1 => by
    simp only [fullCaseBranches, caseArms, map_bind]
    refine bind_congr fun token => ?_
    split
    · rw [map_pure]
      rfl
    rw [map_bind]
    refine bind_congr fun isDefault => ?_
    cases isDefault with
    | true =>
      simp only [if_true, map_bind, bind_map_left, map_pure, fullCaseBranches_eq subject rounds,
        List.map_cons, CaseArm.branch]
    | false =>
      simp only [Bool.false_eq_true, if_false, map_bind, bind_map_left, map_pure,
        fullCaseBranches_eq subject rounds, List.map_cons, CaseArm.branch]

/-- The grammar makes the conditional for what is written. -/
theorem caseStatement_eq :
    caseStatement inner (bound + 1) = WrittenCase.lowered <$> caseOf inner (bound + 1) := by
  simp only [caseStatement, caseOf, caseBranches_eq_settled, fullCaseBranches_eq, map_bind,
    bind_map_left, map_pure, WrittenCase.lowered]

end Lowering

/-- A statement that begins with `case` is the conditional for what is written there. -/
theorem statement_of_case {bound : Nat} {space : Option String} {stream : TokenStream}
    (h : (front stream).kind = .keyword .caseWord) :
    statement bound space stream = (WrittenCase.lowered <$> writtenCase bound space) stream := by
  cases bound with
  | zero => rfl
  | succ bound =>
    rw [writtenCase, ← caseStatement_eq, statement, statementOf]
    have hpeek : ∀ f : Token → Parse Statement,
        (peek >>= f) stream = f (front stream) stream := fun _ => rfl
    rw [hpeek]
    simp only [h]

/-! ### Values -/

variable {inner : Parse Statement} {bound : Nat}

theorem hasValues_of_caseArms : ∀ {rounds : Nat} {s s' : TokenStream} {arms : List CaseArm},
    caseArms inner (bound + 1) rounds s = .ok (arms, s') → ∀ arm ∈ arms, arm.HasValues
  | 0, _, _, _, h => by
    cases h
    nofun
  | rounds + 1, s, s', arms, h => by
    rw [caseArms] at h
    obtain ⟨token, t, -, h⟩ := bind_eq_ok_iff.mp h
    split at h
    · cases h
      nofun
    obtain ⟨isDefault, t₁, -, h⟩ := bind_eq_ok_iff.mp h
    cases isDefault with
    | true =>
      obtain ⟨_, t₂, -, h⟩ := bind_eq_ok_iff.mp h
      obtain ⟨body, t₃, -, h⟩ := bind_eq_ok_iff.mp h
      obtain ⟨rest, t₄, hrest, h⟩ := bind_eq_ok_iff.mp h
      cases h
      exact List.forall_mem_cons.mpr ⟨nofun, hasValues_of_caseArms hrest⟩
    | false =>
      obtain ⟨values, t₂, hvalues, h⟩ := bind_eq_ok_iff.mp h
      obtain ⟨_, t₃, -, h⟩ := bind_eq_ok_iff.mp h
      obtain ⟨body, t₄, -, h⟩ := bind_eq_ok_iff.mp h
      obtain ⟨rest, t₅, hrest, h⟩ := bind_eq_ok_iff.mp h
      cases h
      have hne := separatedList_ne_nil hvalues (Or.inr (Nat.succ_ne_zero bound))
      exact List.forall_mem_cons.mpr ⟨fun _ => hne, hasValues_of_caseArms hrest⟩

/-- Every branch that is written has a value or is a `default`. -/
theorem hasValues_of_writtenCase {space : Option String} {s s' : TokenStream} {c : WrittenCase}
    (h : writtenCase bound space s = .ok (c, s')) : ∀ arm ∈ c.arms, arm.HasValues := by
  cases bound with
  | zero => cases h
  | succ bound =>
    rw [writtenCase, caseOf] at h
    obtain ⟨start, t₁, -, h⟩ := bind_eq_ok_iff.mp h
    obtain ⟨subject, t₂, -, h⟩ := bind_eq_ok_iff.mp h
    obtain ⟨_, t₃, -, h⟩ := bind_eq_ok_iff.mp h
    obtain ⟨arms, t₄, harms, h⟩ := bind_eq_ok_iff.mp h
    obtain ⟨_, t₅, -, h⟩ := bind_eq_ok_iff.mp h
    cases h
    exact hasValues_of_caseArms harms

end Grammar

end Manifest
