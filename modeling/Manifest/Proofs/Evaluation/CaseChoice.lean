import Manifest.Proofs.Evaluation.Operations
import Manifest.Proofs.Grammar.CaseArms

/-!
# The branch of a `case` that is executed

The guard that the grammar makes of the values of a branch is a chain of comparisons, each of which
evaluates the subject once more.  Nothing changes while literals, templates, variables, arrays and
operators are evaluated, so the subject has the same value every time, and the guard holds if one of
the values equals it.  Hence the conditional for a `case` executes what one expects who reads it:
the first branch that has such a value, and if there is none, `default`.

## Main definitions

* `Expr.IsSimple` — expressions of literals, templates, variables, arrays and operators.
* `Evaluation.Unchanging` — an evaluation that leaves the state as it was.
* `CaseArm.Matches` — one of the values of a branch equals the subject.
* `WrittenCase.Chooses` — the block that a `case` executes.

## Main results

* `Evaluation.unchanging_evaluate` — simple expressions change nothing.
* `Evaluation.tells_caseGuard` — the guard of a branch holds if one of its values equals the
  subject.
* `Evaluation.execute_case` — the conditional for a `case` executes the block that is chosen.
-/

namespace Manifest

/-! ### Simple expressions -/

mutual

/-- An expression is made from literals, templates, variables, arrays and operators. -/
def Expr.IsSimple : Expr → Prop
  | .array items _ => AreSimple items
  | .not operand _ => operand.IsSimple
  | .binary _ left right _ => left.IsSimple ∧ right.IsSimple
  | .reference .. | .call .. | .relationship .. => False
  | .string .. | .template .. | .integer .. | .bool .. | .absent _ | .bareword ..
  | .variableRead .. => True

/-- Expressions are made so. -/
def AreSimple : List Expr → Prop
  | [] => True
  | e :: rest => e.IsSimple ∧ AreSimple rest

end

namespace Evaluation

/-! ### Evaluations that change nothing -/

/-- If it succeeds, an evaluation leaves the state as it was. -/
def Unchanging {α : Type} (m : Eval α) : Prop := ∀ s a s', m s = .ok a s' → s' = s

section Unchanging

variable {α β : Type}

theorem Unchanging.pure (a : α) : Unchanging (pure a) := by
  intro s b s' h
  cases h
  rfl

theorem Unchanging.bind {m : Eval α} {f : α → Eval β} (hm : Unchanging m)
    (hf : ∀ a, Unchanging (f a)) : Unchanging (m >>= f) := by
  intro s b s'' h
  obtain ⟨a, s', ha, hb⟩ := bind_eq_ok h
  rw [hf a s' b s'' hb, hm s a s' ha]

theorem Unchanging.mapM {f : α → Eval β} (hf : ∀ a, Unchanging (f a)) :
    ∀ as : List α, Unchanging (as.mapM f)
  | [] => by
    rw [List.mapM_nil]
    exact .pure _
  | a :: as => by
    rw [List.mapM_cons]
    exact (hf a).bind fun b => (Unchanging.mapM hf as).bind fun bs => .pure _

end Unchanging

variable (setting : Setting) (enter : Enter) (scope : ScopeId)

theorem unchanging_readVariable (name : String) (location : Location) :
    Unchanging (readVariable setting scope name location) := by
  intro s v s' h
  rw [readVariable_apply] at h
  split at h
  · cases h
    rfl
  · split at h
    · cases h
    · cases h
      rfl

theorem unchanging_pieceText (location : Location) :
    ∀ piece, Unchanging (pieceText setting scope location piece)
  | .literal _ => .pure _
  | .interpolated name =>
    (unchanging_readVariable setting scope name location).bind fun _ => .pure _

mutual

/-- Evaluating a simple expression changes nothing. -/
theorem unchanging_evaluate : ∀ e : Expr, e.IsSimple → Unchanging (evaluate setting enter scope e)
  | .string .., _ | .bareword .., _ | .integer .., _ | .bool .., _ | .absent _, _ => by
    rw [evaluate]
    exact .pure _
  | .template parts location, _ => by
    rw [evaluate]
    exact (Unchanging.mapM (unchanging_pieceText setting scope location) parts).bind
      fun _ => .pure _
  | .variableRead name location, _ => by
    rw [evaluate]
    exact unchanging_readVariable setting scope name location
  | .array items _, h => by
    rw [Expr.IsSimple] at h
    rw [evaluate]
    exact (unchanging_evaluateAll items h).bind fun _ => .pure _
  | .not operand _, h => by
    rw [Expr.IsSimple] at h
    rw [evaluate]
    exact (unchanging_evaluate operand h).bind fun _ => .pure _
  | .binary op left right _, h => by
    rw [Expr.IsSimple] at h
    rw [evaluate]
    refine (unchanging_evaluate left h.1).bind fun l => ?_
    have hright := unchanging_evaluate right h.2
    -- The right operand of a connective may not be evaluated at all.
    cases op with
    | equal | notEqual => exact hright.bind fun _ => .pure _
    | and =>
      dsimp only
      split
      · exact hright.bind fun _ => .pure _
      · exact .pure _
    | or =>
      dsimp only
      split
      · exact .pure _
      · exact hright.bind fun _ => .pure _
  | .reference .., h | .call .., h | .relationship .., h => by
    rw [Expr.IsSimple] at h
    exact h.elim

theorem unchanging_evaluateAll : ∀ es : List Expr, AreSimple es →
    Unchanging (evaluateAll setting enter scope es)
  | [], _ => by
    rw [evaluateAll]
    exact .pure _
  | e :: rest, h => by
    rw [AreSimple] at h
    rw [evaluateAll]
    exact (unchanging_evaluate e h.1).bind fun _ =>
      (unchanging_evaluateAll rest h.2).bind fun _ => .pure _

end

end Evaluation

/-! ### What is chosen -/

section Choice

variable (setting : Setting) (enter : Enter) (scope : ScopeId) (s : EvalState)

/-- In a state an expression has a value. -/
def Expr.Yields (e : Expr) (v : Value) : Prop :=
  ∃ s', Evaluation.evaluate setting enter scope e s = .ok v s'

/-- In a state two expressions have values that are equal as `==` has it. -/
def Expr.Equals (left right : Expr) : Prop :=
  ∃ v w, left.Yields setting enter scope s v ∧ right.Yields setting enter scope s w ∧
    v.looseEq w = true

/-- In a state one of the values of a branch equals the subject; a `default` has none. -/
def CaseArm.Matches (subject : Expr) (arm : CaseArm) : Prop :=
  ∃ e ∈ arm.exprs, subject.Equals setting enter scope s e

namespace WrittenCase

/-- The subject and the values of all branches. -/
def exprs (c : WrittenCase) : List Expr := c.subject :: c.arms.flatMap CaseArm.exprs

/-- The block that a `case` executes in a state. -/
inductive Chooses (c : WrittenCase) : List Statement → Prop
  /-- That of the first branch which matches, where a `default` does not count. -/
  | choice {before behind : List CaseArm} {arm : CaseArm}
    (written : c.arms = before ++ arm :: behind)
    (first : ∀ a ∈ before, ¬ a.Matches setting enter scope s c.subject)
    (found : arm.Matches setting enter scope s c.subject) : Chooses c arm.body
  /-- That of a `default`, wherever it stands, if no branch matches. -/
  | fallback {arm : CaseArm}
    (unmatched : ∀ a ∈ c.arms, ¬ a.Matches setting enter scope s c.subject)
    (mem : arm ∈ c.arms) (isFallback : arm.isFallback = true) : Chooses c arm.body
  /-- Nothing is executed if no branch matches and there is no `default`. -/
  | nothing (unmatched : ∀ a ∈ c.arms, ¬ a.Matches setting enter scope s c.subject)
    (noFallback : ∀ a ∈ c.arms, a.isFallback = false) : Chooses c []

open Classical in
/-- Some block is chosen. -/
theorem exists_chooses (c : WrittenCase) : ∃ block, c.Chooses setting enter scope s block := by
  cases hfound : c.arms.find? fun a => a.Matches setting enter scope s c.subject with
  | some arm =>
    obtain ⟨hmatches, before, behind, hwritten, hfirst⟩ := List.find?_eq_some_iff_append.mp hfound
    exact ⟨_, .choice hwritten (by simpa using hfirst) (of_decide_eq_true hmatches)⟩
  | none =>
    have hunmatched : ∀ a ∈ c.arms, ¬ a.Matches setting enter scope s c.subject := by
      simpa using hfound
    by_cases hfallback : ∃ arm ∈ c.arms, arm.isFallback = true
    · obtain ⟨arm, hmem, harm⟩ := hfallback
      exact ⟨_, .fallback hunmatched hmem harm⟩
    · exact ⟨_, .nothing hunmatched (by simpa using hfallback)⟩

end WrittenCase

end Choice

namespace Evaluation

/-! ### Guards -/

section Guards

variable {setting : Setting} {enter : Enter} {scope : ScopeId} {s : EvalState}
  {p q : Prop} {subject left right e : Expr}

variable (setting enter scope s) in
/-- In a state an expression has a value, and nothing changes when it is evaluated. -/
def Steady (e : Expr) : Prop := ∃ v, evaluate setting enter scope e s = .ok v s

variable (setting enter scope s) in
/-- In a state an expression says whether something holds, and nothing changes. -/
def Tells (e : Expr) (p : Prop) : Prop :=
  ∃ b, evaluate setting enter scope e s = .ok (.bool b) s ∧ (b = true ↔ p)

theorem steady_of_isSimple (h : e.IsSimple) (hyields : ∃ v, e.Yields setting enter scope s v) :
    Steady setting enter scope s e := by
  obtain ⟨v, s', hv⟩ := hyields
  have hs : s' = s := unchanging_evaluate setting enter scope e h s v s' hv
  exact ⟨v, hs ▸ hv⟩

/-- What an expression has as its value is determined. -/
theorem equals_iff {v w : Value} (hleft : evaluate setting enter scope left s = .ok v s)
    (hright : evaluate setting enter scope right s = .ok w s) :
    left.Equals setting enter scope s right ↔ v.looseEq w = true := by
  constructor
  · rintro ⟨v', w', ⟨s₁, hv⟩, ⟨s₂, hw⟩, hequal⟩
    rw [hleft] at hv
    rw [hright] at hw
    cases hv
    cases hw
    exact hequal
  · exact fun hequal => ⟨v, w, ⟨s, hleft⟩, ⟨s, hright⟩, hequal⟩

theorem tells_caseTest (hsubject : Steady setting enter scope s subject)
    (he : Steady setting enter scope s e) :
    Tells setting enter scope s (Grammar.caseTest subject e)
      (subject.Equals setting enter scope s e) := by
  obtain ⟨v, hv⟩ := hsubject
  obtain ⟨w, hw⟩ := he
  refine ⟨v.looseEq w, ?_, (equals_iff hv hw).symm⟩
  rw [Grammar.caseTest, evaluate]
  simp only [bind_apply, hv, hw]
  rfl

theorem Tells.or (hleft : Tells setting enter scope s left p)
    (hright : Tells setting enter scope s right q) (location : Location) :
    Tells setting enter scope s (.binary .or left right location) (p ∨ q) := by
  obtain ⟨b, hb, hp⟩ := hleft
  obtain ⟨d, hd, hq⟩ := hright
  rw [← hp, ← hq]
  refine ⟨b || d, ?_, by simp⟩
  rw [evaluate]
  simp only [bind_apply, hb]
  cases b with
  | true => rfl
  | false =>
    change (evaluate setting enter scope right >>= fun r => pure (Value.bool r.isTruthy)) s = _
    rw [bind_apply, hd]
    rfl

/-- The chain of comparisons tells whether one of the values equals the subject. -/
theorem Tells.foldl (hsubject : Steady setting enter scope s subject) :
    ∀ {values : List Expr} {guard : Expr} {p : Prop}, Tells setting enter scope s guard p →
      (∀ e ∈ values, Steady setting enter scope s e) →
      Tells setting enter scope s
        (values.foldl (fun guard v => .binary .or guard (Grammar.caseTest subject v) v.location)
          guard)
        (p ∨ ∃ e ∈ values, subject.Equals setting enter scope s e)
  | [], guard, p, hguard, _ => by
    simpa using hguard
  | e :: rest, guard, p, hguard, hvalues => by
    obtain ⟨he, hrest⟩ := List.forall_mem_cons.mp hvalues
    rw [List.foldl_cons, List.exists_mem_cons_iff, ← or_assoc]
    exact Tells.foldl hsubject (hguard.or (tells_caseTest hsubject he) e.location) hrest

/-- The guard of a branch tells whether one of its values equals the subject. -/
theorem tells_caseGuard (hsubject : Steady setting enter scope s subject) {values : List Expr}
    (hne : values ≠ []) (hvalues : ∀ e ∈ values, Steady setting enter scope s e) :
    ∃ guard, Grammar.caseGuard subject values = some guard ∧
      Tells setting enter scope s guard
        (∃ e ∈ values, subject.Equals setting enter scope s e) := by
  cases values with
  | nil => exact absurd rfl hne
  | cons e rest =>
    obtain ⟨he, hrest⟩ := List.forall_mem_cons.mp hvalues
    rw [List.exists_mem_cons_iff]
    exact ⟨_, rfl, Tells.foldl hsubject (tells_caseTest hsubject he) hrest⟩

end Guards

/-! ### Branches -/

section Branches

variable {setting : Setting} {enter : Enter} {scope : ScopeId} {s : EvalState} {subject : Expr}
  {arms : List CaseArm} {arm : CaseArm}

variable (setting enter scope s) in
/-- In a state the values of a branch can be evaluated, and nothing changes then. -/
def SteadyArm (arm : CaseArm) : Prop :=
  arm.HasValues ∧ ∀ e ∈ arm.exprs, Steady setting enter scope s e

/-- The guard of a branch with values tells whether it matches. -/
theorem branch_of_steadyArm (hsubject : Steady setting enter scope s subject)
    (harm : SteadyArm setting enter scope s arm) (hchoice : arm.isFallback = false) :
    ∃ guard location, arm.branch subject = .mk (some guard) arm.body location ∧
      Tells setting enter scope s guard (arm.Matches setting enter scope s subject) := by
  cases arm with
  | fallback body location => cases hchoice
  | choice values body location =>
    obtain ⟨guard, hguard, htells⟩ := tells_caseGuard hsubject (harm.1 rfl) harm.2
    exact ⟨guard, location, congrArg (Branch.mk · body location) hguard, htells⟩

theorem executeFirst_of_evaluate {guard : Expr} {b : Bool}
    (hb : evaluate setting enter scope guard s = .ok (.bool b) s) (body : List Statement)
    (location : Location) (rest : List Branch) :
    executeFirst setting enter scope (.mk (some guard) body location :: rest) s =
      if b then executeAll setting enter scope body s
      else executeFirst setting enter scope rest s := by
  rw [executeFirst, guardHolds]
  simp only [bind_apply, hb]
  cases b <;> rfl

section
variable {guard : Expr} {p : Prop} (hguard : Tells setting enter scope s guard p)
include hguard

theorem executeFirst_of_holds (hp : p) (body : List Statement) (location : Location)
    (rest : List Branch) :
    executeFirst setting enter scope (.mk (some guard) body location :: rest) s =
      executeAll setting enter scope body s := by
  obtain ⟨b, hb, hiff⟩ := hguard
  rw [executeFirst_of_evaluate hb, if_pos (hiff.mpr hp)]

theorem executeFirst_of_not_holds (hp : ¬ p) (body : List Statement) (location : Location)
    (rest : List Branch) :
    executeFirst setting enter scope (.mk (some guard) body location :: rest) s =
      executeFirst setting enter scope rest s := by
  obtain ⟨b, hb, hiff⟩ := hguard
  rw [executeFirst_of_evaluate hb, if_neg fun h => hp (hiff.mp h)]

end

/-- Branches that do not match are passed over, and so is `default` where it stands. -/
theorem executeFirst_of_unmatched (hsubject : Steady setting enter scope s subject)
    (rest : List Branch) : ∀ {arms : List CaseArm},
      (∀ arm ∈ arms, SteadyArm setting enter scope s arm) →
      (∀ arm ∈ arms, ¬ arm.Matches setting enter scope s subject) →
      executeFirst setting enter scope
          ((arms.map (CaseArm.branch subject)).filter Branch.isGuarded ++ rest) s =
        executeFirst setting enter scope rest s
  | [], _, _ => rfl
  | arm :: arms, hsteady, hunmatched => by
    obtain ⟨harm, hsteady⟩ := List.forall_mem_cons.mp hsteady
    obtain ⟨hno, hunmatched⟩ := List.forall_mem_cons.mp hunmatched
    have ih := executeFirst_of_unmatched hsubject rest hsteady hunmatched
    cases hfallback : arm.isFallback with
    | true =>
      cases arm with
      | choice values body location => cases hfallback
      | fallback body location => exact ih
    | false =>
      obtain ⟨guard, location, hbranch, htells⟩ := branch_of_steadyArm hsubject harm hfallback
      rw [List.map_cons, hbranch, List.filter_cons_of_pos rfl, List.cons_append,
        executeFirst_of_not_holds htells hno]
      exact ih

/-- The first branch that matches is executed. -/
theorem executeFirst_of_matches (hsubject : Steady setting enter scope s subject)
    (rest : List Branch) {before behind : List CaseArm}
    (hsteady : ∀ a ∈ before ++ arm :: behind, SteadyArm setting enter scope s a)
    (hfirst : ∀ a ∈ before, ¬ a.Matches setting enter scope s subject)
    (hfound : arm.Matches setting enter scope s subject) :
    executeFirst setting enter scope
        (((before ++ arm :: behind).map (CaseArm.branch subject)).filter Branch.isGuarded ++
          rest) s =
      executeAll setting enter scope arm.body s := by
  have harm := hsteady arm (List.mem_append_right _ (.head _))
  have hchoice : arm.isFallback = false := by
    cases arm with
    | choice values body location => rfl
    | fallback body location =>
      obtain ⟨e, he, -⟩ := hfound
      cases he
  obtain ⟨guard, location, hbranch, htells⟩ := branch_of_steadyArm hsubject harm hchoice
  rw [List.map_append, List.filter_append, List.append_assoc,
    executeFirst_of_unmatched hsubject _ (fun a ha => hsteady a (List.mem_append_left _ ha)) hfirst,
    List.map_cons, hbranch, List.filter_cons_of_pos rfl, List.cons_append,
    executeFirst_of_holds htells hfound]

end Branches

/-! ### The conditional for a `case` -/

section Written

variable {setting : Setting} {enter : Enter} {scope : ScopeId} {s : EvalState} {c : WrittenCase}

theorem isGuarded_branch {subject : Expr} {arm : CaseArm} (h : arm.HasValues) :
    (arm.branch subject).isGuarded = !arm.isFallback := by
  cases arm with
  | fallback body location => rfl
  | choice values body location =>
    cases values with
    | nil => exact absurd rfl (h rfl)
    | cons value values => rfl

/-- The branches without a guard are those written `default`. -/
theorem filter_branch (subject : Expr) {arms : List CaseArm} (h : ∀ arm ∈ arms, arm.HasValues) :
    (arms.map (CaseArm.branch subject)).filter (!·.isGuarded) =
      (arms.filter CaseArm.isFallback).map (CaseArm.branch subject) := by
  rw [List.filter_map]
  refine congrArg _ (List.filter_congr fun arm harm => ?_)
  rw [Function.comp_apply, isGuarded_branch (h arm harm), Bool.not_not]

/-- All expressions of a `case` can be evaluated, and nothing changes then. -/
theorem steady_of_case (hsimple : ∀ e ∈ c.exprs, e.IsSimple)
    (hyields : ∀ e ∈ c.exprs, ∃ v, e.Yields setting enter scope s v)
    (hvalues : ∀ arm ∈ c.arms, arm.HasValues) :
    Steady setting enter scope s c.subject ∧
      ∀ arm ∈ c.arms, SteadyArm setting enter scope s arm := by
  have hsteady : ∀ e ∈ c.exprs, Steady setting enter scope s e := fun e he =>
    steady_of_isSimple (hsimple e he) (hyields e he)
  obtain ⟨hsubject, harms⟩ := List.forall_mem_cons.mp hsteady
  exact ⟨hsubject, fun arm harm =>
    ⟨hvalues arm harm, fun e he => harms e (List.mem_flatMap.mpr ⟨arm, harm, he⟩)⟩⟩

/-- The conditional for a `case` with one `default` at most executes the block that is chosen. -/
theorem execute_lowered (hsubject : Steady setting enter scope s c.subject)
    (hsteady : ∀ arm ∈ c.arms, SteadyArm setting enter scope s arm)
    (hdefaults : (c.arms.filter CaseArm.isFallback).length ≤ 1) {block : List Statement}
    (hblock : c.Chooses setting enter scope s block) :
    execute setting enter scope c.lowered s = executeAll setting enter scope block s := by
  rw [WrittenCase.lowered, execute, Branch.settled,
    filter_branch c.subject fun arm harm => (hsteady arm harm).1]
  cases hblock with
  | choice hwritten hfirst hfound =>
    rw [hwritten] at hsteady ⊢
    exact executeFirst_of_matches hsubject _ hsteady hfirst hfound
  | @fallback arm hunmatched hmem hfallback =>
    rw [executeFirst_of_unmatched hsubject _ hsteady hunmatched]
    have harm : arm ∈ c.arms.filter CaseArm.isFallback := List.mem_filter.mpr ⟨hmem, hfallback⟩
    -- There is no other one, so this one is the last.
    obtain ⟨only, honly⟩ := List.length_eq_one_iff.mp
      (Nat.le_antisymm hdefaults (List.length_pos_of_mem harm))
    rw [honly] at harm ⊢
    cases List.mem_singleton.mp harm
    cases arm with
    | choice values body location => cases hfallback
    | fallback body location => rfl
  | nothing hunmatched hnone =>
    rw [executeFirst_of_unmatched hsubject _ hsteady hunmatched,
      List.filter_eq_nil_iff.mpr fun arm harm => by simp [hnone arm harm]]
    rfl

end Written

/-- What the grammar makes of a `case` with one `default` at most, and with a subject and values
that are simple expressions which can be evaluated, executes the block that is chosen: that of the
first branch one of whose values equals the subject, or else that of `default`, or nothing. -/
theorem execute_case {bound : Nat} {space : Option String} {stream rest : TokenStream}
    {statement : Statement} (hcase : (Grammar.front stream).kind = .keyword .caseWord)
    (hread : Grammar.statement bound space stream = .ok (statement, rest)) :
    ∃ c, Grammar.writtenCase bound space stream = .ok (c, rest) ∧
      ((c.arms.filter CaseArm.isFallback).length ≤ 1 → (∀ e ∈ c.exprs, e.IsSimple) →
        ∀ setting enter scope s, (∀ e ∈ c.exprs, ∃ v, e.Yields setting enter scope s v) →
          (∃ block, c.Chooses setting enter scope s block) ∧
          ∀ block, c.Chooses setting enter scope s block →
            execute setting enter scope statement s = executeAll setting enter scope block s) := by
  rw [Grammar.statement_of_case hcase, ← bind_pure_comp] at hread
  obtain ⟨c, t, hwritten, hlowered⟩ := Grammar.bind_eq_ok_iff.mp hread
  cases hlowered
  refine ⟨c, hwritten, fun hdefaults hsimple setting enter scope s hyields => ?_⟩
  obtain ⟨hsubject, hsteady⟩ :=
    steady_of_case hsimple hyields (Grammar.hasValues_of_writtenCase hwritten)
  exact ⟨c.exists_chooses setting enter scope s, fun _ =>
    execute_lowered hsubject hsteady hdefaults⟩

end Evaluation

/-! ### A `case` whose `default` comes first -/

namespace Sample

/-- A place in a manifest. -/
def spot : Location := ⟨"site.pp", 1, 1⟩

/-- The tokens of `case 2 { default: { } 1, '2': { $x = 1 } }`. -/
def caseStream : TokenStream where
  tokens := [.keyword .caseWord, .integer 2, .symbol .leftBrace, .keyword .defaultWord,
    .symbol .colon, .symbol .leftBrace, .symbol .rightBrace, .integer 1, .symbol .comma,
    .string "2", .symbol .colon, .symbol .leftBrace, .variableName "x", .symbol .assign,
    .integer 1, .symbol .rightBrace, .symbol .rightBrace].map fun kind => ⟨kind, spot⟩
  stop := spot

/-- What is assigned in the second branch. -/
def chosenBlock : List Statement := [.assignment "x" (.integer 1 spot) spot]

def otherArm : CaseArm := .fallback [] spot

def chosenArm : CaseArm := .choice [.integer 1 spot, .string "2" spot] chosenBlock spot

/-- What is written there. -/
def defaultFirst : WrittenCase := ⟨.integer 2 spot, [otherArm, chosenArm], spot⟩

theorem exprs_defaultFirst :
    defaultFirst.exprs = [.integer 2 spot, .integer 1 spot, .string "2" spot] := rfl

/-- An evaluation without a manifest. -/
def bareSetting : Setting := ⟨⟨"web", .empty, none⟩, "production", .empty, .builtin, true⟩

theorem writtenCase_caseStream :
    Grammar.writtenCase 2 none caseStream = .ok (defaultFirst, ⟨[], spot⟩) := rfl

end Sample

/-- The second branch is executed, as the subject equals its second value. -/
theorem Evaluation.execute_case_sample :
    let setting := Sample.bareSetting
    execute setting (enter setting 0) ScopeArena.top Sample.defaultFirst.lowered
        (EvalState.start setting) =
      executeAll setting (enter setting 0) ScopeArena.top Sample.chosenBlock
        (EvalState.start setting) := by
  have hread : Grammar.statement 2 none Sample.caseStream =
      .ok (Sample.defaultFirst.lowered, ⟨[], Sample.spot⟩) := rfl
  obtain ⟨c, hwritten, hexecutes⟩ := execute_case rfl hread
  rw [Sample.writtenCase_caseStream] at hwritten
  cases hwritten
  rw [Sample.exprs_defaultFirst] at hexecutes
  refine (hexecutes (by decide) ?simple _ _ _ _ ?yields).2 _ ?chosen
  case simple => simp [Expr.IsSimple]
  case yields =>
    intro e he
    simp only [List.mem_cons, List.not_mem_nil, or_false] at he
    obtain rfl | rfl | rfl := he
    · exact ⟨.integer 2, _, rfl⟩
    · exact ⟨.integer 1, _, rfl⟩
    · exact ⟨.string "2", _, rfl⟩
  case chosen =>
    have hwritten : Sample.defaultFirst.arms = [Sample.otherArm] ++ Sample.chosenArm :: [] := rfl
    refine .choice hwritten (fun arm harm => ?_) ?_
    · -- There is no value in a `default` that could equal the subject.
      cases List.mem_singleton.mp harm
      rintro ⟨e, he, -⟩
      cases he
    · have hequal : (Value.integer 2).looseEq (.string "2") = true := by decide
      exact ⟨.string "2" Sample.spot, .tail _ (.head _), _, _, ⟨_, rfl⟩, ⟨_, rfl⟩, hequal⟩

end Manifest
