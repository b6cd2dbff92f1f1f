import Manifest.Grammar
import Manifest.Proofs.Grammar.Parse
import Manifest.Proofs.Grammar.Superseded
import Mathlib.Control.Lawful

/-!
# Reading every branch

The grammar reads all branches of a `case`, but of those without a guard it hands on the last one
only.  Here it is read once more with every branch kept.  Apart from that nothing is different, so
the tree of a manifest is what is kept of this reading.  Its definitions are those that the parser
has read.

## Main definitions

* `Grammar.fullStatement`, `Grammar.fullProgram` — the grammar with every branch of a `case`.
* `fullReading` — all statements of a manifest with every branch.

## Main results

* `Grammar.statement_eq`, `Grammar.program_eq` — the grammar keeps what is kept of the full reading.
* `confined_eq_superseded` — in an accepted manifest the definitions inside of branches and node
  bodies are those in dropped branches.
* `confined_in_default` — there are manifests that have such definitions.
-/

namespace Manifest

namespace Grammar

/-! ### The grammar with every branch -/

/-- Reads the branches of a `case` up to the closing brace, in the order in which they stand. -/
def fullCaseBranches (inner : Parse Statement) (subject : Expr) (bound : Nat) :
    Nat → Parse (List Branch)
  | 0 => return []
  | rounds + 1 => do
    let token ← peek
    if token.kind == .symbol .rightBrace then return []
    if ← eat (.keyword .defaultWord) then
      let _ ← expect (.symbol .colon)
      let body ← block inner bound
      return .mk none body token.location :: (← fullCaseBranches inner subject bound rounds)
    else
      let values ← separatedList .comma (fun _ => false) (fun _ => expression bound) bound []
      let _ ← expect (.symbol .colon)
      let body ← block inner bound
      return .mk (caseGuard subject values) body token.location ::
        (← fullCaseBranches inner subject bound rounds)

/-- Reads a `case` with all its branches. -/
def fullCaseStatement (inner : Parse Statement) (bound : Nat) : Parse Statement := do
  let start ← expect (.keyword .caseWord)
  let subject ← expression bound
  let _ ← expect (.symbol .leftBrace)
  let branches ← fullCaseBranches inner subject bound bound
  let _ ← expect (.symbol .rightBrace)
  return .conditional branches start.location

/-- Reads a statement; only a `case` is read in another way. -/
def fullStatementOf (inner : Option String → Parse Statement) (space : Option String)
    (bound : Nat) : Parse Statement := do
  if (← peek).kind == .keyword .caseWord then fullCaseStatement (inner space) bound
  else statementOf inner space bound

/-- Reads a statement with every branch of every `case` in it. -/
def fullStatement : Nat → Option String → Parse Statement
  | 0, _ => unexpected .statement
  | bound + 1, space => fullStatementOf (fullStatement bound) space (bound + 1)

/-- Reads all statements with every branch. -/
def fullProgram (bound : Nat) : Parse (List Statement) :=
  statements (· == .eof) (fullStatement bound none) bound

/-! ### Changing the statements of bodies -/

section Naturality

variable (f : Statement → Statement) (inner : Parse Statement)

theorem statements_map (stops : TokenKind → Bool) :
    ∀ bound, statements stops (f <$> inner) bound = List.map f <$> statements stops inner bound
  | 0 => by
    rw [statements, statements, map_pure]
    rfl
  | bound + 1 => by
    rw [statements, statements, map_bind]
    congr 1
    funext token
    split
    · rw [map_pure]
      rfl
    · rw [map_bind]
      congr 1
      funext eaten
      cases eaten with
      | true => exact statements_map stops bound
      | false =>
        simp only [Bool.false_eq_true, if_false, bind_map_left, map_bind, map_pure, List.map_cons,
          statements_map stops bound]

theorem block_map (bound : Nat) : block (f <$> inner) bound = List.map f <$> block inner bound := by
  simp only [block, statements_map, map_bind, bind_map_left, map_pure]

end Naturality

/-! ### What is kept of a reading -/

section Kept

variable (inner : Parse Statement) (bound : Nat)

theorem block_kept :
    block (Statement.kept <$> inner) bound = keptIn <$> block inner bound := by
  rw [block_map, funext keptIn_eq_map]

theorem settled_cons (guard : Expr) (body : List Statement) (location : Location)
    (rest : List Branch) : Branch.settled (.mk (some guard) body location :: rest) =
      .mk (some guard) body location :: Branch.settled rest := rfl

theorem settled_singleton (b : Branch) : Branch.settled [b] = [b] := by
  cases b with
  | mk guard body location => cases guard <;> rfl

theorem elseBranch_kept :
    elseBranch (Statement.kept <$> inner) bound = Branch.kept <$> elseBranch inner bound := by
  simp only [elseBranch, block_kept, map_bind, bind_map_left, map_pure, Branch.kept]

/-- The branches of an `if` stand as they are left. -/
theorem furtherBranches_kept : ∀ rounds,
    furtherBranches (Statement.kept <$> inner) bound rounds =
      (fun bs => Branch.settled (keptBranches bs)) <$> furtherBranches inner bound rounds
  | 0 => by
    rw [furtherBranches, furtherBranches, map_pure]
    rfl
  | rounds + 1 => by
    simp only [furtherBranches, guardedBranch, block_kept, furtherBranches_kept rounds, map_bind]
    refine bind_congr fun elsif => ?_
    cases elsif with
    | true =>
      simp only [if_true, map_bind, bind_assoc, bind_map_left, pure_bind, map_pure, keptBranches,
        Branch.kept, settled_cons]
    | false =>
      simp only [Bool.false_eq_true, if_false, map_bind]
      refine bind_congr fun last => ?_
      cases last with
      | true =>
        rw [if_pos rfl, if_pos rfl, elseBranch_kept, bind_map_left, map_bind]
        refine bind_congr fun branch => ?_
        rw [map_pure, keptBranches, keptBranches, settled_singleton]
      | false =>
        simp only [Bool.false_eq_true, if_false, map_pure]
        rfl

theorem ifStatement_kept :
    ifStatement (Statement.kept <$> inner) bound = Statement.kept <$> ifStatement inner bound := by
  simp only [ifStatement, guardedBranch, block_kept, furtherBranches_kept, map_bind, bind_assoc,
    bind_map_left, pure_bind, map_pure, Statement.kept, keptBranches, Branch.kept, settled_cons]

theorem unlessStatement_kept :
    unlessStatement (Statement.kept <$> inner) bound =
      Statement.kept <$> unlessStatement inner bound := by
  simp only [unlessStatement, block_kept, map_bind, bind_map_left]
  refine bind_congr fun start => bind_congr fun guard => bind_congr fun body =>
    bind_congr fun last => ?_
  cases last with
  | true =>
    rw [if_pos rfl, if_pos rfl, elseBranch_kept, bind_map_left, map_bind]
    refine bind_congr fun branch => ?_
    rw [map_pure, Statement.kept, keptBranches, keptBranches, keptBranches, Branch.kept,
      settled_cons, settled_singleton]
  | false =>
    simp only [Bool.false_eq_true, if_false, map_pure]
    rfl

theorem nodeDefinition_kept :
    nodeDefinition (Statement.kept <$> inner) bound =
      Statement.kept <$> nodeDefinition inner bound := by
  simp only [nodeDefinition, block_kept, map_bind, bind_map_left, map_pure, Statement.kept]

theorem classDefinition_kept (inner : Option String → Parse Statement) (space : Option String) :
    classDefinition (fun space => Statement.kept <$> inner space) space bound =
      Statement.kept <$> classDefinition inner space bound := by
  simp only [classDefinition, block_kept, map_bind, bind_map_left, map_pure, Statement.kept,
    apply_ite (Functor.map Statement.kept)]

theorem defineDefinition_kept (inner : Option String → Parse Statement) (space : Option String) :
    defineDefinition (fun space => Statement.kept <$> inner space) space bound =
      Statement.kept <$> defineDefinition inner space bound := by
  simp only [defineDefinition, block_kept, map_bind, bind_map_left, map_pure, Statement.kept]

/-! ### The branches of a `case` -/

/-- A branch of a `case` has values, unless there is no room for them. -/
theorem separatedList_ne_nil {α : Type} {separator : Symbol} {item : List α → Parse α} :
    ∀ {bound : Nat} {found result : List α} {s s' : TokenStream},
      separatedList separator (fun _ => false) item bound found s = .ok (result, s') →
        found ≠ [] ∨ bound ≠ 0 → result ≠ []
  | 0, found, _, _, _, h, hne => by
    cases h
    exact hne.resolve_right fun h => h rfl
  | bound + 1, found, result, s, s', h, _ => by
    rw [separatedList] at h
    obtain ⟨token, t, -, h⟩ := bind_eq_ok_iff.mp h
    obtain ⟨next, t', -, h⟩ := bind_eq_ok_iff.mp h
    obtain ⟨more, t'', -, h⟩ := bind_eq_ok_iff.mp h
    have hfound : found ++ [next] ≠ [] := by simp
    cases more with
    | true => exact separatedList_ne_nil h (Or.inl hfound)
    | false =>
      cases h
      exact hfound

/-- What is read of the branches of a `case`, put behind those that are there already. -/
theorem caseBranches_eq (subject : Expr) :
    ∀ rounds branches fallback,
      caseBranches inner subject (bound + 1) rounds branches fallback =
        (fun bs => branches ++ bs.filter Branch.isGuarded ++
          ((bs.filter (!·.isGuarded)).getLast?.or fallback).toList) <$>
            fullCaseBranches inner subject (bound + 1) rounds
  | 0, branches, fallback => by
    simp only [caseBranches, fullCaseBranches, map_pure, List.filter_nil, List.append_nil,
      List.getLast?_nil, Option.none_or]
  | rounds + 1, branches, fallback => by
    simp only [caseBranches, fullCaseBranches, map_bind]
    refine bind_congr fun token => ?_
    split
    · simp only [map_pure, List.filter_nil, List.append_nil, List.getLast?_nil, Option.none_or]
    rw [map_bind]
    refine bind_congr fun isDefault => ?_
    cases isDefault with
    | true =>
      simp only [if_true, map_bind, map_pure, caseBranches_eq subject rounds]
      refine bind_congr fun _ => bind_congr fun body => ?_
      rw [← bind_pure_comp]
      refine bind_congr fun rest => congrArg pure ?_
      -- This one takes the place of a former one unless another one follows.
      have hguarded : (Branch.mk none body token.location :: rest).filter Branch.isGuarded =
          rest.filter Branch.isGuarded := rfl
      have hdefaults : (Branch.mk none body token.location :: rest).filter (!·.isGuarded) =
          .mk none body token.location :: rest.filter (!·.isGuarded) := rfl
      rw [hguarded, hdefaults, List.getLast?_cons]
      cases (rest.filter (!·.isGuarded)).getLast? <;> rfl
    | false =>
      simp only [Bool.false_eq_true, if_false, map_bind, map_pure, caseBranches_eq subject rounds]
      refine bind_congr_of_ok fun values _ _ hvalues => ?_
      cases values with
      | nil => exact absurd rfl (separatedList_ne_nil hvalues (Or.inr (Nat.succ_ne_zero bound)))
      | cons value values =>
        refine congrFun (bind_congr fun _ => bind_congr fun body => ?_) _
        rw [← bind_pure_comp]
        refine bind_congr fun rest => congrArg pure ?_
        rw [List.append_assoc branches]
        rfl

/-- Of all the branches that are read those are left that the tree of a `case` has. -/
theorem caseBranches_eq_settled (subject : Expr) (rounds : Nat) :
    caseBranches inner subject (bound + 1) rounds [] none =
      Branch.settled <$> fullCaseBranches inner subject (bound + 1) rounds := by
  rw [caseBranches_eq]
  simp only [List.nil_append, Option.or_none]
  rfl

theorem fullCaseBranches_kept (subject : Expr) : ∀ rounds,
    fullCaseBranches (Statement.kept <$> inner) subject bound rounds =
      keptBranches <$> fullCaseBranches inner subject bound rounds
  | 0 => by
    rw [fullCaseBranches, fullCaseBranches, map_pure, keptBranches]
  | rounds + 1 => by
    simp only [fullCaseBranches, block_kept, map_bind, bind_map_left]
    refine bind_congr fun token => ?_
    split
    · rw [map_pure, keptBranches]
    rw [map_bind]
    refine bind_congr fun isDefault => ?_
    cases isDefault with
    | true =>
      simp only [if_true, map_bind, bind_map_left, map_pure, fullCaseBranches_kept subject rounds,
        keptBranches, Branch.kept]
    | false =>
      simp only [Bool.false_eq_true, if_false, map_bind, bind_map_left, map_pure,
        fullCaseBranches_kept subject rounds, keptBranches, Branch.kept]

theorem caseStatement_kept :
    caseStatement (Statement.kept <$> inner) (bound + 1) =
      Statement.kept <$> fullCaseStatement inner (bound + 1) := by
  simp only [caseStatement, fullCaseStatement, caseBranches_eq_settled, fullCaseBranches_kept,
    map_bind, bind_map_left, map_pure, Statement.kept]

/-! ### Statements -/

theorem map_unexpected {α β : Type} (f : α → β) (expected : Expectation) :
    f <$> (unexpected expected : Parse α) = unexpected expected := rfl

/-- What has no body is kept as it is. -/
theorem resourceDeclaration_kept (typeName : String) (location : Location) :
    Statement.kept <$> resourceDeclaration typeName location bound =
      resourceDeclaration typeName location bound := by
  simp only [resourceDeclaration, map_bind, map_pure, Statement.kept]

theorem assignment_kept (name : String) (location : Location) :
    Statement.kept <$> assignment name location bound = assignment name location bound := by
  simp only [assignment, map_bind, map_pure, Statement.kept]

theorem callStatement_kept (function : String) (location : Location) :
    Statement.kept <$> callStatement function location bound =
      callStatement function location bound := by
  simp only [callStatement, map_bind]
  refine bind_congr fun paren => ?_
  cases paren <;>
    simp only [Bool.false_eq_true, if_true, if_false, map_bind, map_pure, Statement.kept]

theorem relationshipStatement_kept :
    Statement.kept <$> relationshipStatement bound = relationshipStatement bound := by
  simp only [relationshipStatement, map_bind]
  refine bind_congr fun first => bind_congr fun chain => ?_
  split <;> rfl

/-- A statement is what is kept of it with every branch. -/
theorem statementOf_kept (inner : Option String → Parse Statement) (space : Option String) :
    statementOf (fun space => Statement.kept <$> inner space) space (bound + 1) =
      Statement.kept <$> fullStatementOf inner space (bound + 1) := by
  funext s
  have hpeek : ∀ f : Token → Parse Statement, (peek >>= f) s = f (front s) s := fun _ => rfl
  rw [fullStatementOf, map_bind, hpeek]
  by_cases hcase : (front s).kind = .keyword .caseWord
  · rw [if_pos (beq_iff_eq.mpr hcase), statementOf, hpeek]
    simp only [hcase, caseStatement_kept]
  · rw [if_neg (by simpa using hcase), statementOf, statementOf, map_bind, hpeek, hpeek]
    refine congrFun ?_ s
    cases hkind : (front s).kind with
    | keyword word =>
      cases word with
      | classWord =>
        simp only [map_bind]
        refine bind_congr fun second => ?_
        split
        · simp only [map_bind, resourceDeclaration_kept]
        · exact classDefinition_kept _ inner space
      | defineWord => exact defineDefinition_kept _ inner space
      | nodeWord => exact nodeDefinition_kept (inner space) _
      | ifWord => exact ifStatement_kept (inner space) _
      | unlessWord => exact unlessStatement_kept (inner space) _
      | caseWord => exact absurd hkind hcase
      | inheritsWord | elsifWord | elseWord | defaultWord | andWord | orWord | trueWord
      | falseWord | undefWord => rfl
    | name text =>
      simp only [map_bind]
      refine bind_congr fun _ => bind_congr fun brace => ?_
      split
      · exact (resourceDeclaration_kept _ _ _).symm
      · exact (callStatement_kept _ _ _).symm
    | variableName name => simp only [map_bind, assignment_kept]
    | typeName name => exact (relationshipStatement_kept _).symm
    | string _ | template _ | integer _ | symbol _ | eof => rfl

end Kept

theorem statement_eq : ∀ bound space,
    statement bound space = Statement.kept <$> fullStatement bound space
  | 0, _ => (map_unexpected _ _).symm
  | bound + 1, space => by
    have hinner : statement bound = fun space => Statement.kept <$> fullStatement bound space :=
      funext (statement_eq bound)
    rw [statement, hinner, statementOf_kept, fullStatement]

/-- The grammar reads everything and keeps what is kept. -/
theorem program_eq (bound : Nat) : program bound = keptIn <$> fullProgram bound := by
  rw [program, statement_eq, statements_map, funext keptIn_eq_map, fullProgram]

end Grammar

/-! ### Accepted manifests -/

/-- All statements of a manifest, with every branch. -/
def fullReading (file : String) (tokens : List Token) : Except ParseError (List Statement) :=
  let stream := TokenStream.ofTokens file tokens
  ((Grammar.fullProgram (stream.tokens.length + 1)).run stream).map Prod.fst

theorem Grammar.fullReading_eq_ok {bound : Nat} {stream rest : TokenStream}
    {statements : List Statement} (h : (program bound).run stream = .ok (statements, rest)) :
    ∃ full, ((fullProgram bound).run stream).map Prod.fst = .ok full ∧
      statements = keptIn full := by
  rw [program_eq, ← bind_pure_comp] at h
  obtain ⟨full, t, hfull, hkept⟩ := bind_eq_ok_iff.mp h
  cases hkept
  exact ⟨full, congrArg (Except.map Prod.fst) hfull, rfl⟩

/-- The tree of an accepted manifest is what is kept of the statements that were read, and the
definitions that were read inside of branches and node bodies are those in branches without a guard
that another one without a guard follows. -/
theorem confined_eq_superseded {file : String} {tokens : List Token} {ast : Ast}
    (h : build file tokens = .ok ast) :
    ∃ full, fullReading file tokens = .ok full ∧ ast.statements = keptIn full ∧
      confinedIn full = supersededIn full := by
  rw [build] at h
  cases hprogram : (Grammar.program ((TokenStream.ofTokens file tokens).tokens.length + 1)).run
      (TokenStream.ofTokens file tokens) with
  | error e =>
    simp only [hprogram] at h
    cases h
  | ok result =>
    obtain ⟨statements, rest⟩ := result
    simp only [hprogram] at h
    cases hlegal : (⟨file, statements⟩ : Ast).misplaced? with
    | some fault =>
      simp only [hlegal] at h
      cases h
    | none =>
      simp only [hlegal] at h
      cases h
      obtain ⟨full, hfull, rfl⟩ := Grammar.fullReading_eq_ok hprogram
      exact ⟨full, hfull, rfl, confinedIn_eq_of_legal rfl full hlegal⟩

namespace Sample

/-- The tokens of a `case` whose first `default` has a class in it. -/
def twoDefaults : List Token :=
  [.keyword .caseWord, .integer 1, .symbol .leftBrace, .keyword .defaultWord, .symbol .colon,
    .symbol .leftBrace, .keyword .classWord, .name "a", .symbol .leftBrace, .symbol .rightBrace,
    .symbol .rightBrace, .keyword .defaultWord, .symbol .colon, .symbol .leftBrace,
    .symbol .rightBrace, .symbol .rightBrace].map fun kind => ⟨kind, ⟨"site.pp", 1, 1⟩⟩

end Sample

theorem confined_eq_superseded_sample :
    ∃ ast, build "site.pp" Sample.twoDefaults = .ok ast ∧
      ∃ full, fullReading "site.pp" Sample.twoDefaults = .ok full ∧
        ast.statements = keptIn full ∧ confinedIn full = supersededIn full := by
  have haccepted : (build "site.pp" Sample.twoDefaults).toOption.isSome = true := by
    decide +kernel
  cases hbuild : build "site.pp" Sample.twoDefaults with
  | error e =>
    rw [hbuild] at haccepted
    cases haccepted
  | ok ast => exact ⟨ast, rfl, confined_eq_superseded hbuild⟩

/-- A class in a `default` that another one follows is read, and the manifest is accepted. -/
theorem confined_in_default :
    (build "site.pp" Sample.twoDefaults).toOption.isSome = true ∧
      (fullReading "site.pp" Sample.twoDefaults).toOption.map (fun full =>
        (confinedIn full).length) = some 1 := by
  decide +kernel

end Manifest
