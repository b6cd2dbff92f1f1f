import Manifest.Grammar.Statement
import Manifest.Proofs.Grammar.CarriedExpression

/-!
# Carried statements

A statement ends with a closing brace, a list of expressions or the blocks of a conditional.  What
stands in a block is followed by the closing brace, so only the end of the whole statement depends
on what comes behind the stream.

## Main definitions

* `CarriesStatements` — a reader of statements is carried from short streams.

## Main results

* `carried_statements` — lists of statements are carried as single ones are.
* `carriesStatements` — statements are carried.
-/

namespace Manifest.Grammar

variable {x : Extension} {atEnd : Prop} {b b' n m : Nat} {s : TokenStream}

/-- What a reader of statements reads from streams of less than so many tokens is carried. -/
def CarriesStatements (x : Extension) (atEnd : Prop) (n : Nat) (p q : Parse Statement) : Prop :=
  ∀ s : TokenStream, s.tokens.length < n →
    Carried x atEnd s.tokens.length s p q (Statement.relocate x.move)

/-! ### Blocks -/

theorem carried_statements {inner inner' : Parse Statement} {stops : TokenKind → Bool}
    (hstops : atEnd → stops (front x.behind).kind = stops .eof)
    (hsemicolon : atEnd → (front x.behind).kind ≠ .symbol .semicolon)
    (hinner : CarriesStatements x atEnd n inner inner') :
    ∀ {b b' m : Nat} {s : TokenStream}, s.tokens.length < n → s.tokens.length < b →
      s.tokens.length < b' → s.tokens.length < m →
        Carried x atEnd m s (statements stops inner b) (statements stops inner' b')
          (relocateIn x.move)
  | 0, _, _, _, _, hb, _, _ => absurd hb (Nat.not_lt_zero _)
  | _, 0, _, _, _, _, hb', _ => absurd hb' (Nat.not_lt_zero _)
  | b + 1, b' + 1, m, s, hn, hb, hb', hm => by
    have hmore : ∀ s', s'.tokens.length < s.tokens.length →
        Carried x atEnd m s' (statements stops inner b) (statements stops inner' b')
          (relocateIn x.move) := fun s' hs' =>
      carried_statements hstops hsemicolon hinner (by omega) (by omega) (by omega) (by omega)
    refine .kind_bind hstops (fun _ => .pure hm rfl) (.eat_bind nofun hsemicolon hmore ?_)
    refine .bind (hinner s hn) fun first s₁ h₁ => ?_
    exact .bind (hmore s₁ h₁) fun rest s₂ h₂ => .pure h₂ rfl

section Blocks

variable {inner inner' : Parse Statement} (hinner : CarriesStatements x False n inner inner')
  (hb : n < b) (hb' : b ≤ b')
include hinner hb hb'

theorem carried_block (hs : s.tokens.length ≤ n) :
    Carried x atEnd s.tokens.length s (block inner b) (block inner' b') (relocateIn x.move) := by
  refine .bind (.expect nofun) fun _ s₁ h₁ => ?_
  have hbody : Carried x False (s.tokens.length + 1) s₁
      (statements (fun k => k == .symbol .rightBrace || k == .eof) inner b)
      (statements (fun k => k == .symbol .rightBrace || k == .eof) inner' b')
      (relocateIn x.move) :=
    carried_statements False.elim False.elim hinner (by omega) (by omega) (by omega) (by omega)
  refine .bind_taking hbody fun body s₂ => ?_
  exact .bind (.expect nofun) fun _ s₃ h₃ => .pure h₃ rfl

/-- What ends with a block. -/
theorem carried_body {α β : Type} {f : List Statement → α} {g : List Statement → β} {move : α → β}
    (hfg : ∀ body, g (relocateIn x.move body) = move (f body)) (hs : s.tokens.length ≤ n)
    (hm : s.tokens.length ≤ m) :
    Carried x atEnd m s (block inner b >>= fun body => pure (f body))
      (block inner' b' >>= fun body => pure (g body)) move :=
  .bind (carried_block hinner hb hb' hs) fun body _ h₁ =>
    .pure (Nat.lt_of_lt_of_le h₁ hm) (hfg body)

end Blocks

/-! ### Definitions -/

theorem carried_parameter (hb : s.tokens.length < b) (hb' : b ≤ b') (found : List Parameter) :
    Carried x False s.tokens.length s (parameter b found)
      (parameter b' (found.map (Parameter.relocate x.move))) (Parameter.relocate x.move) := by
  refine .peek_bind (fun hne => ?_) (fun _ => .unexpected) fun _ => rfl
  generalize front s = token
  obtain ⟨kind, l⟩ := token
  cases kind with
  | variableName name =>
    refine .bind (.advance hne) fun _ s₁ h₁ => ?_
    have hany : (found.map (Parameter.relocate x.move)).any (·.name == name) =
        found.any (·.name == name) := List.any_map
    rw [hany]
    cases found.any (·.name == name) with
    | true => exact .throw
    | false =>
      refine .eat_bind nofun False.elim (fun s₂ h₂ => ?_) (.pure h₁ rfl)
      refine .bind (carriesExpressions False.elim hb' s₂ (by omega)) fun value s₃ h₃ => ?_
      exact .pure (by omega) rfl
  | keyword | name | typeName | string | template | integer | symbol | eof => exact .unexpected

theorem carried_parameters (ho : atEnd → x.Loose) (hb : s.tokens.length < b) (hb' : b ≤ b')
    (hm : s.tokens.length < m) :
    Carried x atEnd m s (parameters b) (parameters b') (List.map (Parameter.relocate x.move)) := by
  refine .eat_bind nofun (fun h => (ho h).ne (by decide)) (fun s₁ h₁ => ?_) (.pure hm rfl)
  refine .enclosedList (fun found s₂ h₂ => ?_) (by omega) (by omega) (by omega)
  exact carried_parameter (by omega) hb' found

theorem carried_nodeName : Carried x atEnd s.tokens.length s nodeName nodeName id := by
  refine .peek_bind (fun hne => ?_) (fun _ => .unexpected) fun _ => rfl
  generalize front s = token
  obtain ⟨kind, l⟩ := token
  have hleaf : ∀ name : NodeName, Carried x atEnd s.tokens.length s
      (advance >>= fun _ => pure name) (advance >>= fun _ => pure name) id :=
    fun name => .bind (.advance hne) fun _ _ hlength => .pure hlength rfl
  cases kind with
  | name text => exact hleaf (.exact (Text.lower text))
  | string text => exact hleaf (.exact (Text.lower text))
  | template parts =>
    simp only [Token.relocate]
    cases literalText? parts with
    | none => exact .unexpected
    | some text => exact hleaf (.exact (Text.lower text))
  | keyword word =>
    cases word with
    | defaultWord => exact hleaf .fallback
    | classWord | defineWord | nodeWord | inheritsWord | ifWord | elsifWord | elseWord
    | unlessWord | caseWord | andWord | orWord | trueWord | falseWord | undefWord =>
      exact .unexpected
  | typeName | variableName | integer | symbol | eof => exact .unexpected

section Definitions

variable {inner inner' : Option String → Parse Statement}
  (hinner : ∀ space, CarriesStatements x False n (inner space) (inner' space))
  (hb : n < b) (hb' : b ≤ b') (ho : atEnd → x.Loose)
include hinner hb hb' ho

theorem carried_classDefinition (space : Option String) (hs : s.tokens.length ≤ n) :
    Carried x atEnd s.tokens.length s (classDefinition inner space b)
      (classDefinition inner' space b') (Statement.relocate x.move) := by
  refine .bind (.expect nofun) fun start s₁ h₁ => ?_
  refine .bind .expectName fun name s₂ h₂ => ?_
  refine .bind (carried_parameters ho (by omega) hb' h₂) fun parameters s₃ h₃ => ?_
  refine .eat_bind nofun (fun h => (ho h).ne (by decide)) (fun s₄ h₄ => ?_) ?_
  · refine .bind .expectName fun parent s₅ h₅ => ?_
    exact carried_body (hinner _) hb hb' (fun _ => rfl) (by omega) (by omega)
  · exact carried_body (hinner _) hb hb' (fun _ => rfl) (by omega) (by omega)

theorem carried_defineDefinition (space : Option String) (hs : s.tokens.length ≤ n) :
    Carried x atEnd s.tokens.length s (defineDefinition inner space b)
      (defineDefinition inner' space b') (Statement.relocate x.move) := by
  refine .bind (.expect nofun) fun start s₁ h₁ => ?_
  refine .bind .expectName fun name s₂ h₂ => ?_
  refine .bind (carried_parameters ho (by omega) hb' h₂) fun parameters s₃ h₃ => ?_
  exact carried_body (hinner _) hb hb' (fun _ => rfl) (by omega) (by omega)

theorem carried_nodeDefinition (space : Option String) (hs : s.tokens.length ≤ n) :
    Carried x atEnd s.tokens.length s (nodeDefinition (inner space) b)
      (nodeDefinition (inner' space) b') (Statement.relocate x.move) := by
  refine .bind (.expect nofun) fun start s₁ h₁ => ?_
  have hnames : Carried x atEnd s.tokens.length s₁
      (separatedList .comma (fun _ => false) (fun _ => nodeName) b [])
      (separatedList .comma (fun _ => false) (fun _ => nodeName) b' []) (List.map id) :=
    .separatedList (fun _ => rfl) (fun h => (ho h).ne (by decide)) (fun _ _ _ => carried_nodeName)
      (by omega) (by omega) h₁
  refine .bind hnames fun names s₂ h₂ => ?_
  rw [List.map_id]
  exact carried_body (hinner space) hb hb' (fun _ => rfl) (by omega) (by omega)

end Definitions

/-! ### Resources, assignments, calls and relationships -/

section Resources

variable (hb' : b ≤ b')
include hb'

theorem carried_attributeOf (hb : s.tokens.length < b) (found : List Attribute) :
    Carried x False s.tokens.length s (attributeOf b found)
      (attributeOf b' (found.map (Attribute.relocate x.move))) (Attribute.relocate x.move) := by
  refine .peek_bind (fun hne => ?_) (fun _ => .unexpected) fun _ => rfl
  generalize front s = token
  simp only [Token.relocate]
  cases attributeName? token.kind with
  | none => exact .unexpected
  | some name =>
    refine .bind (.advance hne) fun _ s₁ h₁ => ?_
    have hany : (found.map (Attribute.relocate x.move)).any (·.name == name) =
        found.any (·.name == name) := List.any_map
    rw [hany]
    cases found.any (·.name == name) with
    | true => exact .throw
    | false =>
      refine .bind (.expect (by decide)) fun _ s₂ h₂ => ?_
      refine .bind (carriesExpressions False.elim hb' s₂ (by omega)) fun value s₃ h₃ => ?_
      exact .pure (by omega) rfl

theorem carried_resourceBody (hb : s.tokens.length < b) :
    Carried x False s.tokens.length s (resourceBody b) (resourceBody b')
      (ResourceBody.relocate x.move) := by
  refine .bind (carriesExpressions False.elim hb' s hb) fun title s₁ h₁ => ?_
  refine .bind (.expect nofun) fun _ s₂ h₂ => ?_
  have hattributes : ∀ stops, Carried x False s.tokens.length s₂
      (separatedList .comma stops (attributeOf b) b [])
      (separatedList .comma stops (attributeOf b') b' [])
      (List.map (Attribute.relocate x.move)) := fun stops =>
    .separatedList False.elim False.elim
      (fun found s₃ h₃ => carried_attributeOf hb' (by omega) found) (by omega) (by omega) (by omega)
  refine .bind (hattributes _) fun attributes s₃ h₃ => .pure h₃ ?_
  rw [Expr.location_relocate]
  rfl

theorem carried_resourceDeclaration (hb : s.tokens.length < b) (typeName : String) (l : Location) :
    Carried x atEnd s.tokens.length s (resourceDeclaration typeName l b)
      (resourceDeclaration typeName (x.move l) b') (Statement.relocate x.move) := by
  refine .bind (.expect nofun) fun _ s₁ h₁ => ?_
  have hbodies : Carried x False (s.tokens.length + 1) s₁
      (separatedList .semicolon (· == .symbol .rightBrace) (fun _ => resourceBody b) b [])
      (separatedList .semicolon (· == .symbol .rightBrace) (fun _ => resourceBody b') b' [])
      (List.map (ResourceBody.relocate x.move)) :=
    .separatedList False.elim False.elim (fun _ s₂ h₂ => carried_resourceBody hb' (by omega))
      (by omega) (by omega) (by omega)
  refine .bind_taking hbodies fun bodies s₂ => ?_
  exact .bind (.expect nofun) fun _ s₃ h₃ => .pure h₃ rfl

variable (ho : atEnd → x.Loose)
include ho

theorem carried_assignment (hb : s.tokens.length < b) (name : String) (l : Location) :
    Carried x atEnd s.tokens.length s (assignment name l b) (assignment name (x.move l) b')
      (Statement.relocate x.move) := by
  refine .bind (.expect nofun) fun _ s₁ h₁ => ?_
  refine .bind (carriesExpressions ho hb' s₁ (by omega)) fun value s₂ h₂ => ?_
  exact .pure (by omega) rfl

/-- Expressions with commas between them and nothing around them. -/
theorem carried_values (hb : s.tokens.length < b) (hm : s.tokens.length < m) :
    Carried x atEnd m s (separatedList .comma (fun _ => false) (fun _ => expression b) b [])
      (separatedList .comma (fun _ => false) (fun _ => expression b') b' [])
      (relocateAll x.move) := by
  rw [funext (relocateAll_eq_map x.move)]
  refine .separatedList (fun _ => rfl) (fun h => (ho h).ne (by decide)) (fun _ s₁ h₁ => ?_) hb
    (Nat.lt_of_lt_of_le hb hb') hm
  exact carriesExpressions ho hb' s₁ (by omega)

theorem carried_callStatement (hb : s.tokens.length < b) (hm : s.tokens.length < m)
    (function : String) (l : Location) :
    Carried x atEnd m s (callStatement function l b) (callStatement function (x.move l) b')
      (Statement.relocate x.move) := by
  refine .eat_bind nofun (fun h => (ho h).ne (by decide)) (fun s₁ h₁ => ?_) ?_
  · have hargs : Carried x atEnd m s₁ (expressionList (expression b) .rightParen b)
        (expressionList (expression b') .rightParen b') (relocateAll x.move) :=
      carried_expressionList (carriesExpressions False.elim hb') (by omega) (by omega) (by omega)
        (by omega)
    exact .bind hargs fun args s₂ h₂ => .pure h₂ rfl
  · exact .bind (carried_values hb' ho hb hm) fun args s₁ h₁ => .pure h₁ rfl

end Resources

theorem arrow?_eq_none (h : x.Loose) : arrow? (front x.behind).kind = none := by
  have harrow : (front x.behind).kind ≠ .symbol .arrow := h.ne (by decide)
  have htilde : (front x.behind).kind ≠ .symbol .tildeArrow := h.ne (by decide)
  rw [arrow?]
  · exact harrow
  · exact htilde

/-- Arrows with operands behind them, with every place moved. -/
def relocateLinks (f : Location → Location) : List (Arrow × Expr) → List (Arrow × Expr) :=
  List.map (Prod.map id (Expr.relocate f))

theorem carried_arrowChain {operand operand' : Parse Expr} (ho : atEnd → x.Loose)
    (hoperand : CarriesExpressions x atEnd n operand operand') :
    ∀ {b b' m : Nat} {s : TokenStream}, s.tokens.length < n → s.tokens.length < b →
      s.tokens.length < b' → s.tokens.length < m →
        Carried x atEnd m s (arrowChain operand b) (arrowChain operand' b')
          (relocateLinks x.move)
  | 0, _, _, _, _, hb, _, _ => absurd hb (Nat.not_lt_zero _)
  | _, 0, _, _, _, _, hb', _ => absurd hb' (Nat.not_lt_zero _)
  | b + 1, b' + 1, m, s, hn, hb, hb', hm => by
    have hstop : Carried x atEnd m s (pure []) (pure []) (relocateLinks x.move) := .pure hm rfl
    refine .peek_bind (fun hne => ?_) (fun _ => hstop) fun h => by rw [arrow?_eq_none (ho h)]
    have hkind : ((front s).relocate x.move).kind = (front s).kind := rfl
    rw [hkind]
    cases arrow? (front s).kind with
    | none => exact hstop
    | some arrow =>
      refine .bind (.advance hne) fun _ s₁ h₁ => ?_
      refine .bind (hoperand s₁ (by omega)) fun next s₂ h₂ => ?_
      have hrest : Carried x atEnd m s₂ (arrowChain operand b) (arrowChain operand' b')
          (relocateLinks x.move) :=
        carried_arrowChain ho hoperand (by omega) (by omega) (by omega) (by omega)
      exact .bind hrest fun rest s₃ h₃ => .pure h₃ rfl

theorem carried_relationshipStatement (ho : atEnd → x.Loose) (hb : s.tokens.length < b)
    (hb' : b ≤ b') :
    Carried x atEnd s.tokens.length s (relationshipStatement b) (relationshipStatement b')
      (Statement.relocate x.move) := by
  refine .bind (carriesExpressions ho hb' s hb) fun first s₁ h₁ => ?_
  have hchain : Carried x atEnd s.tokens.length s₁ (arrowChain (expression b) b)
      (arrowChain (expression b') b') (relocateLinks x.move) :=
    carried_arrowChain ho (carriesExpressions ho hb') (by omega) (by omega) (by omega) h₁
  refine .bind hchain fun chain s₂ h₂ => ?_
  cases chain with
  | nil => exact .unexpected
  | cons link rest =>
    refine .pure h₂ ?_
    simp [Statement.relocate, Expr.relocate, relocateAll_eq_map, relocateLinks]

/-! ### Conditionals -/

theorem caseGuard_relocate (f : Location → Location) (subject : Expr) (values : List Expr) :
    caseGuard (subject.relocate f) (relocateAll f values) =
      (caseGuard subject values).map (Expr.relocate f) := by
  have htest : ∀ v : Expr, caseTest (subject.relocate f) (v.relocate f) =
      (caseTest subject v).relocate f := by
    intro v
    rw [caseTest, caseTest, Expr.relocate, Expr.location_relocate]
  cases values with
  | nil => rfl
  | cons value rest =>
    rw [relocateAll, relocateAll_eq_map, caseGuard, caseGuard, Option.map_some, List.foldl_map,
      htest]
    refine congrArg some (List.foldl_hom _ fun guard v => ?_)
    rw [htest, Expr.relocate, Expr.location_relocate]

/-- Reads one branch of a `case`, and the others by a reader of what is behind it. -/
def caseBranch (inner : Parse Statement) (subject : Expr) (bound : Nat)
    (more : List Branch → Option Branch → Parse (List Branch)) (branches : List Branch)
    (fallback : Option Branch) (location : Location) : Parse (List Branch) := do
  if ← eat (.keyword .defaultWord) then
    let _ ← expect (.symbol .colon)
    let body ← block inner bound
    more branches (some (.mk none body location))
  else
    let values ← separatedList .comma (fun _ => false) (fun _ => expression bound) bound []
    let _ ← expect (.symbol .colon)
    let body ← block inner bound
    more (branches ++ [.mk (caseGuard subject values) body location]) fallback

theorem caseBranches_succ (inner : Parse Statement) (subject : Expr) (bound rounds : Nat)
    (branches : List Branch) (fallback : Option Branch) :
    caseBranches inner subject bound (rounds + 1) branches fallback =
      peek >>= fun token => if token.kind == .symbol .rightBrace then
          pure (branches ++ fallback.toList)
        else caseBranch inner subject bound (caseBranches inner subject bound rounds) branches
          fallback token.location := rfl

section Conditionals

variable {inner inner' : Parse Statement} (hinner : CarriesStatements x False n inner inner')
  (hb : n < b) (hb' : b ≤ b')
include hinner hb hb'

theorem carried_elseBranch (hs : s.tokens.length ≤ n) :
    Carried x atEnd s.tokens.length s (elseBranch inner b) (elseBranch inner' b')
      (Branch.relocate x.move) := by
  refine .bind (.expect nofun) fun token s₁ h₁ => ?_
  exact carried_body hinner hb hb' (fun _ => rfl) (by omega) (by omega)

theorem carried_caseBranch (subject : Expr)
    {more more' : List Branch → Option Branch → Parse (List Branch)} (hs : s.tokens.length ≤ n)
    (hmore : ∀ s' branches fallback, s'.tokens.length < s.tokens.length →
      Carried x False s.tokens.length s' (more branches fallback)
        (more' (relocateBranches x.move branches) (fallback.map (Branch.relocate x.move)))
        (relocateBranches x.move))
    (branches : List Branch) (fallback : Option Branch) (l : Location) :
    Carried x False s.tokens.length s (caseBranch inner subject b more branches fallback l)
      (caseBranch inner' (subject.relocate x.move) b' more' (relocateBranches x.move branches)
        (fallback.map (Branch.relocate x.move)) (x.move l))
      (relocateBranches x.move) := by
  refine .eat_bind nofun False.elim (fun s₁ h₁ => ?_) ?_
  · refine .bind (.expect nofun) fun _ s₂ h₂ => ?_
    refine .bind (carried_block hinner hb hb' (by omega)) fun body s₃ h₃ => ?_
    exact hmore s₃ branches (some (.mk none body l)) (by omega)
  · have hvalues := carried_values (x := x) (m := s.tokens.length + 1) (s := s) hb' False.elim
      (by omega) (Nat.lt_succ_self _)
    refine .bind hvalues fun values s₁ h₁ => ?_
    refine .bind (.expect nofun) fun _ s₂ h₂ => ?_
    refine .bind (carried_block hinner hb hb' (by omega)) fun body s₃ h₃ => ?_
    have hrest := hmore s₃ (branches ++ [.mk (caseGuard subject values) body l]) fallback (by omega)
    rw [relocateBranches_append, relocateBranches, relocateBranches, Branch.relocate,
      ← caseGuard_relocate] at hrest
    exact hrest

theorem carried_caseBranches (subject : Expr) :
    ∀ {c c' m : Nat} {s : TokenStream} (branches : List Branch) (fallback : Option Branch),
      s.tokens.length ≤ n → s.tokens.length < c → s.tokens.length < c' → s.tokens.length < m →
        Carried x False m s (caseBranches inner subject b c branches fallback)
          (caseBranches inner' (subject.relocate x.move) b' c' (relocateBranches x.move branches)
            (fallback.map (Branch.relocate x.move)))
          (relocateBranches x.move)
  | 0, _, _, _, _, _, _, hc, _, _ => absurd hc (Nat.not_lt_zero _)
  | _, 0, _, _, _, _, _, _, hc', _ => absurd hc' (Nat.not_lt_zero _)
  | c + 1, c' + 1, m, s, branches, fallback, hn, hc, hc', hm => by
    have hmore : ∀ s' branches fallback, s'.tokens.length < s.tokens.length →
        Carried x False s.tokens.length s' (caseBranches inner subject b c branches fallback)
          (caseBranches inner' (subject.relocate x.move) b' c' (relocateBranches x.move branches)
            (fallback.map (Branch.relocate x.move)))
          (relocateBranches x.move) := fun s' branches fallback hs' =>
      carried_caseBranches subject branches fallback (by omega) (by omega) (by omega) hs'
    have hbranch := carried_caseBranch hinner hb hb' subject hn hmore branches fallback
    rw [caseBranches_succ, caseBranches_succ]
    refine .peek_bind (fun hne => ?_) (fun hnil => (hbranch s.stop).of_nil hnil) fun _ => rfl
    by_cases hclose : (front s).kind = .symbol .rightBrace
    · simp only [Token.relocate, hclose, beq_self_eq_true, if_true]
      refine .pure hm ?_
      rw [relocateBranches_append]
      cases fallback <;> rfl
    · simp only [Token.relocate, hclose, beq_iff_eq, if_false]
      exact (hbranch (front s).location).mono (Nat.le_of_lt hm)

variable (ho : atEnd → x.Loose)
include ho

theorem carried_guardedBranch (hs : s.tokens.length ≤ n) :
    Carried x atEnd s.tokens.length s (guardedBranch inner b) (guardedBranch inner' b')
      (Branch.relocate x.move) := by
  refine .bind (carriesExpressions ho hb' s (by omega)) fun guard s₁ h₁ => ?_
  rw [Expr.location_relocate]
  exact carried_body hinner hb hb' (fun _ => rfl) (by omega) (by omega)

theorem carried_furtherBranches :
    ∀ {c c' m : Nat} {s : TokenStream}, s.tokens.length ≤ n → s.tokens.length < c →
      s.tokens.length < c' → s.tokens.length < m →
        Carried x atEnd m s (furtherBranches inner b c) (furtherBranches inner' b' c')
          (relocateBranches x.move)
  | 0, _, _, _, _, hc, _, _ => absurd hc (Nat.not_lt_zero _)
  | _, 0, _, _, _, _, hc', _ => absurd hc' (Nat.not_lt_zero _)
  | c + 1, c' + 1, m, s, hn, hc, hc', hm => by
    refine .eat_bind nofun (fun h => (ho h).ne (by decide)) (fun s₁ h₁ => ?_) ?_
    · refine .bind (carried_guardedBranch hinner hb hb' ho (by omega)) fun branch s₂ h₂ => ?_
      have hrest : Carried x atEnd m s₂ (furtherBranches inner b c) (furtherBranches inner' b' c')
          (relocateBranches x.move) :=
        carried_furtherBranches (by omega) (by omega) (by omega) (by omega)
      exact .bind hrest fun rest s₃ h₃ => .pure h₃ rfl
    · refine .isNext_bind nofun (fun h => (ho h).ne (by decide)) (fun _ => ?_) (.pure hm rfl)
      refine .bind (carried_elseBranch hinner hb hb' hn) fun branch s₁ h₁ => ?_
      exact .pure (by omega) rfl

theorem carried_ifStatement (hs : s.tokens.length ≤ n) :
    Carried x atEnd s.tokens.length s (ifStatement inner b) (ifStatement inner' b')
      (Statement.relocate x.move) := by
  refine .bind (.expect nofun) fun start s₁ h₁ => ?_
  refine .bind (carried_guardedBranch hinner hb hb' ho (by omega)) fun first s₂ h₂ => ?_
  have hrest : Carried x atEnd s.tokens.length s₂ (furtherBranches inner b b)
      (furtherBranches inner' b' b') (relocateBranches x.move) :=
    carried_furtherBranches hinner hb hb' ho (by omega) (by omega) (by omega) (by omega)
  exact .bind hrest fun rest s₃ h₃ => .pure h₃ rfl

theorem carried_unlessStatement (hs : s.tokens.length ≤ n) :
    Carried x atEnd s.tokens.length s (unlessStatement inner b) (unlessStatement inner' b')
      (Statement.relocate x.move) := by
  refine .bind (.expect nofun) fun start s₁ h₁ => ?_
  refine .bind (carriesExpressions ho hb' s₁ (by omega)) fun guard s₂ h₂ => ?_
  rw [Expr.location_relocate]
  refine .bind (carried_block hinner hb hb' (by omega)) fun body s₃ h₃ => ?_
  refine .isNext_bind nofun (fun h => (ho h).ne (by decide)) (fun _ => ?_) (.pure (by omega) rfl)
  refine .bind (carried_elseBranch hinner hb hb' (by omega)) fun last s₄ h₄ => ?_
  exact .pure (by omega) rfl

theorem carried_caseStatement (hs : s.tokens.length ≤ n) :
    Carried x atEnd s.tokens.length s (caseStatement inner b) (caseStatement inner' b')
      (Statement.relocate x.move) := by
  refine .bind (.expect nofun) fun start s₁ h₁ => ?_
  refine .bind (carriesExpressions ho hb' s₁ (by omega)) fun subject s₂ h₂ => ?_
  refine .bind (.expect nofun) fun _ s₃ h₃ => ?_
  have hbranches : Carried x False (s.tokens.length + 1) s₃
      (caseBranches inner subject b b [] none)
      (caseBranches inner' (subject.relocate x.move) b' b' [] none) (relocateBranches x.move) :=
    carried_caseBranches hinner hb hb' subject [] none (by omega) (by omega) (by omega) (by omega)
  refine .bind_taking hbranches fun branches s₄ => ?_
  exact .bind (.expect nofun) fun _ s₅ h₅ => .pure h₅ rfl

end Conditionals

/-! ### Statements -/

theorem carried_statementOf {inner inner' : Option String → Parse Statement}
    (hinner : ∀ space, CarriesStatements x False n (inner space) (inner' space)) (hb : n < b)
    (hb' : b ≤ b') (ho : atEnd → x.Loose) (space : Option String) (hs : s.tokens.length ≤ n) :
    Carried x atEnd s.tokens.length s (statementOf inner space b) (statementOf inner' space b')
      (Statement.relocate x.move) := by
  refine .peek_bind (fun hne => ?_) (fun _ => .unexpected) fun _ => rfl
  generalize front s = token
  obtain ⟨kind, l⟩ := token
  cases kind with
  | keyword word =>
    cases word with
    | classWord =>
      refine .peekSecond_bind hne nofun (fun h => (ho h).ne (by decide)) ?_ ?_
      · refine .bind (.advance hne) fun _ s₁ h₁ => ?_
        exact (carried_resourceDeclaration hb' (by omega) "class" l).mono (Nat.le_of_lt h₁)
      · exact carried_classDefinition hinner hb hb' ho space hs
    | defineWord => exact carried_defineDefinition hinner hb hb' ho space hs
    | nodeWord => exact carried_nodeDefinition hinner hb hb' ho space hs
    | ifWord => exact carried_ifStatement (hinner space) hb hb' ho hs
    | unlessWord => exact carried_unlessStatement (hinner space) hb hb' ho hs
    | caseWord => exact carried_caseStatement (hinner space) hb hb' ho hs
    | inheritsWord | elsifWord | elseWord | defaultWord | andWord | orWord | trueWord | falseWord
    | undefWord => exact .unexpected
  | variableName name =>
    refine .bind (.advance hne) fun _ s₁ h₁ => ?_
    exact (carried_assignment hb' ho (by omega) name l).mono (Nat.le_of_lt h₁)
  | name name =>
    refine .bind (.advance hne) fun _ s₁ h₁ => ?_
    refine .isNext_bind nofun (fun h => (ho h).ne (by decide)) (fun _ => ?_) ?_
    · exact (carried_resourceDeclaration hb' (by omega) _ l).mono (Nat.le_of_lt h₁)
    · exact carried_callStatement hb' ho (by omega) h₁ name l
  | typeName name => exact carried_relationshipStatement ho (by omega) hb'
  | string | template | integer | symbol | eof => exact .unexpected

/-- Statements are carried from streams that are shorter than both bounds. -/
theorem carriesStatements :
    ∀ {b b' : Nat} {atEnd : Prop} (space : Option String), (atEnd → x.Loose) → b ≤ b' →
      CarriesStatements x atEnd b (statement b space) (statement b' space)
  | 0, _, _, _, _, _ => fun _ hs => absurd hs (Nat.not_lt_zero _)
  | _ + 1, 0, _, _, _, hb => absurd hb (Nat.not_succ_le_zero _)
  | b + 1, _ + 1, _, space, ho, hb => fun _ hs => by
    have hinner := fun space =>
      carriesStatements (b := b) space False.elim (Nat.le_of_succ_le_succ hb)
    exact carried_statementOf hinner (Nat.lt_succ_self b) hb ho space (Nat.le_of_lt_succ hs)

end Manifest.Grammar
