import Manifest.Grammar.Statement
import Manifest.Proofs.Grammar.Reads
import Manifest.Proofs.Grammar.Superseded

/-!
# How trees are written

A tree is written out as the kinds of its tokens.  Parentheses stand only where an operator binds
too loosely for its place, and the names of definitions are written without what is around them.

## Main definitions

* `Expr.rank` — how tightly an expression is bound together.
* `Expr.tokens`, `Statement.tokens`, `tokensIn` — the written form.
* `Expr.Plain`, `Statement.Normal`, `NormalIn` — the trees that the grammar can give.

## Main results

* `qualify_relativeName` — the written name of a definition stands for its full name.
* `Expr.meets_tokens`, `Statement.meets_tokens` — how the written form begins.
-/

namespace Manifest

/-! ### Expressions -/

/-- Tokens in parentheses if they need them. -/
def grouped (needed : Bool) (ks : List TokenKind) : List TokenKind :=
  if needed then .symbol .leftParen :: (ks ++ [.symbol .rightParen]) else ks

/-- A word without quotes; it is the name of a type if it begins with a capital letter. -/
def wordToken (word : String) : TokenKind :=
  if word.toList.head?.any Char.isUpper then .typeName word else .name word

namespace BinaryOp

/-- How tightly an operator binds. -/
def rank : BinaryOp → Nat
  | or => 0
  | and => 1
  | equal | notEqual => 2

/-- How tightly the left side must be bound together; `and` and `or` group to the left. -/
def leftRank : BinaryOp → Nat
  | or => 0
  | and => 1
  | equal | notEqual => 3

/-- How tightly the right side must be bound together. -/
def rightRank : BinaryOp → Nat
  | or => 1
  | and => 2
  | equal | notEqual => 3

/-- The token between the two sides. -/
def token : BinaryOp → TokenKind
  | or => .keyword .orWord
  | and => .keyword .andWord
  | equal => .symbol .equal
  | notEqual => .symbol .notEqual

end BinaryOp

/-- The token of an arrow. -/
def Arrow.token : Arrow → TokenKind
  | before => .symbol .arrow
  | notify => .symbol .tildeArrow

/-- How tightly an expression is bound together: negations more than operators, and everything else
most of all. -/
def Expr.rank : Expr → Nat
  | .binary op _ _ _ => op.rank
  | .not _ _ => 3
  | _ => 4

/-- Operands with arrows between them. -/
def linked (arrows : List Arrow) : List (List TokenKind) → List TokenKind
  | [] => []
  | first :: rest => first ++ (arrows.zip rest).flatMap fun link => link.1.token :: link.2

mutual

/-- The tokens of an expression. -/
def Expr.tokens : Expr → List TokenKind
  | .string text _ => [.string text]
  | .template parts _ => [.template parts]
  | .integer value _ => [.integer value]
  | .bool value _ => [.keyword (if value then .trueWord else .falseWord)]
  | .absent _ => [.keyword .undefWord]
  | .bareword text _ => [wordToken text]
  | .variableRead name _ => [.variableName name]
  | .array items _ =>
    .symbol .leftBracket :: (separated .comma (eachTokens items) ++ [.symbol .rightBracket])
  | .reference typeName titles _ =>
    .typeName typeName :: .symbol .leftBracket ::
      (separated .comma (eachTokens titles) ++ [.symbol .rightBracket])
  | .not operand _ => .symbol .bang :: grouped (operand.rank < 3) operand.tokens
  | .binary op left right _ =>
    grouped (left.rank < op.leftRank) left.tokens ++
      op.token :: grouped (right.rank < op.rightRank) right.tokens
  | .call function args _ =>
    .name function :: .symbol .leftParen ::
      (separated .comma (eachTokens args) ++ [.symbol .rightParen])
  | .relationship operands arrows _ => linked arrows (eachTokens operands)

/-- The tokens of each expression. -/
def eachTokens : List Expr → List (List TokenKind)
  | [] => []
  | e :: rest => e.tokens :: eachTokens rest

end

/-- The tokens of an expression where it must be bound together to some rank. -/
def Expr.tokensAt (r : Nat) (e : Expr) : List TokenKind := grouped (e.rank < r) e.tokens

mutual

/-- An expression in which there is no chain of relationships. -/
def Expr.Plain : Expr → Prop
  | .array items _ => AllPlain items
  | .reference _ titles _ => AllPlain titles
  | .call _ args _ => AllPlain args
  | .not operand _ => operand.Plain
  | .binary _ left right _ => left.Plain ∧ right.Plain
  | .relationship .. => False
  | .string .. | .template .. | .integer .. | .bool .. | .absent _ | .bareword .. |
    .variableRead .. => True

/-- Expressions in which there are no chains of relationships. -/
def AllPlain : List Expr → Prop
  | [] => True
  | e :: rest => e.Plain ∧ AllPlain rest

end

/-! ### How the written form begins -/

/-- A token that can begin an expression. -/
def beginsExpression : TokenKind → Bool
  | .string _ | .template _ | .integer _ | .variableName _ | .name _ | .typeName _ => true
  | .keyword .trueWord | .keyword .falseWord | .keyword .undefWord => true
  | .symbol .leftBracket | .symbol .leftParen | .symbol .bang => true
  | _ => false

theorem eachTokens_eq_map : ∀ es : List Expr, eachTokens es = es.map Expr.tokens
  | [] => rfl
  | e :: rest => by rw [eachTokens, List.map_cons, eachTokens_eq_map rest]

theorem allPlain_iff : ∀ {es : List Expr}, AllPlain es ↔ ∀ e ∈ es, e.Plain
  | [] => by simp [AllPlain]
  | e :: rest => by rw [AllPlain, List.forall_mem_cons, allPlain_iff]

theorem Meets.grouped {P : TokenKind → Prop} {ks : List TokenKind} (h : Meets P ks fun _ => True)
    (hparen : P (.symbol .leftParen)) (needed : Bool) :
    Meets P (grouped needed ks) fun _ => True := by
  cases needed with
  | true => exact hparen
  | false => exact h

theorem Meets.length_pos {P : TokenKind → Prop} {ks : List TokenKind} {k : TokenKind}
    (h : Meets P ks fun _ => True) (hk : ¬P k) : 0 < ks.length := by
  cases ks with
  | nil => exact absurd (h k trivial) hk
  | cons k' rest => exact Nat.succ_pos _

theorem Expr.meets_tokens : ∀ e : Expr, e.Plain →
    Meets (beginsExpression · = true) e.tokens fun _ => True
  | .string .., _ | .template .., _ | .integer .., _ | .absent _, _ | .variableRead .., _ => rfl
  | .array .., _ | .reference .., _ | .call .., _ | .not .., _ => rfl
  | .bool value _, _ => by cases value <;> rfl
  | .bareword text _, _ => by
    rw [Expr.tokens, wordToken]
    split <;> rfl
  | .binary _ left _ _, h => ((left.meets_tokens h.1).grouped rfl _).append _

theorem Expr.length_tokens_pos {e : Expr} (h : e.Plain) : 0 < e.tokens.length :=
  (e.meets_tokens h).length_pos (k := .eof) (fun h => by cases h)

theorem Expr.length_tokensAt_pos {e : Expr} (h : e.Plain) (r : Nat) :
    0 < (e.tokensAt r).length := by
  rw [Expr.tokensAt, Manifest.grouped]
  split
  · exact Nat.succ_pos _
  · exact Expr.length_tokens_pos h

theorem Expr.rank_le (e : Expr) : e.rank ≤ 4 := by
  cases e with
  | binary op => cases op <;> simp [Expr.rank, BinaryOp.rank]
  | _ => simp [Expr.rank]

/-- Of the expressions only negations begin with their sign, unless they begin with another one. -/
theorem Expr.meets_ne_bang {e : Expr} (h : e.Plain) (hrank : e.rank = 4) :
    Meets (· ≠ .symbol .bang) e.tokens fun _ => True := by
  cases e with
  | binary op => cases op <;> cases hrank
  | not => cases hrank
  | relationship => exact h.elim
  | bool value => cases value <;> simp [Expr.tokens, Meets]
  | bareword text =>
    rw [Expr.tokens, wordToken]
    split <;> simp [Meets]
  | _ => simp [Expr.tokens, Meets]

/-! ### Definitions and resources -/

/-- The name of a definition as it is written inside the definition `space`. -/
def relativeName (space : Option String) (name : String) : String :=
  if space.getD "" = "" then name
  else String.ofList (name.toList.drop ((space.getD "").toList.length + 2))

/-- The full name of a definition inside the definition `space` that is written with some name in
lower case and without an anchor. -/
def Relative (space : Option String) (name : String) : Prop :=
  ∃ written, written ≠ "" ∧ Text.lower written = written ∧ Name.absolute? written = none ∧
    name = Name.join (space.getD "") written

/-- What is written stands for the full name. -/
theorem qualify_relativeName {space : Option String} {name : String} (h : Relative space name) :
    Grammar.qualify space (relativeName space name) = name := by
  obtain ⟨written, -, hlower, habsolute, rfl⟩ := h
  have hwritten : relativeName space (Name.join (space.getD "") written) = written := by
    rw [relativeName, Name.join]
    split
    · rfl
    · apply String.toList_injective
      simp [Name.separator]
  rw [hwritten, Grammar.qualify, habsolute]
  exact congrArg (Name.join (space.getD "")) hlower

/-- The tokens of a parameter. -/
def Parameter.tokens (p : Parameter) : List TokenKind :=
  .variableName p.name ::
    match p.default with
    | none => []
    | some e => .symbol .assign :: e.tokens

/-- The tokens of the parameters of a definition, if it has any. -/
def parametersTokens (ps : List Parameter) : List TokenKind :=
  if ps.isEmpty then []
  else .symbol .leftParen ::
    (separated .comma (ps.map Parameter.tokens) ++ [.symbol .rightParen])

/-- Parameters with different names. -/
def NormalParameters (ps : List Parameter) : Prop :=
  (ps.map Parameter.name).Nodup ∧ ∀ p ∈ ps, ∀ e ∈ p.default, e.Plain

/-- The tokens for the class that is inherited, if there is one. -/
def parentTokens : Option String → List TokenKind
  | none => []
  | some parent => [.keyword .inheritsWord, .name parent]

/-- The token for the name of a node. -/
def NodeName.token : NodeName → TokenKind
  | exact name => .string name
  | fallback => .keyword .defaultWord

/-- The tokens of an attribute. -/
def Attribute.tokens (a : Attribute) : List TokenKind :=
  .ofWord a.name :: .symbol .fatArrow :: a.value.tokens

/-- The tokens of a resource body. -/
def ResourceBody.tokens (b : ResourceBody) : List TokenKind :=
  b.title.tokens ++ .symbol .colon :: separated .comma (b.attributes.map Attribute.tokens)

/-- A resource body whose attributes have different names. -/
def ResourceBody.Normal (b : ResourceBody) : Prop :=
  b.title.Plain ∧ (b.attributes.map Attribute.name).Nodup ∧ ∀ a ∈ b.attributes, a.value.Plain

/-- The token for the type of a resource. -/
def typeToken (typeName : String) : TokenKind :=
  if typeName = "class" then .keyword .classWord else .name typeName

/-- An expression that is a statement: a call, or a chain of relationships that begins with a
reference and has at least one arrow. -/
def Expr.Stands : Expr → Prop
  | .call _ args _ => AllPlain args
  | .relationship (.reference _ titles _ :: rest) arrows _ =>
    AllPlain titles ∧ AllPlain rest ∧ arrows ≠ [] ∧ rest.length = arrows.length
  | _ => False

/-! ### Statements -/

/-- Tokens between braces. -/
def braced (ks : List TokenKind) : List TokenKind :=
  .symbol .leftBrace :: (ks ++ [.symbol .rightBrace])

mutual

/-- The tokens of a statement. -/
def Statement.tokens : Statement → List TokenKind
  | .classDefinition header body =>
    .keyword .classWord :: .name (relativeName header.enclosing header.name) ::
      (parametersTokens header.parameters ++ (parentTokens header.parent ++ braced (tokensIn body)))
  | .defineDefinition header body =>
    .keyword .defineWord :: .name (relativeName header.enclosing header.name) ::
      (parametersTokens header.parameters ++ braced (tokensIn body))
  | .nodeDefinition header body =>
    .keyword .nodeWord ::
      (separated .comma (header.names.map fun n => [n.token]) ++ braced (tokensIn body))
  | .resource typeName bodies _ =>
    typeToken typeName :: braced (separated .semicolon (bodies.map ResourceBody.tokens))
  | .conditional branches _ => branchesTokens .ifWord branches
  | .assignment name value _ => .variableName name :: .symbol .assign :: value.tokens
  | .expression value => value.tokens

/-- The tokens of statements. -/
def tokensIn : List Statement → List TokenKind
  | [] => []
  | s :: rest => s.tokens ++ tokensIn rest

/-- The tokens of branches, of which the first one begins with a given word. -/
def branchesTokens (word : Keyword) : List Branch → List TokenKind
  | [] => []
  | .mk (some guard) body _ :: rest =>
    .keyword word :: (guard.tokens ++ (braced (tokensIn body) ++ branchesTokens .elsifWord rest))
  | .mk none body _ :: rest =>
    .keyword .elseWord :: (braced (tokensIn body) ++ branchesTokens .elsifWord rest)

end

mutual

/-- A statement inside the definition `space` as the grammar can give it. -/
def Statement.Normal (space : Option String) : Statement → Prop
  | .classDefinition header body =>
    header.enclosing = space ∧ Relative space header.name ∧ NormalParameters header.parameters ∧
      (∀ parent ∈ header.parent, Text.lower parent = parent) ∧ NormalIn (some header.name) body
  | .defineDefinition header body =>
    header.enclosing = space ∧ Relative space header.name ∧ NormalParameters header.parameters ∧
      NormalIn (some header.name) body
  | .nodeDefinition header body =>
    header.names ≠ [] ∧ (∀ name, .exact name ∈ header.names → Text.lower name = name) ∧
      NormalIn space body
  | .resource typeName bodies _ =>
    Text.lower typeName = typeName ∧ ∀ b ∈ bodies, b.Normal
  | .conditional branches _ =>
    branches.head?.any Branch.isGuarded = true ∧ NormalBranches space branches
  | .assignment _ value _ => value.Plain
  | .expression value => value.Stands

/-- Statements inside the definition `space` as the grammar can give them. -/
def NormalIn (space : Option String) : List Statement → Prop
  | [] => True
  | s :: rest => s.Normal space ∧ NormalIn space rest

/-- Branches of which only the last one may be without a guard. -/
def NormalBranches (space : Option String) : List Branch → Prop
  | [] => True
  | .mk guard body _ :: rest =>
    (∀ e ∈ guard, e.Plain) ∧ (guard = none → rest = []) ∧ NormalIn space body ∧
      NormalBranches space rest

end

/-- A token that can begin a statement in its written form. -/
def beginsStatement : TokenKind → Bool
  | .keyword .classWord | .keyword .defineWord | .keyword .nodeWord | .keyword .ifWord => true
  | .variableName _ | .name _ | .typeName _ => true
  | _ => false

theorem Statement.meets_tokens {space : Option String} : ∀ s : Statement, s.Normal space →
    Meets (beginsStatement · = true) s.tokens fun _ => True
  | .classDefinition .., _ | .defineDefinition .., _ | .nodeDefinition .., _ => rfl
  | .assignment .., _ => rfl
  | .resource typeName .., _ => by
    rw [Statement.tokens, typeToken]
    split <;> rfl
  | .conditional (.mk (some _) _ _ :: _) _, _ => rfl
  | .expression (.call ..), _ => rfl
  | .expression (.relationship (.reference .. :: _) ..), _ => rfl

theorem Statement.length_tokens_pos {space : Option String} {s : Statement} (h : s.Normal space) :
    0 < s.tokens.length :=
  (s.meets_tokens h).length_pos (k := .eof) (fun h => by cases h)

end Manifest
