import Manifest.Grammar
import Manifest.Proofs.Grammar.StatementRoundTrip

/-!
# Written trees are read back

The written form of a legal tree that the grammar can give is read as a tree that differs from it
in places alone.

## Main results

* `eof_notMem_tokensIn` — no written form has an end of input in it.
* `build_of_written` — written trees are read back.
-/

namespace Manifest

open Grammar

/-! ### No end of input -/

theorem eof_notMem_grouped {ks : List TokenKind} (h : .eof ∉ ks) (needed : Bool) :
    .eof ∉ grouped needed ks := by
  cases needed <;> simp [grouped, h]

theorem eof_notMem_separated (sign : Symbol) : ∀ {pieces : List (List TokenKind)},
    (∀ ks ∈ pieces, .eof ∉ ks) → .eof ∉ separated sign pieces
  | [], _ => List.not_mem_nil
  | [ks], h => h ks List.mem_cons_self
  | ks :: more :: rest, h => by
    obtain ⟨hks, hrest⟩ := List.forall_mem_cons.mp h
    simp [separated, hks, eof_notMem_separated sign hrest]

theorem eof_notMem_linked (arrows : List Arrow) {pieces : List (List TokenKind)}
    (h : ∀ ks ∈ pieces, .eof ∉ ks) : .eof ∉ linked arrows pieces := by
  cases pieces with
  | nil => exact List.not_mem_nil
  | cons first rest =>
    obtain ⟨hfirst, hrest⟩ := List.forall_mem_cons.mp h
    rw [linked, List.mem_append, List.mem_flatMap]
    rintro (hmem | ⟨⟨arrow, ks⟩, hlink, hmem⟩)
    · exact hfirst hmem
    · rcases List.mem_cons.mp hmem with harrow | hmem
      · cases arrow <;> cases harrow
      · exact hrest ks (List.of_mem_zip hlink).2 hmem

mutual

theorem Expr.eof_notMem_tokens : ∀ e : Expr, .eof ∉ e.tokens
  | .string .. | .template .. | .integer .. | .absent _ | .variableRead .. => by
    simp [Expr.tokens]
  | .bool .. => by simp [Expr.tokens]
  | .bareword text _ => by
    rw [Expr.tokens, wordToken]
    split <;> simp
  | .array items _ => by
    simp [Expr.tokens, eof_notMem_separated .comma (eof_notMem_eachTokens items)]
  | .reference _ titles _ => by
    simp [Expr.tokens, eof_notMem_separated .comma (eof_notMem_eachTokens titles)]
  | .call _ args _ => by
    simp [Expr.tokens, eof_notMem_separated .comma (eof_notMem_eachTokens args)]
  | .not operand _ => by
    simp [Expr.tokens, eof_notMem_grouped operand.eof_notMem_tokens]
  | .binary op left right _ => by
    have hop : TokenKind.eof ≠ op.token := by cases op <;> simp [BinaryOp.token]
    simp [Expr.tokens, eof_notMem_grouped left.eof_notMem_tokens,
      eof_notMem_grouped right.eof_notMem_tokens, hop]
  | .relationship operands arrows _ => eof_notMem_linked arrows (eof_notMem_eachTokens operands)

theorem eof_notMem_eachTokens : ∀ es : List Expr, ∀ ks ∈ eachTokens es, .eof ∉ ks
  | [] => List.forall_mem_nil _
  | e :: rest => List.forall_mem_cons.mpr ⟨e.eof_notMem_tokens, eof_notMem_eachTokens rest⟩

end

theorem Parameter.eof_notMem_tokens (p : Parameter) : .eof ∉ p.tokens := by
  rw [Parameter.tokens]
  cases p.default with
  | none => simp
  | some e => simp [e.eof_notMem_tokens]

theorem eof_notMem_parametersTokens (ps : List Parameter) : .eof ∉ parametersTokens ps := by
  have hps : ∀ ks ∈ ps.map Parameter.tokens, .eof ∉ ks :=
    List.forall_mem_map.mpr fun p _ => p.eof_notMem_tokens
  rw [parametersTokens]
  split
  · exact List.not_mem_nil
  · simp [eof_notMem_separated .comma hps]

theorem Attribute.eof_notMem_tokens (a : Attribute) : .eof ∉ a.tokens := by
  have hname : .eof ≠ TokenKind.ofWord a.name := by
    rw [TokenKind.ofWord]
    split <;> simp
  simp [Attribute.tokens, hname, a.value.eof_notMem_tokens]

theorem ResourceBody.eof_notMem_tokens (body : ResourceBody) : .eof ∉ body.tokens := by
  have hattributes : ∀ ks ∈ body.attributes.map Attribute.tokens, .eof ∉ ks :=
    List.forall_mem_map.mpr fun a _ => a.eof_notMem_tokens
  simp [ResourceBody.tokens, body.title.eof_notMem_tokens,
    eof_notMem_separated .comma hattributes]

theorem eof_notMem_braced {ks : List TokenKind} (h : .eof ∉ ks) : .eof ∉ braced ks := by
  simp [braced, h]

mutual

theorem Statement.eof_notMem_tokens : ∀ s : Statement, .eof ∉ s.tokens
  | .classDefinition header body => by
    have hparent : .eof ∉ parentTokens header.parent := by
      cases header.parent <;> simp [parentTokens]
    simp [Statement.tokens, eof_notMem_parametersTokens, hparent,
      eof_notMem_braced (eof_notMem_tokensIn body)]
  | .defineDefinition header body => by
    simp [Statement.tokens, eof_notMem_parametersTokens,
      eof_notMem_braced (eof_notMem_tokensIn body)]
  | .nodeDefinition header body => by
    have hnames : ∀ ks ∈ header.names.map fun n => [n.token], .eof ∉ ks :=
      List.forall_mem_map.mpr fun n _ => by cases n <;> simp [NodeName.token]
    simp [Statement.tokens, eof_notMem_separated .comma hnames,
      eof_notMem_braced (eof_notMem_tokensIn body)]
  | .resource typeName bodies _ => by
    have hbodies : ∀ ks ∈ bodies.map ResourceBody.tokens, .eof ∉ ks :=
      List.forall_mem_map.mpr fun body _ => body.eof_notMem_tokens
    have htype : .eof ≠ typeToken typeName := by
      rw [typeToken]
      split <;> simp
    simp [Statement.tokens, htype, eof_notMem_braced (eof_notMem_separated .semicolon hbodies)]
  | .conditional branches _ => eof_notMem_branchesTokens .ifWord branches
  | .assignment _ value _ => by simp [Statement.tokens, value.eof_notMem_tokens]
  | .expression value => value.eof_notMem_tokens

/-- No written form has an end of input in it. -/
theorem eof_notMem_tokensIn : ∀ ss : List Statement, .eof ∉ tokensIn ss
  | [] => List.not_mem_nil
  | s :: rest => by simp [tokensIn, s.eof_notMem_tokens, eof_notMem_tokensIn rest]

theorem eof_notMem_branchesTokens (word : Keyword) : ∀ branches : List Branch,
    .eof ∉ branchesTokens word branches
  | [] => List.not_mem_nil
  | .mk (some guard) body _ :: rest => by
    simp [branchesTokens, guard.eof_notMem_tokens, eof_notMem_braced (eof_notMem_tokensIn body),
      eof_notMem_branchesTokens .elsifWord rest]
  | .mk none body _ :: rest => by
    simp [branchesTokens, eof_notMem_braced (eof_notMem_tokensIn body),
      eof_notMem_branchesTokens .elsifWord rest]

end

/-! ### Reading the written form -/

variable {file : String} {ss : List Statement} {tokens : List Token}

/-- The stream of a written form has all of it, whether or not its end is marked. -/
theorem map_kind_ofTokens (file : String)
    (h : tokens.map Token.kind = tokensIn ss ∨ tokens.map Token.kind = tokensIn ss ++ [.eof]) :
    (TokenStream.ofTokens file tokens).tokens.map Token.kind = tokensIn ss := by
  have htake : (TokenStream.ofTokens file tokens).tokens.map Token.kind =
      (tokens.map Token.kind).takeWhile (!· == .eof) := by
    rw [List.takeWhile_map]
    rfl
  have hall : ∀ k ∈ tokensIn ss, (!k == .eof) = true := by
    intro k hk
    have hne : k ≠ .eof := fun heof => eof_notMem_tokensIn ss (heof ▸ hk)
    simpa using hne
  have hwhole : ∀ rest, (tokensIn ss ++ rest).takeWhile (!· == .eof) =
      tokensIn ss ++ rest.takeWhile (!· == .eof) := fun _ => List.takeWhile_append_of_pos hall
  rw [htake]
  rcases h with h | h
  · rw [h]
    simpa using hwhole []
  · rw [h]
    simpa using hwhole [.eof]

theorem reads_program {b : Nat} (h : NormalIn none ss) (hb : (tokensIn ss).length ≤ b) :
    Reads (program b) (tokensIn ss) (· = .eof) (fun ss' => bareIn ss' = bareIn ss) := by
  refine reads_statements (· = .eof) (fun k hk => ?_) ?_ h (readBack_of_memIn ss h) hb hb
  · have hne : k ≠ .eof := by
      rintro rfl
      cases hk
    simpa using hne
  · rintro k rfl
    simp

/-- A manifest is accepted if all of it is read and its definitions stand where they may. -/
theorem build_eq_ok {rest : TokenStream}
    (h : program ((TokenStream.ofTokens file tokens).tokens.length + 1)
      (TokenStream.ofTokens file tokens) = .ok (ss, rest))
    (hlegal : (⟨file, ss⟩ : Ast).misplaced? = none) : build file tokens = .ok ⟨file, ss⟩ := by
  have hrun : (program ((TokenStream.ofTokens file tokens).tokens.length + 1)).run
      (TokenStream.ofTokens file tokens) = .ok (ss, rest) := h
  rw [build]
  simp only [hrun, hlegal]

/-- The written form of a legal tree that the grammar can give is read as a tree that differs from
it in places alone. -/
theorem build_of_written (hnormal : NormalIn none ss)
    (hlegal : (⟨file, ss⟩ : Ast).misplaced? = none)
    (htokens : tokens.map Token.kind = tokensIn ss ∨
      tokens.map Token.kind = tokensIn ss ++ [.eof]) :
    ∃ ast, build file tokens = .ok ast ∧ ast.file = file ∧ bareIn ast.statements = bareIn ss := by
  have hkinds := map_kind_ofTokens file htokens
  have hlength : (tokensIn ss).length ≤ (TokenStream.ofTokens file tokens).tokens.length + 1 := by
    rw [← hkinds, List.length_map]
    exact Nat.le_succ _
  have hspells : (TokenStream.ofTokens file tokens).Spells (tokensIn ss)
      ⟨[], (TokenStream.ofTokens file tokens).stop⟩ := ⟨_, by rw [List.append_nil], hkinds⟩
  obtain ⟨ss', hread, hbare⟩ := reads_program hnormal hlength _ _ hspells rfl
  have hlegal' : (⟨file, ss'⟩ : Ast).misplaced? = none := misplacedIn?_of_bare_eq hbare hlegal
  exact ⟨⟨file, ss'⟩, build_eq_ok hread hlegal', rfl, hbare⟩

namespace Sample

/-- The place of everything in the sample. -/
def here : Location := ⟨"site.pp", 1, 1⟩

/-- The expression `!(a or b) and c == 1`. -/
def guard : Expr :=
  .binary .and
    (.not (.binary .or (.bareword "a" here) (.bareword "b" here) here) here)
    (.binary .equal (.bareword "c" here) (.integer 1 here) here) here

/-- A define inside of a class, with a conditional in its body, and what else a manifest can say. -/
def site : List Statement :=
  [.classDefinition ⟨"web", [⟨"port", some (.integer 80 here), here⟩], some "base", none, here⟩
      [.defineDefinition ⟨"web::page", [⟨"text", none, here⟩], some "web", here⟩
        [.conditional
          [.mk (some guard) [.assignment "x" (.bareword "File" here) here] here,
            .mk none [.expression (.call "notice" [.variableRead "text" here] here)] here] here]],
    .resource "file" [⟨.string "/tmp" here, [⟨"if", .bool true here, here⟩], here⟩] here,
    .resource "class" [⟨.string "web" here, [], here⟩] here,
    .expression (.relationship
      [.reference "File" [.string "/tmp" here] here, .string "b" here] [.notify] here),
    .nodeDefinition ⟨[.exact "db", .fallback], here⟩ []]

/-- Parentheses stand only where they are needed. -/
example : guard.tokens =
    [.symbol .bang, .symbol .leftParen, .name "a", .keyword .orWord, .name "b",
      .symbol .rightParen, .keyword .andWord, .name "c", .symbol .equal, .integer 1] := by
  decide

theorem normalIn_site : NormalIn none site := by
  have hweb : Relative none "web" := ⟨"web", by decide, by decide, by decide, by decide⟩
  have hpage : Relative (some "web") "web::page" :=
    ⟨"page", by decide, by decide, by decide, by decide⟩
  have hlower : ∀ word ∈ ["base", "file", "class", "db"], Text.lower word = word := by decide
  simp [site, NormalIn, Statement.Normal, NormalParameters, NormalBranches, ResourceBody.Normal,
    Branch.isGuarded, guard, Expr.Plain, AllPlain, Expr.Stands, hweb, hpage, hlower]

end Sample

theorem build_of_written_sample :
    NormalIn none Sample.site ∧ (⟨"site.pp", Sample.site⟩ : Ast).misplaced? = none ∧
      ∃ ast, build "site.pp" ((tokensIn Sample.site).map (⟨·, Sample.here⟩)) = .ok ast ∧
        ast.file = "site.pp" ∧ bareIn ast.statements = bareIn Sample.site := by
  refine ⟨Sample.normalIn_site, rfl, build_of_written Sample.normalIn_site rfl (.inl ?_)⟩
  rw [List.map_map]
  exact List.map_id _

end Manifest