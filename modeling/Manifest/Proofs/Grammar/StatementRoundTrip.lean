import Manifest.Proofs.Grammar.ExpressionRoundTrip

/-!
# Written statements are read back

Nothing separates one statement from the next.  So a statement is read up to a token that can stand
behind it: the beginning of another statement, a closing brace or the end of input.

## Main definitions

* `Closes` — the tokens that can stand behind a statement.
* `Statement.ReadBack` — the tokens of a statement are read as that statement.

## Main results

* `Statement.readBack` — written statements are read back.
-/

namespace Manifest

open Grammar

/-! ### What stands behind a statement -/

/-- A token that can stand behind a statement. -/
def Closes (k : TokenKind) : Prop :=
  beginsStatement k = true ∨ k = .symbol .rightBrace ∨ k = .eof

namespace Closes

variable {k : TokenKind}

theorem ends (h : Closes k) : Ends 0 k := by
  rcases h with h | rfl | rfl
  · unfold beginsStatement at h
    split at h <;> simp_all [Ends, comparisonOp?]
  · simp [Ends, comparisonOp?]
  · simp [Ends, comparisonOp?]

theorem arrow?_eq_none (h : Closes k) : arrow? k = none := by
  rcases h with h | rfl | rfl
  · unfold beginsStatement at h
    split at h <;> simp_all [arrow?]
  · rfl
  · rfl

theorem ne_branch (h : Closes k) : k ≠ .keyword .elsifWord ∧ k ≠ .keyword .elseWord := by
  rcases h with h | rfl | rfl
  · constructor <;> rintro rfl <;> cases h
  · simp
  · simp

end Closes

/-! ### Parameters -/

variable {b : Nat} {space : Option String}

/-- Of items with different names none has the name of one that is found before it. -/
theorem any_eq_false_of_nodup {α : Type} {f : α → String} {bare : α → α}
    {items found before after : List α} {a : α} (h : (items.map f).Nodup)
    (hitems : items = before ++ a :: after) (hfound : found.map bare = before.map bare)
    (hbare : ∀ a, f (bare a) = f a) : found.any (f · == f a) = false := by
  have hnames : found.map f = before.map f := by
    have hmap := congrArg (List.map f) hfound
    simpa only [List.map_map, Function.comp_def, hbare] using hmap
  have hnew : f a ∉ found.map f := by
    rw [hitems, List.map_append, List.map_cons, List.nodup_append] at h
    rw [hnames]
    exact fun hmem => h.2.2 _ hmem _ List.mem_cons_self rfl
  rw [List.mem_map] at hnew
  simpa using hnew

theorem reads_parameter {p : Parameter} {found : List Parameter}
    (hplain : ∀ e ∈ p.default, e.Plain) (hnew : found.any (·.name == p.name) = false)
    (hb : p.tokens.length ≤ b) :
    Reads (parameter b found) p.tokens (fun k => k = .symbol .comma ∨ k = .symbol .rightParen)
      (fun p' => p'.bare = p.bare) := by
  rw [Parameter.tokens] at hb ⊢
  refine .peek_cons_bind fun token htoken => ?_
  simp only [htoken]
  refine .advance_bind fun _ _ => ?_
  rw [hnew, if_neg Bool.false_ne_true]
  cases hdefault : p.default with
  | none =>
    refine .eat_bind_of_ne ?_ ?_
    · rintro k (rfl | rfl) <;> simp
    · rw [if_neg Bool.false_ne_true]
      exact .pure (by simp [Parameter.bare, hdefault])
  | some e =>
    rw [hdefault, List.length_cons, List.length_cons] at hb
    refine .eat_bind ?_
    rw [if_pos rfl]
    refine (Expr.reads (hplain e hdefault) (by omega)).bind_nil ?_ fun e' he' => ?_
    · rintro k (rfl | rfl) <;> simp [Ends, comparisonOp?]
    · exact .pure (by simp [Parameter.bare, hdefault, he'])

theorem reads_parameters {ps : List Parameter} (h : NormalParameters ps)
    (hb : (parametersTokens ps).length ≤ b) :
    Reads (parameters b) (parametersTokens ps) (· ≠ .symbol .leftParen)
      (fun ps' => ps'.map Parameter.bare = ps.map Parameter.bare) := by
  rw [parametersTokens] at hb ⊢
  by_cases hempty : ps.isEmpty = true
  · rw [if_pos hempty, List.isEmpty_iff.mp hempty]
    exact .eat_bind_of_ne (fun _ => id) (.pure rfl)
  · rw [if_neg hempty] at hb ⊢
    rw [List.length_cons, List.length_append, List.length_singleton] at hb
    refine .eat_bind (Reads.enclosedList _ (by decide) ?_ (fun p _ => ?_) (by omega))
    · intro before p after hps found hfound
      have hp : p ∈ ps := by simp [hps]
      have hlength := length_le_separated .comma (List.mem_map_of_mem (f := Parameter.tokens) hp)
      have hnew := any_eq_false_of_nodup h.1 hps hfound fun _ => rfl
      exact reads_parameter (h.2 p hp) hnew (by omega)
    · simp [Parameter.tokens, Meets]

/-! ### Resources -/

theorem attributeName?_ofWord (word : String) : attributeName? (.ofWord word) = some word := by
  rw [TokenKind.ofWord]
  cases hword : Keyword.ofText? word with
  | none => rfl
  | some k =>
    have htext := List.find?_some hword
    exact congrArg some (beq_iff_eq.mp htext)

theorem reads_attribute {a : Attribute} {found : List Attribute} (hplain : a.value.Plain)
    (hnew : found.any (·.name == a.name) = false) (hb : a.tokens.length ≤ b)
    {next : TokenKind → Prop} (hnext : ∀ k, next k → Ends 0 k) :
    Reads (attributeOf b found) a.tokens next (fun a' => a'.bare = a.bare) := by
  rw [Attribute.tokens] at hb ⊢
  rw [List.length_cons, List.length_cons] at hb
  refine .peek_cons_bind fun token htoken => ?_
  simp only [htoken, attributeName?_ofWord]
  refine .advance_bind fun _ _ => ?_
  rw [hnew, if_neg Bool.false_ne_true]
  refine .expect_bind fun _ _ => ?_
  refine (Expr.reads hplain (by omega)).bind_nil hnext fun e he => ?_
  exact .pure (by simp [Attribute.bare, he])

theorem reads_resourceBody {body : ResourceBody} (h : body.Normal)
    (hb : body.tokens.length ≤ b) :
    Reads (resourceBody b) body.tokens (fun k => k = .symbol .semicolon ∨ k = .symbol .rightBrace)
      (fun body' => body'.bare = body.bare) := by
  obtain ⟨htitle, hnames, hvalues⟩ := h
  rw [ResourceBody.tokens] at hb ⊢
  rw [List.length_append, List.length_cons] at hb
  refine (Expr.reads htitle (by omega)).bind (by simp [Meets, Ends, comparisonOp?])
    fun title htitle => ?_
  refine .expect_bind fun _ _ => ?_
  refine (Reads.separatedList Attribute.bare _ ?_ (fun a _ => ?_) ?_ ?_ (by omega)).bind_nil
    (fun _ => id) fun attributes hattributes => .pure ?_
  · intro before a after hattributes found hfound
    have ha : a ∈ body.attributes := by simp [hattributes]
    have hlength := length_le_separated .comma (List.mem_map_of_mem (f := Attribute.tokens) ha)
    have hnew := any_eq_false_of_nodup hnames hattributes hfound fun _ => rfl
    refine reads_attribute (hvalues a ha) hnew (by omega) ?_
    rintro k (rfl | rfl | rfl) <;> simp [Ends, comparisonOp?]
  · rw [Attribute.tokens, TokenKind.ofWord]
    split <;> simp [Meets]
  · rintro k (rfl | rfl) <;> simp
  · rintro - k (rfl | rfl) <;> simp
  · simp [ResourceBody.bare, htitle, hattributes]

theorem reads_resource (typeName : String) {bodies : List ResourceBody}
    (h : ∀ body ∈ bodies, body.Normal) (location location' : Location)
    (hb : (separated .semicolon (bodies.map ResourceBody.tokens)).length < b)
    (next : TokenKind → Prop) :
    Reads (resourceDeclaration typeName location b)
      (braced (separated .semicolon (bodies.map ResourceBody.tokens))) next
      (fun s => s.bare = (Statement.resource typeName bodies location').bare) := by
  refine .expect_bind fun _ _ => ?_
  refine (Reads.separatedList ResourceBody.bare (· = .symbol .rightBrace) ?_
    (fun body hbody => ?_) ?_ ?_ (by omega)).bind rfl fun bodies' hbodies => ?_
  · intro before body after hbodies found _
    have hbody : body ∈ bodies := by simp [hbodies]
    have hlength := length_le_separated .semicolon
      (List.mem_map_of_mem (f := ResourceBody.tokens) hbody)
    exact reads_resourceBody (h body hbody) (by omega)
  · rw [ResourceBody.tokens]
    refine ((body.title.meets_tokens (h body hbody).1).imp fun k hk => ?_).append _
    cases k with
    | symbol sign => cases sign <;> simp_all [beginsExpression]
    | _ => rfl
  · rintro k rfl
    simp
  · rintro - k rfl
    simp
  · exact .expect_bind fun _ _ => .pure (by rw [Statement.bare, Statement.bare, hbodies])

/-! ### Statements that are expressions -/

theorem reads_assignment {value : Expr} (h : value.Plain) (hb : value.tokens.length ≤ b)
    (name : String) (location location' : Location) :
    Reads (assignment name location b) (.symbol .assign :: value.tokens) Closes
      (fun s => s.bare = (Statement.assignment name value location').bare) := by
  refine .expect_bind fun _ _ => ?_
  refine (Expr.reads h hb).bind_nil (fun _ => Closes.ends) fun e he => ?_
  exact .pure (by rw [Statement.bare, Statement.bare, he])

theorem reads_call {args : List Expr} (h : AllPlain args)
    (hb : (separated .comma (eachTokens args)).length < b) (function : String)
    (location location' : Location) (next : TokenKind → Prop) :
    Reads (callStatement function location b)
      (.symbol .leftParen :: (separated .comma (eachTokens args) ++ [.symbol .rightParen])) next
      (fun s => s.bare = (Statement.expression (.call function args location')).bare) := by
  have hlist := reads_expressions .rightParen (readBack_of_mem args h) h
    (by simp [Ends, comparisonOp?]) (by decide) b (Nat.le_of_lt hb) hb next
  refine .eat_bind ?_
  refine hlist.bind_nil (fun _ => id) fun args' hargs => .pure ?_
  rw [Statement.bare, Statement.bare, Expr.bare, Expr.bare, hargs]

theorem meets_links (links : List (Arrow × Expr)) :
    Meets (Ends 0) (links.flatMap fun link => link.1.token :: link.2.tokens) Closes := by
  cases links with
  | nil => exact .nil fun _ => Closes.ends
  | cons link rest =>
    change Ends 0 link.1.token
    cases link.1 <;> simp [Ends, Arrow.token, comparisonOp?]

/-- Links of a chain are read one by one, each with its arrow before it. -/
theorem reads_arrowChain : ∀ {links : List (Arrow × Expr)} {rounds : Nat},
    (∀ link ∈ links, link.2.Plain) →
      (links.flatMap fun link => link.1.token :: link.2.tokens).length ≤ b →
        (links.flatMap fun link => link.1.token :: link.2.tokens).length ≤ rounds →
          Reads (arrowChain (expression b) rounds)
            (links.flatMap fun link => link.1.token :: link.2.tokens) Closes
            (fun links' => links'.map (Prod.map id Expr.bare) = links.map (Prod.map id Expr.bare))
  | [], 0, _, _, _ => .pure rfl
  | [], rounds + 1, _, _, _ => by
    rw [arrowChain]
    refine .peek_bind (P := (arrow? · = none)) (fun _ => Closes.arrow?_eq_none) fun _ htoken => ?_
    simp only [htoken]
    exact .pure rfl
  | link :: rest, rounds + 1, hplain, hb, hrounds => by
    rw [List.forall_mem_cons] at hplain
    rw [List.flatMap_cons, List.length_append, List.length_cons] at hb hrounds
    rw [List.flatMap_cons, arrowChain]
    have harrow : arrow? link.1.token = some link.1 := by cases link.1 <;> rfl
    refine .peek_cons_bind fun token htoken => ?_
    simp only [htoken, harrow]
    refine .advance_bind fun _ _ => ?_
    refine (Expr.reads hplain.1 (by omega)).bind (meets_links rest) fun e he => ?_
    refine (reads_arrowChain hplain.2 (by omega) (by omega)).bind_nil (fun _ => id)
      fun links hlinks => .pure ?_
    rw [List.map_cons, List.map_cons, hlinks, Prod.map, Prod.map, he]

theorem reads_relationship {first : Expr} {rest : List Expr} {arrows : List Arrow}
    (hfirst : first.Plain) (hrest : AllPlain rest) (harrows : arrows ≠ [])
    (hlength : rest.length = arrows.length) (location : Location)
    (hb : (linked arrows (eachTokens (first :: rest))).length ≤ b) :
    Reads (relationshipStatement b) (linked arrows (eachTokens (first :: rest))) Closes
      (fun s => s.bare =
        (Statement.expression (.relationship (first :: rest) arrows location)).bare) := by
  have hlinked : linked arrows (eachTokens (first :: rest)) =
      first.tokens ++ (arrows.zip rest).flatMap fun link => link.1.token :: link.2.tokens := by
    rw [eachTokens, linked, eachTokens_eq_map, List.zip_map_right, List.flatMap_map]
    rfl
  have hfst : (arrows.zip rest).map Prod.fst = arrows :=
    List.map_fst_zip (Nat.le_of_eq hlength.symm)
  have hsnd : (arrows.zip rest).map Prod.snd = rest := List.map_snd_zip (Nat.le_of_eq hlength)
  rw [hlinked] at hb ⊢
  rw [List.length_append] at hb
  refine (Expr.reads hfirst (by omega)).bind (meets_links _) fun e he => ?_
  refine (reads_arrowChain (fun link hlink => ?_) (by omega) (by omega)).bind_nil (fun _ => id)
    fun links hlinks => ?_
  · exact allPlain_iff.mp hrest _ (List.of_mem_zip hlink).2
  -- The links that are read have the arrows that were written and operands that are alike.
  · have hlinksFst : links.map Prod.fst = arrows := by
      have hmap := congrArg (List.map Prod.fst) hlinks
      simpa [Function.comp_def, hfst] using hmap
    have hlinksSnd : (links.map Prod.snd).map Expr.bare = rest.map Expr.bare := by
      have hmap := congrArg (List.map Prod.snd) hlinks
      rw [List.map_map, List.map_map] at hmap
      rw [List.map_map, ← hsnd, List.map_map]
      exact hmap
    have hne : ¬(links.isEmpty = true) := by
      rintro hempty
      rw [List.isEmpty_iff.mp hempty] at hlinksFst
      exact harrows hlinksFst.symm
    rw [if_neg hne]
    refine .pure ?_
    rw [Statement.bare, Statement.bare, Expr.bare, Expr.bare, bareAll, bareAll, bareAll_eq_map,
      bareAll_eq_map, he, hlinksFst, hlinksSnd]

/-! ### Blocks -/

/-- Inside the definition `space` the tokens of a statement are read as that statement. -/
def Statement.ReadBack (space : Option String) (s : Statement) : Prop :=
  ∀ b, s.tokens.length ≤ b → Reads (statement b space) s.tokens Closes (fun s' => s'.bare = s.bare)

theorem meets_tokensIn {ss : List Statement} (h : NormalIn space ss) :
    Meets Closes (tokensIn ss) (fun k => k = .symbol .rightBrace ∨ k = .eof) := by
  cases ss with
  | nil => exact .nil fun _ => Or.inr
  | cons s rest => exact ((s.meets_tokens h.1).imp fun _ => Or.inl).append _

/-- Statements are read one by one up to a token that stops. -/
theorem reads_statements {stops : TokenKind → Bool} (next : TokenKind → Prop)
    (hstops : ∀ k, beginsStatement k = true → stops k = false)
    (hnext : ∀ k, next k → stops k = true ∧ (k = .symbol .rightBrace ∨ k = .eof)) :
    ∀ {ss : List Statement} {rounds : Nat}, NormalIn space ss →
      (∀ s ∈ ss, s.ReadBack space) → (tokensIn ss).length ≤ b → (tokensIn ss).length ≤ rounds →
        Reads (statements stops (statement b space) rounds) (tokensIn ss) next
          (fun ss' => bareIn ss' = bareIn ss)
  | [], 0, _, _, _, _ => .pure rfl
  | [], rounds + 1, _, _, _, _ => by
    rw [statements]
    refine .peek_bind (P := (stops · = true)) (fun k hk => (hnext k hk).1) fun token htoken => ?_
    rw [if_pos htoken]
    exact .pure rfl
  | s :: rest, rounds, hnormal, hread, hb, hrounds => by
    rw [List.forall_mem_cons] at hread
    rw [tokensIn, List.length_append] at hb hrounds
    have hbegins := s.meets_tokens hnormal.1
    have hpos := Statement.length_tokens_pos hnormal.1
    obtain ⟨rounds, rfl⟩ : ∃ rounds', rounds = rounds' + 1 := ⟨rounds - 1, by omega⟩
    rw [tokensIn, statements]
    refine .peek_bind ((hbegins.imp hstops).append _) fun token htoken => ?_
    rw [if_neg (by simp [htoken])]
    refine .eat_bind_of_ne ((hbegins.imp ?_).append _) ?_
    · rintro k hk rfl
      cases hk
    rw [if_neg Bool.false_ne_true]
    -- What begins the rest closes the first statement.
    refine (hread.1 b (by omega)).bind ((meets_tokensIn hnormal.2).mono fun k hk => (hnext k hk).2)
      fun s' hs' => ?_
    refine (reads_statements next hstops hnext hnormal.2 hread.2 (by omega) (by omega)).bind_nil
      (fun _ => id) fun rest' hrest' => .pure ?_
    rw [bareIn, bareIn, hs', hrest']

theorem reads_block {body : List Statement} (h : NormalIn space body)
    (hread : ∀ s ∈ body, s.ReadBack space) (hb : (tokensIn body).length ≤ b)
    (next : TokenKind → Prop) :
    Reads (block (statement b space) (b + 1)) (braced (tokensIn body)) next
      (fun body' => bareIn body' = bareIn body) := by
  refine .expect_bind fun _ _ => ?_
  refine (reads_statements (· = .symbol .rightBrace) ?_ ?_ h hread hb (by omega)).bind rfl
    fun body' hbody => .expect_bind fun _ _ => .pure hbody
  · intro k hk
    have hbrace : k ≠ .symbol .rightBrace := by
      rintro rfl
      cases hk
    have heof : k ≠ .eof := by
      rintro rfl
      cases hk
    simp [hbrace, heof]
  · rintro k rfl
    simp

/-! ### Definitions -/

theorem length_braced (ks : List TokenKind) : (braced ks).length = ks.length + 2 := by
  rw [braced, List.length_cons, List.length_append, List.length_singleton]

theorem reads_class {header : ClassHeader} {body : List Statement}
    (h : (Statement.classDefinition header body).Normal space)
    (hread : ∀ s ∈ body, s.ReadBack (some header.name))
    (hb : (Statement.classDefinition header body).tokens.length ≤ b + 1) :
    Reads (classDefinition (statement b) space (b + 1))
      (Statement.classDefinition header body).tokens Closes
      (fun s => s.bare = (Statement.classDefinition header body).bare) := by
  obtain ⟨rfl, hrelative, hparameters, hparent, hbody⟩ := h
  rw [Statement.tokens] at hb ⊢
  simp only [List.length_cons, List.length_append, length_braced] at hb
  refine .expect_bind fun _ _ => .expectName_bind ?_
  rw [qualify_relativeName hrelative]
  refine (reads_parameters hparameters (by omega)).bind ?_ fun parameters hparameters => ?_
  · cases header.parent <;> simp [parentTokens, braced, Meets]
  have hblock := reads_block hbody hread (show _ ≤ b by omega) Closes
  cases hheader : header.parent with
  | none =>
    refine .eat_bind_of_ne (by simp [parentTokens, braced, Meets]) ?_
    rw [if_neg Bool.false_ne_true]
    refine hblock.bind_nil (fun _ => id) fun body' hbody => .pure ?_
    simp [Statement.bare, ClassHeader.bare, hparameters, hbody, hheader]
  | some parent =>
    refine .eat_bind ?_
    rw [if_pos rfl]
    refine .expectName_bind (hblock.bind_nil (fun _ => id) fun body' hbody => .pure ?_)
    simp [Statement.bare, ClassHeader.bare, hparameters, hbody, hheader, hparent parent hheader]

theorem reads_define {header : DefineHeader} {body : List Statement}
    (h : (Statement.defineDefinition header body).Normal space)
    (hread : ∀ s ∈ body, s.ReadBack (some header.name))
    (hb : (Statement.defineDefinition header body).tokens.length ≤ b + 1) :
    Reads (defineDefinition (statement b) space (b + 1))
      (Statement.defineDefinition header body).tokens Closes
      (fun s => s.bare = (Statement.defineDefinition header body).bare) := by
  obtain ⟨rfl, hrelative, hparameters, hbody⟩ := h
  rw [Statement.tokens] at hb ⊢
  simp only [List.length_cons, List.length_append, length_braced] at hb
  refine .expect_bind fun _ _ => .expectName_bind ?_
  rw [qualify_relativeName hrelative]
  refine (reads_parameters hparameters (by omega)).bind (by simp [braced, Meets])
    fun parameters hparameters => ?_
  refine (reads_block hbody hread (by omega) _).bind_nil (fun _ => id) fun body' hbody => .pure ?_
  simp [Statement.bare, DefineHeader.bare, hparameters, hbody]

theorem reads_nodeName {name : NodeName} (h : ∀ text, name = .exact text → Text.lower text = text)
    (next : TokenKind → Prop) : Reads nodeName [name.token] next (· = name) := by
  cases name with
  | exact text =>
    refine .peek_cons_bind fun token htoken => ?_
    simp only [htoken]
    exact .advance_bind fun _ _ => .pure (congrArg NodeName.exact (h text rfl))
  | fallback =>
    refine .peek_cons_bind fun token htoken => ?_
    simp only [htoken]
    exact .advance_bind fun _ _ => .pure rfl

theorem reads_node {header : NodeHeader} {body : List Statement}
    (h : (Statement.nodeDefinition header body).Normal space)
    (hread : ∀ s ∈ body, s.ReadBack space)
    (hb : (Statement.nodeDefinition header body).tokens.length ≤ b + 1) :
    Reads (nodeDefinition (statement b space) (b + 1))
      (Statement.nodeDefinition header body).tokens Closes
      (fun s => s.bare = (Statement.nodeDefinition header body).bare) := by
  obtain ⟨hnonempty, hlower, hbody⟩ := h
  rw [Statement.tokens] at hb ⊢
  simp only [List.length_cons, List.length_append, length_braced] at hb
  refine .expect_bind fun _ _ => ?_
  refine (Reads.separatedList id (· = .symbol .leftBrace) ?_ ?_ ?_ (fun h => absurd h hnonempty)
    (by omega)).bind rfl fun names hnames => ?_
  · intro before name after hnames found _
    have hmem : name ∈ header.names := by simp [hnames]
    exact reads_nodeName (fun text hname => hlower text (hname ▸ hmem)) _
  · exact fun _ _ => rfl
  · rintro k rfl
    simp
  · refine (reads_block hbody hread (by omega) _).bind_nil (fun _ => id) fun body' hbody => .pure ?_
    rw [List.map_id, List.map_id] at hnames
    rw [Statement.bare, Statement.bare, NodeHeader.bare, NodeHeader.bare, hnames, hbody]

/-! ### Conditionals -/

/-- Inside the definition `space` the tokens of the statements in a branch are read as these. -/
def Branch.ReadBack (space : Option String) : Branch → Prop
  | .mk _ body _ => ∀ s ∈ body, s.ReadBack space

theorem reads_guardedBranch {guard : Expr} {body : List Statement} (hguard : guard.Plain)
    (h : NormalIn space body) (hread : ∀ s ∈ body, s.ReadBack space)
    (hb : (guard.tokens ++ braced (tokensIn body)).length ≤ b + 1) (location : Location)
    (next : TokenKind → Prop) :
    Reads (guardedBranch (statement b space) (b + 1)) (guard.tokens ++ braced (tokensIn body)) next
      (fun branch => branch.bare = (Branch.mk (some guard) body location).bare) := by
  rw [List.length_append, length_braced] at hb
  refine (Expr.reads hguard (by omega)).bind (by simp [braced, Meets, Ends, comparisonOp?])
    fun guard' hguard' => ?_
  refine (reads_block h hread (by omega) next).bind_nil (fun _ => id) fun body' hbody => .pure ?_
  rw [Branch.bare, Branch.bare, Option.map_some, Option.map_some, hguard', hbody]

theorem reads_elseBranch {body : List Statement} (h : NormalIn space body)
    (hread : ∀ s ∈ body, s.ReadBack space) (hb : (tokensIn body).length ≤ b) (location : Location)
    (next : TokenKind → Prop) :
    Reads (elseBranch (statement b space) (b + 1)) (.keyword .elseWord :: braced (tokensIn body))
      next (fun branch => branch.bare = (Branch.mk none body location).bare) := by
  refine .expect_bind fun _ _ => ?_
  refine (reads_block h hread hb next).bind_nil (fun _ => id) fun body' hbody => .pure ?_
  rw [Branch.bare, Branch.bare, hbody, Option.map_none]

theorem reads_furtherBranches : ∀ {branches : List Branch} {rounds : Nat},
    NormalBranches space branches → (∀ branch ∈ branches, branch.ReadBack space) →
      (branchesTokens .elsifWord branches).length ≤ b →
        (branchesTokens .elsifWord branches).length ≤ rounds →
          Reads (furtherBranches (statement b space) (b + 1) rounds)
            (branchesTokens .elsifWord branches) Closes
            (fun branches' => bareBranches branches' = bareBranches branches)
  | [], 0, _, _, _, _ => .pure rfl
  | [], rounds + 1, _, _, _, _ => by
    rw [furtherBranches]
    refine .eat_bind_of_ne (fun k hk => (Closes.ne_branch hk).1) ?_
    rw [if_neg Bool.false_ne_true]
    refine .isNext_bind (b := false) (fun k hk => ?_) (.pure rfl)
    simpa using (Closes.ne_branch hk).2
  | .mk (some guard) body location :: rest, rounds + 1, hnormal, hread, hb, hrounds => by
    obtain ⟨hguard, -, hbody, hrest⟩ := hnormal
    rw [List.forall_mem_cons] at hread
    rw [branchesTokens, ← List.append_assoc, List.length_cons, List.length_append] at hb hrounds
    rw [branchesTokens, ← List.append_assoc, furtherBranches]
    refine .eat_bind ?_
    rw [if_pos rfl]
    refine (reads_guardedBranch (hguard guard rfl) hbody hread.1 (by omega) location
      (fun _ => True)).bind .anything fun branch hbranch => ?_
    refine (reads_furtherBranches hrest hread.2 (by omega) (by omega)).bind_nil (fun _ => id)
      fun rest' hrest' => .pure ?_
    rw [bareBranches, bareBranches, hbranch, hrest']
  | .mk none body location :: rest, rounds + 1, hnormal, hread, hb, _ => by
    obtain ⟨-, hlast, hbody, -⟩ := hnormal
    obtain rfl := hlast rfl
    rw [branchesTokens, branchesTokens, List.append_nil, List.length_cons, length_braced] at hb
    rw [branchesTokens, branchesTokens, List.append_nil, furtherBranches]
    refine .eat_bind_of_ne (by simp [Meets]) ?_
    rw [if_neg Bool.false_ne_true]
    refine .isNext_bind (b := true) (by simp [Meets]) ?_
    rw [if_pos rfl]
    refine (reads_elseBranch hbody (hread _ List.mem_cons_self) (by omega) location Closes).bind_nil
      (fun _ => id) fun branch hbranch => .pure ?_
    simp only [bareBranches, hbranch]

theorem reads_conditional {branches : List Branch} {location : Location}
    (h : (Statement.conditional branches location).Normal space)
    (hread : ∀ branch ∈ branches, branch.ReadBack space)
    (hb : (Statement.conditional branches location).tokens.length ≤ b + 1) :
    Reads (ifStatement (statement b space) (b + 1))
      (Statement.conditional branches location).tokens Closes
      (fun s => s.bare = (Statement.conditional branches location).bare) := by
  match branches, h with
  | .mk (some guard) body location' :: rest, ⟨_, hguard, _, hbody, hrest⟩ =>
    rw [List.forall_mem_cons] at hread
    rw [Statement.tokens, branchesTokens, ← List.append_assoc] at hb ⊢
    rw [List.length_cons, List.length_append] at hb
    refine .expect_bind fun _ _ => ?_
    refine (reads_guardedBranch (hguard guard rfl) hbody hread.1 (by omega) location'
      (fun _ => True)).bind .anything fun branch hbranch => ?_
    refine (reads_furtherBranches hrest hread.2 (by omega) (by omega)).bind_nil (fun _ => id)
      fun rest' hrest' => .pure ?_
    rw [Statement.bare, Statement.bare, bareBranches, bareBranches, hbranch, hrest']

/-! ### Every statement -/

/-- A statement takes one level of nesting. -/
theorem readBack_of_statementOf {s : Statement} (h : s.Normal space)
    (hread : ∀ b, s.tokens.length ≤ b + 1 →
      Reads (statementOf (statement b) space (b + 1)) s.tokens Closes
        (fun s' => s'.bare = s.bare)) :
    s.ReadBack space := by
  intro b hb
  have hpos := Statement.length_tokens_pos h
  obtain ⟨b, rfl⟩ : ∃ b', b = b' + 1 := ⟨b - 1, by omega⟩
  exact hread b hb

mutual

/-- The tokens of a statement that the grammar can give are read as that statement. -/
theorem Statement.readBack {space : Option String} : ∀ s : Statement, s.Normal space →
    s.ReadBack space
  | .classDefinition header body, h => readBack_of_statementOf h fun b hb => by
    have hread := readBack_of_memIn body h.2.2.2.2
    refine .peek_cons_bind fun token htoken => ?_
    simp only [htoken]
    refine .peekSecond_bind ?_
    rw [if_neg (by simp)]
    exact reads_class h hread hb
  | .defineDefinition header body, h => readBack_of_statementOf h fun b hb => by
    have hread := readBack_of_memIn body h.2.2.2
    refine .peek_cons_bind fun token htoken => ?_
    simp only [htoken]
    exact reads_define h hread hb
  | .nodeDefinition header body, h => readBack_of_statementOf h fun b hb => by
    have hread := readBack_of_memIn body h.2.2
    refine .peek_cons_bind fun token htoken => ?_
    simp only [htoken]
    exact reads_node h hread hb
  | .resource typeName bodies location, h => readBack_of_statementOf h fun b hb => by
    rw [Statement.tokens] at hb ⊢
    rw [List.length_cons, length_braced] at hb
    have hlength : (separated .semicolon (bodies.map ResourceBody.tokens)).length < b + 1 := by
      omega
    have hresource := fun l => reads_resource typeName h.2 l location hlength Closes
    -- The type of a resource is a name or the keyword for classes, which starts definitions as
    -- well.
    by_cases hclass : typeName = "class"
    · rw [typeToken, if_pos hclass]
      refine .peek_cons_bind fun token htoken => ?_
      simp only [htoken]
      refine .peekSecond_bind ?_
      rw [if_pos (beq_self_eq_true _), ← hclass]
      exact .advance_bind fun _ _ => hresource _
    · rw [typeToken, if_neg hclass]
      refine .peek_cons_bind fun token htoken => ?_
      simp only [htoken]
      refine .advance_bind fun _ _ => .isNext_bind (b := true) rfl ?_
      rw [if_pos rfl, h.1]
      exact hresource _
  | .conditional (.mk (some guard) body l :: rest) location, h =>
    readBack_of_statementOf h fun b hb => by
      have hread := readBack_of_memBranches (.mk (some guard) body l :: rest) h.2
      refine .peek_cons_bind fun token htoken => ?_
      simp only [htoken]
      exact reads_conditional h hread hb
  | .assignment name value location, h => readBack_of_statementOf h fun b hb => by
    rw [Statement.tokens] at hb ⊢
    refine .peek_cons_bind fun token htoken => ?_
    simp only [htoken]
    refine .advance_bind fun _ _ => reads_assignment h ?_ name _ location
    rw [List.length_cons, List.length_cons] at hb
    omega
  | .expression (.call function args location), h => readBack_of_statementOf h fun b hb => by
    rw [Statement.tokens, Expr.tokens] at hb ⊢
    refine .peek_cons_bind fun token htoken => ?_
    simp only [htoken]
    refine .advance_bind fun _ _ => .isNext_bind (b := false) (by simp [Meets]) ?_
    rw [if_neg Bool.false_ne_true]
    refine reads_call h ?_ function _ location Closes
    rw [List.length_cons, List.length_cons, List.length_append] at hb
    omega
  | .expression (.relationship (.reference typeName titles l :: rest) arrows location), h =>
    readBack_of_statementOf h fun b hb => by
      obtain ⟨htitles, hrest, harrows, hlength⟩ := h
      have hfirst : (Expr.reference typeName titles l).Plain := htitles
      rw [Statement.tokens, Expr.tokens] at hb ⊢
      refine .peek_cons_bind fun token htoken => ?_
      simp only [htoken]
      exact reads_relationship hfirst hrest harrows hlength location hb

theorem readBack_of_memIn {space : Option String} : ∀ ss : List Statement, NormalIn space ss →
    ∀ s ∈ ss, s.ReadBack space
  | [], _ => List.forall_mem_nil _
  | s :: rest, h => List.forall_mem_cons.mpr ⟨s.readBack h.1, readBack_of_memIn rest h.2⟩

theorem readBack_of_memBranches {space : Option String} : ∀ branches : List Branch,
    NormalBranches space branches → ∀ branch ∈ branches, branch.ReadBack space
  | [], _ => List.forall_mem_nil _
  | .mk _ body _ :: rest, h =>
    List.forall_mem_cons.mpr ⟨readBack_of_memIn body h.2.2.1, readBack_of_memBranches rest h.2.2.2⟩

end

end Manifest