import Manifest.Proofs.Collection
import Manifest.Proofs.Grammar.Answers
import Manifest.Proofs.Grammar.CarriedStatement
import Manifest.Proofs.Token.Names

/-!
# The names of definitions

A class or define is called by a name without anchor in lower case, however it is written: its name
in the text has the shape of a name, and a definition inside another one has the full name of that
one in front.

## Main definitions

* `Statement.CanonicalNames` — the definitions in a statement have such names.
* `Grammar.AnswersAt` — what a reader answers at one stream has a property.

## Main results

* `Grammar.canonicalNames_statement` — what is read from the tokens of a text has such names.
* `Collection.IsRead.isCanonical` — so have the definitions of all collections.
-/

namespace Manifest

/-- The definitions in a statement have canonical names. -/
def Statement.CanonicalNames (s : Statement) : Prop :=
  (∀ c ∈ s.classes, Name.IsCanonical c.name) ∧ ∀ d ∈ s.defines, Name.IsCanonical d.name

/-- The definitions in statements have canonical names. -/
def CanonicalNamesIn (body : List Statement) : Prop :=
  (∀ c ∈ classesIn body, Name.IsCanonical c.name) ∧ ∀ d ∈ definesIn body, Name.IsCanonical d.name

theorem canonicalNamesIn_nil : CanonicalNamesIn [] := ⟨nofun, nofun⟩

theorem canonicalNamesIn_cons {s : Statement} {rest : List Statement} (h : s.CanonicalNames)
    (hrest : CanonicalNamesIn rest) : CanonicalNamesIn (s :: rest) :=
  ⟨List.forall_mem_append.mpr ⟨h.1, hrest.1⟩, List.forall_mem_append.mpr ⟨h.2, hrest.2⟩⟩

/-- A statement that defines nothing. -/
def Statement.DefinesNothing (s : Statement) : Prop := s.classes = [] ∧ s.defines = []

theorem Statement.DefinesNothing.canonicalNames {s : Statement} (h : s.DefinesNothing) :
    s.CanonicalNames := by
  rw [Statement.CanonicalNames, h.1, h.2]
  exact ⟨nofun, nofun⟩

namespace Grammar

/-! ### Statements that define nothing -/

section Leaves

variable (inner : Parse Statement) (bound : Nat)

theorem definesNothing_resourceDeclaration (typeName : String) (location : Location) :
    Answers Statement.DefinesNothing (resourceDeclaration typeName location bound) :=
  .after fun _ => .after fun _ => .after fun _ => .pure ⟨rfl, rfl⟩

theorem definesNothing_assignment (name : String) (location : Location) :
    Answers Statement.DefinesNothing (assignment name location bound) :=
  .after fun _ => .after fun _ => .pure ⟨rfl, rfl⟩

theorem definesNothing_callStatement (function : String) (location : Location) :
    Answers Statement.DefinesNothing (callStatement function location bound) :=
  .after fun _ => .ite (.after fun _ => .pure ⟨rfl, rfl⟩) (.after fun _ => .pure ⟨rfl, rfl⟩)

theorem definesNothing_relationshipStatement :
    Answers Statement.DefinesNothing (relationshipStatement bound) :=
  .after fun _ => .after fun _ => .ite .unexpected (.pure ⟨rfl, rfl⟩)

theorem definesNothing_nodeDefinition :
    Answers Statement.DefinesNothing (nodeDefinition inner bound) :=
  .after fun _ => .after fun _ => .after fun _ => .pure ⟨rfl, rfl⟩

theorem definesNothing_ifStatement :
    Answers Statement.DefinesNothing (ifStatement inner bound) :=
  .after fun _ => .after fun _ => .after fun _ => .pure ⟨rfl, rfl⟩

theorem definesNothing_unlessStatement :
    Answers Statement.DefinesNothing (unlessStatement inner bound) :=
  .after fun _ => .after fun _ => .after fun _ => .after fun _ =>
    .ite (.after fun _ => .pure ⟨rfl, rfl⟩) (.pure ⟨rfl, rfl⟩)

theorem definesNothing_caseStatement :
    Answers Statement.DefinesNothing (caseStatement inner bound) :=
  .after fun _ => .after fun _ => .after fun _ => .after fun _ => .after fun _ => .pure ⟨rfl, rfl⟩

end Leaves

/-- A statement that is read is a class or a define, or else nothing is defined by it. -/
theorem definition_or_nothing {inner : Option String → Parse Statement} {space : Option String}
    {bound : Nat} {s s' : TokenStream} {st : Statement}
    (h : statementOf inner space bound s = .ok (st, s')) :
    classDefinition inner space bound s = .ok (st, s') ∨
      defineDefinition inner space bound s = .ok (st, s') ∨ st.DefinesNothing := by
  have hleaf : ∀ {p : Parse Statement}, Answers Statement.DefinesNothing p →
      p s = .ok (st, s') → st.DefinesNothing := fun hp hst => hp s st s' hst
  rw [statementOf, bind_of_ok (show peek s = .ok (front s, s) from rfl)] at h
  generalize front s = token at h
  obtain ⟨kind, l⟩ := token
  cases kind with
  | keyword word =>
    cases word with
    | classWord =>
      obtain ⟨second, s₁, hsecond, h⟩ := bind_eq_ok_iff.mp h
      cases hsecond
      split at h
      · refine .inr (.inr (hleaf (.after fun _ => ?_) h))
        exact definesNothing_resourceDeclaration bound "class" l
      · exact .inl h
    | defineWord => exact .inr (.inl h)
    | nodeWord => exact .inr (.inr (hleaf (definesNothing_nodeDefinition _ bound) h))
    | ifWord => exact .inr (.inr (hleaf (definesNothing_ifStatement _ bound) h))
    | unlessWord => exact .inr (.inr (hleaf (definesNothing_unlessStatement _ bound) h))
    | caseWord => exact .inr (.inr (hleaf (definesNothing_caseStatement _ bound) h))
    | inheritsWord | elsifWord | elseWord | defaultWord | andWord | orWord | trueWord | falseWord
    | undefWord => cases h
  | variableName name =>
    exact .inr (.inr (hleaf (.after fun _ => definesNothing_assignment bound name l) h))
  | name name =>
    refine .inr (.inr (hleaf (.after fun _ => .after fun _ => .ite ?_ ?_) h))
    · exact definesNothing_resourceDeclaration bound _ l
    · exact definesNothing_callStatement bound name l
  | typeName name => exact .inr (.inr (hleaf (definesNothing_relationshipStatement bound) h))
  | string | template | integer | symbol | eof => cases h

/-! ### Readers at one stream -/

variable {α β : Type} {P : α → Prop} {Q : β → Prop} {n : Nat} {s : TokenStream} {p : Parse α}
  {f : α → Parse β}

/-- What a reader answers at a stream has a property. -/
def AnswersAt (P : α → Prop) (s : TokenStream) (p : Parse α) : Prop :=
  ∀ a s', p s = .ok (a, s') → P a

/-- What a reader leaves is the end of the stream, with less than so many tokens. -/
def Leaves (n : Nat) (s : TokenStream) (p : Parse α) : Prop :=
  ∀ a s', p s = .ok (a, s') → s'.tokens <:+ s.tokens ∧ s'.tokens.length < n

/-- Nothing is put behind a stream, and all places stay. -/
def Extension.nothing : Extension := ⟨id, ⟨[], default⟩⟩

theorem Carried.leaves {γ : Type} {q : Parse γ} {move : α → γ}
    (h : Carried Extension.nothing False n s p q move) : Leaves n s p := fun a s' hp =>
  ⟨(h a s' hp).1, (h a s' hp).2.1⟩

theorem leaves_expect {k : TokenKind} (hk : k ≠ .eof) : Leaves s.tokens.length s (expect k) :=
  (Carried.expect hk).leaves

theorem leaves_eat (k : TokenKind) (hn : s.tokens.length < n) : Leaves n s (eat k) := by
  intro found s' h
  change (if (front s).kind == k then _ else _ : Parse Bool) s = _ at h
  split at h
  · cases h
    exact ⟨List.tail_suffix s.tokens, Nat.lt_of_le_of_lt (List.tail_suffix _).length_le hn⟩
  · cases h
    exact ⟨List.suffix_rfl, hn⟩

/-- All names in the stream are written like names. -/
def IsWrittenStream (s : TokenStream) : Prop := ∀ t ∈ s.tokens, t.kind.IsWritten

namespace AnswersAt

theorem bind (hp : AnswersAt P s p) (hleaves : Leaves n s p)
    (hf : ∀ a s', s'.tokens <:+ s.tokens → s'.tokens.length < n → P a → AnswersAt Q s' (f a)) :
    AnswersAt Q s (p >>= f) := by
  intro b s'' h
  obtain ⟨a, s', ha, hb⟩ := bind_eq_ok_iff.mp h
  obtain ⟨hsuffix, hlength⟩ := hleaves a s' ha
  exact hf a s' hsuffix hlength (hp a s' ha) b s'' hb

/-- What comes after a reader whatever it answers. -/
theorem after (hleaves : Leaves n s p) (hwritten : IsWrittenStream s)
    (hf : ∀ a s', s'.tokens.length < n → IsWrittenStream s' → AnswersAt Q s' (f a)) :
    AnswersAt Q s (p >>= f) :=
  bind (P := fun _ => True) (fun _ _ _ => trivial) hleaves fun a s' hsuffix hlength _ =>
    hf a s' hlength fun t ht => hwritten t (hsuffix.subset ht)

theorem pure {a : α} (h : P a) : AnswersAt P s (pure a) := by
  rintro _ s' ⟨⟩
  exact h

theorem ite {c : Prop} [Decidable c] {q : Parse α} (hp : AnswersAt P s p) (hq : AnswersAt P s q) :
    AnswersAt P s (if c then p else q) := by
  split
  · exact hp
  · exact hq

end AnswersAt

theorem answersAt_expectName (h : IsWrittenStream s) :
    AnswersAt Name.IsWritten s expectName := by
  obtain ⟨tokens, stop⟩ := s
  intro name s' hname
  cases tokens with
  | nil => cases hname
  | cons token rest =>
    obtain ⟨kind, l⟩ := token
    cases kind with
    | name text =>
      cases hname
      exact h _ List.mem_cons_self
    | _ => cases hname

/-! ### Definitions -/

/-- The full name of the definition around a statement is canonical, if there is one. -/
def CanonicalSpace (space : Option String) : Prop := ∀ outer, space = some outer →
  Name.IsCanonical outer

theorem canonicalSpace_some {outer : String} (h : Name.IsCanonical outer) :
    CanonicalSpace (some outer) := by
  rintro _ ⟨⟩
  exact h

theorem isCanonical_qualify {space : Option String} {name : String} (hspace : CanonicalSpace space)
    (h : Name.IsWritten name) : Name.IsCanonical (qualify space name) := by
  unfold qualify
  unfold Name.IsWritten at h
  cases habsolute : Name.absolute? name with
  | some full =>
    rw [habsolute] at h
    exact Name.isCanonical_lower h
  | none =>
    rw [habsolute] at h
    refine Name.IsCanonical.join ?_ (Name.isCanonical_lower h)
    cases space with
    | none => exact .inl rfl
    | some outer => exact .inr (hspace outer rfl)

/-- What a reader of statements answers at short streams has canonical names. -/
def AnswersNames (n : Nat) (inner : Parse Statement) : Prop :=
  ∀ s : TokenStream, s.tokens.length < n → IsWrittenStream s →
    AnswersAt Statement.CanonicalNames s inner ∧ Leaves s.tokens.length s inner

theorem canonicalNames_statements {inner : Parse Statement} {stops : TokenKind → Bool}
    (hinner : AnswersNames n inner) : ∀ (b : Nat) {s : TokenStream}, s.tokens.length < n →
      IsWrittenStream s → AnswersAt CanonicalNamesIn s (statements stops inner b)
  | 0, _, _, _ => .pure canonicalNamesIn_nil
  | b + 1, s, hs, hwritten => by
    have hpeek : Leaves n s peek := by
      rintro _ _ ⟨⟩
      exact ⟨List.suffix_rfl, hs⟩
    refine .after hpeek hwritten fun _ s₁ h₁ hw₁ => .ite (.pure canonicalNamesIn_nil) ?_
    refine .after (leaves_eat _ h₁) hw₁ fun _ s₂ h₂ hw₂ => .ite ?_ ?_
    · exact canonicalNames_statements hinner b h₂ hw₂
    · obtain ⟨hanswers, hleaves⟩ := hinner s₂ h₂ hw₂
      refine .bind hanswers hleaves fun first s₃ hsuffix h₃ hfirst => ?_
      intro all s₄ hall
      obtain ⟨rest, s₅, hrest, heq⟩ := bind_eq_ok_iff.mp hall
      cases heq
      exact canonicalNamesIn_cons hfirst (canonicalNames_statements hinner b (by omega)
        (fun t ht => hw₂ t (hsuffix.subset ht)) rest _ hrest)

theorem canonicalNames_block {inner : Parse Statement} (hinner : AnswersNames n inner) (b : Nat)
    (hs : s.tokens.length ≤ n) (hwritten : IsWrittenStream s) :
    AnswersAt CanonicalNamesIn s (block inner b) := by
  refine .after (leaves_expect nofun) hwritten fun _ s₁ h₁ hw₁ => ?_
  intro body s₂ hbody
  obtain ⟨body', s₃, hbody', hclose⟩ := bind_eq_ok_iff.mp hbody
  obtain ⟨_, s₄, -, heq⟩ := bind_eq_ok_iff.mp hclose
  cases heq
  exact canonicalNames_statements hinner b (by omega) hw₁ body s₃ hbody'

section Definitions

variable {inner : Option String → Parse Statement} {b : Nat} {space : Option String}
  (hinner : ∀ space, CanonicalSpace space → AnswersNames n (inner space)) (hb : n < b)
  (hspace : CanonicalSpace space) (hs : s.tokens.length ≤ n) (hwritten : IsWrittenStream s)
include hinner hb hspace hs hwritten

omit hinner in
/-- Behind the heading of a definition its full name is canonical. -/
theorem answersAt_heading {α : Type} {Q : α → Prop} (word : Keyword)
    {f : Token → String → List Parameter → Parse α}
    (hf : ∀ start name parameters t, t.tokens.length < n → IsWrittenStream t →
      Name.IsCanonical (qualify space name) → AnswersAt Q t (f start name parameters)) :
    AnswersAt Q s (do
      let start ← expect (.keyword word)
      let name ← expectName
      let parameters ← parameters b
      f start name parameters) := by
  refine .after (leaves_expect nofun) hwritten fun start s₁ h₁ hw₁ => ?_
  refine .bind (answersAt_expectName hw₁) Carried.expectName.leaves
    fun name s₂ hsuffix h₂ hname => ?_
  have hw₂ : IsWrittenStream s₂ := fun t ht => hw₁ t (hsuffix.subset ht)
  have hparameters : Leaves n s₂ (parameters b) :=
    (carried_parameters False.elim (by omega) (Nat.le_refl b) (by omega)).leaves
  exact .after hparameters hw₂ fun parameters s₃ h₃ hw₃ =>
    hf start name parameters s₃ h₃ hw₃ (isCanonical_qualify hspace hname)

theorem canonicalNames_classDefinition :
    AnswersAt Statement.CanonicalNames s (classDefinition inner space b) := by
  refine answersAt_heading hb hspace hs hwritten .classWord
    fun start name parameters s₁ h₁ hw₁ hcanonical => ?_
  have hinside := canonicalSpace_some hcanonical
  -- The body is read alike whatever the inherited class is, if there is one.
  have hbody : ∀ (parent : Option String) (t : TokenStream), t.tokens.length < n →
      IsWrittenStream t → AnswersAt Statement.CanonicalNames t (do
        let body ← block (inner (some (qualify space name))) b
        return .classDefinition ⟨qualify space name, parameters, parent, space, start.location⟩
          body) := by
    intro parent t ht hw st s' hst
    obtain ⟨body, t', hbody, heq⟩ := bind_eq_ok_iff.mp hst
    cases heq
    have hnames := canonicalNames_block (hinner _ hinside) b (Nat.le_of_lt ht) hw body _ hbody
    exact ⟨List.forall_mem_cons.mpr ⟨hcanonical, hnames.1⟩, hnames.2⟩
  refine .after (leaves_eat _ h₁) hw₁ fun found s₂ h₂ hw₂ => .ite ?_ ?_
  · exact .after Carried.expectName.leaves hw₂ fun parent s₃ h₃ hw₃ =>
      hbody _ s₃ (by omega) hw₃
  · exact hbody none s₂ h₂ hw₂

theorem canonicalNames_defineDefinition :
    AnswersAt Statement.CanonicalNames s (defineDefinition inner space b) := by
  refine answersAt_heading hb hspace hs hwritten .defineWord
    fun start name parameters s₁ h₁ hw₁ hcanonical => ?_
  intro st s' hst
  obtain ⟨body, s₂, hbody, heq⟩ := bind_eq_ok_iff.mp hst
  cases heq
  have hnames := canonicalNames_block (hinner _ (canonicalSpace_some hcanonical)) b
    (Nat.le_of_lt h₁) hw₁ body _ hbody
  exact ⟨hnames.1, List.forall_mem_cons.mpr ⟨hcanonical, hnames.2⟩⟩

/-! ### Statements -/

theorem canonicalNames_statementOf :
    AnswersAt Statement.CanonicalNames s (statementOf inner space b) := by
  intro st s' hst
  rcases definition_or_nothing hst with hclass | hdefine | hnothing
  · exact canonicalNames_classDefinition hinner hb hspace hs hwritten st s' hclass
  · exact canonicalNames_defineDefinition hinner hb hspace hs hwritten st s' hdefine
  · exact hnothing.canonicalNames

end Definitions

/-- What is read from short streams of written tokens has canonical names. -/
theorem canonicalNames_statement : ∀ (b : Nat) {space : Option String}, CanonicalSpace space →
    AnswersNames b (statement b space)
  | 0, _, _ => fun _ hs => absurd hs (Nat.not_lt_zero _)
  | b + 1, space, hspace => fun s hs hwritten => by
    refine ⟨?_, (carriesStatements space False.elim (Nat.le_refl (b + 1)) s hs).leaves⟩
    exact canonicalNames_statementOf (fun _ hinside => canonicalNames_statement b hinside)
      (Nat.lt_succ_self b) hspace (Nat.le_of_lt_succ hs) hwritten

end Grammar

/-! ### Trees and collections -/

/-- The definitions in the tree for written tokens have canonical names. -/
theorem canonicalNames_of_build {file : String} {tokens : List Token} {ast : Ast}
    (h : build file tokens = .ok ast) (hwritten : ∀ t ∈ tokens, t.kind.IsWritten) :
    CanonicalNamesIn ast.statements := by
  unfold build at h
  simp only at h
  split at h
  · cases h
  · next read s' hread =>
    split at h
    · cases h
    · cases h
      have htop : Grammar.CanonicalSpace none := fun _ hnone => by cases hnone
      exact Grammar.canonicalNames_statements (Grammar.canonicalNames_statement _ htop) _
        (Nat.lt_succ_self _) (fun t ht => hwritten t (List.takeWhile_subset _ ht)) read s' hread

/-- The definitions in the tree for a text have canonical names. -/
theorem canonicalNames_of_parse {file text : String} {ast : Ast} (h : parse file text = .ok ast) :
    CanonicalNamesIn ast.statements := by
  unfold parse at h
  split at h
  · cases h
  · next tokens hlex => exact canonicalNames_of_build h (isWritten_of_lex hlex)

/-- The definitions of a collection that was read from texts have canonical names. -/
theorem Collection.IsRead.isCanonical {c : Collection} (h : c.IsRead) :
    ∀ e ∈ c.definitions.entries, Name.IsCanonical e.2.name := by
  intro e he
  obtain ⟨file, text, a, hparse, hmem⟩ := h.definitions e he
  obtain ⟨hclasses, hdefines⟩ := canonicalNames_of_parse hparse
  rcases List.mem_append.mp hmem with hmem | hmem
  · obtain ⟨cls, hcls, heq⟩ := List.mem_map.mp hmem
    rw [← heq]
    exact hclasses cls hcls
  · obtain ⟨d, hd, heq⟩ := List.mem_map.mp hmem
    rw [← heq]
    exact hdefines d hd

end Manifest
