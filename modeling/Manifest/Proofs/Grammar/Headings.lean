import Manifest.Proofs.Collection.Index
import Manifest.Proofs.Grammar.DefinedNames
import Manifest.Proofs.Grammar.InStepStatement

/-!
# The headings of definitions

Every class or define that is collected of a tree begins with its keyword and the name that it is
written with, and these headings stand in the tokens in the order in which the definitions stand in
the tree: a reader takes the tokens from the front, and it puts what it has read in this order.  The
full name of a definition comes from the written one and from the definition around it.

For statements that are not collected, such as the branches of a `case`, the order need not be the
same.

## Main definitions

* `Headed` — the headings of definitions stand in tokens, one after the other.
* `Grammar.Finds` — what a reader answers goes with the tokens that it takes.

## Main results

* `Grammar.headed_statement` — what is collected of a statement has its headings in the tokens.
* `headed_of_build` — the definitions in a tree have their headings in the tokens.
-/

namespace Manifest

/-! ### Definitions -/

namespace Definition

/-- The word that a definition begins with. -/
def keyword : Definition → Keyword
  | ofClass _ => .classWord
  | ofDefine _ => .defineWord

/-- The full name of the definition around it. -/
def enclosing : Definition → Option String
  | ofClass c => c.enclosing
  | ofDefine d => d.enclosing

/-- The full name comes from the one that the definition is written with. -/
def IsQualified (d : Definition) (written : String) : Prop :=
  d.name = Grammar.qualify d.enclosing written

end Definition

theorem Statement.DefinesNothing.collected {s : Statement} (h : s.DefinesNothing) :
    s.collected = [] := by
  cases s with
  | classDefinition header body => cases h.1
  | defineDefinition header body => cases h.2
  | _ => rfl

/-! ### Headings -/

/-- Definitions begin in the tokens, one after the other: each with its keyword, where it stands,
and behind it the name that it is written with. -/
inductive Headed (R : Definition → String → Prop) : List Definition → List Token → Prop
  | nil {ts : List Token} : Headed R [] ts
  | skip {ds : List Definition} {t : Token} {ts : List Token} (h : Headed R ds ts) :
    Headed R ds (t :: ts)
  | heading {d : Definition} {ds : List Definition} {written : String} {l : Location}
    {ts : List Token} (hd : R d written) (h : Headed R ds ts) :
    Headed R (d :: ds) (⟨.keyword d.keyword, d.location⟩ :: ⟨.name written, l⟩ :: ts)

namespace Headed

variable {R R' : Definition → String → Prop} {ds es : List Definition} {ts us : List Token}

theorem append_left (h : Headed R ds ts) (us : List Token) : Headed R ds (us ++ ts) := by
  induction us with
  | nil => exact h
  | cons u us ih => exact .skip ih

theorem append (h : Headed R ds ts) (h' : Headed R es us) : Headed R (ds ++ es) (ts ++ us) := by
  induction h with
  | nil => exact h'.append_left _
  | skip _ ih => exact .skip ih
  | heading hd _ ih => exact .heading hd ih

theorem append_right (h : Headed R ds ts) (us : List Token) : Headed R ds (ts ++ us) := by
  have happend : Headed R (ds ++ []) (ts ++ us) := h.append .nil
  rwa [List.append_nil] at happend

theorem imp (h : Headed R ds ts) (hR : ∀ d ∈ ds, ∀ written, R d written → R' d written) :
    Headed R' ds ts := by
  induction h with
  | nil => exact .nil
  | skip _ ih => exact .skip (ih hR)
  | heading hd _ ih =>
    obtain ⟨hfirst, hrest⟩ := List.forall_mem_cons.mp hR
    exact .heading (hfirst _ hd) (ih hrest)

end Headed

namespace Grammar

/-! ### What is found in the tokens that are taken -/

/-- Whatever a reader answers, it has to do so with the tokens that it takes. -/
def Finds {α : Type} (R : α → List Token → Prop) (p : Parse α) : Prop :=
  ∀ s a s', p s = .ok (a, s') → ∃ taken, s.Takes taken s' ∧ R a taken

namespace Finds

variable {α β : Type} {P : α → List Token → Prop} {Q : β → List Token → Prop} {p : Parse α}
  {f : α → Parse β}

theorem pure {a : α} (h : P a []) : Finds P (pure a) := by
  rintro s _ s' ⟨⟩
  exact ⟨[], TokenStream.takes_nil s, h⟩

theorem bind (hp : Finds P p) (hf : ∀ a ts, P a ts → Finds (fun b us => Q b (ts ++ us)) (f a)) :
    Finds Q (p >>= f) := by
  intro s b s'' h
  obtain ⟨a, s', ha, hb⟩ := bind_eq_ok_iff.mp h
  obtain ⟨ts, hts, hP⟩ := hp s a s' ha
  obtain ⟨us, hus, hQ⟩ := hf a ts hP s' b s'' hb
  exact ⟨ts ++ us, hts.trans hus, hQ⟩

theorem ite {c : Prop} [Decidable c] {q : Parse α} (hp : Finds P p) (hq : Finds P q) :
    Finds P (if c then p else q) := by
  split
  · exact hp
  · exact hq

theorem of_inStep (h : ∀ s, ∃ n, InStep none n s p p) : Finds (fun _ _ => True) p := by
  intro s a s' ha
  obtain ⟨n, hn⟩ := h s
  obtain ⟨-, taken, htaken⟩ := hn.takes a s' ha
  exact ⟨taken, htaken, trivial⟩

/-- What comes after a reader, if more tokens in front do not matter. -/
theorem after (hp : Finds (fun _ _ => True) p) (hQ : ∀ b ts us, Q b us → Q b (ts ++ us))
    (hf : ∀ a, Finds Q (f a)) : Finds Q (p >>= f) := by
  refine hp.bind fun a ts _ s b s' hb => ?_
  obtain ⟨us, hus, hb⟩ := hf a s b s' hb
  exact ⟨us, hus, hQ b ts us hb⟩

end Finds

theorem finds_peek : Finds (fun _ _ => True) peek := by
  rintro s _ _ ⟨⟩
  exact ⟨[], TokenStream.takes_nil s, trivial⟩

theorem finds_eat {k : TokenKind} (hk : k ≠ .eof) : Finds (fun _ _ => True) (eat k) := by
  refine .of_inStep fun s => ⟨s.tokens.length + 1, ?_⟩
  rw [← bind_pure (eat k)]
  exact .eat_bind hk (fun _ h => .pure (Nat.lt_succ_of_lt h)) (.pure (Nat.lt_succ_self _))

theorem finds_expect {k : TokenKind} (hk : k ≠ .eof) :
    Finds (fun t ts => t.kind = k ∧ ts = [t]) (expect k) := by
  intro s t s' h
  change (if (front s).kind == k then advance else unexpected (.token k) : Parse Token) s = _ at h
  split at h
  · next hkind =>
    have hfront : (front s).kind = k := beq_iff_eq.mp hkind
    obtain ⟨rest, hs⟩ := exists_of_front (hfront ▸ hk)
    rw [hs] at h ⊢
    cases h
    exact ⟨[front s], ⟨rfl, List.forall_mem_singleton.mpr (hfront ▸ hk)⟩, hfront, rfl⟩
  · cases h

theorem finds_expectName :
    Finds (fun name ts => ∃ l, ts = [⟨.name name, l⟩]) expectName := by
  intro s name s' h
  obtain ⟨tokens, stop⟩ := s
  cases tokens with
  | nil => cases h
  | cons token rest =>
    obtain ⟨kind, l⟩ := token
    cases kind with
    | name written =>
      cases h
      exact ⟨[⟨.name name, l⟩], ⟨rfl, List.forall_mem_singleton.mpr nofun⟩, l, rfl⟩
    | _ => cases h

/-! ### Definitions with their headings -/

/-- A statement that is read has the headings of what is collected of it in its tokens. -/
def FindsHeadings (inner : Parse Statement) : Prop :=
  Finds (fun s ts => Headed Definition.IsQualified s.collected ts) inner

theorem headed_statements {inner : Parse Statement} {stops : TokenKind → Bool}
    (hinner : FindsHeadings inner) : ∀ b,
      Finds (fun body ts => Headed Definition.IsQualified (collectedIn body) ts)
        (statements stops inner b)
  | 0 => .pure .nil
  | b + 1 => by
    have hmore : Finds (fun body ts => Headed Definition.IsQualified (collectedIn body) ts)
        (statements stops inner b) := headed_statements hinner b
    refine .after finds_peek (fun _ ts _ h => h.append_left ts) fun token => .ite (.pure .nil) ?_
    refine .after (finds_eat nofun) (fun _ ts _ h => h.append_left ts) fun more => .ite hmore ?_
    refine .bind hinner fun first ts hfirst => .bind hmore fun rest us hrest => .pure ?_
    rw [List.append_nil]
    exact hfirst.append hrest

theorem headed_block {inner : Parse Statement} (hinner : FindsHeadings inner) (b : Nat) :
    Finds (fun body ts => Headed Definition.IsQualified (collectedIn body) ts) (block inner b) := by
  refine .bind (finds_expect nofun) fun _ ts _ => ?_
  refine .bind (headed_statements hinner b) fun body us hbody => ?_
  refine .bind (finds_expect nofun) fun _ vs _ => .pure ?_
  exact (hbody.append_right _).append_left ts

theorem finds_parameters (b : Nat) : Finds (fun _ _ => True) (parameters b) :=
  .of_inStep fun s => ⟨s.tokens.length + 1, inStep_parameters (.inl rfl) (Nat.lt_succ_self _)⟩

section Definitions

variable {inner : Option String → Parse Statement} (hinner : ∀ space, FindsHeadings (inner space))
include hinner

theorem headed_classDefinition (space : Option String) (b : Nat) :
    FindsHeadings (classDefinition inner space b) := by
  refine .bind (finds_expect nofun) fun start ts hstart => ?_
  refine .bind finds_expectName fun name us hname => ?_
  obtain ⟨kind, location⟩ := start
  obtain ⟨rfl, rfl⟩ := hstart
  obtain ⟨l, rfl⟩ := hname
  refine .bind (finds_parameters b) fun parameters vs _ => ?_
  -- Whatever stands between the name and the body.
  have hbody : ∀ (parent : Option String) (vs : List Token),
      Finds (fun (st : Statement) ws => Headed Definition.IsQualified st.collected
        (⟨.keyword .classWord, location⟩ :: ⟨.name name, l⟩ :: (vs ++ ws))) (do
          let body ← block (inner (some (qualify space name))) b
          return Statement.classDefinition
            ⟨qualify space name, parameters, parent, space, location⟩ body) :=
    fun parent vs => .bind (headed_block (hinner _) b) fun body ws hbody =>
      .pure (.heading (d := .ofClass _) rfl ((hbody.append_right []).append_left vs))
  refine .bind (finds_eat nofun) fun found ws _ => .ite ?_ ?_
  · refine .bind finds_expectName fun parent xs _ => ?_
    have hinherits := hbody (some (Text.lower parent)) (vs ++ (ws ++ xs))
    simp only [List.append_assoc] at hinherits
    exact hinherits
  · have hplain := hbody none (vs ++ ws)
    simp only [List.append_assoc] at hplain
    exact hplain

theorem headed_defineDefinition (space : Option String) (b : Nat) :
    FindsHeadings (defineDefinition inner space b) := by
  refine .bind (finds_expect nofun) fun start ts hstart => ?_
  refine .bind finds_expectName fun name us hname => ?_
  obtain ⟨kind, location⟩ := start
  obtain ⟨rfl, rfl⟩ := hstart
  obtain ⟨l, rfl⟩ := hname
  refine .bind (finds_parameters b) fun parameters vs _ => ?_
  refine .bind (headed_block (hinner _) b) fun body ws hbody => ?_
  exact .pure (.heading (d := .ofDefine _) rfl ((hbody.append_right []).append_left vs))

end Definitions

theorem headed_statement : ∀ (b : Nat) (space : Option String), FindsHeadings (statement b space)
  | 0, _ => nofun
  | b + 1, space => by
    intro s st s' h
    rcases definition_or_nothing h with hclass | hdefine | hnothing
    · exact headed_classDefinition (headed_statement b) space (b + 1) s st s' hclass
    · exact headed_defineDefinition (headed_statement b) space (b + 1) s st s' hdefine
    · obtain ⟨-, taken, htaken⟩ :=
        (alwaysInStep_statement (x := none) space s (.inl rfl)).takes st s' h
      refine ⟨taken, htaken, ?_⟩
      simp only [hnothing.collected]
      exact .nil

end Grammar

/-- The definitions that are collected of a tree have their headings in the tokens. -/
theorem headed_of_build {file : String} {tokens : List Token} {ast : Ast}
    (h : build file tokens = .ok ast) : Headed Definition.IsQualified ast.definitions tokens := by
  obtain ⟨⟨rest, hread⟩, -, hplaced⟩ := build_eq_ok_iff.mp h
  rw [Ast.definitions_eq_collectedIn hplaced]
  obtain ⟨taken, ⟨htaken, -⟩, hheaded⟩ :=
    Grammar.headed_statements (Grammar.headed_statement _ none) _ _ _ _ hread
  obtain ⟨behind, hbehind⟩ : (TokenStream.ofTokens file tokens).tokens <+: tokens :=
    List.takeWhile_prefix _
  rw [htaken] at hbehind
  rw [← hbehind, List.append_assoc]
  exact hheaded.append_right _

end Manifest
