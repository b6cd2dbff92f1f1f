import Manifest.Proofs.Bounds.Operands
import Manifest.Proofs.Bounds.Scopes

/-!
# Evaluations that reach only what is there

Whatever is evaluated in a scope that is there, from a collection in which every arrow has its
operands, finds each scope and each operand that it looks up.  So the evaluation that looks before
it reaches is the evaluation itself, and the error that it has for missing things is never thrown.

## Main definitions

* `Entry.IsWithin` — what must be known of a class or define before it is entered.
* `Checked.Context` — what is known where something is evaluated.

## Main results

* `Checked.linkFrom_eq` — every arrow of a chain finds its operands.
* `Checked.Context.evaluate`, `Checked.Context.executeAll` — expressions and statements agree.
* `Checked.enters_enter` — so does entering classes and defines, with any limit.
* `Checked.run_eq` — so do whole evaluations.
-/

namespace Manifest

open Evaluation

variable {setting : Setting}

/-! ### Definitions of the collection -/

namespace Collection

theorem HasOperands.of_find? {c : Collection} {α : Type} (h : c.HasOperands)
    {pick : Definition → Option α} {name space : String} {a : α}
    (ha : c.find? pick name space = some a) : ∃ d, d.HasOperands ∧ pick d = some a := by
  obtain ⟨d, hd, hpick⟩ := exists_get?_of_find? ha
  exact ⟨d, h.definitions _ (Table.mem_of_get? hd), hpick⟩

theorem HasOperands.of_findClass? {c : Collection} (h : c.HasOperands) {name space : String}
    {d : ClassDefinition} (hd : c.findClass? name space = some d) :
    (Definition.ofClass d).HasOperands := by
  obtain ⟨e, he, hpick⟩ := h.of_find? hd
  cases e with
  | ofClass e => exact Option.some.inj hpick ▸ he
  | ofDefine e => cases hpick

theorem HasOperands.of_findDefine? {c : Collection} (h : c.HasOperands) {name space : String}
    {d : DefineDefinition} (hd : c.findDefine? name space = some d) :
    (Definition.ofDefine d).HasOperands := by
  obtain ⟨e, he, hpick⟩ := h.of_find? hd
  cases e with
  | ofClass e => cases hpick
  | ofDefine e => exact Option.some.inj hpick ▸ he

/-- The definition for a node is one of the definitions. -/
theorem mem_nodes_of_nodeDefinition? {c : Collection} {name : String} {n : NodeDefinition}
    (h : c.nodeDefinition? name = some n) : n ∈ c.nodes := by
  rcases Option.or_eq_some_iff.mp h with h | ⟨-, h⟩
  · obtain ⟨s, -, hs⟩ := List.exists_of_findSome?_eq_some h
    exact List.mem_of_find?_eq_some hs
  · exact List.mem_of_find?_eq_some h

end Collection

/-- Every arrow in what is entered has its operands, and the declaring scope is one of the first
`n`. -/
def Entry.IsWithin (n : Nat) : Entry → Prop
  | .ofClass c _ declaring _ => (Definition.ofClass c).HasOperands ∧ declaring < n
  | .ofDefine d _ _ _ => (Definition.ofDefine d).HasOperands

namespace Checked

variable {fault : EvalError} {enter₁ enter₂ : Enter} {scope : ScopeId} {n : Nat}

/-- Two ways to enter classes and defines agree. -/
def Enters (enter₁ enter₂ : Enter) : Prop :=
  ∀ (n : Nat) (entry : Entry), entry.IsWithin n →
    Agrees n isScope (enter₁ entry) (enter₂ entry)

/-- What is known where something is evaluated while there are at least `n` scopes. -/
structure Context (setting : Setting) (enter₁ enter₂ : Enter) (scope : ScopeId) (n : Nat) :
    Prop where
  scope_lt : scope < n
  operands : setting.collection.HasOperands
  enters : Enters enter₁ enter₂

/-! ### Chains of relationships -/

/-- With one operand more than there are arrows, every arrow finds the two that it stands
between. -/
theorem linkFrom_eq {sides : List Operand} :
    ∀ {arrows : List Arrow} {i : Nat}, sides.length = i + arrows.length + 1 →
      linkFrom fault sides i arrows = (chain arrows (sides.drop i)).forM relate
  | [], i, h => by
    obtain ⟨last, hlast⟩ : ∃ last, sides.drop i = [last] :=
      List.length_eq_one_iff.mp (by rw [List.length_drop, h]; simp)
    rw [hlast]
    rfl
  | arrow :: arrows, i, h => by
    rw [List.length_cons] at h
    have hi : i < sides.length := by omega
    have hnext : i + 1 < sides.length := by omega
    -- The chain goes on from the operand behind the arrow.
    have hdrop : sides.drop i = sides[i] :: sides[i + 1] :: sides.drop (i + 2) := by
      rw [List.drop_eq_getElem_cons hi, List.drop_eq_getElem_cons hnext]
    have hrest : sides.drop (i + 1) = sides[i + 1] :: sides.drop (i + 2) :=
      List.drop_eq_getElem_cons hnext
    have ih : linkFrom fault sides (i + 1) arrows =
        (chain arrows (sides.drop (i + 1))).forM relate := linkFrom_eq (by omega)
    funext s
    rw [linkFrom, hdrop, chain, ← hrest, forM_append_apply, List.getElem?_eq_getElem hi,
      List.getElem?_eq_getElem hnext]
    simp only [bind_apply, ih]
    cases ((link arrow sides[i] sides[i + 1]).forM relate : Eval PUnit) s with
    | ok _ s' => rfl
    | error e s' => rfl

/-- An arrow without an operand behind it breaks off. -/
example (source : Operand) (s : EvalState) :
    linkFrom .tooDeep [source] 0 [.before] s = .error .tooDeep s := rfl

/-- The only reference of a list is found at its beginning. -/
theorem referenceValue_eq (references : List Reference) :
    referenceValue fault references = pure (Evaluation.referenceValue references) := by
  match references with
  | [] => rfl
  | [r] => rfl
  | r :: q :: rest =>
    rw [referenceValue, if_neg (by simp)]
    rfl

namespace Context

/-- What is known when there are some scopes is known when there are more. -/
theorem mono {k : Nat} (h : Context setting enter₁ enter₂ scope n) (hk : n ≤ k) :
    Context setting enter₁ enter₂ scope k :=
  ⟨Nat.lt_of_lt_of_le h.scope_lt hk, h.operands, h.enters⟩

/-- The scope is one of those that a state has. -/
theorem scope_lt_size (h : Context setting enter₁ enter₂ scope n) {s : EvalState}
    (hn : n ≤ s.scopes.size) : scope < s.scopes.size := Nat.lt_of_lt_of_le h.scope_lt hn

/-! ### Classes and references -/

theorem evaluateClass (h : Context setting enter₁ enter₂ scope n) {c : ClassDefinition}
    (hc : (Definition.ofClass c).HasOperands) (given : Option (Table Value))
    (location : Location) :
    Agrees n isScope (evaluateClass enter₁ c given scope location)
      (evaluateClass enter₂ c given scope location) := by
  intro s hs hn
  rw [evaluateClass_apply, evaluateClass_apply]
  cases hid : s.classScopes.get? c.name with
  | none => exact h.enters n (.ofClass c given scope location) ⟨hc, h.scope_lt⟩ s hs hn
  | some id =>
    refine ⟨rfl, fun a s' ha => ?_⟩
    cases given with
    | none =>
      -- The answer is the number that was kept for the class.
      cases ha
      exact ⟨hs, Nat.le_refl _, hs.classes c.name id hid⟩
    | some given => cases ha

theorem resolveClass (h : Context setting enter₁ enter₂ scope n) (name : String)
    (location : Location) :
    Agrees n (fun _ c => (Definition.ofClass c).HasOperands)
      (resolveClass fault setting scope name location)
      (Evaluation.resolveClass setting scope name location) := by
  intro s hs hn
  rw [Checked.resolveClass, scopeAt_bind_apply (h.scope_lt_size hn), resolveClass_apply,
    ScopeArena.space]
  cases hc : setting.collection.findClass? name (s.scopes.get scope).space with
  | none => exact ⟨rfl, fun _ _ h => by cases h⟩
  | some c =>
    refine ⟨rfl, ?_⟩
    rintro _ _ ⟨⟩
    exact ⟨hs, Nat.le_refl _, h.operands.of_findClass? hc⟩

theorem includeClass (h : Context setting enter₁ enter₂ scope n) (location : Location)
    (name : String) :
    Agrees n anything (includeClass fault setting enter₁ scope location name)
      (Evaluation.includeClass setting enter₂ scope location name) := by
  refine (h.resolveClass name location).bind fun k c hk hc => ?_
  exact ((h.mono hk).evaluateClass hc none location).made

theorem requireClass (h : Context setting enter₁ enter₂ scope n) (location : Location)
    (name : String) :
    Agrees n anything (requireClass fault setting enter₁ scope location name)
      (Evaluation.requireClass setting enter₂ scope location name) := by
  refine (h.includeClass location name).after fun k c hk => ?_
  intro s hs hn
  obtain ⟨-, hrelate⟩ := agrees_relate ⟨.ofClass c.name, s.scopes.owner scope, .before, location⟩
    s hs hn
  exact ⟨by rw [scopeAt_bind_apply ((h.mono hk).scope_lt_size hn)]; rfl, hrelate⟩

/-- Calling a function. -/
theorem apply (h : Context setting enter₁ enter₂ scope n) (location : Location)
    (args : List Value) (f : Function) :
    Agrees n anything (apply fault setting enter₁ scope location args f)
      (Evaluation.apply setting enter₂ scope location args f) := by
  cases f with
  | includeClasses =>
    exact .forM fun name _ k hk =>
      ((h.mono hk).includeClass location name).made
  | requireClasses => exact .forM fun name _ k hk => (h.mono hk).requireClass location name
  | notice => exact agrees_report _
  | fail => exact .throw _

theorem referTo (h : Context setting enter₁ enter₂ scope n) (type : String)
    (location : Location) (title : String) :
    Agrees n anything (referTo fault setting enter₁ scope type location title)
      (Evaluation.referTo setting enter₂ scope type location title) := by
  intro s hs hn
  rw [Checked.referTo, scopeAt_bind_apply (h.scope_lt_size hn), Evaluation.referTo,
    get_bind_apply, ScopeArena.space]
  by_cases key : Text.lower type = "class"
  · rw [if_pos key, if_pos key]
    cases hc : setting.collection.findClass? title (s.scopes.get scope).space with
    | none => exact Agrees.any _ s hs hn
    | some c =>
      have hclass := h.evaluateClass (h.operands.of_findClass? hc) none location
      exact hclass.made s hs hn
  · rw [if_neg key, if_neg key]
    cases setting.collection.findDefine? (Text.lower type) (s.scopes.get scope).space with
    | none => exact Agrees.any _ s hs hn
    | some d => exact Agrees.any _ s hs hn

theorem pieceText (h : Context setting enter₁ enter₂ scope n) (location : Location)
    (piece : TemplatePart) :
    Agrees n anything (pieceText fault setting scope location piece)
      (Evaluation.pieceText setting scope location piece) := by
  cases piece with
  | literal text => exact .any _
  | interpolated name =>
    exact (agrees_readVariable h.scope_lt setting name location).made

/-! ### Expressions -/

mutual

/-- Expressions whose arrows have their operands agree. -/
theorem evaluate {n : Nat} (h : Context setting enter₁ enter₂ scope n) :
    ∀ {e : Expr}, e.HasOperands →
      Agrees n anything (evaluate fault setting enter₁ scope e)
        (Evaluation.evaluate setting enter₂ scope e)
  | .string .., _ | .bareword .., _ | .integer .., _ | .bool .., _ | .absent _, _ =>
    .any _
  | .template parts location, _ =>
    (Agrees.mapM fun piece _ k hk => (h.mono hk).pieceText location piece).made
  | .variableRead name location, _ => agrees_readVariable h.scope_lt setting name location
  | .array items _, he => (evaluateAll h he).made
  | .reference type titles _, he => by
    refine (evaluateTitles h type he).after fun _ references _ => ?_
    rw [referenceValue_eq]
    exact .any _
  | .not operand _, he => by
    have hoperand : operand.HasOperands := he
    exact (evaluate h hoperand).made
  | .binary op left right _, he => by
    refine (evaluate h he.1).after fun k l hk => ?_
    have hright : ∀ g : Value → Value, Agrees k anything
        (Checked.evaluate fault setting enter₁ scope right >>= fun r => pure (g r))
        (Evaluation.evaluate setting enter₂ scope right >>= fun r => pure (g r)) :=
      fun g => (evaluate (h.mono hk) he.2).made
    -- The right side of `and` and `or` is only evaluated when the left one leaves it open.
    cases op with
    | and => exact .ite (hright _) (.any _)
    | or => exact .ite (.any _) (hright _)
    | equal => exact hright _
    | notEqual => exact hright _
  | .call name args location, he => by
    rw [Checked.evaluate, Evaluation.evaluate]
    cases Function.ofName? name with
    | none => exact .throw _
    | some function =>
      refine (evaluateAll h he).after fun k values hk => ?_
      exact ((h.mono hk).apply location values function).made
  | .relationship operands arrows _, he => by
    refine (evaluateOperands h he.2).bind fun k sides hk hsides => ?_
    have hlink : linkFrom fault sides 0 arrows = (chain arrows sides).forM relate :=
      linkFrom_eq (by rw [hsides, he.1, Nat.zero_add])
    rw [hlink]
    exact (Agrees.forM fun r _ _ _ => agrees_relate r).made

theorem evaluateAll {n : Nat} (h : Context setting enter₁ enter₂ scope n) :
    ∀ {es : List Expr}, HaveOperands es →
      Agrees n anything (evaluateAll fault setting enter₁ scope es)
        (Evaluation.evaluateAll setting enter₂ scope es)
  | [], _ => .any _
  | _ :: _, hes =>
    (evaluate h hes.1).after fun _ _ hk =>
      (evaluateAll (h.mono hk) hes.2).made

theorem evaluateTitles {n : Nat} (h : Context setting enter₁ enter₂ scope n) (type : String) :
    ∀ {es : List Expr}, HaveOperands es →
      Agrees n anything (evaluateTitles fault setting enter₁ scope type es)
        (Evaluation.evaluateTitles setting enter₂ scope type es)
  | [], _ => .any _
  | e :: _, hes => by
    refine (evaluate h hes.1).after fun k value hk => ?_
    refine (Agrees.mapM fun v _ l hl =>
      ((h.mono hk).mono hl).referTo type e.location v.text).after fun l references hl => ?_
    exact (evaluateTitles ((h.mono hk).mono hl) type hes.2).made

/-- There are as many operands as there are expressions for them. -/
theorem evaluateOperands {n : Nat} (h : Context setting enter₁ enter₂ scope n) :
    ∀ {es : List Expr}, HaveOperands es →
      Agrees n (fun _ sides => sides.length = es.length)
        (evaluateOperands fault setting enter₁ scope es)
        (Evaluation.evaluateOperands setting enter₂ scope es)
  | [], _ => .pure fun _ _ => rfl
  | e :: rest, hes => by
    refine (evaluate h hes.1).after fun k value hk => ?_
    cases referencesOf e.location value with
    | error error => exact .throw _
    | ok references =>
      exact (evaluateOperands (h.mono hk) hes.2).map fun _ _ hsides _ _ =>
        congrArg Nat.succ hsides

end

/-! ### Declarations -/

theorem evaluateAttributes (h : Context setting enter₁ enter₂ scope n)
    {attributes : List Attribute} (ha : ∀ a ∈ attributes, a.value.HasOperands) :
    Agrees n anything (evaluateAttributes fault setting enter₁ scope attributes)
      (Evaluation.evaluateAttributes setting enter₂ scope attributes) :=
  .foldlM fun a hm _ _ hk => ((h.mono hk).evaluate (ha a hm)).made

theorem evaluateTitle (h : Context setting enter₁ enter₂ scope n) {title : Expr}
    (ht : title.HasOperands) :
    Agrees n anything (evaluateTitle fault setting enter₁ scope title)
      (Evaluation.evaluateTitle setting enter₂ scope title) :=
  (h.evaluate ht).made

theorem declareClass (h : Context setting enter₁ enter₂ scope n) (given : Table Value)
    (location : Location) (title : String) :
    Agrees n anything (declareClass fault setting enter₁ scope given location title)
      (Evaluation.declareClass setting enter₂ scope given location title) := by
  refine (h.resolveClass title location).bind fun k c hk hc => ?_
  exact ((h.mono hk).evaluateClass hc (some given) location).made

theorem declareClasses (h : Context setting enter₁ enter₂ scope n) {body : ResourceBody}
    (hb : body.HasOperands) :
    Agrees n anything (declareClasses fault setting enter₁ scope body)
      (Evaluation.declareClasses setting enter₂ scope body) := by
  refine (h.evaluateAttributes hb.2).after fun k given hk => ?_
  refine ((h.mono hk).evaluateTitle hb.1).after fun l titles hl => ?_
  exact .forM fun title _ m hm =>
    (((h.mono hk).mono hl).mono hm).declareClass given body.location title

/-- A define that a type name stands for has all its operands. -/
theorem resolveType (h : Context setting enter₁ enter₂ scope n) (name : String)
    (location : Location) :
    Agrees n (fun _ type => ∀ d, type = .define d → (Definition.ofDefine d).HasOperands)
      (resolveType fault setting scope name location)
      (Evaluation.resolveType setting scope name location) := by
  intro s hs hn
  rw [Checked.resolveType, scopeAt_bind_apply (h.scope_lt_size hn), resolveType_apply,
    ScopeArena.space]
  cases hd : setting.collection.findDefine? name (s.scopes.get scope).space with
  | some d =>
    refine ⟨rfl, ?_⟩
    rintro _ _ ⟨⟩
    exact ⟨hs, Nat.le_refl _, fun _ he => DeclaredType.define.inj he ▸ h.operands.of_findDefine? hd⟩
  | none =>
    cases setting.registry.contains name with
    | false => exact ⟨rfl, fun _ _ h => by cases h⟩
    | true =>
      refine ⟨rfl, ?_⟩
      rintro _ _ ⟨⟩
      exact ⟨hs, Nat.le_refl _, fun _ he => by cases he⟩

theorem declareResource (h : Context setting enter₁ enter₂ scope n) {type : DeclaredType}
    (ht : ∀ d, type = .define d → (Definition.ofDefine d).HasOperands) (given : Table Value)
    (location : Location) (title : String) :
    Agrees n anything (declareResource fault enter₁ scope type given location title)
      (Evaluation.declareResource enter₂ scope type given location title) := by
  refine (agrees_place h.scope_lt h.scope_lt).after fun k _ hk => ?_
  cases type with
  | registered name => exact .any _
  | define d =>
    have hentry : (Entry.ofDefine d (Reference.of d.name title) given location).IsWithin k :=
      ht d rfl
    exact (h.enters k _ hentry).made

theorem declareResources (h : Context setting enter₁ enter₂ scope n) {type : DeclaredType}
    (ht : ∀ d, type = .define d → (Definition.ofDefine d).HasOperands) {body : ResourceBody}
    (hb : body.HasOperands) :
    Agrees n anything (declareResources fault setting enter₁ scope type body)
      (Evaluation.declareResources setting enter₂ scope type body) := by
  refine (h.evaluateAttributes hb.2).after fun k given hk => ?_
  refine ((h.mono hk).evaluateTitle hb.1).after fun l titles hl => ?_
  exact .forM fun title _ m hm =>
    (((h.mono hk).mono hl).mono hm).declareResource ht given body.location title

theorem declare (h : Context setting enter₁ enter₂ scope n) (typeName : String)
    {bodies : List ResourceBody} (hb : ∀ b ∈ bodies, b.HasOperands) (location : Location) :
    Agrees n anything (declare fault setting enter₁ scope typeName bodies location)
      (Evaluation.declare setting enter₂ scope typeName bodies location) := by
  refine .ite ?_ ?_
  · exact .forM fun body hm k hk => (h.mono hk).declareClasses (hb body hm)
  · refine (h.resolveType typeName location).bind fun k type hk ht => ?_
    exact .forM fun body hm l hl => ((h.mono hk).mono hl).declareResources ht (hb body hm)

/-! ### Statements -/

theorem guardHolds (h : Context setting enter₁ enter₂ scope n) {guard : Option Expr}
    (hg : ∀ e, guard = some e → e.HasOperands) :
    Agrees n anything (guardHolds fault setting enter₁ scope guard)
      (Evaluation.guardHolds setting enter₂ scope guard) := by
  cases guard with
  | none => exact .any _
  | some e => exact (h.evaluate (hg e rfl)).made

mutual

theorem execute {n : Nat} (h : Context setting enter₁ enter₂ scope n) :
    ∀ {st : Statement}, st.HasOperands →
      Agrees n anything (execute fault setting enter₁ scope st)
        (Evaluation.execute setting enter₂ scope st)
  | .classDefinition .., _ | .defineDefinition .., _ | .nodeDefinition .., _ =>
    .any _
  | .assignment name value location, hst => by
    have hvalue : value.HasOperands := hst
    refine (h.evaluate hvalue).after fun k v hk => ?_
    exact agrees_setVariable (h.mono hk).scope_lt name v location
  | .resource typeName bodies location, hst => h.declare typeName hst location
  | .conditional branches _, hst => executeFirst h hst
  | .expression value, hst => by
    have hvalue : value.HasOperands := hst
    exact (h.evaluate hvalue).made

/-- Statements whose arrows have their operands agree. -/
theorem executeAll {n : Nat} (h : Context setting enter₁ enter₂ scope n) :
    ∀ {body : List Statement}, HaveOperandsIn body →
      Agrees n anything (executeAll fault setting enter₁ scope body)
        (Evaluation.executeAll setting enter₂ scope body)
  | [], _ => .any _
  | _ :: _, hb => (execute h hb.1).after fun _ _ hk => executeAll (h.mono hk) hb.2

theorem executeFirst {n : Nat} (h : Context setting enter₁ enter₂ scope n) :
    ∀ {branches : List Branch}, HaveOperandsInBranches branches →
      Agrees n anything (executeFirst fault setting enter₁ scope branches)
        (Evaluation.executeFirst setting enter₂ scope branches)
  | [], _ => .any _
  | .mk _ _ _ :: _, hb =>
    (h.guardHolds hb.1).after fun _ _ hk =>
      .ite (executeAll (h.mono hk) hb.2.1) (executeFirst (h.mono hk) hb.2.2)

end

/-! ### Bodies of classes and defines -/

theorem bindParameter (h : Context setting enter₁ enter₂ scope n) (given : Table Value)
    (resource : Reference) (location : Location) {p : Parameter} (hp : p.HasOperands) :
    Agrees n anything (bindParameter fault setting enter₁ given resource scope location p)
      (Evaluation.bindParameter setting enter₂ given resource scope location p) := by
  have hset : ∀ k v, n ≤ k → Agrees k anything (setVariable fault scope p.name v p.location)
      (Evaluation.setVariable scope p.name v p.location) :=
    fun _ v hk => agrees_setVariable (h.mono hk).scope_lt p.name v p.location
  unfold Checked.bindParameter Evaluation.bindParameter
  cases given.get? p.name with
  | some value => exact hset n value (Nat.le_refl n)
  | none =>
    cases hdefault : p.default with
    | none => exact .throw _
    | some default => exact (h.evaluate (hp default hdefault)).after hset

theorem bindParameters (h : Context setting enter₁ enter₂ scope n) {declared : List Parameter}
    (hd : ∀ p ∈ declared, p.HasOperands) (given : Table Value) (resource : Reference)
    (location : Location) (acceptsName : Bool) :
    Agrees n anything
      (bindParameters fault setting enter₁ declared given resource scope location acceptsName)
      (Evaluation.bindParameters setting enter₂ declared given resource scope location
        acceptsName) := by
  unfold Checked.bindParameters Evaluation.bindParameters
  cases given.keys.find? fun name => !isKnownParameter declared acceptsName name with
  | some name => exact .throw _
  | none =>
    exact .forM fun p hm k hk => (h.mono hk).bindParameter given resource location (hd p hm)

theorem executeClass (h : Context setting enter₁ enter₂ scope n) {c : ClassDefinition}
    (hc : (Definition.ofClass c).HasOperands) (given : Table Value) (location : Location) :
    Agrees n anything (executeClass fault setting enter₁ c given scope location)
      (Evaluation.executeClass setting enter₂ c given scope location) :=
  (h.bindParameters hc.1 given (.ofClass c.name) location false).after fun _ _ hk =>
    (h.mono hk).executeAll hc.2

theorem bindName (h : Context setting enter₁ enter₂ scope n) (name : Value)
    (location : Location) :
    Agrees n anything (bindName fault scope name location)
      (Evaluation.bindName scope name location) := by
  intro s hs hn
  rw [Checked.bindName, scopeAt_bind_apply (h.scope_lt_size hn), Evaluation.bindName,
    get_bind_apply]
  have hset : Agrees n anything (setVariable fault scope "name" name location)
      (Evaluation.setVariable scope "name" name location) :=
    agrees_setVariable h.scope_lt "name" name location
  exact Agrees.ite hset (.any _) s hs hn

theorem executeDefine (h : Context setting enter₁ enter₂ scope n) {d : DefineDefinition}
    (hd : (Definition.ofDefine d).HasOperands) (reference : Reference) (given : Table Value)
    (location : Location) :
    Agrees n anything (executeDefine fault setting enter₁ d reference given scope location)
      (Evaluation.executeDefine setting enter₂ d reference given scope location) := by
  refine (agrees_setVariable h.scope_lt "title" _ location).after fun k _ hk => ?_
  have h₁ := h.mono hk
  refine (h₁.bindParameters hd.1 given reference location true).after fun l _ hl => ?_
  have h₂ := h₁.mono hl
  exact (h₂.bindName _ location).after fun _ _ hm => (h₂.mono hm).executeAll hd.2

end Context

/-! ### Entering classes and defines -/

variable {inner₁ inner₂ : Enter}

/-- The class that a class inherits from has a scope once it is evaluated. -/
theorem agrees_enterParent (hc : setting.collection.HasOperands) (hinner : Enters inner₁ inner₂)
    (c : ClassDefinition) (parentName : String) {declaring : ScopeId} (hd : declaring < n)
    (location : Location) :
    Agrees n isScope (enterParent setting inner₁ c parentName declaring location)
      (enterParent setting inner₂ c parentName declaring location) := by
  intro s hs hn
  rw [enterParent_apply, enterParent_apply]
  cases hparent : setting.collection.findClass? parentName (Name.parent c.name) with
  | none => exact ⟨rfl, fun _ _ h => by cases h⟩
  | some parent =>
    simp only
    split
    · exact ⟨rfl, fun _ _ h => by cases h⟩
    · -- That the class waits changes nothing for the scopes.
      let up : EvalState := { s with inheriting := c.name :: s.inheriting }
      have hup : up.IsSound := ⟨hs.size_pos, hs.parents, hs.classes, hs.resources⟩
      have hcontext : Context setting inner₁ inner₂ declaring n := ⟨hd, hc, hinner⟩
      obtain ⟨heq, hm⟩ :=
        hcontext.evaluateClass (hc.of_findClass? hparent) none location up hup hn
      rw [heq]
      refine ⟨rfl, fun a s' ha => ?_⟩
      cases hr : evaluateClass inner₂ parent none declaring location up with
      | error e t => rw [hr] at ha; cases ha
      | ok id t =>
        rw [hr] at ha
        cases ha
        obtain ⟨ht, hle, hid⟩ := hm a t hr
        exact ⟨⟨ht.size_pos, ht.parents, ht.classes, ht.resources⟩, hle, hid⟩

theorem agrees_parentScope (hc : setting.collection.HasOperands) (hinner : Enters inner₁ inner₂)
    (c : ClassDefinition) {declaring : ScopeId} (hd : declaring < n) (location : Location) :
    Agrees n isScope (parentScope setting inner₁ c declaring location)
      (parentScope setting inner₂ c declaring location) := by
  unfold parentScope
  cases c.parent with
  | some parentName => exact agrees_enterParent hc hinner c parentName hd location
  | none =>
    intro s hs _
    refine ⟨rfl, ?_⟩
    rintro _ _ ⟨⟩
    exact ⟨hs, Nat.le_refl _, hs.lexicalParent_lt c.enclosing⟩

theorem agrees_openClass (c : ClassDefinition) (given : Table Value) {parent declaring : ScopeId}
    (hp : parent < n) (hd : declaring < n) (location : Location) :
    Agrees n isScope (openClass fault c given parent declaring location)
      (Evaluation.openClass c given parent declaring location) := by
  refine (agrees_report _).after fun k _ hk => ?_
  refine (agrees_newScope (Nat.lt_of_lt_of_le hp hk) _ _).bind fun l scope hl hscope => ?_
  refine (agrees_giveScope hscope c.name).after fun m _ hm => ?_
  -- The declaring scope has stayed, and the scope of the class itself has come in.
  have hdeclaring : declaring < m := Nat.lt_of_lt_of_le hd (Nat.le_trans hk (Nat.le_trans hl hm))
  have hown : scope < m := Nat.lt_of_lt_of_le hscope hm
  exact (agrees_place hdeclaring hown).after fun _ _ ho =>
    .pure fun _ hq => Nat.lt_of_lt_of_le hown (Nat.le_trans ho hq)

theorem agrees_enterClass (hc : setting.collection.HasOperands) (hinner : Enters inner₁ inner₂)
    {c : ClassDefinition} (ho : (Definition.ofClass c).HasOperands)
    (given : Option (Table Value)) {declaring : ScopeId} (hd : declaring < n)
    (location : Location) :
    Agrees n isScope (enterClass fault setting inner₁ c given declaring location)
      (Evaluation.enterClass setting inner₂ c given declaring location) := by
  refine (agrees_parentScope hc hinner c hd location).bind fun k parent hk hparent => ?_
  refine (agrees_openClass c _ hparent (Nat.lt_of_lt_of_le hd hk) location).bind
    fun l scope _ hscope => ?_
  have hcontext : Context setting inner₁ inner₂ scope l := ⟨hscope, hc, hinner⟩
  exact (hcontext.executeClass ho _ location).after fun _ _ hm =>
    .pure fun _ hq => Nat.lt_of_lt_of_le hscope (Nat.le_trans hm hq)

theorem agrees_enterDefine (hc : setting.collection.HasOperands) (hinner : Enters inner₁ inner₂)
    {d : DefineDefinition} (ho : (Definition.ofDefine d).HasOperands) (reference : Reference)
    (given : Table Value) (location : Location) :
    Agrees n isScope (enterDefine fault setting inner₁ d reference given location)
      (Evaluation.enterDefine setting inner₂ d reference given location) := by
  intro s hs _
  rw [enterDefine, Evaluation.enterDefine, get_bind_apply, get_bind_apply]
  have hparent := hs.lexicalParent_lt d.enclosing
  -- From here on the state has at least the scopes that it has now.
  refine (agrees_newScope hparent d.name reference).bind (fun l scope _ hscope => ?_) s hs
    (Nat.le_refl _)
  have hcontext : Context setting inner₁ inner₂ scope l := ⟨hscope, hc, hinner⟩
  exact (hcontext.executeDefine ho reference given location).after fun _ _ hm =>
    .pure fun _ hq => Nat.lt_of_lt_of_le hscope (Nat.le_trans hm hq)

/-- Entering classes and defines agrees, with any limit. -/
theorem enters_enter (hc : setting.collection.HasOperands) :
    ∀ limit, Enters (enter fault setting limit) (Evaluation.enter setting limit)
  | 0 => fun _ _ _ => .throw .tooDeep
  | limit + 1 => by
    intro n entry hentry
    cases entry with
    | ofClass c given declaring location =>
      exact agrees_enterClass hc (enters_enter hc limit) hentry.1 given hentry.2 location
    | ofDefine d reference given location =>
      exact agrees_enterDefine hc (enters_enter hc limit) hentry reference given location

/-! ### Whole evaluations -/

theorem agrees_enterNode (hc : setting.collection.HasOperands) (hinner : Enters inner₁ inner₂)
    (hn : 0 < n) {node : NodeDefinition} (ho : HaveOperandsIn node.body) :
    Agrees n anything (enterNode fault setting inner₁ node)
      (Evaluation.enterNode setting inner₂ node) := by
  refine (agrees_report _).after fun k _ hk => ?_
  have hk₀ : ScopeArena.top < k := Nat.lt_of_lt_of_le hn hk
  refine (agrees_place hk₀ hk₀).after fun l _ hl => ?_
  refine (agrees_newScope (Nat.lt_of_lt_of_le hk₀ hl) _ _).bind fun m scope _ hscope => ?_
  exact Context.executeAll ⟨hscope, hc, hinner⟩ ho

theorem agrees_executeNode (hc : setting.collection.HasOperands)
    (hinner : Enters inner₁ inner₂) (hn : 0 < n) :
    Agrees n anything (executeNode fault setting inner₁)
      (Evaluation.executeNode setting inner₂) := by
  refine .ite (.any _) ?_
  cases hnode : setting.collection.nodeDefinition? setting.node.name with
  | none => exact .throw _
  | some node =>
    have hnodes := Collection.mem_nodes_of_nodeDefinition? hnode
    exact agrees_enterNode hc hinner hn (hc.nodes node hnodes)

/-- Everything that is executed for a node agrees. -/
theorem agrees_executeSite (hc : setting.collection.HasOperands)
    (hinner : Enters inner₁ inner₂) (hn : 0 < n) :
    Agrees n anything (executeSite fault setting inner₁)
      (Evaluation.executeSite setting inner₂) := by
  have hmanifests : Agrees n anything
      (setting.collection.manifests.forM fun ast =>
        executeAll fault setting inner₁ ScopeArena.top ast.statements)
      (setting.collection.manifests.forM fun ast =>
        Evaluation.executeAll setting inner₂ ScopeArena.top ast.statements) :=
    .forM fun ast hm k hk =>
      Context.executeAll ⟨Nat.lt_of_lt_of_le hn hk, hc, hinner⟩ (hc.manifests ast hm)
  exact hmanifests.after fun k _ hk => agrees_executeNode hc hinner (Nat.lt_of_lt_of_le hn hk)

/-- All scopes that tags come from are there. -/
theorem forM_outwards_apply {s : EvalState} (hs : s.IsSound) :
    ∀ {rs : List Resource}, (∀ r ∈ rs, r.scope < s.scopes.size) →
      (rs.forM fun r => do let _ ← outwards fault r.scope : Eval PUnit) s = .ok () s
  | [], _ => rfl
  | r :: rs, h => by
    obtain ⟨hr, hrs⟩ := List.forall_mem_cons.mp h
    rw [forM_cons_apply, bind_apply, outwards_apply hs hr]
    exact forM_outwards_apply hs hrs

theorem finishState_eq {s : EvalState} (hs : s.IsSound) :
    finishState fault setting s = Evaluation.finishState setting s := by
  rw [finishState, get_bind_apply, bind_apply, forM_outwards_apply hs hs.resources]

/-- What is executed for a node agrees from the start, whatever the limit is. -/
theorem agrees_from_start (hc : setting.collection.HasOperands) (fault : EvalError)
    (limit : Nat) :
    Agrees 1 anything (executeSite fault setting (enter fault setting limit))
      (Evaluation.executeSite setting (Evaluation.enter setting limit)) :=
  agrees_executeSite hc (enters_enter hc limit) Nat.one_pos

/-- An evaluation that succeeds ends in a sound state. -/
theorem isSound_of_program (hc : setting.collection.HasOperands) {limit : Nat} {c : Catalog}
    {s : EvalState}
    (h : Evaluation.program setting limit (EvalState.start setting) = .ok c s) : s.IsSound := by
  obtain ⟨hsite, -⟩ := program_eq_ok h
  obtain ⟨-, hs⟩ := agrees_from_start hc .tooDeep limit (EvalState.start setting)
    (EvalState.isSound_start setting) (Nat.le_refl 1)
  exact (hs () s hsite).1

theorem program_eq (hc : setting.collection.HasOperands) (fault : EvalError) (limit : Nat) :
    program fault setting limit (EvalState.start setting) =
      Evaluation.program setting limit (EvalState.start setting) := by
  obtain ⟨heq, hs⟩ := agrees_from_start hc fault limit (EvalState.start setting)
    (EvalState.isSound_start setting) (Nat.le_refl 1)
  rw [program, Evaluation.program, bind_apply, bind_apply, heq]
  cases hsite : Evaluation.executeSite setting (Evaluation.enter setting limit)
    (EvalState.start setting) with
  | error e s => rfl
  | ok u s => exact finishState_eq (hs u s hsite).1

/-- Looking before reaching makes no difference to an evaluation, whatever the error for missing
things is. -/
theorem run_eq (hc : setting.collection.HasOperands) (fault : EvalError) :
    run fault setting = Evaluation.run setting := by
  have heq : (program fault setting (depthLimit setting.collection)).run
        (EvalState.start setting) =
      (Evaluation.program setting (depthLimit setting.collection)).run (EvalState.start setting) :=
    program_eq hc fault _
  rw [run, heq]
  rfl

end Checked

end Manifest
