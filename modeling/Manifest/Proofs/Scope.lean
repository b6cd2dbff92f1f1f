import Manifest.Scope

/-!
# How scopes change

Scopes are only added and only get further variables; where they stand, where they look for names
and whom they belong to stays.

## Main results

* `ScopeArena.get_child` — the scopes after adding one.
* `ScopeArena.setVariable_eq_ok`, `ScopeArena.get_modify` — the scopes after setting a variable.
* `ScopeArena.localVariable?_setVariable` — the variables after setting one.
* `ScopeArena.ancestors_congr` — the scopes around a scope are told from the parents alone.
-/

namespace Manifest.ScopeArena

variable {a a' : ScopeArena}

/-! ### Adding a scope -/

theorem size_child (a : ScopeArena) (parent : ScopeId) (space : String) (owner : Reference) :
    (a.child parent space owner).size = a.size + 1 := by
  simp [size, child]

theorem next_lt_size_child (a : ScopeArena) (parent : ScopeId) (space : String)
    (owner : Reference) : a.next < (a.child parent space owner).size := by
  rw [size_child]
  exact Nat.lt_succ_self a.size

theorem get_child (a : ScopeArena) (parent : ScopeId) (space : String) (owner : Reference)
    (id : ScopeId) :
    (a.child parent space owner).get id =
      if id = a.size then ⟨some parent, space, owner, .empty⟩ else a.get id := by
  rw [get, child, Array.getElem?_push, get, size]
  split
  · rfl
  · rfl

theorem get_child_of_lt {id : ScopeId} (h : id < a.size) (parent : ScopeId) (space : String)
    (owner : Reference) : (a.child parent space owner).get id = a.get id := by
  rw [get_child, if_neg (Nat.ne_of_lt h)]

theorem space_child_next (a : ScopeArena) (parent : ScopeId) (space : String)
    (owner : Reference) : (a.child parent space owner).space a.next = space := by
  rw [ScopeArena.space, get_child, next, if_pos rfl]

theorem owner_child (a : ScopeArena) (parent : ScopeId) (space : String) (owner : Reference)
    (id : ScopeId) :
    (a.child parent space owner).owner id = if id = a.size then owner else a.owner id := by
  rw [ScopeArena.owner, get_child]
  split
  · rfl
  · rfl

theorem owner_child_of_lt {id : ScopeId} (h : id < a.size) (parent : ScopeId) (space : String)
    (owner : Reference) : (a.child parent space owner).owner id = a.owner id := by
  rw [owner_child, if_neg (Nat.ne_of_lt h)]

/-! ### Setting a variable -/

theorem get_modify (a : ScopeArena) (scope : ScopeId) (f : Scope → Scope) (id : ScopeId) :
    get ⟨a.scopes.modify scope f⟩ id =
      if scope = id ∧ id < a.size then f (a.get id) else a.get id := by
  rw [get, Array.getElem?_modify, get, size]
  by_cases hs : scope = id
  · rw [if_pos hs]
    by_cases hid : id < a.scopes.size
    · rw [if_pos ⟨hs, hid⟩, Array.getElem?_eq_getElem hid]
      rfl
    · -- A scope that is not there cannot change.
      rw [if_neg fun h => hid h.2, Array.getElem?_eq_none (Nat.le_of_not_lt hid)]
      rfl
  · rw [if_neg hs, if_neg fun h => hs h.1]

/-- Setting a variable, when it succeeds. -/
theorem setVariable_eq_ok {scope : ScopeId} {name : String} {value : Value} {location : Location}
    (h : a.setVariable scope name value location = .ok a') :
    a.localVariable? scope name = none ∧
      a' = ⟨a.scopes.modify scope fun s =>
        { s with bindings := s.bindings.insert name value }⟩ := by
  rw [setVariable] at h
  cases hl : a.localVariable? scope name with
  | some v => rw [hl] at h; cases h
  | none => rw [hl] at h; cases h; exact ⟨rfl, rfl⟩

theorem size_setVariable {scope : ScopeId} {name : String} {value : Value} {location : Location}
    (h : a.setVariable scope name value location = .ok a') : a'.size = a.size := by
  obtain ⟨-, rfl⟩ := setVariable_eq_ok h
  simp [size]

/-- Setting a variable changes nothing but variables. -/
theorem get_setVariable {scope : ScopeId} {name : String} {value : Value} {location : Location}
    (h : a.setVariable scope name value location = .ok a') (id : ScopeId) :
    ∃ bindings, a'.get id = { a.get id with bindings := bindings } := by
  obtain ⟨-, rfl⟩ := setVariable_eq_ok h
  rw [get_modify]
  split
  · exact ⟨_, rfl⟩
  · exact ⟨_, rfl⟩

theorem owner_setVariable {scope : ScopeId} {name : String} {value : Value} {location : Location}
    (h : a.setVariable scope name value location = .ok a') (id : ScopeId) :
    a'.owner id = a.owner id := by
  obtain ⟨bindings, hb⟩ := get_setVariable h id
  rw [owner, hb, owner]

theorem space_setVariable {scope : ScopeId} {name : String} {value : Value} {location : Location}
    (h : a.setVariable scope name value location = .ok a') (id : ScopeId) :
    a'.space id = a.space id := by
  obtain ⟨bindings, hb⟩ := get_setVariable h id
  rw [space, hb, space]

theorem parent_setVariable {scope : ScopeId} {name : String} {value : Value} {location : Location}
    (h : a.setVariable scope name value location = .ok a') (id : ScopeId) :
    (a'.get id).parent = (a.get id).parent := by
  obtain ⟨bindings, hb⟩ := get_setVariable h id
  rw [hb]

/-- The variables of a scope after one of them was set. -/
theorem localVariable?_setVariable {scope : ScopeId} {name : String} {value : Value}
    {location : Location} (h : a.setVariable scope name value location = .ok a') (id : ScopeId)
    (other : String) :
    a'.localVariable? id other =
      if (scope = id ∧ id < a.size) ∧ other = name then some value
      else a.localVariable? id other := by
  obtain ⟨-, rfl⟩ := setVariable_eq_ok h
  rw [localVariable?, get_modify]
  by_cases hid : scope = id ∧ id < a.size
  · rw [if_pos hid, Table.get?_insert]
    by_cases hname : other = name
    · rw [if_pos hname, if_pos ⟨hid, hname⟩]
    · rw [if_neg hname, if_neg fun hc => hname hc.2]
      rfl
  · rw [if_neg hid, if_neg fun hc => hid hc.1]
    rfl

theorem localVariable?_child (a : ScopeArena) (parent : ScopeId) (space : String)
    (owner : Reference) (id : ScopeId) (name : String) :
    (a.child parent space owner).localVariable? id name =
      if id = a.size then none else a.localVariable? id name := by
  rw [localVariable?, get_child]
  split
  · rfl
  · rfl

/-- A scope that is not there has no variables. -/
theorem localVariable?_eq_none {id : ScopeId} (h : a.size ≤ id) (name : String) :
    a.localVariable? id name = none := by
  rw [localVariable?, get, Array.getElem?_eq_none h]
  rfl

/-! ### The scopes around a scope -/

/-- The scopes around a scope are told from the parents alone. -/
theorem ancestors_congr (h : ∀ id, (a'.get id).parent = (a.get id).parent) (id : ScopeId) :
    a'.ancestors id = a.ancestors id := by
  -- By induction on the number: the scopes around a scope are older than it.
  induction id using Nat.strongRecOn with
  | ind id ih =>
    rw [ancestors, ancestors, h id]
    cases (a.get id).parent with
    | none => rfl
    | some parent =>
      simp only
      split
      · next hlt => rw [ih parent hlt]
      · rfl

/-- What is set in a scope itself is what it sees. -/
theorem resolve?_of_localVariable? {id : ScopeId} {name : String} {value : Value}
    (h : a.localVariable? id name = some value) : a.resolve? id name = some value := by
  rw [resolve?, ancestors, List.findSome?_cons, h]

end Manifest.ScopeArena
