/-!
# Tables in insertion order

A table maps texts to values and remembers the order in which its keys were first inserted.
Writing to a key that is present replaces the value and keeps the place.

## Main definitions

* `Table` — a list of entries with pairwise distinct keys.
* `Table.get?`, `Table.insert`, `Table.erase` — the operations.
* `Table.sameEntries` — equality up to the order of the entries.

## Main results

* `Table.get?_insert` — reading after writing.
* `Table.keys_insert` — where the written key stands.
-/

namespace Manifest

/-- A map from texts to values in insertion order. -/
structure Table (α : Type) where
  /-- The entries, oldest first. -/
  entries : List (String × α)
  /-- No key occurs twice. -/
  nodup : (entries.map Prod.fst).Nodup

namespace Table

variable {α β : Type}

@[ext] theorem ext {s t : Table α} (h : s.entries = t.entries) : s = t := by
  cases s; cases t; cases h; rfl

instance [DecidableEq α] : DecidableEq (Table α) := fun s t =>
  decidable_of_iff (s.entries = t.entries) ⟨Table.ext, fun h => h ▸ rfl⟩

/-- The table without entries. -/
def empty : Table α := ⟨[], List.nodup_nil⟩

instance : Inhabited (Table α) := ⟨empty⟩

/-- The keys, oldest first. -/
def keys (t : Table α) : List String := t.entries.map Prod.fst

/-- The values, in the order of their keys. -/
def values (t : Table α) : List α := t.entries.map Prod.snd

/-- The number of entries. -/
def size (t : Table α) : Nat := t.entries.length

/-- Whether there is no entry. -/
def isEmpty (t : Table α) : Bool := t.entries.isEmpty

/-- The value of the first entry with this key. -/
def lookup (key : String) : List (String × α) → Option α
  | [] => none
  | e :: rest => if e.1 = key then some e.2 else lookup key rest

/-- The value under a key. -/
def get? (t : Table α) (key : String) : Option α := lookup key t.entries

/-- Whether the table has a key. -/
def contains (t : Table α) (key : String) : Bool := (t.get? key).isSome

/-- Replaces the value of the entry with this key, or adds an entry at the end. -/
def put (key : String) (value : α) : List (String × α) → List (String × α)
  | [] => [(key, value)]
  | e :: rest => if e.1 = key then (key, value) :: rest else e :: put key value rest

theorem map_fst_put (key : String) (value : α) (es : List (String × α)) :
    (put key value es).map Prod.fst =
      if key ∈ es.map Prod.fst then es.map Prod.fst else es.map Prod.fst ++ [key] := by
  induction es with
  | nil => simp [put]
  | cons e rest ih =>
    by_cases h : e.1 = key
    · simp [put, h]
    · have h' : key ≠ e.1 := fun he => h he.symm
      by_cases hm : key ∈ rest.map Prod.fst
      · simp only [put, h, if_false, List.map_cons, ih, hm, if_true, List.mem_cons, or_true]
      · simp only [put, h, if_false, List.map_cons, ih, hm, List.mem_cons, h', or_false,
          List.cons_append]

theorem mem_put {key : String} {value : α} {es : List (String × α)} {e : String × α}
    (h : e ∈ put key value es) : e = (key, value) ∨ e ∈ es := by
  induction es with
  | nil => simpa [put] using h
  | cons d rest ih =>
    rw [put] at h
    split at h
    · rcases List.mem_cons.mp h with h | h
      · exact Or.inl h
      · exact Or.inr (List.mem_cons_of_mem d h)
    · rcases List.mem_cons.mp h with h | h
      · exact Or.inr (h ▸ List.mem_cons_self)
      · exact (ih h).imp_right (List.mem_cons_of_mem d)

theorem nodup_put (key : String) (value : α) {es : List (String × α)}
    (h : (es.map Prod.fst).Nodup) : ((put key value es).map Prod.fst).Nodup := by
  rw [map_fst_put]
  split
  · exact h
  · next hm =>
    rw [List.nodup_append]
    refine ⟨h, by simp, ?_⟩
    intro a ha b hb
    rw [List.mem_singleton] at hb
    rintro rfl
    exact hm (hb ▸ ha)

/-- Writes a value under a key, in place or at the end. -/
def insert (t : Table α) (key : String) (value : α) : Table α :=
  ⟨put key value t.entries, nodup_put key value t.nodup⟩

/-- Removes a key; the others keep their order. -/
def erase (t : Table α) (key : String) : Table α :=
  ⟨t.entries.filter (·.1 ≠ key), (List.filter_sublist.map _).nodup t.nodup⟩

/-- The table that arises from writing the entries one after the other. -/
def ofList (es : List (String × α)) : Table α :=
  es.foldl (fun t e => t.insert e.1 e.2) empty

/-- Applies a function to every value. -/
def map (f : α → β) (t : Table α) : Table β :=
  ⟨t.entries.map fun e => (e.1, f e.2), by
    have := t.nodup
    rwa [List.map_map]⟩

/-- Applies a function to the value under a key, if there is one. -/
def modify (t : Table α) (key : String) (f : α → α) : Table α :=
  ⟨t.entries.map fun e => (e.1, if e.1 = key then f e.2 else e.2), by
    have := t.nodup
    rwa [List.map_map]⟩

/-- Equality up to the order of the entries. -/
def sameEntries [BEq α] (s t : Table α) : Bool :=
  s.size == t.size && s.entries.all fun e => t.get? e.1 == some e.2

/-! ### Reading after writing -/

theorem lookup_put (key other : String) (value : α) (es : List (String × α)) :
    lookup other (put key value es) = if other = key then some value else lookup other es := by
  induction es with
  | nil =>
    by_cases h : other = key
    · simp [put, lookup, h]
    · have : key ≠ other := fun e => h e.symm
      simp [put, lookup, h, this]
  | cons e rest ih =>
    by_cases hk : e.1 = key <;> by_cases ho : other = key
    · subst hk; simp [put, lookup, ho]
    · subst hk
      have : e.1 ≠ other := fun h => ho h.symm
      simp [put, lookup, ho, this]
    · subst ho; simp [put, lookup, hk, ih]
    · by_cases he : e.1 = other
      · simp [put, lookup, he, ho]
      · simp [put, lookup, hk, he, ih]

@[simp] theorem get?_empty (key : String) : (empty : Table α).get? key = none := rfl

theorem get?_insert (t : Table α) (key other : String) (value : α) :
    (t.insert key value).get? other = if other = key then some value else t.get? other :=
  lookup_put key other value t.entries

theorem keys_insert (t : Table α) (key : String) (value : α) :
    (t.insert key value).keys = if key ∈ t.keys then t.keys else t.keys ++ [key] :=
  map_fst_put key value t.entries

theorem get?_isSome_iff (t : Table α) (key : String) : (t.get? key).isSome ↔ key ∈ t.keys := by
  have : ∀ es : List (String × α), (lookup key es).isSome ↔ key ∈ es.map Prod.fst := by
    intro es
    induction es with
    | nil => simp [lookup]
    | cons e rest ih =>
      by_cases h : e.1 = key
      · simp [lookup, h]
      · have h' : key ≠ e.1 := fun he => h he.symm
        simp [lookup, h, h', ih]
  exact this t.entries

theorem mem_of_get? {t : Table α} {key : String} {value : α} (h : t.get? key = some value) :
    (key, value) ∈ t.entries := by
  have : ∀ es : List (String × α), lookup key es = some value → (key, value) ∈ es := by
    intro es
    induction es with
    | nil => intro h; cases h
    | cons e rest ih =>
      intro h
      rw [lookup] at h
      split at h
      · next hk => cases h; cases hk; exact List.mem_cons_self
      · exact List.mem_cons_of_mem e (ih h)
  exact this t.entries h

end Table

end Manifest
