/-!
# Sets in insertion order

## Main definitions

* `OrderedSet` — a list without repetition.
* `OrderedSet.insert` — adds an element at the end unless it is there.

## Main results

* `OrderedSet.mem_insert` — the elements after an insertion.
-/

namespace Manifest

/-- A set that remembers the order in which its elements were first inserted. -/
structure OrderedSet (α : Type) where
  /-- The elements, oldest first. -/
  items : List α
  /-- No element occurs twice. -/
  nodup : items.Nodup

namespace OrderedSet

variable {α : Type}

@[ext] theorem ext {s t : OrderedSet α} (h : s.items = t.items) : s = t := by
  cases s; cases t; cases h; rfl

instance [DecidableEq α] : DecidableEq (OrderedSet α) := fun s t =>
  decidable_of_iff (s.items = t.items) ⟨OrderedSet.ext, fun h => h ▸ rfl⟩

/-- The set without elements. -/
def empty : OrderedSet α := ⟨[], List.nodup_nil⟩

instance : Inhabited (OrderedSet α) := ⟨empty⟩

instance : Membership α (OrderedSet α) := ⟨fun s a => a ∈ s.items⟩

variable [DecidableEq α]

/-- Whether an element is in the set. -/
def contains (s : OrderedSet α) (a : α) : Bool := decide (a ∈ s.items)

/-- Adds an element at the end unless it is there. -/
def insert (s : OrderedSet α) (a : α) : OrderedSet α :=
  if h : a ∈ s.items then s
  else ⟨s.items ++ [a], by
    rw [List.nodup_append]
    refine ⟨s.nodup, by simp, ?_⟩
    intro x hx y hy
    rw [List.mem_singleton] at hy
    rintro rfl
    exact h (hy ▸ hx)⟩

/-- The set that arises from inserting the elements one after the other. -/
def ofList (items : List α) : OrderedSet α := items.foldl insert empty

theorem items_insert (s : OrderedSet α) (a : α) :
    (s.insert a).items = if a ∈ s.items then s.items else s.items ++ [a] := by
  unfold insert
  split <;> rfl

theorem mem_insert (s : OrderedSet α) (a b : α) : b ∈ (s.insert a).items ↔ b = a ∨ b ∈ s.items := by
  rw [items_insert]
  split
  · next h => exact ⟨Or.inr, fun hb => hb.elim (fun e => e ▸ h) id⟩
  · rw [List.mem_append, List.mem_singleton, or_comm]

end OrderedSet

end Manifest
