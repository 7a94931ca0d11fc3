import Mathlib.Data.Nat.Notation

/-!
# Bounded queues

A queue between one producer and one consumer holds at most `capacity` items. Pushing onto a
full queue is refused and the item stays with the producer; popping an empty one finds
nothing. A slice is pushed as far as it fits.

The operations are characterised by the items before and after (`tryPush_eq_some_iff`,
`tryPop_eq_some_iff`, `items_pushSlice`), so that a proof about a producer and a consumer
never opens the queue.
-/

set_option autoImplicit false

structure BoundedQueue (capacity : ℕ) (Item : Type) where
  items : List Item
  bounded : items.length ≤ capacity

namespace BoundedQueue

variable {capacity : ℕ} {Item : Type}

@[ext] theorem ext {first second : BoundedQueue capacity Item}
    (same : first.items = second.items) : first = second := by
  cases first
  cases second
  cases same
  rfl

instance [DecidableEq Item] : DecidableEq (BoundedQueue capacity Item) := fun first second =>
  decidable_of_iff (first.items = second.items) ⟨ext, congrArg items⟩

def empty : BoundedQueue capacity Item where
  items := []
  bounded := Nat.zero_le capacity

/-- Append an item, or refuse it when the queue is full. -/
def tryPush (self : BoundedQueue capacity Item) (item : Item) :
    Option (BoundedQueue capacity Item) :=
  if room : self.items.length < capacity then
    some ⟨self.items ++ [item], by rw [List.length_append]; exact room⟩
  else
    none

/-- Take the oldest item. -/
def tryPop (self : BoundedQueue capacity Item) : Option (Item × BoundedQueue capacity Item) :=
  match self with
  | ⟨[], _⟩ => none
  | ⟨item :: rest, bounded⟩ => some (item, ⟨rest, Nat.le_of_succ_le bounded⟩)

/-- Append as much of a slice as fits. -/
def pushSlice (self : BoundedQueue capacity Item) (slice : List Item) :
    BoundedQueue capacity Item where
  items := self.items ++ slice.take (capacity - self.items.length)
  bounded := by
    have fits := self.bounded
    have taken := List.length_take_le (capacity - self.items.length) slice
    rw [List.length_append]
    omega

/-- Pop up to `wanted` items. -/
def popIter (self : BoundedQueue capacity Item) (wanted : ℕ) :
    List Item × BoundedQueue capacity Item :=
  (self.items.take wanted, ⟨self.items.drop wanted, by
    have fits := self.bounded
    rw [List.length_drop]
    omega⟩)

@[simp] theorem items_empty : (empty : BoundedQueue capacity Item).items = [] := rfl

theorem tryPush_eq_some_iff {self next : BoundedQueue capacity Item} {item : Item} :
    self.tryPush item = some next ↔
      self.items.length < capacity ∧ next.items = self.items ++ [item] := by
  unfold tryPush
  constructor
  · intro pushed
    split at pushed
    · next room =>
        cases pushed
        exact ⟨room, rfl⟩
    · cases pushed
  · rintro ⟨room, same⟩
    rw [dif_pos room]
    exact congrArg some (ext same.symm)

theorem tryPush_eq_none_iff {self : BoundedQueue capacity Item} {item : Item} :
    self.tryPush item = none ↔ self.items.length = capacity := by
  unfold tryPush
  have fits := self.bounded
  constructor
  · intro refused
    split at refused
    · cases refused
    · next noRoom => omega
  · intro full
    exact dif_neg (by omega)

theorem tryPop_eq_some_iff {self next : BoundedQueue capacity Item} {item : Item} :
    self.tryPop = some (item, next) ↔ self.items = item :: next.items := by
  obtain ⟨items, bounded⟩ := self
  cases items with
  | nil => simp [tryPop]
  | cons first rest =>
      constructor
      · intro popped
        cases popped
        rfl
      · intro same
        obtain ⟨rfl, rfl⟩ := List.cons.inj same
        rfl

theorem tryPop_eq_none_iff {self : BoundedQueue capacity Item} :
    self.tryPop = none ↔ self.items = [] := by
  obtain ⟨items, bounded⟩ := self
  cases items with
  | nil => simp [tryPop]
  | cons first rest => simp [tryPop]

theorem items_pushSlice (self : BoundedQueue capacity Item) (slice : List Item) :
    (self.pushSlice slice).items = self.items ++ slice.take (capacity - self.items.length) := rfl

/-- What is popped and what stays are the queue, in order. -/
theorem popIter_append (self : BoundedQueue capacity Item) (wanted : ℕ) :
    (self.popIter wanted).1 ++ (self.popIter wanted).2.items = self.items :=
  List.take_append_drop wanted self.items

end BoundedQueue
