import Mathlib.Data.Nat.Notation
import Mathlib.Data.List.Basic

/-!
# Broadcast rings

A broadcast ring keeps the last `capacity` items that were sent and never makes a sender
wait. A receiver is a position in the stream of sent items. One that has fallen behind is
told how many items it has missed and goes on with the oldest one that is left.

`Retains` says what a ring holds of the stream; `recv_cases` is all that a proof about a
receiver needs: it is given the item at its own position, or skips exactly the missed ones.
-/

set_option autoImplicit false

structure BroadcastRing (capacity : ℕ) (Item : Type) where
  /-- The position of the oldest item that is left. -/
  head : ℕ
  items : List Item
  bounded : items.length ≤ capacity

namespace BroadcastRing

/-- What a receiver is told. -/
inductive Received (Item : Type) where
  | item (item : Item)
  | lagged (skipped : ℕ)
  | empty

variable {capacity : ℕ} {Item : Type}

def empty : BroadcastRing capacity Item where
  head := 0
  items := []
  bounded := Nat.zero_le capacity

/-- The position of the next item to be sent, where a new receiver starts. -/
def tail (self : BroadcastRing capacity Item) : ℕ := self.head + self.items.length

/-- Send an item, in place of the oldest one when the ring is full. -/
def send (self : BroadcastRing capacity Item) (item : Item) : BroadcastRing capacity Item :=
  if room : self.items.length < capacity then
    { head := self.head
      items := self.items ++ [item]
      bounded := by
        rw [List.length_append]
        exact room }
  else
    { head := self.head + 1
      items := (self.items ++ [item]).drop 1
      bounded := by
        rw [List.length_drop, List.length_append]
        exact self.bounded }

def recv (self : BroadcastRing capacity Item) (next : ℕ) : Received Item × ℕ :=
  if next < self.head then
    (.lagged (self.head - next), self.head)
  else
    match self.items[next - self.head]? with
    | some item => (.item item, next + 1)
    | none => (.empty, next)

/-! ## The stream behind a ring -/

/-- A ring holds the end of the stream of sent items. -/
structure Retains (ring : BroadcastRing capacity Item) (stream : List Item) : Prop where
  items_eq : ring.items = stream.drop ring.head
  head_le : ring.head ≤ stream.length

theorem Retains.empty : (empty : BroadcastRing capacity Item).Retains [] :=
  ⟨rfl, Nat.le_refl _⟩

theorem Retains.tail_eq {self : BroadcastRing capacity Item} {stream : List Item}
    (retains : self.Retains stream) : self.tail = stream.length := by
  have bound := retains.head_le
  rw [tail, retains.items_eq, List.length_drop]
  omega

theorem Retains.send {self : BroadcastRing capacity Item} {stream : List Item}
    (retains : self.Retains stream) (item : Item) :
    (self.send item).Retains (stream ++ [item]) := by
  have bound := retains.head_le
  have appended : self.items ++ [item] = (stream ++ [item]).drop self.head := by
    rw [List.drop_append_of_le_length bound, ← retains.items_eq]
  unfold BroadcastRing.send
  split
  · refine ⟨appended, ?_⟩
    rw [List.length_append]
    exact Nat.le_add_right_of_le bound
  · refine ⟨?_, ?_⟩
    · calc (self.items ++ [item]).drop 1
          = ((stream ++ [item]).drop self.head).drop 1 := by rw [appended]
        _ = (stream ++ [item]).drop (self.head + 1) := List.drop_drop
    · rw [List.length_append, List.length_singleton]
      exact Nat.succ_le_succ bound

/-- A receiver within the stream is given the item at its position, skips the items that it
has missed, or is at the end. -/
theorem Retains.recv_cases {self : BroadcastRing capacity Item} {stream : List Item}
    (retains : self.Retains stream) {next : ℕ} (within : next ≤ stream.length) :
    (∃ item, self.recv next = (.item item, next + 1) ∧ stream[next]? = some item) ∨
    (∃ skipped, self.recv next = (.lagged skipped, next + skipped) ∧
      next + skipped ≤ stream.length) ∨
    (self.recv next = (.empty, next) ∧ next = stream.length) := by
  have bound := retains.head_le
  unfold recv
  split
  · next behind =>
      have sum : next + (self.head - next) = self.head := by omega
      exact Or.inr (Or.inl ⟨self.head - next, by rw [sum], by rw [sum]; exact bound⟩)
  · next ahead =>
      have position : self.items[next - self.head]? = stream[next]? := by
        rw [retains.items_eq, List.getElem?_drop]
        congr 1
        omega
      rw [position]
      cases found : stream[next]? with
      | some item => exact Or.inl ⟨item, rfl, rfl⟩
      | none =>
          have past := List.getElem?_eq_none_iff.mp found
          exact Or.inr (Or.inr ⟨rfl, Nat.le_antisymm within past⟩)

end BroadcastRing
