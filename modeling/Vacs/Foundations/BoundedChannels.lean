import Mathlib.Data.List.Nodup
import Mathlib.Logic.Function.Iterate
import Mathlib.Logic.Relation

/-!
# Bounded channels

A bounded channel holds a limited number of messages. Who sends to a full channel is parked
until there is room, in the order of arrival: a message that is received makes room for the
one of the first parked sender (`Channel.receive`).

Parties that wait for each other form chains. When a party starts to wait for another one,
the new chains are those that pass through the new pair (`WaitingChains.Extends.chain`), so
nobody comes to await itself unless the second party awaits the first
(`WaitingChains.Extends.acyclic`).
-/

set_option autoImplicit false

/-! ## Channels -/

/-- How many messages are queued in a channel, and who waits to send to it. -/
structure Channel (capacity : ℕ) (Sender : Type) where
  queued : ℕ
  parked : List Sender
  bounded : queued ≤ capacity
  full : parked ≠ [] → queued = capacity

namespace Channel

variable {capacity : ℕ} {Sender : Type}

def empty : Channel capacity Sender :=
  ⟨0, [], Nat.zero_le _, fun absurdity => absurd rfl absurdity⟩

/-- Whether a message is queued at once. -/
def hasRoom (self : Channel capacity Sender) : Bool :=
  self.parked.isEmpty && decide (self.queued < capacity)

/-- Queue a message, if there is room. -/
def push (self : Channel capacity Sender) : Channel capacity Sender :=
  if room : self.parked = [] ∧ self.queued < capacity then
    ⟨self.queued + 1, [], room.2, fun absurdity => absurd rfl absurdity⟩
  else self

/-- Wait for room, unless there is some. -/
def park (self : Channel capacity Sender) (sender : Sender) : Channel capacity Sender :=
  if occupied : self.queued = capacity then
    ⟨self.queued, self.parked ++ [sender], self.bounded, fun _ => occupied⟩
  else self

/-- Take a message, which makes room for the one of the first parked sender. -/
def receive (self : Channel capacity Sender) : Option (Channel capacity Sender × Option Sender) :=
  if self.queued = 0 then none
  else
    match parked : self.parked with
    | [] =>
        some (⟨self.queued - 1, [], Nat.le_trans (Nat.sub_le _ _) self.bounded,
          fun absurdity => absurd rfl absurdity⟩, none)
    | first :: rest =>
        some (⟨self.queued, rest, self.bounded,
          fun _ => self.full (by rw [parked]; exact List.cons_ne_nil _ _)⟩, some first)

theorem hasRoom_iff {self : Channel capacity Sender} :
    self.hasRoom = true ↔ self.parked = [] ∧ self.queued < capacity := by
  simp [hasRoom]

theorem occupied_of_noRoom {self : Channel capacity Sender} (noRoom : self.hasRoom = false) :
    self.queued = capacity := by
  by_contra spare
  have room : self.queued < capacity := Nat.lt_of_le_of_ne self.bounded spare
  have unparked : self.parked = [] := by
    by_contra waiting
    exact spare (self.full waiting)
  rw [hasRoom_iff.mpr ⟨unparked, room⟩] at noRoom
  cases noRoom

theorem parked_push (self : Channel capacity Sender) : self.push.parked = self.parked := by
  unfold push
  split
  · rename_i room
    exact room.1.symm
  · rfl

theorem queued_push {self : Channel capacity Sender} (room : self.hasRoom = true) :
    self.push.queued = self.queued + 1 := by
  unfold push
  rw [dif_pos (hasRoom_iff.mp room)]

theorem parked_park {self : Channel capacity Sender} (noRoom : self.hasRoom = false)
    (sender : Sender) : (self.park sender).parked = self.parked ++ [sender] := by
  unfold park
  rw [dif_pos (occupied_of_noRoom noRoom)]

theorem nodup_park {self : Channel capacity Sender} (noRoom : self.hasRoom = false)
    {sender : Sender} (notParked : sender ∉ self.parked) (once : self.parked.Nodup) :
    (self.park sender).parked.Nodup := by
  rw [parked_park noRoom, ← List.concat_eq_append]
  exact once.concat notParked

theorem queued_park (self : Channel capacity Sender) (sender : Sender) :
    (self.park sender).queued = self.queued := by
  unfold park
  split
  · rfl
  · rfl

variable (Sender) in
/-- As long as there is room, every message is queued. -/
theorem queued_push_iterate {messages : ℕ} (room : messages ≤ capacity) :
    (push^[messages] (empty : Channel capacity Sender)).queued = messages ∧
      (push^[messages] (empty : Channel capacity Sender)).parked = [] := by
  induction messages with
  | zero => exact ⟨rfl, rfl⟩
  | succ messages ih =>
      obtain ⟨queued, parked⟩ := ih (Nat.le_of_succ_le room)
      have spare : (push^[messages] (empty : Channel capacity Sender)).hasRoom = true := by
        rw [hasRoom_iff, queued]
        exact ⟨parked, room⟩
      rw [Function.iterate_succ_apply', queued_push spare, parked_push, queued]
      exact ⟨rfl, parked⟩

variable (Sender) in
theorem hasRoom_push_iterate {messages : ℕ} (room : messages ≤ capacity) :
    (push^[messages] (empty : Channel capacity Sender)).hasRoom =
      decide (messages < capacity) := by
  obtain ⟨queued, parked⟩ := queued_push_iterate Sender room
  rw [hasRoom, queued, parked]
  rfl

/-- The senders that are still parked after a message has been taken. -/
theorem parked_receive {self after : Channel capacity Sender} {admitted : Option Sender}
    (received : self.receive = some (after, admitted)) : after.parked = self.parked.tail := by
  unfold receive at received
  split at received
  · cases received
  · split at received
    · rename_i parked
      cases received
      simp only [parked, List.tail_nil]
    · rename_i first rest parked
      cases received
      simp only [parked, List.tail_cons]

/-- The first parked sender is the one whose message gets the room. -/
theorem admitted_receive {self after : Channel capacity Sender} {admitted : Option Sender}
    (received : self.receive = some (after, admitted)) : admitted = self.parked.head? := by
  unfold receive at received
  split at received
  · cases received
  · split at received
    · rename_i parked
      cases received
      simp only [parked, List.head?_nil]
    · rename_i first rest parked
      cases received
      simp only [parked, List.head?_cons]

theorem queued_of_receive {self after : Channel capacity Sender} {admitted : Option Sender}
    (received : self.receive = some (after, admitted)) : 0 < self.queued := by
  unfold receive at received
  split at received
  · cases received
  · rename_i notEmpty
    exact Nat.pos_of_ne_zero notEmpty

end Channel

/-! ## Chains of waiting -/

namespace WaitingChains

open Relation

variable {Party : Type} {awaits later : Party → Party → Prop} {waiting awaited : Party}

/-- Nobody awaits itself, over any number of others. -/
def Acyclic (awaits : Party → Party → Prop) : Prop :=
  ∀ party, ¬ TransGen awaits party party

/-- Nobody has started to wait, but the one party for the other. -/
def Extends (awaits later : Party → Party → Prop) (waiting awaited : Party) : Prop :=
  ∀ first second, later first second →
    awaits first second ∨ (first = waiting ∧ second = awaited)

/-- A chain that was not there before passes through the new pair. -/
theorem Extends.chain (extend : Extends awaits later waiting awaited) {first last : Party}
    (chain : TransGen later first last) :
    TransGen awaits first last ∨
      (ReflTransGen awaits first waiting ∧ ReflTransGen awaits awaited last) := by
  induction chain with
  | single pair =>
      rcases extend _ _ pair with old | ⟨rfl, rfl⟩
      · exact Or.inl (.single old)
      · exact Or.inr ⟨.refl, .refl⟩
  | tail _ pair ih =>
      rcases extend _ _ pair with old | ⟨rfl, rfl⟩
      · exact ih.imp (fun chain => chain.tail old) fun chains => ⟨chains.1, chains.2.tail old⟩
      · rcases ih with chain | ⟨chain, _⟩
        · exact Or.inr ⟨chain.to_reflTransGen, .refl⟩
        · exact Or.inr ⟨chain, .refl⟩

theorem Extends.acyclic (extend : Extends awaits later waiting awaited) (acyclic : Acyclic awaits)
    (noReturn : ¬ ReflTransGen awaits awaited waiting) : Acyclic later := by
  intro party cycle
  rcases extend.chain cycle with old | ⟨reaches, returns⟩
  · exact acyclic party old
  · exact noReturn (returns.trans reaches)

/-- Nobody is in a chain that ends with a party that nobody awaits. -/
theorem eq_of_unawaited {first last : Party} (unawaited : ∀ party, ¬ awaits party last)
    (chain : ReflTransGen awaits first last) : first = last := by
  rcases ReflTransGen.cases_tail chain with same | ⟨party, _, pair⟩
  · exact same.symm
  · exact absurd pair (unawaited party)

/-- A party that awaits nobody is in no chain but its own. -/
theorem eq_of_unwaiting {first last : Party} (unwaiting : ∀ party, ¬ awaits first party)
    (chain : ReflTransGen awaits first last) : first = last := by
  rcases ReflTransGen.cases_head chain with same | ⟨party, pair, _⟩
  · exact same
  · exact absurd pair (unwaiting party)

end WaitingChains
