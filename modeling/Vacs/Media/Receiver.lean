import Mathlib.Data.List.Sublists

/-!
# The receiving task of a peer

The receiver reads the packets of the other side and passes their payloads to the selected
output, if there is one. Pausing and resuming change the selection, which the task looks at
before it reads the next packet; a packet that waits for room at an output is not recalled.

The forwarded packets are received ones, in order (`Ordered`). A task without a selected
output forwards at most the packet that was waiting (`Silent.round`, `Silent.sent`).
-/

set_option autoImplicit false

namespace Vacs

namespace Media

structure Receiver (Output Packet : Type) where
  /-- The selected output, and whether the task has yet to look at it. -/
  selection : Option Output
  changed : Bool
  shutdownSignalled : Bool
  /-- The task begins when the track of the other side arrives. -/
  begun : Bool
  finished : Bool
  outputTx : Option Output
  /-- A packet that waits for room at an output. -/
  sending : Option (Output × Packet)
  received : List Packet
  forwarded : List (Output × Packet)

namespace Receiver

variable {Output Packet : Type}

def new : Receiver Output Packet where
  selection := none
  changed := false
  shutdownSignalled := false
  begun := false
  finished := false
  outputTx := none
  sending := none
  received := []
  forwarded := []

def select (self : Receiver Output Packet) (selection : Option Output) :
    Receiver Output Packet :=
  { self with selection := selection, changed := true }

def pause (self : Receiver Output Packet) : Receiver Output Packet := self.select none

def resume (self : Receiver Output Packet) (output : Output) : Receiver Output Packet :=
  self.select (some output)

def shutdown (self : Receiver Output Packet) : Receiver Output Packet :=
  { self with shutdownSignalled := true }

/-- The track of the other side is announced once. -/
def onTrack (self : Receiver Output Packet) : Option (Receiver Output Packet) :=
  if self.begun then none else some { self with begun := true, outputTx := self.selection }

/-- One round of the task, in which a packet may be there to be read, or the track may fail;
with the number of packets that it adds to those received. A signalled shutdown comes first,
then a change of the output. -/
def round (self : Receiver Output Packet) (readRtp : Option Packet) :
    Option (Receiver Output Packet × ℕ) :=
  if !self.begun || self.finished || self.sending.isSome then
    none
  else if self.shutdownSignalled then
    some ({ self with finished := true }, 0)
  else if self.changed then
    some ({ self with outputTx := self.selection, changed := false }, 0)
  else
    match readRtp with
    | some packet =>
        some ({ self with
          received := self.received ++ [packet]
          sending := self.outputTx.map fun output => (output, packet) }, 1)
    | none => some ({ self with finished := true }, 0)

/-- The output takes the packet that waits, which counts as forwarded, or is gone. -/
def sent (self : Receiver Output Packet) (taken : Bool) :
    Option (Receiver Output Packet × ℕ) :=
  self.sending.map fun packet =>
    if taken then
      ({ self with sending := none, forwarded := self.forwarded ++ [packet] }, 1)
    else
      ({ self with sending := none, outputTx := none }, 0)

/-- What a round does. It begins with nothing under way. -/
theorem round_cases {self next : Receiver Output Packet} {readRtp : Option Packet} {count : ℕ}
    (rounds : self.round readRtp = some (next, count)) :
    self.sending = none ∧
    (next = { self with finished := true } ∧ count = 0 ∨
      next = { self with outputTx := self.selection, changed := false } ∧ count = 0 ∨
      self.shutdownSignalled = false ∧ self.changed = false ∧ ∃ packet, readRtp = some packet ∧ count = 1 ∧ next = { self with
        received := self.received ++ [packet]
        sending := self.outputTx.map fun output => (output, packet) }) := by
  unfold round at rounds
  split at rounds
  · cases rounds
  next isIdle =>
  have nothing : self.sending = none := by
    rw [Bool.not_eq_true, Bool.or_eq_false_iff] at isIdle
    exact Option.isNone_iff_eq_none.mp (Option.isSome_eq_false_iff.mp isIdle.2)
  refine ⟨nothing, ?_⟩
  split at rounds
  · cases rounds
    exact Or.inl ⟨rfl, rfl⟩
  next unsignalled =>
  split at rounds
  · cases rounds
    exact Or.inr (Or.inl ⟨rfl, rfl⟩)
  next unchanged =>
  split at rounds
  · next packet =>
      cases rounds
      exact Or.inr (Or.inr ⟨Bool.eq_false_iff.mpr unsignalled,
        Bool.eq_false_iff.mpr unchanged, packet, rfl, rfl, rfl⟩)
  · cases rounds
    exact Or.inl ⟨rfl, rfl⟩

theorem sent_cases {self next : Receiver Output Packet} {taken : Bool} {count : ℕ}
    (sends : self.sent taken = some (next, count)) :
    ∃ packet, self.sending = some packet ∧
      (next = { self with sending := none, forwarded := self.forwarded ++ [packet] } ∧
          count = 1 ∨
        next = { self with sending := none, outputTx := none } ∧ count = 0) := by
  obtain ⟨packet, waits, sends⟩ := Option.map_eq_some_iff.mp sends
  refine ⟨packet, waits, ?_⟩
  cases taken with
  | true =>
      cases sends
      exact Or.inl ⟨rfl, rfl⟩
  | false =>
      cases sends
      exact Or.inr ⟨rfl, rfl⟩

theorem onTrack_eq {self next : Receiver Output Packet} (begins : self.onTrack = some next) :
    next = { self with begun := true, outputTx := self.selection } := by
  unfold onTrack at begins
  split at begins
  · cases begins
  · exact (Option.some.inj begins).symm

/-- The packets that were forwarded or wait are received ones, in order. -/
def Ordered (receiver : Receiver Output Packet) : Prop :=
  ((receiver.forwarded ++ receiver.sending.toList).map Prod.snd).Sublist receiver.received

/-- The task was told to stop, or no output is selected and the task knows or will look before
it reads. -/
def Silent (receiver : Receiver Output Packet) : Prop :=
  receiver.shutdownSignalled = true ∨
    receiver.selection = none ∧ (receiver.changed = true ∨ receiver.outputTx = none)

/-- What was forwarded since a moment is at most the packet that waited then. -/
def Since (before receiver : Receiver Output Packet) : Prop :=
  receiver.forwarded = before.forwarded ∧
    (receiver.sending = before.sending ∨ receiver.sending = none) ∨
  receiver.forwarded = before.forwarded ++ before.sending.toList ∧ receiver.sending = none

theorem Ordered.round {self next : Receiver Output Packet} {readRtp : Option Packet} {count : ℕ}
    (ordered : self.Ordered) (rounds : self.round readRtp = some (next, count)) :
    next.Ordered ∧ next.received.length = self.received.length + count ∧
      next.forwarded = self.forwarded := by
  obtain ⟨nothing, ⟨rfl, rfl⟩ | ⟨rfl, rfl⟩ | ⟨-, -, packet, -, rfl, rfl⟩⟩ := round_cases rounds
  · exact ⟨ordered, rfl, rfl⟩
  · exact ⟨ordered, rfl, rfl⟩
  · have before : (self.forwarded.map Prod.snd).Sublist self.received := by
      have kept := ordered
      rw [Ordered, nothing, Option.toList_none, List.append_nil] at kept
      exact kept
    refine ⟨?_, List.length_append, rfl⟩
    change ((self.forwarded ++ _).map Prod.snd).Sublist (self.received ++ [packet])
    rw [List.map_append]
    refine before.append ?_
    cases self.outputTx with
    | none => exact List.nil_sublist _
    | some output => exact List.Sublist.refl _

theorem Ordered.sent {self next : Receiver Output Packet} {taken : Bool} {count : ℕ}
    (ordered : self.Ordered) (sends : self.sent taken = some (next, count)) :
    next.Ordered ∧ next.received = self.received ∧
      next.forwarded.length = self.forwarded.length + count := by
  obtain ⟨packet, waits, ⟨rfl, rfl⟩ | ⟨rfl, rfl⟩⟩ := sent_cases sends
  · refine ⟨?_, rfl, List.length_append⟩
    have kept := ordered
    rw [Ordered, waits] at kept
    rw [Ordered, Option.toList_none, List.append_nil]
    exact kept
  · refine ⟨?_, rfl, rfl⟩
    have kept := ordered
    rw [Ordered, List.map_append] at kept
    rw [Ordered, Option.toList_none, List.append_nil]
    exact (List.sublist_append_left _ _).trans kept

theorem silent_pause (self : Receiver Output Packet) : self.pause.Silent :=
  Or.inr ⟨rfl, Or.inl rfl⟩

theorem Silent.onTrack {self next : Receiver Output Packet} (silent : self.Silent)
    (begins : self.onTrack = some next) : next.Silent := by
  rw [onTrack_eq begins]
  exact silent.imp id fun paused => ⟨paused.1, Or.inr paused.1⟩

theorem Silent.round {self next before : Receiver Output Packet} {readRtp : Option Packet}
    {count : ℕ} (silent : self.Silent) (since : before.Since self)
    (rounds : self.round readRtp = some (next, count)) : next.Silent ∧ before.Since next := by
  obtain ⟨nothing, ⟨rfl, -⟩ | ⟨rfl, -⟩ | ⟨unsignalled, seen, packet, -, -, rfl⟩⟩ :=
    round_cases rounds
  · exact ⟨silent, since⟩
  · exact ⟨silent.imp id fun paused => ⟨paused.1, Or.inr paused.1⟩, since⟩
  · have paused := silent.resolve_left (by rw [unsignalled]; exact Bool.false_ne_true)
    have noOutput : self.outputTx = none :=
      paused.2.resolve_left (by rw [seen]; exact Bool.false_ne_true)
    refine ⟨silent, ?_⟩
    rw [noOutput]
    rcases since with ⟨same, -⟩ | ⟨delivered, -⟩
    · exact Or.inl ⟨same, Or.inr rfl⟩
    · exact Or.inr ⟨delivered, rfl⟩

theorem Silent.sent {self next before : Receiver Output Packet} {taken : Bool} {count : ℕ}
    (silent : self.Silent) (since : before.Since self)
    (sends : self.sent taken = some (next, count)) : next.Silent ∧ before.Since next := by
  obtain ⟨packet, waits, sends⟩ := sent_cases sends
  have isOld : self.forwarded = before.forwarded ∧ before.sending = some packet := by
    rcases since with ⟨same, stillWaits | nothing⟩ | ⟨-, nothing⟩
    · exact ⟨same, stillWaits.symm.trans waits⟩
    · rw [waits] at nothing
      cases nothing
    · rw [waits] at nothing
      cases nothing
  rcases sends with ⟨rfl, -⟩ | ⟨rfl, -⟩
  · refine ⟨silent, Or.inr ⟨?_, rfl⟩⟩
    rw [isOld.2]
    exact congrArg (· ++ [packet]) isOld.1
  · exact ⟨silent.imp id fun paused => ⟨paused.1, Or.inr rfl⟩, Or.inl ⟨isOld.1, Or.inr rfl⟩⟩

end Receiver

end Media

end Vacs
