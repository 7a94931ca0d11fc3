import Mathlib.Algebra.BigOperators.Group.List.Basic
import Mathlib.Algebra.GroupWithZero.Nat
import Vacs.Foundations.BroadcastRings

/-!
# The sending task of a peer

The sender reads the encoded frames of a capture stream from a broadcast ring and writes them
to the track of its peer. A frame can be lost on the way, because the task has fallen too far
behind or because a write has failed. The next sample that is written carries the number of
frames lost before it, so that the RTP clock moves past the gap.

Over every run the samples that were written are at increasing positions of the stream, hold
the frames of these positions, and each reports exactly the gap in front of it, up to the
largest count that fits (`Sender.Paced`). Where no gap reaches that count, the clock after the
samples is the position after the last of them (`Spaced.clock_eq`).
-/

set_option autoImplicit false

namespace Vacs

namespace Media

def maxU16 : ℕ := 2 ^ 16 - 1

def maxU64 : ℕ := 2 ^ 64 - 1

def saturatingAdd (count added : ℕ) : ℕ := min (count + added) maxU64

/-- What is passed to the track. The position in the stream of frames is not a part of it. -/
structure Sample (Frame : Type) where
  data : Frame
  prevDroppedPackets : ℕ
  position : ℕ
deriving DecidableEq

structure Sender (Frame : Type) where
  /-- The position of the next frame to read. -/
  inputRx : ℕ
  droppedFrames : ℕ
  shutdownSignalled : Bool
  finished : Bool
  /-- The sample that is being written. -/
  writing : Option (Sample Frame)
  /-- Where the subscription began, and the samples that were written. -/
  subscribed : ℕ
  written : List (Sample Frame)
deriving DecidableEq

namespace Sender

variable {capacity : ℕ} {Frame : Type}

def new (inputRx : ℕ) : Sender Frame where
  inputRx := inputRx
  droppedFrames := 0
  shutdownSignalled := false
  finished := false
  writing := none
  subscribed := inputRx
  written := []

def shutdown (self : Sender Frame) : Sender Frame := { self with shutdownSignalled := true }

/-- Stop a task that does not stop by itself. -/
def abort (self : Sender Frame) : Sender Frame := { self with finished := true }

/-- One round of the task: a signalled shutdown comes first. A task that is stopped, still
writes, or finds no frame on an open input does nothing. -/
def round (self : Sender Frame) (input : BroadcastRing capacity Frame) (inputOpen : Bool) :
    Option (Sender Frame) :=
  if self.finished || self.writing.isSome then
    none
  else if self.shutdownSignalled then
    some { self with finished := true }
  else
    match input.recv self.inputRx with
    | (.item frame, next) =>
        some { self with
          inputRx := next
          writing := some {
            data := frame
            prevDroppedPackets :=
              if self.droppedFrames ≤ maxU16 then self.droppedFrames else maxU16
            position := self.inputRx } }
    | (.lagged skipped, next) =>
        some { self with
          inputRx := next, droppedFrames := saturatingAdd self.droppedFrames skipped }
    | (.empty, _) => if inputOpen then none else some { self with finished := true }

/-- A write ends, with the number of frames that it adds to those sent. A failed write is a
lost frame. -/
def wrote (self : Sender Frame) (writes : Bool) : Option (Sender Frame × ℕ) :=
  if self.finished then
    none
  else
    self.writing.map fun sample =>
      if writes then
        ({ self with droppedFrames := 0, writing := none, written := self.written ++ [sample] }, 1)
      else
        ({ self with droppedFrames := saturatingAdd self.droppedFrames 1, writing := none }, 0)

/-- What a round does. It begins with nothing under way. -/
theorem round_cases {self next : Sender Frame} {input : BroadcastRing capacity Frame}
    {inputOpen : Bool} {stream : List Frame} (retains : input.Retains stream)
    (within : self.inputRx ≤ stream.length) (rounds : self.round input inputOpen = some next) :
    self.writing = none ∧
    (next = { self with finished := true } ∨
      self.shutdownSignalled = false ∧
      ((∃ frame, stream[self.inputRx]? = some frame ∧
          next = { self with
            inputRx := self.inputRx + 1
            writing := some ⟨frame, min self.droppedFrames maxU16, self.inputRx⟩ }) ∨
        ∃ skipped, self.inputRx + skipped ≤ stream.length ∧
          next = { self with
            inputRx := self.inputRx + skipped
            droppedFrames := saturatingAdd self.droppedFrames skipped })) := by
  unfold round at rounds
  split at rounds
  · cases rounds
  next isIdle =>
  have nothing : self.writing = none := by
    rw [Bool.not_eq_true, Bool.or_eq_false_iff] at isIdle
    exact Option.isNone_iff_eq_none.mp (Option.isSome_eq_false_iff.mp isIdle.2)
  refine ⟨nothing, ?_⟩
  split at rounds
  · cases rounds
    exact Or.inl rfl
  next unsignalled =>
  rcases retains.recv_cases within with
    ⟨frame, received, found⟩ | ⟨skipped, received, behind⟩ | ⟨received, -⟩
  · rw [received] at rounds
    cases rounds
    refine Or.inr ⟨Bool.eq_false_iff.mpr unsignalled, Or.inl ⟨frame, found, ?_⟩⟩
    have clipped : (if self.droppedFrames ≤ maxU16 then self.droppedFrames else maxU16) =
        min self.droppedFrames maxU16 := by
      split
      · omega
      · omega
    rw [clipped]
  · rw [received] at rounds
    cases rounds
    exact Or.inr ⟨Bool.eq_false_iff.mpr unsignalled, Or.inr ⟨skipped, behind, rfl⟩⟩
  · rw [received] at rounds
    cases inputOpen with
    | true => cases rounds
    | false =>
        cases rounds
        exact Or.inl rfl

theorem wrote_cases {self next : Sender Frame} {writes : Bool} {sent : ℕ}
    (ends : self.wrote writes = some (next, sent)) :
    ∃ sample, self.writing = some sample ∧
      (next = { self with
          droppedFrames := 0, writing := none, written := self.written ++ [sample] } ∧ sent = 1 ∨
        next = { self with
          droppedFrames := saturatingAdd self.droppedFrames 1, writing := none } ∧ sent = 0) := by
  unfold wrote at ends
  split at ends
  · cases ends
  obtain ⟨sample, isWriting, ends⟩ := Option.map_eq_some_iff.mp ends
  refine ⟨sample, isWriting, ?_⟩
  cases writes with
  | true =>
      cases ends
      exact Or.inl ⟨rfl, rfl⟩
  | false =>
      cases ends
      exact Or.inr ⟨rfl, rfl⟩

/-! ## The gaps between the samples -/

/-- Samples from a position up to another, each with the gap in front of it. -/
inductive Spaced (origin : ℕ) : List (Sample Frame) → ℕ → Prop where
  | nil : Spaced origin [] origin
  | written {samples : List (Sample Frame)} {reached : ℕ} {sample : Sample Frame}
      (spaced : Spaced origin samples reached) (later : reached ≤ sample.position)
      (reports : sample.prevDroppedPackets = min (sample.position - reached) maxU16) :
      Spaced origin (samples ++ [sample]) (sample.position + 1)

/-- How far the RTP clock has advanced, in frames. -/
def clock (samples : List (Sample Frame)) : ℕ :=
  (samples.map fun sample => sample.prevDroppedPackets + 1).sum

theorem clock_concat (samples : List (Sample Frame)) (sample : Sample Frame) :
    clock (samples ++ [sample]) = clock samples + (sample.prevDroppedPackets + 1) := by
  rw [clock, List.map_append, List.sum_append, List.map_singleton, List.sum_singleton, clock]

theorem Spaced.clock_le {origin reached : ℕ} {samples : List (Sample Frame)}
    (spaced : Spaced origin samples reached) : origin + clock samples ≤ reached := by
  induction spaced with
  | nil => exact Nat.le_refl _
  | written spaced later reports ih =>
      rw [clock_concat, reports]
      omega

/-- The clock is exact as long as no reported gap is the largest one that fits. -/
theorem Spaced.clock_eq {origin reached : ℕ} {samples : List (Sample Frame)}
    (spaced : Spaced origin samples reached)
    (unsaturated : ∀ sample ∈ samples, sample.prevDroppedPackets < maxU16) :
    origin + clock samples = reached := by
  induction spaced with
  | nil => rfl
  | written spaced later reports ih =>
      have earlier := ih fun sample isEarlier =>
        unsaturated sample (List.mem_append_left _ isEarlier)
      have last := unsaturated _ (List.mem_append_right _ (List.mem_singleton_self _))
      rw [clock_concat]
      omega

/-- How far a task has come: the position up to which everything was written or counts as
dropped. A sample that is being written lies behind it. -/
def counted (self : Sender Frame) : ℕ := self.writing.elim self.inputRx Sample.position

/-- The sample that is being written is the frame in front of the position, and reports what
was dropped. -/
def Writes (sender : Sender Frame) (stream : List Frame) : Prop :=
  ∀ sample ∈ sender.writing, sample.position + 1 = sender.inputRx ∧
    stream[sample.position]? = some sample.data ∧
    sample.prevDroppedPackets = min sender.droppedFrames maxU16

/-- What holds of a sender that reads a stream: the samples are spaced up to the last one that
was written, and everything since then counts as dropped. -/
structure Paced (sender : Sender Frame) (stream : List Frame) : Prop where
  within : sender.inputRx ≤ stream.length
  spaced : ∃ reached, Spaced sender.subscribed sender.written reached ∧
    reached ≤ sender.counted ∧ sender.droppedFrames = min (sender.counted - reached) maxU64
  data : ∀ sample ∈ sender.written, stream[sample.position]? = some sample.data
  writes : sender.Writes stream

theorem Paced.new {stream : List Frame} {inputRx : ℕ} (within : inputRx ≤ stream.length) :
    (new inputRx : Sender Frame).Paced stream where
  within := within
  spaced := ⟨inputRx, .nil, Nat.le_refl _, by
    change 0 = min (inputRx - inputRx) maxU64
    rw [Nat.sub_self, Nat.zero_min]⟩
  data := fun _ isWritten => absurd isWritten List.not_mem_nil
  writes := fun _ isWriting => absurd isWriting (Option.not_mem_none _)

/-- Signalling and aborting a task leave its samples alone. -/
theorem Paced.of_eq {self next : Sender Frame} {stream : List Frame} (paced : self.Paced stream)
    (inputRx : next.inputRx = self.inputRx) (dropped : next.droppedFrames = self.droppedFrames)
    (writing : next.writing = self.writing) (subscribed : next.subscribed = self.subscribed)
    (written : next.written = self.written) : next.Paced stream where
  within := inputRx ▸ paced.within
  spaced := by
    rw [counted, inputRx, dropped, writing, subscribed, written]
    exact paced.spaced
  data := by
    rw [written]
    exact paced.data
  writes := by
    rw [Writes, inputRx, dropped, writing]
    exact paced.writes

theorem getElem?_concat_of_some {stream : List Frame} {position : ℕ} {data : Frame}
    (found : stream[position]? = some data) (frame : Frame) :
    (stream ++ [frame])[position]? = some data := by
  rw [List.getElem?_append_left (List.getElem?_eq_some_iff.mp found).1, found]

theorem Paced.grow {self : Sender Frame} {stream : List Frame} (paced : self.Paced stream)
    (frame : Frame) : self.Paced (stream ++ [frame]) where
  within := by
    rw [List.length_append]
    exact Nat.le_add_right_of_le paced.within
  spaced := paced.spaced
  data := fun sample isWritten => getElem?_concat_of_some (paced.data sample isWritten) frame
  writes := fun sample isWriting => by
    obtain ⟨position, found, reports⟩ := paced.writes sample isWriting
    exact ⟨position, getElem?_concat_of_some found frame, reports⟩

/-- Losing some frames moves the position and the count of dropped frames alike. -/
theorem saturatingAdd_sub {position reached dropped lost : ℕ} (reached_le : reached ≤ position)
    (isDropped : dropped = min (position - reached) maxU64) :
    saturatingAdd dropped lost = min (position + lost - reached) maxU64 := by
  unfold saturatingAdd
  omega

theorem Paced.round {self next : Sender Frame} {input : BroadcastRing capacity Frame}
    {stream : List Frame} {inputOpen : Bool} (paced : self.Paced stream)
    (retains : input.Retains stream) (rounds : self.round input inputOpen = some next) :
    next.Paced stream := by
  obtain ⟨nothing, rfl | ⟨-, ⟨frame, found, rfl⟩ | ⟨skipped, behind, rfl⟩⟩⟩ :=
    round_cases retains paced.within rounds
  · exact paced.of_eq rfl rfl rfl rfl rfl
  · obtain ⟨reached, spaced, reached_le, isDropped⟩ := paced.spaced
    rw [counted, nothing] at reached_le isDropped
    refine ⟨(List.getElem?_eq_some_iff.mp found).1, ⟨reached, spaced, reached_le, isDropped⟩,
      paced.data, ?_⟩
    rintro sample ⟨⟩
    exact ⟨rfl, found, rfl⟩
  · obtain ⟨reached, spaced, reached_le, isDropped⟩ := paced.spaced
    rw [counted, nothing] at reached_le isDropped
    refine ⟨behind, ⟨reached, spaced, ?_, ?_⟩, paced.data, ?_⟩
    · rw [counted]
      change reached ≤ self.writing.elim (self.inputRx + skipped) Sample.position
      rw [nothing]
      exact Nat.le_add_right_of_le reached_le
    · rw [counted]
      change _ = min (self.writing.elim (self.inputRx + skipped) Sample.position - reached) maxU64
      rw [nothing]
      exact saturatingAdd_sub reached_le isDropped
    · intro sample isWriting
      rw [Option.mem_def] at isWriting
      exact absurd (nothing.symm.trans isWriting) (Option.some_ne_none _).symm

theorem Paced.wrote {self next : Sender Frame} {stream : List Frame} {writes : Bool} {sent : ℕ}
    (paced : self.Paced stream) (ends : self.wrote writes = some (next, sent)) :
    next.Paced stream ∧ next.written.length = self.written.length + sent := by
  obtain ⟨sample, isWriting, ends⟩ := wrote_cases ends
  obtain ⟨position, found, reports⟩ := paced.writes sample isWriting
  obtain ⟨reached, spaced, reached_le, isDropped⟩ := paced.spaced
  rw [counted, isWriting] at reached_le isDropped
  change reached ≤ sample.position at reached_le
  change self.droppedFrames = min (sample.position - reached) maxU64 at isDropped
  rcases ends with ⟨rfl, rfl⟩ | ⟨rfl, rfl⟩
  · refine ⟨⟨paced.within, ⟨self.inputRx, ?_, Nat.le_refl _, ?_⟩, ?_, ?_⟩, List.length_append⟩
    · rw [← position]
      refine .written spaced reached_le ?_
      have small : maxU16 ≤ maxU64 := by decide
      omega
    · change 0 = min (self.inputRx - self.inputRx) maxU64
      rw [Nat.sub_self, Nat.zero_min]
    · intro other isWritten
      rcases List.mem_append.mp isWritten with old | isLast
      · exact paced.data other old
      · rw [List.mem_singleton.mp isLast]
        exact found
    · exact fun _ isWriting => absurd isWriting (Option.not_mem_none _)
  · refine ⟨⟨paced.within, ⟨reached, spaced, ?_, ?_⟩, paced.data, ?_⟩, rfl⟩
    · change reached ≤ self.inputRx
      omega
    · change saturatingAdd self.droppedFrames 1 = min (self.inputRx - reached) maxU64
      rw [saturatingAdd_sub reached_le isDropped, position]
    · exact fun _ isWriting => absurd isWriting (Option.not_mem_none _)

/-! ## After the signal -/

/-- What was written since a moment is at most the sample that was being written then. -/
def Since (before sender : Sender Frame) : Prop :=
  sender.written = before.written ∧
    (sender.writing = before.writing ∨ sender.writing = none) ∨
  sender.written = before.written ++ before.writing.toList ∧ sender.writing = none

theorem Since.round {before self next : Sender Frame} {input : BroadcastRing capacity Frame}
    {stream : List Frame} {inputOpen : Bool} (since : before.Since self)
    (paced : self.Paced stream) (retains : input.Retains stream)
    (signalled : self.shutdownSignalled = true)
    (rounds : self.round input inputOpen = some next) : before.Since next := by
  obtain ⟨-, rfl | ⟨unsignalled, -⟩⟩ := round_cases retains paced.within rounds
  · exact since
  · rw [signalled] at unsignalled
    cases unsignalled

theorem Since.wrote {before self next : Sender Frame} {writes : Bool} {sent : ℕ}
    (since : before.Since self) (ends : self.wrote writes = some (next, sent)) :
    before.Since next := by
  obtain ⟨sample, isWriting, ends⟩ := wrote_cases ends
  have isOld : self.written = before.written ∧ before.writing = some sample := by
    rcases since with ⟨same, still | nothing⟩ | ⟨-, nothing⟩
    · exact ⟨same, still.symm.trans isWriting⟩
    · rw [isWriting] at nothing
      cases nothing
    · rw [isWriting] at nothing
      cases nothing
  rcases ends with ⟨rfl, -⟩ | ⟨rfl, -⟩
  · refine Or.inr ⟨?_, rfl⟩
    rw [isOld.2]
    exact congrArg (· ++ [sample]) isOld.1
  · exact Or.inl ⟨isOld.1, Or.inr rfl⟩

end Sender

end Media

end Vacs
