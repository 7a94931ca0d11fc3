import Vacs.Foundations.GuardedRuns
import Vacs.Media.Receiver
import Vacs.Media.Sender
import Vacs.Media.Watchdog
import Vacs.Peers.Links

/-!
# The media tasks of a peer

A peer that is started runs three tasks next to the connection: the sender, which reads the
frames of a capture stream, the receiver, which passes the payloads of received packets to an
output, and the watchdog. Pausing and stopping only signal the tasks, which notice on their
own, while the connection goes on and other capture streams open and close.

In every run the samples of every sender are paced by its capture stream (`samples_paced`).
A peer reports at most once for each start that no media comes in, exactly when the readings
of that start say so (`noInboundMedia_once`). After a pause at most the one packet that was on
its way reaches an output, until the peer is started again (`pause_silences`).
-/

set_option autoImplicit false

namespace Vacs

namespace Media

open GuardedRuns

/-- The task of a watchdog. Its first act is to read the counters. -/
structure WatchdogTask where
  running : Option Watchdog
  aborted : Bool
deriving DecidableEq

def WatchdogTask.spawned : WatchdogTask := ⟨none, false⟩

def WatchdogTask.abort (self : WatchdogTask) : WatchdogTask := { self with aborted := true }

/-- A sender and the capture stream that it reads. -/
structure SenderTask (Frame : Type) where
  input : ℕ
  sender : Sender Frame
deriving DecidableEq

namespace SenderTask

variable {Frame : Type}

def shutdown (self : SenderTask Frame) : SenderTask Frame :=
  { self with sender := self.sender.shutdown }

def abort (self : SenderTask Frame) : SenderTask Frame :=
  { self with sender := self.sender.abort }

end SenderTask

structure Peer (capacity : ℕ) (Frame Output Packet : Type) where
  now : ℕ
  /-- The capture streams, and all frames that each has sent. -/
  inputs : ℕ → BroadcastRing capacity Frame
  inputOpen : ℕ → Bool
  captured : ℕ → List Frame
  /-- What the peer holds on to: the tasks by the order in which they were started. -/
  sender : Option ℕ
  receiverHeld : Bool
  watchdog : Option ℕ
  /-- The sender that a stop waits for, if any. -/
  stopping : Option (Option ℕ)
  senders : List (SenderTask Frame)
  receiver : Receiver Output Packet
  watchdogs : List WatchdogTask
  receivedRtp : ℕ
  receivedRtcp : ℕ
  forwardedRtp : ℕ
  sentFrames : ℕ
  /-- The watchdogs that have reported. -/
  noInboundMedia : List ℕ

namespace Peer

variable {capacity : ℕ} {Frame Output Packet : Type}

def new : Peer capacity Frame Output Packet where
  now := 0
  inputs := fun _ => .empty
  inputOpen := fun _ => true
  captured := fun _ => []
  sender := none
  receiverHeld := true
  watchdog := none
  stopping := none
  senders := []
  receiver := .new
  watchdogs := []
  receivedRtp := 0
  receivedRtcp := 0
  forwardedRtp := 0
  sentFrames := 0
  noInboundMedia := []

def inbound (self : Peer capacity Frame Output Packet) : Inbound :=
  ⟨self.receivedRtp, self.receivedRtcp⟩

/-- Start the peer with a subscription to a capture stream. -/
def start (self : Peer capacity Frame Output Packet) (input inputRx : ℕ) (output : Output) :
    Except WebrtcError (Peer capacity Frame Output Packet) :=
  if self.sender.isSome then
    .error .callActive
  else if self.receiverHeld then
    .ok { self with
      receiver := self.receiver.resume output
      sender := some self.senders.length
      senders := self.senders ++ [⟨input, .new inputRx⟩]
      watchdog := some self.watchdogs.length
      watchdogs := self.watchdogs ++ [.spawned] }
  else
    .error .noCallActive

def abortWatchdog (self : Peer capacity Frame Output Packet) : Peer capacity Frame Output Packet :=
  { self with
    watchdog := none
    watchdogs := self.watchdog.elim self.watchdogs fun index =>
      self.watchdogs.modify index WatchdogTask.abort }

def shutdownSender (self : Peer capacity Frame Output Packet) :
    Peer capacity Frame Output Packet :=
  { self with
    sender := none
    senders := self.sender.elim self.senders fun index =>
      self.senders.modify index SenderTask.shutdown }

def pause (self : Peer capacity Frame Output Packet) : Peer capacity Frame Output Packet :=
  { self.abortWatchdog.shutdownSender with
    receiver := if self.receiverHeld then self.receiver.pause else self.receiver }

/-- Stopping waits for the sender to finish. -/
def beginStop (self : Peer capacity Frame Output Packet) : Peer capacity Frame Output Packet :=
  { self.abortWatchdog.shutdownSender with stopping := some self.sender }

def shutdownReceiver (self : Peer capacity Frame Output Packet) :
    Peer capacity Frame Output Packet :=
  { self with
    receiverHeld := false
    receiver := if self.receiverHeld then self.receiver.shutdown else self.receiver }

/-- The sender has finished. The receiver stays when it could not be joined. -/
def endStop (self : Peer capacity Frame Output Packet) (joined : Bool) :
    Option (Peer capacity Frame Output Packet) :=
  self.stopping.bind fun awaited =>
    let returned := { self with stopping := none }
    match awaited with
    | none => if joined then some returned.shutdownReceiver else none
    | some index =>
        if (self.senders[index]?).any fun task => task.sender.finished then
          some (if joined then returned.shutdownReceiver else returned)
        else
          none

/-- Dropping the peer, also in the middle of a stop, takes all its tasks along. -/
def drop (self : Peer capacity Frame Output Packet) : Peer capacity Frame Output Packet :=
  { self.abortWatchdog.shutdownSender.shutdownReceiver with stopping := none }

/-- A tick of a watchdog, or its first reading. -/
def tick (self : Peer capacity Frame Output Packet) (index : ℕ) :
    Option (Peer capacity Frame Output Packet) :=
  (self.watchdogs[index]?).bind fun task =>
    if task.aborted then
      none
    else
      match task.running with
      | none =>
          some { self with
            watchdogs := self.watchdogs.set index
              { task with running := some (.spawn ⟨self.now, self.inbound⟩) } }
      | some watchdog =>
          let ticked := watchdog.tick ⟨self.now, self.inbound⟩
          some { self with
            watchdogs := self.watchdogs.set index { task with running := some ticked.1 }
            noInboundMedia :=
              if ticked.2 then self.noInboundMedia ++ [index] else self.noInboundMedia }

inductive Move (Frame Output Packet : Type) where
  | advance (elapsed : ℕ)
  | capture (input : ℕ) (frame : Frame)
  | closeInput (input : ℕ)
  | start (input inputRx : ℕ) (output : Output)
  | pause
  | beginStop
  | endStop (joined : Bool)
  | drop
  | abortSender (index : ℕ)
  | senderRound (index : ℕ)
  | senderWrote (index : ℕ) (writes : Bool)
  | onTrack
  | receiverRound (readRtp : Option Packet)
  | receiverSent (taken : Bool)
  | readRtcp
  | tick (index : ℕ)

/-- One move of the peer's owner, of a task or of the world. -/
def step (self : Peer capacity Frame Output Packet) :
    Move Frame Output Packet → Option (Peer capacity Frame Output Packet)
  | .advance elapsed => some { self with now := self.now + elapsed }
  | .capture input frame =>
      if self.inputOpen input then
        some { self with
          inputs := Function.update self.inputs input ((self.inputs input).send frame)
          captured := Function.update self.captured input (self.captured input ++ [frame]) }
      else
        none
  | .closeInput input =>
      some { self with inputOpen := Function.update self.inputOpen input false }
  | .start input inputRx output =>
      -- a subscription is within the stream that it reads
      if self.stopping.isNone && decide (inputRx ≤ (self.inputs input).tail) then
        some (match self.start input inputRx output with
          | .ok started => started
          | .error _ => self)
      else
        none
  | .pause => if self.stopping.isNone then some self.pause else none
  | .beginStop => if self.stopping.isNone then some self.beginStop else none
  | .endStop joined => self.endStop joined
  | .drop => some self.drop
  | .abortSender index =>
      if (self.senders[index]?).any fun task => task.sender.shutdownSignalled then
        some { self with senders := self.senders.modify index SenderTask.abort }
      else
        none
  | .senderRound index =>
      (self.senders[index]?).bind fun task =>
        (task.sender.round (self.inputs task.input) (self.inputOpen task.input)).map
          fun sender => { self with
            senders := self.senders.set index { task with sender := sender } }
  | .senderWrote index writes =>
      (self.senders[index]?).bind fun task =>
        (task.sender.wrote writes).map fun (sender, sent) =>
          { self with
            senders := self.senders.set index { task with sender := sender }
            sentFrames := self.sentFrames + sent }
  | .onTrack => self.receiver.onTrack.map fun receiver => { self with receiver := receiver }
  | .receiverRound readRtp =>
      (self.receiver.round readRtp).map fun (receiver, received) =>
        { self with receiver := receiver, receivedRtp := self.receivedRtp + received }
  | .receiverSent taken =>
      (self.receiver.sent taken).map fun (receiver, forwarded) =>
        { self with receiver := receiver, forwardedRtp := self.forwardedRtp + forwarded }
  | .readRtcp => some { self with receivedRtcp := self.receivedRtcp + 1 }
  | .tick index => self.tick index

/-! ## What a move does to the senders -/

theorem getElem?_modify_some {α : Type} {change : α → α} {items : List α} {index touched : ℕ}
    {item : α} (found : (items.modify touched change)[index]? = some item) :
    index ≠ touched ∧ items[index]? = some item ∨
      ∃ before, items[index]? = some before ∧ index = touched ∧ item = change before := by
  rw [List.getElem?_modify] at found
  obtain ⟨before, wasThere, changed⟩ := Option.map_eq_some_iff.mp found
  split at changed
  · next same => exact Or.inr ⟨before, wasThere, same.symm, changed.symm⟩
  · next different => exact Or.inl ⟨Ne.symm different, changed ▸ wasThere⟩

theorem getElem?_set_some {α : Type} {items : List α} {index touched : ℕ} {item value : α}
    (found : (items.set touched value)[index]? = some item) :
    index = touched ∧ item = value ∨ index ≠ touched ∧ items[index]? = some item := by
  by_cases same : index = touched
  · rw [same, List.getElem?_set_self' ] at found
    obtain ⟨_, _, isValue⟩ := Option.map_eq_some_iff.mp found
    exact Or.inl ⟨same, isValue.symm⟩
  · rw [List.getElem?_set_ne (Ne.symm same)] at found
    exact Or.inr ⟨same, found⟩

theorem getElem?_concat_some {α : Type} {items : List α} {index : ℕ} {item last : α}
    (found : (items ++ [last])[index]? = some item) :
    items[index]? = some item ∨ index = items.length ∧ item = last := by
  by_cases inside : index < items.length
  · rw [List.getElem?_append_left inside] at found
    exact Or.inl found
  · have isLast : index = items.length := by
      have long := (List.getElem?_eq_some_iff.mp found).1
      rw [List.length_append, List.length_singleton] at long
      omega
    rw [isLast, List.getElem?_concat_length] at found
    exact Or.inr ⟨isLast, (Option.some.inj found).symm⟩

/-- A sender after a move was there before and did not change, or has just been started, or
has been told to stop or aborted, or has taken part in the move. -/
inductive SenderStep (self next : Peer capacity Frame Output Packet) (index : ℕ)
    (task : SenderTask Frame) : Prop where
  | same (wasThere : self.senders[index]? = some task)
  | started (input inputRx : ℕ) (output : Output) (isLast : index = self.senders.length)
      (within : inputRx ≤ (self.inputs input).tail) (isNew : task = ⟨input, .new inputRx⟩)
      (starts : self.start input inputRx output = .ok next)
  | shutdown (before : SenderTask Frame) (wasThere : self.senders[index]? = some before)
      (held : self.sender = some index) (stopped : task = before.shutdown)
  | aborted (before : SenderTask Frame) (wasThere : self.senders[index]? = some before)
      (signalled : before.sender.shutdownSignalled = true) (stopped : task = before.abort)
  | round (before : SenderTask Frame) (sender : Sender Frame)
      (wasThere : self.senders[index]? = some before) (changed : task = { before with sender := sender })
      (rounds : before.sender.round (self.inputs before.input) (self.inputOpen before.input) =
        some sender)
  | wrote (before : SenderTask Frame) (sender : Sender Frame) (writes : Bool) (sent : ℕ)
      (wasThere : self.senders[index]? = some before) (changed : task = { before with sender := sender })
      (ends : before.sender.wrote writes = some (sender, sent))

theorem senders_shutdownSender {self next : Peer capacity Frame Output Packet} {index : ℕ}
    {task : SenderTask Frame} (found : self.shutdownSender.senders[index]? = some task) :
    SenderStep self next index task := by
  unfold shutdownSender at found
  cases held : self.sender with
  | none =>
      rw [held] at found
      exact .same found
  | some touched =>
      rw [held] at found
      rcases getElem?_modify_some found with ⟨-, wasThere⟩ | ⟨before, wasThere, rfl, stopped⟩
      · exact .same wasThere
      · exact .shutdown before wasThere held stopped

theorem start_eq_ok {self started : Peer capacity Frame Output Packet} {input inputRx : ℕ}
    {output : Output} (starts : self.start input inputRx output = .ok started) :
    self.sender = none ∧ self.receiverHeld = true ∧
    started = { self with
      receiver := self.receiver.resume output
      sender := some self.senders.length
      senders := self.senders ++ [⟨input, .new inputRx⟩]
      watchdog := some self.watchdogs.length
      watchdogs := self.watchdogs ++ [.spawned] } := by
  unfold start at starts
  split at starts
  · cases starts
  next unheld =>
  split at starts
  · next held =>
      cases starts
      exact ⟨Option.isNone_iff_eq_none.mp (Option.isSome_eq_false_iff.mp
        (Bool.eq_false_iff.mpr unheld)), held, rfl⟩
  · cases starts

/-- A start that is refused changes nothing. -/
theorem step_start {self next : Peer capacity Frame Output Packet} {input inputRx : ℕ}
    {output : Output} (steps : self.step (.start input inputRx output) = some next) :
    next = self ∨ inputRx ≤ (self.inputs input).tail ∧
      self.start input inputRx output = .ok next := by
  obtain ⟨allowed, steps⟩ := Option.ite_none_right_eq_some.mp steps
  cases starts : self.start input inputRx output with
  | ok started =>
      rw [starts] at steps
      cases steps
      exact Or.inr ⟨of_decide_eq_true (Bool.and_eq_true_iff.mp allowed).2, rfl⟩
  | error refused =>
      rw [starts] at steps
      cases steps
      exact Or.inl rfl

/-- The end of a stop leaves the senders and the watchdogs alone. -/
theorem endStop_cases {self next : Peer capacity Frame Output Packet} {joined : Bool}
    (ends : self.endStop joined = some next) :
    next = { self with stopping := none } ∨
      next = ({ self with stopping := none } : Peer capacity Frame Output Packet).shutdownReceiver := by
  obtain ⟨awaited, -, ends⟩ := Option.bind_eq_some_iff.mp ends
  cases awaited with
  | none =>
      obtain ⟨-, ends⟩ := Option.ite_none_right_eq_some.mp ends
      exact Or.inr (Option.some.inj ends).symm
  | some index =>
      obtain ⟨-, ends⟩ := Option.ite_none_right_eq_some.mp ends
      cases joined with
      | true => exact Or.inr (Option.some.inj ends).symm
      | false => exact Or.inl (Option.some.inj ends).symm

theorem sender_of_step {self next : Peer capacity Frame Output Packet}
    {move : Move Frame Output Packet} (steps : self.step move = some next) {index : ℕ}
    {task : SenderTask Frame} (found : next.senders[index]? = some task) :
    SenderStep self next index task := by
  cases move with
  | advance elapsed =>
      cases steps
      exact .same found
  | capture input frame =>
      obtain ⟨-, steps⟩ := Option.ite_none_right_eq_some.mp steps
      cases steps
      exact .same found
  | closeInput input =>
      cases steps
      exact .same found
  | start input inputRx output =>
      rcases step_start steps with rfl | ⟨within, starts⟩
      · exact .same found
      · have result := (start_eq_ok starts).2.2
        rw [result] at found
        rcases getElem?_concat_some found with wasThere | ⟨isLast, isNew⟩
        · exact .same wasThere
        · exact .started input inputRx output isLast within isNew starts
  | pause =>
      obtain ⟨-, steps⟩ := Option.ite_none_right_eq_some.mp steps
      cases steps
      exact senders_shutdownSender found
  | beginStop =>
      obtain ⟨-, steps⟩ := Option.ite_none_right_eq_some.mp steps
      cases steps
      exact senders_shutdownSender found
  | endStop joined =>
      rcases endStop_cases steps with rfl | rfl
      · exact .same found
      · exact .same found
  | drop =>
      cases steps
      exact senders_shutdownSender found
  | abortSender touched =>
      obtain ⟨signalled, steps⟩ := Option.ite_none_right_eq_some.mp steps
      cases steps
      rcases getElem?_modify_some found with ⟨-, wasThere⟩ | ⟨before, wasThere, rfl, stopped⟩
      · exact .same wasThere
      · rw [wasThere] at signalled
        exact .aborted before wasThere signalled stopped
  | senderRound touched =>
      obtain ⟨before, wasThere, steps⟩ := Option.bind_eq_some_iff.mp steps
      obtain ⟨sender, rounds, rfl⟩ := Option.map_eq_some_iff.mp steps
      rcases getElem?_set_some found with ⟨rfl, changed⟩ | ⟨-, same⟩
      · exact .round before sender wasThere changed rounds
      · exact .same same
  | senderWrote touched writes =>
      obtain ⟨before, wasThere, steps⟩ := Option.bind_eq_some_iff.mp steps
      obtain ⟨⟨sender, sent⟩, ends, rfl⟩ := Option.map_eq_some_iff.mp steps
      rcases getElem?_set_some found with ⟨rfl, changed⟩ | ⟨-, same⟩
      · exact .wrote before sender writes sent wasThere changed ends
      · exact .same same
  | onTrack =>
      obtain ⟨receiver, -, rfl⟩ := Option.map_eq_some_iff.mp steps
      exact .same found
  | receiverRound readRtp =>
      obtain ⟨⟨receiver, received⟩, -, rfl⟩ := Option.map_eq_some_iff.mp steps
      exact .same found
  | receiverSent taken =>
      obtain ⟨⟨receiver, forwarded⟩, -, rfl⟩ := Option.map_eq_some_iff.mp steps
      exact .same found
  | readRtcp =>
      cases steps
      exact .same found
  | tick touched =>
      obtain ⟨watching, -, steps⟩ := Option.bind_eq_some_iff.mp steps
      obtain ⟨-, steps⟩ := Option.ite_none_left_eq_some.mp steps
      cases running : watching.running with
      | none =>
          rw [running] at steps
          cases steps
          exact .same found
      | some watchdog =>
          rw [running] at steps
          cases steps
          exact .same found

/-! ## Pacing -/

/-- A capture stream after a move has one more frame, or is as it was. -/
theorem captured_of_step {self next : Peer capacity Frame Output Packet}
    {move : Move Frame Output Packet} (steps : self.step move = some next) (input : ℕ) :
    next.inputs input = self.inputs input ∧ next.captured input = self.captured input ∨
    ∃ frame, next.inputs input = (self.inputs input).send frame ∧
      next.captured input = self.captured input ++ [frame] := by
  cases move with
  | capture touched frame =>
      obtain ⟨-, steps⟩ := Option.ite_none_right_eq_some.mp steps
      cases steps
      by_cases same : input = touched
      · subst same
        exact Or.inr ⟨frame, Function.update_self .., Function.update_self ..⟩
      · exact Or.inl ⟨Function.update_of_ne same .., Function.update_of_ne same ..⟩
  | advance elapsed =>
      cases steps
      exact Or.inl ⟨rfl, rfl⟩
  | closeInput closed =>
      cases steps
      exact Or.inl ⟨rfl, rfl⟩
  | start touched inputRx output =>
      rcases step_start steps with rfl | ⟨-, starts⟩
      · exact Or.inl ⟨rfl, rfl⟩
      · rw [(start_eq_ok starts).2.2]
        exact Or.inl ⟨rfl, rfl⟩
  | pause =>
      obtain ⟨-, steps⟩ := Option.ite_none_right_eq_some.mp steps
      cases steps
      exact Or.inl ⟨rfl, rfl⟩
  | beginStop =>
      obtain ⟨-, steps⟩ := Option.ite_none_right_eq_some.mp steps
      cases steps
      exact Or.inl ⟨rfl, rfl⟩
  | endStop joined =>
      rcases endStop_cases steps with rfl | rfl
      · exact Or.inl ⟨rfl, rfl⟩
      · exact Or.inl ⟨rfl, rfl⟩
  | drop =>
      cases steps
      exact Or.inl ⟨rfl, rfl⟩
  | abortSender index =>
      obtain ⟨-, steps⟩ := Option.ite_none_right_eq_some.mp steps
      cases steps
      exact Or.inl ⟨rfl, rfl⟩
  | senderRound index =>
      obtain ⟨task, -, steps⟩ := Option.bind_eq_some_iff.mp steps
      obtain ⟨sender, -, rfl⟩ := Option.map_eq_some_iff.mp steps
      exact Or.inl ⟨rfl, rfl⟩
  | senderWrote index writes =>
      obtain ⟨task, -, steps⟩ := Option.bind_eq_some_iff.mp steps
      obtain ⟨wrote, -, rfl⟩ := Option.map_eq_some_iff.mp steps
      exact Or.inl ⟨rfl, rfl⟩
  | onTrack =>
      obtain ⟨receiver, -, rfl⟩ := Option.map_eq_some_iff.mp steps
      exact Or.inl ⟨rfl, rfl⟩
  | receiverRound readRtp =>
      obtain ⟨received, -, rfl⟩ := Option.map_eq_some_iff.mp steps
      exact Or.inl ⟨rfl, rfl⟩
  | receiverSent taken =>
      obtain ⟨forwarded, -, rfl⟩ := Option.map_eq_some_iff.mp steps
      exact Or.inl ⟨rfl, rfl⟩
  | readRtcp =>
      cases steps
      exact Or.inl ⟨rfl, rfl⟩
  | tick index =>
      obtain ⟨task, -, steps⟩ := Option.bind_eq_some_iff.mp steps
      obtain ⟨-, steps⟩ := Option.ite_none_left_eq_some.mp steps
      cases running : task.running with
      | none =>
          rw [running] at steps
          cases steps
          exact Or.inl ⟨rfl, rfl⟩
      | some watchdog =>
          rw [running] at steps
          cases steps
          exact Or.inl ⟨rfl, rfl⟩

/-- Every ring holds the end of its capture stream, and every sender is paced by its own. -/
structure Pacing (peer : Peer capacity Frame Output Packet) : Prop where
  retains : ∀ input, (peer.inputs input).Retains (peer.captured input)
  paced : ∀ (index : ℕ) (task : SenderTask Frame), peer.senders[index]? = some task →
    task.sender.Paced (peer.captured task.input)

theorem Pacing.step {self next : Peer capacity Frame Output Packet}
    {move : Move Frame Output Packet} (pacing : self.Pacing)
    (steps : self.step move = some next) : next.Pacing where
  retains := fun input => by
    rcases captured_of_step steps input with ⟨ring, stream⟩ | ⟨frame, ring, stream⟩
    · rw [ring, stream]
      exact pacing.retains input
    · rw [ring, stream]
      exact (pacing.retains input).send frame
  paced := fun index task found => by
    have grown : ∀ {sender : Sender Frame} {input : ℕ}, sender.Paced (self.captured input) →
        sender.Paced (next.captured input) := by
      intro sender input paced
      rcases captured_of_step steps input with ⟨-, stream⟩ | ⟨frame, -, stream⟩
      · rw [stream]
        exact paced
      · rw [stream]
        exact paced.grow frame
    cases sender_of_step steps found with
    | same wasThere => exact grown (pacing.paced index task wasThere)
    | started input inputRx output isLast within isNew starts =>
        rw [(pacing.retains input).tail_eq] at within
        rw [isNew]
        exact grown (Sender.Paced.new within)
    | shutdown before wasThere held stopped =>
        rw [stopped]
        exact grown ((pacing.paced index before wasThere).of_eq rfl rfl rfl rfl rfl)
    | aborted before wasThere signalled stopped =>
        rw [stopped]
        exact grown ((pacing.paced index before wasThere).of_eq rfl rfl rfl rfl rfl)
    | round before sender wasThere changed rounds =>
        rw [changed]
        exact grown ((pacing.paced index before wasThere).round (pacing.retains _) rounds)
    | wrote before sender writes sent wasThere changed ends =>
        rw [changed]
        exact grown ((pacing.paced index before wasThere).wrote ends).1

theorem pacing_new : (new : Peer capacity Frame Output Packet).Pacing where
  retains := fun _ => .empty
  paced := fun _ _ found => absurd found (Option.some_ne_none _).symm

/-- **The samples of a peer keep the pace of its capture streams.** In every run, every sender
has written frames of its stream at increasing positions, each with the number of frames that
were lost in front of it, as long as that fits. While it does, the RTP clock after the samples
is where the stream is after the last of them; it is never ahead. -/
theorem samples_paced {moves : List (Move Frame Output Packet)}
    {final : Peer capacity Frame Output Packet} (runs : runMoves step new moves = some final)
    {index : ℕ} {task : SenderTask Frame} (found : final.senders[index]? = some task) :
    ∃ reached, Sender.Spaced task.sender.subscribed task.sender.written reached ∧
      (∀ sample ∈ task.sender.written,
        (final.captured task.input)[sample.position]? = some sample.data) ∧
      task.sender.subscribed + Sender.clock task.sender.written ≤ reached ∧
      ((∀ sample ∈ task.sender.written, sample.prevDroppedPackets < maxU16) →
        task.sender.subscribed + Sender.clock task.sender.written = reached) := by
  have pacing : final.Pacing :=
    runMoves_preserves (fun _ _ _ kept steps => Pacing.step kept steps) runs pacing_new
  have paced := pacing.paced index task found
  obtain ⟨reached, spaced, -⟩ := paced.spaced
  exact ⟨reached, spaced, paced.data, spaced.clock_le, spaced.clock_eq⟩

/-- A call whose sender falls behind a ring of two frames, fails to write one of the frames
that are left, and is left writing another; meanwhile no second packet comes in. -/
def laggedCall : List (Move ℕ ℕ ℕ) :=
  [.start 0 0 7, .capture 0 10, .capture 0 11, .capture 0 12, .senderRound 0, .senderRound 0,
    .senderWrote 0 false, .senderRound 0, .senderWrote 0 true, .onTrack, .receiverRound none,
    .receiverRound (some 5), .receiverSent true, .tick 0, .tick 0, .advance 5000, .tick 0,
    .capture 0 13, .senderRound 0]

theorem samples_paced_laggedCall : ∃ (final : Peer 2 ℕ ℕ ℕ) (task : SenderTask ℕ),
    task.sender.written = [⟨12, 2, 2⟩] ∧
    (∀ sample ∈ task.sender.written,
      (final.captured task.input)[sample.position]? = some sample.data) := by
  have runs : ∃ (final : Peer 2 ℕ ℕ ℕ) (task : SenderTask ℕ),
      runMoves step new laggedCall = some final ∧ final.senders[0]? = some task ∧
      task.sender.written = [⟨12, 2, 2⟩] := ⟨_, _, rfl, rfl, rfl⟩
  obtain ⟨final, task, runs, found, written⟩ := runs
  obtain ⟨reached, -, data, -⟩ := samples_paced runs found
  exact ⟨final, task, written, data⟩

/-! ## Watching -/

/-- The watchdog at an index, once it has begun. -/
def running (self : Peer capacity Frame Output Packet) (index : ℕ) : Option Watchdog :=
  (self.watchdogs[index]?).bind WatchdogTask.running

/-- A move that touches no reading. -/
structure LeavesReadings (before after : Peer capacity Frame Output Packet) : Prop where
  running : after.running = before.running
  reports : after.noInboundMedia = before.noInboundMedia
  now : before.now ≤ after.now

def WatchdogLive (peer : Peer capacity Frame Output Packet) (index : ℕ) : Prop :=
  ∃ task, peer.watchdogs[index]? = some task ∧ task.aborted = false

/-- A move leaves the readings alone, or is a tick or the first reading of a watchdog that was
not aborted. -/
inductive ReadingStep (self next : Peer capacity Frame Output Packet) : Prop where
  | leaves (leaves : LeavesReadings self next)
  | first (index : ℕ) (live : self.WatchdogLive index) (notBegun : self.running index = none)
      (begins : next.running = Function.update self.running index
        (some (.spawn ⟨self.now, self.inbound⟩)))
      (reports : next.noInboundMedia = self.noInboundMedia) (now : next.now = self.now)
  | tick (index : ℕ) (watchdog : Watchdog) (live : self.WatchdogLive index)
      (begun : self.running index = some watchdog)
      (ticks : next.running = Function.update self.running index
        (some (watchdog.tick ⟨self.now, self.inbound⟩).1))
      (reports : next.noInboundMedia =
        if (watchdog.tick ⟨self.now, self.inbound⟩).2 then self.noInboundMedia ++ [index]
        else self.noInboundMedia)
      (now : next.now = self.now)

theorem running_of_append (self : Peer capacity Frame Output Packet) :
    ({ self with watchdogs := self.watchdogs ++ [.spawned] } :
      Peer capacity Frame Output Packet).running = self.running := by
  funext index
  change ((self.watchdogs ++ [.spawned])[index]?).bind WatchdogTask.running = _
  by_cases inside : index < self.watchdogs.length
  · rw [List.getElem?_append_left inside, running]
  · have past : self.watchdogs[index]? = none :=
      List.getElem?_eq_none_iff.mpr (Nat.le_of_not_lt inside)
    rw [running, past, List.getElem?_append_right (Nat.le_of_not_lt inside)]
    cases index - self.watchdogs.length with
    | zero => rfl
    | succ more => rfl

theorem running_abortWatchdog (self : Peer capacity Frame Output Packet) :
    self.abortWatchdog.running = self.running := by
  funext index
  unfold abortWatchdog
  cases held : self.watchdog with
  | none => rfl
  | some touched =>
      change ((self.watchdogs.modify touched WatchdogTask.abort)[index]?).bind
        WatchdogTask.running = _
      rw [List.getElem?_modify, running]
      cases self.watchdogs[index]? with
      | none => rfl
      | some task =>
          change (if touched = index then task.abort else task).running = task.running
          split
          · rfl
          · rfl

theorem running_set {self : Peer capacity Frame Output Packet} {index : ℕ}
    {task : WatchdogTask} (found : self.watchdogs[index]? = some task) (value : WatchdogTask) :
    ({ self with watchdogs := self.watchdogs.set index value } :
      Peer capacity Frame Output Packet).running =
      Function.update self.running index value.running := by
  funext other
  change ((self.watchdogs.set index value)[other]?).bind WatchdogTask.running = _
  by_cases same : other = index
  · subst same
    have inside := (List.getElem?_eq_some_iff.mp found).1
    rw [List.getElem?_set_self inside, Function.update_self]
    rfl
  · rw [List.getElem?_set_ne (Ne.symm same), Function.update_of_ne same, running]

theorem readings_of_step {self next : Peer capacity Frame Output Packet}
    {move : Move Frame Output Packet} (steps : self.step move = some next) :
    ReadingStep self next := by
  cases move with
  | advance elapsed =>
      cases steps
      exact .leaves ⟨rfl, rfl, Nat.le_add_right _ _⟩
  | capture touched frame =>
      obtain ⟨-, steps⟩ := Option.ite_none_right_eq_some.mp steps
      cases steps
      exact .leaves ⟨rfl, rfl, Nat.le_refl _⟩
  | closeInput closed =>
      cases steps
      exact .leaves ⟨rfl, rfl, Nat.le_refl _⟩
  | start touched inputRx output =>
      rcases step_start steps with rfl | ⟨-, starts⟩
      · exact .leaves ⟨rfl, rfl, Nat.le_refl _⟩
      · rw [(start_eq_ok starts).2.2]
        exact .leaves ⟨running_of_append self, rfl, Nat.le_refl _⟩
  | pause =>
      obtain ⟨-, steps⟩ := Option.ite_none_right_eq_some.mp steps
      cases steps
      exact .leaves ⟨running_abortWatchdog self, rfl, Nat.le_refl _⟩
  | beginStop =>
      obtain ⟨-, steps⟩ := Option.ite_none_right_eq_some.mp steps
      cases steps
      exact .leaves ⟨running_abortWatchdog self, rfl, Nat.le_refl _⟩
  | endStop joined =>
      rcases endStop_cases steps with rfl | rfl
      · exact .leaves ⟨rfl, rfl, Nat.le_refl _⟩
      · exact .leaves ⟨rfl, rfl, Nat.le_refl _⟩
  | drop =>
      cases steps
      exact .leaves ⟨running_abortWatchdog self, rfl, Nat.le_refl _⟩
  | abortSender index =>
      obtain ⟨-, steps⟩ := Option.ite_none_right_eq_some.mp steps
      cases steps
      exact .leaves ⟨rfl, rfl, Nat.le_refl _⟩
  | senderRound index =>
      obtain ⟨task, -, steps⟩ := Option.bind_eq_some_iff.mp steps
      obtain ⟨sender, -, rfl⟩ := Option.map_eq_some_iff.mp steps
      exact .leaves ⟨rfl, rfl, Nat.le_refl _⟩
  | senderWrote index writes =>
      obtain ⟨task, -, steps⟩ := Option.bind_eq_some_iff.mp steps
      obtain ⟨wrote, -, rfl⟩ := Option.map_eq_some_iff.mp steps
      exact .leaves ⟨rfl, rfl, Nat.le_refl _⟩
  | onTrack =>
      obtain ⟨receiver, -, rfl⟩ := Option.map_eq_some_iff.mp steps
      exact .leaves ⟨rfl, rfl, Nat.le_refl _⟩
  | receiverRound readRtp =>
      obtain ⟨received, -, rfl⟩ := Option.map_eq_some_iff.mp steps
      exact .leaves ⟨rfl, rfl, Nat.le_refl _⟩
  | receiverSent taken =>
      obtain ⟨forwarded, -, rfl⟩ := Option.map_eq_some_iff.mp steps
      exact .leaves ⟨rfl, rfl, Nat.le_refl _⟩
  | readRtcp =>
      cases steps
      exact .leaves ⟨rfl, rfl, Nat.le_refl _⟩
  | tick index =>
      obtain ⟨task, found, steps⟩ := Option.bind_eq_some_iff.mp steps
      obtain ⟨unaborted, steps⟩ := Option.ite_none_left_eq_some.mp steps
      have live : self.WatchdogLive index := ⟨task, found, Bool.eq_false_iff.mpr unaborted⟩
      cases begun : task.running with
      | none =>
          rw [begun] at steps
          cases steps
          refine .first index live ?_ (running_set found _) rfl rfl
          rw [running, found]
          exact begun
      | some watchdog =>
          rw [begun] at steps
          cases steps
          refine .tick index watchdog live ?_ (running_set found _) rfl rfl
          rw [running, found]
          exact begun

/-- Every watchdog knows its readings, and those that have fired are those that reported. -/
structure Watching (peer : Peer capacity Frame Output Packet) : Prop where
  watches : ∀ (index : ℕ) (watchdog : Watchdog), peer.running index = some watchdog →
    watchdog.Watches peer.now
  nodup : peer.noInboundMedia.Nodup
  mem_iff : ∀ index, index ∈ peer.noInboundMedia ↔
    ∃ watchdog, peer.running index = some watchdog ∧ watchdog.fired = true

theorem Watching.step {self next : Peer capacity Frame Output Packet}
    {move : Move Frame Output Packet} (watching : self.Watching)
    (steps : self.step move = some next) : next.Watching := by
  cases readings_of_step steps with
  | leaves leaves =>
      refine ⟨fun index watchdog begun => ?_, leaves.reports ▸ watching.nodup, ?_⟩
      · rw [leaves.running] at begun
        exact (watching.watches index watchdog begun).later leaves.now
      · rw [leaves.running, leaves.reports]
        exact watching.mem_iff
  | first index live notBegun begins reports now =>
      refine ⟨fun other watchdog begun => ?_, reports ▸ watching.nodup, fun other => ?_⟩
      · rw [begins] at begun
        rw [now]
        by_cases same : other = index
        · rw [same, Function.update_self] at begun
          cases begun
          exact .spawn _
        · rw [Function.update_of_ne same] at begun
          exact watching.watches other watchdog begun
      · rw [reports, watching.mem_iff, begins]
        by_cases same : other = index
        · rw [same, Function.update_self, notBegun]
          constructor
          · rintro ⟨watchdog, begun, -⟩
            cases begun
          · rintro ⟨watchdog, ⟨⟩, fired⟩
            cases fired
        · rw [Function.update_of_ne same]
  | tick index watchdog live begun ticks reports now =>
      have watches := watching.watches index watchdog begun
      have reported := watchdog.tick_reports ⟨self.now, self.inbound⟩
      have fresh : index ∈ self.noInboundMedia ↔ watchdog.fired = true := by
        rw [watching.mem_iff, begun]
        refine ⟨?_, fun fired => ⟨watchdog, rfl, fired⟩⟩
        rintro ⟨_, ⟨⟩, fired⟩
        exact fired
      refine ⟨fun other changed after => ?_, ?_, fun other => ?_⟩
      · rw [ticks] at after
        rw [now]
        by_cases same : other = index
        · rw [same, Function.update_self] at after
          cases after
          exact watches.tick self.inbound
        · rw [Function.update_of_ne same] at after
          exact watching.watches other changed after
      · rw [reports]
        split
        · next fires =>
            rw [reported, Bool.and_eq_true, Bool.not_eq_true'] at fires
            refine List.nodup_append.mpr ⟨watching.nodup, List.nodup_singleton _, ?_⟩
            rintro other isOld _ isNew rfl
            rw [List.mem_singleton.mp isNew, fresh, fires.1] at isOld
            cases isOld
        · exact watching.nodup
      · have listed : other ∈ next.noInboundMedia ↔ other ∈ self.noInboundMedia ∨
            other = index ∧ (watchdog.tick ⟨self.now, self.inbound⟩).2 = true := by
          rw [reports]
          split
          · next fires => rw [List.mem_append, List.mem_singleton, and_iff_left fires]
          · next silent => rw [or_iff_left fun both => silent both.2]
        rw [listed, ticks]
        by_cases same : other = index
        · rw [same, fresh, Function.update_self, reported]
          constructor
          · rintro (fired | ⟨-, fires⟩)
            · exact ⟨_, rfl, Watchdog.fired_tick fired _⟩
            · exact ⟨_, rfl, (Bool.and_eq_true_iff.mp fires).2⟩
          · rintro ⟨_, ⟨⟩, fires⟩
            cases fired : watchdog.fired with
            | true => exact Or.inl rfl
            | false => exact Or.inr ⟨rfl, by rw [fires]; rfl⟩
        · rw [Function.update_of_ne same, watching.mem_iff]
          exact or_iff_left fun both => same both.1

theorem watching_new : (new : Peer capacity Frame Output Packet).Watching where
  watches := fun _ _ begun => absurd begun (Option.some_ne_none _).symm
  nodup := List.nodup_nil
  mem_iff := fun index => by
    refine ⟨fun isListed => absurd isListed List.not_mem_nil, ?_⟩
    rintro ⟨watchdog, begun, -⟩
    cases begun

/-- Whatever was not told to stop is what the peer holds on to. -/
structure Held (peer : Peer capacity Frame Output Packet) : Prop where
  signalled : ∀ (index : ℕ) (task : SenderTask Frame), peer.senders[index]? = some task →
    task.sender.shutdownSignalled = true ∨ peer.sender = some index
  aborted : ∀ (index : ℕ) (task : WatchdogTask), peer.watchdogs[index]? = some task →
    task.aborted = true ∨ peer.watchdog = some index
  receiver : peer.receiverHeld = true ∨ peer.receiver.shutdownSignalled = true
  together : peer.sender = none → peer.watchdog = none

/-- A peer that holds neither a sender nor a watchdog, and whose receiver is silent. -/
structure Halted (peer : Peer capacity Frame Output Packet) : Prop where
  held : peer.Held
  sender : peer.sender = none
  watchdog : peer.watchdog = none
  silent : peer.receiver.Silent

theorem held_new : (new : Peer capacity Frame Output Packet).Held where
  signalled := fun _ _ found => absurd found (Option.some_ne_none _).symm
  aborted := fun _ _ found => absurd found (Option.some_ne_none _).symm
  receiver := Or.inl rfl
  together := fun _ => rfl

theorem shutdownSignalled_receiverRound {self next : Receiver Output Packet}
    {readRtp : Option Packet} {count : ℕ} (rounds : self.round readRtp = some (next, count)) :
    next.shutdownSignalled = self.shutdownSignalled := by
  obtain ⟨-, ⟨rfl, -⟩ | ⟨rfl, -⟩ | ⟨-, -, packet, -, -, rfl⟩⟩ := Receiver.round_cases rounds
  · rfl
  · rfl
  · rfl

theorem shutdownSignalled_receiverSent {self next : Receiver Output Packet} {taken : Bool}
    {count : ℕ} (sends : self.sent taken = some (next, count)) :
    next.shutdownSignalled = self.shutdownSignalled := by
  obtain ⟨packet, -, ⟨rfl, -⟩ | ⟨rfl, -⟩⟩ := Receiver.sent_cases sends
  · rfl
  · rfl

theorem shutdownSignalled_round {self next : Sender Frame} {input : BroadcastRing capacity Frame}
    {inputOpen : Bool} (rounds : self.round input inputOpen = some next) :
    next.shutdownSignalled = self.shutdownSignalled := by
  unfold Sender.round at rounds
  split at rounds
  · cases rounds
  split at rounds
  · cases rounds
    rfl
  split at rounds
  · cases rounds
    rfl
  · cases rounds
    rfl
  · split at rounds
    · cases rounds
    · cases rounds
      rfl

theorem Held.shutdownSender {self : Peer capacity Frame Output Packet} (held : self.Held)
    {index : ℕ} {task : SenderTask Frame}
    (found : self.shutdownSender.senders[index]? = some task) :
    task.sender.shutdownSignalled = true := by
  unfold Peer.shutdownSender at found
  cases isHeld : self.sender with
  | none =>
      rw [isHeld] at found
      refine (held.signalled index task found).resolve_right fun same => ?_
      rw [isHeld] at same
      cases same
  | some touched =>
      rw [isHeld] at found
      rcases getElem?_modify_some found with ⟨different, wasThere⟩ | ⟨before, -, -, rfl⟩
      · refine (held.signalled index task wasThere).resolve_right fun same => different ?_
        exact (Option.some.inj (isHeld.symm.trans same)).symm
      · rfl

theorem Held.abortWatchdog {self : Peer capacity Frame Output Packet} (held : self.Held)
    {index : ℕ} {task : WatchdogTask}
    (found : self.abortWatchdog.watchdogs[index]? = some task) : task.aborted = true := by
  unfold Peer.abortWatchdog at found
  cases isHeld : self.watchdog with
  | none =>
      rw [isHeld] at found
      refine (held.aborted index task found).resolve_right fun same => ?_
      rw [isHeld] at same
      cases same
  | some touched =>
      rw [isHeld] at found
      rcases getElem?_modify_some found with ⟨different, wasThere⟩ | ⟨before, -, -, rfl⟩
      · refine (held.aborted index task wasThere).resolve_right fun same => different ?_
        exact (Option.some.inj (isHeld.symm.trans same)).symm
      · rfl

/-- Whatever a move leaves running is held, also after the move. -/
theorem Held.of_running {self next : Peer capacity Frame Output Packet} (held : self.Held)
    (senders : next.senders = self.senders) (sender : next.sender = self.sender)
    (watchdogs : next.watchdogs = self.watchdogs) (watchdog : next.watchdog = self.watchdog)
    (receiver : next.receiverHeld = true ∨ next.receiver.shutdownSignalled = true) :
    next.Held where
  together := by
    rw [sender, watchdog]
    exact held.together
  signalled := by
    rw [senders, sender]
    exact held.signalled
  aborted := by
    rw [watchdogs, watchdog]
    exact held.aborted
  receiver := receiver

/-- A sender task is replaced by one that was told to stop if the first one was. -/
theorem Held.of_set {self next : Peer capacity Frame Output Packet} (held : self.Held)
    {touched : ℕ} {before : SenderTask Frame} (wasThere : self.senders[touched]? = some before)
    {sender : Sender Frame} (kept : sender.shutdownSignalled = before.sender.shutdownSignalled)
    (senders : next.senders = self.senders.set touched { before with sender := sender })
    (isHeld : next.sender = self.sender) (watchdogs : next.watchdogs = self.watchdogs)
    (watchdog : next.watchdog = self.watchdog) (receiverHeld : next.receiverHeld = self.receiverHeld)
    (receiver : next.receiver = self.receiver) : next.Held where
  together := by
    rw [isHeld, watchdog]
    exact held.together
  signalled := fun index task found => by
    rw [senders] at found
    rw [isHeld]
    rcases getElem?_set_some found with ⟨rfl, rfl⟩ | ⟨-, same⟩
    · exact (held.signalled index before wasThere).imp kept.trans id
    · exact held.signalled index task same
  aborted := by
    rw [watchdogs, watchdog]
    exact held.aborted
  receiver := by
    rw [receiverHeld, receiver]
    exact held.receiver

theorem Held.release {self : Peer capacity Frame Output Packet} (held : self.Held) :
    self.abortWatchdog.shutdownSender.Held where
  signalled := fun index task found => by
    have kept : self.abortWatchdog.Held :=
      ⟨held.signalled, fun index task found => Or.inl (held.abortWatchdog found),
        held.receiver, fun _ => rfl⟩
    exact Or.inl (kept.shutdownSender found)
  aborted := fun index task found => Or.inl (held.abortWatchdog found)
  receiver := held.receiver
  together := fun _ => rfl

theorem Held.shutdownReceiver {self : Peer capacity Frame Output Packet} (held : self.Held) :
    self.shutdownReceiver.Held := by
  refine held.of_running rfl rfl rfl rfl (Or.inr ?_)
  unfold Peer.shutdownReceiver
  cases isHeld : self.receiverHeld with
  | true => rfl
  | false => exact held.receiver.resolve_left (by rw [isHeld]; exact Bool.false_ne_true)

theorem Held.pause {self : Peer capacity Frame Output Packet} (held : self.Held) :
    self.pause.Held := by
  refine held.release.of_running rfl rfl rfl rfl ?_
  unfold Peer.pause
  cases isHeld : self.receiverHeld with
  | true => exact Or.inl isHeld
  | false => exact Or.inr (held.receiver.resolve_left (by rw [isHeld]; exact Bool.false_ne_true))

theorem Held.step {self next : Peer capacity Frame Output Packet}
    {move : Move Frame Output Packet} (held : self.Held) (steps : self.step move = some next) :
    next.Held := by
  cases move with
  | advance elapsed =>
      cases steps
      exact held.of_running rfl rfl rfl rfl held.receiver
  | capture touched frame =>
      obtain ⟨-, steps⟩ := Option.ite_none_right_eq_some.mp steps
      cases steps
      exact held.of_running rfl rfl rfl rfl held.receiver
  | closeInput closed =>
      cases steps
      exact held.of_running rfl rfl rfl rfl held.receiver
  | start touched inputRx output =>
      rcases step_start steps with rfl | ⟨-, starts⟩
      · exact held
      · obtain ⟨noSender, isHeld, rfl⟩ := start_eq_ok starts
        have noWatchdog := held.together noSender
        refine ⟨fun index task found => ?_, fun index task found => ?_, Or.inl isHeld,
          fun none => absurd none (Option.some_ne_none _)⟩
        · rcases getElem?_concat_some found with wasThere | ⟨isLast, -⟩
          · exact Or.inl ((held.signalled index task wasThere).resolve_right
              fun same => absurd (noSender.symm.trans same) (Option.some_ne_none _).symm)
          · exact Or.inr (congrArg some isLast.symm)
        · rcases getElem?_concat_some found with wasThere | ⟨isLast, -⟩
          · exact Or.inl ((held.aborted index task wasThere).resolve_right
              fun same => absurd (noWatchdog.symm.trans same) (Option.some_ne_none _).symm)
          · exact Or.inr (congrArg some isLast.symm)
  | pause =>
      obtain ⟨-, steps⟩ := Option.ite_none_right_eq_some.mp steps
      cases steps
      exact held.pause
  | beginStop =>
      obtain ⟨-, steps⟩ := Option.ite_none_right_eq_some.mp steps
      cases steps
      exact held.release.of_running rfl rfl rfl rfl held.receiver
  | endStop joined =>
      rcases endStop_cases steps with rfl | rfl
      · exact held.of_running rfl rfl rfl rfl held.receiver
      · have kept : ({ self with stopping := none } : Peer capacity Frame Output Packet).Held :=
          held.of_running rfl rfl rfl rfl held.receiver
        exact kept.shutdownReceiver
  | drop =>
      cases steps
      have kept := held.release.shutdownReceiver
      exact kept.of_running rfl rfl rfl rfl kept.receiver
  | abortSender touched =>
      obtain ⟨-, steps⟩ := Option.ite_none_right_eq_some.mp steps
      cases steps
      refine ⟨fun index task found => ?_, held.aborted, held.receiver, held.together⟩
      rcases getElem?_modify_some found with ⟨-, wasThere⟩ | ⟨before, wasThere, -, rfl⟩
      · exact held.signalled index task wasThere
      · exact held.signalled index before wasThere
  | senderRound touched =>
      obtain ⟨before, wasThere, steps⟩ := Option.bind_eq_some_iff.mp steps
      obtain ⟨sender, rounds, rfl⟩ := Option.map_eq_some_iff.mp steps
      exact held.of_set wasThere (shutdownSignalled_round rounds) rfl rfl rfl rfl rfl rfl
  | senderWrote touched writes =>
      obtain ⟨before, wasThere, steps⟩ := Option.bind_eq_some_iff.mp steps
      obtain ⟨⟨sender, sent⟩, ends, rfl⟩ := Option.map_eq_some_iff.mp steps
      have kept : sender.shutdownSignalled = before.sender.shutdownSignalled := by
        obtain ⟨sample, -, ⟨rfl, -⟩ | ⟨rfl, -⟩⟩ := Sender.wrote_cases ends
        · rfl
        · rfl
      exact held.of_set wasThere kept rfl rfl rfl rfl rfl rfl
  | onTrack =>
      obtain ⟨receiver, begins, rfl⟩ := Option.map_eq_some_iff.mp steps
      refine held.of_running rfl rfl rfl rfl (held.receiver.imp id fun signalled => ?_)
      rw [Receiver.onTrack_eq begins]
      exact signalled
  | receiverRound readRtp =>
      obtain ⟨⟨receiver, received⟩, rounds, rfl⟩ := Option.map_eq_some_iff.mp steps
      exact held.of_running rfl rfl rfl rfl
        (held.receiver.imp id (shutdownSignalled_receiverRound rounds).trans)
  | receiverSent taken =>
      obtain ⟨⟨receiver, forwarded⟩, sends, rfl⟩ := Option.map_eq_some_iff.mp steps
      exact held.of_running rfl rfl rfl rfl
        (held.receiver.imp id (shutdownSignalled_receiverSent sends).trans)
  | readRtcp =>
      cases steps
      exact held.of_running rfl rfl rfl rfl held.receiver
  | tick touched =>
      obtain ⟨before, wasThere, steps⟩ := Option.bind_eq_some_iff.mp steps
      obtain ⟨-, steps⟩ := Option.ite_none_left_eq_some.mp steps
      -- an unaborted task stays unaborted, and is still the held one
      have kept : ∀ running index task,
          (self.watchdogs.set touched { before with running := running })[index]? = some task →
          task.aborted = true ∨ self.watchdog = some index := by
        intro running index task found
        rcases getElem?_set_some found with ⟨rfl, rfl⟩ | ⟨-, same⟩
        · exact held.aborted index before wasThere
        · exact held.aborted index task same
      cases begun : before.running with
      | none =>
          rw [begun] at steps
          cases steps
          exact ⟨held.signalled, kept _, held.receiver, held.together⟩
      | some watchdog =>
          rw [begun] at steps
          cases steps
          exact ⟨held.signalled, kept _, held.receiver, held.together⟩

/-- A move that starts the peer. -/
def Move.starts : Move Frame Output Packet → Bool
  | .start _ _ _ => true
  | _ => false

/-- A halted peer stays halted until it is started, and its receiver forwards nothing but the
packet that was on its way. -/
theorem Halted.step {before : Receiver Output Packet} {self next : Peer capacity Frame Output Packet}
    {move : Move Frame Output Packet} (halted : self.Halted) (since : before.Since self.receiver)
    (noStart : move.starts = false) (steps : self.step move = some next) :
    next.Halted ∧ before.Since next.receiver := by
  have held := halted.held.step steps
  have stays : ∀ {receiver : Receiver Output Packet}, next.receiver = receiver →
      next.sender = none → next.watchdog = none → receiver.Silent ∧ before.Since receiver →
      next.Halted ∧ before.Since next.receiver := by
    rintro receiver rfl sender watchdog ⟨silent, kept⟩
    exact ⟨⟨held, sender, watchdog, silent⟩, kept⟩
  have shutdown : ∀ {peer : Peer capacity Frame Output Packet}, peer.receiver = self.receiver →
      peer.shutdownReceiver.receiver.Silent ∧ before.Since peer.shutdownReceiver.receiver := by
    intro peer same
    unfold Peer.shutdownReceiver
    rw [same]
    cases peer.receiverHeld with
    | true => exact ⟨Or.inl rfl, since⟩
    | false => exact ⟨halted.silent, since⟩
  cases move with
  | start touched inputRx output => cases noStart
  | advance elapsed =>
      cases steps
      exact stays rfl halted.sender halted.watchdog ⟨halted.silent, since⟩
  | capture touched frame =>
      obtain ⟨-, steps⟩ := Option.ite_none_right_eq_some.mp steps
      cases steps
      exact stays rfl halted.sender halted.watchdog ⟨halted.silent, since⟩
  | closeInput closed =>
      cases steps
      exact stays rfl halted.sender halted.watchdog ⟨halted.silent, since⟩
  | pause =>
      obtain ⟨-, steps⟩ := Option.ite_none_right_eq_some.mp steps
      cases steps
      refine stays rfl rfl rfl ?_
      unfold Peer.pause
      cases self.receiverHeld with
      | true => exact ⟨self.receiver.silent_pause, since⟩
      | false => exact ⟨halted.silent, since⟩
  | beginStop =>
      obtain ⟨-, steps⟩ := Option.ite_none_right_eq_some.mp steps
      cases steps
      exact stays rfl rfl rfl ⟨halted.silent, since⟩
  | endStop joined =>
      rcases endStop_cases steps with rfl | rfl
      · exact stays rfl halted.sender halted.watchdog ⟨halted.silent, since⟩
      · exact stays rfl halted.sender halted.watchdog (shutdown rfl)
  | drop =>
      cases steps
      exact stays rfl rfl rfl (shutdown rfl)
  | abortSender touched =>
      obtain ⟨-, steps⟩ := Option.ite_none_right_eq_some.mp steps
      cases steps
      exact stays rfl halted.sender halted.watchdog ⟨halted.silent, since⟩
  | senderRound touched =>
      obtain ⟨task, -, steps⟩ := Option.bind_eq_some_iff.mp steps
      obtain ⟨sender, -, rfl⟩ := Option.map_eq_some_iff.mp steps
      exact stays rfl halted.sender halted.watchdog ⟨halted.silent, since⟩
  | senderWrote touched writes =>
      obtain ⟨task, -, steps⟩ := Option.bind_eq_some_iff.mp steps
      obtain ⟨wrote, -, rfl⟩ := Option.map_eq_some_iff.mp steps
      exact stays rfl halted.sender halted.watchdog ⟨halted.silent, since⟩
  | onTrack =>
      obtain ⟨receiver, begins, rfl⟩ := Option.map_eq_some_iff.mp steps
      refine stays rfl halted.sender halted.watchdog ⟨halted.silent.onTrack begins, ?_⟩
      rw [Receiver.onTrack_eq begins]
      exact since
  | receiverRound readRtp =>
      obtain ⟨⟨receiver, received⟩, rounds, rfl⟩ := Option.map_eq_some_iff.mp steps
      exact stays rfl halted.sender halted.watchdog (halted.silent.round since rounds)
  | receiverSent taken =>
      obtain ⟨⟨receiver, forwarded⟩, sends, rfl⟩ := Option.map_eq_some_iff.mp steps
      exact stays rfl halted.sender halted.watchdog (halted.silent.sent since sends)
  | readRtcp =>
      cases steps
      exact stays rfl halted.sender halted.watchdog ⟨halted.silent, since⟩
  | tick touched =>
      obtain ⟨task, -, steps⟩ := Option.bind_eq_some_iff.mp steps
      obtain ⟨-, steps⟩ := Option.ite_none_left_eq_some.mp steps
      cases begun : task.running with
      | none =>
          rw [begun] at steps
          cases steps
          exact stays rfl halted.sender halted.watchdog ⟨halted.silent, since⟩
      | some watchdog =>
          rw [begun] at steps
          cases steps
          exact stays rfl halted.sender halted.watchdog ⟨halted.silent, since⟩

/-- What has come out of a peer since a moment: in each direction at most what was on its way,
and no report. -/
structure Quiet (before after : Peer capacity Frame Output Packet) : Prop where
  received : before.receiver.Since after.receiver
  sent : ∀ (index : ℕ) (task : SenderTask Frame), after.senders[index]? = some task →
    ∃ earlier, before.senders[index]? = some earlier ∧ earlier.sender.Since task.sender
  reports : after.noInboundMedia = before.noInboundMedia

theorem Quiet.step {before self next : Peer capacity Frame Output Packet}
    {move : Move Frame Output Packet} (quiet : before.Quiet self) (halted : self.Halted)
    (pacing : self.Pacing) (noStart : move.starts = false) (steps : self.step move = some next) :
    before.Quiet next where
  received := (halted.step quiet.received noStart steps).2
  sent := fun index task found => by
    cases sender_of_step steps found with
    | same wasThere => exact quiet.sent index task wasThere
    | started input inputRx output isLast within isNew starts =>
        have isSender := congrArg Peer.sender (start_eq_ok starts).2.2
        rw [(halted.step quiet.received noStart steps).1.sender] at isSender
        cases isSender
    | shutdown before wasThere held stopped =>
        rw [stopped]
        exact quiet.sent index before wasThere
    | aborted before wasThere signalled stopped =>
        rw [stopped]
        exact quiet.sent index before wasThere
    | round before sender wasThere changed rounds =>
        obtain ⟨earlier, isEarlier, since⟩ := quiet.sent index before wasThere
        have signalled : before.sender.shutdownSignalled = true := by
          refine (halted.held.signalled index before wasThere).resolve_right fun isHeld => ?_
          rw [halted.sender] at isHeld
          cases isHeld
        rw [changed]
        exact ⟨earlier, isEarlier, since.round (pacing.paced index before wasThere)
          (pacing.retains _) signalled rounds⟩
    | wrote before sender writes sent wasThere changed ends =>
        obtain ⟨earlier, isEarlier, since⟩ := quiet.sent index before wasThere
        rw [changed]
        exact ⟨earlier, isEarlier, since.wrote ends⟩
  reports := by
    have noneLive : ∀ index, ¬ self.WatchdogLive index := by
      rintro index ⟨task, found, live⟩
      rcases halted.held.aborted index task found with aborted | isHeld
      · rw [live] at aborted
        cases aborted
      · rw [halted.watchdog] at isHeld
        cases isHeld
    cases readings_of_step steps with
    | leaves leaves => exact leaves.reports.trans quiet.reports
    | first index live notBegun begins reports now => exact absurd live (noneLive index)
    | tick index watchdog live begun ticks reports now => exact absurd live (noneLive index)

theorem Halted.pause {self : Peer capacity Frame Output Packet} (held : self.Held) :
    self.pause.Halted := by
  refine ⟨held.pause, rfl, rfl, ?_⟩
  unfold Peer.pause
  cases isHeld : self.receiverHeld with
  | true => exact self.receiver.silent_pause
  | false => exact Or.inl (held.receiver.resolve_left (by rw [isHeld]; exact Bool.false_ne_true))

/-- **A pause takes effect in both directions.** From a pause on, until the peer is started
again, nothing more is written or forwarded than what was on its way, whatever the tasks, the
connection and the capture streams do, and nothing is reported. -/
theorem pause_silences {earlier later : List (Move Frame Output Packet)}
    {self paused final : Peer capacity Frame Output Packet}
    (reaches : runMoves step new earlier = some self) (pauses : self.step .pause = some paused)
    (noStart : Guarded step (fun _ move => move.starts = false) paused later)
    (runs : runMoves step paused later = some final) : paused.Quiet final := by
  have held : self.Held :=
    runMoves_preserves (fun _ _ _ kept steps => Held.step kept steps) reaches held_new
  have pacing : self.Pacing :=
    runMoves_preserves (fun _ _ _ kept steps => Pacing.step kept steps) reaches pacing_new
  have halted : paused.Halted := by
    obtain ⟨-, isPaused⟩ := Option.ite_none_right_eq_some.mp pauses
    cases isPaused
    exact Halted.pause held
  let Stays (state : Peer capacity Frame Output Packet) : Prop :=
    state.Halted ∧ state.Pacing ∧ paused.Quiet state
  have kept : ∀ state move next, Stays state → move.starts = false →
      state.step move = some next → Stays next := by
    rintro state move next ⟨halted, pacing, quiet⟩ noStart steps
    exact ⟨(halted.step quiet.received noStart steps).1, pacing.step steps,
      quiet.step halted pacing noStart steps⟩
  have begun : paused.Quiet paused :=
    ⟨Or.inl ⟨rfl, Or.inl rfl⟩, fun _ task found => ⟨task, found, Or.inl ⟨rfl, Or.inl rfl⟩⟩, rfl⟩
  exact (Guarded.preserves kept noStart runs ⟨halted, pacing.step pauses, begun⟩).2.2

theorem pause_silences_laggedCall : ∃ paused final : Peer 2 ℕ ℕ ℕ,
    paused.Quiet final ∧ final.receiver.forwarded = [(7, 5)] ∧
    (final.senders.map fun task => task.sender.written) = [[⟨12, 2, 2⟩, ⟨13, 0, 3⟩]] := by
  have noStart : ∀ paused : Peer 2 ℕ ℕ ℕ, Guarded step (fun _ move => move.starts = false) paused
      [.senderWrote 0 true, .receiverRound (some 6), .receiverRound (some 6)] :=
    fun _ => ⟨rfl, fun _ _ => ⟨rfl, fun _ _ => ⟨rfl, fun _ _ => trivial⟩⟩⟩
  have runs : ∃ self paused final : Peer 2 ℕ ℕ ℕ, runMoves step new laggedCall = some self ∧
      self.step .pause = some paused ∧ runMoves step paused
        [.senderWrote 0 true, .receiverRound (some 6), .receiverRound (some 6)] = some final ∧
      final.receiver.forwarded = [(7, 5)] ∧
      (final.senders.map fun task => task.sender.written) = [[⟨12, 2, 2⟩, ⟨13, 0, 3⟩]] :=
    ⟨_, _, _, rfl, rfl, rfl, rfl, rfl⟩
  obtain ⟨self, paused, final, reaches, pauses, continues, forwarded, written⟩ := runs
  exact ⟨paused, final, pause_silences reaches pauses (noStart paused) continues, forwarded,
    written⟩

end Peer

end Media

end Vacs
