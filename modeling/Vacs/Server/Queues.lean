import Mathlib.Logic.Function.Basic
import Vacs.Foundations.BoundedChannels
import Vacs.Foundations.GuardedRuns
import Vacs.Protocol.Identifiers

/-!
# The message queues of the sessions

Every session has a bounded queue for what others send to its client, and another one for
what the writer task still has to send over the socket. Its loop takes up a message of the
client if there is one, and otherwise forwards one message from the first queue to the
second. Handlers, registrations, unregistrations and syncs send to the first queues and wait
when they are full.

A session that handles a message does not forward, so it never gets past a message to itself
when its own queue is full (`listClientsBurst_stalls`). A session is held up when it waits for its
writer, or when its handler has to send next to a session whose queue is full. As long as no
task finds the full queue of a session that is held up, and no session finds the queue of its
writer full while others are parked on its own, nobody awaits itself, and nobody but its own
tasks awaits a client (`run_unstalled`).

What the tasks wait for besides is left out: locks, and the reader task. Sessions do not end.
-/

set_option autoImplicit false

namespace Vacs

def clientChannelCapacity : ℕ := 100

def clientWebsocketTaskChannelCapacity : ℕ := 100

/-- Who sends to the queue of a session: a session, which is handling a message, or a
registration, unregistration or sync. -/
inductive Sender where
  | session (clientId : ClientId)
  | background (task : ℕ)
deriving DecidableEq

/-- Who sends to the writer task of a session. -/
inductive SocketSender where
  | session
  | ping
deriving DecidableEq

/-- A message of a client. Who is told about a message that concerns a call depends on the
call, so the message comes with its recipients. A login or an error is ignored. -/
inductive SessionRequest where
  | listClients
  | listStations
  | call (recipients : List ClientId)
  | ignored

/-- The clients that the handler of a message sends to. -/
def SessionRequest.recipients (clientId : ClientId) : SessionRequest → List ClientId
  | .listClients => [clientId]
  | .listStations => [clientId]
  | .call recipients => recipients
  | .ignored => []

inductive SessionActivity where
  | idle
  /-- A handler still has to send to these clients. -/
  | handling (remaining : List ClientId)
  /-- A message waits for the writer task. -/
  | forwarding

structure SessionQueues where
  inbound : List SessionRequest
  direct : Channel clientChannelCapacity Sender
  outbound : Channel clientWebsocketTaskChannelCapacity SocketSender
  activity : SessionActivity

/-- All sessions, and whom the tasks in the background still have to send to. -/
structure ServerQueues where
  sessions : ClientId → SessionQueues
  background : ℕ → List ClientId

inductive QueueMove where
  /-- A client sends a message. -/
  | arrive (clientId : ClientId) (request : SessionRequest)
  /-- A session takes up a message of its client. -/
  | takeUp (clientId : ClientId)
  /-- A registration, unregistration or sync starts to send. -/
  | start (task : ℕ) (recipients : List ClientId)
  | send (sender : Sender)
  /-- A handler is done. -/
  | finish (clientId : ClientId)
  /-- A session forwards a message from its queue. -/
  | forward (clientId : ClientId)
  /-- A session passes a broadcast on. -/
  | relay (clientId : ClientId)
  | ping (clientId : ClientId)
  /-- The client reads a message from its socket. -/
  | read (clientId : ClientId)

/-! ## Steps -/

namespace SessionQueues

def new : SessionQueues where
  inbound := []
  direct := .empty
  outbound := .empty
  activity := .idle

/-- The session is in its loop, and the client has sent nothing. -/
def isWaiting (self : SessionQueues) : Bool :=
  match self.activity, self.inbound with
  | .idle, [] => true
  | _, _ => false

/-- Send to the writer task, or wait for it. -/
def sendMessage (self : SessionQueues) (sender : SocketSender) : SessionQueues :=
  if self.outbound.hasRoom then { self with outbound := self.outbound.push }
  else
    { self with
      outbound := self.outbound.park sender
      activity := match sender with
        | .session => .forwarding
        | .ping => self.activity }

theorem sendMessage_of_room {self : SessionQueues} (room : self.outbound.hasRoom = true)
    (sender : SocketSender) :
    self.sendMessage sender = { self with outbound := self.outbound.push } :=
  if_pos room

theorem outbound_sendMessage {self : SessionQueues} (noRoom : self.outbound.hasRoom = false)
    (sender : SocketSender) : (self.sendMessage sender).outbound = self.outbound.park sender := by
  simp [sendMessage, noRoom]

theorem idle_of_isWaiting {self : SessionQueues} (waits : self.isWaiting = true) :
    self.activity = .idle := by
  unfold isWaiting at waits
  split at waits
  · assumption
  · cases waits

theorem direct_sendMessage (self : SessionQueues) (sender : SocketSender) :
    (self.sendMessage sender).direct = self.direct := by
  unfold sendMessage
  split <;> rfl

end SessionQueues

namespace ServerQueues

def start : ServerQueues where
  sessions := fun _ => .new
  background := fun _ => []

def setSession (state : ServerQueues) (clientId : ClientId) (session : SessionQueues) :
    ServerQueues :=
  { state with sessions := Function.update state.sessions clientId session }

@[simp] theorem sessions_setSession_self (state : ServerQueues) (clientId : ClientId)
    (session : SessionQueues) : (state.setSession clientId session).sessions clientId = session :=
  Function.update_self ..

theorem sessions_setSession_of_ne {state : ServerQueues} {other clientId : ClientId}
    {session : SessionQueues} (differs : other ≠ clientId) :
    (state.setSession clientId session).sessions other = state.sessions other :=
  Function.update_of_ne differs ..

@[simp] theorem setSession_setSession (state : ServerQueues) (clientId : ClientId)
    (earlier later : SessionQueues) :
    (state.setSession clientId earlier).setSession clientId later =
      state.setSession clientId later := by
  unfold setSession
  rw [Function.update_idem]

/-- Whom a task still has to send to. -/
def remaining (state : ServerQueues) : Sender → List ClientId
  | .session clientId =>
      match (state.sessions clientId).activity with
      | .handling remaining => remaining
      | .idle | .forwarding => []
  | .background task => state.background task

/-- A task has sent to its next recipient. -/
def advance (state : ServerQueues) : Sender → ServerQueues
  | .session clientId =>
      state.setSession clientId { state.sessions clientId with
        activity := .handling (state.remaining (.session clientId)).tail }
  | .background task =>
      { state with
        background := Function.update state.background task (state.background task).tail }

def advanceAdmitted (state : ServerQueues) : Option Sender → ServerQueues
  | none => state
  | some sender => state.advance sender

/-- Send to the queue of a session, or wait for it. -/
def sendDirect (state : ServerQueues) (recipientId : ClientId) (sender : Sender) :
    ServerQueues :=
  let session := state.sessions recipientId
  if session.direct.hasRoom then
    (state.setSession recipientId { session with direct := session.direct.push }).advance sender
  else state.setSession recipientId { session with direct := session.direct.park sender }

def step (state : ServerQueues) : QueueMove → Option ServerQueues
  | .arrive clientId request =>
      let session := state.sessions clientId
      some (state.setSession clientId { session with inbound := session.inbound ++ [request] })
  | .takeUp clientId =>
      let session := state.sessions clientId
      match session.activity, session.inbound with
      | .idle, request :: rest =>
          some (state.setSession clientId { session with
            inbound := rest
            activity := .handling (request.recipients clientId) })
      | _, _ => none
  | .start task recipients =>
      if state.background task = [] then
        some { state with background := Function.update state.background task recipients }
      else none
  | .send sender =>
      match state.remaining sender with
      | [] => none
      | recipientId :: _ =>
          if sender ∈ (state.sessions recipientId).direct.parked then none
          else some (state.sendDirect recipientId sender)
  | .finish clientId =>
      let session := state.sessions clientId
      match session.activity with
      | .handling [] => some (state.setSession clientId { session with activity := .idle })
      | _ => none
  | .forward clientId =>
      let session := state.sessions clientId
      if session.isWaiting then
        session.direct.receive.map fun received =>
          (state.setSession clientId
            ({ session with direct := received.1 }.sendMessage .session)).advanceAdmitted
              received.2
      else none
  | .relay clientId =>
      let session := state.sessions clientId
      if session.isWaiting ∧ session.direct.queued = 0 then
        some (state.setSession clientId (session.sendMessage .session))
      else none
  | .ping clientId =>
      let session := state.sessions clientId
      if .ping ∈ session.outbound.parked then none
      else some (state.setSession clientId (session.sendMessage .ping))
  | .read clientId =>
      let session := state.sessions clientId
      session.outbound.receive.map fun received =>
        state.setSession clientId { session with
          outbound := received.1
          activity := match received.2 with
            | some .session => .idle
            | some .ping | none => session.activity }

end ServerQueues

/-! ## Waiting -/

/-- Who waits or is waited for. -/
inductive Party where
  | session (clientId : ClientId)
  | background (task : ℕ)
  | ping (clientId : ClientId)
  | writer (clientId : ClientId)
  | client (clientId : ClientId)

def Sender.party : Sender → Party
  | .session clientId => .session clientId
  | .background task => .background task

def SocketSender.party (clientId : ClientId) : SocketSender → Party
  | .session => .session clientId
  | .ping => .ping clientId

/-- The session, the writer and the ping task of the client, and the client itself. -/
def Party.IsOwn (clientId : ClientId) (party : Party) : Prop :=
  party = .session clientId ∨ party = .writer clientId ∨ party = .ping clientId

namespace ServerQueues

inductive Awaits (state : ServerQueues) : Party → Party → Prop where
  | direct {recipientId : ClientId} {sender : Sender}
      (parked : sender ∈ (state.sessions recipientId).direct.parked) :
      Awaits state sender.party (.session recipientId)
  | outbound {clientId : ClientId} {sender : SocketSender}
      (parked : sender ∈ (state.sessions clientId).outbound.parked) :
      Awaits state (sender.party clientId) (.writer clientId)
  | socket {clientId : ClientId} (queued : 0 < (state.sessions clientId).outbound.queued) :
      Awaits state (.writer clientId) (.client clientId)

/-- Nobody awaits itself over any number of others, and nobody but its own tasks awaits a client
to read from its socket. -/
structure Unstalled (state : ServerQueues) : Prop where
  acyclic : WaitingChains.Acyclic state.Awaits
  ownOnly : ∀ party clientId, Relation.TransGen state.Awaits party (.client clientId) →
    party.IsOwn clientId

/-- The session does not go on by itself: it waits for its writer, or its handler has to send next
to a session whose queue has no room. -/
def isHeldUp (state : ServerQueues) (clientId : ClientId) : Bool :=
  match (state.sessions clientId).activity with
  | .idle | .handling [] => false
  | .handling (recipientId :: _) => !(state.sessions recipientId).direct.hasRoom
  | .forwarding => true

/-- A task that finds the queue of a session full does not find the session held up, and a session
that finds the queue of its writer full has let in the only task that was parked on its own. -/
def Clear (state : ServerQueues) : QueueMove → Prop
  | .send sender => ∀ recipientId ∈ (state.remaining sender).head?,
      (state.sessions recipientId).direct.hasRoom = true ∨ state.isHeldUp recipientId = false
  | .forward clientId =>
      (state.sessions clientId).outbound.hasRoom = true ∨
        (state.sessions clientId).direct.parked.tail = []
  | _ => True

instance (state : ServerQueues) (move : QueueMove) : Decidable (state.Clear move) := by
  cases move <;> unfold Clear <;> infer_instance

/-- A task does not start to wait for a session that awaits the task or a client, and a session
does not start to wait for its writer while others wait for the session. -/
def Unobstructed (state : ServerQueues) : QueueMove → Prop
  | .send sender => ∀ recipientId ∈ (state.remaining sender).head?,
      (state.sessions recipientId).direct.hasRoom = true ∨
        (¬ Relation.ReflTransGen state.Awaits (.session recipientId) sender.party ∧
          ∀ clientId,
            ¬ Relation.TransGen state.Awaits (.session recipientId) (.client clientId))
  | .forward clientId =>
      (state.sessions clientId).outbound.hasRoom = true ∨
        (state.sessions clientId).direct.parked.tail = []
  | _ => True

/-! ## What a step changes -/

open Relation WaitingChains

variable {state next : ServerQueues} {clientId : ClientId} {first second : Party}

theorem unwaiting_client (state : ServerQueues) (clientId : ClientId) (party : Party) :
    ¬ state.Awaits (.client clientId) party := by
  intro awaits
  generalize isClient : Party.client clientId = waiting at awaits
  cases awaits with
  | direct parked => rename_i sender; cases sender <;> cases isClient
  | outbound parked => rename_i sender; cases sender <;> cases isClient
  | socket queued => cases isClient

/-- The writer waits for its client only. -/
theorem reaches_of_writer (chain : ReflTransGen state.Awaits (.writer clientId) second) :
    second = .writer clientId ∨ second = .client clientId := by
  rcases ReflTransGen.cases_head chain with rfl | ⟨party, pair, rest⟩
  · exact Or.inl rfl
  · right
    generalize isWriter : Party.writer clientId = waiting at pair
    cases pair with
    | direct parked => rename_i sender; cases sender <;> cases isWriter
    | outbound parked => rename_i sender; cases sender <;> cases isWriter
    | socket queued =>
        cases isWriter
        exact (eq_of_unwaiting (state.unwaiting_client clientId) rest).symm

theorem Unstalled.mono (unstalled : state.Unstalled)
    (fewer : ∀ first second, next.Awaits first second → state.Awaits first second) :
    next.Unstalled where
  acyclic := fun party cycle => unstalled.acyclic party (TransGen.mono fewer _ _ cycle)
  ownOnly := fun party clientId chain =>
    unstalled.ownOnly party clientId (TransGen.mono fewer _ _ chain)

theorem Unstalled.extend {waiting awaited : Party} (unstalled : state.Unstalled)
    (extend : Extends state.Awaits next.Awaits waiting awaited)
    (noReturn : ¬ ReflTransGen state.Awaits awaited waiting)
    (ownOnly : ∀ party clientId, ReflTransGen state.Awaits party waiting →
      ReflTransGen state.Awaits awaited (.client clientId) → party.IsOwn clientId) :
    next.Unstalled where
  acyclic := extend.acyclic unstalled.acyclic noReturn
  ownOnly := by
    intro party clientId chain
    rcases extend.chain chain with old | ⟨reaches, awaits⟩
    · exact unstalled.ownOnly party clientId old
    · exact ownOnly party clientId reaches awaits

/-- Who waits after a session has changed waits in it, or has waited before. -/
theorem awaits_setSession {session : SessionQueues}
    (awaits : (state.setSession clientId session).Awaits first second) :
    state.Awaits first second ∨
      (∃ sender ∈ session.direct.parked, first = sender.party ∧ second = .session clientId) ∨
      (∃ sender ∈ session.outbound.parked,
        first = sender.party clientId ∧ second = .writer clientId) ∨
      (0 < session.outbound.queued ∧ first = .writer clientId ∧ second = .client clientId) := by
  cases awaits with
  | @direct recipientId sender parked =>
      by_cases same : recipientId = clientId
      · subst same
        rw [sessions_setSession_self] at parked
        exact Or.inr (Or.inl ⟨sender, parked, rfl, rfl⟩)
      · rw [sessions_setSession_of_ne same] at parked
        exact Or.inl (.direct parked)
  | @outbound other sender parked =>
      by_cases same : other = clientId
      · subst same
        rw [sessions_setSession_self] at parked
        exact Or.inr (Or.inr (Or.inl ⟨sender, parked, rfl, rfl⟩))
      · rw [sessions_setSession_of_ne same] at parked
        exact Or.inl (.outbound parked)
  | @socket other queued =>
      by_cases same : other = clientId
      · subst same
        rw [sessions_setSession_self] at queued
        exact Or.inr (Or.inr (Or.inr ⟨queued, rfl, rfl⟩))
      · rw [sessions_setSession_of_ne same] at queued
        exact Or.inl (.socket queued)

/-- A session in which no more tasks wait. -/
theorem Unstalled.setSession (unstalled : state.Unstalled) {session : SessionQueues}
    (direct : session.direct.parked ⊆ (state.sessions clientId).direct.parked)
    (outbound : session.outbound.parked ⊆ (state.sessions clientId).outbound.parked)
    (socket : 0 < session.outbound.queued → 0 < (state.sessions clientId).outbound.queued) :
    (state.setSession clientId session).Unstalled := by
  refine unstalled.mono ?_
  intro first second awaits
  rcases awaits_setSession awaits with before | ⟨sender, parked, rfl, rfl⟩ |
    ⟨sender, parked, rfl, rfl⟩ | ⟨queued, rfl, rfl⟩
  · exact before
  · exact .direct (direct parked)
  · exact .outbound (outbound parked)
  · exact .socket (socket queued)

theorem Unstalled.advance (unstalled : state.Unstalled) (sender : Sender) :
    (state.advance sender).Unstalled := by
  cases sender with
  | session clientId => exact unstalled.setSession (List.Subset.refl _) (List.Subset.refl _) id
  | background task =>
      refine unstalled.mono ?_
      intro first second awaits
      cases awaits with
      | direct parked => exact .direct parked
      | outbound parked => exact .outbound parked
      | socket queued => exact .socket queued

/-- Sending to the writer task, when nobody waits for the session or the message is queued. -/
theorem Unstalled.sendMessage (unstalled : state.Unstalled) (clientId : ClientId)
    (sender : SocketSender)
    (allowed : (state.sessions clientId).outbound.hasRoom = true ∨ sender = .ping ∨
      (state.sessions clientId).direct.parked = []) :
    (state.setSession clientId ((state.sessions clientId).sendMessage sender)).Unstalled := by
  have clientIsLast : ∀ other, ReflTransGen state.Awaits (.client clientId) other →
      .client clientId = other :=
    fun other => eq_of_unwaiting (state.unwaiting_client clientId)
  by_cases room : (state.sessions clientId).outbound.hasRoom = true
  · -- the writer may start to wait for the client
    have unparked := (Channel.hasRoom_iff.mp room).1
    have extend : Extends state.Awaits (state.setSession clientId
        ((state.sessions clientId).sendMessage sender)).Awaits
        (.writer clientId) (.client clientId) := by
      intro first second awaits
      rw [SessionQueues.sendMessage_of_room room] at awaits
      rcases awaits_setSession awaits with before | ⟨_, parked, rfl, rfl⟩ |
        ⟨_, parked, rfl, rfl⟩ | ⟨_, rfl, rfl⟩
      · exact Or.inl before
      · exact Or.inl (.direct parked)
      · rw [Channel.parked_push] at parked
        exact Or.inl (.outbound parked)
      · exact Or.inr ⟨rfl, rfl⟩
    refine unstalled.extend extend ?_ ?_
    · intro returns
      cases clientIsLast _ returns
    · intro party other reaches awaits
      cases clientIsLast _ awaits
      have unawaited : ∀ party, ¬ state.Awaits party (.writer clientId) := by
        intro party awaits
        cases awaits with
        | outbound parked =>
            rw [unparked] at parked
            cases parked
      exact Or.inr (Or.inl (eq_of_unawaited unawaited reaches))
  · have noRoom : (state.sessions clientId).outbound.hasRoom = false := Bool.not_eq_true _ ▸ room
    have extend : Extends state.Awaits (state.setSession clientId
        ((state.sessions clientId).sendMessage sender)).Awaits
        (sender.party clientId) (.writer clientId) := by
      intro first second awaits
      rcases awaits_setSession awaits with before | ⟨_, parked, rfl, rfl⟩ |
        ⟨other, parked, rfl, rfl⟩ | ⟨queued, rfl, rfl⟩
      · exact Or.inl before
      · rw [SessionQueues.direct_sendMessage] at parked
        exact Or.inl (.direct parked)
      · rw [SessionQueues.outbound_sendMessage noRoom, Channel.parked_park noRoom] at parked
        rcases List.mem_append.mp parked with before | new
        · exact Or.inl (.outbound before)
        · cases List.mem_singleton.mp new
          exact Or.inr ⟨rfl, rfl⟩
      · rw [SessionQueues.outbound_sendMessage noRoom, Channel.queued_park] at queued
        exact Or.inl (.socket queued)
    refine unstalled.extend extend ?_ ?_
    · intro returns
      rcases reaches_of_writer returns with isWriter | isClient
      · cases sender <;> cases isWriter
      · cases sender <;> cases isClient
    · intro party other reaches awaits
      have same : other = clientId := by
        rcases reaches_of_writer awaits with isWriter | isClient
        · cases isWriter
        · cases isClient
          rfl
      subst same
      have unawaited : ∀ party, ¬ state.Awaits party (sender.party other) := by
        intro party awaits
        cases sender with
        | ping => cases awaits
        | session =>
            have unparked : (state.sessions other).direct.parked = [] := by
              rcases allowed with room | isPing | unparked
              · rw [noRoom] at room
                cases room
              · cases isPing
              · exact unparked
            cases awaits with
            | direct parked =>
                rw [unparked] at parked
                cases parked
      cases eq_of_unawaited unawaited reaches
      cases sender with
      | session => exact Or.inl rfl
      | ping => exact Or.inr (Or.inr rfl)

/-- Who waits when a task has sent to a session. -/
theorem extends_sendDirect (state : ServerQueues) (recipientId : ClientId) (sender : Sender)
    (noRoom : (state.sessions recipientId).direct.hasRoom = false) :
    Extends state.Awaits (state.sendDirect recipientId sender).Awaits sender.party
      (.session recipientId) := by
  intro first second awaits
  rw [sendDirect, noRoom] at awaits
  rcases awaits_setSession awaits with before | ⟨other, parked, rfl, rfl⟩ |
    ⟨_, parked, rfl, rfl⟩ | ⟨queued, rfl, rfl⟩
  · exact Or.inl before
  · rw [Channel.parked_park noRoom] at parked
    rcases List.mem_append.mp parked with before | new
    · exact Or.inl (.direct before)
    · cases List.mem_singleton.mp new
      exact Or.inr ⟨rfl, rfl⟩
  · exact Or.inl (.outbound parked)
  · exact Or.inl (.socket queued)

theorem Unstalled.sendDirect (unstalled : state.Unstalled) {recipientId : ClientId}
    {sender : Sender}
    (allowed : (state.sessions recipientId).direct.hasRoom = true ∨
      (¬ ReflTransGen state.Awaits (.session recipientId) sender.party ∧
        ∀ clientId, ¬ TransGen state.Awaits (.session recipientId) (.client clientId))) :
    (state.sendDirect recipientId sender).Unstalled := by
  by_cases room : (state.sessions recipientId).direct.hasRoom = true
  · rw [ServerQueues.sendDirect, if_pos room]
    refine Unstalled.advance ?_ sender
    refine unstalled.setSession ?_ (List.Subset.refl _) id
    rw [Channel.parked_push]
    exact List.Subset.refl _
  · obtain ⟨noReturn, noClient⟩ := allowed.resolve_left room
    have noRoom : (state.sessions recipientId).direct.hasRoom = false :=
      Bool.not_eq_true _ ▸ room
    refine unstalled.extend (extends_sendDirect state recipientId sender noRoom) noReturn ?_
    intro party clientId _ awaits
    rcases reflTransGen_iff_eq_or_transGen.mp awaits with same | chain
    · cases same
    · exact absurd chain (noClient clientId)

theorem Unstalled.step (unstalled : state.Unstalled) {move : QueueMove}
    (unobstructed : state.Unobstructed move) (steps : state.step move = some next) :
    next.Unstalled := by
  cases move with
  | arrive clientId request =>
      cases steps
      exact unstalled.setSession (List.Subset.refl _) (List.Subset.refl _) id
  | takeUp clientId =>
      simp only [ServerQueues.step] at steps
      split at steps
      · cases steps
        exact unstalled.setSession (List.Subset.refl _) (List.Subset.refl _) id
      · cases steps
  | start task recipients =>
      simp only [ServerQueues.step] at steps
      split at steps
      · cases steps
        refine unstalled.mono ?_
        intro first second awaits
        cases awaits with
        | direct parked => exact .direct parked
        | outbound parked => exact .outbound parked
        | socket queued => exact .socket queued
      · cases steps
  | send sender =>
      simp only [ServerQueues.step] at steps
      split at steps
      · cases steps
      · rename_i recipientId rest isNext
        split at steps
        · cases steps
        · cases steps
          refine unstalled.sendDirect (unobstructed recipientId ?_)
          rw [isNext]
          rfl
  | finish clientId =>
      simp only [ServerQueues.step] at steps
      split at steps
      · cases steps
        exact unstalled.setSession (List.Subset.refl _) (List.Subset.refl _) id
      · cases steps
  | forward clientId =>
      simp only [ServerQueues.step] at steps
      split at steps
      · obtain ⟨⟨direct, admitted⟩, received, rfl⟩ := Option.map_eq_some_iff.mp steps
        have parked := Channel.parked_receive received
        have taken : (state.setSession clientId
            { state.sessions clientId with direct := direct }).Unstalled := by
          refine unstalled.setSession ?_ (List.Subset.refl _) id
          rw [parked]
          exact fun _ => List.mem_of_mem_tail
        have sent := taken.sendMessage clientId .session
        rw [sessions_setSession_self, setSession_setSession] at sent
        have forwarded := sent (unobstructed.imp_right fun unparked => Or.inr (parked.trans unparked))
        cases admitted with
        | none => exact forwarded
        | some sender => exact forwarded.advance sender
      · cases steps
  | relay clientId =>
      simp only [ServerQueues.step] at steps
      split at steps
      · rename_i waits
        cases steps
        refine unstalled.sendMessage clientId .session (Or.inr (Or.inr ?_))
        -- only a full queue has parked senders
        by_contra parked
        have full := (state.sessions clientId).direct.full parked
        rw [waits.2] at full
        cases full
      · cases steps
  | ping clientId =>
      simp only [ServerQueues.step] at steps
      split at steps
      · cases steps
      · cases steps
        exact unstalled.sendMessage clientId .ping (Or.inr (Or.inl rfl))
  | read clientId =>
      obtain ⟨⟨outbound, admitted⟩, received, rfl⟩ := Option.map_eq_some_iff.mp steps
      refine unstalled.setSession (List.Subset.refl _) ?_ fun _ => Channel.queued_of_receive received
      rw [Channel.parked_receive received]
      exact fun _ => List.mem_of_mem_tail

theorem unstalled_start : ServerQueues.start.Unstalled := by
  have unwaiting : ∀ first second, ¬ ServerQueues.start.Awaits first second := by
    intro first second awaits
    cases awaits with
    | direct parked => cases parked
    | outbound parked => cases parked
    | socket queued => exact absurd queued (lt_irrefl 0)
  constructor
  · intro party cycle
    obtain ⟨other, pair, _⟩ := TransGen.head'_iff.mp cycle
    exact unwaiting party other pair
  · intro party clientId chain
    obtain ⟨other, pair, _⟩ := TransGen.head'_iff.mp chain
    exact absurd pair (unwaiting party other)

/-! ## Who is parked -/

/-- The session is parked where its handler has to send next, and on its writer only while it
forwards. Nobody is parked twice. -/
structure Orderly (state : ServerQueues) : Prop where
  direct : ∀ {recipientId clientId : ClientId},
    .session clientId ∈ (state.sessions recipientId).direct.parked →
      (state.remaining (.session clientId)).head? = some recipientId
  directOnce : ∀ clientId, (state.sessions clientId).direct.parked.Nodup
  outbound : ∀ {clientId : ClientId}, .session ∈ (state.sessions clientId).outbound.parked →
    (state.sessions clientId).activity = .forwarding
  outboundOnce : ∀ clientId, (state.sessions clientId).outbound.parked.Nodup

/-- The session is in no queue's list of parked senders. -/
def Unparked (state : ServerQueues) (clientId : ClientId) : Prop :=
  ∀ recipientId, .session clientId ∉ (state.sessions recipientId).direct.parked

theorem remaining_of_activity {other : ServerQueues}
    (same : (other.sessions clientId).activity = (state.sessions clientId).activity) :
    other.remaining (.session clientId) = state.remaining (.session clientId) := by
  simp only [remaining, same]

theorem remaining_setSession_of_ne {other : ClientId} {session : SessionQueues}
    (differs : other ≠ clientId) :
    (state.setSession clientId session).remaining (.session other) =
      state.remaining (.session other) := by
  apply remaining_of_activity
  rw [sessions_setSession_of_ne differs]

theorem Orderly.unparked (orderly : state.Orderly)
    (done : state.remaining (.session clientId) = []) : state.Unparked clientId := by
  intro recipientId parked
  have isNext := orderly.direct parked
  rw [done] at isNext
  cases isNext

/-- A session that does not go on to something else is parked where it was. -/
theorem Orderly.setSession (orderly : state.Orderly) {session : SessionQueues}
    (parked : ∀ other, .session other ∈ session.direct.parked →
      (state.remaining (.session other)).head? = some clientId)
    (once : session.direct.parked.Nodup)
    (forwards : .session ∈ session.outbound.parked → session.activity = .forwarding)
    (outboundOnce : session.outbound.parked.Nodup)
    (activity : session.activity = (state.sessions clientId).activity ∨
      (state.Unparked clientId ∧ .session clientId ∉ session.direct.parked)) :
    (state.setSession clientId session).Orderly where
  direct := by
    intro recipientId other isParked
    have before : (state.remaining (.session other)).head? = some recipientId := by
      by_cases same : recipientId = clientId
      · subst same
        rw [sessions_setSession_self] at isParked
        exact parked other isParked
      · rw [sessions_setSession_of_ne same] at isParked
        exact orderly.direct isParked
    by_cases isSession : other = clientId
    · subst isSession
      rcases activity with unchanged | ⟨unparked, notHere⟩
      · have same : (state.setSession other session).remaining (.session other) =
            state.remaining (.session other) := by
          apply remaining_of_activity
          rw [sessions_setSession_self, unchanged]
        rw [same]
        exact before
      · by_cases same : recipientId = other
        · subst same
          rw [sessions_setSession_self] at isParked
          exact absurd isParked notHere
        · rw [sessions_setSession_of_ne same] at isParked
          exact absurd isParked (unparked recipientId)
    · rw [remaining_setSession_of_ne isSession]
      exact before
  directOnce := by
    intro other
    by_cases same : other = clientId
    · subst same
      rw [sessions_setSession_self]
      exact once
    · rw [sessions_setSession_of_ne same]
      exact orderly.directOnce other
  outbound := by
    intro other isParked
    by_cases same : other = clientId
    · subst same
      rw [sessions_setSession_self] at isParked ⊢
      exact forwards isParked
    · rw [sessions_setSession_of_ne same] at isParked ⊢
      exact orderly.outbound isParked
  outboundOnce := by
    intro other
    by_cases same : other = clientId
    · subst same
      rw [sessions_setSession_self]
      exact outboundOnce
    · rw [sessions_setSession_of_ne same]
      exact orderly.outboundOnce other

/-- A session whose queues stay as they are. -/
theorem Orderly.setActivity (orderly : state.Orderly) {session : SessionQueues}
    (direct : session.direct = (state.sessions clientId).direct)
    (outbound : session.outbound = (state.sessions clientId).outbound)
    (unparked : state.Unparked clientId)
    (activity : (state.sessions clientId).activity ≠ .forwarding) :
    (state.setSession clientId session).Orderly := by
  refine orderly.setSession ?_ ?_ ?_ ?_ (Or.inr ⟨unparked, ?_⟩)
  · intro other parked
    rw [direct] at parked
    exact orderly.direct parked
  · rw [direct]
    exact orderly.directOnce clientId
  · intro parked
    rw [outbound] at parked
    exact absurd (orderly.outbound parked) activity
  · rw [outbound]
    exact orderly.outboundOnce clientId
  · rw [direct]
    exact unparked clientId

theorem Orderly.setBackground (orderly : state.Orderly) (background : ℕ → List ClientId) :
    ({ state with background := background } : ServerQueues).Orderly :=
  ⟨orderly.direct, orderly.directOnce, orderly.outbound, orderly.outboundOnce⟩

/-- A task goes on that is parked nowhere. -/
theorem Orderly.advance (orderly : state.Orderly) {sender : Sender}
    (unparked : ∀ recipientId, sender ∉ (state.sessions recipientId).direct.parked)
    (hasNext : state.remaining sender ≠ []) : (state.advance sender).Orderly := by
  cases sender with
  | session clientId =>
      refine orderly.setActivity rfl rfl unparked ?_
      intro forwards
      exact hasNext (by simp only [remaining, forwards])
  | background task => exact orderly.setBackground _

/-- Sending to the writer task, from the loop or for the ping task. -/
theorem Orderly.sendMessage (orderly : state.Orderly) {session : SessionQueues}
    {sender : SocketSender}
    (parked : session.direct.parked ⊆ (state.sessions clientId).direct.parked)
    (once : session.direct.parked.Nodup)
    (outbound : session.outbound = (state.sessions clientId).outbound)
    (activity : session.activity = (state.sessions clientId).activity)
    (notWaiting : sender ∉ session.outbound.parked)
    (loops : sender = .session → session.activity = .idle) :
    (state.setSession clientId (session.sendMessage sender)).Orderly := by
  have direct := session.direct_sendMessage sender
  have stillNext : ∀ other, .session other ∈ session.direct.parked →
      (state.remaining (.session other)).head? = some clientId :=
    fun other isParked => orderly.direct (parked isParked)
  by_cases room : session.outbound.hasRoom = true
  · rw [SessionQueues.sendMessage_of_room room]
    refine orderly.setSession stillNext once ?_ ?_ (Or.inl activity)
    · intro isParked
      rw [Channel.parked_push, outbound] at isParked
      exact activity.trans (orderly.outbound isParked)
    · rw [Channel.parked_push, outbound]
      exact orderly.outboundOnce clientId
  · have noRoom : session.outbound.hasRoom = false := Bool.not_eq_true _ ▸ room
    have queued : (session.sendMessage sender).outbound.parked =
        session.outbound.parked ++ [sender] := by
      rw [SessionQueues.outbound_sendMessage noRoom, Channel.parked_park noRoom]
    refine orderly.setSession ?_ ?_ ?_ ?_ ?_
    · rw [direct]
      exact stillNext
    · rw [direct]
      exact once
    · intro isParked
      rw [queued] at isParked
      cases sender with
      | session => simp [SessionQueues.sendMessage, noRoom]
      | ping =>
          simp only [SessionQueues.sendMessage, noRoom, Bool.false_eq_true, if_false]
          rcases List.mem_append.mp isParked with before | isPing
          · rw [outbound] at before
            exact activity.trans (orderly.outbound before)
          · cases List.mem_singleton.mp isPing
    · rw [SessionQueues.outbound_sendMessage noRoom]
      refine Channel.nodup_park noRoom notWaiting ?_
      rw [outbound]
      exact orderly.outboundOnce clientId
    · cases sender with
      | ping => exact Or.inl (by simp [SessionQueues.sendMessage, noRoom, activity])
      | session =>
          -- who is in the loop has nobody to send to, so is parked nowhere
          have unparked : state.Unparked clientId := by
            apply orderly.unparked
            simp only [remaining, ← activity, loops rfl]
          rw [direct]
          exact Or.inr ⟨unparked, fun isParked => unparked clientId (parked isParked)⟩

theorem Orderly.sendDirect (orderly : state.Orderly) {recipientId : ClientId} {sender : Sender}
    (isNext : (state.remaining sender).head? = some recipientId)
    (notWaiting : sender ∉ (state.sessions recipientId).direct.parked) :
    (state.sendDirect recipientId sender).Orderly := by
  by_cases room : (state.sessions recipientId).direct.hasRoom = true
  · rw [ServerQueues.sendDirect, if_pos room]
    obtain ⟨pushed, isPushed⟩ : ∃ pushed, state.setSession recipientId
        { state.sessions recipientId with
          direct := (state.sessions recipientId).direct.push } = pushed := ⟨_, rfl⟩
    have parked := (state.sessions recipientId).direct.parked_push
    have stays : pushed.Orderly := by
      rw [← isPushed]
      refine orderly.setSession ?_ ?_ orderly.outbound (orderly.outboundOnce _) (Or.inl rfl)
      · intro other isParked
        rw [parked] at isParked
        exact orderly.direct isParked
      · rw [parked]
        exact orderly.directOnce recipientId
    have sameParked : ∀ other, (pushed.sessions other).direct.parked =
        (state.sessions other).direct.parked := by
      intro other
      rw [← isPushed]
      by_cases same : other = recipientId
      · rw [same, sessions_setSession_self, parked]
      · rw [sessions_setSession_of_ne same]
    have sameRemaining : pushed.remaining sender = state.remaining sender := by
      cases sender with
      | background task => rw [← isPushed]; rfl
      | session clientId =>
          apply remaining_of_activity
          rw [← isPushed]
          by_cases same : clientId = recipientId
          · rw [same, sessions_setSession_self]
          · rw [sessions_setSession_of_ne same]
    rw [isPushed]
    cases sender with
    | background task => exact stays.setBackground _
    | session clientId =>
        refine stays.advance ?_ ?_
        · intro other isParked
          rw [sameParked] at isParked
          have isOther := orderly.direct isParked
          rw [isNext] at isOther
          cases isOther
          exact notWaiting isParked
        · intro done
          rw [sameRemaining] at done
          rw [done] at isNext
          cases isNext
  · have noRoom : (state.sessions recipientId).direct.hasRoom = false :=
      Bool.not_eq_true _ ▸ room
    rw [ServerQueues.sendDirect, if_neg room]
    refine orderly.setSession ?_ ?_ orderly.outbound (orderly.outboundOnce _) (Or.inl rfl)
    · intro other isParked
      rw [Channel.parked_park noRoom] at isParked
      rcases List.mem_append.mp isParked with before | isSender
      · exact orderly.direct before
      · rw [List.mem_singleton.mp isSender]
        exact isNext
    · exact Channel.nodup_park noRoom notWaiting (orderly.directOnce recipientId)

/-- A session forwards a message, and the first parked sender goes on. -/
theorem Orderly.forwarded (orderly : state.Orderly)
    (idle : (state.sessions clientId).activity = .idle)
    {direct : Channel clientChannelCapacity Sender} {admitted : Option Sender}
    (received : (state.sessions clientId).direct.receive = some (direct, admitted)) :
    ((state.setSession clientId ({ state.sessions clientId with
      direct := direct }.sendMessage .session)).advanceAdmitted admitted).Orderly := by
  have parked := Channel.parked_receive received
  have isFirst := Channel.admitted_receive received
  have once := orderly.directOnce clientId
  have sent : (state.setSession clientId ({ state.sessions clientId with
      direct := direct }.sendMessage .session)).Orderly := by
    refine orderly.sendMessage ?_ ?_ rfl rfl ?_ fun _ => idle
    · rw [parked]
      exact fun _ => List.mem_of_mem_tail
    · rw [parked]
      exact once.tail
    · intro isParked
      rw [orderly.outbound isParked] at idle
      cases idle
  cases admitted with
  | none => exact sent
  | some sender =>
      obtain ⟨rest, all⟩ := List.head?_eq_some_iff.mp isFirst.symm
      rw [all, List.tail_cons] at parked
      rw [all, List.nodup_cons] at once
      have wasParked : sender ∈ (state.sessions clientId).direct.parked := by
        rw [all]
        exact List.mem_cons_self
      cases sender with
      | background task => exact sent.setBackground _
      | session other =>
          have isNext := orderly.direct wasParked
          have differs : other ≠ clientId := by
            rintro rfl
            simp [remaining, idle] at isNext
          simp only [advanceAdmitted]
          refine sent.advance ?_ ?_
          · intro recipientId isParked
            by_cases same : recipientId = clientId
            · rw [same, sessions_setSession_self, SessionQueues.direct_sendMessage] at isParked
              rw [parked] at isParked
              exact once.1 isParked
            · rw [sessions_setSession_of_ne same] at isParked
              have isOther := orderly.direct isParked
              rw [isNext] at isOther
              exact same (Option.some.inj isOther).symm
          · rw [remaining_setSession_of_ne differs]
            intro done
            rw [done] at isNext
            cases isNext

/-- The client reads, and the task whose message its writer lets in goes on. -/
theorem Orderly.read (orderly : state.Orderly)
    (steps : state.step (.read clientId) = some next) : next.Orderly := by
  obtain ⟨⟨outbound, admitted⟩, received, rfl⟩ := Option.map_eq_some_iff.mp steps
  have parked := Channel.parked_receive received
  have isFirst := Channel.admitted_receive received
  have once := orderly.outboundOnce clientId
  have stillParked : ∀ sender ∈ outbound.parked,
      sender ∈ (state.sessions clientId).outbound.parked := by
    rw [parked]
    exact fun _ => List.mem_of_mem_tail
  have stillOnce : outbound.parked.Nodup := by
    rw [parked]
    exact once.tail
  cases admitted with
  | none =>
      exact orderly.setSession (fun _ => orderly.direct) (orderly.directOnce _)
        (fun isParked => orderly.outbound (stillParked _ isParked)) stillOnce (Or.inl rfl)
  | some sender =>
      obtain ⟨rest, all⟩ := List.head?_eq_some_iff.mp isFirst.symm
      cases sender with
      | ping =>
          exact orderly.setSession (fun _ => orderly.direct) (orderly.directOnce _)
            (fun isParked => orderly.outbound (stillParked _ isParked)) stillOnce (Or.inl rfl)
      | session =>
          -- the session goes back to its loop, and its next message is parked nowhere
          have inLine : SocketSender.session ∈ (state.sessions clientId).outbound.parked := by
            rw [all]
            exact List.mem_cons_self
          have forwards := orderly.outbound inLine
          have unparked : state.Unparked clientId := by
            apply orderly.unparked
            simp only [remaining, forwards]
          rw [all, List.nodup_cons] at once
          rw [all, List.tail_cons] at parked
          refine orderly.setSession (fun _ => orderly.direct) (orderly.directOnce _) ?_ stillOnce
            (Or.inr ⟨unparked, unparked clientId⟩)
          intro isParked
          rw [parked] at isParked
          exact absurd isParked once.1

/-- Everybody stays parked where it belongs. -/
theorem Orderly.step (orderly : state.Orderly) {move : QueueMove}
    (steps : state.step move = some next) : next.Orderly := by
  cases move with
  | arrive clientId request =>
      cases steps
      exact orderly.setSession (fun _ => orderly.direct) (orderly.directOnce _) orderly.outbound
        (orderly.outboundOnce _) (Or.inl rfl)
  | takeUp clientId =>
      simp only [ServerQueues.step] at steps
      split at steps
      · rename_i idle _
        cases steps
        refine orderly.setActivity rfl rfl (orderly.unparked ?_) ?_
        · simp only [remaining, idle]
        · rw [idle]
          exact SessionActivity.noConfusion
      · cases steps
  | start task recipients =>
      simp only [ServerQueues.step] at steps
      split at steps
      · cases steps
        exact orderly.setBackground _
      · cases steps
  | send sender =>
      simp only [ServerQueues.step] at steps
      split at steps
      · cases steps
      · rename_i recipientId rest isNext
        split at steps
        · cases steps
        · rename_i notWaiting
          cases steps
          refine orderly.sendDirect ?_ notWaiting
          rw [isNext, List.head?_cons]
  | finish clientId =>
      simp only [ServerQueues.step] at steps
      split at steps
      · rename_i done
        cases steps
        refine orderly.setActivity rfl rfl (orderly.unparked ?_) ?_
        · simp only [remaining, done]
        · rw [done]
          exact SessionActivity.noConfusion
      · cases steps
  | forward clientId =>
      simp only [ServerQueues.step] at steps
      split at steps
      · rename_i waits
        obtain ⟨⟨direct, admitted⟩, received, rfl⟩ := Option.map_eq_some_iff.mp steps
        exact orderly.forwarded (SessionQueues.idle_of_isWaiting waits) received
      · cases steps
  | relay clientId =>
      simp only [ServerQueues.step] at steps
      split at steps
      · rename_i waits
        cases steps
        have idle := SessionQueues.idle_of_isWaiting waits.1
        refine orderly.sendMessage (List.Subset.refl _) (orderly.directOnce _) rfl rfl ?_
          fun _ => idle
        intro parked
        rw [orderly.outbound parked] at idle
        cases idle
      · cases steps
  | ping clientId =>
      simp only [ServerQueues.step] at steps
      split at steps
      · cases steps
      · rename_i notWaiting
        cases steps
        exact orderly.sendMessage (List.Subset.refl _) (orderly.directOnce _) rfl rfl notWaiting
          SocketSender.noConfusion
  | read clientId => exact orderly.read steps

theorem orderly_start : ServerQueues.start.Orderly where
  direct := fun parked => absurd parked List.not_mem_nil
  directOnce := fun _ => List.nodup_nil
  outbound := fun parked => absurd parked List.not_mem_nil
  outboundOnce := fun _ => List.nodup_nil

theorem isHeldUp_of_noRoom {recipientId : ClientId}
    (isNext : recipientId ∈ (state.remaining (.session clientId)).head?)
    (noRoom : (state.sessions recipientId).direct.hasRoom = false) :
    state.isHeldUp clientId = true := by
  simp only [remaining] at isNext
  split at isNext
  · rename_i recipients handles
    obtain ⟨rest, rfl⟩ := List.head?_eq_some_iff.mp isNext
    simp [isHeldUp, handles, noRoom]
  · cases isNext
  · cases isNext

/-- A session that is not held up waits for nobody. -/
theorem Orderly.unwaiting_of_notHeldUp (orderly : state.Orderly)
    (goesOn : state.isHeldUp clientId = false) (party : Party) :
    ¬ state.Awaits (.session clientId) party := by
  intro awaits
  generalize isSession : Party.session clientId = waiting at awaits
  cases awaits with
  | @direct recipientId sender parked =>
      cases sender with
      | background task => cases isSession
      | session other =>
          cases isSession
          have isNext := orderly.direct parked
          have noRoom : (state.sessions recipientId).direct.hasRoom = false := by
            rw [← Bool.not_eq_true, Channel.hasRoom_iff]
            rintro ⟨unparked, -⟩
            rw [unparked] at parked
            cases parked
          rw [isHeldUp_of_noRoom isNext noRoom] at goesOn
          cases goesOn
  | @outbound other sender parked =>
      cases sender with
      | ping => cases isSession
      | session =>
          cases isSession
          simp [isHeldUp, orderly.outbound parked] at goesOn
  | socket queued => cases isSession

/-- Who starts to wait for a session that is not held up is in no chain that comes back, or that
leads to a client. -/
theorem Orderly.unobstructed (orderly : state.Orderly) {move : QueueMove}
    (isClear : state.Clear move) : state.Unobstructed move := by
  cases move with
  | send sender =>
      intro recipientId isNext
      by_cases room : (state.sessions recipientId).direct.hasRoom = true
      · exact Or.inl room
      have goesOn := (isClear recipientId isNext).resolve_left room
      have unwaiting := orderly.unwaiting_of_notHeldUp goesOn
      refine Or.inr ⟨?_, ?_⟩
      · intro returns
        -- the session would send to itself, which holds it up
        have itself := eq_of_unwaiting unwaiting returns
        cases sender with
        | background task => cases itself
        | session clientId =>
            cases itself
            have isHeldUp := isHeldUp_of_noRoom isNext (Bool.not_eq_true _ ▸ room)
            rw [goesOn] at isHeldUp
            cases isHeldUp
      · intro clientId chain
        obtain ⟨party, pair, _⟩ := TransGen.head'_iff.mp chain
        exact unwaiting party pair
  | forward clientId => exact isClear
  | arrive | takeUp | start | finish | relay | ping | read => trivial

/-! ## What obstructed moves do -/

theorem Awaits.setSession {clientId : ClientId} {session : SessionQueues}
    (awaits : state.Awaits first second)
    (direct : (state.sessions clientId).direct.parked ⊆ session.direct.parked)
    (outbound : (state.sessions clientId).outbound.parked ⊆ session.outbound.parked)
    (socket : 0 < (state.sessions clientId).outbound.queued → 0 < session.outbound.queued) :
    (state.setSession clientId session).Awaits first second := by
  cases awaits with
  | @direct recipientId sender parked =>
      refine .direct ?_
      by_cases same : recipientId = clientId
      · subst same
        rw [sessions_setSession_self]
        exact direct parked
      · rw [sessions_setSession_of_ne same]
        exact parked
  | @outbound other sender parked =>
      refine .outbound ?_
      by_cases same : other = clientId
      · subst same
        rw [sessions_setSession_self]
        exact outbound parked
      · rw [sessions_setSession_of_ne same]
        exact parked
  | @socket other queued =>
      refine .socket ?_
      by_cases same : other = clientId
      · subst same
        rw [sessions_setSession_self]
        exact socket queued
      · rw [sessions_setSession_of_ne same]
        exact queued

theorem Awaits.advance (awaits : state.Awaits first second) (sender : Sender) :
    (state.advance sender).Awaits first second := by
  cases sender with
  | session clientId => exact awaits.setSession (List.Subset.refl _) (List.Subset.refl _) id
  | background task =>
      cases awaits with
      | direct parked => exact .direct parked
      | outbound parked => exact .outbound parked
      | socket queued => exact .socket queued

theorem Awaits.advanceAdmitted (awaits : state.Awaits first second) (admitted : Option Sender) :
    (state.advanceAdmitted admitted).Awaits first second := by
  cases admitted with
  | none => exact awaits
  | some sender => exact awaits.advance sender

/-- A task that is among those that await a client is one of its own, or awaits itself. -/
theorem stalled_of_direct (clientId : ClientId) (sender : Sender)
    (waits : state.Awaits sender.party (.session clientId))
    (reaches : TransGen state.Awaits (.session clientId) (.client clientId)) :
    ¬ state.Unstalled := by
  intro unstalled
  rcases unstalled.ownOnly _ clientId (.head waits reaches) with isSession | isWriter | isPing
  · rw [isSession] at waits
    exact unstalled.acyclic _ (.single waits)
  · cases sender <;> cases isWriter
  · cases sender <;> cases isPing

theorem awaits_sendDirect {recipientId : ClientId} (sender : Sender)
    (noRoom : (state.sessions recipientId).direct.hasRoom = false) :
    (state.sendDirect recipientId sender).Awaits sender.party (.session recipientId) ∧
      ∀ first second, state.Awaits first second →
        (state.sendDirect recipientId sender).Awaits first second := by
  rw [sendDirect, noRoom]
  constructor
  · refine .direct ?_
    rw [if_neg Bool.false_ne_true, sessions_setSession_self, Channel.parked_park noRoom]
    exact List.mem_append_right _ (List.mem_singleton_self sender)
  · intro first second awaits
    refine awaits.setSession ?_ (List.Subset.refl _) id
    rw [Channel.parked_park noRoom]
    exact List.subset_append_left _ _

theorem stalled_of_send {recipientId : ClientId} {sender : Sender}
    (noRoom : (state.sessions recipientId).direct.hasRoom = false)
    (obstructed : ¬ (¬ ReflTransGen state.Awaits (.session recipientId) sender.party ∧
      ∀ clientId, ¬ TransGen state.Awaits (.session recipientId) (.client clientId))) :
    ¬ (state.sendDirect recipientId sender).Unstalled := by
  intro unstalled
  obtain ⟨starts, waits⟩ := awaits_sendDirect sender noRoom
  refine obstructed ⟨?_, ?_⟩
  · intro returns
    have back := ReflTransGen.mono waits _ _ returns
    exact unstalled.acyclic _ (TransGen.head' starts back)
  · intro clientId before
    have reaches := TransGen.mono waits _ _ before
    rcases unstalled.ownOnly _ clientId reaches with isSession | isWriter | isPing
    · cases isSession
      exact stalled_of_direct recipientId sender starts reaches unstalled
    · cases isWriter
    · cases isPing

theorem stalled_of_forward {clientId : ClientId}
    {direct : Channel clientChannelCapacity Sender} {admitted : Option Sender}
    (noRoom : (state.sessions clientId).outbound.hasRoom = false)
    (parked : direct.parked ≠ []) :
    ¬ ((state.setSession clientId ({ state.sessions clientId with
        direct := direct }.sendMessage .session)).advanceAdmitted admitted).Unstalled := by
  obtain ⟨sender, isParked⟩ := List.exists_mem_of_ne_nil _ parked
  have full := Channel.occupied_of_noRoom noRoom
  have sent : ({ state.sessions clientId with direct := direct }.sendMessage .session).outbound =
      (state.sessions clientId).outbound.park .session := by
    apply SessionQueues.outbound_sendMessage
    exact noRoom
  refine stalled_of_direct clientId sender
    (Awaits.advanceAdmitted (.direct ?_) admitted)
    (.tail (.single (Awaits.advanceAdmitted (@Awaits.outbound _ clientId .session ?_) admitted))
      (Awaits.advanceAdmitted (.socket ?_) admitted))
  · rw [sessions_setSession_self, SessionQueues.direct_sendMessage]
    exact isParked
  · rw [sessions_setSession_self, sent, Channel.parked_park noRoom]
    exact List.mem_append_right _ (List.mem_singleton_self _)
  · rw [sessions_setSession_self, sent, Channel.queued_park, full]
    exact Nat.zero_lt_succ _

/-- A move that is obstructed stalls somebody: the condition excludes nothing else. -/
theorem stalled_of_obstructed {move : QueueMove} (obstructed : ¬ state.Unobstructed move)
    (steps : state.step move = some next) : ¬ next.Unstalled := by
  cases move with
  | send sender =>
      simp only [step] at steps
      split at steps
      · rename_i nobody
        refine absurd ?_ obstructed
        intro recipientId isNext
        rw [nobody] at isNext
        cases isNext
      · rename_i recipientId rest isNext
        split at steps
        · cases steps
        · cases steps
          intro unstalled
          refine obstructed ?_
          intro other isOther
          rw [isNext] at isOther
          cases isOther
          by_contra blocked
          rw [not_or, Bool.not_eq_true] at blocked
          exact stalled_of_send blocked.1 blocked.2 unstalled
  | forward clientId =>
      simp only [step] at steps
      split at steps
      · obtain ⟨⟨direct, admitted⟩, received, rfl⟩ := Option.map_eq_some_iff.mp steps
        intro unstalled
        refine obstructed ?_
        simp only [Unobstructed]
        by_contra blocked
        rw [not_or, Bool.not_eq_true, ← Channel.parked_receive received] at blocked
        exact stalled_of_forward blocked.1 blocked.2 unstalled
      · cases steps
  | arrive | takeUp | start | finish | relay | ping | read => exact absurd trivial obstructed

end ServerQueues

/-! ## Runs -/

/-- In every run in which no task finds a full queue whose session is held up, and no session finds
the queue of its writer full while others are parked on its own, nobody comes to await itself, and
nobody but its own tasks awaits a client. -/
theorem run_unstalled (moves : List QueueMove) (final : ServerQueues)
    (isClear : GuardedRuns.Guarded ServerQueues.step ServerQueues.Clear .start moves)
    (runs : GuardedRuns.runMoves ServerQueues.step .start moves = some final) :
    final.Unstalled := by
  have stays : ∀ (state : ServerQueues) (move : QueueMove) (next : ServerQueues),
      state.Orderly → state.Clear move → state.step move = some next → next.Orderly := by
    intro state move next orderly _ steps
    exact orderly.step steps
  have gives : ∀ (state : ServerQueues) (move : QueueMove) (next : ServerQueues),
      state.Orderly → state.Clear move → state.step move = some next →
        state.Unobstructed move := by
    intro state move next orderly isClear _
    exact orderly.unobstructed isClear
  have kept : ∀ (state : ServerQueues) (move : QueueMove) (next : ServerQueues),
      state.Unstalled → state.Unobstructed move → state.step move = some next →
        next.Unstalled := by
    intro state move next unstalled isUnobstructed steps
    exact unstalled.step isUnobstructed steps
  have unobstructed := isClear.strengthen stays gives runs ServerQueues.orderly_start
  exact unobstructed.preserves kept runs ServerQueues.unstalled_start

section FullQueues

open Relation WaitingChains

private def registering : ClientId := ⟨"LOVV"⟩

/-- A task in the background sends one message more to a session than there is room for. -/
def longRegistration : List QueueMove :=
  .start 0 (List.replicate (clientChannelCapacity + 1) registering) ::
    (List.replicate clientChannelCapacity [.send (.background 0)]).flatten ++
      [.send (.background 0)]

/-- The task has sent so many messages. -/
private def registered (messages : ℕ) : ServerQueues where
  sessions := Function.update ServerQueues.start.sessions registering
    { SessionQueues.new with direct := Channel.push^[messages] .empty }
  background := Function.update ServerQueues.start.background 0
    (List.replicate (clientChannelCapacity + 1 - messages) registering)

private theorem registered_next {messages : ℕ} (notDone : messages ≤ clientChannelCapacity) :
    (registered messages).step (.send (.background 0)) =
      some ((registered messages).sendDirect registering (.background 0)) := by
  have parked := (Channel.queued_push_iterate Sender notDone).2
  have more : clientChannelCapacity + 1 - messages = (clientChannelCapacity - messages) + 1 := by
    omega
  simp [ServerQueues.step, ServerQueues.remaining, registered, more, List.replicate_succ, parked]

private theorem registered_sends {messages : ℕ} (notFull : messages < clientChannelCapacity) :
    GuardedRuns.runMoves ServerQueues.step (registered messages) [.send (.background 0)] =
      some (registered (messages + 1)) := by
  have room := Channel.hasRoom_push_iterate Sender (Nat.le_of_lt notFull)
  have fewer : clientChannelCapacity + 1 - messages - 1 =
      clientChannelCapacity + 1 - (messages + 1) := by
    omega
  rw [GuardedRuns.runMoves, registered_next (Nat.le_of_lt notFull), Option.bind_some]
  simp [GuardedRuns.runMoves, ServerQueues.sendDirect, ServerQueues.setSession,
    ServerQueues.advance, registered, room, notFull, fewer, List.tail_replicate,
    Function.iterate_succ_apply']

private theorem registered_clear (messages : ℕ) :
    (registered messages).Clear (.send (.background 0)) := by
  intro recipientId _
  refine Or.inr ?_
  by_cases same : recipientId = registering
  · simp [ServerQueues.isHeldUp, registered, same, SessionQueues.new]
  · simp [ServerQueues.isHeldUp, registered, same, ServerQueues.start, SessionQueues.new]

/-- The task waits for the session, which is about to make room. -/
theorem longRegistration_unstalled :
    ∃ final, GuardedRuns.runMoves ServerQueues.step .start longRegistration = some final ∧
      final.Awaits (.background 0) (.session ⟨"LOVV"⟩) ∧ final.Unstalled := by
  have starts : ServerQueues.start.step (.start 0 (List.replicate (clientChannelCapacity + 1)
      registering)) = some (registered 0) := by
    simp [ServerQueues.step, ServerQueues.start, registered, SessionQueues.new]
  have each : ∀ messages, messages < clientChannelCapacity →
      GuardedRuns.runMoves ServerQueues.step (registered messages) [.send (.background 0)] =
        some (registered (messages + 1)) :=
    fun messages notFull => registered_sends notFull
  have allowed : ∀ messages, GuardedRuns.Guarded ServerQueues.step ServerQueues.Clear
      (registered messages) [.send (.background 0)] :=
    fun messages => ⟨registered_clear messages, fun _ _ => trivial⟩
  have noRoom : ((registered clientChannelCapacity).sessions registering).direct.hasRoom =
      false := by
    have room := Channel.hasRoom_push_iterate Sender
      (le_refl clientChannelCapacity)
    simp [registered, room]
  have rounds := GuardedRuns.runMoves_rounds each
  have allowedRounds := GuardedRuns.guarded_rounds each fun messages _ => allowed messages
  have last := registered_next (le_refl clientChannelCapacity)
  have runs : GuardedRuns.runMoves ServerQueues.step .start longRegistration =
      some ((registered clientChannelCapacity).sendDirect registering (.background 0)) := by
    rw [longRegistration, GuardedRuns.runMoves_append, GuardedRuns.runMoves, starts,
      Option.bind_some, rounds, Option.bind_some, GuardedRuns.runMoves, last]
    rfl
  have isClear : GuardedRuns.Guarded ServerQueues.step ServerQueues.Clear .start
      longRegistration := by
    refine GuardedRuns.Guarded.append ?_ ?_ (allowed clientChannelCapacity)
    · rw [GuardedRuns.runMoves, starts, Option.bind_some, rounds]
    · refine ⟨trivial, ?_⟩
      intro next isNext
      cases Option.some.inj (starts.symm.trans isNext)
      exact allowedRounds
  exact ⟨_, runs, (ServerQueues.awaits_sendDirect (.background 0) noRoom).1,
    run_unstalled longRegistration _ isClear runs⟩

private def burstingClient : ClientId := ⟨"LOWW"⟩

/-- The client sends another request before the session is done with the last one. -/
private def burstRound : List QueueMove :=
  [.arrive burstingClient .listClients, .takeUp burstingClient,
    .send (.session burstingClient), .finish burstingClient]

/-- A client asks for the list of clients, again and again. -/
def listClientsBurst : List QueueMove :=
  .arrive burstingClient .listClients ::
    (List.replicate clientChannelCapacity burstRound).flatten ++
      [.takeUp burstingClient, .send (.session burstingClient)]

/-- So many answers are in the queue of the session, and another request has arrived. -/
private def answering (answers : ℕ) : ServerQueues :=
  ServerQueues.start.setSession burstingClient { SessionQueues.new with
    inbound := [.listClients]
    direct := Channel.push^[answers] .empty }

private theorem burstRound_runs {answers : ℕ} (notFull : answers < clientChannelCapacity) :
    GuardedRuns.runMoves ServerQueues.step (answering answers) burstRound =
      some (answering (answers + 1)) := by
  obtain ⟨queued, parked⟩ := Channel.queued_push_iterate Sender (Nat.le_of_lt notFull)
  have room : (Channel.push^[answers]
      (.empty : Channel clientChannelCapacity Sender)).hasRoom = true := by
    rw [Channel.hasRoom_iff, queued]
    exact ⟨parked, notFull⟩
  simp [GuardedRuns.runMoves, burstRound, answering, ServerQueues.step, SessionQueues.new,
    SessionRequest.recipients, ServerQueues.remaining, ServerQueues.sendDirect, ServerQueues.advance,
    parked, room, Function.iterate_succ_apply']

/-- The session waits for room in its own queue. -/
theorem listClientsBurst_stalls :
    ∃ final, GuardedRuns.runMoves ServerQueues.step .start listClientsBurst = some final ∧
      final.Awaits (.session ⟨"LOWW"⟩) (.session ⟨"LOWW"⟩) ∧ ¬ final.Unstalled := by
  obtain ⟨queued, parked⟩ := Channel.queued_push_iterate Sender (le_refl clientChannelCapacity)
  have noRoom : (Channel.push^[clientChannelCapacity]
      (.empty : Channel clientChannelCapacity Sender)).hasRoom = false := by
    rw [← Bool.not_eq_true, Channel.hasRoom_iff, queued]
    exact fun room => lt_irrefl _ room.2
  have starts : ServerQueues.start.step (.arrive burstingClient .listClients) =
      some (answering 0) := rfl
  have rounds : GuardedRuns.runMoves ServerQueues.step (answering 0)
      (List.replicate clientChannelCapacity burstRound).flatten =
        some (answering clientChannelCapacity) :=
    GuardedRuns.runMoves_rounds fun done notFull => burstRound_runs notFull
  obtain ⟨taken, isTaken⟩ : ∃ taken, ServerQueues.start.setSession burstingClient
      { SessionQueues.new with
        direct := Channel.push^[clientChannelCapacity] .empty
        activity := .handling [burstingClient] } = taken := ⟨_, rfl⟩
  have takes : (answering clientChannelCapacity).step (.takeUp burstingClient) = some taken := by
    simp [answering, ServerQueues.step, SessionQueues.new, SessionRequest.recipients, ← isTaken]
  have sends : taken.step (.send (.session burstingClient)) =
      some (taken.sendDirect burstingClient (.session burstingClient)) := by
    simp [ServerQueues.step, ServerQueues.remaining, ← isTaken, parked]
  have full : (taken.sessions burstingClient).direct.hasRoom = false := by
    simpa [← isTaken] using noRoom
  have waits := (ServerQueues.awaits_sendDirect (.session burstingClient) full).1
  refine ⟨_, ?_, waits, fun unstalled => unstalled.acyclic _ (.single waits)⟩
  rw [listClientsBurst, GuardedRuns.runMoves_append, GuardedRuns.runMoves, starts,
    Option.bind_some, rounds, Option.bind_some, GuardedRuns.runMoves, takes, Option.bind_some,
    GuardedRuns.runMoves, sends]
  rfl

end FullQueues

end Vacs
