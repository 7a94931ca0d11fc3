import Vacs.Foundations.GuardedRuns
import Vacs.Signaling.Messages

/-!
# Logging in

`login` sends the Login message and then awaits the answer: it subscribes to the
broadcast of received messages and reads until a message comes. The reader task
broadcasts what it receives to the receivers that exist at that moment. The two
tasks interleave at these steps.

`Awaits` says what login has in its hands at each of its steps. It holds along
every run in which login subscribes before the reader broadcasts the first message
after the Login (`Awaits.step`), and it gives that reading on returns the result for
that message (`Awaits.observes`).

The signaling client stays in its `Connected` state during the login, and nobody
disconnects it.
-/

set_option autoImplicit false

namespace Vacs

open GuardedRuns

namespace Signaling

/-! ## Broadcast receivers -/

/-- A receiver of a broadcast channel: the retained events it has not read, and how many it
has missed because the channel was full. -/
structure BroadcastReceiver where
  pending : List SignalingEvent := []
  skipped : ℕ := 0
deriving DecidableEq

namespace BroadcastReceiver

/-- A channel that is full drops its oldest event. -/
def push (receiver : BroadcastReceiver) (capacity : ℕ) (event : SignalingEvent) :
    BroadcastReceiver :=
  if receiver.pending.length < capacity then
    { receiver with pending := receiver.pending ++ [event] }
  else
    { pending := (receiver.pending ++ [event]).tail
      skipped := receiver.skipped + 1 }

end BroadcastReceiver

/-- The messages among events. -/
def messages (events : List SignalingEvent) : List ServerMessage :=
  events.filterMap fun
    | .message message => some message
    | .error _ => none

/-! ## The login call and the reader task -/

/-- Client info, active profile, default call sources and advertised call size limit. -/
structure LoginInfo where
  clientInfo : ClientInfo
  profile : ActiveProfile Profile
  defaultCallSources : List StationId
  maxConfSize : Option ℕ
deriving DecidableEq

/-- What `login` returns for the message it received. -/
def loginResult : ServerMessage → Except SignalingError LoginInfo
  | .sessionInfo info =>
      match info.profile with
      | .changed profile => .ok ⟨info.client, profile, info.defaultCallSources, info.maxConfSize⟩
      | .unchanged => .error (.protocolError "Expected active profile after Login")
  | .loginFailure reason => .error (.loginError reason)
  | .error error => .error (.runtime (.serverError error.reason))
  | _ => .error (.protocolError "Expected own session info after Login")

inductive LoginPhase where
  /-- The Login message has not been sent yet. -/
  | starting
  /-- The Login message is sent, `recv_with_timeout` is still to subscribe. -/
  | sent
  | waiting (receiver : BroadcastReceiver)
  | returned (result : Except SignalingError LoginInfo)
deriving DecidableEq

/-- A login call and the reader task; `received` are the known messages the reader has received
since the Login was sent. -/
structure LoginState where
  phase : LoginPhase := .starting
  readerRuns : Bool := true
  received : List ServerMessage := []
deriving DecidableEq

inductive LoginMove where
  | send
  | subscribe
  /-- Login reads one event. -/
  | poll
  /-- The login timeout expires. -/
  | expire
  /-- The reader task receives a message or an error from the transport. -/
  | receive (item : Except SignalingRuntimeError ServerMessage)

namespace LoginState

/-- The reader sends an event to the receivers that exist. -/
def broadcast (state : LoginState) (capacity : ℕ) (event : SignalingEvent) : LoginState :=
  match state.phase with
  | .waiting receiver => { state with phase := .waiting (receiver.push capacity event) }
  | .starting | .sent | .returned _ => state

/-- The known messages that arrive once the Login is out. -/
def recordMessage (state : LoginState) (message : ServerMessage) : LoginState :=
  match state.phase with
  | .starting => state
  | .sent | .waiting _ | .returned _ => { state with received := state.received ++ [message] }

/-- One round of `recv_with_timeout`: a lagged receiver is an error, a message is the result, and
other events are skipped. -/
def poll (receiver : BroadcastReceiver) : Option LoginPhase :=
  if 0 < receiver.skipped then
    some (.returned (.error (.other ("channel lagged by " ++ toString receiver.skipped))))
  else
    match receiver.pending with
    | [] => none
    | .message message :: _ => some (.returned (loginResult message))
    | .error _ :: pending => some (.waiting { receiver with pending := pending })

/-- The receiver is polled before the timer: a timeout needs an empty receiver. -/
def expire (receiver : BroadcastReceiver) : Option LoginPhase :=
  if receiver.skipped = 0 ∧ receiver.pending = [] then
    some (.returned (.error (.timeout "Timeout waiting for message")))
  else none

/-- One round of the reader task. Before the login has succeeded, a transport error ends the
task without an event. -/
def receive (state : LoginState) (capacity : ℕ) :
    Except SignalingRuntimeError ServerMessage → LoginState
  | .ok .unknown => state
  | .ok message => (state.recordMessage message).broadcast capacity (.message message)
  | .error (.serializationError message) =>
      state.broadcast capacity (.error (.serializationError message))
  | .error _ => { state with readerRuns := false }

def step (capacity : ℕ) (state : LoginState) : LoginMove → Option LoginState
  | .send =>
      match state.phase with
      | .starting => some { state with phase := .sent }
      | .sent | .waiting _ | .returned _ => none
  | .subscribe =>
      match state.phase with
      | .sent => some { state with phase := .waiting {} }
      | .starting | .waiting _ | .returned _ => none
  | .poll =>
      match state.phase with
      | .waiting receiver => (poll receiver).map fun phase => { state with phase := phase }
      | .starting | .sent | .returned _ => none
  | .expire =>
      match state.phase with
      | .waiting receiver => (expire receiver).map fun phase => { state with phase := phase }
      | .starting | .sent | .returned _ => none
  | .receive item => if state.readerRuns then some (state.receive capacity item) else none

/-! ## The answer reaches the login -/

/-- The first message received after the Login was sent is what login returns a result for, at
once or after reading on. -/
def Observes (capacity : ℕ) (state : LoginState) : Prop :=
  ∀ answer ∈ state.received.head?, ∃ rounds final,
    runMoves (step capacity) state (List.replicate rounds .poll) = some final ∧
      final.phase = .returned (loginResult answer)

/-- The timeout does not run out before the server has answered. -/
def answersInTime (state : LoginState) (move : LoginMove) : Bool :=
  match move with
  | .expire => decide (state.received ≠ [])
  | .send | .subscribe | .poll | .receive _ => true

/-- A waiting login has not let a full channel of events pile up unread. -/
def hasRoom (capacity : ℕ) (state : LoginState) : Bool :=
  match state.phase with
  | .waiting receiver => decide (receiver.pending.length < capacity)
  | .starting | .sent | .returned _ => true

/-- Login has subscribed when the reader broadcasts a message after the Login, and no broadcast
overflows its receiver. -/
def isSubscribed (capacity : ℕ) (state : LoginState) (move : LoginMove) : Bool :=
  match move with
  | .receive (.ok .unknown) => true
  | .receive (.ok _) => decide (state.phase ≠ .sent) && state.hasRoom capacity
  | .receive (.error (.serializationError _)) => state.hasRoom capacity
  | _ => true

/-- What login has of the messages received since it sent the Login. -/
def Awaits (state : LoginState) : Prop :=
  match state.phase with
  | .starting | .sent => state.received = []
  | .waiting receiver => receiver.skipped = 0 ∧ messages receiver.pending = state.received
  | .returned result => ∃ answer, state.received.head? = some answer ∧ result = loginResult answer

theorem awaits_initial : Awaits {} := rfl

/-- A broadcast that is no message leaves login as it was, up to the events to skip. -/
theorem Awaits.broadcast_error {state : LoginState} (awaits : state.Awaits) {capacity : ℕ}
    (room : state.hasRoom capacity = true) (error : SignalingRuntimeError) :
    (state.broadcast capacity (.error error)).Awaits := by
  unfold broadcast
  cases phase : state.phase with
  | waiting receiver =>
      simp only [Awaits, phase, hasRoom, decide_eq_true_eq] at awaits room ⊢
      simp only [BroadcastReceiver.push, room, if_true]
      refine ⟨awaits.1, ?_⟩
      rw [← awaits.2]
      simp [messages]
  | starting | sent | returned result => exact awaits

/-- A message that is broadcast after login has subscribed is in its receiver. -/
theorem Awaits.receive_message {state : LoginState} (awaits : state.Awaits) {capacity : ℕ}
    (subscribed : state.phase ≠ .sent) (room : state.hasRoom capacity = true)
    (message : ServerMessage) :
    ((state.recordMessage message).broadcast capacity (.message message)).Awaits := by
  unfold recordMessage broadcast
  cases phase : state.phase with
  | starting =>
      simp only [phase]
      exact awaits
  | sent => exact absurd phase subscribed
  | waiting receiver =>
      simp only [Awaits, phase, hasRoom, decide_eq_true_eq] at awaits room ⊢
      simp only [BroadcastReceiver.push, room, if_true]
      refine ⟨awaits.1, ?_⟩
      rw [← awaits.2]
      simp [messages]
  | returned result =>
      simp only [Awaits, phase] at awaits ⊢
      obtain ⟨answer, first, isResult⟩ := awaits
      refine ⟨answer, ?_, isResult⟩
      rw [List.head?_append, first]
      rfl

theorem Awaits.receive {state : LoginState} (awaits : state.Awaits) {capacity : ℕ}
    {item : Except SignalingRuntimeError ServerMessage}
    (subscribed : state.isSubscribed capacity (.receive item) = true) :
    (state.receive capacity item).Awaits := by
  unfold LoginState.receive
  split
  case h_1 => exact awaits
  case h_2 message known =>
    have subscribed : (decide (state.phase ≠ .sent) && state.hasRoom capacity) = true := by
      cases message <;> first | exact subscribed | exact absurd rfl known
    obtain ⟨notSent, room⟩ := Bool.and_eq_true_iff.mp subscribed
    exact awaits.receive_message (of_decide_eq_true notSent) room message
  case h_3 message => exact awaits.broadcast_error subscribed _
  case h_4 => exact awaits

/-- Reading an event keeps what login has, or returns the result for the first message. -/
theorem Awaits.poll {state : LoginState} {receiver : BroadcastReceiver}
    (isWaiting : state.phase = .waiting receiver) (awaits : state.Awaits) {phase : LoginPhase}
    (polled : LoginState.poll receiver = some phase) : Awaits { state with phase := phase } := by
  simp only [Awaits, isWaiting] at awaits
  obtain ⟨unskipped, sameMessages⟩ := awaits
  unfold LoginState.poll at polled
  rw [if_neg (by omega)] at polled
  split at polled
  case h_1 => cases polled
  case h_2 message pending isPending =>
    cases polled
    refine ⟨message, ?_, rfl⟩
    rw [← sameMessages, isPending]
    rfl
  case h_3 error pending isPending =>
    cases polled
    refine ⟨unskipped, ?_⟩
    rw [← sameMessages, isPending]
    rfl

theorem Awaits.step {state next : LoginState} (awaits : state.Awaits) {capacity : ℕ}
    {move : LoginMove} (inTime : state.answersInTime move = true)
    (subscribed : state.isSubscribed capacity move = true)
    (steps : state.step capacity move = some next) : next.Awaits := by
  cases move with
  | send =>
      simp only [LoginState.step] at steps
      split at steps
      case h_1 isStarting =>
        cases steps
        simpa only [Awaits, isStarting] using awaits
      all_goals cases steps
  | subscribe =>
      simp only [LoginState.step] at steps
      split at steps
      case h_1 isSent =>
        cases steps
        simp only [Awaits, isSent] at awaits
        exact ⟨rfl, awaits.symm⟩
      all_goals cases steps
  | poll =>
      simp only [LoginState.step] at steps
      split at steps
      case h_1 receiver isWaiting =>
        obtain ⟨phase, polled, rfl⟩ := Option.map_eq_some_iff.mp steps
        exact awaits.poll isWaiting polled
      all_goals cases steps
  | expire =>
      simp only [LoginState.step] at steps
      split at steps
      case h_1 receiver isWaiting =>
        obtain ⟨phase, expired, -⟩ := Option.map_eq_some_iff.mp steps
        -- the answer is in the receiver, so the timer is not reached
        unfold LoginState.expire at expired
        split at expired
        case isTrue empty =>
          simp only [Awaits, isWaiting] at awaits
          rw [empty.2] at awaits
          exact absurd awaits.2.symm (of_decide_eq_true inTime)
        case isFalse => cases expired
      all_goals cases steps
  | receive item =>
      simp only [LoginState.step] at steps
      split at steps
      case isTrue =>
        cases steps
        exact awaits.receive subscribed
      case isFalse => cases steps

/-- Reading on comes to the first message that is pending. -/
theorem runMoves_poll {capacity : ℕ} {answer : ServerMessage} {pending : List SignalingEvent}
    (first : (messages pending).head? = some answer) (readerRuns : Bool)
    (received : List ServerMessage) :
    ∃ rounds final,
      runMoves (LoginState.step capacity) ⟨.waiting ⟨pending, 0⟩, readerRuns, received⟩
        (List.replicate rounds .poll) = some final ∧
      final.phase = .returned (loginResult answer) := by
  induction pending with
  | nil => cases first
  | cons event pending ih =>
      cases event with
      | message message =>
          cases first
          exact ⟨1, _, rfl, rfl⟩
      | error error =>
          obtain ⟨rounds, final, runs, returned⟩ := ih first
          exact ⟨rounds + 1, final, runs, returned⟩

theorem Awaits.observes {state : LoginState} (awaits : state.Awaits) (capacity : ℕ) :
    state.Observes capacity := by
  intro answer first
  obtain ⟨phase, readerRuns, received⟩ := state
  cases phase with
  | starting | sent =>
      cases awaits
      cases first
  | waiting receiver =>
      obtain ⟨pending, skipped⟩ := receiver
      obtain ⟨unskipped, sameMessages⟩ := awaits
      cases unskipped
      apply runMoves_poll
      rw [sameMessages]
      exact first
  | returned result =>
      obtain ⟨other, isFirst, rfl⟩ := awaits
      cases isFirst.symm.trans first
      exact ⟨0, _, rfl, rfl⟩

/-! ## Runs -/

/-- Along every run in which the server answers in time and login has subscribed before the reader
broadcasts the first message after the Login, that message is the one login returns a result
for. -/
theorem login_observes {capacity : ℕ} {moves : List LoginMove} {final : LoginState}
    (guarded : Guarded (step capacity)
      (fun state move =>
        state.answersInTime move = true ∧ state.isSubscribed capacity move = true) {} moves)
    (runs : runMoves (step capacity) {} moves = some final) : final.Observes capacity := by
  have awaits : final.Awaits := guarded.preserves
    (fun state move next awaits guards steps => Awaits.step awaits guards.1 guards.2 steps) runs
    awaits_initial
  exact awaits.observes capacity

def broadcastChannelSize : ℕ := 100

/-- The session of a client that covers LOVV. -/
def loviSession : SessionInfo where
  client := ⟨⟨"LOVI"⟩, "LOVV_CTR", "134.350", some ⟨"LOVV_CTR"⟩⟩
  profile := .changed .custom
  defaultCallSources := [⟨"LOVV"⟩]
  maxConfSize := some 5

/-- The server answers after login has subscribed; a message that could not be decoded and a
station list are around the answer. -/
def answeredLogin : List LoginMove :=
  [.send, .subscribe, .receive (.error (.serializationError "unexpected end of input")),
    .receive (.ok (.sessionInfo loviSession)), .receive (.ok (.stationList [])), .poll]

theorem answeredLogin_observes :
    ∃ final, runMoves (step broadcastChannelSize) {} answeredLogin = some final ∧
      final.received.head? = some (.sessionInfo loviSession) ∧
      final.Observes broadcastChannelSize := by
  have guarded : Guarded (step broadcastChannelSize)
      (fun state move =>
        state.answersInTime move = true ∧ state.isSubscribed broadcastChannelSize move = true) {}
      answeredLogin := by
    decide +kernel
  have outcome : (runMoves (step broadcastChannelSize) {} answeredLogin).any
      (fun final => decide (final.received.head? = some (.sessionInfo loviSession))) = true := by
    decide +kernel
  obtain ⟨final, runs, first⟩ := (Option.any_eq_true _ _).mp outcome
  exact ⟨final, runs, of_decide_eq_true first, login_observes guarded runs⟩

/-- The server answers before login has subscribed. -/
def fastAnswer : List LoginMove :=
  [.send, .receive (.ok (.sessionInfo loviSession)), .subscribe, .expire]

/-- The answer is broadcast to nobody, and login times out although the server has answered. -/
theorem fastAnswer_timesOut :
    ∃ final, runMoves (step broadcastChannelSize) {} fastAnswer = some final ∧
      Guarded (step broadcastChannelSize) (fun state move => state.answersInTime move = true) {}
        fastAnswer ∧
      final.received = [.sessionInfo loviSession] ∧
      final.phase = .returned (.error (.timeout "Timeout waiting for message")) ∧
      ¬ final.Observes broadcastChannelSize := by
  have inTime : Guarded (step broadcastChannelSize)
      (fun state move => state.answersInTime move = true) {} fastAnswer := by
    decide +kernel
  refine ⟨⟨.returned (.error (.timeout "Timeout waiting for message")), true,
    [.sessionInfo loviSession]⟩, rfl, inTime, rfl, rfl, fun observes => ?_⟩
  obtain ⟨rounds, final, runs, returned⟩ := observes (.sessionInfo loviSession) rfl
  cases rounds with
  | zero =>
      cases runs
      cases returned
  | succ rounds => cases runs

end LoginState

end Signaling

end Vacs
