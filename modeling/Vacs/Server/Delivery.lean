import Vacs.Foundations.GuardedRuns
import Vacs.Server.Handlers

/-!
# Delivering call messages

The handlers of different clients run at the same time, one step after the other,
and put what they send into the queues of the recipients. The session of a client
takes the messages out of its queue in order. It reads the state of the call again
for every update it forwards, because an update that was computed earlier may be
queued behind a newer one (`refreshCallUpdate`).

Everything that happens to a client is kept in its log, the newest event first: the
messages it received, the calls it joined, and the calls it answered.
-/

set_option autoImplicit false

namespace Vacs

/-- Something that happened to a client. -/
inductive ClientEvent where
  | received (message : ServerMessage)
  | joined (callId : CallId)
  | answered (callId : CallId)
deriving DecidableEq

/-- The update a session forwards. Everything but an update is forwarded as it is, and so is an
update about a call the client is no longer a party of. -/
def refreshCallUpdate (order : Iteration) (s : CallManager) (clientId : ClientId) :
    ServerMessage → ServerMessage
  | .callUpdate update =>
      match s.callStateForParty order update.callId clientId with
      | some current => .callUpdate (current.forRecipient clientId)
      | none => .callUpdate update
  | message => message

namespace Operation

/-- The call an operation is about. -/
def call : Operation → Option CallId
  | .attemptCall callId _ _ _ _ => some callId
  | .rejectCall callId _ => some callId
  | .failRingingRecipient callId _ => some callId
  | .callError callId _ => some callId
  | .acceptCall callId _ => some callId
  | .dropTarget callId _ _ _ => some callId
  | .endCall callId _ => some callId
  | .reportLinkFailure callId _ _ => some callId
  | .cleanupClientCalls _ => none

/-- The call whose invitation a client accepts, rejects or fails. -/
def answers : Operation → Option CallId
  | .rejectCall callId _ => some callId
  | .failRingingRecipient callId _ => some callId
  | .callError callId _ => some callId
  | .acceptCall callId _ => some callId
  | _ => none

/-- What an operation means to a client: it may have joined the call, and it may be the one that
answers. -/
def events (op : Operation) (before after : CallManager) (clientId : ClientId) :
    List ClientEvent :=
  ((op.call.toList.filter fun callId =>
      decide (clientId ∈ (after.activeCallSnapshot callId).1.keys ∧
        clientId ∉ (before.activeCallSnapshot callId).1.keys)).map .joined) ++
    (if clientId = op.actor then op.answers.toList.map .answered else [])

end Operation

/-- The call manager, the handlers in progress, and the queues and logs of the clients. -/
structure CallServer where
  calls : CallManager
  handlers : HashMap ClientId (List HandlerStep)
  queues : HashMap ClientId (List ServerMessage)
  logs : ClientId → List ClientEvent

/-- A message of a client arrives, a handler takes its next step, or a session forwards a
message. -/
inductive ServerMove where
  | receive (clientId : ClientId) (message : ClientMessage)
      (covering : CallTarget → Finset ClientId) (rejection : Option CallInviteRejection)
      (order : Iteration)
  | proceed (clientId : ClientId) (order : Iteration) (now : Instant)
  | deliver (clientId : ClientId) (order : Iteration)

namespace CallServer

def start (maxConfSize : ℕ) : CallServer where
  calls := CallManager.new maxConfSize
  handlers := ∅
  queues := ∅
  logs _ := []

/-- The messages that wait for a client. -/
def queue (state : CallServer) (clientId : ClientId) : List ServerMessage :=
  (state.queues.lookup clientId).getD []

/-- What a step of a handler, carried out, adds to the logs. -/
def logged (state : CallServer) (clientId : ClientId) (step : HandlerStep) (after : CallManager)
    (other : ClientId) : List ClientEvent :=
  match step.operation clientId with
  | none => state.logs other
  | some op => op.events state.calls after other ++ state.logs other

/-- Carry out one step of the handler of a client. -/
def carryOut (state : CallServer) (clientId : ClientId) (order : Iteration) (now : Instant)
    (step : HandlerStep) (remaining : List HandlerStep) : CallServer :=
  match step with
  | .send recipientId message =>
      { state with
        handlers := state.handlers.insert clientId remaining
        queues := state.queues.insert recipientId (state.queue recipientId ++ [message]) }
  | step =>
      let result := step.perform order now state.calls clientId
      { state with
        calls := result.1
        handlers := state.handlers.insert clientId (result.2 ++ remaining)
        logs := state.logged clientId step result.1 }

/-- A client has one handler in progress at a time. -/
def step (state : CallServer) : ServerMove → Option CallServer
  | .receive clientId message covering rejection order =>
      if clientId ∈ state.handlers.keys then none
      else some { state with
        handlers := state.handlers.insert clientId
          (handleMessage order covering rejection clientId message) }
  | .proceed clientId order now =>
      (state.handlers.lookup clientId).map fun steps =>
        match steps with
        | [] => { state with handlers := state.handlers.erase clientId }
        | step :: remaining => state.carryOut clientId order now step remaining
  | .deliver clientId order =>
      match state.queue clientId with
      | [] => none
      | message :: rest => some { state with
          queues := state.queues.insert clientId rest
          logs := Function.update state.logs clientId
            (.received (refreshCallUpdate order state.calls clientId message) ::
              state.logs clientId) }

/-- All handlers have finished and all queues are drained. -/
def Quiet (state : CallServer) : Prop :=
  state.handlers = ∅ ∧ ∀ clientId, state.queue clientId = []

theorem queue_insert {state next : CallServer} {clientId : ClientId}
    {messages : List ServerMessage} (queues : next.queues = state.queues.insert clientId messages)
    (other : ClientId) :
    next.queue other = if other = clientId then messages else state.queue other := by
  unfold queue
  rw [queues, Finmap.lookup_insert_eq]
  split <;> rfl

theorem quiet_of_empty {state : CallServer} (finished : state.handlers.keys = ∅)
    (drained : (state.queues.anyValue fun messages => !messages.isEmpty) = false) :
    state.Quiet := by
  have nobody := (Finmap.keys_eq_empty_iff state.handlers).mp finished
  refine ⟨Finmap.ext_lookup fun clientId => ?_, fun clientId => ?_⟩
  · rw [nobody, Finmap.lookup_empty]
  · unfold queue
    cases found : state.queues.lookup clientId with
    | none => rfl
    | some messages =>
        rw [← Bool.not_eq_true, Finmap.anyValue_iff] at drained
        by_contra waiting
        exact drained ⟨clientId, messages, found, by simpa using waiting⟩

/-- A handler in progress is going to send a message. -/
def Sending (state : CallServer) (recipientId : ClientId) (message : ServerMessage) : Prop :=
  ∃ clientId steps, state.handlers.lookup clientId = some steps ∧
    .send recipientId message ∈ steps

/-- A message is on its way to a client: it waits in its queue, or a handler is going to send
it. -/
def Underway (state : CallServer) (recipientId : ClientId) (message : ServerMessage) : Prop :=
  message ∈ state.queue recipientId ∨ state.Sending recipientId message

/-- Everything the server can do in one move. -/
inductive Steps (state : CallServer) : CallServer → Prop where
  | receive {clientId : ClientId} (message : ClientMessage)
      (covering : CallTarget → Finset ClientId) (rejection : Option CallInviteRejection)
      (order : Iteration) (idle : state.handlers.lookup clientId = none) :
      Steps state { state with
        handlers := state.handlers.insert clientId
          (handleMessage order covering rejection clientId message) }
  | finish {clientId : ClientId} (found : state.handlers.lookup clientId = some []) :
      Steps state { state with handlers := state.handlers.erase clientId }
  | send {clientId recipientId : ClientId} {message : ServerMessage}
      {remaining : List HandlerStep}
      (found : state.handlers.lookup clientId = some (.send recipientId message :: remaining)) :
      Steps state { state with
        handlers := state.handlers.insert clientId remaining
        queues := state.queues.insert recipientId (state.queue recipientId ++ [message]) }
  | perform {clientId : ClientId} (order : Iteration) (now : Instant) {step : HandlerStep}
      {remaining : List HandlerStep}
      (found : state.handlers.lookup clientId = some (step :: remaining))
      (notSend : ∀ recipientId message, step ≠ .send recipientId message) :
      Steps state { state with
        calls := (step.perform order now state.calls clientId).1
        handlers := state.handlers.insert clientId
          ((step.perform order now state.calls clientId).2 ++ remaining)
        logs := state.logged clientId step (step.perform order now state.calls clientId).1 }
  | deliver {clientId : ClientId} (order : Iteration) {message : ServerMessage}
      {rest : List ServerMessage} (found : state.queue clientId = message :: rest) :
      Steps state { state with
        queues := state.queues.insert clientId rest
        logs := Function.update state.logs clientId
          (.received (refreshCallUpdate order state.calls clientId message) ::
            state.logs clientId) }

theorem carryOut_of_notSend {state : CallServer} {clientId : ClientId} {order : Iteration}
    {now : Instant} {step : HandlerStep} {remaining : List HandlerStep}
    (notSend : ∀ recipientId message, step ≠ .send recipientId message) :
    state.carryOut clientId order now step remaining =
      { state with
        calls := (step.perform order now state.calls clientId).1
        handlers := state.handlers.insert clientId
          ((step.perform order now state.calls clientId).2 ++ remaining)
        logs := state.logged clientId step (step.perform order now state.calls clientId).1 } := by
  unfold carryOut
  split
  · exact absurd rfl (notSend _ _)
  · rfl

theorem step_steps {state next : CallServer} {move : ServerMove}
    (steps : state.step move = some next) : Steps state next := by
  cases move with
  | receive clientId message covering rejection order =>
      simp only [step] at steps
      split at steps
      · cases steps
      · rename_i idle
        cases steps
        refine .receive message covering rejection order ?_
        exact Finmap.lookup_eq_none.mpr (by rwa [Finmap.mem_keys] at idle)
  | proceed clientId order now =>
      obtain ⟨pending, found, isNext⟩ := Option.map_eq_some_iff.mp steps
      cases pending with
      | nil =>
          subst isNext
          exact .finish found
      | cons first remaining =>
          subst isNext
          by_cases isSend : ∃ recipientId message, first = .send recipientId message
          · obtain ⟨recipientId, message, rfl⟩ := isSend
            exact .send found
          · have notSend : ∀ recipientId message, first ≠ .send recipientId message :=
              fun recipientId message same => isSend ⟨recipientId, message, same⟩
            dsimp only
            rw [carryOut_of_notSend notSend]
            exact .perform order now found notSend
  | deliver clientId order =>
      simp only [step] at steps
      split at steps
      · cases steps
      · rename_i message rest found
        cases steps
        exact .deliver order found

/-! ## What is on its way -/

theorem Sending.elsewhere {state : CallServer} {client : ClientId} {before : List HandlerStep}
    (found : state.handlers.lookup client = some before) {recipient : ClientId}
    {message : ServerMessage} (sending : state.Sending recipient message)
    (after : List HandlerStep) :
    .send recipient message ∈ before ∨ ∃ other steps,
      (state.handlers.insert client after).lookup other = some steps ∧
        .send recipient message ∈ steps := by
  obtain ⟨other, steps, isOther, member⟩ := sending
  by_cases same : other = client
  · subst same
    rw [found] at isOther
    cases isOther
    exact .inl member
  · refine .inr ⟨other, steps, ?_, member⟩
    rwa [Finmap.lookup_insert_of_ne _ same]

theorem sending_new {next : CallServer} {handlers : HashMap ClientId (List HandlerStep)}
    {client : ClientId} {after : List HandlerStep}
    (isNext : next.handlers = handlers.insert client after) {recipient : ClientId}
    {message : ServerMessage} (member : .send recipient message ∈ after) :
    next.Sending recipient message :=
  ⟨client, after, by rw [isNext, Finmap.lookup_insert], member⟩

/-- A message that a handler is going to send stays so until it is put into the queue. -/
theorem Steps.sending {state next : CallServer} (steps : Steps state next)
    {recipient : ClientId} {message : ServerMessage} (sending : state.Sending recipient message) :
    next.Sending recipient message ∨
      (next.queue recipient = state.queue recipient ++ [message] ∧ next.logs = state.logs) := by
  cases steps with
  | @receive client arrived covering rejection order idle =>
      left
      obtain ⟨other, steps, found, member⟩ := sending
      refine ⟨other, steps, ?_, member⟩
      have different : other ≠ client := by
        rintro rfl
        rw [idle] at found
        cases found
      rwa [Finmap.lookup_insert_of_ne _ different]
  | @finish client found =>
      left
      obtain ⟨other, steps, isOther, member⟩ := sending
      refine ⟨other, steps, ?_, member⟩
      have different : other ≠ client := by
        rintro rfl
        rw [found] at isOther
        cases isOther
        cases member
      rwa [Finmap.lookup_erase_ne different]
  | @send client addressed sent remaining found =>
      rcases sending.elsewhere found remaining with member | sending
      · rcases List.mem_cons.mp member with isSent | member
        · cases isSent
          right
          refine ⟨?_, rfl⟩
          rw [queue_insert rfl, if_pos rfl]
        · exact .inl (sending_new rfl member)
      · exact .inl sending
  | @perform client order now step remaining found notSend =>
      left
      rcases sending.elsewhere found _ with member | sending
      · rcases List.mem_cons.mp member with isStep | member
        · exact absurd isStep.symm (notSend recipient message)
        · exact sending_new rfl (List.mem_append_right _ member)
      · exact sending
  | deliver => exact .inl sending

/-- What is on its way to a client stays on its way until it is delivered. -/
theorem Steps.underway {state next : CallServer} (steps : Steps state next)
    {recipient : ClientId} {message : ServerMessage} (underway : state.Underway recipient message) :
    next.Underway recipient message ∨
      ∃ order rest, state.queue recipient = message :: rest ∧
        next = { state with
          queues := state.queues.insert recipient rest
          logs := Function.update state.logs recipient
            (.received (refreshCallUpdate order state.calls recipient message) ::
              state.logs recipient) } := by
  rcases underway with queued | sending
  · cases steps with
    | receive => exact .inl (.inl queued)
    | finish => exact .inl (.inl queued)
    | @send client addressed sent remaining found =>
        refine .inl (.inl ?_)
        rw [queue_insert rfl]
        split
        · rename_i same
          subst same
          exact List.mem_append_left _ queued
        · exact queued
    | perform => exact .inl (.inl queued)
    | @deliver client order delivered rest found =>
        by_cases same : recipient = client
        · subst same
          rw [found] at queued
          rcases List.mem_cons.mp queued with rfl | queued
          · exact .inr ⟨order, rest, found, rfl⟩
          · refine .inl (.inl ?_)
            rwa [queue_insert rfl, if_pos rfl]
        · refine .inl (.inl ?_)
          rwa [queue_insert rfl, if_neg same]
  · left
    rcases steps.sending sending with still | ⟨queued, _⟩
    · exact .inr still
    · refine .inl ?_
      rw [queued]
      exact List.mem_append_right _ (List.mem_singleton.mpr rfl)

end CallServer

end Vacs
