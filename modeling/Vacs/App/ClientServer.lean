import Vacs.App.Calls
import Vacs.Server.HandlerCoherence

/-!
# One client and the server

The app of one client and the server talk over a connection that keeps messages in order.
What the app sends is taken up by the client's session, one message after the other, and
what the session forwards reaches the app later. The handlers of the other clients run at
the same time, and other clients may disconnect.

Every local action of the user, every expiring timer and every step of the server may come
at any time.
-/

set_option autoImplicit false

namespace Vacs

namespace HandlerStep

/-! ## Disconnecting clients -/

/-- What is sent for one action that a disconnecting client leaves behind. -/
def sendCleanupAction (order : Iteration) (clientId : ClientId) :
    UpdateCallAction → List HandlerStep
  | .cancelRingingTarget ringingTarget =>
      let cancelled := fun reason => ServerMessage.callCancelled
        { callId := ringingTarget.callId, targets := {ringingTarget.target}, reason := reason }
      let notified := order.clients.list ringingTarget.notifiedClients
      if ringingTarget.callerId = clientId then
        notified.map fun recipientId => .send recipientId (cancelled .callerCancelled)
      else
        (ringingTarget.callerId :: notified).map fun recipientId =>
          .send recipientId (cancelled .disconnected)
  | .dropParticipant callId participantId =>
      [.send participantId (.callEnd { callId := callId, endingClientId := clientId })]
  | .updateParticipants update => (update.allParticipants order).map (sendCallUpdate update)

theorem invite_sendCleanupAction {order : Iteration} {clientId : ClientId}
    {action : UpdateCallAction} {step : HandlerStep}
    (member : step ∈ sendCleanupAction order clientId action) : step.invite = none := by
  cases action with
  | cancelRingingTarget target =>
      simp only [sendCleanupAction] at member
      split at member
      · obtain ⟨_, _, rfl⟩ := List.mem_map.mp member
        rfl
      · obtain ⟨_, _, rfl⟩ := List.mem_map.mp member
        rfl
  | dropParticipant call participant =>
      rw [List.mem_singleton.mp member]
      rfl
  | updateParticipants update => exact invite_map_sendCallUpdate member

end HandlerStep

namespace CallServer

/-- The calls of a client are cleaned up, and its session sends what has to be told about
it. -/
def disconnect (state : CallServer) (clientId : ClientId) (order : Iteration) : CallServer :=
  let result := state.calls.cleanupClientCalls order clientId
  { state with
    calls := result.1
    handlers := state.handlers.insert clientId
      (result.2.flatMap (HandlerStep.sendCleanupAction order clientId)) }

theorem Orderly.disconnect {state : CallServer} (orderly : state.Orderly) (clientId : ClientId)
    (order : Iteration) : (state.disconnect clientId order).Orderly where
  coherent := by
    have fromCaller : (⟨.cleanupClientCalls clientId, order, 0⟩ : Request).op.FromCaller := trivial
    exact next_coherent orderly.coherent fromCaller
  fromClient := by
    intro other pending found step member progress isInvite
    simp only [CallServer.disconnect, Finmap.lookup_insert_eq] at found
    split at found
    · cases found
      obtain ⟨action, _, member⟩ := List.mem_flatMap.mp member
      rw [HandlerStep.invite_sendCleanupAction member] at isInvite
      cases isInvite
    · exact orderly.fromClient other pending found step member progress isInvite

end CallServer

/-- The move is not one of the session of the client. -/
def ServerMove.avoids (clientId : ClientId) : ServerMove → Bool
  | .receive other _ _ _ _ => decide (other ≠ clientId)
  | .proceed _ _ _ => true
  | .deliver other _ => decide (other ≠ clientId)

/-- The call a message is about. -/
def ClientMessage.callId : ClientMessage → CallId
  | .callInvite invite => invite.callId
  | .callAccept callId _ => callId
  | .callReject callId _ _ => callId
  | .callEnd ended => ended.callId
  | .callError error => error.callId
  | .callDropTarget callId _ _ => callId

namespace App

/-! ## The system -/

/-- The server, the app of one client, and what is on its way between them. -/
structure ClientServer where
  server : CallServer
  inbound : List ClientMessage
  outbound : List ServerMessage
  app : AppStateInner

inductive SystemMove where
  /-- A handler takes a step, or another client sends or is sent a message. -/
  | others (move : ServerMove)
  /-- Another client disconnects. -/
  | disconnect (clientId : ClientId) (order : Iteration)
  /-- The session of the client takes up its next message. -/
  | takeUp (covering : CallTarget → Finset ClientId) (rejection : Option CallInviteRejection)
      (order : Iteration)
  /-- The session forwards the next message to the app. -/
  | forward (order : Iteration)
  /-- The app handles the next message. -/
  | handle
  | inviteToCall (order : Iteration) (freshId : CallId) (source : CallSource)
      (targets : Finset CallTarget) (prio : Bool)
  | dropTarget (callId : CallId) (target : CallTarget)
  | acceptCall (callId : CallId) (endActiveCall : Bool)
  | endCall (callId : CallId)
  | timerExpired (target : CallTarget)

namespace ClientServer

/-- The steps that the handler of the client still has to take. -/
def pendingSteps (state : ClientServer) : List HandlerStep :=
  (state.server.handlers.lookup state.app.clientId).getD []

/-- Nothing the client could be about to do is about the call. -/
def Fresh (state : ClientServer) (callId : CallId) : Prop :=
  callId ∉ state.server.calls.ringingCalls.keys ∧ callId ∉ state.server.calls.activeCalls.keys ∧
    callId ∉ state.app.incomingCalls.keys ∧
    (∀ message ∈ state.inbound, message.callId ≠ callId) ∧
    ∀ step ∈ state.pendingSteps, step.invite.map (·.invite.callId) ≠ some callId

instance (state : ClientServer) (callId : CallId) : Decidable (state.Fresh callId) := by
  unfold Fresh
  infer_instance

/-- The client has acted: its app has changed, and it has sent messages. -/
def act (state : ClientServer) (result : AppStateInner × List ClientMessage) : ClientServer :=
  { state with app := result.1, inbound := state.inbound ++ result.2 }

/-- One step of the system. The id of a new call is one that nobody has used. -/
def step (state : ClientServer) : SystemMove → Option ClientServer
  | .others move =>
      if move.avoids state.app.clientId then
        (state.server.step move).map fun server => { state with server := server }
      else none
  | .disconnect clientId order =>
      if clientId = state.app.clientId ∨ clientId ∈ state.server.handlers.keys then none
      else some { state with server := state.server.disconnect clientId order }
  | .takeUp covering rejection order =>
      match state.inbound with
      | [] => none
      | message :: rest =>
          (state.server.step
            (.receive state.app.clientId message covering rejection order)).map fun server =>
              { state with server := server, inbound := rest }
  | .forward order =>
      match state.server.queue state.app.clientId with
      | [] => none
      | message :: _ =>
          (state.server.step (.deliver state.app.clientId order)).map fun server =>
            { state with
              server := server
              outbound := state.outbound ++
                [refreshCallUpdate order state.server.calls state.app.clientId message] }
  | .handle =>
      match state.outbound with
      | [] => none
      | message :: rest =>
          some ({ state with outbound := rest }.act (state.app.handleSignalingMessage message))
  | .inviteToCall order freshId source targets prio =>
      if state.app.currentCall.isSome ∨ state.Fresh freshId then
        some (state.act (state.app.inviteToCall order freshId source targets prio))
      else none
  | .dropTarget callId target => some (state.act (state.app.dropTarget callId target))
  | .acceptCall callId endActiveCall => some (state.act (state.app.acceptCall callId endActiveCall))
  | .endCall callId => some (state.act (state.app.endCall callId))
  | .timerExpired target => some (state.act (state.app.timerExpired target))

/-- Nothing is on its way between the client and the server. -/
def Quiescent (state : ClientServer) : Prop :=
  state.inbound = [] ∧ state.outbound = [] ∧ state.server.queue state.app.clientId = [] ∧
    state.app.clientId ∉ state.server.handlers.keys

instance (state : ClientServer) : Decidable state.Quiescent := by
  unfold Quiescent
  infer_instance

end ClientServer

end App

end Vacs
