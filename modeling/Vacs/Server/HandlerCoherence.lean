import Vacs.Calls.Refinement.Runs
import Vacs.Server.Delivery

/-!
# The calls of the server stay coherent

A handler invites on behalf of its own client, and never rings the client itself:
the first is checked when the invite arrives, and the second holds of the clients it
rings for every target. All operations of the handlers are therefore such that the
call manager stays coherent (`CallServer.Orderly`).
-/

set_option autoImplicit false

namespace Vacs

open CallManager

/-- The invite is one of the client, and never rings the client itself. -/
def InviteProgress.FromClient (client : ClientId) (progress : InviteProgress) : Prop :=
  progress.invite.source.clientId = client ∧ ∀ pair ∈ progress.resolvedTargets, client ∉ pair.2

namespace HandlerStep

/-- The invite a step is going to carry out. -/
def invite : HandlerStep → Option InviteProgress
  | .checkInvite progress _ => some progress
  | .attemptCall progress => some progress
  | _ => none

@[simp] theorem invite_send (recipientId : ClientId) (message : ServerMessage) :
    (send recipientId message).invite = none := rfl

@[simp] theorem invite_sendCallError (clientId : ClientId) (callId : CallId)
    (reason : CallErrorReason) (message : Option String) :
    (sendCallError clientId callId reason message).invite = none := rfl

@[simp] theorem invite_sendCallUpdate (update : UpdateParticipants) (participantId : ClientId) :
    (sendCallUpdate update participantId).invite = none := rfl

theorem invite_sendCallCancelled {order : Iteration} {recipients : Finset ClientId}
    {cancelled : CallCancelled} {step : HandlerStep}
    (member : step ∈ sendCallCancelled order recipients cancelled) : step.invite = none := by
  obtain ⟨_, _, rfl⟩ := List.mem_map.mp member
  rfl

theorem invite_map_sendCallUpdate {update : UpdateParticipants} {participants : List ClientId}
    {step : HandlerStep} (member : step ∈ participants.map (sendCallUpdate update)) :
    step.invite = none := by
  obtain ⟨_, _, rfl⟩ := List.mem_map.mp member
  rfl

theorem invite_cancelFailedTarget {callId : CallId} {ringingTargets : List RingingTarget}
    {reason : CallCancelReason} {step : HandlerStep}
    (member : step ∈ cancelFailedTarget callId ringingTargets reason) : step.invite = none := by
  unfold cancelFailedTarget at member
  split at member <;> simp_all

theorem invite_failRingingTargets {order : Iteration} {callId : CallId}
    {ringingTargets : List RingingTarget} {update : UpdateParticipants}
    {reason : CallErrorReason} {step : HandlerStep}
    (member : step ∈ failRingingTargets order callId ringingTargets update reason) :
    step.invite = none := by
  unfold failRingingTargets at member
  split at member
  · cases member
  · rcases List.mem_append.mp member with cancels | updates
    · exact invite_cancelFailedTarget cancels
    · exact invite_map_sendCallUpdate updates

theorem invite_sendActions {order : Iteration} {callId : CallId}
    {dropped survivor : List ServerMessage} {actions : List UpdateCallAction}
    {step : HandlerStep} (member : step ∈ sendActions order callId dropped survivor actions) :
    step.invite = none := by
  obtain ⟨action, _, member⟩ := List.mem_flatMap.mp member
  cases action with
  | cancelRingingTarget target => exact invite_sendCallCancelled member
  | dropParticipant call participant =>
      obtain ⟨_, _, rfl⟩ := List.mem_map.mp member
      rfl
  | updateParticipants update =>
      obtain ⟨participant, _, member⟩ := List.mem_flatMap.mp member
      rcases List.mem_append.mp member with survives | updates
      · obtain ⟨_, _, rfl⟩ := List.mem_map.mp survives
        rfl
      · rw [List.mem_singleton.mp updates]
        rfl

/-- An answer of the call manager starts no other invite. -/
theorem invite_respond {order : Iteration} {client : ClientId} {step next : HandlerStep}
    {outcome : Outcome} (noInvite : step.invite = none)
    (member : next ∈ step.respond order client outcome) : next.invite = none := by
  unfold respond at member
  split at member
  · cases noInvite
  · rename_i returned
    cases returned with
    | accepted target update =>
        rcases List.mem_append.mp member with updates | cancels
        · rcases List.mem_append.mp updates with invited | joined
          · exact invite_map_sendCallUpdate invited
          · exact invite_map_sendCallUpdate joined
        · split at cancels
          · exact invite_sendCallCancelled cancels
          · cases cancels
    | acceptorBusy =>
        simp only [afterAccept, List.mem_cons, List.not_mem_nil, or_false] at member
        rcases member with rfl | rfl <;> rfl
    | notFound => simp_all [afterAccept]
  · exact invite_failRingingTargets member
  · rename_i returned
    cases returned with
    | targetFailed targets update =>
        rcases List.mem_append.mp member with cancels | updates
        · exact invite_cancelFailedTarget cancels
        · exact invite_map_sendCallUpdate updates
    | _ => simp_all [afterReject]
  · rename_i returned
    cases returned with
    | none => simp_all [afterEnd]
    | some actions => exact invite_sendActions member
  · rename_i returned
    cases returned with
    | targetFailed targets update => exact invite_failRingingTargets member
    | changed actions => exact invite_sendActions member
    | _ => simp_all [afterError]
  · rename_i returned
    cases returned with
    | evicted evicted unreachable actions =>
        rcases List.mem_append.mp member with own | others
        · simp only [List.mem_cons, List.not_mem_nil, or_false] at own
          rcases own with rfl | rfl <;> rfl
        · exact invite_sendActions others
    | _ => simp_all [afterReport]
  · rename_i returned
    cases returned with
    | notPermitted =>
        simp only [afterDrop, List.mem_cons, List.not_mem_nil, or_false] at member
        rcases member with rfl | rfl <;> rfl
    | ringingTargetCancelled target update =>
        rcases List.mem_append.mp member with cancels | updates
        · exact invite_sendCallCancelled cancels
        · exact invite_map_sendCallUpdate updates
    | participantDropped dropped update =>
        rcases List.mem_cons.mp member with rfl | updates
        · rfl
        · exact invite_map_sendCallUpdate updates
    | _ => simp_all [afterDrop]
  · cases member

end HandlerStep

theorem handleMessage_fromClient (order : Iteration) (covering : CallTarget → Finset ClientId)
    (rejection : Option CallInviteRejection) (client : ClientId) (message : ClientMessage) :
    ∀ step ∈ handleMessage order covering rejection client message, ∀ progress,
      step.invite = some progress → progress.FromClient client := by
  intro step member progress isInvite
  cases message with
  | callInvite invite =>
      simp only [handleMessage, handleCallInvite] at member
      split at member
      · simp_all [HandlerStep.sendCallError, HandlerStep.invite]
      · rename_i isSource
        split at member
        · simp_all [HandlerStep.sendCallError, HandlerStep.invite]
        · split at member
          · simp_all [HandlerStep.sendCallError, HandlerStep.invite]
          · rw [List.mem_singleton] at member
            subst member
            cases isInvite
            refine ⟨not_not.mp isSource, fun pair isPair => ?_⟩
            obtain ⟨target, _, rfl⟩ := List.mem_map.mp (List.mem_filter.mp isPair).1
            exact Finset.notMem_erase client _
  | callError error =>
      simp only [handleMessage, handleCallError] at member
      repeat' split at member
      all_goals simp_all [HandlerStep.sendCallError, HandlerStep.invite]
  | _ =>
      simp only [handleMessage] at member
      repeat' split at member
      all_goals simp_all [HandlerStep.sendCallError, HandlerStep.invite]

/-- The next targets of an invite belong to the same client. -/
theorem InviteProgress.FromClient.attempted {client : ClientId} {progress : InviteProgress}
    (fromClient : progress.FromClient client) {target : CallTarget}
    {targetClients : Finset ClientId} {remaining : List (CallTarget × Finset ClientId)}
    (isResolved : progress.resolvedTargets = (target, targetClients) :: remaining)
    {order : Iteration} {result : Except StartCallError (CallParticipants × CallParticipants)}
    {step : HandlerStep}
    (member : step ∈ HandlerStep.afterAttempt order client progress target targetClients
      remaining result) {next : InviteProgress} (isInvite : step.invite = some next) :
    next.FromClient client := by
  have later : ∀ pair ∈ remaining, client ∉ pair.2 := fun pair isPair =>
    fromClient.2 pair (by rw [isResolved]; exact List.mem_cons_of_mem _ isPair)
  cases result with
  | ok participants =>
      rw [HandlerStep.afterAttempt, List.mem_singleton] at member
      subst member
      cases isInvite
      exact ⟨fromClient.1, later⟩
  | error reason =>
      cases reason with
      | callerBusy => simp_all [HandlerStep.afterAttempt]
      | notParticipant => simp_all [HandlerStep.afterAttempt]
      | alreadyParticipant =>
          simp only [HandlerStep.afterAttempt, List.mem_cons, List.not_mem_nil, or_false] at member
          rcases member with rfl | rfl
          · cases isInvite
          · cases isInvite
            exact ⟨fromClient.1, later⟩
      | notConferenceLeader =>
          simp only [HandlerStep.afterAttempt, List.mem_cons, List.not_mem_nil, or_false] at member
          rcases member with rfl | rfl
          · cases isInvite
          · cases isInvite
            exact ⟨fromClient.1, later⟩

theorem read_fromClient {order : Iteration} {s : CallManager} {client : ClientId}
    {step next : HandlerStep}
    (fromClient : ∀ progress, step.invite = some progress → progress.FromClient client)
    (member : next ∈ step.read order s client) {progress : InviteProgress}
    (isInvite : next.invite = some progress) : progress.FromClient client := by
  unfold HandlerStep.read at member
  split at member
  · split at member
    · simp_all
    · split at member
      · rw [List.mem_singleton] at member
        subst member
        cases isInvite
        exact fromClient _ rfl
      · simp_all
      · simp_all
  · unfold HandlerStep.finishInvite at member
    split at member
    · simp_all [HandlerStep.invite]
    · rcases List.mem_cons.mp member with rfl | member
      · cases isInvite
      · split at member
        · cases member
        · rw [List.mem_singleton.mp member] at isInvite
          cases isInvite
  · unfold HandlerStep.announce at member
    rcases List.mem_append.mp member with invited | updated
    · obtain ⟨_, _, isSent⟩ := List.mem_filterMap.mp invited
      obtain ⟨_, _, rfl⟩ := Option.map_eq_some_iff.mp isSent
      cases isInvite
    · rw [HandlerStep.invite_map_sendCallUpdate updated] at isInvite
      cases isInvite
  · split at member
    · simp_all
    · cases member
  · cases member

theorem perform_fromClient {order : Iteration} {now : Instant} {s : CallManager}
    {client : ClientId} {step next : HandlerStep}
    (fromClient : ∀ progress, step.invite = some progress → progress.FromClient client)
    (member : next ∈ (step.perform order now s client).2) {progress : InviteProgress}
    (isInvite : next.invite = some progress) : progress.FromClient client := by
  unfold HandlerStep.perform at member
  split at member
  · exact read_fromClient fromClient member isInvite
  · rename_i op isOp
    cases noInvite : step.invite with
    | none =>
        rw [HandlerStep.invite_respond noInvite member] at isInvite
        cases isInvite
    | some invite =>
        cases step with
        | attemptCall attempted =>
            cases isResolved : attempted.resolvedTargets with
            | nil => simp [HandlerStep.operation, isResolved] at isOp
            | cons pair remaining =>
                simp only [HandlerStep.operation, isResolved, Option.some.injEq] at isOp
                subst isOp
                have answered : next ∈ HandlerStep.afterAttempt order client attempted pair.1
                    pair.2 remaining (s.attemptCall order attempted.invite.callId client
                      attempted.invite.source pair.1 pair.2).2 := by
                  simpa [execute, HandlerStep.respond, isResolved] using member
                exact (fromClient attempted rfl).attempted isResolved answered isInvite
        | checkInvite => cases isOp
        | _ => cases noInvite

theorem operation_fromCaller {client : ClientId} {step : HandlerStep} {op : Operation}
    (fromClient : ∀ progress, step.invite = some progress → progress.FromClient client)
    (isOp : step.operation client = some op) : op.FromCaller := by
  cases step with
  | attemptCall progress =>
      cases isResolved : progress.resolvedTargets with
      | nil => simp [HandlerStep.operation, isResolved] at isOp
      | cons pair remaining =>
          simp only [HandlerStep.operation, isResolved, Option.some.injEq] at isOp
          subst isOp
          refine ⟨(fromClient progress rfl).1, (fromClient progress rfl).2 pair ?_⟩
          rw [isResolved]
          exact List.mem_cons_self ..
  | send | checkInvite | announceInvite | sendCallState => cases isOp
  | _ =>
      cases isOp
      trivial

namespace CallServer

/-- The calls are coherent, and every handler acts for its own client. -/
structure Orderly (state : CallServer) : Prop where
  coherent : Coherent state.calls
  fromClient : ∀ client steps, state.handlers.lookup client = some steps → ∀ step ∈ steps,
    ∀ progress, step.invite = some progress → progress.FromClient client

theorem orderly_start (maxConfSize : ℕ) : (start maxConfSize).Orderly where
  coherent := coherent_new maxConfSize
  fromClient client steps found := by simp [start] at found

theorem Orderly.step {state next : CallServer} (orderly : state.Orderly)
    (steps : Steps state next) : next.Orderly := by
  -- What a handler still has to do changes for one client at a time.
  have replaced : ∀ {client : ClientId} {after : List HandlerStep},
      (∀ step ∈ after, ∀ progress, step.invite = some progress → progress.FromClient client) →
      ∀ other pending, (state.handlers.insert client after).lookup other = some pending →
        ∀ step ∈ pending, ∀ progress, step.invite = some progress → progress.FromClient other := by
    intro client after holds other pending found
    rw [Finmap.lookup_insert_eq] at found
    split at found
    · rename_i same
      cases found
      rw [same]
      exact holds
    · exact orderly.fromClient other pending found
  cases steps with
  | receive message covering rejection order idle =>
      exact ⟨orderly.coherent, replaced (handleMessage_fromClient order covering rejection _ message)⟩
  | @finish client found =>
      refine ⟨orderly.coherent, fun other pending isPending => ?_⟩
      rw [Finmap.lookup_erase_eq] at isPending
      split at isPending
      · cases isPending
      · exact orderly.fromClient other pending isPending
  | send found =>
      refine ⟨orderly.coherent, replaced fun step member => ?_⟩
      exact orderly.fromClient _ _ found step (List.mem_cons_of_mem _ member)
  | @perform client order now step remaining found notSend =>
      have own := orderly.fromClient _ _ found step (List.mem_cons_self ..)
      constructor
      · unfold HandlerStep.perform
        split
        · exact orderly.coherent
        · rename_i op isOp
          exact next_coherent orderly.coherent (operation_fromCaller own isOp)
      · refine replaced fun following member progress isInvite => ?_
        rcases List.mem_append.mp member with answered | later
        · exact perform_fromClient own answered isInvite
        · exact orderly.fromClient _ _ found following (List.mem_cons_of_mem _ later) progress
            isInvite
  | deliver => exact ⟨orderly.coherent, orderly.fromClient⟩

end CallServer

end Vacs
