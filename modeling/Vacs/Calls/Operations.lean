import Vacs.Calls.Manager

/-!
# Operations and runs of the call manager

The server drives the call manager through nine operations, each on behalf of
one client. A request is an operation together with what the code does not
choose: the order in which hash maps are walked and the time on the clock. A run
executes requests one after the other.

Invitations reach the manager through the invite handler, which takes the
sender as the caller and as the source and never notifies the sender itself
(`Operation.FromCaller`). The handler also skips targets nobody covers, so the
notified clients are not empty (`Operation.FromHandler`).
-/

set_option autoImplicit false

namespace Vacs

/-- The operations of the call manager. -/
inductive Operation where
  | attemptCall (callId : CallId) (callerId : ClientId) (source : CallSource)
      (target : CallTarget) (notifiedClients : Finset ClientId)
  | rejectCall (callId : CallId) (clientId : ClientId)
  | failRingingRecipient (callId : CallId) (clientId : ClientId)
  | callError (callId : CallId) (clientId : ClientId)
  | acceptCall (callId : CallId) (clientId : ClientId)
  | dropTarget (callId : CallId) (clientId : ClientId) (target : CallTarget)
      (reason : CallDropReason)
  | endCall (callId : CallId) (clientId : ClientId)
  | reportLinkFailure (callId : CallId) (reporterId peerId : ClientId)
  | cleanupClientCalls (clientId : ClientId)

/-- What an operation returns. -/
inductive Outcome where
  | attempted (result : Except StartCallError (CallParticipants × CallParticipants))
  | terminated (outcome : CallTerminationOutcome)
  | answered (outcome : AcceptCallOutcome)
  | dropped (outcome : DropTargetOutcome)
  | ended (actions : Option (List UpdateCallAction))
  | reported (outcome : LinkReportOutcome)
  | cleaned (actions : List UpdateCallAction)

/-- The client an outcome evicts over a dead link. -/
def Outcome.evicted : Outcome → Option ClientId
  | .reported (.evicted evicted _ _) => some evicted
  | _ => none

namespace Operation

/-- The client on whose behalf the operation runs. -/
def actor : Operation → ClientId
  | .attemptCall _ callerId _ _ _ => callerId
  | .rejectCall _ clientId => clientId
  | .failRingingRecipient _ clientId => clientId
  | .callError _ clientId => clientId
  | .acceptCall _ clientId => clientId
  | .dropTarget _ clientId _ _ => clientId
  | .endCall _ clientId => clientId
  | .reportLinkFailure _ reporterId _ => reporterId
  | .cleanupClientCalls clientId => clientId

/-- The client fails a target it rings for: by rejecting, by an error, or by
disconnecting. -/
def Withdraws (op : Operation) (callId : CallId) (clientId : ClientId) : Prop :=
  op = .rejectCall callId clientId ∨ op = .failRingingRecipient callId clientId ∨
    op = .callError callId clientId ∨ op = .cleanupClientCalls clientId

/-- The client leaves a call: by ending it, by an error, or by disconnecting. -/
def Leaves (op : Operation) (callId : CallId) (clientId : ClientId) : Prop :=
  op = .endCall callId clientId ∨ op = .callError callId clientId ∨
    op = .cleanupClientCalls clientId

/-- An invitation is made in the name of its caller and does not ring it. -/
def FromCaller : Operation → Prop
  | .attemptCall _ callerId source _ notifiedClients =>
      source.clientId = callerId ∧ callerId ∉ notifiedClients
  | _ => True

/-- An invitation as the invite handler makes it: it also rings somebody. -/
def FromHandler : Operation → Prop
  | .attemptCall _ callerId source _ notifiedClients =>
      source.clientId = callerId ∧ callerId ∉ notifiedClients ∧ notifiedClients.Nonempty
  | _ => True

instance : (op : Operation) → Decidable op.FromHandler
  | .attemptCall _ callerId source _ notifiedClients =>
      inferInstanceAs (Decidable (source.clientId = callerId ∧ callerId ∉ notifiedClients ∧
        notifiedClients.Nonempty))
  | .rejectCall .. | .failRingingRecipient .. | .callError .. | .acceptCall .. | .dropTarget ..
  | .endCall .. | .reportLinkFailure .. | .cleanupClientCalls .. => isTrue trivial

theorem FromHandler.fromCaller {op : Operation} (fromHandler : op.FromHandler) :
    op.FromCaller := by
  cases op with
  | attemptCall => exact ⟨fromHandler.1, fromHandler.2.1⟩
  | _ => trivial

end Operation

/-- An operation with the iteration orders it meets and the time it runs at. -/
structure Request where
  op : Operation
  order : Iteration
  now : Instant

namespace CallManager

/-- Execute one operation. -/
def execute (s : CallManager) (request : Request) : CallManager × Outcome :=
  match request.op with
  | .attemptCall callId callerId source target notifiedClients =>
      (s.attemptCall request.order callId callerId source target notifiedClients).map id
        .attempted
  | .rejectCall callId clientId => (s.rejectCall request.order callId clientId).map id .terminated
  | .failRingingRecipient callId clientId =>
      (s.failRingingRecipient request.order callId clientId).map id .terminated
  | .callError callId clientId => (s.callError request.order callId clientId).map id .terminated
  | .acceptCall callId clientId => (s.acceptCall request.order callId clientId).map id .answered
  | .dropTarget callId clientId target reason =>
      (s.dropTarget request.order callId clientId target reason).map id .dropped
  | .endCall callId clientId => (s.endCall request.order callId clientId).map id .ended
  | .reportLinkFailure callId reporterId peerId =>
      (s.reportLinkFailure request.order callId reporterId peerId request.now).map id .reported
  | .cleanupClientCalls clientId =>
      (s.cleanupClientCalls request.order clientId).map id .cleaned

/-- The state after one operation. -/
def next (s : CallManager) (request : Request) : CallManager := (s.execute request).1

/-- The state after a sequence of operations. -/
def run (s : CallManager) (requests : List Request) : CallManager := requests.foldl next s

/-! ## The size limit is fixed -/

theorem attemptCall_maxConfSize (order : Iteration) (s : CallManager) (callId : CallId)
    (callerId : ClientId) (source : CallSource) (target : CallTarget)
    (notifiedClients : Finset ClientId) :
    (s.attemptCall order callId callerId source target notifiedClients).1.maxConfSize =
      s.maxConfSize := by
  unfold attemptCall
  split <;> rfl

theorem freeCaller_maxConfSize (s : CallManager) (callerId : ClientId) :
    (s.freeCaller callerId).maxConfSize = s.maxConfSize := by
  unfold freeCaller
  split <;> rfl

theorem markClientWithinRingingCalls_maxConfSize (order : Iteration) (s : CallManager)
    (callId : CallId) (clientId : ClientId)
    (markFn : RingingTargetEntry → ClientId → RingingTargetEntry) :
    (s.markClientWithinRingingCalls order callId clientId markFn).1.maxConfSize =
      s.maxConfSize := by
  have settled : ∀ (ended : Prop) [Decidable ended] (freed kept : CallManager)
      (callerId : ClientId), freed.maxConfSize = s.maxConfSize →
      kept.maxConfSize = s.maxConfSize →
      (if ended then freed.freeCaller callerId else kept).maxConfSize = s.maxConfSize := by
    intro ended _ freed kept callerId whenFreed whenKept
    split
    · rw [freeCaller_maxConfSize, whenFreed]
    · exact whenKept
  unfold markClientWithinRingingCalls
  simp only
  split
  · rfl
  · split
    · rfl
    · split
      · rfl
      · split
        · exact settled _ _ _ _ rfl rfl
        · exact settled _ _ _ _ rfl rfl

theorem acceptCall_maxConfSize (order : Iteration) (s : CallManager) (callId : CallId)
    (clientId : ClientId) : (s.acceptCall order callId clientId).1.maxConfSize = s.maxConfSize := by
  unfold acceptCall
  split
  · rfl
  · split
    · rfl
    · simp only
      split <;> rfl

theorem dropRingingTarget_maxConfSize (order : Iteration) (s : CallManager) (callId : CallId)
    (clientId : ClientId) (target : CallTarget) {result : CallManager × DropTargetOutcome}
    (dropped : s.dropRingingTarget order callId clientId target = some result) :
    result.1.maxConfSize = s.maxConfSize := by
  unfold dropRingingTarget at dropped
  split at dropped
  · cases dropped
  · split at dropped
    · cases dropped
    · split at dropped
      · cases dropped
        rfl
      · cases dropped
        rfl

theorem dropJoinedParticipant_maxConfSize (order : Iteration) (s : CallManager) (callId : CallId)
    (clientId : ClientId) (target : CallTarget) (reason : CallDropReason) :
    (s.dropJoinedParticipant order callId clientId target reason).1.maxConfSize =
      s.maxConfSize := by
  unfold dropJoinedParticipant
  split
  · rfl
  · split
    · rfl
    · split
      · rfl
      · split
        · rfl
        · split
          · rfl
          · split
            · rfl
            · split <;> rfl

theorem dropTarget_maxConfSize (order : Iteration) (s : CallManager) (callId : CallId)
    (clientId : ClientId) (target : CallTarget) (reason : CallDropReason) :
    (s.dropTarget order callId clientId target reason).1.maxConfSize = s.maxConfSize := by
  unfold dropTarget
  split
  · rename_i dropped
    exact dropRingingTarget_maxConfSize order s callId clientId target dropped
  · exact dropJoinedParticipant_maxConfSize order s callId clientId target reason

theorem cancelPendingInvitations_maxConfSize (order : Iteration) (s : CallManager)
    (callId : CallId) :
    (s.cancelPendingInvitations order callId).1.maxConfSize = s.maxConfSize := by
  unfold cancelPendingInvitations
  split <;> rfl

theorem endRinging_maxConfSize (order : Iteration) (s : CallManager) (callId : CallId)
    (clientId : ClientId) : (s.endRinging order callId clientId).1.maxConfSize = s.maxConfSize := by
  unfold endRinging
  split
  · rfl
  · split <;> rfl

theorem endActive_maxConfSize (order : Iteration) (s : CallManager) (callId : CallId)
    (clientId : ClientId) : (s.endActive order callId clientId).1.maxConfSize = s.maxConfSize := by
  unfold endActive
  split
  · rfl
  · split
    · rfl
    · simp only
      split
      · exact cancelPendingInvitations_maxConfSize order _ callId
      · split
        · exact cancelPendingInvitations_maxConfSize order _ callId
        · rfl

theorem endCall_maxConfSize (order : Iteration) (s : CallManager) (callId : CallId)
    (clientId : ClientId) : (s.endCall order callId clientId).1.maxConfSize = s.maxConfSize := by
  rw [← endRinging_maxConfSize order s callId clientId,
    ← endActive_maxConfSize order (s.endRinging order callId clientId).1 callId clientId]
  unfold endCall
  simp only
  split <;> rfl

theorem callError_maxConfSize (order : Iteration) (s : CallManager) (callId : CallId)
    (clientId : ClientId) : (s.callError order callId clientId).1.maxConfSize = s.maxConfSize := by
  rw [← markClientWithinRingingCalls_maxConfSize order s callId clientId .markErrored]
  unfold callError
  split
  · rename_i marked
    rw [marked]
  · rename_i marked
    rw [marked]
  · rename_i marked
    rw [marked]
    split <;> rename_i ended <;>
      exact (congrArg (fun result => result.1.maxConfSize) ended.symm).trans
        (endCall_maxConfSize order _ callId clientId)

theorem cleanupRinging_maxConfSize (order : Iteration) (s : CallManager) (callId : CallId)
    (clientId : ClientId) :
    (s.cleanupRinging order callId clientId).1.maxConfSize = s.maxConfSize := by
  unfold cleanupRinging
  split
  · rfl
  · split <;> rfl

theorem cleanupActive_maxConfSize (order : Iteration) (s : CallManager) (callId : CallId)
    (clientId : ClientId) :
    (s.cleanupActive order callId clientId).1.maxConfSize = s.maxConfSize := by
  unfold cleanupActive
  split
  · rfl
  · split
    · rfl
    · simp only
      split
      · exact cancelPendingInvitations_maxConfSize order _ callId
      · split
        · exact cancelPendingInvitations_maxConfSize order _ callId
        · rfl

theorem cleanupIncomingCall_maxConfSize (order : Iteration) (s : CallManager)
    (clientId : ClientId) (callId : CallId) (callTarget : CallTarget) :
    (s.cleanupIncomingCall order clientId callId callTarget).1.maxConfSize = s.maxConfSize := by
  have settled : ∀ (remaining : RingingCallEntry × List UpdateCallAction),
      (if remaining.1.allTargetsFailed then
        ({ s.freeCaller remaining.1.callerId with
          ringingCalls := (s.freeCaller remaining.1.callerId).ringingCalls.erase callId },
          remaining.2)
      else ({ s with ringingCalls := s.ringingCalls.insert callId remaining.1 },
        remaining.2)).1.maxConfSize = s.maxConfSize := by
    intro remaining
    split
    · exact freeCaller_maxConfSize s _
    · rfl
  unfold cleanupIncomingCall
  split
  · rfl
  · exact settled _

theorem cleanupClientCalls_maxConfSize (order : Iteration) (s : CallManager)
    (clientId : ClientId) :
    (s.cleanupClientCalls order clientId).1.maxConfSize = s.maxConfSize := by
  have own : (s.cleanupOwnCall order clientId).1.maxConfSize = s.maxConfSize := by
    unfold cleanupOwnCall
    split
    · rfl
    · simp only
      rw [cleanupActive_maxConfSize, cleanupRinging_maxConfSize]
  rw [← own]
  unfold cleanupClientCalls cleanupIncomingCalls
  simp only
  split
  · rfl
  · refine List.foldlRecOn
      (motive := fun acc : CallManager × List UpdateCallAction =>
        acc.1.maxConfSize = (s.cleanupOwnCall order clientId).1.maxConfSize)
      _ _ rfl ?_
    rintro ⟨state, actions⟩ kept callId _
    simp only
    split
    · exact kept
    · rw [cleanupIncomingCall_maxConfSize]
      exact kept

theorem reportLinkFailure_maxConfSize (order : Iteration) (s : CallManager) (callId : CallId)
    (reporterId peerId : ClientId) (now : Instant) :
    (s.reportLinkFailure order callId reporterId peerId now).1.maxConfSize = s.maxConfSize := by
  unfold reportLinkFailure
  split
  · rfl
  · split
    · rfl
    · split
      · rfl
      · simp only
        split
        · rfl
        · split <;> rename_i ended <;>
            exact (congrArg (fun result => result.1.maxConfSize) ended.symm).trans
              (endCall_maxConfSize order _ callId _)

/-- No operation changes the size limit. -/
theorem next_maxConfSize (s : CallManager) (request : Request) :
    (s.next request).maxConfSize = s.maxConfSize := by
  unfold next execute
  cases request.op with
  | attemptCall callId callerId source target notifiedClients =>
      exact attemptCall_maxConfSize _ s callId callerId source target notifiedClients
  | rejectCall callId clientId =>
      exact markClientWithinRingingCalls_maxConfSize _ s callId clientId _
  | failRingingRecipient callId clientId =>
      exact markClientWithinRingingCalls_maxConfSize _ s callId clientId _
  | callError callId clientId => exact callError_maxConfSize _ s callId clientId
  | acceptCall callId clientId => exact acceptCall_maxConfSize _ s callId clientId
  | dropTarget callId clientId target reason =>
      exact dropTarget_maxConfSize _ s callId clientId target reason
  | endCall callId clientId => exact endCall_maxConfSize _ s callId clientId
  | reportLinkFailure callId reporterId peerId =>
      exact reportLinkFailure_maxConfSize _ s callId reporterId peerId _
  | cleanupClientCalls clientId => exact cleanupClientCalls_maxConfSize _ s clientId

end CallManager

end Vacs
