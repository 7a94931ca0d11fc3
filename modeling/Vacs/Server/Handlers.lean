import Vacs.Calls.Operations
import Vacs.Protocol.CallMessages

/-!
# Handlers of the call messages

The server handles a message of a client in steps: it calls the call manager, and
it sends messages to clients, one at a time. A handler in progress is the list of
its remaining steps. What a step of the call manager returns decides the steps
that follow it.

What a handler reads from elsewhere comes with the message: who covers the targets
of an invite, and what the rate limiter says to it. Sending a message to a
connected client does not fail here, so the branches the handlers take for clients
that have gone away are left out.
-/

set_option autoImplicit false

namespace Vacs

open CallManager

/-- Why the rate limiter refuses an invite. -/
inductive CallInviteRejection where
  | rateLimited (untilSecs : ℕ)
  | tooManyTargets
deriving DecidableEq, Repr

/-- An invite in progress: what was asked, the targets nobody covers, the targets not rung yet,
and what the handler has gathered so far. -/
structure InviteProgress where
  invite : CallInvite
  notFoundTargets : Finset CallTarget
  resolvedTargets : List (CallTarget × Finset ClientId)
  invitedParticipants : CallParticipants
  joinedParticipants : CallParticipants
  allTargetParticipants : CallParticipants

/-- One step of a handler. -/
inductive HandlerStep where
  | send (recipientId : ClientId) (message : ServerMessage)
  | checkInvite (progress : InviteProgress) (rejection : Option CallInviteRejection)
  | attemptCall (progress : InviteProgress)
  | announceInvite (progress : InviteProgress)
  | acceptCall (callId : CallId)
  | failRingingRecipient (callId : CallId)
  | rejectCall (callId : CallId) (reason : CallRejectReason)
  | endCall (callId : CallId)
  | callError (callId : CallId) (reason : CallErrorReason)
  | reportLinkFailure (callId : CallId) (peerId : ClientId)
  | dropTarget (callId : CallId) (target : CallTarget) (reason : CallDropReason)
  | sendCallState (callId : CallId)

namespace HandlerStep

/-! ## Sending -/

def sendCallError (clientId : ClientId) (callId : CallId) (reason : CallErrorReason)
    (message : Option String := none) : HandlerStep :=
  .send clientId (.callError { callId := callId, reason := reason, message := message })

def sendCallUpdate (update : UpdateParticipants) (participantId : ClientId) : HandlerStep :=
  .send participantId (.callUpdate (update.forRecipient participantId))

def sendCallCancelled (order : Iteration) (recipients : Finset ClientId)
    (cancelled : CallCancelled) : List HandlerStep :=
  (order.clients.list recipients).map fun recipientId =>
    .send recipientId (.callCancelled cancelled)

/-- Tell the caller that targets failed as a whole. -/
def cancelFailedTarget (callId : CallId) (ringingTargets : List RingingTarget)
    (reason : CallCancelReason) : List HandlerStep :=
  match ringingTargets.head? with
  | none => []
  | some first =>
      [.send first.callerId (.callCancelled
        { callId := callId, targets := (ringingTargets.map (·.target)).toFinset,
          reason := reason })]

/-- Cancel targets whose notified clients all failed, and tell the remaining participants about
the shrunken call. -/
def failRingingTargets (order : Iteration) (callId : CallId) (ringingTargets : List RingingTarget)
    (update : UpdateParticipants) (reason : CallErrorReason) : List HandlerStep :=
  match ringingTargets.head? with
  | none => []
  | some first =>
      cancelFailedTarget callId ringingTargets (.errored reason) ++
        (update.allParticipantsWithoutSelf order first.callerId).map (sendCallUpdate update)

/-- The state of the call, for every participant and the client that asked for the drop. -/
def broadcastCallUpdate (order : Iteration) (update : UpdateParticipants)
    (droppingId : ClientId) : List HandlerStep :=
  (order.clients.list (insert droppingId (update.allParticipants order).toFinset)).map
    (sendCallUpdate update)

/-- What is sent for the actions of the call manager: `dropped` to a participant that is dropped,
and `survivor` before the update to everybody who stays. -/
def sendActions (order : Iteration) (callId : CallId) (dropped survivor : List ServerMessage)
    (actions : List UpdateCallAction) : List HandlerStep :=
  actions.flatMap fun
    | .cancelRingingTarget ringingTarget =>
        sendCallCancelled order ringingTarget.notifiedClients
          { callId := callId, targets := {ringingTarget.target}, reason := .callerCancelled }
    | .dropParticipant _ participantId => dropped.map (.send participantId)
    | .updateParticipants update =>
        (update.allParticipants order).flatMap fun participantId =>
          survivor.map (.send participantId) ++ [sendCallUpdate update participantId]

/-! ## Answers of the call manager -/

/-- The operation of the call manager that a step carries out for a client. -/
def operation (clientId : ClientId) : HandlerStep → Option Operation
  | .attemptCall progress =>
      match progress.resolvedTargets with
      | [] => none
      | (target, targetClients) :: _ =>
          some (.attemptCall progress.invite.callId clientId progress.invite.source target
            targetClients)
  | .acceptCall callId => some (.acceptCall callId clientId)
  | .failRingingRecipient callId => some (.failRingingRecipient callId clientId)
  | .rejectCall callId _ => some (.rejectCall callId clientId)
  | .endCall callId => some (.endCall callId clientId)
  | .callError callId _ => some (.callError callId clientId)
  | .reportLinkFailure callId peerId => some (.reportLinkFailure callId clientId peerId)
  | .dropTarget callId target reason => some (.dropTarget callId clientId target reason)
  | .send .. | .checkInvite .. | .announceInvite .. | .sendCallState .. => none

/-- The clients an invite rang for one more target. -/
def ringAs (order : Iteration) (target : CallTarget) (targetClients : Finset ClientId)
    (participants : CallParticipants) : CallParticipants :=
  (order.clients.list targetClients).foldl (fun all client => all.insert client target)
    participants

/-- After one target of an invite was attempted. -/
def afterAttempt (order : Iteration) (clientId : ClientId) (progress : InviteProgress)
    (target : CallTarget) (targetClients : Finset ClientId)
    (remaining : List (CallTarget × Finset ClientId)) :
    Except StartCallError (CallParticipants × CallParticipants) → List HandlerStep
  | .ok (invited, joined) =>
      [.attemptCall { progress with
        resolvedTargets := remaining
        invitedParticipants := invited
        joinedParticipants := joined
        allTargetParticipants :=
          ringAs order target targetClients progress.allTargetParticipants }]
  | .error .callerBusy => [sendCallError clientId progress.invite.callId .callActive]
  | .error .notParticipant => [sendCallError clientId progress.invite.callId .notParticipant]
  | .error .alreadyParticipant =>
      [sendCallError clientId progress.invite.callId (.alreadyParticipant target),
        .attemptCall { progress with resolvedTargets := remaining }]
  | .error .notConferenceLeader =>
      [sendCallError clientId progress.invite.callId (.notConferenceLeader target),
        .attemptCall { progress with resolvedTargets := remaining }]

def afterAccept (order : Iteration) (clientId : ClientId) (callId : CallId) :
    AcceptCallOutcome → List HandlerStep
  | .accepted target update =>
      (order.clients.list update.invitedParticipants.keys).map (sendCallUpdate update) ++
        (order.clients.list update.joinedParticipants.keys).map (sendCallUpdate update) ++
        if 1 < target.notifiedClients.card then
          sendCallCancelled order (target.notifiedClients.erase clientId)
            { callId := callId, targets := ∅, reason := .answeredElsewhere clientId }
        else []
  | .acceptorBusy => [sendCallError clientId callId .callActive, .failRingingRecipient callId]
  | .notFound => [sendCallError clientId callId .callFailure]

def afterReject (order : Iteration) (clientId : ClientId) (callId : CallId)
    (reason : CallRejectReason) : CallTerminationOutcome → List HandlerStep
  | .callNotFound => [sendCallError clientId callId .callFailure]
  | .clientNotNotified => [sendCallError clientId callId .callFailure]
  | .continued => []
  | .targetFailed ringingTargets update =>
      cancelFailedTarget callId ringingTargets (.rejected reason) ++
        (update.allParticipants order).map (sendCallUpdate update)
  | .changed _ => []

def afterEnd (order : Iteration) (clientId : ClientId) (callId : CallId) :
    Option (List UpdateCallAction) → List HandlerStep
  | none => [sendCallError clientId callId .callNotFound]
  | some actions =>
      sendActions order callId
        [.callEnd { callId := callId, endingClientId := clientId }] [] actions

/-- What the survivors of a participant that failed are told: its failure, but never a reason
that is about the call. -/
def survivorError (callId : CallId) : CallErrorReason → List ServerMessage
  | .webrtcFailure clientId =>
      [.callError { callId := callId, reason := .webrtcFailure clientId }]
  | .audioFailure clientId =>
      [.callError { callId := callId, reason := .audioFailure clientId }]
  | .signalingFailure clientId =>
      [.callError { callId := callId, reason := .signalingFailure clientId }]
  | _ => []

def afterError (order : Iteration) (clientId : ClientId) (callId : CallId)
    (reason : CallErrorReason) : CallTerminationOutcome → List HandlerStep
  | .callNotFound => [sendCallError clientId callId .callFailure]
  | .clientNotNotified => [sendCallError clientId callId .callFailure]
  | .continued => []
  | .targetFailed ringingTargets update =>
      failRingingTargets order callId ringingTargets update reason
  | .changed actions =>
      sendActions order callId
        [.callError { callId := callId, reason := reason },
          .callEnd { callId := callId, endingClientId := clientId }]
        (survivorError callId reason) actions

/-- Nobody is told about a report that changes nothing. -/
def afterReport (order : Iteration) (callId : CallId) : LinkReportOutcome → List HandlerStep
  | .invalidReport => []
  | .recorded => []
  | .evicted evicted unreachable actions =>
      [.send evicted (.callError
          { callId := callId, reason := .peerConnectionFailed unreachable }),
        .send evicted (.callEnd { callId := callId, endingClientId := evicted })] ++
        sendActions order callId [.callEnd { callId := callId, endingClientId := evicted }] []
          actions

def afterDrop (order : Iteration) (clientId : ClientId) (callId : CallId) (target : CallTarget)
    (reason : CallDropReason) : DropTargetOutcome → List HandlerStep
  | .callNotFound => [sendCallError clientId callId .callNotFound]
  | .notPermitted =>
      [sendCallError clientId callId (.notConferenceLeader target), .sendCallState callId]
  | .obsolete update => [sendCallUpdate update clientId]
  | .ringingTargetCancelled ringingTarget update =>
      sendCallCancelled order ringingTarget.notifiedClients
          { callId := callId
            targets := {ringingTarget.target}
            reason :=
              match reason with
              | .requested => .callerCancelled
              | .autoHangup => .errored .autoHangup } ++
        broadcastCallUpdate order update clientId
  | .participantDropped dropped update =>
      .send dropped (.callEnd { callId := callId, endingClientId := clientId }) ::
        broadcastCallUpdate order update clientId

/-- The steps that follow an operation of the call manager. -/
def respond (order : Iteration) (clientId : ClientId) : HandlerStep → Outcome → List HandlerStep
  | .attemptCall progress, .attempted result =>
      match progress.resolvedTargets with
      | [] => []
      | (target, targetClients) :: remaining =>
          afterAttempt order clientId progress target targetClients remaining result
  | .acceptCall callId, .answered outcome => afterAccept order clientId callId outcome
  | .failRingingRecipient callId, .terminated (.targetFailed ringingTargets update) =>
      failRingingTargets order callId ringingTargets update .callActive
  | .rejectCall callId reason, .terminated outcome =>
      afterReject order clientId callId reason outcome
  | .endCall callId, .ended actions => afterEnd order clientId callId actions
  | .callError callId reason, .terminated outcome =>
      afterError order clientId callId reason outcome
  | .reportLinkFailure callId _, .reported outcome => afterReport order callId outcome
  | .dropTarget callId target reason, .dropped outcome =>
      afterDrop order clientId callId target reason outcome
  | _, _ => []

/-! ## Reading the call manager -/

/-- All targets of an invite were attempted. -/
def finishInvite (clientId : ClientId) (progress : InviteProgress) : List HandlerStep :=
  if progress.notFoundTargets = ∅ then [.announceInvite progress]
  else
    sendCallError clientId progress.invite.callId (.targetsNotFound progress.notFoundTargets) ::
      if progress.invitedParticipants.isEmpty && progress.joinedParticipants.isEmpty then []
      else [.announceInvite progress]

/-- Invite the rung clients, and update those who were in the call already. -/
def announce (order : Iteration) (s : CallManager) (progress : InviteProgress) :
    List HandlerStep :=
  let invite := progress.invite
  let invitedTargets := CallParticipants.targets progress.invitedParticipants
  let conferenceLeader := (s.activeCallSnapshot invite.callId).2
  let invitations := (order.clients.list progress.allTargetParticipants.keys).filterMap
    fun calleeId => (progress.allTargetParticipants.lookup calleeId).map fun target =>
      HandlerStep.send calleeId (.callInvitation
        { callId := invite.callId
          source := invite.source
          target := target
          invitedTargets := invitedTargets.erase target
          joinedParticipants := progress.joinedParticipants
          conferenceLeader := conferenceLeader
          prio := invite.prio })
  let update : UpdateParticipants :=
    { callId := invite.callId
      invitedParticipants := progress.invitedParticipants
      joinedParticipants := progress.joinedParticipants
      conferenceLeader := conferenceLeader }
  invitations ++ ((update.allParticipants order).filter fun participantId =>
    decide (participantId ∉ progress.allTargetParticipants.keys)).map (sendCallUpdate update)

/-- The steps that follow a step that only reads. -/
def read (order : Iteration) (s : CallManager) (clientId : ClientId) :
    HandlerStep → List HandlerStep
  | .checkInvite progress rejection =>
      if s.inviteExceedsMaxConfSize progress.invite.callId clientId
          (progress.resolvedTargets.map Prod.fst).toFinset then
        [sendCallError clientId progress.invite.callId
          (.maxConferenceSizeReached progress.invite.targets)]
      else
        match rejection with
        | none => [.attemptCall progress]
        | some (.rateLimited untilSecs) =>
            [.send clientId (.rateLimited progress.invite.callId progress.invite.targets untilSecs)]
        | some .tooManyTargets =>
            [sendCallError clientId progress.invite.callId .other (some "Too many targets")]
  | .attemptCall progress => finishInvite clientId progress
  | .announceInvite progress => announce order s progress
  | .sendCallState callId =>
      match s.callStateUpdate order callId clientId with
      | some update => [sendCallUpdate update clientId]
      | none => []
  | _ => []

/-- Carry out a step that is not sending, on behalf of a client. -/
def perform (order : Iteration) (now : Instant) (s : CallManager) (clientId : ClientId)
    (step : HandlerStep) : CallManager × List HandlerStep :=
  match step.operation clientId with
  | none => (s, step.read order s clientId)
  | some op =>
      ((s.execute { op := op, order := order, now := now }).1,
        step.respond order clientId (s.execute { op := op, order := order, now := now }).2)

theorem perform_of_read {order : Iteration} {now : Instant} {s : CallManager} {clientId : ClientId}
    {step : HandlerStep} (reads : step.operation clientId = none) :
    step.perform order now s clientId = (s, step.read order s clientId) := by
  simp only [perform, reads]

theorem perform_of_execute {order : Iteration} {now : Instant} {s s' : CallManager}
    {clientId : ClientId} {step : HandlerStep} {op : Operation} {outcome : Outcome}
    (operates : step.operation clientId = some op)
    (executes : s.execute { op := op, order := order, now := now } = (s', outcome)) :
    step.perform order now s clientId = (s', step.respond order clientId outcome) := by
  simp only [perform, operates, executes]

end HandlerStep

/-! ## The handlers -/

/-- The clients that are rung for a target, never the inviter itself. -/
def targetClients (covering : CallTarget → Finset ClientId) (clientId : ClientId)
    (target : CallTarget) : Finset ClientId :=
  (covering target).erase clientId

def handleCallInvite (order : Iteration) (covering : CallTarget → Finset ClientId)
    (rejection : Option CallInviteRejection) (clientId : ClientId) (invite : CallInvite) :
    List HandlerStep :=
  if invite.source.clientId ≠ clientId then
    [.sendCallError clientId invite.callId .other (some "Source client ID mismatch")]
  else if invite.targets = ∅ then
    [.sendCallError clientId invite.callId .other (some "No targets specified")]
  else
    let resolved := ((order.targets.list invite.targets).map fun target =>
      (target, targetClients covering clientId target)).filter fun pair => decide (pair.2 ≠ ∅)
    let notFound := invite.targets.filter fun target =>
      targetClients covering clientId target = ∅
    if resolved.isEmpty then [.sendCallError clientId invite.callId (.targetsNotFound notFound)]
    else
      [.checkInvite
        { invite := invite
          notFoundTargets := notFound
          resolvedTargets := resolved
          invitedParticipants := ∅
          joinedParticipants := ∅
          allTargetParticipants := ∅ } rejection]

def handleCallError (clientId : ClientId) (error : CallError) : List HandlerStep :=
  let own (failing : ClientId) : List HandlerStep :=
    if clientId ≠ failing then
      [.sendCallError clientId error.callId .other (some "Erroring client ID mismatch")]
    else [.callError error.callId error.reason]
  match error.reason with
  | .webrtcFailure failing => own failing
  | .audioFailure failing => own failing
  | .signalingFailure failing => own failing
  | .callFailure => [.callError error.callId error.reason]
  | .other => [.callError error.callId error.reason]
  | .peerConnectionFailed peerId => [.reportLinkFailure error.callId peerId]
  | _ => []

/-- The steps a message of a client starts. -/
def handleMessage (order : Iteration) (covering : CallTarget → Finset ClientId)
    (rejection : Option CallInviteRejection) (clientId : ClientId) :
    ClientMessage → List HandlerStep
  | .callInvite invite => handleCallInvite order covering rejection clientId invite
  | .callAccept callId acceptingClientId =>
      if acceptingClientId ≠ clientId then
        [.sendCallError clientId callId .other (some "Accepting client ID mismatch")]
      else [.acceptCall callId]
  | .callReject callId rejectingClientId reason =>
      if rejectingClientId ≠ clientId then
        [.sendCallError clientId callId .other (some "Rejecting client ID mismatch")]
      else [.rejectCall callId reason]
  | .callEnd callEnd =>
      if callEnd.endingClientId ≠ clientId then
        [.sendCallError clientId callEnd.callId .other (some "Ending client ID mismatch")]
      else [.endCall callEnd.callId]
  | .callError error => handleCallError clientId error
  | .callDropTarget callId target reason => [.dropTarget callId target reason]

end Vacs
