import Vacs.Calls.Entries

/-!
# The call manager

The call manager keeps two tables of calls, the ringing and the active ones, and
two indexes over them: which calls a client is being rung for, with the target
it is rung as, and which call a client is busy with, as its caller or as one of
its participants. Every operation updates the tables and both indexes by hand.

The operations below follow the server's, one definition for each of them and
for each of their critical sections. A vector of the source is a list, in the
order in which the hash maps it was collected from are walked.
-/

set_option autoImplicit false

namespace Vacs

structure CallManager where
  ringingCalls : HashMap CallId RingingCallEntry
  activeCalls : HashMap CallId ActiveCallEntry
  clientIncomingCalls : HashMap ClientId (HashMap CallId CallTarget)
  clientActiveCalls : HashMap ClientId CallId
  maxConfSize : ℕ
deriving DecidableEq

/-- Why an invitation is refused. -/
inductive StartCallError where
  | callerBusy
  | alreadyParticipant
  | notConferenceLeader
  | notParticipant
deriving DecidableEq, Repr

/-- Why a client asks for a target to be dropped. -/
inductive CallDropReason where
  | requested
  | autoHangup
deriving DecidableEq, Repr

inductive DropTargetOutcome where
  | callNotFound
  | notPermitted
  | obsolete (update : UpdateParticipants)
  | ringingTargetCancelled (target : RingingTarget) (update : UpdateParticipants)
  | participantDropped (clientId : ClientId) (update : UpdateParticipants)
deriving DecidableEq

inductive CallTerminationOutcome where
  | callNotFound
  | clientNotNotified
  | continued
  | targetFailed (targets : List RingingTarget) (update : UpdateParticipants)
  | changed (actions : List UpdateCallAction)
deriving DecidableEq

inductive LinkReportOutcome where
  | invalidReport
  | recorded
  | evicted (evicted unreachable : ClientId) (actions : List UpdateCallAction)
deriving DecidableEq

inductive AcceptCallOutcome where
  | accepted (target : RingingTarget) (update : UpdateParticipants)
  | acceptorBusy
  | notFound
deriving DecidableEq

namespace CallManager

def new (maxConfSize : ℕ) : CallManager where
  ringingCalls := ∅
  activeCalls := ∅
  clientIncomingCalls := ∅
  clientActiveCalls := ∅
  maxConfSize := maxConfSize

/-! ## Index updates -/

/-- Stop one client ringing for a call; a client with no call left is dropped
from the index. -/
def removeIncoming (callId : CallId) (incoming : HashMap ClientId (HashMap CallId CallTarget))
    (clientId : ClientId) : HashMap ClientId (HashMap CallId CallTarget) :=
  match incoming.lookup clientId with
  | none => incoming
  | some calls =>
      if (calls.erase callId).isEmpty then incoming.erase clientId
      else incoming.insert clientId (calls.erase callId)

/-- Let one client ring for a target of a call. -/
def insertIncoming (callId : CallId) (target : CallTarget)
    (incoming : HashMap ClientId (HashMap CallId CallTarget)) (clientId : ClientId) :
    HashMap ClientId (HashMap CallId CallTarget) :=
  incoming.insert clientId (((incoming.lookup clientId).getD ∅).insert callId target)

/-- Clear the busy marker of a client if it points to the call. -/
def releaseBusy (callId : CallId) (busy : HashMap ClientId CallId) (clientId : ClientId) :
    HashMap ClientId CallId :=
  if (busy.lookup clientId).any (· == callId) then busy.erase clientId else busy

def removeClientIncomingCall (s : CallManager) (callId : CallId) (clientId : ClientId) :
    CallManager :=
  { s with clientIncomingCalls := removeIncoming callId s.clientIncomingCalls clientId }

/-- The notified clients of all targets of a ringing call, as they are walked. -/
def notifiedList (order : Iteration) (ringingCall : RingingCallEntry) : List ClientId :=
  (ringingCall.targetList order).flatMap fun (_, ringing) =>
    order.clients.list ringing.notifiedClients

def cleanupClientIncomingCalls (order : Iteration) (s : CallManager)
    (ringingCall : RingingCallEntry) : CallManager :=
  { s with
    clientIncomingCalls := (notifiedList order ringingCall).foldl
      (removeIncoming ringingCall.callId) s.clientIncomingCalls }

def activeCallSnapshot (s : CallManager) (callId : CallId) :
    CallParticipants × Option ClientId :=
  match s.activeCalls.lookup callId with
  | some active => (active.participants, active.conferenceLeader)
  | none => (∅, none)

/-- The update that reports the current state of a call, given its invitations. -/
def updateWith (s : CallManager) (callId : CallId) (invited : CallParticipants) :
    UpdateParticipants where
  callId := callId
  invitedParticipants := invited
  joinedParticipants := (s.activeCallSnapshot callId).1
  conferenceLeader := (s.activeCallSnapshot callId).2

/-- The invitations that are pending in a call. -/
def pendingInvitations (order : Iteration) (s : CallManager) (callId : CallId) :
    CallParticipants :=
  match s.ringingCalls.lookup callId with
  | some ringing => ringing.invitedParticipants order
  | none => ∅

/-- Whether some active call involves the client. -/
def inSomeActiveCall (s : CallManager) (clientId : ClientId) : Bool :=
  s.activeCalls.anyValue fun active => active.involves clientId

/-! ## Inviting -/

/-- Whether a call would grow beyond the limit if the caller invited the targets. Only targets
that neither ring nor have joined can grow it. -/
def inviteExceedsMaxConfSize (s : CallManager) (callId : CallId) (callerId : ClientId)
    (targets : Finset CallTarget) : Bool :=
  let ringing := s.ringingCalls.lookup callId
  let ringingLen := (ringing.map fun call => call.targets.keys.card).getD 0
  let active := s.activeCalls.lookup callId
  let joinedLen := (active.map fun call => call.participants.keys.card).getD 0
  let callerJoined := active.any fun call => decide (callerId ∈ call.participants.keys)
  let newTargets := (targets.filter fun target =>
    !(ringing.any fun call => decide (target ∈ call.targets.keys)) &&
      !(active.any fun call => call.participants.anyValue fun joined => joined == target)).card
  decide (joinedLen + ringingLen + newTargets + (if callerJoined then 0 else 1) > s.maxConfSize)

def validateCallAttempt (s : CallManager) (callId : CallId) (callerId : ClientId)
    (target : CallTarget) (notifiedClients : Finset ClientId) : Except StartCallError Unit :=
  match s.clientActiveCalls.lookup callerId with
  | some participatingCallId =>
      if participatingCallId ≠ callId then .error .callerBusy
      else
        let active := s.activeCalls.lookup callId
        if active.any fun call => call.conferenceLeader.any (· != callerId) then
          .error .notConferenceLeader
        else if active.any fun call =>
            decide (∃ participant ∈ call.participants.keys,
              call.participants.lookup participant = some target ∨
                participant ∈ notifiedClients) then
          .error .alreadyParticipant
        else if active.any fun call =>
            decide (∃ participant ∈ call.participants.keys,
              call.participants.lookup participant = some target) then
          .error .alreadyParticipant
        else
          match s.ringingCalls.lookup callId with
          | none => .ok ()
          | some ringingCall =>
              if ringingCall.callerId ≠ callerId then .error .notConferenceLeader
              else if target ∈ ringingCall.targets.keys then .error .alreadyParticipant
              else if ringingCall.targets.anyValue fun ringing =>
                  decide (∃ callee ∈ notifiedClients, callee ∈ ringing.notifiedClients) then
                .error .alreadyParticipant
              else .ok ()
  | none =>
      if callId ∈ s.activeCalls.keys then .error .notParticipant
      else if callId ∈ s.ringingCalls.keys then .error .notParticipant
      else .ok ()

/-- The ringing entry of a call after one more target was invited. -/
def invitedEntry (ringing : Option RingingCallEntry) (callId : CallId) (callerId : ClientId)
    (source : CallSource) (target : CallTarget) (notifiedClients : Finset ClientId) :
    RingingCallEntry :=
  match ringing with
  | some ringingCall => ringingCall.addTarget source target notifiedClients
  | none => .new callId callerId source target notifiedClients

def attemptCall (order : Iteration) (s : CallManager) (callId : CallId) (callerId : ClientId)
    (source : CallSource) (target : CallTarget) (notifiedClients : Finset ClientId) :
    CallManager × Except StartCallError (CallParticipants × CallParticipants) :=
  match s.validateCallAttempt callId callerId target notifiedClients with
  | .error reason => (s, .error reason)
  | .ok () =>
      let entry := invitedEntry (s.ringingCalls.lookup callId) callId callerId source target
        notifiedClients
      let s := { s with
        ringingCalls := s.ringingCalls.insert callId entry
        clientActiveCalls := s.clientActiveCalls.insert callerId callId
        clientIncomingCalls := (order.clients.list notifiedClients).foldl
          (insertIncoming callId target) s.clientIncomingCalls }
      (s, .ok (entry.invitedParticipants order, (s.activeCallSnapshot callId).1))

/-! ## Rejecting and failing -/

/-- What marking a client does to one ringing target: targets it does not ring
for stay, and a target nobody is left to answer goes. -/
def markTarget (markFn : RingingTargetEntry → ClientId → RingingTargetEntry)
    (clientId : ClientId) (ringing : RingingTargetEntry) : Option RingingTargetEntry :=
  if !ringing.hasNotifiedClient clientId || ringing.hasFailedClient clientId then some ringing
  else if (markFn ringing clientId).allRejectedOrErrored then none
  else some (markFn ringing clientId)

/-- The targets that end when a client is marked, as they are walked. -/
def terminatedTargets (order : Iteration)
    (markFn : RingingTargetEntry → ClientId → RingingTargetEntry) (callId : CallId)
    (clientId : ClientId) (ringingCall : RingingCallEntry) : List RingingTarget :=
  (ringingCall.targetList order).filterMap fun (target, ringing) =>
    match markTarget markFn clientId ringing with
    | some _ => none
    | none => some ((markFn ringing clientId).complete callId ringingCall.callerId
        ringing.source target)

/-- Free the caller of a call that stopped ringing, unless it is in an active
call. -/
def freeCaller (s : CallManager) (callerId : ClientId) : CallManager :=
  if s.inSomeActiveCall callerId then s
  else { s with clientActiveCalls := s.clientActiveCalls.erase callerId }

def markClientWithinRingingCalls (order : Iteration) (s : CallManager) (callId : CallId)
    (clientId : ClientId) (markFn : RingingTargetEntry → ClientId → RingingTargetEntry) :
    CallManager × CallTerminationOutcome :=
  let s := s.removeClientIncomingCall callId clientId
  match s.ringingCalls.lookup callId with
  | none => (s, .callNotFound)
  | some ringingCall =>
      if ringingCall.callerId = clientId then (s, .clientNotNotified)
      else if !ringingCall.targets.anyValue fun ringing =>
          ringing.hasNotifiedClient clientId && !ringing.hasFailedClient clientId then
        (s, .clientNotNotified)
      else
        let targets := ringingCall.targets.filterMap fun _ => markTarget markFn clientId
        let marked := { ringingCall with targets := targets }
        let invited := marked.invitedParticipants order
        let s :=
          if targets.isEmpty then
            freeCaller { s with ringingCalls := s.ringingCalls.erase callId } ringingCall.callerId
          else { s with ringingCalls := s.ringingCalls.insert callId marked }
        match terminatedTargets order markFn callId clientId ringingCall with
        | [] => (s, .continued)
        | terminated => (s, .targetFailed terminated (s.updateWith callId invited))

def rejectCall (order : Iteration) (s : CallManager) (callId : CallId)
    (rejectingClientId : ClientId) : CallManager × CallTerminationOutcome :=
  s.markClientWithinRingingCalls order callId rejectingClientId .markRejected

/-- The source also takes the reason, for its metrics only. -/
def failRingingRecipient (order : Iteration) (s : CallManager) (callId : CallId)
    (clientId : ClientId) : CallManager × CallTerminationOutcome :=
  s.markClientWithinRingingCalls order callId clientId .markErrored

/-! ## Accepting -/

/-- One more ringing target that the accepting client was notified for. -/
def mergeAccepted (old : Option RingingTarget) (new : RingingTarget) : RingingTarget :=
  match old with
  | none => new
  | some old =>
      { new with
        notifiedClients := new.notifiedClients ∪ old.notifiedClients
        target := if new.target > old.target then old.target else new.target }

/-- The ringing target a client accepts, merged over all targets it rings for. -/
def acceptedTarget (order : Iteration) (callId : CallId) (acceptingClientId : ClientId)
    (ringingCall : RingingCallEntry) : Option RingingTarget :=
  (ringingCall.targetList order).foldl (fun accepted (target, ringing) =>
    if ringing.hasNotifiedClient acceptingClientId then
      some (mergeAccepted accepted
        (ringing.complete callId ringingCall.callerId ringing.source target))
    else accepted) none

/-- Let the accepting client join the call, opening it if it was only ringing. -/
def joinActive (active : Option ActiveCallEntry) (callId : CallId)
    (acceptingClientId : ClientId) (accepted : RingingTarget) : ActiveCallEntry :=
  match active with
  | some active =>
      let joined := ({ active with
        participants := active.participants.insert acceptingClientId accepted.target
        }).recordJoin acceptingClientId
      { joined with
        conferenceLeader :=
          if joined.conferenceLeader.isNone then some accepted.source.clientId
          else joined.conferenceLeader }
  | none =>
      ((ActiveCallEntry.new callId none
        (Finmap.insert accepted.callerId accepted.source.toTarget
          (Finmap.insert acceptingClientId accepted.target ∅))).recordJoin
            accepted.callerId).recordJoin acceptingClientId

def acceptCall (order : Iteration) (s : CallManager) (callId : CallId)
    (acceptingClientId : ClientId) : CallManager × AcceptCallOutcome :=
  if acceptingClientId ∈ s.clientActiveCalls.keys then (s, .acceptorBusy)
  else
    match s.ringingCalls.lookup callId with
    | none => (s, .notFound)
    | some ringingCall =>
        let targets := ringingCall.targets.retain fun _ ringing =>
          !ringing.hasNotifiedClient acceptingClientId
        let remaining := { ringingCall with targets := targets }
        let invited := remaining.invitedParticipants order
        let s := { s with
          ringingCalls :=
            if targets.isEmpty then s.ringingCalls.erase callId
            else s.ringingCalls.insert callId remaining }
        match acceptedTarget order callId acceptingClientId ringingCall with
        | none => (s, .notFound)
        | some accepted =>
            let s := { s with
              clientIncomingCalls := (order.clients.list accepted.notifiedClients).foldl
                (removeIncoming callId) s.clientIncomingCalls
              activeCalls := s.activeCalls.insert callId
                (joinActive (s.activeCalls.lookup callId) callId acceptingClientId accepted)
              clientActiveCalls := s.clientActiveCalls.insert acceptingClientId callId }
            (s, .accepted accepted (s.updateWith callId invited))

/-! ## Dropping one target -/

/-- A ringing target is dropped by the client that invited it. -/
def cancelRinging (order : Iteration) (s : CallManager) (callId : CallId)
    (ringingCall : RingingCallEntry) (target : CallTarget) (ringing : RingingTargetEntry) :
    CallManager × DropTargetOutcome :=
  let callerId := ringingCall.callerId
  let cancelled := ringing.complete callId callerId ringing.source target
  let remaining := { ringingCall with targets := ringingCall.targets.erase target }
  let invited := remaining.invitedParticipants order
  let ringingEnded := remaining.targets.isEmpty
  let s := { s with
    ringingCalls :=
      if ringingEnded then s.ringingCalls.erase callId
      else s.ringingCalls.insert callId remaining
    clientIncomingCalls := (order.clients.list cancelled.notifiedClients).foldl
      (removeIncoming callId) s.clientIncomingCalls }
  let joined := (s.activeCallSnapshot callId).1
  let s := { s with
    clientActiveCalls :=
      if ringingEnded ∧ callerId ∉ joined.keys then
        releaseBusy callId s.clientActiveCalls callerId
      else s.clientActiveCalls }
  (s, .ringingTargetCancelled cancelled (s.updateWith callId invited))

/-- `none` when the target does not ring within this call, so that the drop can
be retried against the joined participants. -/
def dropRingingTarget (order : Iteration) (s : CallManager) (callId : CallId)
    (droppingClientId : ClientId) (target : CallTarget) :
    Option (CallManager × DropTargetOutcome) :=
  match s.ringingCalls.lookup callId with
  | none => none
  | some ringingCall =>
      match ringingCall.targets.lookup target with
      | none => none
      | some ringing =>
          if ringing.source.clientId ≠ droppingClientId then some (s, .notPermitted)
          else some (s.cancelRinging order callId ringingCall target ringing)

/-- A participant leaves an active call that goes on without it; a call of two
has no leader. -/
def leaveActive (active : ActiveCallEntry) (clientId : ClientId) : ActiveCallEntry :=
  let left := ({ active with
    participants := active.participants.erase clientId }).forgetParticipant clientId
  { left with
    conferenceLeader :=
      if left.participants.keys.card ≤ 2 then none else left.conferenceLeader }

/-- The outcome of a drop that removes nobody. -/
def obsoleteOutcome (order : Iteration) (s : CallManager) (callId : CallId) :
    DropTargetOutcome :=
  let update := s.updateWith callId (s.pendingInvitations order callId)
  if update.invitedParticipants.isEmpty && update.joinedParticipants.isEmpty then .callNotFound
  else .obsolete update

def dropJoinedParticipant (order : Iteration) (s : CallManager) (callId : CallId)
    (droppingClientId : ClientId) (target : CallTarget) (reason : CallDropReason) :
    CallManager × DropTargetOutcome :=
  match s.activeCalls.lookup callId with
  | none => (s, s.obsoleteOutcome order callId)
  | some active =>
      if !active.involves droppingClientId then (s, .notPermitted)
      else
        match (order.clients.list active.participants.keys).find? fun participant =>
            active.participants.lookup participant == some target with
        | none => (s, s.obsoleteOutcome order callId)
        | some dropped =>
            -- An expired timer must never remove a joined participant.
            if reason = .autoHangup then (s, s.obsoleteOutcome order callId)
            else if dropped = droppingClientId then (s, .notPermitted)
            else if active.participants.keys.card ≤ 2 then (s, .notPermitted)
            else if active.conferenceLeader ≠ some droppingClientId then (s, .notPermitted)
            else
              let s := { s with
                activeCalls := s.activeCalls.insert callId (leaveActive active dropped)
                clientActiveCalls := releaseBusy callId s.clientActiveCalls dropped }
              (s, .participantDropped dropped
                (s.updateWith callId (s.pendingInvitations order callId)))

def dropTarget (order : Iteration) (s : CallManager) (callId : CallId)
    (droppingClientId : ClientId) (target : CallTarget) (reason : CallDropReason) :
    CallManager × DropTargetOutcome :=
  match s.dropRingingTarget order callId droppingClientId target with
  | some outcome => outcome
  | none => s.dropJoinedParticipant order callId droppingClientId target reason

/-! ## Ending a call -/

/-- Remove the ringing entry of a call, whoever created it, and cancel all its
pending targets. -/
def cancelPendingInvitations (order : Iteration) (s : CallManager) (callId : CallId) :
    CallManager × List UpdateCallAction :=
  match s.ringingCalls.lookup callId with
  | none => (s, [])
  | some ringing =>
      let s := { s with ringingCalls := s.ringingCalls.erase callId }
      (s.cleanupClientIncomingCalls order ringing,
        (ringing.completeAllTargets order).map .cancelRingingTarget)

/-- The ringing part of `endCall`: a caller takes its whole batch with it. -/
def endRinging (order : Iteration) (s : CallManager) (callId : CallId)
    (endingClientId : ClientId) : CallManager × Option (List UpdateCallAction) :=
  match s.ringingCalls.lookup callId with
  | none => (s, none)
  | some ringing =>
      if ringing.callerId = endingClientId then
        let s := { s with ringingCalls := s.ringingCalls.erase callId }
        let s := s.cleanupClientIncomingCalls order ringing
        let s := { s with clientActiveCalls := s.clientActiveCalls.erase endingClientId }
        (s, some ((ringing.completeAllTargets order).map .cancelRingingTarget))
      else (s, none)

/-- The active part of `endCall`: the leader, and either party of a call of two,
ends the call for everybody; any other participant leaves it. -/
def endActive (order : Iteration) (s : CallManager) (callId : CallId)
    (endingClientId : ClientId) : CallManager × Option (List UpdateCallAction) :=
  match s.activeCalls.lookup callId with
  | none => (s, none)
  | some active =>
      if !active.involves endingClientId then (s, none)
      else
        let others := active.participantsWithoutSelf endingClientId
        if others.isEmpty then
          let s := { s with activeCalls := s.activeCalls.erase callId }
          let (s, actions) := s.cancelPendingInvitations order callId
          ({ s with
            clientActiveCalls := releaseBusy callId s.clientActiveCalls endingClientId },
            some actions)
        else if active.conferenceLeader = some endingClientId ∨ others.keys.card ≤ 1 then
          let s := { s with
            activeCalls := s.activeCalls.erase callId
            clientActiveCalls := releaseBusy callId
              ((order.clients.list others.keys).foldl (releaseBusy callId) s.clientActiveCalls)
              endingClientId }
          let (s, actions) := s.cancelPendingInvitations order callId
          (s, some ((order.clients.list others.keys).map (.dropParticipant callId) ++ actions))
        else
          let s := { s with
            activeCalls := s.activeCalls.insert callId (leaveActive active endingClientId)
            clientActiveCalls := releaseBusy callId s.clientActiveCalls endingClientId }
          (s, some [.updateParticipants
            (s.updateWith callId (s.pendingInvitations order callId))])

def endCall (order : Iteration) (s : CallManager) (callId : CallId)
    (endingClientId : ClientId) : CallManager × Option (List UpdateCallAction) :=
  let (s, ringingActions) := s.endRinging order callId endingClientId
  let (s, activeActions) := s.endActive order callId endingClientId
  match activeActions, ringingActions with
  | some active, some ringing => (s, some (active ++ ringing))
  | active, ringing => (s, active.or ringing)

def callError (order : Iteration) (s : CallManager) (callId : CallId)
    (erroringClientId : ClientId) : CallManager × CallTerminationOutcome :=
  match s.markClientWithinRingingCalls order callId erroringClientId .markErrored with
  | (s, .continued) => (s, .continued)
  | (s, .targetFailed targets update) => (s, .targetFailed targets update)
  | (s, _) =>
      match s.endCall order callId erroringClientId with
      | (s, none) => (s, .callNotFound)
      | (s, some actions) => (s, .changed actions)

/-! ## Disconnecting -/

/-- A disconnecting caller takes its ringing batch with it. -/
def cleanupRinging (order : Iteration) (s : CallManager) (callId : CallId)
    (clientId : ClientId) : CallManager × List UpdateCallAction :=
  match s.ringingCalls.lookup callId with
  | none => (s, [])
  | some ringing =>
      if ringing.callerId = clientId then
        let s := { s with
          ringingCalls := s.ringingCalls.erase callId
          clientIncomingCalls := (notifiedList order ringing).foldl (removeIncoming callId)
            s.clientIncomingCalls }
        (s, (ringing.completeAllTargets order).map .cancelRingingTarget)
      else (s, [])

/-- A disconnecting participant leaves its active call; its own busy marker is
already gone. -/
def cleanupActive (order : Iteration) (s : CallManager) (callId : CallId)
    (clientId : ClientId) : CallManager × List UpdateCallAction :=
  match s.activeCalls.lookup callId with
  | none => (s, [])
  | some active =>
      if !active.involves clientId then (s, [])
      else
        let others := active.participantsWithoutSelf clientId
        if others.isEmpty then
          { s with activeCalls := s.activeCalls.erase callId }.cancelPendingInvitations order callId
        else if active.conferenceLeader = some clientId ∨ others.keys.card ≤ 1 then
          let s := { s with
            activeCalls := s.activeCalls.erase callId
            clientActiveCalls := (order.clients.list others.keys).foldl (releaseBusy callId)
              s.clientActiveCalls }
          let (s, actions) := s.cancelPendingInvitations order callId
          (s, (order.clients.list others.keys).map (.dropParticipant callId) ++ actions)
        else
          let s := { s with
            activeCalls := s.activeCalls.insert callId (leaveActive active clientId) }
          (s, [.updateParticipants (s.updateWith callId (s.pendingInvitations order callId))])

/-- The call a disconnecting client is busy with, if any. -/
def cleanupOwnCall (order : Iteration) (s : CallManager) (clientId : ClientId) :
    CallManager × List UpdateCallAction :=
  match s.clientActiveCalls.lookup clientId with
  | none => (s, [])
  | some callId =>
      let s := { s with clientActiveCalls := s.clientActiveCalls.erase clientId }
      let (s, ringingActions) := s.cleanupRinging order callId clientId
      let (s, activeActions) := s.cleanupActive order callId clientId
      (s, ringingActions ++ activeActions)

/-- Forget a disconnecting client at one ringing target. -/
def forgetNotified (ringing : RingingTargetEntry) (clientId : ClientId) : RingingTargetEntry :=
  { ringing with
    notifiedClients := ringing.notifiedClients.erase clientId
    rejectedClients := ringing.rejectedClients.erase clientId
    erroredClients := ringing.erroredClients.erase clientId }

/-- One call a disconnecting client is being rung for. -/
def cleanupIncomingCall (order : Iteration) (s : CallManager) (clientId : ClientId)
    (callId : CallId) (callTarget : CallTarget) : CallManager × List UpdateCallAction :=
  match s.ringingCalls.lookup callId with
  | none => (s, [])
  | some ringingCall =>
      let (remaining, actions) : RingingCallEntry × List UpdateCallAction :=
        match ringingCall.targets.lookup callTarget with
        | none => (ringingCall, [])
        | some ringing =>
            let ringing := forgetNotified ringing clientId
            if ringing.allRejectedOrErrored then
              let remaining :=
                { ringingCall with targets := ringingCall.targets.erase callTarget }
              (remaining,
                [.cancelRingingTarget (ringing.complete ringingCall.callId ringingCall.callerId
                    ringing.source callTarget),
                  .updateParticipants
                    (s.updateWith callId (remaining.invitedParticipants order))])
            else
              ({ ringingCall with targets := ringingCall.targets.insert callTarget ringing }, [])
      if remaining.allTargetsFailed then
        let s := s.freeCaller remaining.callerId
        ({ s with ringingCalls := s.ringingCalls.erase callId }, actions)
      else ({ s with ringingCalls := s.ringingCalls.insert callId remaining }, actions)

/-- All calls a disconnecting client is being rung for. -/
def cleanupIncomingCalls (order : Iteration) (s : CallManager) (clientId : ClientId) :
    CallManager × List UpdateCallAction :=
  match s.clientIncomingCalls.lookup clientId with
  | none => (s, [])
  | some incoming =>
      (order.calls.list incoming.keys).foldl
        (fun (s, actions) callId =>
          match incoming.lookup callId with
          | none => (s, actions)
          | some callTarget =>
              let (s, more) := s.cleanupIncomingCall order clientId callId callTarget
              (s, actions ++ more))
        ({ s with clientIncomingCalls := s.clientIncomingCalls.erase clientId }, [])

def cleanupClientCalls (order : Iteration) (s : CallManager) (clientId : ClientId) :
    CallManager × List UpdateCallAction :=
  let (s, actions) := s.cleanupOwnCall order clientId
  let (s, incomingActions) := s.cleanupIncomingCalls order clientId
  (s, actions ++ incomingActions)

/-! ## Dead links -/

/-- Once both endpoints of a pair have reported it, the later joiner is evicted
as if it had left. -/
def reportLinkFailure (order : Iteration) (s : CallManager) (callId : CallId)
    (reporterId peerId : ClientId) (now : Instant) : CallManager × LinkReportOutcome :=
  if reporterId = peerId then (s, .invalidReport)
  else
    match s.activeCalls.lookup callId with
    | none => (s, .invalidReport)
    | some active =>
        if reporterId ∉ active.participants.keys ∨ peerId ∉ active.participants.keys then
          (s, .invalidReport)
        else
          let (reported, confirmed) := active.recordLinkReportAt reporterId peerId now
          let s := { s with activeCalls := s.activeCalls.insert callId reported }
          if !confirmed then (s, .recorded)
          else
            let evicted := reported.laterJoiner reporterId peerId
            let unreachable := if evicted = reporterId then peerId else reporterId
            match s.endCall order callId evicted with
            | (s, some actions) => (s, .evicted evicted unreachable actions)
            | (s, none) => (s, .recorded)

/-! ## Reading the state of a call -/

/-- The state of a call, if the client has invited into it or joined it. -/
def callStateUpdate (order : Iteration) (s : CallManager) (callId : CallId)
    (clientId : ClientId) : Option UpdateParticipants :=
  let update := s.updateWith callId (s.pendingInvitations order callId)
  let inviting := (s.ringingCalls.lookup callId).any fun call =>
    call.callerId == clientId || call.targets.anyValue fun target =>
      target.source.clientId == clientId
  if inviting || decide (clientId ∈ update.joinedParticipants.keys) then some update else none

/-- The state a queued update for a client should carry when it is forwarded, or `none` once the
client is neither caller, invitee nor participant. -/
def callStateForParty (order : Iteration) (s : CallManager) (callId : CallId)
    (clientId : ClientId) : Option UpdateParticipants :=
  let update := s.updateWith callId (s.pendingInvitations order callId)
  let calling := (s.ringingCalls.lookup callId).any fun call => call.callerId == clientId
  if calling || decide (clientId ∈ update.invitedParticipants.keys) ||
      decide (clientId ∈ update.joinedParticipants.keys) then some update
  else none

end CallManager

end Vacs
