import Vacs.Calls.Manager

/-!
# Messages about calls

What the clients and the server tell each other about calls. Messages about
stations, clients and the session, and the relayed WebRTC messages, do not depend
on the call manager and are not listed here.
-/

set_option autoImplicit false

namespace Vacs

/-- The payload of a reason this protocol version does not know. -/
abbrev UnknownReason : Type := String

inductive CallRejectReason where
  | busy
  | unknown (reason : UnknownReason)
deriving DecidableEq, Repr

inductive CallErrorReason where
  | targetsNotFound (targets : Finset CallTarget)
  | alreadyParticipant (target : CallTarget)
  | callNotFound
  | callActive
  | webrtcFailure (clientId : ClientId)
  | audioFailure (clientId : ClientId)
  | callFailure
  | signalingFailure (clientId : ClientId)
  | autoHangup
  | peerConnectionFailed (clientId : ClientId)
  | notConferenceLeader (target : CallTarget)
  | notParticipant
  | maxConferenceSizeReached (targets : Finset CallTarget)
  | other
  | unknown (reason : UnknownReason)
deriving DecidableEq

inductive CallCancelReason where
  | answeredElsewhere (clientId : ClientId)
  | callerCancelled
  | disconnected
  | errored (reason : CallErrorReason)
  | rejected (reason : CallRejectReason)
  | unknown (reason : UnknownReason)
deriving DecidableEq

structure CallInvite where
  callId : CallId
  source : CallSource
  targets : Finset CallTarget
  prio : Bool
deriving DecidableEq

structure CallInvitation where
  callId : CallId
  source : CallSource
  target : CallTarget
  invitedTargets : Finset CallTarget
  joinedParticipants : CallParticipants
  conferenceLeader : Option ClientId
  prio : Bool
deriving DecidableEq

structure CallUpdate where
  callId : CallId
  invitedTargets : Finset CallTarget
  joinedParticipants : CallParticipants
  conferenceLeader : Option ClientId
deriving DecidableEq

structure CallCancelled where
  callId : CallId
  targets : Finset CallTarget
  reason : CallCancelReason
deriving DecidableEq

structure CallEnd where
  callId : CallId
  endingClientId : ClientId
deriving DecidableEq

structure CallError where
  callId : CallId
  reason : CallErrorReason
  message : Option String := none
deriving DecidableEq

/-- What the server tells a client about calls. -/
inductive ServerMessage where
  | callInvitation (invitation : CallInvitation)
  | callUpdate (update : CallUpdate)
  | callCancelled (cancelled : CallCancelled)
  | callEnd (callEnd : CallEnd)
  | callError (error : CallError)
  /-- A general error about a call: an invite was over the rate limit. -/
  | rateLimited (callId : CallId) (targets : Finset CallTarget) (retryAfterSecs : ℕ)
deriving DecidableEq

/-- What a client asks of the server about calls. -/
inductive ClientMessage where
  | callInvite (invite : CallInvite)
  | callAccept (callId : CallId) (acceptingClientId : ClientId)
  | callReject (callId : CallId) (rejectingClientId : ClientId) (reason : CallRejectReason)
  | callEnd (callEnd : CallEnd)
  | callError (error : CallError)
  | callDropTarget (callId : CallId) (target : CallTarget) (reason : CallDropReason)
deriving DecidableEq

/-- The values of a roster. -/
def CallParticipants.targets (participants : CallParticipants) : Finset CallTarget :=
  participants.keys.biUnion fun client => (participants.lookup client).toFinset

namespace UpdateParticipants

/-- Everybody in the update, the invited clients first. -/
def allParticipants (order : Iteration) (update : UpdateParticipants) : List ClientId :=
  order.clients.list update.invitedParticipants.keys ++
    order.clients.list update.joinedParticipants.keys

def allParticipantsWithoutSelf (order : Iteration) (update : UpdateParticipants)
    (clientId : ClientId) : List ClientId :=
  (update.allParticipants order).filter fun participant => participant != clientId

/-- The update for one recipient, without its own target among the invited ones. -/
def forRecipient (update : UpdateParticipants) (recipientId : ClientId) : CallUpdate where
  callId := update.callId
  invitedTargets := (CallParticipants.targets update.invitedParticipants).filter fun target =>
    some target ≠ update.invitedParticipants.lookup recipientId
  joinedParticipants := update.joinedParticipants
  conferenceLeader := update.conferenceLeader

end UpdateParticipants

end Vacs
