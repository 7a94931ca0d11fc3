import Vacs.Protocol.CallMessages

/-!
# The calls of the app

The app keeps at most one current call, the calls it is invited to, and a timer for every
target it has invited, which hangs up on the target when nobody answers in time. Local
actions change this state at once and send a message to the server; what the server tells
the app changes it afterwards.

The peer connections of the current call are left out (see `Vacs.Peers.Links`), and so are
the sounds and what is emitted to the frontend. Messages are always sent. A timer is the
call for which it hangs up; time is not modelled, so an armed timer may expire whenever it
pleases.
-/

set_option autoImplicit false

namespace Vacs

namespace App

/-! ## A call -/

structure Call where
  callId : CallId
  invitedTargets : Finset CallTarget
  joinedParticipants : CallParticipants
  conferenceLeader : Option ClientId
deriving DecidableEq

namespace Call

def fromInvite (invite : CallInvite) : Call where
  callId := invite.callId
  invitedTargets := invite.targets
  joinedParticipants := ∅
  conferenceLeader := none

def fromInvitation (invitation : CallInvitation) : Call where
  callId := invitation.callId
  invitedTargets := invitation.invitedTargets
  joinedParticipants := invitation.joinedParticipants
  conferenceLeader := invitation.conferenceLeader

def addInvitedTargets (self : Call) (targets : Finset CallTarget) : Call :=
  { self with invitedTargets := self.invitedTargets ∪ targets }

def removeInvitedTargets (self : Call) (targets : Finset CallTarget) : Call :=
  { self with invitedTargets := self.invitedTargets \ targets }

def isActive (self : Call) (ownClientId : ClientId) : Bool :=
  decide (ownClientId ∈ self.joinedParticipants.keys)

def isEmpty (self : Call) : Bool :=
  self.joinedParticipants.isEmpty && decide (self.invitedTargets = ∅)

/-- Who has joined and who has left with an update: nobody, unless the client itself is on the
roster; everybody else has, when it was not before. -/
def changes (self : Call) (ownClientId : ClientId) (joinedParticipants : CallParticipants) :
    CallParticipants × Finset ClientId :=
  if ownClientId ∈ joinedParticipants.keys then
    if self.isActive ownClientId then
      (joinedParticipants.retain fun id _ => decide (id ∉ self.joinedParticipants.keys),
        self.joinedParticipants.keys \ joinedParticipants.keys)
    else (joinedParticipants.retain fun id _ => decide (id ≠ ownClientId), ∅)
  else (∅, ∅)

/-- The call after an update, with the participants that have joined and those that have left. -/
def update (self : Call) (ownClientId : ClientId) (invitedTargets : Finset CallTarget)
    (joinedParticipants : CallParticipants) (conferenceLeader : Option ClientId) :
    Call × CallParticipants × Finset ClientId :=
  ({ self with
      invitedTargets := invitedTargets
      joinedParticipants := joinedParticipants
      conferenceLeader := conferenceLeader },
    self.changes ownClientId joinedParticipants)

end Call

def incomingCallsLimit : ℕ := 5

/-! ## The state of the app -/

/-- The part of the app state that is about calls, with the settings that matter to it. -/
structure AppStateInner where
  clientId : ClientId
  autoHangupSeconds : ℕ
  ignored : Finset ClientId
  currentCall : Option Call
  incomingCalls : HashMap CallId Call
  unansweredCallGuards : HashMap CallTarget CallId
deriving DecidableEq

namespace AppStateInner

def callIfCurrent (self : AppStateInner) (callId : CallId) : Option Call :=
  self.currentCall.filter fun call => decide (call.callId = callId)

/-! ### Timers -/

def cancelUnansweredCallTimersForTargets (self : AppStateInner) (targets : Finset CallTarget) :
    AppStateInner :=
  { self with
    unansweredCallGuards :=
      self.unansweredCallGuards.retain fun target _ => decide (target ∉ targets) }

def cancelAllUnansweredCallTimers (self : AppStateInner) : AppStateInner :=
  { self with unansweredCallGuards := ∅ }

/-- The timers of the targets are armed for the call, whatever they were armed for before. -/
def armTimers (guards : HashMap CallTarget CallId) (callId : CallId)
    (targets : List CallTarget) : HashMap CallTarget CallId :=
  targets.foldl (fun armed target => armed.insert target callId) guards

def startUnansweredCallTimerForTargets (order : Iteration) (self : AppStateInner)
    (callId : CallId) (targets : Finset CallTarget) : AppStateInner :=
  let self := self.cancelUnansweredCallTimersForTargets targets
  if self.autoHangupSeconds = 0 then self
  else { self with
    unansweredCallGuards :=
      armTimers self.unansweredCallGuards callId (order.targets.list targets) }

def cleanupCurrentCall (self : AppStateInner) (callId : CallId) : AppStateInner :=
  match self.callIfCurrent callId with
  | none => self
  | some _ => { self with currentCall := none }.cancelAllUnansweredCallTimers

def removeIncomingCall (self : AppStateInner) (callId : CallId) : AppStateInner :=
  { self with incomingCalls := self.incomingCalls.erase callId }

/-! ### Local actions -/

/-- Invite targets to the current call, or start a call with the given id. -/
def inviteToCall (order : Iteration) (self : AppStateInner) (freshId : CallId)
    (source : CallSource) (targets : Finset CallTarget) (prio : Bool) :
    AppStateInner × List ClientMessage :=
  let callId := (self.currentCall.map Call.callId).getD freshId
  let invite : CallInvite := ⟨callId, source, targets, prio⟩
  let invited := match self.currentCall with
    | some call => call.addInvitedTargets targets
    | none => Call.fromInvite invite
  ({ self with currentCall := some invited }.startUnansweredCallTimerForTargets order callId
    targets, [.callInvite invite])

/-- Drop a target. The call itself is only ended by the update that the server echoes. -/
def dropTarget (self : AppStateInner) (callId : CallId) (target : CallTarget) :
    AppStateInner × List ClientMessage :=
  match self.callIfCurrent callId with
  | none => (self, [])
  | some call =>
      let message := .callDropTarget callId target .requested
      if target ∈ call.invitedTargets then
        ({ self with currentCall := some (call.removeInvitedTargets {target}) }
          |>.cancelUnansweredCallTimersForTargets {target}, [message])
      else (self, [message])

def endCall (self : AppStateInner) (callId : CallId) : AppStateInner × List ClientMessage :=
  (self.cleanupCurrentCall callId, [.callEnd ⟨callId, self.clientId⟩])

/-- Accept an incoming call. A current call stands in the way, unless the client has joined it
and wants to end it. -/
def acceptCall (self : AppStateInner) (callId : CallId) (endActiveCall : Bool) :
    AppStateInner × List ClientMessage :=
  match self.incomingCalls.lookup callId with
  | none => (self, [])
  | some call =>
      let accepts := fun self : AppStateInner =>
        { self with
          incomingCalls := self.incomingCalls.erase callId
          currentCall := some call }
      let accept := .callAccept callId self.clientId
      match self.currentCall with
      | none => (accepts self, [accept])
      | some current =>
          if !endActiveCall || !current.isActive self.clientId then (self, [])
          else
            let (self, messages) := self.endCall current.callId
            (accepts self, messages ++ [accept])

/-- The timer of a target expires. -/
def timerExpired (self : AppStateInner) (target : CallTarget) :
    AppStateInner × List ClientMessage :=
  match self.unansweredCallGuards.lookup target with
  | none => (self, [])
  | some callId =>
      let self := { self with unansweredCallGuards := self.unansweredCallGuards.erase target }
      let self := match self.callIfCurrent callId with
        | none => self
        | some call => { self with currentCall := some (call.removeInvitedTargets {target}) }
      (self, [.callDropTarget callId target .autoHangup])

/-! ### Messages of the server -/

def onCallInvitation (self : AppStateInner) (invitation : CallInvitation) :
    AppStateInner × List ClientMessage :=
  if invitation.source.clientId ∈ self.ignored then (self, [])
  else if incomingCallsLimit ≤ self.incomingCalls.keys.card then
    (self, [.callReject invitation.callId self.clientId .busy])
  else
    ({ self with incomingCalls :=
        self.incomingCalls.insert invitation.callId (Call.fromInvitation invitation) }, [])

def onCallUpdate (self : AppStateInner) (msg : CallUpdate) : AppStateInner :=
  let updated := fun call : Call =>
    call.update self.clientId msg.invitedTargets msg.joinedParticipants msg.conferenceLeader
  match self.incomingCalls.lookup msg.callId with
  | some incoming =>
      { self with incomingCalls := self.incomingCalls.insert msg.callId (updated incoming).1 }
  | none =>
      match self.callIfCurrent msg.callId with
      | none => self
      | some call =>
          let (after, newlyJoined, _) := updated call
          let self' := { self with currentCall := some after }
          if (decide (msg.invitedTargets = ∅) && msg.joinedParticipants.isEmpty) ||
              (call.isActive self.clientId && !after.isActive self.clientId) then
            self'.cleanupCurrentCall msg.callId
          else if msg.invitedTargets = ∅ then self'.cancelAllUnansweredCallTimers
          else self'.cancelUnansweredCallTimersForTargets (CallParticipants.targets newlyJoined)

def onCallEnd (self : AppStateInner) (msg : CallEnd) : AppStateInner :=
  (self.cleanupCurrentCall msg.callId).removeIncomingCall msg.callId

/-- Targets of the current call are given up, and the call with them if nothing is left. The
timers of the targets are cancelled in any case. -/
def giveUpTargets (self : AppStateInner) (callId : CallId) (targets : Finset CallTarget) :
    AppStateInner :=
  match self.callIfCurrent callId with
  | none => self
  | some call =>
      let after := call.removeInvitedTargets targets
      let self := { self with currentCall := some after }
      let self := if after.isEmpty then self.cleanupCurrentCall callId else self
      self.cancelUnansweredCallTimersForTargets targets

def onCallError (self : AppStateInner) (callId : CallId) : CallErrorReason → AppStateInner
  | .targetsNotFound targets => self.giveUpTargets callId targets
  | .maxConferenceSizeReached targets => self.giveUpTargets callId targets
  | .callActive | .notParticipant | .callNotFound | .callFailure | .other =>
      (self.cleanupCurrentCall callId).removeIncomingCall callId
  | .unknown _ => self
  | .webrtcFailure _ | .audioFailure _ | .signalingFailure _ => self
  | .notConferenceLeader target => self.giveUpTargets callId {target}
  | .alreadyParticipant target => self.giveUpTargets callId {target}
  | .peerConnectionFailed _ => self.cleanupCurrentCall callId
  | .autoHangup => self

/-- The invitation is withdrawn from a ringing client; a caller gives up the targets. -/
def onDisconnected (self : AppStateInner) (callId : CallId) (targets : Finset CallTarget) :
    AppStateInner :=
  if callId ∈ self.incomingCalls.keys then self.removeIncomingCall callId
  else self.giveUpTargets callId targets

def onCallCancelled (self : AppStateInner) (msg : CallCancelled) : AppStateInner :=
  match msg.reason with
  | .answeredElsewhere _ | .callerCancelled | .errored .autoHangup =>
      (self.cleanupCurrentCall msg.callId).removeIncomingCall msg.callId
  | .disconnected => self.onDisconnected msg.callId msg.targets
  | .unknown _ => self.onDisconnected msg.callId msg.targets
  | .rejected _ => self.giveUpTargets msg.callId msg.targets
  | .errored _ => self.giveUpTargets msg.callId msg.targets

def onRateLimited (self : AppStateInner) (callId : CallId) (targets : Finset CallTarget) :
    AppStateInner :=
  (self.removeIncomingCall callId).giveUpTargets callId targets

def handleSignalingMessage (self : AppStateInner) :
    ServerMessage → AppStateInner × List ClientMessage
  | .callInvitation invitation => self.onCallInvitation invitation
  | .callUpdate update => (self.onCallUpdate update, [])
  | .callCancelled cancelled => (self.onCallCancelled cancelled, [])
  | .callEnd callEnd => (self.onCallEnd callEnd, [])
  | .callError error => (self.onCallError error.callId error.reason, [])
  | .rateLimited callId targets _ => (self.onRateLimited callId targets, [])

end AppStateInner

end App

end Vacs
