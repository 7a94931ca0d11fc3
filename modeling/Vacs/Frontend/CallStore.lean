import Vacs.Foundations.FiniteMap
import Vacs.Protocol.Identifiers

/-!
# The call store of the frontend

The store has the call that is displayed, the incoming calls and the state of the
conference button. Its actions follow the events of the signaling and WebRTC listeners and
the clicks of the user. A display is terminal when its call was rejected or has failed: it
stays until it is dismissed.

An invite to the displayed call is applied at once, before it is sent, and is taken back
when sending it fails. The two halves of `startCall` are `startCall` and `rollBackInvite`.

Objects whose keys are client ids are maps; they are walked in some order.
-/

set_option autoImplicit false

namespace Vacs

namespace Frontend

structure CallSource where
  clientId : ClientId
  positionId : Option PositionId := none
  stationId : Option StationId := none
deriving DecidableEq

structure CallTarget where
  client : Option ClientId := none
  position : Option PositionId := none
  station : Option StationId := none
deriving DecidableEq

inductive ConnectionState where
  | connecting
  | connected
  | degraded
  | disconnected
deriving DecidableEq

/-- A participant of the displayed call, with the state of the connection to it. -/
structure Participant where
  target : CallTarget
  state : ConnectionState
deriving DecidableEq

structure Call where
  callId : CallId
  source : CallSource
  target : CallTarget
  invitedTargets : List CallTarget
  joinedParticipants : HashMap ClientId CallTarget
  conferenceLeader : Option ClientId
  prio : Bool

structure CallDisplayCall where
  callId : CallId
  source : CallSource
  target : CallTarget
  invitedTargets : List CallTarget
  joinedParticipants : HashMap ClientId Participant
  isConferenceLeader : Option Bool
  /-- The targets that this client has invited itself. -/
  ownInvitedTargets : List CallTarget
  prio : Bool

structure CallUpdate where
  callId : CallId
  invitedTargets : List CallTarget
  joinedParticipants : HashMap ClientId CallTarget
  conferenceLeader : Option ClientId

inductive CallErrorOrigin where
  | call
  | client (value : ClientId)
  | targets (value : List CallTarget)

structure CallError where
  callId : CallId
  origin : CallErrorOrigin
  reason : String
  callEnded : Bool

inductive CallDisplayType where
  | outgoing
  | accepted
  | rejected
  | error
deriving DecidableEq

structure ErroredTarget where
  target : CallTarget
  reason : String
deriving DecidableEq

structure CallDisplay where
  type : CallDisplayType
  call : CallDisplayCall
  prioTargets : List CallTarget
  erroredTargets : List ErroredTarget
  rejectedTargets : List CallTarget
  errorReason : Option String := none

structure OutgoingCallEvent where
  callId : CallId
  source : CallSource
  targets : List CallTarget
  prio : Bool

inductive ConferenceState where
  | modify
  | active
  | inactive
deriving DecidableEq

structure CallStore where
  callDisplay : Option CallDisplay := none
  incomingCalls : List Call := []
  prio : Bool := false
  conferenceState : ConferenceState := .inactive
  maxConferenceSize : Option ℕ := none
  /-- The id of this client, which the auth store has while it is logged in. -/
  cid : Option ClientId := none

/-! ## Targets -/

def participantCount {V : Type} (participants : HashMap ClientId V) (excludeSelf : Bool) : ℕ :=
  participants.keys.card - if excludeSelf then 1 else 0

def otherPartyCount {V : Type} (invitedTargets : List CallTarget)
    (joinedParticipants : HashMap ClientId V) : ℕ :=
  invitedTargets.length + participantCount joinedParticipants true

/-- `hasTarget` of participants with their connection states. -/
def hasParticipant (participants : HashMap ClientId Participant) (target : CallTarget) : Bool :=
  participants.anyValue fun participant => decide (participant.target = target)

/-- `hasTarget` of participants as the server lists them. -/
def hasJoined (participants : HashMap ClientId CallTarget) (target : CallTarget) : Bool :=
  participants.anyValue fun joined => decide (joined = target)

def callSourceToTarget (source : CallSource) : CallTarget :=
  match source.stationId, source.positionId with
  | some station, _ => { station := some station }
  | none, some position => { position := some position }
  | none, none => { client := some source.clientId }

namespace CallDisplay

def isTerminal (display : CallDisplay) : Bool :=
  display.type = .error || display.type = .rejected

/-- The display with more invited targets. -/
def withInvited (display : CallDisplay) (targets : List CallTarget) (prio : Bool) : CallDisplay :=
  let added := targets.filter fun target => target ∉ display.call.invitedTargets
  let ownAdded := targets.filter fun target => target ∉ display.call.ownInvitedTargets
  let prioAdded := if prio then targets.filter fun target => target ∉ display.prioTargets else []
  { display with
    call := { display.call with
      invitedTargets := display.call.invitedTargets ++ added
      ownInvitedTargets := display.call.ownInvitedTargets ++ ownAdded
      isConferenceLeader := some true }
    prioTargets := display.prioTargets ++ prioAdded
    rejectedTargets := display.rejectedTargets.filter fun target => target ∉ targets
    erroredTargets := display.erroredTargets.filter fun errored => errored.target ∉ targets }

/-- Take back invitations, and the priority of whoever is no longer in the call. -/
def withoutInvited (display : CallDisplay) (targets : List CallTarget) : CallDisplay :=
  let invitedTargets := display.call.invitedTargets.filter fun target => target ∉ targets
  { display with
    call := { display.call with invitedTargets }
    prioTargets := display.prioTargets.filter fun target =>
      target ∈ invitedTargets || hasParticipant display.call.joinedParticipants target }

/-- The targets that an error is about, and the display without them. -/
def takeErrored (display : CallDisplay) (cid : Option ClientId) (order : Enumeration ClientId) :
    CallErrorOrigin → Option (List CallTarget × CallDisplay)
  | .call =>
      let others := (order.list display.call.joinedParticipants.keys).filter fun client =>
        some client ≠ cid
      some (display.call.invitedTargets ++
          others.filterMap fun client =>
            (display.call.joinedParticipants.lookup client).map Participant.target,
        { display with
          call := { display.call with invitedTargets := [], joinedParticipants := ∅ }
          prioTargets := [] })
  | .targets value =>
      let targets := value.filter fun target =>
        !hasParticipant display.call.joinedParticipants target
      if targets = [] then none else some (targets, display.withoutInvited targets)
  | .client client =>
      (display.call.joinedParticipants.lookup client).map fun participant =>
        let left : CallDisplay :=
          { display with
            call := { display.call with
              joinedParticipants := display.call.joinedParticipants.erase client } }
        ([participant.target], left.withoutInvited [participant.target])

/-- A display whose call has ended for everyone. -/
def ended (display : CallDisplay) : CallDisplay :=
  { display with
    call := { display.call with invitedTargets := [], joinedParticipants := ∅ }
    prioTargets := [] }

end CallDisplay

def deriveIsConferenceLeader (conferenceLeader cid : Option ClientId) : Option Bool :=
  conferenceLeader.map fun leader => decide (some leader = cid)

namespace CallStore

variable (store : CallStore)

/-! ## Outgoing and incoming calls -/

def setOutgoingCall (call : CallDisplayCall) : CallStore :=
  { store with
    callDisplay := some
      { type := .outgoing
        call
        prioTargets := if call.prio then call.invitedTargets else []
        rejectedTargets := []
        erroredTargets := [] } }

/-- Applied at once by the client that invites, and again from the event. -/
def addInvitedTargets (display : CallDisplay) (targets : List CallTarget) (prio : Bool) :
    CallStore :=
  { store with
    callDisplay := some (display.withInvited targets prio)
    conferenceState := .active }

def applyOutgoingCall (event : OutgoingCallEvent) : CallStore :=
  match event.targets with
  | [] => store
  | target :: _ =>
      match store.callDisplay.filter fun display => display.call.callId = event.callId with
      | some display =>
          if display.isTerminal then store
          else store.addInvitedTargets display event.targets event.prio
      | none =>
          store.setOutgoingCall
            { callId := event.callId
              source := event.source
              target
              invitedTargets := event.targets
              ownInvitedTargets := event.targets
              joinedParticipants := ∅
              isConferenceLeader := if 1 < event.targets.length then some true else none
              prio := event.prio }

def acceptIncomingCall (callId : CallId) : CallStore :=
  match store.incomingCalls.find? fun call => call.callId = callId with
  | none => store
  | some incomingCall =>
      let invited := incomingCall.joinedParticipants.filterMap fun _ target =>
        some (Participant.mk target .connecting)
      { store with
        callDisplay := some
          { type := .accepted
            call :=
              { callId := incomingCall.callId
                source := incomingCall.source
                target := incomingCall.target
                invitedTargets := incomingCall.invitedTargets
                joinedParticipants := store.cid.elim invited fun cid =>
                  invited.insert cid ⟨incomingCall.target, .connected⟩
                isConferenceLeader :=
                  deriveIsConferenceLeader incomingCall.conferenceLeader store.cid
                ownInvitedTargets := []
                prio := incomingCall.prio }
            prioTargets := if incomingCall.prio then [callSourceToTarget incomingCall.source] else []
            rejectedTargets := []
            erroredTargets := [] }
        incomingCalls := store.incomingCalls.filter fun call => call.callId ≠ callId }

def endCall : CallStore :=
  { store with callDisplay := none, conferenceState := .inactive }

def addIncomingCall (call : Call) : CallStore :=
  { store with
    incomingCalls := (store.incomingCalls.filter fun info => info.callId ≠ call.callId) ++ [call] }

/-! ## Updates -/

/-- The displayed call after an update. -/
def updatedDisplay (order : Enumeration ClientId) (display : CallDisplay) (update : CallUpdate) :
    CallDisplay :=
  let present := fun target =>
    target ∈ update.invitedTargets || hasJoined update.joinedParticipants target
  let others := (order.list update.joinedParticipants.keys).filter fun client =>
    some client ≠ store.cid
  let firstOther := others.head?.bind fun client =>
    (update.joinedParticipants.lookup client).map fun target => (client, target)
  let target :=
    if present display.call.target then display.call.target
    else (update.invitedTargets.head?.or (firstOther.map Prod.snd)).getD display.call.target
  let source :=
    if present (callSourceToTarget display.call.source) then display.call.source
    else firstOther.elim display.call.source fun other =>
      ⟨other.1, other.2.position, other.2.station⟩
  { display with
    type :=
      if display.type = .outgoing ∧ update.joinedParticipants.keys ≠ ∅ then .accepted
      else display.type
    call := { display.call with
      source
      target
      invitedTargets := update.invitedTargets
      joinedParticipants := update.joinedParticipants.filterMap fun client target =>
        let oldState := (display.call.joinedParticipants.lookup client).map Participant.state
        some ⟨target,
          oldState.getD (if some client ≠ store.cid then .connecting else .connected)⟩
      isConferenceLeader := deriveIsConferenceLeader update.conferenceLeader store.cid }
    prioTargets := display.prioTargets.filter present
    rejectedTargets := display.rejectedTargets.filter fun target => !present target
    erroredTargets := display.erroredTargets.filter fun errored => !present errored.target }

def updateCall (order : Enumeration ClientId) (update : CallUpdate) : CallStore :=
  match store.incomingCalls.find? fun call => call.callId = update.callId with
  | some incomingCall =>
      { store with
        incomingCalls := store.incomingCalls.map fun call =>
          if call.callId = update.callId then
            { incomingCall with
              callId := update.callId
              invitedTargets := update.invitedTargets
              joinedParticipants := update.joinedParticipants
              conferenceLeader := update.conferenceLeader }
          else call }
  | none =>
      match store.callDisplay.filter fun display => display.call.callId = update.callId with
      | none => store
      | some display =>
          if display.isTerminal then store
          else
            { store with
              callDisplay := some (store.updatedDisplay order display update)
              conferenceState :=
                if otherPartyCount update.invitedTargets update.joinedParticipants < 2 then .inactive
                else store.conferenceState }

def removeCall (callId : CallId) (callEnd : Bool) : CallStore :=
  let removed := { store with
    incomingCalls := store.incomingCalls.filter fun call => call.callId ≠ callId }
  match store.callDisplay with
  | none => removed
  | some display =>
      if display.call.callId = callId ∧ !display.isTerminal ∧
          (!callEnd ∨ display.type ≠ .outgoing) then
        { removed with callDisplay := none, conferenceState := .inactive }
      else removed

/-! ## Targets that leave the call -/

def cancelInvitedTarget (callId : CallId) (target : CallTarget) : CallStore :=
  match store.callDisplay.filter fun display => display.call.callId = callId with
  | none => store
  | some display =>
      if display.isTerminal then store
      else
        let next := display.withoutInvited [target]
        { store with
          callDisplay := some next
          conferenceState :=
            if otherPartyCount next.call.invitedTargets next.call.joinedParticipants < 2 then
              .inactive
            else store.conferenceState }

def rejectTargets (callId : CallId) (rejected : List CallTarget) : CallStore :=
  match store.callDisplay.filter fun display => display.call.callId = callId with
  | none => store.removeCall callId false
  | some display =>
      if display.isTerminal then store
      else
        let targets := rejected.filter fun target =>
          !hasParticipant display.call.joinedParticipants target
        if targets = [] then store
        else
          let next := display.withoutInvited targets
          let otherParties :=
            otherPartyCount next.call.invitedTargets next.call.joinedParticipants
          { store with
            callDisplay := some
              { next with
                type := if 0 < otherParties then next.type else .rejected
                rejectedTargets := next.rejectedTargets ++ targets }
            conferenceState := if otherParties < 2 then .inactive else store.conferenceState }

def errorTargets (order : Enumeration ClientId) (error : CallError) : CallStore :=
  match store.callDisplay.filter fun display => display.call.callId = error.callId with
  | none => store.removeCall error.callId false
  | some display =>
      if display.isTerminal then store
      else
        match display.takeErrored store.cid order error.origin with
        | none => store
        | some (targets, left) =>
            let next := if error.callEnded then left.ended else left
            let otherParties :=
              otherPartyCount next.call.invitedTargets next.call.joinedParticipants
            { store with
              callDisplay := some
                { next with
                  type := if 0 < otherParties then next.type else .error
                  erroredTargets := next.erroredTargets ++ targets.map (⟨·, error.reason⟩)
                  errorReason :=
                    if 0 < otherParties then next.errorReason else some error.reason }
              conferenceState := if otherParties < 2 then .inactive else store.conferenceState }

/-! ## Dismissals -/

def dismissCall : CallStore :=
  { store with callDisplay := none }

def dismissRejectedCall : CallStore := store.dismissCall

def dismissErrorCall : CallStore := store.dismissCall

def setDismissedDisplay (display : CallDisplay) : CallStore :=
  if display.isTerminal ∧ display.rejectedTargets = [] ∧ display.erroredTargets = [] then
    { store with callDisplay := none, conferenceState := .inactive }
  else { store with callDisplay := some display }

def dismissRejectedTarget (target : CallTarget) : CallStore :=
  store.callDisplay.elim store fun display =>
    store.setDismissedDisplay
      { display with
        rejectedTargets := display.rejectedTargets.filter fun rejected => rejected ≠ target }

def dismissErrorTarget (target : CallTarget) : CallStore :=
  store.callDisplay.elim store fun display =>
    store.setDismissedDisplay
      { display with
        erroredTargets := display.erroredTargets.filter fun errored => errored.target ≠ target }

/-! ## The rest of the state -/

def setConnectionState (callId : CallId) (peerId : ClientId) (state : ConnectionState) :
    CallStore :=
  match store.callDisplay.filter fun display => display.call.callId = callId with
  | none => store
  | some display =>
      if display.isTerminal then store
      else
        (display.call.joinedParticipants.lookup peerId).elim store fun participant =>
          { store with
            callDisplay := some
              { display with
                call := { display.call with
                  joinedParticipants :=
                    display.call.joinedParticipants.insert peerId { participant with state } } } }

def reset : CallStore :=
  { store with
    callDisplay := none
    incomingCalls := []
    conferenceState := .inactive
    maxConferenceSize := none }

/-- `someConnectionState` of the others. -/
def someOtherConnected (display : CallDisplay) : Bool :=
  (store.cid.elim display.call.joinedParticipants display.call.joinedParticipants.erase).anyValue
    fun participant => decide (participant.state = .connected)

/-- A click on the conference button, which sets the conference state. -/
def clickConference : CallStore :=
  match store.callDisplay with
  | none => store
  | some display =>
      if display.type = .accepted ∧ store.someOtherConnected display ∧
          display.call.isConferenceLeader ≠ some false then
        { store with
          conferenceState :=
            if store.conferenceState ≠ .modify then .modify
            else if 2 ≤ otherPartyCount display.call.invitedTargets display.call.joinedParticipants
              then .active
            else .inactive }
      else store

end CallStore

/-! ## Invites -/

/-- An invite that has been sent, with what is needed to take it back. -/
structure PendingInvite where
  snapshot : Option CallDisplay
  targets : List CallTarget
  previousConferenceState : ConferenceState

namespace CallStore

variable (store : CallStore)

/-- The checks of `startCall`. -/
def mayInvite (targets : List CallTarget) : Bool :=
  targets ≠ [] &&
    store.callDisplay.all (fun display =>
      store.conferenceState = .modify && display.call.isConferenceLeader ≠ some false &&
        targets.all fun target =>
          !hasParticipant display.call.joinedParticipants target &&
            decide (target ∉ display.call.invitedTargets)) &&
    store.maxConferenceSize.all (fun maxConferenceSize =>
      (store.callDisplay.elim 0 fun display =>
        participantCount display.call.joinedParticipants false +
          display.call.invitedTargets.length) + targets.length ≤ maxConferenceSize) &&
    store.cid.any fun cid => targets.all fun target => target.client ≠ some cid

/-- The part of `startCall` before the invite is sent. -/
def startCall (targets : List CallTarget) : Option (CallStore × PendingInvite) :=
  if store.mayInvite targets then
    some (store.callDisplay.elim store fun display =>
        store.addInvitedTargets display targets store.prio,
      ⟨store.callDisplay, targets, store.conferenceState⟩)
  else none

/-- The display after an invite was taken back. -/
def rolledBack (snapshot : CallDisplay) (targets : List CallTarget) (current : CallDisplay) :
    CallDisplay :=
  { current with
    call := { current.call with
      invitedTargets := current.call.invitedTargets.filter fun target => target ∉ targets
      ownInvitedTargets := current.call.ownInvitedTargets.filter fun target => target ∉ targets
      isConferenceLeader :=
        if current.call.isConferenceLeader = some true ∧
            snapshot.call.isConferenceLeader ≠ some true then
          snapshot.call.isConferenceLeader
        else current.call.isConferenceLeader }
    prioTargets := current.prioTargets.filter fun target => target ∉ targets
    rejectedTargets := current.rejectedTargets ++
      snapshot.rejectedTargets.filter fun target => target ∈ targets
    erroredTargets := current.erroredTargets ++
      snapshot.erroredTargets.filter fun errored => errored.target ∈ targets }

def rollBackInvite (snapshot : CallDisplay) (targets : List CallTarget)
    (previousConferenceState : ConferenceState) : CallStore :=
  match store.callDisplay.filter fun display => display.call.callId = snapshot.call.callId with
  | none => store
  | some current =>
      { store with
        callDisplay := some (rolledBack snapshot targets current)
        conferenceState := previousConferenceState }

/-- The part of `startCall` after the invite was sent, or could not be sent. -/
def finishInvite (invite : PendingInvite) (sent : Bool) : CallStore :=
  if sent then { store with prio := false }
  else
    invite.snapshot.elim store fun snapshot =>
      store.rollBackInvite snapshot invite.targets invite.previousConferenceState

end CallStore

end Frontend

end Vacs
