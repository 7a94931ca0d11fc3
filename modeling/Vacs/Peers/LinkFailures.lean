import Vacs.Foundations.GuardedRuns
import Vacs.Peers.Links

/-!
# Failures of a conference link

The link to a participant can fail in several ways: ICE gives up, a peer cannot be
negotiated or started, or an answer is not accepted. In a conference the client hands a
failed link to a retry task, which reports it while it stays dead, or it leaves the call;
in a 1:1 call it reports the failure at once.

The model follows one end of a link through everything that can happen to it, in any
order. What the WebRTC library and the audio devices make of a request comes with the
event. A link has failed until a newer peer takes the place of the failed one, the peer
connects after all, or the participant leaves (`LinkRecord`). An answer that is not
accepted is the one failure that can go unattended: the peer it is for is young, because
answers arrive soon, and a young peer is left alone. Every other failure of a joined
participant's link is retried or reported (`failures_attended`).
-/

set_option autoImplicit false

namespace Vacs

open GuardedRuns

/-! ## Errors of the client -/

/-- What can go wrong when a client negotiates or starts a peer. -/
inductive AppError where
  | audioDevice
  | webrtc (err : WebrtcError)
  | other
deriving DecidableEq, Repr

def AppError.intoCallErrorReason (ownClientId : ClientId) : AppError → CallErrorReason
  | .audioDevice => .audioFailure ownClientId
  | .webrtc err => err.intoCallErrorReason ownClientId
  | .other => .other

/-- Why a connected peer cannot be started: an audio device fails, the peer has been started
already, or it has been stopped. -/
inductive StartFailure where
  | audioDevice
  | alreadyStarted
  | stopped
deriving DecidableEq, Repr

def StartFailure.error : StartFailure → AppError
  | .audioDevice => .audioDevice
  | .alreadyStarted => .webrtc .callActive
  | .stopped => .webrtc .noCallActive

/-- Why a peer cannot be negotiated: the library fails to create it or to describe it, which
reaches the handlers without its kind. -/
def negotiationError : AppError := .other

/-- Why an answer is not accepted. -/
def answerError : AppError := .webrtc .other

namespace LinkEnd

/-- A negotiation has failed: the failure of a 1:1 call is only reported. -/
def failNegotiation (self : LinkEnd) (ownClientId : ClientId) (err : AppError) : LinkEnd :=
  let reason := err.intoCallErrorReason ownClientId
  let (self, handled) := self.handleConferencePeerFailure reason
  if handled then self else self.trySendCallError reason

def handlePeerFailure (self : LinkEnd) (reason : CallErrorReason) : LinkEnd :=
  let (self, handled) := self.handleConferencePeerFailure reason
  if handled then self else self.failPeer reason

/-- The peer waits for no answer, or the library does not take this one. -/
def rejectsAnswer (self : LinkEnd) (valid : Bool) : Bool :=
  self.peer.any fun peer => !(peer.peer.hasLocalOffer && valid)

/-- An answer arrives that is not accepted. -/
def onRejectedAnswer (self : LinkEnd) (ownClientId : ClientId) (sdp : SessionDescription) :
    LinkEnd :=
  LinkEnd.failNegotiation
    { self with peer := self.peer.map fun peer =>
        { peer with peerSupportsReconnect := hasReconnectCapability sdp } }
    ownClientId answerError

/-- The peer is closed by the other side. -/
def onPeerClosed (self : LinkEnd) : LinkEnd :=
  { self with peer := none }.endCallIfNoPeers

/-- The link is taken down because its participant has left. -/
def onPeerLeft (self : LinkEnd) : LinkEnd :=
  { self with peer := none, limbo := none }

end LinkEnd

/-! ## One end of a link and what happens to it -/

/-- Everything that can happen to one end of a link. The flags and failures are what the WebRTC
library and the audio devices answer. -/
inductive LinkIncident where
  /-- The roster of the call: whether this client and the peer are on it, who else is, and to
  whom else there are peers. -/
  | callUpdate (invitedTargets : List CallTarget) (selfJoined peerJoined : Bool)
      (otherParticipants otherPeers : List ClientId) (exchange : ℕ) (negotiates : Bool)
  /-- The client leaves the call, or is told that it has ended. -/
  | callLeft
  | webrtcOffer (sdp : SessionDescription) (negotiates : Bool)
  | webrtcAnswer (sdp : SessionDescription) (valid : Bool)
  | connected (failure : Option StartFailure)
  | disconnected
  | failed
  | closed
  | noInboundMedia (exchange : ℕ) (negotiates : Bool)
  /-- `LINK_RETRY_ESTABLISH_TIMEOUT` has passed since the peer was created. -/
  | elapse
  | attempt (exchange : ℕ) (negotiates : Bool)
  | tick
deriving DecidableEq

/-- One end of a link, whether this client has joined the call, and whether the link has failed
since its peer was created. `errorsBefore` counts the errors sent before the failure. -/
structure LinkRecord where
  link : LinkEnd
  active : Bool
  failed : Bool
  errorsBefore : ℕ
deriving DecidableEq

namespace LinkRecord

/-- This client and the peer are both joined. -/
def joined (record : LinkRecord) : Bool :=
  record.link.currentCall && record.active && record.link.peerJoined

/-- The link goes on as given. -/
def goesOn (record : LinkRecord) (link : LinkEnd) : LinkRecord :=
  { record with link := link }

/-- The link goes on as given, sound again: with a newer peer, connected, or without its
participant. -/
def recovers (record : LinkRecord) (link : LinkEnd) : LinkRecord :=
  { record with link := link, failed := false }

/-- The peer has failed, and handling it has made the given link of it. -/
def fails (record : LinkRecord) (link : LinkEnd) : LinkRecord :=
  if record.joined then
    { record with
      link := link
      failed := true
      errorsBefore := record.link.callErrors.length }
  else record.goesOn link

/-- A peer is negotiated, from the offer or with an offer of its own, or cannot be. -/
def negotiates (record : LinkRecord) (offerSdp : Option SessionDescription) (exchange : ℕ)
    (otherwise : LinkRecord) : Bool → LinkRecord
  | true =>
      match record.link.negotiatePeer offerSdp exchange with
      | .ok (link, _) => record.recovers link
      | .error _ => record
  | false => otherwise

/-- A call update is handled: the client may have been taken off the roster, and the peer may
have left or joined. -/
def onCallUpdate (record : LinkRecord) (ownClientId peerId : ClientId)
    (invitedTargets : List CallTarget) (selfJoined peerJoined : Bool)
    (otherParticipants otherPeers : List ClientId) (exchange : ℕ) (negotiates : Bool) :
    LinkRecord :=
  let left := record.active && record.link.peerJoined && !peerJoined
  let newlyJoined := peerJoined && !(record.active && record.link.peerJoined)
  let link := { record.link with
    invitedTargets := invitedTargets
    peerJoined := peerJoined
    otherParticipants := otherParticipants
    otherPeers := otherPeers }
  if (invitedTargets.isEmpty && !selfJoined && !peerJoined && otherParticipants.isEmpty) ||
      (record.active && !selfJoined) then
    record.goesOn link.cleanupCurrentCall
  else if !selfJoined then record.goesOn link
  else
    let record := { record with link := link, active := true }
    if left then record.recovers link.onPeerLeft
    -- the lower client ID offers
    else if newlyJoined && decide (ownClientId < peerId) then
      record.negotiates none exchange
        (record.fails (link.failNegotiation ownClientId negotiationError).endCallIfNoPeers)
        negotiates
    else record

/-- One event. Events of the peer connection come from the peer that the end holds, and nothing
happens to a link whose call is over. -/
def step (ownClientId peerId : ClientId) (record : LinkRecord) (event : LinkIncident) :
    Option LinkRecord :=
  if !record.link.currentCall then none
  else
    match event with
    | .callUpdate invitedTargets selfJoined peerJoined otherParticipants otherPeers exchange
        negotiates =>
        some (record.onCallUpdate ownClientId peerId invitedTargets selfJoined peerJoined
          otherParticipants otherPeers exchange negotiates)
    | .callLeft => some (record.goesOn record.link.cleanupCurrentCall)
    | .webrtcOffer sdp negotiates =>
        if record.link.limbo.isSome ∧ ownClientId < peerId then some record
        else some (record.negotiates (some sdp) sdp.exchange
          (record.fails (record.link.failNegotiation ownClientId negotiationError)) negotiates)
    | .webrtcAnswer sdp valid =>
        if record.link.rejectsAnswer valid then
          some (record.fails (record.link.onRejectedAnswer ownClientId sdp))
        else some (record.goesOn (record.link.onWebrtcAnswer ownClientId sdp))
    | .connected failure => record.link.peer.map fun peer =>
        match failure with
        | none => record.recovers (record.link.onPeerConnected peer)
        | some failure => record.fails (record.link.handlePeerFailure
            (failure.error.intoCallErrorReason ownClientId))
    | .disconnected => record.link.peer.map fun peer =>
        record.goesOn (record.link.onPeerDisconnected peer)
    | .failed => record.link.peer.map fun peer =>
        record.fails (record.link.onPeerFailed ownClientId peer)
    | .closed => record.link.peer.map fun _ => record.goesOn record.link.onPeerClosed
    | .noInboundMedia exchange negotiates => record.link.peer.map fun peer =>
        let link := record.link.watchdogFired peer
        if peer.reconnected || link.forceRelay || !peer.peerSupportsReconnect then
          record.goesOn link
        else
          -- the connection itself has not failed: in a conference it is left as it is
          (record.goesOn link).negotiates none exchange
            (record.goesOn (if link.isConferenceLink then link
              else link.failPeer (.webrtcFailure ownClientId))) negotiates
    | .elapse => record.link.peer.map fun peer =>
        record.goesOn { record.link with peer := some { peer with young := false } }
    | .attempt exchange negotiates => record.link.limbo.bind fun task =>
        if task.attempting then
          let record := record.goesOn
            { record.link with limbo := some { task with attempting := false } }
          if record.link.mayRetry then some (record.negotiates none exchange record negotiates)
          else some record
        else none
    | .tick => record.link.limbo.bind fun task =>
        if task.attempting then none
        else some (record.goesOn (record.link.retryTick ownClientId peerId task))

/-- A failed link of a joined participant is being retried, or has been reported. -/
def Attended (record : LinkRecord) : Prop :=
  record.joined = true → record.failed = true →
    record.link.limbo.isSome = true ∨ record.errorsBefore < record.link.callErrors.length

/-- An answer that is not accepted does not meet a young peer of a conference link that is not
being retried. -/
def Noticed (record : LinkRecord) : LinkIncident → Bool
  | .webrtcAnswer _ valid =>
      !(record.link.rejectsAnswer valid && record.link.isConferenceLink &&
        record.link.peer.any WebrtcPeer.young && record.link.limbo.isNone)
  | _ => true

end LinkRecord

/-! ## What the handlers keep -/

namespace LinkEnd

variable {self before after : LinkEnd}

/-- A link that is being retried is not established. -/
def Retrying (self : LinkEnd) : Prop :=
  self.limbo.isSome = true → self.peer.any WebrtcPeer.established = false

/-- What every handler keeps: nothing that was sent is unsent, and a retry ends only with the
call or with the participant. -/
structure Keeps (before after : LinkEnd) : Prop where
  retrying : after.Retrying
  errors : before.callErrors.length ≤ after.callErrors.length
  inCall : after.currentCall = true → before.currentCall = true
  roster : after.peerJoined = before.peerJoined
  limbo : after.currentCall = true → after.peerJoined = true → before.limbo.isSome = true →
    after.limbo.isSome = true

/-- A failure has been attended to: the client has left the call, the link is being retried, or
an error was sent. -/
def Attends (before after : LinkEnd) : Prop :=
  after.currentCall = false ∨ after.limbo.isSome = true ∨
    before.callErrors.length < after.callErrors.length

theorem Keeps.refl (retrying : self.Retrying) : self.Keeps self :=
  ⟨retrying, le_rfl, id, rfl, fun _ _ limbo => limbo⟩

theorem Keeps.trans {middle : LinkEnd} (first : before.Keeps middle) (second : middle.Keeps after) :
    before.Keeps after where
  retrying := second.retrying
  errors := first.errors.trans second.errors
  inCall := fun current => first.inCall (second.inCall current)
  roster := second.roster.trans first.roster
  limbo := by
    intro current joined limbo
    refine second.limbo current joined ?_
    exact first.limbo (second.inCall current) (second.roster ▸ joined) limbo

theorem Attends.of_keeps {middle : LinkEnd} (attends : before.Attends middle)
    (roster : middle.peerJoined = true) (keeps : middle.Keeps after) : before.Attends after := by
  cases current : after.currentCall with
  | false => exact Or.inl current
  | true =>
      rcases attends with gone | limbo | sent
      · rw [keeps.inCall current] at gone
        cases gone
      · exact Or.inr (Or.inl (keeps.limbo current (keeps.roster.trans roster) limbo))
      · exact Or.inr (Or.inr (sent.trans_le keeps.errors))

/-- A link without a peer, or with one that is not established, may be in limbo. -/
theorem keeps_peer {peer : Option WebrtcPeer}
    (establishing : peer.any WebrtcPeer.established = false) :
    self.Keeps { self with peer := peer } :=
  ⟨fun _ => establishing, le_rfl, id, rfl, fun _ _ limbo => limbo⟩

theorem keeps_trySendCallError (retrying : self.Retrying) (reason : CallErrorReason) :
    self.Keeps (self.trySendCallError reason) :=
  ⟨retrying, by simp [trySendCallError], id, rfl, fun _ _ limbo => limbo⟩

theorem sent_trySendCallError (self : LinkEnd) (reason : CallErrorReason) :
    self.callErrors.length < (self.trySendCallError reason).callErrors.length := by
  simp [trySendCallError]

theorem keeps_startLinkRetry (dead : self.peer.any WebrtcPeer.established = false) :
    self.Keeps self.startLinkRetry :=
  ⟨fun _ => dead, le_rfl, id, rfl, fun _ _ _ => rfl⟩

theorem keeps_cleanupCurrentCall (self : LinkEnd) : self.Keeps self.cleanupCurrentCall where
  retrying := by
    intro limbo
    cases limbo
  errors := le_rfl
  inCall := by
    intro current
    cases current
  roster := rfl
  limbo := by
    intro current
    cases current

theorem keeps_endCallIfNoPeers (retrying : self.Retrying) : self.Keeps self.endCallIfNoPeers := by
  unfold endCallIfNoPeers
  split
  · exact keeps_cleanupCurrentCall self
  · exact .refl retrying

theorem keeps_failPeer (reason : CallErrorReason) : self.Keeps (self.failPeer reason) := by
  have removed : self.Keeps { self with peer := none } := keeps_peer rfl
  have sent := removed.trans (keeps_trySendCallError removed.retrying reason)
  exact sent.trans (keeps_endCallIfNoPeers sent.retrying)

theorem sent_failPeer (self : LinkEnd) (reason : CallErrorReason) :
    self.callErrors.length < (self.failPeer reason).callErrors.length := by
  have sent := sent_trySendCallError { self with peer := none } reason
  have retrying : ({ self with peer := none }.trySendCallError reason).Retrying := fun _ => rfl
  exact sent.trans_le (keeps_endCallIfNoPeers retrying).errors

theorem keeps_failCall (retrying : self.Retrying) (reason : CallErrorReason) :
    self.Keeps (self.failCall reason) :=
  (keeps_trySendCallError retrying reason).trans (keeps_cleanupCurrentCall _)

theorem keeps_failLink (retrying : self.Retrying) : self.Keeps self.failLink := by
  unfold failLink
  split
  · exact .refl retrying
  · simp only
    split
    · exact keeps_peer rfl
    · exact (keeps_peer rfl).trans (keeps_startLinkRetry rfl)

/-- A broken link is retried, unless its peer is young. -/
theorem retried_failLink (self : LinkEnd)
    (noticed : self.peer.any WebrtcPeer.young = true → self.limbo.isSome = true) :
    self.failLink.limbo.isSome = true := by
  unfold failLink
  split
  · rename_i young
    exact noticed young
  · simp only
    split
    · rename_i limbo
      exact limbo
    · rfl

theorem keeps_handleConferencePeerFailure (retrying : self.Retrying) (reason : CallErrorReason) :
    self.Keeps (self.handleConferencePeerFailure reason).1 := by
  unfold handleConferencePeerFailure
  split
  · exact keeps_failLink retrying
  · split
    · exact keeps_failCall retrying reason
    · exact .refl retrying

/-- A failure that is handled as one of a conference is attended to. -/
theorem attends_handleConferencePeerFailure {reason : CallErrorReason}
    (noticed : self.isLinkFailure reason = true → self.peer.any WebrtcPeer.young = true →
      self.limbo.isSome = true)
    (handled : (self.handleConferencePeerFailure reason).2 = true) :
    self.Attends (self.handleConferencePeerFailure reason).1 := by
  unfold handleConferencePeerFailure at handled ⊢
  split
  · rename_i isLinkFailure
    exact Or.inr (Or.inl (retried_failLink self (noticed isLinkFailure)))
  · split
    · exact Or.inl rfl
    · rename_i notLink notConference
      simp [notLink, notConference] at handled

theorem failNegotiation_attends (retrying : self.Retrying) (ownClientId : ClientId)
    (err : AppError)
    (noticed : self.isLinkFailure (err.intoCallErrorReason ownClientId) = true →
      self.peer.any WebrtcPeer.young = true → self.limbo.isSome = true) :
    self.Keeps (self.failNegotiation ownClientId err) ∧
      self.Attends (self.failNegotiation ownClientId err) := by
  have keeps := keeps_handleConferencePeerFailure retrying (err.intoCallErrorReason ownClientId)
  unfold failNegotiation
  simp only
  split
  · rename_i handled
    exact ⟨keeps, attends_handleConferencePeerFailure noticed handled⟩
  · refine ⟨keeps.trans (keeps_trySendCallError keeps.retrying _), Or.inr (Or.inr ?_)⟩
    exact keeps.errors.trans_lt (sent_trySendCallError _ _)

theorem handlePeerFailure_attends (retrying : self.Retrying) (reason : CallErrorReason)
    (notLink : self.isLinkFailure reason = false) :
    self.Keeps (self.handlePeerFailure reason) ∧
      self.Attends (self.handlePeerFailure reason) := by
  have keeps := keeps_handleConferencePeerFailure retrying reason
  unfold handlePeerFailure
  simp only
  split
  · rename_i handled
    refine ⟨keeps, attends_handleConferencePeerFailure ?_ handled⟩
    intro isLink
    rw [notLink] at isLink
    cases isLink
  · refine ⟨keeps.trans (keeps_failPeer reason), Or.inr (Or.inr ?_)⟩
    exact keeps.errors.trans_lt (sent_failPeer _ reason)

/-- ICE gives up: the link is in limbo afterwards, or the failure was reported. -/
theorem onPeerFailed_attends (ownClientId : ClientId) (peer : WebrtcPeer) :
    self.Keeps (self.onPeerFailed ownClientId peer) ∧
      self.Attends (self.onPeerFailed ownClientId peer) := by
  have dead : self.Keeps { self with
      peer := some { peer with
        established := false
        peer := { peer.peer with connectionState := .failed } } } := keeps_peer rfl
  unfold onPeerFailed
  simp only
  split
  · split
    · rename_i limbo
      split
      · exact ⟨dead, Or.inr (Or.inl limbo)⟩
      · exact ⟨keeps_peer rfl, Or.inr (Or.inl limbo)⟩
    · exact ⟨dead.trans (keeps_startLinkRetry rfl), Or.inr (Or.inl rfl)⟩
  · refine ⟨dead.trans (keeps_failPeer _), Or.inr (Or.inr ?_)⟩
    exact dead.errors.trans_lt (sent_failPeer _ _)

theorem onRejectedAnswer_attends (retrying : self.Retrying) (ownClientId : ClientId)
    (sdp : SessionDescription)
    (noticed : self.isConferenceLink = true → self.peer.any WebrtcPeer.young = true →
      self.limbo.isSome = true) :
    self.Keeps (self.onRejectedAnswer ownClientId sdp) ∧
      self.Attends (self.onRejectedAnswer ownClientId sdp) := by
  unfold onRejectedAnswer
  generalize isNoted : ({ self with peer := self.peer.map fun peer =>
    { peer with peerSupportsReconnect := hasReconnectCapability sdp } } : LinkEnd) = noted
  have sameFlags : noted.peer.any WebrtcPeer.established = self.peer.any WebrtcPeer.established ∧
      noted.peer.any WebrtcPeer.young = self.peer.any WebrtcPeer.young := by
    subst isNoted
    cases self.peer <;> exact ⟨rfl, rfl⟩
  have notedRetrying : noted.Retrying := by
    intro limbo
    rw [sameFlags.1]
    subst isNoted
    exact retrying limbo
  have keepsNoted : self.Keeps noted := by
    subst isNoted
    exact ⟨notedRetrying, le_rfl, id, rfl, fun _ _ limbo => limbo⟩
  obtain ⟨keeps, attends⟩ := failNegotiation_attends notedRetrying ownClientId answerError (by
    intro isLink young
    subst isNoted
    exact noticed isLink (sameFlags.2.symm.trans young))
  refine ⟨keepsNoted.trans keeps, ?_⟩
  subst isNoted
  exact attends

/-- An answer that is accepted changes nothing but the peer's descriptions. -/
theorem keeps_onWebrtcAnswer (retrying : self.Retrying) (ownClientId : ClientId)
    (sdp : SessionDescription) (accepted : self.rejectsAnswer true = false) :
    self.Keeps (self.onWebrtcAnswer ownClientId sdp) := by
  cases holds : self.peer with
  | none =>
      simp only [onWebrtcAnswer, holds, Option.isNone_none, if_true]
      exact .refl retrying
  | some peer =>
      have waits : peer.peer.hasLocalOffer = true := by
        simpa [rejectsAnswer, holds] using accepted
      simp only [onWebrtcAnswer, holds, Option.isNone_some, Bool.false_eq_true, if_false,
        acceptCallAnswer, WebrtcPeer.acceptAnswer, Peer.acceptAnswer, waits, if_true]
      refine ⟨?_, le_rfl, id, rfl, fun _ _ limbo => limbo⟩
      intro limbo
      have notEstablished := retrying limbo
      rw [holds] at notEstablished
      exact notEstablished

/-- What a retry does when its wait is over. -/
theorem keeps_retryTick (retrying : self.Retrying) (ownClientId peerId : ClientId)
    {task : LinkRetry} (limbo : self.limbo = some task) :
    self.Keeps (self.retryTick ownClientId peerId task) := by
  have dead := retrying (limbo ▸ rfl)
  unfold retryTick
  split
  · rename_i ends
    -- the link has not healed, so the call or the participant is gone
    rw [dead, Bool.false_or, Bool.not_eq_true', Bool.and_eq_false_iff] at ends
    refine ⟨fun _ => dead, le_rfl, id, rfl, ?_⟩
    intro current joined
    simp only at current joined
    rcases ends with gone | left
    · rw [current] at gone
      cases gone
    · rw [joined] at left
      cases left
  · split
    · split
      · exact keeps_trySendCallError retrying _
      · exact .refl retrying
    · have removed : self.Keeps { self with peer := none } := keeps_peer rfl
      simp only
      split
      · have silent : Retrying { self with peer := none, limbo := none } := fun _ => rfl
        have failed := keeps_failCall silent (.webrtcFailure ownClientId)
        refine ⟨failed.retrying, removed.errors.trans failed.errors, ?_, rfl, ?_⟩
        · intro current
          cases current
        · intro current
          cases current
      · have sent := removed.trans
          (keeps_trySendCallError removed.retrying (.peerConnectionFailed peerId))
        exact ⟨fun _ => rfl, sent.errors, id, rfl, fun _ _ _ => rfl⟩

/-- A negotiated peer is not established yet. -/
theorem retrying_negotiatePeer {offerSdp : Option SessionDescription} {exchange : ℕ}
    {sdp : SessionDescription}
    (negotiates : self.negotiatePeer offerSdp exchange = .ok (after, sdp)) : after.Retrying := by
  unfold negotiatePeer at negotiates
  split at negotiates
  · cases negotiates
    intro _
    rw [Option.any_some]
    split <;> split <;> rfl
  · cases negotiates

end LinkEnd

namespace LinkRecord

variable {record : LinkRecord} {link : LinkEnd} {ownClientId peerId : ClientId}

/-- The record of a link of which every failure is attended to. Only the link of a joined
participant counts as failed. -/
structure Sound (record : LinkRecord) : Prop where
  attended : record.Attended
  retrying : record.link.Retrying
  counted : record.link.currentCall = true → record.failed = true →
    record.active = true ∧ record.link.peerJoined = true

theorem Sound.goesOn (sound : record.Sound) (keeps : record.link.Keeps link) :
    (record.goesOn link).Sound where
  retrying := keeps.retrying
  counted := by
    intro current failed
    obtain ⟨active, onRoster⟩ := sound.counted (keeps.inCall current) failed
    exact ⟨active, keeps.roster.trans onRoster⟩
  attended := by
    intro joined failed
    simp only [LinkRecord.joined, LinkRecord.goesOn, Bool.and_eq_true] at joined
    obtain ⟨⟨current, active⟩, onRoster⟩ := joined
    have wasJoined : record.joined = true := by
      simp only [LinkRecord.joined, Bool.and_eq_true]
      exact ⟨⟨keeps.inCall current, active⟩, keeps.roster ▸ onRoster⟩
    rcases sound.attended wasJoined failed with limbo | sent
    · exact Or.inl (keeps.limbo current onRoster limbo)
    · exact Or.inr (sent.trans_le keeps.errors)

theorem sound_of_unfailed (retrying : record.link.Retrying) (unfailed : record.failed = false) :
    record.Sound where
  retrying := retrying
  counted := by
    intro _ failed
    rw [unfailed] at failed
    cases failed
  attended := by
    intro _ failed
    rw [unfailed] at failed
    cases failed

theorem sound_of_left (retrying : record.link.Retrying)
    (left : record.link.currentCall = false) : record.Sound where
  retrying := retrying
  counted := by
    intro current
    rw [left] at current
    cases current
  attended := by
    intro joined
    rw [LinkRecord.joined, left] at joined
    cases joined

theorem Sound.fails (sound : record.Sound) (keeps : record.link.Keeps link)
    (attends : record.link.Attends link) : (record.fails link).Sound := by
  unfold LinkRecord.fails
  split
  · rename_i wasJoined
    simp only [LinkRecord.joined, Bool.and_eq_true] at wasJoined
    refine ⟨?_, keeps.retrying, fun _ _ => ⟨wasJoined.1.2, keeps.roster.trans wasJoined.2⟩⟩
    intro joined _
    simp only [LinkRecord.joined, Bool.and_eq_true] at joined
    rcases attends with gone | limbo | sent
    · rw [joined.1.1] at gone
      cases gone
    · exact Or.inl limbo
    · exact Or.inr sent
  · exact sound.goesOn keeps

theorem Sound.negotiates (sound : record.Sound) {otherwise : LinkRecord}
    (soundOtherwise : otherwise.Sound) (offerSdp : Option SessionDescription) (exchange : ℕ)
    (succeeds : Bool) : (record.negotiates offerSdp exchange otherwise succeeds).Sound := by
  cases succeeds with
  | false => exact soundOtherwise
  | true =>
      unfold LinkRecord.negotiates
      simp only
      split
      · rename_i negotiated
        exact sound_of_unfailed (LinkEnd.retrying_negotiatePeer negotiated) rfl
      · exact sound

/-- A failed negotiation is never handled as a dead link. -/
theorem negotiationError_attends (ownClientId : ClientId) (retrying : link.Retrying) :
    link.Keeps (link.failNegotiation ownClientId negotiationError) ∧
      link.Attends (link.failNegotiation ownClientId negotiationError) := by
  apply LinkEnd.failNegotiation_attends retrying
  intro isLink
  cases isLink

theorem Sound.onCallUpdate (sound : record.Sound) (current : record.link.currentCall = true)
    (invitedTargets : List CallTarget) (selfJoined peerJoined : Bool)
    (otherParticipants otherPeers : List ClientId) (exchange : ℕ) (negotiates : Bool) :
    (record.onCallUpdate ownClientId peerId invitedTargets selfJoined peerJoined
      otherParticipants otherPeers exchange negotiates).Sound := by
  unfold LinkRecord.onCallUpdate
  simp only
  generalize isLink : ({ record.link with
    invitedTargets := invitedTargets
    peerJoined := peerJoined
    otherParticipants := otherParticipants
    otherPeers := otherPeers } : LinkEnd) = link
  have retrying : link.Retrying := by
    subst isLink
    exact sound.retrying
  split
  · exact sound_of_left (fun _ => rfl) rfl
  · rename_i stays
    split
    · rename_i selfOutside
      refine sound_of_unfailed retrying ?_
      -- a client that is not on the roster has not joined, so nothing has failed
      by_contra failed
      obtain ⟨active, -⟩ := sound.counted current (Bool.eq_true_of_not_eq_false failed)
      simp [active, selfOutside] at stays
    · split
      · exact sound_of_unfailed (fun limbo => by cases limbo) rfl
      · rename_i notLeft
        have updated : ({ record with link := link, active := true } : LinkRecord).Sound := by
          by_cases failed : record.failed = true
          · -- the participant was on the roster when its link failed, and has not left
            obtain ⟨active, onRoster⟩ := sound.counted current failed
            have joined : peerJoined = true := by
              simpa [active, onRoster] using notLeft
            have same : record.link.Keeps link := by
              subst isLink
              exact ⟨retrying, le_rfl, id, joined.trans onRoster.symm, fun _ _ limbo => limbo⟩
            have isRecord : ({ record with link := link, active := true } : LinkRecord) =
                record.goesOn link := by
              rw [LinkRecord.goesOn, active]
            rw [isRecord]
            exact sound.goesOn same
          · exact sound_of_unfailed retrying (Bool.eq_false_of_not_eq_true failed)
        split
        · rename_i offers
          have onRoster : link.peerJoined = true := by
            rw [Bool.and_eq_true, Bool.and_eq_true] at offers
            subst isLink
            exact offers.1.1
          obtain ⟨keeps, attends⟩ := negotiationError_attends ownClientId retrying
          have ends := LinkEnd.keeps_endCallIfNoPeers keeps.retrying
          exact updated.negotiates (updated.fails (keeps.trans ends)
            (attends.of_keeps (keeps.roster.trans onRoster) ends)) none exchange negotiates
        · exact updated

/-- Every event that is noticed keeps the record sound. -/
theorem Sound.step {next : LinkRecord} {event : LinkIncident} (sound : record.Sound)
    (noticed : record.Noticed event = true)
    (steps : record.step ownClientId peerId event = some next) : next.Sound := by
  unfold LinkRecord.step at steps
  split at steps
  · cases steps
  · rename_i notOver
    have current : record.link.currentCall = true := by simpa using notOver
    cases event with
    | callUpdate invitedTargets selfJoined peerJoined otherParticipants otherPeers exchange
        negotiates =>
        cases steps
        exact sound.onCallUpdate current invitedTargets selfJoined peerJoined otherParticipants
          otherPeers exchange negotiates
    | callLeft =>
        cases steps
        exact sound.goesOn (LinkEnd.keeps_cleanupCurrentCall record.link)
    | webrtcOffer sdp negotiates =>
        simp only at steps
        split at steps
        · cases steps
          exact sound
        · cases steps
          obtain ⟨keeps, attends⟩ := negotiationError_attends ownClientId sound.retrying
          exact sound.negotiates (sound.fails keeps attends) (some sdp) sdp.exchange negotiates
    | webrtcAnswer sdp valid =>
        simp only at steps
        split at steps
        · rename_i rejects
          cases steps
          obtain ⟨keeps, attends⟩ := LinkEnd.onRejectedAnswer_attends sound.retrying ownClientId
            sdp (by
              intro conference young
              simpa [LinkRecord.Noticed, rejects, conference, young] using noticed)
          exact sound.fails keeps attends
        · rename_i accepts
          cases steps
          refine sound.goesOn (LinkEnd.keeps_onWebrtcAnswer sound.retrying ownClientId sdp ?_)
          cases holds : record.link.peer with
          | none => simp [LinkEnd.rejectsAnswer, holds]
          | some peer =>
              have waits : (peer.peer.hasLocalOffer && valid) = true := by
                simpa [LinkEnd.rejectsAnswer, holds] using accepts
              rw [Bool.and_eq_true] at waits
              simp [LinkEnd.rejectsAnswer, holds, waits.1]
    | connected failure =>
        obtain ⟨peer, holds, rfl⟩ := Option.map_eq_some_iff.mp steps
        cases failure with
        | none => exact sound_of_unfailed (fun limbo => by cases limbo) rfl
        | some failure =>
            have notLink : record.link.isLinkFailure
                (failure.error.intoCallErrorReason ownClientId) = false := by
              cases failure <;> rfl
            obtain ⟨keeps, attends⟩ :=
              LinkEnd.handlePeerFailure_attends sound.retrying _ notLink
            exact sound.fails keeps attends
    | disconnected =>
        obtain ⟨peer, holds, rfl⟩ := Option.map_eq_some_iff.mp steps
        exact sound.goesOn (LinkEnd.keeps_peer rfl)
    | failed =>
        obtain ⟨peer, holds, rfl⟩ := Option.map_eq_some_iff.mp steps
        obtain ⟨keeps, attends⟩ :=
          LinkEnd.onPeerFailed_attends ownClientId peer
        exact sound.fails keeps attends
    | closed =>
        obtain ⟨peer, holds, rfl⟩ := Option.map_eq_some_iff.mp steps
        have removed : record.link.Keeps { record.link with peer := none } :=
          LinkEnd.keeps_peer rfl
        exact sound.goesOn (removed.trans (LinkEnd.keeps_endCallIfNoPeers removed.retrying))
    | noInboundMedia exchange negotiates =>
        obtain ⟨peer, holds, rfl⟩ := Option.map_eq_some_iff.mp steps
        have fired : record.link.Keeps (record.link.watchdogFired peer) := by
          refine ⟨?_, le_rfl, id, rfl, fun _ _ limbo => limbo⟩
          intro limbo
          have dead := sound.retrying limbo
          rw [holds] at dead
          exact dead
        simp only
        split
        · exact sound.goesOn fired
        · refine (sound.goesOn fired).negotiates (sound.goesOn ?_) none exchange negotiates
          split
          · exact fired
          · exact fired.trans (LinkEnd.keeps_failPeer _)
    | elapse =>
        obtain ⟨peer, holds, rfl⟩ := Option.map_eq_some_iff.mp steps
        refine sound.goesOn ⟨?_, le_rfl, id, rfl, fun _ _ limbo => limbo⟩
        intro limbo
        have dead := sound.retrying limbo
        rw [holds] at dead
        exact dead
    | attempt exchange negotiates =>
        obtain ⟨task, limbo, steps⟩ := Option.bind_eq_some_iff.mp steps
        have attempted : record.link.Keeps
            { record.link with limbo := some { task with attempting := false } } :=
          ⟨fun _ => sound.retrying (limbo ▸ rfl), le_rfl, id, rfl, fun _ _ _ => rfl⟩
        have waits := sound.goesOn attempted
        split at steps
        · simp only at steps
          split at steps
          · cases steps
            exact waits.negotiates waits none exchange negotiates
          · cases steps
            exact waits
        · cases steps
    | tick =>
        obtain ⟨task, limbo, steps⟩ := Option.bind_eq_some_iff.mp steps
        split at steps
        · cases steps
        · cases steps
          exact sound.goesOn (LinkEnd.keeps_retryTick sound.retrying ownClientId peerId limbo)

/-! ## Runs of a link -/

/-- A client that has the call as its current one and has no peer to the participant yet. -/
structure Initial (record : LinkRecord) : Prop where
  peer : record.link.peer = none
  limbo : record.link.limbo = none
  unfailed : record.failed = false

/-- As long as no rejected answer meets a young peer of a conference link that is not being
retried, every failed link of a joined participant is retried or reported. -/
theorem failures_attended {start final : LinkRecord} {events : List LinkIncident}
    (initial : start.Initial)
    (guarded : Guarded (LinkRecord.step ownClientId peerId)
      (fun record event => record.Noticed event = true) start events)
    (runs : runMoves (LinkRecord.step ownClientId peerId) start events = some final) :
    final.Attended := by
  have startSound : start.Sound := by
    refine sound_of_unfailed ?_ initial.unfailed
    intro limbo
    rw [initial.limbo] at limbo
    cases limbo
  have finalSound : final.Sound := by
    refine guarded.preserves ?_ runs startSound
    intro record event next sound noticed steps
    exact sound.step noticed steps
  exact finalSound.attended

/-- An answer that is not noticed leaves the link of a joined participant unattended. -/
theorem unattended_of_unnoticed {event : LinkIncident} (joined : record.joined = true)
    (unnoticed : record.Noticed event = false) :
    ∃ next, record.step ownClientId peerId event = some next ∧ ¬ next.Attended := by
  cases event with
  | webrtcAnswer sdp valid =>
      simp only [LinkRecord.Noticed, Bool.not_eq_false', Bool.and_eq_true,
        Option.isNone_iff_eq_none] at unnoticed
      obtain ⟨⟨⟨rejects, conference⟩, young⟩, idle⟩ := unnoticed
      have current : record.link.currentCall = true := by
        simp only [LinkRecord.joined, Bool.and_eq_true] at joined
        exact joined.1.1
      have stillYoung : (record.link.peer.map fun peer =>
          { peer with peerSupportsReconnect := hasReconnectCapability sdp }).any
            WebrtcPeer.young = true := by
        cases holds : record.link.peer with
        | none => simp [holds] at young
        | some peer => simpa [holds] using young
      -- the failure is one of the link, and a young peer is left alone
      have unchanged : record.link.onRejectedAnswer ownClientId sdp = { record.link with
          peer := record.link.peer.map fun peer =>
            { peer with peerSupportsReconnect := hasReconnectCapability sdp } } := by
        have isLink : LinkEnd.isConferenceLink { record.link with
            peer := record.link.peer.map fun peer =>
              { peer with peerSupportsReconnect := hasReconnectCapability sdp } } = true :=
          conference
        simp only [LinkEnd.onRejectedAnswer, LinkEnd.failNegotiation, answerError,
          AppError.intoCallErrorReason, WebrtcError.intoCallErrorReason,
          LinkEnd.handleConferencePeerFailure, LinkEnd.isLinkFailure, isLink, if_true,
          LinkEnd.failLink, stillYoung]
      have steps : record.step ownClientId peerId (.webrtcAnswer sdp valid) =
          some (record.fails (record.link.onRejectedAnswer ownClientId sdp)) := by
        simp only [LinkRecord.step, current, Bool.not_true, Bool.false_eq_true, if_false, rejects,
          if_true]
      refine ⟨_, steps, ?_⟩
      rw [unchanged, LinkRecord.fails, if_pos joined]
      intro attended
      rcases attended joined rfl with limbo | sent
      · simp [idle] at limbo
      · exact lt_irrefl _ sent
  | _ => cases unnoticed

/-- A client in a call with one other participant. -/
def inConference : LinkRecord :=
  ⟨⟨true, false, [], [⟨"LOWI"⟩], [⟨"LOWI"⟩], false, none, none, []⟩, true, false, 0⟩

theorem inConference_initial : inConference.Initial := ⟨rfl, rfl, rfl⟩

/-- A third participant joins and is offered a connection, which fails later. -/
def joinsAndFails : List LinkIncident :=
  [.callUpdate [] true true [⟨"LOWI"⟩] [⟨"LOWI"⟩] 0 true, .webrtcAnswer ⟨0, true⟩ true,
    .connected none, .failed, .elapse, .attempt 1 false, .tick]

theorem joinsAndFails_attended :
    ∃ final,
      runMoves (LinkRecord.step ⟨"LOVI"⟩ ⟨"LOWW"⟩) inConference joinsAndFails = some final ∧
      final.joined = true ∧ final.failed = true ∧ final.Attended := by
  have guarded : Guarded (LinkRecord.step ⟨"LOVI"⟩ ⟨"LOWW"⟩)
      (fun record event => record.Noticed event = true) inConference joinsAndFails := by
    decide +kernel
  have fails : (runMoves (LinkRecord.step ⟨"LOVI"⟩ ⟨"LOWW"⟩) inConference joinsAndFails).any
      (fun final => final.joined && final.failed) = true := by
    decide +kernel
  obtain ⟨final, runs, isFailed⟩ := (Option.any_eq_true _ _).mp fails
  rw [Bool.and_eq_true] at isFailed
  exact ⟨final, runs, isFailed.1, isFailed.2,
    failures_attended inConference_initial guarded runs⟩

/-- A third participant joins, is offered a connection, and its answer is rejected. -/
def joinsAndIsRejected : List LinkIncident :=
  [.callUpdate [] true true [⟨"LOWI"⟩] [⟨"LOWI"⟩] 0 true, .webrtcAnswer ⟨0, true⟩ false]

/-- Nothing retries or reports the link of a participant whose answer was rejected. -/
theorem joinsAndIsRejected_unattended :
    ∃ final, runMoves (LinkRecord.step ⟨"LOVI"⟩ ⟨"LOWW"⟩) inConference joinsAndIsRejected =
        some final ∧ final.link.isConferenceLink = true ∧ final.joined = true ∧
      final.failed = true ∧ final.link.limbo = none ∧ final.link.callErrors = [] ∧
      ¬ final.Attended := by
  have fails : (runMoves (LinkRecord.step ⟨"LOVI"⟩ ⟨"LOWW"⟩) inConference joinsAndIsRejected).any
      (fun final => final.link.isConferenceLink && final.joined && final.failed &&
        decide (final.link.limbo = none) && decide (final.link.callErrors = [])) = true := by
    decide +kernel
  obtain ⟨final, runs, isFailed⟩ := (Option.any_eq_true _ _).mp fails
  simp only [Bool.and_eq_true, decide_eq_true_eq] at isFailed
  obtain ⟨⟨⟨⟨conference, joined⟩, failed⟩, idle⟩, silent⟩ := isFailed
  refine ⟨final, runs, conference, joined, failed, idle, silent, ?_⟩
  intro attended
  rcases attended joined failed with limbo | sent
  · simp [idle] at limbo
  · simp [silent] at sent

end LinkRecord

end Vacs
