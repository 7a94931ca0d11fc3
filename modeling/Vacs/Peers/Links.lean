import Vacs.Foundations.GuardedRuns
import Vacs.Protocol.CallMessages

/-!
# The link between two participants

Every pair of participants of a call keeps a WebRTC connection of its own. The clients
negotiate it with session descriptions that the server relays: for every pair, the one
with the lower client ID offers when the other joins. A client whose media watchdog
hears nothing offers anew over a relay, and a client whose conference link failed
retries it with further offers until it heals; a link that is being retried is in
limbo. Whoever receives an offer replaces its peer and answers.

The model follows one pair in one call. Both clients hold the call as their current
one; the other participants come and go. Sounds, audio devices, ICE candidates and the
transport policy of the connections are left out.
-/

set_option autoImplicit false

namespace Vacs

/-! ## Session descriptions and peer connections -/

/-- A session description. The exchange stands for the offer that the description is or
answers; the clients cannot read it off. -/
structure SessionDescription where
  exchange : ℕ
  vacsSupportsReconnect : Bool
deriving DecidableEq, Repr

/-- Advertise that this client can replace the peer connection of an active call. -/
def tagReconnectCapability (sdp : SessionDescription) : SessionDescription :=
  { sdp with vacsSupportsReconnect := true }

def hasReconnectCapability (sdp : SessionDescription) : Bool :=
  sdp.vacsSupportsReconnect

inductive WebrtcError where
  | callActive
  | noCallActive
  | other
deriving DecidableEq, Repr

/-- What a failed negotiation means for the call. -/
def WebrtcError.intoCallErrorReason (ownClientId : ClientId) : WebrtcError → CallErrorReason
  | .callActive => .callFailure
  | .noCallActive => .callFailure
  | .other => .webrtcFailure ownClientId

inductive PeerConnectionState where
  | new
  | connected
  | disconnected
  | failed
deriving DecidableEq, Repr

/-- A peer connection. The watchdog runs once the peer is started, and fires once. -/
structure Peer where
  localDescription : Option SessionDescription
  remoteDescription : Option SessionDescription
  connectionState : PeerConnectionState
  watchdog : Bool
deriving DecidableEq, Repr

namespace Peer

def new : Peer := ⟨none, none, .new, false⟩

def createOffer (peer : Peer) (exchange : ℕ) : Peer × SessionDescription :=
  let offer : SessionDescription := ⟨exchange, false⟩
  ({ peer with localDescription := some offer }, offer)

def acceptOffer (peer : Peer) (offer : SessionDescription) : Peer × SessionDescription :=
  let answer : SessionDescription := ⟨offer.exchange, false⟩
  ({ peer with remoteDescription := some offer, localDescription := some answer }, answer)

/-- The peer has offered and waits for the answer. -/
def hasLocalOffer (peer : Peer) : Bool :=
  peer.localDescription.isSome && peer.remoteDescription.isNone

/-- An answer is taken for whatever offer is outstanding, and rejected if none is. -/
def acceptAnswer (peer : Peer) (answer : SessionDescription) : Except WebrtcError Peer :=
  if peer.hasLocalOffer then .ok { peer with remoteDescription := some answer }
  else .error .other

end Peer

/-- A peer of a call. `young` says that it was created within the last
`LINK_RETRY_ESTABLISH_TIMEOUT`. -/
structure WebrtcPeer where
  peer : Peer
  connected : Bool
  established : Bool
  young : Bool
  reconnected : Bool
  peerSupportsReconnect : Bool
deriving DecidableEq, Repr

namespace WebrtcPeer

def new (peer : Peer) (peerSupportsReconnect : Bool) : WebrtcPeer :=
  ⟨peer, false, false, true, false, peerSupportsReconnect⟩

def withReconnect (self : WebrtcPeer) : WebrtcPeer :=
  { self with connected := true, reconnected := true }

/-- The capability is noted before the answer is taken. -/
def acceptAnswer (self : WebrtcPeer) (answer : SessionDescription) :
    WebrtcPeer × Except WebrtcError Unit :=
  let self := { self with peerSupportsReconnect := hasReconnectCapability answer }
  match self.peer.acceptAnswer answer with
  | .ok peer => ({ self with peer := peer }, .ok ())
  | .error err => (self, .error err)

end WebrtcPeer

/-! ## One client's end of the link -/

/-- The retry task of a link in limbo: whether it has reported the link, and whether an
attempt is due or it waits. -/
structure LinkRetry where
  reported : Bool
  attempting : Bool
deriving DecidableEq, Repr

/-- What a client's state holds about the link, and about the call as far as the link
depends on it: whether it is the current call, the peer has joined, who is invited, who
else has joined and to whom else there are peers. `callErrors` are the errors that the
client has sent to the server. -/
structure LinkEnd where
  currentCall : Bool
  peerJoined : Bool
  invitedTargets : List CallTarget
  otherParticipants : List ClientId
  otherPeers : List ClientId
  forceRelay : Bool
  peer : Option WebrtcPeer
  limbo : Option LinkRetry
  callErrors : List CallErrorReason
deriving DecidableEq

namespace LinkEnd

/-- Another participant has joined besides this client and the peer. -/
def isConferenceLink (self : LinkEnd) : Bool :=
  self.currentCall && !self.otherParticipants.isEmpty

/-- Only transport failures of a conference link are handled as a dead link. -/
def isLinkFailure (self : LinkEnd) : CallErrorReason → Bool
  | .webrtcFailure _ => self.isConferenceLink
  | .signalingFailure _ => self.isConferenceLink
  | _ => false

def trySendCallError (self : LinkEnd) (reason : CallErrorReason) : LinkEnd :=
  { self with callErrors := self.callErrors ++ [reason] }

def startLinkRetry (self : LinkEnd) : LinkEnd :=
  { self with limbo := some ⟨false, true⟩ }

def cleanupCurrentCall (self : LinkEnd) : LinkEnd :=
  { self with currentCall := false, peer := none, limbo := none }

/-- Only invited targets keep a call without peers alive. -/
def endCallIfNoPeers (self : LinkEnd) : LinkEnd :=
  if self.currentCall && self.invitedTargets.isEmpty && self.peer.isNone &&
      self.otherPeers.isEmpty then self.cleanupCurrentCall
  else self

def failPeer (self : LinkEnd) (reason : CallErrorReason) : LinkEnd :=
  ({ self with peer := none }.trySendCallError reason).endCallIfNoPeers

def failCall (self : LinkEnd) (reason : CallErrorReason) : LinkEnd :=
  (self.trySendCallError reason).cleanupCurrentCall

/-- Hand a broken link to the retry loop. A young peer is still establishing and is left
alone. -/
def failLink (self : LinkEnd) : LinkEnd :=
  if self.peer.any WebrtcPeer.young then self
  else
    let self := { self with peer := none }
    if self.limbo.isSome then self else self.startLinkRetry

/-- Handle a failed peer inside a conference. The result says whether it was handled; the
failure of a 1:1 call is up to the caller. -/
def handleConferencePeerFailure (self : LinkEnd) (reason : CallErrorReason) : LinkEnd × Bool :=
  if self.isLinkFailure reason then (self.failLink, true)
  else if self.isConferenceLink then (self.failCall reason, true)
  else (self, false)

/-- Create a peer, from the given offer or with an offer of its own, and put it in the
place of the previous one. `exchange` is the exchange that an own offer opens. -/
def negotiatePeer (self : LinkEnd) (offerSdp : Option SessionDescription) (exchange : ℕ) :
    Except WebrtcError (LinkEnd × SessionDescription) :=
  if self.currentCall then
    let replacing := self.peer.isSome
    -- A limbo retry resumes an interrupted link even when the previous peer is gone.
    let reconnect := replacing || self.limbo.isSome
    let (peer, sdp) := match offerSdp with
      | some offer => Peer.new.acceptOffer offer
      | none => Peer.new.createOffer exchange
    let peer := WebrtcPeer.new peer (offerSdp.any hasReconnectCapability)
    let peer := if reconnect then peer.withReconnect else peer
    let peer := if reconnect && !replacing then { peer with connected := false } else peer
    .ok ({ self with peer := some peer }, tagReconnectCapability sdp)
  else .error .noCallActive

def acceptCallAnswer (self : LinkEnd) (answer : SessionDescription) :
    LinkEnd × Except WebrtcError Unit :=
  match self.peer with
  | none => (self, .error .noCallActive)
  | some peer =>
      let (peer, result) := peer.acceptAnswer answer
      ({ self with peer := some peer }, result)

/-- Offer anew after the watchdog has heard no media, unless the connection is relayed
already or the other client cannot replace it. -/
def tryRelayReconnect (self : LinkEnd) (exchange : ℕ) :
    Except WebrtcError (Option (LinkEnd × SessionDescription)) :=
  match self.peer with
  | none => .ok none
  | some peer =>
      if peer.reconnected || self.forceRelay then .ok none
      else if !peer.peerSupportsReconnect then .ok none
      else (self.negotiatePeer none exchange).map some

/-! ### Signalling messages -/

/-- The first call update that shows the peer as joined: the lower client ID offers. -/
def onPeerJoined (self : LinkEnd) (ownClientId peerId : ClientId) (exchange : ℕ) :
    LinkEnd × Option SessionDescription :=
  let self := { self with peerJoined := true }
  if ownClientId ≥ peerId then (self, none)
  else
    match self.negotiatePeer none exchange with
    | .ok (self, sdp) => (self, some sdp)
    | .error err =>
        let reason := err.intoCallErrorReason ownClientId
        let (self, handled) := self.handleConferencePeerFailure reason
        (if handled then self else self.trySendCallError reason, none)

/-- An offer is ignored by the lower client ID while its link is in limbo, and answered
otherwise. -/
def onWebrtcOffer (self : LinkEnd) (ownClientId fromClientId : ClientId)
    (sdp : SessionDescription) : LinkEnd × Option SessionDescription :=
  if self.limbo.isSome ∧ ownClientId < fromClientId then (self, none)
  else
    match self.negotiatePeer (some sdp) sdp.exchange with
    | .ok (self, sdp) => (self, some sdp)
    | .error err =>
        let reason := err.intoCallErrorReason ownClientId
        let (self, handled) := self.handleConferencePeerFailure reason
        (if handled then self else self.trySendCallError reason, none)

/-- An answer that no peer waits for is an error. -/
def onWebrtcAnswer (self : LinkEnd) (ownClientId : ClientId) (sdp : SessionDescription) :
    LinkEnd :=
  if self.peer.isNone then self
  else
    match self.acceptCallAnswer sdp with
    | (self, .ok ()) => self
    | (self, .error err) =>
        let reason := err.intoCallErrorReason ownClientId
        let (self, handled) := self.handleConferencePeerFailure reason
        if handled then self else self.trySendCallError reason

/-! ### Events of the peer connection -/

def onPeerConnected (self : LinkEnd) (peer : WebrtcPeer) : LinkEnd :=
  { self with
    peer := some { peer with
      connected := true
      established := true
      peer := { peer.peer with connectionState := .connected, watchdog := true } }
    limbo := none }

def onPeerDisconnected (self : LinkEnd) (peer : WebrtcPeer) : LinkEnd :=
  { self with
    peer := some { peer with
      connected := false
      established := false
      peer := { peer.peer with connectionState := .disconnected, watchdog := false } } }

/-- A failed conference link goes into limbo; in limbo, its peer is given up unless it is
young. A failed 1:1 link fails the call. -/
def onPeerFailed (self : LinkEnd) (ownClientId : ClientId) (peer : WebrtcPeer) : LinkEnd :=
  let self := { self with
    peer := some { peer with
      established := false
      peer := { peer.peer with connectionState := .failed } } }
  if self.isConferenceLink then
    if self.limbo.isSome then
      if peer.young then self else { self with peer := none }
    else self.startLinkRetry
  else self.failPeer (.webrtcFailure ownClientId)

/-- The watchdog of a peer fires once. -/
def watchdogFired (self : LinkEnd) (peer : WebrtcPeer) : LinkEnd :=
  { self with peer := some { peer with peer := { peer.peer with watchdog := false } } }

def onNoInboundMedia (self : LinkEnd) (ownClientId : ClientId) (exchange : ℕ) :
    LinkEnd × Option SessionDescription :=
  match self.tryRelayReconnect exchange with
  | .ok (some (self, sdp)) => (self, some sdp)
  | .ok none => (self, none)
  | .error _ =>
      (if self.isConferenceLink then self else self.failPeer (.webrtcFailure ownClientId), none)

/-! ### The retry task -/

/-- A retry offers unless the peer left or the link is connected or establishing. -/
def mayRetry (self : LinkEnd) : Bool :=
  self.currentCall && self.peerJoined &&
    !self.peer.any fun peer => peer.established || peer.young

/-- One retry attempt, after which the task waits. -/
def attemptLinkRetry (self : LinkEnd) (task : LinkRetry) (exchange : ℕ) :
    LinkEnd × Option SessionDescription :=
  let self := { self with limbo := some { task with attempting := false } }
  if self.mayRetry then
    match self.negotiatePeer none exchange with
    | .ok (self, sdp) => (self, some sdp)
    | .error _ => (self, none)
  else (self, none)

/-- The link is dead and no other link is left in the call. -/
def isLastDeadLink (self : LinkEnd) : Bool :=
  self.currentCall && self.peerJoined &&
    !self.peer.any (fun peer => peer.established || peer.young) && self.otherPeers.isEmpty

/-- What the retry task does when its wait is over. A healed link leaves limbo; a link that
is still establishing is waited for; a dead one is reported, and attempted again after a
further wait. -/
def retryTick (self : LinkEnd) (ownClientId peerId : ClientId) (task : LinkRetry) : LinkEnd :=
  if self.peer.any WebrtcPeer.established || !(self.currentCall && self.peerJoined) then
    { self with limbo := none }
  else if self.peer.any WebrtcPeer.young then
    if task.reported then self.trySendCallError (.peerConnectionFailed peerId) else self
  else
    let self := { self with peer := none }
    if self.otherPeers.isEmpty then
      { self with limbo := none }.failCall (.webrtcFailure ownClientId)
    else
      let self := self.trySendCallError (.peerConnectionFailed peerId)
      -- The first report is followed by another wait, a later one by an attempt.
      { self with limbo := some ⟨true, task.reported⟩ }

/-- The call as a client holds it when it has not been told that the other one joined. -/
structure Initial (linkEnd : LinkEnd) : Prop where
  currentCall : linkEnd.currentCall = true
  peerJoined : linkEnd.peerJoined = false
  peer : linkEnd.peer = none
  limbo : linkEnd.limbo = none
  callErrors : linkEnd.callErrors = []

end LinkEnd

/-! ## The pair of clients -/

/-- A message from one end of the link to the other, relayed by the server. -/
inductive LinkMessage where
  | webrtcOffer (sdp : SessionDescription)
  | webrtcAnswer (sdp : SessionDescription)
deriving DecidableEq, Repr

inductive LinkSide where
  | lower
  | higher
deriving DecidableEq, Repr

/-- Two clients, told apart by the order of their client IDs. -/
structure ClientPair where
  lower : ClientId
  higher : ClientId
  ordered : lower < higher

/-- Both ends of the link, the messages on their way to each of them, and the number of
exchanges that were opened so far. -/
structure PeerLink where
  lower : LinkEnd
  higher : LinkEnd
  toLower : List LinkMessage
  toHigher : List LinkMessage
  exchanges : ℕ
deriving DecidableEq

/-- What happens on the link. -/
inductive LinkMove where
  /-- The first call update arrives that shows the other client as joined. -/
  | callUpdate (side : LinkSide)
  /-- Others are invited, join and leave. -/
  | others (side : LinkSide) (invitedTargets : List CallTarget)
      (otherParticipants otherPeers : List ClientId)
  /-- `LINK_RETRY_ESTABLISH_TIMEOUT` has passed since the peer was created. -/
  | elapse (side : LinkSide)
  | connected (side : LinkSide)
  | disconnected (side : LinkSide)
  | failed (side : LinkSide)
  | noInboundMedia (side : LinkSide)
  | attempt (side : LinkSide)
  | tick (side : LinkSide)
  | deliver (side : LinkSide)
deriving DecidableEq, Repr

def ClientPair.own (pair : ClientPair) : LinkSide → ClientId
  | .lower => pair.lower
  | .higher => pair.higher

def ClientPair.other (pair : ClientPair) : LinkSide → ClientId
  | .lower => pair.higher
  | .higher => pair.lower

namespace PeerLink

def side (link : PeerLink) : LinkSide → LinkEnd
  | .lower => link.lower
  | .higher => link.higher

def incoming (link : PeerLink) : LinkSide → List LinkMessage
  | .lower => link.toLower
  | .higher => link.toHigher

def outgoing (link : PeerLink) : LinkSide → List LinkMessage
  | .lower => link.toHigher
  | .higher => link.toLower

/-- One end has changed. -/
def put (link : PeerLink) (changed : LinkEnd) : LinkSide → PeerLink
  | .lower => { link with lower := changed }
  | .higher => { link with higher := changed }

/-- One end has changed and sends a message. -/
def send (link : PeerLink) (side : LinkSide) (changed : LinkEnd) (message : LinkMessage) :
    PeerLink :=
  match side with
  | .lower => { link with lower := changed, toHigher := link.toHigher ++ [message] }
  | .higher => { link with higher := changed, toLower := link.toLower ++ [message] }

/-- One end has changed, and has opened an exchange if it has an offer to send. -/
def putOffer (link : PeerLink) (side : LinkSide) :
    LinkEnd × Option SessionDescription → PeerLink
  | (changed, none) => link.put changed side
  | (changed, some sdp) =>
      { link.send side changed (.webrtcOffer sdp) with exchanges := link.exchanges + 1 }

/-- One end has taken the first of its messages. -/
def pop (link : PeerLink) (rest : List LinkMessage) : LinkSide → PeerLink
  | .lower => { link with toLower := rest }
  | .higher => { link with toHigher := rest }

/-- One step of the link. Events of the peer connection come from the peer that the end
holds: a replaced peer has its events cancelled. A connection is made when there is a
remote description, and one that has failed does not come back. -/
def step (pair : ClientPair) (link : PeerLink) : LinkMove → Option PeerLink
  | .callUpdate side =>
      let self := link.side side
      if self.peerJoined || !self.currentCall then none
      else some (link.putOffer side
        (self.onPeerJoined (pair.own side) (pair.other side) link.exchanges))
  | .others side invitedTargets otherParticipants otherPeers =>
      some (link.put { link.side side with
        invitedTargets := invitedTargets
        otherParticipants := otherParticipants
        otherPeers := otherPeers } side)
  | .elapse side => (link.side side).peer.map fun peer =>
      link.put { link.side side with peer := some { peer with young := false } } side
  | .connected side => (link.side side).peer.bind fun peer =>
      if peer.peer.remoteDescription.isSome ∧ peer.peer.connectionState ≠ .connected ∧
          peer.peer.connectionState ≠ .failed then
        some (link.put ((link.side side).onPeerConnected peer) side)
      else none
  | .disconnected side => (link.side side).peer.bind fun peer =>
      if peer.peer.connectionState = .connected then
        some (link.put ((link.side side).onPeerDisconnected peer) side)
      else none
  | .failed side => (link.side side).peer.bind fun peer =>
      if peer.peer.remoteDescription.isSome then
        some (link.put ((link.side side).onPeerFailed (pair.own side) peer) side)
      else none
  | .noInboundMedia side => (link.side side).peer.bind fun peer =>
      if peer.peer.watchdog then
        some (link.putOffer side
          (((link.side side).watchdogFired peer).onNoInboundMedia (pair.own side)
            link.exchanges))
      else none
  | .attempt side => (link.side side).limbo.bind fun task =>
      if task.attempting then
        some (link.putOffer side ((link.side side).attemptLinkRetry task link.exchanges))
      else none
  | .tick side => (link.side side).limbo.bind fun task =>
      if task.attempting then none
      else some (link.put ((link.side side).retryTick (pair.own side) (pair.other side) task) side)
  | .deliver side =>
      match link.incoming side with
      | [] => none
      | .webrtcOffer sdp :: rest =>
          match (link.side side).onWebrtcOffer (pair.own side) (pair.other side) sdp with
          | (changed, none) => some ((link.pop rest side).put changed side)
          | (changed, some answer) =>
              some ((link.pop rest side).send side changed (.webrtcAnswer answer))
      | .webrtcAnswer sdp :: rest =>
          some ((link.pop rest side).put ((link.side side).onWebrtcAnswer (pair.own side) sdp)
            side)

/-- The link when neither client has been told that the other joined. -/
structure Initial (link : PeerLink) : Prop where
  lower : link.lower.Initial
  higher : link.higher.Initial
  toLower : link.toLower = []
  toHigher : link.toHigher = []
  exchanges : link.exchanges = 0

end PeerLink

end Vacs
