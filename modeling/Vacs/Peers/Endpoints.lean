import Vacs.Foundations.Negotiation
import Vacs.Peers.Links

/-!
# An end of a link as a party of a negotiation

Seen from the outside, an end of a link holds nothing, waits for the answer to an offer, or
holds an exchange; and it retries while its link is in limbo. Every handler of the client
either makes the end take a turn of its own (`LinkEnd.Follows`), or opens an exchange
(`LinkEnd.Renews`), accepts one, or applies an answer.
-/

set_option autoImplicit false

namespace Vacs

/-! ## An end as a party of the negotiation -/

namespace WebrtcPeer

/-- The exchange the peer was created for. -/
def exchange (self : WebrtcPeer) : ℕ :=
  (self.peer.localDescription.map SessionDescription.exchange).getD 0

def status (self : WebrtcPeer) : Negotiation.Status :=
  if self.peer.remoteDescription.isSome then
    .settled self.exchange (self.peer.connectionState = .failed)
  else .offering self.exchange

/-- A peer has a local description from the start, and a remote one of the same exchange
before it connects. Only the first exchange creates peers that count as no reconnect. -/
structure Sound (peer : WebrtcPeer) : Prop where
  described : peer.peer.localDescription.isSome = true
  paired : ∀ answer ∈ peer.peer.remoteDescription, answer.exchange = peer.exchange
  first : peer.reconnected = false → peer.exchange = 0
  live : peer.established = true →
    peer.peer.remoteDescription.isSome = true ∧ peer.peer.connectionState ≠ .failed
  watched : peer.peer.watchdog = true → peer.peer.remoteDescription.isSome = true
  waiting : peer.peer.remoteDescription = none → peer.peer.connectionState = .new

end WebrtcPeer

namespace LinkEnd

def party (self : LinkEnd) : Negotiation.Party :=
  ⟨(self.peer.map WebrtcPeer.status).getD .idle, self.limbo.isSome⟩

/-- The end is in the call, has sent no errors but reports of a dead link, and its peer is
sound. -/
structure Sound (linkEnd : LinkEnd) : Prop where
  currentCall : linkEnd.currentCall = true
  callErrors : ∀ reason ∈ linkEnd.callErrors, ∃ peerId, reason = .peerConnectionFailed peerId
  peer : ∀ peer ∈ linkEnd.peer, peer.Sound

/-- The end has changed soundly, without a message. -/
structure Follows (before changed : LinkEnd) : Prop where
  sound : changed.Sound
  turns : before.party.Turns changed.party
  peerJoined : changed.peerJoined = before.peerJoined

/-- The end has replaced its peer by one that offers. -/
structure Renews (before changed : LinkEnd) (exchange : ℕ) (sdp : SessionDescription) : Prop where
  sound : changed.Sound
  offers : changed.party = { before.party with status := .offering exchange }
  opens : sdp.exchange = exchange
  peerJoined : changed.peerJoined = before.peerJoined

end LinkEnd

/-! ## What the handlers do to one end -/

namespace LinkEnd

variable {self : LinkEnd} {peer : WebrtcPeer}

theorem party_of_peer (holds : self.peer = some peer) :
    self.party = ⟨peer.status, self.limbo.isSome⟩ := by
  simp [party, holds]

/-- The peer that a negotiation creates, and the description it sends. -/
theorem negotiatePeer_ok (current : self.currentCall = true)
    (offerSdp : Option SessionDescription) (exchange : ℕ) :
    ∃ created, self.negotiatePeer offerSdp exchange = .ok ({ self with peer := some created },
        ⟨(offerSdp.map SessionDescription.exchange).getD exchange, true⟩) ∧
      created.peer = ⟨some ⟨(offerSdp.map SessionDescription.exchange).getD exchange, false⟩,
        offerSdp, .new, false⟩ ∧
      created.established = false ∧
      created.reconnected = (self.peer.isSome || self.limbo.isSome) := by
  unfold negotiatePeer
  rw [if_pos current]
  cases offerSdp with
  | none =>
      cases replacing : self.peer.isSome <;> cases retries : self.limbo.isSome <;>
        exact ⟨_, rfl, rfl, rfl, rfl⟩
  | some offer =>
      cases replacing : self.peer.isSome <;> cases retries : self.limbo.isSome <;>
        exact ⟨_, rfl, rfl, rfl, rfl⟩

/-- The created peer is sound if it replaces another one or is from the first exchange. -/
theorem sound_of_created {created : WebrtcPeer} {exchange : ℕ} {offerSdp : Option SessionDescription}
    (isPeer : created.peer = ⟨some ⟨exchange, false⟩, offerSdp, .new, false⟩)
    (same : ∀ offer ∈ offerSdp, offer.exchange = exchange)
    (establishing : created.established = false)
    (first : created.reconnected = false → exchange = 0) : created.Sound := by
  have isExchange : created.exchange = exchange := by simp [WebrtcPeer.exchange, isPeer]
  refine ⟨by simp [isPeer], ?_, ?_, ?_, ?_, ?_⟩
  · rw [isExchange, isPeer]
    exact same
  · rwa [isExchange]
  · simp [establishing]
  · simp [isPeer]
  · simp [isPeer]

theorem Sound.with_peer (sound : self.Sound) (isSound : peer.Sound) :
    Sound { self with peer := some peer } :=
  ⟨sound.currentCall, sound.callErrors, by rintro _ ⟨⟩; exact isSound⟩

theorem Sound.without_peer (sound : self.Sound) : Sound { self with peer := none } :=
  ⟨sound.currentCall, sound.callErrors, fun peer holds => absurd holds (Option.not_mem_none peer)⟩

/-- A client that offers anew has a peer from the exchange it opens. -/
theorem negotiatePeer_renews (sound : self.Sound) (exchange : ℕ)
    (first : (self.peer.isSome || self.limbo.isSome) = false → exchange = 0) :
    ∃ changed sdp, self.negotiatePeer none exchange = .ok (changed, sdp) ∧
      self.Renews changed exchange sdp := by
  obtain ⟨created, negotiates, isPeer, establishing, reconnected⟩ :=
    negotiatePeer_ok sound.currentCall none exchange
  refine ⟨_, _, negotiates, ?_, ?_, rfl, rfl⟩
  · refine sound.with_peer (sound_of_created isPeer nofun establishing ?_)
    rwa [reconnected]
  · simp [party, WebrtcPeer.status, WebrtcPeer.exchange, isPeer]

/-- A client that answers an offer has a peer from the exchange of the offer. -/
theorem onWebrtcOffer_accepts (sound : self.Sound) {ownClientId fromClientId : ClientId}
    {sdp : SessionDescription} (accepts : ¬ (self.limbo.isSome = true ∧ ownClientId < fromClientId))
    (first : (self.peer.isSome || self.limbo.isSome) = false → sdp.exchange = 0) :
    ∃ changed answer, self.onWebrtcOffer ownClientId fromClientId sdp = (changed, some answer) ∧
      changed.Sound ∧ answer.exchange = sdp.exchange ∧ changed.peerJoined = self.peerJoined ∧
      changed.party = { self.party with status := .settled sdp.exchange false } := by
  obtain ⟨created, negotiates, isPeer, establishing, reconnected⟩ :=
    negotiatePeer_ok sound.currentCall (some sdp) sdp.exchange
  refine ⟨{ self with peer := some created }, ⟨sdp.exchange, true⟩, ?_, ?_, rfl, rfl, ?_⟩
  · rw [onWebrtcOffer, if_neg accepts, negotiates]
    rfl
  · refine sound.with_peer (sound_of_created isPeer ?_ establishing ?_)
    · rintro _ ⟨⟩
      rfl
    · rwa [reconnected]
  · simp [party, WebrtcPeer.status, WebrtcPeer.exchange, isPeer]

/-- An answer is applied to the offer that waits for it. -/
theorem onWebrtcAnswer_applies (sound : self.Sound) (holds : self.peer = some peer)
    {sdp : SessionDescription} (ownClientId : ClientId)
    (waits : peer.peer.remoteDescription = none) (answers : sdp.exchange = peer.exchange) :
    (self.onWebrtcAnswer ownClientId sdp).Sound ∧
      (self.onWebrtcAnswer ownClientId sdp).peerJoined = self.peerJoined ∧
      (self.onWebrtcAnswer ownClientId sdp).party =
        { self.party with status := .settled peer.exchange false } := by
  have isSound := sound.peer peer holds
  have applies : self.onWebrtcAnswer ownClientId sdp = { self with
      peer := some { peer with
        peerSupportsReconnect := hasReconnectCapability sdp
        peer := { peer.peer with remoteDescription := some sdp } } } := by
    simp [onWebrtcAnswer, acceptCallAnswer, WebrtcPeer.acceptAnswer, Peer.acceptAnswer,
      Peer.hasLocalOffer, holds, waits, isSound.described]
  rw [applies]
  refine ⟨sound.with_peer ⟨isSound.described, ?_, isSound.first, ?_, ?_, nofun⟩, rfl, ?_⟩
  · rintro _ ⟨⟩
    exact answers
  · exact fun live => ⟨rfl, (isSound.live live).2⟩
  · exact fun _ => rfl
  · simp [party, WebrtcPeer.status, WebrtcPeer.exchange, isSound.waiting waits]

/-- A change that leaves the descriptions, the connection and the retry task alone. -/
theorem Follows.of_party {changed : LinkEnd} (sound : changed.Sound)
    (same : changed.party = self.party) (peerJoined : changed.peerJoined = self.peerJoined) :
    self.Follows changed := by
  refine ⟨sound, ?_, peerJoined⟩
  rw [same]
  exact .stays

theorem others_follows (sound : self.Sound) (invitedTargets : List CallTarget)
    (otherParticipants otherPeers : List ClientId) :
    self.Follows { self with
      invitedTargets := invitedTargets
      otherParticipants := otherParticipants
      otherPeers := otherPeers } :=
  .of_party ⟨sound.currentCall, sound.callErrors, sound.peer⟩ rfl rfl

theorem elapse_follows (sound : self.Sound) (holds : self.peer = some peer) :
    self.Follows { self with peer := some { peer with young := false } } := by
  have isSound := sound.peer peer holds
  refine .of_party (sound.with_peer ?_) ?_ rfl
  · exact ⟨isSound.described, isSound.paired, isSound.first, isSound.live, isSound.watched,
      isSound.waiting⟩
  · rw [party_of_peer holds]
    rfl

theorem onPeerConnected_follows (sound : self.Sound) (holds : self.peer = some peer)
    (remote : peer.peer.remoteDescription.isSome = true)
    (alive : peer.peer.connectionState ≠ .failed) : self.Follows (self.onPeerConnected peer) := by
  have isSound := sound.peer peer holds
  refine ⟨⟨sound.currentCall, sound.callErrors, ?_⟩, ?_, rfl⟩
  · rintro _ ⟨⟩
    refine ⟨isSound.described, isSound.paired, isSound.first, fun _ => ⟨remote, nofun⟩,
      fun _ => remote, fun waits => ?_⟩
    simp [show peer.peer.remoteDescription = none from waits] at remote
  · rw [party_of_peer holds]
    have heals : Negotiation.Party.Turns ⟨peer.status, self.limbo.isSome⟩
        ⟨.settled peer.exchange false, false⟩ :=
      .heals (by simp [WebrtcPeer.status, remote, alive])
    simpa [party, onPeerConnected, WebrtcPeer.status, WebrtcPeer.exchange, remote] using heals

theorem onPeerDisconnected_follows (sound : self.Sound) (holds : self.peer = some peer)
    (connected : peer.peer.connectionState = .connected) :
    self.Follows (self.onPeerDisconnected peer) := by
  have isSound := sound.peer peer holds
  refine .of_party ⟨sound.currentCall, sound.callErrors, ?_⟩ ?_ rfl
  · rintro _ ⟨⟩
    refine ⟨isSound.described, isSound.paired, isSound.first, nofun, nofun, fun waits => ?_⟩
    simp [isSound.waiting waits] at connected
  · rw [party_of_peer holds]
    simp [party, onPeerDisconnected, WebrtcPeer.status, WebrtcPeer.exchange, connected]

theorem onPeerFailed_follows (sound : self.Sound) (holds : self.peer = some peer)
    (ownClientId : ClientId) (remote : peer.peer.remoteDescription.isSome = true)
    (conference : self.isConferenceLink = true) :
    self.Follows (self.onPeerFailed ownClientId peer) := by
  have isSound := sound.peer peer holds
  have broken : self.party.Turns ⟨.settled peer.exchange true, true⟩ := by
    rw [party_of_peer holds]
    exact .breaks (if_pos remote)
  have failedSound : WebrtcPeer.Sound { peer with
      established := false
      peer := { peer.peer with connectionState := .failed } } := by
    refine ⟨isSound.described, isSound.paired, isSound.first, nofun, isSound.watched,
      fun waits => ?_⟩
    simp [show peer.peer.remoteDescription = none from waits] at remote
  unfold onPeerFailed
  rw [if_pos (by exact conference)]
  split
  · rename_i limbo
    split
    · refine ⟨sound.with_peer failedSound, ?_, rfl⟩
      simpa [party, WebrtcPeer.status, WebrtcPeer.exchange, remote, show self.limbo.isSome = true
        from limbo] using broken
    · refine ⟨sound.without_peer, ?_, rfl⟩
      exact .gives_up limbo
  · refine ⟨⟨sound.currentCall, sound.callErrors, ?_⟩, ?_, rfl⟩
    · rintro _ ⟨⟩
      exact failedSound
    · simpa [party, startLinkRetry, WebrtcPeer.status, WebrtcPeer.exchange, remote] using broken

/-- A change that keeps the party may come before an offer. -/
theorem Renews.of_party {between changed : LinkEnd} {exchange : ℕ} {sdp : SessionDescription}
    (renews : between.Renews changed exchange sdp) (same : between.party = self.party)
    (peerJoined : between.peerJoined = self.peerJoined) : self.Renews changed exchange sdp :=
  ⟨renews.sound, same ▸ renews.offers, renews.opens, renews.peerJoined.trans peerJoined⟩

/-- A relay reconnect replaces a peer from the first exchange, or does not happen. -/
theorem tryRelayReconnect_cases (sound : self.Sound) (holds : self.peer = some peer)
    (remote : peer.peer.remoteDescription.isSome = true) (exchange : ℕ) :
    self.tryRelayReconnect exchange = .ok none ∨
    ∃ changed sdp, self.tryRelayReconnect exchange = .ok (some (changed, sdp)) ∧
      self.Renews changed exchange sdp ∧ ∃ broken, self.party.status = .settled 0 broken := by
  simp only [tryRelayReconnect, holds]
  split
  · exact .inl rfl
  · rename_i notRelayed
    split
    · exact .inl rfl
    · have first : peer.exchange = 0 := by
        simp only [Bool.or_eq_true, not_or, Bool.not_eq_true] at notRelayed
        exact (sound.peer peer holds).first notRelayed.1
      obtain ⟨changed, sdp, negotiates, renews⟩ :=
        negotiatePeer_renews sound exchange (by simp [holds])
      refine .inr ⟨changed, sdp, by rw [negotiates]; rfl, renews, ?_⟩
      exact ⟨_, by rw [party_of_peer holds, WebrtcPeer.status, if_pos remote, first]⟩

/-- A watchdog makes the client offer in place of the first exchange, or change nothing. -/
theorem onNoInboundMedia_cases (sound : self.Sound) (holds : self.peer = some peer)
    (ownClientId : ClientId) (watched : peer.peer.watchdog = true) (exchange : ℕ) :
    (∃ changed, (self.watchdogFired peer).onNoInboundMedia ownClientId exchange =
      (changed, none) ∧ self.Follows changed) ∨
    ∃ changed sdp, (self.watchdogFired peer).onNoInboundMedia ownClientId exchange =
        (changed, some sdp) ∧
      self.Renews changed exchange sdp ∧ ∃ broken, self.party.status = .settled 0 broken := by
  have isSound := sound.peer peer holds
  have quieted : (self.watchdogFired peer).Sound :=
    sound.with_peer ⟨isSound.described, isSound.paired, isSound.first, isSound.live, nofun,
      isSound.waiting⟩
  have same : (self.watchdogFired peer).party = self.party := by
    rw [party_of_peer holds]
    rfl
  unfold onNoInboundMedia
  rcases tryRelayReconnect_cases quieted rfl (isSound.watched watched) exchange with
    stays | ⟨changed, sdp, reconnects, renews, settled⟩
  · refine .inl ⟨self.watchdogFired peer, by rw [stays], ?_⟩
    exact .of_party quieted same rfl
  · refine .inr ⟨changed, sdp, by rw [reconnects], renews.of_party same rfl, ?_⟩
    rwa [← same]

/-- A retry attempt offers where it may, and changes nothing otherwise. -/
theorem attemptLinkRetry_cases (sound : self.Sound) {task : LinkRetry}
    (limbo : self.limbo = some task) (exchange : ℕ) :
    (∃ changed, self.attemptLinkRetry task exchange = (changed, none) ∧ self.Follows changed) ∨
    self.mayRetry = true ∧ ∃ changed sdp,
      self.attemptLinkRetry task exchange = (changed, some sdp) ∧
      self.Renews changed exchange sdp := by
  have waiting : Sound { self with limbo := some { task with attempting := false } } :=
    ⟨sound.currentCall, sound.callErrors, sound.peer⟩
  have same : party { self with limbo := some { task with attempting := false } } =
      self.party := by
    simp [party, limbo]
  unfold attemptLinkRetry
  by_cases may : self.mayRetry = true
  · obtain ⟨changed, sdp, negotiates, renews⟩ := negotiatePeer_renews waiting exchange (by simp)
    refine .inr ⟨may, changed, sdp, ?_, renews.of_party same rfl⟩
    rw [if_pos (by exact may), negotiates]
  · refine .inl ⟨_, if_neg (by exact may), ?_⟩
    exact .of_party waiting same rfl

theorem Sound.report (sound : self.Sound) (peerId : ClientId) :
    (self.trySendCallError (.peerConnectionFailed peerId)).Sound := by
  refine ⟨sound.currentCall, ?_, sound.peer⟩
  intro reason sent
  rcases List.mem_append.mp sent with before | now
  · exact sound.callErrors reason before
  · exact ⟨peerId, List.mem_singleton.mp now⟩

/-- The retry loop lets a healed link leave limbo, waits for a young peer and gives an old
one up. -/
theorem retryTick_follows (sound : self.Sound) {task : LinkRetry} (limbo : self.limbo = some task)
    (ownClientId peerId : ClientId) (joined : self.peerJoined = true)
    (notLast : self.isLastDeadLink = false) :
    self.Follows (self.retryTick ownClientId peerId task) := by
  have retrying : self.party.retrying = true := by simp [party, limbo]
  unfold retryTick
  split
  · rename_i healed
    simp only [sound.currentCall, joined, Bool.and_self, Bool.not_true, Bool.or_false,
      Option.any_eq_true] at healed
    obtain ⟨peer, holds, established⟩ := healed
    obtain ⟨remote, alive⟩ := (sound.peer peer holds).live established
    refine ⟨⟨sound.currentCall, sound.callErrors, sound.peer⟩, ?_, rfl⟩
    have heals : self.party.Turns ⟨.settled peer.exchange false, false⟩ :=
      .heals (by simp [party_of_peer holds, WebrtcPeer.status, remote, alive])
    simpa [party, holds, WebrtcPeer.status, remote, alive] using heals
  · rename_i unhealed
    split
    · split
      · exact .of_party (sound.report peerId) rfl rfl
      · exact .of_party sound rfl rfl
    · rename_i old
      rw [if_neg]
      · refine ⟨⟨sound.currentCall, (sound.report peerId).callErrors, sound.without_peer.peer⟩, ?_,
          rfl⟩
        have gives_up := Negotiation.Party.Turns.gives_up retrying
        simpa [party, limbo, trySendCallError] using gives_up
      · intro last
        have dead : self.isLastDeadLink = true := by
          simp only [sound.currentCall, joined, Option.any_eq_true, Bool.and_self, Bool.not_true,
            Bool.or_false, not_exists, not_and, Bool.not_eq_true] at unhealed old
          simp only [isLastDeadLink, sound.currentCall, joined, Bool.and_self, Bool.true_and,
            Bool.and_eq_true, Bool.not_eq_true', Option.any_eq_false, Bool.or_eq_false_iff]
          exact ⟨fun peer holds => ⟨unhealed peer holds, old peer holds⟩, last⟩
        simp [notLast] at dead

theorem peer_of_offering {own : ℕ}
    (offering : self.party.status = .offering own) :
    ∃ peer, self.peer = some peer ∧ peer.peer.remoteDescription = none ∧ peer.exchange = own := by
  cases holds : self.peer with
  | none => simp [party, holds] at offering
  | some peer =>
      rw [party_of_peer holds, WebrtcPeer.status] at offering
      split at offering
      · cases offering
      · rename_i waits
        exact ⟨peer, rfl, by simpa using waits, by simpa using offering⟩

theorem peer_eq_none_of_idle (idle : self.party.status = .idle) : self.peer = none := by
  cases holds : self.peer with
  | none => rfl
  | some peer =>
      rw [party_of_peer holds, WebrtcPeer.status] at idle
      split at idle <;> cases idle

theorem party_initial_of_fresh (fresh : (self.peer.isSome || self.limbo.isSome) = false) :
    self.party = ⟨.idle, false⟩ := by
  simp only [Bool.or_eq_false_iff, Option.isSome_eq_false_iff, Option.isNone_iff_eq_none] at fresh
  simp [party, fresh.1, fresh.2]

/-- An answer reaches an end: the end waits for it, or has given its peer up. -/
theorem Sound.onWebrtcAnswer_cases (sound : self.Sound)
    (ownClientId : ClientId) {sdp : SessionDescription}
    (offers : self.party.Offers sdp.exchange) :
    (self.party.status = .idle ∧ self.onWebrtcAnswer ownClientId sdp = self) ∨
    (self.party.status = .offering sdp.exchange ∧
      (self.onWebrtcAnswer ownClientId sdp).Sound ∧
      (self.onWebrtcAnswer ownClientId sdp).peerJoined = self.peerJoined ∧
      (self.onWebrtcAnswer ownClientId sdp).party =
        { self.party with status := .settled sdp.exchange false }) := by
  rcases offers with offering | ⟨idle, _⟩
  · obtain ⟨peer, holds, waits, isExchange⟩ := peer_of_offering offering
    have applies := onWebrtcAnswer_applies sound holds ownClientId waits isExchange.symm
    rw [isExchange] at applies
    exact .inr ⟨offering, applies⟩
  · refine .inl ⟨idle, ?_⟩
    exact if_pos (by simp [peer_eq_none_of_idle idle])

end LinkEnd

end Vacs
