import Vacs.Peers.Endpoints

/-!
# Crossing offers

When both ends of a link in limbo offer, the lower client ID keeps its own attempt and the
higher one answers it. Nothing of the kind is done when the media watchdogs of both ends
fire: each client drops its own offer for the other's, and the answers to the dropped
offers are rejected, which fails a 1:1 call and leaves the ends of a conference link with
peers from different exchanges (`PeerLink.crossedReconnects_fail`).

In runs in which no offer reaches the lower client while it waits for an answer outside
limbo, and no end retries before its last offer was answered or has got lost, the link
takes the steps of the abstract negotiation, and the peers of both ends belong together
(`PeerLink.run_pairsExchanges`).
-/

set_option autoImplicit false

namespace Vacs

open GuardedRuns

/-! ## What a link should keep -/

/-- The peer was created from the exchange, and has both descriptions of it. -/
def Peer.IsFrom (peer : Peer) (exchange : ℕ) : Prop :=
  peer.localDescription.map SessionDescription.exchange = some exchange ∧
    peer.remoteDescription.map SessionDescription.exchange = some exchange

def LinkMessage.isOffer : LinkMessage → Bool
  | .webrtcOffer _ => true
  | .webrtcAnswer _ => false

namespace PeerLink

/-- No message is in flight, call updates included. -/
def IsQuiet (link : PeerLink) : Prop :=
  link.toLower = [] ∧ link.toHigher = [] ∧ link.lower.peerJoined = true ∧
    link.higher.peerJoined = true

instance (link : PeerLink) : Decidable link.IsQuiet :=
  inferInstanceAs (Decidable (_ ∧ _ ∧ _ ∧ _))

/-- An answer is applied to the offer it answers; no end fails the call, and the only errors
it sends are the retry loop's reports of a dead link; and a quiet link has peers from one
exchange, unless an end has given its peer up to retry. -/
structure Safe (link : PeerLink) : Prop where
  paired : ∀ side peer, (link.side side).peer = some peer → ∀ offer answer,
    peer.peer.localDescription = some offer → peer.peer.remoteDescription = some answer →
    answer.exchange = offer.exchange
  unfailed : ∀ side, (link.side side).currentCall = true ∧
    ∀ reason ∈ (link.side side).callErrors, ∃ peerId, reason = .peerConnectionFailed peerId
  agreed : link.IsQuiet → ∀ lower higher, link.lower.peer = some lower →
    link.higher.peer = some higher → lower.peer.remoteDescription.isSome →
    higher.peer.remoteDescription.isSome →
    ∃ exchange, lower.peer.IsFrom exchange ∧ higher.peer.IsFrom exchange
  connected : link.IsQuiet → link.lower.limbo = none → link.higher.limbo = none →
    ∃ exchange lower higher, link.lower.peer = some lower ∧ link.higher.peer = some higher ∧
      lower.peer.IsFrom exchange ∧ higher.peer.IsFrom exchange

/-- Both clients stay in the call: the link does not fail outside a conference, and the
retry loop neither finds the other client gone nor the last link of the call dead. -/
def StaysJoined (link : PeerLink) : LinkMove → Bool
  | .failed side => (link.side side).isConferenceLink
  | .tick side => (link.side side).peerJoined && !(link.side side).isLastDeadLink
  | _ => true

/-- An offer reaches the lower client while its own offer is unanswered only if its link is
in limbo; and no end retries while an earlier offer of its own, or the answer to it, is in
flight. -/
def Uncrossed (link : PeerLink) : LinkMove → Bool
  | .deliver .lower =>
      !(link.toLower.head?.any LinkMessage.isOffer) || link.lower.limbo.isSome ||
        !(link.lower.peer.any fun peer => peer.peer.hasLocalOffer)
  | .attempt side =>
      !(link.side side).mayRetry ||
        (!(link.outgoing side).any LinkMessage.isOffer &&
          (link.incoming side).all LinkMessage.isOffer)
  | _ => true

end PeerLink

/-! ## The negotiation behind the link -/

def LinkMessage.negotiation : LinkMessage → Negotiation.Message
  | .webrtcOffer sdp => .offer sdp.exchange
  | .webrtcAnswer sdp => .answer sdp.exchange

namespace PeerLink

def negotiation (link : PeerLink) : Negotiation.Link :=
  ⟨link.lower.party, link.higher.party, link.toLower.map LinkMessage.negotiation,
    link.toHigher.map LinkMessage.negotiation, link.exchanges⟩

structure Sound (link : PeerLink) : Prop where
  lower : link.lower.Sound
  higher : link.higher.Sound
  coherent : Negotiation.Coherent link.negotiation
  started : link.lower.peerJoined = true ↔ link.exchanges ≠ 0

theorem Sound.side {link : PeerLink} (sound : link.Sound) (side : LinkSide) :
    (link.side side).Sound := by
  cases side with
  | lower => exact sound.lower
  | higher => exact sound.higher

/-- An end changes without a message. -/
theorem Sound.put {link : PeerLink} (sound : link.Sound) {side : LinkSide} {changed : LinkEnd}
    (follows : (link.side side).Follows changed) : (link.put changed side).Sound := by
  cases side with
  | lower =>
      refine ⟨follows.sound, sound.higher, sound.coherent.step (.keeperTurns follows.turns), ?_⟩
      exact (congrArg (· = true) follows.peerJoined).to_iff.trans sound.started
  | higher =>
      exact ⟨sound.lower, follows.sound, sound.coherent.step (.yielderTurns follows.turns),
        sound.started⟩

/-- An end opens an exchange. -/
theorem Sound.send_offer {link : PeerLink} (sound : link.Sound) {side : LinkSide}
    {changed : LinkEnd} {sdp : SessionDescription} (started : link.exchanges ≠ 0)
    (renews : (link.side side).Renews changed link.exchanges sdp)
    (may : (link.side side).party.MayOffer ((link.outgoing side).map LinkMessage.negotiation)
      ((link.incoming side).map LinkMessage.negotiation)) :
    (link.putOffer side (changed, some sdp)).Sound := by
  cases side with
  | lower =>
      have steps := sound.coherent.step (.keeperOffers may)
      refine ⟨renews.sound, sound.higher, ?_, ?_⟩
      · have opens := renews.opens
        have offers := renews.offers
        simpa [negotiation, putOffer, send, PeerLink.side, LinkMessage.negotiation, opens, offers]
          using steps
      · exact iff_of_true (renews.peerJoined.trans (sound.started.mpr started))
          (Nat.succ_ne_zero _)
  | higher =>
      have steps := sound.coherent.step (.yielderOffers may)
      refine ⟨sound.lower, renews.sound, ?_, ?_⟩
      · have opens := renews.opens
        have offers := renews.offers
        simpa [negotiation, putOffer, send, PeerLink.side, LinkMessage.negotiation, opens, offers]
          using steps
      · exact iff_of_true (sound.started.mpr started) (Nat.succ_ne_zero _)

/-! ## Every step is a step of the negotiation -/

variable {pair : ClientPair} {link next : PeerLink}

theorem Sound.exchanges_ne_zero (sound : link.Sound) (side : LinkSide)
    (begun : (link.side side).party ≠ ⟨.idle, false⟩) : link.exchanges ≠ 0 := by
  cases sound.coherent with
  | unstarted keeper yielder =>
      cases side with
      | lower => exact absurd keeper begun
      | higher => exact absurd yielder begun
  | started some_exchange => exact some_exchange

/-- The lower client opens the first exchange when the higher one joins. -/
theorem Sound.callUpdate (sound : link.Sound) {side : LinkSide}
    (unaware : (link.side side).peerJoined = false) :
    (link.putOffer side ((link.side side).onPeerJoined (pair.own side) (pair.other side)
      link.exchanges)).Sound := by
  cases side with
  | lower =>
      have unstarted : link.exchanges = 0 := by
        by_contra started
        exact absurd (unaware.symm.trans (sound.started.mpr started)) Bool.false_ne_true
      have aware : LinkEnd.Sound { link.lower with peerJoined := true } :=
        ⟨sound.lower.currentCall, sound.lower.callErrors, sound.lower.peer⟩
      obtain ⟨changed, sdp, negotiates, renews⟩ :=
        LinkEnd.negotiatePeer_renews aware link.exchanges fun _ => unstarted
      have offers : link.lower.onPeerJoined pair.lower pair.higher link.exchanges =
          (changed, some sdp) := by
        rw [LinkEnd.onPeerJoined, if_neg (not_le.mpr pair.ordered), negotiates]
      simp only [PeerLink.side, ClientPair.own, ClientPair.other, offers]
      refine ⟨renews.sound, sound.higher, ?_, iff_of_true renews.peerJoined (Nat.succ_ne_zero _)⟩
      have steps := sound.coherent.step (.starts unstarted)
      have isParty : changed.party =
          { link.lower.party with status := .offering link.exchanges } := renews.offers
      have isExchange := renews.opens
      simpa [negotiation, putOffer, send, LinkMessage.negotiation, isParty, isExchange, unstarted]
        using steps
  | higher =>
      have stays : link.higher.onPeerJoined pair.higher pair.lower link.exchanges =
          ({ link.higher with peerJoined := true }, none) := by
        rw [LinkEnd.onPeerJoined, if_pos pair.ordered.le]
      simp only [PeerLink.side, ClientPair.own, ClientPair.other, stays]
      exact ⟨sound.lower, ⟨sound.higher.currentCall, sound.higher.callErrors, sound.higher.peer⟩,
        sound.coherent, sound.started⟩

/-- An offer reaches the lower client, which ignores it in limbo. -/
theorem Sound.offer_toLower (sound : link.Sound) {sdp : SessionDescription}
    {rest : List LinkMessage} (arrives : link.toLower = .webrtcOffer sdp :: rest)
    (uncrossed : link.Uncrossed (.deliver .lower) = true)
    (steps : link.step pair (.deliver .lower) = some next) : next.Sound := by
  have arrivesToKeeper : link.negotiation.toKeeper =
      .offer sdp.exchange :: rest.map LinkMessage.negotiation := by
    simp [negotiation, arrives, LinkMessage.negotiation]
  simp only [step, incoming, arrives, PeerLink.side, ClientPair.own, ClientPair.other] at steps
  by_cases limbo : link.lower.limbo.isSome = true
  · have ignores : link.lower.onWebrtcOffer pair.lower pair.higher sdp = (link.lower, none) :=
      if_pos ⟨limbo, pair.ordered⟩
    rw [ignores] at steps
    cases steps
    exact ⟨sound.lower, sound.higher, sound.coherent.step (.keeperIgnores arrivesToKeeper limbo),
      sound.started⟩
  · have free : ∀ own, link.lower.party.status ≠ .offering own := by
      intro own offering
      obtain ⟨peer, holds, waits, _⟩ := LinkEnd.peer_of_offering offering
      have described := (sound.lower.peer peer holds).described
      simp [Uncrossed, arrives, LinkMessage.isOffer, limbo, holds, Peer.hasLocalOffer, waits,
        described] at uncrossed
    obtain ⟨changed, answer, accepts, isSound, answers, joined, isParty⟩ :=
      LinkEnd.onWebrtcOffer_accepts sound.lower (fun both => limbo both.1) fun fresh =>
        absurd (LinkEnd.party_initial_of_fresh fresh) (sound.coherent.offer_toKeeper arrivesToKeeper)
    rw [accepts] at steps
    cases steps
    refine ⟨isSound, sound.higher, ?_, ?_⟩
    · have taken := sound.coherent.step (.keeperAccepts arrivesToKeeper
        (Bool.eq_false_iff.mpr limbo) free)
      simpa [negotiation, send, pop, LinkMessage.negotiation, answers, isParty] using taken
    · exact (congrArg (· = true) joined).to_iff.trans sound.started

/-- An offer reaches the higher client, which accepts it. -/
theorem Sound.offer_toHigher (sound : link.Sound) {sdp : SessionDescription}
    {rest : List LinkMessage} (arrives : link.toHigher = .webrtcOffer sdp :: rest)
    (steps : link.step pair (.deliver .higher) = some next) : next.Sound := by
  have arrivesToYielder : link.negotiation.toYielder =
      .offer sdp.exchange :: rest.map LinkMessage.negotiation := by
    simp [negotiation, arrives, LinkMessage.negotiation]
  simp only [step, incoming, arrives, PeerLink.side, ClientPair.own, ClientPair.other] at steps
  obtain ⟨changed, answer, accepts, isSound, answers, _, isParty⟩ :=
    LinkEnd.onWebrtcOffer_accepts sound.higher (fun both => pair.ordered.asymm both.2) fun fresh =>
      sound.coherent.offer_toYielder arrivesToYielder (LinkEnd.party_initial_of_fresh fresh)
  rw [accepts] at steps
  cases steps
  refine ⟨sound.lower, isSound, ?_, sound.started⟩
  have taken := sound.coherent.step (.yielderAccepts arrivesToYielder)
  simpa [negotiation, send, pop, LinkMessage.negotiation, answers, isParty] using taken

/-- An answer reaches the lower client. -/
theorem Sound.answer_toLower (sound : link.Sound) {sdp : SessionDescription}
    {rest : List LinkMessage} (arrives : link.toLower = .webrtcAnswer sdp :: rest)
    (steps : link.step pair (.deliver .lower) = some next) : next.Sound := by
  have arrivesToKeeper : link.negotiation.toKeeper =
      .answer sdp.exchange :: rest.map LinkMessage.negotiation := by
    simp [negotiation, arrives, LinkMessage.negotiation]
  simp only [step, incoming, arrives, PeerLink.side, ClientPair.own, Option.some.injEq] at steps
  subst steps
  rcases sound.lower.onWebrtcAnswer_cases pair.lower
    (sound.coherent.answer_toKeeper arrivesToKeeper) with
    ⟨idle, ignores⟩ | ⟨waits, isSound, joined, isParty⟩
  · rw [ignores]
    exact ⟨sound.lower, sound.higher,
      sound.coherent.step (.keeperDiscards arrivesToKeeper idle), sound.started⟩
  · refine ⟨isSound, sound.higher, ?_, ?_⟩
    · have taken := sound.coherent.step (.keeperApplies arrivesToKeeper waits)
      simpa [negotiation, PeerLink.put, pop, isParty] using taken
    · exact (congrArg (· = true) joined).to_iff.trans sound.started

/-- An answer reaches the higher client. -/
theorem Sound.answer_toHigher (sound : link.Sound) {sdp : SessionDescription}
    {rest : List LinkMessage} (arrives : link.toHigher = .webrtcAnswer sdp :: rest)
    (steps : link.step pair (.deliver .higher) = some next) : next.Sound := by
  have arrivesToYielder : link.negotiation.toYielder =
      .answer sdp.exchange :: rest.map LinkMessage.negotiation := by
    simp [negotiation, arrives, LinkMessage.negotiation]
  simp only [step, incoming, arrives, PeerLink.side, ClientPair.own, Option.some.injEq] at steps
  subst steps
  rcases sound.higher.onWebrtcAnswer_cases pair.higher
    (sound.coherent.answer_toYielder arrivesToYielder) with
    ⟨idle, ignores⟩ | ⟨waits, isSound, _, isParty⟩
  · rw [ignores]
    exact ⟨sound.lower, sound.higher,
      sound.coherent.step (.yielderDiscards arrivesToYielder idle), sound.started⟩
  · refine ⟨sound.lower, isSound, ?_, sound.started⟩
    have taken := sound.coherent.step (.yielderApplies arrivesToYielder waits)
    simpa [negotiation, PeerLink.put, pop, isParty] using taken

/-- The messages in flight leave a retrying end free to offer. -/
theorem mayOffer_of_uncrossed {side : LinkSide} {task : LinkRetry}
    (limbo : (link.side side).limbo = some task) (may : (link.side side).mayRetry = true)
    (uncrossed : link.Uncrossed (.attempt side) = true) :
    (link.side side).party.MayOffer ((link.outgoing side).map LinkMessage.negotiation)
      ((link.incoming side).map LinkMessage.negotiation) := by
  simp only [Uncrossed, may, Bool.not_true, Bool.false_or, Bool.and_eq_true, Bool.not_eq_true',
    List.any_eq_false, List.all_eq_true] at uncrossed
  obtain ⟨noOffer, noAnswer⟩ := uncrossed
  refine .inr ⟨by simp [LinkEnd.party, limbo], ?_, ?_⟩
  · intro exchange sent
    obtain ⟨message, inFlight, isOffer⟩ := List.mem_map.mp sent
    cases message with
    | webrtcOffer sdp => exact noOffer _ inFlight rfl
    | webrtcAnswer sdp => cases isOffer
  · intro exchange sent
    obtain ⟨message, inFlight, isAnswer⟩ := List.mem_map.mp sent
    cases message with
    | webrtcOffer sdp => cases isAnswer
    | webrtcAnswer sdp => exact Bool.false_ne_true (noAnswer _ inFlight)

/-- Every step that keeps the pair joined and its offers uncrossed keeps the link sound. -/
theorem Sound.step {move : LinkMove} (sound : link.Sound) (joined : link.StaysJoined move = true)
    (uncrossed : link.Uncrossed move = true) (steps : link.step pair move = some next) :
    next.Sound := by
  cases move with
  | callUpdate side =>
      simp only [PeerLink.step] at steps
      split at steps
      · cases steps
      · rename_i unaware
        cases steps
        simp only [Bool.or_eq_true, not_or, Bool.not_eq_true] at unaware
        exact sound.callUpdate unaware.1
  | others side invitedTargets otherParticipants otherPeers =>
      cases steps
      exact sound.put (LinkEnd.others_follows (sound.side side) _ _ _)
  | elapse side =>
      obtain ⟨peer, holds, rfl⟩ := Option.map_eq_some_iff.mp steps
      exact sound.put (LinkEnd.elapse_follows (sound.side side) holds)
  | connected side =>
      obtain ⟨peer, holds, steps⟩ := Option.bind_eq_some_iff.mp steps
      split at steps
      · rename_i connects
        cases steps
        exact sound.put (LinkEnd.onPeerConnected_follows (sound.side side) holds connects.1
          connects.2.2)
      · cases steps
  | disconnected side =>
      obtain ⟨peer, holds, steps⟩ := Option.bind_eq_some_iff.mp steps
      split at steps
      · rename_i connected
        cases steps
        exact sound.put (LinkEnd.onPeerDisconnected_follows (sound.side side) holds connected)
      · cases steps
  | failed side =>
      obtain ⟨peer, holds, steps⟩ := Option.bind_eq_some_iff.mp steps
      split at steps
      · rename_i remote
        cases steps
        exact sound.put (LinkEnd.onPeerFailed_follows (sound.side side) holds _ remote joined)
      · cases steps
  | noInboundMedia side =>
      obtain ⟨peer, holds, steps⟩ := Option.bind_eq_some_iff.mp steps
      split at steps
      · rename_i watched
        cases steps
        rcases LinkEnd.onNoInboundMedia_cases (sound.side side) holds (pair.own side) watched
          link.exchanges with ⟨changed, stays, follows⟩ | ⟨changed, sdp, offers, renews, settled⟩
        · rw [stays]
          exact sound.put follows
        · rw [offers]
          refine sound.send_offer (sound.exchanges_ne_zero side ?_) renews (.inl settled)
          obtain ⟨broken, settled⟩ := settled
          intro initially
          rw [initially] at settled
          cases settled
      · cases steps
  | attempt side =>
      obtain ⟨task, limbo, steps⟩ := Option.bind_eq_some_iff.mp steps
      split at steps
      · cases steps
        rcases LinkEnd.attemptLinkRetry_cases (sound.side side) limbo link.exchanges with
          ⟨changed, stays, follows⟩ | ⟨may, changed, sdp, offers, renews⟩
        · rw [stays]
          exact sound.put follows
        · rw [offers]
          refine sound.send_offer (sound.exchanges_ne_zero side ?_) renews
            (mayOffer_of_uncrossed limbo may uncrossed)
          intro initially
          have retries := congrArg Negotiation.Party.retrying initially
          simp [LinkEnd.party, limbo] at retries
      · cases steps
  | tick side =>
      obtain ⟨task, limbo, steps⟩ := Option.bind_eq_some_iff.mp steps
      split at steps
      · cases steps
      · cases steps
        simp only [StaysJoined, Bool.and_eq_true, Bool.not_eq_true'] at joined
        exact sound.put (LinkEnd.retryTick_follows (sound.side side) limbo _ _ joined.1 joined.2)
  | deliver side =>
      cases side with
      | lower =>
          cases arrives : link.toLower with
          | nil => simp [PeerLink.step, incoming, arrives] at steps
          | cons message rest =>
              cases message with
              | webrtcOffer sdp => exact sound.offer_toLower arrives uncrossed steps
              | webrtcAnswer sdp => exact sound.answer_toLower arrives steps
      | higher =>
          cases arrives : link.toHigher with
          | nil => simp [PeerLink.step, incoming, arrives] at steps
          | cons message rest =>
              cases message with
              | webrtcOffer sdp => exact sound.offer_toHigher arrives steps
              | webrtcAnswer sdp => exact sound.answer_toHigher arrives steps

theorem Initial.sound (initial : link.Initial) : link.Sound := by
  have endSound : ∀ self : LinkEnd, self.Initial → self.Sound := by
    intro self initially
    refine ⟨initially.currentCall, ?_, ?_⟩
    · simp [initially.callErrors]
    · simp [initially.peer]
  have isParty : ∀ self : LinkEnd, self.Initial → self.party = ⟨.idle, false⟩ := by
    intro self initially
    simp [LinkEnd.party, initially.peer, initially.limbo]
  refine ⟨endSound _ initial.lower, endSound _ initial.higher, ?_, ?_⟩
  · exact .unstarted (isParty _ initial.lower) (isParty _ initial.higher)
      (by simp [negotiation, initial.toLower]) (by simp [negotiation, initial.toHigher])
      initial.exchanges
  · simp [initial.lower.peerJoined, initial.exchanges]

/-- A peer with a remote description is from one exchange. -/
theorem isFrom_of_sound {peer : WebrtcPeer} (sound : peer.Sound)
    (remote : peer.peer.remoteDescription.isSome = true) : peer.peer.IsFrom peer.exchange := by
  obtain ⟨offer, isOffer⟩ := Option.isSome_iff_exists.mp sound.described
  obtain ⟨answer, isAnswer⟩ := Option.isSome_iff_exists.mp remote
  refine ⟨by simp [WebrtcPeer.exchange, isOffer], ?_⟩
  simp [isAnswer, sound.paired answer isAnswer]

/-- An end that is settled holds a peer from its exchange. -/
theorem peer_of_settled {self : LinkEnd} (sound : self.Sound) {exchange : ℕ} {broken : Bool}
    (settled : self.party.status = .settled exchange broken) :
    ∃ peer, self.peer = some peer ∧ peer.peer.IsFrom exchange := by
  cases holds : self.peer with
  | none => simp [LinkEnd.party, holds] at settled
  | some peer =>
      rw [LinkEnd.party_of_peer holds, WebrtcPeer.status] at settled
      split at settled
      · rename_i remote
        cases settled
        exact ⟨peer, rfl, isFrom_of_sound (sound.peer peer holds) remote⟩
      · cases settled

theorem Sound.safe (sound : link.Sound) : link.Safe where
  paired := by
    intro side peer holds offer answer isOffer isAnswer
    have paired := ((sound.side side).peer peer holds).paired answer isAnswer
    simpa [WebrtcPeer.exchange, isOffer] using paired
  unfailed side := ⟨(sound.side side).currentCall, (sound.side side).callErrors⟩
  agreed := by
    intro quiet lower higher holdsLower holdsHigher remoteLower remoteHigher
    have lowerSettled : link.lower.party.status =
        .settled lower.exchange (lower.peer.connectionState = .failed) := by
      rw [LinkEnd.party_of_peer holdsLower, WebrtcPeer.status, if_pos remoteLower]
    have higherSettled : link.higher.party.status =
        .settled higher.exchange (higher.peer.connectionState = .failed) := by
      rw [LinkEnd.party_of_peer holdsHigher, WebrtcPeer.status, if_pos remoteHigher]
    have same : lower.exchange = higher.exchange :=
      sound.coherent.agree (by simp [negotiation, quiet.1]) (by simp [negotiation, quiet.2.1])
        lowerSettled higherSettled
    refine ⟨lower.exchange, isFrom_of_sound (sound.lower.peer lower holdsLower) remoteLower, ?_⟩
    rw [same]
    exact isFrom_of_sound (sound.higher.peer higher holdsHigher) remoteHigher
  connected := by
    intro quiet lowerRests higherRests
    obtain ⟨exchange, lost, gone, lowerSettled, higherSettled⟩ :=
      sound.coherent.rests (sound.started.mp quiet.2.2.1) (by simp [negotiation, quiet.1])
        (by simp [negotiation, quiet.2.1]) (by simp [negotiation, LinkEnd.party, lowerRests])
        (by simp [negotiation, LinkEnd.party, higherRests])
    obtain ⟨lower, holdsLower, lowerFrom⟩ := peer_of_settled sound.lower lowerSettled
    obtain ⟨higher, holdsHigher, higherFrom⟩ := peer_of_settled sound.higher higherSettled
    exact ⟨exchange, lower, higher, holdsLower, holdsHigher, lowerFrom, higherFrom⟩

/-! ## Runs of a link -/

/-- As long as the two clients stay joined and no offer disturbs an unanswered one, answers
meet their offers, no end fails the call, and a quiet link has peers from one exchange. -/
theorem run_pairsExchanges {start final : PeerLink} {moves : List LinkMove}
    (initial : start.Initial)
    (guarded : Guarded (step pair)
      (fun link move => link.StaysJoined move = true ∧ link.Uncrossed move = true) start moves)
    (runs : runMoves (step pair) start moves = some final) : final.Safe := by
  have sound : final.Sound := by
    refine guarded.preserves ?_ runs initial.sound
    intro link move next sound guard steps
    exact sound.step guard.1 guard.2 steps
  exact sound.safe

/-- A client that has just joined a call, with the given others in it. -/
def justJoined (others : List ClientId) : LinkEnd :=
  ⟨true, false, [], others, others, false, none, none, []⟩

/-- Two clients that have just joined a call, with the given others in it. -/
def bothJoined (others : List ClientId) : PeerLink :=
  ⟨justJoined others, justJoined others, [], [], 0⟩

theorem bothJoined_initial (others : List ClientId) : (bothJoined others).Initial :=
  ⟨⟨rfl, rfl, rfl, rfl, rfl⟩, ⟨rfl, rfl, rfl, rfl, rfl⟩, rfl, rfl, rfl⟩

def loviAndLoww : ClientPair := ⟨⟨"LOVI"⟩, ⟨"LOWW"⟩, by decide +kernel⟩

/-- The lower client offers, the higher one answers, and they connect. -/
def connects : List LinkMove :=
  [.callUpdate .lower, .callUpdate .higher, .deliver .higher, .deliver .lower, .connected .lower,
    .connected .higher]

/-- Both ends of a conference link fail and retry at the same time. -/
def crossedRetries : List LinkMove :=
  connects ++ [.elapse .lower, .elapse .higher, .failed .lower, .failed .higher, .attempt .lower,
    .attempt .higher, .deliver .lower, .deliver .higher, .deliver .lower, .connected .lower,
    .connected .higher]

/-- The lower client keeps its own attempt, and both end up with peers from it. -/
theorem crossedRetries_pairsExchanges :
    ∃ final, runMoves (step loviAndLoww) (bothJoined [⟨"LOWI"⟩]) crossedRetries = some final ∧
      ∃ exchange lower higher, final.lower.peer = some lower ∧ final.higher.peer = some higher ∧
        lower.peer.IsFrom exchange ∧ higher.peer.IsFrom exchange := by
  have guarded : Guarded (step loviAndLoww)
      (fun link move => link.StaysJoined move = true ∧ link.Uncrossed move = true)
      (bothJoined [⟨"LOWI"⟩]) crossedRetries := by
    decide +kernel
  have settles : (runMoves (step loviAndLoww) (bothJoined [⟨"LOWI"⟩]) crossedRetries).any
      (fun final => decide (final.IsQuiet ∧ final.lower.limbo = none ∧ final.higher.limbo = none))
      = true := by
    decide +kernel
  obtain ⟨final, runs, rests⟩ := (Option.any_eq_true _ _).mp settles
  obtain ⟨quiet, lowerRests, higherRests⟩ := of_decide_eq_true rests
  have safe := run_pairsExchanges (bothJoined_initial _) guarded runs
  exact ⟨final, runs, safe.connected quiet lowerRests higherRests⟩

/-- The media watchdogs at both ends of a 1:1 call fire at the same time. -/
def crossedReconnects : List LinkMove :=
  connects ++ [.noInboundMedia .lower, .noInboundMedia .higher, .deliver .lower, .deliver .higher,
    .deliver .lower, .deliver .higher]

/-- Each client drops its own offer for the other's, both answers are rejected, and both
clients report the failure of a call whose two ends now hold peers from different exchanges. -/
theorem crossedReconnects_fail :
    ∃ final, runMoves (step loviAndLoww) (bothJoined []) crossedReconnects = some final ∧
      Guarded (step loviAndLoww) (fun link move => link.StaysJoined move = true) (bothJoined [])
        crossedReconnects ∧
      final.IsQuiet ∧ final.lower.limbo = none ∧ final.higher.limbo = none ∧
      final.lower.callErrors = [.webrtcFailure ⟨"LOVI"⟩] ∧
      final.higher.callErrors = [.webrtcFailure ⟨"LOWW"⟩] ∧
      final.lower.peer.map (fun lower => lower.peer.localDescription.map (·.exchange)) ≠
        final.higher.peer.map (fun higher => higher.peer.localDescription.map (·.exchange)) ∧
      ¬ final.Safe := by
  have joined : Guarded (step loviAndLoww) (fun link move => link.StaysJoined move = true)
      (bothJoined []) crossedReconnects := by
    decide +kernel
  have settles : (runMoves (step loviAndLoww) (bothJoined []) crossedReconnects).any
      (fun final => decide (final.IsQuiet ∧ final.lower.limbo = none ∧ final.higher.limbo = none ∧
        final.lower.callErrors = [.webrtcFailure ⟨"LOVI"⟩] ∧
        final.higher.callErrors = [.webrtcFailure ⟨"LOWW"⟩] ∧
        final.lower.peer.map (fun lower => lower.peer.localDescription.map (·.exchange)) ≠
          final.higher.peer.map (fun higher => higher.peer.localDescription.map (·.exchange))))
      = true := by
    decide +kernel
  obtain ⟨final, runs, fails⟩ := (Option.any_eq_true _ _).mp settles
  obtain ⟨quiet, lowerRests, higherRests, lowerFails, higherFails, differ⟩ :=
    of_decide_eq_true fails
  refine ⟨final, runs, joined, quiet, lowerRests, higherRests, lowerFails, higherFails, differ,
    fun safe => ?_⟩
  obtain ⟨peerId, isReport⟩ := (safe.unfailed .lower).2 (.webrtcFailure ⟨"LOVI"⟩)
    (by simp [side, lowerFails])
  cases isReport

end PeerLink

end Vacs
