import Vacs.Calls.Coherence

/-!
# Who may remove whom from a call

Seen from a client that does nothing itself, there are few ways to lose a call.
A participant is removed by the leader dropping its target, by the end of the
whole call, or by an eviction over a dead link. A client stops ringing because
the caller withdrew the invitation, because somebody answered for the same
target, or because the whole call ended. An expired timer removes no
participant.
-/

set_option autoImplicit false

namespace Vacs

open CallManager

/-- A departure removes other participants only by ending the call, which takes
the leader or a call of two. -/
theorem Departs.joined {client other : ClientId} {before after : CallState}
    (departs : Departs client before after) (joined : before.Joined other)
    (different : other ≠ client) :
    after.Joined other ∨ after = ⟨none, none⟩ ∧ ∃ active, before.active = some active ∧
      client ∈ active.participants.keys ∧
      (active.conferenceLeader = some client ∨ active.participants.keys.card = 2) := by
  cases departs with
  | hangUp => simp at joined
  | @tearDown ringing active member decides => exact .inr ⟨rfl, active, rfl, member, decides⟩
  | @leave ringing active _ _ _ =>
      left
      rw [CallState.joined_some] at joined
      rw [CallState.joined_some, leaveActive_keys]
      exact Finset.mem_erase_of_ne_of_mem different joined

/-- A departure silences clients only by ending the call or by hanging up on
one's own invitations. -/
theorem Departs.rings {client other : ClientId} {target : CallTarget} {before after : CallState}
    (departs : Departs client before after) (rung : before.Rings target other) :
    after.Rings target other ∨ after = ⟨none, none⟩ := by
  cases departs with
  | hangUp => exact .inr rfl
  | tearDown => exact .inr rfl
  | leave => exact .inl rung

/-- How a participant that did nothing itself lost its call. -/
inductive RemovedBy (request : Request) (evicted : Option ClientId) (call : CallId)
    (after : CallState) (active : ActiveCallEntry) (removed : ClientId) : Prop where
  /-- The leader dropped the target the participant takes part as. -/
  | dropped (target : CallTarget)
      (isOp : request.op = .dropTarget call request.op.actor target .requested)
      (leads : active.conferenceLeader = some request.op.actor)
      (named : active.participants.lookup removed = some target)
  /-- The leader, or the other party of a call of two, left, and the call is
  gone. -/
  | ended
      (isOp : request.op = .endCall call request.op.actor ∨
        request.op = .callError call request.op.actor ∨
        request.op = .cleanupClientCalls request.op.actor)
      (decides : active.conferenceLeader = some request.op.actor ∨
        active.participants.keys.card = 2)
      (gone : after = ⟨none, none⟩)
  /-- A dead link evicted the participant, the leader, or the other party of a
  call of two. -/
  | evicted (client peer : ClientId)
      (isOp : request.op = .reportLinkFailure call request.op.actor peer)
      (isEvicted : evicted = some client)
      (decides : removed = client ∨ active.conferenceLeader = some client ∨
        active.participants.keys.card = 2)

/-- How a client that did nothing itself stopped ringing. -/
inductive SilencedBy (request : Request) (call : CallId) (before after : CallState)
    (target : CallTarget) : Prop where
  /-- The caller of the batch withdrew this invitation. -/
  | withdrawn (reason : CallDropReason)
      (isOp : request.op = .dropTarget call request.op.actor target reason)
      (isCaller : before.Calls request.op.actor)
  /-- Somebody answered for the same target. -/
  | answered (isOp : request.op = .acceptCall call request.op.actor)
      (rung : before.Rings target request.op.actor) (joined : after.Joined request.op.actor)
  /-- The whole call ended. -/
  | ended (gone : after = ⟨none, none⟩)

/-- The client named by an operation that withdraws is the actor. -/
theorem Operation.Withdraws.actor_eq {op : Operation} {call : CallId} {client : ClientId}
    (withdraws : op.Withdraws call client) : op.actor = client := by
  rcases withdraws with rfl | rfl | rfl | rfl <;> rfl

theorem Operation.Leaves.actor_eq {op : Operation} {call : CallId} {client : ClientId}
    (leaves : op.Leaves call client) : op.actor = client := by
  rcases leaves with rfl | rfl | rfl <;> rfl

section Steps

variable {request : Request} {evicted : Option ClientId} {call : CallId}
  {before after : CallState}

theorem CallStep.removedBy (step : CallStep request evicted call before after)
    {active : ActiveCallEntry} (found : before.active = some active) {other : ClientId}
    (joined : other ∈ active.participants.keys) (different : request.op.actor ≠ other)
    (removed : ¬ after.Joined other) : RemovedBy request evicted call after active other := by
  have wasJoined : before.Joined other := ⟨active, found, joined⟩
  cases step with
  | invite => exact absurd wasJoined removed
  | withdraw => exact absurd wasJoined removed
  | cancel => exact absurd wasJoined removed
  | answer =>
      subst found
      refine absurd ?_ removed
      rw [CallState.joined_some, joinActive_keys]
      exact Finset.mem_insert_of_mem joined
  | @drop client dropped target ringing active isOp leads _ named _ =>
      cases found
      have actor : request.op.actor = client := by rw [isOp]; rfl
      have isDropped : other = dropped := by
        by_contra notDropped
        refine removed ?_
        rw [CallState.joined_some, leaveActive_keys]
        exact Finset.mem_erase_of_ne_of_mem notDropped joined
      refine .dropped target ?_ (actor ▸ leads) (isDropped ▸ named)
      rw [actor]
      exact isOp
  | depart isOp departs =>
      have actor := isOp.actor_eq
      rcases departs.joined wasJoined (actor ▸ different.symm) with stays | ⟨gone, _, same, _, decides⟩
      · exact absurd stays removed
      · cases found.symm.trans same
        rw [← actor] at decides isOp
        exact .ended isOp decides gone
  | report =>
      cases found
      exact absurd ⟨_, rfl, joined⟩ removed
  | @evict reporter peer client ringing active after isOp isEvicted _ departs =>
      cases found
      have actor : request.op.actor = reporter := by rw [isOp]; rfl
      refine .evicted client peer (actor ▸ isOp) isEvicted ?_
      by_cases isClient : other = client
      · exact .inl isClient
      · rcases departs.joined ⟨_, rfl, joined⟩ isClient with stays | ⟨_, _, ⟨⟩, _, decides⟩
        · exact absurd stays removed
        · exact .inr decides

theorem CallStep.silencedBy (step : CallStep request evicted call before after)
    {target : CallTarget} {other : ClientId} (rung : before.Rings target other)
    (different : request.op.actor ≠ other)
    (silent : ∀ target, ¬ after.Rings target other) :
    SilencedBy request call before after target := by
  cases step with
  | @invite caller source invited notified ringing active _ _ _ allowed =>
      refine absurd ?_ (silent target)
      rw [CallState.rings_some]
      exact (invitedEntry_rings (fun entry found => (allowed.batch entry found).2) call caller
        source notified active target other).mpr (.inr rung)
  | withdraw isOp _ rings =>
      have actor := isOp.actor_eq
      rw [CallState.rings_some] at rung
      exact absurd ((rings target other).mpr ⟨rung, fun same => different (actor.trans same.symm)⟩)
        (silent target)
  | @cancel client cancelled reason entry ringing active isOp isCaller _ rings =>
      have actor : request.op.actor = client := by rw [isOp]; rfl
      rw [CallState.rings_some] at rung
      have isTarget : target = cancelled := by
        by_contra notTarget
        exact silent target ((rings target other).mpr ⟨rung, notTarget⟩)
      refine .withdrawn reason ?_ (by simpa [actor] using isCaller)
      rw [actor, isTarget]
      exact isOp
  | @answer client accepted entry ringing active isOp answered callerId _ _ rings =>
      have actor : request.op.actor = client := by rw [isOp]; rfl
      rw [CallState.rings_some] at rung
      have isTarget : target = accepted.target := by
        by_contra notTarget
        exact silent target ((rings target other).mpr ⟨rung, notTarget⟩)
      refine .answered (actor.symm ▸ isOp) ?_ ?_
      · rw [actor, isTarget]
        simpa using answered
      · rw [actor, CallState.joined_some, joinActive_keys]
        cases active <;> simp
  | drop => exact absurd rung (silent target)
  | depart isOp departs =>
      rcases departs.rings rung with stays | gone
      · exact absurd stays (silent target)
      · exact .ended gone
  | report => exact absurd rung (silent target)
  | evict _ _ _ departs =>
      have rung : CallState.Rings ⟨_, _⟩ target other := rung
      rcases departs.rings rung with stays | gone
      · exact absurd stays (silent target)
      · exact .ended gone

/-- An expired timer removes no participant. -/
theorem CallStep.autoHangup (step : CallStep request evicted call before after)
    {called : CallId} {client : ClientId} {target : CallTarget}
    (isOp : request.op = .dropTarget called client target .autoHangup) {other : ClientId}
    (joined : before.Joined other) : after.Joined other := by
  cases step with
  | invite => exact joined
  | withdraw => exact joined
  | cancel => exact joined
  | answer isAccept => cases isOp.symm.trans isAccept
  | drop isDrop => cases isOp.symm.trans isDrop
  | depart isLeave => rcases isLeave with same | same | same <;> cases isOp.symm.trans same
  | report isReport => cases isOp.symm.trans isReport
  | evict isReport => cases isOp.symm.trans isReport

end Steps

/-! ## Removals in every reachable state -/

/-- What an operation may do to clients other than the one it runs for. -/
structure OnlyAuthorizedRemovals (s : CallManager) (request : Request) : Prop where
  participants : ∀ call active other, s.activeCalls.lookup call = some active →
    other ∈ active.participants.keys → request.op.actor ≠ other →
    ¬ (s.next request).Participant call other →
    RemovedBy request (s.execute request).2.evicted call ((s.next request).call call) active other
  notified : ∀ call target other, s.Notified call target other → request.op.actor ≠ other →
    (∀ target, ¬ (s.next request).Notified call target other) →
    SilencedBy request call (s.call call) ((s.next request).call call) target
  autoHangup : ∀ called client target,
    request.op = .dropTarget called client target .autoHangup →
    ∀ call other, s.Participant call other → (s.next request).Participant call other

/-- From every reachable state, an operation removes others only as it may. -/
theorem run_onlyAuthorizedRemovals (maxConfSize : ℕ) (requests : List Request)
    (fromCaller : ∀ request ∈ requests, request.op.FromCaller) (request : Request)
    (isFromCaller : request.op.FromCaller) :
    OnlyAuthorizedRemovals ((CallManager.new maxConfSize).run requests) request := by
  have coherent := run_coherent (coherent_new maxConfSize) fromCaller
  generalize (CallManager.new maxConfSize).run requests = s at coherent
  have follows := execute_follows coherent request isFromCaller
  constructor
  · intro call active other found joined different removed
    rcases follows.calls call with same | step
    · refine absurd ?_ removed
      exact (same ▸ ⟨active, found, joined⟩ : ((s.next request).call call).Joined other)
    · exact step.removedBy found joined different removed
  · intro call target other rung different silent
    simp only [notified_iff] at rung silent
    rcases follows.calls call with same | step
    · exact absurd (same ▸ rung) (silent target)
    · exact step.silencedBy rung different silent
  · intro called client target isOp call other joined
    rcases follows.calls call with same | step
    · exact (same ▸ joined : ((s.next request).call call).Joined other)
    · exact step.autoHangup isOp joined

theorem conferenceOfThree_onlyAuthorizedRemovals :
    OnlyAuthorizedRemovals ((CallManager.new 5).run conferenceOfThree)
      { op := .dropTarget ⟨1⟩ ⟨"LOWW"⟩ (.client ⟨"LOVV"⟩) .requested
        order := .increasing
        now := 0 } :=
  run_onlyAuthorizedRemovals 5 conferenceOfThree conferenceOfThree_fromCaller _ trivial

end Vacs
