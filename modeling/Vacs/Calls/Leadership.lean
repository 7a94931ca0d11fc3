import Vacs.Calls.Coherence

/-!
# Conference leadership

A call of two has no leader, a conference of three or more has one, and it is a
participant. Pending invitations of an active call belong to a participant, and
to the leader if there is one. Leadership never passes to somebody else: it ends
when the conference shrinks to two, and when the leader leaves the call goes
with it.
-/

set_option autoImplicit false

namespace Vacs

open CallManager

/-- A leader after a departure was the leader before. -/
theorem Departs.leader {client leader : ClientId} {before after : CallState}
    (departs : Departs client before after) (leads : after.Leads leader) :
    before.Leads leader := by
  cases departs with
  | hangUp => simp [CallState.Leads] at leads
  | tearDown => simp [CallState.Leads] at leads
  | @leave ringing active _ _ _ =>
      obtain ⟨_, ⟨⟩, known⟩ := leads
      rw [leaveActive_leader] at known
      split at known
      · cases known
      · exact ⟨active, rfl, known⟩

/-- Whoever leads after a step led before it, if anybody did. -/
theorem CallStep.leader {request : Request} {evicted : Option ClientId} {call : CallId}
    {before after : CallState} (step : CallStep request evicted call before after)
    {earlier leader : ClientId} (led : before.Leads earlier) (leads : after.Leads leader) :
    leader = earlier := by
  have unique : ∀ {state : CallState} {first second : ClientId}, state.Leads first →
      state.Leads second → first = second := by
    rintro state first second ⟨active, found, isFirst⟩ ⟨_, same, isSecond⟩
    cases found.symm.trans same
    exact Option.some.inj (isFirst.symm.trans isSecond)
  cases step with
  | invite => exact unique leads led
  | withdraw => exact unique leads led
  | cancel => exact unique leads led
  | @answer client accepted entry ringing active =>
      obtain ⟨old, rfl, wasLeader⟩ := led
      obtain ⟨_, ⟨⟩, known⟩ := leads
      rw [joinActive_leader] at known
      simp only [wasLeader, Option.getD_some, Option.some.injEq] at known
      exact known.symm
  | @drop client dropped target ringing active _ _ _ _ _ =>
      obtain ⟨_, ⟨⟩, known⟩ := leads
      rw [leaveActive_leader] at known
      split at known
      · cases known
      · have leads : CallState.Leads ⟨ringing, some active⟩ leader := ⟨active, rfl, known⟩
        exact unique leads led
  | depart _ departs => exact unique (departs.leader leads) led
  | report =>
      obtain ⟨_, ⟨⟩, known⟩ := leads
      exact (unique led ⟨_, rfl, known⟩).symm
  | evict _ _ _ departs =>
      obtain ⟨_, ⟨⟩, known⟩ := departs.leader leads
      exact (unique led ⟨_, rfl, known⟩).symm

/-- A leader that leaves takes the call with it. -/
theorem Departs.leader_leaves {client leader : ClientId} {before after : CallState}
    (departs : Departs client before after) (leads : before.Leads leader)
    (joined : before.Joined leader) (left : ¬ after.Joined leader) : after = ⟨none, none⟩ := by
  cases departs with
  | hangUp => rfl
  | tearDown => rfl
  | @leave ringing active _ notLeader _ =>
      obtain ⟨_, ⟨⟩, known⟩ := leads
      obtain ⟨_, ⟨⟩, member⟩ := joined
      refine absurd ?_ left
      rw [CallState.joined_some, leaveActive_keys]
      exact Finset.mem_erase_of_ne_of_mem (fun same => notLeader (same ▸ known)) member

theorem CallStep.leader_leaves {request : Request} {evicted : Option ClientId} {call : CallId}
    {before after : CallState} (step : CallStep request evicted call before after)
    (wf : before.WellFormed call) {leader : ClientId} (leads : before.Leads leader)
    (left : ¬ after.Joined leader) : after = ⟨none, none⟩ := by
  have joined := wf.leaderJoined leader leads
  cases step with
  | invite => exact absurd joined left
  | withdraw => exact absurd joined left
  | cancel => exact absurd joined left
  | @answer client accepted entry ringing active =>
      obtain ⟨old, rfl, member⟩ := joined
      refine absurd ?_ left
      rw [CallState.joined_some, joinActive_keys]
      exact Finset.mem_insert_of_mem member
  | @drop client dropped target ringing active _ leading other _ _ =>
      obtain ⟨_, ⟨⟩, known⟩ := leads
      obtain ⟨_, ⟨⟩, member⟩ := joined
      cases leading.symm.trans known
      refine absurd ?_ left
      rw [CallState.joined_some, leaveActive_keys]
      exact Finset.mem_erase_of_ne_of_mem other.symm member
  | depart _ departs => exact departs.leader_leaves leads joined left
  | report =>
      obtain ⟨_, ⟨⟩, member⟩ := joined
      exact absurd ⟨_, rfl, member⟩ left
  | evict _ _ _ departs =>
      obtain ⟨_, ⟨⟩, known⟩ := leads
      obtain ⟨_, ⟨⟩, member⟩ := joined
      exact departs.leader_leaves ⟨_, rfl, known⟩ ⟨_, rfl, member⟩ left

/-! ## The law -/

/-- Who leads the calls of a state. -/
structure LeadershipLaw (s : CallManager) : Prop where
  /-- There is a leader from three participants on, and it is one of them. -/
  leader : ∀ call active, s.activeCalls.lookup call = some active →
    (active.conferenceLeader.isSome = true ↔ 3 ≤ active.participants.keys.card) ∧
      ∀ leader, active.conferenceLeader = some leader → leader ∈ active.participants.keys
  /-- Pending invitations of an active call were made by one participant, the
  leader if there is one. -/
  batch : ∀ call entry active, s.ringingCalls.lookup call = some entry →
    s.activeCalls.lookup call = some active →
    entry.callerId ∈ active.participants.keys ∧
      (∀ leader, active.conferenceLeader = some leader → entry.callerId = leader) ∧
      ∀ target ringing, entry.targets.lookup target = some ringing →
        ringing.source.clientId = entry.callerId

/-- What one step may do to the leaders of the calls. -/
structure LeadershipStep (s s' : CallManager) : Prop where
  /-- Leadership never transfers. -/
  kept : ∀ call active active' leader leader', s.activeCalls.lookup call = some active →
    s'.activeCalls.lookup call = some active' → active.conferenceLeader = some leader →
    active'.conferenceLeader = some leader' → leader' = leader
  /-- A leader that leaves takes the call with it. -/
  leaves : ∀ call active leader, s.activeCalls.lookup call = some active →
    active.conferenceLeader = some leader → ¬ s'.Participant call leader →
    s'.ringingCalls.lookup call = none ∧ s'.activeCalls.lookup call = none

theorem Coherent.leadershipLaw {s : CallManager} (coherent : Coherent s) : LeadershipLaw s where
  leader call active found := by
    have wf := coherent.wellFormed call
    refine ⟨wf.leaderIff active found, fun leader known => ?_⟩
    obtain ⟨_, same, member⟩ := wf.leaderJoined leader ⟨active, found, known⟩
    cases found.symm.trans same
    exact member
  batch call entry active ringing found := by
    have wf := coherent.wellFormed call
    refine ⟨?_, fun leader known => ?_, wf.sourceIsCaller entry ringing⟩
    · obtain ⟨_, same, member⟩ := wf.callerJoined entry.callerId active found ⟨entry, ringing, rfl⟩
      cases found.symm.trans same
      exact member
    · exact wf.callerLeads entry.callerId leader ⟨entry, ringing, rfl⟩ ⟨active, found, known⟩

theorem Follows.leadershipStep {request : Request} {evicted : Option ClientId}
    {s s' : CallManager} (coherent : Coherent s) (follows : Follows request evicted s s') :
    LeadershipStep s s' where
  kept call active active' leader leader' found found' known known' := by
    rcases follows.calls call with same | step
    · have kept : s'.activeCalls.lookup call = s.activeCalls.lookup call :=
        congrArg CallState.active same
      cases (found'.symm.trans kept).trans found
      exact Option.some.inj (known'.symm.trans known)
    · exact step.leader ⟨active, found, known⟩ ⟨active', found', known'⟩
  leaves call active leader found known left := by
    have wf := coherent.wellFormed call
    have joined := wf.leaderJoined leader ⟨active, found, known⟩
    rcases follows.calls call with same | step
    · exact absurd (same ▸ joined : (s'.call call).Joined leader) left
    · have gone := step.leader_leaves wf ⟨active, found, known⟩ left
      exact ⟨congrArg CallState.ringing gone, congrArg CallState.active gone⟩

/-- Leadership in every reachable state, and in every step from one. -/
theorem run_leadership (maxConfSize : ℕ) (requests : List Request)
    (fromCaller : ∀ request ∈ requests, request.op.FromCaller) :
    LeadershipLaw ((CallManager.new maxConfSize).run requests) ∧
      ∀ request : Request, request.op.FromCaller →
        LeadershipStep ((CallManager.new maxConfSize).run requests)
          (((CallManager.new maxConfSize).run requests).next request) := by
  have coherent := run_coherent (coherent_new maxConfSize) fromCaller
  exact ⟨coherent.leadershipLaw, fun request isFromCaller =>
    (execute_follows coherent request isFromCaller).leadershipStep coherent⟩

theorem conferenceOfThree_leadership :
    LeadershipLaw ((CallManager.new 5).run conferenceOfThree) ∧
      ∀ request : Request, request.op.FromCaller →
        LeadershipStep ((CallManager.new 5).run conferenceOfThree)
          (((CallManager.new 5).run conferenceOfThree).next request) :=
  run_leadership 5 conferenceOfThree conferenceOfThree_fromCaller

end Vacs
