import Vacs.Calls.Operations

/-!
# What one operation can do to one call

Seen from a single call, the call manager is a small state machine. Its state is
the pair of the call's ringing and active entries; the indexes do not occur in
it. `CallStep` lists everything an operation can do to that state, with the
operation that does it and the condition under which it may: a caller invites
one more target, a rung client withdraws, the caller cancels a target, a rung
client answers, the leader drops a participant, a client departs, a dead link is
reported, and a confirmed report evicts. A departure takes the whole call down
when the departing client leads it or when only two are left (`Departs`).

`CallState.WellFormed` is what holds of the entries of every call. Every step
keeps it.
-/

set_option autoImplicit false

namespace Vacs

open CallManager

/-- The client was notified for the target and has not answered yet. -/
def RingingCallEntry.Rings (entry : RingingCallEntry) (target : CallTarget) (client : ClientId) :
    Prop :=
  ∃ ringing, entry.targets.lookup target = some ringing ∧ client ∈ ringing.notifiedClients

/-- The two entries of one call. -/
structure CallState where
  ringing : Option RingingCallEntry
  active : Option ActiveCallEntry

/-- The entries the manager holds for a call. -/
def CallManager.call (s : CallManager) (call : CallId) : CallState where
  ringing := s.ringingCalls.lookup call
  active := s.activeCalls.lookup call

namespace CallState

/-- The client rings for the target in this call. -/
def Rings (state : CallState) (target : CallTarget) (client : ClientId) : Prop :=
  ∃ entry, state.ringing = some entry ∧ entry.Rings target client

/-- The client opened the pending invitations of this call. -/
def Calls (state : CallState) (client : ClientId) : Prop :=
  ∃ entry, state.ringing = some entry ∧ entry.callerId = client

/-- The client is a participant of this call. -/
def Joined (state : CallState) (client : ClientId) : Prop :=
  ∃ active, state.active = some active ∧ client ∈ active.participants.keys

/-- The client is busy with this call. -/
def Engages (state : CallState) (client : ClientId) : Prop :=
  state.Calls client ∨ state.Joined client

/-- The client leads the conference. -/
def Leads (state : CallState) (client : ClientId) : Prop :=
  ∃ active, state.active = some active ∧ active.conferenceLeader = some client

@[simp] theorem rings_none (active : Option ActiveCallEntry) (target : CallTarget)
    (client : ClientId) : ¬ Rings ⟨none, active⟩ target client := by
  simp [Rings]

@[simp] theorem rings_some (entry : RingingCallEntry) (active : Option ActiveCallEntry)
    (target : CallTarget) (client : ClientId) :
    Rings ⟨some entry, active⟩ target client ↔ entry.Rings target client := by
  simp [Rings]

@[simp] theorem calls_none (active : Option ActiveCallEntry) (client : ClientId) :
    ¬ Calls ⟨none, active⟩ client := by
  simp [Calls]

@[simp] theorem calls_some (entry : RingingCallEntry) (active : Option ActiveCallEntry)
    (client : ClientId) : Calls ⟨some entry, active⟩ client ↔ entry.callerId = client := by
  simp [Calls]

@[simp] theorem joined_none (ringing : Option RingingCallEntry) (client : ClientId) :
    ¬ Joined ⟨ringing, none⟩ client := by
  simp [Joined]

@[simp] theorem joined_some (ringing : Option RingingCallEntry) (active : ActiveCallEntry)
    (client : ClientId) :
    Joined ⟨ringing, some active⟩ client ↔ client ∈ active.participants.keys := by
  simp [Joined]

/-- What holds of the entries of every call. -/
structure WellFormed (call : CallId) (state : CallState) : Prop where
  ringingCallId : ∀ entry, state.ringing = some entry → entry.callId = call
  targetsNonempty : ∀ entry, state.ringing = some entry →
    ∃ target ringing, entry.targets.lookup target = some ringing
  sourceIsCaller : ∀ entry, state.ringing = some entry → ∀ target ringing,
    entry.targets.lookup target = some ringing → ringing.source.clientId = entry.callerId
  notifiedNotFailed : ∀ entry, state.ringing = some entry → ∀ target ringing,
    entry.targets.lookup target = some ringing → ∀ client ∈ ringing.notifiedClients,
      ringing.hasFailedClient client = false
  ringsOnce : ∀ first second client, state.Rings first client → state.Rings second client →
    first = second
  callerNotRung : ∀ target client, state.Calls client → ¬ state.Rings target client
  joinedNotRung : ∀ target client, state.Joined client → ¬ state.Rings target client
  twoParticipants : ∀ active, state.active = some active → 2 ≤ active.participants.keys.card
  leaderIff : ∀ active, state.active = some active →
    (active.conferenceLeader.isSome = true ↔ 3 ≤ active.participants.keys.card)
  leaderJoined : ∀ client, state.Leads client → state.Joined client
  callerJoined : ∀ client active, state.active = some active → state.Calls client →
    state.Joined client
  callerLeads : ∀ caller leader, state.Calls caller → state.Leads leader → caller = leader

/-- The caller of a ringing call has joined it if anybody has. -/
theorem WellFormed.caller_mem {call : CallId} {entry : RingingCallEntry}
    {active : Option ActiveCallEntry} {old : ActiveCallEntry}
    (wf : WellFormed call ⟨some entry, active⟩) (isOld : active = some old) :
    entry.callerId ∈ old.participants.keys := by
  obtain ⟨_, same, member⟩ := wf.callerJoined entry.callerId old isOld ⟨entry, rfl, rfl⟩
  cases isOld.symm.trans same
  exact member

/-- A conference has a leader. -/
theorem WellFormed.exists_leader {call : CallId} {state : CallState} {active : ActiveCallEntry}
    (wf : WellFormed call state) (found : state.active = some active)
    (conference : 3 ≤ active.participants.keys.card) :
    ∃ leader, active.conferenceLeader = some leader :=
  Option.isSome_iff_exists.mp ((wf.leaderIff active found).mpr conference)

/-- Only the leader of a conference invites more clients to it. -/
theorem WellFormed.not_calls {call : CallId} {state : CallState} {active : ActiveCallEntry}
    {client : ClientId} (wf : WellFormed call state) (found : state.active = some active)
    (notLeader : active.conferenceLeader ≠ some client)
    (conference : 3 ≤ active.participants.keys.card) : ¬ state.Calls client := by
  intro calls
  obtain ⟨leader, known⟩ := wf.exists_leader found conference
  have leads := wf.callerLeads client leader calls ⟨active, found, known⟩
  exact notLeader (leads ▸ known)

/-- A call nobody knows of. -/
theorem wellFormed_none (call : CallId) : WellFormed call ⟨none, none⟩ := by
  constructor <;> simp [Leads]

end CallState

/-- What may be left of a ringing entry after some of its clients or targets are
gone: the same batch, with some of its targets and of their notified clients. -/
structure Narrows (before after : RingingCallEntry) : Prop where
  callId : after.callId = before.callId
  callerId : after.callerId = before.callerId
  targetsNonempty : ∃ target ringing, after.targets.lookup target = some ringing
  targets : ∀ target ringing, after.targets.lookup target = some ringing →
    ∃ earlier, before.targets.lookup target = some earlier ∧ ringing.source = earlier.source ∧
      ringing.notifiedClients ⊆ earlier.notifiedClients ∧
      ∀ client ∈ ringing.notifiedClients, ringing.hasFailedClient client = false
  answerable : ∀ target ringing earlier, after.targets.lookup target = some ringing →
    before.targets.lookup target = some earlier → earlier.notifiedClients.Nonempty →
      ringing.notifiedClients.Nonempty

/-- Whether a caller may invite the notified clients for a target: it owns the
pending batch if there is one, it is a participant and no other client leads if
the call is active, and nobody is rung or present twice. -/
structure MayInvite (state : CallState) (caller : ClientId) (target : CallTarget)
    (notified : Finset ClientId) : Prop where
  batch : ∀ entry, state.ringing = some entry →
    entry.callerId = caller ∧ entry.targets.lookup target = none
  fresh : ∀ other client, state.Rings other client → client ∉ notified
  member : ∀ active, state.active = some active → caller ∈ active.participants.keys ∧
    ∀ leader, active.conferenceLeader = some leader → leader = caller
  outside : ∀ client ∈ notified, ¬ state.Joined client

/-- How a client leaves a call it is busy with. -/
inductive Departs (client : ClientId) : CallState → CallState → Prop where
  /-- The caller of a call nobody has answered hangs up. -/
  | hangUp {entry : RingingCallEntry} (isCaller : entry.callerId = client) :
      Departs client ⟨some entry, none⟩ ⟨none, none⟩
  /-- The leader, or a party of a call of two, ends the call for everybody. -/
  | tearDown {ringing : Option RingingCallEntry} {active : ActiveCallEntry}
      (joined : client ∈ active.participants.keys)
      (decides : active.conferenceLeader = some client ∨ active.participants.keys.card = 2) :
      Departs client ⟨ringing, some active⟩ ⟨none, none⟩
  /-- A participant that is not the leader leaves a conference, which goes on. -/
  | leave {ringing : Option RingingCallEntry} {active : ActiveCallEntry}
      (joined : client ∈ active.participants.keys)
      (notLeader : active.conferenceLeader ≠ some client)
      (conference : 3 ≤ active.participants.keys.card) :
      Departs client ⟨ringing, some active⟩ ⟨ringing, some (leaveActive active client)⟩

/-- Everything an operation can do to one call. -/
inductive CallStep (request : Request) (evicted : Option ClientId) (call : CallId) :
    CallState → CallState → Prop where
  /-- The caller invites one more target. It opens the call, adds to its own
  batch, or is a participant that may invite. -/
  | invite {caller : ClientId} {source : CallSource} {target : CallTarget}
      {notified : Finset ClientId} {ringing : Option RingingCallEntry}
      {active : Option ActiveCallEntry}
      (isOp : request.op = .attemptCall call caller source target notified)
      (sourceIsCaller : source.clientId = caller) (notSelf : caller ∉ notified)
      (allowed : MayInvite ⟨ringing, active⟩ caller target notified) :
      CallStep request evicted call ⟨ringing, active⟩
        ⟨some (invitedEntry ringing call caller source target notified), active⟩
  /-- A rung client rejects, fails or disconnects. -/
  | withdraw {client : ClientId} {entry : RingingCallEntry} {ringing : Option RingingCallEntry}
      {active : Option ActiveCallEntry} (isOp : request.op.Withdraws call client)
      (narrows : ∀ after, ringing = some after → Narrows entry after)
      (rings : ∀ target other, CallState.Rings ⟨ringing, active⟩ target other ↔
        entry.Rings target other ∧ other ≠ client) :
      CallStep request evicted call ⟨some entry, active⟩ ⟨ringing, active⟩
  /-- The caller cancels one of its targets. -/
  | cancel {client : ClientId} {target : CallTarget} {reason : CallDropReason}
      {entry : RingingCallEntry} {ringing : Option RingingCallEntry}
      {active : Option ActiveCallEntry} (isOp : request.op = .dropTarget call client target reason)
      (isCaller : entry.callerId = client)
      (narrows : ∀ after, ringing = some after → Narrows entry after)
      (rings : ∀ other rung, CallState.Rings ⟨ringing, active⟩ other rung ↔
        entry.Rings other rung ∧ other ≠ target) :
      CallStep request evicted call ⟨some entry, active⟩ ⟨ringing, active⟩
  /-- A rung client answers for its target, which stops ringing everywhere. -/
  | answer {client : ClientId} {accepted : RingingTarget} {entry : RingingCallEntry}
      {ringing : Option RingingCallEntry} {active : Option ActiveCallEntry}
      (isOp : request.op = .acceptCall call client) (rung : entry.Rings accepted.target client)
      (callerId : accepted.callerId = entry.callerId)
      (sourceIsCaller : accepted.source.clientId = entry.callerId)
      (narrows : ∀ after, ringing = some after → Narrows entry after)
      (rings : ∀ other rung, CallState.Rings ⟨ringing, active⟩ other rung ↔
        entry.Rings other rung ∧ other ≠ accepted.target) :
      CallStep request evicted call ⟨some entry, active⟩
        ⟨ringing, some (joinActive active call client accepted)⟩
  /-- The leader drops another participant of its conference. -/
  | drop {client dropped : ClientId} {target : CallTarget}
      {ringing : Option RingingCallEntry} {active : ActiveCallEntry}
      (isOp : request.op = .dropTarget call client target .requested)
      (leads : active.conferenceLeader = some client) (other : dropped ≠ client)
      (named : active.participants.lookup dropped = some target)
      (conference : 3 ≤ active.participants.keys.card) :
      CallStep request evicted call ⟨ringing, some active⟩
        ⟨ringing, some (leaveActive active dropped)⟩
  /-- A client leaves by its own doing. -/
  | depart {client : ClientId} {before after : CallState} (isOp : request.op.Leaves call client)
      (departs : Departs client before after) : CallStep request evicted call before after
  /-- A dead link is reported and not yet confirmed. -/
  | report {reporter peer : ClientId} {ringing : Option RingingCallEntry}
      {active : ActiveCallEntry} (isOp : request.op = .reportLinkFailure call reporter peer)
      (nobody : evicted = none) (distinct : reporter ≠ peer)
      (reporterJoined : reporter ∈ active.participants.keys)
      (peerJoined : peer ∈ active.participants.keys) :
      CallStep request evicted call ⟨ringing, some active⟩
        ⟨ringing, some (active.recordLinkReportAt reporter peer request.now).1⟩
  /-- A confirmed dead link makes a participant leave. -/
  | evict {reporter peer client : ClientId} {ringing : Option RingingCallEntry}
      {active : ActiveCallEntry} {after : CallState}
      (isOp : request.op = .reportLinkFailure call reporter peer)
      (isEvicted : evicted = some client) (joined : client ∈ active.participants.keys)
      (departs : Departs client
        ⟨ringing, some (active.recordLinkReportAt reporter peer request.now).1⟩ after) :
      CallStep request evicted call ⟨ringing, some active⟩ after

/-! ## The entries after a step -/

theorem invitedEntry_callerId {ringing : Option RingingCallEntry} {caller : ClientId}
    (batch : ∀ entry, ringing = some entry → entry.callerId = caller) (call : CallId)
    (source : CallSource) (target : CallTarget) (notified : Finset ClientId) :
    (invitedEntry ringing call caller source target notified).callerId = caller := by
  cases ringing with
  | none => rfl
  | some entry => exact batch entry rfl

theorem invitedEntry_lookup (ringing : Option RingingCallEntry) (call : CallId)
    (caller : ClientId) (source : CallSource) (target other : CallTarget)
    (notified : Finset ClientId) :
    (invitedEntry ringing call caller source target notified).targets.lookup other =
      if other = target then some { source := source, notifiedClients := notified }
      else ringing.bind fun entry => entry.targets.lookup other := by
  cases ringing with
  | none => simp [invitedEntry, RingingCallEntry.new, Finmap.lookup_insert_eq]
  | some entry => simp [invitedEntry, RingingCallEntry.addTarget, Finmap.lookup_insert_eq]

/-- An invitation rings the notified clients for its target and nobody else. -/
theorem invitedEntry_rings {ringing : Option RingingCallEntry} {target : CallTarget}
    (free : ∀ entry, ringing = some entry → entry.targets.lookup target = none) (call : CallId)
    (caller : ClientId) (source : CallSource) (notified : Finset ClientId)
    (active : Option ActiveCallEntry) (other : CallTarget) (client : ClientId) :
    (invitedEntry ringing call caller source target notified).Rings other client ↔
      (other = target ∧ client ∈ notified) ∨ CallState.Rings ⟨ringing, active⟩ other client := by
  simp only [RingingCallEntry.Rings, CallState.Rings, invitedEntry_lookup]
  by_cases same : other = target
  · subst same
    cases ringing with
    | none => simp
    | some entry => simp [free entry rfl]
  · cases ringing <;> simp [same]

@[simp] theorem leaveActive_keys (active : ActiveCallEntry) (client : ClientId) :
    (leaveActive active client).participants.keys = active.participants.keys.erase client := by
  simp [leaveActive, ActiveCallEntry.forgetParticipant, Finmap.keys_erase]

theorem leaveActive_leader (active : ActiveCallEntry) (client : ClientId) :
    (leaveActive active client).conferenceLeader =
      if (active.participants.keys.erase client).card ≤ 2 then none
      else active.conferenceLeader := by
  simp [leaveActive, ActiveCallEntry.forgetParticipant, Finmap.keys_erase]

theorem joinActive_keys (active : Option ActiveCallEntry) (call : CallId) (client : ClientId)
    (accepted : RingingTarget) :
    (joinActive active call client accepted).participants.keys =
      match active with
      | some entry => insert client entry.participants.keys
      | none => {accepted.callerId, client} := by
  cases active with
  | none =>
      simp [joinActive, ActiveCallEntry.new, ActiveCallEntry.recordJoin, Finmap.keys_insert_eq]
  | some entry => simp [joinActive, ActiveCallEntry.recordJoin, Finmap.keys_insert_eq]

theorem joinActive_leader (active : Option ActiveCallEntry) (call : CallId) (client : ClientId)
    (accepted : RingingTarget) :
    (joinActive active call client accepted).conferenceLeader =
      match active with
      | some entry => some (entry.conferenceLeader.getD accepted.source.clientId)
      | none => none := by
  cases active with
  | none => simp [joinActive, ActiveCallEntry.new, ActiveCallEntry.recordJoin]
  | some entry =>
      cases leader : entry.conferenceLeader <;>
        simp [joinActive, ActiveCallEntry.recordJoin, leader]

/-- Who leads after a join led before, or is the source of the answered invitation. -/
theorem joinActive_leads {active : Option ActiveCallEntry} {call : CallId} {client : ClientId}
    {accepted : RingingTarget} {leading : ClientId}
    (leads : (joinActive active call client accepted).conferenceLeader = some leading) :
    ∃ old, active = some old ∧
      (old.conferenceLeader = some leading ∨ accepted.source.clientId = leading) := by
  rw [joinActive_leader] at leads
  cases active with
  | none => cases leads
  | some old =>
      refine ⟨old, rfl, ?_⟩
      cases known : old.conferenceLeader with
      | none =>
          simp only [known, Option.getD_none, Option.some.injEq] at leads
          exact .inr leads
      | some earlier =>
          simp only [known, Option.getD_some] at leads
          exact .inl leads

@[simp] theorem recordLinkReportAt_participants (active : ActiveCallEntry)
    (reporter peer : ClientId) (now : Instant) :
    (active.recordLinkReportAt reporter peer now).1.participants = active.participants := rfl

/-! ## Every step keeps a call well formed -/

namespace CallState.WellFormed

variable {call : CallId}

theorem invite {ringing : Option RingingCallEntry} {active : Option ActiveCallEntry}
    {caller : ClientId} {source : CallSource} {target : CallTarget} {notified : Finset ClientId}
    (wf : WellFormed call ⟨ringing, active⟩) (sourceIsCaller : source.clientId = caller)
    (notSelf : caller ∉ notified)
    (allowed : MayInvite ⟨ringing, active⟩ caller target notified) :
    WellFormed call
      ⟨some (invitedEntry ringing call caller source target notified), active⟩ := by
  obtain ⟨batch, fresh, member, outside⟩ := allowed
  have callerId := invitedEntry_callerId (fun entry found => (batch entry found).1) call source
    target notified
  have rings := invitedEntry_rings (fun entry found => (batch entry found).2) call caller source
    notified active
  have callerNotRung : ∀ other, ¬ Rings ⟨ringing, active⟩ other caller := by
    rintro other ⟨entry, found, rung⟩
    exact wf.callerNotRung other caller ⟨entry, found, (batch entry found).1⟩
      ⟨entry, found, rung⟩
  constructor
  · rintro entry ⟨⟩
    cases ringing with
    | none => rfl
    | some earlier => exact wf.ringingCallId earlier rfl
  · rintro entry ⟨⟩
    exact ⟨target, _, by rw [invitedEntry_lookup, if_pos rfl]⟩
  · rintro entry ⟨⟩ other ringingTarget found
    rw [callerId]
    rw [invitedEntry_lookup] at found
    split at found
    · cases found
      exact sourceIsCaller
    · obtain ⟨earlier, present, found⟩ := Option.bind_eq_some_iff.mp found
      rw [← (batch earlier present).1]
      exact wf.sourceIsCaller earlier present other ringingTarget found
  · rintro entry ⟨⟩ other ringingTarget found
    rw [invitedEntry_lookup] at found
    split at found
    · cases found
      simp [RingingTargetEntry.hasFailedClient]
    · obtain ⟨earlier, present, found⟩ := Option.bind_eq_some_iff.mp found
      exact wf.notifiedNotFailed earlier present other ringingTarget found
  · intro first second client firstRings secondRings
    rw [rings_some, rings] at firstRings secondRings
    rcases firstRings with ⟨rfl, firstNew⟩ | firstOld <;>
      rcases secondRings with ⟨rfl, secondNew⟩ | secondOld
    · rfl
    · exact absurd firstNew (fresh _ _ secondOld)
    · exact absurd secondNew (fresh _ _ firstOld)
    · exact wf.ringsOnce _ _ _ firstOld secondOld
  · intro other client calls rung
    rw [calls_some, callerId] at calls
    subst calls
    rw [rings_some, rings] at rung
    rcases rung with ⟨_, new⟩ | old
    · exact notSelf new
    · exact callerNotRung other old
  · intro other client joined rung
    rw [rings_some, rings] at rung
    rcases rung with ⟨_, new⟩ | old
    · exact outside client new joined
    · exact wf.joinedNotRung other client joined old
  · exact wf.twoParticipants
  · exact wf.leaderIff
  · exact wf.leaderJoined
  · intro client entry found calls
    rw [calls_some, callerId] at calls
    exact ⟨entry, found, calls ▸ (member entry found).1⟩
  · intro client leader calls leads
    rw [calls_some, callerId] at calls
    obtain ⟨entry, found, isLeader⟩ := leads
    exact calls.symm.trans ((member entry found).2 leader isLeader).symm

/-- Fewer targets and fewer notified clients keep a call well formed. -/
theorem narrow {entry : RingingCallEntry} {ringing : Option RingingCallEntry}
    {active : Option ActiveCallEntry} (wf : WellFormed call ⟨some entry, active⟩)
    (narrows : ∀ after, ringing = some after → Narrows entry after) :
    WellFormed call ⟨ringing, active⟩ := by
  have rings : ∀ target client, Rings ⟨ringing, active⟩ target client →
      Rings ⟨some entry, active⟩ target client := by
    rintro target client ⟨after, found, ringingTarget, present, rung⟩
    obtain ⟨earlier, was, _, subset, _⟩ := (narrows after found).targets target _ present
    exact ⟨entry, rfl, earlier, was, subset rung⟩
  have calls : ∀ client, Calls ⟨ringing, active⟩ client → Calls ⟨some entry, active⟩ client := by
    rintro client ⟨after, found, isCaller⟩
    exact ⟨entry, rfl, (narrows after found).callerId.symm.trans isCaller⟩
  constructor
  · intro after found
    exact (narrows after found).callId.trans (wf.ringingCallId entry rfl)
  · exact fun after found => (narrows after found).targetsNonempty
  · intro after found target ringingTarget present
    obtain ⟨earlier, was, source, _⟩ := (narrows after found).targets target _ present
    rw [source, (narrows after found).callerId]
    exact wf.sourceIsCaller entry rfl target earlier was
  · intro after found target ringingTarget present
    obtain ⟨_, _, _, _, notFailed⟩ := (narrows after found).targets target _ present
    exact notFailed
  · exact fun first second client firstRings secondRings =>
      wf.ringsOnce first second client (rings _ _ firstRings) (rings _ _ secondRings)
  · exact fun target client isCaller rung =>
      wf.callerNotRung target client (calls client isCaller) (rings target client rung)
  · exact fun target client joined rung =>
      wf.joinedNotRung target client joined (rings target client rung)
  · exact wf.twoParticipants
  · exact wf.leaderIff
  · exact wf.leaderJoined
  · exact fun client found present isCaller =>
      wf.callerJoined client found present (calls client isCaller)
  · exact fun caller leader isCaller leads => wf.callerLeads caller leader (calls _ isCaller) leads

/-- A client that is not rung joins on the invitation of the batch's caller. -/
theorem join {entry : RingingCallEntry} {ringing : Option RingingCallEntry}
    {active : Option ActiveCallEntry} {client : ClientId} {accepted : RingingTarget}
    (wf : WellFormed call ⟨ringing, active⟩) (before : WellFormed call ⟨some entry, active⟩)
    (narrows : ∀ after, ringing = some after → Narrows entry after)
    (rung : entry.Rings accepted.target client)
    (silent : ∀ target, ¬ Rings ⟨ringing, active⟩ target client)
    (callerId : accepted.callerId = entry.callerId)
    (sourceIsCaller : accepted.source.clientId = entry.callerId) :
    WellFormed call ⟨ringing, some (joinActive active call client accepted)⟩ := by
  have notCaller : entry.callerId ≠ client := by
    rintro rfl
    exact before.callerNotRung accepted.target _ ⟨entry, rfl, rfl⟩ ⟨entry, rfl, rung⟩
  have outside : ∀ old, active = some old → client ∉ old.participants.keys := by
    intro old found joined
    exact before.joinedNotRung accepted.target client ⟨old, found, joined⟩ ⟨entry, rfl, rung⟩
  have callerIs : ∀ caller, Calls ⟨ringing, active⟩ caller → caller = entry.callerId := by
    rintro caller ⟨after, found, isCaller⟩
    exact isCaller.symm.trans (narrows after found).callerId
  have callerSilent : ∀ target, ¬ Rings ⟨ringing, active⟩ target entry.callerId := by
    rintro target ⟨after, found, rings⟩
    exact wf.callerNotRung target _ ⟨after, found, (narrows after found).callerId⟩
      ⟨after, found, rings⟩
  have keys := joinActive_keys active call client accepted
  have leader := joinActive_leader active call client accepted
  refine ⟨wf.ringingCallId, wf.targetsNonempty, wf.sourceIsCaller, wf.notifiedNotFailed,
    wf.ringsOnce, wf.callerNotRung, ?_, ?_, ?_, ?_, ?_, ?_⟩
  · intro target member joined rings
    rw [joined_some, keys] at joined
    cases active with
    | none =>
        simp only [Finset.mem_insert, Finset.mem_singleton] at joined
        rcases joined with rfl | rfl
        · exact callerSilent target (callerId ▸ rings)
        · exact silent target rings
    | some old =>
        rcases Finset.mem_insert.mp joined with rfl | joined
        · exact silent target rings
        · exact wf.joinedNotRung target member ⟨old, rfl, joined⟩ rings
  · rintro joined ⟨⟩
    rw [keys]
    cases active with
    | none =>
        rw [callerId]
        exact (Finset.card_pair notCaller).ge
    | some old =>
        rw [Finset.card_insert_of_notMem (outside old rfl)]
        exact (wf.twoParticipants old rfl).trans (Nat.le_succ _)
  · rintro joined ⟨⟩
    rw [keys, leader]
    cases active with
    | none =>
        rw [callerId]
        simp [Finset.card_pair notCaller]
    | some old =>
        rw [Finset.card_insert_of_notMem (outside old rfl)]
        have := wf.twoParticipants old rfl
        simp only [Option.isSome_some, true_iff]
        omega
  · rintro leading ⟨joined, ⟨⟩, leads⟩
    rw [joined_some, keys]
    obtain ⟨old, rfl, earlier | rfl⟩ := joinActive_leads leads
    · obtain ⟨_, ⟨⟩, leaderJoined⟩ := wf.leaderJoined leading ⟨old, rfl, earlier⟩
      exact Finset.mem_insert_of_mem leaderJoined
    · rw [sourceIsCaller]
      exact Finset.mem_insert_of_mem (before.caller_mem rfl)
  · rintro caller joined ⟨⟩ isCaller
    rw [joined_some, keys, callerIs caller isCaller]
    cases active with
    | none => simp [callerId]
    | some old => exact Finset.mem_insert_of_mem (before.caller_mem rfl)
  · rintro caller leading isCaller ⟨joined, ⟨⟩, leads⟩
    rw [callerIs caller isCaller]
    obtain ⟨old, rfl, earlier | rfl⟩ := joinActive_leads leads
    · exact before.callerLeads entry.callerId leading ⟨entry, rfl, rfl⟩ ⟨old, rfl, earlier⟩
    · exact sourceIsCaller.symm

/-- A participant that does not lead leaves a conference. -/
theorem leave {ringing : Option RingingCallEntry} {active : ActiveCallEntry} {client : ClientId}
    (wf : WellFormed call ⟨ringing, some active⟩) (joined : client ∈ active.participants.keys)
    (notLeader : active.conferenceLeader ≠ some client)
    (conference : 3 ≤ active.participants.keys.card) :
    WellFormed call ⟨ringing, some (leaveActive active client)⟩ := by
  have size := Finset.card_erase_of_mem joined
  obtain ⟨leader, known⟩ := wf.exists_leader rfl conference
  refine ⟨wf.ringingCallId, wf.targetsNonempty, wf.sourceIsCaller, wf.notifiedNotFailed,
    wf.ringsOnce, wf.callerNotRung, ?_, ?_, ?_, ?_, ?_, ?_⟩
  · intro target member stays rings
    rw [joined_some, leaveActive_keys] at stays
    exact wf.joinedNotRung target member ⟨active, rfl, Finset.mem_of_mem_erase stays⟩ rings
  · rintro _ ⟨⟩
    rw [leaveActive_keys]
    omega
  · rintro _ ⟨⟩
    rw [leaveActive_keys, leaveActive_leader]
    split
    · simp only [Option.isSome_none, Bool.false_eq_true, false_iff]
      omega
    · simp only [known, Option.isSome_some, true_iff]
      omega
  · rintro leading ⟨_, ⟨⟩, leads⟩
    rw [leaveActive_leader] at leads
    split at leads
    · cases leads
    · rw [joined_some, leaveActive_keys]
      obtain ⟨_, ⟨⟩, was⟩ := wf.leaderJoined leading ⟨active, rfl, leads⟩
      exact Finset.mem_erase_of_ne_of_mem (fun same => notLeader (same ▸ leads)) was
  · rintro caller _ ⟨⟩ isCaller
    rw [joined_some, leaveActive_keys]
    obtain ⟨_, ⟨⟩, was⟩ := wf.callerJoined caller active rfl isCaller
    have leads := wf.callerLeads caller leader isCaller ⟨active, rfl, known⟩
    exact Finset.mem_erase_of_ne_of_mem (fun same => notLeader (same ▸ leads ▸ known)) was
  · rintro caller leading isCaller ⟨_, ⟨⟩, leads⟩
    rw [leaveActive_leader] at leads
    split at leads
    · cases leads
    · exact wf.callerLeads caller leading isCaller ⟨active, rfl, leads⟩

/-- Reporting a dead link changes neither the members nor the leader. -/
theorem report {ringing : Option RingingCallEntry} {active : ActiveCallEntry}
    (wf : WellFormed call ⟨ringing, some active⟩) (reporter peer : ClientId) (now : Instant) :
    WellFormed call ⟨ringing, some (active.recordLinkReportAt reporter peer now).1⟩ := by
  refine ⟨wf.ringingCallId, wf.targetsNonempty, wf.sourceIsCaller, wf.notifiedNotFailed,
    wf.ringsOnce, wf.callerNotRung, ?_, ?_, ?_, ?_, ?_, ?_⟩
  · rintro target client ⟨_, ⟨⟩, joined⟩
    exact wf.joinedNotRung target client ⟨active, rfl, joined⟩
  · rintro _ ⟨⟩
    exact wf.twoParticipants active rfl
  · rintro _ ⟨⟩
    exact wf.leaderIff active rfl
  · rintro client ⟨_, ⟨⟩, leads⟩
    obtain ⟨_, ⟨⟩, joined⟩ := wf.leaderJoined client ⟨active, rfl, leads⟩
    exact ⟨_, rfl, joined⟩
  · rintro client _ ⟨⟩ calls
    obtain ⟨_, ⟨⟩, joined⟩ := wf.callerJoined client active rfl calls
    exact ⟨_, rfl, joined⟩
  · rintro caller leader calls ⟨_, ⟨⟩, leads⟩
    exact wf.callerLeads caller leader calls ⟨active, rfl, leads⟩

end CallState.WellFormed

theorem Departs.wellFormed {client : ClientId} {call : CallId} {before after : CallState}
    (wf : before.WellFormed call) (departs : Departs client before after) :
    after.WellFormed call := by
  cases departs with
  | hangUp => exact CallState.wellFormed_none call
  | tearDown => exact CallState.wellFormed_none call
  | leave joined notLeader conference => exact wf.leave joined notLeader conference

/-- Every step keeps a call well formed. -/
theorem CallStep.wellFormed {request : Request} {evicted : Option ClientId} {call : CallId}
    {before after : CallState} (wf : before.WellFormed call)
    (step : CallStep request evicted call before after) : after.WellFormed call := by
  cases step with
  | invite _ sourceIsCaller notSelf allowed => exact wf.invite sourceIsCaller notSelf allowed
  | withdraw _ narrows _ => exact wf.narrow narrows
  | cancel _ _ narrows _ => exact wf.narrow narrows
  | answer _ rung callerId sourceIsCaller narrows rings =>
      refine (wf.narrow narrows).join wf narrows rung ?_ callerId sourceIsCaller
      intro target stillRings
      obtain ⟨was, other⟩ := (rings target _).mp stillRings
      exact other (wf.ringsOnce _ _ _ ⟨_, rfl, was⟩ ⟨_, rfl, rung⟩)
  | @drop client dropped target ringing active _ leads other named conference =>
      refine wf.leave ((Finmap.mem_keys_iff_lookup _ _).mpr ⟨_, named⟩) ?_ conference
      rw [leads]
      exact fun same => other (Option.some.inj same).symm
  | depart _ departs => exact departs.wellFormed wf
  | report => exact wf.report _ _ _
  | evict _ _ _ departs => exact departs.wellFormed (wf.report _ _ _)

end Vacs
