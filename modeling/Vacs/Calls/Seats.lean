import Vacs.Calls.TargetNames
import Vacs.Foundations.Seating

/-!
# What an invite may still spend

An invite is granted a number of seats once and then spends them target by
target, while other clients invite, answer, leave and disconnect. What a client
whose invite is in progress may still spend depends on who is in charge of the
call (`Affords`): a client that is in the call and may invite has its demand
covered; a client in a call that somebody else leads or rings for could at best
be left alone with that one; and a client that is not in the call could at best
open it afresh.

Each of these bounds follows from the one that held before the call changed
hands. A call changes in three ways: clients and targets leave it (`Shrinks`), a
rung client answers (`Answered`), or a caller rings one more target (`Invited`).
-/

set_option autoImplicit false

namespace Vacs

open CallManager

namespace CallState

/-- The targets that ring in the call. -/
def targets (state : CallState) : Finset CallTarget :=
  (state.ringing.map fun entry => entry.targets.keys).getD ∅

/-- The participants of the call with their targets. -/
def participants (state : CallState) : CallParticipants :=
  (state.active.map fun active => active.participants).getD ∅

/-- Whether the ringing caller has not joined. -/
def callerWaits (state : CallState) : Bool :=
  state.ringing.any fun entry => decide (entry.callerId ∉ state.participants.keys)

/-- The joined participants, the ringing targets, and the ringing caller if it has not joined. -/
def seats (state : CallState) : ℕ :=
  state.participants.keys.card + state.targets.card + if state.callerWaits then 1 else 0

theorem mem_targets (state : CallState) (target : CallTarget) :
    target ∈ state.targets ↔
      ∃ entry ringing, state.ringing = some entry ∧ entry.targets.lookup target = some ringing := by
  cases isRinging : state.ringing with
  | none => simp [targets, isRinging]
  | some entry => simp [targets, isRinging, Finmap.mem_keys_iff_lookup]

theorem lookup_participants (state : CallState) (client : ClientId) (target : CallTarget) :
    state.participants.lookup client = some target ↔
      ∃ active, state.active = some active ∧ active.participants.lookup client = some target := by
  cases isActive : state.active with
  | none => simp [participants, isActive]
  | some active => simp [participants, isActive]

theorem mem_participants (state : CallState) (client : ClientId) :
    client ∈ state.participants.keys ↔ state.Joined client := by
  cases isActive : state.active with
  | none => simp [participants, isActive, Joined]
  | some active => simp [participants, isActive, Joined]

theorem Calls.unique {state : CallState} {first second : ClientId} (one : state.Calls first)
    (two : state.Calls second) : first = second := by
  obtain ⟨entry, found, rfl⟩ := one
  obtain ⟨_, same, rfl⟩ := two
  cases found.symm.trans same
  rfl

theorem Leads.unique {state : CallState} {first second : ClientId} (one : state.Leads first)
    (two : state.Leads second) : first = second := by
  obtain ⟨active, found, leads⟩ := one
  obtain ⟨_, same, alsoLeads⟩ := two
  cases found.symm.trans same
  exact Option.some.inj (leads.symm.trans alsoLeads)

/-- The client rings for the call's new targets or leads it. -/
def Controls (state : CallState) (client : ClientId) : Prop :=
  state.Calls client ∨ state.Leads client

theorem WellFormed.controls_unique {call : CallId} {state : CallState}
    (wf : state.WellFormed call) {first second : ClientId} (one : state.Controls first)
    (two : state.Controls second) : first = second := by
  rcases one with one | one
  · rcases two with two | two
    · exact one.unique two
    · exact wf.callerLeads first second one two
  · rcases two with two | two
    · exact (wf.callerLeads second first two one).symm
    · exact one.unique two

/-- Who controls a call that somebody has joined has joined it too. -/
theorem WellFormed.controls_joined {call : CallId} {state : CallState}
    (wf : state.WellFormed call) {client other : ClientId} (controls : state.Controls client)
    (joined : state.Joined other) : state.Joined client := by
  rcases controls with calls | leads
  · obtain ⟨active, found, _⟩ := joined
    exact wf.callerJoined client active found calls
  · exact wf.leaderJoined client leads

end CallState

/-! ## What an invite in progress may still spend -/

/-- The targets an invite in progress still wants to ring fit into the limit, whoever controls
the call. -/
structure Affords (limit : ℕ) (state : CallState) (client : ClientId)
    (wanted : Finset CallTarget) : Prop where
  /-- A client that is not in the call may have to open it. -/
  outside : ¬ state.Engages client → wanted.card + 1 ≤ limit
  /-- A client that nobody else controls the call for may ring what it wants. -/
  inCharge : state.Engages client → (∀ other, state.Controls other → other = client) →
    Seating.demand client state.participants state.targets wanted ≤ limit
  /-- A client may be left alone with the one that controls the call. -/
  underOther : ∀ other name, other ≠ client → state.Joined client → state.Controls other →
    state.participants.lookup other = some name → (wanted \ {name}).card + 2 ≤ limit

namespace Affords

variable {limit : ℕ} {state : CallState} {client : ClientId} {wanted : Finset CallTarget}

/-- An invite that is covered by its demand is afforded. -/
theorem of_demand
    (fits : Seating.demand client state.participants state.targets wanted ≤ limit) :
    Affords limit state client wanted where
  outside _ := (Seating.card_lt_demand client state.participants state.targets wanted).trans fits
  inCharge _ _ := fits
  underOther _ _ different _ _ found :=
    (Seating.card_sdiff_lt_demand different found state.targets wanted).trans fits

/-- An invite that gives up some of its targets. -/
theorem mono (affords : Affords limit state client wanted) {wants : Finset CallTarget}
    (shrinks : wants ⊆ wanted) : Affords limit state client wants where
  outside isOutside :=
    (Nat.add_le_add_right (Finset.card_le_card shrinks) 1).trans (affords.outside isOutside)
  inCharge engages alone :=
    (Seating.demand_mono (fun _ _ found => found) (Finset.Subset.refl _) shrinks).trans
      (affords.inCharge engages alone)
  underOther other name different joined controls found :=
    (Nat.add_le_add_right (Finset.card_le_card (Finset.sdiff_subset_sdiff shrinks
      (Finset.Subset.refl _))) 2).trans
      (affords.underOther other name different joined controls found)

/-- A client is outside the call, in charge of it, or in it under somebody else. -/
theorem position {call : CallId} (wf : state.WellFormed call) (client : ClientId) :
    ¬ state.Engages client ∨
      (state.Engages client ∧ ∀ other, state.Controls other → other = client) ∨
      (state.Joined client ∧ ∃ other name, other ≠ client ∧ state.Controls other ∧
        state.participants.lookup other = some name) := by
  by_cases engages : state.Engages client
  · by_cases alone : ∀ other, state.Controls other → other = client
    · exact .inr (.inl ⟨engages, alone⟩)
    · right
      right
      obtain ⟨other, notAlone⟩ := not_forall.mp alone
      obtain ⟨controls, different⟩ := Classical.not_imp.mp notAlone
      have joined : state.Joined client := by
        rcases engages with calls | joined
        · exact absurd (wf.controls_unique controls (.inl calls)) different
        · exact joined
      obtain ⟨name, found⟩ := (Finmap.mem_keys_iff_lookup _ _).mp
        ((state.mem_participants other).mpr (wf.controls_joined controls joined))
      exact ⟨joined, other, name, different, controls, found⟩
  · exact .inl engages

/-- In whatever position, opening the call afresh is afforded. -/
theorem afresh {call : CallId} (wf : state.WellFormed call)
    (affords : Affords limit state client wanted) : wanted.card + 1 ≤ limit := by
  rcases position wf client with outside | ⟨engages, alone⟩ | ⟨joined, other, name, different,
    controls, found⟩
  · exact affords.outside outside
  · exact (Seating.card_lt_demand client state.participants state.targets wanted).trans
      (affords.inCharge engages alone)
  · have beside := affords.underOther other name different joined controls found
    have covered : wanted.card ≤ (wanted \ {name}).card + ({name} : Finset CallTarget).card :=
      Finset.card_le_card_sdiff_add_card
    rw [Finset.card_singleton] at covered
    omega

end Affords

/-! ## Steps that only take clients and targets away -/

/-- Clients and targets only leave the call, and who controls it stays as long as anybody
does. -/
structure Shrinks (before after : CallState) : Prop where
  participants : ∀ client name, after.participants.lookup client = some name →
    before.participants.lookup client = some name
  targets : after.targets ⊆ before.targets
  calls : ∀ client, after.Calls client → before.Calls client
  leads : ∀ client, after.Leads client → before.Leads client
  keeps : ∀ client other, before.Controls other → after.Joined client → after.Joined other
  rings : after.active = none → after.ringing ≠ none → before.active = none

namespace Shrinks

variable {call : CallId} {before after : CallState}

theorem joined (shrinks : Shrinks before after) {client : ClientId} (joins : after.Joined client) :
    before.Joined client := by
  rw [← CallState.mem_participants, Finmap.mem_keys_iff_lookup] at joins ⊢
  obtain ⟨name, found⟩ := joins
  exact ⟨name, shrinks.participants client name found⟩

theorem controls (shrinks : Shrinks before after) {client : ClientId}
    (controls : after.Controls client) : before.Controls client :=
  controls.imp (shrinks.calls client) (shrinks.leads client)

/-- The call is gone. -/
theorem gone (before : CallState) : Shrinks before ⟨none, none⟩ := by
  constructor <;> simp [CallState.participants, CallState.targets, CallState.Leads]

/-- The ringing entry is narrowed. -/
theorem narrow {entry : RingingCallEntry} {ringing : Option RingingCallEntry}
    {active : Option ActiveCallEntry} (wf : CallState.WellFormed call ⟨some entry, active⟩)
    (narrows : ∀ after, ringing = some after → Narrows entry after) :
    Shrinks ⟨some entry, active⟩ ⟨ringing, active⟩ where
  participants _ _ found := found
  targets target member := by
    rw [CallState.mem_targets] at member ⊢
    obtain ⟨after, kept, isAfter, found⟩ := member
    obtain ⟨earlier, was, _⟩ := (narrows after isAfter).targets target kept found
    exact ⟨entry, earlier, rfl, was⟩
  calls client calls := by
    obtain ⟨after, isAfter, isCaller⟩ := calls
    exact ⟨entry, rfl, (narrows after isAfter).callerId.symm.trans isCaller⟩
  leads _ leads := leads
  keeps _ _ controls joined := by
    obtain ⟨joinedActive, isActive, member⟩ := joined
    exact wf.controls_joined controls ⟨joinedActive, isActive, member⟩
  rings isNone _ := isNone

/-- A participant that does not lead leaves a conference. -/
theorem leave {ringing : Option RingingCallEntry} {active : ActiveCallEntry} {client : ClientId}
    (wf : CallState.WellFormed call ⟨ringing, some active⟩)
    (notLeader : active.conferenceLeader ≠ some client)
    (conference : 3 ≤ active.participants.keys.card) :
    Shrinks ⟨ringing, some active⟩ ⟨ringing, some (leaveActive active client)⟩ where
  participants other name := lookup_leaveActive active client other name
  targets := Finset.Subset.refl _
  calls _ calls := calls
  leads other leads := by
    obtain ⟨_, ⟨⟩, leads⟩ := leads
    rw [leaveActive_leader] at leads
    split at leads
    · cases leads
    · exact ⟨active, rfl, leads⟩
  keeps member other controls _ := by
    obtain ⟨leader, known⟩ := wf.exists_leader rfl conference
    have isLeader : other = leader := wf.controls_unique controls (.inr ⟨active, rfl, known⟩)
    have isJoined := wf.leaderJoined leader ⟨active, rfl, known⟩
    subst isLeader
    rw [CallState.joined_some] at isJoined ⊢
    rw [leaveActive_keys, Finset.mem_erase]
    refine ⟨?_, isJoined⟩
    rintro rfl
    exact notLeader known
  rings isNone := nomatch isNone

theorem of_departs {client : ClientId} (wf : before.WellFormed call)
    (departs : Departs client before after) : Shrinks before after := by
  cases departs with
  | hangUp => exact gone _
  | tearDown => exact gone _
  | leave _ notLeader conference => exact leave wf notLeader conference

/-- A recorded report takes nothing away. -/
theorem of_report {ringing : Option RingingCallEntry} {active : ActiveCallEntry}
    {reporter peer : ClientId} {now : Instant}
    (shrinks : Shrinks ⟨ringing, some (active.recordLinkReportAt reporter peer now).1⟩ after) :
    Shrinks ⟨ringing, some active⟩ after where
  participants := shrinks.participants
  targets := shrinks.targets
  calls := shrinks.calls
  leads client leads := by
    obtain ⟨_, ⟨⟩, known⟩ := shrinks.leads client leads
    exact ⟨active, rfl, known⟩
  keeps client other controls joined := by
    refine shrinks.keeps client other (controls.imp id ?_) joined
    rintro ⟨_, ⟨⟩, known⟩
    exact ⟨_, rfl, known⟩
  rings isNone rings := nomatch shrinks.rings isNone rings

theorem refl (wf : before.WellFormed call) : Shrinks before before where
  participants _ _ found := found
  targets := Finset.Subset.refl _
  calls _ calls := calls
  leads _ leads := leads
  keeps _ _ controls joined := wf.controls_joined controls joined
  rings isNone _ := isNone

/-- Every step that neither invites nor answers only takes away. -/
theorem of_step {request : Request} {evicted : Option ClientId}
    (step : CallStep request evicted call before after) (wf : before.WellFormed call)
    (notInvite : ∀ caller source target notified,
      request.op ≠ .attemptCall call caller source target notified)
    (notAnswer : ∀ client, request.op ≠ .acceptCall call client) : Shrinks before after := by
  cases step with
  | invite isOp => exact absurd isOp (notInvite _ _ _ _)
  | withdraw _ narrows _ => exact narrow wf narrows
  | cancel _ _ narrows _ => exact narrow wf narrows
  | answer isOp => exact absurd isOp (notAnswer _)
  | drop _ leads other _ conference =>
      refine leave wf ?_ conference
      rw [leads]
      exact fun same => other (Option.some.inj same).symm
  | depart _ departs => exact of_departs wf departs
  | report => exact of_report (refl (wf.report _ _ _))
  | evict _ _ _ departs => exact of_report (of_departs (wf.report _ _ _) departs)

/-- What an invite in progress may spend stays afforded when clients and targets leave. -/
theorem affords (shrinks : Shrinks before after) (wf : before.WellFormed call)
    (wfAfter : after.WellFormed call) {limit : ℕ} {client : ClientId} {wanted : Finset CallTarget}
    (affords : Affords limit before client wanted) : Affords limit after client wanted where
  outside _ := affords.afresh wf
  inCharge engages alone := by
    have engagedBefore : before.Engages client :=
      engages.imp (shrinks.calls client) shrinks.joined
    rcases Affords.position wf client with outside | ⟨_, aloneBefore⟩ | ⟨joined, other, name,
      different, controls, found⟩
    · exact absurd engagedBefore outside
    · exact (Seating.demand_mono shrinks.participants shrinks.targets (Finset.Subset.refl _)).trans
        (affords.inCharge engagedBefore aloneBefore)
    · -- Control has gone back to the client, so it is alone with the one that had it.
      have notControls : ¬ after.Controls client := fun mine =>
        different (wf.controls_unique controls (shrinks.controls mine))
      have joinedAfter : after.Joined client :=
        engages.resolve_left fun calls => notControls (.inl calls)
      have nobody : ∀ anybody, ¬ after.Controls anybody := fun anybody theirs =>
        notControls (alone anybody theirs ▸ theirs)
      have otherJoined := shrinks.keeps client other controls joinedAfter
      obtain ⟨active, isActive, member⟩ := joinedAfter
      have pair : active.participants.keys = {client, other} := by
        obtain ⟨_, same, otherMember⟩ := otherJoined
        cases isActive.symm.trans same
        refine (Finset.eq_of_subset_of_card_le ?_ ?_).symm
        · rw [Finset.insert_subset_iff, Finset.singleton_subset_iff]
          exact ⟨member, otherMember⟩
        · rw [Finset.card_pair (Ne.symm different)]
          by_contra large
          obtain ⟨leader, known⟩ := wfAfter.exists_leader isActive (by omega)
          exact nobody leader (.inr ⟨active, isActive, known⟩)
      have silent : after.targets = ∅ := by
        rw [Finset.eq_empty_iff_forall_notMem]
        intro target rings
        obtain ⟨entry, _, isEntry, _⟩ := (CallState.mem_targets after target).mp rings
        exact nobody entry.callerId (.inl ⟨entry, isEntry, rfl⟩)
      have beside := affords.underOther other name different joined controls found
      have others : after.participants.keys.erase client = {other} := by
        have keys : after.participants.keys = active.participants.keys := by
          simp [CallState.participants, isActive]
        rw [keys, pair, Finset.erase_insert (by simpa using Ne.symm different)]
      have named : Seating.carried client after.participants = {name} := by
        rw [Seating.carried, others]
        obtain ⟨kept, isKept⟩ := (Finmap.mem_keys_iff_lookup _ _).mp
          ((after.mem_participants other).mpr otherJoined)
        cases (shrinks.participants other kept isKept).symm.trans found
        simp [Seating.namesOf, isKept]
      rw [Seating.demand, others, silent, named, Finset.empty_union, Finset.card_singleton,
        Finset.card_empty]
      omega
  underOther other name different joined controls found :=
    affords.underOther other name different (shrinks.joined joined) (shrinks.controls controls)
      (shrinks.participants other name found)

/-- The seats that are taken do not grow. -/
theorem seats (shrinks : Shrinks before after) (wfAfter : after.WellFormed call) :
    after.seats ≤ before.seats := by
  have keys : after.participants.keys ⊆ before.participants.keys := by
    intro client member
    obtain ⟨name, found⟩ := (Finmap.mem_keys_iff_lookup _ _).mp member
    exact (Finmap.mem_keys_iff_lookup _ _).mpr ⟨name, shrinks.participants client name found⟩
  have joined := Finset.card_le_card keys
  have ringing := Finset.card_le_card shrinks.targets
  have waits : after.callerWaits = true → before.callerWaits = true := by
    intro waits
    obtain ⟨entry, isEntry, notJoined⟩ := (Option.any_eq_true _ _).mp waits
    rw [decide_eq_true_iff] at notJoined
    have calls : after.Calls entry.callerId := ⟨entry, isEntry, rfl⟩
    have notActive : after.active = none := by
      cases isActive : after.active with
      | none => rfl
      | some active =>
          exact absurd ((after.mem_participants _).mpr
            (wfAfter.callerJoined _ active isActive calls)) notJoined
    have neverActive := shrinks.rings notActive (by rw [isEntry]; exact Option.some_ne_none _)
    obtain ⟨earlier, isEarlier, isCaller⟩ := shrinks.calls _ calls
    rw [CallState.callerWaits, isEarlier]
    simp [CallState.participants, neverActive]
  unfold CallState.seats
  cases isWaiting : after.callerWaits with
  | false =>
      simp only [Bool.false_eq_true, if_false]
      omega
  | true =>
      rw [waits isWaiting]
      omega

end Shrinks

/-! ## Answering -/

theorem CallState.callerWaits_iff (state : CallState) :
    state.callerWaits = true ↔ ∃ caller, state.Calls caller ∧ ¬ state.Joined caller := by
  rw [callerWaits, Option.any_eq_true]
  constructor
  · rintro ⟨entry, isEntry, waits⟩
    rw [decide_eq_true_iff, mem_participants] at waits
    exact ⟨entry.callerId, ⟨entry, isEntry, rfl⟩, waits⟩
  · rintro ⟨_, ⟨entry, isEntry, rfl⟩, waits⟩
    refine ⟨entry, isEntry, ?_⟩
    rwa [decide_eq_true_iff, mem_participants]

/-- A rung client answers: its target stops ringing and it joins, with the caller if the call
opens. -/
structure Answered (client caller : ClientId) (target : CallTarget) (before after : CallState) :
    Prop where
  calls : before.Calls caller
  different : client ≠ caller
  rung : target ∈ before.targets
  outside : ¬ before.Joined client
  targets : after.targets = before.targets.erase target
  keys : after.participants.keys = insert caller (insert client before.participants.keys)
  lookup : ∀ other, other ≠ caller → after.participants.lookup other =
    if other = client then some target else before.participants.lookup other
  callerLookup : before.Joined caller →
    after.participants.lookup caller = before.participants.lookup caller
  controls : ∀ other, after.Controls other → other = caller
  leads : before.Joined caller → after.Leads caller

/-- Joining an active call keeps what the participants carry. -/
theorem answered_of_join {call : CallId} {entry : RingingCallEntry} {active : Option ActiveCallEntry}
    (wf : CallState.WellFormed call ⟨some entry, active⟩) {client : ClientId} {target : CallTarget}
    {rung : RingingTargetEntry} (present : entry.targets.lookup target = some rung)
    (notified : client ∈ rung.notifiedClients) {ringing : Option RingingCallEntry}
    (isLeft : ringing = if (entry.targets.erase target).isEmpty = true then none
      else some { entry with targets := entry.targets.erase target }) :
    Answered client entry.callerId target ⟨some entry, active⟩
      ⟨ringing, some (joinActive active call client
        (rung.complete call entry.callerId rung.source target))⟩ := by
  have rings : CallState.Rings ⟨some entry, active⟩ target client :=
    ⟨entry, rfl, rung, present, notified⟩
  have calls : CallState.Calls ⟨some entry, active⟩ entry.callerId := ⟨entry, rfl, rfl⟩
  have source : rung.source.clientId = entry.callerId :=
    wf.sourceIsCaller entry rfl target rung present
  have onlyCaller : ∀ other, (⟨ringing, some (joinActive active call client
      (rung.complete call entry.callerId rung.source target))⟩ : CallState).Controls other →
        other = entry.callerId := by
    rintro other (⟨kept, isKept, isCaller⟩ | ⟨_, ⟨⟩, leads⟩)
    · subst isLeft
      split at isKept
      · cases isKept
      · cases isKept
        exact isCaller.symm
    · obtain ⟨old, isOld, ledBefore | isSource⟩ := joinActive_leads leads
      · exact (wf.callerLeads entry.callerId other calls ⟨old, isOld, ledBefore⟩).symm
      · exact isSource.symm.trans source
  refine ⟨calls, ?_, ?_, fun joined => wf.joinedNotRung target client joined rings, ?_, ?_, ?_, ?_,
    onlyCaller, ?_⟩
  · rintro rfl
    exact wf.callerNotRung target _ calls rings
  · exact (CallState.mem_targets _ _).mpr ⟨entry, rung, rfl, present⟩
  · subst isLeft
    have left : (entry.targets.erase target).keys = entry.targets.keys.erase target :=
      Finmap.keys_erase target entry.targets
    split
    · rename_i empty
      have none := (Finmap.keys_eq_empty_iff _).mpr ((Finmap.isEmpty_iff _).mp empty)
      simp [CallState.targets, ← left, none]
    · simp [CallState.targets, left]
  · have joinedKeys := joinActive_keys active call client
      (rung.complete call entry.callerId rung.source target)
    cases isActive : active with
    | none => simpa [CallState.participants, isActive, RingingTargetEntry.complete] using joinedKeys
    | some old =>
        have member := wf.caller_mem isActive
        rw [isActive] at joinedKeys
        simp only [CallState.participants, Option.map_some, Option.getD_some, joinedKeys]
        rw [Finset.insert_eq_of_mem (Finset.mem_insert_of_mem member)]
  · intro other different
    cases isActive : active with
    | none =>
        change (Finmap.insert entry.callerId rung.source.toTarget
          (Finmap.insert client target (∅ : CallParticipants))).lookup other = _
        rw [Finmap.lookup_insert_eq, if_neg different, Finmap.lookup_insert_eq]
        rfl
    | some old =>
        change (old.participants.insert client target).lookup other = _
        rw [Finmap.lookup_insert_eq]
        rfl
  · rintro ⟨old, isOld, member⟩
    have isOld : active = some old := isOld
    subst isOld
    change (old.participants.insert client target).lookup entry.callerId =
      old.participants.lookup entry.callerId
    rw [Finmap.lookup_insert_of_ne]
    rintro same
    exact wf.callerNotRung target client (same ▸ calls) rings
  · rintro ⟨old, isOld, member⟩
    have isOld : active = some old := isOld
    subst isOld
    obtain ⟨leader, known⟩ : ∃ leader, (joinActive (some old) call client
        (rung.complete call entry.callerId rung.source target)).conferenceLeader = some leader :=
      ⟨_, joinActive_leader (some old) call client _⟩
    have isCaller := onlyCaller leader (.inr ⟨_, rfl, known⟩)
    exact ⟨_, rfl, isCaller ▸ known⟩

/-- Accepting a call does nothing, or the client answers. -/
theorem acceptCall_answered {s : CallManager} (coherent : Coherent s) (order : Iteration)
    (call : CallId) (client : ClientId) :
    (s.acceptCall order call client).1 = s ∨
      ((∃ target, (s.call call).Rings target client) ∧
      (∃ caller target, Answered client caller target (s.call call)
        ((s.acceptCall order call client).1.call call)) ∧
      ∀ other, other ≠ call → (s.acceptCall order call client).1.call other = s.call other) := by
  rcases acceptCall_call coherent order call client with
    same | ⟨entry, target, ringing, found, present, notified, atCall, others⟩
  · exact .inl same
  · right
    have wf := coherent.wellFormed call
    rw [call_eq_of_ringing found] at wf
    refine ⟨⟨target, entry, found, ringing, present, notified⟩, ⟨entry.callerId, target, ?_⟩, others⟩
    rw [atCall, call_eq_of_ringing found]
    exact answered_of_join wf present notified rfl

/-- What an operation other than an invitation does to one call. -/
theorem call_moves {s : CallManager} (coherent : Coherent s) {request : Request}
    (notInvite : ∀ call caller source target notified,
      request.op ≠ .attemptCall call caller source target notified) (call : CallId) :
    Shrinks (s.call call) ((s.next request).call call) ∨
      ∃ client caller target, request.op = .acceptCall call client ∧
        Answered client caller target (s.call call) ((s.next request).call call) := by
  have fromCaller : request.op.FromCaller := by
    cases isOp : request.op with
    | attemptCall => exact absurd isOp (notInvite _ _ _ _ _)
    | _ => trivial
  have wf := coherent.wellFormed call
  have stays : (s.next request).call call = s.call call →
      Shrinks (s.call call) ((s.next request).call call) := by
    intro same
    rw [same]
    exact .refl wf
  by_cases answers : ∃ client, request.op = .acceptCall call client
  · obtain ⟨client, isOp⟩ := answers
    have state : s.next request = (s.acceptCall request.order call client).1 := by
      simp [CallManager.next, CallManager.execute, isOp]
    rcases acceptCall_answered coherent request.order call client with same | ⟨_, answered, _⟩
    · exact .inl (stays (by rw [state, same]))
    · obtain ⟨caller, target, answered⟩ := answered
      exact .inr ⟨client, caller, target, isOp, state ▸ answered⟩
  · left
    rcases (execute_follows coherent request fromCaller).calls call with same | step
    · exact stays same
    · exact .of_step step wf (notInvite call) fun client isOp => answers ⟨client, isOp⟩

namespace Answered

variable {call : CallId} {client caller : ClientId} {target : CallTarget} {before after : CallState}

theorem joined_iff (answered : Answered client caller target before after) (other : ClientId) :
    after.Joined other ↔ other = caller ∨ other = client ∨ before.Joined other := by
  rw [← CallState.mem_participants, answered.keys, Finset.mem_insert, Finset.mem_insert,
    CallState.mem_participants]

/-- What the invite of another client may spend stays afforded when a client answers. -/
theorem affords (answered : Answered client caller target before after)
    (wf : before.WellFormed call) {limit : ℕ} {inviter : ClientId} (other : inviter ≠ client)
    {wanted : Finset CallTarget} (affords : Affords limit before inviter wanted) :
    Affords limit after inviter wanted := by
  have callerControls : before.Controls caller := .inl answered.calls
  rcases Affords.position wf inviter with outside | ⟨engages, alone⟩ | ⟨joined, leader, name,
    different, controls, found⟩
  · have notCaller : inviter ≠ caller := by
      rintro rfl
      exact outside (.inl answered.calls)
    have outsideAfter : ¬ after.Joined inviter := by
      rw [answered.joined_iff]
      rintro (isCaller | isClient | joined)
      · exact notCaller isCaller
      · exact other isClient
      · exact outside (.inr joined)
    refine ⟨fun _ => affords.outside outside, ?_, fun _ _ _ joined => absurd joined outsideAfter⟩
    rintro (calls | joined)
    · exact absurd (answered.controls inviter (.inl calls)) notCaller
    · exact absurd joined outsideAfter
  · have isCaller : caller = inviter := alone caller callerControls
    subst isCaller
    have joinedAfter : after.Joined caller := (answered.joined_iff caller).mpr (.inl rfl)
    refine ⟨fun outside => absurd (.inr joinedAfter) outside, fun _ _ => ?_, ?_⟩
    · have absent : before.participants.lookup client = none := by
        rw [Finmap.lookup_eq_none, ← Finmap.mem_keys, CallState.mem_participants]
        exact answered.outside
      rw [answered.targets, Seating.demand_seat answered.rung absent answered.different
        answered.lookup]
      exact affords.inCharge engages alone
    · exact fun leader _ different _ controls => absurd (answered.controls leader controls) different
  · have isCaller : leader = caller := wf.controls_unique controls callerControls
    subst isCaller
    have leaderJoined := wf.controls_joined controls joined
    have joinedAfter : after.Joined inviter := (answered.joined_iff inviter).mpr (.inr (.inr joined))
    refine ⟨fun outside => absurd (.inr joinedAfter) outside, fun _ alone => ?_, ?_⟩
    · exact absurd (alone leader (.inr (answered.leads leaderJoined))) different
    · intro controlling carries notInviter _ controlsAfter foundAfter
      have isLeader := answered.controls controlling controlsAfter
      subst isLeader
      rw [answered.callerLookup leaderJoined] at foundAfter
      exact affords.underOther controlling carries notInviter joined callerControls foundAfter

/-- Answering takes no further seat. -/
theorem seats (answered : Answered client caller target before after) :
    after.seats = before.seats := by
  have ringing := Finset.card_erase_add_one answered.rung
  have settled : after.callerWaits = false := by
    rw [← Bool.not_eq_true, CallState.callerWaits_iff]
    rintro ⟨other, calls, waits⟩
    have isCaller := answered.controls other (.inl calls)
    exact waits ((answered.joined_iff other).mpr (.inl isCaller))
  have outside : client ∉ before.participants.keys := by
    rw [CallState.mem_participants]
    exact answered.outside
  unfold CallState.seats
  rw [settled, answered.targets, answered.keys]
  by_cases joined : before.Joined caller
  · have settledBefore : before.callerWaits = false := by
      rw [← Bool.not_eq_true, CallState.callerWaits_iff]
      rintro ⟨other, calls, waits⟩
      exact waits (answered.calls.unique calls ▸ joined)
    have member : caller ∈ insert client before.participants.keys :=
      Finset.mem_insert_of_mem ((before.mem_participants caller).mpr joined)
    rw [settledBefore, Finset.insert_eq_of_mem member, Finset.card_insert_of_notMem outside]
    simp only [Bool.false_eq_true, if_false]
    omega
  · have waits : before.callerWaits = true :=
      before.callerWaits_iff.mpr ⟨caller, answered.calls, joined⟩
    have fresh : caller ∉ insert client before.participants.keys := by
      rw [Finset.mem_insert, CallState.mem_participants, not_or]
      exact ⟨Ne.symm answered.different, joined⟩
    rw [waits, Finset.card_insert_of_notMem fresh, Finset.card_insert_of_notMem outside]
    simp only [if_true, Bool.false_eq_true, if_false]
    omega

end Answered

/-! ## Inviting -/

/-- A caller that may invite rings one more target. -/
structure Invited (caller : ClientId) (target : CallTarget) (before after : CallState) : Prop where
  calls : after.Calls caller
  active : after.active = before.active
  targets : after.targets = insert target before.targets
  fresh : target ∉ before.targets
  unnamed : ∀ client, before.participants.lookup client ≠ some target
  allowed : ∀ other, before.Controls other → other = caller
  member : before.Engages caller ∨ before = ⟨none, none⟩
  joined : ∀ client, before.Joined client → before.Joined caller

/-- An invitation is refused, or the target rings. -/
theorem attemptCall_invited {s : CallManager} (coherent : Coherent s) (order : Iteration)
    (call : CallId) (caller : ClientId) (source : CallSource) (target : CallTarget)
    (notified : Finset ClientId) :
    ((s.attemptCall order call caller source target notified).1 = s ∧
      ∃ reason, (s.attemptCall order call caller source target notified).2 = .error reason) ∨
    (Invited caller target (s.call call)
        ((s.attemptCall order call caller source target notified).1.call call) ∧
      (∀ other, other ≠ call →
        (s.attemptCall order call caller source target notified).1.call other = s.call other) ∧
      ∃ rosters, (s.attemptCall order call caller source target notified).2 = .ok rosters) := by
  cases valid : s.validateCallAttempt call caller target notified with
  | error reason => exact .inl ⟨by simp [attemptCall, valid], reason, by simp [attemptCall, valid]⟩
  | ok _ =>
      right
      have mayInvite := validateCallAttempt_allows coherent valid
      obtain ⟨atCall, others⟩ := call_of_tables s
        (s.attemptCall order call caller source target notified).1 call
        (some (invitedEntry (s.call call).ringing call caller source target notified))
        (s.call call).active
        (by rw [attemptCall_ok order source valid]
            exact fun other => Finmap.lookup_insert_eq _ _ other _)
        (by rw [attemptCall_ok order source valid]; exact lookup_unchanged _ rfl)
      refine ⟨?_, others, ?_⟩
      · rw [atCall]
        constructor
        · exact ⟨_, rfl, invitedEntry_callerId (fun entry found => (mayInvite.batch entry found).1)
            call source target notified⟩
        · rfl
        · ext other
          rw [CallState.mem_targets, Finset.mem_insert, CallState.mem_targets]
          simp only [Option.some.injEq, exists_and_left, exists_eq_left', invitedEntry_lookup]
          by_cases same : other = target
          · simp [same]
          · simp only [same, if_false, Option.bind_eq_some_iff, false_or]
            constructor
            · rintro ⟨ringing, entry, found, present⟩
              exact ⟨entry, found, ringing, present⟩
            · rintro ⟨entry, found, ringing, present⟩
              exact ⟨ringing, entry, found, present⟩
        · rw [CallState.mem_targets]
          rintro ⟨entry, ringing, found, present⟩
          cases (mayInvite.batch entry found).2.symm.trans present
        · intro client named
          obtain ⟨active, found, carries⟩ := (CallState.lookup_participants _ _ _).mp named
          exact validateCallAttempt_unnamed valid found client carries
        · rintro other (⟨entry, found, isCaller⟩ | ⟨active, found, leads⟩)
          · exact isCaller.symm.trans (mayInvite.batch entry found).1
          · exact (mayInvite.member active found).2 other leads
        · rcases validateCallAttempt_ok valid with ⟨_, unknown⟩ | ⟨busy, _⟩
          · exact .inr unknown
          · exact .inl ((coherent.indexed.busy caller call).mp busy)
        · rintro client ⟨active, found, _⟩
          exact ⟨active, found, (mayInvite.member active found).1⟩
      · simp [attemptCall, valid]

namespace Invited

variable {call : CallId} {caller : ClientId} {target : CallTarget} {before after : CallState}

theorem participants (invited : Invited caller target before after) :
    after.participants = before.participants := by
  rw [CallState.participants, invited.active]
  rfl

theorem joined_iff (invited : Invited caller target before after) (client : ClientId) :
    after.Joined client ↔ before.Joined client := by
  rw [← CallState.mem_participants, invited.participants, CallState.mem_participants]

theorem controls (invited : Invited caller target before after) {client : ClientId}
    (controls : after.Controls client) : client = caller := by
  rcases controls with calls | ⟨active, found, leads⟩
  · exact calls.unique invited.calls
  · exact invited.allowed client (.inr ⟨active, invited.active ▸ found, leads⟩)

/-- What the invite of another client may spend stays afforded when a caller invites. -/
theorem affordsOther (invited : Invited caller target before after) (wf : before.WellFormed call)
    {limit : ℕ} {inviter : ClientId} (other : inviter ≠ caller) {wanted : Finset CallTarget}
    (affords : Affords limit before inviter wanted) : Affords limit after inviter wanted := by
  have notCalls : ¬ after.Calls inviter := fun calls => other (invited.controls (.inl calls))
  have notAlone : ¬ ∀ anybody, after.Controls anybody → anybody = inviter :=
    fun alone => other (alone caller (.inl invited.calls)).symm
  by_cases joined : before.Joined inviter
  · have joinedAfter := (invited.joined_iff inviter).mpr joined
    refine ⟨fun outside => absurd (.inr joinedAfter) outside, fun _ alone => absurd alone notAlone,
      ?_⟩
    intro controlling name notInviter _ controls found
    obtain rfl := invited.controls controls
    rw [invited.participants] at found
    rcases Affords.position wf inviter with outside | ⟨engages, alone⟩ | ⟨_, leader, _, different,
      leads, _⟩
    · exact absurd (.inr joined) outside
    · exact (Seating.card_sdiff_lt_demand notInviter found before.targets wanted).trans
        (affords.inCharge engages alone)
    · obtain rfl := invited.allowed leader leads
      exact affords.underOther leader name notInviter joined leads found
  · have outside : ¬ before.Engages inviter := by
      rintro (calls | isJoined)
      · exact other (invited.allowed inviter (.inl calls))
      · exact joined isJoined
    have notJoined : ¬ after.Joined inviter := fun after => joined ((invited.joined_iff _).mp after)
    refine ⟨fun _ => affords.outside outside, fun _ alone => absurd alone notAlone, ?_⟩
    exact fun _ _ _ isJoined => absurd isJoined notJoined

/-- A caller spends one of the targets its own invite wants. -/
theorem demand_le (invited : Invited caller target before after) {limit : ℕ}
    {wanted : Finset CallTarget} (wants : target ∈ wanted)
    (affords : Affords limit before caller wanted) :
    Seating.demand caller after.participants after.targets (wanted.erase target) ≤ limit := by
  have unnamed : target ∉ Seating.carried caller before.participants := by
    rw [Seating.mem_carried]
    rintro ⟨client, _, found⟩
    exact invited.unnamed client found
  rw [invited.participants, invited.targets,
    Seating.demand_reserve wants invited.fresh unnamed]
  rcases invited.member with engages | unknown
  · exact affords.inCharge engages invited.allowed
  · subst unknown
    have outside := affords.outside (by simp [CallState.Engages])
    have nothing : Seating.carried caller (CallState.participants ⟨none, none⟩) = ∅ := by
      ext name
      rw [Seating.mem_carried]
      simp [CallState.participants]
    have empty : (CallState.participants ⟨none, none⟩).keys.erase caller = ∅ := by
      simp [CallState.participants]
    have silent : CallState.targets ⟨none, none⟩ = ∅ := rfl
    rw [Seating.demand, nothing, empty, silent, Finset.empty_union, Finset.sdiff_empty]
    simp only [Finset.card_empty]
    omega

/-- The seats that are taken are covered by the caller's demand. -/
theorem seats_le (invited : Invited caller target before after) (wanted : Finset CallTarget) :
    after.seats ≤ Seating.demand caller after.participants after.targets wanted := by
  unfold CallState.seats Seating.demand
  cases waits : after.callerWaits with
  | true =>
      obtain ⟨other, calls, notJoined⟩ := after.callerWaits_iff.mp waits
      obtain rfl := invited.controls (.inl calls)
      rw [← CallState.mem_participants] at notJoined
      rw [Finset.erase_eq_of_notMem notJoined]
      simp only [if_true]
      omega
  | false =>
      have fewer := Finset.pred_card_le_card_erase (s := after.participants.keys) (a := caller)
      simp only [Bool.false_eq_true, if_false]
      omega

end Invited

end Vacs
