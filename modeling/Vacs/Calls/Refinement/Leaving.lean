import Vacs.Calls.Refinement.Joining

/-!
# Dropping and leaving refine the single-call machine

The operations that take clients out of a call: dropping a target and ending a
call. They share two ways of leaving. A call is torn down, and then both its
entries and everything the indexes list for it go (`Silenced.vanish`); or one
participant leaves a conference that goes on (`IndexedBut.leave`).
-/

set_option autoImplicit false

namespace Vacs

open CallManager

/-! ## Cancelling a ringing target -/

theorem mem_activeCallSnapshot (s : CallManager) (call : CallId) (client : ClientId) :
    client ∈ (s.activeCallSnapshot call).1.keys ↔ (s.call call).Joined client := by
  unfold activeCallSnapshot CallState.Joined CallManager.call
  cases s.activeCalls.lookup call <;> simp

theorem cancelRinging_follows {s : CallManager} (coherent : Coherent s) {request : Request}
    {call : CallId} {client : ClientId} {target : CallTarget} {reason : CallDropReason}
    (isOp : request.op = .dropTarget call client target reason) (evicted : Option ClientId)
    {entry : RingingCallEntry} (found : s.ringingCalls.lookup call = some entry)
    {ringing : RingingTargetEntry} (present : entry.targets.lookup target = some ringing)
    (inviter : ringing.source.clientId = client) :
    Follows request evicted s (s.cancelRinging request.order call entry target ringing).1 := by
  have before := call_eq_of_ringing found
  have wf := coherent.wellFormed call
  rw [before] at wf
  have lookup := Finmap.lookup_erase_eq entry.targets target
  have ringsIff := rings_of_lookup_ne entry
    { entry with targets := entry.targets.erase target } lookup
  obtain ⟨atCall, others⟩ := call_of_tables s
    (s.cancelRinging request.order call entry target ringing).1 call
    (if (entry.targets.erase target).isEmpty = true then none
      else some { entry with targets := entry.targets.erase target })
    (s.call call).active
    (lookup_settle s.ringingCalls _ _) (lookup_unchanged s.activeCalls rfl)
  have rings : ∀ other rung, CallState.Rings
      ⟨if (entry.targets.erase target).isEmpty = true then none
        else some { entry with targets := entry.targets.erase target }, (s.call call).active⟩
      other rung ↔ entry.Rings other rung ∧ other ≠ target := by
    intro other rung
    rw [rings_settle, ringsIff]
  have silenced : ∀ other rung, entry.Rings other rung →
      (other ≠ target ↔ rung ∉ ringing.notifiedClients) := by
    intro other rung isRung
    rw [ne_eq, not_iff_not]
    constructor
    · rintro rfl
      obtain ⟨_, same, notified⟩ := isRung
      cases present.symm.trans same
      exact notified
    · intro notified
      exact wf.ringsOnce other target rung ⟨entry, rfl, isRung⟩
        ⟨entry, rfl, ringing, present, notified⟩
  refine .step others ?_ ?_
  · rw [atCall, before]
    refine .cancel isOp ((wf.sourceIsCaller entry rfl target ringing present).symm.trans inviter)
      ?_ rings
    intro after isAfter
    split at isAfter
    · cases isAfter
    · rename_i nonempty
      cases isAfter
      exact narrows_of_lookup_ne wf rfl rfl lookup (by simpa using nonempty)
  · refine coherent.indexed.narrow (· ∈ ringing.notifiedClients) found atCall others ?_ ?_ ?_ ?_ ?_
    · intro after isAfter
      split at isAfter
      · cases isAfter
      · cases isAfter
        rfl
    · intro other rung
      rw [rings]
      exact and_congr_right fun isRung => silenced other rung isRung
    · intro other otherCall otherTarget
      have removed := rungAs_foldl_removeIncoming call
        (request.order.clients.list ringing.notifiedClients) s.clientIncomingCalls other otherCall
      simp only [Enumeration.mem_list] at removed
      change rungAs ((request.order.clients.list ringing.notifiedClients).foldl
        (removeIncoming call) s.clientIncomingCalls) other otherCall = some otherTarget ↔ _
      rw [removed]
      grind
    · exact populated_foldl_removeIncoming _ coherent.indexed.populated
    · intro other otherCall
      have marked := (coherent.indexed.busy entry.callerId call).mpr (.inl ⟨entry, found, rfl⟩)
      have joined := mem_activeCallSnapshot s call entry.callerId
      have released := lookup_releaseBusy call s.clientActiveCalls entry.callerId other
      change (if (entry.targets.erase target).isEmpty = true ∧
          entry.callerId ∉ (s.activeCallSnapshot call).1.keys then
        releaseBusy call s.clientActiveCalls entry.callerId
        else s.clientActiveCalls).lookup other = some otherCall ↔ _
      grind

theorem dropRingingTarget_follows {s : CallManager} (coherent : Coherent s) {request : Request}
    {call : CallId} {client : ClientId} {target : CallTarget} {reason : CallDropReason}
    (isOp : request.op = .dropTarget call client target reason) (evicted : Option ClientId)
    {result : CallManager × DropTargetOutcome}
    (dropped : s.dropRingingTarget request.order call client target = some result) :
    Follows request evicted s result.1 := by
  unfold dropRingingTarget at dropped
  cases found : s.ringingCalls.lookup call with
  | none => simp [found] at dropped
  | some entry =>
      cases present : entry.targets.lookup target with
      | none => simp [found, present] at dropped
      | some ringing =>
          simp only [found, present] at dropped
          split at dropped
          · cases dropped
            exact .stay coherent
          · rename_i inviter
            cases dropped
            exact cancelRinging_follows coherent isOp evicted found present (not_not.mp inviter)

/-! ## Leaving a conference that goes on -/

/-- One participant that does not lead leaves a conference. -/
theorem IndexedBut.leave {s : CallManager} (s' : CallManager) (coherent : Coherent s) {call : CallId}
    {client : ClientId} {active : ActiveCallEntry}
    (found : s.activeCalls.lookup call = some active)
    (notLeader : active.conferenceLeader ≠ some client)
    (conference : 3 ≤ active.participants.keys.card)
    (ringingCalls : s'.ringingCalls = s.ringingCalls)
    (activeCalls : s'.activeCalls = s.activeCalls.insert call (leaveActive active client))
    (clientIncomingCalls : s'.clientIncomingCalls = s.clientIncomingCalls)
    (clientActiveCalls : s'.clientActiveCalls = releaseBusy call s.clientActiveCalls client) :
    s'.call call = ⟨(s.call call).ringing, some (leaveActive active client)⟩ ∧
      (∀ other, other ≠ call → s'.call other = s.call other) ∧ Indexed s' := by
  have wf := coherent.wellFormed call
  obtain ⟨atCall, others⟩ := call_of_tables s s' call (s.call call).ringing
    (some (leaveActive active client))
    (by rw [ringingCalls]; exact lookup_unchanged s.ringingCalls rfl)
    (by rw [activeCalls]; exact fun other => Finmap.lookup_insert_eq _ _ other _)
  have notCaller : ¬ (s.call call).Calls client := wf.not_calls found notLeader conference
  refine ⟨atCall, others, ?_⟩
  refine coherent.indexed.shrink (fun _ => False) (· = client) others ?_ ?_ ?_ ?_ ?_
  · intro target other
    rw [atCall]
    simp [CallState.Rings]
  · intro other otherCall target
    rw [clientIncomingCalls]
    simp
  · rw [clientIncomingCalls]
    exact coherent.indexed.populated
  · intro other
    have before : (s.call call).Joined other ↔ other ∈ active.participants.keys := by
      simp [CallState.Joined, CallManager.call, found]
    have stillCalls : CallState.Calls ⟨(s.call call).ringing, some (leaveActive active client)⟩
        other ↔ (s.call call).Calls other := Iff.rfl
    rw [atCall]
    simp only [CallState.Engages, stillCalls, before, CallState.joined_some, leaveActive_keys,
      Finset.mem_erase]
    grind
  · intro other otherCall
    rw [clientActiveCalls, lookup_releaseBusy]
    grind

theorem dropJoinedParticipant_follows {s : CallManager} (coherent : Coherent s)
    {request : Request} {call : CallId} {client : ClientId} {target : CallTarget}
    {reason : CallDropReason} (isOp : request.op = .dropTarget call client target reason)
    (evicted : Option ClientId) :
    Follows request evicted s
      (s.dropJoinedParticipant request.order call client target reason).1 := by
  unfold dropJoinedParticipant
  cases found : s.activeCalls.lookup call with
  | none => exact .stay coherent
  | some active =>
      simp only
      split
      · exact .stay coherent
      · split
        · exact .stay coherent
        · rename_i dropped named
          have namedTarget : active.participants.lookup dropped = some target := by
            simpa using List.find?_some named
          split
          · exact .stay coherent
          · split
            · exact .stay coherent
            · split
              · exact .stay coherent
              · split
                · exact .stay coherent
                · rename_i notAutoHangup other conference leads
                  have isRequested : reason = .requested := by
                    cases reason with
                    | requested => rfl
                    | autoHangup => exact absurd rfl notAutoHangup
                  have isLeader := not_not.mp leads
                  have notLeader : active.conferenceLeader ≠ some dropped := by
                    rw [isLeader]
                    exact fun same => other (Option.some.inj same).symm
                  obtain ⟨atCall, others, indexed⟩ := IndexedBut.leave { s with
                      activeCalls := s.activeCalls.insert call (leaveActive active dropped)
                      clientActiveCalls := releaseBusy call s.clientActiveCalls dropped }
                    coherent found notLeader (not_le.mp conference) rfl rfl rfl rfl
                  refine .step others ?_ indexed
                  rw [atCall, call_eq_of_active found]
                  exact .drop (isRequested ▸ isOp) isLeader other namedTarget (not_le.mp conference)

theorem dropTarget_follows {s : CallManager} (coherent : Coherent s) {request : Request}
    {call : CallId} {client : ClientId} {target : CallTarget} {reason : CallDropReason}
    (isOp : request.op = .dropTarget call client target reason) (evicted : Option ClientId) :
    Follows request evicted s (s.dropTarget request.order call client target reason).1 := by
  unfold dropTarget
  cases dropped : s.dropRingingTarget request.order call client target with
  | none => exact dropJoinedParticipant_follows coherent isOp evicted
  | some result => exact dropRingingTarget_follows coherent isOp evicted dropped

/-! ## Ending a call -/

/-- A client left a call it was busy with, and no other call was touched. -/
structure Departed (call : CallId) (client : ClientId) (s s' : CallManager) : Prop where
  others : ∀ other, other ≠ call → s'.call other = s.call other
  departs : Departs client (s.call call) (s'.call call)
  indexed : Indexed s'

/-- The ringing entry of a call is gone, and nobody is listed for it. -/
structure Silenced (call : CallId) (s s' : CallManager) : Prop where
  ringingCalls : ∀ other, s'.ringingCalls.lookup other =
    if other = call then none else s.ringingCalls.lookup other
  incoming : ∀ client other target, rungAs s'.clientIncomingCalls client other = some target ↔
    rungAs s.clientIncomingCalls client other = some target ∧ other ≠ call
  populated : Populated s'.clientIncomingCalls

/-- Removing a ringing entry with all clients it notified silences its call. -/
theorem Silenced.of_notifiedList {s s' : CallManager} (indexed : Indexed s) {call : CallId}
    {entry : RingingCallEntry} (found : s.ringingCalls.lookup call = some entry)
    (order : Iteration) (ringingCalls : s'.ringingCalls = s.ringingCalls.erase call)
    (clientIncomingCalls : s'.clientIncomingCalls =
      (notifiedList order entry).foldl (removeIncoming call) s.clientIncomingCalls) :
    Silenced call s s' where
  ringingCalls other := by rw [ringingCalls, Finmap.lookup_erase_eq]
  incoming client other target := by
    have listed := indexed.incoming client other target
    rw [clientIncomingCalls, rungAs_foldl_removeIncoming]
    by_cases same : other = call
    · subst same
      simp only [CallState.Rings, CallManager.call, found, Option.some.injEq, exists_eq_left',
        not_false_eq_true, and_true] at listed
      simp only [ne_eq, not_true_eq_false, and_false, iff_false, and_true]
      split
      · simp
      · rename_i silent
        rw [listed]
        exact fun rings => silent ((mem_notifiedList order entry client).mpr ⟨target, rings⟩)
    · simp [same]
  populated := by
    rw [clientIncomingCalls]
    exact populated_foldl_removeIncoming _ indexed.populated

/-- A call that does not ring is silenced already. -/
theorem Silenced.of_none {s s' : CallManager} (indexed : Indexed s) {call : CallId}
    (absent : s.ringingCalls.lookup call = none) (ringingCalls : s'.ringingCalls = s.ringingCalls)
    (clientIncomingCalls : s'.clientIncomingCalls = s.clientIncomingCalls) :
    Silenced call s s' where
  ringingCalls other := by
    rw [ringingCalls]
    exact lookup_unchanged s.ringingCalls absent other
  incoming client other target := by
    have listed := indexed.incoming client other target
    rw [clientIncomingCalls]
    refine ⟨fun rung => ⟨rung, ?_⟩, And.left⟩
    rintro rfl
    obtain ⟨entry, found, _⟩ := (listed.mp rung).1
    cases absent.symm.trans found
  populated := clientIncomingCalls ▸ indexed.populated

/-- A call whose entries and markers are all gone. -/
theorem Silenced.vanish {s s' : CallManager} (coherent : Coherent s) {call : CallId}
    (silenced : Silenced call s s')
    (activeCalls : ∀ other, s'.activeCalls.lookup other =
      if other = call then none else s.activeCalls.lookup other)
    (busy : ∀ client other, s'.clientActiveCalls.lookup client = some other ↔
      s.clientActiveCalls.lookup client = some other ∧ other ≠ call) :
    s'.call call = ⟨none, none⟩ ∧ (∀ other, other ≠ call → s'.call other = s.call other) ∧
      Indexed s' := by
  obtain ⟨atCall, others⟩ := call_of_tables s s' call none none silenced.ringingCalls activeCalls
  refine ⟨atCall, others, ?_⟩
  refine coherent.indexed.shrink (fun _ => True) (fun _ => True) others ?_ ?_
    silenced.populated ?_ ?_
  · simp [atCall]
  · simpa using silenced.incoming
  · simp [atCall, CallState.Engages]
  · simpa using busy

/-- What ending the ringing part of a call does: nothing, unless its caller ends
it. -/
theorem endRinging_cases {s : CallManager} (coherent : Coherent s) (order : Iteration)
    (call : CallId) (client : ClientId) :
    (¬ (s.call call).Calls client ∧ s.endRinging order call client = (s, none)) ∨
    ((s.call call).Calls client ∧ (s.endRinging order call client).2.isSome = true ∧
      Silenced call s (s.endRinging order call client).1 ∧
      (s.endRinging order call client).1.activeCalls = s.activeCalls ∧
      (s.endRinging order call client).1.clientActiveCalls = s.clientActiveCalls.erase client) := by
  unfold endRinging
  cases found : s.ringingCalls.lookup call with
  | none => exact .inl ⟨by simp [CallState.Calls, CallManager.call, found], rfl⟩
  | some entry =>
      by_cases isCaller : entry.callerId = client
      · simp only [isCaller, if_true]
        refine .inr ⟨⟨entry, found, isCaller⟩, rfl, ?_, rfl, rfl⟩
        refine .of_notifiedList coherent.indexed found order rfl ?_
        simp [cleanupClientIncomingCalls, (coherent.wellFormed call).ringingCallId entry found]
      · simp only [isCaller, if_false]
        exact .inl ⟨by simp [CallState.Calls, CallManager.call, found, isCaller], trivial⟩

theorem participantsWithoutSelf_keys (active : ActiveCallEntry) (client : ClientId) :
    (active.participantsWithoutSelf client).keys = active.participants.keys.erase client := by
  ext other
  rw [ActiveCallEntry.participantsWithoutSelf, Finset.mem_erase, Finmap.mem_keys_iff_lookup,
    Finmap.mem_keys_iff_lookup]
  simp only [Finmap.lookup_retain_eq_some, bne_iff_ne, ne_eq, exists_and_right]
  exact and_comm

theorem participantsWithoutSelf_nonempty {active : ActiveCallEntry} {client : ClientId}
    (joined : client ∈ active.participants.keys) (size : 2 ≤ active.participants.keys.card) :
    (active.participantsWithoutSelf client).isEmpty = false := by
  have card := Finset.card_erase_of_mem joined
  rw [Finmap.isEmpty, participantsWithoutSelf_keys, decide_eq_false_iff_not,
    ← Finset.card_eq_zero]
  omega

theorem endActive_of_outside {s : CallManager} (order : Iteration) {call : CallId}
    {client : ClientId} (outside : ¬ (s.call call).Joined client) :
    s.endActive order call client = (s, none) := by
  unfold endActive
  cases found : s.activeCalls.lookup call with
  | none => rfl
  | some active =>
      have notIn : active.involves client = false := by
        simpa [CallState.Joined, CallManager.call, found, ActiveCallEntry.involves] using outside
      simp [notIn]

/-- The leader, or a party of a call of two, ends the call for everybody. -/
theorem endActive_tearDown {s : CallManager} (order : Iteration) {call : CallId}
    {client : ClientId} {active : ActiveCallEntry}
    (found : s.activeCalls.lookup call = some active)
    (joined : client ∈ active.participants.keys) (size : 2 ≤ active.participants.keys.card)
    (decides : active.conferenceLeader = some client ∨ active.participants.keys.card = 2) :
    (s.endActive order call client).2.isSome = true ∧ (s.endActive order call client).1 =
      (cancelPendingInvitations order { s with
        activeCalls := s.activeCalls.erase call
        clientActiveCalls := releaseBusy call
          ((order.clients.list (active.participants.keys.erase client)).foldl (releaseBusy call)
            s.clientActiveCalls) client } call).1 := by
  have card := Finset.card_erase_of_mem joined
  have nonempty := participantsWithoutSelf_nonempty joined size
  have condition : active.conferenceLeader = some client ∨
      (active.participants.keys.erase client).card ≤ 1 :=
    decides.imp_right (by omega)
  simp only [endActive, found, ActiveCallEntry.involves, joined, decide_true, Bool.not_true,
    Bool.false_eq_true, if_false, nonempty, participantsWithoutSelf_keys, condition, if_true,
    Option.isSome_some, and_self]

/-- Any other participant leaves a conference. -/
theorem endActive_leave {s : CallManager} (order : Iteration) {call : CallId}
    {client : ClientId} {active : ActiveCallEntry}
    (found : s.activeCalls.lookup call = some active)
    (joined : client ∈ active.participants.keys)
    (notLeader : active.conferenceLeader ≠ some client)
    (conference : 3 ≤ active.participants.keys.card) :
    (s.endActive order call client).2.isSome = true ∧ (s.endActive order call client).1 =
      { s with
        activeCalls := s.activeCalls.insert call (leaveActive active client)
        clientActiveCalls := releaseBusy call s.clientActiveCalls client } := by
  have card := Finset.card_erase_of_mem joined
  have nonempty := participantsWithoutSelf_nonempty joined (by omega)
  have condition : ¬ (active.conferenceLeader = some client ∨
      (active.participants.keys.erase client).card ≤ 1) := by
    rintro (leads | few)
    · exact notLeader leads
    · omega
  simp only [endActive, found, ActiveCallEntry.involves, joined, decide_true, Bool.not_true,
    Bool.false_eq_true, if_false, nonempty, participantsWithoutSelf_keys, condition,
    Option.isSome_some, and_self]

/-- The two parts of ending a call. -/
theorem endCall_eq (order : Iteration) (s : CallManager) (call : CallId) (client : ClientId) :
    (s.endCall order call client).1 =
        ((s.endRinging order call client).1.endActive order call client).1 ∧
      (s.endCall order call client).2.isSome =
        ((s.endRinging order call client).2.isSome ||
          ((s.endRinging order call client).1.endActive order call client).2.isSome) := by
  unfold endCall
  cases ringing : s.endRinging order call client with
  | mk middle ringingActions =>
      cases ended : middle.endActive order call client with
      | mk final activeActions =>
          cases ringingActions <;> cases activeActions <;> simp [ended]

/-- Cancelling the pending invitations of a call, whatever its active part. -/
theorem cancelPendingInvitations_silenced {s t : CallManager} (coherent : Coherent s)
    (order : Iteration) (call : CallId)
    (pending : (t.ringingCalls = s.ringingCalls ∧ t.clientIncomingCalls = s.clientIncomingCalls) ∨
      Silenced call s t) :
    Silenced call s (t.cancelPendingInvitations order call).1 ∧
      (t.cancelPendingInvitations order call).1.activeCalls = t.activeCalls ∧
      (t.cancelPendingInvitations order call).1.clientActiveCalls = t.clientActiveCalls := by
  unfold cancelPendingInvitations
  rcases pending with ⟨ringingCalls, incomingCalls⟩ | silenced
  · cases found : s.ringingCalls.lookup call with
    | none =>
        simp only [ringingCalls, found]
        exact ⟨.of_none coherent.indexed found ringingCalls incomingCalls, trivial, trivial⟩
    | some entry =>
        simp only [ringingCalls, found]
        refine ⟨.of_notifiedList coherent.indexed found order rfl ?_, rfl, rfl⟩
        simp [cleanupClientIncomingCalls, incomingCalls,
          (coherent.wellFormed call).ringingCallId entry found]
  · have absent : t.ringingCalls.lookup call = none := by simp [silenced.ringingCalls]
    simp only [absent]
    exact ⟨silenced, trivial, trivial⟩

/-- The leader, or a party of a call of two, ends its call. -/
theorem endCall_tearDown {s : CallManager} (coherent : Coherent s) (order : Iteration)
    {call : CallId} {client : ClientId} {active : ActiveCallEntry}
    (found : s.activeCalls.lookup call = some active)
    (joined : client ∈ active.participants.keys)
    (decides : active.conferenceLeader = some client ∨ active.participants.keys.card = 2) :
    (s.endCall order call client).2.isSome = true ∧
      Departed call client s (s.endCall order call client).1 := by
  have wf := coherent.wellFormed call
  have size := wf.twoParticipants active found
  obtain ⟨state, result⟩ := endCall_eq order s call client
  have middle : (s.endRinging order call client).1.activeCalls = s.activeCalls ∧
      (((s.endRinging order call client).1.ringingCalls = s.ringingCalls ∧
        (s.endRinging order call client).1.clientIncomingCalls = s.clientIncomingCalls) ∨
        Silenced call s (s.endRinging order call client).1) ∧
      ∀ other, (s.endRinging order call client).1.clientActiveCalls.lookup other =
          s.clientActiveCalls.lookup other ∨
        (other = client ∧
          (s.endRinging order call client).1.clientActiveCalls.lookup other = none) := by
    rcases endRinging_cases coherent order call client with
      ⟨_, same⟩ | ⟨_, _, silenced, activeCalls, busy⟩
    · rw [same]
      exact ⟨rfl, .inl ⟨rfl, rfl⟩, fun _ => .inl rfl⟩
    · refine ⟨activeCalls, .inr silenced, fun other => ?_⟩
      rw [busy, Finmap.lookup_erase_eq]
      grind
  obtain ⟨activeCalls, pending, marked⟩ := middle
  obtain ⟨isSome, ended⟩ := endActive_tearDown order (activeCalls ▸ found) joined size decides
  rw [ended] at state
  have clientBusy := (coherent.indexed.busy client call).mpr (.inr ⟨active, found, joined⟩)
  obtain ⟨silenced, keepsActive, keepsBusy⟩ := cancelPendingInvitations_silenced
    (t := { (s.endRinging order call client).1 with
      activeCalls := (s.endRinging order call client).1.activeCalls.erase call
      clientActiveCalls := releaseBusy call
        ((order.clients.list (active.participants.keys.erase client)).foldl (releaseBusy call)
          (s.endRinging order call client).1.clientActiveCalls) client })
    coherent order call (pending.imp id fun silenced => ⟨silenced.1, silenced.2, silenced.3⟩)
  rw [← state] at silenced keepsActive keepsBusy
  obtain ⟨atCall, others, indexed⟩ := silenced.vanish coherent
    (by rw [keepsActive, activeCalls]; exact Finmap.lookup_erase_eq _ _)
    (by
      intro other otherCall
      have engaged : s.clientActiveCalls.lookup other = some call →
          other ∈ active.participants.keys := by
        intro busy
        have joins : (s.call call).Joined other :=
          ((coherent.indexed.busy other call).mp busy).elim
            (wf.callerJoined other active found) id
        simpa [CallState.Joined, CallManager.call, found] using joins
      have mark := marked other
      rw [keepsBusy]
      simp only [lookup_releaseBusy, lookup_foldl_releaseBusy, Enumeration.mem_list,
        Finset.mem_erase]
      grind)
  refine ⟨by simp [result, isSome], others, ?_, indexed⟩
  rw [atCall, call_eq_of_active found]
  exact .tearDown joined decides

/-- What ending a call does: nothing to a call the client is not busy with, and
otherwise the client departs. -/
theorem endCall_spec {s : CallManager} (coherent : Coherent s) (order : Iteration)
    (call : CallId) (client : ClientId) :
    (¬ (s.call call).Engages client ∧ (s.endCall order call client).1 = s ∧
      (s.endCall order call client).2 = none) ∨
    ((s.call call).Engages client ∧ (s.endCall order call client).2.isSome = true ∧
      Departed call client s (s.endCall order call client).1) := by
  have wf := coherent.wellFormed call
  obtain ⟨state, result⟩ := endCall_eq order s call client
  by_cases joined : (s.call call).Joined client
  · right
    obtain ⟨active, found, member⟩ := joined
    refine ⟨.inr ⟨active, found, member⟩, ?_⟩
    by_cases decides : active.conferenceLeader = some client ∨
        active.participants.keys.card = 2
    · exact endCall_tearDown coherent order found member decides
    · obtain ⟨notLeader, notTwo⟩ := not_or.mp decides
      have size := wf.twoParticipants active found
      have conference : 3 ≤ active.participants.keys.card := by omega
      have notCaller : ¬ (s.call call).Calls client := wf.not_calls found notLeader conference
      rcases endRinging_cases coherent order call client with ⟨_, same⟩ | ⟨calls, _⟩
      · rw [same] at state result
        obtain ⟨isSome, ended⟩ := endActive_leave order found member notLeader conference
        rw [ended] at state
        obtain ⟨atCall, others, indexed⟩ := IndexedBut.leave (s.endCall order call client).1
          coherent found notLeader conference (by rw [state]) (by rw [state]) (by rw [state])
          (by rw [state])
        refine ⟨by simp [result, isSome], others, ?_, indexed⟩
        rw [atCall, call_eq_of_active found]
        exact .leave member notLeader conference
      · exact absurd calls notCaller
  · rcases endRinging_cases coherent order call client with
      ⟨notCaller, same⟩ | ⟨calls, isSome, silenced, activeCalls, busy⟩
    · left
      rw [same, endActive_of_outside order joined] at state result
      exact ⟨fun engaged => engaged.elim notCaller joined, state, by simpa using result⟩
    · right
      have notActive : s.activeCalls.lookup call = none := by
        cases found : s.activeCalls.lookup call with
        | none => rfl
        | some active => exact absurd (wf.callerJoined client active found calls) joined
      have outside : ¬ ((s.endRinging order call client).1.call call).Joined client := by
        simpa [CallState.Joined, CallManager.call, activeCalls] using joined
      rw [endActive_of_outside order outside] at state
      rw [← state] at silenced activeCalls busy
      obtain ⟨entry, ringing, isCaller⟩ := calls
      obtain ⟨atCall, others, indexed⟩ := silenced.vanish coherent
        (by rw [activeCalls]; exact lookup_unchanged s.activeCalls notActive)
        (by
          intro other otherCall
          rw [busy, coherent.indexed.lookup_erase_busy (.inl ⟨entry, ringing, isCaller⟩)]
          have onlyCaller : s.clientActiveCalls.lookup other = some call → other = client := by
            intro marked
            rcases (coherent.indexed.busy other call).mp marked with ⟨_, same, isOther⟩ | joins
            · cases ringing.symm.trans same
              exact isOther.symm.trans isCaller
            · obtain ⟨_, found, _⟩ := joins
              cases notActive.symm.trans found
          grind)
      refine ⟨.inl ⟨entry, ringing, isCaller⟩, by simp [result, isSome], others, ?_, indexed⟩
      rw [atCall, call_eq_of_ringing ringing, show (s.call call).active = none from notActive]
      exact .hangUp isCaller

end Vacs
