import Vacs.Calls.Refinement.Leaving

/-!
# Errors, disconnects and dead links, and whole runs

The last operations are built from the earlier ones. An error of a client
withdraws it if it rings and ends its call otherwise. A disconnect does to the
client's own call what ending it does, and then withdraws the client from every
other call it rings for. A dead link that both ends have reported makes one of
them leave.

With them every operation follows the single-call machine (`execute_follows`),
and a whole run keeps the manager coherent (`run_coherent`).
-/

set_option autoImplicit false

namespace Vacs

open CallManager

/-! ## Errors -/

theorem Departed.follows {s s' : CallManager} {request : Request} {call : CallId}
    {client : ClientId} (departed : Departed call client s s')
    (isOp : request.op.Leaves call client) (evicted : Option ClientId) :
    Follows request evicted s s' :=
  .step departed.others (.depart isOp departed.departs) departed.indexed

theorem endCall_follows {s : CallManager} (coherent : Coherent s) {request : Request}
    {call : CallId} {client : ClientId} (isOp : request.op.Leaves call client)
    (evicted : Option ClientId) :
    Follows request evicted s (s.endCall request.order call client).1 := by
  rcases endCall_spec coherent request.order call client with ⟨_, same, _⟩ | ⟨_, _, departed⟩
  · rw [same]
    exact .stay coherent
  · exact departed.follows isOp evicted

/-- The state after an error is the state after marking the client, or after
ending the call when the client does not ring. -/
theorem callError_follows {s : CallManager} (coherent : Coherent s) {request : Request}
    {call : CallId} {client : ClientId} (isOp : request.op = .callError call client)
    (evicted : Option ClientId) :
    Follows request evicted s (s.callError request.order call client).1 := by
  have withdraws : request.op.Withdraws call client := .inr (.inr (.inl isOp))
  have leaves : request.op.Leaves call client := .inr (.inl isOp)
  by_cases rings : ∃ target, (s.call call).Rings target client
  · obtain ⟨target, entry, found, rung⟩ := rings
    have marked := markClient_follows coherent marks_markErrored withdraws evicted
    have state : (s.callError request.order call client).1 =
        (s.markClientWithinRingingCalls request.order call client .markErrored).1 := by
      obtain ⟨_, outcome⟩ := markClientWithinRingingCalls_of_rings coherent .markErrored
        request.order found rung
      unfold callError
      cases result : s.markClientWithinRingingCalls request.order call client .markErrored with
      | mk s' out =>
          rw [result] at outcome
          rcases outcome with continued | ⟨targets, update, failed⟩
          · simp only at continued
            rw [continued]
          · simp only at failed
            rw [failed]
    rw [state]
    exact marked
  · have state : (s.callError request.order call client).1 =
        (s.endCall request.order call client).1 := by
      obtain ⟨same, outcome⟩ := markClientWithinRingingCalls_of_silent coherent .markErrored
        request.order (not_exists.mp rings)
      unfold callError
      cases result : s.markClientWithinRingingCalls request.order call client .markErrored with
      | mk s' out =>
          rw [result] at outcome same
          simp only at outcome same
          subst same
          rcases outcome with rfl | rfl
          · simp only
            split <;> rename_i ended <;> rw [ended]
          · simp only
            split <;> rename_i ended <;> rw [ended]
    rw [state]
    exact endCall_follows coherent leaves evicted

/-! ## Dead links -/

/-- Recording a report keeps the manager coherent. -/
theorem recorded_coherent {s : CallManager} (coherent : Coherent s) {call : CallId}
    {active : ActiveCallEntry} (found : s.activeCalls.lookup call = some active)
    (reporter peer : ClientId) (now : Instant) :
    (CallManager.call { s with
      activeCalls := s.activeCalls.insert call (active.recordLinkReportAt reporter peer now).1 }
        call = ⟨(s.call call).ringing, some (active.recordLinkReportAt reporter peer now).1⟩ ∧
      ∀ other, other ≠ call → CallManager.call { s with
        activeCalls := s.activeCalls.insert call
          (active.recordLinkReportAt reporter peer now).1 } other = s.call other) ∧
      Coherent { s with
        activeCalls := s.activeCalls.insert call
          (active.recordLinkReportAt reporter peer now).1 } := by
  obtain ⟨atCall, others⟩ := call_of_tables s { s with
      activeCalls := s.activeCalls.insert call (active.recordLinkReportAt reporter peer now).1 }
    call (s.call call).ringing (some (active.recordLinkReportAt reporter peer now).1)
    (lookup_unchanged s.ringingCalls rfl) (fun other => Finmap.lookup_insert_eq _ _ other _)
  have before := call_eq_of_active found
  refine ⟨⟨atCall, others⟩, ?_, ?_⟩
  · intro other
    by_cases same : other = call
    · subst same
      rw [atCall]
      exact (before ▸ coherent.wellFormed other).report reporter peer now
    · rw [others other same]
      exact coherent.wellFormed other
  · refine coherent.indexed.shrink (fun _ => False) (fun _ => False) others ?_ (by simp)
      coherent.indexed.populated ?_ (by simp)
    · intro target client
      rw [atCall, before]
      simp [CallState.Rings]
    · intro client
      rw [atCall, before]
      simp [CallState.Engages, CallState.Calls]

/-- The later joiner is one of the two. -/
theorem laterJoiner_mem (active : ActiveCallEntry) (first second : ClientId) :
    active.laterJoiner first second = first ∨ active.laterJoiner first second = second := by
  unfold ActiveCallEntry.laterJoiner
  grind

/-- A report does nothing unless it is about two participants of the call. Then it
is recorded, and a confirmed one makes the later joiner depart. -/
theorem reportLinkFailure_cases {s : CallManager} (coherent : Coherent s) (order : Iteration)
    (call : CallId) (reporter peer : ClientId) (now : Instant) :
    (¬ (reporter ≠ peer ∧ (s.call call).Joined reporter ∧ (s.call call).Joined peer) ∧
      s.reportLinkFailure order call reporter peer now = (s, .invalidReport)) ∨
    ∃ active, s.activeCalls.lookup call = some active ∧ reporter ≠ peer ∧
      reporter ∈ active.participants.keys ∧ peer ∈ active.participants.keys ∧
      (((active.recordLinkReportAt reporter peer now).2 = false ∧
        s.reportLinkFailure order call reporter peer now = ({ s with
          activeCalls := s.activeCalls.insert call
            (active.recordLinkReportAt reporter peer now).1 }, .recorded)) ∨
      ((active.recordLinkReportAt reporter peer now).2 = true ∧
        (∃ unreachable actions, (s.reportLinkFailure order call reporter peer now).2 =
          .evicted ((active.recordLinkReportAt reporter peer now).1.laterJoiner reporter peer)
            unreachable actions) ∧
        Departed call ((active.recordLinkReportAt reporter peer now).1.laterJoiner reporter peer)
          { s with
            activeCalls := s.activeCalls.insert call
              (active.recordLinkReportAt reporter peer now).1 }
          (s.reportLinkFailure order call reporter peer now).1)) := by
  unfold reportLinkFailure
  by_cases distinct : reporter = peer
  · simp [distinct]
  · cases found : s.activeCalls.lookup call with
    | none => exact .inl ⟨by simp [CallState.Joined, CallManager.call, found], by simp [distinct]⟩
    | some active =>
        by_cases members :
            reporter ∈ active.participants.keys ∧ peer ∈ active.participants.keys
        · obtain ⟨reporterJoined, peerJoined⟩ := members
          refine .inr ⟨active, rfl, distinct, reporterJoined, peerJoined, ?_⟩
          simp only [distinct, if_false, reporterJoined, peerJoined, not_true_eq_false, or_self]
          obtain ⟨⟨atCall, _⟩, recorded⟩ := recorded_coherent coherent found reporter peer now
          cases confirmed : (active.recordLinkReportAt reporter peer now).2 with
          | false => simp
          | true =>
              simp only [Bool.not_true, Bool.false_eq_true, if_false]
              right
              generalize leaving :
                (active.recordLinkReportAt reporter peer now).1.laterJoiner reporter peer = client
              have joined : client ∈ active.participants.keys := by
                rcases laterJoiner_mem (active.recordLinkReportAt reporter peer now).1
                  reporter peer with isReporter | isPeer
                · rwa [← leaving, isReporter]
                · rwa [← leaving, isPeer]
              rcases endCall_spec recorded order call client with
                ⟨outside, _⟩ | ⟨_, isSome, departed⟩
              · refine absurd (.inr ?_) outside
                rw [atCall]
                exact ⟨_, rfl, joined⟩
              · cases result : CallManager.endCall order { s with
                    activeCalls := s.activeCalls.insert call
                      (active.recordLinkReportAt reporter peer now).1 } call client with
                | mk s' actions =>
                    rw [result] at isSome departed
                    obtain ⟨actions, rfl⟩ := Option.isSome_iff_exists.mp isSome
                    exact ⟨trivial, ⟨_, _, rfl⟩, departed⟩
        · refine .inl ⟨?_, ?_⟩
          · simp only [CallState.Joined, CallManager.call, found, Option.some.injEq,
              exists_eq_left', not_and]
            exact fun _ reporterJoined peerJoined => members ⟨reporterJoined, peerJoined⟩
          · simp only [distinct, if_false]
            rw [if_pos]
            rwa [← not_and_or]

theorem reportLinkFailure_follows {s : CallManager} (coherent : Coherent s) {request : Request}
    {call : CallId} {reporter peer : ClientId}
    (isOp : request.op = .reportLinkFailure call reporter peer) :
    Follows request (Outcome.reported
        (s.reportLinkFailure request.order call reporter peer request.now).2).evicted s
      (s.reportLinkFailure request.order call reporter peer request.now).1 := by
  rcases reportLinkFailure_cases coherent request.order call reporter peer request.now with
    ⟨_, invalid⟩ | ⟨active, found, distinct, reporterJoined, peerJoined, outcome⟩
  · rw [invalid]
    exact .stay coherent
  · obtain ⟨⟨atCall, others⟩, recorded⟩ :=
      recorded_coherent coherent found reporter peer request.now
    rcases outcome with ⟨_, pending⟩ | ⟨_, ⟨unreachable, actions, evicted⟩, departed⟩
    · rw [pending]
      refine .step others ?_ recorded.indexed
      rw [atCall, call_eq_of_active found]
      exact .report isOp rfl distinct reporterJoined peerJoined
    · rw [evicted]
      refine .step (fun other (different : other ≠ call) => ?_) ?_ departed.indexed
      · rw [← others other different]
        exact departed.others other different
      · rw [call_eq_of_active found]
        refine .evict isOp rfl ?_ ?_
        · rcases laterJoiner_mem (active.recordLinkReportAt reporter peer request.now).1
            reporter peer with isReporter | isPeer
          · rwa [isReporter]
          · rwa [isPeer]
        · rw [← atCall]
          exact departed.departs

/-! ## Disconnecting -/

/-- What a disconnect does to the ringing part of the client's own call. -/
theorem cleanupRinging_eq {s : CallManager} (coherent : Coherent s) (order : Iteration)
    {call : CallId} {client : ClientId} :
    (cleanupRinging order { s with clientActiveCalls := s.clientActiveCalls.erase client } call
      client).1 = { (s.endRinging order call client).1 with
        clientActiveCalls := s.clientActiveCalls.erase client } := by
  unfold cleanupRinging endRinging
  cases found : s.ringingCalls.lookup call with
  | none => rfl
  | some entry =>
      simp only
      split
      · simp [cleanupClientIncomingCalls, (coherent.wellFormed call).ringingCallId entry found]
      · rfl

/-- What a disconnect does to the active part of the client's own call. -/
theorem cleanupActive_eq {s : CallManager} (order : Iteration) {call : CallId} {client : ClientId}
    {active : ActiveCallEntry} (found : s.activeCalls.lookup call = some active)
    (joined : client ∈ active.participants.keys) (size : 2 ≤ active.participants.keys.card)
    {busy : HashMap ClientId CallId}
    (erased : ∀ other, s.clientActiveCalls.lookup other =
      if other = client then none else busy.lookup other)
    (marked : busy.lookup client = some call ∨ busy.lookup client = none) :
    (s.cleanupActive order call client).1 =
      (endActive order { s with clientActiveCalls := busy } call client).1 := by
  have released : ∀ freed : List ClientId,
      freed.foldl (releaseBusy call) s.clientActiveCalls =
        releaseBusy call (freed.foldl (releaseBusy call) busy) client := by
    intro freed
    refine Finmap.ext_lookup fun other => ?_
    rw [lookup_releaseBusy, lookup_foldl_releaseBusy, lookup_foldl_releaseBusy, erased]
    grind
  have nonempty := participantsWithoutSelf_nonempty joined size
  have own := released []
  simp only [List.foldl_nil] at own
  unfold cleanupActive endActive
  simp only [found, ActiveCallEntry.involves, joined, decide_true, Bool.not_true,
    Bool.false_eq_true, if_false, nonempty]
  split
  · simp only [released]
  · simp only [own]

/-- A disconnecting client leaves its own call as if it ended it. -/
theorem cleanupOwnCall_eq_endCall {s : CallManager} (coherent : Coherent s) (order : Iteration)
    {call : CallId} {client : ClientId} (busy : s.clientActiveCalls.lookup client = some call) :
    (s.cleanupOwnCall order client).1 = (s.endCall order call client).1 := by
  have wf := coherent.wellFormed call
  have engaged := (coherent.indexed.busy client call).mp busy
  have split : (s.cleanupOwnCall order client).1 =
      (cleanupActive order { (s.endRinging order call client).1 with
        clientActiveCalls := s.clientActiveCalls.erase client } call client).1 := by
    rw [← cleanupRinging_eq coherent]
    simp [cleanupOwnCall, busy]
  rw [split, (endCall_eq order s call client).1]
  have middle : (s.endRinging order call client).1.activeCalls = s.activeCalls ∧
      ((s.endRinging order call client).1.clientActiveCalls = s.clientActiveCalls ∨
        (s.endRinging order call client).1.clientActiveCalls =
          s.clientActiveCalls.erase client) := by
    rcases endRinging_cases coherent order call client with ⟨_, same⟩ | ⟨_, _, _, tables, marks⟩
    · rw [same]
      exact ⟨rfl, .inl rfl⟩
    · exact ⟨tables, .inr marks⟩
  by_cases joined : (s.call call).Joined client
  · obtain ⟨active, found, member⟩ := joined
    have size := wf.twoParticipants active found
    refine cleanupActive_eq order (middle.1 ▸ found) member size ?_ ?_
    · intro other
      rcases middle.2 with same | same
      · simp [same, Finmap.lookup_erase_eq]
      · simp only [same, Finmap.lookup_erase_eq]
        split <;> rfl
    · rcases middle.2 with same | same <;> simp [same, busy]
  · have calls := engaged.resolve_right joined
    rcases endRinging_cases coherent order call client with ⟨notCaller, _⟩ | ⟨_, _, _, tables, marks⟩
    · exact absurd calls notCaller
    · have outside : ¬ ((s.endRinging order call client).1.call call).Joined client := by
        simpa [CallState.Joined, CallManager.call, tables] using joined
      rw [endActive_of_outside order outside, ← marks]
      cases found : s.activeCalls.lookup call with
      | none =>
          rw [← tables] at found
          simp only [cleanupActive, found]
      | some active => exact absurd (wf.callerJoined client active found calls) joined

/-- What is left of the targets when a disconnecting client is forgotten at the
target it rings for. -/
def forgottenTargets (entry : RingingCallEntry) (client : ClientId) (target : CallTarget)
    (ringing : RingingTargetEntry) : HashMap CallTarget RingingTargetEntry :=
  if (forgetNotified ringing client).allRejectedOrErrored then entry.targets.erase target
  else entry.targets.insert target (forgetNotified ringing client)

theorem withdrawn_forgottenTargets {call : CallId} {entry : RingingCallEntry}
    {active : Option ActiveCallEntry} (wf : CallState.WellFormed call ⟨some entry, active⟩)
    {client : ClientId} {target : CallTarget} {ringing : RingingTargetEntry}
    (present : entry.targets.lookup target = some ringing)
    (notified : client ∈ ringing.notifiedClients) :
    Withdrawn client entry (forgottenTargets entry client target ringing) := by
  have elsewhere : ∀ other earlier, entry.targets.lookup other = some earlier → other ≠ target →
      earlier.notifiedClients.erase client = earlier.notifiedClients := by
    intro other earlier was different
    refine Finset.erase_eq_of_notMem fun alsoNotified => different ?_
    exact wf.ringsOnce other target client ⟨entry, rfl, earlier, was, alsoNotified⟩
      ⟨entry, rfl, ringing, present, notified⟩
  have failedThere : ∀ other ∈ (forgetNotified ringing client).notifiedClients,
      (forgetNotified ringing client).hasFailedClient other = false := by
    intro other rung
    have notFailed := wf.notifiedNotFailed entry rfl target ringing present other
      (Finset.mem_of_mem_erase rung)
    simp only [RingingTargetEntry.hasFailedClient, Bool.or_eq_false_iff,
      decide_eq_false_iff_not] at notFailed ⊢
    exact ⟨fun failed => notFailed.1 (Finset.mem_of_mem_erase failed),
      fun failed => notFailed.2 (Finset.mem_of_mem_erase failed)⟩
  have lookup : ∀ other, (forgottenTargets entry client target ringing).lookup other =
      if other = target then
        (if ringing.notifiedClients.erase client = ∅ then none
          else some (forgetNotified ringing client))
      else entry.targets.lookup other := by
    intro other
    unfold forgottenTargets RingingTargetEntry.allRejectedOrErrored forgetNotified
    simp only [decide_eq_true_eq]
    split <;> simp [Finmap.lookup_erase_eq, Finmap.lookup_insert_eq]
  constructor
  · intro other kept found
    rw [lookup] at found
    split at found
    · rename_i same
      subst same
      split at found
      · cases found
      · cases found
        exact ⟨ringing, present, rfl, rfl, failedThere⟩
    · rename_i different
      exact ⟨kept, found, rfl, (elsewhere other kept found different).symm,
        wf.notifiedNotFailed entry rfl other kept found⟩
  · intro other earlier was gone
    rw [lookup] at gone
    split at gone
    · rename_i same
      subst same
      cases present.symm.trans was
      split at gone
      · assumption
      · cases gone
    · cases was.symm.trans gone
  · intro other kept earlier found was rung
    rw [lookup] at found
    split at found
    · split at found
      · cases found
      · rename_i left
        cases found
        exact Finset.nonempty_iff_ne_empty.mpr left
    · cases was.symm.trans found
      exact rung

/-- The state after one call a disconnecting client rings for. -/
theorem cleanupIncomingCall_eq (s : CallManager) (order : Iteration) {call : CallId}
    (client : ClientId) {entry : RingingCallEntry} {target : CallTarget}
    {ringing : RingingTargetEntry} (found : s.ringingCalls.lookup call = some entry)
    (present : entry.targets.lookup target = some ringing) :
    (s.cleanupIncomingCall order client call target).1 =
      if RingingCallEntry.allTargetsFailed
          { entry with targets := forgottenTargets entry client target ringing } then
        { s.freeCaller entry.callerId with ringingCalls := s.ringingCalls.erase call }
      else
        { s with
          ringingCalls := s.ringingCalls.insert call
            { entry with targets := forgottenTargets entry client target ringing } } := by
  unfold cleanupIncomingCall forgottenTargets
  simp only [found, present]
  by_cases gone : (forgetNotified ringing client).allRejectedOrErrored = true
  · simp only [gone, if_true, freeCaller_ringingCalls]
    exact apply_ite Prod.fst _ _ _
  · simp only [gone, freeCaller_ringingCalls]
    exact apply_ite Prod.fst _ _ _

/-- One call a disconnecting client rings for, after all its incoming calls were
taken out of the index. -/
theorem cleanupIncomingCall_step {s : CallManager} {client : ClientId}
    (indexed : IndexedBut (· = client) s) {call : CallId} (wf : (s.call call).WellFormed call)
    {request : Request} (isOp : request.op = .cleanupClientCalls client)
    (evicted : Option ClientId) {target : CallTarget}
    (rings : (s.call call).Rings target client) :
    (∀ other, other ≠ call →
      (s.cleanupIncomingCall request.order client call target).1.call other = s.call other) ∧
      CallStep request evicted call (s.call call)
        ((s.cleanupIncomingCall request.order client call target).1.call call) ∧
      IndexedBut (· = client) (s.cleanupIncomingCall request.order client call target).1 ∧
      ∀ other, ¬ ((s.cleanupIncomingCall request.order client call target).1.call call).Rings
        other client := by
  obtain ⟨entry, found, ringing, present, notified⟩ := rings
  rw [call_eq_of_ringing found] at wf
  have withdrawn := withdrawn_forgottenTargets wf present notified
  have state := cleanupIncomingCall_eq s request.order client found present
  generalize forgottenTargets entry client target ringing = targets at withdrawn state
  have sameIncoming : (s.cleanupIncomingCall request.order client call
      target).1.clientIncomingCalls = s.clientIncomingCalls := by
    rw [state]
    split <;> simp
  have failed : RingingCallEntry.allTargetsFailed { entry with targets := targets } = true ↔
      ∀ other rung, ¬ RingingCallEntry.Rings { entry with targets := targets } other rung := by
    simp only [RingingCallEntry.allTargetsFailed, Bool.not_eq_true', ← Bool.not_eq_true,
      Finmap.anyValue_iff, RingingTargetEntry.allRejectedOrErrored, RingingCallEntry.Rings]
    constructor
    · rintro nobody other rung ⟨kept, lookup, rings⟩
      exact nobody ⟨other, kept, lookup, by simpa using Finset.ne_empty_of_mem rings⟩
    · rintro nobody ⟨other, kept, lookup, nonempty⟩
      obtain ⟨rung, rings⟩ := Finset.nonempty_iff_ne_empty.mpr (by simpa using nonempty)
      exact nobody other rung ⟨kept, lookup, rings⟩
  refine withdraw_step _ indexed (.inr (.inr (.inr isOp))) evicted found withdrawn failed.mp
    ?_ ?_ ?_ ?_ ?_ ?_
  · intro alive
    rw [← Bool.not_eq_true, failed] at alive
    obtain ⟨other, alive⟩ := not_forall.mp alive
    obtain ⟨rung, alive⟩ := not_forall_not.mp alive
    obtain ⟨kept, lookup, _⟩ := alive
    exact (Finmap.isEmpty_eq_false_iff _).mpr ⟨other, kept, lookup⟩
  · rw [state]
    split <;> rfl
  · rw [state]
    split <;> simp
  · rw [state]
    split <;> rfl
  · intro other otherCall otherTarget
    have silent := indexed.incoming other otherCall otherTarget
    rw [sameIncoming]
    grind
  · rw [sameIncoming]
    exact indexed.populated

/-- The loop over the calls a disconnecting client rings for: each of them did one
step, and no other call changed. -/
theorem cleanupIncomingCalls_loop {request : Request} {client : ClientId}
    (isOp : request.op = .cleanupClientCalls client) (evicted : Option ClientId)
    (incoming : HashMap CallId CallTarget)
    {round : CallManager × List UpdateCallAction → CallId → CallManager × List UpdateCallAction}
    (rounds : ∀ acc call target, incoming.lookup call = some target →
      (round acc call).1 = (acc.1.cleanupIncomingCall request.order client call target).1)
    {calls : List CallId} (nodup : calls.Nodup) {start : CallManager × List UpdateCallAction}
    (wellFormed : ∀ call, (start.1.call call).WellFormed call)
    (indexed : IndexedBut (· = client) start.1)
    (listed : ∀ call ∈ calls, ∃ target, incoming.lookup call = some target ∧
      (start.1.call call).Rings target client) :
    (∀ call, call ∉ calls → (calls.foldl round start).1.call call = start.1.call call) ∧
      (∀ call ∈ calls,
        CallStep request evicted call (start.1.call call) ((calls.foldl round start).1.call call) ∧
        ∀ target, ¬ ((calls.foldl round start).1.call call).Rings target client) ∧
      IndexedBut (· = client) (calls.foldl round start).1 := by
  induction calls generalizing start with
  | nil => exact ⟨fun _ _ => rfl, by simp, indexed⟩
  | cons head rest ih =>
      obtain ⟨notAgain, nodup⟩ := List.nodup_cons.mp nodup
      obtain ⟨target, isListed, rings⟩ := listed head (List.mem_cons_self ..)
      obtain ⟨others, step, after, silent⟩ :=
        cleanupIncomingCall_step indexed (wellFormed head) isOp evicted rings
      rw [← rounds start head target isListed] at others step after silent
      rw [List.foldl_cons]
      generalize round start head = next at *
      have wellFormed : ∀ call, (next.1.call call).WellFormed call := by
        intro call
        by_cases same : call = head
        · subst same
          exact step.wellFormed (wellFormed call)
        · rw [others call same]
          exact wellFormed call
      have listed : ∀ call ∈ rest, ∃ target, incoming.lookup call = some target ∧
          (next.1.call call).Rings target client := by
        intro call member
        obtain ⟨callTarget, isListed, rings⟩ := listed call (List.mem_cons_of_mem _ member)
        refine ⟨callTarget, isListed, ?_⟩
        rwa [others call (fun same => notAgain (same ▸ member))]
      obtain ⟨kept, stepped, final⟩ := ih nodup wellFormed after listed
      refine ⟨?_, ?_, final⟩
      · intro call absent
        rw [List.mem_cons, not_or] at absent
        rw [kept call absent.2, others call absent.1]
      · intro call member
        by_cases same : call = head
        · subst same
          rw [kept call notAgain]
          exact ⟨step, silent⟩
        · have inRest := (List.mem_cons.mp member).resolve_left same
          rw [← others call same]
          exact stepped call inRest

/-- Taking the incoming calls of a client out of the index silences it. -/
theorem IndexedBut.eraseIncoming {s : CallManager} (indexed : Indexed s) (client : ClientId) :
    IndexedBut (· = client)
      { s with clientIncomingCalls := s.clientIncomingCalls.erase client } where
  incoming other call target := by
    have listed := indexed.incoming other call target
    unfold rungAs at listed ⊢
    rw [Finmap.lookup_erase_eq]
    change _ ↔ (s.call call).Rings target other ∧ _
    by_cases same : other = client
    · simp [same]
    · simpa [same] using listed
  populated other calls listed := by
    rw [Finmap.lookup_erase_eq] at listed
    split at listed
    · cases listed
    · exact indexed.populated other calls listed
  busy := indexed.busy

/-- All calls a disconnecting client rings for: each did one step, and the client
rings nowhere afterwards. -/
theorem cleanupIncomingCalls_spec {s : CallManager} (coherent : Coherent s) {request : Request}
    {client : ClientId} (isOp : request.op = .cleanupClientCalls client)
    (evicted : Option ClientId) :
    (∀ call, (s.cleanupIncomingCalls request.order client).1.call call = s.call call ∨
      (∃ target, (s.call call).Rings target client) ∧ CallStep request evicted call (s.call call)
        ((s.cleanupIncomingCalls request.order client).1.call call)) ∧
      Indexed (s.cleanupIncomingCalls request.order client).1 := by
  cases listed : s.clientIncomingCalls.lookup client with
  | none =>
      have same : s.cleanupIncomingCalls request.order client = (s, []) := by
        simp [cleanupIncomingCalls, listed]
      rw [same]
      exact ⟨fun _ => .inl rfl, coherent.indexed⟩
  | some incoming =>
      have rings : ∀ call target, incoming.lookup call = some target ↔
          (s.call call).Rings target client := by
        intro call target
        simpa [rungAs, listed] using coherent.indexed.incoming client call target
      obtain ⟨kept, stepped, indexed⟩ :
          (∀ call, call ∉ request.order.calls.list incoming.keys →
            (s.cleanupIncomingCalls request.order client).1.call call = s.call call) ∧
          (∀ call ∈ request.order.calls.list incoming.keys,
            CallStep request evicted call (s.call call)
              ((s.cleanupIncomingCalls request.order client).1.call call) ∧
            ∀ target, ¬ ((s.cleanupIncomingCalls request.order client).1.call call).Rings target
              client) ∧
          IndexedBut (· = client) (s.cleanupIncomingCalls request.order client).1 := by
        simp only [cleanupIncomingCalls, listed]
        refine cleanupIncomingCalls_loop isOp evicted incoming ?_
          (request.order.calls.nodup_list _) coherent.wellFormed (coherent.indexed.eraseIncoming client) ?_
        · intro acc call target isListed
          simp only [isListed]
        · intro call member
          rw [Enumeration.mem_list, Finmap.mem_keys_iff_lookup] at member
          obtain ⟨target, isListed⟩ := member
          exact ⟨target, isListed, (rings call target).mp isListed⟩
      refine ⟨fun call => ?_, ?_⟩
      · by_cases member : call ∈ request.order.calls.list incoming.keys
        · have rung := member
          rw [Enumeration.mem_list, Finmap.mem_keys_iff_lookup] at rung
          obtain ⟨target, isListed⟩ := rung
          exact .inr ⟨⟨target, (rings call target).mp isListed⟩, (stepped call member).1⟩
        · exact .inl (kept call member)
      · refine ⟨fun other call target => ?_, indexed.populated, indexed.busy⟩
        rw [indexed.incoming]
        refine and_congr_right fun rung => ?_
        simp only [not_false_eq_true, iff_true]
        rintro rfl
        by_cases member : call ∈ request.order.calls.list incoming.keys
        · exact (stepped call member).2 target rung
        · rw [kept call member] at rung
          rw [Enumeration.mem_list, Finmap.mem_keys_iff_lookup] at member
          exact member ⟨target, (rings call target).mpr rung⟩

/-- A client does not ring for a call it has just left. -/
theorem Departs.silent {client : ClientId} {call : CallId} {before after : CallState}
    (departs : Departs client before after) (wf : before.WellFormed call) (target : CallTarget) :
    ¬ after.Rings target client := by
  cases departs with
  | hangUp => simp
  | tearDown => simp
  | leave joined _ _ => exact wf.joinedNotRung target client ⟨_, rfl, joined⟩

theorem cleanupClientCalls_follows {s : CallManager} (coherent : Coherent s) {request : Request}
    {client : ClientId} (isOp : request.op = .cleanupClientCalls client)
    (evicted : Option ClientId) :
    Follows request evicted s (s.cleanupClientCalls request.order client).1 := by
  have state : (s.cleanupClientCalls request.order client).1 =
      ((s.cleanupOwnCall request.order client).1.cleanupIncomingCalls request.order client).1 :=
    rfl
  rw [state]
  cases busy : s.clientActiveCalls.lookup client with
  | none =>
      have own : s.cleanupOwnCall request.order client = (s, []) := by
        simp [cleanupOwnCall, busy]
      rw [own]
      obtain ⟨calls, indexed⟩ := cleanupIncomingCalls_spec coherent isOp evicted
      exact ⟨fun call => (calls call).imp_right And.right, indexed⟩
  | some own =>
      have engaged := (coherent.indexed.busy client own).mp busy
      have left := cleanupOwnCall_eq_endCall coherent request.order busy
      rcases endCall_spec coherent request.order own client with ⟨idle, _⟩ | ⟨_, _, departed⟩
      · exact absurd engaged idle
      · rw [← left] at departed
        generalize (s.cleanupOwnCall request.order client).1 = middle at departed ⊢
        have leaves : request.op.Leaves own client := .inr (.inr isOp)
        have middleCoherent := (departed.follows leaves evicted).coherent coherent
        obtain ⟨calls, indexed⟩ := cleanupIncomingCalls_spec middleCoherent isOp evicted
        refine ⟨fun call => ?_, indexed⟩
        by_cases same : call = own
        · subst same
          right
          rcases calls call with kept | ⟨⟨target, rung⟩, _⟩
          · rw [kept]
            exact .depart leaves departed.departs
          · exact absurd rung (departed.departs.silent (coherent.wellFormed call) target)
        · rw [← departed.others call same]
          exact (calls call).imp_right And.right

/-! ## Runs -/

/-- Every operation does at most one step to each call. -/
theorem execute_follows {s : CallManager} (coherent : Coherent s) (request : Request)
    (fromCaller : request.op.FromCaller) :
    Follows request (s.execute request).2.evicted s (s.next request) := by
  unfold CallManager.next CallManager.execute
  cases isOp : request.op with
  | attemptCall callId callerId source target notifiedClients =>
      exact attemptCall_follows coherent isOp fromCaller _
  | rejectCall callId clientId =>
      exact markClient_follows coherent marks_markRejected (.inl isOp) _
  | failRingingRecipient callId clientId =>
      exact markClient_follows coherent marks_markErrored (.inr (.inl isOp)) _
  | callError callId clientId => exact callError_follows coherent isOp _
  | acceptCall callId clientId => exact acceptCall_follows coherent isOp _
  | dropTarget callId clientId target reason => exact dropTarget_follows coherent isOp _
  | endCall callId clientId => exact endCall_follows coherent (.inl isOp) _
  | reportLinkFailure callId reporterId peerId => exact reportLinkFailure_follows coherent isOp
  | cleanupClientCalls clientId => exact cleanupClientCalls_follows coherent isOp _

theorem next_coherent {s : CallManager} (coherent : Coherent s) {request : Request}
    (fromCaller : request.op.FromCaller) : Coherent (s.next request) :=
  (execute_follows coherent request fromCaller).coherent coherent

/-- A run from a coherent manager ends in a coherent one. -/
theorem run_coherent {s : CallManager} (coherent : Coherent s) {requests : List Request}
    (fromCaller : ∀ request ∈ requests, request.op.FromCaller) : Coherent (s.run requests) :=
  List.foldlRecOn requests CallManager.next coherent fun _ coherent _ member =>
    next_coherent coherent (fromCaller _ member)

end Vacs
