import Vacs.Calls.Coherence
import Vacs.Foundations.GuardedRuns

/-!
# Disconnecting equals hanging up

A client that disconnects is taken out of its calls by code of its own, written
beside the code that ends a call. Here the two are compared. For the call the
client is busy with, both lead to the same state and report the same actions,
whatever order either of them walks the hash maps in. The calls a disconnecting
client is only rung for are handled as if it rejected them, except that no
rejection is recorded.

The comparison of states rests on one fact: in a coherent manager the tables
determine the indexes (`Coherent.ext_tables`).
-/

set_option autoImplicit false

namespace Vacs

open CallManager

/-! ## The tables determine the manager -/

theorem rungAs_ext {first second : HashMap ClientId (HashMap CallId CallTarget)}
    (firstPopulated : Populated first) (secondPopulated : Populated second)
    (same : ∀ client call, rungAs first client call = rungAs second client call) :
    first = second := by
  refine Finmap.ext_lookup fun client => ?_
  cases one : first.lookup client with
  | none =>
      cases two : second.lookup client with
      | none => rfl
      | some calls =>
          obtain ⟨call, target, listed⟩ :=
            (Finmap.isEmpty_eq_false_iff calls).mp (secondPopulated client calls two)
          have rung := same client call
          simp [rungAs, one, two, listed] at rung
  | some calls =>
      cases two : second.lookup client with
      | none =>
          obtain ⟨call, target, listed⟩ :=
            (Finmap.isEmpty_eq_false_iff calls).mp (firstPopulated client calls one)
          have rung := same client call
          simp [rungAs, one, two, listed] at rung
      | some others =>
          refine congrArg some (Finmap.ext_lookup fun call => ?_)
          simpa [rungAs, one, two] using same client call

/-- Two coherent managers with the same tables are the same. -/
theorem Coherent.ext_tables {s s' : CallManager} (coherent : Coherent s) (coherent' : Coherent s')
    (ringingCalls : s.ringingCalls = s'.ringingCalls) (activeCalls : s.activeCalls = s'.activeCalls)
    (maxConfSize : s.maxConfSize = s'.maxConfSize) : s = s' := by
  have calls : ∀ call, s.call call = s'.call call := by
    intro call
    simp [CallManager.call, ringingCalls, activeCalls]
  have incoming : s.clientIncomingCalls = s'.clientIncomingCalls := by
    refine rungAs_ext coherent.indexed.populated coherent'.indexed.populated ?_
    intro client call
    refine Option.ext fun target => ?_
    rw [coherent.indexed.incoming, coherent'.indexed.incoming, calls]
  have busy : s.clientActiveCalls = s'.clientActiveCalls := by
    refine Finmap.ext_lookup fun client => Option.ext fun call => ?_
    rw [coherent.indexed.busy, coherent'.indexed.busy, calls]
  cases s
  cases s'
  simp_all

/-! ## The same actions in every order -/

theorem perm_targetList (first second : Iteration) (entry : RingingCallEntry) :
    (entry.targetList first).Perm (entry.targetList second) := by
  rw [List.perm_ext_iff_of_nodup (nodup_targetList first entry) (nodup_targetList second entry)]
  rintro ⟨target, ringing⟩
  rw [mem_targetList, mem_targetList]

theorem perm_completeAllTargets (first second : Iteration) (entry : RingingCallEntry) :
    (entry.completeAllTargets first).Perm (entry.completeAllTargets second) :=
  (perm_targetList first second entry).map _

/-- The pending invitations of a call do not depend on the order they are walked in. -/
theorem pendingInvitations_order {s : CallManager} (coherent : Coherent s)
    (first second : Iteration) (call : CallId) :
    s.pendingInvitations first call = s.pendingInvitations second call := by
  unfold pendingInvitations
  cases found : s.ringingCalls.lookup call with
  | none => rfl
  | some entry =>
      have wf := coherent.wellFormed call
      rw [call_eq_of_ringing found] at wf
      refine Finmap.ext_lookup fun client => Option.ext fun target => ?_
      rw [lookup_invitedParticipants wf, lookup_invitedParticipants wf]

/-- Cancelling the pending invitations of a call reports the same in every order. -/
theorem perm_cancelPendingInvitations {s s' : CallManager} (first second : Iteration)
    (call : CallId) (ringingCalls : s.ringingCalls = s'.ringingCalls) :
    (s.cancelPendingInvitations first call).2.Perm (s'.cancelPendingInvitations second call).2 := by
  unfold cancelPendingInvitations
  rw [ringingCalls]
  cases s'.ringingCalls.lookup call with
  | none => exact .refl _
  | some entry => exact (perm_completeAllTargets first second entry).map _

/-- The ringing part of a client's own call reports the same either way. -/
theorem perm_cleanupRinging {s s' : CallManager} (first second : Iteration) (call : CallId)
    (client : ClientId) (ringingCalls : s.ringingCalls = s'.ringingCalls) :
    (s.cleanupRinging first call client).2.Perm
      ((s'.endRinging second call client).2.getD []) := by
  unfold cleanupRinging endRinging
  rw [ringingCalls]
  cases s'.ringingCalls.lookup call with
  | none => exact .refl _
  | some entry =>
      by_cases isCaller : entry.callerId = client
      · simp only [isCaller, if_true, Option.getD_some]
        exact (perm_completeAllTargets first second entry).map _
      · simp [isCaller]

/-- The active part of a client's own call reports the same either way. -/
theorem perm_cleanupActive {s s' : CallManager} (first second : Iteration) (call : CallId)
    (client : ClientId) (ringingCalls : s.ringingCalls = s'.ringingCalls)
    (activeCalls : s.activeCalls = s'.activeCalls)
    (pending : s.pendingInvitations first call = s'.pendingInvitations second call) :
    (s.cleanupActive first call client).2.Perm
      ((s'.endActive second call client).2.getD []) := by
  unfold cleanupActive endActive
  rw [activeCalls]
  cases s'.activeCalls.lookup call with
  | none => exact .refl _
  | some active =>
      by_cases joined : active.involves client = true
      · simp only [joined, Bool.not_true, Bool.false_eq_true, if_false]
        split
        · exact perm_cancelPendingInvitations first second call ringingCalls
        · split
          · refine List.Perm.append ?_
              (perm_cancelPendingInvitations first second call ringingCalls)
            exact (first.clients.perm_list second.clients _).map _
          · refine .of_eq ?_
            have left : CallManager.pendingInvitations first { s with
                activeCalls := s.activeCalls.insert call (leaveActive active client) } call =
                  s.pendingInvitations first call := rfl
            simp only [Option.getD_some, List.cons.injEq, UpdateCallAction.updateParticipants.injEq,
              and_true]
            simp only [← activeCalls, left, pending]
            rfl
      · simp [joined]

/-- What ending a call reports is what its two parts report. -/
theorem perm_endCall (order : Iteration) (s : CallManager) (call : CallId) (client : ClientId) :
    ((s.endCall order call client).2.getD []).Perm
      ((s.endRinging order call client).2.getD [] ++
        ((s.endRinging order call client).1.endActive order call client).2.getD []) := by
  unfold endCall
  cases ringing : s.endRinging order call client with
  | mk middle ringingActions =>
      cases ended : middle.endActive order call client with
      | mk final activeActions =>
          cases ringingActions <;> cases activeActions <;> simp [ended, List.perm_append_comm]

/-- The pending invitations that are left when a client has left the ringing part of its call. -/
theorem pendingInvitations_endRinging {s : CallManager} (coherent : Coherent s)
    (first second : Iteration) (call : CallId) (client : ClientId) :
    (s.endRinging first call client).1.pendingInvitations first call =
      (s.endRinging second call client).1.pendingInvitations second call := by
  have gone : ∀ {s' : CallManager} (order : Iteration), Silenced call s s' →
      s'.pendingInvitations order call = ∅ := by
    intro s' order silenced
    simp [pendingInvitations, silenced.ringingCalls]
  rcases endRinging_cases coherent first call client with
    ⟨notCaller, one⟩ | ⟨calls, _, oneSilenced, _⟩
  · rcases endRinging_cases coherent second call client with ⟨_, two⟩ | ⟨calls, _⟩
    · rw [one, two]
      exact pendingInvitations_order coherent first second call
    · exact absurd calls notCaller
  · rcases endRinging_cases coherent second call client with
      ⟨notCaller, _⟩ | ⟨_, _, twoSilenced, _⟩
    · exact absurd calls notCaller
    · rw [gone first oneSilenced, gone second twoSilenced]

/-- The ringing and active tables after the ringing part of a call has ended. -/
theorem endRinging_tables (s : CallManager) (first second : Iteration) (call : CallId)
    (client : ClientId) :
    (s.endRinging first call client).1.ringingCalls =
        (s.endRinging second call client).1.ringingCalls ∧
      (s.endRinging first call client).1.activeCalls =
        (s.endRinging second call client).1.activeCalls := by
  unfold endRinging
  cases s.ringingCalls.lookup call with
  | none => exact ⟨rfl, rfl⟩
  | some entry =>
      simp only
      split
      · exact ⟨rfl, rfl⟩
      · exact ⟨rfl, rfl⟩

/-- For the call it is busy with, a disconnecting client reports what ending it reports. -/
theorem perm_cleanupOwnCall {s : CallManager} (coherent : Coherent s) (first second : Iteration)
    {call : CallId} {client : ClientId} (busy : s.clientActiveCalls.lookup client = some call) :
    (s.cleanupOwnCall first client).2.Perm ((s.endCall second call client).2.getD []) := by
  have tables := endRinging_tables s first second call client
  have state : (cleanupRinging first { s with
      clientActiveCalls := s.clientActiveCalls.erase client } call client).1 =
      { (s.endRinging first call client).1 with
        clientActiveCalls := s.clientActiveCalls.erase client } := cleanupRinging_eq coherent first
  refine List.Perm.trans ?_ (perm_endCall second s call client).symm
  simp only [cleanupOwnCall, busy]
  have ringing : (cleanupRinging first { s with
      clientActiveCalls := s.clientActiveCalls.erase client } call client).2.Perm
      ((s.endRinging second call client).2.getD []) :=
    perm_cleanupRinging first second call client rfl
  refine ringing.append ?_
  rw [state]
  refine perm_cleanupActive first second call client tables.1 tables.2 ?_
  exact pendingInvitations_endRinging coherent first second call client

/-! ## Calls the client is only rung for -/

/-- The client no longer rings for the target, and no failure is recorded. -/
def RingingTargetEntry.withdraw (ringing : RingingTargetEntry) (clientId : ClientId) :
    RingingTargetEntry :=
  { ringing with notifiedClients := ringing.notifiedClients.erase clientId }

/-- Take a client out of one ringing call as `rejectCall` does, without recording it as
rejected. -/
def CallManager.withdrawCall (order : Iteration) (s : CallManager) (callId : CallId)
    (clientId : ClientId) : CallManager :=
  (s.markClientWithinRingingCalls order callId clientId .withdraw).1

/-- Take a client out of every ringing call in the same way. -/
def CallManager.withdrawEverywhere (order : Iteration) (s : CallManager) (clientId : ClientId) :
    CallManager :=
  (order.calls.list s.ringingCalls.keys).foldl
    (fun s callId => s.withdrawCall order callId clientId) s

theorem marks_withdraw : Marks RingingTargetEntry.withdraw where
  source _ _ := rfl
  notified _ _ := rfl
  failed _ _ _ _ := rfl

/-- What is left of a ringing entry when a client is withdrawn from it. -/
def withdrawnEntry (client : ClientId) (entry : RingingCallEntry) : Option RingingCallEntry :=
  let targets := entry.targets.filterMap fun _ => markTarget .withdraw client
  if targets.isEmpty then none else some { entry with targets := targets }

/-- An entry the client does not ring in stays as it is. -/
theorem withdrawnEntry_of_silent {call : CallId} {entry : RingingCallEntry}
    {active : Option ActiveCallEntry} (wf : CallState.WellFormed call ⟨some entry, active⟩)
    {client : ClientId} (silent : ∀ target, ¬ entry.Rings target client) :
    withdrawnEntry client entry = some entry := by
  have same : (entry.targets.filterMap fun _ => markTarget .withdraw client) = entry.targets := by
    refine Finmap.ext_lookup fun target => ?_
    rw [Finmap.lookup_filterMap]
    cases found : entry.targets.lookup target with
    | none => rfl
    | some ringing =>
        have absent : client ∉ ringing.notifiedClients :=
          fun notified => silent target ⟨ringing, found, notified⟩
        simp [markTarget, RingingTargetEntry.hasNotifiedClient, absent]
  have nonempty : entry.targets.isEmpty = false :=
    (Finmap.isEmpty_eq_false_iff _).mpr (wf.targetsNonempty entry rfl)
  simp [withdrawnEntry, same, nonempty]

/-- Withdrawing a client from a call changes that call's ringing entry only. -/
theorem withdrawCall_tables {s : CallManager} (coherent : Coherent s) (order : Iteration)
    (call : CallId) (client : ClientId) :
    (∀ other, (s.withdrawCall order call client).ringingCalls.lookup other =
      if other = call then (s.ringingCalls.lookup call).bind (withdrawnEntry client)
      else s.ringingCalls.lookup other) ∧
      (s.withdrawCall order call client).activeCalls = s.activeCalls ∧
      (s.withdrawCall order call client).maxConfSize = s.maxConfSize := by
  unfold withdrawCall
  by_cases rings : ∃ target, (s.call call).Rings target client
  · obtain ⟨target, entry, found, rung⟩ := rings
    have found : s.ringingCalls.lookup call = some entry := found
    rw [(markClientWithinRingingCalls_of_rings coherent .withdraw order found rung).1]
    simp only [found, Option.bind_some, withdrawnEntry, ← lookup_settle]
    split
    · exact ⟨fun other => by simp, by simp [removeClientIncomingCall],
        freeCaller_maxConfSize _ _⟩
    · exact ⟨fun other => rfl, rfl, rfl⟩
  · rw [(markClientWithinRingingCalls_of_silent coherent .withdraw order
      (not_exists.mp rings)).1]
    refine ⟨fun other => ?_, rfl, rfl⟩
    split
    · rename_i same
      subst same
      cases found : s.ringingCalls.lookup other with
      | none => rfl
      | some entry =>
          have wf := coherent.wellFormed other
          rw [call_eq_of_ringing found] at wf
          rw [Option.bind_some, withdrawnEntry_of_silent wf]
          exact fun target rung => rings ⟨target, entry, found, rung⟩
    · rfl

theorem withdrawCall_coherent {s : CallManager} (coherent : Coherent s) (order : Iteration)
    (call : CallId) (client : ClientId) : Coherent (s.withdrawCall order call client) :=
  let request : Request := ⟨.rejectCall call client, order, 0⟩
  have withdraws : request.op.Withdraws call client := .inl rfl
  (markClient_follows coherent marks_withdraw withdraws none).coherent coherent

/-- A client has been withdrawn from the ringing entries of all calls but the pending ones. -/
structure WithdrawnUpTo (client : ClientId) (s : CallManager) (pending : List CallId)
    (state : CallManager) : Prop where
  nodup : pending.Nodup
  ringingCalls : ∀ call, state.ringingCalls.lookup call =
    if call ∈ pending then s.ringingCalls.lookup call
    else (s.ringingCalls.lookup call).bind (withdrawnEntry client)
  activeCalls : state.activeCalls = s.activeCalls
  maxConfSize : state.maxConfSize = s.maxConfSize

namespace WithdrawnUpTo

variable {client : ClientId} {s state next : CallManager} {head : CallId} {pending : List CallId}

/-- One more call is withdrawn from. -/
theorem round (before : WithdrawnUpTo client s (head :: pending) state)
    (ringingCalls : ∀ call, next.ringingCalls.lookup call =
      if call = head then (s.ringingCalls.lookup head).bind (withdrawnEntry client)
      else state.ringingCalls.lookup call)
    (activeCalls : next.activeCalls = state.activeCalls)
    (maxConfSize : next.maxConfSize = state.maxConfSize) :
    WithdrawnUpTo client s pending next := by
  obtain ⟨notAgain, nodup⟩ := List.nodup_cons.mp before.nodup
  refine ⟨nodup, fun call => ?_, activeCalls.trans before.activeCalls,
    maxConfSize.trans before.maxConfSize⟩
  rw [ringingCalls, before.ringingCalls]
  by_cases same : call = head
  · subst same
    simp [notAgain]
  · simp [same]

/-- Two managers from which a client has been withdrawn have the same tables. -/
theorem unique {s' : CallManager} (first : WithdrawnUpTo client s [] state)
    (second : WithdrawnUpTo client s [] s') (coherent : Coherent state) (coherent' : Coherent s') :
    state = s' := by
  refine coherent.ext_tables coherent' ?_ (first.activeCalls.trans second.activeCalls.symm)
    (first.maxConfSize.trans second.maxConfSize.symm)
  refine Finmap.ext_lookup fun call => ?_
  rw [first.ringingCalls, second.ringingCalls]

end WithdrawnUpTo

/-- Withdrawing a client everywhere withdraws it from every ringing entry. -/
theorem withdrawEverywhere_spec {s : CallManager} (coherent : Coherent s) (order : Iteration)
    (client : ClientId) :
    WithdrawnUpTo client s [] (s.withdrawEverywhere order client) ∧
      Coherent (s.withdrawEverywhere order client) := by
  refine GuardedRuns.foldl_pending
    (fun pending state => WithdrawnUpTo client s pending state ∧ Coherent state) ?_ ?_
  · rintro head pending state ⟨before, coherent⟩
    obtain ⟨table, activeCalls, maxConfSize⟩ := withdrawCall_tables coherent order head client
    refine ⟨before.round ?_ activeCalls maxConfSize,
      withdrawCall_coherent coherent order head client⟩
    intro call
    rw [table, before.ringingCalls head, if_pos (List.mem_cons_self ..)]
  · refine ⟨⟨order.calls.nodup_list _, fun call => ?_, rfl, rfl⟩, coherent⟩
    cases found : s.ringingCalls.lookup call with
    | none => simp
    | some entry =>
        have member : call ∈ order.calls.list s.ringingCalls.keys := by
          rw [Enumeration.mem_list, Finmap.mem_keys_iff_lookup]
          exact ⟨entry, found⟩
        rw [if_pos member]

/-- Forgetting a client at the target it rings for leaves the targets that withdrawing it
leaves. -/
theorem forgottenTargets_eq {call : CallId} {entry : RingingCallEntry}
    {active : Option ActiveCallEntry} (wf : CallState.WellFormed call ⟨some entry, active⟩)
    {client : ClientId} {target : CallTarget} {ringing : RingingTargetEntry}
    (present : entry.targets.lookup target = some ringing)
    (notified : client ∈ ringing.notifiedClients) :
    forgottenTargets entry client target ringing =
      entry.targets.filterMap fun _ => markTarget .withdraw client := by
  have notFailed := wf.notifiedNotFailed entry rfl target ringing present client notified
  have forgotten : forgetNotified ringing client = ringing.withdraw client := by
    simp only [RingingTargetEntry.hasFailedClient, Bool.or_eq_false_iff,
      decide_eq_false_iff_not] at notFailed
    simp [forgetNotified, RingingTargetEntry.withdraw, Finset.erase_eq_of_notMem notFailed.1,
      Finset.erase_eq_of_notMem notFailed.2]
  have marked : markTarget .withdraw client ringing =
      if (ringing.withdraw client).allRejectedOrErrored then none
      else some (ringing.withdraw client) := by
    simp [markTarget, RingingTargetEntry.hasNotifiedClient, notified, notFailed]
  refine Finmap.ext_lookup fun other => ?_
  rw [Finmap.lookup_filterMap, forgottenTargets, forgotten]
  by_cases same : other = target
  · subst same
    rw [present, Option.bind_some, marked]
    split
    · exact Finmap.lookup_erase _ _
    · exact Finmap.lookup_insert _
  · have elsewhere : (entry.targets.lookup other).bind (markTarget .withdraw client) =
        entry.targets.lookup other := by
      cases found : entry.targets.lookup other with
      | none => rfl
      | some earlier =>
          have absent : client ∉ earlier.notifiedClients := fun alsoNotified =>
            same (wf.ringsOnce other target client ⟨entry, rfl, earlier, found, alsoNotified⟩
              ⟨entry, rfl, ringing, present, notified⟩)
          simp [markTarget, RingingTargetEntry.hasNotifiedClient, absent]
    rw [elsewhere]
    split
    · exact Finmap.lookup_erase_ne same
    · exact Finmap.lookup_insert_of_ne _ same

/-- When every target has somebody to answer it, all targets have failed only if none is
left. -/
theorem allTargetsFailed_eq {entry : RingingCallEntry}
    (answerable : ∀ target ringing, entry.targets.lookup target = some ringing →
      ringing.notifiedClients.Nonempty) :
    entry.allTargetsFailed = entry.targets.isEmpty := by
  rw [Bool.eq_iff_iff, Finmap.isEmpty_iff, RingingCallEntry.allTargetsFailed, Bool.not_eq_true',
    ← Bool.not_eq_true, Finmap.anyValue_iff]
  constructor
  · intro nobody target
    cases found : entry.targets.lookup target with
    | none => rfl
    | some ringing =>
        refine absurd ⟨target, ringing, found, ?_⟩ nobody
        simpa [RingingTargetEntry.allRejectedOrErrored] using
          (answerable target ringing found).ne_empty
  · rintro empty ⟨target, ringing, found, _⟩
    cases (empty target).symm.trans found

/-- One call a disconnecting client rings for is withdrawn from. -/
theorem cleanupIncomingCall_tables {s : CallManager} (order : Iteration) {call : CallId}
    (wf : (s.call call).WellFormed call) (answerable : (s.call call).Answerable)
    {client : ClientId} {target : CallTarget} (rings : (s.call call).Rings target client) :
    (∀ other, (s.cleanupIncomingCall order client call target).1.ringingCalls.lookup other =
      if other = call then (s.ringingCalls.lookup call).bind (withdrawnEntry client)
      else s.ringingCalls.lookup other) ∧
      (s.cleanupIncomingCall order client call target).1.activeCalls = s.activeCalls ∧
      (s.cleanupIncomingCall order client call target).1.maxConfSize = s.maxConfSize := by
  obtain ⟨entry, found, ringing, present, notified⟩ := rings
  have isEntry : s.ringingCalls.lookup call = some entry := found
  rw [call_eq_of_ringing isEntry] at wf
  have state := cleanupIncomingCall_eq s order client isEntry present
  have withdrawn := withdrawn_forgottenTargets wf present notified
  have left := forgottenTargets_eq wf present notified
  have failed : RingingCallEntry.allTargetsFailed
      { entry with targets := forgottenTargets entry client target ringing } =
        (forgottenTargets entry client target ringing).isEmpty := by
    refine allTargetsFailed_eq ?_
    intro other kept lookup
    obtain ⟨earlier, was, _⟩ := withdrawn.kept other kept lookup
    exact withdrawn.answerable other kept earlier lookup was
      (answerable entry found other earlier was)
  rw [failed, left] at state
  simp only [state, isEntry, Option.bind_some, withdrawnEntry, ← lookup_settle]
  split
  · refine ⟨fun other => rfl, by simp, ?_⟩
    exact freeCaller_maxConfSize s entry.callerId
  · exact ⟨fun other => rfl, rfl, rfl⟩

/-- A disconnecting client is withdrawn from every call it rings for. -/
theorem cleanupIncomingCalls_withdraws {s : CallManager} (coherent : Coherent s)
    (answerable : ∀ call, (s.call call).Answerable) (order : Iteration) (client : ClientId) :
    WithdrawnUpTo client s [] (s.cleanupIncomingCalls order client).1 := by
  have silentEntry : ∀ call, (∀ target, ¬ (s.call call).Rings target client) →
      (s.ringingCalls.lookup call).bind (withdrawnEntry client) = s.ringingCalls.lookup call := by
    intro call silent
    cases found : s.ringingCalls.lookup call with
    | none => rfl
    | some entry =>
        have wf := coherent.wellFormed call
        rw [call_eq_of_ringing found] at wf
        exact withdrawnEntry_of_silent wf fun target rung => silent target ⟨entry, found, rung⟩
  have rings : ∀ call target, rungAs s.clientIncomingCalls client call = some target ↔
      (s.call call).Rings target client := by
    simpa using coherent.indexed.incoming client
  unfold cleanupIncomingCalls
  cases listed : s.clientIncomingCalls.lookup client with
  | none =>
      refine ⟨List.nodup_nil, fun call => ?_, rfl, rfl⟩
      have silent : ∀ target, ¬ (s.call call).Rings target client := by
        intro target rung
        have impossible := (rings call target).mpr rung
        simp [rungAs, listed] at impossible
      simp [silentEntry call silent]
  | some incoming =>
      have lists : ∀ call target, incoming.lookup call = some target ↔
          (s.call call).Rings target client := by
        simpa [rungAs, listed] using rings
      refine (GuardedRuns.foldl_pending (fun pending (acc : CallManager × List UpdateCallAction) =>
        WithdrawnUpTo client s pending acc.1 ∧ ∀ call ∈ pending, ∃ target,
          incoming.lookup call = some target) ?_ ?_).1
      · rintro head pending ⟨state, actions⟩ ⟨before, isListed⟩
        obtain ⟨target, found⟩ := isListed head (List.mem_cons_self ..)
        have before : WithdrawnUpTo client s (head :: pending) state := before
        have sameCall : state.call head = s.call head := by
          simp [CallManager.call, before.ringingCalls, before.activeCalls]
        obtain ⟨table, activeCalls, maxConfSize⟩ := cleanupIncomingCall_tables order
          (sameCall ▸ coherent.wellFormed head) (sameCall ▸ answerable head)
          (sameCall ▸ (lists head target).mp found)
        simp only [found]
        refine ⟨before.round ?_ activeCalls maxConfSize,
          fun call member => isListed call (List.mem_cons_of_mem _ member)⟩
        intro call
        rw [table, before.ringingCalls head, if_pos (List.mem_cons_self ..)]
      · refine ⟨⟨order.calls.nodup_list _, fun call => ?_, rfl, rfl⟩, ?_⟩
        · split
          · rfl
          · rename_i notListed
            rw [Enumeration.mem_list, Finmap.mem_keys_iff_lookup, not_exists] at notListed
            refine (silentEntry call fun target rung => ?_).symm
            exact notListed target ((lists call target).mpr rung)
        · intro call member
          rwa [Enumeration.mem_list, Finmap.mem_keys_iff_lookup] at member

/-! ## Disconnecting and hanging up -/

/-- What a disconnect of a client that is busy with a call has in common with ending that
call. -/
structure DisconnectsAsHangUp (s : CallManager) (call : CallId) (client : ClientId) : Prop where
  /-- A client that rings for nothing disconnects as it hangs up. -/
  state : s.clientIncomingCalls.lookup client = none → ∀ first second,
    (s.cleanupClientCalls first client).1 = (s.endCall second call client).1
  /-- It reports the same actions, in some order. -/
  actions : s.clientIncomingCalls.lookup client = none → ∀ first second,
    ∃ actions, (s.endCall second call client).2 = some actions ∧
      ((s.cleanupClientCalls first client).2 : Multiset UpdateCallAction) = actions
  /-- A client that also rings is withdrawn from the calls it rings for. -/
  withdrawn : ∀ first second third,
    (s.cleanupClientCalls first client).1 =
      (s.endCall second call client).1.withdrawEverywhere third client

/-- A client can leave a call in one way only. -/
theorem Departs.unique {client : ClientId} {before first second : CallState}
    (one : Departs client before first) (two : Departs client before second) : first = second := by
  cases one with
  | hangUp => cases two; rfl
  | tearDown joined decides =>
      cases two with
      | tearDown => rfl
      | leave _ notLeader conference =>
          rcases decides with leads | few
          · exact absurd leads notLeader
          · omega
  | leave joined notLeader conference =>
      cases two with
      | tearDown _ decides =>
          rcases decides with leads | few
          · exact absurd leads notLeader
          · omega
      | leave => rfl

theorem Coherent.endCall {s : CallManager} (coherent : Coherent s) (order : Iteration)
    (call : CallId) (client : ClientId) : Coherent (s.endCall order call client).1 := by
  let request : Request := ⟨.endCall call client, order, 0⟩
  have leaves : request.op.Leaves call client := .inl rfl
  exact (endCall_follows coherent leaves none).coherent coherent

theorem Coherent.cleanupClientCalls {s : CallManager} (coherent : Coherent s) (order : Iteration)
    (client : ClientId) : Coherent (s.cleanupClientCalls order client).1 := by
  let request : Request := ⟨.cleanupClientCalls client, order, 0⟩
  have isOp : request.op = .cleanupClientCalls client := rfl
  exact (cleanupClientCalls_follows coherent isOp none).coherent coherent

/-- A client is not listed as ringing exactly when it rings for nothing. -/
theorem Coherent.lookup_incoming_none {s : CallManager} (coherent : Coherent s)
    (client : ClientId) :
    s.clientIncomingCalls.lookup client = none ↔
      ∀ call target, ¬ (s.call call).Rings target client := by
  have rings : ∀ call target, rungAs s.clientIncomingCalls client call = some target ↔
      (s.call call).Rings target client := by
    simpa using coherent.indexed.incoming client
  constructor
  · intro unlisted call target rung
    have listed := (rings call target).mpr rung
    simp [rungAs, unlisted] at listed
  · intro silent
    cases listed : s.clientIncomingCalls.lookup client with
    | none => rfl
    | some calls =>
        obtain ⟨call, target, found⟩ := (Finmap.isEmpty_eq_false_iff calls).mp
          (coherent.indexed.populated client calls listed)
        exact absurd ((rings call target).mp (by simp [rungAs, listed, found])) (silent call target)

/-- Ending a call leads to one state, whatever order its hash maps are walked in. -/
theorem endCall_order {s : CallManager} (coherent : Coherent s) (first second : Iteration)
    (call : CallId) (client : ClientId) :
    (s.endCall first call client).1 = (s.endCall second call client).1 := by
  rcases endCall_spec coherent first call client with ⟨outside, one, _⟩ | ⟨engaged, _, one⟩
  · rcases endCall_spec coherent second call client with ⟨_, two, _⟩ | ⟨engaged, _⟩
    · rw [one, two]
    · exact absurd engaged outside
  · rcases endCall_spec coherent second call client with ⟨outside, _⟩ | ⟨_, _, two⟩
    · exact absurd engaged outside
    · have calls : ∀ other, (s.endCall first call client).1.call other =
          (s.endCall second call client).1.call other := by
        intro other
        by_cases same : other = call
        · subst same
          exact one.departs.unique two.departs
        · rw [one.others other same, two.others other same]
      refine (coherent.endCall first call client).ext_tables
        (coherent.endCall second call client) ?_ ?_ ?_
      · exact Finmap.ext_lookup fun other => congrArg CallState.ringing (calls other)
      · exact Finmap.ext_lookup fun other => congrArg CallState.active (calls other)
      · rw [endCall_maxConfSize, endCall_maxConfSize]

/-- A client that is busy with a call disconnects as it hangs up. -/
theorem Coherent.disconnectsAsHangUp {s : CallManager} (coherent : Coherent s) {call : CallId}
    {client : ClientId} (busy : s.clientActiveCalls.lookup client = some call)
    (answerable : ∀ order other, ((s.endCall order call client).1.call other).Answerable) :
    DisconnectsAsHangUp s call client := by
  have own : ∀ first second, (s.cleanupOwnCall first client).1 =
      (s.endCall second call client).1 := by
    intro first second
    rw [cleanupOwnCall_eq_endCall coherent first busy, endCall_order coherent first second]
  have cleanup : ∀ first second, s.cleanupClientCalls first client =
      (((s.endCall second call client).1.cleanupIncomingCalls first client).1,
        (s.cleanupOwnCall first client).2 ++
          ((s.endCall second call client).1.cleanupIncomingCalls first client).2) := by
    intro first second
    rw [← own first second]
    rfl
  have silent : s.clientIncomingCalls.lookup client = none → ∀ first second,
      (s.endCall second call client).1.cleanupIncomingCalls first client =
        ((s.endCall second call client).1, []) := by
    intro unlisted first second
    have unlistedAfter : (s.endCall second call client).1.clientIncomingCalls.lookup client =
        none := by
      rw [(coherent.endCall second call client).lookup_incoming_none]
      rw [coherent.lookup_incoming_none] at unlisted
      rcases endCall_spec coherent second call client with ⟨_, same, _⟩ | ⟨_, _, departed⟩
      · rwa [same]
      · intro other target
        by_cases same : other = call
        · subst same
          exact departed.departs.silent (coherent.wellFormed other) target
        · rw [departed.others other same]
          exact unlisted other target
    simp [cleanupIncomingCalls, unlistedAfter]
  constructor
  · intro unlisted first second
    rw [cleanup first second, silent unlisted]
  · intro unlisted first second
    have engaged := (coherent.indexed.busy client call).mp busy
    rcases endCall_spec coherent second call client with ⟨outside, _⟩ | ⟨_, reported, _⟩
    · exact absurd engaged outside
    · obtain ⟨actions, isActions⟩ := Option.isSome_iff_exists.mp reported
      refine ⟨actions, isActions, ?_⟩
      have same := perm_cleanupOwnCall coherent first second busy
      rw [isActions, Option.getD_some] at same
      rw [cleanup first second, silent unlisted, List.append_nil]
      exact Multiset.coe_eq_coe.mpr same
  · intro first second third
    have middle := coherent.endCall second call client
    obtain ⟨withdrawn, coherent'⟩ := withdrawEverywhere_spec middle third client
    have cleaned := cleanupIncomingCalls_withdraws middle (answerable second) first client
    have coherentCleaned := coherent.cleanupClientCalls first client
    rw [cleanup first second] at coherentCleaned ⊢
    exact cleaned.unique withdrawn coherentCleaned coherent'

/-- In every state the call manager reaches, a client that is busy with a call disconnects as
it hangs up. -/
theorem run_disconnectsAsHangUp (maxConfSize : ℕ) (requests : List Request)
    (fromHandler : ∀ request ∈ requests, request.op.FromHandler) (call : CallId)
    (client : ClientId)
    (busy : ((CallManager.new maxConfSize).run requests).clientActiveCalls.lookup client =
      some call) :
    DisconnectsAsHangUp ((CallManager.new maxConfSize).run requests) call client := by
  have start := coherent_new maxConfSize
  have coherent := run_coherent start fun request member =>
    (fromHandler request member).fromCaller
  refine coherent.disconnectsAsHangUp busy ?_
  intro order other
  have ends : ((CallManager.new maxConfSize).run requests).endCall order call client =
      ((CallManager.new maxConfSize).run (requests ++ [⟨.endCall call client, order, 0⟩]),
        (((CallManager.new maxConfSize).run requests).endCall order call client).2) := by
    simp [CallManager.run, CallManager.next, CallManager.execute]
  rw [ends]
  refine run_answerable start ?_ ?_ other
  · intro call entry found
    simp [CallManager.new, CallManager.call] at found
  · intro request member
    rcases List.mem_append.mp member with earlier | last
    · exact fromHandler request earlier
    · cases List.mem_singleton.mp last
      trivial

theorem conferenceOfThree_disconnectsAsHangUp :
    ((CallManager.new 5).run conferenceOfThree).clientActiveCalls.lookup ⟨"LOVV"⟩ = some ⟨1⟩ ∧
      DisconnectsAsHangUp ((CallManager.new 5).run conferenceOfThree) ⟨1⟩ ⟨"LOVV"⟩ :=
  ⟨by decide +kernel, run_disconnectsAsHangUp 5 conferenceOfThree conferenceOfThree_fromHandler
    ⟨1⟩ ⟨"LOVV"⟩ (by decide +kernel)⟩

end Vacs
