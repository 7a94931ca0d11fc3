import Vacs.Calls.Disconnecting

/-!
# What operations report about calls

Clients learn about a call only through what the operations of the call manager return:
updates of its participants and actions that cancel ringing targets or drop participants.

Every update that an operation returns is the state of its call afterwards (`Current`),
even if the operation goes on with other calls. Ending a call either removes it, and then
the actions are one drop for every other participant and one cancellation for every
target that rang, or the client alone leaves it, and then there is one update
(`endCall_actions`). In both cases everybody else in the call is addressed.
-/

set_option autoImplicit false

namespace Vacs

open CallManager

/-! ## The report of a call -/

namespace CallState

/-- The update that describes the state of a call. -/
def report (order : Iteration) (callId : CallId) (state : CallState) : UpdateParticipants where
  callId := callId
  invitedParticipants := (state.ringing.map fun entry => entry.invitedParticipants order).getD ∅
  joinedParticipants := (state.active.map ActiveCallEntry.participants).getD ∅
  conferenceLeader := state.active.bind ActiveCallEntry.conferenceLeader

end CallState

/-- The update is the report of its call. -/
def Current (order : Iteration) (s : CallManager) (update : UpdateParticipants) : Prop :=
  update = (s.call update.callId).report order update.callId

theorem updateWith_eq (s : CallManager) (callId : CallId) (invited : CallParticipants) :
    s.updateWith callId invited =
      { (s.call callId).report .increasing callId with invitedParticipants := invited } := by
  unfold updateWith activeCallSnapshot CallState.report CallManager.call
  cases s.activeCalls.lookup callId <;> rfl

theorem pendingInvitations_eq (order : Iteration) (s : CallManager) (callId : CallId) :
    s.pendingInvitations order callId =
      ((s.call callId).report order callId).invitedParticipants := by
  unfold pendingInvitations CallState.report CallManager.call
  cases s.ringingCalls.lookup callId <;> rfl

/-- An update with the invitations of an entry is current if the entry is the one that rings, or
has nobody left to ring. -/
theorem current_updateWith {order : Iteration} {s : CallManager} {callId : CallId}
    {invited : CallParticipants} (isInvited : invited = s.pendingInvitations order callId) :
    Current order s (s.updateWith callId invited) := by
  unfold Current
  rw [updateWith_eq, isInvited, pendingInvitations_eq]
  rfl

theorem Current.of_call_eq {order : Iteration} {s s' : CallManager} {update : UpdateParticipants}
    (current : Current order s update) (same : s'.call update.callId = s.call update.callId) :
    Current order s' update := by
  unfold Current
  rw [same]
  exact current

/-- Targets that nobody is left to answer invite nobody. -/
theorem invitedParticipants_of_failed {entry : RingingCallEntry} (order : Iteration)
    (failed : entry.allTargetsFailed = true) : entry.invitedParticipants order = ∅ := by
  unfold RingingCallEntry.invitedParticipants
  rw [List.flatMap_eq_nil_iff.mpr ?nobody]
  case nobody =>
    rintro ⟨target, ringing⟩ member
    rw [mem_targetList] at member
    rw [List.map_eq_nil_iff, List.eq_nil_iff_forall_not_mem]
    intro client
    rw [Enumeration.mem_list]
    intro notified
    rw [RingingCallEntry.allTargetsFailed, Bool.not_eq_true', ← Bool.not_eq_true,
      Finmap.anyValue_iff] at failed
    refine failed ⟨target, ringing, member, ?_⟩
    simp only [RingingTargetEntry.allRejectedOrErrored, Bool.not_eq_true', decide_eq_false_iff_not]
    exact Finset.ne_empty_of_mem notified
  rfl

theorem failed_of_isEmpty (entry : RingingCallEntry) (none : entry.targets.isEmpty = true) :
    entry.allTargetsFailed = true := by
  rw [RingingCallEntry.allTargetsFailed, Bool.not_eq_true', ← Bool.not_eq_true, Finmap.anyValue_iff]
  rintro ⟨target, ringing, present, -⟩
  rw [Finmap.isEmpty_iff] at none
  rw [none] at present
  cases present

/-- The pending invitations after an entry was settled: it stays, unless it has failed. -/
theorem pendingInvitations_settle {order : Iteration} {s : CallManager} {callId : CallId}
    {entry : RingingCallEntry} (failed : Bool)
    (isFailed : failed = true → entry.allTargetsFailed = true)
    (isRinging : s.ringingCalls.lookup callId = if failed then none else some entry) :
    entry.invitedParticipants order = s.pendingInvitations order callId := by
  unfold pendingInvitations
  rw [isRinging]
  cases failed with
  | true => exact invitedParticipants_of_failed order (isFailed rfl)
  | false => rfl

/-! ## Updates of the operations -/

/-- The updates among actions. -/
def UpdateCallAction.update? : UpdateCallAction → Option UpdateParticipants
  | .updateParticipants update => some update
  | .cancelRingingTarget _ | .dropParticipant _ _ => none

/-- All updates that an operation returns. -/
def Outcome.updates : Outcome → List UpdateParticipants
  | .attempted _ => []
  | .terminated (.targetFailed _ update) => [update]
  | .terminated (.changed actions) => actions.filterMap UpdateCallAction.update?
  | .terminated .callNotFound | .terminated .clientNotNotified | .terminated .continued => []
  | .answered (.accepted _ update) => [update]
  | .answered .acceptorBusy | .answered .notFound => []
  | .dropped (.obsolete update) => [update]
  | .dropped (.ringingTargetCancelled _ update) => [update]
  | .dropped (.participantDropped _ update) => [update]
  | .dropped .callNotFound | .dropped .notPermitted => []
  | .ended none => []
  | .ended (some actions) => actions.filterMap UpdateCallAction.update?
  | .reported (.evicted _ _ actions) => actions.filterMap UpdateCallAction.update?
  | .reported .invalidReport | .reported .recorded => []
  | .cleaned actions => actions.filterMap UpdateCallAction.update?

theorem update?_cancels (targets : List RingingTarget) :
    (targets.map UpdateCallAction.cancelRingingTarget).filterMap UpdateCallAction.update? = [] := by
  simp [UpdateCallAction.update?]

theorem update?_drops (callId : CallId) (clients : List ClientId) :
    (clients.map (UpdateCallAction.dropParticipant callId)).filterMap UpdateCallAction.update? =
      [] := by
  simp [UpdateCallAction.update?]

theorem update?_cancelPendingInvitations (order : Iteration) (s : CallManager) (callId : CallId) :
    (s.cancelPendingInvitations order callId).2.filterMap UpdateCallAction.update? = [] := by
  unfold cancelPendingInvitations
  split
  · rfl
  · exact update?_cancels _

theorem markClient_current {order : Iteration} {s s' : CallManager} {callId : CallId}
    {clientId : ClientId} {markFn : RingingTargetEntry → ClientId → RingingTargetEntry}
    {outcome : CallTerminationOutcome}
    (marked : s.markClientWithinRingingCalls order callId clientId markFn = (s', outcome))
    {update : UpdateParticipants} (member : update ∈ Outcome.updates (.terminated outcome)) :
    Current order s' update := by
  unfold markClientWithinRingingCalls at marked
  simp only at marked
  split at marked
  · cases marked
    cases member
  · rename_i entry found
    split at marked
    · cases marked
      cases member
    · split at marked
      · cases marked
        cases member
      · split at marked
        · cases marked
          cases member
        · cases marked
          cases List.mem_singleton.mp member
          refine current_updateWith (pendingInvitations_settle
            (Finmap.isEmpty (entry.targets.filterMap fun _ => markTarget markFn clientId))
            (failed_of_isEmpty
              { entry with targets := entry.targets.filterMap fun _ => markTarget markFn clientId })
            ?_)
          split <;> simp

theorem acceptCall_current {order : Iteration} {s s' : CallManager} {callId : CallId}
    {clientId : ClientId} {outcome : AcceptCallOutcome}
    (accepted : s.acceptCall order callId clientId = (s', outcome))
    {update : UpdateParticipants} (member : update ∈ Outcome.updates (.answered outcome)) :
    Current order s' update := by
  unfold acceptCall at accepted
  split at accepted
  · cases accepted
    cases member
  · split at accepted
    · cases accepted
      cases member
    · rename_i entry found
      simp only at accepted
      split at accepted
      · cases accepted
        cases member
      · cases accepted
        cases List.mem_singleton.mp member
        apply current_updateWith
        generalize entry.targets.retain (fun _ ringing => !ringing.hasNotifiedClient clientId) =
          targets
        refine pendingInvitations_settle targets.isEmpty
          (failed_of_isEmpty { entry with targets := targets }) ?_
        simp only
        split <;> simp

theorem obsoleteOutcome_current {order : Iteration} {s : CallManager} {callId : CallId}
    {update : UpdateParticipants}
    (member : update ∈ Outcome.updates (.dropped (s.obsoleteOutcome order callId))) :
    Current order s update := by
  unfold obsoleteOutcome at member
  simp only at member
  split at member
  · cases member
  · cases List.mem_singleton.mp member
    exact current_updateWith rfl

theorem dropRingingTarget_current {order : Iteration} {s s' : CallManager} {callId : CallId}
    {clientId : ClientId} {target : CallTarget} {outcome : DropTargetOutcome}
    (dropped : s.dropRingingTarget order callId clientId target = some (s', outcome))
    {update : UpdateParticipants} (member : update ∈ Outcome.updates (.dropped outcome)) :
    Current order s' update := by
  unfold dropRingingTarget at dropped
  split at dropped
  · cases dropped
  · rename_i entry found
    split at dropped
    · cases dropped
    · rename_i ringing present
      split at dropped
      · cases dropped
        cases member
      · cases dropped
        cases List.mem_singleton.mp member
        refine current_updateWith (pendingInvitations_settle
          (Finmap.isEmpty (entry.targets.erase target))
          (failed_of_isEmpty { entry with targets := entry.targets.erase target }) ?_)
        split <;> simp

theorem dropJoinedParticipant_current {order : Iteration} {s s' : CallManager} {callId : CallId}
    {clientId : ClientId} {target : CallTarget} {reason : CallDropReason}
    {outcome : DropTargetOutcome}
    (dropped : s.dropJoinedParticipant order callId clientId target reason = (s', outcome))
    {update : UpdateParticipants} (member : update ∈ Outcome.updates (.dropped outcome)) :
    Current order s' update := by
  unfold dropJoinedParticipant at dropped
  split at dropped
  · cases dropped
    exact obsoleteOutcome_current member
  · split at dropped
    · cases dropped
      cases member
    · split at dropped
      · cases dropped
        exact obsoleteOutcome_current member
      · split at dropped
        · cases dropped
          exact obsoleteOutcome_current member
        · split at dropped
          · cases dropped
            cases member
          · split at dropped
            · cases dropped
              cases member
            · split at dropped
              · cases dropped
                cases member
              · cases dropped
                cases List.mem_singleton.mp member
                exact current_updateWith rfl

theorem dropTarget_current {order : Iteration} {s s' : CallManager} {callId : CallId}
    {clientId : ClientId} {target : CallTarget} {reason : CallDropReason}
    {outcome : DropTargetOutcome}
    (dropped : s.dropTarget order callId clientId target reason = (s', outcome))
    {update : UpdateParticipants} (member : update ∈ Outcome.updates (.dropped outcome)) :
    Current order s' update := by
  unfold dropTarget at dropped
  cases ringing : s.dropRingingTarget order callId clientId target with
  | some result =>
      rw [ringing] at dropped
      cases dropped
      exact dropRingingTarget_current ringing member
  | none =>
      rw [ringing] at dropped
      exact dropJoinedParticipant_current dropped member

theorem endActive_current {order : Iteration} {s s' : CallManager} {callId : CallId}
    {clientId : ClientId} {actions : List UpdateCallAction}
    (ended : s.endActive order callId clientId = (s', some actions))
    {update : UpdateParticipants} (member : update ∈ actions.filterMap UpdateCallAction.update?) :
    Current order s' update := by
  unfold endActive at ended
  split at ended
  · cases ended
  · split at ended
    · cases ended
    · simp only at ended
      split at ended
      · cases ended
        rw [update?_cancelPendingInvitations] at member
        cases member
      · split at ended
        · cases ended
          rw [List.filterMap_append, update?_drops, update?_cancelPendingInvitations] at member
          cases member
        · cases ended
          cases List.mem_singleton.mp member
          exact current_updateWith rfl

theorem endCall_current {order : Iteration} {s s' : CallManager} {callId : CallId}
    {clientId : ClientId} {actions : List UpdateCallAction}
    (ended : s.endCall order callId clientId = (s', some actions))
    {update : UpdateParticipants} (member : update ∈ actions.filterMap UpdateCallAction.update?) :
    Current order s' update := by
  have noUpdates : ∀ cancels, (s.endRinging order callId clientId).2 = some cancels →
      cancels.filterMap UpdateCallAction.update? = [] := by
    intro cancels isCancels
    unfold endRinging at isCancels
    split at isCancels
    · cases isCancels
    · split at isCancels
      · cases isCancels
        exact update?_cancels _
      · cases isCancels
  unfold endCall at ended
  cases ringing : s.endRinging order callId clientId with
  | mk middle ringingActions =>
      rw [ringing] at ended noUpdates
      simp only at ended
      cases active : middle.endActive order callId clientId with
      | mk final activeActions =>
          rw [active] at ended
          cases activeActions with
          | none =>
              cases ringingActions with
              | none => cases ended
              | some cancels =>
                  cases ended
                  rw [noUpdates actions rfl] at member
                  cases member
          | some updates =>
              cases ringingActions with
              | none =>
                  cases ended
                  exact endActive_current active member
              | some cancels =>
                  cases ended
                  rw [List.filterMap_append, noUpdates cancels rfl, List.append_nil] at member
                  exact endActive_current active member

/-! ## Updates of a disconnect -/

theorem cleanupActive_current {order : Iteration} {s s' : CallManager} {callId : CallId}
    {clientId : ClientId} {actions : List UpdateCallAction}
    (cleaned : s.cleanupActive order callId clientId = (s', actions))
    {update : UpdateParticipants} (member : update ∈ actions.filterMap UpdateCallAction.update?) :
    update.callId = callId ∧ Current order s' update := by
  unfold cleanupActive at cleaned
  split at cleaned
  · cases cleaned
    cases member
  · split at cleaned
    · cases cleaned
      cases member
    · simp only at cleaned
      split at cleaned
      · rw [← Prod.eta (cancelPendingInvitations ..)] at cleaned
        cases cleaned
        rw [update?_cancelPendingInvitations] at member
        cases member
      · split at cleaned
        · cases cleaned
          rw [List.filterMap_append, update?_drops, update?_cancelPendingInvitations] at member
          cases member
        · cases cleaned
          cases List.mem_singleton.mp member
          exact ⟨rfl, current_updateWith rfl⟩

/-- The updates about the own call of a client that disconnects. -/
theorem cleanupOwnCall_current {order : Iteration} {s s' : CallManager} {clientId : ClientId}
    {actions : List UpdateCallAction} (cleaned : s.cleanupOwnCall order clientId = (s', actions))
    {update : UpdateParticipants} (member : update ∈ actions.filterMap UpdateCallAction.update?) :
    s.clientActiveCalls.lookup clientId = some update.callId ∧ Current order s' update := by
  unfold cleanupOwnCall at cleaned
  split at cleaned
  · cases cleaned
    cases member
  · rename_i callId busy
    simp only at cleaned
    cases cleaned
    rw [List.filterMap_append, List.mem_append] at member
    rcases member with cancelled | updated
    · unfold cleanupRinging at cancelled
      split at cancelled
      · cases cancelled
      · split at cancelled
        · rw [update?_cancels] at cancelled
          cases cancelled
        · cases cancelled
    · obtain ⟨isCall, current⟩ := cleanupActive_current rfl updated
      rw [isCall]
      exact ⟨busy, current⟩

/-- A ringing entry is settled: it stays, unless it has failed. -/
theorem settle_spec {s s' : CallManager} {callId : CallId} {remaining : RingingCallEntry}
    {actions made : List UpdateCallAction}
    (settled : (if remaining.allTargetsFailed then
        ({ s.freeCaller remaining.callerId with
            ringingCalls := (s.freeCaller remaining.callerId).ringingCalls.erase callId }, made)
      else ({ s with ringingCalls := s.ringingCalls.insert callId remaining }, made)) =
        (s', actions)) :
    actions = made ∧ s'.activeCalls = s.activeCalls ∧
      ∀ other, s'.ringingCalls.lookup other =
        if other = callId then (if remaining.allTargetsFailed then none else some remaining)
        else s.ringingCalls.lookup other := by
  split at settled
  · rename_i failed
    cases settled
    refine ⟨rfl, freeCaller_activeCalls s remaining.callerId, fun other => ?_⟩
    simp [Finmap.lookup_erase_eq, freeCaller_ringingCalls, failed]
  · rename_i stays
    cases settled
    refine ⟨rfl, rfl, fun other => ?_⟩
    simp [Finmap.lookup_insert_eq, stays]

/-- A ringing entry is settled, and an update may have been made before. -/
theorem settle_current {order : Iteration} {s s' : CallManager} {callId : CallId}
    {remaining : RingingCallEntry} {actions made : List UpdateCallAction}
    (isMade : ∀ update ∈ made.filterMap UpdateCallAction.update?,
      update = s.updateWith callId (remaining.invitedParticipants order))
    (settled : (if remaining.allTargetsFailed then
        ({ s.freeCaller remaining.callerId with
            ringingCalls := (s.freeCaller remaining.callerId).ringingCalls.erase callId }, made)
      else ({ s with ringingCalls := s.ringingCalls.insert callId remaining }, made)) =
        (s', actions)) :
    (∀ other, other ≠ callId → s'.call other = s.call other) ∧
      ∀ update ∈ actions.filterMap UpdateCallAction.update?,
        update.callId = callId ∧ Current order s' update := by
  obtain ⟨isActions, active, ringing⟩ := settle_spec settled
  refine ⟨fun other differs => ?_, fun update member => ?_⟩
  · simp [CallManager.call, active, ringing, differs]
  · rw [isActions] at member
    rw [isMade update member]
    refine ⟨rfl, ?_⟩
    have sameUpdate : s.updateWith callId (remaining.invitedParticipants order) =
        s'.updateWith callId (remaining.invitedParticipants order) := by
      simp only [updateWith, activeCallSnapshot, active]
    rw [sameUpdate]
    refine current_updateWith (pendingInvitations_settle remaining.allTargetsFailed id ?_)
    rw [ringing, if_pos rfl]

/-- One of the calls a client that disconnects rings for. -/
theorem cleanupIncomingCall_current {order : Iteration} {s s' : CallManager} {callId : CallId}
    {clientId : ClientId} {callTarget : CallTarget} {actions : List UpdateCallAction}
    (cleaned : s.cleanupIncomingCall order clientId callId callTarget = (s', actions)) :
    (∀ other, other ≠ callId → s'.call other = s.call other) ∧
      ∀ update ∈ actions.filterMap UpdateCallAction.update?,
        update.callId = callId ∧ Current order s' update := by
  unfold cleanupIncomingCall at cleaned
  split at cleaned
  · cases cleaned
    exact ⟨fun _ _ => rfl, fun _ member => by cases member⟩
  · simp only at cleaned
    split at cleaned
    · exact settle_current (fun _ member => by cases member) cleaned
    · split at cleaned
      · refine settle_current (fun update member => ?_) cleaned
        exact List.mem_singleton.mp member
      · exact settle_current (fun _ member => by cases member) cleaned

/-- A loop over calls whose rounds each touch one call and act on it: what holds of an action and
the state of its call holds of it at the end. -/
theorem foldl_acts (invariant : CallManager → Prop)
    (holds : CallManager → CallId → UpdateCallAction → Prop)
    (congr : ∀ {s s' : CallManager} {callId : CallId} {action : UpdateCallAction},
      s'.call callId = s.call callId → holds s callId action → holds s' callId action)
    {round : CallManager × List UpdateCallAction → CallId → CallManager × List UpdateCallAction}
    (rounds : ∀ acc callId, invariant acc.1 → invariant (round acc callId).1 ∧
      ∃ more, (round acc callId).2 = acc.2 ++ more ∧
        (∀ other, other ≠ callId → (round acc callId).1.call other = acc.1.call other) ∧
        ∀ action ∈ more, holds (round acc callId).1 callId action)
    {calls : List CallId} :
    ∀ {start : CallManager × List UpdateCallAction}, invariant start.1 → calls.Nodup →
      (∀ action ∈ start.2, ∃ callId ∉ calls, holds start.1 callId action) →
      ∀ action ∈ (calls.foldl round start).2, ∃ callId,
        holds (calls.foldl round start).1 callId action := by
  induction calls with
  | nil =>
      intro start _ _ before action member
      obtain ⟨callId, _, was⟩ := before action member
      exact ⟨callId, was⟩
  | cons callId calls ih =>
      intro start initially nodup before
      obtain ⟨notAgain, nodup⟩ := List.nodup_cons.mp nodup
      obtain ⟨kept, more, isMore, others, acts⟩ := rounds start callId initially
      refine ih kept nodup fun action member => ?_
      rw [isMore, List.mem_append] at member
      rcases member with earlier | isNew
      · obtain ⟨other, absent, was⟩ := before action earlier
        rw [List.mem_cons, not_or] at absent
        exact ⟨other, absent.2, congr (others other absent.1) was⟩
      · exact ⟨callId, notAgain, acts action isNew⟩

/-- What a disconnecting client does to the calls it rings for, action by action. -/
theorem cleanupIncomingCalls_acts (invariant : CallManager → Prop)
    (holds : CallManager → CallId → UpdateCallAction → Prop)
    (congr : ∀ {s s' : CallManager} {callId : CallId} {action : UpdateCallAction},
      s'.call callId = s.call callId → holds s callId action → holds s' callId action)
    (order : Iteration) (clientId : ClientId)
    (acts : ∀ (s : CallManager) (callId : CallId) (callTarget : CallTarget), invariant s →
      invariant (s.cleanupIncomingCall order clientId callId callTarget).1 ∧
        ∀ action ∈ (s.cleanupIncomingCall order clientId callId callTarget).2,
          holds (s.cleanupIncomingCall order clientId callId callTarget).1 callId action)
    {s : CallManager}
    (initially : invariant { s with
      clientIncomingCalls := s.clientIncomingCalls.erase clientId }) :
    ∀ action ∈ (s.cleanupIncomingCalls order clientId).2, ∃ callId,
      holds (s.cleanupIncomingCalls order clientId).1 callId action := by
  unfold cleanupIncomingCalls
  cases s.clientIncomingCalls.lookup clientId with
  | none => exact fun _ member => by cases member
  | some incoming =>
      refine foldl_acts invariant holds congr ?_ initially (order.calls.nodup_list _)
        fun _ member => by cases member
      intro acc callId keeps
      cases incoming.lookup callId with
      | none =>
          exact ⟨keeps, [], (List.append_nil _).symm, fun _ _ => rfl,
            fun _ member => by cases member⟩
      | some callTarget =>
          have others := (cleanupIncomingCall_current
            (rfl : acc.1.cleanupIncomingCall order clientId callId callTarget = (_, _))).1
          obtain ⟨kept, acted⟩ := acts acc.1 callId callTarget keeps
          exact ⟨kept, _, rfl, others, acted⟩

theorem cleanupIncomingCalls_current {order : Iteration} {s : CallManager} {clientId : ClientId}
    {update : UpdateParticipants}
    (member : update ∈
      (s.cleanupIncomingCalls order clientId).2.filterMap UpdateCallAction.update?) :
    Current order (s.cleanupIncomingCalls order clientId).1 update := by
  obtain ⟨action, isAction, isUpdate⟩ := List.mem_filterMap.mp member
  have congr : ∀ {s s' : CallManager} {callId : CallId} {action : UpdateCallAction},
      s'.call callId = s.call callId →
        (∀ update ∈ action.update?, update.callId = callId ∧ Current order s update) →
          ∀ update ∈ action.update?, update.callId = callId ∧ Current order s' update := by
    intro s s' callId action same reported update isUpdate
    obtain ⟨isCall, current⟩ := reported update isUpdate
    refine ⟨isCall, current.of_call_eq ?_⟩
    rw [isCall]
    exact same
  obtain ⟨callId, reported⟩ := cleanupIncomingCalls_acts (fun _ => True)
    (fun s callId action => ∀ update ∈ action.update?,
      update.callId = callId ∧ Current order s update)
    congr order clientId (fun s callId callTarget _ => ⟨trivial, fun action member update isUpdate =>
      (cleanupIncomingCall_current
        (rfl : s.cleanupIncomingCall order clientId callId callTarget = (_, _))).2 update
          (List.mem_filterMap.mpr ⟨action, member, isUpdate⟩)⟩) trivial action isAction
  exact (reported update isUpdate).2

theorem Coherent.cleanupOwnCall {s : CallManager} (coherent : Coherent s) (order : Iteration)
    (clientId : ClientId) : Coherent (s.cleanupOwnCall order clientId).1 := by
  cases busy : s.clientActiveCalls.lookup clientId with
  | none =>
      simp only [CallManager.cleanupOwnCall, busy]
      exact coherent
  | some callId =>
      rw [cleanupOwnCall_eq_endCall coherent order busy]
      exact coherent.endCall order callId clientId

/-- A disconnecting client does not ring for the call it has left, which stays as it is. -/
theorem cleanupIncomingCalls_own {s : CallManager} (coherent : Coherent s) (order : Iteration)
    {clientId : ClientId} {callId : CallId} (busy : s.clientActiveCalls.lookup clientId = some callId) :
    ((s.cleanupOwnCall order clientId).1.cleanupIncomingCalls order clientId).1.call callId =
      (s.cleanupOwnCall order clientId).1.call callId := by
  rw [cleanupOwnCall_eq_endCall coherent order busy]
  have isOp : (⟨.cleanupClientCalls clientId, order, 0⟩ : Request).op =
      .cleanupClientCalls clientId := rfl
  obtain ⟨calls, -⟩ := cleanupIncomingCalls_spec (coherent.endCall order callId clientId) isOp none
  rcases endCall_spec coherent order callId clientId with ⟨idle, -⟩ | ⟨-, -, departed⟩
  · exact absurd ((coherent.indexed.busy clientId callId).mp busy) idle
  · rcases calls callId with same | ⟨⟨target, rings⟩, -⟩
    · exact same
    · exact absurd rings (departed.departs.silent (coherent.wellFormed callId) target)

theorem cleanupClientCalls_current {s : CallManager} (coherent : Coherent s) {order : Iteration}
    {clientId : ClientId} {update : UpdateParticipants}
    (member : update ∈ (s.cleanupClientCalls order clientId).2.filterMap
      UpdateCallAction.update?) :
    Current order (s.cleanupClientCalls order clientId).1 update := by
  simp only [cleanupClientCalls] at member ⊢
  rw [List.filterMap_append, List.mem_append] at member
  rcases member with own | incoming
  · obtain ⟨busy, current⟩ :=
      cleanupOwnCall_current (Prod.mk.eta.symm : s.cleanupOwnCall order clientId = _) own
    exact current.of_call_eq (cleanupIncomingCalls_own coherent order busy)
  · exact cleanupIncomingCalls_current incoming

theorem callError_current {order : Iteration} {s s' : CallManager} {callId : CallId}
    {clientId : ClientId} {outcome : CallTerminationOutcome}
    (failed : s.callError order callId clientId = (s', outcome))
    {update : UpdateParticipants} (member : update ∈ Outcome.updates (.terminated outcome)) :
    Current order s' update := by
  unfold callError at failed
  cases marked : s.markClientWithinRingingCalls order callId clientId .markErrored with
  | mk middle result =>
      rw [marked] at failed
      split at failed
      · cases failed
        cases member
      · rename_i isMarked
        cases isMarked
        cases failed
        exact markClient_current marked member
      · rename_i isMarked
        cases isMarked
        cases ended : middle.endCall order callId clientId with
        | mk final actions =>
            rw [ended] at failed
            cases actions with
            | none =>
                cases failed
                cases member
            | some actions =>
                cases failed
                exact endCall_current ended member

theorem reportLinkFailure_current {order : Iteration} {s s' : CallManager} {callId : CallId}
    {reporterId peerId : ClientId} {now : Instant} {outcome : LinkReportOutcome}
    (reported : s.reportLinkFailure order callId reporterId peerId now = (s', outcome))
    {update : UpdateParticipants} (member : update ∈ Outcome.updates (.reported outcome)) :
    Current order s' update := by
  unfold reportLinkFailure at reported
  split at reported
  · cases reported
    cases member
  · split at reported
    · cases reported
      cases member
    · split at reported
      · cases reported
        cases member
      · simp only at reported
        split at reported
        · cases reported
          cases member
        · split at reported
          · rename_i ended
            cases reported
            exact endCall_current ended member
          · cases reported
            cases member

/-- Every update that an operation returns is the state of its call afterwards. -/
theorem execute_current {s : CallManager} (coherent : Coherent s) (request : Request)
    {update : UpdateParticipants} (member : update ∈ (s.execute request).2.updates) :
    Current request.order (s.execute request).1 update := by
  unfold execute at member ⊢
  cases isOp : request.op with
  | attemptCall callId callerId source target notifiedClients =>
      rw [isOp] at member
      cases member
  | rejectCall callId clientId =>
      rw [isOp] at member
      exact markClient_current
        (rfl : s.rejectCall request.order callId clientId = (_, _)) member
  | failRingingRecipient callId clientId =>
      rw [isOp] at member
      exact markClient_current
        (rfl : s.failRingingRecipient request.order callId clientId = (_, _)) member
  | callError callId clientId =>
      rw [isOp] at member
      exact callError_current (rfl : s.callError request.order callId clientId = (_, _)) member
  | acceptCall callId clientId =>
      rw [isOp] at member
      exact acceptCall_current (rfl : s.acceptCall request.order callId clientId = (_, _)) member
  | dropTarget callId clientId target reason =>
      rw [isOp] at member
      exact dropTarget_current
        (rfl : s.dropTarget request.order callId clientId target reason = (_, _)) member
  | endCall callId clientId =>
      rw [isOp] at member
      cases ended : s.endCall request.order callId clientId with
      | mk s' actions =>
          simp only [ended, Prod.map, id] at member ⊢
          cases actions with
          | none => cases member
          | some actions => exact endCall_current ended member
  | reportLinkFailure callId reporterId peerId =>
      rw [isOp] at member
      exact reportLinkFailure_current (rfl : s.reportLinkFailure request.order callId reporterId
        peerId request.now = (_, _)) member
  | cleanupClientCalls clientId =>
      rw [isOp] at member
      exact cleanupClientCalls_current coherent member

/-! ## The actions of ending a call -/

/-- What tells everybody about the end of a call: every other participant is dropped, and every
target that rings is cancelled. -/
inductive TearsDown (s : CallManager) (callId : CallId) (clientId : ClientId) :
    UpdateCallAction → Prop where
  | drop {active : ActiveCallEntry} {participant : ClientId}
      (found : s.activeCalls.lookup callId = some active)
      (joined : participant ∈ active.participants.keys) (isOther : participant ≠ clientId) :
      TearsDown s callId clientId (.dropParticipant callId participant)
  | cancel {entry : RingingCallEntry} {target : CallTarget} {ringing : RingingTargetEntry}
      (found : s.ringingCalls.lookup callId = some entry)
      (present : entry.targets.lookup target = some ringing) :
      TearsDown s callId clientId (.cancelRingingTarget
        ⟨callId, entry.callerId, ringing.source, target, ringing.notifiedClients⟩)

/-- The cancellations of all targets that ring for a call. -/
def cancellations (order : Iteration) (s : CallManager) (callId : CallId) :
    List UpdateCallAction :=
  ((s.ringingCalls.lookup callId).map fun entry =>
    (entry.completeAllTargets order).map UpdateCallAction.cancelRingingTarget).getD []

/-- The drops of all other participants of a call. -/
def drops (order : Iteration) (s : CallManager) (callId : CallId) (clientId : ClientId) :
    List UpdateCallAction :=
  ((s.activeCalls.lookup callId).map fun active =>
    (order.clients.list (active.participants.keys.erase clientId)).map
      (UpdateCallAction.dropParticipant callId)).getD []

theorem cancelPendingInvitations_actions (order : Iteration) (s : CallManager) (callId : CallId) :
    (s.cancelPendingInvitations order callId).2 = cancellations order s callId := by
  unfold cancelPendingInvitations cancellations
  cases s.ringingCalls.lookup callId <;> rfl

/-- The actions of the ringing part, and what is left to cancel. -/
theorem endRinging_actions (order : Iteration) (s : CallManager) (callId : CallId)
    (clientId : ClientId) :
    ((s.endRinging order callId clientId).2 = none ∧
      cancellations order (s.endRinging order callId clientId).1 callId =
        cancellations order s callId) ∨
    ((s.endRinging order callId clientId).2 = some (cancellations order s callId) ∧
      cancellations order (s.endRinging order callId clientId).1 callId = []) := by
  unfold endRinging
  cases found : s.ringingCalls.lookup callId with
  | none => exact Or.inl ⟨rfl, rfl⟩
  | some entry =>
      simp only
      split
      · refine Or.inr ⟨?_, ?_⟩
        · simp [cancellations, found]
        · simp [cancellations, cleanupClientIncomingCalls]
      · exact Or.inl ⟨rfl, rfl⟩

theorem endActive_tearDown_actions {s : CallManager} (order : Iteration) {callId : CallId}
    {clientId : ClientId} {active : ActiveCallEntry}
    (found : s.activeCalls.lookup callId = some active)
    (joined : clientId ∈ active.participants.keys) (size : 2 ≤ active.participants.keys.card)
    (decides : active.conferenceLeader = some clientId ∨ active.participants.keys.card = 2) :
    (s.endActive order callId clientId).2 =
      some (drops order s callId clientId ++ cancellations order s callId) := by
  have card := Finset.card_erase_of_mem joined
  have nonempty := participantsWithoutSelf_nonempty joined size
  have condition : active.conferenceLeader = some clientId ∨
      (active.participants.keys.erase clientId).card ≤ 1 := by
    rcases decides with leads | two
    · exact Or.inl leads
    · right
      omega
  simp only [endActive, found, ActiveCallEntry.involves, joined, decide_true, Bool.not_true,
    Bool.false_eq_true, if_false, nonempty, participantsWithoutSelf_keys, condition, if_true]
  rw [cancelPendingInvitations_actions]
  simp [drops, found, cancellations]

theorem endActive_leave_actions {s : CallManager} (order : Iteration) {callId : CallId}
    {clientId : ClientId} {active : ActiveCallEntry}
    (found : s.activeCalls.lookup callId = some active)
    (joined : clientId ∈ active.participants.keys)
    (notLeader : active.conferenceLeader ≠ some clientId)
    (conference : 3 ≤ active.participants.keys.card) :
    ∃ update, (s.endActive order callId clientId).2 = some [.updateParticipants update] ∧
      update.callId = callId := by
  have card := Finset.card_erase_of_mem joined
  have nonempty := participantsWithoutSelf_nonempty joined (by omega)
  have condition : ¬ (active.conferenceLeader = some clientId ∨
      (active.participants.keys.erase clientId).card ≤ 1) := by
    rintro (leads | few)
    · exact notLeader leads
    · omega
  simp only [endActive, found, ActiveCallEntry.involves, joined, decide_true, Bool.not_true,
    Bool.false_eq_true, if_false, nonempty, participantsWithoutSelf_keys, condition]
  exact ⟨_, rfl, rfl⟩

/-- The actions of both parts of ending a call. -/
theorem endCall_joins (order : Iteration) (s : CallManager) (callId : CallId)
    (clientId : ClientId) :
    (s.endCall order callId clientId).2 =
      ((((s.endRinging order callId clientId).1.endActive order callId clientId).2.map
        fun active => active ++ (s.endRinging order callId clientId).2.getD []).or
          (s.endRinging order callId clientId).2) := by
  unfold endCall
  cases s.endRinging order callId clientId with
  | mk middle ringingActions =>
      simp only
      cases middle.endActive order callId clientId with
      | mk final activeActions =>
          cases activeActions <;> cases ringingActions <;> simp

/-- A call that is ended is gone, with the actions that tear it down, or goes on without the client,
with one update. -/
theorem endCall_actions {s : CallManager} (coherent : Coherent s) {order : Iteration}
    {callId : CallId} {clientId : ClientId} {actions : List UpdateCallAction}
    (ended : (s.endCall order callId clientId).2 = some actions) :
    ((s.endCall order callId clientId).1.call callId = ⟨none, none⟩ ∧
      actions = drops order s callId clientId ++ cancellations order s callId) ∨
    (∃ active update, s.activeCalls.lookup callId = some active ∧
      (s.endCall order callId clientId).1.call callId =
        ⟨s.ringingCalls.lookup callId, some (leaveActive active clientId)⟩ ∧
      actions = [.updateParticipants update] ∧ update.callId = callId) := by
  have wf := coherent.wellFormed callId
  rcases endCall_spec coherent order callId clientId with ⟨-, -, isNone⟩ | ⟨-, -, departed⟩
  · rw [isNone] at ended
    cases ended
  · have departs := departed.departs
    have sameActive : (s.endRinging order callId clientId).1.activeCalls = s.activeCalls := by
      unfold endRinging
      split
      · rfl
      · split <;> rfl
    have sameDrops : drops order (s.endRinging order callId clientId).1 callId clientId =
        drops order s callId clientId := by
      simp only [drops, sameActive]
    rw [endCall_joins] at ended
    generalize after : (s.endCall order callId clientId).1.call callId = final at departs
    generalize before : s.call callId = start at departs
    cases departs with
    | @hangUp entry isCaller =>
        have inactive : s.activeCalls.lookup callId = none := congrArg CallState.active before
        have outside : ¬ ((s.endRinging order callId clientId).1.call callId).Joined clientId := by
          rintro ⟨active, isActive, -⟩
          have : s.activeCalls.lookup callId = some active := sameActive ▸ isActive
          rw [inactive] at this
          cases this
        have noDrops : drops order s callId clientId = [] := by
          simp only [drops, inactive, Option.map_none, Option.getD_none]
        rw [endActive_of_outside order outside] at ended
        refine Or.inl ⟨rfl, ?_⟩
        rw [noDrops, List.nil_append]
        rcases endRinging_actions order s callId clientId with ⟨isNone, -⟩ | ⟨isSome, -⟩
        · rw [isNone] at ended
          cases ended
        · rw [isSome] at ended
          cases ended
          rfl
    | @tearDown ringing active joined decides =>
        have found : s.activeCalls.lookup callId = some active := congrArg CallState.active before
        rw [endActive_tearDown_actions order (sameActive ▸ found) joined
          (wf.twoParticipants active found) decides, sameDrops] at ended
        refine Or.inl ⟨rfl, ?_⟩
        rcases endRinging_actions order s callId clientId with ⟨isNone, rest⟩ | ⟨isSome, rest⟩
        · rw [isNone, rest] at ended
          cases ended
          exact List.append_nil _
        · rw [isSome, rest] at ended
          cases ended
          rw [List.append_nil, Option.getD_some]
    | @leave ringing active joined notLeader conference =>
        have found : s.activeCalls.lookup callId = some active := congrArg CallState.active before
        have ringingIs : s.ringingCalls.lookup callId = ringing := congrArg CallState.ringing before
        -- only the leader may have invitations pending, so the ringing part does nothing
        have notCaller : ¬ (s.call callId).Calls clientId :=
          wf.not_calls found notLeader conference
        have untouched : s.endRinging order callId clientId = (s, none) := by
          rcases endRinging_cases coherent order callId clientId with ⟨-, same⟩ | ⟨calls, -⟩
          · exact same
          · exact absurd calls notCaller
        obtain ⟨update, isUpdate, ofCall⟩ :=
          endActive_leave_actions order found joined notLeader conference
        rw [untouched] at ended
        simp only at ended
        rw [isUpdate] at ended
        cases ended
        refine Or.inr ⟨active, update, found, ?_, rfl, ofCall⟩
        rw [ringingIs]

/-! ## Exactly one action for each change -/

theorem mem_cancellations {s : CallManager} {callId : CallId}
    (wf : (s.call callId).WellFormed callId) (order : Iteration) (action : UpdateCallAction) :
    action ∈ cancellations order s callId ↔
      ∃ entry target ringing, s.ringingCalls.lookup callId = some entry ∧
        entry.targets.lookup target = some ringing ∧ action = .cancelRingingTarget
          ⟨callId, entry.callerId, ringing.source, target, ringing.notifiedClients⟩ := by
  unfold cancellations
  cases found : s.ringingCalls.lookup callId with
  | none => simp
  | some entry =>
      have isCall := wf.ringingCallId entry found
      simp only [Option.map_some, Option.getD_some, RingingCallEntry.completeAllTargets,
        List.map_map, List.mem_map, Prod.exists, mem_targetList]
      constructor
      · rintro ⟨target, ringing, present, rfl⟩
        refine ⟨entry, target, ringing, rfl, present, ?_⟩
        rw [← isCall]
        rfl
      · rintro ⟨_, target, ringing, ⟨⟩, present, rfl⟩
        refine ⟨target, ringing, present, ?_⟩
        rw [← isCall]
        rfl

theorem nodup_cancellations (order : Iteration) (s : CallManager) (callId : CallId) :
    (cancellations order s callId).Nodup := by
  unfold cancellations
  cases s.ringingCalls.lookup callId with
  | none => exact List.nodup_nil
  | some entry =>
      simp only [Option.map_some, Option.getD_some, RingingCallEntry.completeAllTargets,
        List.map_map]
      refine List.Nodup.map_on ?_ (nodup_targetList order entry)
      rintro ⟨first, firstRinging⟩ isFirst ⟨second, secondRinging⟩ isSecond same
      -- an action names its target, and a target rings once
      have sameTarget : first = second := by
        simp only [Function.comp_apply, UpdateCallAction.cancelRingingTarget.injEq,
          RingingTargetEntry.complete, RingingTarget.mk.injEq] at same
        exact same.2.2.2.1
      subst sameTarget
      rw [mem_targetList] at isFirst isSecond
      rw [isFirst] at isSecond
      cases isSecond
      rfl

theorem mem_drops (order : Iteration) (s : CallManager) (callId : CallId) (clientId : ClientId)
    (action : UpdateCallAction) :
    action ∈ drops order s callId clientId ↔
      ∃ active participant, s.activeCalls.lookup callId = some active ∧
        participant ∈ active.participants.keys ∧ participant ≠ clientId ∧
        action = .dropParticipant callId participant := by
  unfold drops
  cases s.activeCalls.lookup callId with
  | none => simp
  | some active =>
      simp only [Option.map_some, Option.getD_some, List.mem_map, Enumeration.mem_list,
        Finset.mem_erase]
      constructor
      · rintro ⟨participant, ⟨isOther, joined⟩, rfl⟩
        exact ⟨active, participant, rfl, joined, isOther, rfl⟩
      · rintro ⟨_, participant, ⟨⟩, joined, isOther, rfl⟩
        exact ⟨participant, ⟨isOther, joined⟩, rfl⟩

theorem nodup_drops (order : Iteration) (s : CallManager) (callId : CallId)
    (clientId : ClientId) : (drops order s callId clientId).Nodup := by
  unfold drops
  cases s.activeCalls.lookup callId with
  | none => exact List.nodup_nil
  | some active =>
      refine List.Nodup.map ?_ (order.clients.nodup_list _)
      intro first second same
      cases same
      rfl

/-- The actions that end a call are those that tear it down, each once. -/
theorem tearDown_exactly {s : CallManager} {callId : CallId}
    (wf : (s.call callId).WellFormed callId) (order : Iteration) (clientId : ClientId) :
    (drops order s callId clientId ++ cancellations order s callId).Nodup ∧
      ∀ action, action ∈ drops order s callId clientId ++ cancellations order s callId ↔
        TearsDown s callId clientId action := by
  constructor
  · apply List.Nodup.append (nodup_drops order s callId clientId)
      (nodup_cancellations order s callId)
    intro action isDrop isCancel
    obtain ⟨_, _, _, _, _, rfl⟩ := (mem_drops order s callId clientId action).mp isDrop
    obtain ⟨_, _, _, _, _, same⟩ := (mem_cancellations wf order _).mp isCancel
    cases same
  · intro action
    rw [List.mem_append, mem_drops, mem_cancellations wf]
    constructor
    · rintro (⟨active, participant, found, joined, isOther, rfl⟩ |
        ⟨entry, target, ringing, found, present, rfl⟩)
      · exact TearsDown.drop found joined isOther
      · exact TearsDown.cancel found present
    · intro tearsDown
      cases tearsDown with
      | drop found joined isOther => exact Or.inl ⟨_, _, found, joined, isOther, rfl⟩
      | cancel found present => exact Or.inr ⟨_, _, _, found, present, rfl⟩

/-! ## What clients can rely on -/

/-- The update is the state of its call: who is notified for which target, who has joined, and
who leads. -/
structure DescribesCall (s : CallManager) (update : UpdateParticipants) : Prop where
  invited : ∀ client target, update.invitedParticipants.lookup client = some target ↔
    s.Notified update.callId target client
  joined : update.joinedParticipants =
    ((s.activeCalls.lookup update.callId).map ActiveCallEntry.participants).getD ∅
  leader : update.conferenceLeader =
    (s.activeCalls.lookup update.callId).bind ActiveCallEntry.conferenceLeader

theorem Current.describesCall {order : Iteration} {s : CallManager} {update : UpdateParticipants}
    (current : Current order s update) (coherent : Coherent s) : DescribesCall s update := by
  have wf := coherent.wellFormed update.callId
  refine ⟨?_, congrArg UpdateParticipants.joinedParticipants current,
    congrArg UpdateParticipants.conferenceLeader current⟩
  intro client target
  have invited : update.invitedParticipants = s.pendingInvitations order update.callId :=
    (congrArg UpdateParticipants.invitedParticipants current).trans
      (pendingInvitations_eq order s update.callId).symm
  rw [invited, notified_iff]
  unfold pendingInvitations CallState.Rings
  unfold CallManager.call at wf ⊢
  cases found : s.ringingCalls.lookup update.callId with
  | none => simp
  | some entry =>
      rw [found] at wf
      simp only [Option.some.injEq, exists_eq_left']
      exact lookup_invitedParticipants wf order client target

/-- The action tells the client about the call. -/
def UpdateCallAction.Addresses : UpdateCallAction → ClientId → Prop
  | .dropParticipant _ participantId, client => participantId = client
  | .cancelRingingTarget target, client => client ∈ target.notifiedClients
  | .updateParticipants update, client =>
      client ∈ update.invitedParticipants.keys ∨ client ∈ update.joinedParticipants.keys

/-- What the actions of ending a call say, with the state before and the state after. -/
inductive EndReported (s s' : CallManager) (callId : CallId) (clientId : ClientId)
    (actions : List UpdateCallAction) : Prop where
  /-- The call is gone, and every participant and target hears of it once. -/
  | gone (silent : s'.ringingCalls.lookup callId = none)
      (ended : s'.activeCalls.lookup callId = none) (once : actions.Nodup)
      (exactly : ∀ action, action ∈ actions ↔ TearsDown s callId clientId action)
  /-- The call goes on without the client, and one update says so. -/
  | goesOn {active : ActiveCallEntry} {update : UpdateParticipants}
      (stays : s'.activeCalls.lookup callId = some active)
      (left : clientId ∉ active.participants.keys)
      (exactly : actions = [.updateParticipants update]) (ofCall : update.callId = callId)

theorem TearsDown.addressed {s : CallManager} {callId : CallId} {clientId client : ClientId}
    (isOther : client ≠ clientId)
    (inCall : (∃ target, s.Notified callId target client) ∨ s.Participant callId client) :
    ∃ action, TearsDown s callId clientId action ∧ action.Addresses client := by
  rcases inCall with ⟨target, entry, ringing, found, present, notified⟩ | ⟨active, found, joined⟩
  · exact ⟨_, TearsDown.cancel found present, notified⟩
  · exact ⟨_, TearsDown.drop found joined isOther, rfl⟩

theorem Coherent.endReported {s : CallManager} (coherent : Coherent s) {order : Iteration}
    {callId : CallId} {clientId : ClientId} {actions : List UpdateCallAction}
    (ended : (s.endCall order callId clientId).2 = some actions) :
    EndReported s (s.endCall order callId clientId).1 callId clientId actions ∧
      ∀ client, client ≠ clientId →
        (∃ target, s.Notified callId target client) ∨ s.Participant callId client →
        ∃ action ∈ actions, action.Addresses client := by
  rcases endCall_actions coherent ended with
    ⟨gone, isActions⟩ | ⟨active, update, found, goesOn, isUpdate, ofCall⟩
  · obtain ⟨once, exactly⟩ := tearDown_exactly (coherent.wellFormed callId) order clientId
    rw [← isActions] at once exactly
    refine ⟨EndReported.gone (congrArg CallState.ringing gone) (congrArg CallState.active gone)
      once exactly, ?_⟩
    intro client isOther inCall
    obtain ⟨action, tearsDown, addressed⟩ := TearsDown.addressed isOther inCall
    exact ⟨action, (exactly action).mpr tearsDown, addressed⟩
  · have isActive := congrArg CallState.active goesOn
    have isRinging := congrArg CallState.ringing goesOn
    refine ⟨EndReported.goesOn isActive ?_ isUpdate ofCall, ?_⟩
    · rw [leaveActive_keys]
      exact Finset.notMem_erase clientId active.participants.keys
    · intro client isOther inCall
      have describes : DescribesCall (s.endCall order callId clientId).1 update := by
        have returned : s.endCall order callId clientId =
            ((s.endCall order callId clientId).1, some actions) := Prod.ext rfl ended
        apply (endCall_current returned ?_).describesCall (coherent.endCall order callId clientId)
        rw [isUpdate]
        exact List.mem_singleton.mpr rfl
      refine ⟨_, isUpdate ▸ List.mem_singleton.mpr rfl, ?_⟩
      rcases inCall with ⟨target, entry, ringing, rings, present, notified⟩ | ⟨before, was, joined⟩
      · left
        apply (Finmap.mem_keys_iff_lookup _ _).mpr
        refine ⟨target, (describes.invited client target).mpr ?_⟩
        rw [ofCall]
        exact ⟨entry, ringing, isRinging.trans rings, present, notified⟩
      · right
        cases found.symm.trans was
        rw [describes.joined, ofCall]
        have after : (s.endCall order callId clientId).1.activeCalls.lookup callId =
            some (leaveActive active clientId) := isActive
        rw [after, Option.map_some, Option.getD_some, leaveActive_keys]
        exact Finset.mem_erase_of_ne_of_mem isOther joined

/-- What operations return in this state is what they change. -/
structure ReportsChange (s : CallManager) : Prop where
  /-- An update that an operation returns is the state of its call afterwards. -/
  updates : ∀ request update, update ∈ (s.execute request).2.updates →
    DescribesCall (s.execute request).1 update
  /-- The actions of ending a call are exactly what it changes. -/
  ending : ∀ order callId clientId actions, (s.endCall order callId clientId).2 = some actions →
    EndReported s (s.endCall order callId clientId).1 callId clientId actions
  /-- Everybody else in a call that is ended is told. -/
  addressed : ∀ order callId clientId actions,
    (s.endCall order callId clientId).2 = some actions → ∀ client, client ≠ clientId →
      (∃ target, s.Notified callId target client) ∨ s.Participant callId client →
      ∃ action ∈ actions, action.Addresses client

theorem Coherent.reportsChange {s : CallManager} (coherent : Coherent s) : ReportsChange s where
  updates := by
    intro request update member
    refine (execute_current coherent request member).describesCall ?_
    -- an invitation returns no update, and every other operation keeps the manager coherent
    have fromCaller : request.op.FromCaller := by
      cases isOp : request.op with
      | attemptCall =>
          unfold execute at member
          rw [isOp] at member
          cases member
      | _ => trivial
    exact (execute_follows coherent request fromCaller).coherent coherent
  ending := by
    intro order callId clientId actions ended
    exact (coherent.endReported ended).1
  addressed := by
    intro order callId clientId actions ended
    exact (coherent.endReported ended).2

/-- In every state the call manager reaches, what its operations return is what has changed. -/
theorem run_reportsChange (maxConfSize : ℕ) (requests : List Request)
    (fromCaller : ∀ request ∈ requests, request.op.FromCaller) :
    ReportsChange ((CallManager.new maxConfSize).run requests) :=
  (run_coherent (coherent_new maxConfSize) fromCaller).reportsChange

/-- A participant that leaves a conference of three is reported, and so is its leader. -/
theorem conferenceOfThree_reportsChange :
    ((((CallManager.new 5).run conferenceOfThree).endCall .increasing ⟨1⟩ ⟨"LOVV"⟩).2.map
        List.length = some 1 ∧
      (((CallManager.new 5).run conferenceOfThree).endCall .increasing ⟨1⟩ ⟨"LOWW"⟩).2.map
        List.length = some 2) ∧
      ReportsChange ((CallManager.new 5).run conferenceOfThree) :=
  ⟨by decide +kernel, run_reportsChange 5 conferenceOfThree conferenceOfThree_fromCaller⟩

end Vacs
