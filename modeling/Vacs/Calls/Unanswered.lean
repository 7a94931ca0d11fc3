import Vacs.Calls.Coherence
import Vacs.Calls.Reports
import Vacs.Calls.RingsFor
import Vacs.Calls.TargetNames

/-!
# Targets that nobody has answered yet

A target that rings has somebody to answer it, and nobody but the caller has joined the call as
it (`CallState.Unanswered`). So whoever reads the state of a call can tell that it rings: it is
not among the targets of the participants, and somebody is invited.

A target that fails, or that an operation cancels when a client disconnects, rings no more
afterwards, for whomever it rang (`markClient_silent`, `cleanupClientCalls_silent`).
-/

set_option autoImplicit false

namespace Vacs

open CallManager

/-! ## Every ringing target is unanswered -/

/-- Every target that rings has somebody to answer it, and nobody but the caller has joined as
it. -/
structure CallState.Unanswered (state : CallState) : Prop where
  answerable : state.Answerable
  notJoined : ∀ active entry, state.active = some active → state.ringing = some entry →
    ∀ client target, client ≠ entry.callerId →
      active.participants.lookup client = some target → entry.targets.lookup target = none

namespace CallState.Unanswered

theorem none (active : Option ActiveCallEntry) : Unanswered ⟨Option.none, active⟩ where
  answerable := by simp [Answerable]
  notJoined := by simp

/-- Targets that have stopped ringing. -/
theorem narrow {entry : RingingCallEntry} {ringing : Option RingingCallEntry}
    {active : Option ActiveCallEntry} (unanswered : Unanswered ⟨some entry, active⟩)
    (narrows : ∀ after, ringing = some after → Narrows entry after) :
    Unanswered ⟨ringing, active⟩ where
  answerable := unanswered.answerable.narrow narrows
  notJoined := by
    intro joined after isActive isAfter client target notCaller carries
    rw [(narrows after isAfter).callerId] at notCaller
    have absent := unanswered.notJoined joined entry isActive rfl client target notCaller carries
    cases found : after.targets.lookup target with
    | none => rfl
    | some kept =>
        obtain ⟨_, was, _⟩ := (narrows after isAfter).targets target kept found
        cases absent.symm.trans was

/-- Participants that have left. -/
theorem leave {ringing : Option RingingCallEntry} {active after : ActiveCallEntry}
    (unanswered : Unanswered ⟨ringing, some active⟩)
    (stays : ∀ client target, after.participants.lookup client = some target →
      active.participants.lookup client = some target) : Unanswered ⟨ringing, some after⟩ where
  answerable := unanswered.answerable
  notJoined := by
    rintro _ entry ⟨⟩ isEntry client target notCaller carries
    exact unanswered.notJoined active entry rfl isEntry client target notCaller
      (stays client target carries)

/-- A caller that invites one more target, as which nobody has joined. -/
theorem invite {ringing : Option RingingCallEntry} {active : Option ActiveCallEntry}
    {call : CallId} {caller : ClientId} {source : CallSource} {target : CallTarget}
    {notified : Finset ClientId} (unanswered : Unanswered ⟨ringing, active⟩)
    (rings : notified.Nonempty) (allowed : MayInvite ⟨ringing, active⟩ caller target notified)
    (unnamed : ∀ joined, active = some joined → ∀ client,
      joined.participants.lookup client ≠ some target) :
    Unanswered ⟨some (invitedEntry ringing call caller source target notified), active⟩ where
  answerable := by
    rintro _ ⟨⟩ other kept found
    rw [invitedEntry_lookup] at found
    split at found
    · cases found
      exact rings
    · obtain ⟨earlier, present, found⟩ := Option.bind_eq_some_iff.mp found
      exact unanswered.answerable earlier present other kept found
  notJoined := by
    rintro joined _ isActive ⟨⟩ client other notCaller carries
    rw [invitedEntry_lookup]
    split
    · rename_i same
      rw [same] at carries
      exact absurd carries (unnamed joined isActive client)
    · cases isRinging : ringing with
      | none => rfl
      | some earlier =>
          have batch := (allowed.batch earlier isRinging).1
          have sameCaller := invitedEntry_callerId
            (fun entry found => (allowed.batch entry found).1) call source target notified
          refine unanswered.notJoined joined earlier isActive isRinging client other ?_ carries
          rwa [batch, ← sameCaller]

/-- A client that has answered: its target rings no more. -/
theorem answer {entry : RingingCallEntry} {ringing : Option RingingCallEntry}
    {active : Option ActiveCallEntry} {call : CallId} {client : ClientId}
    {accepted : RingingTarget} (unanswered : Unanswered ⟨some entry, active⟩)
    (callerId : accepted.callerId = entry.callerId)
    (narrows : ∀ after, ringing = some after → Narrows entry after)
    (rings : ∀ other rung, Rings ⟨ringing, active⟩ other rung ↔
      entry.Rings other rung ∧ other ≠ accepted.target) :
    Unanswered ⟨ringing, some (joinActive active call client accepted)⟩ where
  answerable := unanswered.answerable.narrow narrows
  notJoined := by
    have before := unanswered.narrow narrows
    rintro _ after ⟨⟩ isAfter other target notCaller carries
    rcases joinActive_lookup carries with
      ⟨_, isAccepted⟩ | ⟨old, isOld, carried⟩ | ⟨_, isCaller, _⟩
    · subst isAccepted
      cases found : after.targets.lookup accepted.target with
      | none => rfl
      | some kept =>
          obtain ⟨rung, notified⟩ := before.answerable after isAfter accepted.target kept found
          have stillRings : Rings ⟨ringing, active⟩ accepted.target rung :=
            ⟨after, isAfter, kept, found, notified⟩
          exact absurd rfl ((rings accepted.target rung).mp stillRings).2
    · exact before.notJoined old after isOld isAfter other target notCaller carried
    · rw [(narrows after isAfter).callerId, ← callerId] at notCaller
      exact absurd isCaller notCaller

end CallState.Unanswered

theorem Departs.unanswered {client : ClientId} {before after : CallState}
    (departs : Departs client before after) (unanswered : before.Unanswered) :
    after.Unanswered := by
  cases departs with
  | hangUp => exact .none none
  | tearDown => exact .none none
  | leave => exact unanswered.leave (lookup_leaveActive _ _)

/-- A step keeps every ringing target unanswered, if what it invites has not been joined. -/
theorem CallStep.unanswered {request : Request} {evicted : Option ClientId} {call : CallId}
    {before after : CallState} (fromHandler : request.op.FromHandler)
    (step : CallStep request evicted call before after)
    (unnamed : ∀ caller source target notified,
      request.op = .attemptCall call caller source target notified → ∀ active,
        before.active = some active → ∀ client,
          active.participants.lookup client ≠ some target)
    (unanswered : before.Unanswered) : after.Unanswered := by
  cases step with
  | @invite caller source target notified ringing active isOp _ _ allowed =>
      have rings : notified.Nonempty := by
        rw [isOp] at fromHandler
        exact fromHandler.2.2
      exact unanswered.invite rings allowed (unnamed caller source target notified isOp)
  | withdraw _ narrows _ => exact unanswered.narrow narrows
  | cancel _ _ narrows _ => exact unanswered.narrow narrows
  | answer _ _ callerId _ narrows rings => exact unanswered.answer callerId narrows rings
  | drop => exact unanswered.leave (lookup_leaveActive _ _)
  | depart _ departs => exact departs.unanswered unanswered
  | report => exact unanswered.leave fun _ _ carries => carries
  | evict _ _ _ departs =>
      exact departs.unanswered (unanswered.leave fun _ _ carries => carries)

/-- Every operation keeps every ringing target unanswered. -/
theorem next_unanswered {s : CallManager} (coherent : Coherent s) {request : Request}
    (fromHandler : request.op.FromHandler) (unanswered : ∀ call, (s.call call).Unanswered)
    (call : CallId) : ((s.next request).call call).Unanswered := by
  have kept : (∀ caller source target notified,
      request.op = .attemptCall call caller source target notified →
        s.validateCallAttempt call caller target notified = .ok ()) →
      ((s.next request).call call).Unanswered := by
    intro valid
    rcases (execute_follows coherent request fromHandler.fromCaller).calls call with same | step
    · rw [same]
      exact unanswered call
    · refine step.unanswered fromHandler ?_ (unanswered call)
      intro caller source target notified isOp active isActive client
      exact validateCallAttempt_unnamed (valid caller source target notified isOp) isActive client
  by_cases refused : ∃ caller source target notified reason,
      request.op = .attemptCall call caller source target notified ∧
        s.validateCallAttempt call caller target notified = .error reason
  · obtain ⟨caller, source, target, notified, reason, isOp, invalid⟩ := refused
    have same : s.next request = s := by
      simp only [CallManager.next, CallManager.execute, isOp, CallManager.attemptCall, invalid,
        Prod.map_fst, id_eq]
    rw [same]
    exact unanswered call
  · refine kept ?_
    intro caller source target notified isOp
    cases valid : s.validateCallAttempt call caller target notified with
    | ok _ => rfl
    | error reason =>
        exact absurd ⟨caller, source, target, notified, reason, isOp, valid⟩ refused

/-! ## Targets that an operation silences -/

/-- Nobody rings for the target in the call any more. -/
def CallManager.Silent (s : CallManager) (call : CallId) (target : CallTarget) : Prop :=
  ∀ entry, (s.call call).ringing = some entry → entry.targets.lookup target = none

theorem CallManager.Silent.ringsFor {s : CallManager} {call : CallId} {target : CallTarget}
    (silent : s.Silent call target) (client : ClientId) : s.ringsFor client call target = false := by
  rw [← Bool.not_eq_true, ringsFor_iff]
  rintro ⟨entry, ringing, isRinging, present, -⟩
  cases (silent entry isRinging).symm.trans present

theorem CallManager.Silent.congr {s s' : CallManager} {call : CallId} {target : CallTarget}
    (silent : s.Silent call target) (same : s'.call call = s.call call) :
    s'.Silent call target := by
  unfold CallManager.Silent
  rw [same]
  exact silent

/-- Targets that nobody is left to answer ring no more. -/
theorem markClient_silent {order : Iteration} {s s' : CallManager} {callId : CallId}
    {clientId : ClientId} {markFn : RingingTargetEntry → ClientId → RingingTargetEntry}
    {terminated : List RingingTarget} {update : UpdateParticipants}
    (marked : s.markClientWithinRingingCalls order callId clientId markFn =
      (s', .targetFailed terminated update)) :
    ∀ failed ∈ terminated, s'.Silent callId failed.target := by
  intro failed member
  unfold markClientWithinRingingCalls at marked
  simp only at marked
  split at marked
  · cases marked
  · rename_i entry found
    split at marked
    · cases marked
    · split at marked
      · cases marked
      · split at marked
        · cases marked
        · rename_i isTerminated
          cases marked
          obtain ⟨⟨target, ringing⟩, present, isFailed⟩ := List.mem_filterMap.mp member
          rw [mem_targetList] at present
          simp only at isFailed
          split at isFailed
          · cases isFailed
          · rename_i gone
            cases isFailed
            have absent : Finmap.lookup target
                (entry.targets.filterMap fun _ => markTarget markFn clientId) = none := by
              rw [Finmap.lookup_filterMap, present]
              exact gone
            intro after isAfter
            simp only [CallManager.call] at isAfter
            split at isAfter
            · simp at isAfter
            · simp only [Finmap.lookup_insert, Option.some.injEq] at isAfter
              rw [← isAfter]
              exact absent

theorem callError_silent {order : Iteration} {s s' : CallManager} {callId : CallId}
    {clientId : ClientId} {terminated : List RingingTarget} {update : UpdateParticipants}
    (failed : s.callError order callId clientId = (s', .targetFailed terminated update)) :
    ∀ target ∈ terminated, s'.Silent callId target.target := by
  unfold callError at failed
  split at failed
  · cases failed
  · rename_i isMarked
    cases failed
    exact markClient_silent isMarked
  · split at failed <;> cases failed

/-! ### Targets that a disconnecting client leaves behind -/

/-- The entry of the call knows its call. -/
def CallManager.KeyedAt (s : CallManager) (callId : CallId) : Prop :=
  ∀ entry, s.ringingCalls.lookup callId = some entry → entry.callId = callId

theorem callId_of_cancelled {order : Iteration} {entry : RingingCallEntry}
    {cancelled : RingingTarget}
    (member : .cancelRingingTarget cancelled ∈
      (entry.completeAllTargets order).map UpdateCallAction.cancelRingingTarget) :
    cancelled.callId = entry.callId := by
  obtain ⟨_, isTarget, ⟨⟩⟩ := List.mem_map.mp member
  obtain ⟨_, _, rfl⟩ := List.mem_map.mp isTarget
  rfl

theorem cancelPendingInvitations_spec {s : CallManager} {callId : CallId}
    (keyed : s.KeyedAt callId) (order : Iteration) :
    (s.cancelPendingInvitations order callId).1.ringingCalls.lookup callId = none ∧
      ∀ cancelled, .cancelRingingTarget cancelled ∈ (s.cancelPendingInvitations order callId).2 →
        cancelled.callId = callId := by
  unfold cancelPendingInvitations
  split
  · rename_i notRinging
    exact ⟨notRinging, fun _ member => by cases member⟩
  · rename_i entry found
    refine ⟨Finmap.lookup_erase .., fun cancelled member => ?_⟩
    rw [callId_of_cancelled member, keyed entry found]

/-- Who takes its batch with it leaves nothing ringing in the call. -/
theorem cleanupRinging_spec {s : CallManager} {callId : CallId} (keyed : s.KeyedAt callId)
    (order : Iteration) (clientId : ClientId) :
    s.cleanupRinging order callId clientId = (s, []) ∨
      ((s.cleanupRinging order callId clientId).1.ringingCalls.lookup callId = none ∧
        ∀ cancelled, .cancelRingingTarget cancelled ∈
          (s.cleanupRinging order callId clientId).2 → cancelled.callId = callId) := by
  unfold cleanupRinging
  split
  · exact Or.inl rfl
  · rename_i entry found
    split
    · refine Or.inr ⟨Finmap.lookup_erase .., fun cancelled member => ?_⟩
      rw [callId_of_cancelled member, keyed entry found]
    · exact Or.inl rfl

/-- A client that leaves an active call leaves nothing ringing in it, or cancels nothing. -/
theorem cleanupActive_spec {s : CallManager} {callId : CallId} (keyed : s.KeyedAt callId)
    (order : Iteration) (clientId : ClientId) :
    ((s.cleanupActive order callId clientId).1.ringingCalls = s.ringingCalls ∧
        ∀ cancelled, .cancelRingingTarget cancelled ∉
          (s.cleanupActive order callId clientId).2) ∨
      ((s.cleanupActive order callId clientId).1.ringingCalls.lookup callId = none ∧
        ∀ cancelled, .cancelRingingTarget cancelled ∈
          (s.cleanupActive order callId clientId).2 → cancelled.callId = callId) := by
  unfold cleanupActive
  split
  · exact Or.inl ⟨rfl, fun _ => List.not_mem_nil⟩
  · rename_i active found
    split
    · exact Or.inl ⟨rfl, fun _ => List.not_mem_nil⟩
    · simp only
      split
      · right
        have spec := cancelPendingInvitations_spec (s := { s with
          activeCalls := s.activeCalls.erase callId }) keyed order
        exact spec
      · split
        · right
          have spec := cancelPendingInvitations_spec (s := { s with
            activeCalls := s.activeCalls.erase callId
            clientActiveCalls := (order.clients.list
              (active.participantsWithoutSelf clientId).keys).foldl (releaseBusy callId)
                s.clientActiveCalls }) keyed order
          refine ⟨spec.1, fun cancelled member => ?_⟩
          rcases List.mem_append.mp member with drops | cancels
          · obtain ⟨_, _, isDrop⟩ := List.mem_map.mp drops
            cases isDrop
          · exact spec.2 cancelled cancels
        · exact Or.inl ⟨rfl, fun _ member => by cases List.mem_singleton.mp member⟩

/-- What a disconnecting client cancels in its own call rings no more. -/
theorem cleanupOwnCall_silent {s : CallManager} (coherent : Coherent s) {order : Iteration}
    {clientId : ClientId} {cancelled : RingingTarget}
    (member : .cancelRingingTarget cancelled ∈ (s.cleanupOwnCall order clientId).2) :
    s.clientActiveCalls.lookup clientId = some cancelled.callId ∧
      (s.cleanupOwnCall order clientId).1.ringingCalls.lookup cancelled.callId = none := by
  unfold cleanupOwnCall at member ⊢
  cases busy : s.clientActiveCalls.lookup clientId with
  | none =>
      rw [busy] at member
      cases member
  | some callId =>
      rw [busy] at member
      simp only at member ⊢
      generalize isFreed : ({ s with
        clientActiveCalls := s.clientActiveCalls.erase clientId } : CallManager) = freed at member ⊢
      have keyed : freed.KeyedAt callId := by
        intro entry found
        rw [← isFreed] at found
        exact (coherent.wellFormed callId).ringingCallId entry found
      generalize isBatch : freed.cleanupRinging order callId clientId = batch at member ⊢
      have ringing : batch = (freed, []) ∨ (batch.1.ringingCalls.lookup callId = none ∧
          ∀ cancelled, .cancelRingingTarget cancelled ∈ batch.2 → cancelled.callId = callId) := by
        rw [← isBatch]
        exact cleanupRinging_spec keyed order clientId
      have stillKeyed : batch.1.KeyedAt callId := by
        rcases ringing with same | ⟨gone, _⟩
        · rw [same]
          exact keyed
        · intro entry found
          cases gone.symm.trans found
      have active := cleanupActive_spec stillKeyed order clientId
      rcases List.mem_append.mp member with inBatch | inCall
      · rcases ringing with same | ⟨gone, isCall⟩
        · rw [same] at inBatch
          cases inBatch
        · rw [isCall cancelled inBatch]
          refine ⟨rfl, ?_⟩
          rcases active with ⟨same, _⟩ | ⟨left, _⟩
          · rw [same]
            exact gone
          · exact left
      · rcases active with ⟨_, cancelsNothing⟩ | ⟨left, isCall⟩
        · exact absurd inCall (cancelsNothing cancelled)
        · rw [isCall cancelled inCall]
          exact ⟨rfl, left⟩

/-- What a disconnecting client that rang cancels rings no more. -/
theorem cleanupIncomingCall_silent {s : CallManager} (keyed : ∀ callId, s.KeyedAt callId)
    (order : Iteration) (clientId : ClientId) (callId : CallId) (callTarget : CallTarget) :
    (∀ other, (s.cleanupIncomingCall order clientId callId callTarget).1.KeyedAt other) ∧
      ∀ action ∈ (s.cleanupIncomingCall order clientId callId callTarget).2, ∀ cancelled,
        action = .cancelRingingTarget cancelled → cancelled.callId = callId ∧
          (s.cleanupIncomingCall order clientId callId callTarget).1.Silent callId
            cancelled.target := by
  obtain ⟨⟨s', actions⟩, cleaned⟩ : ∃ result,
      s.cleanupIncomingCall order clientId callId callTarget = result := ⟨_, rfl⟩
  rw [cleaned]
  unfold cleanupIncomingCall at cleaned
  split at cleaned
  · cases cleaned
    exact ⟨keyed, fun _ member => by cases member⟩
  · rename_i entry found
    have settled : ∀ {remaining : RingingCallEntry} {made : List UpdateCallAction},
        (actions = made ∧ s'.activeCalls = s.activeCalls ∧
          ∀ other, s'.ringingCalls.lookup other = if other = callId then
            (if remaining.allTargetsFailed then none else some remaining)
            else s.ringingCalls.lookup other) →
        remaining.callId = entry.callId → ∀ other, s'.KeyedAt other := by
      intro remaining made spec sameCall other kept isKept
      rw [spec.2.2] at isKept
      split at isKept
      · rename_i same
        split at isKept
        · cases isKept
        · cases isKept
          rw [sameCall, keyed callId entry found, same]
      · exact keyed other kept isKept
    simp only at cleaned
    split at cleaned
    · have spec := settle_spec cleaned
      refine ⟨settled spec rfl, fun action member => ?_⟩
      rw [spec.1] at member
      cases member
    · split at cleaned
      · have spec := settle_spec cleaned
        refine ⟨settled spec rfl, ?_⟩
        rintro action member cancelled rfl
        rw [spec.1] at member
        simp only [List.mem_cons, UpdateCallAction.cancelRingingTarget.injEq, reduceCtorEq,
          List.not_mem_nil, or_false] at member
        subst member
        refine ⟨keyed callId entry found, fun after isAfter => ?_⟩
        rw [CallManager.call, spec.2.2, if_pos rfl] at isAfter
        split at isAfter
        · cases isAfter
        · cases isAfter
          exact Finmap.lookup_erase ..
      · have spec := settle_spec cleaned
        refine ⟨settled spec rfl, fun action member => ?_⟩
        rw [spec.1] at member
        cases member

theorem cleanupIncomingCalls_silent {s : CallManager} (keyed : ∀ callId, s.KeyedAt callId)
    (order : Iteration) {clientId : ClientId} {cancelled : RingingTarget}
    (member : .cancelRingingTarget cancelled ∈ (s.cleanupIncomingCalls order clientId).2) :
    (s.cleanupIncomingCalls order clientId).1.Silent cancelled.callId cancelled.target := by
  have congr : ∀ {s s' : CallManager} {callId : CallId} {action : UpdateCallAction},
      s'.call callId = s.call callId →
        (∀ cancelled, action = .cancelRingingTarget cancelled →
          cancelled.callId = callId ∧ s.Silent callId cancelled.target) →
          ∀ cancelled, action = .cancelRingingTarget cancelled →
            cancelled.callId = callId ∧ s'.Silent callId cancelled.target := by
    intro s s' callId action same silent cancelled isCancelled
    obtain ⟨isCall, wasSilent⟩ := silent cancelled isCancelled
    exact ⟨isCall, wasSilent.congr same⟩
  obtain ⟨callId, silent⟩ := cleanupIncomingCalls_acts (fun s => ∀ callId, s.KeyedAt callId)
    (fun s callId action => ∀ cancelled, action = .cancelRingingTarget cancelled →
      cancelled.callId = callId ∧ s.Silent callId cancelled.target)
    congr order clientId
    (fun s callId callTarget keyed =>
      cleanupIncomingCall_silent keyed order clientId callId callTarget)
    keyed _ member
  obtain ⟨isCall, isSilent⟩ := silent cancelled rfl
  rw [isCall]
  exact isSilent

/-- What a disconnecting client cancels rings no more. -/
theorem cleanupClientCalls_silent {s : CallManager} (coherent : Coherent s) (order : Iteration)
    {clientId : ClientId} {cancelled : RingingTarget}
    (member : .cancelRingingTarget cancelled ∈ (s.cleanupClientCalls order clientId).2) :
    (s.cleanupClientCalls order clientId).1.Silent cancelled.callId cancelled.target := by
  simp only [cleanupClientCalls] at member ⊢
  rcases List.mem_append.mp member with own | incoming
  · obtain ⟨busy, gone⟩ := cleanupOwnCall_silent coherent own
    have silent : (s.cleanupOwnCall order clientId).1.Silent cancelled.callId
        cancelled.target := by
      intro entry isEntry
      cases gone.symm.trans isEntry
    exact silent.congr (cleanupIncomingCalls_own coherent order busy)
  · refine cleanupIncomingCalls_silent ?_ order incoming
    intro callId entry found
    exact ((coherent.cleanupOwnCall order clientId).wellFormed callId).ringingCallId entry found

end Vacs
