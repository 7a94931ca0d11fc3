import Vacs.Calls.Coherence

/-!
# Refused operations and other calls

Several operations change the tables before they know that they refuse: a client is
silenced before it is known whether it rings, an acceptance takes the targets of the
client out of the entry before it is known that there are any. In a coherent state
what they take out was not there, so a refused operation changes nothing
(`execute_refused`).

An operation names the call it is about. Whatever it does, it stays within that call:
what the tables and both indexes say about every other call is the same afterwards
(`StaysWithin`).
-/

set_option autoImplicit false

namespace Vacs

open CallManager

/-- The operation was refused. -/
def Outcome.Refused : Outcome → Prop
  | .attempted (.error _) => True
  | .terminated .callNotFound => True
  | .terminated .clientNotNotified => True
  | .answered .acceptorBusy => True
  | .answered .notFound => True
  | .dropped .callNotFound => True
  | .dropped .notPermitted => True
  | .dropped (.obsolete _) => True
  | .ended none => True
  | .reported .invalidReport => True
  | _ => False

/-- The call that an operation names. -/
def Operation.callId : Operation → Option CallId
  | .attemptCall callId _ _ _ _ => some callId
  | .rejectCall callId _ => some callId
  | .failRingingRecipient callId _ => some callId
  | .callError callId _ => some callId
  | .acceptCall callId _ => some callId
  | .dropTarget callId _ _ _ => some callId
  | .endCall callId _ => some callId
  | .reportLinkFailure callId _ _ => some callId
  | .cleanupClientCalls _ => none

/-- The tables and the indexes say the same about all other calls. -/
structure StaysWithin (call : CallId) (s s' : CallManager) : Prop where
  ringing : ∀ other, other ≠ call → s'.ringingCalls.lookup other = s.ringingCalls.lookup other
  active : ∀ other, other ≠ call → s'.activeCalls.lookup other = s.activeCalls.lookup other
  incoming : ∀ client other, other ≠ call →
    rungAs s'.clientIncomingCalls client other = rungAs s.clientIncomingCalls client other
  busy : ∀ client other, other ≠ call →
    (s'.clientActiveCalls.lookup client = some other ↔
      s.clientActiveCalls.lookup client = some other)

/-! ## Refused operations -/

section Refused

theorem terminated_refused {outcome : CallTerminationOutcome}
    (refused : (Outcome.terminated outcome).Refused) :
    outcome = .callNotFound ∨ outcome = .clientNotNotified := by
  cases outcome with
  | callNotFound => exact .inl rfl
  | clientNotNotified => exact .inr rfl
  | continued => exact refused.elim
  | targetFailed targets update => exact refused.elim
  | changed actions => exact refused.elim

variable {s : CallManager} (order : Iteration) {call : CallId} {client : ClientId}

theorem attemptCall_refused {source : CallSource} {target : CallTarget}
    {notified : Finset ClientId} {reason : StartCallError}
    (refused : (s.attemptCall order call client source target notified).2 = .error reason) :
    (s.attemptCall order call client source target notified).1 = s := by
  unfold attemptCall at refused ⊢
  cases valid : s.validateCallAttempt call client target notified with
  | error _ => rfl
  | ok _ =>
      rw [valid] at refused
      cases refused

variable (coherent : Coherent s)
include coherent

/-- A client that does not ring has nothing taken out. -/
theorem markClient_refused (markFn : RingingTargetEntry → ClientId → RingingTargetEntry)
    (refused : (s.markClientWithinRingingCalls order call client markFn).2 = .callNotFound ∨
      (s.markClientWithinRingingCalls order call client markFn).2 = .clientNotNotified) :
    (s.markClientWithinRingingCalls order call client markFn).1 = s := by
  by_cases rings : ∃ target, (s.call call).Rings target client
  · obtain ⟨target, entry, found, rung⟩ := rings
    obtain ⟨_, marked⟩ := markClientWithinRingingCalls_of_rings coherent markFn order found rung
    rcases marked with continued | ⟨targets, update, failed⟩
    · rw [continued] at refused
      rcases refused with same | same <;> cases same
    · rw [failed] at refused
      rcases refused with same | same <;> cases same
  · exact (markClientWithinRingingCalls_of_silent coherent markFn order (not_exists.mp rings)).1

/-- The targets a client does not ring for stay in the entry. -/
theorem acceptCall_refused (refused : (s.acceptCall order call client).2 = .acceptorBusy ∨
    (s.acceptCall order call client).2 = .notFound) :
    (s.acceptCall order call client).1 = s := by
  unfold acceptCall at refused ⊢
  by_cases busy : client ∈ s.clientActiveCalls.keys
  · rw [if_pos busy]
  · rw [if_neg busy] at refused ⊢
    cases found : s.ringingCalls.lookup call with
    | none => rfl
    | some entry =>
        have wf := coherent.wellFormed call
        rw [call_eq_of_ringing found] at wf
        simp only [found] at refused ⊢
        rcases acceptedTarget_cases wf order client with ⟨silent, none⟩ | ⟨_, _, _, _, accepted⟩
        · have kept : (entry.targets.retain fun _ ringing =>
              !ringing.hasNotifiedClient client) = entry.targets := by
            apply Finmap.ext_lookup
            intro target
            rw [Finmap.lookup_retain]
            cases present : entry.targets.lookup target with
            | none => rfl
            | some ringing =>
                have absent : client ∉ ringing.notifiedClients :=
                  fun notified => silent target ⟨ringing, present, notified⟩
                simp [RingingTargetEntry.hasNotifiedClient, absent]
          obtain ⟨target, ringing, present⟩ := wf.targetsNonempty entry rfl
          have nonempty : entry.targets.isEmpty = false :=
            (Finmap.isEmpty_eq_false_iff _).mpr ⟨target, ringing, present⟩
          have reinserted : s.ringingCalls.insert call entry = s.ringingCalls := by
            apply Finmap.ext_lookup
            intro other
            rw [Finmap.lookup_insert_eq]
            split
            · rename_i same
              rw [same, found]
            · rfl
          simp only [none, kept, nonempty, Bool.false_eq_true, if_false, reinserted]
        · simp only [accepted] at refused
          rcases refused with same | same <;> cases same

omit coherent in
theorem dropRingingTarget_refused {target : CallTarget} {result : CallManager × DropTargetOutcome}
    (dropped : s.dropRingingTarget order call client target = some result)
    (refused : (Outcome.dropped result.2).Refused) : result.1 = s := by
  unfold dropRingingTarget at dropped
  split at dropped
  · cases dropped
  · split at dropped
    · cases dropped
    · split at dropped
      · cases dropped
        rfl
      · cases dropped
        exact refused.elim

omit coherent in
theorem dropJoinedParticipant_refused {target : CallTarget} {reason : CallDropReason}
    (refused : (Outcome.dropped
      (s.dropJoinedParticipant order call client target reason).2).Refused) :
    (s.dropJoinedParticipant order call client target reason).1 = s := by
  unfold dropJoinedParticipant at refused ⊢
  cases found : s.activeCalls.lookup call with
  | none => rfl
  | some active =>
      simp only [found] at refused ⊢
      split
      · rfl
      · rename_i inside
        rw [if_neg inside] at refused
        split
        · rfl
        · rename_i dropped isDropped
          simp only [isDropped] at refused
          split
          · rfl
          · rename_i notTimer
            rw [if_neg notTimer] at refused
            split
            · rfl
            · rename_i notSelf
              rw [if_neg notSelf] at refused
              split
              · rfl
              · rename_i several
                rw [if_neg several] at refused
                split
                · rfl
                · rename_i leads
                  rw [if_neg leads] at refused
                  exact refused.elim

omit coherent in
theorem dropTarget_refused {target : CallTarget} {reason : CallDropReason}
    (refused : (Outcome.dropped (s.dropTarget order call client target reason).2).Refused) :
    (s.dropTarget order call client target reason).1 = s := by
  unfold dropTarget at refused ⊢
  cases dropped : s.dropRingingTarget order call client target with
  | none =>
      rw [dropped] at refused
      exact dropJoinedParticipant_refused order refused
  | some result =>
      rw [dropped] at refused
      exact dropRingingTarget_refused order dropped refused

theorem endCall_refused (refused : (s.endCall order call client).2 = none) :
    (s.endCall order call client).1 = s := by
  rcases endCall_spec coherent order call client with ⟨_, same, _⟩ | ⟨_, ended, _⟩
  · exact same
  · rw [refused] at ended
    cases ended

/-- An error of a client that neither rings nor is in the call changes nothing. -/
theorem callError_refused
    (refused : (Outcome.terminated (s.callError order call client).2).Refused) :
    (s.callError order call client).1 = s := by
  unfold callError at refused ⊢
  by_cases rings : ∃ target, (s.call call).Rings target client
  · obtain ⟨target, entry, found, rung⟩ := rings
    obtain ⟨_, marked⟩ :=
      markClientWithinRingingCalls_of_rings coherent .markErrored order found rung
    cases result : s.markClientWithinRingingCalls order call client .markErrored with
    | mk after outcome =>
        rw [result] at marked refused
        simp only at marked
        rcases marked with rfl | ⟨targets, update, rfl⟩
        · exact refused.elim
        · exact refused.elim
  · obtain ⟨same, unmarked⟩ := markClientWithinRingingCalls_of_silent coherent .markErrored order
      (not_exists.mp rings)
    cases result : s.markClientWithinRingingCalls order call client .markErrored with
    | mk after outcome =>
        rw [result] at same unmarked refused
        simp only at same unmarked
        subst same
        cases isEnd : after.endCall order call client with
        | mk last actions =>
            have ended : actions = none → last = after := by
              intro none
              have unchanged := endCall_refused order coherent (congrArg Prod.snd isEnd |>.trans none)
              rwa [isEnd] at unchanged
            rcases unmarked with rfl | rfl
            · simp only [isEnd] at refused ⊢
              cases actions with
              | none => exact ended rfl
              | some actions => exact refused.elim
            · simp only [isEnd] at refused ⊢
              cases actions with
              | none => exact ended rfl
              | some actions => exact refused.elim

omit coherent in
theorem reportLinkFailure_refused {peer : ClientId} {now : Instant}
    (refused : (s.reportLinkFailure order call client peer now).2 = .invalidReport) :
    (s.reportLinkFailure order call client peer now).1 = s := by
  unfold reportLinkFailure at refused ⊢
  by_cases own : client = peer
  · rw [if_pos own]
  · rw [if_neg own] at refused ⊢
    cases found : s.activeCalls.lookup call with
    | none => rfl
    | some active =>
        simp only [found] at refused ⊢
        split
        · rfl
        · rename_i inside
          rw [if_neg inside] at refused
          split at refused
          · cases refused
          · split at refused <;> cases refused

/-- A refused operation changes nothing. -/
theorem execute_refused (request : Request) (refused : (s.execute request).2.Refused) :
    (s.execute request).1 = s := by
  unfold execute at refused ⊢
  cases isOp : request.op with
  | attemptCall callId callerId source target notified =>
      simp only [isOp] at refused ⊢
      cases result : (s.attemptCall request.order callId callerId source target notified).2 with
      | error reason => exact attemptCall_refused request.order result
      | ok joined =>
          rw [Prod.map_snd, result] at refused
          exact refused.elim
  | rejectCall callId clientId =>
      simp only [isOp] at refused ⊢
      exact markClient_refused request.order coherent _ (terminated_refused refused)
  | failRingingRecipient callId clientId =>
      simp only [isOp] at refused ⊢
      exact markClient_refused request.order coherent _ (terminated_refused refused)
  | callError callId clientId =>
      simp only [isOp] at refused ⊢
      exact callError_refused request.order coherent refused
  | acceptCall callId clientId =>
      simp only [isOp] at refused ⊢
      refine acceptCall_refused request.order coherent ?_
      cases result : (s.acceptCall request.order callId clientId).2 with
      | acceptorBusy => exact .inl rfl
      | notFound => exact .inr rfl
      | accepted target update =>
          rw [Prod.map_snd, result] at refused
          exact refused.elim
  | dropTarget callId clientId target reason =>
      simp only [isOp] at refused ⊢
      exact dropTarget_refused request.order refused
  | endCall callId clientId =>
      simp only [isOp] at refused ⊢
      refine endCall_refused request.order coherent ?_
      cases result : (s.endCall request.order callId clientId).2 with
      | none => rfl
      | some actions =>
          rw [Prod.map_snd, result] at refused
          exact refused.elim
  | reportLinkFailure callId reporterId peerId =>
      simp only [isOp] at refused ⊢
      refine reportLinkFailure_refused request.order ?_
      cases result : (s.reportLinkFailure request.order callId reporterId peerId request.now).2 with
      | invalidReport => rfl
      | recorded =>
          rw [Prod.map_snd, result] at refused
          exact refused.elim
      | evicted evicted unreachable actions =>
          rw [Prod.map_snd, result] at refused
          exact refused.elim
  | cleanupClientCalls clientId =>
      simp only [isOp] at refused
      exact refused.elim

end Refused

/-! ## Other calls -/

section Within

/-- An operation that names a call takes steps of that call only. -/
theorem CallStep.names {request : Request} {evicted : Option ClientId} {call named : CallId}
    {before after : CallState} (step : CallStep request evicted call before after)
    (isNamed : request.op.callId = some named) : call = named := by
  have withdraws : ∀ client, request.op.Withdraws call client → call = named := by
    rintro client (isOp | isOp | isOp | isOp)
    all_goals
      rw [isOp] at isNamed
      cases isNamed
    all_goals rfl
  have leaves : ∀ client, request.op.Leaves call client → call = named := by
    rintro client (isOp | isOp | isOp)
    all_goals
      rw [isOp] at isNamed
      cases isNamed
    all_goals rfl
  cases step with
  | invite isOp _ _ _ =>
      rw [isOp] at isNamed
      exact Option.some.inj isNamed
  | withdraw isOp _ _ => exact withdraws _ isOp
  | cancel isOp _ _ _ =>
      rw [isOp] at isNamed
      exact Option.some.inj isNamed
  | answer isOp _ _ _ _ _ =>
      rw [isOp] at isNamed
      exact Option.some.inj isNamed
  | drop isOp _ _ _ _ =>
      rw [isOp] at isNamed
      exact Option.some.inj isNamed
  | depart isOp _ => exact leaves _ isOp
  | report isOp _ _ _ _ =>
      rw [isOp] at isNamed
      exact Option.some.inj isNamed
  | evict isOp _ _ _ =>
      rw [isOp] at isNamed
      exact Option.some.inj isNamed

/-- Indexes that describe the tables say the same about a call with the same entries. -/
theorem staysWithin_of_calls {s s' : CallManager} (indexed : Indexed s) (indexed' : Indexed s')
    {call : CallId} (others : ∀ other, other ≠ call → s'.call other = s.call other) :
    StaysWithin call s s' where
  ringing other different := congrArg CallState.ringing (others other different)
  active other different := congrArg CallState.active (others other different)
  incoming client other different := by
    apply Option.ext
    intro target
    rw [indexed'.incoming, indexed.incoming, others other different]
  busy client other different := by
    rw [indexed'.busy, indexed.busy, others other different]

/-- An invitation is refused to a client that is busy with another call. -/
theorem busy_of_validateCallAttempt {s : CallManager} {call : CallId} {caller : ClientId}
    {target : CallTarget} {notified : Finset ClientId}
    (valid : s.validateCallAttempt call caller target notified = .ok ()) {other : CallId}
    (busy : s.clientActiveCalls.lookup caller = some other) : other = call := by
  by_contra different
  unfold validateCallAttempt at valid
  simp only [busy] at valid
  rw [if_pos different] at valid
  cases valid

theorem attemptCall_staysWithin (s : CallManager) (order : Iteration) (call : CallId)
    (caller : ClientId) (source : CallSource) (target : CallTarget)
    (notified : Finset ClientId) :
    StaysWithin call s (s.attemptCall order call caller source target notified).1 := by
  unfold attemptCall
  cases valid : s.validateCallAttempt call caller target notified with
  | error reason =>
      exact ⟨fun _ _ => rfl, fun _ _ => rfl, fun _ _ _ => rfl, fun _ _ _ => Iff.rfl⟩
  | ok _ =>
      refine ⟨?_, fun _ _ => rfl, ?_, ?_⟩
      · intro other different
        rw [Finmap.lookup_insert_eq, if_neg different]
      · intro client other different
        rw [rungAs_foldl_insertIncoming, if_neg fun both => different both.2]
      · intro client other different
        rw [Finmap.lookup_insert_eq]
        split
        · rename_i isCaller
          subst isCaller
          constructor
          · intro same
            exact absurd (Option.some.inj same).symm different
          · intro busy
            exact absurd (busy_of_validateCallAttempt valid busy) different
        · exact Iff.rfl

/-- An operation stays within the call that it names. -/
theorem execute_staysWithin {s : CallManager} (coherent : Coherent s) (request : Request)
    {call : CallId} (isNamed : request.op.callId = some call) :
    StaysWithin call s (s.execute request).1 := by
  by_cases fromCaller : request.op.FromCaller
  · have follows := execute_follows coherent request fromCaller
    refine staysWithin_of_calls coherent.indexed follows.indexed ?_
    intro other different
    rcases follows.calls other with same | step
    · exact same
    · exact absurd (step.names isNamed) different
  · cases isOp : request.op with
    | attemptCall callId callerId source target notified =>
        rw [isOp] at isNamed
        cases isNamed
        unfold execute
        simp only [isOp]
        exact attemptCall_staysWithin s request.order call callerId source target notified
    | _ =>
        rw [isOp] at fromCaller
        exact absurd trivial fromCaller

end Within

/-- In every reachable state, a refused operation changes nothing, and an operation stays within
the call that it names. -/
theorem run_refusedAndWithin (maxConfSize : ℕ) (requests : List Request)
    (fromCaller : ∀ request ∈ requests, request.op.FromCaller) (request : Request) :
    ((((CallManager.new maxConfSize).run requests).execute request).2.Refused →
      (((CallManager.new maxConfSize).run requests).execute request).1 =
        (CallManager.new maxConfSize).run requests) ∧
      ∀ call, request.op.callId = some call →
        StaysWithin call ((CallManager.new maxConfSize).run requests)
          (((CallManager.new maxConfSize).run requests).execute request).1 := by
  have coherent := run_coherent (coherent_new maxConfSize) fromCaller
  exact ⟨execute_refused coherent request, fun _ => execute_staysWithin coherent request⟩

/-- A participant that rejects its own call is refused, and nothing changes. -/
theorem run_refusedAndWithin_conference :
    (((CallManager.new 5).run conferenceOfThree).execute
        { op := .rejectCall ⟨1⟩ ⟨"LOVV"⟩, order := .increasing, now := 0 }).1 =
      (CallManager.new 5).run conferenceOfThree := by
  refine (run_refusedAndWithin 5 conferenceOfThree conferenceOfThree_fromCaller
    { op := .rejectCall ⟨1⟩ ⟨"LOVV"⟩, order := .increasing, now := 0 }).1 ?_
  have outcome : (((CallManager.new 5).run conferenceOfThree).rejectCall .increasing ⟨1⟩
      ⟨"LOVV"⟩).2 = .callNotFound := by
    decide +kernel
  have refused := congrArg (fun outcome => (Outcome.terminated outcome).Refused) outcome
  exact refused.mpr trivial

end Vacs
