import Vacs.Calls.Index

/-!
# Inviting, failing and answering refine the single-call machine

Every operation of the call manager, executed in a coherent state, does at most
one `CallStep` to each call and leaves the indexes describing the new tables
(`Follows`). There is one lemma for each operation. This module has those that
set a call up: inviting a target, withdrawing a client that rings, and
answering.
-/

set_option autoImplicit false

namespace Vacs

open CallManager

/-- Between two states, every call did at most one step, and the indexes
describe the tables afterwards. -/
structure Follows (request : Request) (evicted : Option ClientId) (s s' : CallManager) :
    Prop where
  calls : ∀ call, s'.call call = s.call call ∨
    CallStep request evicted call (s.call call) (s'.call call)
  indexed : Indexed s'

namespace Follows

variable {request : Request} {evicted : Option ClientId} {s s' : CallManager}

theorem stay (coherent : Coherent s) : Follows request evicted s s where
  calls _ := .inl rfl
  indexed := coherent.indexed

theorem step {call : CallId} (others : ∀ other, other ≠ call → s'.call other = s.call other)
    (step : CallStep request evicted call (s.call call) (s'.call call)) (indexed : Indexed s') :
    Follows request evicted s s' where
  calls other := by
    by_cases same : other = call
    · subst same
      exact .inr step
    · exact .inl (others other same)
  indexed := indexed

theorem coherent (follows : Follows request evicted s s') (coherent : Coherent s) :
    Coherent s' where
  wellFormed call := by
    rcases follows.calls call with same | step
    · rw [same]
      exact coherent.wellFormed call
    · exact step.wellFormed (coherent.wellFormed call)
  indexed := follows.indexed

end Follows

/-! ## Reading the tables after an update -/

section Tables

variable {s s' : CallManager} {call : CallId}

theorem call_eq_of_ringing {entry : RingingCallEntry}
    (found : s.ringingCalls.lookup call = some entry) :
    s.call call = ⟨some entry, (s.call call).active⟩ :=
  congrArg (CallState.mk · _) found

theorem call_eq_of_active {active : ActiveCallEntry}
    (found : s.activeCalls.lookup call = some active) :
    s.call call = ⟨(s.call call).ringing, some active⟩ :=
  congrArg (CallState.mk _) found

/-- Updating one key of each table touches one call. -/
theorem call_of_tables (s s' : CallManager) (call : CallId) (ringing : Option RingingCallEntry)
    (active : Option ActiveCallEntry)
    (ringingTable : ∀ other, s'.ringingCalls.lookup other =
      if other = call then ringing else s.ringingCalls.lookup other)
    (activeTable : ∀ other, s'.activeCalls.lookup other =
      if other = call then active else s.activeCalls.lookup other) :
    s'.call call = ⟨ringing, active⟩ ∧ ∀ other, other ≠ call → s'.call other = s.call other := by
  constructor
  · simp [CallManager.call, ringingTable, activeTable]
  · intro other different
    simp [CallManager.call, ringingTable, activeTable, different]

/-- A table that keeps its entry at the call. -/
theorem lookup_unchanged {V : Type} (table : HashMap CallId V) {entry : Option V}
    (found : table.lookup call = entry) (other : CallId) :
    table.lookup other = if other = call then entry else table.lookup other := by
  split
  · rename_i same
    rw [same, found]
  · rfl

/-- A table whose entry is dropped when nothing is left of it. -/
theorem lookup_settle {V : Type} (table : HashMap CallId V) (gone : Prop) [Decidable gone]
    (entry : V) (other : CallId) :
    (if gone then table.erase call else table.insert call entry).lookup other =
      if other = call then (if gone then none else some entry) else table.lookup other := by
  split <;> simp [Finmap.lookup_erase_eq, Finmap.lookup_insert_eq]

end Tables

/-- The walk over the targets of a ringing entry meets every target. -/
theorem mem_targetList (order : Iteration) (entry : RingingCallEntry) (target : CallTarget)
    (ringing : RingingTargetEntry) :
    (target, ringing) ∈ entry.targetList order ↔ entry.targets.lookup target = some ringing := by
  simp only [RingingCallEntry.targetList, List.mem_filterMap, Enumeration.mem_list,
    Finmap.mem_keys_iff_lookup, Option.map_eq_some_iff, Prod.mk.injEq]
  constructor
  · rintro ⟨other, _, found, present, rfl, rfl⟩
    exact present
  · intro present
    exact ⟨target, ⟨ringing, present⟩, ringing, present, rfl, rfl⟩

/-- The walk over all notified clients meets every client that rings. -/
theorem mem_notifiedList (order : Iteration) (entry : RingingCallEntry) (client : ClientId) :
    client ∈ notifiedList order entry ↔ ∃ target, entry.Rings target client := by
  simp only [notifiedList, List.mem_flatMap, Prod.exists, mem_targetList, Enumeration.mem_list,
    RingingCallEntry.Rings]

/-- A client is listed as invited with the target it rings for. -/
theorem lookup_invitedParticipants {call : CallId} {entry : RingingCallEntry}
    {active : Option ActiveCallEntry} (wf : CallState.WellFormed call ⟨some entry, active⟩)
    (order : Iteration) (client : ClientId) (target : CallTarget) :
    (entry.invitedParticipants order).lookup client = some target ↔ entry.Rings target client := by
  have listed : ∀ rung other, (rung, other) ∈ ((entry.targetList order).flatMap fun pair =>
      (order.clients.list pair.2.notifiedClients).map fun client => (client, pair.1)) ↔
        entry.Rings other rung := by
    intro rung other
    simp only [List.mem_flatMap, List.mem_map, Prod.exists, Prod.mk.injEq, mem_targetList,
      Enumeration.mem_list, RingingCallEntry.Rings]
    constructor
    · rintro ⟨_, ringing, present, _, notified, rfl, rfl⟩
      exact ⟨ringing, present, notified⟩
    · rintro ⟨ringing, present, notified⟩
      exact ⟨other, ringing, present, rung, notified, rfl, rfl⟩
  have once : ∀ rung first second, entry.Rings first rung → entry.Rings second rung →
      first = second :=
    fun rung first second one two => wf.ringsOnce first second rung ⟨entry, rfl, one⟩
      ⟨entry, rfl, two⟩
  have inserted := Finmap.lookup_foldl_insert
    (fun rung first second one two =>
      once rung first second ((listed rung first).mp one) ((listed rung second).mp two))
    ∅ client target
  rw [listed, Finmap.lookup_empty] at inserted
  simp only [reduceCtorEq, and_false, or_false] at inserted
  exact inserted

/-! ## Inviting -/

/-- What a validated invitation has checked. -/
theorem validateCallAttempt_ok {s : CallManager} {call : CallId} {caller : ClientId}
    {target : CallTarget} {notified : Finset ClientId}
    (valid : s.validateCallAttempt call caller target notified = .ok ()) :
    (s.clientActiveCalls.lookup caller = none ∧ s.call call = ⟨none, none⟩) ∨
    (s.clientActiveCalls.lookup caller = some call ∧
      (∀ active, s.activeCalls.lookup call = some active →
        (∀ leader, active.conferenceLeader = some leader → leader = caller) ∧
        ∀ client ∈ notified, client ∉ active.participants.keys) ∧
      ∀ entry, s.ringingCalls.lookup call = some entry → entry.callerId = caller ∧
        entry.targets.lookup target = none ∧
        ∀ other client, entry.Rings other client → client ∉ notified) := by
  unfold validateCallAttempt at valid
  cases busy : s.clientActiveCalls.lookup caller with
  | none =>
      simp only [busy, Finmap.mem_keys] at valid
      split at valid
      · cases valid
      · rename_i notActive
        split at valid
        · cases valid
        · rename_i notRinging
          left
          exact ⟨rfl, by simp [CallManager.call, Finmap.lookup_eq_none.mpr notActive,
            Finmap.lookup_eq_none.mpr notRinging]⟩
  | some participating =>
      right
      simp only [busy] at valid
      split at valid
      · cases valid
      · rename_i isCall
        obtain rfl := not_not.mp isCall
        split at valid
        · cases valid
        · rename_i leads
          split at valid
          · cases valid
          · rename_i outside
            split at valid
            · cases valid
            · refine ⟨rfl, ?_, ?_⟩
              · intro active found
                rw [found] at leads outside
                constructor
                · intro leader known
                  simpa [known] using leads
                · intro client invited joined
                  simp only [Option.any_some, decide_eq_true_eq, not_exists, not_and,
                    not_or] at outside
                  exact (outside client joined).2 invited
              · intro entry found
                simp only [found] at valid
                split at valid
                · cases valid
                · rename_i isCaller
                  split at valid
                  · cases valid
                  · rename_i free
                    split at valid
                    · cases valid
                    · rename_i noOverlap
                      refine ⟨not_not.mp isCaller, ?_, ?_⟩
                      · rwa [Finmap.mem_keys, ← Finmap.lookup_eq_none] at free
                      · rintro other client ⟨ringing, present, rung⟩ invited
                        refine noOverlap ((Finmap.anyValue_iff _ _).mpr
                          ⟨other, ringing, present, ?_⟩)
                        simpa using ⟨client, invited, rung⟩

/-- An invitation that was validated names no participant of the call. -/
theorem validateCallAttempt_unnamed {s : CallManager} {call : CallId} {caller : ClientId}
    {target : CallTarget} {notified : Finset ClientId}
    (valid : s.validateCallAttempt call caller target notified = .ok ())
    {active : ActiveCallEntry} (found : s.activeCalls.lookup call = some active)
    (client : ClientId) : active.participants.lookup client ≠ some target := by
  intro named
  have member : client ∈ active.participants.keys :=
    (Finmap.mem_keys_iff_lookup _ _).mpr ⟨target, named⟩
  have isActive : call ∈ s.activeCalls.keys := (Finmap.mem_keys_iff_lookup _ _).mpr ⟨active, found⟩
  unfold validateCallAttempt at valid
  cases busy : s.clientActiveCalls.lookup caller with
  | none => simp [busy, isActive] at valid
  | some participating =>
      simp only [busy, found, Option.any_some] at valid
      split at valid
      · cases valid
      · split at valid
        · cases valid
        · rw [if_pos (decide_eq_true ⟨client, member, .inl named⟩)] at valid
          cases valid

/-- The tables and indexes after an invitation that was validated. -/
theorem attemptCall_ok {s : CallManager} (order : Iteration) {call : CallId} {caller : ClientId}
    (source : CallSource) {target : CallTarget} {notified : Finset ClientId}
    (valid : s.validateCallAttempt call caller target notified = .ok ()) :
    (s.attemptCall order call caller source target notified).1 =
      { s with
        ringingCalls := s.ringingCalls.insert call
          (invitedEntry (s.ringingCalls.lookup call) call caller source target notified)
        clientActiveCalls := s.clientActiveCalls.insert caller call
        clientIncomingCalls := (order.clients.list notified).foldl (insertIncoming call target)
          s.clientIncomingCalls } := by
  simp [attemptCall, valid]

/-- A validated caller may invite. -/
theorem validateCallAttempt_allows {s : CallManager} (coherent : Coherent s) {call : CallId}
    {caller : ClientId} {target : CallTarget} {notified : Finset ClientId}
    (valid : s.validateCallAttempt call caller target notified = .ok ()) :
    MayInvite (s.call call) caller target notified := by
  rcases validateCallAttempt_ok valid with ⟨_, unknown⟩ | ⟨busy, activeOk, ringingOk⟩
  · rw [unknown]
    constructor <;> simp
  · constructor
    · exact fun entry found => ⟨(ringingOk entry found).1, (ringingOk entry found).2.1⟩
    · rintro other client ⟨entry, found, rung⟩
      exact (ringingOk entry found).2.2 other client rung
    · intro active found
      refine ⟨?_, (activeOk active found).1⟩
      have joined : (s.call call).Joined caller :=
        ((coherent.indexed.busy caller call).mp busy).elim
          ((coherent.wellFormed call).callerJoined caller active found) id
      obtain ⟨_, same, member⟩ := joined
      cases found.symm.trans same
      exact member
    · rintro client invited ⟨active, found, joined⟩
      exact (activeOk active found).2 client invited joined

theorem attemptCall_follows {s : CallManager} (coherent : Coherent s) {request : Request}
    {call : CallId} {caller : ClientId} {source : CallSource} {target : CallTarget}
    {notified : Finset ClientId}
    (isOp : request.op = .attemptCall call caller source target notified)
    (fromCaller : request.op.FromCaller) (evicted : Option ClientId) :
    Follows request evicted s
      (s.attemptCall request.order call caller source target notified).1 := by
  cases valid : s.validateCallAttempt call caller target notified with
  | error reason =>
      simp only [attemptCall, valid]
      exact .stay coherent
  | ok _ =>
      obtain ⟨sourceIsCaller, notSelf⟩ : source.clientId = caller ∧ caller ∉ notified := by
        simpa [isOp, Operation.FromCaller] using fromCaller
      have allowed := validateCallAttempt_allows coherent valid
      have free := (validateCallAttempt_ok valid).imp And.left And.left
      have state := attemptCall_ok request.order source valid
      generalize (s.attemptCall request.order call caller source target notified).1 = s' at state ⊢
      obtain ⟨atCall, others⟩ := call_of_tables s s' call
        (some (invitedEntry (s.call call).ringing call caller source target notified))
        (s.call call).active
        (by rw [state]; exact fun other => Finmap.lookup_insert_eq _ _ other _)
        (by rw [state]; exact lookup_unchanged _ rfl)
      have callerId := invitedEntry_callerId (fun entry found => (allowed.batch entry found).1)
        call source target notified
      refine .step others (atCall ▸ .invite isOp sourceIsCaller notSelf allowed) ?_
      refine coherent.indexed.move others ?_ ?_ ?_ ?_ ?_
      · intro client rungTarget
        have rung := coherent.indexed.incoming client call rungTarget
        have fresh := fun other => allowed.fresh other client
        have rings := invitedEntry_rings (fun entry found => (allowed.batch entry found).2) call
          caller source notified (s.call call).active rungTarget client
        rw [atCall, CallState.rings_some, rings, state, rungAs_foldl_insertIncoming]
        change _ ↔ (_ ∨ (s.call call).Rings rungTarget client) ∧ ¬ False
        grind
      · intro client other different
        rw [state, rungAs_foldl_insertIncoming, if_neg (fun both => different both.2)]
      · rw [state]
        exact populated_foldl_insertIncoming _ coherent.indexed.populated
      · intro client
        have engaged := coherent.indexed.busy client call
        have callerOnly : (s.call call).Calls client → client = caller := by
          rintro ⟨entry, found, isCaller⟩
          exact isCaller.symm.trans (allowed.batch entry found).1
        rw [atCall, state, Finmap.lookup_insert_eq]
        simp only [CallState.Engages, CallState.calls_some, callerId] at engaged ⊢
        change _ ↔ _ ∨ (s.call call).Joined client
        grind
      · intro client other different
        rw [state, Finmap.lookup_insert_eq]
        split
        · rename_i same
          subst same
          rcases free with free | free <;> simp [free, Ne.symm different]
        · rfl

/-! ## Withdrawing a client from the targets it rings for -/

/-- What is left of the targets when one client is withdrawn: it is notified
nowhere, and only targets that nobody else rings for may be gone. -/
structure Withdrawn (client : ClientId) (entry : RingingCallEntry)
    (targets : HashMap CallTarget RingingTargetEntry) : Prop where
  kept : ∀ target ringing, targets.lookup target = some ringing →
    ∃ earlier, entry.targets.lookup target = some earlier ∧ ringing.source = earlier.source ∧
      ringing.notifiedClients = earlier.notifiedClients.erase client ∧
      ∀ other ∈ ringing.notifiedClients, ringing.hasFailedClient other = false
  dropped : ∀ target earlier, entry.targets.lookup target = some earlier →
    targets.lookup target = none → earlier.notifiedClients.erase client = ∅
  answerable : ∀ target ringing earlier, targets.lookup target = some ringing →
    entry.targets.lookup target = some earlier → earlier.notifiedClients.Nonempty →
      ringing.notifiedClients.Nonempty

namespace Withdrawn

variable {client : ClientId} {entry : RingingCallEntry}
  {targets : HashMap CallTarget RingingTargetEntry}

theorem rings (withdrawn : Withdrawn client entry targets) (target : CallTarget)
    (other : ClientId) :
    RingingCallEntry.Rings { entry with targets := targets } target other ↔
      entry.Rings target other ∧ other ≠ client := by
  constructor
  · rintro ⟨ringing, found, rung⟩
    obtain ⟨earlier, was, _, notified, _⟩ := withdrawn.kept target ringing found
    rw [notified] at rung
    exact ⟨⟨earlier, was, Finset.mem_of_mem_erase rung⟩, Finset.ne_of_mem_erase rung⟩
  · rintro ⟨⟨earlier, was, rung⟩, different⟩
    have stays := Finset.mem_erase_of_ne_of_mem different rung
    cases found : targets.lookup target with
    | none =>
        rw [withdrawn.dropped target earlier was found] at stays
        exact absurd stays (Finset.notMem_empty _)
    | some ringing =>
        obtain ⟨_, same, _, notified, _⟩ := withdrawn.kept target ringing found
        cases was.symm.trans same
        exact ⟨ringing, found, notified ▸ stays⟩

theorem narrows (withdrawn : Withdrawn client entry targets) (nonempty : targets.isEmpty = false) :
    Narrows entry { entry with targets := targets } where
  callId := rfl
  callerId := rfl
  targetsNonempty := (Finmap.isEmpty_eq_false_iff targets).mp nonempty
  targets target ringing found := by
    obtain ⟨earlier, was, source, notified, notFailed⟩ := withdrawn.kept target ringing found
    exact ⟨earlier, was, source, notified ▸ Finset.erase_subset _ _, notFailed⟩
  answerable := withdrawn.answerable

end Withdrawn

/-- An operation that withdraws a client from a call, and drops the ringing entry
when nobody is left to answer it. -/
theorem withdraw_step {silent : ClientId → Prop} {s : CallManager} (s' : CallManager)
    (indexed : IndexedBut silent s) {request : Request} {call : CallId} {client : ClientId}
    (isOp : request.op.Withdraws call client) (evicted : Option ClientId)
    {entry : RingingCallEntry} (found : s.ringingCalls.lookup call = some entry)
    {targets : HashMap CallTarget RingingTargetEntry}
    (withdrawn : Withdrawn client entry targets) {ended : Bool}
    (whenEnded : ended = true → ∀ target other,
      ¬ RingingCallEntry.Rings { entry with targets := targets } target other)
    (whenAlive : ended = false → targets.isEmpty = false)
    (ringingCalls : s'.ringingCalls = if ended = true then s.ringingCalls.erase call
      else s.ringingCalls.insert call { entry with targets := targets })
    (activeCalls : s'.activeCalls = s.activeCalls)
    (clientActiveCalls : s'.clientActiveCalls =
      if ended = true then (s.freeCaller entry.callerId).clientActiveCalls
      else s.clientActiveCalls)
    (incoming : ∀ other otherCall target,
      rungAs s'.clientIncomingCalls other otherCall = some target ↔
        rungAs s.clientIncomingCalls other otherCall = some target ∧
          ¬ (otherCall = call ∧ other = client))
    (populated : Populated s'.clientIncomingCalls) :
    (∀ other, other ≠ call → s'.call other = s.call other) ∧
      CallStep request evicted call (s.call call) (s'.call call) ∧ IndexedBut silent s' ∧
      ∀ target, ¬ (s'.call call).Rings target client := by
  obtain ⟨atCall, others⟩ := call_of_tables s s' call
    (if ended = true then none else some { entry with targets := targets }) (s.call call).active
    (by rw [ringingCalls]; exact lookup_settle s.ringingCalls (ended = true) _)
    (by rw [activeCalls]; exact lookup_unchanged s.activeCalls rfl)
  have rings : ∀ other rung, CallState.Rings
      ⟨if ended = true then none else some { entry with targets := targets },
        (s.call call).active⟩ other rung ↔ entry.Rings other rung ∧ rung ≠ client := by
    intro other rung
    rw [← withdrawn.rings]
    cases ended with
    | true => simp [whenEnded rfl other rung]
    | false => simp
  refine ⟨others, ?_, ?_, fun target stillRings => ?_⟩
  · rw [atCall, call_eq_of_ringing found]
    refine .withdraw isOp ?_ rings
    cases ended with
    | true => simp
    | false =>
        rintro after ⟨⟩
        exact withdrawn.narrows (whenAlive rfl)
  · refine indexed.narrow (· = client) found atCall others ?_ rings incoming populated ?_
    · cases ended with
      | true => simp
      | false =>
          rintro after ⟨⟩
          rfl
    · intro other otherCall
      rw [clientActiveCalls]
      cases ended with
      | true =>
          simp only [if_true, true_and]
          exact indexed.freeCaller_busy (.inl ⟨entry, found, rfl⟩) other otherCall
      | false => simp
  · rw [atCall] at stillRings
    exact ((rings target client).mp stillRings).2 rfl

/-- How a client is marked on a target: it is no longer notified, and only its
own failure is recorded. -/
structure Marks (markFn : RingingTargetEntry → ClientId → RingingTargetEntry) : Prop where
  source : ∀ ringing client, (markFn ringing client).source = ringing.source
  notified : ∀ ringing client,
    (markFn ringing client).notifiedClients = ringing.notifiedClients.erase client
  failed : ∀ ringing client other, other ≠ client →
    (markFn ringing client).hasFailedClient other = ringing.hasFailedClient other

/-- A notified client is taken out of the notified ones, anybody else changes nothing. -/
theorem marks_of_moved {markFn moved : RingingTargetEntry → ClientId → RingingTargetEntry}
    (moves : ∀ ringing client, markFn ringing client =
      if client ∈ ringing.notifiedClients then moved ringing client else ringing)
    (marks : Marks moved) : Marks markFn where
  source ringing client := by
    rw [moves]
    split
    · exact marks.source ringing client
    · rfl
  notified ringing client := by
    rw [moves]
    split
    · exact marks.notified ringing client
    · rename_i notNotified
      exact (Finset.erase_eq_of_notMem notNotified).symm
  failed ringing client other different := by
    rw [moves]
    split
    · exact marks.failed ringing client other different
    · rfl

theorem marks_markRejected : Marks RingingTargetEntry.markRejected := by
  refine marks_of_moved (fun _ _ => rfl) ⟨fun _ _ => rfl, fun _ _ => rfl, ?_⟩
  intro ringing client other different
  simp [RingingTargetEntry.hasFailedClient, different]

theorem marks_markErrored : Marks RingingTargetEntry.markErrored := by
  refine marks_of_moved (fun _ _ => rfl) ⟨fun _ _ => rfl, fun _ _ => rfl, ?_⟩
  intro ringing client other different
  simp [RingingTargetEntry.hasFailedClient, different]

/-- Marking a client withdraws it from every target. -/
theorem withdrawn_markTarget {call : CallId} {entry : RingingCallEntry}
    {active : Option ActiveCallEntry} (wf : CallState.WellFormed call ⟨some entry, active⟩)
    {markFn : RingingTargetEntry → ClientId → RingingTargetEntry} (marks : Marks markFn)
    (client : ClientId) :
    Withdrawn client entry (entry.targets.filterMap fun _ => markTarget markFn client) := by
  have cases : ∀ target earlier, entry.targets.lookup target = some earlier →
      (client ∉ earlier.notifiedClients ∧ markTarget markFn client earlier = some earlier) ∨
      (client ∈ earlier.notifiedClients ∧ markTarget markFn client earlier =
        if earlier.notifiedClients.erase client = ∅ then none
        else some (markFn earlier client)) := by
    intro target earlier was
    by_cases notified : client ∈ earlier.notifiedClients
    · right
      have notFailed := wf.notifiedNotFailed entry rfl target earlier was client notified
      refine ⟨notified, ?_⟩
      simp [markTarget, RingingTargetEntry.hasNotifiedClient, notified, notFailed,
        RingingTargetEntry.allRejectedOrErrored, marks.notified]
    · left
      exact ⟨notified, by simp [markTarget, RingingTargetEntry.hasNotifiedClient, notified]⟩
  constructor
  · intro target ringing found
    rw [Finmap.lookup_filterMap, Option.bind_eq_some_iff] at found
    obtain ⟨earlier, was, marked⟩ := found
    have notFailed := wf.notifiedNotFailed entry rfl target earlier was
    refine ⟨earlier, was, ?_⟩
    rcases cases target earlier was with ⟨absent, stays⟩ | ⟨_, decided⟩
    · cases stays.symm.trans marked
      exact ⟨rfl, (Finset.erase_eq_of_notMem absent).symm, notFailed⟩
    · rw [marked] at decided
      split at decided
      · cases decided
      · cases decided
        refine ⟨marks.source _ _, marks.notified _ _, ?_⟩
        intro other rung
        rw [marks.notified] at rung
        rw [marks.failed _ _ _ (Finset.ne_of_mem_erase rung)]
        exact notFailed other (Finset.mem_of_mem_erase rung)
  · intro target earlier was gone
    rw [Finmap.lookup_filterMap, was, Option.bind_some] at gone
    rcases cases target earlier was with ⟨_, stays⟩ | ⟨_, decided⟩
    · cases stays.symm.trans gone
    · rw [gone] at decided
      split at decided
      · assumption
      · cases decided
  · intro target ringing earlier found was rung
    rw [Finmap.lookup_filterMap, was, Option.bind_some] at found
    rcases cases target earlier was with ⟨_, stays⟩ | ⟨_, decided⟩
    · cases stays.symm.trans found
      exact rung
    · rw [found] at decided
      split at decided
      · cases decided
      · rename_i left
        cases decided
        rw [marks.notified]
        exact Finset.nonempty_iff_ne_empty.mpr left

/-- Marking a client that does not ring changes nothing. -/
theorem markClientWithinRingingCalls_of_silent {s : CallManager} (coherent : Coherent s)
    (markFn : RingingTargetEntry → ClientId → RingingTargetEntry) (order : Iteration)
    {call : CallId} {client : ClientId} (silent : ∀ target, ¬ (s.call call).Rings target client) :
    (s.markClientWithinRingingCalls order call client markFn).1 = s ∧
      ((s.markClientWithinRingingCalls order call client markFn).2 = .callNotFound ∨
        (s.markClientWithinRingingCalls order call client markFn).2 = .clientNotNotified) := by
  have unchanged : s.removeClientIncomingCall call client = s := by
    have notRung : rungAs s.clientIncomingCalls client call = none := by
      cases rung : rungAs s.clientIncomingCalls client call with
      | none => rfl
      | some target =>
          exact absurd ((coherent.indexed.incoming client call target).mp rung).1 (silent target)
    simp [removeClientIncomingCall,
      removeIncoming_of_silent coherent.indexed.populated notRung]
  unfold markClientWithinRingingCalls
  rw [unchanged]
  cases found : s.ringingCalls.lookup call with
  | none => simp [found]
  | some entry =>
      by_cases isCaller : entry.callerId = client
      · simp [found, isCaller]
      · have nobody : (entry.targets.anyValue fun ringing =>
            ringing.hasNotifiedClient client && !ringing.hasFailedClient client) = false := by
          rw [← Bool.not_eq_true, Finmap.anyValue_iff]
          rintro ⟨target, ringing, present, passes⟩
          refine silent target ⟨entry, found, ringing, present, ?_⟩
          simp only [RingingTargetEntry.hasNotifiedClient, Bool.and_eq_true,
            decide_eq_true_eq] at passes
          exact passes.1
        simp [found, isCaller, nobody]

/-- The state after a client that rings was marked. -/
theorem markClientWithinRingingCalls_of_rings {s : CallManager} (coherent : Coherent s)
    (markFn : RingingTargetEntry → ClientId → RingingTargetEntry) (order : Iteration)
    {call : CallId} {client : ClientId} {entry : RingingCallEntry}
    (found : s.ringingCalls.lookup call = some entry) {target : CallTarget}
    (rung : entry.Rings target client) :
    (s.markClientWithinRingingCalls order call client markFn).1 =
      (if (entry.targets.filterMap fun _ => markTarget markFn client).isEmpty then
        freeCaller { s.removeClientIncomingCall call client with
          ringingCalls := s.ringingCalls.erase call } entry.callerId
      else
        { s.removeClientIncomingCall call client with
          ringingCalls := s.ringingCalls.insert call { entry with
            targets := entry.targets.filterMap fun _ => markTarget markFn client } }) ∧
      ((s.markClientWithinRingingCalls order call client markFn).2 = .continued ∨
        ∃ targets update, (s.markClientWithinRingingCalls order call client markFn).2 =
          .targetFailed targets update) := by
  have wf := coherent.wellFormed call
  have notCaller : entry.callerId ≠ client := by
    rintro rfl
    exact wf.callerNotRung target _ ⟨entry, found, rfl⟩ ⟨entry, found, rung⟩
  obtain ⟨ringing, present, notified⟩ := rung
  have somebody : (entry.targets.anyValue fun ringing =>
      ringing.hasNotifiedClient client && !ringing.hasFailedClient client) = true := by
    rw [Finmap.anyValue_iff]
    refine ⟨target, ringing, present, ?_⟩
    simp [RingingTargetEntry.hasNotifiedClient, notified,
      wf.notifiedNotFailed entry found target ringing present client notified]
  have found' : (s.removeClientIncomingCall call client).ringingCalls.lookup call = some entry :=
    found
  unfold markClientWithinRingingCalls
  simp only [found', notCaller, if_false, somebody, Bool.not_true, Bool.false_eq_true]
  split
  · exact ⟨rfl, .inl rfl⟩
  · exact ⟨rfl, .inr ⟨_, _, rfl⟩⟩

/-- Marking a client that rings withdraws it from the call. -/
theorem markClientWithinRingingCalls_follows {s : CallManager} (coherent : Coherent s)
    {markFn : RingingTargetEntry → ClientId → RingingTargetEntry} (marks : Marks markFn)
    {request : Request} {call : CallId} {client : ClientId}
    (isOp : request.op.Withdraws call client) {target : CallTarget}
    (rings : (s.call call).Rings target client) (evicted : Option ClientId) :
    Follows request evicted s
      (s.markClientWithinRingingCalls request.order call client markFn).1 := by
  obtain ⟨entry, found, rung⟩ := rings
  have wf := coherent.wellFormed call
  rw [call_eq_of_ringing found] at wf
  have withdrawn := withdrawn_markTarget wf marks client
  have state := (markClientWithinRingingCalls_of_rings coherent markFn request.order found rung).1
  rw [state]
  generalize (entry.targets.filterMap fun _ => markTarget markFn client) = targets
    at withdrawn ⊢
  have nobody : targets.isEmpty = true → ∀ target other,
      ¬ RingingCallEntry.Rings { entry with targets := targets } target other := by
    intro empty target other
    simp [RingingCallEntry.Rings, (Finmap.isEmpty_iff targets).mp empty]
  obtain ⟨others, step, indexed, _⟩ := withdraw_step
    (if targets.isEmpty then
        freeCaller { s.removeClientIncomingCall call client with
          ringingCalls := s.ringingCalls.erase call } entry.callerId
      else
        { s.removeClientIncomingCall call client with
          ringingCalls := s.ringingCalls.insert call { entry with targets := targets } })
    coherent.indexed isOp evicted found withdrawn nobody id
    (by split <;> simp) (by split <;> simp [removeClientIncomingCall])
    (by
      split
      · refine freeCaller_clientActiveCalls_congr ?_ ?_ _ <;> rfl
      · rfl)
    (by
      intro other otherCall otherTarget
      have incoming := rungAs_removeIncoming call s.clientIncomingCalls client other otherCall
      split <;> simp [removeClientIncomingCall, incoming] <;> grind)
    (by
      have populated := populated_removeIncoming call coherent.indexed.populated client
      split
      · simpa [removeClientIncomingCall] using populated
      · exact populated)
  exact .step others step indexed

/-- Marking a client as failed follows the machine, whether or not it rings. -/
theorem markClient_follows {s : CallManager} (coherent : Coherent s)
    {markFn : RingingTargetEntry → ClientId → RingingTargetEntry} (marks : Marks markFn)
    {request : Request} {call : CallId} {client : ClientId}
    (isOp : request.op.Withdraws call client) (evicted : Option ClientId) :
    Follows request evicted s
      (s.markClientWithinRingingCalls request.order call client markFn).1 := by
  by_cases rings : ∃ target, (s.call call).Rings target client
  · obtain ⟨target, rings⟩ := rings
    exact markClientWithinRingingCalls_follows coherent marks isOp rings evicted
  · rw [(markClientWithinRingingCalls_of_silent coherent markFn request.order
      (not_exists.mp rings)).1]
    exact .stay coherent

/-! ## Accepting -/

theorem nodup_targetList (order : Iteration) (entry : RingingCallEntry) :
    (entry.targetList order).Nodup := by
  refine List.Nodup.filterMap ?_ (order.targets.nodup_list _)
  intro first second pair isFirst isSecond
  obtain ⟨_, _, rfl⟩ := Option.map_eq_some_iff.mp isFirst
  obtain ⟨_, _, same⟩ := Option.map_eq_some_iff.mp isSecond
  exact (congrArg Prod.fst same).symm

/-- A client rings for at most one target, so accepting merges nothing. -/
theorem acceptedTarget_cases {call : CallId} {entry : RingingCallEntry}
    {active : Option ActiveCallEntry} (wf : CallState.WellFormed call ⟨some entry, active⟩)
    (order : Iteration) (client : ClientId) :
    ((∀ target, ¬ entry.Rings target client) ∧ acceptedTarget order call client entry = none) ∨
    ∃ target ringing, entry.targets.lookup target = some ringing ∧
      client ∈ ringing.notifiedClients ∧ acceptedTarget order call client entry =
        some (ringing.complete call entry.callerId ringing.source target) := by
  have folded : acceptedTarget order call client entry =
      ((entry.targetList order).filter fun pair => pair.2.hasNotifiedClient client).foldl
        (fun accepted pair => some (mergeAccepted accepted
          (pair.2.complete call entry.callerId pair.2.source pair.1))) none := by
    rw [List.foldl_filter]
    rfl
  have member : ∀ pair ∈ (entry.targetList order).filter fun pair =>
      pair.2.hasNotifiedClient client, entry.targets.lookup pair.1 = some pair.2 ∧
        client ∈ pair.2.notifiedClients := by
    intro pair isMember
    rw [List.mem_filter] at isMember
    exact ⟨(mem_targetList order entry pair.1 pair.2).mp isMember.1, by
      simpa [RingingTargetEntry.hasNotifiedClient] using isMember.2⟩
  have nodup := (nodup_targetList order entry).filter fun pair => pair.2.hasNotifiedClient client
  rw [folded]
  cases matching : (entry.targetList order).filter fun pair => pair.2.hasNotifiedClient client with
  | nil =>
      left
      refine ⟨?_, rfl⟩
      rintro target ⟨ringing, found, rung⟩
      have present : (target, ringing) ∈ (entry.targetList order).filter fun pair =>
          pair.2.hasNotifiedClient client := by
        rw [List.mem_filter]
        exact ⟨(mem_targetList order entry target ringing).mpr found, by
          simpa [RingingTargetEntry.hasNotifiedClient] using rung⟩
      rw [matching] at present
      cases present
  | cons first rest =>
      right
      rw [matching] at member nodup
      obtain ⟨found, rung⟩ := member first (List.mem_cons_self ..)
      cases rest with
      | nil => exact ⟨first.1, first.2, found, rung, rfl⟩
      | cons second more =>
          obtain ⟨found', rung'⟩ := member second (by simp)
          have sameTarget : first.1 = second.1 :=
            wf.ringsOnce _ _ client ⟨entry, rfl, first.2, found, rung⟩
              ⟨entry, rfl, second.2, found', rung'⟩
          have same : first = second := by
            refine Prod.ext sameTarget ?_
            rw [sameTarget, found'] at found
            exact (Option.some.inj found).symm
          simp [same] at nodup

/-- The targets that keep ringing when a client accepts one. -/
theorem retain_notNotified {call : CallId} {entry : RingingCallEntry}
    {active : Option ActiveCallEntry} (wf : CallState.WellFormed call ⟨some entry, active⟩)
    {client : ClientId} {target : CallTarget} (rung : entry.Rings target client)
    (other : CallTarget) :
    (entry.targets.retain fun _ ringing => !ringing.hasNotifiedClient client).lookup other =
      if other = target then none else entry.targets.lookup other := by
  obtain ⟨ringing, found, notified⟩ := rung
  rw [Finmap.lookup_retain]
  split
  · rename_i same
    rw [same, found]
    simp [RingingTargetEntry.hasNotifiedClient, notified]
  · rename_i different
    cases present : entry.targets.lookup other with
    | none => rfl
    | some otherRinging =>
        have silent : client ∉ otherRinging.notifiedClients := by
          intro alsoNotified
          exact different (wf.ringsOnce _ _ client ⟨entry, rfl, otherRinging, present, alsoNotified⟩
            ⟨entry, rfl, ringing, found, notified⟩)
        simp [RingingTargetEntry.hasNotifiedClient, silent]

/-- An entry whose targets lose one target. -/
theorem rings_of_lookup_ne (entry after : RingingCallEntry) {target : CallTarget}
    (lookup : ∀ other, after.targets.lookup other =
      if other = target then none else entry.targets.lookup other)
    (other : CallTarget) (client : ClientId) :
    after.Rings other client ↔ entry.Rings other client ∧ other ≠ target := by
  simp only [RingingCallEntry.Rings, lookup]
  by_cases same : other = target <;> simp [same]

theorem narrows_of_lookup_ne {call : CallId} {entry after : RingingCallEntry}
    {active : Option ActiveCallEntry} (wf : CallState.WellFormed call ⟨some entry, active⟩)
    {target : CallTarget} (callId : after.callId = entry.callId)
    (callerId : after.callerId = entry.callerId)
    (lookup : ∀ other, after.targets.lookup other =
      if other = target then none else entry.targets.lookup other)
    (nonempty : after.targets.isEmpty = false) : Narrows entry after where
  callId := callId
  callerId := callerId
  targetsNonempty := (Finmap.isEmpty_eq_false_iff _).mp nonempty
  targets other ringing found := by
    rw [lookup] at found
    split at found
    · cases found
    · exact ⟨ringing, found, rfl, subset_rfl,
        wf.notifiedNotFailed entry rfl other ringing found⟩
  answerable other ringing earlier found was rung := by
    rw [lookup] at found
    split at found
    · cases found
    · cases was.symm.trans found
      exact rung

/-- An entry that is dropped when no target is left. -/
theorem rings_settle (entry : RingingCallEntry) (targets : HashMap CallTarget RingingTargetEntry)
    (active : Option ActiveCallEntry) (other : CallTarget) (client : ClientId) :
    CallState.Rings
      ⟨if targets.isEmpty = true then none else some { entry with targets := targets }, active⟩
      other client ↔ RingingCallEntry.Rings { entry with targets := targets } other client := by
  split
  · rename_i empty
    simp [RingingCallEntry.Rings, (Finmap.isEmpty_iff targets).mp empty]
  · simp

/-- Accepting a call the client does not ring for changes nothing. -/
theorem acceptCall_of_silent {s : CallManager} (coherent : Coherent s)
    {call : CallId} {client : ClientId} {entry : RingingCallEntry}
    (found : s.ringingCalls.lookup call = some entry)
    (silent : ∀ target, ¬ entry.Rings target client) :
    { s with
      ringingCalls :=
        if (entry.targets.retain fun _ ringing => !ringing.hasNotifiedClient client).isEmpty then
          s.ringingCalls.erase call
        else s.ringingCalls.insert call { entry with
          targets := entry.targets.retain fun _ ringing => !ringing.hasNotifiedClient client } } =
      s := by
  have same : (entry.targets.retain fun _ ringing => !ringing.hasNotifiedClient client) =
      entry.targets := by
    refine Finmap.ext_lookup fun target => ?_
    rw [Finmap.lookup_retain]
    cases present : entry.targets.lookup target with
    | none => rfl
    | some ringing =>
        have notNotified : client ∉ ringing.notifiedClients :=
          fun notified => silent target ⟨ringing, present, notified⟩
        simp [RingingTargetEntry.hasNotifiedClient, notNotified]
  have nonempty : entry.targets.isEmpty = false :=
    (Finmap.isEmpty_eq_false_iff _).mpr ((coherent.wellFormed call).targetsNonempty entry found)
  have table : s.ringingCalls.insert call entry = s.ringingCalls := by
    refine Finmap.ext_lookup fun other => ?_
    rw [Finmap.lookup_insert_eq]
    exact (lookup_unchanged s.ringingCalls found other).symm
  simp [same, nonempty, table]

/-- The state after a client that was free accepted its target. -/
theorem answer_follows {s s' : CallManager} (coherent : Coherent s) {request : Request}
    {call : CallId} {client : ClientId} (isOp : request.op = .acceptCall call client)
    (evicted : Option ClientId) (free : s.clientActiveCalls.lookup client = none)
    {entry : RingingCallEntry} (found : s.ringingCalls.lookup call = some entry)
    {target : CallTarget} {ringing : RingingTargetEntry}
    (present : entry.targets.lookup target = some ringing)
    (notified : client ∈ ringing.notifiedClients)
    {targets : HashMap CallTarget RingingTargetEntry}
    (targetsLookup : ∀ other, targets.lookup other =
      if other = target then none else entry.targets.lookup other)
    (ringingCalls : s'.ringingCalls = if targets.isEmpty = true then s.ringingCalls.erase call
      else s.ringingCalls.insert call { entry with targets := targets })
    (activeCalls : s'.activeCalls = s.activeCalls.insert call
      (joinActive (s.call call).active call client
        (ringing.complete call entry.callerId ringing.source target)))
    (clientIncomingCalls : s'.clientIncomingCalls =
      (request.order.clients.list ringing.notifiedClients).foldl (removeIncoming call)
        s.clientIncomingCalls)
    (clientActiveCalls : s'.clientActiveCalls = s.clientActiveCalls.insert client call) :
    Follows request evicted s s' := by
  have before := call_eq_of_ringing found
  have wf := coherent.wellFormed call
  rw [before] at wf
  have ringsIff := rings_of_lookup_ne entry { entry with targets := targets } targetsLookup
  obtain ⟨atCall, others⟩ := call_of_tables s s' call
    (if targets.isEmpty = true then none else some { entry with targets := targets })
    (some (joinActive (s.call call).active call client
        (ringing.complete call entry.callerId ringing.source target)))
    (by rw [ringingCalls]; exact lookup_settle s.ringingCalls (targets.isEmpty = true) _)
    (by rw [activeCalls]; exact fun other => Finmap.lookup_insert_eq _ _ other _)
  generalize joined : joinActive (s.call call).active call client
    (ringing.complete call entry.callerId ringing.source target) = active' at atCall
  have rings : ∀ active other rung, CallState.Rings
      ⟨if targets.isEmpty = true then none else some { entry with targets := targets }, active⟩
      other rung ↔ entry.Rings other rung ∧ other ≠ target := by
    intro active other rung
    rw [rings_settle, ringsIff]
  refine .step others ?_ ?_
  · rw [atCall, before, ← joined]
    refine .answer isOp ⟨ringing, present, notified⟩ rfl
      (wf.sourceIsCaller entry rfl target ringing present) ?_ (rings _)
    intro after isAfter
    split at isAfter
    · cases isAfter
    · rename_i nonempty
      cases isAfter
      exact narrows_of_lookup_ne wf rfl rfl targetsLookup (by simpa using nonempty)
  · refine coherent.indexed.move others ?_ ?_ ?_ ?_ ?_
    · intro other otherTarget
      have listed := coherent.indexed.incoming other call otherTarget
      have once := wf.ringsOnce otherTarget target other
      rw [before] at listed
      simp only [CallState.rings_some] at listed once
      have isNotified : entry.Rings target other ↔ other ∈ ringing.notifiedClients := by
        simp [RingingCallEntry.Rings, present]
      rw [atCall, rings, clientIncomingCalls, rungAs_foldl_removeIncoming]
      grind
    · intro other otherCall different
      rw [clientIncomingCalls, rungAs_foldl_removeIncoming, if_neg fun both => different both.2]
    · rw [clientIncomingCalls]
      exact populated_foldl_removeIncoming _ coherent.indexed.populated
    · intro other
      have engaged := coherent.indexed.busy other call
      have keys := joinActive_keys (s.call call).active call client
        (ringing.complete call entry.callerId ringing.source target)
      rw [joined] at keys
      have stillCalls : CallState.Calls ⟨if targets.isEmpty = true then none
          else some { entry with targets := targets }, some active'⟩ other →
          entry.callerId = other := by
        split <;> simp
      rw [clientActiveCalls, Finmap.lookup_insert_eq, atCall]
      rw [before] at engaged
      simp only [CallState.Engages, CallState.calls_some, CallState.joined_some, keys] at engaged ⊢
      cases was : (s.call call).active with
      | none =>
          simp only [was, CallState.joined_none, or_false] at engaged
          simp only [Finset.mem_insert, Finset.mem_singleton, RingingTargetEntry.complete]
          grind
      | some old =>
          have callerIn := wf.caller_mem was
          simp only [was, CallState.joined_some] at engaged
          simp only [Finset.mem_insert]
          grind
    · intro other otherCall different
      rw [clientActiveCalls, Finmap.lookup_insert_eq]
      grind

/-- What accepting a call does: nothing, or the target the client rings for stops ringing and
the client joins. -/
theorem acceptCall_state {s : CallManager} (coherent : Coherent s) (order : Iteration)
    (call : CallId) (client : ClientId) :
    (s.acceptCall order call client).1 = s ∨
    ∃ entry target ringing, s.ringingCalls.lookup call = some entry ∧
      entry.targets.lookup target = some ringing ∧ client ∈ ringing.notifiedClients ∧
      s.clientActiveCalls.lookup client = none ∧
      (s.acceptCall order call client).1 =
        { s with
          ringingCalls :=
            if (entry.targets.erase target).isEmpty then s.ringingCalls.erase call
            else s.ringingCalls.insert call { entry with targets := entry.targets.erase target }
          clientIncomingCalls := (order.clients.list ringing.notifiedClients).foldl
            (removeIncoming call) s.clientIncomingCalls
          activeCalls := s.activeCalls.insert call
            (joinActive (s.call call).active call client
              (ringing.complete call entry.callerId ringing.source target))
          clientActiveCalls := s.clientActiveCalls.insert client call } := by
  unfold acceptCall
  by_cases busy : client ∈ s.clientActiveCalls.keys
  · simp only [busy, if_true]
    exact .inl trivial
  · simp only [busy, if_false]
    cases found : s.ringingCalls.lookup call with
    | none => exact .inl rfl
    | some entry =>
        have wf := coherent.wellFormed call
        rw [call_eq_of_ringing found] at wf
        rcases acceptedTarget_cases wf order client with
          ⟨silent, none⟩ | ⟨target, ringing, present, notified, some⟩
        · simp only [none, acceptCall_of_silent coherent found silent]
          exact .inl trivial
        · have erased : (entry.targets.retain fun _ ringing => !ringing.hasNotifiedClient client) =
              entry.targets.erase target := by
            refine Finmap.ext_lookup fun other => ?_
            rw [retain_notNotified wf ⟨ringing, present, notified⟩, Finmap.lookup_erase_eq]
          simp only [some, erased]
          exact .inr ⟨entry, target, ringing, rfl, present, notified,
            Finmap.lookup_eq_none.mpr (by rwa [Finmap.mem_keys] at busy), rfl⟩

/-- What accepting a call does to the calls. -/
theorem acceptCall_call {s : CallManager} (coherent : Coherent s) (order : Iteration)
    (call : CallId) (client : ClientId) :
    (s.acceptCall order call client).1 = s ∨
    ∃ entry target ringing, s.ringingCalls.lookup call = some entry ∧
      entry.targets.lookup target = some ringing ∧ client ∈ ringing.notifiedClients ∧
      (s.acceptCall order call client).1.call call =
        ⟨if (entry.targets.erase target).isEmpty then none
          else some { entry with targets := entry.targets.erase target },
        some (joinActive (s.call call).active call client
          (ringing.complete call entry.callerId ringing.source target))⟩ ∧
      ∀ other, other ≠ call → (s.acceptCall order call client).1.call other = s.call other := by
  rcases acceptCall_state coherent order call client with
    same | ⟨entry, target, ringing, found, present, notified, _, state⟩
  · exact .inl same
  · obtain ⟨atCall, others⟩ := call_of_tables s (s.acceptCall order call client).1 call
      (if (entry.targets.erase target).isEmpty then none
        else some { entry with targets := entry.targets.erase target })
      (some (joinActive (s.call call).active call client
        (ringing.complete call entry.callerId ringing.source target)))
      (by rw [state]; exact lookup_settle s.ringingCalls _ _)
      (by rw [state]; exact fun other => Finmap.lookup_insert_eq _ _ other _)
    exact .inr ⟨entry, target, ringing, found, present, notified, atCall, others⟩

theorem acceptCall_follows {s : CallManager} (coherent : Coherent s) {request : Request}
    {call : CallId} {client : ClientId} (isOp : request.op = .acceptCall call client)
    (evicted : Option ClientId) :
    Follows request evicted s (s.acceptCall request.order call client).1 := by
  rcases acceptCall_state coherent request.order call client with
    same | ⟨entry, target, ringing, found, present, notified, free, state⟩
  · rw [same]
    exact .stay coherent
  · rw [state]
    exact answer_follows coherent isOp evicted free found present notified
      (Finmap.lookup_erase_eq entry.targets target) rfl rfl rfl rfl

end Vacs
