import Vacs.Calls.Seats

/-!
# The size of a conference under concurrent invites

The handler of an invite checks it against the size limit once, in one step, and
then rings its targets one by one. The steps of the handlers of all clients
interleave, with each other and with all other operations.

No two inviters spend the same free seats, because every invite in progress
affords what it still wants (`Inviting.WithinLimit`). Two things break this. The
check does not count the inviter's own target as new, although the call may be
gone, and the inviter with it, when the target is rung (`ownTarget_exceeds`). And
a client that joins the call while its own invite is in progress was never
checked for the seat it takes.
-/

set_option autoImplicit false

namespace Vacs

open CallManager

/-! ## Invites in progress -/

/-- An invite that passed the size check, with the targets it has not rung yet. -/
structure Invite where
  callId : CallId
  source : CallSource
  remaining : List (CallTarget × Finset ClientId)
deriving DecidableEq

/-- The call manager and the invites the handlers are working on, at most one for a client. -/
structure Inviting where
  calls : CallManager
  invites : HashMap ClientId Invite

/-- What a handler does: check a new invite, ring the next target of an invite in progress, or
carry out another operation. -/
inductive InviteMove where
  | check (clientId : ClientId) (callId : CallId) (source : CallSource)
      (resolved : List (CallTarget × Finset ClientId))
  | attempt (clientId : ClientId) (order : Iteration)
  | operate (request : Request)

/-- The targets of an invite, as a set. -/
def targetSet (resolved : List (CallTarget × Finset ClientId)) : Finset CallTarget :=
  (resolved.map Prod.fst).toFinset

/-- Resolved targets as the handler has them: in the sender's name, each target once, each with
somebody to ring, and never the sender itself. -/
def Resolved (clientId : ClientId) (source : CallSource)
    (resolved : List (CallTarget × Finset ClientId)) : Prop :=
  source.clientId = clientId ∧ resolved ≠ [] ∧ (resolved.map Prod.fst).Nodup ∧
    ∀ pair ∈ resolved, clientId ∉ pair.2 ∧ pair.2.Nonempty

instance (clientId : ClientId) (source : CallSource)
    (resolved : List (CallTarget × Finset ClientId)) :
    Decidable (Resolved clientId source resolved) :=
  inferInstanceAs (Decidable (_ ∧ _ ∧ _ ∧ _))

/-- Whether the handler goes on with the remaining targets after an attempt. -/
def goesOn : Except StartCallError (CallParticipants × CallParticipants) → Bool
  | .error .callerBusy => false
  | .error .notParticipant => false
  | _ => true

namespace Inviting

/-- The invites when one of them has some targets left. -/
def proceed (state : Inviting) (clientId : ClientId) (invite : Invite)
    (remaining : List (CallTarget × Finset ClientId)) : HashMap ClientId Invite :=
  if remaining.isEmpty then state.invites.erase clientId
  else state.invites.insert clientId { invite with remaining := remaining }

def step (state : Inviting) : InviteMove → Option Inviting
  | .check clientId callId source resolved =>
      if clientId ∈ state.invites.keys ∨ ¬ Resolved clientId source resolved then none
      else if state.calls.inviteExceedsMaxConfSize callId clientId (targetSet resolved) then
        some state
      else some { state with
        invites := state.invites.insert clientId ⟨callId, source, resolved⟩ }
  | .attempt clientId order =>
      (state.invites.lookup clientId).bind fun invite =>
        invite.remaining.head?.map fun next =>
          let attempted := state.calls.attemptCall order invite.callId clientId invite.source
            next.1 next.2
          { calls := attempted.1
            invites := state.proceed clientId invite
              (if goesOn attempted.2 then invite.remaining.tail else []) }
  | .operate request =>
      match request.op with
      | .attemptCall .. => none
      | _ => some { state with calls := state.calls.next request }

/-- The client has joined the call under a target it wants to ring, which nothing else in the
call covers. -/
def HidesOwnTarget (state : CallState) (client : ClientId) (wanted : Finset CallTarget) : Prop :=
  ∃ own ∈ wanted, state.participants.lookup client = some own ∧ own ∉ state.targets ∧
    own ∉ Seating.carried client state.participants

instance (state : CallState) (client : ClientId) (wanted : Finset CallTarget) :
    Decidable (HidesOwnTarget state client wanted) :=
  inferInstanceAs (Decidable (∃ own ∈ wanted, _ ∧ _ ∧ _))

/-- An inviter whose own seat hides one of the targets it wants would also fit with that target
counted as new, and no client joins a call its own invite in progress is for. -/
def NoSeatTwice (state : Inviting) : InviteMove → Prop
  | .check clientId callId _ resolved =>
      HidesOwnTarget (state.calls.call callId) clientId (targetSet resolved) →
        Seating.demand clientId (state.calls.call callId).participants
          (state.calls.call callId).targets (targetSet resolved) ≤ state.calls.maxConfSize
  | .attempt _ _ => True
  | .operate request =>
      match request.op with
      | .acceptCall callId clientId =>
          ∀ invite ∈ state.invites.lookup clientId, invite.callId ≠ callId
      | _ => True

instance (state : Inviting) : (move : InviteMove) → Decidable (state.NoSeatTwice move)
  | .check _ _ _ _ => inferInstanceAs (Decidable (_ → _))
  | .attempt _ _ => isTrue trivial
  | .operate ⟨.acceptCall _ _, _, _⟩ => inferInstanceAs (Decidable (∀ invite ∈ _, _))
  | .operate ⟨.attemptCall .., _, _⟩ | .operate ⟨.rejectCall .., _, _⟩
  | .operate ⟨.failRingingRecipient .., _, _⟩ | .operate ⟨.callError .., _, _⟩
  | .operate ⟨.dropTarget .., _, _⟩ | .operate ⟨.endCall .., _, _⟩
  | .operate ⟨.reportLinkFailure .., _, _⟩ | .operate ⟨.cleanupClientCalls .., _, _⟩ =>
      isTrue trivial

/-- No call is larger than the limit, and every invite in progress affords what it wants. -/
structure WithinLimit (state : Inviting) : Prop where
  coherent : Coherent state.calls
  seats : ∀ call, (state.calls.call call).seats ≤ state.calls.maxConfSize
  resolved : ∀ client invite, state.invites.lookup client = some invite →
    Resolved client invite.source invite.remaining
  affords : ∀ client invite, state.invites.lookup client = some invite →
    Affords state.calls.maxConfSize (state.calls.call invite.callId) client
      (targetSet invite.remaining)

/-! ### Checking -/

/-- An invite that passes the check and whose inviter hides no target is covered. -/
theorem demand_le_of_check {s : CallManager} {call : CallId} {client : ClientId}
    {wanted : Finset CallTarget} (passes : s.inviteExceedsMaxConfSize call client wanted = false)
    (visible : ¬ HidesOwnTarget (s.call call) client wanted) :
    Seating.demand client (s.call call).participants (s.call call).targets wanted ≤
      s.maxConfSize := by
  have anyRinging : ∀ target, ((s.ringingCalls.lookup call).any fun entry =>
      decide (target ∈ entry.targets.keys)) = decide (target ∈ (s.call call).targets) := by
    intro target
    cases found : s.ringingCalls.lookup call <;> simp [CallManager.call, CallState.targets, found]
  have ringingLen : ((s.ringingCalls.lookup call).map fun entry => entry.targets.keys.card).getD 0 =
      (s.call call).targets.card := by
    cases found : s.ringingCalls.lookup call <;> simp [CallManager.call, CallState.targets, found]
  have anyJoined : ∀ target, ((s.activeCalls.lookup call).any fun active =>
      active.participants.anyValue fun joined => joined == target) =
        (s.call call).participants.anyValue fun joined => joined == target := by
    intro target
    cases found : s.activeCalls.lookup call <;>
      simp [CallManager.call, CallState.participants, found, Finmap.anyValue]
  have callerJoined : ((s.activeCalls.lookup call).any fun active =>
      decide (client ∈ active.participants.keys)) =
        decide (client ∈ (s.call call).participants.keys) := by
    cases found : s.activeCalls.lookup call <;>
      simp [CallManager.call, CallState.participants, found]
  have joinedLen : ((s.activeCalls.lookup call).map fun active =>
      active.participants.keys.card).getD 0 = (s.call call).participants.keys.card := by
    cases found : s.activeCalls.lookup call <;>
      simp [CallManager.call, CallState.participants, found]
  have counted : (s.call call).participants.keys.card + (s.call call).targets.card +
      (wanted.filter fun target => !decide (target ∈ (s.call call).targets) &&
        !(s.call call).participants.anyValue fun joined => joined == target).card +
      (if decide (client ∈ (s.call call).participants.keys) then 0 else 1) ≤ s.maxConfSize := by
    simp only [inviteExceedsMaxConfSize, decide_eq_false_iff_not, not_lt, anyRinging,
      anyJoined, callerJoined, ringingLen, joinedLen] at passes
    exact passes
  have uncovered : wanted \ ((s.call call).targets ∪
      Seating.carried client (s.call call).participants) =
      wanted.filter fun target => !decide (target ∈ (s.call call).targets) &&
        !(s.call call).participants.anyValue fun joined => joined == target := by
    ext target
    rw [Finset.mem_sdiff, Finset.mem_filter, Finset.mem_union, not_or, Seating.mem_carried,
      Bool.and_eq_true, Bool.not_eq_true', decide_eq_false_iff_not, Bool.not_eq_true',
      ← Bool.not_eq_true, Finmap.anyValue_iff]
    refine and_congr_right fun isWanted => and_congr_right fun free => not_congr ?_
    simp only [beq_iff_eq]
    constructor
    · rintro ⟨other, _, carries⟩
      exact ⟨other, target, carries, rfl⟩
    · rintro ⟨other, _, carries, rfl⟩
      by_contra notCarried
      have isClient : other = client := by
        by_contra different
        exact notCarried ⟨other, different, carries⟩
      subst isClient
      refine visible ⟨_, isWanted, carries, free, ?_⟩
      rwa [Seating.mem_carried]
  rw [Seating.demand, uncovered]
  by_cases joined : client ∈ (s.call call).participants.keys
  · have fewer := Finset.card_erase_add_one joined
    simp only [joined, decide_true, if_true] at counted
    omega
  · rw [Finset.erase_eq_of_notMem joined]
    simp only [joined, decide_false, Bool.false_eq_true, if_false] at counted
    omega

/-! ### Other operations -/

theorem WithinLimit.operate {state : Inviting} (within : state.WithinLimit) {request : Request}
    (notInvite : ∀ call caller source target notified,
      request.op ≠ .attemptCall call caller source target notified)
    (guarded : state.NoSeatTwice (.operate request)) :
    WithinLimit { state with calls := state.calls.next request } := by
  have fromCaller : request.op.FromCaller := by
    cases isOp : request.op with
    | attemptCall => exact absurd isOp (notInvite _ _ _ _ _)
    | _ => trivial
  have coherent := next_coherent within.coherent fromCaller
  have limit := next_maxConfSize state.calls request
  refine ⟨coherent, fun call => ?_, within.resolved, fun client invite isInvite => ?_⟩
  · change _ ≤ (state.calls.next request).maxConfSize
    rw [limit]
    rcases call_moves within.coherent notInvite call with shrinks | ⟨_, _, _, _, answered⟩
    · exact (shrinks.seats (coherent.wellFormed call)).trans (within.seats call)
    · rw [answered.seats]
      exact within.seats call
  · change Affords (state.calls.next request).maxConfSize _ _ _
    rw [limit]
    have wf := within.coherent.wellFormed invite.callId
    have afforded := within.affords client invite isInvite
    rcases call_moves within.coherent notInvite invite.callId with
      shrinks | ⟨answering, _, _, isOp, answered⟩
    · exact shrinks.affords wf (coherent.wellFormed _) afforded
    · refine answered.affords wf ?_ afforded
      rintro rfl
      simp only [NoSeatTwice, isOp] at guarded
      exact guarded invite isInvite rfl

/-! ### Ringing the next target -/

theorem lookup_proceed {state : Inviting} {client other : ClientId} {invite found : Invite}
    {remaining : List (CallTarget × Finset ClientId)}
    (isFound : (state.proceed client invite remaining).lookup other = some found) :
    (other ≠ client ∧ state.invites.lookup other = some found) ∨
      (other = client ∧ remaining ≠ [] ∧ found = { invite with remaining := remaining }) := by
  unfold proceed at isFound
  split at isFound
  · rw [Finmap.lookup_erase_eq] at isFound
    split at isFound
    · cases isFound
    · rename_i different
      exact .inl ⟨different, isFound⟩
  · rename_i nonempty
    rw [Finmap.lookup_insert_eq] at isFound
    split at isFound
    · rename_i same
      cases isFound
      exact .inr ⟨same, by simpa using nonempty, rfl⟩
    · rename_i different
      exact .inl ⟨different, isFound⟩

theorem resolved_tail {client : ClientId} {source : CallSource}
    {next : CallTarget × Finset ClientId} {rest : List (CallTarget × Finset ClientId)}
    (resolved : Resolved client source (next :: rest)) (nonempty : rest ≠ []) :
    Resolved client source rest :=
  ⟨resolved.1, nonempty, (List.nodup_cons.mp resolved.2.2.1).2,
    fun pair member => resolved.2.2.2 pair (List.mem_cons_of_mem _ member)⟩

/-- Once the next target is rung, the invite wants one target less. -/
theorem targetSet_tail {client : ClientId} {source : CallSource}
    {next : CallTarget × Finset ClientId} {rest : List (CallTarget × Finset ClientId)}
    (resolved : Resolved client source (next :: rest)) :
    targetSet rest = (targetSet (next :: rest)).erase next.1 := by
  have fresh : next.1 ∉ rest.map Prod.fst := (List.nodup_cons.mp resolved.2.2.1).1
  ext target
  simp only [targetSet, List.map_cons, List.toFinset_cons, Finset.mem_erase, Finset.mem_insert,
    List.mem_toFinset]
  constructor
  · intro member
    refine ⟨?_, .inr member⟩
    rintro rfl
    exact fresh member
  · rintro ⟨different, isNext | member⟩
    · exact absurd isNext different
    · exact member

theorem WithinLimit.attempt {state : Inviting} (within : state.WithinLimit) {client : ClientId}
    {invite : Invite} (isInvite : state.invites.lookup client = some invite)
    {next : CallTarget × Finset ClientId} {rest : List (CallTarget × Finset ClientId)}
    (remaining : invite.remaining = next :: rest) (order : Iteration)
    {left : List (CallTarget × Finset ClientId)} (isLeft : left = rest ∨ left = []) :
    WithinLimit
      { calls := (state.calls.attemptCall order invite.callId client invite.source next.1
          next.2).1
        invites := state.proceed client invite left } := by
  have resolved := within.resolved client invite isInvite
  rw [remaining] at resolved
  have afforded := within.affords client invite isInvite
  rw [remaining] at afforded
  have limit := attemptCall_maxConfSize order state.calls invite.callId client invite.source next.1
    next.2
  have stillResolved : ∀ other found,
      (state.proceed client invite left).lookup other = some found →
        Resolved other found.source found.remaining := by
    intro other found isFound
    rcases lookup_proceed isFound with ⟨_, isOther⟩ | ⟨rfl, nonempty, rfl⟩
    · exact within.resolved other found isOther
    · rcases isLeft with rfl | rfl
      · exact resolved_tail resolved nonempty
      · exact absurd rfl nonempty
  rcases attemptCall_invited within.coherent order invite.callId client invite.source next.1 next.2
    with ⟨same, _⟩ | ⟨invited, others, _⟩
  · rw [same]
    refine ⟨within.coherent, within.seats, stillResolved, ?_⟩
    intro other found isFound
    rcases lookup_proceed isFound with ⟨_, isOther⟩ | ⟨rfl, nonempty, rfl⟩
    · exact within.affords other found isOther
    · rcases isLeft with rfl | rfl
      · refine afforded.mono ?_
        rw [targetSet_tail resolved]
        exact Finset.erase_subset _ _
      · exact absurd rfl nonempty
  · have wf := within.coherent.wellFormed invite.callId
    have wants : next.1 ∈ targetSet (next :: rest) := by simp [targetSet]
    have demand := invited.demand_le wants afforded
    have coherent : Coherent (state.calls.attemptCall order invite.callId client invite.source
        next.1 next.2).1 := by
      let request : Request :=
        ⟨.attemptCall invite.callId client invite.source next.1 next.2, order, 0⟩
      have fromCaller : request.op.FromCaller :=
        ⟨resolved.1, (resolved.2.2.2 next (List.mem_cons_self ..)).1⟩
      exact next_coherent within.coherent fromCaller
    refine ⟨coherent, fun call => ?_, stillResolved, ?_⟩
    · rw [limit]
      by_cases isCall : call = invite.callId
      · rw [isCall]
        exact (invited.seats_le _).trans demand
      · rw [others call isCall]
        exact within.seats call
    · intro other found isFound
      rw [limit]
      rcases lookup_proceed isFound with ⟨different, isOther⟩ | ⟨rfl, nonempty, rfl⟩
      · have otherAffords := within.affords other found isOther
        by_cases isCall : found.callId = invite.callId
        · rw [isCall] at otherAffords ⊢
          exact invited.affordsOther wf different otherAffords
        · rw [others found.callId isCall]
          exact otherAffords
      · rcases isLeft with rfl | rfl
        · refine .of_demand ?_
          rw [targetSet_tail resolved]
          exact demand
        · exact absurd rfl nonempty

/-! ### Runs -/

theorem WithinLimit.check {state : Inviting} (within : state.WithinLimit) {client : ClientId}
    {call : CallId} {source : CallSource} {resolved : List (CallTarget × Finset ClientId)}
    (isResolved : Resolved client source resolved)
    (passes : state.calls.inviteExceedsMaxConfSize call client (targetSet resolved) = false)
    (guarded : state.NoSeatTwice (.check client call source resolved)) :
    WithinLimit { state with
      invites := state.invites.insert client ⟨call, source, resolved⟩ } := by
  have covered : Seating.demand client (state.calls.call call).participants
      (state.calls.call call).targets (targetSet resolved) ≤ state.calls.maxConfSize := by
    by_cases hidden : HidesOwnTarget (state.calls.call call) client (targetSet resolved)
    · exact guarded hidden
    · exact demand_le_of_check passes hidden
  refine ⟨within.coherent, within.seats, ?_, ?_⟩
  · intro other invite isInvite
    rw [Finmap.lookup_insert_eq] at isInvite
    split at isInvite
    · rename_i same
      cases isInvite
      exact same ▸ isResolved
    · exact within.resolved other invite isInvite
  · intro other invite isInvite
    rw [Finmap.lookup_insert_eq] at isInvite
    split at isInvite
    · rename_i same
      cases isInvite
      subst same
      exact .of_demand covered
    · exact within.affords other invite isInvite

/-- Every move that takes no seat twice keeps the limit. -/
theorem WithinLimit.step {state next : Inviting} (within : state.WithinLimit) {move : InviteMove}
    (guarded : state.NoSeatTwice move) (steps : state.step move = some next) :
    next.WithinLimit ∧ next.calls.maxConfSize = state.calls.maxConfSize := by
  cases move with
  | check client call source resolved =>
      simp only [Inviting.step] at steps
      split at steps
      · cases steps
      · rename_i fresh
        obtain ⟨_, isResolved⟩ := not_or.mp fresh
        split at steps
        · cases steps
          exact ⟨within, rfl⟩
        · rename_i passes
          cases steps
          exact ⟨within.check (not_not.mp isResolved) (Bool.not_eq_true _ ▸ passes) guarded, rfl⟩
  | attempt client order =>
      obtain ⟨invite, isInvite, steps⟩ := Option.bind_eq_some_iff.mp steps
      obtain ⟨target, isNext, rfl⟩ := Option.map_eq_some_iff.mp steps
      obtain ⟨rest, remaining⟩ := List.head?_eq_some_iff.mp isNext
      refine ⟨within.attempt isInvite remaining order ?_,
        attemptCall_maxConfSize order state.calls invite.callId client invite.source _ _⟩
      split
      · exact .inl (by rw [remaining, List.tail_cons])
      · exact .inr rfl
  | operate request =>
      simp only [Inviting.step] at steps
      split at steps
      · cases steps
      · rename_i notInvite
        cases steps
        exact ⟨within.operate notInvite guarded, next_maxConfSize state.calls request⟩

end Inviting

/-- The limit is a given one and kept. -/
def Inviting.Keeps (limit : ℕ) (state : Inviting) : Prop :=
  state.WithinLimit ∧ state.calls.maxConfSize = limit

theorem Inviting.step_keeps {limit : ℕ} {state next : Inviting} {move : InviteMove}
    (keeps : state.Keeps limit) (guarded : state.NoSeatTwice move)
    (steps : state.step move = some next) : next.Keeps limit := by
  obtain ⟨within, same⟩ := keeps.1.step guarded steps
  exact ⟨within, same.trans keeps.2⟩

/-- The server before the first call. -/
def Inviting.start (maxConfSize : ℕ) : Inviting := ⟨CallManager.new maxConfSize, ∅⟩

/-- As long as no seat is taken twice, no call grows beyond the limit, however the invites of
the clients interleave with each other and with the other operations. -/
theorem run_withinLimit (maxConfSize : ℕ) (moves : List InviteMove) (final : Inviting)
    (runs : GuardedRuns.runMoves Inviting.step (.start maxConfSize) moves = some final)
    (guarded : GuardedRuns.Guarded Inviting.step Inviting.NoSeatTwice (.start maxConfSize) moves)
    (call : CallId) : (final.calls.call call).seats ≤ maxConfSize := by
  have initially : (Inviting.start maxConfSize).WithinLimit := by
    have empty : ∀ call, (Inviting.start maxConfSize).calls.call call = ⟨none, none⟩ := by
      intro call
      simp [Inviting.start, CallManager.call, CallManager.new]
    refine ⟨coherent_new maxConfSize, fun call => ?_, ?_, ?_⟩
    · rw [empty]
      simp [CallState.seats, CallState.participants, CallState.targets, CallState.callerWaits]
    · intro client invite isInvite
      simp [Inviting.start] at isInvite
    · intro client invite isInvite
      simp [Inviting.start] at isInvite
  have start : (Inviting.start maxConfSize).Keeps maxConfSize := ⟨initially, rfl⟩
  obtain ⟨within, limit⟩ := guarded.preserves (fun _ _ _ => Inviting.step_keeps) runs start
  rw [← limit]
  exact within.seats call

/-! ## An inviter that leaves its own target uncounted -/

/-- With a limit of two, a client that calls as a station it shares invites a second client. Both
are in the call when the first one invites its own station, shared with a third client, and the
second client again; the second client hangs up before these are rung. -/
def ownTarget : List InviteMove :=
  let caller : ClientId := ⟨"10000001"⟩
  let callee : ClientId := ⟨"10000002"⟩
  let sharing : ClientId := ⟨"10000003"⟩
  let source : CallSource := { clientId := caller, stationId := some ⟨"LOVV"⟩ }
  let operate := fun op => InviteMove.operate { op := op, order := .increasing, now := 0 }
  [.check caller ⟨1⟩ source [(.client callee, {callee})],
    .attempt caller .increasing,
    operate (.acceptCall ⟨1⟩ callee),
    .check caller ⟨1⟩ source [(.station ⟨"LOVV"⟩, {sharing}), (.client callee, {callee})],
    operate (.endCall ⟨1⟩ callee),
    .attempt caller .increasing,
    .attempt caller .increasing]

/-- Both targets pass the check, as nothing new, and then ring beside the caller. -/
theorem ownTarget_exceeds :
    ¬∀ (maxConfSize : ℕ) (moves : List InviteMove) (final : Inviting), 2 ≤ maxConfSize →
      GuardedRuns.runMoves Inviting.step (.start maxConfSize) moves = some final →
      ∀ call, (final.calls.call call).seats ≤ maxConfSize := by
  intro bounded
  have taken : (GuardedRuns.runMoves Inviting.step (.start 2) ownTarget).map (fun final =>
      (final.calls.call ⟨1⟩).seats) = some 3 := by
    decide +kernel
  obtain ⟨final, runs, seats⟩ := Option.map_eq_some_iff.mp taken
  have fits := bounded 2 ownTarget final (Nat.le_refl 2) runs ⟨1⟩
  rw [seats] at fits
  exact absurd fits (by decide)

/-- A limit of three is kept when the caller of a call of two invites a third client. -/
def thirdInvited : List InviteMove :=
  let caller : ClientId := ⟨"10000001"⟩
  let callee : ClientId := ⟨"10000002"⟩
  let third : ClientId := ⟨"10000003"⟩
  let source : CallSource := { clientId := caller }
  let accept := fun client => InviteMove.operate
    { op := .acceptCall ⟨1⟩ client, order := .increasing, now := 0 }
  [.check caller ⟨1⟩ source [(.client callee, {callee})],
    .attempt caller .increasing,
    accept callee,
    .check caller ⟨1⟩ source [(.client third, {third})],
    .attempt caller .increasing,
    accept third]

theorem thirdInvited_withinLimit :
    GuardedRuns.Guarded Inviting.step Inviting.NoSeatTwice (.start 3) thirdInvited ∧
      ∃ final, GuardedRuns.runMoves Inviting.step (.start 3) thirdInvited = some final ∧
        (final.calls.call ⟨1⟩).seats = 3 ∧ ∀ call, (final.calls.call call).seats ≤ 3 := by
  have guarded : GuardedRuns.Guarded Inviting.step Inviting.NoSeatTwice (.start 3)
      thirdInvited := by
    decide +kernel
  have taken : (GuardedRuns.runMoves Inviting.step (.start 3) thirdInvited).map (fun final =>
      (final.calls.call ⟨1⟩).seats) = some 3 := by
    decide +kernel
  obtain ⟨final, runs, seats⟩ := Option.map_eq_some_iff.mp taken
  exact ⟨guarded, final, runs, seats, run_withinLimit 3 thirdInvited final runs guarded⟩

end Vacs
