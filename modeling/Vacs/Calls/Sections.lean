import Vacs.Calls.Disconnecting
import Vacs.Calls.Seats

/-!
# Critical sections of the call manager

The server runs the operations of the call manager concurrently. What nothing
can interrupt is a critical section: the region under one guard of the ringing
calls, or one acquisition of another lock outside such a region. Inviting,
accepting, ending a call and dropping a participant are single sections. The
others are not.

* Rejecting and failing first stop the client ringing, then mark it in the
  ringing entry; if that emptied the entry they read the active calls, and then
  clear the busy marker of the caller, whatever it points to by then.
* Cancelling a ringing target first takes it out of the ringing entry, then stops
  the notified clients ringing one by one, reads the active call, and releases
  the caller.

An operation in progress is what it has still to do (`PendingSections`). Clients
have one operation in progress at a time.
-/

set_option autoImplicit false

namespace Vacs

open CallManager

/-! ## The sections -/

/-- How a client that rings is marked. -/
inductive MarkKind where
  | rejected
  | errored
deriving DecidableEq, Repr

def MarkKind.markFn : MarkKind → RingingTargetEntry → ClientId → RingingTargetEntry
  | .rejected => .markRejected
  | .errored => .markErrored

/-- What the marking section leaves to be done. -/
inductive MarkSection where
  | notMarked
  | marked
  | emptied (callerId : ClientId)
deriving DecidableEq

/-- What the cancelling section leaves to be done. -/
inductive CancelSection where
  | notRinging
  | notPermitted
  | cancelled (callerId : ClientId) (ringingEnded : Bool) (notifiedClients : Finset ClientId)
deriving DecidableEq

/-- What an operation in progress has still to do. -/
inductive PendingSections where
  /-- Mark the client in the ringing entry, and end the call if it was not rung. -/
  | mark (callId : CallId) (kind : MarkKind) (endsCall : Bool)
  /-- Look whether the caller is in an active call. -/
  | readActive (callerId : ClientId)
  /-- Clear the busy marker of the caller. -/
  | clearBusy (callerId : ClientId)
  /-- Stop the callees ringing, and free the caller if the call stopped ringing. -/
  | silence (callId : CallId) (callerId : ClientId) (ringingEnded : Bool)
      (callees : List ClientId)
  /-- Clear the busy marker of the caller if it points to the call. -/
  | release (callId : CallId) (callerId : ClientId)
  | dropJoined (callId : CallId) (target : CallTarget) (reason : CallDropReason)
  | endCall (callId : CallId)
deriving DecidableEq

namespace CallManager

/-- The part of `markClientWithinRingingCalls` under the guard of the ringing calls. -/
def markSection (s : CallManager) (callId : CallId) (clientId : ClientId)
    (markFn : RingingTargetEntry → ClientId → RingingTargetEntry) : CallManager × MarkSection :=
  match s.ringingCalls.lookup callId with
  | none => (s, .notMarked)
  | some ringingCall =>
      if ringingCall.callerId = clientId then (s, .notMarked)
      else if !ringingCall.targets.anyValue fun ringing =>
          ringing.hasNotifiedClient clientId && !ringing.hasFailedClient clientId then
        (s, .notMarked)
      else
        let targets := ringingCall.targets.filterMap fun _ => markTarget markFn clientId
        if targets.isEmpty then
          ({ s with ringingCalls := s.ringingCalls.erase callId }, .emptied ringingCall.callerId)
        else
          ({ s with
            ringingCalls := s.ringingCalls.insert callId { ringingCall with targets := targets } },
            .marked)

/-- The part of `dropRingingTarget` under the guard of the ringing calls. -/
def cancelSection (s : CallManager) (callId : CallId) (droppingClientId : ClientId)
    (target : CallTarget) : CallManager × CancelSection :=
  match s.ringingCalls.lookup callId with
  | none => (s, .notRinging)
  | some ringingCall =>
      match ringingCall.targets.lookup target with
      | none => (s, .notRinging)
      | some ringing =>
          if ringing.source.clientId ≠ droppingClientId then (s, .notPermitted)
          else
            let remaining := { ringingCall with targets := ringingCall.targets.erase target }
            ({ s with
              ringingCalls :=
                if remaining.targets.isEmpty then s.ringingCalls.erase callId
                else s.ringingCalls.insert callId remaining },
              .cancelled ringingCall.callerId remaining.targets.isEmpty ringing.notifiedClients)

/-- The first section of an operation. Reports on dead links and disconnections are not
among the operations that are interleaved here. -/
def begin (s : CallManager) (request : Request) : Option (CallManager × Option PendingSections) :=
  match request.op with
  | .attemptCall callId callerId source target notifiedClients =>
      some ((s.attemptCall request.order callId callerId source target notifiedClients).1, none)
  | .rejectCall callId clientId =>
      some (s.removeClientIncomingCall callId clientId, some (.mark callId .rejected false))
  | .failRingingRecipient callId clientId =>
      some (s.removeClientIncomingCall callId clientId, some (.mark callId .errored false))
  | .callError callId clientId =>
      some (s.removeClientIncomingCall callId clientId, some (.mark callId .errored true))
  | .acceptCall callId clientId => some ((s.acceptCall request.order callId clientId).1, none)
  | .dropTarget callId clientId target reason =>
      match s.cancelSection callId clientId target with
      | (s, .notRinging) => some (s, some (.dropJoined callId target reason))
      | (s, .notPermitted) => some (s, none)
      | (s, .cancelled callerId ringingEnded notifiedClients) =>
          some (s, some (.silence callId callerId ringingEnded
            (request.order.clients.list notifiedClients)))
  | .endCall callId clientId => some ((s.endCall request.order callId clientId).1, none)
  | .reportLinkFailure .. => none
  | .cleanupClientCalls .. => none

/-- The next section of an operation in progress on behalf of a client. -/
def resume (s : CallManager) (order : Iteration) (clientId : ClientId) :
    PendingSections → CallManager × Option PendingSections
  | .mark callId kind endsCall =>
      match s.markSection callId clientId kind.markFn with
      | (s, .notMarked) => (s, if endsCall then some (.endCall callId) else none)
      | (s, .marked) => (s, none)
      | (s, .emptied callerId) => (s, some (.readActive callerId))
  | .readActive callerId =>
      (s, if s.inSomeActiveCall callerId then none else some (.clearBusy callerId))
  | .clearBusy callerId =>
      ({ s with clientActiveCalls := s.clientActiveCalls.erase callerId }, none)
  | .silence callId callerId ringingEnded (callee :: callees) =>
      (s.removeClientIncomingCall callId callee,
        some (.silence callId callerId ringingEnded callees))
  | .silence callId callerId ringingEnded [] =>
      (s, if ringingEnded ∧ callerId ∉ (s.activeCallSnapshot callId).1.keys then
        some (.release callId callerId) else none)
  | .release callId callerId =>
      ({ s with clientActiveCalls := releaseBusy callId s.clientActiveCalls callerId }, none)
  | .dropJoined callId target reason =>
      ((s.dropJoinedParticipant order callId clientId target reason).1, none)
  | .endCall callId => ((s.endCall order callId clientId).1, none)

/-! ## Sections that nothing interrupts -/

/-- Let an operation in progress carry on with its next section. -/
def carryOn (order : Iteration) (clientId : ClientId) :
    CallManager × Option PendingSections → CallManager × Option PendingSections
  | (s, none) => (s, none)
  | (s, some pending) => s.resume order clientId pending

/-- The manager once the sections after the marking section are through. -/
def settleMark : CallManager × MarkSection → CallManager
  | (s, .notMarked) => s
  | (s, .marked) => s
  | (s, .emptied callerId) => s.freeCaller callerId

/-- Stop clients ringing for a call, one after the other. -/
def silenceAll (s : CallManager) (callId : CallId) (callees : List ClientId) : CallManager :=
  { s with clientIncomingCalls := callees.foldl (removeIncoming callId) s.clientIncomingCalls }

/-- Free the caller of a call that stopped ringing, unless it joined the call. -/
def releaseCaller (s : CallManager) (callId : CallId) (callerId : ClientId)
    (ringingEnded : Bool) : CallManager :=
  { s with
    clientActiveCalls :=
      if ringingEnded ∧ callerId ∉ (s.activeCallSnapshot callId).1.keys then
        releaseBusy callId s.clientActiveCalls callerId
      else s.clientActiveCalls }

theorem markClientWithinRingingCalls_eq (order : Iteration) (s : CallManager) (callId : CallId)
    (clientId : ClientId) (markFn : RingingTargetEntry → ClientId → RingingTargetEntry) :
    (s.markClientWithinRingingCalls order callId clientId markFn).1 =
      settleMark ((s.removeClientIncomingCall callId clientId).markSection callId clientId
        markFn) := by
  unfold markClientWithinRingingCalls markSection
  generalize s.removeClientIncomingCall callId clientId = s
  dsimp only
  cases s.ringingCalls.lookup callId with
  | none => rfl
  | some ringingCall =>
      dsimp only
      split
      · rfl
      · split
        · rfl
        · split <;> split <;> rfl

/-- A section that marks nobody changes nothing. -/
theorem markSection_of_notMarked {s : CallManager} {callId : CallId} {clientId : ClientId}
    {markFn : RingingTargetEntry → ClientId → RingingTargetEntry}
    (notMarked : (s.markSection callId clientId markFn).2 = .notMarked) :
    s.markSection callId clientId markFn = (s, .notMarked) := by
  unfold markSection at notMarked ⊢
  cases found : s.ringingCalls.lookup callId with
  | none => rfl
  | some ringingCall =>
      simp only [found] at notMarked ⊢
      split
      · rfl
      · rename_i notCaller
        rw [if_neg notCaller] at notMarked
        split
        · rfl
        · rename_i rung
          rw [if_neg rung] at notMarked
          split at notMarked <;> cases notMarked

theorem markSection_clientIncomingCalls (s : CallManager) (callId : CallId) (clientId : ClientId)
    (markFn : RingingTargetEntry → ClientId → RingingTargetEntry) :
    (s.markSection callId clientId markFn).1.clientIncomingCalls = s.clientIncomingCalls := by
  unfold markSection
  split
  · rfl
  · split
    · rfl
    · split
      · rfl
      · dsimp only
        split <;> rfl

/-- Marking tells by its outcome whether its section marked the client. -/
theorem markClientWithinRingingCalls_outcome (order : Iteration) (s : CallManager)
    (callId : CallId) (clientId : ClientId)
    (markFn : RingingTargetEntry → ClientId → RingingTargetEntry) :
    let marked := (s.removeClientIncomingCall callId clientId).markSection callId clientId markFn
    let outcome := (s.markClientWithinRingingCalls order callId clientId markFn).2
    (marked.2 = .notMarked ∧ (outcome = .callNotFound ∨ outcome = .clientNotNotified)) ∨
      (marked.2 ≠ .notMarked ∧
        (outcome = .continued ∨ ∃ targets update, outcome = .targetFailed targets update)) := by
  unfold markClientWithinRingingCalls markSection
  generalize s.removeClientIncomingCall callId clientId = s
  dsimp only
  cases s.ringingCalls.lookup callId with
  | none => exact .inl ⟨rfl, .inl rfl⟩
  | some ringingCall =>
      dsimp only
      split
      · exact .inl ⟨rfl, .inr rfl⟩
      · split
        · exact .inl ⟨rfl, .inr rfl⟩
        · right
          constructor
          · split <;> (intro same; cases same)
          · split
            · exact .inl rfl
            · exact .inr ⟨_, _, rfl⟩

/-- A failing client ends the call if it was not marked in it. -/
theorem callError_eq (order : Iteration) (s : CallManager) (callId : CallId)
    (clientId : ClientId) :
    (s.callError order callId clientId).1 =
      if ((s.removeClientIncomingCall callId clientId).markSection callId clientId
          .markErrored).2 = .notMarked then
        ((s.removeClientIncomingCall callId clientId).endCall order callId clientId).1
      else settleMark ((s.removeClientIncomingCall callId clientId).markSection callId clientId
        .markErrored) := by
  have state := markClientWithinRingingCalls_eq order s callId clientId .markErrored
  have outcome := markClientWithinRingingCalls_outcome order s callId clientId .markErrored
  unfold callError
  cases result : s.markClientWithinRingingCalls order callId clientId .markErrored with
  | mk after returned =>
      simp only [result] at state outcome
      rcases outcome with ⟨notMarked, ended⟩ | ⟨marked, kept⟩
      · rw [markSection_of_notMarked notMarked] at state ⊢
        simp only [settleMark] at state
        subst state
        rw [if_pos rfl]
        rcases ended with rfl | rfl <;> dsimp only <;> split <;> simp_all
      · rw [if_neg marked, ← state]
        rcases kept with rfl | ⟨targets, update, rfl⟩ <;> rfl

/-- The ringing table after a target was cancelled. -/
def withoutTarget (s : CallManager) (callId : CallId) (ringingCall : RingingCallEntry)
    (target : CallTarget) : CallManager :=
  { s with
    ringingCalls :=
      if (ringingCall.targets.erase target).isEmpty then s.ringingCalls.erase callId
      else s.ringingCalls.insert callId
        { ringingCall with targets := ringingCall.targets.erase target } }

/-- A client that drops a ringing target it invited. -/
theorem dropTarget_cancelled (order : Iteration) {s : CallManager} {callId : CallId}
    {clientId : ClientId} {target : CallTarget} (reason : CallDropReason)
    {ringingCall : RingingCallEntry} {ringing : RingingTargetEntry}
    (found : s.ringingCalls.lookup callId = some ringingCall)
    (present : ringingCall.targets.lookup target = some ringing)
    (inviter : ringing.source.clientId = clientId) :
    (s.dropTarget order callId clientId target reason).1 =
      ((s.withoutTarget callId ringingCall target).silenceAll callId
        (order.clients.list ringing.notifiedClients)).releaseCaller callId
          ringingCall.callerId (ringingCall.targets.erase target).isEmpty := by
  simp only [dropTarget, dropRingingTarget, found, present, inviter, ne_eq, not_true_eq_false,
    if_false]
  rfl

/-- Dropping a target, by what its first section finds. -/
theorem dropTarget_cases (order : Iteration) (s : CallManager) (callId : CallId)
    (clientId : ClientId) (target : CallTarget) (reason : CallDropReason) :
    (s.cancelSection callId clientId target = (s, .notRinging) ∧
      (s.dropTarget order callId clientId target reason).1 =
        (s.dropJoinedParticipant order callId clientId target reason).1) ∨
    (s.cancelSection callId clientId target = (s, .notPermitted) ∧
      (s.dropTarget order callId clientId target reason).1 = s) ∨
    ∃ ringingCall ringing, s.ringingCalls.lookup callId = some ringingCall ∧
      ringingCall.targets.lookup target = some ringing ∧ ringing.source.clientId = clientId ∧
      s.cancelSection callId clientId target =
        (s.withoutTarget callId ringingCall target,
          .cancelled ringingCall.callerId (ringingCall.targets.erase target).isEmpty
            ringing.notifiedClients) := by
  unfold dropTarget dropRingingTarget cancelSection
  cases found : s.ringingCalls.lookup callId with
  | none => exact .inl ⟨rfl, rfl⟩
  | some ringingCall =>
      cases present : ringingCall.targets.lookup target with
      | none =>
          simp only [present]
          exact .inl ⟨trivial, trivial⟩
      | some ringing =>
          simp only [present]
          split
          · exact .inr (.inl ⟨rfl, rfl⟩)
          · rename_i inviter
            exact .inr (.inr ⟨ringingCall, ringing, rfl, present, not_not.mp inviter, rfl⟩)

theorem carryOn_readActive (order : Iteration) (s : CallManager) (clientId callerId : ClientId) :
    (carryOn order clientId)^[2] (s, some (.readActive callerId)) =
      (s.freeCaller callerId, none) := by
  change carryOn order clientId (s, if s.inSomeActiveCall callerId then none
    else some (.clearBusy callerId)) = _
  unfold freeCaller
  split <;> rfl

theorem carryOn_silence (order : Iteration) (s : CallManager) (clientId : ClientId)
    (callId : CallId) (callerId : ClientId) (ringingEnded : Bool) (callees : List ClientId) :
    (carryOn order clientId)^[callees.length + 2]
        (s, some (.silence callId callerId ringingEnded callees)) =
      ((s.silenceAll callId callees).releaseCaller callId callerId ringingEnded, none) := by
  induction callees generalizing s with
  | nil =>
      change carryOn order clientId (s, if ringingEnded ∧
        callerId ∉ (s.activeCallSnapshot callId).1.keys then some (.release callId callerId)
        else none) = _
      simp only [releaseCaller, silenceAll, List.foldl_nil]
      by_cases freed : ringingEnded ∧ callerId ∉ (s.activeCallSnapshot callId).1.keys
      · rw [if_pos freed]
        simp only [carryOn, resume]
        congr 2
        exact (if_pos freed).symm
      · rw [if_neg freed]
        simp only [carryOn]
        congr 1
        exact (congrArg (fun busy => { s with clientActiveCalls := busy }) (if_neg freed)).symm
  | cons callee callees ih => exact ih (s.removeClientIncomingCall callId callee)

theorem carryOn_mark (order : Iteration) (s : CallManager) (clientId : ClientId)
    (callId : CallId) (kind : MarkKind) (endsCall : Bool) :
    (carryOn order clientId)^[3] (s, some (.mark callId kind endsCall)) =
      (if (s.markSection callId clientId kind.markFn).2 = .notMarked ∧ endsCall then
        (s.endCall order callId clientId).1
      else settleMark (s.markSection callId clientId kind.markFn), none) := by
  rw [Function.iterate_succ_apply]
  simp only [carryOn, resume]
  cases marked : s.markSection callId clientId kind.markFn with
  | mk after left =>
      cases left with
      | notMarked =>
          have same := markSection_of_notMarked (congrArg Prod.snd marked)
          cases marked.symm.trans same
          cases endsCall <;> rfl
      | marked => rfl
      | emptied callerId => exact carryOn_readActive order after clientId callerId

/-- An operation whose sections nothing interrupts is the operation. -/
theorem carryOn_begin {s : CallManager} {request : Request}
    {first : CallManager × Option PendingSections} (begins : s.begin request = some first) :
    ∃ sections, (carryOn request.order request.op.actor)^[sections] first =
      (s.next request, none) := by
  unfold begin at begins
  unfold next execute
  cases isOp : request.op with
  | attemptCall callId callerId source target notifiedClients =>
      simp only [isOp] at begins
      cases begins
      exact ⟨0, rfl⟩
  | rejectCall callId clientId =>
      simp only [isOp] at begins
      cases begins
      refine ⟨3, (carryOn_mark ..).trans ?_⟩
      simp [rejectCall, markClientWithinRingingCalls_eq, MarkKind.markFn, Operation.actor]
  | failRingingRecipient callId clientId =>
      simp only [isOp] at begins
      cases begins
      refine ⟨3, (carryOn_mark ..).trans ?_⟩
      simp [failRingingRecipient, markClientWithinRingingCalls_eq, MarkKind.markFn, Operation.actor]
  | callError callId clientId =>
      simp only [isOp] at begins
      cases begins
      refine ⟨3, (carryOn_mark ..).trans ?_⟩
      simp [callError_eq, MarkKind.markFn, Operation.actor]
  | acceptCall callId clientId =>
      simp only [isOp] at begins
      cases begins
      exact ⟨0, rfl⟩
  | dropTarget callId clientId target reason =>
      simp only [isOp] at begins
      rcases dropTarget_cases request.order s callId clientId target reason with
        ⟨notRinging, state⟩ | ⟨notPermitted, state⟩ |
          ⟨ringingCall, ringing, found, present, inviter, cancelled⟩
      · simp only [notRinging, Option.some.injEq] at begins
        subst begins
        exact ⟨1, congrArg (·, none) state.symm⟩
      · simp only [notPermitted, Option.some.injEq] at begins
        subst begins
        exact ⟨0, congrArg (·, none) state.symm⟩
      · simp only [cancelled, Option.some.injEq] at begins
        subst begins
        have state := dropTarget_cancelled request.order reason found present inviter
        exact ⟨_, (carryOn_silence ..).trans (congrArg (·, none) state.symm)⟩
  | endCall callId clientId =>
      simp only [isOp] at begins
      cases begins
      exact ⟨0, rfl⟩
  | reportLinkFailure => simp [isOp] at begins
  | cleanupClientCalls => simp [isOp] at begins

end CallManager

/-! ## Interleaved operations -/

/-- The call manager with the operations in progress, by the client they run for. -/
structure Interleaved where
  calls : CallManager
  tasks : HashMap ClientId PendingSections

inductive SectionMove where
  | begin (request : Request)
  | resume (clientId : ClientId) (order : Iteration)

instance : (op : Operation) → Decidable op.FromCaller
  | .attemptCall _ callerId source _ notifiedClients =>
      inferInstanceAs (Decidable (source.clientId = callerId ∧ callerId ∉ notifiedClients))
  | .rejectCall .. | .failRingingRecipient .. | .callError .. | .acceptCall .. | .dropTarget ..
  | .endCall .. | .reportLinkFailure .. | .cleanupClientCalls .. => isTrue trivial

namespace Interleaved

def start (maxConfSize : ℕ) : Interleaved := ⟨CallManager.new maxConfSize, ∅⟩

/-- A client begins an operation only when it has none in progress. -/
def step (state : Interleaved) : SectionMove → Option Interleaved
  | .begin request =>
      if request.op.FromCaller ∧ request.op.actor ∉ state.tasks.keys then
        (state.calls.begin request).map fun result =>
          ⟨result.1, state.tasks.alter request.op.actor result.2⟩
      else none
  | .resume clientId order =>
      (state.tasks.lookup clientId).map fun pending =>
        ⟨(state.calls.resume order clientId pending).1,
          state.tasks.alter clientId (state.calls.resume order clientId pending).2⟩

end Interleaved

end Vacs
