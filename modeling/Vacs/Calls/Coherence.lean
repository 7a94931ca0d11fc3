import Vacs.Calls.Refinement.Runs

/-!
# The indexes of the call manager in every reachable state

The coherence that runs keep is stated here in terms of the four maps of the
manager alone (`IndexesAgree`). One part of it is not kept by the manager on its
own: a target rings somebody only because invitations that notify nobody never
reach it.
-/

set_option autoImplicit false

namespace Vacs

open CallManager

/-- Every ringing target of the call has somebody to answer it. -/
def CallState.Answerable (state : CallState) : Prop :=
  ∀ entry, state.ringing = some entry → ∀ target ringing,
    entry.targets.lookup target = some ringing → ringing.notifiedClients.Nonempty

theorem CallState.Answerable.narrow {entry : RingingCallEntry}
    {ringing : Option RingingCallEntry} {active active' : Option ActiveCallEntry}
    (answerable : Answerable ⟨some entry, active⟩)
    (narrows : ∀ after, ringing = some after → Narrows entry after) :
    Answerable ⟨ringing, active'⟩ := by
  intro after isAfter target kept found
  obtain ⟨earlier, was, _⟩ := (narrows after isAfter).targets target kept found
  exact (narrows after isAfter).answerable target kept earlier found was
    (answerable entry rfl target earlier was)

theorem Departs.answerable {client : ClientId} {before after : CallState}
    (departs : Departs client before after) (answerable : before.Answerable) :
    after.Answerable := by
  cases departs with
  | hangUp => simp [CallState.Answerable]
  | tearDown => simp [CallState.Answerable]
  | leave => exact answerable

/-- A call keeps ringing for targets with somebody to answer them. -/
theorem CallStep.answerable {request : Request} {evicted : Option ClientId} {call : CallId}
    {before after : CallState} (fromHandler : request.op.FromHandler)
    (step : CallStep request evicted call before after) (answerable : before.Answerable) :
    after.Answerable := by
  cases step with
  | @invite caller source target notified ringing active isOp _ _ _ =>
      rintro _ ⟨⟩ other kept found
      rw [invitedEntry_lookup] at found
      split at found
      · cases found
        rw [isOp] at fromHandler
        exact fromHandler.2.2
      · obtain ⟨earlier, present, found⟩ := Option.bind_eq_some_iff.mp found
        exact answerable earlier present other kept found
  | withdraw _ narrows _ => exact answerable.narrow narrows
  | cancel _ _ narrows _ => exact answerable.narrow narrows
  | answer _ _ _ _ narrows _ => exact answerable.narrow narrows
  | drop => exact answerable
  | depart _ departs => exact departs.answerable answerable
  | report => exact answerable
  | evict _ _ _ departs => exact departs.answerable answerable

theorem run_answerable {s : CallManager} (coherent : Coherent s)
    (answerable : ∀ call, (s.call call).Answerable) {requests : List Request}
    (fromHandler : ∀ request ∈ requests, request.op.FromHandler) (call : CallId) :
    ((s.run requests).call call).Answerable := by
  induction requests generalizing s with
  | nil => exact answerable call
  | cons request rest ih =>
      have first := fromHandler request (List.mem_cons_self ..)
      have follows := execute_follows coherent request first.fromCaller
      refine ih (follows.coherent coherent) ?_
        fun other member => fromHandler other (List.mem_cons_of_mem _ member)
      intro other
      rcases follows.calls other with same | step
      · rw [same]
        exact answerable other
      · exact step.answerable first (answerable other)

/-! ## The four maps -/

/-- The client is a notified client of the target in a ringing call. -/
def CallManager.Notified (s : CallManager) (call : CallId) (target : CallTarget)
    (client : ClientId) : Prop :=
  ∃ entry ringing, s.ringingCalls.lookup call = some entry ∧
    entry.targets.lookup target = some ringing ∧ client ∈ ringing.notifiedClients

/-- The client opened the pending invitations of a ringing call. -/
def CallManager.Caller (s : CallManager) (call : CallId) (client : ClientId) : Prop :=
  ∃ entry, s.ringingCalls.lookup call = some entry ∧ entry.callerId = client

/-- The client is a participant of an active call. -/
def CallManager.Participant (s : CallManager) (call : CallId) (client : ClientId) : Prop :=
  ∃ active, s.activeCalls.lookup call = some active ∧ client ∈ active.participants.keys

theorem notified_iff (s : CallManager) (call : CallId) (target : CallTarget) (client : ClientId) :
    s.Notified call target client ↔ (s.call call).Rings target client := by
  constructor
  · rintro ⟨entry, ringing, found, present, notified⟩
    exact ⟨entry, found, ringing, present, notified⟩
  · rintro ⟨entry, found, ringing, present, notified⟩
    exact ⟨entry, ringing, found, present, notified⟩

/-- What the indexes of the call manager say, and what its entries hold. -/
structure IndexesAgree (s : CallManager) : Prop where
  /-- A client is listed with the targets it is notified for. -/
  incoming : ∀ client call target,
    (∃ calls, s.clientIncomingCalls.lookup client = some calls ∧
      calls.lookup call = some target) ↔ s.Notified call target client
  /-- A client rings for at most one target of a call. -/
  ringsOnce : ∀ client call first second, s.Notified call first client →
    s.Notified call second client → first = second
  /-- No client is listed without a call. -/
  incomingNonempty : ∀ client calls, s.clientIncomingCalls.lookup client = some calls →
    ∃ call target, calls.lookup call = some target
  /-- A client is busy with the call it opened or joined. -/
  busy : ∀ client call, s.clientActiveCalls.lookup client = some call ↔
    s.Caller call client ∨ s.Participant call client
  /-- No client is in two calls. -/
  oneCall : ∀ client first second, s.Caller first client ∨ s.Participant first client →
    s.Caller second client ∨ s.Participant second client → first = second
  /-- A ringing call has a target. -/
  targetsNonempty : ∀ call entry, s.ringingCalls.lookup call = some entry →
    ∃ target ringing, entry.targets.lookup target = some ringing
  /-- A ringing target has a notified client. -/
  notifiedNonempty : ∀ call entry target ringing, s.ringingCalls.lookup call = some entry →
    entry.targets.lookup target = some ringing → ringing.notifiedClients.Nonempty
  /-- An active call has two participants. -/
  twoParticipants : ∀ call active, s.activeCalls.lookup call = some active →
    2 ≤ active.participants.keys.card
  /-- No participant or caller of a call rings for it. -/
  notRung : ∀ call target client, s.Participant call client ∨ s.Caller call client →
    ¬ s.Notified call target client

theorem Coherent.indexesAgree {s : CallManager} (coherent : Coherent s)
    (answerable : ∀ call, (s.call call).Answerable) : IndexesAgree s where
  incoming client call target := by
    have listed := coherent.indexed.incoming client call target
    simp only [not_false_eq_true, and_true] at listed
    rw [notified_iff, ← listed, rungAs, Option.bind_eq_some_iff]
  ringsOnce client call first second := by
    rw [notified_iff, notified_iff]
    exact (coherent.wellFormed call).ringsOnce first second client
  incomingNonempty client calls listed :=
    (Finmap.isEmpty_eq_false_iff calls).mp (coherent.indexed.populated client calls listed)
  busy := coherent.indexed.busy
  oneCall client first second := coherent.indexed.engages_unique
  targetsNonempty call entry found := (coherent.wellFormed call).targetsNonempty entry found
  notifiedNonempty call entry target ringing found present :=
    answerable call entry found target ringing present
  twoParticipants call active found := (coherent.wellFormed call).twoParticipants active found
  notRung call target client engaged := by
    rw [notified_iff]
    rcases engaged with joined | calls
    · exact (coherent.wellFormed call).joinedNotRung target client joined
    · exact (coherent.wellFormed call).callerNotRung target client calls

/-- In every state the call manager reaches, its indexes agree with its calls. -/
theorem run_indexesAgree (maxConfSize : ℕ) (requests : List Request)
    (fromHandler : ∀ request ∈ requests, request.op.FromHandler) :
    IndexesAgree ((CallManager.new maxConfSize).run requests) := by
  have start := coherent_new maxConfSize
  refine (run_coherent start fun request member =>
    (fromHandler request member).fromCaller).indexesAgree
    (run_answerable start ?_ fromHandler)
  intro call entry found
  simp [CallManager.new, CallManager.call] at found

/-! ## A conference of three -/

/-- One client invites a second and a third, which both accept. -/
def conferenceOfThree : List Request :=
  let leader : ClientId := ⟨"LOWW"⟩
  let invite := fun callee : ClientId =>
    Operation.attemptCall ⟨1⟩ leader { clientId := leader } (.client callee) {callee}
  [invite ⟨"LOVV"⟩, .acceptCall ⟨1⟩ ⟨"LOVV"⟩, invite ⟨"LOWI"⟩, .acceptCall ⟨1⟩ ⟨"LOWI"⟩].map
    fun op => { op := op, order := .increasing, now := 0 }

theorem conferenceOfThree_fromHandler :
    ∀ request ∈ conferenceOfThree, request.op.FromHandler := by
  simp [conferenceOfThree, Operation.FromHandler]

theorem conferenceOfThree_fromCaller :
    ∀ request ∈ conferenceOfThree, request.op.FromCaller :=
  fun request member => (conferenceOfThree_fromHandler request member).fromCaller

theorem conferenceOfThree_indexesAgree :
    (((CallManager.new 5).run conferenceOfThree).activeCalls.lookup ⟨1⟩).map
        (·.participants.keys.card) = some 3 ∧
      IndexesAgree ((CallManager.new 5).run conferenceOfThree) :=
  ⟨by decide +kernel, run_indexesAgree 5 conferenceOfThree conferenceOfThree_fromHandler⟩

end Vacs
