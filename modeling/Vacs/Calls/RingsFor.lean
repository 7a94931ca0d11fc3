import Vacs.Calls.Refinement.Runs

/-!
# What rings for a client

A target rings for the client that has invited it. It starts to ring when this client invites
it (`next_ringsFor`), and rings no more once the client has dropped it or has ended the call
(`dropTarget_ringsFor`, `endCall_ringsFor`).
-/

set_option autoImplicit false

namespace Vacs

open CallManager

/-- The target rings in this call on an invitation of the client. -/
def CallState.RingsFor (state : CallState) (client : ClientId) (target : CallTarget) : Prop :=
  ∃ entry ringing, state.ringing = some entry ∧ entry.targets.lookup target = some ringing ∧
    ringing.source.clientId = client

/-- The target rings in the call on an invitation of the client. -/
def CallManager.ringsFor (s : CallManager) (client : ClientId) (call : CallId)
    (target : CallTarget) : Bool :=
  (s.ringingCalls.lookup call).any fun entry =>
    (entry.targets.lookup target).any fun ringing => decide (ringing.source.clientId = client)

theorem ringsFor_iff (s : CallManager) (client : ClientId) (call : CallId) (target : CallTarget) :
    s.ringsFor client call target = true ↔ (s.call call).RingsFor client target := by
  simp only [CallManager.ringsFor, Option.any_eq_true, decide_eq_true_eq, CallState.RingsFor,
    CallManager.call]
  constructor
  · rintro ⟨entry, found, ringing, present, isSource⟩
    exact ⟨entry, ringing, found, present, isSource⟩
  · rintro ⟨entry, ringing, found, present, isSource⟩
    exact ⟨entry, found, ringing, present, isSource⟩

theorem CallState.RingsFor.narrow {entry : RingingCallEntry} {ringing : Option RingingCallEntry}
    {active active' : Option ActiveCallEntry} {client : ClientId} {target : CallTarget}
    (narrows : ∀ after, ringing = some after → Narrows entry after)
    (rings : CallState.RingsFor ⟨ringing, active'⟩ client target) :
    CallState.RingsFor ⟨some entry, active⟩ client target := by
  obtain ⟨after, kept, isAfter, found, isSource⟩ := rings
  obtain ⟨earlier, was, source, _⟩ := (narrows after isAfter).targets target kept found
  exact ⟨entry, earlier, rfl, was, source ▸ isSource⟩

theorem Departs.ringsFor {leaving client : ClientId} {target : CallTarget}
    {before after : CallState} (departs : Departs leaving before after)
    (rings : after.RingsFor client target) : before.RingsFor client target := by
  cases departs with
  | hangUp =>
      obtain ⟨_, _, absent, _⟩ := rings
      cases absent
  | tearDown =>
      obtain ⟨_, _, absent, _⟩ := rings
      cases absent
  | leave => exact rings

/-- A target starts to ring for a client only if the client invites it. -/
theorem CallStep.ringsFor {request : Request} {evicted : Option ClientId} {call : CallId}
    {before after : CallState} {client : ClientId} {target : CallTarget}
    (step : CallStep request evicted call before after) (rings : after.RingsFor client target) :
    before.RingsFor client target ∨
      ∃ source notified, request.op = .attemptCall call client source target notified := by
  cases step with
  | @invite caller source invited notified ringing active isOp sourceIsCaller _ _ =>
      obtain ⟨_, kept, ⟨⟩, found, isSource⟩ := rings
      rw [invitedEntry_lookup] at found
      split at found
      · rename_i same
        cases found
        subst same
        right
        refine ⟨source, notified, ?_⟩
        rw [isOp, ← sourceIsCaller, isSource]
      · obtain ⟨earlier, present, found⟩ := Option.bind_eq_some_iff.mp found
        exact Or.inl ⟨earlier, kept, present, found, isSource⟩
  | withdraw _ narrows _ => exact Or.inl (rings.narrow narrows)
  | cancel _ _ narrows _ => exact Or.inl (rings.narrow narrows)
  | answer _ _ _ _ narrows _ => exact Or.inl (rings.narrow narrows)
  | drop => exact Or.inl rings
  | depart _ departs => exact Or.inl (departs.ringsFor rings)
  | report => exact Or.inl rings
  | evict _ _ _ departs => exact Or.inl (departs.ringsFor rings)

theorem next_ringsFor {s : CallManager} (coherent : Coherent s) {request : Request}
    (fromCaller : request.op.FromCaller) {client : ClientId} {call : CallId} {target : CallTarget}
    (rings : (s.next request).ringsFor client call target = true) :
    s.ringsFor client call target = true ∨
      ∃ source notified, request.op = .attemptCall call client source target notified := by
  rw [ringsFor_iff] at rings ⊢
  rcases (execute_follows coherent request fromCaller).calls call with same | step
  · rw [same] at rings
    exact Or.inl rings
  · exact step.ringsFor rings

/-- A target that its inviter drops rings no more. -/
theorem dropTarget_ringsFor (s : CallManager) (order : Iteration) (call : CallId)
    (client : ClientId) (target : CallTarget) (reason : CallDropReason) :
    (s.dropTarget order call client target reason).1.ringsFor client call target = false := by
  rw [← Bool.not_eq_true, ringsFor_iff]
  have joinedOnly : (s.dropJoinedParticipant order call client target reason).1.ringingCalls =
      s.ringingCalls := by
    unfold dropJoinedParticipant
    repeat' split
    all_goals rfl
  rintro ⟨after, kept, isAfter, present, isSource⟩
  unfold dropTarget at isAfter
  cases dropped : s.dropRingingTarget order call client target with
  | none =>
      rw [dropped] at isAfter
      have isRinging : s.ringingCalls.lookup call = some after := by
        rw [← joinedOnly]
        exact isAfter
      unfold dropRingingTarget at dropped
      rw [isRinging] at dropped
      simp only [present] at dropped
      split at dropped <;> cases dropped
  | some result =>
      rw [dropped] at isAfter
      unfold dropRingingTarget at dropped
      split at dropped
      · cases dropped
      · rename_i entry found
        split at dropped
        · cases dropped
        · rename_i ringing was
          split at dropped
          · -- the target rings, but not for this client
            rename_i notSource
            cases dropped
            cases found.symm.trans isAfter
            cases was.symm.trans present
            exact notSource isSource
          · cases dropped
            simp only [CallManager.call, cancelRinging] at isAfter
            split at isAfter
            · simp at isAfter
            · simp only [Finmap.lookup_insert, Option.some.injEq] at isAfter
              subst isAfter
              simp at present

/-- Nothing rings for a client in a call that it has ended. -/
theorem endCall_ringsFor {s : CallManager} (coherent : Coherent s) (order : Iteration)
    (call : CallId) (client : ClientId) (target : CallTarget) :
    (s.endCall order call client).1.ringsFor client call target = false := by
  have wf := coherent.wellFormed call
  rw [← Bool.not_eq_true, ringsFor_iff]
  intro rings
  rcases endCall_spec coherent order call client with ⟨idle, same, -⟩ | ⟨-, -, departed⟩
  · rw [same] at rings
    obtain ⟨entry, ringing, found, present, isSource⟩ := rings
    refine idle (Or.inl ⟨entry, found, ?_⟩)
    rw [← wf.sourceIsCaller entry found target ringing present, isSource]
  · have departs := departed.departs
    generalize after : (s.endCall order call client).1.call call = final at departs rings
    generalize before : s.call call = start at departs wf
    cases departs with
    | hangUp =>
        obtain ⟨_, _, absent, _⟩ := rings
        cases absent
    | tearDown =>
        obtain ⟨_, _, absent, _⟩ := rings
        cases absent
    | @leave ringing active joined notLeader conference =>
        -- who leaves a conference does not lead it, and so has not invited anybody
        obtain ⟨entry, kept, found, present, isSource⟩ := rings
        have isCaller := wf.sourceIsCaller entry found target kept present
        exact wf.not_calls rfl notLeader conference ⟨entry, found, isCaller.symm.trans isSource⟩

end Vacs
