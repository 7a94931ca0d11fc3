import Vacs.Calls.Refinement.Runs
import Vacs.Calls.Sections
import Vacs.Server.Delivery

/-!
# Cancellations

An operation that stops a client ringing for a call is the client's own answer, or
the handler that carries it out sends the client a cancellation
(`perform_silences`).
-/

set_option autoImplicit false

namespace Vacs

open CallManager

/-- The client is told that a call it rings for was cancelled. -/
def Cancels (steps : List HandlerStep) (client : ClientId) (call : CallId) : Prop :=
  ∃ cancelled : CallCancelled, cancelled.callId = call ∧
    .send client (.callCancelled cancelled) ∈ steps

/-- The client rings for the call before, but not after. -/
structure Silences (s s' : CallManager) (client : ClientId) (call : CallId) : Prop where
  before : rungAs s.clientIncomingCalls client call ≠ none
  after : rungAs s'.clientIncomingCalls client call = none

theorem Silences.removed {s s' : CallManager} {client : ClientId} {call callId : CallId}
    (silences : Silences s s' client call) {removed : List ClientId}
    (isAfter : s'.clientIncomingCalls =
      removed.foldl (removeIncoming callId) s.clientIncomingCalls) :
    client ∈ removed ∧ call = callId := by
  have after := silences.after
  rw [isAfter, rungAs_foldl_removeIncoming] at after
  by_contra kept
  rw [if_neg kept] at after
  exact silences.before after

theorem not_silences {s s' : CallManager} {client : ClientId} {call : CallId}
    (same : s'.clientIncomingCalls = s.clientIncomingCalls) : ¬ Silences s s' client call := by
  intro silences
  refine silences.before ?_
  rw [← same]
  exact silences.after

theorem sendCallCancelled_mem (order : Iteration) {recipients : Finset ClientId}
    (cancelled : CallCancelled) {client : ClientId} (member : client ∈ recipients) :
    .send client (.callCancelled cancelled) ∈
      HandlerStep.sendCallCancelled order recipients cancelled := by
  refine List.mem_map_of_mem ?_
  rwa [Enumeration.mem_list]

theorem attemptCall_silences (order : Iteration) (s : CallManager) (callId : CallId)
    (callerId : ClientId) (source : CallSource) (target : CallTarget)
    (notifiedClients : Finset ClientId) (client : ClientId) (call : CallId) :
    ¬ Silences s (s.attemptCall order callId callerId source target notifiedClients).1
      client call := by
  unfold attemptCall
  split
  · exact not_silences rfl
  · intro silences
    have after := silences.after
    dsimp only at after
    rw [rungAs_foldl_insertIncoming] at after
    split at after
    · cases after
    · exact silences.before after

/-! ## Answering -/

/-- Marking a client touches the ringing of this client only. -/
theorem markClientWithinRingingCalls_clientIncomingCalls (order : Iteration) (s : CallManager)
    (callId : CallId) (clientId : ClientId)
    (markFn : RingingTargetEntry → ClientId → RingingTargetEntry) :
    (s.markClientWithinRingingCalls order callId clientId markFn).1.clientIncomingCalls =
      removeIncoming callId s.clientIncomingCalls clientId := by
  have marked := markSection_clientIncomingCalls (s.removeClientIncomingCall callId clientId)
    callId clientId markFn
  rw [markClientWithinRingingCalls_eq]
  cases result : (s.removeClientIncomingCall callId clientId).markSection callId clientId markFn with
  | mk after outcome =>
      rw [result] at marked
      cases outcome with
      | emptied callerId =>
          unfold settleMark freeCaller
          dsimp only
          split <;> exact marked
      | _ => exact marked

theorem markClientWithinRingingCalls_silences {order : Iteration} {s : CallManager}
    {callId : CallId} {clientId : ClientId}
    {markFn : RingingTargetEntry → ClientId → RingingTargetEntry} {client : ClientId}
    {call : CallId} (silences : Silences s
      (s.markClientWithinRingingCalls order callId clientId markFn).1 client call) :
    client = clientId ∧ call = callId := by
  have removed : client ∈ [clientId] ∧ call = callId :=
    silences.removed (markClientWithinRingingCalls_clientIncomingCalls ..)
  exact ⟨List.mem_singleton.mp removed.1, removed.2⟩

/-- Everybody else who rang for the accepted target is told that the call was answered. -/
theorem acceptCall_silences {order : Iteration} {s : CallManager} (coherent : Coherent s)
    {callId : CallId} {clientId client : ClientId} {call : CallId}
    (silences : Silences s (s.acceptCall order callId clientId).1 client call) :
    call = callId ∧ ((client = clientId ∧ clientId ∉ s.clientActiveCalls.keys) ∨
      Cancels (HandlerStep.afterAccept order clientId callId
        (s.acceptCall order callId clientId).2) client call) := by
  unfold acceptCall at silences ⊢
  split at silences
  · exact absurd silences (not_silences rfl)
  · rename_i free
    rw [if_neg free]
    cases found : s.ringingCalls.lookup callId with
    | none =>
        simp only [found] at silences
        exact absurd silences (not_silences rfl)
    | some ringingCall =>
        simp only [found] at silences ⊢
        have wellFormed := coherent.wellFormed callId
        rw [call_eq_of_ringing found] at wellFormed
        rcases acceptedTarget_cases wellFormed order clientId with
          ⟨_, nobody⟩ | ⟨target, ringing, _, notified, isAccepted⟩
        · simp only [nobody] at silences
          exact absurd silences (not_silences rfl)
        · simp only [isAccepted] at silences ⊢
          obtain ⟨member, rfl⟩ := silences.removed rfl
          rw [Enumeration.mem_list] at member
          refine ⟨rfl, ?_⟩
          by_cases same : client = clientId
          · exact .inl ⟨same, free⟩
          · -- Two clients rang for the target, so the others are told.
            have several : 1 < (ringing.complete call ringingCall.callerId ringing.source
                target).notifiedClients.card :=
              Finset.one_lt_card.mpr ⟨client, member, clientId, notified, same⟩
            refine .inr ⟨{ callId := call, targets := ∅, reason := .answeredElsewhere clientId },
              rfl, List.mem_append_right _ ?_⟩
            rw [if_pos several]
            exact sendCallCancelled_mem order _ (Finset.mem_erase.mpr ⟨same, member⟩)

/-! ## Cancelling and ending -/

theorem dropJoinedParticipant_clientIncomingCalls (order : Iteration) (s : CallManager)
    (callId : CallId) (clientId : ClientId) (target : CallTarget) (reason : CallDropReason) :
    (s.dropJoinedParticipant order callId clientId target reason).1.clientIncomingCalls =
      s.clientIncomingCalls := by
  unfold dropJoinedParticipant
  repeat' split
  all_goals rfl

theorem dropTarget_silences {order : Iteration} {s : CallManager} {callId : CallId}
    {clientId : ClientId} {target : CallTarget} {reason : CallDropReason} {client : ClientId}
    {call : CallId}
    (silences : Silences s (s.dropTarget order callId clientId target reason).1 client call) :
    Cancels (HandlerStep.afterDrop order clientId callId target reason
      (s.dropTarget order callId clientId target reason).2) client call := by
  unfold dropTarget dropRingingTarget at silences ⊢
  cases found : s.ringingCalls.lookup callId with
  | none =>
      simp only [found] at silences
      exact absurd silences (not_silences (dropJoinedParticipant_clientIncomingCalls ..))
  | some ringingCall =>
      cases present : ringingCall.targets.lookup target with
      | none =>
          simp only [found, present] at silences
          exact absurd silences (not_silences (dropJoinedParticipant_clientIncomingCalls ..))
      | some ringing =>
          by_cases inviter : ringing.source.clientId = clientId
          · simp only [found, present, inviter, ne_eq, not_true_eq_false, if_false] at silences ⊢
            obtain ⟨member, rfl⟩ := silences.removed rfl
            rw [Enumeration.mem_list] at member
            refine ⟨_, ?_, List.mem_append_left _ (sendCallCancelled_mem order _ member)⟩
            rfl
          · simp only [found, present, ne_eq, inviter, not_false_eq_true, if_true] at silences
            exact absurd silences (not_silences rfl)

/-- The action that cancels a target is sent to everybody who rings for it. -/
theorem sendActions_cancels (order : Iteration) (call : CallId)
    (dropped survivor : List ServerMessage) {actions : List UpdateCallAction}
    {target : RingingTarget} (member : .cancelRingingTarget target ∈ actions)
    {client : ClientId} (notified : client ∈ target.notifiedClients) :
    Cancels (HandlerStep.sendActions order call dropped survivor actions) client call := by
  refine ⟨_, ?_, List.mem_flatMap.mpr ⟨_, member, sendCallCancelled_mem order _ notified⟩⟩
  rfl

/-- The client rings for a target that the actions cancel. -/
def Withdraws (actions : Option (List UpdateCallAction)) (client : ClientId) : Prop :=
  ∃ performed target, actions = some performed ∧
    UpdateCallAction.cancelRingingTarget target ∈ performed ∧ client ∈ target.notifiedClients

theorem completeAllTargets_notified (order : Iteration) (entry : RingingCallEntry)
    {client : ClientId} (member : client ∈ notifiedList order entry) :
    ∃ target ∈ entry.completeAllTargets order, client ∈ target.notifiedClients := by
  obtain ⟨pair, present, notified⟩ := List.mem_flatMap.mp member
  rw [Enumeration.mem_list] at notified
  exact ⟨_, List.mem_map_of_mem present, notified⟩

/-- Every ringing entry is listed under its own call. -/
def Keyed (s : CallManager) : Prop :=
  ∀ call entry, s.ringingCalls.lookup call = some entry → entry.callId = call

theorem Coherent.keyed {s : CallManager} (coherent : Coherent s) : Keyed s :=
  fun call => (coherent.wellFormed call).ringingCallId

theorem endRinging_silences {order : Iteration} {s : CallManager}
    (keyed : Keyed s)
    {callId : CallId} {clientId client : ClientId} {call : CallId}
    (silences : Silences s (s.endRinging order callId clientId).1 client call) :
    call = callId ∧ Withdraws (s.endRinging order callId clientId).2 client := by
  unfold endRinging at silences ⊢
  cases found : s.ringingCalls.lookup callId with
  | none =>
      simp only [found] at silences
      exact absurd silences (not_silences rfl)
  | some entry =>
      simp only [found] at silences ⊢
      split at silences
      · rename_i isCaller
        obtain ⟨member, isCall⟩ := silences.removed rfl
        obtain ⟨target, present, notified⟩ := completeAllTargets_notified order entry member
        rw [if_pos isCaller]
        exact ⟨isCall.trans (keyed callId entry found), _, target, rfl,
          List.mem_map_of_mem present, notified⟩
      · exact absurd silences (not_silences rfl)

theorem cancelPendingInvitations_silences {order : Iteration} {s middle s' : CallManager}
    (keyed : Keyed s) {callId : CallId} {client : ClientId} {call : CallId}
    (silences : Silences s s' client call)
    (isAfter : s'.clientIncomingCalls =
      (middle.cancelPendingInvitations order callId).1.clientIncomingCalls)
    (ringingCalls : middle.ringingCalls = s.ringingCalls)
    (incomingCalls : middle.clientIncomingCalls = s.clientIncomingCalls) :
    call = callId ∧ Withdraws (some (middle.cancelPendingInvitations order callId).2) client := by
  unfold cancelPendingInvitations at isAfter ⊢
  rw [ringingCalls] at isAfter ⊢
  cases found : s.ringingCalls.lookup callId with
  | none =>
      simp only [found] at isAfter
      exact absurd silences (not_silences (isAfter.trans incomingCalls))
  | some entry =>
      simp only [found] at isAfter ⊢
      obtain ⟨member, isCall⟩ := silences.removed
        (isAfter.trans (congrArg (List.foldl _ · _) incomingCalls))
      obtain ⟨target, present, notified⟩ := completeAllTargets_notified order entry member
      exact ⟨isCall.trans (keyed callId entry found), _, target, rfl,
        List.mem_map_of_mem present, notified⟩

theorem Withdraws.append {first second : List UpdateCallAction} {client : ClientId}
    (withdraws : Withdraws (some second) client) : Withdraws (some (first ++ second)) client := by
  obtain ⟨_, target, ⟨⟩, member, notified⟩ := withdraws
  exact ⟨_, target, rfl, List.mem_append_right _ member, notified⟩

theorem endActive_silences {order : Iteration} {s : CallManager}
    (keyed : Keyed s)
    {callId : CallId} {clientId client : ClientId} {call : CallId}
    (silences : Silences s (s.endActive order callId clientId).1 client call) :
    call = callId ∧ Withdraws (s.endActive order callId clientId).2 client := by
  unfold endActive at silences ⊢
  cases found : s.activeCalls.lookup callId with
  | none =>
      simp only [found] at silences
      exact absurd silences (not_silences rfl)
  | some active =>
      simp only [found] at silences ⊢
      split
      · rename_i outside
        rw [if_pos outside] at silences
        exact absurd silences (not_silences rfl)
      · rename_i involved
        rw [if_neg involved] at silences
        split
        · rename_i alone
          rw [if_pos alone] at silences
          exact cancelPendingInvitations_silences keyed silences rfl rfl rfl
        · rename_i others
          rw [if_neg others] at silences
          split
          · rename_i decides
            rw [if_pos decides] at silences
            obtain ⟨isCall, withdraws⟩ :=
              cancelPendingInvitations_silences keyed silences rfl rfl rfl
            exact ⟨isCall, withdraws.append⟩
          · rename_i goesOn
            rw [if_neg goesOn] at silences
            exact absurd silences (not_silences rfl)

theorem endRinging_ringingCalls (order : Iteration) (s : CallManager) (callId : CallId)
    (clientId : ClientId) :
    (s.endRinging order callId clientId).1.ringingCalls = s.ringingCalls ∨
      (s.endRinging order callId clientId).1.ringingCalls = s.ringingCalls.erase callId := by
  unfold endRinging
  split
  · exact .inl rfl
  · split
    · exact .inr rfl
    · exact .inl rfl

theorem Keyed.endRinging {s : CallManager} (keyed : Keyed s) (order : Iteration)
    (callId : CallId) (clientId : ClientId) : Keyed (s.endRinging order callId clientId).1 := by
  intro call entry found
  rcases endRinging_ringingCalls order s callId clientId with same | erased
  · rw [same] at found
    exact keyed call entry found
  · rw [erased, Finmap.lookup_erase_eq] at found
    split at found
    · cases found
    · exact keyed call entry found

theorem endCall_silences {order : Iteration} {s : CallManager} (keyed : Keyed s)
    {callId : CallId} {clientId client : ClientId} {call : CallId}
    (silences : Silences s (s.endCall order callId clientId).1 client call) :
    call = callId ∧ Withdraws (s.endCall order callId clientId).2 client := by
  have keyedMiddle := keyed.endRinging order callId clientId
  unfold endCall at silences ⊢
  cases ringing : s.endRinging order callId clientId with
  | mk middle ringingActions =>
      rw [ringing] at keyedMiddle
      cases ended : middle.endActive order callId clientId with
      | mk final activeActions =>
          simp only [ringing, ended] at silences ⊢
          have whole : Silences s final client call := by
            cases activeActions <;> cases ringingActions <;> exact silences
          by_cases rings : rungAs middle.clientIncomingCalls client call = none
          · -- The ringing part stopped the client.
            have first : Silences s (s.endRinging order callId clientId).1 client call :=
              ⟨whole.before, by rw [ringing]; exact rings⟩
            obtain ⟨isCall, withdraws⟩ := endRinging_silences keyed first
            rw [ringing] at withdraws
            refine ⟨isCall, ?_⟩
            obtain ⟨performed, target, rfl, member, notified⟩ := withdraws
            cases activeActions with
            | none => exact ⟨_, target, rfl, member, notified⟩
            | some active => exact ⟨_, target, rfl, List.mem_append_right _ member, notified⟩
          · -- The active part stopped it.
            have second : Silences middle (middle.endActive order callId clientId).1 client call :=
              ⟨rings, by rw [ended]; exact whole.after⟩
            obtain ⟨isCall, withdraws⟩ := endActive_silences keyedMiddle second
            rw [ended] at withdraws
            refine ⟨isCall, ?_⟩
            obtain ⟨performed, target, rfl, member, notified⟩ := withdraws
            cases ringingActions with
            | none => exact ⟨_, target, rfl, member, notified⟩
            | some more => exact ⟨_, target, rfl, List.mem_append_left _ member, notified⟩

theorem Withdraws.cancels {actions : Option (List UpdateCallAction)} {client : ClientId}
    (withdraws : Withdraws actions client) {call : CallId} {steps : List HandlerStep}
    (sent : ∀ performed, actions = some performed → ∃ order dropped survivor,
      ∀ step ∈ HandlerStep.sendActions order call dropped survivor performed, step ∈ steps) :
    Cancels steps client call := by
  obtain ⟨performed, target, isSome, member, notified⟩ := withdraws
  obtain ⟨order, dropped, survivor, sends⟩ := sent performed isSome
  obtain ⟨cancelled, isCall, isSent⟩ :=
    sendActions_cancels order call dropped survivor member notified
  exact ⟨cancelled, isCall, sends _ isSent⟩

theorem Keyed.ended {order : Iteration} {s s' : CallManager} (keyed : Keyed s) {callId : CallId}
    {clientId client : ClientId} {call : CallId} {actions : Option (List UpdateCallAction)}
    (isEnded : s.endCall order callId clientId = (s', actions))
    (silences : Silences s s' client call) : call = callId ∧ Withdraws actions client := by
  have ended : Silences s (s.endCall order callId clientId).1 client call := by
    rwa [isEnded]
  have withdraws := endCall_silences keyed ended
  rwa [isEnded] at withdraws

theorem endCall_cancels {order : Iteration} {s : CallManager} (keyed : Keyed s)
    {callId : CallId} {clientId client : ClientId} {call : CallId}
    (silences : Silences s (s.endCall order callId clientId).1 client call) :
    Cancels (HandlerStep.afterEnd order clientId callId (s.endCall order callId clientId).2)
      client call := by
  obtain ⟨rfl, withdraws⟩ := endCall_silences keyed silences
  refine withdraws.cancels fun performed isSome => ?_
  rw [isSome]
  exact ⟨order, _, _, fun _ member => member⟩

theorem callError_silences {order : Iteration} {s : CallManager} (coherent : Coherent s)
    {callId : CallId} {clientId : ClientId} (reason : CallErrorReason) {client : ClientId}
    {call : CallId} (silences : Silences s (s.callError order callId clientId).1 client call) :
    (client = clientId ∧ call = callId) ∨
      Cancels (HandlerStep.afterError order clientId callId reason
        (s.callError order callId clientId).2) client call := by
  have marks : ∀ {s'}, (s.markClientWithinRingingCalls order callId clientId .markErrored).1 = s' →
      rungAs s'.clientIncomingCalls client call = none → client = clientId ∧ call = callId := by
    rintro _ rfl after
    exact markClientWithinRingingCalls_silences ⟨silences.before, after⟩
  have coherentMiddle : Coherent
      (s.markClientWithinRingingCalls order callId clientId .markErrored).1 :=
    next_coherent coherent
      (show Operation.FromCaller (Request.mk (.failRingingRecipient callId clientId) order 0).op
        from trivial)
  revert silences
  unfold callError
  split
  · rename_i isMarked
    intro silences
    exact .inl (marks (congrArg Prod.fst isMarked) silences.after)
  · rename_i isMarked
    intro silences
    exact .inl (marks (congrArg Prod.fst isMarked) silences.after)
  · rename_i middle _ _ _ isMarked
    rw [isMarked] at coherentMiddle
    intro silences
    by_cases rings : rungAs middle.clientIncomingCalls client call = none
    · exact .inl (marks (congrArg Prod.fst isMarked) rings)
    · right
      revert silences
      split
      · rename_i isEnded
        intro silences
        obtain ⟨_, withdraws⟩ := coherentMiddle.keyed.ended isEnded ⟨rings, silences.after⟩
        exact withdraws.cancels nofun
      · rename_i isEnded
        intro silences
        obtain ⟨rfl, withdraws⟩ := coherentMiddle.keyed.ended isEnded ⟨rings, silences.after⟩
        refine withdraws.cancels ?_
        rintro performed ⟨⟩
        exact ⟨order, _, _, fun _ member => member⟩

/-- A confirmed report ends the call for the later joiner. -/
theorem reportLinkFailure_silences {order : Iteration} {s : CallManager} (keyed : Keyed s)
    {callId : CallId} {reporterId peerId : ClientId} {now : Instant} {client : ClientId}
    {call : CallId}
    (silences : Silences s (s.reportLinkFailure order callId reporterId peerId now).1
      client call) :
    Cancels (HandlerStep.afterReport order callId
      (s.reportLinkFailure order callId reporterId peerId now).2) client call := by
  revert silences
  unfold reportLinkFailure
  split
  · exact fun silences => absurd silences (not_silences rfl)
  · cases found : s.activeCalls.lookup callId with
    | none => exact fun silences => absurd silences (not_silences rfl)
    | some active =>
        dsimp only
        split
        · exact fun silences => absurd silences (not_silences rfl)
        · split
          · exact fun silences => absurd silences (not_silences rfl)
          · generalize recorded : CallManager.mk s.ringingCalls (s.activeCalls.insert callId
              (active.recordLinkReportAt reporterId peerId now).1) s.clientIncomingCalls
                s.clientActiveCalls s.maxConfSize = middle
            generalize (active.recordLinkReportAt reporterId peerId now).1.laterJoiner reporterId
              peerId = evicted
            have keyedMiddle : Keyed middle := by
              rw [← recorded]
              exact keyed
            have incoming : middle.clientIncomingCalls = s.clientIncomingCalls := by
              rw [← recorded]
            split
            · rename_i isEnded
              intro silences
              obtain ⟨rfl, withdraws⟩ := keyedMiddle.ended isEnded
                ⟨by rw [incoming]; exact silences.before, silences.after⟩
              refine withdraws.cancels ?_
              rintro performed ⟨⟩
              exact ⟨order, _, _, fun _ member => List.mem_append_right _ member⟩
            · rename_i isEnded
              intro silences
              obtain ⟨rfl, withdraws⟩ := keyedMiddle.ended isEnded
                ⟨by rw [incoming]; exact silences.before, silences.after⟩
              exact withdraws.cancels nofun

namespace Operation

/-- Whether an operation is the answer of a client to its invitation to a call. A client that is
busy does not answer by accepting. -/
def settles (s : CallManager) (call : CallId) : Operation → Bool
  | .acceptCall callId clientId =>
      decide (callId = call) && decide (clientId ∉ s.clientActiveCalls.keys)
  | op => decide (op.answers = some call)

theorem answers_of_settles {s : CallManager} {call : CallId} {op : Operation}
    (settles : op.settles s call = true) : op.answers = some call := by
  cases op with
  | acceptCall callId clientId =>
      simp only [Operation.settles, Bool.and_eq_true, decide_eq_true_eq] at settles
      rw [answers, settles.1]
  | _ => exact of_decide_eq_true settles

end Operation

/-- A client that stops ringing has answered, or a cancellation is sent to it. -/
theorem perform_silences {order : Iteration} {now : Instant} {s : CallManager}
    (coherent : Coherent s) {client : ClientId} {step : HandlerStep} {other : ClientId}
    {call : CallId} (silences : Silences s (step.perform order now s client).1 other call) :
    (other = client ∧ ∃ op, step.operation client = some op ∧ op.settles s call = true) ∨
      Cancels (step.perform order now s client).2 other call := by
  unfold HandlerStep.perform at silences ⊢
  cases step with
  | send | checkInvite | announceInvite | sendCallState =>
      exact absurd silences (not_silences rfl)
  | attemptCall progress =>
      cases isResolved : progress.resolvedTargets with
      | nil =>
          simp only [HandlerStep.operation, isResolved] at silences
          exact absurd silences (not_silences rfl)
      | cons =>
          simp only [HandlerStep.operation, isResolved] at silences
          exact (attemptCall_silences _ _ _ _ _ _ _ _ _ silences).elim
  | acceptCall callId =>
      obtain ⟨rfl, ⟨same, free⟩ | cancels⟩ := acceptCall_silences coherent silences
      · exact .inl ⟨same, _, rfl, by simp [Operation.settles, free]⟩
      · exact .inr cancels
  | failRingingRecipient callId =>
      obtain ⟨same, rfl⟩ := markClientWithinRingingCalls_silences silences
      exact .inl ⟨same, _, rfl, by simp [Operation.settles, Operation.answers]⟩
  | rejectCall callId reason =>
      obtain ⟨same, rfl⟩ := markClientWithinRingingCalls_silences silences
      exact .inl ⟨same, _, rfl, by simp [Operation.settles, Operation.answers]⟩
  | endCall callId => exact .inr (endCall_cancels coherent.keyed silences)
  | callError callId reason =>
      rcases callError_silences coherent reason silences with ⟨same, rfl⟩ | cancels
      · exact .inl ⟨same, _, rfl, by simp [Operation.settles, Operation.answers]⟩
      · exact .inr cancels
  | reportLinkFailure callId peerId => exact .inr (reportLinkFailure_silences coherent.keyed silences)
  | dropTarget callId target reason => exact .inr (dropTarget_silences silences)

end Vacs
