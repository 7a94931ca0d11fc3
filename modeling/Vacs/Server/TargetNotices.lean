import Vacs.Calls.Unanswered
import Vacs.Server.HandlerCoherence

/-!
# What the server tells an inviting client about its targets

The server tells a client that invites others when a target is given up: nobody covers it, the
invite is refused, everybody that was rung has rejected or failed (`ServerMessage.givesUp`). An
update tells it by showing that nobody rings, or that somebody has joined as the target
(`ServerMessage.showsAnswered`).

When a handler begins to send that a target is given up, the target does not ring for the client,
or the handler has just refused to invite it (`perform_followed`). And the state of a call shows
every target that rings in it (`ringsFor_visible`).
-/

set_option autoImplicit false

namespace Vacs

open CallManager

/-! ## Messages about targets -/

/-- The targets that an error is about. -/
def CallErrorReason.targets : CallErrorReason → Finset CallTarget
  | .targetsNotFound targets => targets
  | .maxConferenceSizeReached targets => targets
  | .notConferenceLeader target => {target}
  | .alreadyParticipant target => {target}
  | .callNotFound | .callActive | .webrtcFailure _ | .audioFailure _ | .callFailure
  | .signalingFailure _ | .autoHangup | .peerConnectionFailed _ | .notParticipant | .other
  | .unknown _ => ∅

/-- The call goes on without the targets that are cancelled. -/
def CallCancelReason.givesUpTargets : CallCancelReason → Bool
  | .answeredElsewhere _ | .callerCancelled | .errored .autoHangup => false
  | .disconnected | .errored _ | .rejected _ | .unknown _ => true

namespace ServerMessage

/-- The message says that the target of the call is given up. -/
def givesUp (callId : CallId) (target : CallTarget) : ServerMessage → Bool
  | .callError error => decide (error.callId = callId) && decide (target ∈ error.reason.targets)
  | .callCancelled cancelled =>
      decide (cancelled.callId = callId) && decide (target ∈ cancelled.targets) &&
        cancelled.reason.givesUpTargets
  | .rateLimited limited targets _ => decide (limited = callId) && decide (target ∈ targets)
  | .callInvitation _ | .callUpdate _ | .callEnd _ => false

/-- The message is an update of the call in which nobody rings, or in which somebody else has
joined as the target. -/
def showsAnswered (clientId : ClientId) (callId : CallId) (target : CallTarget) :
    ServerMessage → Bool
  | .callUpdate msg =>
      decide (msg.callId = callId) && (decide (msg.invitedTargets = ∅) ||
        decide (target ∈ CallParticipants.targets (msg.joinedParticipants.erase clientId)))
  | _ => false

/-- The message tells the client that the target is not to be waited for any more. -/
def settles (clientId : ClientId) (callId : CallId) (target : CallTarget)
    (message : ServerMessage) : Bool :=
  message.givesUp callId target || message.showsAnswered clientId callId target

end ServerMessage

/-! ## Unfinished invites -/

/-- The targets that an invite is about while its handler has not finished it. -/
def HandlerStep.unfinished : HandlerStep → Option (CallId × Finset CallTarget)
  | .checkInvite progress _ =>
      some (progress.invite.callId,
        progress.invite.targets ∪ (progress.resolvedTargets.map Prod.fst).toFinset)
  | .attemptCall progress =>
      some (progress.invite.callId,
        progress.notFoundTargets ∪ (progress.resolvedTargets.map Prod.fst).toFinset)
  | _ => none

def ClientMessage.invited : ClientMessage → Option (CallId × Finset CallTarget)
  | .callInvite invite => some (invite.callId, invite.targets)
  | _ => none

/-- The handler is going to tell the client that the target is given up. -/
def HandlerStep.givesUp (clientId : ClientId) (callId : CallId) (target : CallTarget) :
    HandlerStep → Bool
  | .send recipientId message => decide (recipientId = clientId) && message.givesUp callId target
  | _ => false

/-! ## Steps that give nothing up -/

/-- All that is left to do is to send messages, none of which gives a target up. -/
def GivesUpNothing (steps : List HandlerStep) : Prop :=
  ∀ step ∈ steps, ∃ recipientId message, step = .send recipientId message ∧
    ∀ callId target, message.givesUp callId target = false

namespace GivesUpNothing

theorem nil : GivesUpNothing [] := fun _ member => by cases member

theorem cons {recipientId : ClientId} {message : ServerMessage} {steps : List HandlerStep}
    (first : ∀ callId target, message.givesUp callId target = false)
    (rest : GivesUpNothing steps) : GivesUpNothing (.send recipientId message :: steps) := by
  intro step member
  rcases List.mem_cons.mp member with rfl | later
  · exact ⟨recipientId, message, rfl, first⟩
  · exact rest step later

theorem append {earlier later : List HandlerStep} (first : GivesUpNothing earlier)
    (second : GivesUpNothing later) : GivesUpNothing (earlier ++ later) := by
  intro step member
  rcases List.mem_append.mp member with before | after
  · exact first step before
  · exact second step after

theorem flatMap {Element : Type} {elements : List Element} {steps : Element → List HandlerStep}
    (each : ∀ element ∈ elements, GivesUpNothing (steps element)) :
    GivesUpNothing (elements.flatMap steps) := by
  intro step member
  obtain ⟨element, isElement, within⟩ := List.mem_flatMap.mp member
  exact each element isElement step within

theorem updates (update : UpdateParticipants) (participants : List ClientId) :
    GivesUpNothing (participants.map (HandlerStep.sendCallUpdate update)) := by
  intro step member
  obtain ⟨_, _, rfl⟩ := List.mem_map.mp member
  exact ⟨_, _, rfl, fun _ _ => rfl⟩

theorem sent {messages : List ServerMessage} (recipientId : ClientId)
    (quiet : ∀ message ∈ messages, ∀ callId target, message.givesUp callId target = false) :
    GivesUpNothing (messages.map (HandlerStep.send recipientId)) := by
  intro step member
  obtain ⟨message, isSent, rfl⟩ := List.mem_map.mp member
  exact ⟨recipientId, message, rfl, quiet message isSent⟩

theorem error (clientId : ClientId) (callId : CallId) {reason : CallErrorReason}
    (message : Option String) (unnamed : reason.targets = ∅) :
    GivesUpNothing [HandlerStep.sendCallError clientId callId reason message] :=
  cons (fun _ _ => by simp [ServerMessage.givesUp, unnamed]) nil

theorem cancelled (order : Iteration) (recipients : Finset ClientId) {cancelled : CallCancelled}
    (ends : cancelled.reason.givesUpTargets = false) :
    GivesUpNothing (HandlerStep.sendCallCancelled order recipients cancelled) := by
  intro step member
  obtain ⟨_, _, rfl⟩ := List.mem_map.mp member
  exact ⟨_, _, rfl, fun _ _ => by simp [ServerMessage.givesUp, ends]⟩

theorem actions (order : Iteration) (callId : CallId) {dropped survivor : List ServerMessage}
    (quietDropped : ∀ message ∈ dropped, ∀ callId target, message.givesUp callId target = false)
    (quietSurvivor : ∀ message ∈ survivor, ∀ callId target,
      message.givesUp callId target = false) (actions : List UpdateCallAction) :
    GivesUpNothing (HandlerStep.sendActions order callId dropped survivor actions) := by
  refine flatMap fun action _ => ?_
  cases action with
  | cancelRingingTarget target => exact cancelled order _ rfl
  | dropParticipant _ participant => exact sent participant quietDropped
  | updateParticipants update =>
      refine flatMap fun participant _ => ?_
      exact (sent participant quietSurvivor).append (updates update [participant])

end GivesUpNothing

/-! ## What follows a step of a handler -/

/-- A step that follows a step of the handler of a client. A message that gives targets up does not
lie about them, or is about an invite of the client that has failed. -/
inductive HandlerStep.Followed (clientId : ClientId) (s s' : CallManager) (step : HandlerStep) :
    HandlerStep → Prop where
  | sends {recipientId : ClientId} {message : ServerMessage}
      (truthful : ∀ callId target, message.givesUp callId target = true →
        s'.ringsFor recipientId callId target = false ∨
          recipientId = clientId ∧ s' = s ∧ ∃ targets,
            step.unfinished = some (callId, targets) ∧ target ∈ targets) :
      Followed clientId s s' step (.send recipientId message)
  | invites {progress earlier : InviteProgress} (isInvite : step.invite = some earlier)
      (fewer : progress.resolvedTargets ⊆ earlier.resolvedTargets) :
      Followed clientId s s' step (.attemptCall progress)
  | announces (progress : InviteProgress) : Followed clientId s s' step (.announceInvite progress)
  | fails (callId : CallId) : Followed clientId s s' step (.failRingingRecipient callId)
  | reads (callId : CallId) : Followed clientId s s' step (.sendCallState callId)

section Following

variable {clientId : ClientId} {s s' : CallManager} {step : HandlerStep}

theorem GivesUpNothing.followed {steps : List HandlerStep} (quiet : GivesUpNothing steps) :
    ∀ next ∈ steps, step.Followed clientId s s' next := by
  intro next member
  obtain ⟨recipientId, message, rfl, nothing⟩ := quiet next member
  refine .sends fun callId target givesUp => ?_
  rw [nothing callId target] at givesUp
  cases givesUp

/-- An error about the targets of an invite that the handler had not finished. -/
theorem followed_error {callId : CallId} {reason : CallErrorReason} {targets : Finset CallTarget}
    (isUnfinished : step.unfinished = some (callId, targets)) (about : reason.targets ⊆ targets)
    (message : Option String) :
    step.Followed clientId s s (.sendCallError clientId callId reason message) := by
  refine .sends fun other target givesUp => Or.inr ⟨rfl, rfl, targets, ?_⟩
  simp only [ServerMessage.givesUp, Bool.and_eq_true, decide_eq_true_eq] at givesUp
  obtain ⟨rfl, named⟩ := givesUp
  exact ⟨isUnfinished, about named⟩

/-- The caller is told which of its targets have failed. -/
theorem followed_cancelFailedTarget {callId : CallId} {ringingTargets : List RingingTarget}
    (silent : ∀ failed ∈ ringingTargets, s'.Silent callId failed.target)
    (reason : CallCancelReason) :
    ∀ next ∈ HandlerStep.cancelFailedTarget callId ringingTargets reason,
      step.Followed clientId s s' next := by
  intro next member
  unfold HandlerStep.cancelFailedTarget at member
  split at member
  · cases member
  · rw [List.mem_singleton] at member
    subst member
    refine .sends fun other target givesUp => Or.inl ?_
    simp only [ServerMessage.givesUp, Bool.and_eq_true, decide_eq_true_eq] at givesUp
    obtain ⟨⟨rfl, named⟩, -⟩ := givesUp
    obtain ⟨failed, isFailed, rfl⟩ := List.mem_map.mp (List.mem_toFinset.mp named)
    exact (silent failed isFailed).ringsFor _

theorem followed_failRingingTargets {order : Iteration} {callId : CallId}
    {ringingTargets : List RingingTarget} {update : UpdateParticipants}
    (silent : ∀ failed ∈ ringingTargets, s'.Silent callId failed.target)
    (reason : CallErrorReason) :
    ∀ next ∈ HandlerStep.failRingingTargets order callId ringingTargets update reason,
      step.Followed clientId s s' next := by
  intro next member
  unfold HandlerStep.failRingingTargets at member
  split at member
  · cases member
  · rcases List.mem_append.mp member with cancels | updates
    · exact followed_cancelFailedTarget silent _ next cancels
    · exact (GivesUpNothing.updates update _).followed next updates

/-- After one target of an invite was attempted. -/
theorem followed_afterAttempt {order : Iteration} {progress : InviteProgress}
    {target : CallTarget} {targetClients : Finset ClientId}
    {remaining : List (CallTarget × Finset ClientId)}
    (isResolved : progress.resolvedTargets = (target, targetClients) :: remaining)
    {result : Except StartCallError (CallParticipants × CallParticipants)}
    (unchanged : ∀ reason, result = .error reason → s' = s) :
    ∀ next ∈ HandlerStep.afterAttempt order clientId progress target targetClients remaining
      result, (HandlerStep.attemptCall progress).Followed clientId s s' next := by
  have later : ∀ {next : InviteProgress}, next.resolvedTargets = remaining →
      (HandlerStep.attemptCall progress).Followed clientId s s' (.attemptCall next) := by
    intro next isRemaining
    refine .invites rfl ?_
    rw [isRemaining, isResolved]
    exact List.subset_cons_self _ _
  have named : ({target} : Finset CallTarget) ⊆
      progress.notFoundTargets ∪ (progress.resolvedTargets.map Prod.fst).toFinset := by
    rw [Finset.singleton_subset_iff, Finset.mem_union, List.mem_toFinset, isResolved]
    exact Or.inr List.mem_cons_self
  intro next member
  cases result with
  | ok participants =>
      rw [HandlerStep.afterAttempt, List.mem_singleton] at member
      subst member
      exact later rfl
  | error reason =>
      obtain rfl := unchanged reason rfl
      cases reason with
      | callerBusy => exact (GivesUpNothing.error clientId _ none rfl).followed next member
      | notParticipant => exact (GivesUpNothing.error clientId _ none rfl).followed next member
      | alreadyParticipant | notConferenceLeader =>
          simp only [HandlerStep.afterAttempt, List.mem_cons, List.not_mem_nil, or_false] at member
          rcases member with rfl | rfl
          · exact followed_error rfl named none
          · exact later rfl

theorem followed_read (order : Iteration) (s : CallManager) (clientId : ClientId)
    (step : HandlerStep) :
    ∀ next ∈ step.read order s clientId, step.Followed clientId s s next := by
  intro next member
  cases step with
  | checkInvite progress rejection =>
      simp only [HandlerStep.read] at member
      split at member
      · rw [List.mem_singleton] at member
        subst member
        exact followed_error rfl Finset.subset_union_left none
      · split at member
        · rw [List.mem_singleton] at member
          subst member
          exact .invites rfl (List.Subset.refl _)
        · rw [List.mem_singleton] at member
          subst member
          refine .sends fun callId target givesUp => Or.inr ⟨rfl, rfl,
            progress.invite.targets ∪ (progress.resolvedTargets.map Prod.fst).toFinset, ?_⟩
          simp only [ServerMessage.givesUp, Bool.and_eq_true, decide_eq_true_eq] at givesUp
          obtain ⟨rfl, named⟩ := givesUp
          exact ⟨rfl, Finset.subset_union_left named⟩
        · exact (GivesUpNothing.error clientId _ _ rfl).followed next member
  | attemptCall progress =>
      simp only [HandlerStep.read, HandlerStep.finishInvite] at member
      split at member
      · rw [List.mem_singleton] at member
        subst member
        exact .announces progress
      · rcases List.mem_cons.mp member with rfl | announced
        · exact followed_error rfl Finset.subset_union_left none
        · split at announced
          · cases announced
          · rw [List.mem_singleton] at announced
            subst announced
            exact .announces progress
  | announceInvite progress =>
      simp only [HandlerStep.read, HandlerStep.announce] at member
      rcases List.mem_append.mp member with invited | updated
      · obtain ⟨_, _, isSent⟩ := List.mem_filterMap.mp invited
        obtain ⟨_, _, rfl⟩ := Option.map_eq_some_iff.mp isSent
        exact .sends fun _ _ givesUp => by cases givesUp
      · exact (GivesUpNothing.updates _ _).followed next updated
  | sendCallState callId =>
      simp only [HandlerStep.read] at member
      split at member
      · rename_i update _
        exact (GivesUpNothing.updates update [clientId]).followed next member
      · cases member
  | send | acceptCall | failRingingRecipient | rejectCall | endCall | callError
  | reportLinkFailure | dropTarget => cases member

theorem followed_afterAccept {order : Iteration} {callId : CallId} {outcome : AcceptCallOutcome} :
    ∀ next ∈ HandlerStep.afterAccept order clientId callId outcome,
      step.Followed clientId s s' next := by
  cases outcome with
  | accepted target update =>
      refine GivesUpNothing.followed (.append (.append (.updates _ _) (.updates _ _)) ?_)
      split
      · exact .cancelled order _ rfl
      · exact .nil
  | acceptorBusy =>
      intro next member
      rcases List.mem_cons.mp member with rfl | later
      · exact (GivesUpNothing.error clientId callId none rfl).followed _ List.mem_cons_self
      · rw [List.mem_singleton.mp later]
        exact .fails callId
  | notFound => exact (GivesUpNothing.error clientId callId none rfl).followed

theorem followed_afterReject {order : Iteration} {callId : CallId} {reason : CallRejectReason}
    {outcome : CallTerminationOutcome}
    (silent : ∀ ringingTargets update, outcome = .targetFailed ringingTargets update →
      ∀ failed ∈ ringingTargets, s'.Silent callId failed.target) :
    ∀ next ∈ HandlerStep.afterReject order clientId callId reason outcome,
      step.Followed clientId s s' next := by
  cases outcome with
  | callNotFound | clientNotNotified =>
      exact (GivesUpNothing.error clientId callId none rfl).followed
  | continued | changed => exact GivesUpNothing.nil.followed
  | targetFailed ringingTargets update =>
      intro next member
      rcases List.mem_append.mp member with cancels | updates
      · exact followed_cancelFailedTarget (silent ringingTargets update rfl) _ next cancels
      · exact (GivesUpNothing.updates update _).followed next updates

theorem survivorError_givesUpNothing (callId : CallId) (reason : CallErrorReason) :
    ∀ message ∈ HandlerStep.survivorError callId reason, ∀ other target,
      message.givesUp other target = false := by
  intro message member other target
  unfold HandlerStep.survivorError at member
  split at member
  · rw [List.mem_singleton.mp member]
    simp [ServerMessage.givesUp, CallErrorReason.targets]
  · rw [List.mem_singleton.mp member]
    simp [ServerMessage.givesUp, CallErrorReason.targets]
  · rw [List.mem_singleton.mp member]
    simp [ServerMessage.givesUp, CallErrorReason.targets]
  · cases member

theorem followed_afterError {order : Iteration} {callId : CallId} {reason : CallErrorReason}
    (unnamed : reason.targets = ∅) {outcome : CallTerminationOutcome}
    (silent : ∀ ringingTargets update, outcome = .targetFailed ringingTargets update →
      ∀ failed ∈ ringingTargets, s'.Silent callId failed.target) :
    ∀ next ∈ HandlerStep.afterError order clientId callId reason outcome,
      step.Followed clientId s s' next := by
  cases outcome with
  | callNotFound | clientNotNotified =>
      exact (GivesUpNothing.error clientId callId none rfl).followed
  | continued => exact GivesUpNothing.nil.followed
  | targetFailed ringingTargets update =>
      exact followed_failRingingTargets (silent ringingTargets update rfl) reason
  | changed actions =>
      have dropped : ∀ message ∈ [ServerMessage.callError { callId := callId, reason := reason },
          .callEnd { callId := callId, endingClientId := clientId }], ∀ other target,
            message.givesUp other target = false := by
        simp [ServerMessage.givesUp, unnamed]
      exact (GivesUpNothing.actions order callId dropped
        (survivorError_givesUpNothing callId reason) actions).followed

theorem followed_afterReport {order : Iteration} {callId : CallId}
    {outcome : LinkReportOutcome} :
    ∀ next ∈ HandlerStep.afterReport order callId outcome, step.Followed clientId s s' next := by
  cases outcome with
  | invalidReport | recorded => exact GivesUpNothing.nil.followed
  | evicted evicted unreachable actions =>
      refine GivesUpNothing.followed (.append ?_ (.actions order callId ?_ ?_ actions))
      · refine .cons ?_ (.cons ?_ .nil)
        · simp [ServerMessage.givesUp, CallErrorReason.targets]
        · simp [ServerMessage.givesUp]
      · simp [ServerMessage.givesUp]
      · simp

theorem followed_afterDrop {order : Iteration} {callId : CallId} {target : CallTarget}
    {reason : CallDropReason} {outcome : DropTargetOutcome}
    (silent : s'.ringsFor clientId callId target = false) :
    ∀ next ∈ HandlerStep.afterDrop order clientId callId target reason outcome,
      step.Followed clientId s s' next := by
  cases outcome with
  | callNotFound => exact (GivesUpNothing.error clientId callId none rfl).followed
  | notPermitted =>
      intro next member
      rcases List.mem_cons.mp member with rfl | later
      · refine .sends fun other named givesUp => Or.inl ?_
        simp only [ServerMessage.givesUp, CallErrorReason.targets, Finset.mem_singleton,
          Bool.and_eq_true, decide_eq_true_eq] at givesUp
        obtain ⟨rfl, rfl⟩ := givesUp
        exact silent
      · rw [List.mem_singleton.mp later]
        exact .reads callId
  | obsolete update => exact (GivesUpNothing.updates update [clientId]).followed
  | ringingTargetCancelled ringingTarget update =>
      refine GivesUpNothing.followed (.append (.cancelled order _ ?_) (.updates update _))
      cases reason <;> rfl
  | participantDropped dropped update =>
      exact GivesUpNothing.followed (.cons (by simp [ServerMessage.givesUp]) (.updates update _))

theorem attemptCall_error {order : Iteration} {s s' : CallManager} {callId : CallId}
    {callerId : ClientId} {source : CallSource} {target : CallTarget}
    {notified : Finset ClientId} {reason : StartCallError}
    (attempted : s.attemptCall order callId callerId source target notified =
      (s', .error reason)) : s' = s := by
  unfold CallManager.attemptCall at attempted
  split at attempted
  · exact (congrArg Prod.fst attempted).symm
  · cases attempted

theorem followed_of_execute {order : Iteration} {now : Instant} {s s' : CallManager}
    {clientId : ClientId} {step : HandlerStep} {op : Operation} {outcome : Outcome}
    (operates : step.operation clientId = some op)
    (executes : s.execute { op := op, order := order, now := now } = (s', outcome))
    (followed : ∀ next ∈ step.respond order clientId outcome, step.Followed clientId s s' next) :
    ∀ next ∈ (step.perform order now s clientId).2,
      step.Followed clientId s (step.perform order now s clientId).1 next := by
  rw [HandlerStep.perform_of_execute operates executes]
  exact followed

/-- Whatever follows a step of a handler tells no client that a target is given up which rings for
it, unless the step is about an invite of this target. -/
theorem perform_followed (order : Iteration) (now : Instant) (s : CallManager)
    (clientId : ClientId) {step : HandlerStep}
    (unnamed : ∀ callId reason, step = .callError callId reason → reason.targets = ∅) :
    ∀ next ∈ (step.perform order now s clientId).2,
      step.Followed clientId s (step.perform order now s clientId).1 next := by
  cases step with
  | send recipientId message => exact followed_read order s clientId (.send recipientId message)
  | checkInvite progress rejection =>
      exact followed_read order s clientId (.checkInvite progress rejection)
  | announceInvite progress => exact followed_read order s clientId (.announceInvite progress)
  | sendCallState callId => exact followed_read order s clientId (.sendCallState callId)
  | attemptCall progress =>
      cases isResolved : progress.resolvedTargets with
      | nil =>
          have reads : (HandlerStep.attemptCall progress).operation clientId = none := by
            simp only [HandlerStep.operation, isResolved]
          rw [HandlerStep.perform_of_read reads]
          exact followed_read order s clientId (.attemptCall progress)
      | cons pair remaining =>
          obtain ⟨target, targetClients⟩ := pair
          obtain ⟨⟨s', result⟩, attempted⟩ : ∃ result, s.attemptCall order
            progress.invite.callId clientId progress.invite.source target targetClients =
              result := ⟨_, rfl⟩
          have operates : (HandlerStep.attemptCall progress).operation clientId =
              some (.attemptCall progress.invite.callId clientId progress.invite.source target
                targetClients) := by
            simp only [HandlerStep.operation, isResolved]
          refine followed_of_execute operates (congrArg (Prod.map id Outcome.attempted) attempted) ?_
          simp only [HandlerStep.respond, isResolved]
          refine followed_afterAttempt isResolved ?_
          rintro reason rfl
          exact attemptCall_error attempted
  | acceptCall callId =>
      obtain ⟨⟨s', outcome⟩, accepted⟩ : ∃ result, s.acceptCall order callId clientId = result :=
        ⟨_, rfl⟩
      refine followed_of_execute rfl (congrArg (Prod.map id Outcome.answered) accepted) ?_
      exact followed_afterAccept
  | failRingingRecipient callId =>
      obtain ⟨⟨s', outcome⟩, failed⟩ : ∃ result,
        s.failRingingRecipient order callId clientId = result := ⟨_, rfl⟩
      refine followed_of_execute rfl (congrArg (Prod.map id Outcome.terminated) failed) ?_
      cases outcome with
      | targetFailed ringingTargets update =>
          exact followed_failRingingTargets (markClient_silent failed) _
      | callNotFound | clientNotNotified | continued | changed =>
          intro next member
          cases member
  | rejectCall callId reason =>
      obtain ⟨⟨s', outcome⟩, rejected⟩ : ∃ result, s.rejectCall order callId clientId = result :=
        ⟨_, rfl⟩
      refine followed_of_execute rfl (congrArg (Prod.map id Outcome.terminated) rejected) ?_
      refine followed_afterReject ?_
      rintro ringingTargets update rfl
      exact markClient_silent rejected
  | endCall callId =>
      obtain ⟨⟨s', ended⟩, isEnded⟩ : ∃ result, s.endCall order callId clientId = result :=
        ⟨_, rfl⟩
      refine followed_of_execute rfl (congrArg (Prod.map id Outcome.ended) isEnded) ?_
      cases ended with
      | none => exact (GivesUpNothing.error clientId callId none rfl).followed
      | some actions =>
          exact (GivesUpNothing.actions order callId (by simp [ServerMessage.givesUp])
            (by simp) actions).followed
  | callError callId reason =>
      obtain ⟨⟨s', outcome⟩, failed⟩ : ∃ result, s.callError order callId clientId = result :=
        ⟨_, rfl⟩
      refine followed_of_execute rfl (congrArg (Prod.map id Outcome.terminated) failed) ?_
      refine followed_afterError (unnamed callId reason rfl) ?_
      rintro ringingTargets update rfl
      exact callError_silent failed
  | reportLinkFailure callId peerId =>
      obtain ⟨⟨s', outcome⟩, reported⟩ : ∃ result,
        s.reportLinkFailure order callId clientId peerId now = result := ⟨_, rfl⟩
      refine followed_of_execute rfl (congrArg (Prod.map id Outcome.reported) reported) ?_
      exact followed_afterReport
  | dropTarget callId target reason =>
      obtain ⟨⟨s', outcome⟩, dropped⟩ : ∃ result,
        s.dropTarget order callId clientId target reason = result := ⟨_, rfl⟩
      refine followed_of_execute rfl (congrArg (Prod.map id Outcome.dropped) dropped) ?_
      refine followed_afterDrop ?_
      have silent := dropTarget_ringsFor s order callId clientId target reason
      rwa [dropped] at silent

end Following

/-! ## What an update shows -/

theorem callStateForParty_callId {s : CallManager} {order : Iteration} {call : CallId}
    {client : ClientId} {update : UpdateParticipants}
    (isParty : s.callStateForParty order call client = some update) : update.callId = call := by
  unfold callStateForParty at isParty
  simp only at isParty
  split at isParty
  · cases isParty
    rfl
  · cases isParty

/-- Who invites into a call is a party of it, sees that somebody is invited, and sees nobody else
that has joined as its target. -/
theorem ringsFor_visible {s : CallManager} (coherent : Coherent s) {call : CallId}
    (unanswered : (s.call call).Unanswered) (order : Iteration) {client : ClientId}
    {target : CallTarget} (rings : s.ringsFor client call target = true) :
    ∃ update, s.callStateForParty order call client = some update ∧
      (update.forRecipient client).callId = call ∧
      (update.forRecipient client).invitedTargets ≠ ∅ ∧
      target ∉ CallParticipants.targets
        ((update.forRecipient client).joinedParticipants.erase client) := by
  obtain ⟨entry, ringing, isRinging, present, isSource⟩ := (ringsFor_iff _ _ _ _).mp rings
  have wf := coherent.wellFormed call
  have isCaller : entry.callerId = client :=
    (wf.sourceIsCaller entry isRinging target ringing present).symm.trans isSource
  have found : s.ringingCalls.lookup call = some entry := isRinging
  have current : Current order s (s.updateWith call (s.pendingInvitations order call)) :=
    current_updateWith rfl
  have described := current.describesCall coherent
  refine ⟨s.updateWith call (s.pendingInvitations order call), ?_, rfl, ?_, ?_⟩
  · simp [callStateForParty, found, isCaller]
  · obtain ⟨rung, notified⟩ := unanswered.answerable entry isRinging target ringing present
    have invited : (s.pendingInvitations order call).lookup rung = some target :=
      (described.invited rung target).mpr ⟨entry, ringing, found, present, notified⟩
    have notInvited : (s.pendingInvitations order call).lookup client = none := by
      cases asInvited : (s.pendingInvitations order call).lookup client with
      | none => rfl
      | some other =>
          have notified := (described.invited client other).mp asInvited
          exact absurd ((notified_iff _ _ _ _).mp notified)
            (wf.callerNotRung other client ⟨entry, isRinging, isCaller⟩)
    have named : target ∈ ((s.updateWith call
        (s.pendingInvitations order call)).forRecipient client).invitedTargets := by
      simp only [UpdateParticipants.forRecipient, CallManager.updateWith, Finset.mem_filter,
        notInvited, CallParticipants.targets, Finset.mem_biUnion, Option.mem_toFinset]
      refine ⟨⟨rung, ?_, invited⟩, Option.some_ne_none target⟩
      exact (Finmap.mem_keys_iff_lookup _ _).mpr ⟨target, invited⟩
    exact Finset.ne_empty_of_mem named
  · intro joined
    simp only [UpdateParticipants.forRecipient, CallManager.updateWith, CallParticipants.targets,
      Finset.mem_biUnion, Option.mem_toFinset] at joined
    obtain ⟨other, _, carries⟩ := joined
    rw [Option.mem_def, Finmap.lookup_erase_eq] at carries
    split at carries
    · cases carries
    · rename_i differs
      unfold activeCallSnapshot at carries
      cases isActive : s.activeCalls.lookup call with
      | none => simp [isActive] at carries
      | some active =>
          rw [isActive] at carries
          have absent := unanswered.notJoined active entry isActive isRinging other target
            (isCaller ▸ differs) carries
          cases absent.symm.trans present

end Vacs
