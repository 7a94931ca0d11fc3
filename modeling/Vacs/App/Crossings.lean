import Vacs.App.Invitations
import Vacs.Server.TruthfulNotices

/-!
# Messages that cross an invite

The app arms a timer for a target when it sends the invite, and cancels it when a message of the
server settles the target. A message that settles a target while an invite of it is unfinished
cannot be about this invite: the two cross, and the timer is lost (`isBeingSettled`).

As long as no message crosses an invite, what the app is told about a target is true when it
handles the message: the target does not ring (`Honest`).
-/

set_option autoImplicit false

namespace Vacs

open CallManager

namespace App

namespace ClientServer

/-! ## Unfinished invites and the messages that cross them -/

/-- The invites of the client that the server has not finished, each with its call and with the
targets that it is still about. -/
def unfinishedInvites (state : ClientServer) : List (CallId × Finset CallTarget) :=
  state.pendingSteps.filterMap HandlerStep.unfinished ++
    state.inbound.filterMap ClientMessage.invited

/-- The invites that the server works at: the one that its handler goes on with, or takes up. -/
def invitesInHand (state : ClientServer) : SystemMove → List (CallId × Finset CallTarget)
  | .takeUp _ _ _ => (state.inbound.head?.bind ClientMessage.invited).toList
  | _ => state.pendingSteps.filterMap HandlerStep.unfinished

/-- A message on its way to the client settles the target. What an update in the queue shows is
not looked at, because the session refreshes it. -/
def isBeingSettled (state : ClientServer) (call : CallId) (target : CallTarget) : Bool :=
  state.outbound.any (fun message => message.settles state.app.clientId call target) ||
    (state.server.queue state.app.clientId).any (fun message => message.givesUp call target) ||
    state.server.handlers.anyValue fun steps =>
      steps.any fun step => step.givesUp state.app.clientId call target

theorem settles_of_quiet {state : ClientServer} {call : CallId} {target : CallTarget}
    (quiet : state.isBeingSettled call target = false) :
    (∀ message ∈ state.outbound, message.settles state.app.clientId call target = false) ∧
      ∀ message, state.server.Underway state.app.clientId message →
        message.givesUp call target = false := by
  simp only [isBeingSettled, Bool.or_eq_false_iff, List.any_eq_false, Bool.not_eq_true] at quiet
  obtain ⟨⟨forwarded, queued⟩, notSending⟩ := quiet
  refine ⟨forwarded, ?_⟩
  rintro message (waits | ⟨acting, steps, found, member⟩)
  · exact queued message waits
  · rw [← Bool.not_eq_true]
    intro givesUp
    refine Bool.false_ne_true (notSending.symm.trans ?_)
    refine (Finmap.anyValue_iff _ _).mpr ⟨acting, steps, found, List.any_eq_true.mpr ?_⟩
    exact ⟨_, member, by simpa [HandlerStep.givesUp] using givesUp⟩

/-- No message on its way to the client settles a target of an unfinished invite, the server works
at no invite of a target that rings already, and the client takes up no call into which it
invites. -/
def Uncrossed (state : ClientServer) (move : SystemMove) : Prop :=
  (∀ invite ∈ state.unfinishedInvites, ∀ target ∈ invite.2,
    state.isBeingSettled invite.1 target = false) ∧
  (∀ invite ∈ state.invitesInHand move, ∀ target ∈ invite.2,
    state.server.calls.ringsFor state.app.clientId invite.1 target = false) ∧
  match move with
  | .acceptCall callId _ => ∀ call ∈ state.app.incomingCalls.lookup callId,
      ∀ target ∈ state.candidates call.callId, state.mayRing call.callId target = false
  | _ => True

instance (state : ClientServer) (move : SystemMove) : Decidable (state.Uncrossed move) := by
  cases move <;> unfold Uncrossed <;> infer_instance

variable {state : ClientServer} {call : CallId} {target : CallTarget}

/-- What may ring rings, or is named by an unfinished invite. -/
theorem mayRing_cases (rings : state.mayRing call target = true) :
    state.server.calls.ringsFor state.app.clientId call target = true ∨
      ∃ targets, (call, targets) ∈ state.unfinishedInvites ∧ target ∈ targets := by
  by_contra neither
  rw [not_or] at neither
  obtain ⟨silent, uninvited⟩ := neither
  refine silent (InvitationEffect.foldl_quiet ?_ rings)
  intro effect member before applied
  rcases List.mem_append.mp member with pending | sent
  · obtain ⟨step, isPending, rfl⟩ := List.mem_map.mp pending
    rcases apply_stepEffect_cases applied with was | ⟨progress, isInvite, isCall, named⟩
    · exact was
    · obtain ⟨targets, isUnfinished, covers⟩ : ∃ targets,
          step.unfinished = some (call, targets) ∧
            (progress.resolvedTargets.map Prod.fst).toFinset ⊆ targets := by
        cases step with
        | checkInvite | attemptCall =>
            cases isInvite
            rw [← isCall]
            exact ⟨_, rfl, Finset.subset_union_right⟩
        | _ => cases isInvite
      refine absurd ⟨targets, ?_, covers (List.mem_toFinset.mpr named)⟩ uninvited
      exact List.mem_append_left _ (List.mem_filterMap.mpr ⟨step, isPending, isUnfinished⟩)
  · obtain ⟨message, isSent, rfl⟩ := List.mem_map.mp sent
    by_cases isInvite : ∃ invite, message = .callInvite invite
    · obtain ⟨invite, rfl⟩ := isInvite
      simp only [messageEffect, InvitationEffect.apply, Bool.or_eq_true, Bool.and_eq_true,
        decide_eq_true_eq] at applied
      rcases applied with was | ⟨isCall, named⟩
      · exact was
      · refine absurd ⟨invite.targets, ?_, named⟩ uninvited
        refine List.mem_append_right _ (List.mem_filterMap.mpr ⟨_, isSent, ?_⟩)
        rw [ClientMessage.invited, isCall]
    · refine messageEffect_quiet ?_ applied
      intro invite isIt
      exact isInvite ⟨invite, isIt⟩

/-! ## What the client is told is true -/

/-- A target that a message on its way to the client settles does not ring for the client. -/
structure Honest (state : ClientServer) : Prop where
  settled : state.server.Settled
  truthful : state.server.Truthful state.app.clientId
  forwarded : ∀ message ∈ state.outbound, ∀ call target,
    message.settles state.app.clientId call target = true →
      state.server.calls.ringsFor state.app.clientId call target = false

/-- Nothing that is on its way crosses an invite that the server works at. -/
theorem Uncrossed.server {move : SystemMove} (uncrossed : state.Uncrossed move)
    (goesOn : ∀ covering rejection order, move ≠ .takeUp covering rejection order) :
    state.server.Uncrossed state.app.clientId := by
  intro steps found step member call targets isUnfinished target named
  have inHand : (call, targets) ∈ state.pendingSteps.filterMap HandlerStep.unfinished := by
    refine List.mem_filterMap.mpr ⟨step, ?_, isUnfinished⟩
    rw [pendingSteps, found]
    exact member
  refine ⟨?_, (settles_of_quiet ?_).2⟩
  · refine uncrossed.2.1 (call, targets) ?_ target named
    cases move with
    | takeUp covering rejection order => exact absurd rfl (goesOn covering rejection order)
    | _ => exact inHand
  · exact uncrossed.1 (call, targets) (List.mem_append_left _ inHand) target named

/-- A server that makes only targets of unfinished invites ring. -/
theorem Honest.forwarded_mono (honest : state.Honest) {server : CallServer}
    (rings : ∀ call target, server.calls.ringsFor state.app.clientId call target = true →
      state.server.calls.ringsFor state.app.clientId call target = true ∨
        ∀ message ∈ state.outbound, message.settles state.app.clientId call target = false) :
    ∀ message ∈ state.outbound, ∀ call target,
      message.settles state.app.clientId call target = true →
        server.calls.ringsFor state.app.clientId call target = false := by
  intro message member call target settles
  rw [← Bool.not_eq_true]
  intro ringsNow
  rcases rings call target ringsNow with rang | quiet
  · have silent := honest.forwarded message member call target settles
    exact Bool.false_ne_true (silent.symm.trans rang)
  · exact Bool.false_ne_true ((quiet message member).symm.trans settles)

/-- The client acts, and is told nothing by it. -/
theorem Honest.act (honest : state.Honest) {result : AppStateInner × List ClientMessage}
    (sameClient : result.1.clientId = state.app.clientId) : (state.act result).Honest := by
  refine ⟨honest.settled, ?_, ?_⟩
  · rw [ClientServer.act, sameClient]
    exact honest.truthful
  · rw [ClientServer.act, sameClient]
    exact honest.forwarded

/-- The app has taken a message from the connection. -/
theorem Honest.tail {message : ServerMessage} {rest : List ServerMessage}
    (waiting : state.outbound = message :: rest) (honest : state.Honest) :
    ClientServer.Honest { state with outbound := rest } := by
  refine ⟨honest.settled, honest.truthful, fun later member => ?_⟩
  refine honest.forwarded later ?_
  rw [waiting]
  exact List.mem_cons_of_mem _ member

theorem Honest.takeUp (honest : state.Honest) {message : ClientMessage}
    {rest : List ClientMessage} {covering : CallTarget → Finset ClientId}
    {rejection : Option CallInviteRejection} {order : Iteration}
    (waiting : state.inbound = message :: rest)
    (uncrossed : state.Uncrossed (.takeUp covering rejection order)) {server : CallServer}
    (steps : state.server.step
      (.receive state.app.clientId message covering rejection order) = some server) :
    ClientServer.Honest { state with server := server, inbound := rest } := by
  have settled := honest.settled.step (CallServer.step_steps steps)
  simp only [CallServer.step] at steps
  split at steps
  · cases steps
  · cases steps
    refine ⟨settled, ?_, honest.forwarded⟩
    refine honest.truthful.receive covering rejection order ?_
    intro _ call targets isInvite target named
    refine uncrossed.2.1 (call, targets) ?_ target named
    simp [invitesInHand, waiting, isInvite]

theorem Honest.forward (honest : state.Honest) {order : Iteration} {message : ServerMessage}
    {rest : List ServerMessage} (waiting : state.server.queue state.app.clientId = message :: rest)
    {server : CallServer}
    (steps : state.server.step (.deliver state.app.clientId order) = some server) :
    ClientServer.Honest { state with
      server := server
      outbound := state.outbound ++
        [refreshCallUpdate order state.server.calls state.app.clientId message] } := by
  have settled := honest.settled.step (CallServer.step_steps steps)
  simp only [CallServer.step, waiting] at steps
  cases steps
  refine ⟨settled, honest.truthful.deliver waiting _, ?_⟩
  intro forwarded member call target settles
  rcases List.mem_append.mp member with before | isNew
  · exact honest.forwarded forwarded before call target settles
  · rw [List.mem_singleton.mp isNew] at settles
    have underway : state.server.Underway state.app.clientId message := by
      refine Or.inl ?_
      rw [waiting]
      exact List.mem_cons_self
    exact CallServer.refreshCallUpdate_truthful honest.settled honest.truthful order underway
      settles

/-- A client that disconnects tells only of targets that are cancelled with it. -/
theorem sendCleanupAction_givesUp {order : Iteration} {leaving : ClientId}
    {action : UpdateCallAction} {step : HandlerStep}
    (member : step ∈ HandlerStep.sendCleanupAction order leaving action) :
    ∃ recipient message, step = .send recipient message ∧ ∀ call target,
      message.givesUp call target = true → ∃ cancelled : RingingTarget,
        action = .cancelRingingTarget cancelled ∧ cancelled.callId = call ∧
          cancelled.target = target := by
  cases action with
  | cancelRingingTarget cancelled =>
      simp only [HandlerStep.sendCleanupAction] at member
      split at member
      · obtain ⟨recipient, -, rfl⟩ := List.mem_map.mp member
        refine ⟨recipient, _, rfl, fun call target givesUp => ?_⟩
        simp [ServerMessage.givesUp, CallCancelReason.givesUpTargets] at givesUp
      · obtain ⟨recipient, -, rfl⟩ := List.mem_map.mp member
        refine ⟨recipient, _, rfl, fun call target givesUp => ?_⟩
        simp only [ServerMessage.givesUp, CallCancelReason.givesUpTargets, Finset.mem_singleton,
          Bool.and_true, Bool.and_eq_true, decide_eq_true_eq] at givesUp
        exact ⟨cancelled, rfl, givesUp.1, givesUp.2.symm⟩
  | dropParticipant callId participantId =>
      rw [List.mem_singleton.mp member]
      exact ⟨_, _, rfl, fun _ _ givesUp => by cases givesUp⟩
  | updateParticipants update =>
      obtain ⟨recipient, -, rfl⟩ := List.mem_map.mp member
      exact ⟨recipient, _, rfl, fun _ _ givesUp => by cases givesUp⟩

/-- Another client disconnects. -/
theorem Honest.disconnect (honest : state.Honest) (leaving : ClientId) (order : Iteration) :
    ClientServer.Honest { state with server := state.server.disconnect leaving order } := by
  have coherent := honest.settled.orderly.coherent
  have fromHandler :
      (⟨.cleanupClientCalls leaving, order, 0⟩ : Request).op.FromHandler := trivial
  have silent : ∀ call target,
      (state.server.disconnect leaving order).calls.ringsFor state.app.clientId call target =
        true → state.server.calls.ringsFor state.app.clientId call target = true := by
    intro call target rings
    rcases next_ringsFor coherent fromHandler.fromCaller rings with before | ⟨_, _, ⟨⟩⟩
    exact before
  refine ⟨⟨honest.settled.orderly.disconnect leaving order, ?_, ?_⟩, ?_, ?_⟩
  · exact next_unanswered coherent fromHandler honest.settled.unanswered
  · intro other pending found step member
    simp only [CallServer.disconnect, Finmap.lookup_insert_eq] at found
    split at found
    · cases found
      obtain ⟨action, -, isSent⟩ := List.mem_flatMap.mp member
      obtain ⟨recipient, message, rfl, -⟩ := sendCleanupAction_givesUp isSent
      exact .send recipient message
    · exact honest.settled.tidy other pending found step member
  · intro message underway call target givesUp
    rcases CallServer.underway_of_insert state.server underway rfl rfl with before | born
    · rw [← Bool.not_eq_true]
      intro rings
      have wasSilent := honest.truthful message before call target givesUp
      exact Bool.false_ne_true (wasSilent.symm.trans (silent call target rings))
    · obtain ⟨action, isAction, isSent⟩ := List.mem_flatMap.mp born
      obtain ⟨recipient, sent, isSend, about⟩ := sendCleanupAction_givesUp isSent
      cases isSend
      obtain ⟨cancelled, rfl, rfl, rfl⟩ := about call target givesUp
      exact (cleanupClientCalls_silent coherent order isAction).ringsFor _
  · exact honest.forwarded_mono fun call target rings => Or.inl (silent call target rings)

/-- A handler takes a step, or the session of another client does. -/
theorem Honest.others (honest : state.Honest) {move : ServerMove}
    (avoids : move.avoids state.app.clientId = true)
    (uncrossed : state.Uncrossed (.others move)) {server : CallServer}
    (steps : state.server.step move = some server) :
    ClientServer.Honest { state with server := server } := by
  have settled := honest.settled.step (CallServer.step_steps steps)
  cases move with
  | receive other message covering rejection order =>
      simp only [CallServer.step] at steps
      split at steps
      · cases steps
      · cases steps
        refine ⟨settled, ?_, honest.forwarded⟩
        refine honest.truthful.receive covering rejection order ?_
        intro isOwn
        exact absurd isOwn (of_decide_eq_true avoids)
  | deliver other order =>
      simp only [CallServer.step] at steps
      split at steps
      · cases steps
      · rename_i message rest found
        cases steps
        exact ⟨settled, honest.truthful.deliver found _, honest.forwarded⟩
  | proceed acting order now =>
      have quiet := uncrossed.server (fun _ _ _ => SystemMove.noConfusion)
      refine ⟨settled, honest.truthful.proceed honest.settled quiet steps, ?_⟩
      refine honest.forwarded_mono fun call target rings => ?_
      rcases CallServer.proceed_ringsFor honest.settled.orderly steps rings with rang |
        ⟨pending, step, member, targets, found, isUnfinished, named⟩
      · exact Or.inl rang
      · right
        refine (settles_of_quiet (uncrossed.1 (call, targets) ?_ target named)).1
        refine List.mem_append_left _ (List.mem_filterMap.mpr ⟨step, ?_, isUnfinished⟩)
        rw [pendingSteps, found]
        exact member

end ClientServer

end App

end Vacs
