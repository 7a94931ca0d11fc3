import Vacs.App.ClientServer
import Vacs.Server.TruthfulNotices

/-!
# The invitations of a client

Whether a target may ring for the client is decided by what rings on the server, by the steps
that the client's handler still has to take, and by the messages of the client that the server
has not taken up (`ClientServer.mayRing`). Nothing that the server does makes a target ring
that the client has not asked for: what a handler does, it has announced (`announced_step`).
-/

set_option autoImplicit false

namespace Vacs

open CallManager

namespace App

/-- What a message of the client, or a step of its handler, does to the targets that ring for
the client. -/
inductive InvitationEffect where
  | invites (callId : CallId) (targets : Finset CallTarget)
  | revokes (callId : CallId) (target : CallTarget)
  | hangsUp (callId : CallId)
  | nothing
deriving DecidableEq

/-- Whether a target may ring after the effect, when it may before. -/
def InvitationEffect.apply (call : CallId) (target : CallTarget) (rings : Bool) :
    InvitationEffect → Bool
  | .invites callId targets => rings || (decide (callId = call) && decide (target ∈ targets))
  | .revokes callId revoked => rings && !(decide (callId = call) && decide (revoked = target))
  | .hangsUp callId => rings && !decide (callId = call)
  | .nothing => rings

def stepEffect (step : HandlerStep) : InvitationEffect :=
  match step.invite with
  | some progress =>
      .invites progress.invite.callId (progress.resolvedTargets.map Prod.fst).toFinset
  | none =>
      match step with
      | .dropTarget callId target _ => .revokes callId target
      | .endCall callId => .hangsUp callId
      | _ => .nothing

def messageEffect (clientId : ClientId) : ClientMessage → InvitationEffect
  | .callInvite invite => .invites invite.callId invite.targets
  | .callDropTarget callId target _ => .revokes callId target
  | .callEnd ended => if ended.endingClientId = clientId then .hangsUp ended.callId else .nothing
  | _ => .nothing

namespace ClientServer

/-! ## Targets that may ring -/

/-- What the client has asked for and the server has not done yet. -/
def effects (state : ClientServer) : List InvitationEffect :=
  state.pendingSteps.map stepEffect ++ state.inbound.map (messageEffect state.app.clientId)

/-- The target rings for the client, or will when the server gets to an invitation of the
client. -/
def mayRing (state : ClientServer) (call : CallId) (target : CallTarget) : Bool :=
  state.effects.foldl (InvitationEffect.apply call target)
    (state.server.calls.ringsFor state.app.clientId call target)

/-- All targets that ring in the call or are named by an invitation. -/
def candidates (state : ClientServer) (call : CallId) : Finset CallTarget :=
  ((state.server.calls.ringingCalls.lookup call).map fun entry => entry.targets.keys).getD ∅ ∪
    (state.effects.map fun
      | .invites _ targets => targets
      | .revokes _ _ | .hangsUp _ | .nothing => ∅).foldr (· ∪ ·) ∅

end ClientServer

/-! ## Effects -/

namespace InvitationEffect

variable {call : CallId} {target : CallTarget}

theorem apply_mono (effect : InvitationEffect) {before after : Bool}
    (implies : before = true → after = true)
    (applied : effect.apply call target before = true) :
    effect.apply call target after = true := by
  cases effect with
  | invites callId targets =>
      simp only [apply, Bool.or_eq_true] at applied ⊢
      exact applied.imp_left implies
  | revokes callId revoked =>
      simp only [apply, Bool.and_eq_true] at applied ⊢
      exact ⟨implies applied.1, applied.2⟩
  | hangsUp callId =>
      simp only [apply, Bool.and_eq_true] at applied ⊢
      exact ⟨implies applied.1, applied.2⟩
  | nothing => exact implies applied

theorem foldl_mono (effects : List InvitationEffect) {before after : Bool}
    (implies : before = true → after = true)
    (applied : effects.foldl (apply call target) before = true) :
    effects.foldl (apply call target) after = true := by
  induction effects generalizing before after with
  | nil => exact implies applied
  | cons effect effects ih => exact ih (effect.apply_mono implies) applied

/-- Effects that invite nobody make nothing ring. -/
theorem foldl_quiet {effects : List InvitationEffect} {rings : Bool}
    (quiet : ∀ effect ∈ effects, ∀ rings, effect.apply call target rings = true → rings = true)
    (applied : effects.foldl (apply call target) rings = true) : rings = true := by
  induction effects generalizing rings with
  | nil => exact applied
  | cons effect effects ih =>
      have later : ∀ other ∈ effects, ∀ rings,
          other.apply call target rings = true → rings = true :=
        fun other member => quiet other (List.mem_cons_of_mem _ member)
      exact quiet effect (List.mem_cons_self ..) rings (ih later applied)

end InvitationEffect

theorem stepEffect_of_invite {step : HandlerStep} {progress : InviteProgress}
    (isInvite : step.invite = some progress) :
    stepEffect step =
      .invites progress.invite.callId (progress.resolvedTargets.map Prod.fst).toFinset := by
  unfold stepEffect
  rw [isInvite]

/-- A step that invites nobody makes nothing ring. -/
theorem stepEffect_quiet {step : HandlerStep} (noInvite : step.invite = none) (call : CallId)
    (target : CallTarget) (rings : Bool)
    (applied : (stepEffect step).apply call target rings = true) : rings = true := by
  unfold stepEffect at applied
  rw [noInvite] at applied
  simp only at applied
  split at applied
  · exact (Bool.and_eq_true _ _ ▸ applied).1
  · exact (Bool.and_eq_true _ _ ▸ applied).1
  · exact applied

/-- The step invites the target to the call. -/
def Invites (call : CallId) (target : CallTarget) (step : HandlerStep) : Prop :=
  ∃ progress, step.invite = some progress ∧ progress.invite.callId = call ∧
    target ∈ progress.resolvedTargets.map Prod.fst

theorem apply_of_invites {call : CallId} {target : CallTarget} {step : HandlerStep}
    (invites : Invites call target step) (rings : Bool) :
    (stepEffect step).apply call target rings = true := by
  obtain ⟨progress, isInvite, isCall, named⟩ := invites
  rw [stepEffect_of_invite isInvite]
  simp [InvitationEffect.apply, isCall, List.mem_toFinset, named]

theorem apply_stepEffect_cases {call : CallId} {target : CallTarget} {step : HandlerStep}
    {rings : Bool} (applied : (stepEffect step).apply call target rings = true) :
    rings = true ∨ Invites call target step := by
  cases isInvite : step.invite with
  | none => exact Or.inl (stepEffect_quiet isInvite call target rings applied)
  | some progress =>
      rw [stepEffect_of_invite isInvite] at applied
      simp only [InvitationEffect.apply, Bool.or_eq_true, Bool.and_eq_true, decide_eq_true_eq,
        List.mem_toFinset] at applied
      exact applied.imp_right fun named => ⟨progress, isInvite, named.1, named.2⟩

/-- What may ring after some steps rang before, or is invited by one of them. -/
theorem foldl_stepEffect_cases {steps : List HandlerStep} {call : CallId} {target : CallTarget}
    {rings : Bool}
    (applied : (steps.map stepEffect).foldl (InvitationEffect.apply call target) rings = true) :
    rings = true ∨ ∃ step ∈ steps, Invites call target step := by
  induction steps generalizing rings with
  | nil => exact Or.inl applied
  | cons step steps ih =>
      rcases ih applied with before | ⟨other, member, invites⟩
      · rcases apply_stepEffect_cases before with before | invites
        · exact Or.inl before
        · exact Or.inr ⟨step, List.mem_cons_self .., invites⟩
      · exact Or.inr ⟨other, List.mem_cons_of_mem _ member, invites⟩

/-! ## What the handler of the client does -/

section Handler

variable {order : Iteration} {client : ClientId} {call : CallId} {target : CallTarget}
  {rings : Bool}

/-- A step of the handler that only reads invites nobody that it was not to invite. -/
theorem invites_read {s : CallManager} {step next : HandlerStep}
    (member : next ∈ step.read order s client) (invites : Invites call target next) :
    Invites call target step := by
  obtain ⟨progress, isInvite, named⟩ := invites
  unfold HandlerStep.read at member
  split at member
  · split at member
    · simp_all
    · split at member
      · rw [List.mem_singleton] at member
        subst member
        cases isInvite
        exact ⟨_, rfl, named⟩
      · simp_all
      · simp_all
  · unfold HandlerStep.finishInvite at member
    split at member
    · simp_all [HandlerStep.invite]
    · rcases List.mem_cons.mp member with rfl | member
      · cases isInvite
      · split at member
        · cases member
        · rw [List.mem_singleton.mp member] at isInvite
          cases isInvite
  · unfold HandlerStep.announce at member
    rcases List.mem_append.mp member with invited | updated
    · obtain ⟨_, _, isSent⟩ := List.mem_filterMap.mp invited
      obtain ⟨_, _, rfl⟩ := Option.map_eq_some_iff.mp isSent
      cases isInvite
    · rw [HandlerStep.invite_map_sendCallUpdate updated] at isInvite
      cases isInvite
  · split at member
    · simp_all
    · cases member
  · cases member

/-- After one target of an invite, at most the remaining ones are invited. -/
theorem invites_afterAttempt {progress : InviteProgress} {attempted : CallTarget}
    {targetClients : Finset ClientId} {remaining : List (CallTarget × Finset ClientId)}
    {result : Except StartCallError (CallParticipants × CallParticipants)} {next : HandlerStep}
    (member : next ∈ HandlerStep.afterAttempt order client progress attempted targetClients
      remaining result) (invites : Invites call target next) :
    progress.invite.callId = call ∧ target ∈ remaining.map Prod.fst := by
  obtain ⟨following, isInvite, isCall, named⟩ := invites
  cases result with
  | ok participants =>
      rw [HandlerStep.afterAttempt, List.mem_singleton] at member
      subst member
      cases isInvite
      exact ⟨isCall, named⟩
  | error reason =>
      cases reason with
      | callerBusy => simp_all [HandlerStep.afterAttempt]
      | notParticipant => simp_all [HandlerStep.afterAttempt]
      | alreadyParticipant =>
          simp only [HandlerStep.afterAttempt, List.mem_cons, List.not_mem_nil, or_false] at member
          rcases member with rfl | rfl
          · cases isInvite
          · cases isInvite
            exact ⟨isCall, named⟩
      | notConferenceLeader =>
          simp only [HandlerStep.afterAttempt, List.mem_cons, List.not_mem_nil, or_false] at member
          rcases member with rfl | rfl
          · cases isInvite
          · cases isInvite
            exact ⟨isCall, named⟩

theorem invites_respond {step next : HandlerStep} {outcome : Outcome}
    (member : next ∈ step.respond order client outcome) (invites : Invites call target next) :
    Invites call target step := by
  cases noInvite : step.invite with
  | none =>
      obtain ⟨progress, isInvite, -⟩ := invites
      rw [HandlerStep.invite_respond noInvite member] at isInvite
      cases isInvite
  | some progress =>
      unfold HandlerStep.respond at member
      split at member
      · cases noInvite
        split at member
        · cases member
        · rename_i first targetClients remaining isResolved
          obtain ⟨isCall, named⟩ := invites_afterAttempt member invites
          refine ⟨progress, rfl, isCall, ?_⟩
          rw [isResolved]
          exact List.mem_cons_of_mem _ named
      all_goals first | cases noInvite | cases member

/-- A step of the handler that calls the manager does nothing that it has not announced. -/
theorem respond_effect {s : CallManager} (coherent : Coherent s) {now : Instant}
    {step : HandlerStep} {op : Operation} (isOp : step.operation client = some op)
    (fromCaller : op.FromCaller)
    (rings : (s.next ⟨op, order, now⟩).ringsFor client call target = true) :
    (stepEffect step).apply call target (s.ringsFor client call target) = true := by
  have before := next_ringsFor coherent (fromCaller : (⟨op, order, now⟩ : Request).op.FromCaller)
    rings
  cases step with
  | dropTarget callId dropped reason =>
      cases isOp
      rcases before with was | ⟨_, _, ⟨⟩⟩
      simp only [stepEffect, HandlerStep.invite, InvitationEffect.apply, was, Bool.true_and,
        Bool.not_eq_true', Bool.and_eq_false_iff, decide_eq_false_iff_not]
      by_contra same
      rw [not_or, not_not, not_not] at same
      obtain ⟨rfl, rfl⟩ := same
      have silent := dropTarget_ringsFor s order callId client dropped reason
      exact Bool.false_ne_true (silent.symm.trans rings)
  | endCall callId =>
      cases isOp
      rcases before with was | ⟨_, _, ⟨⟩⟩
      simp only [stepEffect, HandlerStep.invite, InvitationEffect.apply, was, Bool.true_and,
        Bool.not_eq_true', decide_eq_false_iff_not]
      rintro rfl
      have silent := endCall_ringsFor coherent order callId client target
      exact Bool.false_ne_true (silent.symm.trans rings)
  | attemptCall progress =>
      cases isResolved : progress.resolvedTargets with
      | nil => simp [HandlerStep.operation, isResolved] at isOp
      | cons pair remaining =>
          rcases before with was | ⟨source, notified, isAttempt⟩
          · rw [was]
            simp [stepEffect, HandlerStep.invite, InvitationEffect.apply]
          · simp only [HandlerStep.operation, isResolved, Option.some.injEq] at isOp
            subst isOp
            cases isAttempt
            apply apply_of_invites
            exact ⟨progress, rfl, rfl, by simp [isResolved]⟩
  | acceptCall | failRingingRecipient | rejectCall | callError | reportLinkFailure =>
      cases isOp
      rcases before with was | ⟨_, _, ⟨⟩⟩
      exact was
  | send | checkInvite | announceInvite | sendCallState => cases isOp

/-- Whatever the handler does next, it has announced. -/
theorem perform_effect {s : CallManager} (coherent : Coherent s) {now : Instant}
    {step : HandlerStep}
    (fromClient : ∀ progress, step.invite = some progress → progress.FromClient client)
    (applied : ((step.perform order now s client).2.map stepEffect).foldl
      (InvitationEffect.apply call target)
      ((step.perform order now s client).1.ringsFor client call target) = true) :
    (stepEffect step).apply call target (s.ringsFor client call target) = true := by
  unfold HandlerStep.perform at applied
  split at applied
  · rename_i noOperation
    rcases foldl_stepEffect_cases applied with before | ⟨next, member, invites⟩
    · -- only steps that call the manager silence a target
      have same : (s.ringsFor client call target) = true := before
      cases step with
      | checkInvite | attemptCall =>
          simp [stepEffect, HandlerStep.invite, InvitationEffect.apply, same]
      | send | announceInvite | sendCallState => exact same
      | _ => cases noOperation
    · exact apply_of_invites (invites_read member invites) _
  · rename_i op isOp
    rcases foldl_stepEffect_cases applied with rings | ⟨next, member, invites⟩
    · exact respond_effect coherent isOp (operation_fromCaller fromClient isOp) rings
    · exact apply_of_invites (invites_respond member invites) _

/-- A message that is not an invite makes nothing ring. -/
theorem messageEffect_quiet {message : ClientMessage}
    (noInvite : ∀ invite, message ≠ .callInvite invite)
    (applied : (messageEffect client message).apply call target rings = true) : rings = true := by
  cases message with
  | callInvite invite => exact absurd rfl (noInvite invite)
  | callDropTarget callId dropped reason => exact (Bool.and_eq_true _ _ ▸ applied).1
  | callEnd ended =>
      simp only [messageEffect] at applied
      split at applied
      · exact (Bool.and_eq_true _ _ ▸ applied).1
      · exact applied
  | callAccept | callReject | callError => exact applied

/-- A message does nothing but what it asks for. -/
theorem handleMessage_effect {covering : CallTarget → Finset ClientId}
    {rejection : Option CallInviteRejection} {message : ClientMessage}
    (applied : ((handleMessage order covering rejection client message).map stepEffect).foldl
      (InvitationEffect.apply call target) rings = true) :
    (messageEffect client message).apply call target rings = true := by
  cases message with
  | callInvite invite =>
      rcases foldl_stepEffect_cases applied with before | ⟨step, member, invites⟩
      · simp [messageEffect, InvitationEffect.apply, before]
      · obtain ⟨progress, isInvite, isCall, named⟩ := invites
        simp only [handleMessage, handleCallInvite] at member
        split at member
        · simp_all [HandlerStep.sendCallError, HandlerStep.invite]
        · split at member
          · simp_all [HandlerStep.sendCallError, HandlerStep.invite]
          · split at member
            · simp_all [HandlerStep.sendCallError, HandlerStep.invite]
            · rw [List.mem_singleton] at member
              subst member
              cases isInvite
              -- the targets with somebody to ring are among those that were asked for
              obtain ⟨pair, isPair, rfl⟩ := List.mem_map.mp named
              obtain ⟨asked, isAsked, rfl⟩ := List.mem_map.mp (List.mem_filter.mp isPair).1
              rw [Enumeration.mem_list] at isAsked
              simp only [messageEffect, InvitationEffect.apply, Bool.or_eq_true, Bool.and_eq_true,
                decide_eq_true_eq]
              exact Or.inr ⟨isCall, isAsked⟩
  | callDropTarget callId dropped reason => exact applied
  | callEnd ended =>
      simp only [handleMessage] at applied
      simp only [messageEffect]
      split at applied
      · rename_i mismatch
        rw [if_neg mismatch]
        exact applied
      · rename_i isClient
        rw [if_pos (not_not.mp isClient)]
        exact applied
  | callAccept callId accepting =>
      simp only [handleMessage] at applied
      split at applied <;> exact applied
  | callReject callId rejecting reason =>
      simp only [handleMessage] at applied
      split at applied <;> exact applied
  | callError error =>
      have quiet : ∀ step ∈ handleMessage order covering rejection client (.callError error),
          ¬ Invites call target step := by
        rintro step member ⟨progress, isInvite, -⟩
        simp only [handleMessage, handleCallError] at member
        repeat' split at member
        all_goals simp_all [HandlerStep.sendCallError, HandlerStep.invite]
      rcases foldl_stepEffect_cases applied with before | ⟨step, member, invites⟩
      · exact before
      · exact absurd invites (quiet step member)

end Handler

/-- What another client's handler does makes nothing ring for the client. -/
theorem perform_other {s : CallManager} (coherent : Coherent s) {order : Iteration}
    {now : Instant} {client other : ClientId} (differs : other ≠ client) {step : HandlerStep}
    (fromClient : ∀ progress, step.invite = some progress → progress.FromClient other)
    {call : CallId} {target : CallTarget}
    (rings : (step.perform order now s other).1.ringsFor client call target = true) :
    s.ringsFor client call target = true := by
  rcases perform_ringsFor coherent fromClient rings with before | ⟨isOwn, -⟩
  · exact before
  · exact absurd isOwn differs

/-! ## What the server does -/

namespace ClientServer

variable {state : ClientServer} {call : CallId} {target : CallTarget}

/-- Whether a target may ring once the handler of the client is done. -/
def announced (server : CallServer) (client : ClientId) (call : CallId) (target : CallTarget) :
    Bool :=
  (((server.handlers.lookup client).getD []).map stepEffect).foldl
    (InvitationEffect.apply call target) (server.calls.ringsFor client call target)

theorem mayRing_eq (state : ClientServer) (call : CallId) (target : CallTarget) :
    state.mayRing call target =
      (state.inbound.map (messageEffect state.app.clientId)).foldl
        (InvitationEffect.apply call target)
        (announced state.server state.app.clientId call target) := by
  rw [mayRing, effects, List.foldl_append]
  rfl

/-- A server in which at most the same may ring. -/
theorem mayRing_of_announced {server : CallServer}
    (quiet : announced server state.app.clientId call target = true →
      announced state.server state.app.clientId call target = true)
    (rings : ClientServer.mayRing { state with server := server } call target = true) :
    state.mayRing call target = true := by
  rw [mayRing_eq] at rings ⊢
  exact InvitationEffect.foldl_mono _ quiet rings

theorem announced_congr {before after : CallServer} {client : ClientId}
    (handlers : after.handlers.lookup client = before.handlers.lookup client)
    (calls : after.calls.ringsFor client call target = true →
      before.calls.ringsFor client call target = true)
    (rings : announced after client call target = true) :
    announced before client call target = true := by
  unfold announced at rings ⊢
  rw [handlers] at rings
  exact InvitationEffect.foldl_mono _ calls rings

/-- What the session forwards is no news to the server. -/
theorem announced_deliver {server next : CallServer} {client other : ClientId} {order : Iteration}
    (steps : server.step (.deliver other order) = some next)
    (rings : announced next client call target = true) :
    announced server client call target = true := by
  simp only [CallServer.step] at steps
  split at steps
  · cases steps
  · cases steps
    refine announced_congr ?_ ?_ rings
    · rfl
    · exact id

/-- No move of the server makes a target ring that the client has not asked for. -/
theorem announced_step {server next : CallServer} (orderly : server.Orderly) {client : ClientId}
    {move : ServerMove} (avoids : move.avoids client = true)
    (steps : server.step move = some next) (rings : announced next client call target = true) :
    announced server client call target = true := by
  cases move with
  | receive other message covering rejection order =>
      have differs : client ≠ other := (of_decide_eq_true avoids).symm
      simp only [CallServer.step] at steps
      split at steps
      · cases steps
      · cases steps
        refine announced_congr ?_ ?_ rings
        · exact Finmap.lookup_insert_of_ne _ differs
        · exact id
  | deliver other order => exact announced_deliver steps rings
  | proceed other order now =>
      rcases CallServer.proceed_cases steps with ⟨found, rfl⟩ |
        ⟨recipient, message, remaining, found, rfl⟩ | ⟨first, remaining, logs, found, rfl⟩
      · by_cases same : client = other
        · subst same
          unfold announced at rings ⊢
          simp only [Finmap.lookup_erase, Option.getD_none, List.map_nil, List.foldl_nil] at rings
          simp only [found, Option.getD_some, List.map_nil, List.foldl_nil]
          exact rings
        · refine announced_congr ?_ ?_ rings
          · exact Finmap.lookup_erase_ne same
          · exact id
      · by_cases same : client = other
        · subst same
          unfold announced at rings ⊢
          simp only [Finmap.lookup_insert, Option.getD_some] at rings
          simp only [found, Option.getD_some, List.map_cons, List.foldl_cons]
          exact rings
        · refine announced_congr ?_ ?_ rings
          · exact Finmap.lookup_insert_of_ne _ same
          · exact id
      · have own := orderly.fromClient other _ found first (List.mem_cons_self ..)
        by_cases same : client = other
        · subst same
          unfold announced at rings ⊢
          simp only [Finmap.lookup_insert, Option.getD_some, List.map_append,
            List.foldl_append] at rings
          simp only [found, Option.getD_some, List.map_cons, List.foldl_cons]
          exact InvitationEffect.foldl_mono _ (perform_effect orderly.coherent own) rings
        · refine announced_congr ?_ ?_ rings
          · exact Finmap.lookup_insert_of_ne _ same
          · exact perform_other orderly.coherent (Ne.symm same) own

theorem announced_disconnect {server : CallServer} (orderly : server.Orderly)
    {client leaving : ClientId} (differs : leaving ≠ client) {order : Iteration}
    (rings : announced (server.disconnect leaving order) client call target = true) :
    announced server client call target = true := by
  refine announced_congr (Finmap.lookup_insert_of_ne _ differs.symm) ?_ rings
  intro ringsNow
  have fromCaller : (⟨.cleanupClientCalls leaving, order, 0⟩ : Request).op.FromCaller := trivial
  rcases next_ringsFor orderly.coherent fromCaller ringsNow with before | ⟨_, _, ⟨⟩⟩
  exact before

/-- The session takes up a message of the client. -/
theorem mayRing_takeUp {server : CallServer} {message : ClientMessage}
    {rest : List ClientMessage} {covering : CallTarget → Finset ClientId}
    {rejection : Option CallInviteRejection} {order : Iteration}
    (waiting : state.inbound = message :: rest)
    (steps : state.server.step
      (.receive state.app.clientId message covering rejection order) = some server)
    (rings : ClientServer.mayRing { state with server := server, inbound := rest } call target =
      true) :
    state.mayRing call target = true := by
  rw [mayRing_eq] at rings ⊢
  rw [waiting, List.map_cons, List.foldl_cons]
  refine InvitationEffect.foldl_mono _ ?_ rings
  intro announcedNext
  simp only [CallServer.step] at steps
  split at steps
  · cases steps
  · rename_i idle
    have absent : state.server.handlers.lookup state.app.clientId = none :=
      Finmap.lookup_eq_none.mpr (by rwa [Finmap.mem_keys] at idle)
    cases steps
    unfold announced at announcedNext ⊢
    simp only [Finmap.lookup_insert, Option.getD_some] at announcedNext
    simp only [absent, Option.getD_none, List.map_nil, List.foldl_nil]
    exact handleMessage_effect announcedNext

end ClientServer

end App

end Vacs
