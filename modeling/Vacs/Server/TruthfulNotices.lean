import Vacs.Server.TargetNotices

/-!
# The server does not lie about targets

A target that the server gives up in a message to a client does not ring for this client, as long
as the message is on its way (`Truthful`), if nothing makes the target ring meanwhile. Only a step
of the client's own invite does that (`perform_ringsFor`).

The session refreshes an update before it forwards it. A target that rings then is not among
those whom the update shows as joined, and the update shows that somebody is invited
(`refreshCallUpdate_truthful`).
-/

set_option autoImplicit false

namespace Vacs

open CallManager

/-! ## Ringing targets -/

/-- Only the handler of a client makes a target ring for it that did not, with a step of an invite
that names the target. -/
theorem perform_ringsFor {order : Iteration} {now : Instant} {s : CallManager}
    (coherent : Coherent s) {client acting : ClientId} {step : HandlerStep}
    (fromClient : ∀ progress, step.invite = some progress → progress.FromClient acting)
    {call : CallId} {target : CallTarget}
    (rings : (step.perform order now s acting).1.ringsFor client call target = true) :
    s.ringsFor client call target = true ∨
      acting = client ∧ ∃ targets, step.unfinished = some (call, targets) ∧ target ∈ targets := by
  unfold HandlerStep.perform at rings
  split at rings
  · exact Or.inl rings
  · rename_i op isOp
    have fromCaller := operation_fromCaller fromClient isOp
    rcases next_ringsFor coherent (fromCaller : (⟨op, order, now⟩ : Request).op.FromCaller) rings
      with before | ⟨source, notified, isAttempt⟩
    · exact Or.inl before
    · have isAttempt : op = .attemptCall call client source target notified := isAttempt
      subst isAttempt
      cases step with
      | attemptCall progress =>
          cases isResolved : progress.resolvedTargets with
          | nil => simp [HandlerStep.operation, isResolved] at isOp
          | cons pair remaining =>
              simp only [HandlerStep.operation, isResolved, Option.some.injEq] at isOp
              cases isOp
              refine Or.inr ⟨rfl, _, rfl, Finset.mem_union_right _ ?_⟩
              rw [List.mem_toFinset, isResolved]
              exact List.mem_cons_self
      | _ => cases isOp

/-! ## Handlers in order -/

/-- Every target of an invite has somebody to ring, and a failed call is not blamed on a target. -/
structure HandlerStep.Tidy (step : HandlerStep) : Prop where
  rung : ∀ progress, step.invite = some progress →
    ∀ pair ∈ progress.resolvedTargets, pair.2.Nonempty
  unnamed : ∀ callId reason, step = .callError callId reason → reason.targets = ∅

theorem HandlerStep.Tidy.send (recipientId : ClientId) (message : ServerMessage) :
    (HandlerStep.send recipientId message).Tidy where
  rung _ isInvite := by cases isInvite
  unnamed _ _ isError := by cases isError

theorem HandlerStep.Followed.tidy {clientId : ClientId} {s s' : CallManager}
    {step next : HandlerStep} (tidy : step.Tidy) (followed : step.Followed clientId s s' next) :
    next.Tidy := by
  cases followed with
  | sends => exact .send _ _
  | @invites progress earlier isInvite fewer =>
      constructor
      · rintro _ ⟨⟩ pair member
        exact tidy.rung earlier isInvite pair (fewer member)
      · intro _ _ isError
        cases isError
  | announces | fails | reads =>
      constructor
      · intro _ isInvite
        cases isInvite
      · intro _ _ isError
        cases isError

theorem handleCallError_tidy (clientId : ClientId) (error : CallError) :
    ∀ step ∈ handleCallError clientId error, step.Tidy := by
  have failed : error.reason.targets = ∅ → (HandlerStep.callError error.callId error.reason).Tidy := by
    intro unnamed
    constructor
    · intro _ isInvite
      cases isInvite
    · rintro _ _ ⟨⟩
      exact unnamed
  have own : ∀ failing, error.reason.targets = ∅ → ∀ step ∈
      (if clientId ≠ failing then
        [HandlerStep.sendCallError clientId error.callId .other
          (some "Erroring client ID mismatch")]
      else [.callError error.callId error.reason]), HandlerStep.Tidy step := by
    intro failing unnamed step member
    split at member
    · rw [List.mem_singleton.mp member]
      exact .send _ _
    · rw [List.mem_singleton.mp member]
      exact failed unnamed
  intro step member
  obtain ⟨callId, reason, message⟩ := error
  cases reason with
  | webrtcFailure failing | audioFailure failing | signalingFailure failing =>
      exact own failing rfl step member
  | callFailure | other =>
      rw [List.mem_singleton.mp member]
      exact failed rfl
  | peerConnectionFailed peerId =>
      rw [List.mem_singleton.mp member]
      constructor
      · intro _ isInvite
        cases isInvite
      · intro _ _ isError
        cases isError
  | _ => cases member

theorem handleMessage_tidy (order : Iteration) (covering : CallTarget → Finset ClientId)
    (rejection : Option CallInviteRejection) (clientId : ClientId) (message : ClientMessage) :
    ∀ step ∈ handleMessage order covering rejection clientId message, step.Tidy := by
  have other : ∀ {step : HandlerStep}, step.invite = none →
      (∀ callId reason, step ≠ .callError callId reason) → step.Tidy := by
    intro step noInvite noError
    constructor
    · intro progress isInvite
      rw [noInvite] at isInvite
      cases isInvite
    · intro callId reason isError
      exact absurd isError (noError callId reason)
  intro step member
  cases message with
  | callInvite invite =>
      simp only [handleMessage, handleCallInvite] at member
      split at member
      · rw [List.mem_singleton.mp member]
        exact .send _ _
      · split at member
        · rw [List.mem_singleton.mp member]
          exact .send _ _
        · split at member
          · rw [List.mem_singleton.mp member]
            exact .send _ _
          · rw [List.mem_singleton] at member
            subst member
            constructor
            · rintro _ ⟨⟩ pair isPair
              exact Finset.nonempty_iff_ne_empty.mpr
                (of_decide_eq_true (List.mem_filter.mp isPair).2)
            · intro _ _ isError
              cases isError
  | callError error => exact handleCallError_tidy clientId error step member
  | callDropTarget callId target reason =>
      rw [List.mem_singleton.mp member]
      exact other rfl (by simp)
  | callAccept | callReject | callEnd =>
      simp only [handleMessage] at member
      split at member
      · rw [List.mem_singleton.mp member]
        exact .send _ _
      · rw [List.mem_singleton.mp member]
        exact other rfl (by simp)

namespace CallServer

/-- The calls are coherent, every target that rings is unanswered, and the handlers are in
order. -/
structure Settled (state : CallServer) : Prop where
  orderly : state.Orderly
  unanswered : ∀ call, (state.calls.call call).Unanswered
  tidy : ∀ client steps, state.handlers.lookup client = some steps → ∀ step ∈ steps, step.Tidy

theorem settled_start (maxConfSize : ℕ) : (start maxConfSize).Settled where
  orderly := orderly_start maxConfSize
  unanswered _ := .none none
  tidy client steps found := by simp [start] at found

theorem operation_fromHandler {client : ClientId} {step : HandlerStep} {op : Operation}
    (fromClient : ∀ progress, step.invite = some progress → progress.FromClient client)
    (tidy : step.Tidy) (isOp : step.operation client = some op) : op.FromHandler := by
  cases step with
  | attemptCall progress =>
      cases isResolved : progress.resolvedTargets with
      | nil => simp [HandlerStep.operation, isResolved] at isOp
      | cons pair remaining =>
          have first : pair ∈ progress.resolvedTargets := by
            rw [isResolved]
            exact List.mem_cons_self
          obtain ⟨isSource, others⟩ := fromClient progress rfl
          simp only [HandlerStep.operation, isResolved, Option.some.injEq] at isOp
          subst isOp
          exact ⟨isSource, others pair first, tidy.rung progress rfl pair first⟩
  | send | checkInvite | announceInvite | sendCallState => cases isOp
  | _ =>
      cases isOp
      trivial

variable {state next : CallServer} {client : ClientId}

theorem Settled.step (settled : state.Settled) (steps : Steps state next) : next.Settled := by
  -- what a handler still has to do changes for one client at a time
  have replaced : ∀ {acting : ClientId} {after : List HandlerStep},
      (∀ step ∈ after, step.Tidy) →
      ∀ other pending, (state.handlers.insert acting after).lookup other = some pending →
        ∀ step ∈ pending, step.Tidy := by
    intro acting after holds other pending found
    rw [Finmap.lookup_insert_eq] at found
    split at found
    · cases found
      exact holds
    · exact settled.tidy other pending found
  refine ⟨settled.orderly.step steps, ?_, ?_⟩
  · cases steps with
    | @perform acting order now step remaining found notSend =>
        have first : step ∈ step :: remaining := List.mem_cons_self
        have fromClient := settled.orderly.fromClient acting _ found step first
        have tidy := settled.tidy acting _ found step first
        unfold HandlerStep.perform
        split
        · exact settled.unanswered
        · rename_i op isOp
          have fromHandler : (⟨op, order, now⟩ : Request).op.FromHandler :=
            operation_fromHandler fromClient tidy isOp
          exact next_unanswered settled.orderly.coherent fromHandler settled.unanswered
    | _ => exact settled.unanswered
  · cases steps with
    | receive message covering rejection order idle =>
        exact replaced (handleMessage_tidy order covering rejection _ message)
    | @finish acting found =>
        intro other pending isPending
        rw [Finmap.lookup_erase_eq] at isPending
        split at isPending
        · cases isPending
        · exact settled.tidy other pending isPending
    | send found =>
        refine replaced fun step member => ?_
        exact settled.tidy _ _ found step (List.mem_cons_of_mem _ member)
    | @perform acting order now step remaining found notSend =>
        have tidy := settled.tidy acting _ found
        refine replaced fun following member => ?_
        rcases List.mem_append.mp member with answered | later
        · have first := tidy step List.mem_cons_self
          exact (perform_followed order now state.calls acting first.unnamed following
            answered).tidy first
        · exact tidy following (List.mem_cons_of_mem _ later)
    | deliver => exact settled.tidy

/-! ## What is on its way is true -/

/-- A target that a message on its way to the client gives up does not ring for the client. -/
def Truthful (state : CallServer) (client : ClientId) : Prop :=
  ∀ message, state.Underway client message → ∀ call target,
    message.givesUp call target = true → state.calls.ringsFor client call target = false

/-- No unfinished invite of the client is about a target that rings for it, or that a message on
its way to it gives up. -/
def Uncrossed (state : CallServer) (client : ClientId) : Prop :=
  ∀ steps, state.handlers.lookup client = some steps → ∀ step ∈ steps, ∀ call targets,
    step.unfinished = some (call, targets) → ∀ target ∈ targets,
      state.calls.ringsFor client call target = false ∧
        ∀ message, state.Underway client message → message.givesUp call target = false

/-- What is on its way afterwards was so before, or the handler has just begun to send it. -/
theorem underway_of_insert (state : CallServer) {next : CallServer} {client acting : ClientId}
    {after : List HandlerStep} {message : ServerMessage}
    (underway : next.Underway client message)
    (handlers : next.handlers = state.handlers.insert acting after)
    (queue : next.queue client = state.queue client) :
    state.Underway client message ∨ .send client message ∈ after := by
  rcases underway with waits | ⟨other, pending, found, member⟩
  · rw [queue] at waits
    exact Or.inl (Or.inl waits)
  · rw [handlers, Finmap.lookup_insert_eq] at found
    split at found
    · cases found
      exact Or.inr member
    · exact Or.inl (Or.inr ⟨other, pending, found, member⟩)

/-- A handler gives up targets of the message that it handles only, and tells only the client. -/
theorem handleMessage_givesUp {order : Iteration} {covering : CallTarget → Finset ClientId}
    {rejection : Option CallInviteRejection} {acting recipient : ClientId}
    {received : ClientMessage} {message : ServerMessage}
    (member : .send recipient message ∈ handleMessage order covering rejection acting received)
    {call : CallId} {target : CallTarget} (givesUp : message.givesUp call target = true) :
    recipient = acting ∧ ∃ targets, received.invited = some (call, targets) ∧ target ∈ targets := by
  cases received with
  | callInvite invite =>
      simp only [handleMessage, handleCallInvite] at member
      split at member
      · cases List.mem_singleton.mp member
        simp [ServerMessage.givesUp, CallErrorReason.targets] at givesUp
      · split at member
        · cases List.mem_singleton.mp member
          simp [ServerMessage.givesUp, CallErrorReason.targets] at givesUp
        · split at member
          · cases List.mem_singleton.mp member
            simp only [ServerMessage.givesUp, CallErrorReason.targets, Finset.mem_filter,
              Bool.and_eq_true, decide_eq_true_eq] at givesUp
            obtain ⟨isCall, named, -⟩ := givesUp
            exact ⟨rfl, invite.targets, by rw [ClientMessage.invited, isCall], named⟩
          · cases List.mem_singleton.mp member
  | callError error =>
      simp only [handleMessage, handleCallError] at member
      repeat' split at member
      all_goals simp_all [HandlerStep.sendCallError, ServerMessage.givesUp,
        CallErrorReason.targets]
  | callDropTarget callId dropped reason => cases List.mem_singleton.mp member
  | callAccept | callReject | callEnd =>
      simp only [handleMessage] at member
      split at member
      · cases List.mem_singleton.mp member
        simp [ServerMessage.givesUp, CallErrorReason.targets] at givesUp
      · cases List.mem_singleton.mp member

/-- The server takes up a message. If it is an invite of the client, none of the targets rings
for the client. -/
theorem Truthful.receive (truthful : state.Truthful client) {acting : ClientId}
    {received : ClientMessage} (covering : CallTarget → Finset ClientId)
    (rejection : Option CallInviteRejection) (order : Iteration)
    (uncrossed : acting = client → ∀ call targets, received.invited = some (call, targets) →
      ∀ target ∈ targets, state.calls.ringsFor client call target = false) :
    Truthful { state with
      handlers := state.handlers.insert acting
        (handleMessage order covering rejection acting received) } client := by
  intro message underway call target givesUp
  rcases underway_of_insert state underway rfl rfl with before | born
  · exact truthful message before call target givesUp
  · obtain ⟨isActing, targets, isInvite, named⟩ := handleMessage_givesUp born givesUp
    exact uncrossed isActing.symm call targets isInvite target named

theorem Truthful.finish (truthful : state.Truthful client) {acting : ClientId} :
    Truthful { state with handlers := state.handlers.erase acting } client := by
  intro message underway
  refine truthful message ?_
  rcases underway with waits | ⟨other, pending, found, member⟩
  · exact Or.inl waits
  · rw [Finmap.lookup_erase_eq] at found
    split at found
    · cases found
    · exact Or.inr ⟨other, pending, found, member⟩

theorem Truthful.send (truthful : state.Truthful client) {acting recipient : ClientId}
    {sent : ServerMessage} {remaining : List HandlerStep}
    (found : state.handlers.lookup acting = some (.send recipient sent :: remaining)) :
    Truthful { state with
      handlers := state.handlers.insert acting remaining
      queues := state.queues.insert recipient (state.queue recipient ++ [sent]) } client := by
  intro message underway
  refine truthful message ?_
  rcases underway with waits | ⟨other, pending, isPending, member⟩
  · rw [queue_insert rfl] at waits
    split at waits
    · rename_i same
      subst same
      rcases List.mem_append.mp waits with before | isSent
      · exact Or.inl before
      · rw [List.mem_singleton.mp isSent]
        exact Or.inr ⟨acting, _, found, List.mem_cons_self⟩
    · exact Or.inl waits
  · rw [Finmap.lookup_insert_eq] at isPending
    split at isPending
    · cases isPending
      exact Or.inr ⟨acting, _, found, List.mem_cons_of_mem _ member⟩
    · exact Or.inr ⟨other, pending, isPending, member⟩

theorem Truthful.deliver (truthful : state.Truthful client) {other : ClientId}
    {delivered : ServerMessage} {rest : List ServerMessage}
    (found : state.queue other = delivered :: rest)
    (logs : ClientId → List ClientEvent) :
    Truthful { state with queues := state.queues.insert other rest, logs := logs } client := by
  intro message underway
  refine truthful message ?_
  rcases underway with waits | sending
  · rw [queue_insert rfl] at waits
    split at waits
    · rename_i same
      subst same
      rw [Underway, found]
      exact Or.inl (List.mem_cons_of_mem _ waits)
    · exact Or.inl waits
  · exact Or.inr sending

/-- A handler takes a step. -/
theorem Truthful.perform (truthful : state.Truthful client) (settled : state.Settled)
    (uncrossed : state.Uncrossed client) {acting : ClientId} (order : Iteration) (now : Instant)
    {step : HandlerStep} {remaining : List HandlerStep}
    (found : state.handlers.lookup acting = some (step :: remaining))
    (logs : ClientId → List ClientEvent) :
    Truthful { state with
      calls := (step.perform order now state.calls acting).1
      handlers := state.handlers.insert acting
        ((step.perform order now state.calls acting).2 ++ remaining)
      logs := logs } client := by
  have first : step ∈ step :: remaining := List.mem_cons_self
  have fromClient := settled.orderly.fromClient acting _ found step first
  have unnamed := (settled.tidy acting _ found step first).unnamed
  intro message underway call target givesUp
  have earlier : state.Underway client message ∨
      .send client message ∈ (step.perform order now state.calls acting).2 := by
    rcases underway_of_insert state underway rfl rfl with before | sends
    · exact Or.inl before
    · rcases List.mem_append.mp sends with born | later
      · exact Or.inr born
      · exact Or.inl (Or.inr ⟨acting, _, found, List.mem_cons_of_mem _ later⟩)
  rcases earlier with before | born
  · rw [← Bool.not_eq_true]
    intro rings
    rcases perform_ringsFor settled.orderly.coherent fromClient rings with rang |
      ⟨rfl, targets, isUnfinished, named⟩
    · exact Bool.false_ne_true ((truthful message before call target givesUp).symm.trans rang)
    · have quiet := (uncrossed _ found step first call targets isUnfinished target named).2
      exact Bool.false_ne_true ((quiet message before).symm.trans givesUp)
  · have followed := perform_followed order now state.calls acting unnamed _ born
    cases followed with
    | sends truthfully =>
        rcases truthfully call target givesUp with silent |
          ⟨rfl, unchanged, targets, isUnfinished, named⟩
        · exact silent
        · have silent :=
            (uncrossed _ found step first call targets isUnfinished target named).1
          exact (congrArg (fun s => s.ringsFor client call target) unchanged).trans silent

/-! ## Handlers that go on -/

/-- The handler of a client has finished, sends a message, or takes another step. -/
theorem proceed_cases {acting : ClientId} {order : Iteration} {now : Instant}
    (steps : state.step (.proceed acting order now) = some next) :
    (state.handlers.lookup acting = some [] ∧
        next = { state with handlers := state.handlers.erase acting }) ∨
      (∃ recipient message remaining,
        state.handlers.lookup acting = some (.send recipient message :: remaining) ∧
        next = { state with
          handlers := state.handlers.insert acting remaining
          queues := state.queues.insert recipient (state.queue recipient ++ [message]) }) ∨
      ∃ step remaining logs, state.handlers.lookup acting = some (step :: remaining) ∧
        next = { state with
          calls := (step.perform order now state.calls acting).1
          handlers := state.handlers.insert acting
            ((step.perform order now state.calls acting).2 ++ remaining)
          logs := logs } := by
  obtain ⟨pending, found, isNext⟩ := Option.map_eq_some_iff.mp steps
  subst isNext
  cases pending with
  | nil => exact Or.inl ⟨found, rfl⟩
  | cons first remaining =>
      right
      by_cases isSend : ∃ recipient message, first = .send recipient message
      · obtain ⟨recipient, message, rfl⟩ := isSend
        exact Or.inl ⟨recipient, message, remaining, found, rfl⟩
      · have notSend : ∀ recipient message, first ≠ .send recipient message :=
          fun recipient message same => isSend ⟨recipient, message, same⟩
        exact Or.inr ⟨first, remaining, _, found, carryOut_of_notSend notSend⟩

theorem Truthful.proceed (truthful : state.Truthful client) (settled : state.Settled)
    (uncrossed : state.Uncrossed client) {acting : ClientId} {order : Iteration} {now : Instant}
    (steps : state.step (.proceed acting order now) = some next) : next.Truthful client := by
  rcases proceed_cases steps with ⟨-, rfl⟩ | ⟨recipient, message, remaining, found, rfl⟩ |
    ⟨step, remaining, logs, found, rfl⟩
  · exact truthful.finish
  · exact truthful.send found
  · exact truthful.perform settled uncrossed order now found logs

/-- What rings after a step of a handler rang before, or the client had an unfinished invite of
it. -/
theorem proceed_ringsFor (orderly : state.Orderly) {acting : ClientId} {order : Iteration}
    {now : Instant} (steps : state.step (.proceed acting order now) = some next) {call : CallId}
    {target : CallTarget} (rings : next.calls.ringsFor client call target = true) :
    state.calls.ringsFor client call target = true ∨ ∃ pending, ∃ step ∈ pending, ∃ targets,
      state.handlers.lookup client = some pending ∧
        step.unfinished = some (call, targets) ∧ target ∈ targets := by
  rcases proceed_cases steps with ⟨-, rfl⟩ | ⟨recipient, message, remaining, found, rfl⟩ |
    ⟨step, remaining, logs, found, rfl⟩
  · exact Or.inl rings
  · exact Or.inl rings
  · have first : step ∈ step :: remaining := List.mem_cons_self
    have fromClient := orderly.fromClient acting _ found step first
    rcases perform_ringsFor orderly.coherent fromClient rings with rang |
      ⟨rfl, targets, isUnfinished, named⟩
    · exact Or.inl rang
    · exact Or.inr ⟨_, step, first, targets, found, isUnfinished, named⟩

/-! ## Updates that are forwarded -/

/-- What the session forwards settles no target that rings for the client. -/
theorem refreshCallUpdate_truthful (settled : state.Settled) (truthful : state.Truthful client)
    (order : Iteration) {message : ServerMessage} (underway : state.Underway client message)
    {call : CallId} {target : CallTarget}
    (settles : (refreshCallUpdate order state.calls client message).settles client call target =
      true) : state.calls.ringsFor client call target = false := by
  rw [← Bool.not_eq_true]
  intro rings
  obtain ⟨current, isCurrent, isCall, invites, notJoined⟩ :=
    ringsFor_visible settled.orderly.coherent (settled.unanswered call) order rings
  have plain : message.givesUp call target = false := by
    rw [← Bool.not_eq_true]
    intro givesUp
    have silent := truthful message underway call target givesUp
    exact Bool.false_ne_true (silent.symm.trans rings)
  cases message with
  | callUpdate update =>
      cases refreshed : state.calls.callStateForParty order update.callId client with
      | none =>
          simp only [refreshCallUpdate, refreshed, ServerMessage.settles, ServerMessage.givesUp,
            ServerMessage.showsAnswered, Bool.false_or, Bool.and_eq_true,
            decide_eq_true_eq] at settles
          rw [settles.1] at refreshed
          cases refreshed.symm.trans isCurrent
      | some shown =>
          have sameCall : shown.callId = update.callId := callStateForParty_callId refreshed
          simp only [refreshCallUpdate, refreshed, ServerMessage.settles, ServerMessage.givesUp,
            ServerMessage.showsAnswered, Bool.false_or, Bool.and_eq_true, Bool.or_eq_true,
            decide_eq_true_eq] at settles
          obtain ⟨isShown, shows⟩ := settles
          have isAsked : update.callId = call := sameCall.symm.trans isShown
          rw [isAsked, isCurrent] at refreshed
          cases refreshed
          exact shows.elim invites notJoined
  | callInvitation | callCancelled | callEnd | callError | rateLimited =>
      simp only [refreshCallUpdate, ServerMessage.settles, ServerMessage.showsAnswered,
        Bool.or_false] at settles
      exact Bool.false_ne_true (plain.symm.trans settles)

end CallServer

end Vacs
