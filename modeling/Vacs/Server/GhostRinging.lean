import Vacs.Server.Cancellations
import Vacs.Server.HandlerCoherence

/-!
# Ringing that nobody ends

A client rings from the invitation it receives until it answers, or until it is told
that the call was cancelled, has ended or has failed. An operation that stops a client
ringing is its own answer, or a cancellation is sent to it.

A handler sends its invitations after the operation that rings the clients has
released its locks, so the cancellation of another handler may be queued first. The
client then rings for a call that the server has forgotten (`answeredFirst_rings`).
Nothing like this happens in a run in which every invitation is queued in time
(`CallServer.Timely`).
-/

set_option autoImplicit false

namespace Vacs

open CallManager

/-! ## What a client believes -/

/-- The message tells its recipient to stop ringing for the call. -/
def ServerMessage.endsRinging (call : CallId) : ServerMessage → Bool
  | .callCancelled cancelled => decide (cancelled.callId = call)
  | .callEnd ended => decide (ended.callId = call)
  | .callError error => decide (error.callId = call)
  | _ => false

namespace ClientEvent

/-- The client is invited to the call, told to stop ringing for it, or answers. -/
def aboutRinging (call : CallId) : ClientEvent → Bool
  | .received (.callInvitation invitation) => decide (invitation.callId = call)
  | .received message => message.endsRinging call
  | .answered callId => decide (callId = call)
  | .joined _ => false

end ClientEvent

/-- The newest event about the ringing of a call, if any, is an invitation. -/
def believesRinging (call : CallId) (events : List ClientEvent) : Bool :=
  match events.find? (ClientEvent.aboutRinging call) with
  | some (.received (.callInvitation _)) => true
  | _ => false

theorem believesRinging_iff {call : CallId} {events : List ClientEvent} :
    believesRinging call events = true ↔ ∃ invitation,
      events.find? (ClientEvent.aboutRinging call) =
        some (.received (.callInvitation invitation)) := by
  unfold believesRinging
  split
  · rename_i invitation found
    exact ⟨fun _ => ⟨invitation, found⟩, fun _ => rfl⟩
  · rename_i notInvited
    refine ⟨nofun, ?_⟩
    rintro ⟨invitation, found⟩
    exact (notInvited invitation found).elim

theorem believesRinging_cons (call : CallId) (event : ClientEvent) (events : List ClientEvent) :
    believesRinging call (event :: events) =
      if event.aboutRinging call then believesRinging call [event]
      else believesRinging call events := by
  unfold believesRinging
  rw [List.find?_cons, List.find?_singleton]
  cases event.aboutRinging call <;> rfl

theorem believesRinging_append {call : CallId} {newer older : List ClientEvent}
    (believes : believesRinging call (newer ++ older) = true) :
    believesRinging call newer = true ∨
      ((∀ event ∈ newer, event.aboutRinging call = false) ∧
        believesRinging call older = true) := by
  induction newer with
  | nil => exact .inr ⟨nofun, believes⟩
  | cons event newer ih =>
      rw [List.cons_append, believesRinging_cons] at believes
      rw [believesRinging_cons]
      split at believes
      · exact .inl (by simp_all)
      · rename_i notAbout
        rcases ih believes with recent | ⟨silent, old⟩
        · exact .inl (by simp_all)
        · exact .inr ⟨by simp_all, old⟩

theorem believesRinging_skip {call : CallId} {newer : List ClientEvent} (older : List ClientEvent)
    (silent : ∀ event ∈ newer, event.aboutRinging call = false) :
    believesRinging call (newer ++ older) = believesRinging call older := by
  induction newer with
  | nil => rfl
  | cons event newer ih =>
      rw [List.cons_append, believesRinging_cons, if_neg (by simp [silent event])]
      exact ih fun later member => silent later (List.mem_cons_of_mem _ member)

theorem believesRinging_of_newer {call : CallId} {newer : List ClientEvent}
    (older : List ClientEvent) (believes : believesRinging call newer = true) :
    believesRinging call (newer ++ older) = true := by
  induction newer with
  | nil => cases believes
  | cons event newer ih =>
      rw [List.cons_append, believesRinging_cons]
      rw [believesRinging_cons] at believes
      split at believes
      · simp [*]
      · rw [if_neg (by assumption)]
        exact ih believes

namespace HandlerStep

/-- The step tells the client to stop ringing for the call. -/
def endsRinging (client : ClientId) (call : CallId) : HandlerStep → Bool
  | .send recipientId message => decide (recipientId = client) && message.endsRinging call
  | _ => false

end HandlerStep

namespace CallServer

/-- The server considers the client ringing for the call. -/
def Rings (state : CallServer) (client : ClientId) (call : CallId) : Bool :=
  (rungAs state.calls.clientIncomingCalls client call).isSome

/-- A handler in progress is going to tell the client to stop ringing for the call. -/
def Revoking (state : CallServer) (client : ClientId) (call : CallId) : Bool :=
  state.handlers.anyValue fun steps => steps.any (·.endsRinging client call)

/-- Everything that has happened to a client and everything that waits for it, the newest
first. -/
def stream (state : CallServer) (client : ClientId) : List ClientEvent :=
  (state.queue client).reverse.map .received ++ state.logs client

/-- A step is taken in time. An invitation is queued only while its recipient rings for the call
or is still going to be told to stop. A client that rings answers only if no invitation is
waiting for it, or it is still going to be told to stop. -/
def stepTimely (state : CallServer) (client : ClientId) : HandlerStep → Bool
  | .send recipientId (.callInvitation invitation) =>
      state.Rings recipientId invitation.callId || state.Revoking recipientId invitation.callId
  | step =>
      (step.operation client).all fun op => op.answers.all fun call =>
        !op.settles state.calls call || !state.Rings client call ||
          !believesRinging call ((state.queue client).reverse.map .received) ||
          state.Revoking client call

def Timely (state : CallServer) : ServerMove → Bool
  | .proceed clientId _ _ =>
      match state.handlers.lookup clientId with
      | some (step :: _) => state.stepTimely clientId step
      | _ => true
  | _ => true

/-- A client that believes to ring does ring, or is going to be told to stop. -/
def NoGhosts (state : CallServer) : Prop :=
  ∀ client call, believesRinging call (state.stream client) = true →
    state.Rings client call = true ∨ state.Revoking client call = true

theorem revoking_iff (state : CallServer) (client : ClientId) (call : CallId) :
    state.Revoking client call = true ↔
      ∃ message : ServerMessage, message.endsRinging call = true ∧
        state.Sending client message := by
  unfold Revoking
  rw [Finmap.anyValue_iff]
  constructor
  · rintro ⟨handler, steps, found, some⟩
    obtain ⟨step, member, ends⟩ := List.any_eq_true.mp some
    cases step with
    | send recipientId message =>
        simp only [HandlerStep.endsRinging, Bool.and_eq_true, decide_eq_true_eq] at ends
        obtain ⟨rfl, endsCall⟩ := ends
        exact ⟨message, endsCall, handler, steps, found, member⟩
    | _ => cases ends
  · rintro ⟨message, ends, handler, steps, found, member⟩
    refine ⟨handler, steps, found, List.any_eq_true.mpr ⟨_, member, ?_⟩⟩
    simp [HandlerStep.endsRinging, ends]

theorem Cancels.revoking {next : CallServer} {handlers : HashMap ClientId (List HandlerStep)}
    {handler client : ClientId} {call : CallId} {steps after : List HandlerStep}
    (cancels : Cancels steps client call) (isNext : next.handlers = handlers.insert handler after)
    (sent : ∀ step ∈ steps, step ∈ after) : next.Revoking client call = true := by
  obtain ⟨cancelled, isCall, member⟩ := cancels
  refine (revoking_iff next client call).mpr ⟨.callCancelled cancelled, ?_, ?_⟩
  · simp [ServerMessage.endsRinging, isCall]
  · exact sending_new isNext (sent _ member)

theorem aboutRinging_of_ends {call : CallId} {message : ServerMessage}
    (ends : message.endsRinging call = true) :
    ClientEvent.aboutRinging call (.received message) = true ∧
      believesRinging call [.received message] = false := by
  cases message with
  | callInvitation => cases ends
  | _ =>
      refine ⟨ends, ?_⟩
      simp only [believesRinging, List.find?_singleton]
      split <;> simp_all

/-- Only an invitation lets its recipient believe to ring. -/
theorem invitation_of_believes {call : CallId} {message : ServerMessage}
    (believes : believesRinging call [.received message] = true) :
    ∃ invitation, message = .callInvitation invitation ∧ invitation.callId = call := by
  obtain ⟨invitation, found⟩ := believesRinging_iff.mp believes
  have about := List.find?_some found
  have isMessage := List.mem_singleton.mp (List.mem_of_find?_eq_some found)
  cases isMessage
  exact ⟨invitation, rfl, of_decide_eq_true about⟩

/-- A client that believes to ring after a step, and was going to be told to stop before, still
is. -/
theorem Steps.revoking {state next : CallServer} (steps : Steps state next) {client : ClientId}
    {call : CallId} (believes : believesRinging call (next.stream client) = true)
    (revoking : state.Revoking client call = true) : next.Revoking client call = true := by
  obtain ⟨message, ends, sending⟩ := (revoking_iff state client call).mp revoking
  rcases steps.sending sending with still | ⟨queued, sameLogs⟩
  · exact (revoking_iff next client call).mpr ⟨message, ends, still⟩
  · -- The message is the newest thing the client hears of.
    obtain ⟨about, believesNot⟩ := aboutRinging_of_ends ends
    have isNewest : next.stream client = .received message :: state.stream client := by
      simp [stream, queued, sameLogs]
    rw [isNewest, believesRinging_cons, if_pos about, believesNot] at believes
    cases believes

/-- A step that changes neither what the server knows about ringing nor what the client believes. -/
theorem NoGhosts.kept {state next : CallServer} (noGhosts : state.NoGhosts)
    (steps : Steps state next) (calls : next.calls = state.calls) {client : ClientId}
    {call : CallId} (believes : believesRinging call (next.stream client) = true)
    (before : believesRinging call (state.stream client) = true) :
    next.Rings client call = true ∨ next.Revoking client call = true := by
  rcases noGhosts client call before with rings | revoking
  · left
    rw [Rings, calls]
    exact rings
  · exact .inr (steps.revoking believes revoking)

theorem stream_congr {state next : CallServer} {client : ClientId}
    (queue : next.queue client = state.queue client) (logs : next.logs client = state.logs client) :
    next.stream client = state.stream client := by
  rw [stream, stream, queue, logs]

/-- Sending a message adds it to the stream of its recipient. -/
theorem stream_send (state : CallServer) (handlers : HashMap ClientId (List HandlerStep))
    (recipient client : ClientId) (message : ServerMessage) :
    stream { state with
      handlers := handlers
      queues := state.queues.insert recipient (state.queue recipient ++ [message]) } client =
      if client = recipient then .received message :: state.stream client
      else state.stream client := by
  unfold stream
  rw [queue_insert rfl]
  split
  · rename_i same
    subst same
    simp
  · rfl

/-- Delivering a message changes nothing a client hears of its ringing. -/
theorem believesRinging_deliver (order : Iteration) (s : CallManager) (client : ClientId)
    (call : CallId) (message : ServerMessage) (newer older : List ClientEvent) :
    believesRinging call
        (newer ++ .received (refreshCallUpdate order s client message) :: older) =
      believesRinging call (newer ++ .received message :: older) := by
  induction newer with
  | nil =>
      cases message with
      | callUpdate update =>
          unfold refreshCallUpdate
          dsimp only
          split <;> rfl
      | _ => rfl
  | cons event newer ih =>
      rw [List.cons_append, List.cons_append, believesRinging_cons, ih, ← believesRinging_cons]

theorem events_aboutRinging {op : Operation} {before after : CallManager} {client : ClientId}
    {call : CallId} {event : ClientEvent} (member : event ∈ op.events before after client)
    (about : event.aboutRinging call = true) : event = .answered call := by
  rcases List.mem_append.mp member with joined | answered
  · obtain ⟨_, _, rfl⟩ := List.mem_map.mp joined
    cases about
  · split at answered
    · obtain ⟨callId, _, rfl⟩ := List.mem_map.mp answered
      rw [of_decide_eq_true about]
    · cases answered

/-- An operation never makes a client believe to ring. -/
theorem believesRinging_events {op : Operation} {before after : CallManager} {client : ClientId}
    {call : CallId} {older : List ClientEvent}
    (believes : believesRinging call (op.events before after client ++ older) = true) :
    (∀ event ∈ op.events before after client, event.aboutRinging call = false) ∧
      believesRinging call older = true := by
  refine (believesRinging_append believes).resolve_left fun invited => ?_
  obtain ⟨invitation, found⟩ := believesRinging_iff.mp invited
  have isAnswered := events_aboutRinging (List.mem_of_find?_eq_some found) (List.find?_some found)
  cases isAnswered

/-- A client that has just answered does not believe to ring. -/
theorem not_believes_of_answered {op : Operation} {before after : CallManager} {call : CallId}
    {older : List ClientEvent} (answers : op.answers = some call) :
    believesRinging call (op.events before after op.actor ++ older) = false := by
  rw [← Bool.not_eq_true]
  intro believes
  have silent := (believesRinging_events believes).1 (.answered call) ?_
  · simp [ClientEvent.aboutRinging] at silent
  · refine List.mem_append_right _ ?_
    simp [answers]

theorem operation_actor {client : ClientId} {step : HandlerStep} {op : Operation}
    (isOp : step.operation client = some op) : op.actor = client := by
  cases step with
  | attemptCall progress =>
      cases isResolved : progress.resolvedTargets with
      | nil => simp [HandlerStep.operation, isResolved] at isOp
      | cons pair remaining =>
          simp only [HandlerStep.operation, isResolved, Option.some.injEq] at isOp
          subst isOp
          rfl
  | send | checkInvite | announceInvite | sendCallState => cases isOp
  | _ =>
      cases isOp
      rfl

/-- A client that believes to ring after a step of a handler did so before. -/
theorem believesRinging_perform {state : CallServer} {handler : ClientId} {step : HandlerStep}
    {after : CallManager} {client : ClientId} {call : CallId}
    (believes : believesRinging call
      ((state.queue client).reverse.map .received ++ state.logged handler step after client) = true) :
    believesRinging call (state.stream client) = true := by
  unfold logged at believes
  split at believes
  · exact believes
  · rcases believesRinging_append believes with waiting | ⟨silent, older⟩
    · exact believesRinging_of_newer _ waiting
    · rw [stream, believesRinging_skip _ silent]
      exact (believesRinging_events older).2

theorem NoGhosts.perform {state : CallServer} (noGhosts : state.NoGhosts)
    (orderly : state.Orderly) {handler : ClientId} (order : Iteration) (now : Instant)
    {step : HandlerStep} {remaining : List HandlerStep}
    (found : state.handlers.lookup handler = some (step :: remaining))
    (notSend : ∀ recipientId message, step ≠ .send recipientId message)
    (timely : state.stepTimely handler step = true) :
    NoGhosts { state with
      calls := (step.perform order now state.calls handler).1
      handlers := state.handlers.insert handler
        ((step.perform order now state.calls handler).2 ++ remaining)
      logs := state.logged handler step (step.perform order now state.calls handler).1 } := by
  intro client call believes
  have steps := Steps.perform order now found notSend
  rcases noGhosts client call (believesRinging_perform believes) with rings | revoking
  · by_cases still : rungAs (step.perform order now state.calls handler).1.clientIncomingCalls
        client call = none
    · have silences : Silences state.calls (step.perform order now state.calls handler).1
          client call := ⟨Option.isSome_iff_ne_none.mp rings, still⟩
      rcases perform_silences orderly.coherent silences with
        ⟨rfl, op, isOp, settles⟩ | cancels
      · -- The client answered, so it believes to ring only if an invitation is waiting.
        have answers := Operation.answers_of_settles settles
        have waiting : believesRinging call ((state.queue client).reverse.map .received) = true := by
          refine (believesRinging_append believes).resolve_right ?_
          rintro ⟨_, older⟩
          simp only [logged, isOp] at older
          rw [← operation_actor isOp, not_believes_of_answered answers] at older
          cases older
        have revoking : state.Revoking client call = true := by
          unfold stepTimely at timely
          split at timely
          · exact absurd rfl (notSend _ _)
          · simpa only [isOp, answers, Option.all_some, settles, rings, waiting, Bool.not_true,
              Bool.false_or] using timely
        exact .inr (steps.revoking believes revoking)
      · exact .inr (Cancels.revoking cancels rfl fun _ member => List.mem_append_left _ member)
    · exact .inl (Option.isSome_iff_ne_none.mpr still)
  · exact .inr (steps.revoking believes revoking)

theorem NoGhosts.step {state next : CallServer} (noGhosts : state.NoGhosts)
    (orderly : state.Orderly) {move : ServerMove} (isNext : state.step move = some next)
    (timely : state.Timely move = true) : next.NoGhosts := by
  have steps := step_steps isNext
  cases move with
  | receive handler message covering rejection order =>
      simp only [CallServer.step] at isNext
      split at isNext
      · cases isNext
      · cases isNext
        exact fun client call believes => noGhosts.kept steps rfl believes believes
  | proceed handler order now =>
      obtain ⟨pending, found, rfl⟩ := Option.map_eq_some_iff.mp isNext
      cases pending with
      | nil => exact fun client call believes => noGhosts.kept steps rfl believes believes
      | cons first remaining =>
          simp only [Timely, found] at timely
          by_cases isSend : ∃ recipientId message, first = .send recipientId message
          · obtain ⟨recipient, message, rfl⟩ := isSend
            intro client call believes
            have believesBefore := believes
            simp only [carryOut] at believesBefore
            rw [stream_send] at believesBefore
            split at believesBefore
            · rename_i same
              subst same
              rw [believesRinging_cons] at believesBefore
              split at believesBefore
              · obtain ⟨invitation, rfl, rfl⟩ := invitation_of_believes believesBefore
                rcases (Bool.or_eq_true _ _).mp timely with rings | revoking
                · exact .inl rings
                · exact .inr (steps.revoking believes revoking)
              · exact noGhosts.kept steps rfl believes believesBefore
            · exact noGhosts.kept steps rfl believes believesBefore
          · have notSend : ∀ recipientId message, first ≠ .send recipientId message :=
              fun recipientId message same => isSend ⟨recipientId, message, same⟩
            dsimp only
            rw [carryOut_of_notSend notSend]
            exact noGhosts.perform orderly order now found notSend timely
  | deliver recipient order =>
      simp only [CallServer.step] at isNext
      split at isNext
      · cases isNext
      · rename_i message rest found
        cases isNext
        intro client call believes
        refine noGhosts.kept steps rfl believes ?_
        by_cases same : client = recipient
        · subst same
          simp only [stream] at believes ⊢
          rw [queue_insert rfl, if_pos rfl, Function.update_self, believesRinging_deliver]
            at believes
          simpa [found] using believes
        · rw [stream_congr] at believes
          · exact believes
          · rw [queue_insert rfl, if_neg same]
          · exact Function.update_of_ne same _ _

end CallServer

/-- Whenever all handlers have finished and all queues are drained, a client whose newest news
about the ringing of a call is an invitation rings for this call, in every run in which
invitations are queued and answered in time. -/
theorem run_noGhostRinging (maxConfSize : ℕ) (moves : List ServerMove) (final : CallServer)
    (timely : GuardedRuns.Guarded CallServer.step (fun state move => state.Timely move = true)
      (.start maxConfSize) moves)
    (runs : GuardedRuns.runMoves CallServer.step (.start maxConfSize) moves = some final)
    (quiet : final.Quiet) (client : ClientId) (call : CallId) (invitation : CallInvitation)
    (invited : (final.logs client).find? (ClientEvent.aboutRinging call) =
      some (.received (.callInvitation invitation))) :
    ∃ calls target, final.calls.clientIncomingCalls.lookup client = some calls ∧
      calls.lookup call = some target := by
  have kept : ∀ (state : CallServer) (move : ServerMove) (next : CallServer),
      state.NoGhosts ∧ state.Orderly → state.Timely move = true →
      state.step move = some next → next.NoGhosts ∧ next.Orderly := by
    rintro state move next ⟨noGhosts, orderly⟩ isTimely isNext
    exact ⟨noGhosts.step orderly isNext isTimely, orderly.step (CallServer.step_steps isNext)⟩
  have silent : (CallServer.start maxConfSize).NoGhosts := by
    intro other ringing believes
    cases believes
  have ends := timely.preserves kept runs ⟨silent, CallServer.orderly_start maxConfSize⟩
  have believes : believesRinging call (final.stream client) = true := by
    rw [believesRinging_iff, CallServer.stream, quiet.2 client]
    exact ⟨invitation, invited⟩
  rcases ends.1 client call believes with rings | revoking
  · obtain ⟨target, isTarget⟩ := Option.isSome_iff_exists.mp rings
    obtain ⟨calls, listed, isRung⟩ := Option.bind_eq_some_iff.mp isTarget
    exact ⟨calls, target, listed, isRung⟩
  · obtain ⟨_, _, handler, steps, found, _⟩ := (CallServer.revoking_iff final client call).mp revoking
    rw [quiet.1] at found
    simp at found

/-! ## Two clients that ring for one position -/

/-- A client invites a position that two others cover. -/
def invitePosition : ServerMove :=
  .receive ⟨"LOWW"⟩ (.callInvite ⟨⟨1⟩, { clientId := ⟨"LOWW"⟩ }, {.position ⟨"APP"⟩}, false⟩)
    (fun _ => {⟨"LOVV"⟩, ⟨"LOWI"⟩}) none .increasing

/-- The second of the two rejects when all invitations have been delivered. -/
def rejectedByOne : List ServerMove :=
  [invitePosition] ++ List.replicate 7 (.proceed ⟨"LOWW"⟩ .increasing 0) ++
    [.deliver ⟨"LOVV"⟩ .increasing, .deliver ⟨"LOWI"⟩ .increasing,
      .receive ⟨"LOWI"⟩ (.callReject ⟨1⟩ ⟨"LOWI"⟩ .busy) (fun _ => ∅) none .increasing] ++
    List.replicate 2 (.proceed ⟨"LOWI"⟩ .increasing 0)

/-- The first of the two rings on. -/
theorem rejectedByOne_noGhostRinging :
    ∃ final, GuardedRuns.runMoves CallServer.step (.start 5) rejectedByOne = some final ∧
      ∃ calls target, final.calls.clientIncomingCalls.lookup ⟨"LOVV"⟩ = some calls ∧
        calls.lookup ⟨1⟩ = some target := by
  have timely : GuardedRuns.Guarded CallServer.step
      (fun state move => state.Timely move = true) (.start 5) rejectedByOne := by
    decide +kernel
  have settles : (GuardedRuns.runMoves CallServer.step (.start 5) rejectedByOne).any (fun final =>
      decide (final.handlers.keys = ∅ ∧
        (final.queues.anyValue fun messages => !messages.isEmpty) = false) &&
        believesRinging ⟨1⟩ (final.logs ⟨"LOVV"⟩)) = true := by
    decide +kernel
  obtain ⟨final, runs, holds⟩ := (Option.any_eq_true _ _).mp settles
  obtain ⟨isQuiet, believes⟩ := (Bool.and_eq_true _ _).mp holds
  obtain ⟨finished, drained⟩ := of_decide_eq_true isQuiet
  have quiet : final.Quiet := CallServer.quiet_of_empty finished drained
  obtain ⟨invitation, invited⟩ := believesRinging_iff.mp believes
  exact ⟨final, runs, run_noGhostRinging 5 rejectedByOne final timely runs quiet ⟨"LOVV"⟩ ⟨1⟩
    invitation invited⟩

/-- The first of the two answers before the second has been invited. -/
def answeredFirst : List ServerMove :=
  [invitePosition] ++ List.replicate 5 (.proceed ⟨"LOWW"⟩ .increasing 0) ++
    [.deliver ⟨"LOVV"⟩ .increasing,
      .receive ⟨"LOVV"⟩ (.callAccept ⟨1⟩ ⟨"LOVV"⟩) (fun _ => ∅) none .increasing] ++
    List.replicate 5 (.proceed ⟨"LOVV"⟩ .increasing 0) ++
    List.replicate 2 (.proceed ⟨"LOWW"⟩ .increasing 0) ++
    [.deliver ⟨"LOWW"⟩ .increasing, .deliver ⟨"LOVV"⟩ .increasing,
      .deliver ⟨"LOWI"⟩ .increasing, .deliver ⟨"LOWI"⟩ .increasing]

/-- The second of the two is cancelled before it is invited, and rings for a call the server no
longer rings it for. -/
theorem answeredFirst_rings :
    ∃ final, GuardedRuns.runMoves CallServer.step (.start 5) answeredFirst = some final ∧
      final.Quiet ∧
      (∃ invitation, (final.logs ⟨"LOWI"⟩).find? (ClientEvent.aboutRinging ⟨1⟩) =
        some (.received (.callInvitation invitation))) ∧
      final.calls.clientIncomingCalls.lookup ⟨"LOWI"⟩ = none := by
  have settles : (GuardedRuns.runMoves CallServer.step (.start 5) answeredFirst).any (fun final =>
      decide (final.handlers.keys = ∅ ∧
        (final.queues.anyValue fun messages => !messages.isEmpty) = false ∧
        final.calls.clientIncomingCalls.lookup ⟨"LOWI"⟩ = none) &&
        believesRinging ⟨1⟩ (final.logs ⟨"LOWI"⟩)) = true := by
    decide +kernel
  obtain ⟨final, runs, holds⟩ := (Option.any_eq_true _ _).mp settles
  obtain ⟨isQuiet, believes⟩ := (Bool.and_eq_true _ _).mp holds
  obtain ⟨finished, drained, isSilent⟩ := of_decide_eq_true isQuiet
  exact ⟨final, runs, CallServer.quiet_of_empty finished drained,
    believesRinging_iff.mp believes, isSilent⟩

end Vacs
