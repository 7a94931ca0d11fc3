import Vacs.Calls.Refinement.Leaving
import Vacs.Server.Delivery

/-!
# Rosters are fresh when the server is quiet

An operation that changes the participants or the leader of a call is followed by
an update to everybody who has joined it then (`perform_announces`). Updates of
concurrent operations may be queued in any order. What a session forwards is the
state of the call at that moment, so the last update that reaches a participant is
at least as new as the last change of the roster.
-/

set_option autoImplicit false

namespace Vacs

open CallManager

/-! ## Operations announce what they change -/

theorem activeCallSnapshot_congr {s s' : CallManager} {call : CallId}
    (same : s'.activeCalls.lookup call = s.activeCalls.lookup call) :
    s'.activeCallSnapshot call = s.activeCallSnapshot call := by
  unfold activeCallSnapshot
  rw [same]

theorem activeCallSnapshot_of_none {s : CallManager} {call : CallId}
    (none : s.activeCalls.lookup call = none) : s.activeCallSnapshot call = (∅, .none) := by
  simp [activeCallSnapshot, none]

/-- An entry that is replaced by one with the same participants and leader. -/
theorem activeCallSnapshot_insert {s : CallManager} {call : CallId}
    {active after : ActiveCallEntry} (found : s.activeCalls.lookup call = some active)
    (participants : after.participants = active.participants)
    (conferenceLeader : after.conferenceLeader = active.conferenceLeader) (other : CallId) :
    activeCallSnapshot { s with activeCalls := s.activeCalls.insert call after } other =
      s.activeCallSnapshot other := by
  by_cases same : other = call
  · subst same
    simp [activeCallSnapshot, found, participants, conferenceLeader]
  · exact activeCallSnapshot_congr (by simp [same])

theorem attemptCall_activeCalls (order : Iteration) (s : CallManager) (callId : CallId)
    (callerId : ClientId) (source : CallSource) (target : CallTarget)
    (notifiedClients : Finset ClientId) :
    (s.attemptCall order callId callerId source target notifiedClients).1.activeCalls =
      s.activeCalls := by
  unfold attemptCall
  split <;> rfl

theorem markClientWithinRingingCalls_activeCalls (order : Iteration) (s : CallManager)
    (callId : CallId) (clientId : ClientId)
    (markFn : RingingTargetEntry → ClientId → RingingTargetEntry) :
    (s.markClientWithinRingingCalls order callId clientId markFn).1.activeCalls =
      s.activeCalls := by
  unfold markClientWithinRingingCalls
  dsimp only
  split
  · rfl
  · split
    · rfl
    · split
      · rfl
      · split <;> split <;> simp [removeClientIncomingCall]

theorem cancelPendingInvitations_activeCalls (order : Iteration) (s : CallManager)
    (callId : CallId) :
    (s.cancelPendingInvitations order callId).1.activeCalls = s.activeCalls := by
  unfold cancelPendingInvitations
  split <;> rfl

theorem endRinging_activeCalls (order : Iteration) (s : CallManager) (callId : CallId)
    (clientId : ClientId) :
    (s.endRinging order callId clientId).1.activeCalls = s.activeCalls := by
  unfold endRinging
  split
  · rfl
  · split <;> rfl

/-- The roster of a call is as before, or the actions update everybody who has joined it. -/
def RosterUpdated (call : CallId) (s s' : CallManager)
    (actions : Option (List UpdateCallAction)) (other : CallId) : Prop :=
  s'.activeCallSnapshot other = s.activeCallSnapshot other ∨
    (other = call ∧ (s'.activeCalls.lookup call = none ∨ ∃ performed update,
      actions = some performed ∧ .updateParticipants update ∈ performed ∧
        update.callId = call ∧ update.joinedParticipants = (s'.activeCallSnapshot call).1))

theorem endActive_updates (order : Iteration) (s : CallManager) (call : CallId)
    (client : ClientId) (other : CallId) :
    RosterUpdated call s (s.endActive order call client).1 (s.endActive order call client).2
      other := by
  unfold endActive
  cases found : s.activeCalls.lookup call with
  | none => exact .inl rfl
  | some active =>
      dsimp only
      split
      · exact .inl rfl
      · by_cases same : other = call
        · subst same
          right
          refine ⟨rfl, ?_⟩
          split
          · left
            simp [cancelPendingInvitations_activeCalls]
          · split
            · left
              simp [cancelPendingInvitations_activeCalls]
            · exact .inr ⟨_, _, rfl, List.mem_singleton.mpr rfl, rfl, rfl⟩
        · left
          refine activeCallSnapshot_congr ?_
          split
          · simp [cancelPendingInvitations_activeCalls, same]
          · split
            · simp [cancelPendingInvitations_activeCalls, same]
            · simp [same]

theorem endCall_updates (order : Iteration) (s : CallManager) (call : CallId)
    (client : ClientId) (other : CallId) :
    RosterUpdated call s (s.endCall order call client).1 (s.endCall order call client).2 other := by
  have updated := endActive_updates order (s.endRinging order call client).1 call client other
  have before : (s.endRinging order call client).1.activeCallSnapshot other =
      s.activeCallSnapshot other :=
    activeCallSnapshot_congr (by rw [endRinging_activeCalls])
  unfold endCall
  cases ringing : s.endRinging order call client with
  | mk middle ringingActions =>
      rw [ringing] at updated before
      dsimp only at updated before ⊢
      cases ended : middle.endActive order call client with
      | mk final activeActions =>
          rw [ended] at updated
          dsimp only at updated ⊢
          rcases updated with same | ⟨isCall, gone | ⟨performed, update, isSome, member, isUpdate⟩⟩
          · left
            cases activeActions <;> cases ringingActions <;> exact same.trans before
          · refine .inr ⟨isCall, .inl ?_⟩
            cases activeActions <;> cases ringingActions <;> exact gone
          · subst isSome
            refine .inr ⟨isCall, .inr ?_⟩
            cases ringingActions with
            | none => exact ⟨performed, update, rfl, member, isUpdate⟩
            | some more => exact ⟨_, update, rfl, List.mem_append_left _ member, isUpdate⟩

/-- Everybody who has joined a call is sent an update of it. -/
def Announced (steps : List HandlerStep) (s : CallManager) (call : CallId) : Prop :=
  ∀ participant ∈ (s.activeCallSnapshot call).1.keys, ∃ update : CallUpdate,
    update.callId = call ∧ .send participant (.callUpdate update) ∈ steps

/-- The roster of a call is as before, or everybody who has joined it is sent an update. -/
def Announces (s s' : CallManager) (steps : List HandlerStep) (call : CallId) : Prop :=
  s'.activeCallSnapshot call = s.activeCallSnapshot call ∨ Announced steps s' call

theorem announced_of_none {steps : List HandlerStep} {s : CallManager} {call : CallId}
    (none : s.activeCalls.lookup call = none) : Announced steps s call := by
  intro participant joined
  simp [activeCallSnapshot_of_none none] at joined

theorem announced_of_update {steps : List HandlerStep} {s : CallManager} {call : CallId}
    {update : UpdateParticipants} (isCall : update.callId = call)
    (isRoster : update.joinedParticipants = (s.activeCallSnapshot call).1)
    (sends : ∀ participant ∈ update.joinedParticipants.keys,
      HandlerStep.sendCallUpdate update participant ∈ steps) : Announced steps s call := by
  intro participant joined
  rw [← isRoster] at joined
  exact ⟨update.forRecipient participant, isCall, sends participant joined⟩

theorem mem_allParticipants (order : Iteration) (update : UpdateParticipants)
    (participant : ClientId) :
    participant ∈ update.allParticipants order ↔
      participant ∈ update.invitedParticipants.keys ∨
        participant ∈ update.joinedParticipants.keys := by
  simp [UpdateParticipants.allParticipants, Enumeration.mem_list]

theorem sendActions_update (order : Iteration) (call : CallId)
    (dropped survivor : List ServerMessage) {actions : List UpdateCallAction}
    {update : UpdateParticipants} (member : .updateParticipants update ∈ actions)
    {participant : ClientId} (joined : participant ∈ update.joinedParticipants.keys) :
    HandlerStep.sendCallUpdate update participant ∈
      HandlerStep.sendActions order call dropped survivor actions := by
  refine List.mem_flatMap.mpr ⟨_, member, List.mem_flatMap.mpr ⟨participant, ?_, ?_⟩⟩
  · exact (mem_allParticipants order update participant).mpr (.inr joined)
  · exact List.mem_append_right _ (List.mem_singleton.mpr rfl)

/-- Actions that are sent announce the roster they leave. -/
theorem RosterUpdated.announces {call other : CallId} {s s' : CallManager}
    {actions : Option (List UpdateCallAction)} (updated : RosterUpdated call s s' actions other)
    {steps : List HandlerStep}
    (sent : ∀ performed, actions = some performed → ∃ order dropped survivor,
      ∀ step ∈ HandlerStep.sendActions order call dropped survivor performed, step ∈ steps) :
    Announces s s' steps other := by
  rcases updated with same | ⟨rfl, gone | ⟨performed, update, isSome, member, isCall, isRoster⟩⟩
  · exact .inl same
  · exact .inr (announced_of_none gone)
  · right
    obtain ⟨order, dropped, survivor, sends⟩ := sent performed isSome
    exact announced_of_update isCall isRoster fun participant joined =>
      sends _ (sendActions_update order other dropped survivor member joined)

/-- Accepting leaves all rosters as they are, or returns the roster of the call it changed. -/
theorem acceptCall_updates (order : Iteration) (s : CallManager) (call : CallId)
    (client : ClientId) :
    (s.acceptCall order call client).1.activeCalls = s.activeCalls ∨
      ∃ target update, (s.acceptCall order call client).2 = .accepted target update ∧
        update.callId = call ∧
        update.joinedParticipants =
          ((s.acceptCall order call client).1.activeCallSnapshot call).1 ∧
        ∀ other, other ≠ call → (s.acceptCall order call client).1.activeCalls.lookup other =
          s.activeCalls.lookup other := by
  unfold acceptCall
  split
  · exact .inl rfl
  · cases s.ringingCalls.lookup call with
    | none => exact .inl rfl
    | some entry =>
        dsimp only
        cases acceptedTarget order call client entry with
        | none => exact .inl rfl
        | some accepted =>
            exact .inr ⟨_, _, rfl, rfl, rfl, fun other different =>
              Finmap.lookup_insert_of_ne _ different⟩

theorem acceptCall_announces (order : Iteration) (s : CallManager) (call : CallId)
    (client : ClientId) (other : CallId) :
    Announces s (s.acceptCall order call client).1
      (HandlerStep.afterAccept order client call (s.acceptCall order call client).2) other := by
  rcases acceptCall_updates order s call client with
    same | ⟨target, update, outcome, isCall, isRoster, others⟩
  · exact .inl (activeCallSnapshot_congr (by rw [same]))
  · by_cases isOther : other = call
    · subst isOther
      rw [outcome]
      refine .inr (announced_of_update isCall isRoster fun participant joined => ?_)
      refine List.mem_append_left _ (List.mem_append_right _ (List.mem_map_of_mem ?_))
      exact (order.clients.mem_list _ participant).mpr joined
    · exact .inl (activeCallSnapshot_congr (others other isOther))

/-- Dropping a target leaves all rosters as they are, or returns the roster of the call it
changed. -/
theorem dropTarget_updates (order : Iteration) (s : CallManager) (call : CallId)
    (client : ClientId) (target : CallTarget) (reason : CallDropReason) :
    (s.dropTarget order call client target reason).1.activeCalls = s.activeCalls ∨
      ∃ dropped update,
        (s.dropTarget order call client target reason).2 = .participantDropped dropped update ∧
        update.callId = call ∧
        update.joinedParticipants =
          ((s.dropTarget order call client target reason).1.activeCallSnapshot call).1 ∧
        ∀ other, other ≠ call →
          (s.dropTarget order call client target reason).1.activeCalls.lookup other =
            s.activeCalls.lookup other := by
  unfold dropTarget
  cases dropped : s.dropRingingTarget order call client target with
  | some result =>
      left
      unfold dropRingingTarget at dropped
      split at dropped
      · cases dropped
      · split at dropped
        · cases dropped
        · split at dropped <;> cases dropped <;> rfl
  | none =>
      dsimp only
      unfold dropJoinedParticipant
      cases found : s.activeCalls.lookup call with
      | none => exact .inl rfl
      | some active =>
          dsimp only
          split
          · exact .inl rfl
          · split
            · exact .inl rfl
            · split
              · exact .inl rfl
              · split
                · exact .inl rfl
                · split
                  · exact .inl rfl
                  · split
                    · exact .inl rfl
                    · exact .inr ⟨_, _, rfl, rfl, rfl, fun other different =>
                        Finmap.lookup_insert_of_ne _ different⟩

theorem dropTarget_announces (order : Iteration) (s : CallManager) (call : CallId)
    (client : ClientId) (target : CallTarget) (reason : CallDropReason) (other : CallId) :
    Announces s (s.dropTarget order call client target reason).1
      (HandlerStep.afterDrop order client call target reason
        (s.dropTarget order call client target reason).2) other := by
  rcases dropTarget_updates order s call client target reason with
    same | ⟨dropped, update, outcome, isCall, isRoster, others⟩
  · exact .inl (activeCallSnapshot_congr (by rw [same]))
  · by_cases isOther : other = call
    · subst isOther
      rw [outcome]
      refine .inr (announced_of_update isCall isRoster fun participant joined => ?_)
      refine List.mem_cons_of_mem _ (List.mem_map_of_mem ?_)
      rw [Enumeration.mem_list, Finset.mem_insert, List.mem_toFinset, mem_allParticipants]
      exact .inr (.inr joined)
    · exact .inl (activeCallSnapshot_congr (others other isOther))

theorem Announces.after {s middle s' : CallManager} {steps : List HandlerStep} {call : CallId}
    (announces : Announces middle s' steps call)
    (same : middle.activeCallSnapshot call = s.activeCallSnapshot call) :
    Announces s s' steps call :=
  announces.imp_left fun kept => kept.trans same

theorem endCall_announces (order : Iteration) (s : CallManager) (call : CallId)
    (client : ClientId) (other : CallId) :
    Announces s (s.endCall order call client).1
      (HandlerStep.afterEnd order client call (s.endCall order call client).2) other := by
  have ended := endCall_updates order s call client other
  cases outcome : (s.endCall order call client).2 with
  | none =>
      rw [outcome] at ended
      exact ended.announces nofun
  | some actions =>
      rw [outcome] at ended
      refine ended.announces ?_
      rintro performed ⟨⟩
      exact ⟨order, _, _, fun _ member => member⟩

theorem callError_announces (order : Iteration) (s : CallManager) (call : CallId)
    (client : ClientId) (reason : CallErrorReason) (other : CallId) :
    Announces s (s.callError order call client).1
      (HandlerStep.afterError order client call reason (s.callError order call client).2)
      other := by
  have kept : (s.markClientWithinRingingCalls order call client .markErrored).1.activeCallSnapshot
      other = s.activeCallSnapshot other :=
    activeCallSnapshot_congr (by rw [markClientWithinRingingCalls_activeCalls])
  unfold callError
  split
  · rename_i isMarked
    rw [isMarked] at kept
    exact .inl kept
  · rename_i isMarked
    rw [isMarked] at kept
    exact .inl kept
  · rename_i middle _ _ _ isMarked
    rw [isMarked] at kept
    have ended := endCall_updates order middle call client other
    split
    · rename_i isEnded
      rw [isEnded] at ended
      exact (ended.announces nofun).after kept
    · rename_i isEnded
      rw [isEnded] at ended
      refine (ended.announces ?_).after kept
      rintro performed ⟨⟩
      exact ⟨order, _, _, fun _ member => member⟩

theorem reportLinkFailure_announces (order : Iteration) (s : CallManager) (call : CallId)
    (reporter peer : ClientId) (now : Instant) (other : CallId) :
    Announces s (s.reportLinkFailure order call reporter peer now).1
      (HandlerStep.afterReport order call
        (s.reportLinkFailure order call reporter peer now).2) other := by
  unfold reportLinkFailure
  split
  · exact .inl rfl
  · cases found : s.activeCalls.lookup call with
    | none => exact .inl rfl
    | some active =>
        dsimp only
        split
        · exact .inl rfl
        · -- A report changes neither the participants nor the leader.
          have kept := activeCallSnapshot_insert found
            (recordLinkReportAt_participants active reporter peer now) rfl other
          split
          · exact .inl kept
          · generalize recorded : CallManager.mk s.ringingCalls (s.activeCalls.insert call
              (active.recordLinkReportAt reporter peer now).1) s.clientIncomingCalls
                s.clientActiveCalls s.maxConfSize = middle at kept ⊢
            generalize (active.recordLinkReportAt reporter peer now).1.laterJoiner reporter peer =
              evicted
            have ended := endCall_updates order middle call evicted other
            split
            · rename_i isEnded
              rw [isEnded] at ended
              refine (ended.announces ?_).after kept
              rintro performed ⟨⟩
              exact ⟨order, _, _, fun _ member => List.mem_append_right _ member⟩
            · rename_i isEnded
              rw [isEnded] at ended
              exact (ended.announces nofun).after kept

/-- An operation that changes the roster of a call is followed by an update to everybody who has
joined it. -/
theorem perform_announces (order : Iteration) (now : Instant) (s : CallManager)
    (client : ClientId) (step : HandlerStep) (call : CallId) :
    Announces s (step.perform order now s client).1 (step.perform order now s client).2 call := by
  unfold HandlerStep.perform
  cases step with
  | send | checkInvite | announceInvite | sendCallState => exact .inl rfl
  | attemptCall progress =>
      left
      cases isResolved : progress.resolvedTargets with
      | nil => simp [HandlerStep.operation, isResolved]
      | cons =>
          simp only [HandlerStep.operation, isResolved]
          exact activeCallSnapshot_congr (congrArg _ (attemptCall_activeCalls ..))
  | acceptCall callId => exact acceptCall_announces order s callId client call
  | failRingingRecipient callId =>
      refine .inl (activeCallSnapshot_congr ?_)
      exact congrArg _ (markClientWithinRingingCalls_activeCalls ..)
  | rejectCall callId reason =>
      refine .inl (activeCallSnapshot_congr ?_)
      exact congrArg _ (markClientWithinRingingCalls_activeCalls ..)
  | endCall callId => exact endCall_announces order s callId client call
  | callError callId reason => exact callError_announces order s callId client reason call
  | reportLinkFailure callId peerId =>
      exact reportLinkFailure_announces order s callId client peerId now call
  | dropTarget callId target reason =>
      exact dropTarget_announces order s callId client target reason call

/-! ## Fresh rosters -/

namespace ClientEvent

/-- The client joins the call, or is told about it. -/
def aboutRoster (call : CallId) : ClientEvent → Bool
  | .joined callId => decide (callId = call)
  | .received (.callUpdate update) => decide (update.callId = call)
  | _ => false

end ClientEvent

namespace CallServer

/-- The newest thing a client knows about the roster of a call, since it joined, is the roster. -/
def Knows (state : CallServer) (client : ClientId) (call : CallId) : Prop :=
  ∃ update : CallUpdate,
    (state.logs client).find? (ClientEvent.aboutRoster call) =
      some (.received (.callUpdate update)) ∧
    (update.joinedParticipants, update.conferenceLeader) = state.calls.activeCallSnapshot call

/-- Every participant knows the roster, or an update is on its way to it. -/
def Informed (state : CallServer) : Prop :=
  ∀ call client, client ∈ (state.calls.activeCallSnapshot call).1.keys →
    state.Knows client call ∨
      ∃ update : CallUpdate, update.callId = call ∧ state.Underway client (.callUpdate update)

/-- An update for a participant carries the roster of the call at that moment. -/
theorem refresh_of_joined (order : Iteration) {s : CallManager} {client : ClientId}
    {update : CallUpdate} (joined : client ∈ (s.activeCallSnapshot update.callId).1.keys) :
    ∃ current : CallUpdate,
      refreshCallUpdate order s client (.callUpdate update) = .callUpdate current ∧
        current.callId = update.callId ∧
        (current.joinedParticipants, current.conferenceLeader) =
          s.activeCallSnapshot update.callId := by
  have party : s.callStateForParty order update.callId client =
      some (s.updateWith update.callId (s.pendingInvitations order update.callId)) := by
    have isJoined : client ∈ (s.updateWith update.callId
        (s.pendingInvitations order update.callId)).joinedParticipants.keys := joined
    simp [callStateForParty, isJoined]
  exact ⟨(s.updateWith update.callId (s.pendingInvitations order update.callId)).forRecipient client,
    by rw [refreshCallUpdate, party], rfl, rfl⟩

/-- Refreshing an update does not change what call it is about. -/
theorem aboutRoster_refresh (order : Iteration) (s : CallManager) (client : ClientId)
    (message : ServerMessage) (call : CallId) :
    ClientEvent.aboutRoster call (.received (refreshCallUpdate order s client message)) =
      ClientEvent.aboutRoster call (.received message) := by
  cases message with
  | callUpdate update =>
      unfold refreshCallUpdate callStateForParty
      dsimp only
      split
      · rename_i current isParty
        split at isParty
        · cases isParty
          rfl
        · cases isParty
      · rfl
  | _ => rfl

/-- An operation that leaves a client in a call says nothing about its roster to the log. -/
theorem find?_events {op : Operation} {before after : CallManager} {client : ClientId}
    {call : CallId} (joined : client ∈ (before.activeCallSnapshot call).1.keys)
    (log : List ClientEvent) :
    (op.events before after client ++ log).find? (ClientEvent.aboutRoster call) =
      log.find? (ClientEvent.aboutRoster call) := by
  rw [List.find?_append, List.find?_eq_none.mpr, Option.none_or]
  intro event member
  rcases List.mem_append.mp member with newlyJoined | answered
  · obtain ⟨callId, passes, rfl⟩ := List.mem_map.mp newlyJoined
    have newly := of_decide_eq_true (List.mem_filter.mp passes).2
    have different : callId ≠ call := by
      rintro rfl
      exact newly.2 joined
    simp [ClientEvent.aboutRoster, different]
  · split at answered
    · obtain ⟨callId, _, rfl⟩ := List.mem_map.mp answered
      simp [ClientEvent.aboutRoster]
    · cases answered

theorem find?_logged (state : CallServer) (client : ClientId) (step : HandlerStep)
    (after : CallManager) {other : ClientId} {call : CallId}
    (joined : other ∈ (state.calls.activeCallSnapshot call).1.keys) :
    (state.logged client step after other).find? (ClientEvent.aboutRoster call) =
      (state.logs other).find? (ClientEvent.aboutRoster call) := by
  unfold logged
  split
  · rfl
  · exact find?_events joined _

/-! ### Steps keep participants informed -/

theorem informed_start (maxConfSize : ℕ) : (start maxConfSize).Informed := by
  intro call client joined
  simp [start, CallManager.new, activeCallSnapshot] at joined

/-- A participant that is told about its call knows the roster. -/
theorem knows_of_delivered {state : CallServer} (order : Iteration) {client : ClientId}
    {update : CallUpdate}
    (joined : client ∈ (state.calls.activeCallSnapshot update.callId).1.keys)
    (queues : HashMap ClientId (List ServerMessage)) :
    Knows { state with
      queues := queues
      logs := Function.update state.logs client
        (.received (refreshCallUpdate order state.calls client (.callUpdate update)) ::
          state.logs client) } client update.callId := by
  obtain ⟨current, refreshed, isCall, isRoster⟩ := refresh_of_joined order joined
  refine ⟨current, ?_, isRoster⟩
  simp [refreshed, ClientEvent.aboutRoster, isCall]

theorem Informed.step {state next : CallServer} (informed : state.Informed)
    (steps : Steps state next) : next.Informed := by
  intro call client joined
  -- An update that is on its way stays on its way until it is delivered.
  have waiting : client ∈ (state.calls.activeCallSnapshot call).1.keys →
      (∃ update : CallUpdate, update.callId = call ∧ state.Underway client (.callUpdate update)) →
      next.Knows client call ∨
        ∃ update : CallUpdate, update.callId = call ∧ next.Underway client (.callUpdate update) := by
    rintro before ⟨update, rfl, underway⟩
    rcases steps.underway underway with still | ⟨order, rest, _, rfl⟩
    · exact .inr ⟨update, rfl, still⟩
    · exact .inl (knows_of_delivered order before _)
  have kept : next.calls.activeCallSnapshot call = state.calls.activeCallSnapshot call →
      (next.logs client).find? (ClientEvent.aboutRoster call) =
        (state.logs client).find? (ClientEvent.aboutRoster call) →
      next.Knows client call ∨
        ∃ update : CallUpdate, update.callId = call ∧ next.Underway client (.callUpdate update) := by
    intro sameRoster sameLog
    rw [sameRoster] at joined
    rcases informed call client joined with ⟨update, isLast, isRoster⟩ | underway
    · exact .inl ⟨update, sameLog.trans isLast, isRoster.trans sameRoster.symm⟩
    · exact waiting joined underway
  cases steps with
  | receive => exact kept rfl rfl
  | finish => exact kept rfl rfl
  | send => exact kept rfl rfl
  | @perform other order now step remaining found notSend =>
      rcases perform_announces order now state.calls other step call with same | announced
      · refine kept same (find?_logged state other step _ ?_)
        rw [← same]
        exact joined
      · obtain ⟨update, isCall, member⟩ := announced client joined
        exact .inr ⟨update, isCall, .inr (sending_new rfl (List.mem_append_left _ member))⟩
  | @deliver other order message rest found =>
      by_cases same : client = other
      · subst same
        by_cases about : ∃ update : CallUpdate, message = .callUpdate update ∧ update.callId = call
        · obtain ⟨update, rfl, rfl⟩ := about
          have before : client ∈ (state.calls.activeCallSnapshot update.callId).1.keys := joined
          exact .inl (knows_of_delivered order before _)
        · refine kept rfl ?_
          have notAbout : ClientEvent.aboutRoster call
              (.received (refreshCallUpdate order state.calls client message)) = false := by
            rw [aboutRoster_refresh]
            cases message with
            | callUpdate update => simpa [ClientEvent.aboutRoster] using about
            | _ => rfl
          simp [notAbout]
      · refine kept rfl ?_
        simp [same]

/-- A participant that is informed and has nothing on its way knows the roster. -/
theorem Informed.knows {state : CallServer} (informed : state.Informed) (quiet : state.Quiet)
    {call : CallId} {client : ClientId}
    (joined : client ∈ (state.calls.activeCallSnapshot call).1.keys) : state.Knows client call := by
  refine (informed call client joined).resolve_right ?_
  rintro ⟨update, _, queued | ⟨other, steps, found, _⟩⟩
  · rw [quiet.2 client] at queued
    cases queued
  · rw [quiet.1] at found
    simp at found

end CallServer

/-- Whenever all handlers have finished and all queues are drained, the last update that every
participant of every active call has received since it joined carries the participants and the
leader of the call. -/
theorem run_knowsRoster (maxConfSize : ℕ) (moves : List ServerMove) (final : CallServer)
    (runs : GuardedRuns.runMoves CallServer.step (.start maxConfSize) moves = some final)
    (quiet : final.Quiet) (call : CallId) (active : ActiveCallEntry)
    (found : final.calls.activeCalls.lookup call = some active) (participant : ClientId)
    (joined : participant ∈ active.participants.keys) :
    ∃ update : CallUpdate,
      (final.logs participant).find? (ClientEvent.aboutRoster call) =
        some (.received (.callUpdate update)) ∧
      update.joinedParticipants = active.participants ∧
      update.conferenceLeader = active.conferenceLeader := by
  have informed : final.Informed :=
    GuardedRuns.runMoves_preserves
      (fun _ _ _ informed steps => informed.step (CallServer.step_steps steps)) runs
      (CallServer.informed_start maxConfSize)
  have isRoster : final.calls.activeCallSnapshot call =
      (active.participants, active.conferenceLeader) := by
    simp [activeCallSnapshot, found]
  obtain ⟨update, isLast, same⟩ := informed.knows quiet (by rw [isRoster]; exact joined)
  rw [isRoster, Prod.mk.injEq] at same
  exact ⟨update, isLast, same⟩

/-- One client invites another, which accepts, and all messages are delivered. -/
def answeredCall : List ServerMove :=
  let caller : ClientId := ⟨"LOWW"⟩
  let callee : ClientId := ⟨"LOVV"⟩
  let receive := fun client message =>
    ServerMove.receive client message (fun _ => {callee}) none .increasing
  [receive caller (.callInvite ⟨⟨1⟩, { clientId := caller }, {.client callee}, false⟩)] ++
    List.replicate 6 (.proceed caller .increasing 0) ++
    [.deliver callee .increasing, receive callee (.callAccept ⟨1⟩ callee)] ++
    List.replicate 4 (.proceed callee .increasing 0) ++
    [.deliver caller .increasing, .deliver callee .increasing]

theorem answeredCall_knowsRoster :
    ∃ final, GuardedRuns.runMoves CallServer.step (.start 5) answeredCall = some final ∧
      ∃ update : CallUpdate,
        (final.logs ⟨"LOWW"⟩).find? (ClientEvent.aboutRoster ⟨1⟩) =
          some (.received (.callUpdate update)) := by
  have settles : (GuardedRuns.runMoves CallServer.step (.start 5) answeredCall).any (fun final =>
      decide (final.handlers.keys = ∅ ∧
        (final.queues.anyValue fun messages => !messages.isEmpty) = false ∧
        (final.calls.activeCalls.lookup ⟨1⟩).any fun active =>
          decide ((⟨"LOWW"⟩ : ClientId) ∈ active.participants.keys))) = true := by
    decide +kernel
  obtain ⟨final, runs, holds⟩ := (Option.any_eq_true _ _).mp settles
  obtain ⟨finished, drained, isActive⟩ := of_decide_eq_true holds
  obtain ⟨active, found, joined⟩ := (Option.any_eq_true _ _).mp isActive
  have quiet : final.Quiet := CallServer.quiet_of_empty finished drained
  obtain ⟨update, isLast, _⟩ := run_knowsRoster 5 answeredCall final runs quiet ⟨1⟩ active found
    ⟨"LOWW"⟩ (of_decide_eq_true joined)
  exact ⟨final, runs, update, isLast⟩

end Vacs
