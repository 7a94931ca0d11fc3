import Vacs.App.Crossings

/-!
# Hanging up on unanswered targets

The app arms a timer for every target it invites, so that no target rings forever. Messages
of the server cancel timers: an update that shows nobody ringing cancels all of them. Such
an update may have been sent before the server has seen the latest invitation, whose timer
is then lost (`invitationCrosses_ringsOn`). An invite of a target that rings already is refused,
and the refusal cancels the timer too (`invitesAgain_ringsOn`).

A message cancels only timers of targets that it settles (`settles_of_disarms`). So as long as no
message crosses an invite, and no target is invited that rings, every target that rings for the
client in its current call has a timer (`targets_timed`).
-/

set_option autoImplicit false

namespace Vacs

open CallManager

namespace App

/-! ## Timers that a message cancels -/

namespace AppStateInner

/-- The targets that are given up, if the call is the current one and goes on without them. -/
def disarmsGiven (self : AppStateInner) (callId : CallId) (targets : Finset CallTarget) :
    Finset CallTarget :=
  match self.callIfCurrent callId with
  | none => ∅
  | some call => if (call.removeInvitedTargets targets).isEmpty then ∅ else targets

def disarmsError (self : AppStateInner) (callId : CallId) : CallErrorReason → Finset CallTarget
  | .targetsNotFound targets => self.disarmsGiven callId targets
  | .maxConferenceSizeReached targets => self.disarmsGiven callId targets
  | .notConferenceLeader target => self.disarmsGiven callId {target}
  | .alreadyParticipant target => self.disarmsGiven callId {target}
  | _ => ∅

/-- The targets whose timers a message cancels, if it does not end the current call. -/
def disarms (self : AppStateInner) : ServerMessage → Finset CallTarget
  | .callUpdate msg =>
      if msg.callId ∈ self.incomingCalls.keys then ∅
      else
        match self.callIfCurrent msg.callId with
        | none => ∅
        | some call =>
            if (decide (msg.invitedTargets = ∅) && msg.joinedParticipants.isEmpty) ||
                (call.isActive self.clientId &&
                  !decide (self.clientId ∈ msg.joinedParticipants.keys)) then ∅
            else if msg.invitedTargets = ∅ then self.unansweredCallGuards.keys
            else CallParticipants.targets (call.changes self.clientId msg.joinedParticipants).1
  | .callError error => self.disarmsError error.callId error.reason
  | .callCancelled cancelled =>
      match cancelled.reason with
      | .answeredElsewhere _ | .callerCancelled | .errored .autoHangup => ∅
      | .disconnected | .unknown _ | .rejected _ | .errored _ =>
          self.disarmsGiven cancelled.callId cancelled.targets
  | .rateLimited callId targets _ => self.disarmsGiven callId targets
  | .callInvitation _ | .callEnd _ => ∅

end AppStateInner

namespace ClientServer

/-- Every target that rings for the client in its current call has a timer. -/
def Timed (state : ClientServer) : Prop :=
  ∀ call, state.app.currentCall = some call → ∀ target,
    state.server.calls.ringsFor state.app.clientId call.callId target = true →
      state.app.unansweredCallGuards.lookup target = some call.callId

end ClientServer

/-! ## What the app does with its timers -/

/-- The current call, if there is one afterwards, is the same, and its timers are as they were,
but for the targets that are disarmed. -/
structure KeepsTimers (disarmed : Finset CallTarget) (before after : AppStateInner) : Prop where
  clientId : after.clientId = before.clientId
  autoHangupSeconds : after.autoHangupSeconds = before.autoHangupSeconds
  timers : ∀ call, after.currentCall = some call → ∃ earlier,
    before.currentCall = some earlier ∧ earlier.callId = call.callId ∧
      ∀ target callId, target ∉ disarmed →
        before.unansweredCallGuards.lookup target = some callId →
          after.unansweredCallGuards.lookup target = some callId

namespace AppStateInner

variable {self : AppStateInner} {callId : CallId}

theorem keepsTimers_of_same {after : AppStateInner} (clientId : after.clientId = self.clientId)
    (autoHangupSeconds : after.autoHangupSeconds = self.autoHangupSeconds)
    (current : after.currentCall = self.currentCall)
    (guards : after.unansweredCallGuards = self.unansweredCallGuards)
    (disarmed : Finset CallTarget) : KeepsTimers disarmed self after where
  clientId := clientId
  autoHangupSeconds := autoHangupSeconds
  timers := by
    intro call isCurrent
    refine ⟨call, current ▸ isCurrent, rfl, ?_⟩
    intro target callId _ armed
    rw [guards]
    exact armed

theorem keepsTimers_of_ended {after : AppStateInner} (clientId : after.clientId = self.clientId)
    (autoHangupSeconds : after.autoHangupSeconds = self.autoHangupSeconds)
    (ended : after.currentCall = none) (disarmed : Finset CallTarget) :
    KeepsTimers disarmed self after where
  clientId := clientId
  autoHangupSeconds := autoHangupSeconds
  timers := by
    intro call isCurrent
    rw [ended] at isCurrent
    cases isCurrent

theorem callIfCurrent_eq_some {call : Call} (found : self.callIfCurrent callId = some call) :
    self.currentCall = some call ∧ call.callId = callId := by
  obtain ⟨isCurrent, same⟩ := Option.filter_eq_some_iff.mp found
  exact ⟨isCurrent, of_decide_eq_true same⟩

theorem mem_disarmsGiven {targets : Finset CallTarget} {call : Call} {target : CallTarget}
    (isCurrent : self.currentCall = some call)
    (disarmed : target ∈ self.disarmsGiven callId targets) :
    callId = call.callId ∧ target ∈ targets := by
  unfold disarmsGiven at disarmed
  split at disarmed
  · cases disarmed
  · rename_i current found
    obtain ⟨isSame, isCall⟩ := callIfCurrent_eq_some found
    cases isCurrent.symm.trans isSame
    split at disarmed
    · cases disarmed
    · exact ⟨isCall.symm, disarmed⟩

/-- Whoever has newly joined is not the client itself. -/
theorem changes_subset (call : Call) (ownClientId : ClientId) (joined : CallParticipants) :
    CallParticipants.targets (call.changes ownClientId joined).1 ⊆
      CallParticipants.targets (joined.erase ownClientId) := by
  intro target named
  obtain ⟨client, -, carries⟩ := Finset.mem_biUnion.mp named
  rw [Option.mem_toFinset, Option.mem_def] at carries
  have others : client ≠ ownClientId ∧ joined.lookup client = some target := by
    unfold Call.changes at carries
    split at carries
    · split at carries
      · rename_i isActive
        simp only [Finmap.lookup_retain_eq_some, decide_eq_true_eq] at carries
        refine ⟨?_, carries.1⟩
        rintro rfl
        exact carries.2 (of_decide_eq_true isActive)
      · simp only [Finmap.lookup_retain_eq_some, decide_eq_true_eq] at carries
        exact ⟨carries.2, carries.1⟩
    · cases carries
  have kept : (joined.erase ownClientId).lookup client = some target := by
    rw [Finmap.lookup_erase_ne others.1]
    exact others.2
  refine Finset.mem_biUnion.mpr ⟨client, (Finmap.mem_keys_iff_lookup _ _).mpr ⟨target, kept⟩, ?_⟩
  rw [kept]
  exact Option.mem_toFinset.mpr rfl

/-- A message cancels the timers of targets that it settles only. -/
theorem settles_of_disarms {message : ServerMessage} {call : Call} {target : CallTarget}
    (isCurrent : self.currentCall = some call) (disarmed : target ∈ self.disarms message) :
    message.settles self.clientId call.callId target = true := by
  have given : ∀ {callId targets}, target ∈ self.disarmsGiven callId targets →
      callId = call.callId ∧ target ∈ targets := mem_disarmsGiven isCurrent
  cases message with
  | callInvitation | callEnd => cases disarmed
  | callUpdate msg =>
      simp only [disarms] at disarmed
      split at disarmed
      · cases disarmed
      · split at disarmed
        · cases disarmed
        · rename_i current found
          obtain ⟨isSame, isCall⟩ := callIfCurrent_eq_some found
          cases isCurrent.symm.trans isSame
          simp only [ServerMessage.settles, ServerMessage.givesUp, ServerMessage.showsAnswered,
            Bool.false_or, Bool.and_eq_true, Bool.or_eq_true, decide_eq_true_eq]
          refine ⟨isCall.symm, ?_⟩
          split at disarmed
          · cases disarmed
          · split at disarmed
            · rename_i nobodyRings
              exact Or.inl nobodyRings
            · exact Or.inr (changes_subset _ _ _ disarmed)
  | callError error =>
      have about : error.callId = call.callId ∧ target ∈ error.reason.targets := by
        obtain ⟨callId, reason, _⟩ := error
        cases reason with
        | targetsNotFound | maxConferenceSizeReached | notConferenceLeader | alreadyParticipant =>
            exact given disarmed
        | _ => cases disarmed
      simp [ServerMessage.settles, ServerMessage.givesUp, about.1, about.2]
  | callCancelled cancelled =>
      have about : cancelled.reason.givesUpTargets = true ∧ cancelled.callId = call.callId ∧
          target ∈ cancelled.targets := by
        obtain ⟨callId, targets, reason⟩ := cancelled
        cases reason with
        | answeredElsewhere | callerCancelled => cases disarmed
        | disconnected | unknown | rejected => exact ⟨rfl, given disarmed⟩
        | errored reason =>
            cases reason with
            | autoHangup => cases disarmed
            | _ => exact ⟨rfl, given disarmed⟩
      simp [ServerMessage.settles, ServerMessage.givesUp, about.1, about.2.1, about.2.2]
  | rateLimited callId targets untilSecs =>
      obtain ⟨isCall, named⟩ := given disarmed
      simp [ServerMessage.settles, ServerMessage.givesUp, isCall, named]

theorem keepsTimers_cleanupCurrentCall (self : AppStateInner) (callId : CallId)
    (disarmed : Finset CallTarget) : KeepsTimers disarmed self (self.cleanupCurrentCall callId) := by
  unfold cleanupCurrentCall
  split
  · exact keepsTimers_of_same rfl rfl rfl rfl disarmed
  · apply keepsTimers_of_ended <;> rfl

theorem keepsTimers_giveUpTargets (self : AppStateInner) (callId : CallId)
    (targets : Finset CallTarget) :
    KeepsTimers (self.disarmsGiven callId targets) self (self.giveUpTargets callId targets) := by
  unfold giveUpTargets disarmsGiven
  cases found : self.callIfCurrent callId with
  | none => exact keepsTimers_of_same rfl rfl rfl rfl _
  | some call =>
      obtain ⟨isCurrent, isCall⟩ := callIfCurrent_eq_some found
      have still : callIfCurrent { self with currentCall := some (call.removeInvitedTargets targets) }
          callId = some (call.removeInvitedTargets targets) := by
        simp [callIfCurrent, Call.removeInvitedTargets, isCall]
      simp only
      split
      · refine keepsTimers_of_ended ?_ ?_ ?_ _ <;>
          simp only [cleanupCurrentCall, still, cancelUnansweredCallTimersForTargets,
            cancelAllUnansweredCallTimers]
      · refine ⟨rfl, rfl, ?_⟩
        rintro _ ⟨⟩
        refine ⟨call, isCurrent, rfl, ?_⟩
        intro target armedFor kept armed
        simp only [cancelUnansweredCallTimersForTargets, Finmap.lookup_retain_eq_some]
        exact ⟨armed, decide_eq_true kept⟩

theorem keepsTimers_removeIncomingCall {disarmed : Finset CallTarget} {after : AppStateInner}
    (callId : CallId) (keeps : KeepsTimers disarmed self after) :
    KeepsTimers disarmed self (after.removeIncomingCall callId) :=
  ⟨keeps.clientId, keeps.autoHangupSeconds, keeps.timers⟩

theorem callIfCurrent_updated {call : Call} (isCall : call.callId = callId) :
    callIfCurrent { self with currentCall := some call } callId = some call := by
  simp [callIfCurrent, isCall]

theorem keepsTimers_onCallUpdate (self : AppStateInner) (msg : CallUpdate) :
    KeepsTimers (self.disarms (.callUpdate msg)) self (self.onCallUpdate msg) := by
  unfold onCallUpdate disarms
  cases incoming : self.incomingCalls.lookup msg.callId with
  | some call => apply keepsTimers_of_same <;> rfl
  | none =>
      have notIncoming : msg.callId ∉ self.incomingCalls.keys := by
        rw [Finmap.mem_keys_iff_lookup, incoming]
        rintro ⟨_, ⟨⟩⟩
      simp only [notIncoming, if_false]
      cases found : self.callIfCurrent msg.callId with
      | none => apply keepsTimers_of_same <;> rfl
      | some call =>
          obtain ⟨isCurrent, isCall⟩ := callIfCurrent_eq_some found
          obtain ⟨after, isAfter⟩ : ∃ after, call.update self.clientId msg.invitedTargets
              msg.joinedParticipants msg.conferenceLeader =
                (after, call.changes self.clientId msg.joinedParticipants) := ⟨_, rfl⟩
          have sameCall : after.callId = call.callId := by
            rw [Call.update, Prod.mk.injEq] at isAfter
            rw [← isAfter.1]
          have sameRoster : decide (self.clientId ∈ msg.joinedParticipants.keys) =
              after.isActive self.clientId := by
            rw [Call.update, Prod.mk.injEq] at isAfter
            rw [← isAfter.1]
            rfl
          simp only [isAfter, sameRoster]
          by_cases ends : ((decide (msg.invitedTargets = ∅) && msg.joinedParticipants.isEmpty) ||
              (call.isActive self.clientId && !after.isActive self.clientId)) = true
          · rw [if_pos ends, if_pos ends]
            refine keepsTimers_of_ended ?_ ?_ ?_ _ <;>
              simp only [cleanupCurrentCall, callIfCurrent_updated (sameCall.trans isCall),
                cancelAllUnansweredCallTimers]
          · rw [if_neg ends, if_neg ends]
            split
            · refine ⟨rfl, rfl, ?_⟩
              rintro _ ⟨⟩
              refine ⟨call, isCurrent, sameCall.symm, ?_⟩
              intro target callId kept armed
              exact absurd ((Finmap.mem_keys_iff_lookup _ _).mpr ⟨callId, armed⟩) kept
            · refine ⟨rfl, rfl, ?_⟩
              rintro _ ⟨⟩
              refine ⟨call, isCurrent, sameCall.symm, ?_⟩
              intro target callId kept armed
              simp only [cancelUnansweredCallTimersForTargets, Finmap.lookup_retain_eq_some]
              exact ⟨armed, decide_eq_true kept⟩

theorem keepsTimers_onCallError (self : AppStateInner) (callId : CallId)
    (reason : CallErrorReason) :
    KeepsTimers (self.disarmsError callId reason) self (self.onCallError callId reason) := by
  cases reason with
  | targetsNotFound targets => exact keepsTimers_giveUpTargets self callId targets
  | maxConferenceSizeReached targets => exact keepsTimers_giveUpTargets self callId targets
  | notConferenceLeader target => exact keepsTimers_giveUpTargets self callId {target}
  | alreadyParticipant target => exact keepsTimers_giveUpTargets self callId {target}
  | callActive | notParticipant | callNotFound | callFailure | other =>
      apply keepsTimers_removeIncomingCall
      apply keepsTimers_cleanupCurrentCall
  | peerConnectionFailed peer => exact keepsTimers_cleanupCurrentCall self callId _
  | unknown | webrtcFailure | audioFailure | signalingFailure | autoHangup =>
      exact keepsTimers_of_same rfl rfl rfl rfl _

theorem keepsTimers_onCallCancelled (self : AppStateInner) (msg : CallCancelled) :
    KeepsTimers (self.disarms (.callCancelled msg)) self (self.onCallCancelled msg) := by
  have disconnected : KeepsTimers (self.disarmsGiven msg.callId msg.targets) self
      (self.onDisconnected msg.callId msg.targets) := by
    unfold onDisconnected
    split
    · apply keepsTimers_of_same <;> rfl
    · exact keepsTimers_giveUpTargets self msg.callId msg.targets
  have ended : ∀ disarmed, KeepsTimers disarmed self
      ((self.cleanupCurrentCall msg.callId).removeIncomingCall msg.callId) := by
    intro disarmed
    apply keepsTimers_removeIncomingCall
    apply keepsTimers_cleanupCurrentCall
  obtain ⟨callId, targets, reason⟩ := msg
  cases reason with
  | answeredElsewhere _ => exact ended _
  | callerCancelled => exact ended _
  | disconnected => exact disconnected
  | unknown _ => exact disconnected
  | rejected _ => exact keepsTimers_giveUpTargets self callId targets
  | errored reason =>
      cases reason with
      | autoHangup => exact ended _
      | _ => exact keepsTimers_giveUpTargets self callId targets

/-- A message cancels no other timers than those it disarms, unless it ends the call. -/
theorem keepsTimers_handleSignalingMessage (self : AppStateInner) (message : ServerMessage) :
    KeepsTimers (self.disarms message) self (self.handleSignalingMessage message).1 := by
  cases message with
  | callInvitation invitation =>
      simp only [handleSignalingMessage, onCallInvitation]
      repeat' split
      all_goals apply keepsTimers_of_same <;> rfl
  | callUpdate update => exact keepsTimers_onCallUpdate self update
  | callCancelled cancelled => exact keepsTimers_onCallCancelled self cancelled
  | callEnd ended =>
      apply keepsTimers_removeIncomingCall
      apply keepsTimers_cleanupCurrentCall
  | callError error => exact keepsTimers_onCallError self error.callId error.reason
  | rateLimited callId targets _ =>
      -- an incoming call has no timers
      have keeps := keepsTimers_giveUpTargets (self.removeIncomingCall callId) callId targets
      exact ⟨keeps.clientId, keeps.autoHangupSeconds, keeps.timers⟩

/-- A client answers a message at most by rejecting an invitation. -/
theorem handleSignalingMessage_quiet (self : AppStateInner) (message : ServerMessage) :
    ∀ sent ∈ (self.handleSignalingMessage message).2, ∀ invite, sent ≠ .callInvite invite := by
  intro sent member invite
  cases message with
  | callInvitation invitation =>
      simp only [handleSignalingMessage, onCallInvitation] at member
      split at member
      · cases member
      · split at member
        · rw [List.mem_singleton.mp member]
          exact ClientMessage.noConfusion
        · cases member
  | _ => cases member

/-! ### Local actions -/

theorem lookup_armTimers (guards : HashMap CallTarget CallId) (callId : CallId)
    (targets : List CallTarget) (target : CallTarget) :
    (armTimers guards callId targets).lookup target =
      if target ∈ targets then some callId else guards.lookup target := by
  unfold armTimers
  induction targets generalizing guards with
  | nil => rfl
  | cons first rest ih =>
      rw [List.foldl_cons, ih, Finmap.lookup_insert_eq]
      by_cases later : target ∈ rest
      · simp [later]
      · by_cases same : target = first <;> simp [later, same]

/-- Starting timers arms the targets and leaves the others alone. -/
theorem startTimers_spec (order : Iteration) (self : AppStateInner)
    (hangsUp : self.autoHangupSeconds ≠ 0) (invited : Call) (targets : Finset CallTarget) :
    ∃ guards,
      (∀ target, guards.lookup target =
        if target ∈ targets then some invited.callId
        else self.unansweredCallGuards.lookup target) ∧
      startUnansweredCallTimerForTargets order { self with currentCall := some invited }
          invited.callId targets =
        { self with currentCall := some invited, unansweredCallGuards := guards } := by
  refine ⟨_, ?_, if_neg hangsUp⟩
  intro target
  simp only [lookup_armTimers, Enumeration.mem_list]
  by_cases named : target ∈ targets
  · rw [if_pos named, if_pos named]
  · rw [if_neg named, if_neg named]
    simp [cancelUnansweredCallTimersForTargets, Finmap.lookup_retain, named]

/-- Inviting targets arms their timers for the current call, which may be a new one. -/
theorem inviteToCall_spec (order : Iteration) (self : AppStateInner)
    (hangsUp : self.autoHangupSeconds ≠ 0) (freshId : CallId) (source : CallSource)
    (targets : Finset CallTarget) (prio : Bool) :
    ∃ invited guards,
      invited.callId = (self.currentCall.map Call.callId).getD freshId ∧
      (∀ target, guards.lookup target =
        if target ∈ targets then some invited.callId
        else self.unansweredCallGuards.lookup target) ∧
      self.inviteToCall order freshId source targets prio =
        ({ self with currentCall := some invited, unansweredCallGuards := guards },
          [.callInvite ⟨invited.callId, source, targets, prio⟩]) := by
  unfold inviteToCall
  cases present : self.currentCall with
  | none =>
      obtain ⟨guards, armed, isStarted⟩ := startTimers_spec order self hangsUp
        (Call.fromInvite ⟨freshId, source, targets, prio⟩) targets
      refine ⟨Call.fromInvite ⟨freshId, source, targets, prio⟩, guards, rfl, armed, ?_⟩
      exact congrArg₂ Prod.mk isStarted rfl
  | some call =>
      obtain ⟨guards, armed, isStarted⟩ := startTimers_spec order self hangsUp
        (call.addInvitedTargets targets) targets
      refine ⟨call.addInvitedTargets targets, guards, rfl, armed, ?_⟩
      exact congrArg₂ Prod.mk isStarted rfl

/-- Dropping a target of the current call tells the server, and leaves the timers of the other
targets alone. -/
theorem dropTarget_cases (self : AppStateInner) (callId : CallId) (dropped : CallTarget) :
    self.dropTarget callId dropped = (self, []) ∨
      ∃ earlier later guards, self.currentCall = some earlier ∧ earlier.callId = callId ∧
        later.callId = callId ∧
        (∀ target, target ≠ dropped →
          guards.lookup target = self.unansweredCallGuards.lookup target) ∧
        self.dropTarget callId dropped =
          ({ self with currentCall := some later, unansweredCallGuards := guards },
            [.callDropTarget callId dropped .requested]) := by
  unfold dropTarget
  cases found : self.callIfCurrent callId with
  | none => exact Or.inl rfl
  | some call =>
      obtain ⟨isCurrent, isCall⟩ := callIfCurrent_eq_some found
      right
      by_cases invited : dropped ∈ call.invitedTargets
      · refine ⟨call, call.removeInvitedTargets {dropped}, _, isCurrent, isCall, isCall, ?_,
          if_pos invited⟩
        intro target differs
        simp [Finmap.lookup_retain, differs]
      · refine ⟨call, call, self.unansweredCallGuards, isCurrent, isCall, isCall,
          fun _ _ => rfl, ?_⟩
        simp only [if_neg invited, ← isCurrent]

/-- An expiring timer hangs up on its target only. -/
theorem timerExpired_cases (self : AppStateInner) (expired : CallTarget) :
    self.timerExpired expired = (self, []) ∨
      ∃ callId current, self.unansweredCallGuards.lookup expired = some callId ∧
        (∀ call, current = some call →
          ∃ earlier, self.currentCall = some earlier ∧ earlier.callId = call.callId) ∧
        self.timerExpired expired =
          ({ self with
              currentCall := current
              unansweredCallGuards := self.unansweredCallGuards.erase expired },
            [.callDropTarget callId expired .autoHangup]) := by
  unfold timerExpired
  cases armed : self.unansweredCallGuards.lookup expired with
  | none => exact Or.inl rfl
  | some callId =>
      right
      cases found : self.callIfCurrent callId with
      | none =>
          refine ⟨callId, self.currentCall, rfl, ?_, ?_⟩
          · intro call isCurrent
            exact ⟨call, isCurrent, rfl⟩
          · have notCurrent : callIfCurrent { self with
                unansweredCallGuards := self.unansweredCallGuards.erase expired } callId = none :=
              found
            simp only [notCurrent]
      | some call =>
          obtain ⟨isCurrent, -⟩ := callIfCurrent_eq_some found
          refine ⟨callId, some (call.removeInvitedTargets {expired}), rfl, ?_, ?_⟩
          · rintro _ ⟨⟩
            exact ⟨call, isCurrent, rfl⟩
          · have stillCurrent : callIfCurrent { self with
                unansweredCallGuards := self.unansweredCallGuards.erase expired } callId =
                  some call := found
            simp only [stillCurrent]

/-- The call that is accepted becomes the current one. -/
theorem acceptCall_cases (self : AppStateInner) (callId : CallId) (endActiveCall : Bool) :
    self.acceptCall callId endActiveCall = (self, []) ∨
      ∃ call after messages, self.incomingCalls.lookup callId = some call ∧
        after.clientId = self.clientId ∧ after.autoHangupSeconds = self.autoHangupSeconds ∧
        after.currentCall = some call ∧
        (∀ message ∈ messages, ∀ invite, message ≠ ClientMessage.callInvite invite) ∧
        self.acceptCall callId endActiveCall = (after, messages) := by
  unfold acceptCall
  cases found : self.incomingCalls.lookup callId with
  | none => exact Or.inl rfl
  | some call =>
      cases present : self.currentCall with
      | none =>
          refine Or.inr ⟨call, _, _, rfl, ?_, ?_, ?_, ?_, rfl⟩
          · rfl
          · rfl
          · rfl
          · intro message member invite
            rw [List.mem_singleton.mp member]
            exact ClientMessage.noConfusion
      | some current =>
          by_cases stays : (!endActiveCall || !current.isActive self.clientId) = true
          · exact Or.inl (if_pos stays)
          · have keeps := self.keepsTimers_cleanupCurrentCall current.callId ∅
            refine Or.inr ⟨call, _, _, rfl, ?_, ?_, ?_, ?_, if_neg stays⟩
            · exact keeps.clientId
            · exact keeps.autoHangupSeconds
            · rfl
            · intro message member invite
              rcases List.mem_append.mp member with ended | accepted
              · rw [List.mem_singleton.mp ended]
                exact ClientMessage.noConfusion
              · rw [List.mem_singleton.mp accepted]
                exact ClientMessage.noConfusion

end AppStateInner

/-! ## The invariant -/

namespace ClientServer

variable {state : ClientServer} {call : CallId} {target : CallTarget}

/-- What the client is told is true, and every target that may ring for it in its current call has
a timer. -/
structure Sound (state : ClientServer) : Prop where
  honest : state.Honest
  hangsUp : state.app.autoHangupSeconds ≠ 0
  armed : ∀ call, state.app.currentCall = some call → ∀ target,
    state.mayRing call.callId target = true →
      state.app.unansweredCallGuards.lookup target = some call.callId

theorem mayRing_act {result : AppStateInner × List ClientMessage}
    (sameClient : result.1.clientId = state.app.clientId) (call : CallId) (target : CallTarget) :
    (state.act result).mayRing call target =
      (result.2.map (messageEffect state.app.clientId)).foldl
        (InvitationEffect.apply call target) (state.mayRing call target) := by
  rw [mayRing_eq, mayRing_eq, act, sameClient, List.map_append, List.foldl_append]

/-- A client that invites nobody makes nothing ring. -/
theorem mayRing_of_act {result : AppStateInner × List ClientMessage}
    (sameClient : result.1.clientId = state.app.clientId)
    (noInvite : ∀ message ∈ result.2, ∀ invite, message ≠ .callInvite invite)
    (rings : (state.act result).mayRing call target = true) :
    state.mayRing call target = true := by
  rw [mayRing_act sameClient] at rings
  refine InvitationEffect.foldl_quiet ?_ rings
  intro effect member before applied
  obtain ⟨message, sent, rfl⟩ := List.mem_map.mp member
  exact messageEffect_quiet (noInvite message sent) applied

/-- Nothing rings, or will, in a call that nobody has heard of. -/
theorem mayRing_of_fresh (fresh : state.Fresh call) (target : CallTarget) :
    state.mayRing call target = false := by
  obtain ⟨notRinging, -, -, notSent, notPending⟩ := fresh
  rw [← Bool.not_eq_true]
  intro rings
  rcases mayRing_cases rings with ringsNow | ⟨targets, isUnfinished, -⟩
  · obtain ⟨entry, _, found, -⟩ := (ringsFor_iff _ _ _ _).mp ringsNow
    exact notRinging ((Finmap.mem_keys_iff_lookup _ _).mpr ⟨entry, found⟩)
  · rcases List.mem_append.mp isUnfinished with pending | sent
    · obtain ⟨step, isPending, names⟩ := List.mem_filterMap.mp pending
      refine notPending step isPending ?_
      cases step with
      | checkInvite | attemptCall =>
          cases names
          rfl
      | _ => cases names
    · obtain ⟨message, isSent, names⟩ := List.mem_filterMap.mp sent
      refine notSent message isSent ?_
      cases message with
      | callInvite invite =>
          cases names
          rfl
      | _ => cases names

theorem mem_candidates (rings : state.mayRing call target = true) :
    target ∈ state.candidates call := by
  unfold candidates
  rw [Finset.mem_union]
  by_contra outside
  rw [not_or] at outside
  obtain ⟨notRinging, notNamed⟩ := outside
  have ringsNow : state.server.calls.ringsFor state.app.clientId call target = true := by
    refine InvitationEffect.foldl_quiet ?_ rings
    intro effect member before applied
    cases effect with
    | invites callId targets =>
        simp only [InvitationEffect.apply, Bool.or_eq_true, Bool.and_eq_true,
          decide_eq_true_eq] at applied
        rcases applied with was | ⟨-, named⟩
        · exact was
        · refine absurd ?_ notNamed
          generalize state.effects = effects at member
          induction effects with
          | nil => cases member
          | cons first rest ih =>
              rw [List.map_cons, List.foldr_cons, Finset.mem_union]
              rcases List.mem_cons.mp member with rfl | later
              · exact Or.inl named
              · exact Or.inr (ih later)
    | revokes callId revoked => exact (Bool.and_eq_true _ _ ▸ applied).1
    | hangsUp callId => exact (Bool.and_eq_true _ _ ▸ applied).1
    | nothing => exact applied
  obtain ⟨entry, ringing, found, present, -⟩ := (ringsFor_iff _ _ _ _).mp ringsNow
  refine notRinging ?_
  have found : state.server.calls.ringingCalls.lookup call = some entry := found
  rw [found, Option.map_some, Option.getD_some]
  exact (Finmap.mem_keys_iff_lookup _ _).mpr ⟨ringing, present⟩

/-- Local actions and messages leave the setting of the timers alone. -/
theorem Sound.act (sound : state.Sound) {result : AppStateInner × List ClientMessage}
    (sameClient : result.1.clientId = state.app.clientId)
    (hangsUp : result.1.autoHangupSeconds = state.app.autoHangupSeconds)
    (armed : ∀ call, result.1.currentCall = some call → ∀ target,
      (state.act result).mayRing call.callId target = true →
        result.1.unansweredCallGuards.lookup target = some call.callId) :
    (state.act result).Sound :=
  ⟨sound.honest.act sameClient, hangsUp ▸ sound.hangsUp, armed⟩

theorem sound_handle {message : ServerMessage} {rest : List ServerMessage}
    (waiting : state.outbound = message :: rest) (sound : state.Sound)
    (uncrossed : state.Uncrossed .handle) :
    (ClientServer.act { state with outbound := rest }
      (state.app.handleSignalingMessage message)).Sound := by
  have keeps := state.app.keepsTimers_handleSignalingMessage message
  have rested : ClientServer.Sound { state with outbound := rest } :=
    ⟨sound.honest.tail waiting, sound.hangsUp, sound.armed⟩
  refine rested.act keeps.clientId keeps.autoHangupSeconds ?_
  intro call isCurrent target rings
  obtain ⟨earlier, wasCurrent, sameCall, kept⟩ := keeps.timers call isCurrent
  have rangBefore : state.mayRing call.callId target = true := by
    have quiet := state.app.handleSignalingMessage_quiet message
    exact mayRing_of_act keeps.clientId quiet rings
  rw [← sameCall] at rangBefore ⊢
  refine kept target earlier.callId ?_ (sound.armed earlier wasCurrent target rangBefore)
  intro disarmed
  have settles := state.app.settles_of_disarms wasCurrent disarmed
  have isForwarded : message ∈ state.outbound := by
    rw [waiting]
    exact List.mem_cons_self
  rcases mayRing_cases rangBefore with ringsNow | ⟨targets, isUnfinished, named⟩
  · -- the client is not told that a target is settled that rings
    have silent := sound.honest.forwarded message isForwarded earlier.callId target settles
    exact Bool.false_ne_true (silent.symm.trans ringsNow)
  · -- the message does not cross the invite
    have quiet := uncrossed.1 (earlier.callId, targets) isUnfinished target named
    have notSettled := (settles_of_quiet quiet).1 message isForwarded
    exact Bool.false_ne_true (notSettled.symm.trans settles)

theorem sound_inviteToCall {order : Iteration} {freshId : CallId} {source : CallSource}
    {targets : Finset CallTarget} {prio : Bool} (sound : state.Sound)
    (allowed : state.app.currentCall.isSome ∨ state.Fresh freshId) :
    (state.act (state.app.inviteToCall order freshId source targets prio)).Sound := by
  obtain ⟨invited, guards, isCall, armed, isResult⟩ :=
    AppStateInner.inviteToCall_spec order state.app sound.hangsUp freshId source targets prio
  rw [isResult]
  refine sound.act rfl rfl ?_
  rintro _ ⟨⟩ target rings
  rw [mayRing_act rfl] at rings
  refine (armed target).trans ?_
  by_cases named : target ∈ targets
  · rw [if_pos named]
  · rw [if_neg named]
    have rangBefore : state.mayRing invited.callId target = true := by
      simpa [messageEffect, InvitationEffect.apply, named] using rings
    cases present : state.app.currentCall with
    | none =>
        rw [present] at isCall allowed
        have fresh : state.Fresh invited.callId := by
          rw [isCall]
          exact allowed.resolve_left Bool.false_ne_true
        have silent := mayRing_of_fresh fresh target
        exact absurd (silent.symm.trans rangBefore) Bool.false_ne_true
    | some earlier =>
        have same : earlier.callId = invited.callId := by
          rw [isCall, present]
          rfl
        rw [← same] at rangBefore ⊢
        exact sound.armed earlier present target rangBefore

/-- A client that does nothing. -/
theorem Sound.idle (sound : state.Sound) : (state.act (state.app, [])).Sound := by
  refine sound.act rfl rfl ?_
  intro call isCurrent target rings
  refine sound.armed call isCurrent target ?_
  refine mayRing_of_act rfl ?_ rings
  intro message sent
  cases sent

theorem sound_dropTarget (sound : state.Sound) (callId : CallId) (dropped : CallTarget) :
    (state.act (state.app.dropTarget callId dropped)).Sound := by
  rcases state.app.dropTarget_cases callId dropped with idle |
    ⟨earlier, later, guards, isCurrent, isCall, sameCall, kept, isResult⟩
  · rw [idle]
    exact sound.idle
  · rw [isResult]
    refine sound.act rfl rfl ?_
    rintro _ ⟨⟩ target rings
    rw [mayRing_act rfl, sameCall] at rings
    have applied : (state.mayRing callId target && !(decide (dropped = target))) = true := by
      simpa [messageEffect, InvitationEffect.apply] using rings
    obtain ⟨rangBefore, differs⟩ := Bool.and_eq_true_iff.mp applied
    have differs : target ≠ dropped := by
      rintro rfl
      simp at differs
    rw [sameCall]
    refine (kept target differs).trans ?_
    rw [← isCall] at rangBefore ⊢
    exact sound.armed earlier isCurrent target rangBefore

theorem sound_timerExpired (sound : state.Sound) (expired : CallTarget) :
    (state.act (state.app.timerExpired expired)).Sound := by
  rcases state.app.timerExpired_cases expired with idle |
    ⟨callId, current, armed, remains, isResult⟩
  · rw [idle]
    exact sound.idle
  · rw [isResult]
    refine sound.act rfl rfl ?_
    intro call isCurrent target rings
    obtain ⟨earlier, wasCurrent, sameCall⟩ := remains call isCurrent
    rw [mayRing_act rfl] at rings
    have applied : (state.mayRing call.callId target &&
        !(decide (callId = call.callId) && decide (expired = target))) = true := rings
    obtain ⟨rangBefore, notRevoked⟩ := Bool.and_eq_true_iff.mp applied
    rw [← sameCall] at rangBefore
    have wasArmed := sound.armed earlier wasCurrent target rangBefore
    rw [sameCall] at wasArmed
    have differs : target ≠ expired := by
      rintro rfl
      -- its timer was armed for the current call, and so the server is told
      cases armed.symm.trans wasArmed
      simp at notRevoked
    exact (Finmap.lookup_erase_ne differs).trans wasArmed

theorem sound_endCall (sound : state.Sound) (callId : CallId) :
    (state.act (state.app.endCall callId)).Sound := by
  have keeps := state.app.keepsTimers_cleanupCurrentCall callId ∅
  refine sound.act keeps.clientId keeps.autoHangupSeconds ?_
  intro call isCurrent target rings
  obtain ⟨earlier, wasCurrent, sameCall, kept⟩ := keeps.timers call isCurrent
  rw [← sameCall] at rings ⊢
  refine kept target earlier.callId (Finset.notMem_empty target) ?_
  refine sound.armed earlier wasCurrent target ?_
  refine mayRing_of_act keeps.clientId ?_ rings
  intro message sent invite
  rw [List.mem_singleton.mp sent]
  exact ClientMessage.noConfusion

theorem sound_acceptCall {callId : CallId} {endActiveCall : Bool} (sound : state.Sound)
    (uncrossed : state.Uncrossed (.acceptCall callId endActiveCall)) :
    (state.act (state.app.acceptCall callId endActiveCall)).Sound := by
  rcases state.app.acceptCall_cases callId endActiveCall with idle |
    ⟨accepted, after, messages, found, sameClient, sameSeconds, isCurrent, noInvite, isResult⟩
  · rw [idle]
    exact sound.idle
  · rw [isResult]
    refine sound.act sameClient sameSeconds ?_
    intro call isCall target rings
    cases isCurrent.symm.trans isCall
    have rangBefore := mayRing_of_act sameClient noInvite rings
    have silent := uncrossed.2.2 accepted found target (mem_candidates rangBefore)
    exact absurd (silent.symm.trans rangBefore) Bool.false_ne_true

theorem Sound.step (sound : state.Sound) {move : SystemMove}
    (uncrossed : state.Uncrossed move) {next : ClientServer}
    (isNext : state.step move = some next) : next.Sound := by
  cases move with
  | others move =>
      simp only [ClientServer.step] at isNext
      split at isNext
      · rename_i avoids
        obtain ⟨server, steps, rfl⟩ := Option.map_eq_some_iff.mp isNext
        refine ⟨sound.honest.others avoids uncrossed steps, sound.hangsUp, ?_⟩
        intro call isCurrent target rings
        refine sound.armed call isCurrent target (mayRing_of_announced ?_ rings)
        exact announced_step sound.honest.settled.orderly avoids steps
      · cases isNext
  | disconnect leaving order =>
      simp only [ClientServer.step] at isNext
      split at isNext
      · cases isNext
      · rename_i allowed
        cases isNext
        refine ⟨sound.honest.disconnect leaving order, sound.hangsUp, ?_⟩
        intro call isCurrent target rings
        refine sound.armed call isCurrent target (mayRing_of_announced ?_ rings)
        refine announced_disconnect sound.honest.settled.orderly ?_
        exact fun isOwn => allowed (Or.inl isOwn)
  | takeUp covering rejection order =>
      simp only [ClientServer.step] at isNext
      split at isNext
      · cases isNext
      · rename_i message rest waiting
        obtain ⟨server, steps, rfl⟩ := Option.map_eq_some_iff.mp isNext
        refine ⟨sound.honest.takeUp waiting uncrossed steps, sound.hangsUp, ?_⟩
        intro call isCurrent target rings
        exact sound.armed call isCurrent target (mayRing_takeUp waiting steps rings)
  | forward order =>
      simp only [ClientServer.step] at isNext
      split at isNext
      · cases isNext
      · rename_i message rest waiting
        obtain ⟨server, steps, rfl⟩ := Option.map_eq_some_iff.mp isNext
        refine ⟨sound.honest.forward waiting steps, sound.hangsUp, ?_⟩
        intro call isCurrent target rings
        refine sound.armed call isCurrent target (mayRing_of_announced ?_ rings)
        exact announced_deliver steps
  | handle =>
      simp only [ClientServer.step] at isNext
      split at isNext
      · cases isNext
      · rename_i message rest waiting
        cases isNext
        exact sound_handle waiting sound uncrossed
  | inviteToCall order freshId source targets prio =>
      simp only [ClientServer.step] at isNext
      split at isNext
      · rename_i allowed
        cases isNext
        exact sound_inviteToCall sound allowed
      · cases isNext
  | dropTarget callId target =>
      cases isNext
      exact sound_dropTarget sound callId target
  | acceptCall callId endActiveCall =>
      cases isNext
      exact sound_acceptCall sound uncrossed
  | endCall callId =>
      cases isNext
      exact sound_endCall sound callId
  | timerExpired target =>
      cases isNext
      exact sound_timerExpired sound target

end ClientServer

/-! ## Runs -/

/-- The client has connected to a server without calls. -/
def ClientServer.start (maxConfSize : ℕ) (clientId : ClientId) (autoHangupSeconds : ℕ)
    (ignored : Finset ClientId) : ClientServer where
  server := .start maxConfSize
  inbound := []
  outbound := []
  app :=
    { clientId, autoHangupSeconds, ignored
      currentCall := none, incomingCalls := ∅, unansweredCallGuards := ∅ }

theorem ClientServer.Honest.start (maxConfSize : ℕ) (clientId : ClientId)
    (autoHangupSeconds : ℕ) (ignored : Finset ClientId) :
    (ClientServer.start maxConfSize clientId autoHangupSeconds ignored).Honest where
  settled := CallServer.settled_start maxConfSize
  truthful := by
    rintro message (waits | ⟨acting, steps, found, -⟩)
    · simp [ClientServer.start, CallServer.start, CallServer.queue] at waits
    · simp [ClientServer.start, CallServer.start] at found
  forwarded := by simp [ClientServer.start]

/-- Whenever nothing is on its way between the client and the server, every target that rings
for the client in its current call has a timer, in every run in which no message crosses an
invite and no target is invited that rings already. -/
theorem targets_timed (maxConfSize : ℕ) (clientId : ClientId) (autoHangupSeconds : ℕ)
    (hangsUp : 0 < autoHangupSeconds) (ignored : Finset ClientId) (moves : List SystemMove)
    (final : ClientServer)
    (uncrossed : GuardedRuns.Guarded ClientServer.step ClientServer.Uncrossed
      (.start maxConfSize clientId autoHangupSeconds ignored) moves)
    (runs : GuardedRuns.runMoves ClientServer.step
      (.start maxConfSize clientId autoHangupSeconds ignored) moves = some final)
    (quiescent : final.Quiescent) : final.Timed := by
  have initially :
      (ClientServer.start maxConfSize clientId autoHangupSeconds ignored).Sound := by
    refine ⟨.start maxConfSize clientId autoHangupSeconds ignored, hangsUp.ne', ?_⟩
    rintro _ ⟨⟩
  have kept : ∀ (state : ClientServer) (move : SystemMove) (next : ClientServer),
      state.Sound → state.Uncrossed move → state.step move = some next → next.Sound := by
    intro state move next sound isUncrossed isNext
    exact sound.step isUncrossed isNext
  have sound := uncrossed.preserves kept runs initially
  obtain ⟨nothingSent, -, -, idle⟩ := quiescent
  intro call isCurrent target rings
  refine sound.armed call isCurrent target ?_
  have nothingPending : final.effects = [] := by
    have absent : final.server.handlers.lookup final.app.clientId = none :=
      Finmap.lookup_eq_none.mpr (by rwa [Finmap.mem_keys] at idle)
    simp [ClientServer.effects, ClientServer.pendingSteps, absent, nothingSent]
  rw [ClientServer.mayRing, nothingPending]
  exact rings

/-! ## A second target -/

section SecondTarget

private def loww : ClientId := ⟨"LOWW"⟩
private def lovv : ClientId := ⟨"LOVV"⟩
private def lowi : ClientId := ⟨"LOWI"⟩

/-- Every target is covered by the client it names. -/
private def coveredByItself : CallTarget → Finset ClientId
  | .client id => {id}
  | .position _ | .station _ => ∅

private def invite (target : ClientId) : SystemMove :=
  .inviteToCall .increasing ⟨1⟩ { clientId := loww } {.client target} false

private def takeUpAnd (steps : ℕ) : List SystemMove :=
  .takeUp coveredByItself none .increasing ::
    List.replicate steps (.others (.proceed loww .increasing 0))

/-- The first target is invited and accepts. -/
private def answered : List SystemMove :=
  [invite lovv] ++ takeUpAnd 6 ++
    [.others (.deliver lovv .increasing),
      .others (.receive lovv (.callAccept ⟨1⟩ lovv) coveredByItself none .increasing)] ++
    List.replicate 4 (.others (.proceed lovv .increasing 0)) ++ [.forward .increasing]

/-- The client invites a second target when it has seen that the first one has joined. -/
def invitesAfterwards : List SystemMove :=
  answered ++ [.handle, invite lowi] ++ takeUpAnd 8 ++ [.forward .increasing, .handle]

theorem invitesAfterwards_timed :
    ∃ final, GuardedRuns.runMoves ClientServer.step (.start 5 ⟨"LOWW"⟩ 20 ∅) invitesAfterwards =
        some final ∧
      final.Quiescent ∧ final.server.calls.ringsFor ⟨"LOWW"⟩ ⟨1⟩ (.client ⟨"LOWI"⟩) = true ∧
      final.Timed := by
  have uncrossed : GuardedRuns.Guarded ClientServer.step ClientServer.Uncrossed
      (.start 5 ⟨"LOWW"⟩ 20 ∅) invitesAfterwards := by
    decide +kernel
  have settles : (GuardedRuns.runMoves ClientServer.step (.start 5 ⟨"LOWW"⟩ 20 ∅)
      invitesAfterwards).any (fun final => decide (final.Quiescent ∧
        final.server.calls.ringsFor ⟨"LOWW"⟩ ⟨1⟩ (.client ⟨"LOWI"⟩) = true)) = true := by
    decide +kernel
  obtain ⟨final, runs, holds⟩ := (Option.any_eq_true _ _).mp settles
  obtain ⟨quiescent, rings⟩ := of_decide_eq_true holds
  exact ⟨final, runs, quiescent, rings, targets_timed 5 ⟨"LOWW"⟩ 20 (by decide) ∅
    invitesAfterwards final uncrossed runs quiescent⟩

/-- The client invites a second target while the update that shows nobody ringing is on its
way to it. -/
def invitationCrosses : List SystemMove :=
  answered ++ [invite lowi, .handle] ++ takeUpAnd 8 ++ [.forward .increasing, .handle]

/-- The second target rings in the current call of the client, and no timer is armed. -/
theorem invitationCrosses_ringsOn :
    ∃ final, GuardedRuns.runMoves ClientServer.step (.start 5 ⟨"LOWW"⟩ 20 ∅) invitationCrosses =
        some final ∧
      final.Quiescent ∧ final.app.currentCall.map Call.callId = some ⟨1⟩ ∧
      final.server.calls.ringsFor ⟨"LOWW"⟩ ⟨1⟩ (.client ⟨"LOWI"⟩) = true ∧
      final.app.unansweredCallGuards = ∅ := by
  have settles : (GuardedRuns.runMoves ClientServer.step (.start 5 ⟨"LOWW"⟩ 20 ∅)
      invitationCrosses).any (fun final => decide (final.Quiescent ∧
        final.app.currentCall.map Call.callId = some ⟨1⟩ ∧
        final.server.calls.ringsFor ⟨"LOWW"⟩ ⟨1⟩ (.client ⟨"LOWI"⟩) = true ∧
        final.app.unansweredCallGuards = ∅)) = true := by
    decide +kernel
  obtain ⟨final, runs, holds⟩ := (Option.any_eq_true _ _).mp settles
  exact ⟨final, runs, of_decide_eq_true holds⟩

/-- The client invites two targets, and invites the first one again while it rings. -/
def invitesAgain : List SystemMove :=
  [.inviteToCall .increasing ⟨1⟩ { clientId := loww } {.client lovv, .client lowi} false] ++
    takeUpAnd 8 ++ [invite lovv] ++ takeUpAnd 6 ++ [.forward .increasing, .handle]

/-- The second invite is refused because the target rings, and the refusal cancels the timer. -/
theorem invitesAgain_ringsOn :
    ∃ final, GuardedRuns.runMoves ClientServer.step (.start 5 ⟨"LOWW"⟩ 20 ∅) invitesAgain =
        some final ∧
      final.Quiescent ∧ final.app.currentCall.map Call.callId = some ⟨1⟩ ∧
      final.server.calls.ringsFor ⟨"LOWW"⟩ ⟨1⟩ (.client ⟨"LOVV"⟩) = true ∧
      final.app.unansweredCallGuards.keys = {.client ⟨"LOWI"⟩} := by
  have settles : (GuardedRuns.runMoves ClientServer.step (.start 5 ⟨"LOWW"⟩ 20 ∅)
      invitesAgain).any (fun final => decide (final.Quiescent ∧
        final.app.currentCall.map Call.callId = some ⟨1⟩ ∧
        final.server.calls.ringsFor ⟨"LOWW"⟩ ⟨1⟩ (.client ⟨"LOVV"⟩) = true ∧
        final.app.unansweredCallGuards.keys = {.client ⟨"LOWI"⟩})) = true := by
    decide +kernel
  obtain ⟨final, runs, holds⟩ := (Option.any_eq_true _ _).mp settles
  exact ⟨final, runs, of_decide_eq_true holds⟩

end SecondTarget

end App

end Vacs
