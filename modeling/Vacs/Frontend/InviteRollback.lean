import Vacs.Foundations.GuardedRuns
import Vacs.Frontend.CallStore

/-!
# Invites that fail

An invite to a conference is pending from the time it is applied to the display until it
was sent or is taken back. Other actions may run in between, and several invites may be
pending at once.

An invite that fails at once leaves the display as it was, except that a target which had
priority before loses it. Whatever runs in between, the conference is active or modified
only while a live call is displayed, and nobody is both joined and listed as rejected or
errored, except in four cases: an invite is taken back from a display that has become
terminal, or whose targets have joined after all; a participant fails of which there are
two; a display is dismissed while the conference is active. `invites_traceless_iff` says
that there are no others.
-/

set_option autoImplicit false

namespace Vacs

namespace Frontend

open GuardedRuns

/-! ## Runs -/

/-- The actions of the store. -/
inductive StoreAction where
  | applyOutgoingCall (event : OutgoingCallEvent)
  | acceptIncomingCall (callId : CallId)
  | endCall
  | addIncomingCall (call : Call)
  | updateCall (order : Enumeration ClientId) (update : CallUpdate)
  | removeCall (callId : CallId) (callEnd : Bool)
  | cancelInvitedTarget (callId : CallId) (target : CallTarget)
  | rejectTargets (callId : CallId) (targets : List CallTarget)
  | dismissRejectedCall
  | dismissRejectedTarget (target : CallTarget)
  | errorTargets (order : Enumeration ClientId) (error : CallError)
  | dismissErrorCall
  | dismissErrorTarget (target : CallTarget)
  | setConnectionState (callId : CallId) (peerId : ClientId) (state : ConnectionState)
  | setPrio (prio : Bool)
  /-- The conference state is set by the conference button only. -/
  | clickConference
  | setMaxConferenceSize (maxConferenceSize : Option ℕ)
  | reset
  /-- The auth store gets another client id. -/
  | authenticate (cid : Option ClientId)

namespace CallStore

def apply (store : CallStore) : StoreAction → CallStore
  | .applyOutgoingCall event => store.applyOutgoingCall event
  | .acceptIncomingCall callId => store.acceptIncomingCall callId
  | .endCall => store.endCall
  | .addIncomingCall call => store.addIncomingCall call
  | .updateCall order update => store.updateCall order update
  | .removeCall callId callEnd => store.removeCall callId callEnd
  | .cancelInvitedTarget callId target => store.cancelInvitedTarget callId target
  | .rejectTargets callId targets => store.rejectTargets callId targets
  | .dismissRejectedCall => store.dismissRejectedCall
  | .dismissRejectedTarget target => store.dismissRejectedTarget target
  | .errorTargets order error => store.errorTargets order error
  | .dismissErrorCall => store.dismissErrorCall
  | .dismissErrorTarget target => store.dismissErrorTarget target
  | .setConnectionState callId peerId state => store.setConnectionState callId peerId state
  | .setPrio prio => { store with prio }
  | .clickConference => store.clickConference
  | .setMaxConferenceSize maxConferenceSize => { store with maxConferenceSize }
  | .reset => store.reset
  | .authenticate cid => { store with cid }

end CallStore

structure InviteRun where
  store : CallStore := {}
  pending : List PendingInvite := []

inductive InviteMove where
  | act (action : StoreAction)
  | startCall (targets : List CallTarget)
  /-- One of the pending invites was sent, or could not be sent. -/
  | finish (index : ℕ) (sent : Bool)

namespace InviteRun

def step (run : InviteRun) : InviteMove → Option InviteRun
  | .act action => some { run with store := run.store.apply action }
  | .startCall targets =>
      some ((run.store.startCall targets).elim run fun started =>
        ⟨started.1, run.pending ++ [started.2]⟩)
  | .finish index sent =>
      run.pending[index]?.map fun invite =>
        ⟨run.store.finishInvite invite sent, run.pending.eraseIdx index⟩

end InviteRun

/-! ## The law and its condition -/

namespace CallDisplay

/-- A target is listed as rejected or errored. -/
def lists (display : CallDisplay) (target : CallTarget) : Bool :=
  display.rejectedTargets.contains target ||
    display.erroredTargets.any fun errored => decide (errored.target = target)

/-- Nobody is both joined and listed as rejected or errored. -/
def Separate (display : CallDisplay) : Prop :=
  ∀ target, hasParticipant display.call.joinedParticipants target → display.lists target = false

/-- The fields that a failed invite is to leave as they were. -/
structure Unchanged (before after : CallDisplay) : Prop where
  type : after.type = before.type
  joinedParticipants : after.call.joinedParticipants = before.call.joinedParticipants
  invitedTargets : after.call.invitedTargets = before.call.invitedTargets
  prioTargets : after.prioTargets = before.prioTargets
  isConferenceLeader : after.call.isConferenceLeader = before.call.isConferenceLeader
  rejectedTargets : ∀ target, target ∈ after.rejectedTargets ↔ target ∈ before.rejectedTargets
  erroredTargets : ∀ errored, errored ∈ after.erroredTargets ↔ errored ∈ before.erroredTargets

end CallDisplay

namespace CallStore

structure Coherent (store : CallStore) : Prop where
  conference : store.conferenceState ≠ .inactive →
    ∃ display, store.callDisplay = some display ∧ display.isTerminal = false
  separate : ∀ display, store.callDisplay = some display → display.Separate

structure Restored (before after : CallStore) : Prop where
  conferenceState : after.conferenceState = before.conferenceState
  callDisplay : Option.Rel CallDisplay.Unchanged before.callDisplay after.callDisplay

end CallStore

namespace InviteRun

/-- The store is coherent after the move, and an invite that fails at once leaves no trace. -/
def TracelessLaw (run : InviteRun) (move : InviteMove) : Prop :=
  (∀ next ∈ run.step move, next.store.Coherent) ∧
    ∀ targets, move = .startCall targets → ∀ started ∈ run.store.startCall targets,
      run.store.Restored (started.1.finishInvite started.2 false)

/-- The participant that fails is joined under one id only. -/
def FailsAlone (display : CallDisplay) : CallErrorOrigin → Prop
  | .client client =>
      ∀ participant ∈ display.call.joinedParticipants.lookup client,
        hasParticipant (display.call.joinedParticipants.erase client) participant.target = false
  | .call | .targets _ => True

/-- An invite is taken back from a live display that none of its listed targets has joined. -/
def TakesBack (run : InviteRun) (invite : PendingInvite) : Prop :=
  ∀ snapshot ∈ invite.snapshot, ∀ current ∈ run.store.callDisplay,
    current.call.callId = snapshot.call.callId →
    current.isTerminal = false ∧
      ∀ target ∈ invite.targets, snapshot.lists target →
        hasParticipant current.call.joinedParticipants target = false

def TracelessCondition (run : InviteRun) : InviteMove → Prop
  | .startCall targets =>
      run.store.mayInvite targets → ∀ display ∈ run.store.callDisplay,
        ∀ target ∈ targets, target ∉ display.prioTargets
  | .finish index sent => sent = false → ∀ invite ∈ run.pending[index]?, run.TakesBack invite
  | .act (.errorTargets _ error) =>
      ∀ display ∈ run.store.callDisplay, display.call.callId = error.callId →
        display.isTerminal = false → error.callEnded = false → FailsAlone display error.origin
  | .act .dismissRejectedCall | .act .dismissErrorCall => run.store.conferenceState = .inactive
  | .act _ => True

instance (display : CallDisplay) : DecidablePred (FailsAlone display)
  | .client client =>
      inferInstanceAs (Decidable (∀ participant ∈ display.call.joinedParticipants.lookup client,
        hasParticipant (display.call.joinedParticipants.erase client) participant.target = false))
  | .call | .targets _ => isTrue trivial

instance (run : InviteRun) : DecidablePred run.TakesBack := fun invite =>
  inferInstanceAs (Decidable (∀ snapshot ∈ invite.snapshot, ∀ current ∈ run.store.callDisplay,
    current.call.callId = snapshot.call.callId →
    current.isTerminal = false ∧
      ∀ target ∈ invite.targets, snapshot.lists target →
        hasParticipant current.call.joinedParticipants target = false))

instance (run : InviteRun) : DecidablePred run.TracelessCondition
  | .startCall targets =>
      inferInstanceAs (Decidable (run.store.mayInvite targets →
        ∀ display ∈ run.store.callDisplay, ∀ target ∈ targets, target ∉ display.prioTargets))
  | .finish index sent =>
      inferInstanceAs (Decidable (sent = false →
        ∀ invite ∈ run.pending[index]?, run.TakesBack invite))
  | .act action => by
      cases action with
      | errorTargets order error =>
          exact inferInstanceAs (Decidable (∀ display ∈ run.store.callDisplay,
            display.call.callId = error.callId → display.isTerminal = false →
            error.callEnded = false → FailsAlone display error.origin))
      | dismissRejectedCall =>
          exact inferInstanceAs (Decidable (run.store.conferenceState = .inactive))
      | dismissErrorCall =>
          exact inferInstanceAs (Decidable (run.store.conferenceState = .inactive))
      | _ => exact isTrue trivial

end InviteRun

/-! ## Participants and lists -/

section Participants

variable {participants : HashMap ClientId Participant} {target : CallTarget}

theorem hasParticipant_iff :
    hasParticipant participants target = true ↔
      ∃ client participant, participants.lookup client = some participant ∧
        participant.target = target := by
  simp only [hasParticipant, Finmap.anyValue_iff, decide_eq_true_eq]

theorem hasParticipant_empty : hasParticipant ∅ target = false := by
  rw [Bool.eq_false_iff, Ne, hasParticipant_iff]
  rintro ⟨client, participant, isParticipant, -⟩
  simp at isParticipant

theorem hasParticipant_erase {client : ClientId}
    (has : hasParticipant (participants.erase client) target = true) :
    hasParticipant participants target = true := by
  obtain ⟨other, participant, isParticipant, isTarget⟩ := hasParticipant_iff.mp has
  rw [Finmap.lookup_erase_eq] at isParticipant
  split at isParticipant
  · cases isParticipant
  · exact hasParticipant_iff.mpr ⟨other, participant, isParticipant, isTarget⟩

/-- A participant may get another connection state. -/
theorem hasParticipant_insert {client : ClientId} {participant : Participant}
    (isParticipant : participants.lookup client = some participant) (state : ConnectionState)
    (has : hasParticipant (participants.insert client { participant with state }) target = true) :
    hasParticipant participants target = true := by
  obtain ⟨other, found, isFound, isTarget⟩ := hasParticipant_iff.mp has
  rw [Finmap.lookup_insert_eq] at isFound
  split at isFound
  · cases isFound
    exact hasParticipant_iff.mpr ⟨client, participant, isParticipant, isTarget⟩
  · exact hasParticipant_iff.mpr ⟨other, found, isFound, isTarget⟩

end Participants

namespace CallDisplay

variable {display next : CallDisplay}

theorem lists_iff {target : CallTarget} :
    display.lists target = true ↔
      target ∈ display.rejectedTargets ∨
        ∃ errored ∈ display.erroredTargets, errored.target = target := by
  simp [lists]

theorem Separate.not_lists (separate : display.Separate) {target : CallTarget}
    (has : hasParticipant display.call.joinedParticipants target = true) :
    ¬ display.lists target = true := by
  rw [separate target has]
  exact Bool.false_ne_true

/-- Fewer participants and shorter lists. -/
theorem Separate.mono (separate : display.Separate)
    (participants : ∀ target, hasParticipant next.call.joinedParticipants target = true →
      hasParticipant display.call.joinedParticipants target = true)
    (lists : ∀ target, next.lists target = true → display.lists target = true) :
    next.Separate := by
  intro target has
  rw [Bool.eq_false_iff]
  exact fun listed => separate.not_lists (participants target has) (lists target listed)

/-- Some targets are added to the lists: none of them may have joined. -/
theorem Separate.extend_iff (separate : display.Separate) (added : CallTarget → Prop)
    (participants : ∀ target, hasParticipant next.call.joinedParticipants target = true →
      hasParticipant display.call.joinedParticipants target = true)
    (lists : ∀ target, next.lists target = true ↔ display.lists target = true ∨ added target) :
    next.Separate ↔
      ∀ target, added target → hasParticipant next.call.joinedParticipants target = false := by
  constructor
  · intro separated target isAdded
    rw [Bool.eq_false_iff]
    exact fun has => separated.not_lists has ((lists target).mpr (.inr isAdded))
  · intro absent target has
    rw [Bool.eq_false_iff]
    intro listed
    obtain isListed | isAdded := (lists target).mp listed
    · exact separate.not_lists (participants target has) isListed
    · exact Bool.false_ne_true ((absent target isAdded).symm.trans has)

theorem lists_mono (rejectedTargets : next.rejectedTargets ⊆ display.rejectedTargets)
    (erroredTargets : next.erroredTargets ⊆ display.erroredTargets) (target : CallTarget)
    (listed : next.lists target = true) : display.lists target = true := by
  obtain isRejected | ⟨errored, isErrored, isTarget⟩ := lists_iff.mp listed
  · exact lists_iff.mpr (.inl (rejectedTargets isRejected))
  · exact lists_iff.mpr (.inr ⟨errored, erroredTargets isErrored, isTarget⟩)

theorem separate_of_unlisted (rejectedTargets : next.rejectedTargets = [])
    (erroredTargets : next.erroredTargets = []) : next.Separate := by
  intro target _
  simp [lists, rejectedTargets, erroredTargets]

theorem isTerminal_congr (type : next.type = display.type) :
    next.isTerminal = display.isTerminal := by
  rw [isTerminal, isTerminal, type]

theorem separate_of_empty (none : next.call.joinedParticipants = ∅) : next.Separate := by
  intro target has
  rw [none, hasParticipant_empty] at has
  cases has

theorem otherPartyCount_ended (display : CallDisplay) :
    otherPartyCount display.ended.call.invitedTargets display.ended.call.joinedParticipants = 0 := by
  simp [ended, otherPartyCount, participantCount]

end CallDisplay

/-! ## Coherence -/

namespace CallStore

variable {store next : CallStore}

theorem Coherent.of_live {display : CallDisplay} (isDisplay : next.callDisplay = some display)
    (live : display.isTerminal = false) (separate : display.Separate) : next.Coherent where
  conference _ := ⟨display, isDisplay, live⟩
  separate other isOther := by
    cases isDisplay.symm.trans isOther
    exact separate

theorem Coherent.of_inactive (inactive : next.conferenceState = .inactive)
    (separate : ∀ display, next.callDisplay = some display → display.Separate) :
    next.Coherent where
  conference active := absurd inactive active
  separate := separate

theorem Coherent.of_none (inactive : next.conferenceState = .inactive)
    (none : next.callDisplay = none) : next.Coherent :=
  .of_inactive inactive fun display isDisplay => by
    rw [none] at isDisplay
    cases isDisplay

/-- The conference ends when there are fewer than two other parties, and the display is live
when there are more. -/
theorem Coherent.of_counted {display : CallDisplay} {otherParties : ℕ}
    (isDisplay : next.callDisplay = some display)
    (inactive : otherParties < 2 → next.conferenceState = .inactive)
    (live : 1 < otherParties → display.isTerminal = false) (separate : display.Separate) :
    next.Coherent := by
  by_cases few : otherParties < 2
  · refine .of_inactive (inactive few) fun other isOther => ?_
    cases isDisplay.symm.trans isOther
    exact separate
  · exact .of_live isDisplay (live (Nat.lt_of_succ_le (Nat.le_of_not_lt few))) separate

theorem coherent_counted_iff {display : CallDisplay} {otherParties : ℕ}
    (isDisplay : next.callDisplay = some display)
    (inactive : otherParties < 2 → next.conferenceState = .inactive)
    (live : 1 < otherParties → display.isTerminal = false) :
    next.Coherent ↔ display.Separate :=
  ⟨fun coherent => coherent.separate display isDisplay, .of_counted isDisplay inactive live⟩

/-- The rest of the store does not matter. -/
theorem Coherent.congr (coherent : store.Coherent)
    (callDisplay : next.callDisplay = store.callDisplay)
    (conferenceState : next.conferenceState = store.conferenceState) : next.Coherent where
  conference active := by
    rw [conferenceState] at active
    rw [callDisplay]
    exact coherent.conference active
  separate := by
    rw [callDisplay]
    exact coherent.separate

/-! ## What the actions keep -/

theorem updatedDisplay_live (order : Enumeration ClientId) {display : CallDisplay}
    (live : display.isTerminal = false) (update : CallUpdate) :
    (store.updatedDisplay order display update).isTerminal = false := by
  unfold updatedDisplay CallDisplay.isTerminal
  simp only
  split_ifs
  · rfl
  · exact live

/-- Whoever has joined is taken from the lists. -/
theorem updatedDisplay_separate (order : Enumeration ClientId) (display : CallDisplay)
    (update : CallUpdate) : (store.updatedDisplay order display update).Separate := by
  intro target has
  obtain ⟨client, participant, isParticipant, isTarget⟩ := hasParticipant_iff.mp has
  simp only [updatedDisplay, Finmap.lookup_filterMap] at isParticipant
  obtain ⟨joined, isJoined, same⟩ := Option.bind_eq_some_iff.mp isParticipant
  cases same
  have present : hasJoined update.joinedParticipants target = true := by
    rw [hasJoined, Finmap.anyValue_iff]
    exact ⟨client, joined, isJoined, by simpa using isTarget⟩
  rw [Bool.eq_false_iff, Ne, CallDisplay.lists_iff]
  rintro (isRejected | ⟨errored, isErrored, isErroredTarget⟩)
  · simp [updatedDisplay, present] at isRejected
  · simp [updatedDisplay, isErroredTarget, present] at isErrored

variable (coherent : store.Coherent)
include coherent

theorem Coherent.addInvitedTargets {display : CallDisplay}
    (isDisplay : store.callDisplay = some display) (live : display.isTerminal = false)
    (targets : List CallTarget) (prio : Bool) :
    (store.addInvitedTargets display targets prio).Coherent := by
  refine .of_live rfl live ((coherent.separate display isDisplay).mono (fun _ has => has) ?_)
  exact CallDisplay.lists_mono (List.filter_subset_self _) (List.filter_subset_self _)

theorem Coherent.applyOutgoingCall (event : OutgoingCallEvent) :
    (store.applyOutgoingCall event).Coherent := by
  unfold CallStore.applyOutgoingCall
  split
  · exact coherent
  · split
    · rename_i display isDisplay
      split_ifs with terminal
      · exact coherent
      · exact coherent.addInvitedTargets (Option.filter_eq_some_iff.mp isDisplay).1
          (Bool.eq_false_iff.mpr terminal) event.targets event.prio
    · exact .of_live rfl rfl (CallDisplay.separate_of_unlisted rfl rfl)

theorem Coherent.acceptIncomingCall (callId : CallId) :
    (store.acceptIncomingCall callId).Coherent := by
  unfold CallStore.acceptIncomingCall
  split
  · exact coherent
  · exact .of_live rfl rfl (CallDisplay.separate_of_unlisted rfl rfl)

theorem Coherent.updateCall (order : Enumeration ClientId) (update : CallUpdate) :
    (store.updateCall order update).Coherent := by
  unfold CallStore.updateCall
  split
  · exact coherent.congr rfl rfl
  · split
    · exact coherent
    · rename_i display isDisplay
      split
      · exact coherent
      · rename_i terminal
        exact .of_live rfl (updatedDisplay_live order (Bool.eq_false_iff.mpr terminal) update)
          (updatedDisplay_separate order display update)

theorem Coherent.removeCall (callId : CallId) (callEnd : Bool) :
    (store.removeCall callId callEnd).Coherent := by
  unfold CallStore.removeCall
  simp only
  split
  · exact coherent.congr rfl rfl
  · split_ifs
    · exact .of_none rfl rfl
    · exact coherent.congr rfl rfl

theorem Coherent.cancelInvitedTarget (callId : CallId) (target : CallTarget) :
    (store.cancelInvitedTarget callId target).Coherent := by
  unfold CallStore.cancelInvitedTarget
  split
  · exact coherent
  · rename_i display isDisplay
    have separate := coherent.separate display (Option.filter_eq_some_iff.mp isDisplay).1
    split
    · exact coherent
    · rename_i terminal
      exact .of_live rfl (Bool.eq_false_iff.mpr terminal) separate

theorem Coherent.rejectTargets (callId : CallId) (rejected : List CallTarget) :
    (store.rejectTargets callId rejected).Coherent := by
  unfold CallStore.rejectTargets
  split
  · exact coherent.removeCall callId false
  · rename_i display isDisplay
    have separate := coherent.separate display (Option.filter_eq_some_iff.mp isDisplay).1
    split
    · exact coherent
    · rename_i terminal
      simp only
      split
      · exact coherent
      · refine .of_counted rfl (fun few => if_pos few) (fun many => ?_) ?_
        · rw [CallDisplay.isTerminal_congr (if_pos (Nat.zero_lt_of_lt many))]
          exact Bool.eq_false_iff.mpr terminal
        · refine (separate.extend_iff (· ∈ rejected.filter fun target =>
            !hasParticipant display.call.joinedParticipants target) ?_ fun target => ?_).mpr ?_
          · exact fun _ has => has
          · simp only [CallDisplay.lists_iff, List.mem_append, CallDisplay.withoutInvited]
            exact or_right_comm
          · exact fun target isNew => Bool.not_eq_true' _ ▸ (List.mem_filter.mp isNew).2

theorem Coherent.dismissTarget {display : CallDisplay} (isDisplay : store.callDisplay = some display)
    {shorter : CallDisplay} (type : shorter.type = display.type)
    (separate : shorter.Separate) : (store.setDismissedDisplay shorter).Coherent := by
  unfold setDismissedDisplay
  split_ifs
  · exact .of_none rfl rfl
  · refine ⟨fun active => ?_, fun other isOther => ?_⟩
    · obtain ⟨live, isLive, notTerminal⟩ := coherent.conference active
      cases isDisplay.symm.trans isLive
      exact ⟨shorter, rfl, (CallDisplay.isTerminal_congr type).trans notTerminal⟩
    · cases isOther
      exact separate

theorem Coherent.dismissRejectedTarget (target : CallTarget) :
    (store.dismissRejectedTarget target).Coherent := by
  unfold CallStore.dismissRejectedTarget
  cases isDisplay : store.callDisplay with
  | none => exact coherent
  | some display =>
      refine coherent.dismissTarget isDisplay rfl ?_
      refine (coherent.separate display isDisplay).mono (fun _ has => has) ?_
      exact CallDisplay.lists_mono (List.filter_subset_self _) (List.Subset.refl _)

theorem Coherent.dismissErrorTarget (target : CallTarget) :
    (store.dismissErrorTarget target).Coherent := by
  unfold CallStore.dismissErrorTarget
  cases isDisplay : store.callDisplay with
  | none => exact coherent
  | some display =>
      refine coherent.dismissTarget isDisplay rfl ?_
      refine (coherent.separate display isDisplay).mono (fun _ has => has) ?_
      exact CallDisplay.lists_mono (List.Subset.refl _) (List.filter_subset_self _)

theorem Coherent.setConnectionState (callId : CallId) (peerId : ClientId)
    (state : ConnectionState) : (store.setConnectionState callId peerId state).Coherent := by
  unfold CallStore.setConnectionState
  split
  · exact coherent
  · rename_i display isDisplay
    have separate := coherent.separate display (Option.filter_eq_some_iff.mp isDisplay).1
    split
    · exact coherent
    · rename_i terminal
      cases isParticipant : display.call.joinedParticipants.lookup peerId with
      | none => exact coherent
      | some participant =>
          refine .of_live rfl (Bool.eq_false_iff.mpr terminal) (separate.mono ?_ fun _ listed => listed)
          exact fun target has => hasParticipant_insert isParticipant state has

theorem Coherent.clickConference : store.clickConference.Coherent := by
  unfold CallStore.clickConference
  split
  · exact coherent
  · rename_i display isDisplay
    split
    · rename_i established
      refine .of_live isDisplay ?_ (coherent.separate display isDisplay)
      rw [CallDisplay.isTerminal, established.1]
      rfl
    · exact coherent

omit coherent

/-! ## Errors -/

/-- The display with the targets of an error listed: only one that is joined twice is still
joined. -/
theorem takeErrored_separate_iff {display left errored : CallDisplay}
    (separate : display.Separate) {cid : Option ClientId} {order : Enumeration ClientId}
    {origin : CallErrorOrigin} {targets : List CallTarget}
    (taken : display.takeErrored cid order origin = some (targets, left)) (reason : String)
    (joinedParticipants : errored.call.joinedParticipants = left.call.joinedParticipants)
    (rejectedTargets : errored.rejectedTargets = left.rejectedTargets)
    (erroredTargets :
      errored.erroredTargets = left.erroredTargets ++ targets.map (⟨·, reason⟩)) :
    errored.Separate ↔ InviteRun.FailsAlone display origin := by
  have lists (same : left.rejectedTargets = display.rejectedTargets ∧
      left.erroredTargets = display.erroredTargets) (target : CallTarget) :
      errored.lists target = true ↔ display.lists target = true ∨ target ∈ targets := by
    simp [CallDisplay.lists_iff, rejectedTargets, erroredTargets, same.1, same.2, or_and_right,
      exists_or, or_assoc]
  cases origin with
  | call =>
      cases taken
      exact iff_of_true (CallDisplay.separate_of_empty joinedParticipants) trivial
  | targets value =>
      obtain ⟨-, same⟩ := Option.ite_none_left_eq_some.mp taken
      cases same
      refine iff_of_true ((separate.extend_iff _ ?_ (lists ⟨rfl, rfl⟩)).mpr ?_) trivial
      · exact fun target has => joinedParticipants ▸ has
      · intro target isTarget
        rw [joinedParticipants]
        exact Bool.not_eq_true' _ ▸ (List.mem_filter.mp isTarget).2
  | client client =>
      obtain ⟨participant, isParticipant, same⟩ := Option.map_eq_some_iff.mp taken
      cases same
      refine (separate.extend_iff _ ?_ (lists ⟨rfl, rfl⟩)).trans ?_
      · intro target has
        rw [joinedParticipants] at has
        exact hasParticipant_erase has
      · rw [joinedParticipants]
        simp [InviteRun.FailsAlone, isParticipant, CallDisplay.withoutInvited]

theorem takeErrored_type {display left : CallDisplay} {cid : Option ClientId}
    {order : Enumeration ClientId} {origin : CallErrorOrigin} {targets : List CallTarget}
    (taken : display.takeErrored cid order origin = some (targets, left)) :
    left.type = display.type := by
  cases origin with
  | call =>
      cases taken
      rfl
  | targets value =>
      obtain ⟨-, same⟩ := Option.ite_none_left_eq_some.mp taken
      cases same
      rfl
  | client client =>
      obtain ⟨participant, -, same⟩ := Option.map_eq_some_iff.mp taken
      cases same
      rfl

theorem failsAlone_of_takeErrored {display : CallDisplay} {cid : Option ClientId}
    {order : Enumeration ClientId} {origin : CallErrorOrigin}
    (isNone : display.takeErrored cid order origin = none) :
    InviteRun.FailsAlone display origin := by
  cases origin with
  | client client =>
      intro participant isParticipant
      rw [CallDisplay.takeErrored, Option.mem_def.mp isParticipant] at isNone
      cases isNone
  | call => trivial
  | targets value => trivial

theorem Coherent.errorTargets_iff (coherent : store.Coherent) (order : Enumeration ClientId)
    (error : CallError) :
    (store.errorTargets order error).Coherent ↔
      ∀ display ∈ store.callDisplay, display.call.callId = error.callId →
        display.isTerminal = false → error.callEnded = false →
        InviteRun.FailsAlone display error.origin := by
  unfold CallStore.errorTargets
  split
  · rename_i isNone
    refine iff_of_true (coherent.removeCall error.callId false) fun display isDisplay same => ?_
    rw [Option.mem_def.mp isDisplay, Option.filter_some, if_pos (decide_eq_true same)] at isNone
    cases isNone
  · rename_i display isDisplay
    obtain ⟨isDisplay, isCall⟩ := Option.filter_eq_some_iff.mp isDisplay
    have separate := coherent.separate display isDisplay
    have same : ∀ {condition : CallDisplay → Prop},
        (∀ display ∈ store.callDisplay, condition display) ↔ condition display := by
      intro condition
      rw [isDisplay]
      simp
    rw [same]
    split
    · rename_i terminal
      exact iff_of_true coherent fun _ live => absurd terminal (Bool.eq_false_iff.mp live)
    · rename_i terminal
      split
      · rename_i isNone
        exact iff_of_true coherent fun _ _ _ => failsAlone_of_takeErrored isNone
      · rename_i targets left taken
        have live := Bool.eq_false_iff.mpr terminal
        have type := takeErrored_type taken
        cases ended : error.callEnded with
        | true =>
            refine iff_of_true ?_ fun _ _ never => by cases never
            simp only [if_true, left.otherPartyCount_ended]
            refine .of_inactive rfl fun errored isErrored => ?_
            cases isErrored
            exact CallDisplay.separate_of_empty rfl
        | false =>
            simp only [Bool.false_eq_true, if_false]
            refine (coherent_counted_iff rfl (fun few => if_pos few) fun many => ?_).trans
              ((takeErrored_separate_iff separate taken error.reason ?_ ?_ ?_).trans
                ⟨fun alone _ _ _ => alone, fun alone => ?_⟩)
            · rw [CallDisplay.isTerminal_congr ((if_pos (Nat.zero_lt_of_lt many)).trans type)]
              exact live
            · rfl
            · rfl
            · rfl
            · exact alone (of_decide_eq_true isCall) live trivial

/-! ## Invites -/

theorem mayInvite_display {targets : List CallTarget} {display : CallDisplay}
    (may : store.mayInvite targets = true) (isDisplay : store.callDisplay = some display) :
    store.conferenceState = .modify ∧ display.call.isConferenceLeader ≠ some false ∧
      ∀ target ∈ targets, target ∉ display.call.invitedTargets := by
  simp only [mayInvite, isDisplay, Bool.and_eq_true, Option.all_some, decide_eq_true_eq,
    List.all_eq_true] at may
  obtain ⟨⟨⟨-, ⟨modify, leader⟩, absent⟩, -⟩, -⟩ := may
  exact ⟨modify, leader, fun target isTarget => (absent target isTarget).2⟩

theorem Coherent.startCall (coherent : store.Coherent) {targets : List CallTarget}
    {invite : PendingInvite} (starts : store.startCall targets = some (next, invite)) :
    next.Coherent := by
  obtain ⟨may, started⟩ := Option.ite_none_right_eq_some.mp starts
  cases isDisplay : store.callDisplay with
  | none =>
      rw [isDisplay] at started
      cases started
      exact coherent
  | some display =>
      rw [isDisplay] at started
      cases started
      obtain ⟨live, isLive, notTerminal⟩ := coherent.conference (by
        rw [(mayInvite_display may isDisplay).1]
        decide)
      cases isDisplay.symm.trans isLive
      exact coherent.addInvitedTargets isDisplay notTerminal targets store.prio

theorem rollBackInvite_of_same {snapshot current : CallDisplay}
    (isDisplay : store.callDisplay = some current)
    (same : current.call.callId = snapshot.call.callId) (targets : List CallTarget)
    (previousConferenceState : ConferenceState) :
    store.rollBackInvite snapshot targets previousConferenceState =
      { store with
        callDisplay := some (rolledBack snapshot targets current)
        conferenceState := previousConferenceState } := by
  rw [rollBackInvite, isDisplay, Option.filter_some, if_pos (decide_eq_true same)]

theorem rollBackInvite_of_other {snapshot : CallDisplay}
    (other : ∀ current ∈ store.callDisplay, current.call.callId ≠ snapshot.call.callId)
    (targets : List CallTarget) (previousConferenceState : ConferenceState) :
    store.rollBackInvite snapshot targets previousConferenceState = store := by
  unfold rollBackInvite
  split
  · rfl
  · rename_i current isDisplay
    obtain ⟨isDisplay, same⟩ := Option.filter_eq_some_iff.mp isDisplay
    exact absurd (of_decide_eq_true same) (other current isDisplay)

section Restores

variable {display : CallDisplay} {targets : List CallTarget}

theorem filter_append_filter (before : List CallTarget) (known : List CallTarget) :
    (before ++ targets.filter fun target => target ∉ known).filter (fun target => target ∉ targets) =
      before.filter fun target => target ∉ targets := by
  rw [List.filter_append, List.filter_filter, List.append_right_eq_self, List.filter_eq_nil_iff]
  intro target isTarget
  simp [isTarget]

theorem filter_eq_self_iff (before : List CallTarget) :
    before.filter (fun target => target ∉ targets) = before ↔
      ∀ target ∈ targets, target ∉ before := by
  rw [List.filter_eq_self]
  simp only [decide_eq_true_eq]
  exact ⟨fun absent target isTarget isBefore => absent target isBefore isTarget,
    fun absent target isBefore isTarget => absent target isTarget isBefore⟩

/-- The display of an invite that fails at once. -/
theorem unchanged_iff (prio : Bool) (leader : display.call.isConferenceLeader ≠ some false)
    (absent : ∀ target ∈ targets, target ∉ display.call.invitedTargets) :
    display.Unchanged (rolledBack display targets (display.withInvited targets prio)) ↔
      ∀ target ∈ targets, target ∉ display.prioTargets := by
  have prioTargets : (rolledBack display targets (display.withInvited targets prio)).prioTargets =
      display.prioTargets.filter fun target => target ∉ targets := by
    cases prio with
    | true => exact filter_append_filter display.prioTargets display.prioTargets
    | false => simp [rolledBack, CallDisplay.withInvited]
  rw [← filter_eq_self_iff, ← prioTargets]
  refine ⟨CallDisplay.Unchanged.prioTargets, fun same => ⟨rfl, rfl, ?_, same, ?_, ?_, ?_⟩⟩
  · refine (filter_append_filter display.call.invitedTargets display.call.invitedTargets).trans ?_
    exact (filter_eq_self_iff display.call.invitedTargets).mpr absent
  · cases isLeader : display.call.isConferenceLeader with
    | none => simp [rolledBack, CallDisplay.withInvited, isLeader]
    | some leads =>
        cases leads with
        | true => simp [rolledBack, CallDisplay.withInvited, isLeader]
        | false => exact absurd isLeader leader
  · intro target
    simp only [rolledBack, CallDisplay.withInvited, List.mem_append, List.mem_filter,
      decide_eq_true_eq]
    tauto
  · intro errored
    simp only [rolledBack, CallDisplay.withInvited, List.mem_append, List.mem_filter,
      decide_eq_true_eq]
    tauto

theorem restored_iff {invite : PendingInvite}
    (starts : store.startCall targets = some (next, invite)) :
    store.Restored (next.finishInvite invite false) ↔
      ∀ display ∈ store.callDisplay, ∀ target ∈ targets, target ∉ display.prioTargets := by
  obtain ⟨may, started⟩ := Option.ite_none_right_eq_some.mp starts
  cases started
  cases isDisplay : store.callDisplay with
  | none =>
      refine iff_of_true ⟨rfl, ?_⟩ fun display never => by cases never
      simp [finishInvite, isDisplay]
  | some display =>
      obtain ⟨modify, leader, absent⟩ := mayInvite_display may isDisplay
      simp only [Option.elim_some, finishInvite, Bool.false_eq_true, if_false]
      have added : (store.addInvitedTargets display targets store.prio).callDisplay =
          some (display.withInvited targets store.prio) := rfl
      have sameCall : (display.withInvited targets store.prio).call.callId = display.call.callId := rfl
      rw [rollBackInvite_of_same added sameCall]
      have restores := unchanged_iff store.prio leader absent
      constructor
      · rintro ⟨-, unchanged⟩ other isOther
        cases isOther
        rw [isDisplay] at unchanged
        cases unchanged with
        | some unchanged => exact restores.mp unchanged
      · intro unprivileged
        refine ⟨rfl, ?_⟩
        rw [isDisplay]
        exact .some (restores.mpr (unprivileged display rfl))

end Restores

end CallStore

namespace InviteRun

variable {run next : InviteRun}

theorem lists_rolledBack (snapshot current : CallDisplay) (targets : List CallTarget)
    (target : CallTarget) :
    (CallStore.rolledBack snapshot targets current).lists target = true ↔
      current.lists target = true ∨ target ∈ targets ∧ snapshot.lists target = true := by
  simp only [CallDisplay.lists_iff, CallStore.rolledBack, List.mem_append, List.mem_filter,
    decide_eq_true_eq]
  constructor
  · rintro ((isRejected | ⟨isRejected, isTarget⟩) | ⟨errored, isErrored | ⟨isErrored, isTarget⟩, rfl⟩)
    · exact .inl (.inl isRejected)
    · exact .inr ⟨isTarget, .inl isRejected⟩
    · exact .inl (.inr ⟨errored, isErrored, rfl⟩)
    · exact .inr ⟨isTarget, .inr ⟨errored, isErrored, rfl⟩⟩
  · rintro ((isRejected | ⟨errored, isErrored, rfl⟩) | ⟨isTarget, isRejected | ⟨errored, isErrored, rfl⟩⟩)
    · exact .inl (.inl isRejected)
    · exact .inr ⟨errored, .inl isErrored, rfl⟩
    · exact .inl (.inr ⟨isRejected, isTarget⟩)
    · exact .inr ⟨errored, .inr ⟨isErrored, isTarget⟩, rfl⟩

/-- An invite to a displayed call was made while the conference was modified. -/
def Modifies (invite : PendingInvite) : Prop :=
  invite.snapshot.isSome → invite.previousConferenceState = .modify

theorem modifies_of_startCall {store started : CallStore} {targets : List CallTarget}
    {invite : PendingInvite} (starts : store.startCall targets = some (started, invite)) :
    Modifies invite := by
  obtain ⟨may, same⟩ := Option.ite_none_right_eq_some.mp starts
  cases same
  intro isDisplay
  obtain ⟨display, isDisplay⟩ := Option.isSome_iff_exists.mp isDisplay
  exact (CallStore.mayInvite_display may isDisplay).1

theorem finishInvite_iff (coherent : run.store.Coherent) {invite : PendingInvite}
    (modifies : Modifies invite) :
    (run.store.finishInvite invite false).Coherent ↔ run.TakesBack invite := by
  obtain ⟨snapshot, targets, previousConferenceState⟩ := invite
  cases snapshot with
  | none => exact iff_of_true coherent fun snapshot never => by cases never
  | some snapshot =>
      cases modifies rfl
      simp only [CallStore.finishInvite, Bool.false_eq_true, if_false, Option.elim_some]
      by_cases same : ∃ current ∈ run.store.callDisplay, current.call.callId = snapshot.call.callId
      · obtain ⟨current, isDisplay, same⟩ := same
        rw [CallStore.rollBackInvite_of_same isDisplay same]
        have separate : (CallStore.rolledBack snapshot targets current).Separate ↔
            ∀ target, target ∈ targets ∧ snapshot.lists target = true →
              hasParticipant current.call.joinedParticipants target = false :=
          (coherent.separate current isDisplay).extend_iff _ (fun _ has => has)
            (lists_rolledBack snapshot current targets)
        constructor
        · rintro back _ ⟨⟩ other isOther -
          cases isDisplay.symm.trans isOther
          obtain ⟨live, isLive, notTerminal⟩ := back.conference fun never => by cases never
          cases isLive
          refine ⟨notTerminal, fun target isTarget listed => ?_⟩
          exact separate.mp (back.separate _ rfl) target ⟨isTarget, listed⟩
        · intro takesBack
          obtain ⟨live, absent⟩ := takesBack snapshot rfl current isDisplay same
          refine .of_live rfl live (separate.mpr ?_)
          exact fun target listed => absent target listed.1 listed.2
      · push Not at same
        rw [CallStore.rollBackInvite_of_other same]
        refine iff_of_true coherent ?_
        rintro _ ⟨⟩ current isDisplay isSame
        exact absurd isSame (same current isDisplay)

/-! ## The condition is exact -/

theorem dismissCall_iff (store : CallStore) :
    store.dismissCall.Coherent ↔ store.conferenceState = .inactive := by
  constructor
  · intro coherent
    by_contra active
    obtain ⟨display, never, -⟩ := coherent.conference active
    cases never
  · exact fun inactive => .of_none inactive rfl

theorem apply_iff (coherent : run.store.Coherent) (action : StoreAction) :
    (run.store.apply action).Coherent ↔ run.TracelessCondition (.act action) := by
  cases action with
  | errorTargets order error => exact coherent.errorTargets_iff order error
  | dismissRejectedCall => exact dismissCall_iff run.store
  | dismissErrorCall => exact dismissCall_iff run.store
  | applyOutgoingCall event => exact iff_of_true (coherent.applyOutgoingCall event) trivial
  | acceptIncomingCall callId => exact iff_of_true (coherent.acceptIncomingCall callId) trivial
  | endCall => exact iff_of_true (.of_none rfl rfl) trivial
  | addIncomingCall call => exact iff_of_true (coherent.congr rfl rfl) trivial
  | updateCall order update => exact iff_of_true (coherent.updateCall order update) trivial
  | removeCall callId callEnd => exact iff_of_true (coherent.removeCall callId callEnd) trivial
  | cancelInvitedTarget callId target =>
      exact iff_of_true (coherent.cancelInvitedTarget callId target) trivial
  | rejectTargets callId targets =>
      exact iff_of_true (coherent.rejectTargets callId targets) trivial
  | dismissRejectedTarget target =>
      exact iff_of_true (coherent.dismissRejectedTarget target) trivial
  | dismissErrorTarget target => exact iff_of_true (coherent.dismissErrorTarget target) trivial
  | setConnectionState callId peerId state =>
      exact iff_of_true (coherent.setConnectionState callId peerId state) trivial
  | setPrio prio => exact iff_of_true (coherent.congr rfl rfl) trivial
  | clickConference => exact iff_of_true coherent.clickConference trivial
  | setMaxConferenceSize maxConferenceSize => exact iff_of_true (coherent.congr rfl rfl) trivial
  | reset => exact iff_of_true (.of_none rfl rfl) trivial
  | authenticate cid => exact iff_of_true (coherent.congr rfl rfl) trivial

structure Sound (run : InviteRun) : Prop where
  coherent : run.store.Coherent
  modifies : ∀ invite ∈ run.pending, Modifies invite

theorem sound_empty : Sound {} where
  coherent := .of_none rfl rfl
  modifies _ never := by cases never

theorem tracelessCondition_iff (sound : run.Sound) {move : InviteMove}
    (steps : run.step move = some next) :
    run.TracelessCondition move ↔ run.TracelessLaw move := by
  have law : run.TracelessLaw move ↔ next.store.Coherent ∧
      ∀ targets, move = .startCall targets → ∀ started ∈ run.store.startCall targets,
        run.store.Restored (started.1.finishInvite started.2 false) := by
    rw [TracelessLaw, steps]
    simp
  rw [law]
  cases move with
  | act action =>
      cases steps
      rw [← apply_iff sound.coherent]
      exact ⟨fun coherent => ⟨coherent, fun _ never => by cases never⟩, And.left⟩
  | startCall targets =>
      have steps := Option.some.inj steps
      cases starts : run.store.startCall targets with
      | none =>
          rw [starts] at steps
          refine iff_of_true (fun may => ?_) ⟨steps ▸ sound.coherent, ?_⟩
          · rw [CallStore.startCall, if_pos may] at starts
            cases starts
          · rintro _ ⟨⟩ started isStarted
            rw [starts] at isStarted
            cases isStarted
      | some started =>
          obtain ⟨store, invite⟩ := started
          rw [starts] at steps
          have may := (Option.ite_none_right_eq_some.mp starts).1
          have restores := CallStore.restored_iff starts
          constructor
          · intro unprivileged
            refine ⟨steps ▸ sound.coherent.startCall starts, ?_⟩
            rintro _ ⟨⟩ started isStarted
            cases starts.symm.trans isStarted
            exact restores.mpr (unprivileged may)
          · rintro ⟨-, restored⟩ -
            exact restores.mp (restored targets rfl _ starts)
  | finish index sent =>
      obtain ⟨invite, isInvite, rfl⟩ := Option.map_eq_some_iff.mp steps
      have modifies := sound.modifies invite (List.mem_of_getElem? isInvite)
      refine Iff.trans ?_ (and_iff_left fun _ never => by cases never).symm
      cases sent with
      | true => exact iff_of_true (fun never => by cases never) (sound.coherent.congr rfl rfl)
      | false =>
          rw [finishInvite_iff sound.coherent modifies]
          simp [TracelessCondition, isInvite]

theorem Sound.step (sound : run.Sound) {move : InviteMove}
    (condition : run.TracelessCondition move) (steps : run.step move = some next) :
    next.Sound := by
  refine ⟨((tracelessCondition_iff sound steps).mp condition).1 next steps, ?_⟩
  cases move with
  | act action =>
      cases steps
      exact sound.modifies
  | startCall targets =>
      have steps := Option.some.inj steps
      cases starts : run.store.startCall targets with
      | none =>
          rw [starts] at steps
          exact steps ▸ sound.modifies
      | some started =>
          obtain ⟨store, invite⟩ := started
          rw [starts] at steps
          subst steps
          intro pending isPending
          obtain isPending | isPending := List.mem_append.mp isPending
          · exact sound.modifies pending isPending
          · rw [List.mem_singleton.mp isPending]
            exact modifies_of_startCall starts
  | finish index sent =>
      obtain ⟨invite, -, rfl⟩ := Option.map_eq_some_iff.mp steps
      exact fun pending isPending => sound.modifies pending (List.mem_of_mem_eraseIdx isPending)

/-- The law holds at every move of a run exactly when the condition does. -/
theorem invites_traceless_iff {moves : List InviteMove} {final : InviteRun}
    (runs : runMoves step {} moves = some final) :
    Guarded step TracelessLaw {} moves ↔ Guarded step TracelessCondition {} moves :=
  (guarded_iff (fun _ _ _ sound steps => tracelessCondition_iff sound steps)
    (fun _ _ _ sound condition steps => sound.step condition steps) runs sound_empty).symm

def controller (cid : String) : CallTarget := { client := some ⟨cid⟩ }

/-- The first client calls the second one, and invites the third one to the call. -/
def invitation : List InviteMove :=
  [.act (.authenticate (some ⟨"1"⟩)),
    .act (.applyOutgoingCall ⟨⟨1⟩, { clientId := ⟨"1"⟩ }, [controller "2"], false⟩),
    .act (.updateCall (.increasing ClientId)
      { callId := ⟨1⟩
        invitedTargets := []
        joinedParticipants :=
          ((∅ : HashMap ClientId CallTarget).insert ⟨"1"⟩ (controller "1")).insert ⟨"2"⟩
            (controller "2")
        conferenceLeader := none }),
    .act (.setConnectionState ⟨1⟩ ⟨"2"⟩ .connected),
    .act .clickConference, .startCall [controller "3"]]

theorem invites_traceless_iff_failed :
    Guarded step TracelessLaw {} (invitation ++ [.finish 0 false]) := by
  have isSome : (runMoves step {} (invitation ++ [.finish 0 false])).isSome := by decide +kernel
  obtain ⟨final, runs⟩ := Option.isSome_iff_exists.mp isSome
  exact (invites_traceless_iff runs).mpr (by decide +kernel)

/-- The call fails for everyone while the invite is pending. -/
def invitationToEndedCall : List InviteMove :=
  invitation ++ [.act (.errorTargets (.increasing ClientId) ⟨⟨1⟩, .call, "ended", true⟩)]

/-- The invite is taken back from the terminal display, and its conference is modified again. -/
theorem conference_modified_after_end :
    ¬ ∀ (moves : List InviteMove) (final : InviteRun), runMoves step {} moves = some final →
      Guarded step TracelessLaw {} moves := by
  intro always
  have ended : (runMoves step {} (invitationToEndedCall ++ [.finish 0 false])).map
      (fun final => (final.store.conferenceState, final.store.callDisplay.map CallDisplay.isTerminal))
      = some (.modify, some true) := by decide +kernel
  obtain ⟨final, runs, isEnded⟩ := Option.map_eq_some_iff.mp ended
  obtain ⟨modify, terminal⟩ := Prod.mk.inj isEnded
  obtain ⟨before, -, steps, law⟩ := (always _ final runs).last runs
  have coherent := law.1 final steps
  obtain ⟨display, isDisplay, live⟩ := coherent.conference (by rw [modify]; decide)
  rw [isDisplay, Option.map_some, live] at terminal
  cases terminal

end InviteRun

end Frontend

end Vacs
