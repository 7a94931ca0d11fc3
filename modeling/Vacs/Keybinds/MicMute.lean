import Vacs.Foundations.GuardedRuns
import Vacs.Keybinds.Transmission

/-!
# The call microphone, live and on attach

Key events and changes of the radio priority mute and unmute the call microphone
during a call. When a peer connects, its input is attached with a mute state that is
computed from the flags of the engine. The two should agree, so that a peer that
joins does not change whether the controller is heard.

They do not agree everywhere. `KeepsMute` says which moves keep them together:
`agrees_iff_keepsMute` shows that it leaves out exactly the moves that part them, and
`mute_of_guarded_run` that a run of such moves keeps them together throughout.
-/

set_option autoImplicit false

namespace Vacs

namespace Keybinds

open GuardedRuns

/-- The mute state of a call input that is attached. -/
def attachInputMuted (mode : CallMicMode) (callPressed radioPressed radioPrio separateKeys : Bool) :
    Bool :=
  match mode with
  | .voiceActivation => radioPrio
  | .pushToTalk =>
      if separateKeys then !callPressed else !callPressed || (radioPressed && radioPrio)
  | .pushToMute => callPressed || radioPrio

namespace KeybindEngine

def shouldAttachInputMuted (engine : KeybindEngine) : Bool :=
  attachInputMuted engine.config.callMicMode engine.callPressed engine.radioPressed
    engine.radioPrio (engine.config.radioTrigger.isSome && !engine.radioSharesCallTrigger)

/-- A peer connects: the call is active, and the input is attached. -/
def peerConnected (engine : KeybindEngine) : KeybindEngine :=
  (engine.setCallActive true).setInputMuted (engine.setCallActive true).shouldAttachInputMuted

/-- The priority that the control task sets with its next press. -/
def toggledPrio (engine : KeybindEngine) : Option Bool :=
  match engine.controlQueue with
  | [] => none
  | trigger :: _ =>
      if engine.config.acceptCallTrigger = some trigger ∨
          engine.config.endCallTrigger = some trigger then none
      else if engine.config.toggleRadioPrioTrigger = some trigger ∧ engine.callActive then
        some (!(engine.radioPrio || engine.implicitRadioPrio))
      else none

end KeybindEngine

/-! ## Moves -/

/-- What happens to the microphone while calls come and go. -/
inductive MicMove where
  /-- A key event, with whether the desktop has a shortcut for the radio. -/
  | key (radioBound : Bool) (trigger : Trigger) (state : KeyState)
  | control
  | setRadioPrio (prio : Bool)
  | peerConnected
  | callEnded
deriving DecidableEq

open KeybindEngine

def MicMove.step (engine : KeybindEngine) : MicMove → Option KeybindEngine
  | .key radioBound trigger state =>
      if engine.running then some (engine.handleKeyEvent radioBound trigger state) else some engine
  | .control => some engine.control
  | .setRadioPrio prio => some (engine.setRadioPrio prio)
  | .peerConnected => some engine.peerConnected
  | .callEnded => some (engine.setCallActive false)

/-- The live mute state is the one an input would be attached with. -/
def KeybindEngine.Agrees (engine : KeybindEngine) : Prop :=
  engine.callActive = true → engine.inputMuted = some engine.shouldAttachInputMuted

/-- The priority is not changed while a key that is both the call key and the radio key is held
to talk. -/
def KeepsPrio (engine : KeybindEngine) (prio : Bool) : Prop :=
  engine.config.callMicMode = .pushToTalk → engine.radioSharesCallTrigger = true →
    engine.callPressed = true → prio = engine.radioPrio

/-- With push-to-talk, a call key of its own is not pressed under a priority that the user set.
With voice activation, the radio key is not released while the priority is set and marked as
implicit as well. -/
def KeepsKey (engine : KeybindEngine) (keys : Bool × Bool) (state : KeyState) : Prop :=
  (engine.config.callMicMode = .pushToTalk → keys = (true, false) → state = .down →
      engine.callPressed = false →
        (engine.radioPrio && !engine.implicitRadioPrio) = false) ∧
    (engine.config.callMicMode = .voiceActivation → keys.2 = true → state = .up →
      engine.radioPressed = true → (engine.radioPrio && engine.implicitRadioPrio) = false)

/-- A move that keeps the live mute state the one of an attach. -/
def KeepsMute (engine : KeybindEngine) (move : MicMove) : Prop :=
  engine.callActive = true →
    match move with
    | .key radioBound trigger state =>
        engine.running = true → KeepsKey engine (engine.classify radioBound trigger) state
    | .control => ∀ prio ∈ engine.toggledPrio, KeepsPrio engine prio
    | .setRadioPrio prio => KeepsPrio engine prio
    | .peerConnected | .callEnded => True

/-! ## Configurations -/

/-- How the keys of a configuration can lie. -/
structure KeysLaid (config : EngineConfig) : Prop where
  voice : config.callMicMode = .voiceActivation → config.callTrigger = none
  mute : config.callMicMode = .pushToMute → config.radioTrigger.isSome = true →
    config.radioTrigger = config.callTrigger
  fallback : config.radioPortalFallback = true →
    config.callMicMode = .pushToTalk ∧ config.radioTrigger.isSome = true

theorem keysLaid_ofConfigs (wayland : Bool) (transmit : TransmitConfig)
    (keybinds : KeybindsConfig) (radioIntegrationEnabled : Bool) :
    KeysLaid (.ofConfigs wayland transmit keybinds radioIntegrationEnabled) where
  voice := by
    intro mode
    obtain ⟨callMicMode, _, _, _⟩ := transmit
    obtain rfl : callMicMode = .voiceActivation := mode
    cases wayland <;> rfl
  mute := by
    intro mode enabled
    obtain ⟨callMicMode, _, _, _⟩ := transmit
    obtain rfl : callMicMode = .pushToMute := mode
    cases radioIntegrationEnabled with
    | false => cases enabled
    | true => rfl
  fallback := by
    intro fallback
    refine ⟨?_, isSome_radioTrigger_of_fallback _ _ _ _ fallback⟩
    simp only [EngineConfig.ofConfigs, TransmitConfig.radioFallsBackToCall, Bool.and_eq_true,
      decide_eq_true_eq] at fallback
    exact fallback.1.2

/-! ## The fields of a key event -/

namespace KeybindEngine

/-- Mark the keys of an event as held or released. -/
def press (engine : KeybindEngine) (isCallKey isRadioKey keyDown : Bool) : KeybindEngine :=
  { engine with
    callPressed := if isCallKey then keyDown else engine.callPressed
    radioPressed := if isRadioKey then keyDown else engine.radioPressed }

theorem processKey_eq {engine : KeybindEngine} {isCallKey isRadioKey : Bool}
    (together : isCallKey = true → isRadioKey = true → engine.callPressed = engine.radioPressed)
    (used : (isCallKey || isRadioKey) = true) (keyDown : Bool) :
    engine.processKey isCallKey isRadioKey keyDown =
      if (if isCallKey then engine.callPressed else engine.radioPressed) = keyDown then engine
      else (engine.press isCallKey isRadioKey keyDown).applyKey isCallKey isRadioKey keyDown := by
  obtain ⟨_, _, _, _, callPressed, radioPressed, _, _, _, _, _, _, _, _⟩ := engine
  cases isCallKey with
  | false =>
      cases isRadioKey with
      | false => cases used
      | true => cases radioPressed <;> cases keyDown <;> rfl
  | true =>
      cases isRadioKey with
      | false => cases callPressed <;> cases keyDown <;> rfl
      | true =>
          obtain rfl : callPressed = radioPressed := together rfl rfl
          cases callPressed <;> cases keyDown <;> rfl

variable (engine : KeybindEngine) (isCallKey isRadioKey keyDown : Bool)

@[simp] theorem radioPrio_keyRadio :
    (engine.keyRadio isCallKey isRadioKey keyDown).radioPrio = engine.radioPrio := by
  unfold keyRadio
  split <;> rfl

@[simp] theorem implicitRadioPrio_keyRadio :
    (engine.keyRadio isCallKey isRadioKey keyDown).implicitRadioPrio =
      engine.implicitRadioPrio := by
  unfold keyRadio
  split <;> rfl

@[simp] theorem callActive_keyRadio :
    (engine.keyRadio isCallKey isRadioKey keyDown).callActive = engine.callActive := by
  unfold keyRadio
  split <;> rfl

@[simp] theorem inputMuted_keyRadio :
    (engine.keyRadio isCallKey isRadioKey keyDown).inputMuted = engine.inputMuted := by
  unfold keyRadio
  split <;> rfl

theorem releaseImplicitPrio_fields :
    engine.releaseImplicitPrio.radioPrio = (engine.radioPrio && !engine.implicitRadioPrio) ∧
      engine.releaseImplicitPrio.implicitRadioPrio = false ∧
      engine.releaseImplicitPrio.callActive = engine.callActive ∧
      engine.releaseImplicitPrio.inputMuted = engine.inputMuted := by
  unfold releaseImplicitPrio
  cases implicit : engine.implicitRadioPrio <;> cases prio : engine.radioPrio <;>
    simp [implicit, prio, setRadioTransmit]

/-- The mute state a key event leaves. -/
def mutedAfter : Option Bool :=
  if engine.callActive then
    (micAction engine.config.callMicMode isCallKey
      (engine.radioPrio && !engine.implicitRadioPrio) keyDown).or engine.inputMuted
  else engine.inputMuted

/-- A key event keys the radio, sets the mute state and then ends the implicit priority. -/
theorem applyKey_muted :
    engine.applyKey isCallKey isRadioKey keyDown =
      if !keyDown && isRadioKey then
        { engine.keyRadio isCallKey isRadioKey keyDown with
          inputMuted := engine.mutedAfter isCallKey keyDown }.releaseImplicitPrio
      else
        { engine.keyRadio isCallKey isRadioKey keyDown with
          inputMuted := engine.mutedAfter isCallKey keyDown } := by
  have kept := engine.inputMuted_keyRadio isCallKey isRadioKey keyDown
  unfold applyKey mutedAfter
  simp only
  cases engine.callActive with
  | false =>
      simp only [Bool.false_eq_true, if_false]
      rw [← kept]
  | true =>
      simp only [if_true]
      cases micAction engine.config.callMicMode isCallKey
          (engine.radioPrio && !engine.implicitRadioPrio) keyDown with
      | none =>
          simp only [Option.none_or]
          rw [← kept]
      | some muted => rfl

theorem applyKey_fields :
    (engine.applyKey isCallKey isRadioKey keyDown).radioPrio =
        (engine.radioPrio && !(!keyDown && isRadioKey && engine.implicitRadioPrio)) ∧
      (engine.applyKey isCallKey isRadioKey keyDown).implicitRadioPrio =
        (engine.implicitRadioPrio && !(!keyDown && isRadioKey)) ∧
      (engine.applyKey isCallKey isRadioKey keyDown).callActive = engine.callActive ∧
      (engine.applyKey isCallKey isRadioKey keyDown).inputMuted =
        engine.mutedAfter isCallKey keyDown := by
  rw [applyKey_muted]
  split
  · rename_i released
    simp [releaseImplicitPrio_fields, released]
  · rename_i kept
    simp [kept]

end KeybindEngine

/-! ## The invariant -/

/-- What holds of the keys and the priority in every state. -/
structure MicLaid (engine : KeybindEngine) : Prop where
  keyed : engine.Keyed
  laid : KeysLaid engine.config
  alone : engine.config.radioTrigger.isSome = false → engine.radioPressed = false
  voice : engine.config.callMicMode = .voiceActivation → engine.callPressed = false
  /-- The implicit priority ends with the radio key that it covers. -/
  implicit : engine.implicitRadioPrio = true → engine.radioPressed = true

/-- A shared key that talks and transmits does so under the priority. -/
def PrioCovers (engine : KeybindEngine) : Prop :=
  engine.config.callMicMode = .pushToTalk → engine.radioSharesCallTrigger = true →
    engine.callActive = true → engine.callPressed = true → engine.radioTransmitting = true →
      engine.radioPrio = true

structure MicTracked (engine : KeybindEngine) : Prop extends MicLaid engine where
  covers : PrioCovers engine
  agrees : engine.Agrees

theorem MicLaid.not_shares_of_voice {engine : KeybindEngine} (laid : MicLaid engine)
    (mode : engine.config.callMicMode = .voiceActivation) :
    engine.radioSharesCallTrigger = false := by
  have follows : engine.radioFollowsCall = false := by
    refine eq_false_of_ne_true fun follows => ?_
    have talk := (laid.laid.fallback (laid.keyed.follows follows)).1
    rw [mode] at talk
    cases talk
  have none := laid.laid.voice mode
  cases radio : engine.config.radioTrigger <;>
    simp [radioSharesCallTrigger, follows, none, radio]

theorem MicLaid.shares_of_mute {engine : KeybindEngine} (laid : MicLaid engine)
    (mode : engine.config.callMicMode = .pushToMute) :
    engine.radioSharesCallTrigger = engine.config.radioTrigger.isSome := by
  cases enabled : engine.config.radioTrigger.isSome with
  | false => simp [radioSharesCallTrigger, enabled]
  | true =>
      have same := laid.laid.mute mode enabled
      simp [radioSharesCallTrigger, same, same ▸ enabled]

/-- How a key event can take its trigger in a state. -/
structure KeysTaken (engine : KeybindEngine) (isCallKey isRadioKey : Bool) : Prop where
  shared : engine.radioSharesCallTrigger = true → isCallKey = isRadioKey
  separate : engine.radioSharesCallTrigger = false → isRadioKey = true → isCallKey = false
  call : isCallKey = true → engine.config.callMicMode ≠ .voiceActivation
  radio : isRadioKey = true → engine.config.radioTrigger.isSome = true

theorem MicLaid.keysTaken {engine : KeybindEngine} (laid : MicLaid engine) (trigger : Trigger) :
    KeysTaken engine
      (classifyTrigger trigger engine.config.callTrigger engine.config.radioTrigger
        engine.radioFollowsCall).1
      (classifyTrigger trigger engine.config.callTrigger engine.config.radioTrigger
        engine.radioFollowsCall).2 where
  shared := (laid.keyed.classifyTrigger_shared trigger).1
  separate := (laid.keyed.classifyTrigger_shared trigger).2
  call := by
    intro isCall mode
    simp [classifyTrigger, laid.laid.voice mode] at isCall
  radio := by
    intro isRadio
    cases follows : engine.radioFollowsCall with
    | true => exact laid.keyed.fallback (laid.keyed.follows follows)
    | false =>
        simp only [classifyTrigger, follows, Bool.false_eq_true, if_false,
          decide_eq_true_eq] at isRadio
        simp [isRadio]

/-! ## Key events -/

/-- The state after an event that changes a key. -/
def keyApplied (engine : KeybindEngine) (isCallKey isRadioKey keyDown : Bool) : KeybindEngine :=
  (engine.press isCallKey isRadioKey keyDown).applyKey isCallKey isRadioKey keyDown

section KeyEvents

/-- The table of key events: the live mute state and the one of an attach part exactly on the
events that `KeepsKey` leaves out. -/
theorem micAction_attach_iff (mode : CallMicMode) (radioPrio : Bool)
    {isCallKey isRadioKey keyDown callPressed radioPressed implicit enabled shares : Bool}
    (used : (isCallKey || isRadioKey) = true)
    (changes : (if isCallKey then callPressed else radioPressed) = !keyDown)
    (shared : shares = true → isCallKey = isRadioKey ∧ callPressed = radioPressed)
    (separate : shares = false → isRadioKey = true → isCallKey = false)
    (voice : mode = .voiceActivation → isCallKey = false ∧ shares = false)
    (mute : mode = .pushToMute → shares = enabled)
    (alone : enabled = false → isRadioKey = false ∧ radioPressed = false)
    (covered : implicit = true → radioPressed = true) :
    (micAction mode isCallKey (radioPrio && !implicit) keyDown).or
          (some (attachInputMuted mode callPressed radioPressed radioPrio (enabled && !shares))) =
        some (attachInputMuted mode (if isCallKey then keyDown else callPressed)
          (if isRadioKey then keyDown else radioPressed)
          (radioPrio && !(!keyDown && isRadioKey && implicit)) (enabled && !shares)) ↔
      (mode = .pushToTalk → isCallKey = true → isRadioKey = false → keyDown = true →
          (radioPrio && !implicit) = false) ∧
        (mode = .voiceActivation → isRadioKey = true → keyDown = false →
          (radioPrio && implicit) = false) := by
  cases mode with
  | voiceActivation =>
      obtain ⟨rfl, rfl⟩ := voice rfl
      obtain rfl : isRadioKey = true := by simpa using used
      cases keyDown <;> simp [micAction, attachInputMuted]
  | pushToTalk =>
      cases isRadioKey with
      | false =>
          -- the call key alone: an attach does not look at the priority
          obtain rfl : isCallKey = true := by simpa using used
          obtain rfl : shares = false :=
            eq_false_of_ne_true fun holds => absurd (shared holds).1 (by decide)
          cases enabled with
          | false =>
              obtain rfl := (alone rfl).2
              cases keyDown <;> cases radioPrio <;> cases implicit <;>
                simp [micAction, attachInputMuted]
          | true =>
              cases keyDown <;> cases radioPrio <;> cases implicit <;>
                simp [micAction, attachInputMuted]
      | true =>
          obtain rfl : enabled = true :=
            eq_true_of_ne_false fun fails => absurd (alone fails).1 (by decide)
          cases isCallKey with
          | false =>
              obtain rfl : shares = false :=
                eq_false_of_ne_true fun holds => absurd (shared holds).1 (by decide)
              simp [micAction, attachInputMuted]
          | true =>
              obtain rfl : shares = true :=
                eq_true_of_ne_false fun fails => absurd (separate fails rfl) (by decide)
              obtain rfl := (shared rfl).2
              obtain rfl : callPressed = !keyDown := changes
              cases keyDown with
              | false => cases radioPrio <;> cases implicit <;> simp [micAction, attachInputMuted]
              | true =>
                  -- nothing is held before the press, so the priority is not implicit
                  obtain rfl : implicit = false :=
                    eq_false_of_ne_true fun holds => absurd (covered holds) (by decide)
                  cases radioPrio <;> simp [micAction, attachInputMuted]
  | pushToMute =>
      obtain rfl := mute rfl
      cases shares with
      | false =>
          obtain ⟨rfl, rfl⟩ := alone rfl
          obtain rfl : isCallKey = true := by simpa using used
          obtain rfl : callPressed = !keyDown := changes
          obtain rfl : implicit = false :=
            eq_false_of_ne_true fun holds => absurd (covered holds) (by decide)
          cases keyDown <;> cases radioPrio <;> simp [micAction, attachInputMuted]
      | true =>
          obtain ⟨rfl, rfl⟩ := shared rfl
          obtain rfl : isCallKey = true := by simpa using used
          obtain rfl : callPressed = !keyDown := changes
          cases keyDown with
          | false => cases radioPrio <;> cases implicit <;> simp [micAction, attachInputMuted]
          | true => cases radioPrio <;> cases implicit <;> simp [micAction, attachInputMuted]

variable (engine : KeybindEngine) (isCallKey isRadioKey keyDown : Bool)

theorem sameKeys_keyApplied :
    SameKeys (engine.press isCallKey isRadioKey keyDown)
      (keyApplied engine isCallKey isRadioKey keyDown) :=
  sameKeys_applyKey _ _ _ _

theorem shares_keyApplied :
    (keyApplied engine isCallKey isRadioKey keyDown).radioSharesCallTrigger =
      engine.radioSharesCallTrigger :=
  (sameKeys_keyApplied engine isCallKey isRadioKey keyDown).shares

theorem shouldAttach_keyApplied :
    (keyApplied engine isCallKey isRadioKey keyDown).shouldAttachInputMuted =
      attachInputMuted engine.config.callMicMode
        (if isCallKey then keyDown else engine.callPressed)
        (if isRadioKey then keyDown else engine.radioPressed)
        (engine.radioPrio && !(!keyDown && isRadioKey && engine.implicitRadioPrio))
        (engine.config.radioTrigger.isSome && !engine.radioSharesCallTrigger) := by
  have same := sameKeys_keyApplied engine isCallKey isRadioKey keyDown
  have prio := (applyKey_fields (engine.press isCallKey isRadioKey keyDown) isCallKey isRadioKey
    keyDown).1
  unfold shouldAttachInputMuted
  rw [shares_keyApplied, same.config, same.callPressed, same.radioPressed, keyApplied, prio]
  rfl

variable {engine isCallKey isRadioKey keyDown}

theorem MicLaid.keyApplied (laid : MicLaid engine) (taken : KeysTaken engine isCallKey isRadioKey)
    (after : (keyApplied engine isCallKey isRadioKey keyDown).Keyed) :
    MicLaid (keyApplied engine isCallKey isRadioKey keyDown) := by
  have same := sameKeys_keyApplied engine isCallKey isRadioKey keyDown
  have fields := applyKey_fields (engine.press isCallKey isRadioKey keyDown) isCallKey isRadioKey
    keyDown
  refine ⟨after, ?_, ?_, ?_, ?_⟩
  · rw [same.config]
    exact laid.laid
  · rw [same.config, same.radioPressed]
    intro disabled
    have disabled : engine.config.radioTrigger.isSome = false := disabled
    have notRadio : isRadioKey = false := by
      refine eq_false_of_ne_true fun isRadio => ?_
      rw [taken.radio isRadio] at disabled
      cases disabled
    simp only [press, notRadio, Bool.false_eq_true, if_false]
    exact laid.alone disabled
  · rw [same.config, same.callPressed]
    intro mode
    have notCall : isCallKey = false := eq_false_of_ne_true fun isCall => taken.call isCall mode
    simp only [press, notCall, Bool.false_eq_true, if_false]
    exact laid.voice mode
  · rw [same.radioPressed, Keybinds.keyApplied, fields.2.1]
    intro implicit
    obtain ⟨before, held⟩ := Bool.and_eq_true_iff.mp implicit
    cases isRadioKey with
    | false => exact laid.implicit before
    | true => simpa [press] using held

theorem prioCovers_keyApplied (laid : MicLaid engine)
    (taken : KeysTaken engine isCallKey isRadioKey) (used : (isCallKey || isRadioKey) = true)
    (changes : (if isCallKey then engine.callPressed else engine.radioPressed) = !keyDown) :
    PrioCovers (keyApplied engine isCallKey isRadioKey keyDown) := by
  have same := sameKeys_keyApplied engine isCallKey isRadioKey keyDown
  have fields := applyKey_fields (engine.press isCallKey isRadioKey keyDown) isCallKey isRadioKey
    keyDown
  intro mode shares inCall held transmits
  rw [shares_keyApplied] at shares
  rw [same.config] at mode
  rw [same.callPressed] at held
  obtain rfl := taken.shared shares
  obtain rfl : isCallKey = true := by simpa using used
  obtain rfl : keyDown = true := held
  -- the radio did not transmit before the press, so the press keyed it up
  have silent : engine.radioTransmitting = false := by
    refine eq_false_of_ne_true fun transmitted => ?_
    have held := laid.keyed.together shares
    rw [laid.keyed.pressed transmitted] at held
    exact absurd (changes.symm.trans held) (by decide)
  rw [Keybinds.keyApplied, fields.2.2.1] at inCall
  have inCall : engine.callActive = true := inCall
  have mode : engine.config.callMicMode = .pushToTalk := mode
  rw [Keybinds.keyApplied, fields.1]
  simp only [Bool.not_true, Bool.false_and, Bool.not_false, Bool.and_true]
  refine eq_true_of_ne_false fun noPrio => ?_
  have noPrio : engine.radioPrio = false := noPrio
  rw [Keybinds.keyApplied, applyKey_muted] at transmits
  simp [keyRadio, keysRadio, press, inCall, mode, noPrio, silent] at transmits

theorem MicTracked.agrees_keyApplied (tracked : MicTracked engine)
    (taken : KeysTaken engine isCallKey isRadioKey) (used : (isCallKey || isRadioKey) = true)
    (changes : (if isCallKey then engine.callPressed else engine.radioPressed) = !keyDown) :
    (keyApplied engine isCallKey isRadioKey keyDown).Agrees ↔
      (engine.callActive = true →
        KeepsKey engine (isCallKey, isRadioKey) (if keyDown then .down else .up)) := by
  have fields := applyKey_fields (engine.press isCallKey isRadioKey keyDown) isCallKey isRadioKey
    keyDown
  have active : (keyApplied engine isCallKey isRadioKey keyDown).callActive = engine.callActive :=
    fields.2.2.1
  have muted : (keyApplied engine isCallKey isRadioKey keyDown).inputMuted =
      engine.mutedAfter isCallKey keyDown := fields.2.2.2
  unfold Agrees
  rw [active, muted, shouldAttach_keyApplied]
  refine forall_congr' fun inCall => ?_
  have table := micAction_attach_iff engine.config.callMicMode engine.radioPrio used changes
    (fun shares => ⟨taken.shared shares, tracked.keyed.together shares⟩) taken.separate
    (fun mode => ⟨eq_false_of_ne_true fun isCall => taken.call isCall mode,
      tracked.not_shares_of_voice mode⟩)
    tracked.shares_of_mute
    (fun disabled => ⟨eq_false_of_ne_true fun isRadio =>
      Bool.false_ne_true (disabled.symm.trans (taken.radio isRadio)), tracked.alone disabled⟩)
    tracked.implicit
  have live : engine.mutedAfter isCallKey keyDown =
      (micAction engine.config.callMicMode isCallKey
        (engine.radioPrio && !engine.implicitRadioPrio) keyDown).or
          (some engine.shouldAttachInputMuted) := by
    rw [mutedAfter, if_pos inCall, tracked.agrees inCall]
  rw [live]
  refine table.trans (and_congr ?_ ?_)
  · refine forall_congr' fun mode => ?_
    constructor
    · intro kept keys state _
      cases keys
      cases keyDown with
      | false => cases state
      | true => exact kept rfl rfl rfl
    · rintro kept rfl rfl rfl
      exact kept rfl rfl changes
  · refine forall_congr' fun mode => ?_
    constructor
    · intro kept isRadio state _
      cases keyDown with
      | false => exact kept isRadio rfl
      | true => cases state
    · rintro kept isRadio rfl
      have notCall : isCallKey = false := eq_false_of_ne_true fun isCall => taken.call isCall mode
      subst notCall
      exact kept isRadio rfl changes

end KeyEvents

/-! ## Moves -/

section Moves

variable {engine : KeybindEngine}

/-- A change of the control keys, the mute state or what was sent concerns none of the flags. -/
theorem MicTracked.transitionControls (tracked : MicTracked engine) (trigger : Trigger)
    (state : KeyState) : MicTracked (engine.transitionControls trigger state) := by
  have keyed := tracked.keyed.transitionControls trigger state
  revert keyed
  unfold KeybindEngine.transitionControls
  split
  · intro _
    exact tracked
  · cases state with
    | up =>
        intro keyed
        exact ⟨⟨keyed, tracked.laid, tracked.alone, tracked.voice, tracked.implicit⟩,
          tracked.covers, tracked.agrees⟩
    | down =>
        simp only
        split
        · intro _
          exact tracked
        · intro keyed
          exact ⟨⟨keyed, tracked.laid, tracked.alone, tracked.voice, tracked.implicit⟩,
            tracked.covers, tracked.agrees⟩

/-- The fallback is resolved while no key is held, and then a call key that talks is muted in
either layout. -/
theorem MicTracked.refresh (tracked : MicTracked engine) (radioBound : Bool) :
    MicTracked (engine.refreshRadioFollowsCall radioBound) := by
  have keyed := tracked.keyed.refresh radioBound
  revert keyed
  unfold refreshRadioFollowsCall
  split
  · intro _
    exact tracked
  · rename_i free
    intro keyed
    simp only [Bool.or_eq_true, Bool.not_eq_true', not_or, Bool.not_eq_true,
      Bool.not_eq_false] at free
    obtain ⟨⟨fallback, notCall⟩, notRadio⟩ := free
    refine ⟨⟨keyed, tracked.laid, tracked.alone, tracked.voice, tracked.implicit⟩, ?_, ?_⟩
    · intro _ _ _ held
      have held : engine.callPressed = true := held
      rw [notCall] at held
      cases held
    · intro inCall
      have live : engine.inputMuted = some engine.shouldAttachInputMuted := tracked.agrees inCall
      have talk := (tracked.laid.fallback fallback).1
      have muted : ∀ separate, attachInputMuted .pushToTalk engine.callPressed engine.radioPressed
          engine.radioPrio separate = true := by
        intro separate
        cases separate <;> simp [attachInputMuted, notCall]
      rw [shouldAttachInputMuted, talk, muted] at live
      refine live.trans (congrArg some ?_)
      have same : engine.config.callMicMode = .pushToTalk := talk
      simp only [shouldAttachInputMuted, talk]
      exact (muted _).symm

/-- Before it processes a key, the event loop changes only what the key can be taken for and the
control keys. -/
theorem ready_eq (engine : KeybindEngine) (radioBound : Bool) (trigger : Trigger)
    (state : KeyState) :
    ∃ follows held queue, engine.ready radioBound trigger state =
      { engine with
        radioFollowsCall := follows
        heldControls := held
        controlQueue := queue } := by
  unfold ready refreshRadioFollowsCall KeybindEngine.transitionControls
  repeat' split
  all_goals exact ⟨_, _, _, rfl⟩

theorem MicTracked.processKey (tracked : MicTracked engine) (running : engine.running = true)
    {isCallKey isRadioKey : Bool} (taken : KeysTaken engine isCallKey isRadioKey)
    (state : KeyState) :
    MicLaid (engine.processKey isCallKey isRadioKey (decide (state = .down))) ∧
      PrioCovers (engine.processKey isCallKey isRadioKey (decide (state = .down))) ∧
      ((engine.processKey isCallKey isRadioKey (decide (state = .down))).Agrees ↔
        (engine.callActive = true → KeepsKey engine (isCallKey, isRadioKey) state)) := by
  have keyed := (tracked.keyed.processKey running taken.shared taken.separate
    (decide (state = .down))).1
  have kept : (engine.callActive = true → KeepsKey engine (isCallKey, isRadioKey) state) →
      MicLaid engine ∧ PrioCovers engine ∧
        (engine.Agrees ↔
          (engine.callActive = true → KeepsKey engine (isCallKey, isRadioKey) state)) :=
    fun keeps => ⟨tracked.toMicLaid, tracked.covers, iff_of_true tracked.agrees keeps⟩
  cases used : isCallKey || isRadioKey with
  | false =>
      obtain ⟨rfl, rfl⟩ := Bool.or_eq_false_iff.mp used
      refine kept fun _ => ⟨?_, ?_⟩
      · intro _ keys
        cases keys
      · intro _ isRadio
        cases isRadio
  | true =>
      have together : isCallKey = true → isRadioKey = true →
          engine.callPressed = engine.radioPressed := by
        intro isCall isRadio
        refine tracked.keyed.together (eq_true_of_ne_false fun apart => ?_)
        rw [taken.separate apart isRadio] at isCall
        cases isCall
      rw [processKey_eq together used] at keyed ⊢
      by_cases same : (if isCallKey then engine.callPressed else engine.radioPressed) =
          decide (state = .down)
      · rw [if_pos same]
        refine kept fun _ => ⟨?_, ?_⟩
        · rintro _ keys rfl released
          cases keys
          rw [if_pos rfl, released] at same
          cases same
        · rintro mode isRadio rfl held
          have notCall : isCallKey = false :=
            eq_false_of_ne_true fun isCall => taken.call isCall mode
          rw [notCall, if_neg Bool.false_ne_true, held] at same
          cases same
      · rw [if_neg same] at keyed ⊢
        have changes : (if isCallKey then engine.callPressed else engine.radioPressed) =
            !decide (state = .down) := Bool.eq_not.mpr same
        have state_eq : state = if decide (state = .down) then .down else .up := by
          cases state <;> rfl
        refine ⟨tracked.toMicLaid.keyApplied taken keyed,
          prioCovers_keyApplied tracked.toMicLaid taken used changes, ?_⟩
        refine (tracked.agrees_keyApplied taken used changes).trans ?_
        rw [← state_eq]

theorem MicTracked.handleKeyEvent (tracked : MicTracked engine) (running : engine.running = true)
    (radioBound : Bool) (trigger : Trigger) (state : KeyState) :
    MicLaid (engine.handleKeyEvent radioBound trigger state) ∧
      PrioCovers (engine.handleKeyEvent radioBound trigger state) ∧
      ((engine.handleKeyEvent radioBound trigger state).Agrees ↔
        KeepsMute engine (.key radioBound trigger state)) := by
  have ready : MicTracked (engine.ready radioBound trigger state) :=
    (tracked.transitionControls trigger state).refresh radioBound
  have taken := ready.keysTaken trigger
  rw [← engine.classify_eq_ready radioBound trigger state] at taken
  have processed := ready.processKey ((engine.running_ready ..).trans running) taken state
  obtain ⟨follows, held, queue, same⟩ := ready_eq engine radioBound trigger state
  rw [handleKeyEvent_eq]
  refine ⟨processed.1, processed.2.1, processed.2.2.trans ?_⟩
  rw [same]
  refine forall_congr' fun _ => ?_
  exact ⟨fun keeps _ => keeps, fun keeps => keeps running⟩

/-! ### The priority and the call -/

theorem shouldAttach_congr {changed : KeybindEngine} (config : changed.config = engine.config)
    (follows : changed.radioFollowsCall = engine.radioFollowsCall)
    (call : changed.callPressed = engine.callPressed)
    (radio : changed.radioPressed = engine.radioPressed)
    (prio : changed.radioPrio = engine.radioPrio) :
    changed.shouldAttachInputMuted = engine.shouldAttachInputMuted := by
  unfold shouldAttachInputMuted radioSharesCallTrigger
  rw [config, follows, call, radio, prio]

theorem setRadioPrio_eq (engine : KeybindEngine) (prio : Bool) :
    engine.setRadioPrio prio =
      { engine with
        radioPrio := prio
        implicitRadioPrio :=
          engine.implicitRadioPrio || (!prio && engine.radioPrio && engine.radioPressed)
        inputMuted :=
          if engine.config.callMicMode = .voiceActivation ∨
              engine.config.callMicMode = .pushToMute ∧ engine.callPressed = false then some prio
          else engine.inputMuted } := by
  obtain ⟨⟨mode, _, _, _, _, _, _, _⟩, _, _, _, callPressed, radioPressed, _, radioPrio, implicit,
    _, _, _, _, _⟩ := engine
  cases mode <;> cases callPressed <;> cases radioPressed <;> cases radioPrio <;>
    cases implicit <;> cases prio <;> rfl

/-- The table of priority changes. -/
theorem setPrio_attach_iff (mode : CallMicMode) (prio radioPrio : Bool)
    {callPressed radioPressed enabled shares : Bool}
    (together : shares = true → callPressed = radioPressed)
    (alone : enabled = false → radioPressed = false) :
    ((if mode = .voiceActivation ∨ mode = .pushToMute ∧ callPressed = false then some prio
        else some (attachInputMuted mode callPressed radioPressed radioPrio
          (enabled && !shares))) =
        some (attachInputMuted mode callPressed radioPressed prio (enabled && !shares))) ↔
      (mode = .pushToTalk → shares = true → callPressed = true → prio = radioPrio) := by
  cases mode with
  | voiceActivation => simp [attachInputMuted]
  | pushToTalk =>
      cases shares with
      | false =>
          cases enabled with
          | false =>
              obtain rfl := alone rfl
              simp [attachInputMuted]
          | true => simp [attachInputMuted]
      | true =>
          obtain rfl := together rfl
          cases callPressed <;> cases prio <;> cases radioPrio <;> simp [attachInputMuted]
  | pushToMute => cases callPressed <;> simp [attachInputMuted]

theorem MicTracked.setRadioPrio (tracked : MicTracked engine) (prio : Bool) :
    MicLaid (engine.setRadioPrio prio) ∧
      (KeepsMute engine (.setRadioPrio prio) → PrioCovers (engine.setRadioPrio prio)) ∧
      ((engine.setRadioPrio prio).Agrees ↔ KeepsMute engine (.setRadioPrio prio)) := by
  have keyed := tracked.keyed.setRadioPrio prio
  rw [setRadioPrio_eq] at keyed ⊢
  refine ⟨⟨keyed, tracked.laid, tracked.alone, tracked.voice, ?_⟩, ?_, ?_⟩
  · intro implicit
    rcases Bool.or_eq_true_iff.mp implicit with before | now
    · exact tracked.implicit before
    · exact (Bool.and_eq_true_iff.mp now).2
  · intro keeps mode shares inCall held transmits
    have same : prio = engine.radioPrio := keeps inCall mode shares held
    refine Eq.trans same ?_
    exact tracked.covers mode shares inCall held transmits
  · refine forall_congr' fun inCall => ?_
    have live : engine.inputMuted = some engine.shouldAttachInputMuted := tracked.agrees inCall
    simp only [live]
    exact setPrio_attach_iff engine.config.callMicMode prio engine.radioPrio tracked.keyed.together
      tracked.alone

theorem control_eq (engine : KeybindEngine) :
    engine.control =
      match engine.toggledPrio with
      | some prio => { engine with controlQueue := engine.controlQueue.tail }.setRadioPrio prio
      | none => { engine with controlQueue := engine.controlQueue.tail } := by
  obtain ⟨_, _, _, _, _, _, callActive, _, _, _, _, controlQueue, _, _⟩ := engine
  cases controlQueue with
  | nil => rfl
  | cons trigger controlQueue =>
      unfold KeybindEngine.control toggledPrio handleControlEvent
      simp only
      split
      · rfl
      · split
        · rename_i toggles
          cases callActive with
          | false => simp
          | true => simp [toggles]
        · rename_i other
          rw [if_neg fun both => other both.1]
          rfl

theorem MicTracked.control (tracked : MicTracked engine) :
    MicLaid engine.control ∧ (KeepsMute engine .control → PrioCovers engine.control) ∧
      (engine.control.Agrees ↔ KeepsMute engine .control) := by
  -- taking a press off the queue concerns none of the flags
  have popped : MicTracked { engine with controlQueue := engine.controlQueue.tail } :=
    ⟨⟨⟨tracked.keyed.pressed, tracked.keyed.sent, tracked.keyed.idle, tracked.keyed.fallback,
      tracked.keyed.follows, tracked.keyed.together, tracked.keyed.covered⟩, tracked.laid,
      tracked.alone, tracked.voice, tracked.implicit⟩, tracked.covers, tracked.agrees⟩
  rw [control_eq]
  cases toggled : engine.toggledPrio with
  | none =>
      refine ⟨popped.toMicLaid, fun _ => popped.covers, iff_of_true popped.agrees ?_⟩
      intro _ prio member
      rw [toggled] at member
      cases member
  | some prio =>
      obtain ⟨laid, covers, agrees⟩ := popped.setRadioPrio prio
      have same : KeepsMute engine .control ↔ KeepsMute engine (.setRadioPrio prio) := by
        refine forall_congr' fun _ => ?_
        rw [toggled]
        simp
      exact ⟨laid, fun keeps => covers (same.mp keeps), agrees.trans same.symm⟩

theorem setCallActive_eq (engine : KeybindEngine) :
    ∃ prio, engine.setCallActive true =
        { engine with
          callActive := true
          radioPrio := engine.radioPrio || prio
          implicitRadioPrio := engine.implicitRadioPrio || prio } ∧
      (prio = true ↔ engine.radioSharesCallTrigger = true ∧ engine.radioPressed = true ∧
        engine.radioTransmitting = true ∧ engine.radioPrio = false ∧
        engine.config.callMicMode ≠ .voiceActivation) := by
  refine ⟨engine.radioSharesCallTrigger && engine.radioPressed && engine.radioTransmitting &&
    !engine.radioPrio && decide (engine.config.callMicMode ≠ .voiceActivation), ?_, ?_⟩
  · unfold KeybindEngine.setCallActive
    simp only [if_true]
    split
    · rename_i starts
      have starts : (engine.radioSharesCallTrigger && engine.radioPressed &&
        engine.radioTransmitting && !engine.radioPrio &&
          decide (engine.config.callMicMode ≠ .voiceActivation)) = true := starts
      rw [starts, Bool.or_true, Bool.or_true]
    · rename_i stays
      have stays : (engine.radioSharesCallTrigger && engine.radioPressed &&
        engine.radioTransmitting && !engine.radioPrio &&
          decide (engine.config.callMicMode ≠ .voiceActivation)) = false :=
        eq_false_of_ne_true stays
      rw [stays, Bool.or_false, Bool.or_false]
  · simp [and_assoc]

theorem MicTracked.peerConnected (tracked : MicTracked engine) :
    MicTracked engine.peerConnected ∧
      (engine.callActive = true → engine.peerConnected.inputMuted = engine.inputMuted) := by
  have keyed := (tracked.keyed.setCallActive true).setInputMuted
    (engine.setCallActive true).shouldAttachInputMuted
  obtain ⟨prio, same, starts⟩ := setCallActive_eq engine
  unfold KeybindEngine.peerConnected
  rw [same] at keyed ⊢
  refine ⟨⟨⟨keyed, tracked.laid, tracked.alone, tracked.voice, ?_⟩, ?_, fun _ => rfl⟩, ?_⟩
  · intro implicit
    rcases Bool.or_eq_true_iff.mp implicit with before | now
    · exact tracked.implicit before
    · exact (starts.mp now).2.1
  · intro mode shares _ held transmits
    have mode : engine.config.callMicMode = .pushToTalk := mode
    have shares : engine.radioSharesCallTrigger = true := shares
    have held : engine.callPressed = true := held
    have transmits : engine.radioTransmitting = true := transmits
    refine Bool.or_eq_true_iff.mpr ?_
    cases set : engine.radioPrio with
    | true => exact Or.inl rfl
    | false =>
        refine Or.inr (starts.mpr ⟨shares, ?_, transmits, set, by simp [mode]⟩)
        rw [← tracked.keyed.together shares]
        exact held
  · intro inCall
    have live : engine.inputMuted = some engine.shouldAttachInputMuted := tracked.agrees inCall
    refine Eq.trans (congrArg some ?_) live.symm
    cases prio with
    | false =>
        apply shouldAttach_congr <;> first | rfl | exact Bool.or_false _
    | true =>
        -- the priority starts under a held key, which mutes to mute and cannot talk without it
        obtain ⟨shares, held, transmits, set, notVoice⟩ := starts.mp rfl
        have pressed := (tracked.keyed.together shares).trans held
        cases mode : engine.config.callMicMode with
        | voiceActivation => exact absurd mode notVoice
        | pushToTalk =>
            rw [tracked.covers mode shares inCall pressed transmits] at set
            cases set
        | pushToMute => simp [shouldAttachInputMuted, mode, pressed, attachInputMuted]

theorem MicTracked.callEnded (tracked : MicTracked engine) :
    MicTracked (engine.setCallActive false) := by
  refine ⟨⟨tracked.keyed.setCallActive false, tracked.laid, tracked.alone, tracked.voice, ?_⟩,
    ?_, ?_⟩
  · intro implicit
    cases implicit
  · intro _ _ inCall
    cases inCall
  · intro inCall
    cases inCall

/-- A move keeps the live mute state the one of an attach exactly if it is one of `KeepsMute`. -/
theorem MicTracked.step (tracked : MicTracked engine) {move : MicMove} {next : KeybindEngine}
    (steps : move.step engine = some next) :
    (next.Agrees ↔ KeepsMute engine move) ∧ (KeepsMute engine move → MicTracked next) := by
  have whole : ∀ {next : KeybindEngine}, MicLaid next →
      (KeepsMute engine move → PrioCovers next) → (next.Agrees ↔ KeepsMute engine move) →
        (next.Agrees ↔ KeepsMute engine move) ∧ (KeepsMute engine move → MicTracked next) :=
    fun laid covers agrees =>
      ⟨agrees, fun keeps => ⟨laid, covers keeps, agrees.mpr keeps⟩⟩
  cases move with
  | key radioBound trigger state =>
      simp only [MicMove.step] at steps
      by_cases running : engine.running = true
      · rw [if_pos running] at steps
        cases steps
        obtain ⟨laid, covers, agrees⟩ := tracked.handleKeyEvent running radioBound trigger state
        exact whole laid (fun _ => covers) agrees
      · rw [if_neg running] at steps
        cases steps
        exact whole tracked.toMicLaid (fun _ => tracked.covers)
          (iff_of_true tracked.agrees fun _ runs => absurd runs running)
  | control =>
      cases steps
      obtain ⟨laid, covers, agrees⟩ := tracked.control
      exact whole laid covers agrees
  | setRadioPrio prio =>
      cases steps
      obtain ⟨laid, covers, agrees⟩ := tracked.setRadioPrio prio
      exact whole laid covers agrees
  | peerConnected =>
      cases steps
      have after := tracked.peerConnected.1
      exact whole after.toMicLaid (fun _ => after.covers) (iff_of_true after.agrees fun _ => trivial)
  | callEnded =>
      cases steps
      have after := tracked.callEnded
      exact whole after.toMicLaid (fun _ => after.covers) (iff_of_true after.agrees fun _ => trivial)

end Moves

/-! ## Runs -/

/-- An engine of a configuration, started. -/
def startedEngine (wayland : Bool) (transmit : TransmitConfig) (keybinds : KeybindsConfig)
    (radioIntegrationEnabled radioBound keyboardOk joystickOk : Bool) : KeybindEngine :=
  (KeybindEngine.new (.ofConfigs wayland transmit keybinds radioIntegrationEnabled)).start
    radioBound keyboardOk joystickOk

theorem start_flags (engine : KeybindEngine) (radioBound keyboardOk joystickOk : Bool) :
    ∃ listener running follows held queue,
      engine.start radioBound keyboardOk joystickOk =
        { engine with
          listener := listener
          running := running
          radioFollowsCall := follows
          heldControls := held
          controlQueue := queue } := by
  unfold KeybindEngine.start refreshRadioFollowsCall
  dsimp only
  repeat' split
  all_goals exact ⟨_, _, _, _, _, rfl⟩

theorem micTracked_startedEngine (wayland : Bool) (transmit : TransmitConfig)
    (keybinds : KeybindsConfig)
    (radioIntegrationEnabled radioBound keyboardOk joystickOk : Bool) :
    MicTracked (startedEngine wayland transmit keybinds radioIntegrationEnabled radioBound
      keyboardOk joystickOk) := by
  have laid := keysLaid_ofConfigs wayland transmit keybinds radioIntegrationEnabled
  have keyed := (keyed_new fun fallback => (laid.fallback fallback).2).start radioBound keyboardOk
    joystickOk
  unfold startedEngine
  obtain ⟨_, _, _, _, _, same⟩ := start_flags
    (KeybindEngine.new (.ofConfigs wayland transmit keybinds radioIntegrationEnabled)) radioBound
    keyboardOk joystickOk
  rw [same] at keyed ⊢
  refine ⟨⟨keyed, laid, fun _ => rfl, fun _ => rfl, ?_⟩, ?_, ?_⟩
  · intro implicit
    cases implicit
  · intro _ _ inCall
    cases inCall
  · intro inCall
    cases inCall

/-- While the moves of a run are those of `KeepsMute`, the live mute state during a call is the one
an input would be attached with, and a peer that connects does not change it. The next move keeps
it so exactly if it is one of `KeepsMute` again. -/
theorem mute_of_guarded_run (wayland : Bool) (transmit : TransmitConfig)
    (keybinds : KeybindsConfig) (radioIntegrationEnabled radioBound keyboardOk joystickOk : Bool)
    (moves : List MicMove) (final : KeybindEngine)
    (runs : runMoves MicMove.step (startedEngine wayland transmit keybinds radioIntegrationEnabled
      radioBound keyboardOk joystickOk) moves = some final)
    (guarded : Guarded MicMove.step KeepsMute (startedEngine wayland transmit keybinds
      radioIntegrationEnabled radioBound keyboardOk joystickOk) moves) :
    final.Agrees ∧
      (final.callActive = true → final.peerConnected.inputMuted = final.inputMuted) ∧
      ∀ move next, MicMove.step final move = some next → (next.Agrees ↔ KeepsMute final move) := by
  have tracked : MicTracked final :=
    guarded.preserves
      (fun _ _ _ tracked keeps steps => (MicTracked.step tracked steps).2 keeps) runs
      (micTracked_startedEngine ..)
  exact ⟨tracked.agrees, tracked.peerConnected.2, fun _ _ steps => (tracked.step steps).1⟩

/-! ### Examples of runs -/

instance decidableKeepsPrio (engine : KeybindEngine) (prio : Bool) :
    Decidable (KeepsPrio engine prio) :=
  inferInstanceAs (Decidable (_ → _ → _ → _))

instance decidableKeepsKey (engine : KeybindEngine) (keys : Bool × Bool) (state : KeyState) :
    Decidable (KeepsKey engine keys state) :=
  inferInstanceAs (Decidable ((_ → _ → _ → _ → _) ∧ (_ → _ → _ → _ → _)))

instance decidableKeepsMute (engine : KeybindEngine) :
    ∀ move : MicMove, Decidable (KeepsMute engine move)
  | .key radioBound trigger state =>
      inferInstanceAs (Decidable (_ → _ → KeepsKey engine (engine.classify radioBound trigger) state))
  | .control => inferInstanceAs (Decidable (_ → ∀ prio ∈ engine.toggledPrio, KeepsPrio engine prio))
  | .setRadioPrio prio => inferInstanceAs (Decidable (_ → KeepsPrio engine prio))
  | .peerConnected | .callEnded => isTrue fun _ => trivial

/-- An engine with the keys F1 to talk and F2 for the radio. -/
def keyedEngine (mode : CallMicMode) (talk radio : Option InputCode) : KeybindEngine :=
  startedEngine false { callMicMode := mode, pushToTalk := talk, radioPushToTalk := radio } {} true
    false true false

def keyMove (code : String) (state : KeyState) : MicMove :=
  .key false (.input (.key code)) state

/-- A call in which the user talks on a key of its own, a second peer connects, and the priority is
set. -/
def talkedEngine : KeybindEngine :=
  (runMoves MicMove.step (keyedEngine .pushToTalk (some (.key "F1")) (some (.key "F2")))
    [.peerConnected, keyMove "F1" .down, .peerConnected, keyMove "F1" .up, .setRadioPrio true]).get
      (by decide +kernel)

/-- The mute state is right then, stays so when the user talks on the radio, and no longer is when
the talk key is pressed. -/
theorem mute_of_guarded_run_talk :
    talkedEngine.Agrees ∧ talkedEngine.peerConnected.inputMuted = talkedEngine.inputMuted ∧
      (∀ next, MicMove.step talkedEngine (keyMove "F2" .down) = some next → next.Agrees) ∧
      ∀ next, MicMove.step talkedEngine (keyMove "F1" .down) = some next → ¬next.Agrees := by
  obtain ⟨agrees, attached, follows⟩ := mute_of_guarded_run false _ _ true false true false _
    talkedEngine (Option.some_get _).symm (by decide +kernel)
  refine ⟨agrees, attached (by decide +kernel), fun next steps => ?_, fun next steps => ?_⟩
  · exact (follows _ next steps).mpr (by decide +kernel)
  · exact (follows _ next steps).not.mpr (by decide +kernel)

/-- What is heard live, and after another peer has connected. -/
def mutedThenAttached (engine : KeybindEngine) (moves : List MicMove) :
    Option (Bool × Option Bool × Option Bool) :=
  (runMoves MicMove.step engine moves).map fun final =>
    (final.callActive, final.inputMuted, final.peerConnected.inputMuted)

/-- The live mute state and the one of an attach part: with a talk key of its own pressed under the
priority, with the priority set while a shared key is held, and with voice activation when the
radio key is released after the priority was taken back and set again under it. -/
theorem mute_depends_on_attach :
    mutedThenAttached (keyedEngine .pushToTalk (some (.key "F1")) (some (.key "F2")))
        [.peerConnected, .setRadioPrio true, keyMove "F1" .down] =
          some (true, some true, some false) ∧
      mutedThenAttached (keyedEngine .pushToTalk (some (.key "F1")) none)
        [.peerConnected, keyMove "F1" .down, .setRadioPrio true] =
          some (true, some false, some true) ∧
      mutedThenAttached (keyedEngine .voiceActivation none (some (.key "F2")))
        [.peerConnected, .setRadioPrio true, keyMove "F2" .down, .setRadioPrio false,
          .setRadioPrio true, keyMove "F2" .up] = some (true, some true, some false) := by
  refine ⟨?_, ?_, ?_⟩ <;> decide +kernel

end Keybinds

end Vacs
