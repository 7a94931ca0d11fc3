import Vacs.Keybinds.Engine

/-!
# No stuck transmitter

The radio transmits only while its key is held, whatever happens between a press
and its release: calls begin and end, the priority is set, cleared and toggled, the
desktop rebinds the radio shortcut, the configuration is replaced.

`Keyed` is the invariant. Its core is that a transmission over a shared key that a
call would hide at the release is covered by the implicit priority
(`Keyed.covered`). `Held` follows the presses the event loop has taken up: as long
as one of them is held, the fallback cannot flip, and the release is classified as
its press was.
-/

set_option autoImplicit false

namespace Vacs

namespace Keybinds

/-! ## Runs of the engine -/

inductive EngineMove where
  | key (trigger : Trigger) (state : KeyState)
  /-- The control task handles its next press. -/
  | control
  | setCallActive (active : Bool)
  | setRadioPrio (prio : Bool)
  | start (keyboardOk joystickOk : Bool)
  | stop
  | setConfig (transmit : TransmitConfig) (keybinds : KeybindsConfig)
      (radioIntegrationEnabled keyboardOk joystickOk : Bool)
  /-- The desktop binds or unbinds the radio shortcut. -/
  | rebind (bound : Bool)
deriving DecidableEq

/-- The engine, the desktop's binding, and the presses the event loop has taken up and not seen
released, with what it took their triggers for. -/
structure EngineRun where
  engine : KeybindEngine
  radioBound : Bool
  presses : List (Trigger × Bool × Bool) := []

namespace EngineRun

def initial (wayland : Bool) (transmit : TransmitConfig) (keybinds : KeybindsConfig)
    (radioIntegrationEnabled radioBound : Bool) : EngineRun where
  engine := .new (.ofConfigs wayland transmit keybinds radioIntegrationEnabled)
  radioBound := radioBound

/-- The presses after an event that was taken for the given pair. -/
def recordKey (presses : List (Trigger × Bool × Bool)) (trigger : Trigger) (keys : Bool × Bool) :
    KeyState → List (Trigger × Bool × Bool)
  | .down => if keys = (false, false) then presses else presses ++ [(trigger, keys)]
  | .up => presses.filter fun press => decide (press.1 ≠ trigger)

def step (wayland : Bool) (run : EngineRun) : EngineMove → EngineRun
  | .key trigger state =>
      if run.engine.running then
        { run with
          engine := run.engine.handleKeyEvent run.radioBound trigger state
          presses :=
            recordKey run.presses trigger (run.engine.classify run.radioBound trigger) state }
      else run
  | .control => { run with engine := run.engine.control }
  | .setCallActive active => { run with engine := run.engine.setCallActive active }
  | .setRadioPrio prio => { run with engine := run.engine.setRadioPrio prio }
  | .start keyboardOk joystickOk =>
      { run with engine := run.engine.start run.radioBound keyboardOk joystickOk }
  | .stop => { run with engine := run.engine.stop, presses := [] }
  | .setConfig transmit keybinds radioIntegrationEnabled keyboardOk joystickOk =>
      { run with
        engine := run.engine.setConfig
          (.ofConfigs wayland transmit keybinds radioIntegrationEnabled) run.radioBound keyboardOk
          joystickOk
        presses := [] }
  | .rebind bound => { run with radioBound := bound }

end EngineRun

/-! ## The invariant of the engine -/

namespace KeybindEngine

structure Keyed (engine : KeybindEngine) : Prop where
  /-- The radio transmits only while its key is held. -/
  pressed : engine.radioTransmitting = true → engine.radioPressed = true
  sent : engine.sent.getLast? = some .active ↔ engine.radioTransmitting = true
  /-- No key is held while the event loop does not run. -/
  idle : engine.running = false → engine.callPressed = false ∧ engine.radioPressed = false
  fallback : engine.config.radioPortalFallback = true → engine.config.radioTrigger.isSome = true
  follows : engine.radioFollowsCall = true → engine.config.radioPortalFallback = true
  /-- A shared key is pressed for both. -/
  together : engine.radioSharesCallTrigger = true → engine.callPressed = engine.radioPressed
  /-- A release in a call keys the radio down, by its own or through the implicit priority. -/
  covered : engine.radioSharesCallTrigger = true → engine.config.callMicMode = .pushToTalk →
    engine.radioTransmitting = true → engine.callActive = true → engine.radioPrio = false →
    engine.implicitRadioPrio = true

theorem isSome_radioTrigger_of_fallback (wayland : Bool) (transmit : TransmitConfig)
    (keybinds : KeybindsConfig) (radioIntegrationEnabled : Bool)
    (fallback : (EngineConfig.ofConfigs wayland transmit keybinds
      radioIntegrationEnabled).radioPortalFallback = true) :
    (EngineConfig.ofConfigs wayland transmit keybinds
      radioIntegrationEnabled).radioTrigger.isSome = true := by
  simp only [EngineConfig.ofConfigs, TransmitConfig.radioFallsBackToCall, Bool.and_eq_true,
    decide_eq_true_eq, Bool.not_eq_true'] at fallback
  obtain ⟨⟨⟨enabled, isWayland⟩, isPushToTalk⟩, notButton⟩ := fallback
  simp [EngineConfig.ofConfigs, TransmitConfig.activeRadioTrigger, enabled, isWayland,
    isPushToTalk, selectTrigger, composeWaylandTrigger, notButton]

theorem keyed_new {config : EngineConfig}
    (fallback : config.radioPortalFallback = true → config.radioTrigger.isSome = true) :
    (new config).Keyed := by
  refine ⟨?_, ?_, ?_, fallback, id, ?_, ?_⟩ <;> simp [new]

/-! ### Setters and control keys -/

theorem Keyed.setInputMuted {engine : KeybindEngine} (keyed : engine.Keyed) (muted : Bool) :
    (engine.setInputMuted muted).Keyed :=
  ⟨keyed.pressed, keyed.sent, keyed.idle, keyed.fallback, keyed.follows, keyed.together,
    keyed.covered⟩

theorem Keyed.transitionControls {engine : KeybindEngine} (keyed : engine.Keyed)
    (trigger : Trigger) (state : KeyState) : (engine.transitionControls trigger state).Keyed := by
  unfold KeybindEngine.transitionControls
  split
  · exact keyed
  · cases state with
    | up =>
        exact ⟨keyed.pressed, keyed.sent, keyed.idle, keyed.fallback, keyed.follows,
          keyed.together, keyed.covered⟩
    | down =>
        simp only
        split
        · exact keyed
        · exact ⟨keyed.pressed, keyed.sent, keyed.idle, keyed.fallback, keyed.follows,
            keyed.together, keyed.covered⟩

theorem Keyed.setCallActive {engine : KeybindEngine} (keyed : engine.Keyed) (active : Bool) :
    (engine.setCallActive active).Keyed := by
  cases active with
  | false =>
      exact ⟨keyed.pressed, keyed.sent, keyed.idle, keyed.fallback, keyed.follows, keyed.together,
        fun _ _ _ inactive => Bool.noConfusion inactive⟩
  | true =>
      simp only [KeybindEngine.setCallActive, if_true]
      split
      case isTrue =>
        exact ⟨keyed.pressed, keyed.sent, keyed.idle, keyed.fallback, keyed.follows,
          keyed.together, fun _ _ _ _ noPrio => Bool.noConfusion noPrio⟩
      case isFalse uncovered =>
        refine ⟨keyed.pressed, keyed.sent, keyed.idle, keyed.fallback, keyed.follows,
          keyed.together, fun shares isPushToTalk transmits _ noPrio => absurd ?_ uncovered⟩
        have pressed := keyed.pressed transmits
        have shares : engine.radioSharesCallTrigger = true := shares
        simp_all [KeybindEngine.radioSharesCallTrigger]

theorem Keyed.setRadioPrio {engine : KeybindEngine} (keyed : engine.Keyed) (prio : Bool) :
    (engine.setRadioPrio prio).Keyed := by
  have keyed : Keyed
      (if !prio && engine.radioPrio && engine.radioPressed then
        { engine with radioPrio := prio, implicitRadioPrio := true }
      else { engine with radioPrio := prio }) := by
    split
    case isTrue =>
      exact ⟨keyed.pressed, keyed.sent, keyed.idle, keyed.fallback, keyed.follows, keyed.together,
        fun _ _ _ _ _ => rfl⟩
    case isFalse kept =>
      refine ⟨keyed.pressed, keyed.sent, keyed.idle, keyed.fallback, keyed.follows,
        keyed.together, fun shares isPushToTalk transmits inCall noPrio => ?_⟩
      refine keyed.covered shares isPushToTalk transmits inCall ?_
      have pressed := keyed.pressed transmits
      simp_all
  unfold KeybindEngine.setRadioPrio
  simp only
  split
  · exact keyed.setInputMuted prio
  · exact keyed.setInputMuted prio
  · exact keyed
  · exact keyed

theorem Keyed.control {engine : KeybindEngine} (keyed : engine.Keyed) : engine.control.Keyed := by
  unfold KeybindEngine.control
  split
  · exact keyed
  · rename_i trigger controlQueue queued
    have keyed : Keyed { engine with controlQueue := controlQueue } :=
      ⟨keyed.pressed, keyed.sent, keyed.idle, keyed.fallback, keyed.follows, keyed.together,
        keyed.covered⟩
    unfold handleControlEvent
    split
    · exact keyed
    · split
      · split
        · exact keyed.setRadioPrio _
        · exact keyed
      · exact keyed

/-! ### Starting and stopping -/

/-- The fallback is resolved only while no key is held, and then the radio does not transmit. -/
theorem Keyed.refresh {engine : KeybindEngine} (keyed : engine.Keyed) (radioBound : Bool) :
    (engine.refreshRadioFollowsCall radioBound).Keyed := by
  unfold refreshRadioFollowsCall
  split
  case isTrue => exact keyed
  case isFalse resolved =>
    simp only [Bool.not_eq_true, Bool.or_eq_false_iff, Bool.not_eq_false'] at resolved
    obtain ⟨⟨fallback, callUp⟩, radioUp⟩ := resolved
    refine ⟨keyed.pressed, keyed.sent, keyed.idle, keyed.fallback, fun _ => fallback, ?_, ?_⟩
    · intro _
      exact callUp.trans radioUp.symm
    · intro _ _ transmits
      rw [keyed.pressed transmits] at radioUp
      cases radioUp

theorem Keyed.start {engine : KeybindEngine} (keyed : engine.Keyed)
    (radioBound keyboardOk joystickOk : Bool) :
    (engine.start radioBound keyboardOk joystickOk).Keyed := by
  have listening : Keyed { engine with listener := engine.listener || keyboardOk } :=
    ⟨keyed.pressed, keyed.sent, keyed.idle, keyed.fallback, keyed.follows, keyed.together,
      keyed.covered⟩
  unfold KeybindEngine.start
  split
  · exact keyed
  · split
    · exact keyed
    · simp only
      split
      · exact listening
      · have resolved := listening.refresh radioBound
        exact ⟨resolved.pressed, resolved.sent, fun stopped => Bool.noConfusion stopped,
          resolved.fallback, resolved.follows, resolved.together, resolved.covered⟩

/-- What holds of a stopped engine before its input state is reset is kept by the reset, after
which no key is held and the radio does not transmit. -/
theorem radioTransmitting_resetInputState (engine : KeybindEngine) :
    engine.resetInputState.radioTransmitting = false := by
  unfold resetInputState
  simp only
  split
  case isTrue => rfl
  case isFalse silent => simpa [KeybindEngine.setInputMuted] using silent

theorem sent_resetInputState {engine : KeybindEngine}
    (sent : engine.sent.getLast? = some .active ↔ engine.radioTransmitting = true) :
    ¬ engine.resetInputState.sent.getLast? = some .active := by
  unfold resetInputState
  simp only
  split
  case isTrue => simp [KeybindEngine.setInputMuted, setRadioTransmit]
  case isFalse silent => exact fun active => silent (sent.mp active)

theorem keyed_resetInputState {engine : KeybindEngine}
    (sent : engine.sent.getLast? = some .active ↔ engine.radioTransmitting = true)
    (fallback : engine.config.radioPortalFallback = true →
      engine.config.radioTrigger.isSome = true)
    (follows : engine.radioFollowsCall = true → engine.config.radioPortalFallback = true) :
    engine.resetInputState.Keyed := by
  have silent := engine.radioTransmitting_resetInputState
  have callUp : engine.resetInputState.callPressed = false := by
    unfold resetInputState
    simp only
    split <;> rfl
  have radioUp : engine.resetInputState.radioPressed = false := by
    unfold resetInputState
    simp only
    split <;> rfl
  have sameConfig : engine.resetInputState.config = engine.config := by
    unfold resetInputState
    simp only
    split <;> rfl
  have sameFollows : engine.resetInputState.radioFollowsCall = engine.radioFollowsCall := by
    unfold resetInputState
    simp only
    split <;> rfl
  refine ⟨?_, ?_, fun _ => ⟨callUp, radioUp⟩, ?_, ?_, fun _ => callUp.trans radioUp.symm, ?_⟩
  · simp [silent]
  · simp [silent, sent_resetInputState sent]
  · rwa [sameConfig]
  · rwa [sameConfig, sameFollows]
  · simp [silent]

theorem Keyed.stop {engine : KeybindEngine} (keyed : engine.Keyed) : engine.stop.Keyed := by
  unfold KeybindEngine.stop
  simp only
  split
  case isTrue => exact keyed_resetInputState keyed.sent keyed.fallback keyed.follows
  case isFalse stopped =>
    have idle := keyed.idle (Bool.not_eq_true _ ▸ stopped)
    exact ⟨keyed.pressed, keyed.sent, fun _ => idle, keyed.fallback, keyed.follows,
      keyed.together, keyed.covered⟩

theorem Keyed.setConfig {engine : KeybindEngine} (keyed : engine.Keyed) {config : EngineConfig}
    (fallback : config.radioPortalFallback = true → config.radioTrigger.isSome = true)
    (radioBound keyboardOk joystickOk : Bool) :
    (engine.setConfig config radioBound keyboardOk joystickOk).Keyed := by
  apply Keyed.start
  exact keyed_resetInputState keyed.stop.sent fallback id

/-! ### Key events -/

/-- A trigger is the call key and the radio key at once exactly if the two share a trigger. -/
theorem Keyed.classifyTrigger_shared {engine : KeybindEngine} (keyed : engine.Keyed)
    (trigger : Trigger) :
    (engine.radioSharesCallTrigger = true →
      (classifyTrigger trigger engine.config.callTrigger engine.config.radioTrigger
        engine.radioFollowsCall).1 =
      (classifyTrigger trigger engine.config.callTrigger engine.config.radioTrigger
        engine.radioFollowsCall).2) ∧
    (engine.radioSharesCallTrigger = false →
      (classifyTrigger trigger engine.config.callTrigger engine.config.radioTrigger
        engine.radioFollowsCall).2 = true →
      (classifyTrigger trigger engine.config.callTrigger engine.config.radioTrigger
        engine.radioFollowsCall).1 = false) := by
  unfold radioSharesCallTrigger classifyTrigger
  cases follows : engine.radioFollowsCall with
  | true =>
      have some := keyed.fallback (keyed.follows follows)
      simp [some]
  | false =>
      simp only [Bool.or_false, Bool.false_eq_true, if_false, Bool.and_eq_true, decide_eq_true_eq]
      refine ⟨fun shares => by rw [shares.2], fun separate isRadio => ?_⟩
      refine decide_eq_false fun isCall => ?_
      simp [isRadio, isCall] at separate

/-- Apart from the mute state, a key event keys the radio and then ends the implicit priority. -/
theorem applyKey_eq (engine : KeybindEngine) (isCallKey isRadioKey keyDown : Bool) :
    ∃ muted, engine.applyKey isCallKey isRadioKey keyDown =
      { (if !keyDown && isRadioKey then
          (engine.keyRadio isCallKey isRadioKey keyDown).releaseImplicitPrio
        else engine.keyRadio isCallKey isRadioKey keyDown) with inputMuted := muted } := by
  have commutes : ∀ (engine : KeybindEngine) muted, (engine.setInputMuted muted).releaseImplicitPrio =
      { engine.releaseImplicitPrio with inputMuted := some muted } := by
    intro engine muted
    obtain ⟨_, _, _, _, _, _, _, radioPrio, implicitRadioPrio, _, _, _, _, _⟩ := engine
    cases implicitRadioPrio <;> cases radioPrio <;> rfl
  unfold applyKey
  simp only
  split
  · split
    · split
      · exact ⟨_, commutes _ _⟩
      · exact ⟨_, rfl⟩
    · exact ⟨_, rfl⟩
  · split
    · split <;> exact ⟨_, rfl⟩
    · exact ⟨_, rfl⟩

/-- A press keys the radio up, if it does, on the terms on which its release keys it down. -/
theorem Keyed.keyRadio_down {engine : KeybindEngine} (keyed : engine.Keyed)
    {isCallKey isRadioKey : Bool} (radioHeld : isRadioKey = true → engine.radioPressed = true)
    (shared : engine.radioSharesCallTrigger = true → isCallKey = isRadioKey) :
    (engine.keyRadio isCallKey isRadioKey true).Keyed := by
  unfold keyRadio
  split
  case isFalse => exact keyed
  case isTrue keys =>
    have isRadio : isRadioKey = true := (Bool.and_eq_true_iff.mp keys).1
    refine ⟨fun _ => radioHeld isRadio, ?_, keyed.idle, keyed.fallback, keyed.follows,
      keyed.together, ?_⟩
    · simp [setRadioTransmit, TransmissionState.ofKeyDown]
    · intro shares isPushToTalk _ inCall noPrio
      have sameKey := shared shares
      have shares : engine.radioSharesCallTrigger = true := shares
      have isPushToTalk : engine.config.callMicMode = .pushToTalk := isPushToTalk
      have inCall : engine.callActive = true := inCall
      have noPrio : engine.radioPrio = false := noPrio
      simp [keysRadio, sameKey, isPushToTalk, inCall, noPrio] at keys

/-- A release of the radio key keys the radio down. -/
theorem release_keysDown {engine : KeybindEngine} {isCallKey : Bool}
    (covered : isCallKey = true → engine.config.callMicMode = .pushToTalk →
      engine.radioTransmitting = true → engine.callActive = true → engine.radioPrio = false →
      engine.implicitRadioPrio = true)
    (sent : engine.sent.getLast? = some .active ↔ engine.radioTransmitting = true) :
    (engine.keyRadio isCallKey true false).releaseImplicitPrio.radioTransmitting = false ∧
      ¬ (engine.keyRadio isCallKey true false).releaseImplicitPrio.sent.getLast? =
        some .active := by
  unfold keyRadio
  split
  case isTrue =>
    unfold releaseImplicitPrio
    split
    · simp only
      split <;> simp [setRadioTransmit, TransmissionState.ofKeyDown]
    · simp [setRadioTransmit, TransmissionState.ofKeyDown]
  case isFalse unkeyed =>
    simp only [keysRadio, Bool.true_and, Bool.or_eq_true, decide_eq_true_eq, not_or,
      Bool.not_eq_true', Bool.not_eq_false, Bool.not_eq_true] at unkeyed
    obtain ⟨⟨⟨isCall, inCall⟩, noPrio⟩, isPushToTalk⟩ := unkeyed
    have isCall : isCallKey = true := by simpa using isCall
    have isPushToTalk : engine.config.callMicMode = .pushToTalk := by simpa using isPushToTalk
    unfold releaseImplicitPrio
    split
    case isTrue => simp [noPrio, setRadioTransmit]
    case isFalse uncovered =>
      have silent : engine.radioTransmitting = false := by
        refine eq_false_of_ne_true fun transmits => uncovered ?_
        exact covered isCall isPushToTalk transmits inCall noPrio
      exact ⟨silent, by simp [sent, silent]⟩

theorem Keyed.withInputMuted {engine : KeybindEngine} (keyed : engine.Keyed)
    (muted : Option Bool) : Keyed { engine with inputMuted := muted } :=
  ⟨keyed.pressed, keyed.sent, keyed.idle, keyed.fallback, keyed.follows, keyed.together,
    keyed.covered⟩

/-- The configuration and the keys are as they were. -/
structure SameKeys (engine changed : KeybindEngine) : Prop where
  config : changed.config = engine.config
  running : changed.running = engine.running
  follows : changed.radioFollowsCall = engine.radioFollowsCall
  callPressed : changed.callPressed = engine.callPressed
  radioPressed : changed.radioPressed = engine.radioPressed

theorem SameKeys.shares {engine changed : KeybindEngine} (same : SameKeys engine changed) :
    changed.radioSharesCallTrigger = engine.radioSharesCallTrigger := by
  unfold radioSharesCallTrigger
  rw [same.config, same.follows]

theorem SameKeys.refl (engine : KeybindEngine) : SameKeys engine engine :=
  ⟨rfl, rfl, rfl, rfl, rfl⟩

theorem SameKeys.trans {engine changed final : KeybindEngine} (first : SameKeys engine changed)
    (second : SameKeys changed final) : SameKeys engine final :=
  ⟨second.config.trans first.config, second.running.trans first.running,
    second.follows.trans first.follows, second.callPressed.trans first.callPressed,
    second.radioPressed.trans first.radioPressed⟩

theorem sameKeys_keyRadio (engine : KeybindEngine) (isCallKey isRadioKey keyDown : Bool) :
    SameKeys engine (engine.keyRadio isCallKey isRadioKey keyDown) := by
  unfold keyRadio
  split <;> exact ⟨rfl, rfl, rfl, rfl, rfl⟩

theorem sameKeys_releaseImplicitPrio (engine : KeybindEngine) :
    SameKeys engine engine.releaseImplicitPrio := by
  unfold releaseImplicitPrio
  split
  · simp only
    split <;> exact ⟨rfl, rfl, rfl, rfl, rfl⟩
  · exact SameKeys.refl engine

theorem sameKeys_applyKey (engine : KeybindEngine) (isCallKey isRadioKey keyDown : Bool) :
    SameKeys engine (engine.applyKey isCallKey isRadioKey keyDown) := by
  obtain ⟨muted, eq⟩ := engine.applyKey_eq isCallKey isRadioKey keyDown
  have keyed := engine.sameKeys_keyRadio isCallKey isRadioKey keyDown
  rw [eq]
  split
  · have released := keyed.trans (sameKeys_releaseImplicitPrio _)
    exact ⟨released.config, released.running, released.follows, released.callPressed,
      released.radioPressed⟩
  · exact ⟨keyed.config, keyed.running, keyed.follows, keyed.callPressed, keyed.radioPressed⟩

/-- An event that changes the radio key, and the call key if the two share a trigger. -/
theorem Keyed.applyKey_radio {engine : KeybindEngine} (keyed : engine.Keyed)
    (running : engine.running = true) {isCallKey : Bool}
    (shared : isCallKey = engine.radioSharesCallTrigger) (keyDown : Bool) {pressed : KeybindEngine}
    (isPressed : pressed =
      { engine with
        callPressed := if isCallKey then keyDown else engine.callPressed
        radioPressed := keyDown }) (changes : engine.radioPressed = !keyDown) :
    (pressed.applyKey isCallKey true keyDown).Keyed ∧
      (keyDown = false → (pressed.applyKey isCallKey true keyDown).radioTransmitting = false) := by
  have shares : pressed.radioSharesCallTrigger = engine.radioSharesCallTrigger := by
    rw [isPressed]
    rfl
  have together : pressed.radioSharesCallTrigger = true →
      pressed.callPressed = pressed.radioPressed := by
    intro isShared
    rw [shares] at isShared
    simp [isPressed, shared, isShared]
  obtain ⟨muted, eq⟩ := pressed.applyKey_eq isCallKey true keyDown
  rw [eq]
  cases keyDown with
  | true =>
      refine ⟨Keyed.withInputMuted ?_ muted, fun isUp => Bool.noConfusion isUp⟩
      -- before the press the radio did not transmit
      have silent : engine.radioTransmitting = false := by
        refine eq_false_of_ne_true fun transmits => ?_
        rw [keyed.pressed transmits] at changes
        cases changes
      have keyed : pressed.Keyed := by
        subst isPressed
        refine ⟨fun _ => rfl, keyed.sent, ?_, keyed.fallback, keyed.follows, together, ?_⟩
        · intro stopped
          rw [running] at stopped
          cases stopped
        · intro _ _ transmits
          rw [silent] at transmits
          cases transmits
      refine keyed.keyRadio_down (fun _ => by rw [isPressed]) fun isShared => ?_
      rw [shares] at isShared
      rw [shared, isShared]
  | false =>
      have covered : isCallKey = true → pressed.config.callMicMode = .pushToTalk →
          pressed.radioTransmitting = true → pressed.callActive = true →
          pressed.radioPrio = false → pressed.implicitRadioPrio = true := by
        subst isPressed
        intro isCall
        exact keyed.covered (shared ▸ isCall)
      have sent : pressed.sent.getLast? = some .active ↔ pressed.radioTransmitting = true := by
        subst isPressed
        exact keyed.sent
      obtain ⟨silent, keyedDown⟩ := release_keysDown covered sent
      have same := (pressed.sameKeys_keyRadio isCallKey true false).trans
        (sameKeys_releaseImplicitPrio _)
      refine ⟨Keyed.withInputMuted ?_ muted, fun _ => silent⟩
      refine ⟨?_, ?_, ?_, ?_, ?_, ?_, ?_⟩
      · intro transmits
        exact absurd transmits (by simp [silent])
      · exact iff_of_false keyedDown (by simp [silent])
      · intro stopped
        have stopped := same.running.symm.trans stopped
        rw [isPressed, running] at stopped
        cases stopped
      · simp only [Bool.not_false, Bool.and_self, if_true]
        rw [same.config, isPressed]
        exact keyed.fallback
      · simp only [Bool.not_false, Bool.and_self, if_true]
        rw [same.config, same.follows, isPressed]
        exact keyed.follows
      · simp only [Bool.not_false, Bool.and_self, if_true]
        rw [same.shares, same.callPressed, same.radioPressed]
        exact together
      · intro _ _ transmits
        exact absurd transmits (by simp [silent])

/-- An event of the call key alone leaves the radio as it is. -/
theorem Keyed.applyKey_call {engine : KeybindEngine} (keyed : engine.Keyed)
    (running : engine.running = true) (separate : engine.radioSharesCallTrigger = false)
    (keyDown : Bool) : (applyKey { engine with callPressed := keyDown } true false keyDown).Keyed := by
  obtain ⟨muted, eq⟩ := applyKey_eq { engine with callPressed := keyDown } true false keyDown
  rw [eq]
  refine Keyed.withInputMuted ?_ muted
  have unkeyed : keyRadio { engine with callPressed := keyDown } true false keyDown =
      { engine with callPressed := keyDown } := by
    simp [keyRadio, keysRadio]
  rw [unkeyed]
  simp only [Bool.and_false, Bool.false_eq_true, if_false]
  refine ⟨keyed.pressed, keyed.sent, ?_, keyed.fallback, keyed.follows, ?_, keyed.covered⟩
  · intro stopped
    rw [running] at stopped
    cases stopped
  · intro shares
    exact absurd (separate.symm.trans shares) Bool.false_ne_true

theorem Keyed.processKey {engine : KeybindEngine} (keyed : engine.Keyed)
    (running : engine.running = true) {isCallKey isRadioKey : Bool}
    (shared : engine.radioSharesCallTrigger = true → isCallKey = isRadioKey)
    (separate : engine.radioSharesCallTrigger = false → isRadioKey = true → isCallKey = false)
    (keyDown : Bool) :
    (engine.processKey isCallKey isRadioKey keyDown).Keyed ∧
      (isRadioKey = true → keyDown = false →
        (engine.processKey isCallKey isRadioKey keyDown).radioTransmitting = false) := by
  -- a radio key that is up already does not transmit
  have silent : engine.radioPressed = false → engine.radioTransmitting = false := by
    intro isUp
    refine eq_false_of_ne_true fun transmits => ?_
    rw [keyed.pressed transmits] at isUp
    cases isUp
  have changed : ∀ {pressed : Bool}, ¬ (pressed == keyDown) = true → pressed = !keyDown := by
    intro pressed differs
    cases pressed <;> cases keyDown <;> simp_all
  unfold KeybindEngine.processKey
  cases isRadioKey with
  | false =>
      refine ⟨?_, fun isRadio => Bool.noConfusion isRadio⟩
      cases isCallKey with
      | false => exact keyed
      | true =>
          have separate : engine.radioSharesCallTrigger = false :=
            eq_false_of_ne_true fun shares => Bool.noConfusion (shared shares)
          simp only [Bool.not_true, Bool.false_and, Bool.true_and, Bool.false_eq_true, if_true,
            if_false]
          split
          case isTrue same =>
            have same : engine.callPressed = keyDown := by simpa using same
            subst same
            exact keyed
          case isFalse => exact keyed.applyKey_call running separate keyDown
  | true =>
      cases isCallKey with
      | false =>
          have separate : engine.radioSharesCallTrigger = false :=
            eq_false_of_ne_true fun shares => Bool.noConfusion (shared shares)
          simp only [Bool.not_false, Bool.not_true, Bool.and_false, Bool.false_and, Bool.true_and,
            Bool.false_eq_true, if_true, if_false]
          split
          case isTrue same =>
            have same : engine.radioPressed = keyDown := by simpa using same
            subst same
            exact ⟨keyed, fun _ isUp => silent isUp⟩
          case isFalse differs =>
            have applied := keyed.applyKey_radio running separate.symm keyDown rfl (changed differs)
            exact ⟨applied.1, fun _ => applied.2⟩
      | true =>
          have shares : engine.radioSharesCallTrigger = true :=
            eq_true_of_ne_false fun apart => Bool.noConfusion (separate apart rfl)
          have together := keyed.together shares
          simp only [Bool.not_true, Bool.and_false, Bool.true_and, Bool.false_eq_true, if_true,
            if_false]
          split
          case isTrue same =>
            have same : engine.callPressed = keyDown := by simpa using same
            subst same
            exact ⟨keyed, fun _ isUp => silent (together.symm.trans isUp)⟩
          case isFalse differs =>
            rw [if_neg (together ▸ differs)]
            have applied := keyed.applyKey_radio running shares.symm keyDown rfl
              (changed (together ▸ differs))
            exact ⟨applied.1, fun _ => applied.2⟩

/-! ### What a trigger is taken for -/

/-- What the events of a key do to the keys that are held. -/
theorem processKey_keys {engine : KeybindEngine} {isCallKey isRadioKey : Bool}
    (together : isCallKey = true → isRadioKey = true → engine.callPressed = engine.radioPressed)
    (keyDown : Bool) :
    SameKeys
      { engine with
        callPressed := if isCallKey then keyDown else engine.callPressed
        radioPressed := if isRadioKey then keyDown else engine.radioPressed }
      (engine.processKey isCallKey isRadioKey keyDown) := by
  unfold KeybindEngine.processKey
  cases isCallKey with
  | false =>
      cases isRadioKey with
      | false => exact SameKeys.refl engine
      | true =>
          simp only [Bool.not_false, Bool.not_true, Bool.and_false, Bool.false_and, Bool.true_and,
            Bool.false_eq_true, if_true, if_false]
          split
          · exact SameKeys.refl _
          · exact sameKeys_applyKey ..
  | true =>
      simp only [Bool.not_true, Bool.false_and, Bool.true_and, Bool.false_eq_true, if_true,
        if_false]
      cases isRadioKey with
      | false =>
          simp only [Bool.false_and, Bool.false_eq_true, if_false]
          split
          · exact SameKeys.refl _
          · exact sameKeys_applyKey ..
      | true =>
          have together := together rfl rfl
          simp only [Bool.true_and, if_true]
          split
          case isTrue same =>
            have same : engine.radioPressed = keyDown := together ▸ (by simpa using same)
            exact ⟨rfl, rfl, rfl, rfl, same⟩
          case isFalse differs =>
            rw [if_neg (together ▸ differs)]
            exact sameKeys_applyKey ..

theorem follows_refresh (engine : KeybindEngine) (radioBound : Bool) :
    (engine.refreshRadioFollowsCall radioBound).radioFollowsCall =
      if !engine.config.radioPortalFallback || engine.callPressed || engine.radioPressed then
        engine.radioFollowsCall
      else !(engine.listener && radioBound) := by
  unfold refreshRadioFollowsCall
  split <;> rfl

/-- The fallback does not flip while a key is held. -/
theorem refresh_of_pressed {engine : KeybindEngine}
    (pressed : engine.callPressed = true ∨ engine.radioPressed = true) (radioBound : Bool) :
    engine.refreshRadioFollowsCall radioBound = engine := by
  unfold refreshRadioFollowsCall
  rcases pressed with isPressed | isPressed <;> simp [isPressed]

theorem sameControls (engine : KeybindEngine) (trigger : Trigger) (state : KeyState) :
    SameKeys engine (engine.transitionControls trigger state) ∧
      (engine.transitionControls trigger state).listener = engine.listener := by
  unfold KeybindEngine.transitionControls
  split
  · exact ⟨SameKeys.refl engine, rfl⟩
  · cases state with
    | up => exact ⟨⟨rfl, rfl, rfl, rfl, rfl⟩, rfl⟩
    | down =>
        simp only
        split <;> exact ⟨⟨rfl, rfl, rfl, rfl, rfl⟩, rfl⟩

/-- The keys of a key event are those of the state before it. -/
theorem classify_transitionControls (engine : KeybindEngine) (radioBound : Bool)
    (trigger : Trigger) (state : KeyState) :
    (engine.transitionControls trigger state).classify radioBound trigger =
      engine.classify radioBound trigger := by
  obtain ⟨same, listener⟩ := engine.sameControls trigger state
  unfold classify
  rw [follows_refresh, follows_refresh, same.config, same.callPressed, same.radioPressed,
    same.follows, listener]

/-- The state in which the event loop classifies and processes an event. -/
def ready (engine : KeybindEngine) (radioBound : Bool) (trigger : Trigger) (state : KeyState) :
    KeybindEngine :=
  (engine.transitionControls trigger state).refreshRadioFollowsCall radioBound

theorem config_refresh (engine : KeybindEngine) (radioBound : Bool) :
    (engine.refreshRadioFollowsCall radioBound).config = engine.config := by
  unfold refreshRadioFollowsCall
  split <;> rfl

theorem running_refresh (engine : KeybindEngine) (radioBound : Bool) :
    (engine.refreshRadioFollowsCall radioBound).running = engine.running := by
  unfold refreshRadioFollowsCall
  split <;> rfl

theorem classify_eq_ready (engine : KeybindEngine) (radioBound : Bool) (trigger : Trigger)
    (state : KeyState) :
    engine.classify radioBound trigger =
      classifyTrigger trigger (engine.ready radioBound trigger state).config.callTrigger
        (engine.ready radioBound trigger state).config.radioTrigger
        (engine.ready radioBound trigger state).radioFollowsCall := by
  rw [← engine.classify_transitionControls radioBound trigger state]
  unfold classify ready
  rw [config_refresh]

theorem handleKeyEvent_eq (engine : KeybindEngine) (radioBound : Bool) (trigger : Trigger)
    (state : KeyState) :
    engine.handleKeyEvent radioBound trigger state =
      (engine.ready radioBound trigger state).processKey (engine.classify radioBound trigger).1
        (engine.classify radioBound trigger).2 (decide (state = .down)) := by
  rw [engine.classify_eq_ready radioBound trigger state]
  rfl

theorem Keyed.ready {engine : KeybindEngine} (keyed : engine.Keyed) (radioBound : Bool)
    (trigger : Trigger) (state : KeyState) : (engine.ready radioBound trigger state).Keyed :=
  (keyed.transitionControls trigger state).refresh radioBound

theorem running_ready (engine : KeybindEngine) (radioBound : Bool) (trigger : Trigger)
    (state : KeyState) : (engine.ready radioBound trigger state).running = engine.running := by
  unfold ready
  rw [running_refresh, (engine.sameControls trigger state).1.running]

theorem Keyed.handleKeyEvent {engine : KeybindEngine} (keyed : engine.Keyed)
    (running : engine.running = true) (radioBound : Bool) (trigger : Trigger)
    (state : KeyState) :
    (engine.handleKeyEvent radioBound trigger state).Keyed ∧
      ((engine.classify radioBound trigger).2 = true → state = .up →
        (engine.handleKeyEvent radioBound trigger state).radioTransmitting = false) := by
  have ready := keyed.ready radioBound trigger state
  have shared := ready.classifyTrigger_shared trigger
  rw [← engine.classify_eq_ready radioBound trigger state] at shared
  rw [handleKeyEvent_eq]
  have processed := ready.processKey ((engine.running_ready ..).trans running) shared.1 shared.2
    (decide (state = .down))
  exact ⟨processed.1, fun isRadio isUp => processed.2 isRadio (by simp [isUp])⟩

/-! ### Presses -/

/-- A press is held: its keys are marked as pressed, and its trigger is still taken for them. -/
structure Holds (engine : KeybindEngine) (press : Trigger × Bool × Bool) : Prop where
  keys : press.2 = classifyTrigger press.1 engine.config.callTrigger engine.config.radioTrigger
    engine.radioFollowsCall
  taken : press.2.1 = true ∨ press.2.2 = true
  call : press.2.1 = true → engine.callPressed = true
  radio : press.2.2 = true → engine.radioPressed = true

theorem Holds.pressed {engine : KeybindEngine} {press : Trigger × Bool × Bool}
    (holds : engine.Holds press) : engine.callPressed = true ∨ engine.radioPressed = true :=
  holds.taken.imp holds.call holds.radio

/-- Whatever the desktop binds, the release of a held press is classified as the press was. -/
theorem Holds.classify {engine : KeybindEngine} {press : Trigger × Bool × Bool}
    (holds : engine.Holds press) (radioBound : Bool) :
    engine.classify radioBound press.1 = press.2 := by
  unfold KeybindEngine.classify
  rw [refresh_of_pressed holds.pressed]
  exact holds.keys.symm

theorem Holds.same {engine changed : KeybindEngine} {press : Trigger × Bool × Bool}
    (holds : engine.Holds press) (same : SameKeys engine changed) : changed.Holds press := by
  refine ⟨?_, holds.taken, ?_, ?_⟩
  · rw [same.config, same.follows]
    exact holds.keys
  · rw [same.callPressed]
    exact holds.call
  · rw [same.radioPressed]
    exact holds.radio

theorem Holds.ready {engine : KeybindEngine} {press : Trigger × Bool × Bool}
    (holds : engine.Holds press) (radioBound : Bool) (trigger : Trigger) (state : KeyState) :
    (engine.ready radioBound trigger state).Holds press := by
  have holds := holds.same (engine.sameControls trigger state).1
  unfold KeybindEngine.ready
  rw [refresh_of_pressed holds.pressed]
  exact holds

theorem classifyTrigger_call_inj {trigger other : Trigger} {callTrigger radioTrigger : Option Trigger}
    {follows : Bool} (isCall : (classifyTrigger trigger callTrigger radioTrigger follows).1 = true)
    (isOther : (classifyTrigger other callTrigger radioTrigger follows).1 = true) :
    trigger = other := by
  simp only [classifyTrigger, decide_eq_true_eq] at isCall isOther
  exact Option.some.inj (isCall.symm.trans isOther)

theorem classifyTrigger_radio_inj {trigger other : Trigger}
    {callTrigger radioTrigger : Option Trigger} {follows : Bool}
    (isRadio : (classifyTrigger trigger callTrigger radioTrigger follows).2 = true)
    (isOther : (classifyTrigger other callTrigger radioTrigger follows).2 = true) :
    trigger = other := by
  cases follows <;> simp only [classifyTrigger, decide_eq_true_eq, if_true, if_false,
    Bool.false_eq_true] at isRadio isOther <;>
    exact Option.some.inj (isRadio.symm.trans isOther)

/-- A trigger that is both keys finds both in the same position. -/
theorem Keyed.together_ready {engine : KeybindEngine} (keyed : engine.Keyed) {radioBound : Bool}
    {trigger : Trigger} {state : KeyState}
    (isCall : (engine.classify radioBound trigger).1 = true)
    (isRadio : (engine.classify radioBound trigger).2 = true) :
    (engine.ready radioBound trigger state).callPressed =
      (engine.ready radioBound trigger state).radioPressed := by
  have ready := keyed.ready radioBound trigger state
  have isKeys := engine.classify_eq_ready radioBound trigger state
  refine ready.together (eq_true_of_ne_false fun apart => ?_)
  have notCall := (ready.classifyTrigger_shared trigger).2 apart (isKeys ▸ isRadio)
  rw [← isKeys, isCall] at notCall
  cases notCall

/-- What a key event does to the keys that are held. -/
theorem Keyed.keys_handleKeyEvent {engine : KeybindEngine} (keyed : engine.Keyed)
    (radioBound : Bool) (trigger : Trigger) (state : KeyState) :
    SameKeys
      { engine.ready radioBound trigger state with
        callPressed := if (engine.classify radioBound trigger).1 then decide (state = .down)
          else (engine.ready radioBound trigger state).callPressed
        radioPressed := if (engine.classify radioBound trigger).2 then decide (state = .down)
          else (engine.ready radioBound trigger state).radioPressed }
      (engine.handleKeyEvent radioBound trigger state) := by
  rw [handleKeyEvent_eq]
  apply processKey_keys
  intro isCall isRadio
  exact keyed.together_ready isCall isRadio

/-- A press that the event loop takes up is held. -/
theorem Keyed.holds_press {engine : KeybindEngine} (keyed : engine.Keyed) {radioBound : Bool}
    {trigger : Trigger} (taken : engine.classify radioBound trigger ≠ (false, false)) :
    (engine.handleKeyEvent radioBound trigger .down).Holds
      (trigger, engine.classify radioBound trigger) := by
  have isKeys := engine.classify_eq_ready radioBound trigger .down
  refine Holds.same ?_ (keyed.keys_handleKeyEvent radioBound trigger .down)
  refine ⟨isKeys, ?_, ?_, ?_⟩
  · cases isCall : (engine.classify radioBound trigger).1 with
    | true => exact Or.inl rfl
    | false =>
        refine Or.inr (eq_true_of_ne_false fun notRadio => taken ?_)
        exact Prod.ext isCall notRadio
  · intro isCall
    simp only at isCall
    simp [isCall]
  · intro isRadio
    simp only at isRadio
    simp [isRadio]

/-- An event of another trigger, or a repeated press, leaves a press held. -/
theorem Holds.handleKeyEvent {engine : KeybindEngine} (keyed : engine.Keyed)
    {press : Trigger × Bool × Bool} (holds : engine.Holds press) {trigger : Trigger}
    {state : KeyState} (other : state = .up → press.1 ≠ trigger) (radioBound : Bool) :
    (engine.handleKeyEvent radioBound trigger state).Holds press := by
  have holds := holds.ready radioBound trigger state
  have isKeys := engine.classify_eq_ready radioBound trigger state
  refine Holds.same ?_ (keyed.keys_handleKeyEvent radioBound trigger state)
  refine ⟨holds.keys, holds.taken, fun isCall => ?_, fun isRadio => ?_⟩
  · cases state with
    | down => simp [holds.call isCall]
    | up =>
        have differs : (engine.classify radioBound trigger).1 = false := by
          refine eq_false_of_ne_true fun isTrigger => other rfl ?_
          exact classifyTrigger_call_inj (holds.keys ▸ isCall) (isKeys ▸ isTrigger)
        simp [differs, holds.call isCall]
  · cases state with
    | down => simp [holds.radio isRadio]
    | up =>
        have differs : (engine.classify radioBound trigger).2 = false := by
          refine eq_false_of_ne_true fun isTrigger => other rfl ?_
          exact classifyTrigger_radio_inj (holds.keys ▸ isRadio) (isKeys ▸ isTrigger)
        simp [differs, holds.radio isRadio]

/-! ### Setters and presses -/

theorem sameKeys_setCallActive (engine : KeybindEngine) (active : Bool) :
    SameKeys engine (engine.setCallActive active) := by
  unfold KeybindEngine.setCallActive
  simp only
  split
  · split <;> exact ⟨rfl, rfl, rfl, rfl, rfl⟩
  · exact ⟨rfl, rfl, rfl, rfl, rfl⟩

theorem sameKeys_setRadioPrio (engine : KeybindEngine) (prio : Bool) :
    SameKeys engine (engine.setRadioPrio prio) := by
  have same : SameKeys engine
      (if !prio && engine.radioPrio && engine.radioPressed then
        { engine with radioPrio := prio, implicitRadioPrio := true }
      else { engine with radioPrio := prio }) := by
    split <;> exact ⟨rfl, rfl, rfl, rfl, rfl⟩
  unfold KeybindEngine.setRadioPrio
  simp only
  split <;> exact ⟨same.config, same.running, same.follows, same.callPressed, same.radioPressed⟩

theorem sameKeys_control (engine : KeybindEngine) : SameKeys engine engine.control := by
  unfold KeybindEngine.control
  split
  · exact SameKeys.refl engine
  · rename_i trigger controlQueue queued
    have same : SameKeys engine { engine with controlQueue := controlQueue } :=
      ⟨rfl, rfl, rfl, rfl, rfl⟩
    unfold handleControlEvent
    split
    · exact same
    · split
      · split
        · exact same.trans (sameKeys_setRadioPrio _ _)
        · exact same
      · exact same

theorem radioTransmitting_start (engine : KeybindEngine)
    (radioBound keyboardOk joystickOk : Bool) :
    (engine.start radioBound keyboardOk joystickOk).radioTransmitting =
      engine.radioTransmitting := by
  unfold KeybindEngine.start refreshRadioFollowsCall
  split
  · rfl
  · split
    · rfl
    · simp only
      split
      · rfl
      · split <;> rfl

/-- An engine whose event loop does not run leaves the radio alone. -/
theorem Keyed.silent_of_stopped {engine : KeybindEngine} (keyed : engine.Keyed)
    (stopped : engine.running = false) : engine.radioTransmitting = false := by
  refine eq_false_of_ne_true fun transmits => ?_
  have pressed := keyed.pressed transmits
  rw [(keyed.idle stopped).2] at pressed
  cases pressed

theorem Keyed.radioTransmitting_stop {engine : KeybindEngine} (keyed : engine.Keyed) :
    engine.stop.radioTransmitting = false := by
  unfold KeybindEngine.stop
  simp only
  split
  case isTrue => exact radioTransmitting_resetInputState _
  case isFalse stopped => exact keyed.silent_of_stopped (Bool.not_eq_true _ ▸ stopped)

end KeybindEngine

/-! ## Every run -/

namespace EngineRun

open KeybindEngine

/-- What the engine promises in a state: the radio transmits only while its key is held and was
last told so, the release of the radio key, a stop and a new configuration key it down, and the
presses that are held are released as what they were pressed as. -/
structure Safe (wayland : Bool) (run : EngineRun) : Prop where
  pressed : run.engine.radioTransmitting = true → run.engine.radioPressed = true
  sent : run.engine.sent.getLast? = some .active ↔ run.engine.radioTransmitting = true
  released : ∀ trigger, (run.engine.classify run.radioBound trigger).2 = true →
    (run.step wayland (.key trigger .up)).engine.radioTransmitting = false
  stopped : (run.step wayland .stop).engine.radioTransmitting = false
  reconfigured : ∀ transmit keybinds radioIntegrationEnabled keyboardOk joystickOk,
    (run.step wayland (.setConfig transmit keybinds radioIntegrationEnabled keyboardOk
      joystickOk)).engine.radioTransmitting = false
  paired : ∀ press ∈ run.presses, ∀ radioBound,
    run.engine.classify radioBound press.1 = press.2

/-- The invariant of a run. -/
structure Sound (run : EngineRun) : Prop where
  keyed : run.engine.Keyed
  held : ∀ press ∈ run.presses, run.engine.Holds press

theorem Sound.safe {run : EngineRun} (sound : run.Sound) (wayland : Bool) : run.Safe wayland where
  pressed := sound.keyed.pressed
  sent := sound.keyed.sent
  released := by
    intro trigger isRadio
    simp only [step]
    split
    case isTrue running =>
      exact (sound.keyed.handleKeyEvent running run.radioBound trigger .up).2 isRadio rfl
    case isFalse stopped => exact sound.keyed.silent_of_stopped (Bool.not_eq_true _ ▸ stopped)
  stopped := sound.keyed.radioTransmitting_stop
  reconfigured := by
    intro transmit keybinds radioIntegrationEnabled keyboardOk joystickOk
    simp only [step, setConfig]
    rw [radioTransmitting_start]
    exact radioTransmitting_resetInputState _
  paired := fun press isHeld radioBound => (sound.held press isHeld).classify radioBound

theorem sound_initial (wayland : Bool) (transmit : TransmitConfig) (keybinds : KeybindsConfig)
    (radioIntegrationEnabled radioBound : Bool) :
    (initial wayland transmit keybinds radioIntegrationEnabled radioBound).Sound where
  keyed := keyed_new (isSome_radioTrigger_of_fallback wayland transmit keybinds
    radioIntegrationEnabled)
  held := by simp [initial]

theorem Sound.key {run : EngineRun} (sound : run.Sound) (trigger : Trigger) (state : KeyState) :
    ∀ press ∈ recordKey run.presses trigger (run.engine.classify run.radioBound trigger) state,
      (run.engine.handleKeyEvent run.radioBound trigger state).Holds press := by
  intro press isHeld
  cases state with
  | down =>
      simp only [recordKey] at isHeld
      split at isHeld
      case isTrue =>
        exact (sound.held press isHeld).handleKeyEvent sound.keyed (fun isUp => by cases isUp) _
      case isFalse taken =>
        rcases List.mem_append.mp isHeld with earlier | new
        · exact (sound.held press earlier).handleKeyEvent sound.keyed (fun isUp => by cases isUp) _
        · cases List.mem_singleton.mp new
          exact sound.keyed.holds_press taken
  | up =>
      obtain ⟨earlier, differs⟩ := List.mem_filter.mp isHeld
      exact (sound.held press earlier).handleKeyEvent sound.keyed
        (fun _ => of_decide_eq_true differs) _

theorem Sound.step {run : EngineRun} (sound : run.Sound) (wayland : Bool) (move : EngineMove) :
    (run.step wayland move).Sound := by
  cases move with
  | key trigger state =>
      simp only [EngineRun.step]
      split
      case isTrue running =>
        exact ⟨(sound.keyed.handleKeyEvent running _ trigger state).1,
          sound.key trigger state⟩
      case isFalse => exact sound
  | control =>
      exact ⟨sound.keyed.control, fun press isHeld =>
        (sound.held press isHeld).same (sameKeys_control _)⟩
  | setCallActive active =>
      exact ⟨sound.keyed.setCallActive active, fun press isHeld =>
        (sound.held press isHeld).same (sameKeys_setCallActive _ active)⟩
  | setRadioPrio prio =>
      exact ⟨sound.keyed.setRadioPrio prio, fun press isHeld =>
        (sound.held press isHeld).same (sameKeys_setRadioPrio _ prio)⟩
  | start keyboardOk joystickOk =>
      refine ⟨sound.keyed.start run.radioBound keyboardOk joystickOk, fun press isHeld => ?_⟩
      have holds := sound.held press isHeld
      -- a held press means that the event loop runs already
      have running : run.engine.running = true := by
        refine eq_true_of_ne_false fun stopped => ?_
        obtain ⟨callUp, radioUp⟩ := sound.keyed.idle stopped
        simpa [callUp, radioUp] using holds.pressed
      simpa [EngineRun.step, KeybindEngine.start, running] using holds
  | stop => exact ⟨sound.keyed.stop, by simp [EngineRun.step]⟩
  | setConfig transmit keybinds radioIntegrationEnabled keyboardOk joystickOk =>
      refine ⟨sound.keyed.setConfig ?_ _ _ _, by simp [EngineRun.step]⟩
      exact isSome_radioTrigger_of_fallback wayland transmit keybinds radioIntegrationEnabled
  | rebind bound => exact ⟨sound.keyed, sound.held⟩

/-- For every configuration and every sequence of events, the radio transmits only while its key
is held, and the releases of the presses that the engine takes up are classified as the presses
were. -/
theorem transmitter_neverStuck (wayland : Bool) (transmit : TransmitConfig)
    (keybinds : KeybindsConfig) (radioIntegrationEnabled radioBound : Bool)
    (moves : List EngineMove) :
    (moves.foldl (step wayland)
      (initial wayland transmit keybinds radioIntegrationEnabled radioBound)).Safe wayland := by
  have sound : ∀ (moves : List EngineMove) (run : EngineRun), run.Sound →
      (moves.foldl (step wayland) run).Sound := by
    intro moves
    induction moves with
    | nil => exact fun run sound => sound
    | cons move moves ih => exact fun run sound => ih _ (sound.step wayland move)
  exact (sound moves _ (sound_initial ..)).safe wayland

/-- Push-to-talk on Wayland, without a button for the radio. -/
def portalConfig : TransmitConfig := { callMicMode := .pushToTalk }

/-- The radio shortcut is pressed while the desktop has it unbound, and bound before it is
released. -/
def reboundPress : List EngineMove :=
  [.start true true, .key (.portal .radioPushToTalk) .down, .rebind true]

/-- A press that is ignored while the radio follows the call key, and a press that a new
configuration has put an end to, are not released as what they were pressed as. -/
theorem reboundPress_differs :
    (([EngineMove.start true true].foldl (step true)
        (initial true portalConfig {} true false)).engine.classify false
          (.portal .radioPushToTalk) = (false, false) ∧
      (reboundPress.foldl (step true) (initial true portalConfig {} true false)).engine.classify
        true (.portal .radioPushToTalk) = (false, true)) ∧
    (([EngineMove.start true true].foldl (step true)
        (initial true portalConfig {} true false)).engine.classify false
          (.portal .pushToTalk) = (true, true) ∧
      ([EngineMove.start true true, .key (.portal .pushToTalk) .down,
        .setConfig portalConfig {} false true true].foldl (step true)
        (initial true portalConfig {} true false)).engine.classify false
          (.portal .pushToTalk) = (true, false)) := by
  decide +kernel

end EngineRun

end Keybinds

end Vacs
