import Mathlib.Data.List.Basic

/-!
# The keybind engine

The engine turns key events into transmissions of the radio and into the mute state
of the call microphone. Which key does what is fixed by a configuration; on Wayland
the radio key may follow the call key while the desktop has no shortcut for it,
which is resolved from the listener whenever no key is held.

The event loop, the control task and the setters that other tasks call are atomic
here. What is sent to the radio is logged in the order of the sends; the send of a
reset, which the source spawns as a task, is one of them.
-/

set_option autoImplicit false

namespace Vacs

namespace Keybinds

/-! ## Configuration -/

/-- A key, by its code, or a button of a joystick. -/
inductive InputCode where
  | key (code : String)
  | button (device : String) (button : ℕ)
deriving DecidableEq

/-- The shortcuts of the Wayland portal. -/
inductive PortalAction where
  | pushToTalk
  | pushToMute
  | radioPushToTalk
  | callControl
  | toggleRadioPrio
  | sayAgain
deriving DecidableEq

inductive Trigger where
  | input (code : InputCode)
  | portal (action : PortalAction)
deriving DecidableEq

inductive CallMicMode where
  | voiceActivation
  | pushToTalk
  | pushToMute
deriving DecidableEq

structure TransmitConfig where
  callMicMode : CallMicMode
  pushToTalk : Option InputCode := none
  pushToMute : Option InputCode := none
  radioPushToTalk : Option InputCode := none
deriving DecidableEq

structure KeybindsConfig where
  acceptCall : Option InputCode := none
  endCall : Option InputCode := none
  toggleRadioPrio : Option InputCode := none
  sayAgain : Option InputCode := none
deriving DecidableEq

def isButton : Option InputCode → Bool
  | some (.button _ _) => true
  | some (.key _) | none => false

/-- A configured button replaces the portal shortcut; keyboard codes are ignored. -/
def composeWaylandTrigger (portal : Option PortalAction) (configured : Option InputCode) :
    Option Trigger :=
  if isButton configured then configured.map .input else portal.map .portal

/-- A trigger that is the configured input, or on Wayland the given portal shortcut. -/
def selectTrigger (wayland : Bool) (portal : Option PortalAction) (configured : Option InputCode) :
    Option Trigger :=
  if wayland then composeWaylandTrigger portal configured else configured.map .input

namespace TransmitConfig

def configuredCallInput (config : TransmitConfig) : Option InputCode :=
  match config.callMicMode with
  | .voiceActivation => none
  | .pushToTalk => config.pushToTalk
  | .pushToMute => config.pushToMute

def activeCallTrigger (config : TransmitConfig) (wayland : Bool) : Option Trigger :=
  let portal :=
    match config.callMicMode with
    | .voiceActivation => none
    | .pushToTalk => some PortalAction.pushToTalk
    | .pushToMute => some PortalAction.pushToMute
  selectTrigger wayland portal config.configuredCallInput

def configuredRadioInput (config : TransmitConfig) : Option InputCode :=
  match config.callMicMode with
  | .voiceActivation => config.radioPushToTalk
  | .pushToTalk => config.radioPushToTalk.or config.pushToTalk
  | .pushToMute => config.pushToMute

def activeRadioTrigger (config : TransmitConfig) (wayland enabled : Bool) : Option Trigger :=
  let portal :=
    match config.callMicMode with
    | .voiceActivation | .pushToTalk => some PortalAction.radioPushToTalk
    | .pushToMute => some PortalAction.pushToMute
  if enabled then selectTrigger wayland portal config.configuredRadioInput else none

/-- Whether radio TX falls back to the call trigger while the desktop has no shortcut for it. -/
def radioFallsBackToCall (config : TransmitConfig) (wayland enabled : Bool) : Bool :=
  enabled && wayland && decide (config.callMicMode = .pushToTalk) &&
    !isButton config.configuredRadioInput

end TransmitConfig

/-- What the engine keeps of a configuration. -/
structure EngineConfig where
  callMicMode : CallMicMode
  callTrigger : Option Trigger
  radioTrigger : Option Trigger
  acceptCallTrigger : Option Trigger
  endCallTrigger : Option Trigger
  toggleRadioPrioTrigger : Option Trigger
  sayAgainTrigger : Option Trigger
  radioPortalFallback : Bool
deriving DecidableEq

namespace EngineConfig

def ofConfigs (wayland : Bool) (transmit : TransmitConfig) (keybinds : KeybindsConfig)
    (radioIntegrationEnabled : Bool) : EngineConfig where
  callMicMode := transmit.callMicMode
  callTrigger := transmit.activeCallTrigger wayland
  radioTrigger := transmit.activeRadioTrigger wayland radioIntegrationEnabled
  acceptCallTrigger := selectTrigger wayland (some .callControl) keybinds.acceptCall
  endCallTrigger := selectTrigger wayland (some .callControl) keybinds.endCall
  toggleRadioPrioTrigger := selectTrigger wayland (some .toggleRadioPrio) keybinds.toggleRadioPrio
  sayAgainTrigger := selectTrigger wayland (some .sayAgain) keybinds.sayAgain
  radioPortalFallback := transmit.radioFallsBackToCall wayland radioIntegrationEnabled

def controls (config : EngineConfig) : List Trigger :=
  [config.acceptCallTrigger, config.endCallTrigger, config.toggleRadioPrioTrigger,
    config.sayAgainTrigger].flatMap Option.toList

def anyButtonTrigger (config : EngineConfig) : Bool :=
  (config.callTrigger.toList ++ config.radioTrigger.toList ++ config.controls).any fun
    | .input (.button _ _) => true
    | .input (.key _) | .portal _ => false

end EngineConfig

/-! ## The engine -/

inductive KeyState where
  | down
  | up
deriving DecidableEq

inductive TransmissionState where
  | active
  | inactive
deriving DecidableEq

/-- The state sent to the radio for a state of its key. -/
def TransmissionState.ofKeyDown (keyDown : Bool) : TransmissionState :=
  if keyDown then .active else .inactive

structure KeybindEngine where
  config : EngineConfig
  /-- The platform listener runs. -/
  listener : Bool := false
  /-- The event loop runs. -/
  running : Bool := false
  radioFollowsCall : Bool
  callPressed : Bool := false
  radioPressed : Bool := false
  callActive : Bool := false
  radioPrio : Bool := false
  implicitRadioPrio : Bool := false
  radioTransmitting : Bool := false
  /-- The control keys that are held. -/
  heldControls : List Trigger := []
  /-- The control presses the control task is still to handle. -/
  controlQueue : List Trigger := []
  /-- The last mute state set on the audio input. -/
  inputMuted : Option Bool := none
  /-- The transmission states sent to the radio, in order. -/
  sent : List TransmissionState := []
deriving DecidableEq

/-- The capacity of the channel to the control task. -/
def controlChannelCapacity : ℕ := 3

namespace KeybindEngine

def new (config : EngineConfig) : KeybindEngine where
  config := config
  radioFollowsCall := config.radioPortalFallback

def setRadioTransmit (engine : KeybindEngine) (state : TransmissionState) : KeybindEngine :=
  { engine with sent := engine.sent ++ [state] }

def setInputMuted (engine : KeybindEngine) (muted : Bool) : KeybindEngine :=
  { engine with inputMuted := some muted }

/-- Resolve the fallback from the listener's bindings, unless a key is held. -/
def refreshRadioFollowsCall (engine : KeybindEngine) (radioBound : Bool) : KeybindEngine :=
  if !engine.config.radioPortalFallback || engine.callPressed || engine.radioPressed then engine
  else { engine with radioFollowsCall := !(engine.listener && radioBound) }

/-- Radio TX and the call MIC action share one trigger. -/
def radioSharesCallTrigger (engine : KeybindEngine) : Bool :=
  engine.config.radioTrigger.isSome &&
    (decide (engine.config.radioTrigger = engine.config.callTrigger) || engine.radioFollowsCall)

/-- Whether a trigger is the call key and whether it is the radio key. -/
def classifyTrigger (trigger : Trigger) (callTrigger radioTrigger : Option Trigger)
    (radioFollowsCall : Bool) : Bool × Bool :=
  let isCallKey := decide (callTrigger = some trigger)
  let isRadioKey := if radioFollowsCall then isCallKey else decide (radioTrigger = some trigger)
  (isCallKey, isRadioKey)

/-! ### Starting and stopping -/

def start (engine : KeybindEngine) (radioBound keyboardOk joystickOk : Bool) : KeybindEngine :=
  if engine.running then engine
  else if engine.config.callTrigger.isNone && engine.config.radioTrigger.isNone &&
      engine.config.controls.isEmpty then engine
  else
    let engine := { engine with listener := engine.listener || keyboardOk }
    let anyButton := engine.config.anyButtonTrigger
    if !keyboardOk && !(anyButton && joystickOk) then engine
    else
      { engine.refreshRadioFollowsCall radioBound with
        running := true
        heldControls := []
        controlQueue := [] }

/-- Release all keys, and key the radio down if it transmits. -/
def resetInputState (engine : KeybindEngine) : KeybindEngine :=
  let engine := { engine with callPressed := false, radioPressed := false }
  let engine :=
    if engine.radioTransmitting then
      { engine with radioTransmitting := false }.setRadioTransmit .inactive
    else engine
  engine.setInputMuted (decide (engine.config.callMicMode = .pushToTalk))

def stop (engine : KeybindEngine) : KeybindEngine :=
  let stopped := { engine with listener := false, running := false, controlQueue := [] }
  if engine.running then stopped.resetInputState else stopped

def setConfig (engine : KeybindEngine) (config : EngineConfig)
    (radioBound keyboardOk joystickOk : Bool) : KeybindEngine :=
  let engine :=
    { engine.stop with config := config, radioFollowsCall := config.radioPortalFallback }
  engine.resetInputState.start radioBound keyboardOk joystickOk

/-! ### Calls and priority -/

def setCallActive (engine : KeybindEngine) (active : Bool) : KeybindEngine :=
  let engine := { engine with callActive := active }
  if active then
    if engine.radioSharesCallTrigger && engine.radioPressed && engine.radioTransmitting &&
        !engine.radioPrio && decide (engine.config.callMicMode ≠ .voiceActivation) then
      { engine with radioPrio := true, implicitRadioPrio := true }
    else engine
  else { engine with implicitRadioPrio := false, radioPrio := false }

def setRadioPrio (engine : KeybindEngine) (prio : Bool) : KeybindEngine :=
  let prevPrio := engine.radioPrio
  let engine := { engine with radioPrio := prio }
  let engine :=
    if !prio && prevPrio && engine.radioPressed then { engine with implicitRadioPrio := true }
    else engine
  match engine.config.callMicMode, engine.callPressed with
  | .voiceActivation, _ | .pushToMute, false => engine.setInputMuted prio
  | .pushToMute, true | .pushToTalk, _ => engine

/-- The control task handles a press; accepting and ending calls is up to the app, which sets
the call active or inactive. -/
def handleControlEvent (engine : KeybindEngine) (trigger : Trigger) : KeybindEngine :=
  if engine.config.acceptCallTrigger = some trigger ∨ engine.config.endCallTrigger = some trigger
  then engine
  else if engine.config.toggleRadioPrioTrigger = some trigger then
    if engine.callActive then
      engine.setRadioPrio (!(engine.radioPrio || engine.implicitRadioPrio))
    else engine
  else engine

def control (engine : KeybindEngine) : KeybindEngine :=
  match engine.controlQueue with
  | [] => engine
  | trigger :: controlQueue => { engine with controlQueue := controlQueue }.handleControlEvent trigger

/-! ### The event loop -/

/-- A control key fires once per press; a press that finds the control task busy is dropped. -/
def transitionControls (engine : KeybindEngine) (trigger : Trigger) (state : KeyState) :
    KeybindEngine :=
  if trigger ∉ engine.config.controls then engine
  else
    match state with
    | .up => { engine with heldControls := engine.heldControls.filter fun held => decide (held ≠ trigger) }
    | .down =>
        if trigger ∈ engine.heldControls then engine
        else
          { engine with
            heldControls := engine.heldControls ++ [trigger]
            controlQueue :=
              if engine.controlQueue.length < controlChannelCapacity then
                engine.controlQueue ++ [trigger]
              else engine.controlQueue }

/-- The mute state that a key event sets during a call. -/
def micAction (mode : CallMicMode) (isCallKey effectivePrio keyDown : Bool) : Option Bool :=
  match mode, isCallKey, effectivePrio with
  | .voiceActivation, _, _ => none
  | .pushToTalk, true, false => some (!keyDown)
  | .pushToTalk, true, true => some true
  | .pushToMute, _, false => some keyDown
  | .pushToTalk, false, _ | .pushToMute, _, true => none

/-- Whether an event of the radio key keys the radio. -/
def keysRadio (engine : KeybindEngine) (isCallKey isRadioKey : Bool) : Bool :=
  isRadioKey && ((isCallKey ^^ isRadioKey) || !engine.callActive || engine.radioPrio ||
    decide (engine.config.callMicMode ≠ .pushToTalk))

def keyRadio (engine : KeybindEngine) (isCallKey isRadioKey keyDown : Bool) : KeybindEngine :=
  if engine.keysRadio isCallKey isRadioKey then
    { engine with radioTransmitting := keyDown }.setRadioTransmit (.ofKeyDown keyDown)
  else engine

/-- The end of a radio key press that was covered by an implicit priority. -/
def releaseImplicitPrio (engine : KeybindEngine) : KeybindEngine :=
  if engine.implicitRadioPrio then
    let engine := { engine with implicitRadioPrio := false }
    if engine.radioPrio then { engine with radioPrio := false }
    else { engine with radioTransmitting := false }.setRadioTransmit .inactive
  else engine

/-- What a key event that changes a key does. -/
def applyKey (engine : KeybindEngine) (isCallKey isRadioKey keyDown : Bool) : KeybindEngine :=
  let effectivePrio := engine.radioPrio && !engine.implicitRadioPrio
  let keyed := engine.keyRadio isCallKey isRadioKey keyDown
  let muted :=
    if engine.callActive then
      match micAction engine.config.callMicMode isCallKey effectivePrio keyDown with
      | some muted => keyed.setInputMuted muted
      | none => keyed
    else keyed
  if !keyDown && isRadioKey then muted.releaseImplicitPrio else muted

/-- Mark the keys as held or released; an event that changes nothing is skipped. -/
def processKey (engine : KeybindEngine) (isCallKey isRadioKey keyDown : Bool) : KeybindEngine :=
  if !isCallKey && !isRadioKey then engine
  else
    let unchanged := isCallKey && engine.callPressed == keyDown
    let engine := if isCallKey then { engine with callPressed := keyDown } else engine
    if unchanged then engine
    else
      let unchanged := isRadioKey && engine.radioPressed == keyDown
      let engine := if isRadioKey then { engine with radioPressed := keyDown } else engine
      if unchanged then engine else engine.applyKey isCallKey isRadioKey keyDown

/-- What the event loop takes a trigger for in this state. -/
def classify (engine : KeybindEngine) (radioBound : Bool) (trigger : Trigger) : Bool × Bool :=
  classifyTrigger trigger engine.config.callTrigger engine.config.radioTrigger
    (engine.refreshRadioFollowsCall radioBound).radioFollowsCall

/-- One round of the event loop. -/
def handleKeyEvent (engine : KeybindEngine) (radioBound : Bool) (trigger : Trigger)
    (state : KeyState) : KeybindEngine :=
  let engine := (engine.transitionControls trigger state).refreshRadioFollowsCall radioBound
  let keys := classifyTrigger trigger engine.config.callTrigger engine.config.radioTrigger
    engine.radioFollowsCall
  engine.processKey keys.1 keys.2 (decide (state = .down))

end KeybindEngine

end Keybinds

end Vacs
