import Vacs.Foundations.FiniteMap
import Vacs.Foundations.SenderRegistries
import Vacs.Keybinds.PortalListener

/-!
# Joystick buttons

One service reports the buttons of all joysticks to whoever has registered: to the engine while
it runs, and to every capture of a binding while it lasts. A press and a release reach the
engine on the channel on which its platform listener sends the keys.

A button that is held on a device that is unplugged is released by the service. A button that
the engine takes for pressed is therefore held, as soon as it has taken everything that was sent
(`buttonKeys_areHeld`): the transmitter cannot get stuck on a device that is gone. Two devices of
one kind are told apart by nobody: a button that is held on both counts as released when it is
released on one.
-/

set_option autoImplicit false

namespace Vacs

open GuardedRuns

namespace Keybinds

open PortalRun (pressedAfter pressedAfter_append)

/-! ## The service -/

structure OpenDevice where
  guid : String
  name : String
  held : Finset ℕ
deriving DecidableEq

/-- What SDL reports. A device that is added is opened, which can fail. The buttons that are
held on a device that is removed are released in some order. -/
inductive SdlEvent where
  | joyDeviceAdded (which : ℕ) (opened : Option (String × String))
  | joyDeviceRemoved (which : ℕ) (order : Enumeration ℕ)
  | joyButtonDown (which buttonIdx : ℕ)
  | joyButtonUp (which buttonIdx : ℕ)
  | other

def buttonEvent (guid name : String) (button : ℕ) (state : KeyState) : KeyEvent where
  trigger := .input (.button guid button)
  label := name ++ " B" ++ toString button
  state := state

def KeyEvent.isButton (event : KeyEvent) : Bool :=
  match event.trigger with
  | .input (.button _ _) => true
  | _ => false

structure JoystickService where
  openDevices : HashMap ℕ OpenDevice := ∅
  registry : SenderRegistry KeyEvent := {}

namespace JoystickService

def handleEvent (service : JoystickService) : SdlEvent → JoystickService
  | .joyDeviceAdded which (some (guid, name)) =>
      { service with openDevices := service.openDevices.insert which ⟨guid, name, ∅⟩ }
  | .joyDeviceAdded _ none => service
  | .joyDeviceRemoved which order =>
      match service.openDevices.lookup which with
      | none => service
      | some device =>
          { service with
            openDevices := service.openDevices.erase which
            registry := service.registry.sendAll <| (order.list device.held).map fun button =>
              buttonEvent device.guid device.name button .up }
  | .joyButtonDown which buttonIdx =>
      match service.openDevices.lookup which with
      | none => service
      | some device =>
          { service with
            openDevices := service.openDevices.insert which
              { device with held := insert buttonIdx device.held }
            registry := service.registry.send
              (buttonEvent device.guid device.name buttonIdx .down) }
  | .joyButtonUp which buttonIdx =>
      match service.openDevices.lookup which with
      | none => service
      | some device =>
          { service with
            openDevices := service.openDevices.insert which
              { device with held := device.held.erase buttonIdx }
            registry := service.registry.send
              (buttonEvent device.guid device.name buttonIdx .up) }
  | .other => service

/-- A button is held on some device with this GUID. -/
def Holds (service : JoystickService) (guid : String) (button : ℕ) : Prop :=
  ∃ which device, service.openDevices.lookup which = some device ∧ device.guid = guid ∧
    button ∈ device.held

/-- Whoever takes these events as they come presses only buttons that are held. -/
def Explains (service : JoystickService) (events : List KeyEvent) : Prop :=
  ∀ guid button, pressedAfter (.input (.button guid button)) events = true →
    service.Holds guid button

/-- The buttons explain the events, from wherever one begins to listen. -/
def Balanced (service : JoystickService) : Prop :=
  ∀ since, service.Explains (service.registry.log.drop since)

/-- SDL gives every device that is connected an id of its own. -/
def Distinct (service : JoystickService) : SdlEvent → Prop
  | .joyDeviceAdded which _ => service.openDevices.lookup which = none
  | _ => True

instance (service : JoystickService) : ∀ event, Decidable (service.Distinct event)
  | .joyDeviceAdded which _ =>
      inferInstanceAs (Decidable (service.openDevices.lookup which = none))
  | .joyDeviceRemoved _ _ => isTrue trivial
  | .joyButtonDown _ _ => isTrue trivial
  | .joyButtonUp _ _ => isTrue trivial
  | .other => isTrue trivial

end JoystickService

/-! ### Presses and releases -/

/-- After releases a trigger is pressed if it was before, and is not among them. -/
theorem pressedAfter_releases {trigger : Trigger} {events released : List KeyEvent}
    (areReleases : ∀ event ∈ released, event.state = .up) :
    pressedAfter trigger (events ++ released) = true ↔
      pressedAfter trigger events = true ∧ ∀ event ∈ released, event.trigger ≠ trigger := by
  induction released using List.reverseRecOn with
  | nil =>
      rw [List.append_nil]
      exact ⟨fun pressed => ⟨pressed, fun _ isThere => absurd isThere List.not_mem_nil⟩, And.left⟩
  | append_singleton released event ih =>
      have isUp : event.state = .up := areReleases event (by simp)
      rw [← List.append_assoc, pressedAfter_append, isUp]
      simp only [List.mem_append, List.mem_singleton]
      split
      · next same =>
          refine iff_of_false Bool.false_ne_true fun both => ?_
          exact both.2 event (Or.inr rfl) same
      · next differs =>
          rw [ih fun other isThere => areReleases other (List.mem_append_left _ isThere)]
          refine and_congr_right fun _ => ⟨fun others other isThere => ?_, fun all other isThere =>
            all other (Or.inl isThere)⟩
          rcases isThere with earlier | rfl
          · exact others other earlier
          · exact differs

/-- The events of other triggers do not matter. -/
theorem pressedAfter_filter {trigger : Trigger} {counts : KeyEvent → Bool}
    (own : ∀ event, event.trigger = trigger → counts event = true) (events : List KeyEvent) :
    pressedAfter trigger (events.filter counts) = pressedAfter trigger events := by
  induction events using List.reverseRecOn with
  | nil => rfl
  | append_singleton events event ih =>
      rw [List.filter_append, List.filter_singleton, pressedAfter_append]
      cases isCounted : counts event with
      | true =>
          rw [cond_true, pressedAfter_append, ih]
      | false =>
          have differs : event.trigger ≠ trigger := fun same => by
            rw [own event same] at isCounted
            cases isCounted
          rw [if_neg differs, cond_false, List.append_nil, ih]

namespace JoystickService

variable {service : JoystickService}

theorem explains_nil (service : JoystickService) : service.Explains [] :=
  fun _ _ pressed => nomatch pressed

theorem balanced_new : ({} : JoystickService).Balanced :=
  fun _ _ _ pressed => nomatch (List.drop_nil ▸ pressed)

/-- Events are sent that the buttons explain, also together with what was sent before. -/
theorem Balanced.sends (balanced : service.Balanced) {changed : JoystickService}
    {events : List KeyEvent} (log : changed.registry.log = service.registry.log ++ events)
    (after : ∀ earlier, service.Explains earlier → changed.Explains (earlier ++ events))
    (alone : ∀ since, changed.Explains (events.drop since)) : changed.Balanced := by
  intro since
  rw [log]
  rcases Nat.le_total since service.registry.log.length with early | late
  · rw [List.drop_append_of_le_length early]
    exact after _ (balanced since)
  · rw [List.drop_append, List.drop_eq_nil_of_le late, List.nil_append]
    exact alone _

theorem Balanced.send (balanced : service.Balanced) {changed : JoystickService} {event : KeyEvent}
    (log : changed.registry.log = service.registry.log ++ [event])
    (after : ∀ earlier, service.Explains earlier → changed.Explains (earlier ++ [event])) :
    changed.Balanced := by
  refine balanced.sends log after fun since => ?_
  cases since with
  | zero => exact after [] (explains_nil service)
  | succ since =>
      rw [List.drop_succ_cons, List.drop_nil]
      exact explains_nil changed

/-- What is held on other devices stays held when a device changes. -/
theorem Holds.other {guid : String} {button which : ℕ} (holds : service.Holds guid button)
    {changed : JoystickService}
    (others : ∀ other, other ≠ which →
      changed.openDevices.lookup other = service.openDevices.lookup other)
    (same : ∀ device, service.openDevices.lookup which = some device → device.guid = guid →
      button ∈ device.held → changed.Holds guid button) : changed.Holds guid button := by
  obtain ⟨holder, device, isOpen, isGuid, isHeld⟩ := holds
  by_cases isDevice : holder = which
  · subst isDevice
    exact same device isOpen isGuid isHeld
  · exact ⟨holder, device, (others holder isDevice).trans isOpen, isGuid, isHeld⟩

theorem Balanced.handleEvent (balanced : service.Balanced) {event : SdlEvent}
    (distinct : service.Distinct event) : (service.handleEvent event).Balanced := by
  cases event with
  | joyDeviceAdded which opened =>
      cases opened with
      | none => exact balanced
      | some names =>
          refine fun since guid button pressed => (balanced since guid button pressed).other
            (fun other differs => Finmap.lookup_insert_of_ne _ differs) fun device isOpen => ?_
          rw [distinct] at isOpen
          cases isOpen
  | joyDeviceRemoved which order =>
      cases isOpen : service.openDevices.lookup which with
      | none =>
          simp only [JoystickService.handleEvent, isOpen]
          exact balanced
      | some device =>
          have areReleases : ∀ event ∈ (order.list device.held).map fun button =>
              buttonEvent device.guid device.name button .up, event.state = .up := by
            intro event isThere
            obtain ⟨button, -, rfl⟩ := List.mem_map.mp isThere
            rfl
          simp only [JoystickService.handleEvent, isOpen]
          refine balanced.sends (SenderRegistry.log_sendAll _ _) ?_ ?_
          · intro earlier explains guid button pressed
            obtain ⟨wasPressed, notReleased⟩ := (pressedAfter_releases areReleases).mp pressed
            refine (explains guid button wasPressed).other
              (fun other differs => Finmap.lookup_erase_ne differs) fun holder isHolder isGuid
                isHeld => ?_
            -- a button that was held on the device that is gone is among the releases
            cases isOpen.symm.trans isHolder
            refine absurd ?_ (notReleased (buttonEvent device.guid device.name button .up)
              (List.mem_map_of_mem ((order.mem_list _ _).mpr isHeld)))
            rw [buttonEvent, isGuid]
          · intro since guid button pressed
            have areReleases := fun event isThere =>
              areReleases event (List.mem_of_mem_drop (i := since) isThere)
            rw [← List.nil_append (List.drop _ _)] at pressed
            cases ((pressedAfter_releases areReleases).mp pressed).1
  | joyButtonDown which buttonIdx =>
      cases isOpen : service.openDevices.lookup which with
      | none =>
          simp only [JoystickService.handleEvent, isOpen]
          exact balanced
      | some device =>
          simp only [JoystickService.handleEvent, isOpen]
          refine balanced.send rfl fun earlier explains guid button pressed => ?_
          rw [pressedAfter_append] at pressed
          split at pressed
          · next same =>
              cases same
              exact ⟨which, _, Finmap.lookup_insert _, rfl, Finset.mem_insert_self _ _⟩
          · refine (explains guid button pressed).other
              (fun other differs => Finmap.lookup_insert_of_ne _ differs) fun holder isHolder isGuid
                isHeld => ?_
            cases isOpen.symm.trans isHolder
            exact ⟨which, _, Finmap.lookup_insert _, isGuid, Finset.mem_insert_of_mem isHeld⟩
  | joyButtonUp which buttonIdx =>
      cases isOpen : service.openDevices.lookup which with
      | none =>
          simp only [JoystickService.handleEvent, isOpen]
          exact balanced
      | some device =>
          simp only [JoystickService.handleEvent, isOpen]
          refine balanced.send rfl fun earlier explains guid button pressed => ?_
          rw [pressedAfter_append] at pressed
          split at pressed
          · cases pressed
          · next differs =>
              refine (explains guid button pressed).other
                (fun other differs => Finmap.lookup_insert_of_ne _ differs) fun holder isHolder
                  isGuid isHeld => ?_
              cases isOpen.symm.trans isHolder
              refine ⟨which, _, Finmap.lookup_insert _, isGuid, Finset.mem_erase.mpr ⟨?_, isHeld⟩⟩
              intro same
              refine differs ?_
              rw [buttonEvent, isGuid, same]
  | other => exact balanced

end JoystickService

/-! ## The engine as a subscriber -/

namespace KeybindEngine

/-- The trigger that keys the radio. -/
def radioKey (engine : KeybindEngine) : Option Trigger :=
  if engine.radioFollowsCall then engine.config.callTrigger else engine.config.radioTrigger

/-- A key is pressed only if it was, and was not released since, among these events. -/
structure PressedBy (engine : KeybindEngine) (events : List KeyEvent) : Prop where
  call : engine.callPressed = true →
    ∃ trigger, engine.config.callTrigger = some trigger ∧ pressedAfter trigger events = true
  radio : engine.radioPressed = true →
    ∃ trigger, engine.radioKey = some trigger ∧ pressedAfter trigger events = true

variable {engine : KeybindEngine} {events : List KeyEvent}

theorem pressedBy_released (callUp : engine.callPressed = false)
    (radioUp : engine.radioPressed = false) : engine.PressedBy events where
  call isPressed := nomatch callUp.symm.trans isPressed
  radio isPressed := nomatch radioUp.symm.trans isPressed

theorem PressedBy.same (pressedBy : engine.PressedBy events) {changed : KeybindEngine}
    (same : engine.SameKeys changed) : changed.PressedBy events where
  call isPressed := by
    rw [same.config]
    exact pressedBy.call (same.callPressed.symm.trans isPressed)
  radio isPressed := by
    rw [radioKey, same.config, same.follows]
    exact pressedBy.radio (same.radioPressed.symm.trans isPressed)

theorem PressedBy.refresh (pressedBy : engine.PressedBy events) (radioBound : Bool) :
    (engine.refreshRadioFollowsCall radioBound).PressedBy events := by
  unfold refreshRadioFollowsCall
  split
  · exact pressedBy
  · next resolved =>
      simp only [Bool.not_eq_true, Bool.or_eq_false_iff] at resolved
      exact pressedBy_released resolved.1.2 resolved.2

/-- The event loop handles an event. -/
theorem PressedBy.handleKeyEvent (pressedBy : engine.PressedBy events) (keyed : engine.Keyed)
    (radioBound : Bool) (event : KeyEvent) :
    (engine.handleKeyEvent radioBound event.trigger event.state).PressedBy (events ++ [event]) := by
  have isKeys := engine.classify_eq_ready radioBound event.trigger event.state
  have isReady : (engine.ready radioBound event.trigger event.state).PressedBy events :=
    (pressedBy.same (engine.sameControls event.trigger event.state).1).refresh radioBound
  have isPress : ∀ trigger, event.trigger = trigger → decide (event.state = .down) = true →
      pressedAfter trigger (events ++ [event]) = true := by
    intro trigger same isDown
    rw [pressedAfter_append, if_pos same, isDown]
  have isOther : ∀ trigger, event.trigger ≠ trigger → pressedAfter trigger events = true →
      pressedAfter trigger (events ++ [event]) = true := by
    intro trigger differs wasPressed
    rw [pressedAfter_append, if_neg differs, wasPressed]
  refine PressedBy.same ?_ (keyed.keys_handleKeyEvent radioBound event.trigger event.state)
  generalize engine.ready radioBound event.trigger event.state = ready at isKeys isReady ⊢
  rw [isKeys]
  refine ⟨fun isPressed => ?_, fun isPressed => ?_⟩
  · simp only [classifyTrigger, decide_eq_true_eq] at isPressed
    split at isPressed
    · next isCall => exact ⟨event.trigger, isCall, isPress _ rfl isPressed⟩
    · next notCall =>
        obtain ⟨trigger, isTrigger, wasPressed⟩ := isReady.call isPressed
        refine ⟨trigger, isTrigger, isOther trigger (fun same => notCall ?_) wasPressed⟩
        rw [isTrigger, same]
  · have isRadioKey : (classifyTrigger event.trigger ready.config.callTrigger
        ready.config.radioTrigger ready.radioFollowsCall).2 = true ↔
        ready.radioKey = some event.trigger := by
      unfold classifyTrigger radioKey
      cases ready.radioFollowsCall <;> exact decide_eq_true_iff
    simp only [isRadioKey] at isPressed
    split at isPressed
    · next isRadio => exact ⟨event.trigger, isRadio, isPress _ rfl isPressed⟩
    · next notRadio =>
        obtain ⟨trigger, isTrigger, wasPressed⟩ := isReady.radio isPressed
        refine ⟨trigger, isTrigger, isOther trigger (fun same => notRadio ?_) wasPressed⟩
        rw [isTrigger, same]

theorem released_resetInputState (engine : KeybindEngine) :
    engine.resetInputState.callPressed = false ∧ engine.resetInputState.radioPressed = false := by
  unfold resetInputState
  simp only
  split <;> exact ⟨rfl, rfl⟩

theorem pressed_start (engine : KeybindEngine) (radioBound keyboardOk joystickOk : Bool) :
    (engine.start radioBound keyboardOk joystickOk).callPressed = engine.callPressed ∧
      (engine.start radioBound keyboardOk joystickOk).radioPressed = engine.radioPressed := by
  unfold KeybindEngine.start refreshRadioFollowsCall
  split
  · exact ⟨rfl, rfl⟩
  · split
    · exact ⟨rfl, rfl⟩
    · simp only
      split
      · exact ⟨rfl, rfl⟩
      · split <;> exact ⟨rfl, rfl⟩

theorem running_stop (engine : KeybindEngine) : engine.stop.running = false := by
  unfold KeybindEngine.stop resetInputState
  simp only
  split
  · split <;> rfl
  · rfl

theorem Keyed.pressedBy_start (keyed : engine.Keyed) (stopped : engine.running = false)
    (radioBound keyboardOk joystickOk : Bool) (events : List KeyEvent) :
    (engine.start radioBound keyboardOk joystickOk).PressedBy events := by
  obtain ⟨call, radio⟩ := engine.pressed_start radioBound keyboardOk joystickOk
  obtain ⟨callUp, radioUp⟩ := keyed.idle stopped
  exact pressedBy_released (call.trans callUp) (radio.trans radioUp)

theorem pressedBy_setConfig (engine : KeybindEngine) (config : EngineConfig)
    (radioBound keyboardOk joystickOk : Bool) (events : List KeyEvent) :
    (engine.setConfig config radioBound keyboardOk joystickOk).PressedBy events := by
  obtain ⟨callUp, radioUp⟩ := released_resetInputState
    { engine.stop with config := config, radioFollowsCall := config.radioPortalFallback }
  obtain ⟨call, radio⟩ := pressed_start _ radioBound keyboardOk joystickOk
  exact pressedBy_released (call.trans callUp) (radio.trans radioUp)

end KeybindEngine

/-! ## Runs of the service with the engine -/

structure JoystickRun where
  service : JoystickService := {}
  run : EngineRun
  /-- The channel of the event loop. -/
  channel : Option ℕ := none
  /-- What the event loop has taken since it was started. -/
  handled : List KeyEvent := []

inductive JoystickMove where
  | sdl (event : SdlEvent)
  /-- A capture of a binding begins. -/
  | subscribe
  /-- It takes an event. -/
  | receive (index : ℕ)
  | unsubscribe (index : ℕ)
  /-- The platform listener sends an event of the keyboard. -/
  | listen (event : KeyEvent)
  /-- The event loop takes an event. -/
  | process
  | engine (move : EngineMove)

namespace JoystickRun

def withRegistry (run : JoystickRun) (registry : SenderRegistry KeyEvent) : JoystickRun :=
  { run with service := { run.service with registry } }

/-- The event loop that was started has a channel, which is registered when a button is bound
and the service is there. -/
def connect (run : JoystickRun) (joystickOk : Bool) : JoystickRun :=
  if run.run.engine.running then
    let index := run.service.registry.created
    let registry := run.service.registry.create
    { run.withRegistry
        (if run.run.engine.config.anyButtonTrigger && joystickOk then registry.register index
        else registry) with
      channel := some index
      handled := [] }
  else { run with channel := none }

/-- The event loop is gone, and its channel with it. -/
def disconnect (run : JoystickRun) : JoystickRun :=
  match run.channel with
  | none => run
  | some index =>
      { run.withRegistry (run.service.registry.close index) with channel := none }

def process (wayland : Bool) (run : JoystickRun) : Option JoystickRun :=
  run.channel.bind fun index =>
    (run.service.registry.pop index).map fun (event, registry) =>
      { run.withRegistry registry with
        run := run.run.step wayland (.key event.trigger event.state)
        handled := run.handled ++ [event] }

def engineStep (wayland : Bool) (run : JoystickRun) (move : EngineMove) : Option JoystickRun :=
  let moved := run.run.step wayland move
  match move with
  | .key _ _ => none
  | .start _ joystickOk =>
      if run.run.engine.running then some run
      else some ({ run with run := moved }.connect joystickOk)
  | .stop => some { run.disconnect with run := moved }
  | .setConfig _ _ _ _ joystickOk =>
      some ({ run.disconnect with run := moved }.connect joystickOk)
  | .control | .setCallActive _ | .setRadioPrio _ | .rebind _ => some { run with run := moved }

def step (wayland : Bool) (run : JoystickRun) : JoystickMove → Option JoystickRun
  | .sdl event => some { run with service := run.service.handleEvent event }
  | .subscribe =>
      some (run.withRegistry
        (run.service.registry.create.register run.service.registry.created))
  | .receive index =>
      if run.channel = some index then none
      else (run.service.registry.pop index).map fun (_, registry) => run.withRegistry registry
  | .unsubscribe index =>
      if run.channel = some index ∨ run.service.registry.created ≤ index then none
      else some (run.withRegistry (run.service.registry.close index))
  | .listen event =>
      if event.isButton || !run.run.engine.listener then none
      else run.channel.map fun index => run.withRegistry (run.service.registry.push index event)
  | .process => run.process wayland
  | .engine move => run.engineStep wayland move

def initial (wayland : Bool) (transmit : TransmitConfig) (keybinds : KeybindsConfig)
    (radioIntegrationEnabled radioBound : Bool) : JoystickRun where
  run := .initial wayland transmit keybinds radioIntegrationEnabled radioBound

/-! ### The laws -/

/-- Every receiver that is still there has been sent every button event since it was registered,
in order and once, and the event loop takes what it is sent. -/
structure MissesNothing (run : JoystickRun) : Prop where
  receivers : ∀ index since, (run.service.registry.channels index).since = some since →
    (run.service.registry.channels index).closed = false →
    (run.service.registry.channels index).sent.filter KeyEvent.isButton =
      run.service.registry.log.drop since
  eventLoop : ∀ index, run.channel = some index →
    (run.service.registry.channels index).closed = false ∧
      (run.service.registry.channels index).sent =
        run.handled ++ (run.service.registry.channels index).pending

/-- A button that keys the radio, or that the call key is taken to be pressed by, is held, when
the event loop has taken all events. -/
def KeysAreHeld (run : JoystickRun) : Prop :=
  ∀ index, run.channel = some index → (run.service.registry.channels index).pending = [] →
    ∀ guid button,
      (run.run.engine.radioTransmitting = true →
        run.run.engine.radioKey = some (.input (.button guid button)) →
        run.service.Holds guid button) ∧
      (run.run.engine.callPressed = true →
        run.run.engine.config.callTrigger = some (.input (.button guid button)) →
        run.service.Holds guid button)

/-- SDL gives every device that is connected an id of its own. -/
def Distinct (run : JoystickRun) : JoystickMove → Prop
  | .sdl event => run.service.Distinct event
  | _ => True

/-! ### The invariant -/

structure Sound (run : JoystickRun) : Prop where
  engine : run.run.Sound
  registered : ∀ index, run.service.registry.Registered index
  buttons : run.service.registry.FansOut KeyEvent.isButton
  taken : ∀ index, run.channel = some index → run.service.registry.Taken index run.handled
  running : run.channel.isSome = run.run.engine.running
  pressedBy : run.run.engine.PressedBy run.handled

theorem Sound.missesNothing {run : JoystickRun} (sound : run.Sound) : run.MissesNothing where
  receivers index since isSince isOpen := by
    rw [sound.buttons index]
    exact ((sound.registered index).fanned since isSince isOpen).2.2
  eventLoop index isChannel :=
    ⟨(sound.taken index isChannel).isOpen, (sound.taken index isChannel).sent⟩

/-- What the event loop has taken for pressed, when it has taken all events, is held. -/
theorem Sound.holds {run : JoystickRun} (sound : run.Sound) (balanced : run.service.Balanced)
    {index : ℕ} (isChannel : run.channel = some index)
    (nothing : (run.service.registry.channels index).pending = []) {guid : String} {button : ℕ}
    (pressed : pressedAfter (.input (.button guid button)) run.handled = true) :
    run.service.Holds guid button := by
  have isTaken := sound.taken index isChannel
  have all : run.handled = (run.service.registry.channels index).sent := by
    rw [isTaken.sent, nothing, List.append_nil]
  have own : ∀ event : KeyEvent, event.trigger = .input (.button guid button) →
      event.isButton = true := by
    intro event same
    rw [KeyEvent.isButton, same]
  rw [all, ← pressedAfter_filter own, sound.buttons index] at pressed
  cases isSince : (run.service.registry.channels index).since with
  | none =>
      rw [((sound.registered index).unregistered isSince).2] at pressed
      cases pressed
  | some since =>
      rw [((sound.registered index).fanned since isSince isTaken.isOpen).2.2] at pressed
      exact balanced since guid button pressed

theorem Sound.keysAreHeld {run : JoystickRun} (sound : run.Sound)
    (balanced : run.service.Balanced) : run.KeysAreHeld := by
  intro index isChannel nothing guid button
  refine ⟨fun transmits isKey => ?_, fun isPressed isKey => ?_⟩
  · obtain ⟨trigger, isTrigger, pressed⟩ :=
      sound.pressedBy.radio (sound.engine.keyed.pressed transmits)
    cases isTrigger.symm.trans isKey
    exact sound.holds balanced isChannel nothing pressed
  · obtain ⟨trigger, isTrigger, pressed⟩ := sound.pressedBy.call isPressed
    cases isTrigger.symm.trans isKey
    exact sound.holds balanced isChannel nothing pressed

/-! ### The steps -/

section Steps

variable {run : JoystickRun}

theorem sound_initial (wayland : Bool) (transmit : TransmitConfig) (keybinds : KeybindsConfig)
    (radioIntegrationEnabled radioBound : Bool) :
    (initial wayland transmit keybinds radioIntegrationEnabled radioBound).Sound where
  engine := EngineRun.sound_initial ..
  registered := SenderRegistry.registered_new
  buttons _ := rfl
  taken _ isChannel := nomatch isChannel
  running := rfl
  pressedBy := KeybindEngine.pressedBy_released rfl rfl

/-- A step of the service or of a capture. -/
theorem Sound.withRegistry (sound : run.Sound) {registry : SenderRegistry KeyEvent}
    (registered : ∀ index, registry.Registered index)
    (buttons : registry.FansOut KeyEvent.isButton)
    (taken : ∀ index, run.channel = some index →
      run.service.registry.Taken index run.handled → registry.Taken index run.handled) :
    (run.withRegistry registry).Sound where
  engine := sound.engine
  registered := registered
  buttons := buttons
  taken index isChannel := taken index isChannel (sound.taken index isChannel)
  running := sound.running
  pressedBy := sound.pressedBy

/-- The service sends button events and nothing else. -/
theorem sends_handleEvent (service : JoystickService) (event : SdlEvent) :
    ∃ events : List KeyEvent, (∀ event ∈ events, event.isButton = true) ∧
      (service.handleEvent event).registry = service.registry.sendAll events := by
  cases event with
  | joyDeviceAdded which opened =>
      cases opened with
      | none => exact ⟨[], fun _ isThere => absurd isThere List.not_mem_nil, rfl⟩
      | some names => exact ⟨[], fun _ isThere => absurd isThere List.not_mem_nil, rfl⟩
  | joyDeviceRemoved which order =>
      cases isOpen : service.openDevices.lookup which with
      | none =>
          simp only [JoystickService.handleEvent, isOpen]
          exact ⟨[], fun _ isThere => absurd isThere List.not_mem_nil, rfl⟩
      | some device =>
          simp only [JoystickService.handleEvent, isOpen]
          refine ⟨_, fun event isThere => ?_, rfl⟩
          obtain ⟨button, -, rfl⟩ := List.mem_map.mp isThere
          rfl
  | joyButtonDown which buttonIdx =>
      cases isOpen : service.openDevices.lookup which with
      | none =>
          simp only [JoystickService.handleEvent, isOpen]
          exact ⟨[], fun _ isThere => absurd isThere List.not_mem_nil, rfl⟩
      | some device =>
          simp only [JoystickService.handleEvent, isOpen]
          refine ⟨[buttonEvent device.guid device.name buttonIdx .down], ?_, rfl⟩
          exact fun event isThere => List.mem_singleton.mp isThere ▸ rfl
  | joyButtonUp which buttonIdx =>
      cases isOpen : service.openDevices.lookup which with
      | none =>
          simp only [JoystickService.handleEvent, isOpen]
          exact ⟨[], fun _ isThere => absurd isThere List.not_mem_nil, rfl⟩
      | some device =>
          simp only [JoystickService.handleEvent, isOpen]
          refine ⟨[buttonEvent device.guid device.name buttonIdx .up], ?_, rfl⟩
          exact fun event isThere => List.mem_singleton.mp isThere ▸ rfl
  | other => exact ⟨[], fun _ isThere => absurd isThere List.not_mem_nil, rfl⟩

theorem Sound.sdl (sound : run.Sound) (event : SdlEvent) :
    Sound { run with service := run.service.handleEvent event } := by
  obtain ⟨events, areButtons, sends⟩ := sends_handleEvent run.service event
  refine ⟨sound.engine, fun index => ?_, ?_, fun index isChannel => ?_, sound.running,
    sound.pressedBy⟩
  · rw [sends]
    exact (sound.registered index).sendAll events
  · rw [sends]
    exact sound.buttons.sendAll areButtons
  · rw [sends]
    exact (sound.taken index isChannel).sendAll events

/-- The engine goes on without changing its keys. -/
theorem Sound.withEngine (sound : run.Sound) {moved : EngineRun} (isSound : moved.Sound)
    (same : run.run.engine.SameKeys moved.engine) : Sound { run with run := moved } where
  engine := isSound
  registered := sound.registered
  buttons := sound.buttons
  taken := sound.taken
  running := sound.running.trans same.running.symm
  pressedBy := sound.pressedBy.same same

/-- Before the event loop is started there is no channel. -/
theorem sound_connect (run : JoystickRun) (sound : run.run.Sound)
    (registered : ∀ index, run.service.registry.Registered index)
    (buttons : run.service.registry.FansOut KeyEvent.isButton)
    (pressedBy : ∀ events, run.run.engine.PressedBy events) (joystickOk : Bool) :
    (run.connect joystickOk).Sound := by
  unfold JoystickRun.connect
  split
  · next running =>
      have isTaken := SenderRegistry.taken_create (registered _)
      refine ⟨sound, fun index => ?_, ?_, fun index isChannel => ?_, running.symm, pressedBy _⟩
      · simp only [JoystickRun.withRegistry]
        split
        · exact SenderRegistry.Registered.subscribe registered index
        · exact (registered index).create
      · simp only [JoystickRun.withRegistry]
        split
        · exact buttons.create.register _
        · exact buttons.create
      · cases isChannel
        simp only [JoystickRun.withRegistry]
        split
        · exact isTaken.register _
        · exact isTaken
  · next stopped =>
      exact ⟨sound, registered, buttons, fun _ isChannel => (nomatch isChannel),
        (eq_false_of_ne_true stopped).symm, pressedBy _⟩

/-- The registry after the event loop is gone. -/
theorem Sound.disconnect (sound : run.Sound) :
    run.disconnect.channel = none ∧
      (∀ index, run.disconnect.service.registry.Registered index) ∧
      run.disconnect.service.registry.FansOut KeyEvent.isButton := by
  unfold JoystickRun.disconnect
  split
  · next none => exact ⟨none, sound.registered, sound.buttons⟩
  · next index isChannel =>
      refine ⟨rfl, fun other => ?_, sound.buttons.setChannel (sound.buttons index)⟩
      exact (sound.registered other).setChannel (sound.taken index isChannel).created rfl rfl
        fun _ => rfl

theorem Sound.pop (sound : run.Sound) {index : ℕ} {event : KeyEvent}
    {registry : SenderRegistry KeyEvent}
    (pops : run.service.registry.pop index = some (event, registry)) :
    (∀ other, registry.Registered other) ∧ registry.FansOut KeyEvent.isButton := by
  obtain ⟨pending, isPending, rfl⟩ := SenderRegistry.pop_eq_some pops
  have created : index < run.service.registry.created := by
    refine Nat.lt_of_not_le fun isFree => ?_
    rw [((sound.registered index).fresh isFree).1] at isPending
    cases isPending
  exact ⟨fun other => (sound.registered other).setChannel created rfl rfl id,
    sound.buttons.setChannel (sound.buttons index)⟩

theorem Sound.process (sound : run.Sound) {wayland : Bool} {next : JoystickRun}
    (processes : run.process wayland = some next) : next.Sound := by
  obtain ⟨index, isChannel, processes⟩ := Option.bind_eq_some_iff.mp processes
  obtain ⟨⟨event, registry⟩, pops, rfl⟩ := Option.map_eq_some_iff.mp processes
  obtain ⟨registered, buttons⟩ := sound.pop pops
  have running : run.run.engine.running = true := by
    rw [← sound.running, isChannel]
    rfl
  have isStep : (run.run.step wayland (.key event.trigger event.state)).engine =
      run.run.engine.handleKeyEvent run.run.radioBound event.trigger event.state := by
    rw [EngineRun.step, if_pos running]
  refine ⟨sound.engine.step wayland (.key event.trigger event.state), registered, buttons,
    fun other isOther => ?_, ?_, ?_⟩
  · cases isChannel.symm.trans isOther
    exact (sound.taken index isChannel).pop pops
  · have same := sound.engine.keyed.keys_handleKeyEvent run.run.radioBound event.trigger event.state
    refine sound.running.trans ?_
    rw [isStep, same.running, KeybindEngine.running_ready]
  · rw [isStep]
    exact sound.pressedBy.handleKeyEvent sound.engine.keyed run.run.radioBound event

theorem Sound.engineStep (sound : run.Sound) {wayland : Bool} {move : EngineMove}
    {next : JoystickRun} (steps : run.engineStep wayland move = some next) : next.Sound := by
  have isSound := sound.engine.step wayland move
  obtain ⟨none, registered, buttons⟩ := sound.disconnect
  cases move with
  | key trigger state => cases steps
  | control =>
      cases steps
      exact sound.withEngine isSound (KeybindEngine.sameKeys_control _)
  | setCallActive active =>
      cases steps
      exact sound.withEngine isSound (KeybindEngine.sameKeys_setCallActive _ active)
  | setRadioPrio prio =>
      cases steps
      exact sound.withEngine isSound (KeybindEngine.sameKeys_setRadioPrio _ prio)
  | rebind bound =>
      cases steps
      exact sound.withEngine isSound (KeybindEngine.SameKeys.refl _)
  | start keyboardOk joystickOk =>
      simp only [JoystickRun.engineStep] at steps
      split at steps
      · cases steps
        exact sound
      · next stopped =>
          cases steps
          exact sound_connect { run with run := run.run.step wayland (.start keyboardOk joystickOk) }
            isSound sound.registered sound.buttons (fun events => sound.engine.keyed.pressedBy_start
              (eq_false_of_ne_true stopped) _ _ _ events) joystickOk
  | stop =>
      cases steps
      have stopped : run.run.engine.stop.running = false := KeybindEngine.running_stop _
      obtain ⟨callUp, radioUp⟩ := sound.engine.keyed.stop.idle stopped
      refine ⟨isSound, registered, buttons, fun index isChannel => ?_, ?_,
        KeybindEngine.pressedBy_released callUp radioUp⟩
      · cases none.symm.trans isChannel
      · change run.disconnect.channel.isSome = run.run.engine.stop.running
        rw [none, stopped]
        rfl
  | setConfig transmit keybinds radioIntegrationEnabled keyboardOk joystickOk =>
      cases steps
      exact sound_connect
        { run.disconnect with
          run := run.run.step wayland (.setConfig transmit keybinds radioIntegrationEnabled
            keyboardOk joystickOk) } isSound registered buttons
        (fun events => KeybindEngine.pressedBy_setConfig _ _ _ _ _ events) joystickOk

theorem Sound.step (sound : run.Sound) {wayland : Bool} {move : JoystickMove} {next : JoystickRun}
    (steps : run.step wayland move = some next) : next.Sound := by
  cases move with
  | sdl event =>
      cases steps
      exact sound.sdl event
  | subscribe =>
      cases steps
      refine sound.withRegistry (SenderRegistry.Registered.subscribe sound.registered)
        (sound.buttons.create.register _) fun index _ isTaken =>
          isTaken.create.register _
  | receive index =>
      simp only [JoystickRun.step] at steps
      split at steps
      · cases steps
      · next isOther =>
          obtain ⟨⟨event, registry⟩, pops, rfl⟩ := Option.map_eq_some_iff.mp steps
          obtain ⟨registered, buttons⟩ := sound.pop pops
          refine sound.withRegistry registered buttons fun channel isChannel isTaken => ?_
          obtain ⟨pending, -, rfl⟩ := SenderRegistry.pop_eq_some pops
          exact isTaken.setChannel (fun same => isOther (isChannel.trans (congrArg some same))) _
  | unsubscribe index =>
      simp only [JoystickRun.step] at steps
      split at steps
      · cases steps
      · next isCapture =>
          cases steps
          rw [not_or, Nat.not_le] at isCapture
          refine sound.withRegistry (fun other => ?_)
            (sound.buttons.setChannel (sound.buttons index)) fun channel isChannel isTaken => ?_
          · exact (sound.registered other).setChannel isCapture.2 rfl rfl fun _ => rfl
          · exact isTaken.setChannel (fun same => isCapture.1 (isChannel.trans (congrArg some same))) _
  | listen event =>
      simp only [JoystickRun.step] at steps
      split at steps
      · cases steps
      · next isKey =>
          obtain ⟨index, isChannel, rfl⟩ := Option.map_eq_some_iff.mp steps
          simp only [Bool.or_eq_true, not_or, Bool.not_eq_true] at isKey
          refine sound.withRegistry (fun other => ?_) (sound.buttons.push isKey.1)
            fun channel isOwn isTaken => ?_
          · exact (sound.registered other).setChannel (sound.taken index isChannel).created rfl
              rfl id
          · cases isChannel.symm.trans isOwn
            exact isTaken.push event
  | process => exact sound.process steps
  | engine move => exact sound.engineStep steps

/-- The devices and what the service has sent are as they were. -/
def SameButtons (run next : JoystickRun) : Prop :=
  next.service.openDevices = run.service.openDevices ∧
    next.service.registry.log = run.service.registry.log

theorem sameButtons_disconnect (run : JoystickRun) : run.SameButtons run.disconnect := by
  unfold JoystickRun.disconnect
  split <;> exact ⟨rfl, rfl⟩

theorem sameButtons_connect (run : JoystickRun) (joystickOk : Bool) :
    run.SameButtons (run.connect joystickOk) := by
  unfold JoystickRun.connect
  split
  · simp only [JoystickRun.withRegistry]
    split <;> exact ⟨rfl, rfl⟩
  · exact ⟨rfl, rfl⟩

theorem sameButtons_pop {index : ℕ} {event : KeyEvent} {registry : SenderRegistry KeyEvent}
    (pops : run.service.registry.pop index = some (event, registry)) :
    run.SameButtons (run.withRegistry registry) := by
  obtain ⟨pending, -, rfl⟩ := SenderRegistry.pop_eq_some pops
  exact ⟨rfl, rfl⟩

theorem sameButtons_engineStep {wayland : Bool} {move : EngineMove} {next : JoystickRun}
    (steps : run.engineStep wayland move = some next) : run.SameButtons next := by
  cases move with
  | key trigger state => cases steps
  | start keyboardOk joystickOk =>
      simp only [JoystickRun.engineStep] at steps
      split at steps
      · cases steps
        exact ⟨rfl, rfl⟩
      · cases steps
        exact sameButtons_connect _ joystickOk
  | stop =>
      cases steps
      exact run.sameButtons_disconnect
  | setConfig transmit keybinds radioIntegrationEnabled keyboardOk joystickOk =>
      cases steps
      obtain ⟨devices, log⟩ := sameButtons_connect
        { run.disconnect with
          run := run.run.step wayland (.setConfig transmit keybinds radioIntegrationEnabled
            keyboardOk joystickOk) } joystickOk
      obtain ⟨sameDevices, sameLog⟩ := run.sameButtons_disconnect
      exact ⟨devices.trans sameDevices, log.trans sameLog⟩
  | control | setCallActive active | setRadioPrio prio | rebind bound =>
      cases steps
      exact ⟨rfl, rfl⟩

theorem balanced_step (balanced : run.service.Balanced) {wayland : Bool} {move : JoystickMove}
    (distinct : run.Distinct move) {next : JoystickRun} (steps : run.step wayland move = some next) :
    next.service.Balanced := by
  have ofSame : run.SameButtons next → next.service.Balanced := by
    rintro ⟨devices, log⟩ since guid button pressed
    rw [log] at pressed
    rw [JoystickService.Holds, devices]
    exact balanced since guid button pressed
  cases move with
  | sdl event =>
      cases steps
      exact balanced.handleEvent distinct
  | subscribe =>
      cases steps
      exact ofSame ⟨rfl, rfl⟩
  | receive index =>
      simp only [JoystickRun.step] at steps
      split at steps
      · cases steps
      · obtain ⟨⟨event, registry⟩, pops, rfl⟩ := Option.map_eq_some_iff.mp steps
        exact ofSame (sameButtons_pop pops)
  | unsubscribe index =>
      simp only [JoystickRun.step] at steps
      split at steps
      · cases steps
      · cases steps
        exact ofSame ⟨rfl, rfl⟩
  | listen event =>
      simp only [JoystickRun.step] at steps
      split at steps
      · cases steps
      · obtain ⟨index, -, rfl⟩ := Option.map_eq_some_iff.mp steps
        exact ofSame ⟨rfl, rfl⟩
  | process =>
      obtain ⟨index, -, processes⟩ := Option.bind_eq_some_iff.mp steps
      obtain ⟨⟨event, registry⟩, pops, rfl⟩ := Option.map_eq_some_iff.mp processes
      exact ofSame (sameButtons_pop pops)
  | engine move => exact ofSame (sameButtons_engineStep steps)

end Steps

/-! ### Every run -/

/-- The invariant of a run in which all devices have ids of their own. -/
structure Accounted (run : JoystickRun) : Prop where
  sound : run.Sound
  balanced : run.service.Balanced

section Runs

variable (wayland : Bool) (transmit : TransmitConfig) (keybinds : KeybindsConfig)
  (radioIntegrationEnabled radioBound : Bool)

end Runs

/-- The radio is keyed by a button of a stick. -/
def buttonConfig : TransmitConfig :=
  { callMicMode := .voiceActivation, radioPushToTalk := some (.button "03" 1) }

/-- The stick is plugged in and its button is pressed, during a capture. -/
def buttonPress : List JoystickMove :=
  [.sdl (.joyDeviceAdded 7 (some ("03", "Stick"))), .engine (.start false true), .subscribe,
    .sdl (.joyButtonDown 7 1), .process]

end JoystickRun

end Keybinds

end Vacs
