import Vacs.Foundations.GuardedRuns
import Vacs.Keybinds.Transmission

/-!
# Key events of the desktop portal

On Wayland the desktop tells of a shortcut by two signals, one when it is activated and
one when it is deactivated. Each signal has its own stream, in order. The listener takes
one signal at a time and prefers an activation to a deactivation, whichever has arrived
first. It sends what it takes to the event loop of the engine, which marks the keys as
pressed or released.

An activation that overtakes a deactivation turns a release that is followed by a press
into a press that is followed by a release. Nothing else goes wrong
(`events_inOrder_iff`).
-/

set_option autoImplicit false

namespace Vacs

namespace Keybinds

open GuardedRuns

/-! ## Shortcuts -/

/-- The code points with the Unicode property `White_Space`. -/
def whiteSpace : List ℕ :=
  [0x9, 0xA, 0xB, 0xC, 0xD, 0x20, 0x85, 0xA0, 0x1680, 0x2000, 0x2001, 0x2002, 0x2003, 0x2004,
    0x2005, 0x2006, 0x2007, 0x2008, 0x2009, 0x200A, 0x2028, 0x2029, 0x202F, 0x205F, 0x3000]

def isWhiteSpace (c : Char) : Bool :=
  whiteSpace.contains c.toNat

def trim (text : List Char) : List Char :=
  ((text.dropWhile isWhiteSpace).reverse.dropWhile isWhiteSpace).reverse

namespace PortalAction

def asStr : PortalAction → String
  | .pushToTalk => "push_to_talk"
  | .pushToMute => "push_to_mute"
  | .radioPushToTalk => "radio_push_to_talk"
  | .callControl => "call_control"
  | .toggleRadioPrio => "toggle_radio_prio"
  | .sayAgain => "say_again"

def all : List PortalAction :=
  [.pushToTalk, .pushToMute, .radioPushToTalk, .callControl, .toggleRadioPrio, .sayAgain]

/-- The shortcut that an identifier names, up to its case and the white space around it. -/
def fromStr (text : String) : Option PortalAction :=
  all.find? fun action => decide (action.asStr.toList = (trim text.toList).map Char.toLower)

end PortalAction

/-- A signal of the portal: an activation, or a deactivation. -/
structure Signal where
  shortcutId : String
  state : KeyState
deriving DecidableEq

structure KeyEvent where
  trigger : Trigger
  label : String
  state : KeyState
deriving DecidableEq

/-- What the listener sends for a signal. A signal of an unknown shortcut is ignored. -/
def Signal.keyEvent (signal : Signal) : Option KeyEvent :=
  (PortalAction.fromStr signal.shortcutId).map fun action =>
    ⟨.portal action, action.asStr, signal.state⟩

/-! ## The listener and the event loop -/

/-- The first signal of a kind, with those before it and those after it. -/
def takeFirst (state : KeyState) : List Signal → Option (List Signal × Signal × List Signal)
  | [] => none
  | signal :: pending =>
      if signal.state = state then some ([], signal, pending)
      else
        (takeFirst state pending).map fun (skipped, first, later) =>
          (signal :: skipped, first, later)

structure PortalRun where
  /-- The signals that wait on the two streams, in the order of their arrival. The stream of
  a kind holds those of this kind. -/
  pending : List Signal
  cancelled : Bool
  /-- The channel from the listener to the event loop. -/
  events : List KeyEvent
  engine : KeybindEngine
  /-- The desktop has a shortcut for the radio. -/
  radioBound : Bool
  /-- All signals so far. -/
  arrived : List Signal
  /-- All events that the listener has sent. -/
  sent : List KeyEvent

inductive PortalMove where
  | arrives (signal : Signal)
  /-- The listener takes a signal. -/
  | poll
  | cancel
  /-- The event loop takes an event. -/
  | process
  | setCallActive (active : Bool)
  | setRadioPrio (prio : Bool)
  | control

namespace PortalRun

/-- The engine has been started on Wayland and the portal session is there. -/
def initial (transmit : TransmitConfig) (keybinds : KeybindsConfig)
    (radioIntegrationEnabled radioBound joystickOk : Bool) : PortalRun where
  pending := []
  cancelled := false
  events := []
  engine := (KeybindEngine.new
    (.ofConfigs true transmit keybinds radioIntegrationEnabled)).start radioBound true joystickOk
  radioBound := radioBound
  arrived := []
  sent := []

/-- The listener has taken a signal. -/
def deliver (run : PortalRun) : List Signal × Signal × List Signal → PortalRun
  | (skipped, signal, later) =>
      { run with
        pending := skipped ++ later
        events := run.events ++ signal.keyEvent.toList
        sent := run.sent ++ signal.keyEvent.toList }

/-- One round of the listener: activations come before deactivations. -/
def poll (run : PortalRun) : Option PortalRun :=
  if run.cancelled then none
  else ((takeFirst .down run.pending).or (takeFirst .up run.pending)).map run.deliver

def process (run : PortalRun) : Option PortalRun :=
  match run.events with
  | [] => none
  | event :: events =>
      if run.engine.running then
        some { run with
          events
          engine := run.engine.handleKeyEvent run.radioBound event.trigger event.state }
      else none

def step (run : PortalRun) : PortalMove → Option PortalRun
  | .arrives signal =>
      some { run with pending := run.pending ++ [signal], arrived := run.arrived ++ [signal] }
  | .poll => run.poll
  | .cancel => some { run with cancelled := true }
  | .process => run.process
  | .setCallActive active => some { run with engine := run.engine.setCallActive active }
  | .setRadioPrio prio => some { run with engine := run.engine.setRadioPrio prio }
  | .control => some { run with engine := run.engine.control }

/-! ## The law and its condition -/

/-- The events of the signals that have arrived, in their order. -/
def arrivedEvents (run : PortalRun) : List KeyEvent :=
  run.arrived.filterMap Signal.keyEvent

def EventsInOrder (run : PortalRun) : Prop :=
  run.sent <+: run.arrivedEvents

/-- Whether the last signal of a shortcut is an activation. -/
def lastSignalDown (action : PortalAction) (signals : List Signal) : Bool :=
  signals.foldl (fun pressed signal =>
    if PortalAction.fromStr signal.shortcutId = some action then decide (signal.state = .down)
    else pressed) false

/-- When nothing is pending, the keys are pressed as the last signals of their shortcuts say.
The radio shortcut counts when the radio does not follow the call key. -/
def KeysUpToDate (run : PortalRun) : Prop :=
  run.pending = [] → run.events = [] → ∀ action,
    (run.engine.config.callTrigger = some (.portal action) →
      run.engine.callPressed = lastSignalDown action run.arrived) ∧
    (run.engine.config.radioTrigger = some (.portal action) →
      run.engine.radioFollowsCall = false →
      run.engine.radioPressed = lastSignalDown action run.arrived)

def StaysInOrder (run : PortalRun) (move : PortalMove) : Prop :=
  ∀ next ∈ run.step move, next.EventsInOrder ∧ next.KeysUpToDate

/-- The activation that the listener takes overtakes no deactivation, signals of unknown
shortcuts aside. -/
def NotOvertaking (run : PortalRun) : PortalMove → Prop
  | .poll =>
      ∀ taken ∈ takeFirst .down run.pending, taken.2.1.keyEvent ≠ none →
        ∀ signal ∈ taken.1, signal.keyEvent = none
  | _ => True

end PortalRun

/-! ## The platform listener of the engine -/

namespace KeybindEngine

section Listener

variable (engine : KeybindEngine)

theorem listener_keyRadio (isCallKey isRadioKey keyDown : Bool) :
    (engine.keyRadio isCallKey isRadioKey keyDown).listener = engine.listener := by
  unfold keyRadio
  split <;> rfl

theorem listener_releaseImplicitPrio : engine.releaseImplicitPrio.listener = engine.listener := by
  unfold releaseImplicitPrio
  split
  · simp only
    split <;> rfl
  · rfl

theorem listener_applyKey (isCallKey isRadioKey keyDown : Bool) :
    (engine.applyKey isCallKey isRadioKey keyDown).listener = engine.listener := by
  obtain ⟨muted, eq⟩ := engine.applyKey_eq isCallKey isRadioKey keyDown
  rw [eq]
  split
  · rw [listener_releaseImplicitPrio]
    exact engine.listener_keyRadio isCallKey isRadioKey keyDown
  · exact engine.listener_keyRadio isCallKey isRadioKey keyDown

theorem listener_processKey (isCallKey isRadioKey keyDown : Bool) :
    (engine.processKey isCallKey isRadioKey keyDown).listener = engine.listener := by
  unfold processKey
  cases isCallKey <;> cases isRadioKey <;> simp only <;> split_ifs <;>
    first | rfl | rw [listener_applyKey]

theorem listener_handleKeyEvent (radioBound : Bool) (trigger : Trigger) (state : KeyState) :
    (engine.handleKeyEvent radioBound trigger state).listener = engine.listener := by
  rw [handleKeyEvent_eq, listener_processKey]
  unfold ready refreshRadioFollowsCall
  split <;> exact (engine.sameControls trigger state).2

theorem listener_setCallActive (active : Bool) :
    (engine.setCallActive active).listener = engine.listener := by
  unfold setCallActive
  simp only
  split_ifs <;> rfl

theorem listener_setRadioPrio (prio : Bool) :
    (engine.setRadioPrio prio).listener = engine.listener := by
  unfold setRadioPrio
  simp only
  split <;> split_ifs <;> rfl

theorem listener_control : engine.control.listener = engine.listener := by
  unfold control
  split
  · rfl
  · unfold handleControlEvent
    split_ifs
    · rfl
    · rw [listener_setRadioPrio]
    · rfl
    · rfl

end Listener

end KeybindEngine

/-! ## What the listener takes -/

theorem Signal.keyEvent_state {signal : Signal} {event : KeyEvent}
    (sends : signal.keyEvent = some event) : event.state = signal.state := by
  obtain ⟨action, _, rfl⟩ := Option.map_eq_some_iff.mp sends
  rfl

theorem takeFirst_eq_some {state : KeyState} {pending skipped later : List Signal}
    {signal : Signal} (taken : takeFirst state pending = some (skipped, signal, later)) :
    pending = skipped ++ signal :: later ∧ signal.state = state ∧
      ∀ other ∈ skipped, other.state ≠ state := by
  induction pending generalizing skipped with
  | nil => cases taken
  | cons head pending ih =>
      rw [takeFirst] at taken
      split_ifs at taken with isFirst
      · cases taken
        exact ⟨rfl, isFirst, fun _ member => absurd member List.not_mem_nil⟩
      · obtain ⟨⟨skipped, first, later⟩, takenLater, same⟩ := Option.map_eq_some_iff.mp taken
        cases same
        obtain ⟨rfl, isState, others⟩ := ih takenLater
        refine ⟨rfl, isState, fun other member => ?_⟩
        obtain rfl | member := List.mem_cons.mp member
        · exact isFirst
        · exact others other member

theorem takeFirst_eq_none {state : KeyState} {pending : List Signal}
    (none : takeFirst state pending = none) : ∀ signal ∈ pending, signal.state ≠ state := by
  induction pending with
  | nil => exact fun _ member => absurd member List.not_mem_nil
  | cons head pending ih =>
      rw [takeFirst] at none
      split_ifs at none with isFirst
      intro signal member
      obtain rfl | member := List.mem_cons.mp member
      · exact isFirst
      · exact ih (Option.map_eq_none_iff.mp none) signal member

namespace PortalRun

section Listener

variable {run next : PortalRun}

/-- The listener takes the first activation, or the first signal when no activation is
pending. -/
theorem poll_cases (polls : run.poll = some next) :
    (∃ taken, takeFirst .down run.pending = some taken ∧ next = run.deliver taken) ∨
    (takeFirst .down run.pending = none ∧
      ∃ signal later, run.pending = signal :: later ∧ next = run.deliver ([], signal, later)) := by
  unfold poll at polls
  split_ifs at polls
  cases first : takeFirst .down run.pending with
  | some taken =>
      rw [first, Option.some_or, Option.map_some] at polls
      exact .inl ⟨taken, rfl, (Option.some.inj polls).symm⟩
  | none =>
      rw [first, Option.none_or] at polls
      obtain ⟨⟨skipped, signal, later⟩, second, rfl⟩ := Option.map_eq_some_iff.mp polls
      obtain ⟨pending, isUp, others⟩ := takeFirst_eq_some second
      -- What is skipped is neither an activation nor a deactivation.
      have nothing : skipped = [] := by
        apply List.eq_nil_iff_forall_not_mem.mpr
        intro other member
        have notDown := takeFirst_eq_none first other
          (pending ▸ List.mem_append_left _ member)
        have notUp := others other member
        cases state : other.state with
        | down => exact notDown state
        | up => exact notUp state
      subst nothing
      exact .inr ⟨rfl, signal, later, pending, rfl⟩

end Listener

/-! ## The invariant -/

/-- Whether the last event of a trigger is a press. -/
def pressedAfter (trigger : Trigger) (events : List KeyEvent) : Bool :=
  events.foldl (fun pressed event =>
    if event.trigger = trigger then decide (event.state = .down) else pressed) false

/-- The engine has handled these events. -/
structure Handled (engine : KeybindEngine) (events : List KeyEvent) : Prop where
  call : ∀ trigger, engine.config.callTrigger = some trigger →
    engine.callPressed = pressedAfter trigger events
  radio : ∀ trigger, engine.config.radioTrigger = some trigger →
    engine.radioFollowsCall = false → engine.radioPressed = pressedAfter trigger events

structure Sound (run : PortalRun) : Prop where
  ordered : run.arrivedEvents = run.sent ++ run.pending.filterMap Signal.keyEvent
  keyed : run.engine.Keyed
  running : run.engine.running = true
  listening : run.engine.listener = true
  follows : run.engine.radioFollowsCall =
    (run.engine.config.radioPortalFallback && !run.radioBound)
  handled : ∃ handled, run.sent = handled ++ run.events ∧ Handled run.engine handled

theorem pressedAfter_keyEvents (action : PortalAction) (signals : List Signal) :
    pressedAfter (.portal action) (signals.filterMap Signal.keyEvent) =
      lastSignalDown action signals := by
  unfold pressedAfter lastSignalDown
  rw [List.foldl_filterMap]
  congr 1
  funext pressed signal
  unfold Signal.keyEvent
  cases known : PortalAction.fromStr signal.shortcutId with
  | none => rfl
  | some other =>
      by_cases same : other = action
      · simp [same]
      · simp [same]

theorem Sound.law {run : PortalRun} (sound : run.Sound) :
    run.EventsInOrder ∧ run.KeysUpToDate := by
  refine ⟨⟨_, sound.ordered.symm⟩, fun nothing empty action => ?_⟩
  obtain ⟨handled, sent, isHandled⟩ := sound.handled
  have all : handled = run.arrivedEvents := by
    rw [sound.ordered, sent, nothing, empty, List.filterMap_nil, List.append_nil,
      List.append_nil]
  rw [← pressedAfter_keyEvents action run.arrived]
  subst all
  exact ⟨isHandled.call _, isHandled.radio _⟩

/-! ## The steps -/

section Steps

variable {run next : PortalRun}

theorem Handled.same {engine changed : KeybindEngine} {events : List KeyEvent}
    (handled : Handled engine events) (same : engine.SameKeys changed) :
    Handled changed events := by
  obtain ⟨config, _, follows, callPressed, radioPressed⟩ := same
  constructor
  · rw [config, callPressed]
    exact handled.call
  · rw [config, follows, radioPressed]
    exact handled.radio

theorem some_eq_some_comm {trigger other : Trigger} :
    some trigger = some other ↔ other = trigger := by
  rw [Option.some.injEq, eq_comm]

theorem pressedAfter_append (trigger : Trigger) (events : List KeyEvent) (event : KeyEvent) :
    pressedAfter trigger (events ++ [event]) =
      if event.trigger = trigger then decide (event.state = .down)
      else pressedAfter trigger events := by
  rw [pressedAfter, List.foldl_append]
  rfl

/-- As long as the desktop binds the same shortcuts, the fallback does not flip. -/
theorem Sound.sameKeys_ready (sound : run.Sound) (trigger : Trigger) (state : KeyState) :
    run.engine.SameKeys (run.engine.ready run.radioBound trigger state) := by
  obtain ⟨same, listener⟩ := run.engine.sameControls trigger state
  refine ⟨?_, run.engine.running_ready .., ?_, ?_, ?_⟩
  · rw [KeybindEngine.ready, KeybindEngine.config_refresh, same.config]
  · rw [KeybindEngine.ready, KeybindEngine.follows_refresh, same.config, same.callPressed,
      same.radioPressed, same.follows, listener, sound.listening, sound.follows]
    cases run.engine.config.radioPortalFallback <;> cases run.radioBound <;> simp
  · unfold KeybindEngine.ready KeybindEngine.refreshRadioFollowsCall
    split <;> exact same.callPressed
  · unfold KeybindEngine.ready KeybindEngine.refreshRadioFollowsCall
    split <;> exact same.radioPressed

theorem Sound.engine (sound : run.Sound) {engine : KeybindEngine} (keyed : engine.Keyed)
    (same : run.engine.SameKeys engine) (listener : engine.listener = run.engine.listener) :
    Sound { run with engine } := by
  obtain ⟨handled, sent, isHandled⟩ := sound.handled
  exact ⟨sound.ordered, keyed, same.running.trans sound.running,
    listener.trans sound.listening, by rw [same.follows, same.config]; exact sound.follows,
    handled, sent, isHandled.same same⟩

/-- What an event does to the keys. -/
theorem Sound.keys (sound : run.Sound) (event : KeyEvent) :
    KeybindEngine.SameKeys
      { run.engine with
        callPressed :=
          if run.engine.config.callTrigger = some event.trigger then decide (event.state = .down)
          else run.engine.callPressed
        radioPressed :=
          if (run.engine.classify run.radioBound event.trigger).2 then
            decide (event.state = .down)
          else run.engine.radioPressed }
      (run.engine.handleKeyEvent run.radioBound event.trigger event.state) := by
  obtain ⟨config, running, follows, callPressed, radioPressed⟩ :=
    sound.sameKeys_ready event.trigger event.state
  have keys := sound.keyed.keys_handleKeyEvent run.radioBound event.trigger event.state
  refine ⟨keys.config.trans config, keys.running.trans running, keys.follows.trans follows,
    keys.callPressed.trans ?_, keys.radioPressed.trans ?_⟩
  · simp only [callPressed, KeybindEngine.classify, KeybindEngine.classifyTrigger,
      decide_eq_true_eq]
  · simp only [radioPressed]

theorem Sound.classify_radio (sound : run.Sound) (trigger : Trigger)
    (own : run.engine.radioFollowsCall = false) :
    (run.engine.classify run.radioBound trigger).2 =
      decide (run.engine.config.radioTrigger = some trigger) := by
  obtain ⟨config, _, follows, _, _⟩ := sound.sameKeys_ready trigger .down
  rw [run.engine.classify_eq_ready run.radioBound trigger .down, follows, own, config]
  rfl

/-- The engine has handled one event more. -/
theorem Sound.handles (sound : run.Sound) {events : List KeyEvent}
    (handled : Handled run.engine events) (event : KeyEvent) :
    Handled (run.engine.handleKeyEvent run.radioBound event.trigger event.state)
      (events ++ [event]) := by
  obtain ⟨config, _, follows, callPressed, radioPressed⟩ := sound.keys event
  constructor
  · intro trigger isTrigger
    rw [config] at isTrigger
    have isCall : run.engine.config.callTrigger = some trigger := isTrigger
    rw [callPressed, pressedAfter_append, isCall, handled.call trigger isCall]
    simp only [some_eq_some_comm]
  · intro trigger isTrigger own
    rw [config] at isTrigger
    rw [follows] at own
    have isRadio : run.engine.config.radioTrigger = some trigger := isTrigger
    rw [radioPressed, pressedAfter_append, sound.classify_radio event.trigger own, isRadio,
      handled.radio trigger isRadio own]
    simp only [decide_eq_true_eq, some_eq_some_comm]

theorem Sound.process (sound : run.Sound) (steps : run.process = some next) : next.Sound := by
  unfold PortalRun.process at steps
  split at steps
  · cases steps
  · rename_i event events queued
    obtain ⟨_, ⟨⟩⟩ := Option.ite_none_right_eq_some.mp steps
    obtain ⟨handled, sent, isHandled⟩ := sound.handled
    obtain ⟨config, running, follows, _, _⟩ := sound.keys event
    refine ⟨sound.ordered, ?_, running.trans sound.running, ?_, ?_, handled ++ [event], ?_,
      sound.handles isHandled event⟩
    · exact (sound.keyed.handleKeyEvent sound.running run.radioBound event.trigger event.state).1
    · exact (run.engine.listener_handleKeyEvent ..).trans sound.listening
    · rw [follows, config]
      exact sound.follows
    · rw [sent, queued, List.append_assoc]
      rfl

/-- Taking a signal keeps the order exactly when no event is skipped, unless there is none for
the signal. -/
theorem Sound.deliver (sound : run.Sound) {skipped later : List Signal} {signal : Signal}
    (pending : run.pending = skipped ++ signal :: later)
    (skips : signal.keyEvent ≠ none → ∀ other ∈ skipped, other.keyEvent = none) :
    (run.deliver (skipped, signal, later)).Sound := by
  obtain ⟨handled, sent, isHandled⟩ := sound.handled
  refine ⟨?_, sound.keyed, sound.running, sound.listening, sound.follows, handled, ?_, isHandled⟩
  · change run.arrivedEvents = run.sent ++ signal.keyEvent.toList ++
      (skipped ++ later).filterMap Signal.keyEvent
    rw [sound.ordered, pending]
    cases event : signal.keyEvent with
    | none => simp [event]
    | some event' =>
        have nothing : skipped.filterMap Signal.keyEvent = [] :=
          List.filterMap_eq_nil_iff.mpr (skips (by rw [event]; exact Option.some_ne_none _))
        simp [event, nothing]
  · change run.sent ++ signal.keyEvent.toList =
      handled ++ (run.events ++ signal.keyEvent.toList)
    rw [sent, List.append_assoc]

theorem Sound.step (sound : run.Sound) {move : PortalMove} (inTurn : run.NotOvertaking move)
    (steps : run.step move = some next) : next.Sound := by
  cases move with
  | arrives signal =>
      cases steps
      obtain ⟨handled, sent, isHandled⟩ := sound.handled
      refine ⟨?_, sound.keyed, sound.running, sound.listening, sound.follows, handled, sent,
        isHandled⟩
      have ordered := sound.ordered
      unfold arrivedEvents at ordered ⊢
      simp only [List.filterMap_append, ordered, List.append_assoc]
  | poll =>
      obtain ⟨⟨skipped, signal, later⟩, first, rfl⟩ | ⟨_, signal, later, pending, rfl⟩ :=
        poll_cases steps
      · exact sound.deliver (takeFirst_eq_some first).1 (inTurn (skipped, signal, later) first)
      · exact sound.deliver pending fun _ _ member => absurd member List.not_mem_nil
  | cancel =>
      cases steps
      exact ⟨sound.ordered, sound.keyed, sound.running, sound.listening, sound.follows,
        sound.handled⟩
  | process => exact sound.process steps
  | setCallActive active =>
      cases steps
      exact sound.engine (sound.keyed.setCallActive active)
        (run.engine.sameKeys_setCallActive active) (run.engine.listener_setCallActive active)
  | setRadioPrio prio =>
      cases steps
      exact sound.engine (sound.keyed.setRadioPrio prio) (run.engine.sameKeys_setRadioPrio prio)
        (run.engine.listener_setRadioPrio prio)
  | control =>
      cases steps
      exact sound.engine sound.keyed.control run.engine.sameKeys_control
        run.engine.listener_control

/-- An activation that overtakes a deactivation is out of order. -/
theorem Sound.not_inOrder (sound : run.Sound) {skipped later : List Signal} {signal : Signal}
    (first : takeFirst .down run.pending = some (skipped, signal, later))
    (known : signal.keyEvent ≠ none)
    (inOrder : (run.deliver (skipped, signal, later)).EventsInOrder) :
    ∀ other ∈ skipped, other.keyEvent = none := by
  obtain ⟨pending, isDown, others⟩ := takeFirst_eq_some first
  obtain ⟨event, isEvent⟩ := Option.ne_none_iff_exists'.mp known
  rw [← List.filterMap_eq_nil_iff]
  have ordered := sound.ordered
  rw [pending, List.filterMap_append] at ordered
  obtain ⟨rest, eq⟩ := inOrder
  change run.sent ++ signal.keyEvent.toList ++ rest = run.arrivedEvents at eq
  rw [ordered, List.append_assoc, isEvent] at eq
  have next := List.append_cancel_left eq
  cases overtaken : skipped.filterMap Signal.keyEvent with
  | nil => rfl
  | cons earlier =>
      rw [overtaken] at next
      have same : event = earlier := (List.cons.inj next).1
      obtain ⟨other, member, isOther⟩ := List.mem_filterMap.mp
        (overtaken ▸ List.mem_cons_self : earlier ∈ skipped.filterMap Signal.keyEvent)
      have down : earlier.state = .down := by
        rw [← same, Signal.keyEvent_state isEvent, isDown]
      exact absurd ((Signal.keyEvent_state isOther).symm.trans down) (others other member)

theorem notOvertaking_iff (sound : run.Sound) {move : PortalMove}
    (steps : run.step move = some next) : run.NotOvertaking move ↔ run.StaysInOrder move := by
  constructor
  · intro inTurn other isNext
    cases Option.some.inj (steps.symm.trans isNext)
    exact (sound.step inTurn steps).law
  · intro inOrder
    cases move with
    | poll =>
        rintro ⟨skipped, signal, later⟩ first known
        obtain ⟨taken, first', rfl⟩ | ⟨nothing, _⟩ := poll_cases steps
        · cases Option.some.inj (first.symm.trans first')
          exact sound.not_inOrder first known (inOrder _ steps).1
        · cases first.symm.trans nothing
    | _ => trivial

end Steps

/-- On Wayland there is always a control key to listen to. -/
theorem controls_ne_nil (transmit : TransmitConfig) (keybinds : KeybindsConfig)
    (radioIntegrationEnabled : Bool) :
    (EngineConfig.ofConfigs true transmit keybinds radioIntegrationEnabled).controls.isEmpty =
      false := by
  have bound : (composeWaylandTrigger (some .callControl) keybinds.acceptCall).isSome := by
    unfold composeWaylandTrigger
    cases keybinds.acceptCall with
    | none => rfl
    | some code => split <;> rfl
  obtain ⟨trigger, isTrigger⟩ := Option.isSome_iff_exists.mp bound
  simp [EngineConfig.controls, EngineConfig.ofConfigs, selectTrigger, isTrigger]

theorem start_new (transmit : TransmitConfig) (keybinds : KeybindsConfig)
    (radioIntegrationEnabled radioBound joystickOk : Bool) :
    (KeybindEngine.new (.ofConfigs true transmit keybinds radioIntegrationEnabled)).start
        radioBound true joystickOk =
      { KeybindEngine.new (.ofConfigs true transmit keybinds radioIntegrationEnabled) with
        listener := true
        running := true
        radioFollowsCall :=
          (EngineConfig.ofConfigs true transmit keybinds
            radioIntegrationEnabled).radioPortalFallback && !radioBound } := by
  have controls := controls_ne_nil transmit keybinds radioIntegrationEnabled
  cases fallback : (EngineConfig.ofConfigs true transmit keybinds
    radioIntegrationEnabled).radioPortalFallback <;>
    simp [KeybindEngine.start, KeybindEngine.new, KeybindEngine.refreshRadioFollowsCall,
      controls, fallback]

theorem initial_sound (transmit : TransmitConfig) (keybinds : KeybindsConfig)
    (radioIntegrationEnabled radioBound joystickOk : Bool) :
    (initial transmit keybinds radioIntegrationEnabled radioBound joystickOk).Sound := by
  have keyed := (KeybindEngine.keyed_new (KeybindEngine.isSome_radioTrigger_of_fallback true
    transmit keybinds radioIntegrationEnabled)).start radioBound true joystickOk
  refine ⟨rfl, keyed, ?_, ?_, ?_, [], rfl, ?_⟩
  · simp only [initial, start_new]
  · simp only [initial, start_new]
  · simp only [initial, start_new]
    rfl
  · simp only [initial, start_new]
    exact ⟨fun _ _ => rfl, fun _ _ _ => rfl⟩

/-- The events are in order and the keys up to date in exactly those runs in which no
activation overtakes a deactivation. -/
theorem events_inOrder_iff (transmit : TransmitConfig) (keybinds : KeybindsConfig)
    (radioIntegrationEnabled radioBound joystickOk : Bool) {moves : List PortalMove}
    {final : PortalRun}
    (runs : runMoves step (initial transmit keybinds radioIntegrationEnabled radioBound
      joystickOk) moves = some final) :
    Guarded step StaysInOrder
        (initial transmit keybinds radioIntegrationEnabled radioBound joystickOk) moves ↔
      Guarded step NotOvertaking
        (initial transmit keybinds radioIntegrationEnabled radioBound joystickOk) moves :=
  (guarded_iff (fun _ _ _ sound steps => notOvertaking_iff sound steps)
    (fun _ _ _ sound inTurn steps => sound.step inTurn steps) runs
    (initial_sound transmit keybinds radioIntegrationEnabled radioBound joystickOk)).symm

instance (run : PortalRun) : ∀ move, Decidable (run.NotOvertaking move)
  | .arrives _ => isTrue trivial
  | .poll =>
      inferInstanceAs (Decidable (∀ taken ∈ takeFirst .down run.pending,
        taken.2.1.keyEvent ≠ none → ∀ signal ∈ taken.1, signal.keyEvent = none))
  | .cancel => isTrue trivial
  | .process => isTrue trivial
  | .setCallActive _ => isTrue trivial
  | .setRadioPrio _ => isTrue trivial
  | .control => isTrue trivial

theorem events_inOrder_iff_pressed :
    Guarded step StaysInOrder (initial ⟨.pushToTalk, none, none, none⟩ {} true true true)
      [.arrives ⟨"push_to_talk", .down⟩, .poll, .process, .arrives ⟨"push_to_talk", .up⟩,
        .arrives ⟨"unknown", .down⟩, .poll, .poll, .process] := by
  have runs : (runMoves step (initial ⟨.pushToTalk, none, none, none⟩ {} true true true)
      [.arrives ⟨"push_to_talk", .down⟩, .poll, .process, .arrives ⟨"push_to_talk", .up⟩,
        .arrives ⟨"unknown", .down⟩, .poll, .poll, .process]).isSome := by decide +kernel
  obtain ⟨final, runs⟩ := Option.isSome_iff_exists.mp runs
  exact (events_inOrder_iff _ _ _ _ _ runs).mpr (by decide +kernel)

/-- The key is released and pressed again before the listener runs. When everything has been
handled the key is held, but marked as released. -/
theorem held_key_marked_released :
    ¬ ∀ (transmit : TransmitConfig) (keybinds : KeybindsConfig)
      (radioIntegrationEnabled radioBound joystickOk : Bool) (moves : List PortalMove)
      (final : PortalRun),
      runMoves step (initial transmit keybinds radioIntegrationEnabled radioBound joystickOk)
        moves = some final →
      Guarded step StaysInOrder
        (initial transmit keybinds radioIntegrationEnabled radioBound joystickOk) moves := by
  intro always
  have released : (runMoves step (initial ⟨.pushToTalk, none, none, none⟩ {} true true true)
      ([.arrives ⟨"push_to_talk", .down⟩, .poll, .process, .arrives ⟨"push_to_talk", .up⟩,
        .arrives ⟨"push_to_talk", .down⟩, .poll, .poll, .process] ++ [.process])).map
      (fun run => ((run.pending, run.events), run.engine.config.callTrigger,
        run.engine.callPressed, lastSignalDown .pushToTalk run.arrived)) =
      some (([], []), some (.portal .pushToTalk), false, true) := by decide +kernel
  obtain ⟨final, runs, isReleased⟩ := Option.map_eq_some_iff.mp released
  obtain ⟨queues, rest⟩ := Prod.mk.inj isReleased
  obtain ⟨pending, events⟩ := Prod.mk.inj queues
  obtain ⟨trigger, rest⟩ := Prod.mk.inj rest
  obtain ⟨pressed, held⟩ := Prod.mk.inj rest
  obtain ⟨before, -, steps, law⟩ := (always _ _ _ _ _ _ final runs).last runs
  have upToDate := ((law final steps).2 pending events .pushToTalk).1 trigger
  rw [pressed, held] at upToDate
  cases upToDate

end PortalRun

end Keybinds

end Vacs
