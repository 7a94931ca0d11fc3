import Vacs.Foundations.GuardedRuns
import Vacs.Keybinds.Engine

/-!
# The latch of push-to-talk

A radio remembers whether it has been told to transmit, and ignores a request that would
not change that. It changes its latch before it sends the command. `TrackAudioRadio` takes
the change back when the command has certainly not been sent, `PushToTalkRadio` never does.

A transmit is three steps: the latch, the command, and the end of the call. The connection
to TrackAudio may change in between; it clears the latch, and a fresh connection starts
released. Transmits are awaited one after the other.

A transmit that runs undisturbed leaves the latch as the radio was told, if its command
arrives or is taken back. `latch_agrees_iff` says which transmits do.
-/

set_option autoImplicit false

namespace Vacs

open GuardedRuns

namespace Keybinds

def TransmissionState.isActive : TransmissionState → Bool
  | .active => true
  | .inactive => false

end Keybinds

namespace Radio

open Keybinds

/-- What distinguishes the radios: the outcomes of a command, which of them mean that it has
reached the radio, and after which the latch is taken back. -/
structure RadioKind where
  Outcome : Type
  reached : Outcome → Bool
  rollsBack : Outcome → Bool
  /-- The radio has a connection that may change. -/
  reconnects : Bool
  lawful : ∀ outcome, rollsBack outcome = true → reached outcome = false

/-- The outcomes of a command to TrackAudio. Nothing is known of the errors that the radio
does not tell apart. -/
inductive TrackAudioOutcome where
  | ok
  | timeout
  | send
  | clientTaskTerminated
  | other (reached : Bool)
deriving DecidableEq

def trackAudioRadio : RadioKind where
  Outcome := TrackAudioOutcome
  reached
    | .ok => true
    | .timeout => true
    | .send => false
    | .clientTaskTerminated => false
    | .other reached => reached
  rollsBack
    | .send => true
    | .clientTaskTerminated => true
    | _ => false
  reconnects := true
  lawful := by
    rintro (_ | _ | _ | _ | _) rollsBack
    all_goals first | rfl | exact Bool.noConfusion rollsBack

inductive EmitterOutcome where
  | ok
  | failed
deriving DecidableEq

/-- The emitter of a key either presses it or fails. -/
def pushToTalkRadio : RadioKind where
  Outcome := EmitterOutcome
  reached
    | .ok => true
    | .failed => false
  rollsBack := fun _ => false
  reconnects := false
  lawful := fun _ rollsBack => Bool.noConfusion rollsBack

inductive RadioIntegration where
  | audioForVatsim
  | trackAudio
deriving DecidableEq

/-- The radio that an integration is initialized with. -/
def RadioIntegration.radio : RadioIntegration → RadioKind
  | .audioForVatsim => pushToTalkRadio
  | .trackAudio => trackAudioRadio

/-- A transmit that has changed the latch. -/
structure Transmit (kind : RadioKind) where
  state : TransmissionState
  outcome : Option kind.Outcome
  /-- The connection has changed before the command, or after it. -/
  clearedBefore : Bool
  clearedAfter : Bool

structure TransmitLatch (kind : RadioKind) where
  pttActive : Bool
  /-- The last command that has reached the radio on its connection. -/
  told : Option TransmissionState
  transmit : Option (Transmit kind)

namespace TransmitLatch

variable {kind : RadioKind}

def new : TransmitLatch kind where
  pttActive := false
  told := none
  transmit := none

/-- The edge test of a transmit: what the latch becomes, or nothing for a request that is
redundant. -/
def edge (pttActive : Bool) : TransmissionState → Option Bool
  | .active => if ¬ pttActive then some true else none
  | .inactive => if pttActive then some false else none

inductive Move (kind : RadioKind) where
  | transmit (state : TransmissionState)
  /-- The command reaches the radio, or fails. -/
  | concludes (outcome : kind.Outcome)
  /-- The call ends, with the latch taken back for some errors. -/
  | settles
  | clear

def step (radio : TransmitLatch kind) : Move kind → Option (TransmitLatch kind)
  | .transmit state =>
      match radio.transmit with
      | some _ => none
      | none =>
          match edge radio.pttActive state with
          | some pttActive =>
              some { radio with
                pttActive, transmit := some ⟨state, none, false, false⟩ }
          | none => some radio
  | .concludes outcome =>
      match radio.transmit with
      | some ⟨state, none, before, after⟩ =>
          some { radio with
            told := if kind.reached outcome then some state else radio.told
            transmit := some ⟨state, some outcome, before, after⟩ }
      | _ => none
  | .settles =>
      match radio.transmit with
      | some ⟨state, some outcome, _, _⟩ =>
          some { radio with
            pttActive := if kind.rollsBack outcome then !state.isActive else radio.pttActive
            transmit := none }
      | _ => none
  | .clear =>
      if kind.reconnects then
        some {
          pttActive := false
          told := none
          transmit := radio.transmit.map fun transmit =>
            { transmit with
              clearedBefore := transmit.clearedBefore || transmit.outcome.isNone
              clearedAfter := transmit.clearedAfter || transmit.outcome.isSome } }
      else none

/-! ## The law and its condition -/

/-- While no transmit is in progress, the latch is what the radio was last told. -/
def Agrees (radio : TransmitLatch kind) : Prop :=
  radio.transmit = none → (radio.pttActive = true ↔ radio.told = some .active)

/-- A request is ignored only when the radio has been told so already. -/
def NotSwallowed (radio : TransmitLatch kind) : Move kind → Prop
  | .transmit state =>
      radio.transmit = none → edge radio.pttActive state = none →
        (state = .active ↔ radio.told = some .active)
  | _ => True

def Faithful (radio : TransmitLatch kind) (move : Move kind) : Prop :=
  radio.NotSwallowed move ∧ ∀ next ∈ radio.step move, next.Agrees

/-- A transmit that ends well. When it is taken back, it was a press, or the connection has
not changed since it began. When its command has reached the radio, it was not a press that
was sent on another connection than it was requested on, unless the connection has changed
since. When neither is the case, the connection has changed. -/
def EndsWell (transmit : Transmit kind) (outcome : kind.Outcome) : Prop :=
  if kind.rollsBack outcome then
    transmit.state = .active ∨ (transmit.clearedBefore = false ∧ transmit.clearedAfter = false)
  else if kind.reached outcome then
    transmit.state = .active → transmit.clearedBefore = true → transmit.clearedAfter = true
  else transmit.clearedBefore = true ∨ transmit.clearedAfter = true

def Undisturbed (radio : TransmitLatch kind) : Move kind → Prop
  | .settles =>
      ∀ transmit ∈ radio.transmit, ∀ outcome ∈ transmit.outcome, EndsWell transmit outcome
  | _ => True

instance (transmit : Transmit kind) (outcome : kind.Outcome) :
    Decidable (EndsWell transmit outcome) :=
  inferInstanceAs (Decidable (if kind.rollsBack outcome then _ ∨ (_ ∧ _)
    else if kind.reached outcome then _ → _ → _ else _ ∨ _))

instance (radio : TransmitLatch kind) : ∀ move, Decidable (radio.Undisturbed move)
  | .transmit _ => isTrue trivial
  | .concludes _ => isTrue trivial
  | .settles =>
      inferInstanceAs (Decidable (∀ transmit ∈ radio.transmit, ∀ outcome ∈ transmit.outcome,
        EndsWell transmit outcome))
  | .clear => isTrue trivial

/-! ## The transmit in progress -/

/-- The latch during a transmit. -/
def latched (transmit : Transmit kind) : Bool :=
  !transmit.clearedBefore && !transmit.clearedAfter && transmit.state.isActive

/-- Whether the radio has last been told to transmit, during a transmit. -/
def keyed (transmit : Transmit kind) : Bool :=
  match transmit.outcome with
  | none => !transmit.clearedBefore && !transmit.state.isActive
  | some outcome =>
      if kind.reached outcome then !transmit.clearedAfter && transmit.state.isActive
      else !transmit.clearedBefore && !transmit.clearedAfter && !transmit.state.isActive

structure InProgress (radio : TransmitLatch kind) (transmit : Transmit kind) : Prop where
  latched : radio.pttActive = latched transmit
  keyed : radio.told = some .active ↔ keyed transmit = true
  ordered : transmit.outcome = none → transmit.clearedAfter = false

structure Sound (radio : TransmitLatch kind) : Prop where
  agrees : radio.Agrees
  inProgress : ∀ transmit, radio.transmit = some transmit → radio.InProgress transmit

theorem new_sound : (new : TransmitLatch kind).Sound where
  agrees := fun _ => iff_of_false Bool.false_ne_true (Option.some_ne_none _).symm
  inProgress := fun _ busy => absurd busy (Option.some_ne_none _).symm

section Steps

variable {radio next : TransmitLatch kind}

theorem sound_of_idle (idle : radio.transmit = none)
    (agrees : radio.pttActive = true ↔ radio.told = some .active) : radio.Sound :=
  ⟨fun _ => agrees, fun _ busy => absurd (idle.symm.trans busy) (Option.some_ne_none _).symm⟩

theorem sound_of_busy {transmit : Transmit kind} (busy : radio.transmit = some transmit)
    (inProgress : radio.InProgress transmit) : radio.Sound := by
  refine ⟨fun idle => absurd (busy.symm.trans idle) (Option.some_ne_none _), ?_⟩
  intro other isOther
  cases Option.some.inj (busy.symm.trans isOther)
  exact inProgress

theorem edge_eq_none {pttActive : Bool} {state : TransmissionState} :
    edge pttActive state = none ↔ pttActive = state.isActive := by
  cases state <;> cases pttActive <;> decide

theorem edge_eq_some {pttActive after : Bool} {state : TransmissionState} :
    edge pttActive state = some after ↔ after = state.isActive ∧ pttActive = !state.isActive := by
  cases state <;> cases pttActive <;> cases after <;> decide

theorem Sound.transmit (sound : radio.Sound) {state : TransmissionState}
    (steps : radio.step (.transmit state) = some next) : next.Sound := by
  cases idle : radio.transmit with
  | some => simp [step, idle] at steps
  | none =>
      cases changes : edge radio.pttActive state with
      | none =>
          simp only [step, idle, changes, Option.some.injEq] at steps
          exact steps ▸ sound
      | some pttActive =>
          simp only [step, idle, changes, Option.some.injEq] at steps
          obtain ⟨rfl, before⟩ := edge_eq_some.mp changes
          have agrees := sound.agrees idle
          subst steps
          refine sound_of_busy rfl ⟨?_, ?_, fun _ => rfl⟩
          · rfl
          · rw [← agrees, before]
            rfl

theorem Sound.concludes (sound : radio.Sound) {outcome : kind.Outcome}
    (steps : radio.step (.concludes outcome) = some next) : next.Sound := by
  simp only [step] at steps
  split at steps
  · rename_i state before after busy
    cases steps
    obtain ⟨isLatched, isKeyed, ordered⟩ := sound.inProgress _ busy
    refine sound_of_busy rfl ⟨isLatched, ?_, fun none => absurd none (Option.some_ne_none _)⟩
    have unchanged : after = false := ordered rfl
    subst unchanged
    simp only [keyed] at isKeyed ⊢
    split_ifs with reached
    · cases state <;> simp [TransmissionState.isActive]
    · simpa using isKeyed
  · simp at steps

theorem Sound.clear (sound : radio.Sound) (steps : radio.step .clear = some next) :
    next.Sound := by
  obtain ⟨_, ⟨⟩⟩ := Option.ite_none_right_eq_some.mp steps
  cases busy : radio.transmit with
  | none =>
      refine sound_of_idle rfl ?_
      exact iff_of_false Bool.false_ne_true (Option.some_ne_none _).symm
  | some transmit =>
      have inProgress := sound.inProgress transmit busy
      refine sound_of_busy rfl ⟨?_, iff_of_false (Option.some_ne_none _).symm ?_, ?_⟩
      · cases concluded : transmit.outcome <;> simp [latched, concluded]
      · cases concluded : transmit.outcome <;> simp [keyed, concluded]
      · intro concluded
        have pending : transmit.outcome = none := concluded
        simp [pending, inProgress.ordered pending]

/-- The latch after a transmit agrees with the radio exactly when the transmit ends well. -/
theorem endsWell_iff (transmit : Transmit kind) {outcome : kind.Outcome}
    (concluded : transmit.outcome = some outcome) :
    EndsWell transmit outcome ↔
      (if kind.rollsBack outcome then !transmit.state.isActive else latched transmit) =
        keyed transmit := by
  obtain ⟨state, _, before, after⟩ := transmit
  subst concluded
  have lawful := kind.lawful outcome
  simp only [EndsWell, latched, keyed]
  cases rollsBack : kind.rollsBack outcome with
  | true =>
      rw [lawful rollsBack]
      cases state <;> cases before <;> cases after <;> decide
  | false =>
      cases reached : kind.reached outcome <;>
        cases state <;> cases before <;> cases after <;> decide

/-- The end of a transmit: the radio after it, and when the latch agrees with the radio. -/
theorem settles_cases (sound : radio.Sound) (steps : radio.step .settles = some next) :
    ∃ transmit outcome, radio.transmit = some transmit ∧ transmit.outcome = some outcome ∧
      next.transmit = none ∧
      (EndsWell transmit outcome ↔ (next.pttActive = true ↔ next.told = some .active)) := by
  simp only [step] at steps
  split at steps
  · rename_i state outcome before after busy
    obtain ⟨isLatched, isKeyed, _⟩ := sound.inProgress _ busy
    cases steps
    refine ⟨_, outcome, busy, rfl, rfl, ?_⟩
    rw [endsWell_iff _ rfl, isKeyed, ← isLatched, Bool.eq_iff_iff]
  · simp at steps

theorem Sound.step (sound : radio.Sound) {move : Move kind} (undisturbed : radio.Undisturbed move)
    (steps : radio.step move = some next) : next.Sound := by
  cases move with
  | transmit state => exact sound.transmit steps
  | concludes outcome => exact sound.concludes steps
  | clear => exact sound.clear steps
  | settles =>
      obtain ⟨transmit, outcome, busy, concluded, idle, agrees⟩ := settles_cases sound steps
      exact sound_of_idle idle
        (agrees.mp (undisturbed transmit busy outcome concluded))

theorem Sound.notSwallowed (sound : radio.Sound) (move : Move kind) :
    radio.NotSwallowed move := by
  cases move with
  | transmit state =>
      intro idle redundant
      rw [← sound.agrees idle, edge_eq_none.mp redundant]
      cases state <;> decide
  | _ => trivial

theorem undisturbed_iff_faithful (sound : radio.Sound) {move : Move kind}
    (steps : radio.step move = some next) : radio.Undisturbed move ↔ radio.Faithful move := by
  constructor
  · intro undisturbed
    refine ⟨sound.notSwallowed move, fun other isNext => ?_⟩
    cases Option.some.inj (steps.symm.trans isNext)
    exact (sound.step undisturbed steps).agrees
  · rintro ⟨_, agreesAfter⟩
    cases move with
    | settles =>
        obtain ⟨transmit, outcome, busy, concluded, idle, agrees⟩ := settles_cases sound steps
        intro transmit' busy' outcome' concluded'
        cases Option.some.inj (busy.symm.trans busy')
        cases Option.some.inj (concluded.symm.trans concluded')
        exact agrees.mpr (agreesAfter next steps idle)
    | _ => trivial

end Steps

/-- With both radios, the latch agrees with the radio and swallows no request in exactly those
runs in which every transmit ends well. -/
theorem latch_agrees_iff (integration : RadioIntegration)
    {moves : List (Move integration.radio)} {final : TransmitLatch integration.radio}
    (runs : runMoves step new moves = some final) :
    Guarded step Faithful new moves ↔ Guarded step Undisturbed new moves :=
  (guarded_iff (fun _ _ _ sound steps => undisturbed_iff_faithful sound steps)
    (fun _ _ _ sound undisturbed steps => sound.step undisturbed steps) runs new_sound).symm

theorem latch_agrees_iff_reconnected :
    Guarded step Faithful (new : TransmitLatch trackAudioRadio)
      [.transmit .active, .concludes .timeout, .clear, .settles, .transmit .inactive,
        .transmit .active, .concludes .send, .settles] := by
  have runs : (runMoves step (new : TransmitLatch trackAudioRadio)
      [.transmit .active, .concludes .timeout, .clear, .settles, .transmit .inactive,
        .transmit .active, .concludes .send, .settles]).isSome := by decide +kernel
  obtain ⟨final, runs⟩ := Option.isSome_iff_exists.mp runs
  have undisturbed : Guarded step Undisturbed (new : TransmitLatch trackAudioRadio)
      [.transmit .active, .concludes .timeout, .clear, .settles, .transmit .inactive,
        .transmit .active, .concludes .send, .settles] := by decide +kernel
  exact (latch_agrees_iff .trackAudio runs).mpr undisturbed

/-- A release whose command cannot be sent because the connection changes leaves the latch
set on a connection that starts released, so that the next press is ignored. -/
theorem latch_set_after_reconnect :
    ¬ ∀ (integration : RadioIntegration) (moves : List (Move integration.radio))
      (final : TransmitLatch integration.radio),
      runMoves step new moves = some final → Guarded step Faithful new moves := by
  intro always
  have latched : (runMoves step (new : TransmitLatch trackAudioRadio)
      ([.transmit .active, .concludes .ok, .settles, .transmit .inactive, .clear,
        .concludes .send] ++ [.settles])).map
      (fun radio => (radio.transmit.isNone, radio.pttActive, radio.told)) =
      some (true, true, none) := by decide +kernel
  obtain ⟨final, runs, isLatched⟩ := Option.map_eq_some_iff.mp latched
  obtain ⟨settled, rest⟩ := Prod.mk.inj isLatched
  obtain ⟨pttActive, told⟩ := Prod.mk.inj rest
  obtain ⟨before, -, steps, law⟩ := (always .trackAudio _ final runs).last runs
  have agrees := law.2 final steps (Option.isNone_iff_eq_none.mp settled)
  rw [pttActive, told] at agrees
  exact absurd agrees (by decide)

end TransmitLatch

end Radio

end Vacs
