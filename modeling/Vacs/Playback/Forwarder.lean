import Vacs.Playback.OpenClips
import Mathlib.Data.Prod.Lex

/-!
# The forwarder of a radio client

The forwarder merges captured audio with the events of a radio client into one stream
for the state machine. It remembers on which tap every reception has begun, so that a
reception can be moved when the routing of its frequency changes: the stream then has
the end of the reception and its beginning on the new tap.

The forwarder forgets a reception when it ends. The end of another reception may list
the stations that are still heard on the frequency; the state machine drops those that
are not listed, and the forwarder does not. As long as it only moves receptions that
are still heard, so are the transmitters of all open clips (`openClips_heard`). A
reception that is over and is moved opens a clip that no event ends
(`movedReception_phantom`).
-/

set_option autoImplicit false

namespace Vacs

namespace Playback

/-! ## The forwarder -/

inductive LoopbackEvent where
  | opened (tap : TapId) (sampleRate channels : ℕ)
  | closed (tap : TapId)
  | frame (tap : TapId) (samples : Samples) (capturedAt : Instant)
deriving DecidableEq

inductive TrackAudioEvent where
  | rxBegin (callsign : String) (frequency : Frequency)
  | rxEnd (callsign : String) (frequency : Frequency)
      (activeTransmitters : Option (List String))
  | stationStateUpdate (frequency : Option Frequency) (headset : Option Bool)
deriving DecidableEq

/-- The headset flags of the known stations. -/
structure TrackAudioState where
  stations : HashMap Frequency Bool := ∅

namespace TrackAudioState

def headsetForFrequency (state : TrackAudioState) (frequency : Frequency) : Option Bool :=
  state.stations.lookup frequency

end TrackAudioState

def tapFor (state : TrackAudioState) (frequency : Frequency) : TapId :=
  match state.headsetForFrequency frequency with
  | some true => .headset
  | some false => .speaker
  | none => .headset

/-- What the forwarder receives: an event of the radio client finds some cached state, and the map
of receptions is walked in some order. -/
inductive ForwarderInput where
  | capture (event : LoopbackEvent)
  | radio (event : TrackAudioEvent) (state : TrackAudioState) (order : Enumeration Transmitter)

structure Forwarder where
  /-- The tap on which every reception has begun. -/
  activeRx : HashMap Transmitter TapId := ∅

namespace Forwarder

def captured : LoopbackEvent → PlaybackSourceEvent
  | .opened tap sampleRate channels => .tapOpened tap sampleRate channels
  | .closed tap => .tapClosed tap
  | .frame tap samples capturedAt => .frame tap samples capturedAt

/-- The receptions on a frequency whose tap is another one. -/
def migrate (forwarder : Forwarder) (order : Enumeration Transmitter) (frequency : Frequency)
    (newTap : TapId) : List Transmitter :=
  (order.list forwarder.activeRx.keys).filter fun transmitter =>
    decide (transmitter.frequency = frequency) &&
      decide (forwarder.activeRx.lookup transmitter ≠ some newTap)

/-- One round of the loop over the receptions that move. -/
def migrateOne (newTap : TapId) (state : Forwarder × List PlaybackSourceEvent)
    (transmitter : Transmitter) : Forwarder × List PlaybackSourceEvent :=
  ({ activeRx := state.1.activeRx.insert transmitter newTap },
    state.2 ++ [.rxEnd transmitter.callsign transmitter.frequency none,
      .rxBegin newTap transmitter.callsign transmitter.frequency])

def routedTap (headset : Bool) : TapId :=
  if headset then .headset else .speaker

def stationStateUpdate (forwarder : Forwarder) (order : Enumeration Transmitter) :
    Option Frequency → Option Bool → Forwarder × List PlaybackSourceEvent
  | some frequency, some headset =>
      (forwarder.migrate order frequency (routedTap headset)).foldl
        (migrateOne (routedTap headset)) (forwarder, [])
  | _, _ => (forwarder, [])

def handle (forwarder : Forwarder) : ForwarderInput → Forwarder × List PlaybackSourceEvent
  | .capture event => (forwarder, [captured event])
  | .radio (.rxBegin callsign frequency) state _ =>
      let tap := tapFor state frequency
      ({ activeRx := forwarder.activeRx.insert ⟨callsign, frequency⟩ tap },
        [.rxBegin tap callsign frequency])
  | .radio (.rxEnd callsign frequency activeTransmitters) _ _ =>
      -- only the reception that ends is forgotten
      ({ activeRx := forwarder.activeRx.erase ⟨callsign, frequency⟩ },
        [.rxEnd callsign frequency activeTransmitters])
  | .radio (.stationStateUpdate frequency headset) _ order =>
      forwarder.stationStateUpdate order frequency headset

/-- The stream of the forwarder. -/
def forwards (forwarder : Forwarder) : List ForwarderInput → List PlaybackSourceEvent
  | [] => []
  | input :: inputs => (forwarder.handle input).2 ++ (forwarder.handle input).1.forwards inputs

end Forwarder

/-! ## Receptions that are not over -/

/-- The transmitters that are heard, after an event of the stream. -/
def hearEvent (live : Finset Transmitter) : PlaybackSourceEvent → Finset Transmitter
  | .rxBegin _ callsign frequency => insert ⟨callsign, frequency⟩ live
  | .rxEnd callsign frequency activeTransmitters =>
      live.filter fun transmitter =>
        Ledger.outlasts callsign frequency activeTransmitters transmitter = true
  | .tapOpened _ _ _ | .tapClosed _ | .frame _ _ _ => live

/-- The transmitters that are heard, after an event of the radio client: a reception is over when
it ends, and when another one on its frequency ends with a list that omits it. -/
def hear (live : Finset Transmitter) : ForwarderInput → Finset Transmitter
  | .radio (.rxBegin callsign frequency) _ _ => insert ⟨callsign, frequency⟩ live
  | .radio (.rxEnd callsign frequency activeTransmitters) _ _ =>
      live.filter fun transmitter =>
        Ledger.outlasts callsign frequency activeTransmitters transmitter = true
  | .radio (.stationStateUpdate _ _) _ _ | .capture _ => live

def heard (inputs : List ForwarderInput) : Finset Transmitter :=
  inputs.foldl hear ∅

namespace Forwarder

/-- The receptions that an input moves are still heard. -/
def movesHeard (forwarder : Forwarder) (live : Finset Transmitter) : ForwarderInput → Bool
  | .radio (.stationStateUpdate (some frequency) (some headset)) _ order =>
      (forwarder.migrate order frequency (routedTap headset)).all fun transmitter =>
        decide (transmitter ∈ live)
  | .radio (.stationStateUpdate _ _) _ _ | .radio (.rxBegin _ _) _ _ | .radio (.rxEnd _ _ _) _ _
  | .capture _ => true

/-- All inputs of a run move only receptions that are still heard. -/
def runMovesHeard (forwarder : Forwarder) (live : Finset Transmitter) :
    List ForwarderInput → Bool
  | [] => true
  | input :: inputs =>
      forwarder.movesHeard live input &&
        (forwarder.handle input).1.runMovesHeard (hear live input) inputs

/-- A reception that is heard is heard after it was moved. -/
theorem hearEvent_moved {live : Finset Transmitter} {transmitter : Transmitter}
    (isLive : transmitter ∈ live) (newTap : TapId) :
    hearEvent (hearEvent live (.rxEnd transmitter.callsign transmitter.frequency none))
      (.rxBegin newTap transmitter.callsign transmitter.frequency) = live := by
  ext other
  simp only [hearEvent, Ledger.outlasts, Finset.mem_insert]
  by_cases same : other = transmitter
  · simp [same, isLive]
  · simp [same]

/-- Moving receptions that are heard changes nothing, by induction on them. -/
theorem foldl_hearEvent_migrated {live : Finset Transmitter} (newTap : TapId)
    (transmitters : List Transmitter) :
    ∀ state : Forwarder × List PlaybackSourceEvent,
      (∀ transmitter ∈ transmitters, transmitter ∈ live) → state.2.foldl hearEvent live = live →
      (transmitters.foldl (migrateOne newTap) state).2.foldl hearEvent live = live := by
  induction transmitters with
  | nil =>
      intro state _ unchanged
      exact unchanged
  | cons transmitter transmitters ih =>
      intro state areLive unchanged
      have isLive := areLive transmitter List.mem_cons_self
      refine ih _ (fun other member => areLive other (List.mem_cons_of_mem _ member)) ?_
      rw [migrateOne, List.foldl_append, unchanged]
      exact hearEvent_moved isLive newTap

/-- The stream says about one input what the input says, if it moves no reception that is over. -/
theorem foldl_hearEvent_handle {forwarder : Forwarder} {live : Finset Transmitter}
    {input : ForwarderInput} (moves : forwarder.movesHeard live input = true) :
    (forwarder.handle input).2.foldl hearEvent live = hear live input := by
  cases input with
  | capture event => cases event <;> rfl
  | radio event state order =>
      cases event with
      | rxBegin callsign frequency => rfl
      | rxEnd callsign frequency activeTransmitters => rfl
      | stationStateUpdate frequency headset =>
          cases frequency with
          | none => rfl
          | some frequency =>
              cases headset with
              | none => rfl
              | some headset =>
                  apply foldl_hearEvent_migrated
                  · intro transmitter member
                    exact of_decide_eq_true (List.all_eq_true.mp moves transmitter member)
                  · rfl

theorem foldl_hearEvent_forwards (inputs : List ForwarderInput) :
    ∀ (forwarder : Forwarder) (live : Finset Transmitter),
      forwarder.runMovesHeard live inputs = true →
      (forwarder.forwards inputs).foldl hearEvent live = inputs.foldl hear live := by
  induction inputs with
  | nil =>
      intro forwarder live _
      rfl
  | cons input inputs ih =>
      intro forwarder live moves
      rw [runMovesHeard, Bool.and_eq_true] at moves
      rw [forwards, List.foldl_append, foldl_hearEvent_handle moves.1]
      exact ih _ _ moves.2

/-- A part of the run from its beginning. -/
theorem runMovesHeard_append {inputs later : List ForwarderInput} :
    ∀ {forwarder : Forwarder} {live : Finset Transmitter},
      forwarder.runMovesHeard live (inputs ++ later) = true →
      forwarder.runMovesHeard live inputs = true := by
  induction inputs with
  | nil =>
      intro forwarder live _
      rfl
  | cons input inputs ih =>
      intro forwarder live moves
      rw [List.cons_append, runMovesHeard, Bool.and_eq_true] at moves
      rw [runMovesHeard, Bool.and_eq_true]
      exact ⟨moves.1, ih moves.2⟩

end Forwarder

/-! ## Open clips -/

namespace Fsm

/-- The transmitters of all open clips are heard. -/
def Hears (fsm : Fsm) (live : Finset Transmitter) : Prop :=
  ∀ tap entry clip, fsm.taps.lookup tap = some entry → entry.openClip = some clip →
    clip.transmitters ⊆ live

theorem hears_iff {fsm : Fsm} {live : Finset Transmitter} :
    fsm.Hears live ↔ ∀ key clip, fsm.clipAt key = some clip → clip.transmitters ⊆ live := by
  simp only [Hears, clipAt_eq_some_iff]
  exact ⟨fun hears key clip ⟨entry, isEntry, isOpen⟩ => hears key entry clip isEntry isOpen,
    fun hears key entry clip isEntry isOpen => hears key clip ⟨entry, isEntry, isOpen⟩⟩

theorem afterBegin_transmitters_subset (fsm : Fsm) (transmitter : Transmitter) (now : Instant)
    (nowWall : SystemTime) {live : Finset Transmitter} {before : Option OpenClip}
    (isHeard : ∀ clip, before = some clip → clip.transmitters ⊆ live) :
    (fsm.afterBegin transmitter now nowWall before).transmitters ⊆ insert transmitter live := by
  cases before with
  | none => exact Finset.singleton_subset_iff.mpr (Finset.mem_insert_self transmitter live)
  | some clip => exact Finset.insert_subset_insert transmitter (isHeard clip rfl)

theorem hears_onEvent {fsm : Fsm} {live : Finset Transmitter} (hears : fsm.Hears live)
    (event : PlaybackSourceEvent) (now : Instant) (nowWall : SystemTime) :
    (fsm.onEvent event now nowWall).1.Hears (hearEvent live event) := by
  rw [hears_iff] at hears ⊢
  intro key clip isOpen
  cases event with
  | tapOpened tap sampleRate channels =>
      simp only [onEvent, clipAt_tapOpened] at isOpen
      split at isOpen
      case isTrue => cases isOpen
      case isFalse => exact hears key clip isOpen
  | tapClosed tap =>
      simp only [onEvent, clipAt_tapClosed] at isOpen
      split at isOpen
      case isTrue => cases isOpen
      case isFalse => exact hears key clip isOpen
  | frame tap samples capturedAt =>
      simp only [onEvent, clipAt_frame] at isOpen
      split at isOpen
      case isTrue =>
        obtain ⟨before, isBefore, rfl⟩ := Option.map_eq_some_iff.mp isOpen
        rw [afterFrame_transmitters]
        exact hears key before isBefore
      case isFalse => exact hears key clip isOpen
  | rxBegin tap callsign frequency =>
      simp only [onEvent, clipAt_rxBegin] at isOpen
      split at isOpen
      case isTrue =>
        obtain ⟨entry, isEntry, rfl⟩ := Option.map_eq_some_iff.mp isOpen
        apply afterBegin_transmitters_subset
        exact fun before isBefore => hears key before ((clipAt_of_entry isEntry).trans isBefore)
      case isFalse => exact (hears key clip isOpen).trans (Finset.subset_insert _ live)
  | rxEnd callsign frequency activeTransmitters =>
      intro transmitter member
      simp only [onEvent, clipAt_rxEnd] at isOpen
      obtain ⟨before, isBefore, rfl⟩ := Option.map_eq_some_iff.mp isOpen
      simp only [OpenClip.endTransmitter, Finset.mem_filter, Finset.mem_erase] at member
      have isHeard := hears key before isBefore member.1.2
      simp only [hearEvent, Ledger.outlasts, Finset.mem_filter, Bool.and_eq_true,
        decide_eq_true_eq]
      exact ⟨isHeard, member.1.1, member.2⟩

/-- A tick only closes clips. -/
theorem hears_tick {fsm : Fsm} {live : Finset Transmitter} (hears : fsm.Hears live)
    (order : Enumeration TapId) (now : Instant) (nowWall : SystemTime) :
    (fsm.tick order now nowWall).1.Hears live := by
  rw [hears_iff] at hears ⊢
  intro key clip isOpen
  rw [clipAt_tick] at isOpen
  exact hears key clip (Option.filter_eq_some_iff.mp isOpen).1

end Fsm

/-- The event of a call. -/
def FsmCall.event? : FsmCall → Option PlaybackSourceEvent
  | .event source _ _ => some source
  | .tick _ _ _ => none

namespace Fsm

theorem hears_run (calls : List FsmCall) :
    ∀ (fsm : Fsm) (live : Finset Transmitter), fsm.Hears live →
      (fsm.run calls).Hears ((calls.filterMap FsmCall.event?).foldl hearEvent live) := by
  induction calls with
  | nil =>
      intro fsm live hears
      exact hears
  | cons call calls ih =>
      intro fsm live hears
      cases call with
      | event event now nowWall => exact ih _ _ (hears_onEvent hears event now nowWall)
      | tick order now nowWall => exact ih _ _ (hears_tick hears order now nowWall)

/-- In a run whose inputs move only receptions that are still heard, the state machine has, after
every part of the run and at whatever times and between whatever ticks it processed its events,
only clips whose transmitters are all still heard. -/
theorem openClips_heard (config : PlaybackConfig) (mode : RecordingMode)
    (inputs : List ForwarderInput) (moves : Forwarder.runMovesHeard {} ∅ inputs = true) :
    ∀ processed, processed <+: inputs → ∀ calls : List FsmCall,
      calls.filterMap FsmCall.event? = Forwarder.forwards {} processed →
      ((new config mode).run calls).Hears (heard processed) := by
  rintro processed ⟨later, isInputs⟩ calls events
  rw [← isInputs] at moves
  have start : (new config mode).Hears ∅ := by
    intro tap entry clip isEntry
    simp [new] at isEntry
  have hears := hears_run calls (new config mode) ∅ start
  rw [events, Forwarder.foldl_hearEvent_forwards processed {} ∅
    (Forwarder.runMovesHeard_append moves)] at hears
  exact hears

/-! ## A reception that is over and is moved -/

instance : LinearOrder Transmitter :=
  LinearOrder.lift' (fun transmitter => toLex (transmitter.callsign, transmitter.frequency)) (by
    rintro ⟨callsign, frequency⟩ ⟨otherCallsign, otherFrequency⟩ same
    simpa using same)

/-- Events of the radio client, while no station is known. -/
def radioInput (event : TrackAudioEvent) : ForwarderInput :=
  .radio event {} (.increasing Transmitter)

/-- Two stations transmit on a frequency, which then is routed to the speaker. -/
def routedMidReception : List ForwarderInput :=
  [.capture (.opened .headset 48000 2), .capture (.opened .speaker 48000 2),
    radioInput (.rxBegin "LOWW_TWR" 119400000), radioInput (.rxBegin "AUA1" 119400000),
    radioInput (.rxEnd "AUA1" 119400000 (some ["LOWW_TWR"])),
    radioInput (.stationStateUpdate (some 119400000) (some false))]

/-- The first one is no longer listed when the second one ends. -/
def routedAfterReception : List ForwarderInput :=
  [.capture (.opened .headset 48000 2), .capture (.opened .speaker 48000 2),
    radioInput (.rxBegin "LOWW_TWR" 119400000), radioInput (.rxBegin "AUA1" 119400000),
    radioInput (.rxEnd "AUA1" 119400000 (some [])),
    radioInput (.stationStateUpdate (some 119400000) (some false))]

/-- The state machine processes the stream at once. -/
def processedAtOnce (inputs : List ForwarderInput) : List FsmCall :=
  (Forwarder.forwards {} inputs).map fun event => .event event 0 0

def playbackConfig : PlaybackConfig := ⟨20, 500, 300⟩

theorem routedMidReception_heard :
    ((new playbackConfig .perTap).run (processedAtOnce routedMidReception)).Hears
      {⟨"LOWW_TWR", 119400000⟩} := by
  have hears := openClips_heard playbackConfig .perTap routedMidReception (by decide +kernel)
    routedMidReception List.prefix_rfl (processedAtOnce routedMidReception) (by decide +kernel)
  have isHeard : heard routedMidReception = {⟨"LOWW_TWR", 119400000⟩} := by decide +kernel
  rwa [isHeard] at hears

/-- The reception that is over is moved to the speaker, where it opens a clip. -/
theorem movedReception_phantom :
    ¬ ∀ (config : PlaybackConfig) (mode : RecordingMode) (inputs : List ForwarderInput)
      (calls : List FsmCall),
      calls.filterMap FsmCall.event? = Forwarder.forwards {} inputs →
      ((new config mode).run calls).Hears (heard inputs) := by
  intro always
  have hears := always playbackConfig .perTap routedAfterReception
    (processedAtOnce routedAfterReception) (by decide +kernel)
  have isHeard : heard routedAfterReception = ∅ := by decide +kernel
  rw [isHeard] at hears
  have isOpen : (((new playbackConfig .perTap).run (processedAtOnce routedAfterReception)).taps.lookup
      .speaker).bind (fun entry => entry.openClip.map OpenClip.transmitters) =
      some {⟨"LOWW_TWR", 119400000⟩} := by decide +kernel
  obtain ⟨entry, isEntry, isClip⟩ := Option.bind_eq_some_iff.mp isOpen
  obtain ⟨clip, isOpen, transmitters⟩ := Option.map_eq_some_iff.mp isClip
  have subset := hears .speaker entry clip isEntry isOpen
  rw [transmitters] at subset
  exact absurd subset (by decide)

end Fsm

end Playback

end Vacs
