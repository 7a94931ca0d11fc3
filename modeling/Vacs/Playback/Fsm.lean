import Vacs.Foundations.FiniteMap
import Vacs.Protocol.Identifiers

/-!
# Segmentation of received audio into clips

For every tap, a point where audio is captured, the state machine has at most one
open clip. A transmission that begins on an idle tap opens one; the clip closes when
all its transmissions have ended and a hangover has passed, when its tap closes or
changes format, and when it is too long, in which case a new one takes over its
transmitters. The machine has no effects of its own: it returns the actions that the
recorder is to carry out.

Instants are counted in nanoseconds, and so are wall clock times, from the Unix
epoch.
-/

set_option autoImplicit false

namespace Vacs

namespace Playback

/-- A frequency, in hertz. -/
abbrev Frequency : Type := ℕ

/-- Interleaved samples, each the bits of a 32-bit float. -/
abbrev Samples : Type := List (BitVec 32)

abbrev SystemTime : Type := ℤ

inductive TapId where
  | frequency (frequency : Frequency)
  | headset
  | speaker
  | merged
deriving DecidableEq

structure Transmitter where
  callsign : String
  frequency : Frequency
deriving DecidableEq

inductive RecordingMode where
  /-- All taps are collapsed into one. -/
  | mixed
  | perTap
deriving DecidableEq

structure PlaybackConfig where
  maxClips : ℕ
  hangoverMs : ℕ
  maxClipDurationS : ℕ
deriving DecidableEq

inductive PlaybackSourceEvent where
  | tapOpened (tap : TapId) (sampleRate channels : ℕ)
  | tapClosed (tap : TapId)
  | frame (tap : TapId) (samples : Samples) (capturedAt : Instant)
  | rxBegin (tap : TapId) (callsign : String) (frequency : Frequency)
  | rxEnd (callsign : String) (frequency : Frequency)
      (activeTransmitters : Option (List String))
deriving DecidableEq

/-- What the recorder is to do. -/
inductive FsmAction where
  | openClip (clipId : ℕ) (tap : TapId) (sampleRate channels : ℕ) (callsigns : Finset String)
      (frequency : Option Frequency) (startedAt : SystemTime)
  | writeFrame (clipId : ℕ) (samples : Samples)
  | closeClip (clipId : ℕ) (callsigns : Finset String) (endedAt : SystemTime) (durationMs : ℕ)
deriving DecidableEq

structure OpenClip where
  clipId : ℕ
  startedAt : Instant
  startedAtWall : SystemTime
  lastAudioAt : Instant
  transmitters : Finset Transmitter
  callsigns : Finset String
  frequency : Option Frequency
deriving DecidableEq

structure TapState where
  sampleRate : ℕ
  channels : ℕ
  openClip : Option OpenClip
deriving DecidableEq

structure Fsm where
  mode : RecordingMode
  hangover : ℕ
  maxClipDuration : ℕ
  taps : HashMap TapId TapState
  nextClipId : ℕ

/-- The latest time a `SystemTime` holds: `i64` seconds. -/
def systemTimeMax : SystemTime := 2 ^ 63 * 10 ^ 9 - 1

def checkedAdd (time : SystemTime) (nanoseconds : ℕ) : Option SystemTime :=
  if time + nanoseconds ≤ systemTimeMax then some (time + nanoseconds) else none

namespace OpenClip

/-- The action that ends a clip. -/
def closeAction (clip : OpenClip) (now : Instant) (nowWall : SystemTime) : FsmAction :=
  let durationMs := min ((now - clip.startedAt) / 10 ^ 6) (2 ^ 64 - 1)
  let endedAt := (checkedAdd clip.startedAtWall (durationMs * 10 ^ 6)).getD nowWall
  .closeClip clip.clipId clip.callsigns endedAt durationMs

/-- A transmitter has ended, and with it those on its frequency that are not listed as active. -/
def endTransmitter (clip : OpenClip) (transmitter : Transmitter)
    (activeTransmitters : Option (List String)) : OpenClip :=
  { clip with
    transmitters := (clip.transmitters.erase transmitter).filter fun other =>
      ∀ active ∈ activeTransmitters,
        other.frequency ≠ transmitter.frequency ∨ other.callsign ∈ active }

end OpenClip

namespace TapState

/-- `close_open_clip`: the tap without its clip, and the action that ends it. -/
def closeOpenClip (entry : TapState) (now : Instant) (nowWall : SystemTime) :
    TapState × List FsmAction :=
  ({ entry with openClip := none },
    (entry.openClip.map fun clip => clip.closeAction now nowWall).toList)

end TapState

namespace Fsm

def new (config : PlaybackConfig) (mode : RecordingMode) : Fsm where
  mode := mode
  hangover := config.hangoverMs * 10 ^ 6
  maxClipDuration := config.maxClipDurationS * 10 ^ 9
  taps := ∅
  nextClipId := 1

def mapTap (mode : RecordingMode) (tap : TapId) : TapId :=
  match mode with
  | .mixed => .merged
  | .perTap => tap

def setTap (fsm : Fsm) (key : TapId) (entry : TapState) : Fsm :=
  { fsm with taps := fsm.taps.insert key entry }

/-! ## Events -/

def tapOpened (fsm : Fsm) (tap : TapId) (sampleRate channels : ℕ) (now : Instant)
    (nowWall : SystemTime) : Fsm × List FsmAction :=
  let key := mapTap fsm.mode tap
  let entry := (fsm.taps.lookup key).getD ⟨sampleRate, channels, none⟩
  if entry.sampleRate ≠ sampleRate ∨ entry.channels ≠ channels then
    let closed := entry.closeOpenClip now nowWall
    (fsm.setTap key { closed.1 with sampleRate := sampleRate, channels := channels }, closed.2)
  else (fsm.setTap key entry, [])

def tapClosed (fsm : Fsm) (tap : TapId) (now : Instant) (nowWall : SystemTime) :
    Fsm × List FsmAction :=
  let key := mapTap fsm.mode tap
  let actions :=
    match fsm.taps.lookup key with
    | none => []
    | some entry => (entry.closeOpenClip now nowWall).2
  ({ fsm with taps := fsm.taps.erase key }, actions)

def frame (fsm : Fsm) (tap : TapId) (samples : Samples) (capturedAt : Instant)
    (nowWall : SystemTime) : Fsm × List FsmAction :=
  let key := mapTap fsm.mode tap
  match fsm.taps.lookup key with
  | none => (fsm, [])
  | some entry =>
      match entry.openClip with
      | none => (fsm, [])
      | some clip =>
          -- silent buffers keep coming after the reception has ended
          let heard :=
            if clip.transmitters = ∅ then clip else { clip with lastAudioAt := capturedAt }
          let write := FsmAction.writeFrame clip.clipId samples
          if fsm.maxClipDuration ≤ capturedAt - clip.startedAt then
            let next : OpenClip :=
              { clipId := fsm.nextClipId
                startedAt := capturedAt
                startedAtWall := nowWall
                lastAudioAt := capturedAt
                transmitters := clip.transmitters
                callsigns := clip.callsigns
                frequency := clip.frequency }
            ({ fsm.setTap key { entry with openClip := some next } with
                nextClipId := fsm.nextClipId + 1 },
              [write, heard.closeAction capturedAt nowWall,
                .openClip fsm.nextClipId key entry.sampleRate entry.channels clip.callsigns
                  clip.frequency nowWall])
          else (fsm.setTap key { entry with openClip := some heard }, [write])

def rxBegin (fsm : Fsm) (tap : TapId) (callsign : String) (frequency : Frequency) (now : Instant)
    (nowWall : SystemTime) : Fsm × List FsmAction :=
  let key := mapTap fsm.mode tap
  match fsm.taps.lookup key with
  | none => (fsm, [])
  | some entry =>
      match entry.openClip with
      | some clip =>
          let joined : OpenClip :=
            { clip with
              callsigns := insert callsign clip.callsigns
              transmitters := insert ⟨callsign, frequency⟩ clip.transmitters
              lastAudioAt := now }
          (fsm.setTap key { entry with openClip := some joined }, [])
      | none =>
          let clip : OpenClip :=
            { clipId := fsm.nextClipId
              startedAt := now
              startedAtWall := nowWall
              lastAudioAt := now
              transmitters := {⟨callsign, frequency⟩}
              callsigns := {callsign}
              frequency := some frequency }
          ({ fsm.setTap key { entry with openClip := some clip } with
              nextClipId := fsm.nextClipId + 1 },
            [.openClip fsm.nextClipId key entry.sampleRate entry.channels {callsign}
              (some frequency) nowWall])

/-- The end of a transmission is applied to the clips of all taps. -/
def rxEnd (fsm : Fsm) (callsign : String) (frequency : Frequency)
    (activeTransmitters : Option (List String)) : Fsm × List FsmAction :=
  ({ fsm with
      taps := fsm.taps.filterMap fun _ entry =>
        some { entry with
          openClip := entry.openClip.map fun clip =>
            clip.endTransmitter ⟨callsign, frequency⟩ activeTransmitters } }, [])

def onEvent (fsm : Fsm) (event : PlaybackSourceEvent) (now : Instant) (nowWall : SystemTime) :
    Fsm × List FsmAction :=
  match event with
  | .tapOpened tap sampleRate channels => fsm.tapOpened tap sampleRate channels now nowWall
  | .tapClosed tap => fsm.tapClosed tap now nowWall
  | .frame tap samples capturedAt => fsm.frame tap samples capturedAt nowWall
  | .rxBegin tap callsign frequency => fsm.rxBegin tap callsign frequency now nowWall
  | .rxEnd callsign frequency activeTransmitters =>
      fsm.rxEnd callsign frequency activeTransmitters

/-! ## Ticks -/

/-- The hangover of a clip without transmitters has passed. -/
def shouldClose (hangover : ℕ) (now : Instant) (clip : OpenClip) : Bool :=
  decide (clip.transmitters = ∅) && decide (clip.lastAudioAt + hangover ≤ now)

/-- One round of the loop over the taps. -/
def tickTap (now : Instant) (nowWall : SystemTime) (state : Fsm × List FsmAction) (key : TapId) :
    Fsm × List FsmAction :=
  match state.1.taps.lookup key with
  | none => state
  | some entry =>
      if entry.openClip.any (shouldClose state.1.hangover now) then
        let closed := entry.closeOpenClip now nowWall
        (state.1.setTap key closed.1, state.2 ++ closed.2)
      else state

/-- Close the clips whose hangover has passed, in the order in which the map is walked. -/
def tick (fsm : Fsm) (order : Enumeration TapId) (now : Instant) (nowWall : SystemTime) :
    Fsm × List FsmAction :=
  (order.list fsm.taps.keys).foldl (tickTap now nowWall) (fsm, [])

/-- What every round of the loop keeps holds after a tick. -/
theorem tick_induct (holds : Fsm × List FsmAction → Prop) {fsm : Fsm} {now : Instant}
    {nowWall : SystemTime} (kept : ∀ state key, holds state → holds (tickTap now nowWall state key))
    (initially : holds (fsm, [])) (order : Enumeration TapId) :
    holds (fsm.tick order now nowWall) :=
  List.foldlRecOn _ _ initially fun state isKept key _ => kept state key isKept

end Fsm

end Playback

end Vacs
