import Vacs.Playback.Brackets
import Vacs.Playback.Storage

/-!
# The recorder

The recorder feeds the events of a source to the state machine, and turns the actions it
returns into files: a clip that opens gets a writer, and when it closes the file is
finalized and the clip is committed to the store. A writer that cannot be created or
finalized is given up and its file removed. At shutdown the clips that are still open
are finalized; unlike those that close, they are committed with the callsigns they were
opened with.

What the file system answers to a request is part of the request (`Disk`). What the
recorder does that can be observed, apart from the files, makes up its effects.
-/

set_option autoImplicit false

namespace Vacs

namespace Playback

/-! ## Writers -/

/-- The answers of the file system: whether the file of a clip can be created, whether a sample can
be appended, and whether the file can be finalized. -/
structure Disk where
  creates : ℕ → Bool
  accepts : ℕ → ℕ → Bool
  finalizes : ℕ → Bool

namespace Disk

/-- Every request succeeds. -/
def reliable : Disk := ⟨fun _ => true, fun _ _ => true, fun _ => true⟩

end Disk

/-- The writer of a clip file. -/
structure ClipWriter where
  inputChannels : ℕ
  sampleCount : ℕ
  sampleRate : ℕ
deriving DecidableEq

namespace ClipWriter

def create (disk : Disk) (clipId sampleRate channels : ℕ) : Option ClipWriter :=
  if channels = 0 then none
  else if sampleRate = 0 then none
  else if disk.creates clipId then some ⟨channels, 0, sampleRate⟩
  else none

/-- Samples are mixed down to one channel and written until one cannot be. -/
def writeFrame (disk : Disk) (clipId : ℕ) (writer : ClipWriter) (samples : Samples) :
    ClipWriter :=
  let mono := samples.length / writer.inputChannels
  let written := (List.range mono).takeWhile fun sample =>
    disk.accepts clipId (writer.sampleCount + sample)
  { writer with sampleCount := writer.sampleCount + written.length }

/-- The duration of the clip, in milliseconds. -/
def finalize (disk : Disk) (clipId : ℕ) (writer : ClipWriter) : Option ℕ :=
  if disk.finalizes clipId then
    if writer.sampleRate = 0 then some 0
    else some (min (writer.sampleCount * 1000) (2 ^ 64 - 1) / writer.sampleRate)
  else none

end ClipWriter

/-- A clip that is being written. -/
structure RecorderClip where
  writer : ClipWriter
  path : String
  callsigns : Finset String
  frequency : Option Frequency
  startedAt : SystemTime
deriving DecidableEq

namespace RecorderClip

def finalize (disk : Disk) (clip : RecorderClip) (id : ℕ) (endedAt : Option SystemTime)
    (durationOverride : Option ℕ) : Option ClipMeta :=
  (clip.writer.finalize disk id).map fun actualMs =>
    let durationMs := (durationOverride.filter fun duration => decide (duration ≠ 0)).getD actualMs
    { id := id
      path := clip.path
      callsigns := clip.callsigns
      frequency := clip.frequency
      startedAt := clip.startedAt
      endedAt := endedAt.getD
        ((checkedAdd clip.startedAt (durationMs * 10 ^ 6)).getD clip.startedAt)
      durationMs := durationMs }

end RecorderClip

/-! ## The recorder -/

inductive RecorderEffect where
  /-- A clip was committed, and the front end is told which ones this evicted. -/
  | recorded (clip : ClipMeta) (evicted : List ClipMeta)
  /-- The writer of a clip failed. -/
  | discarded (clipId : ℕ)
  /-- A clip was deleted for the user. -/
  | deleted (clip : ClipMeta)
deriving DecidableEq

structure Recorder where
  openClips : HashMap ℕ RecorderClip := ∅
  store : ClipStore

namespace Recorder

/-- `OpenClip`: reserve a name and create a writer. -/
def openClip (disk : Disk) (recorder : Recorder) (clipId : ℕ) (tap : TapId)
    (sampleRate channels : ℕ) (callsigns : Finset String) (frequency : Option Frequency)
    (startedAt : SystemTime) : Recorder × List RecorderEffect :=
  let path := recorder.store.allocate tap startedAt
  match ClipWriter.create disk clipId sampleRate channels with
  | some writer =>
      ({ openClips := recorder.openClips.insert clipId ⟨writer, path, callsigns, frequency, startedAt⟩
         store := recorder.store.touch path }, [])
  | none => ({ recorder with store := recorder.store.discard path }, [.discarded clipId])

/-- Commit a clip that was finalized, and give up one that was not. -/
def finish (recorder : Recorder) (clipId : ℕ) (path : String) :
    Option ClipMeta → Recorder × List RecorderEffect
  | some clip =>
      let committed := recorder.store.commit clip
      ({ recorder with store := committed.1 }, [.recorded clip committed.2])
  | none => ({ recorder with store := recorder.store.discard path }, [.discarded clipId])

/-- `CloseClip`: the clip takes the callsigns of the action. -/
def closeClip (disk : Disk) (recorder : Recorder) (clipId : ℕ) (callsigns : Finset String)
    (endedAt : SystemTime) (durationMs : ℕ) : Recorder × List RecorderEffect :=
  match recorder.openClips.lookup clipId with
  | none => (recorder, [])
  | some clip =>
      finish { recorder with openClips := recorder.openClips.erase clipId } clipId clip.path
        (RecorderClip.finalize disk { clip with callsigns := callsigns } clipId (some endedAt)
          (some durationMs))

def writeFrame (disk : Disk) (recorder : Recorder) (clipId : ℕ) (samples : Samples) : Recorder :=
  match recorder.openClips.lookup clipId with
  | none => recorder
  | some clip =>
      { recorder with
        openClips := recorder.openClips.insert clipId
          { clip with writer := clip.writer.writeFrame disk clipId samples } }

def applyAction (disk : Disk) (recorder : Recorder) : FsmAction → Recorder × List RecorderEffect
  | .openClip clipId tap sampleRate channels callsigns frequency startedAt =>
      recorder.openClip disk clipId tap sampleRate channels callsigns frequency startedAt
  | .writeFrame clipId samples => (recorder.writeFrame disk clipId samples, [])
  | .closeClip clipId callsigns endedAt durationMs =>
      recorder.closeClip disk clipId callsigns endedAt durationMs

def applyActions (disk : Disk) (recorder : Recorder) :
    List FsmAction → Recorder × List RecorderEffect
  | [] => (recorder, [])
  | action :: actions =>
      let first := recorder.applyAction disk action
      let rest := first.1.applyActions disk actions
      (rest.1, first.2 ++ rest.2)

/-- One round of the loop at shutdown. -/
def drainOne (disk : Disk) (recorder : Recorder) (clipId : ℕ) : Recorder × List RecorderEffect :=
  match recorder.openClips.lookup clipId with
  | none => (recorder, [])
  | some clip =>
      -- the clip has the callsigns it was opened with
      finish { recorder with openClips := recorder.openClips.erase clipId } clipId clip.path
        (clip.finalize disk clipId none none)

def drainAll (disk : Disk) (recorder : Recorder) : List ℕ → Recorder × List RecorderEffect
  | [] => (recorder, [])
  | clipId :: clipIds =>
      let first := recorder.drainOne disk clipId
      let rest := first.1.drainAll disk clipIds
      (rest.1, first.2 ++ rest.2)

/-- Finalize the clips that are still open, in the order in which the map is walked. -/
def drain (disk : Disk) (recorder : Recorder) (order : Enumeration ℕ) :
    Recorder × List RecorderEffect :=
  recorder.drainAll disk (order.list recorder.openClips.keys)

def delete (recorder : Recorder) (id : ℕ) : Recorder × List RecorderEffect :=
  let deleted := recorder.store.delete id
  ({ recorder with store := deleted.1 }, deleted.2.toList.map RecorderEffect.deleted)

def clear (recorder : Recorder) : Recorder × List RecorderEffect :=
  ({ recorder with store := recorder.store.clear },
    recorder.store.clips.map RecorderEffect.deleted)

end Recorder

/-! ## Runs -/

/-- The task of the recorder: the state machine and what is done with its actions. -/
structure Recording where
  fsm : Fsm
  recorder : Recorder

inductive RecordingMove where
  | call (call : FsmCall) (disk : Disk)
  | delete (id : ℕ)
  | clear

namespace Recording

def new (config : PlaybackConfig) (mode : RecordingMode) (asKhz : Frequency → String) :
    Recording where
  fsm := Fsm.new config mode
  recorder := { store := { asKhz := asKhz, maxClips := config.maxClips } }

def step (recording : Recording) : RecordingMove → Recording × List RecorderEffect
  | .call call disk =>
      let called := recording.fsm.call call
      let applied := recording.recorder.applyActions disk called.2
      (⟨called.1, applied.1⟩, applied.2)
  | .delete id =>
      let deleted := recording.recorder.delete id
      ({ recording with recorder := deleted.1 }, deleted.2)
  | .clear =>
      let cleared := recording.recorder.clear
      ({ recording with recorder := cleared.1 }, cleared.2)

/-- The recording after moves, and the effects of all of them. -/
def run (recording : Recording) : List RecordingMove → Recording × List RecorderEffect
  | [] => (recording, [])
  | move :: moves =>
      let first := recording.step move
      let rest := first.1.run moves
      (rest.1, first.2 ++ rest.2)

/-- The end of the task. -/
def shutdown (recording : Recording) (order : Enumeration ℕ) (disk : Disk) :
    Recording × List RecorderEffect :=
  let drained := recording.recorder.drain disk order
  ({ recording with recorder := drained.1 }, drained.2)

end Recording

end Playback

end Vacs
