import Vacs.Audio.Mixer
import Vacs.Audio.WaveformSource
import Vacs.Foundations.Chunking
import Vacs.Foundations.GuardedRuns

/-!
# Sound cut into frames, and frames played as sound

Captured samples are collected into frames of 20 ms, which are filtered and encoded one after
the other. They arrive in pieces of any size: the device callback, the resampler and a stash
of 1024 samples all cut the stream in places of their own. The frames are nevertheless the
consecutive blocks of the stream of scaled samples, and the volume changes since the last round
of the task decide how much the samples of a round are scaled (`capture_frames`).

In the other direction a task decodes the frames of a call, resamples them in chunks of a
fixed size and fills a ring of 200 ms from which the device callback plays. Less than one
chunk ever waits for the resampler, and what is heard is what was produced, in order, except
for the tails that did not fit into the ring (`opus_playback`).

The codecs, the filters and the resampler are parameters.
-/

set_option autoImplicit false

namespace Vacs

namespace Audio

def frameDurationMs : ℕ := 20

def frameSize : ℕ := targetSampleRate * frameDurationMs / 1000

/-! ## Capture -/

/-- What the capture task uses of other libraries. -/
structure CaptureParts (Resampler Processor Encoder Bytes : Type) where
  inputFramesNext : Resampler → ℕ
  processIntoBuffer : Resampler → List ℚ → Resampler × Option (List ℚ)
  processFrame : Processor → List ℚ → Processor × List ℚ
  encodeFloat : Encoder → List ℚ → Encoder × Option Bytes

variable {Resampler Processor Encoder Bytes : Type}

/-- The samples of a frame that is not yet full. What an earlier frame left behind them in
the buffer is overwritten before it is read. -/
structure OpusFramer (Processor Encoder Bytes : Type) where
  frame : List ℚ
  inFrame : frame.length < frameSize
  processor : Processor
  encoder : Encoder
  /-- The frames that were encoded. -/
  encoded : List Bytes

namespace OpusFramer

theorem frameSize_pos : 0 < frameSize := by decide

def new (processor : Processor) (encoder : Encoder) : OpusFramer Processor Encoder Bytes where
  frame := []
  inFrame := frameSize_pos
  processor := processor
  encoder := encoder
  encoded := []

/-- Filter and encode a full frame, and begin the next one. -/
def finishFrame (parts : CaptureParts Resampler Processor Encoder Bytes)
    (self : OpusFramer Processor Encoder Bytes) (frame : List ℚ) :
    OpusFramer Processor Encoder Bytes :=
  let processed := parts.processFrame self.processor frame
  let result := parts.encodeFloat self.encoder processed.2
  { frame := []
    inFrame := frameSize_pos
    processor := processed.1
    encoder := result.1
    encoded := self.encoded ++ result.2.toList }

/-- Fill the frame with scaled samples, and go on with the next one whenever it is full. -/
def pushSlice (parts : CaptureParts Resampler Processor Encoder Bytes)
    (self : OpusFramer Processor Encoder Bytes) (samples : List ℚ) (gain : ℚ) :
    OpusFramer Processor Encoder Bytes :=
  if samples = [] then
    self
  else if room : self.frame.length + samples.length < frameSize then
    { self with
      frame := self.frame ++ samples.map (· * gain)
      inFrame := by rw [List.length_append, List.length_map]; exact room }
  else
    let need := frameSize - self.frame.length
    (self.finishFrame parts (self.frame ++ (samples.take need).map (· * gain))).pushSlice parts
      (samples.drop need) gain
termination_by samples.length
decreasing_by
  have filled := self.inFrame
  rw [List.length_drop]
  omega

end OpusFramer

def inputVolumeOpsCapacity : ℕ := 16

def inputVolumeOpsPerDataCallback : ℕ := 16

def stashSize : ℕ := 1024

/-- A capture stream with its processing task; the ring between the device callback and the
task holds `capacity` samples. -/
structure CaptureStream (capacity : ℕ) (Resampler Processor Encoder Bytes : Type) where
  muted : Bool
  input : BoundedQueue capacity ℚ
  volumeOps : BoundedQueue inputVolumeOpsCapacity ℚ
  volume : ℚ
  amp : ℚ
  resampler : Option Resampler
  resamplerInBuf : List ℚ
  /-- The gain of a round that still waits for the samples that the resampler needs. -/
  gain : Option ℚ
  opusFramer : OpusFramer Processor Encoder Bytes
  /-- The samples that found room in the ring, the ones that the task took from it each time,
  and the ones that it pushed to the framer, scaled. -/
  accepted : List ℚ
  rounds : List (List ℚ)
  scaled : List ℚ

namespace CaptureStream

variable {capacity : ℕ}

def start (resampler : Option Resampler) (processor : Processor) (encoder : Encoder)
    (volume amp : ℚ) (muted : Bool) :
    CaptureStream capacity Resampler Processor Encoder Bytes where
  muted := muted
  input := .empty
  volumeOps := .empty
  volume := volume
  amp := amp
  resampler := resampler
  resamplerInBuf := []
  gain := none
  opusFramer := .new processor encoder
  accepted := []
  rounds := []
  scaled := []

/-- A muted stream hears silence. -/
def captured (self : CaptureStream capacity Resampler Processor Encoder Bytes) (sample : ℚ) : ℚ :=
  if self.muted then 0 else sample

def pushSample (self : CaptureStream capacity Resampler Processor Encoder Bytes) (sample : ℚ) :
    CaptureStream capacity Resampler Processor Encoder Bytes :=
  match self.input.tryPush (self.captured sample) with
  | some input => { self with input := input, accepted := self.accepted ++ [self.captured sample] }
  | none => self

/-- The device callback, for samples that are already mono. A sample that does not fit into
the ring is dropped. -/
def inputCallback (self : CaptureStream capacity Resampler Processor Encoder Bytes)
    (mono : List ℚ) : CaptureStream capacity Resampler Processor Encoder Bytes :=
  mono.foldl pushSample self

def setMuted (self : CaptureStream capacity Resampler Processor Encoder Bytes) (muted : Bool) :
    CaptureStream capacity Resampler Processor Encoder Bytes :=
  { self with muted := muted }

def setVolume (self : CaptureStream capacity Resampler Processor Encoder Bytes) (volume : ℚ) :
    CaptureStream capacity Resampler Processor Encoder Bytes :=
  { self with volumeOps := (self.volumeOps.tryPush volume).getD self.volumeOps }

/-- Apply the queued volume changes. -/
def applyVolumeOps : ℕ → CaptureStream capacity Resampler Processor Encoder Bytes →
    CaptureStream capacity Resampler Processor Encoder Bytes
  | 0, self => self
  | limit + 1, self =>
      match self.volumeOps.tryPop with
      | some (volume, volumeOps) =>
          applyVolumeOps limit { self with volume := min volume 1, volumeOps := volumeOps }
      | none => self

def pushScaled (parts : CaptureParts Resampler Processor Encoder Bytes)
    (self : CaptureStream capacity Resampler Processor Encoder Bytes) (samples : List ℚ)
    (gain : ℚ) : CaptureStream capacity Resampler Processor Encoder Bytes :=
  { self with
    opusFramer := self.opusFramer.pushSlice parts samples gain
    scaled := self.scaled ++ samples.map (· * gain) }

/-- Push what was popped from the ring, a stash at a time. -/
def pushStashes (parts : CaptureParts Resampler Processor Encoder Bytes)
    (self : CaptureStream capacity Resampler Processor Encoder Bytes) (samples : List ℚ)
    (gain : ℚ) : CaptureStream capacity Resampler Processor Encoder Bytes :=
  if samples.length ≤ stashSize then
    if samples = [] then self else self.pushScaled parts samples gain
  else
    (self.pushScaled parts (samples.take stashSize) gain).pushStashes parts
      (samples.drop stashSize) gain
termination_by samples.length
decreasing_by
  have positive : 0 < stashSize := by decide
  rw [List.length_drop]
  omega

/-- Take up to `wanted` samples from the ring. -/
def takeInput (self : CaptureStream capacity Resampler Processor Encoder Bytes) (wanted : ℕ) :
    CaptureStream capacity Resampler Processor Encoder Bytes :=
  { self with
    input := (self.input.popIter wanted).2
    rounds := self.rounds ++ [(self.input.popIter wanted).1] }

/-- Resample what is waiting once it is enough; until then the round goes on with its gain. A
failed resampling keeps it for the next round. -/
def resampleInput (parts : CaptureParts Resampler Processor Encoder Bytes)
    (self : CaptureStream capacity Resampler Processor Encoder Bytes) (resampler : Resampler)
    (buffered : List ℚ) (gain : ℚ) : CaptureStream capacity Resampler Processor Encoder Bytes :=
  if buffered.length < parts.inputFramesNext resampler then
    { self with resamplerInBuf := buffered, gain := some gain }
  else
    match parts.processIntoBuffer resampler buffered with
    | (resampler, some resampled) =>
        { self with resampler := some resampler, resamplerInBuf := [], gain := none }.pushScaled
          parts resampled gain
    | (resampler, none) =>
        { self with resampler := some resampler, resamplerInBuf := buffered, gain := none }

def processInput (parts : CaptureParts Resampler Processor Encoder Bytes)
    (self : CaptureStream capacity Resampler Processor Encoder Bytes) (gain : ℚ) :
    CaptureStream capacity Resampler Processor Encoder Bytes :=
  match self.resampler with
  | some resampler =>
      let wanted := parts.inputFramesNext resampler - self.resamplerInBuf.length
      (self.takeInput wanted).resampleInput parts resampler
        (self.resamplerInBuf ++ (self.input.popIter wanted).1) gain
  | none =>
      let wanted := self.input.items.length
      (self.takeInput wanted).pushStashes parts (self.input.popIter wanted).1 gain

/-- A round of the processing task, as far as it gets with the samples that are there. Volume
changes apply from the beginning of a round. -/
def processRound (parts : CaptureParts Resampler Processor Encoder Bytes)
    (self : CaptureStream capacity Resampler Processor Encoder Bytes) :
    CaptureStream capacity Resampler Processor Encoder Bytes :=
  match self.gain with
  | some gain => self.processInput parts gain
  | none =>
      let begun := self.applyVolumeOps inputVolumeOpsPerDataCallback
      begun.processInput parts (begun.amp * begun.volume)

inductive Move where
  | inputCallback (mono : List ℚ)
  | setMuted (muted : Bool)
  | setVolume (volume : ℚ)
  | processRound

def step (parts : CaptureParts Resampler Processor Encoder Bytes)
    (self : CaptureStream capacity Resampler Processor Encoder Bytes) :
    Move → CaptureStream capacity Resampler Processor Encoder Bytes
  | .inputCallback mono => self.inputCallback mono
  | .setMuted muted => self.setMuted muted
  | .setVolume volume => self.setVolume volume
  | .processRound => self.processRound parts

end CaptureStream

/-! ### The frames of a stream -/

/-- Filter and encode frames one after the other. -/
def encodeFrames (parts : CaptureParts Resampler Processor Encoder Bytes) :
    Processor × Encoder → List (List ℚ) → (Processor × Encoder) × List Bytes
  | state, [] => (state, [])
  | (processor, encoder), frame :: frames =>
      let processed := parts.processFrame processor frame
      let result := parts.encodeFloat encoder processed.2
      let later := encodeFrames parts (processed.1, result.1) frames
      (later.1, result.2.toList ++ later.2)

theorem encodeFrames_append (parts : CaptureParts Resampler Processor Encoder Bytes)
    (state : Processor × Encoder) (first second : List (List ℚ)) :
    encodeFrames parts state (first ++ second) =
      ((encodeFrames parts (encodeFrames parts state first).1 second).1,
        (encodeFrames parts state first).2 ++
          (encodeFrames parts (encodeFrames parts state first).1 second).2) := by
  induction first generalizing state with
  | nil => rfl
  | cons frame frames ih =>
      rw [List.cons_append, encodeFrames, ih, encodeFrames]
      simp only [List.append_assoc]

/-- The framer has encoded the full frames of a stream and holds the rest of it. -/
structure OpusFramer.Framed (parts : CaptureParts Resampler Processor Encoder Bytes)
    (initial : Processor × Encoder) (framer : OpusFramer Processor Encoder Bytes)
    (stream : List ℚ) (frames : List (List ℚ)) : Prop where
  cut : Chunked frameSize stream frames framer.frame
  run : encodeFrames parts initial frames = ((framer.processor, framer.encoder), framer.encoded)

namespace OpusFramer

variable {parts : CaptureParts Resampler Processor Encoder Bytes}
  {initial : Processor × Encoder}

theorem Framed.pushSlice {framer : OpusFramer Processor Encoder Bytes} {stream : List ℚ}
    {frames : List (List ℚ)} (framed : framer.Framed parts initial stream frames)
    (samples : List ℚ) (gain : ℚ) :
    ∃ frames', (framer.pushSlice parts samples gain).Framed parts initial
      (stream ++ samples.map (· * gain)) frames' := by
  induction measured : samples.length using Nat.strong_induction_on
    generalizing framer stream frames samples with
  | h size ih =>
      subst measured
      rw [OpusFramer.pushSlice]
      split
      · next nothing =>
          subst nothing
          rw [List.map_nil, List.append_nil]
          exact ⟨frames, framed⟩
      · next something =>
          split
          · next room =>
              exact ⟨frames, framed.cut.more (by rw [List.length_map]; exact room), framed.run⟩
          · next noRoom =>
              have filled := framer.inFrame
              have positive := List.length_pos_iff.mpr something
              -- the first samples complete the frame
              have full : framer.frame.length +
                  ((samples.take (frameSize - framer.frame.length)).map (· * gain)).length =
                  frameSize := by
                rw [List.length_map, List.length_take]
                omega
              have cut := framed.cut.fill full
              have run : encodeFrames parts initial (frames ++ [framer.frame ++
                  (samples.take (frameSize - framer.frame.length)).map (· * gain)]) =
                  _ := encodeFrames_append parts initial frames _
              rw [framed.run] at run
              have finished : Framed parts initial (framer.finishFrame parts (framer.frame ++
                  (samples.take (frameSize - framer.frame.length)).map (· * gain)))
                  (stream ++ (samples.take (frameSize - framer.frame.length)).map (· * gain))
                  (frames ++ [framer.frame ++
                    (samples.take (frameSize - framer.frame.length)).map (· * gain)]) := by
                refine ⟨cut, run.trans ?_⟩
                simp only [encodeFrames, finishFrame, List.append_nil]
              obtain ⟨frames', later⟩ := ih _ (by rw [List.length_drop]; omega) finished
                (samples.drop (frameSize - framer.frame.length)) rfl
              rw [List.append_assoc, ← List.map_append, List.take_append_drop] at later
              exact ⟨frames', later⟩

end OpusFramer

namespace CaptureStream

variable {capacity : ℕ} {parts : CaptureParts Resampler Processor Encoder Bytes}
  {initial : Processor × Encoder}

/-- The frames that were encoded are those of the scaled samples. -/
def Framed (parts : CaptureParts Resampler Processor Encoder Bytes)
    (initial : Processor × Encoder)
    (self : CaptureStream capacity Resampler Processor Encoder Bytes) : Prop :=
  ∃ frames, self.opusFramer.Framed parts initial self.scaled frames

theorem Framed.pushScaled {self : CaptureStream capacity Resampler Processor Encoder Bytes}
    (framed : self.Framed parts initial) (samples : List ℚ) (gain : ℚ) :
    (self.pushScaled parts samples gain).Framed parts initial := by
  obtain ⟨frames, framed⟩ := framed
  exact framed.pushSlice samples gain

theorem Framed.pushStashes {self : CaptureStream capacity Resampler Processor Encoder Bytes}
    (framed : self.Framed parts initial) (samples : List ℚ) (gain : ℚ) :
    (self.pushStashes parts samples gain).Framed parts initial := by
  induction measured : samples.length using Nat.strong_induction_on
    generalizing self samples with
  | h size ih =>
      subst measured
      rw [CaptureStream.pushStashes]
      split
      · split
        · exact framed
        · exact framed.pushScaled samples gain
      · next long =>
          have positive : 0 < stashSize := by decide
          exact ih _ (by rw [List.length_drop]; omega) (framed.pushScaled _ gain) _ rfl

theorem Framed.applyVolumeOps (limit : ℕ)
    {self : CaptureStream capacity Resampler Processor Encoder Bytes}
    (framed : self.Framed parts initial) : (self.applyVolumeOps limit).Framed parts initial := by
  induction limit generalizing self with
  | zero => exact framed
  | succ limit ih =>
      rw [CaptureStream.applyVolumeOps]
      split
      · exact ih framed
      · exact framed

theorem Framed.resampleInput {self : CaptureStream capacity Resampler Processor Encoder Bytes}
    (framed : self.Framed parts initial) (resampler : Resampler) (buffered : List ℚ) (gain : ℚ) :
    (self.resampleInput parts resampler buffered gain).Framed parts initial := by
  unfold CaptureStream.resampleInput
  split
  · exact framed
  · split
    · next resampler resampled _ =>
        have emptied : { self with
            resampler := some resampler, resamplerInBuf := [], gain := none }.Framed parts
              initial := framed
        exact emptied.pushScaled resampled gain
    · exact framed

theorem Framed.processInput {self : CaptureStream capacity Resampler Processor Encoder Bytes}
    (framed : self.Framed parts initial) (gain : ℚ) :
    (self.processInput parts gain).Framed parts initial := by
  unfold CaptureStream.processInput
  split
  · refine Framed.resampleInput ?_ _ _ _
    exact framed
  · refine Framed.pushStashes ?_ _ _
    exact framed

theorem Framed.processRound {self : CaptureStream capacity Resampler Processor Encoder Bytes}
    (framed : self.Framed parts initial) : (self.processRound parts).Framed parts initial := by
  unfold CaptureStream.processRound
  split
  · exact framed.processInput _
  · exact (framed.applyVolumeOps inputVolumeOpsPerDataCallback).processInput _

theorem Framed.inputCallback {self : CaptureStream capacity Resampler Processor Encoder Bytes}
    (framed : self.Framed parts initial) (mono : List ℚ) :
    (self.inputCallback mono).Framed parts initial := by
  refine List.foldlRecOn mono pushSample framed fun state framed sample _ => ?_
  unfold pushSample
  split
  · exact framed
  · exact framed

/-! ### The samples between the callback and the task -/

/-- What the task has taken and what is still in the ring are the accepted samples. -/
def InOrder (self : CaptureStream capacity Resampler Processor Encoder Bytes) : Prop :=
  self.rounds.flatten ++ self.input.items = self.accepted

/-- Pushing what was popped changes what the framer got, and nothing else. -/
theorem pushStashes_eq (parts : CaptureParts Resampler Processor Encoder Bytes)
    (self : CaptureStream capacity Resampler Processor Encoder Bytes) (samples : List ℚ)
    (gain : ℚ) :
    ∃ framer, self.pushStashes parts samples gain =
      { self with opusFramer := framer, scaled := self.scaled ++ samples.map (· * gain) } := by
  induction measured : samples.length using Nat.strong_induction_on
    generalizing self samples with
  | h size ih =>
      subst measured
      rw [CaptureStream.pushStashes]
      split
      · split
        · next nothing =>
            rw [nothing, List.map_nil, List.append_nil]
            exact ⟨_, rfl⟩
        · exact ⟨_, rfl⟩
      · next long =>
          have positive : 0 < stashSize := by decide
          obtain ⟨framer, pushed⟩ := ih _ (by rw [List.length_drop]; omega)
            (self.pushScaled parts (samples.take stashSize) gain) (samples.drop stashSize) rfl
          refine ⟨framer, ?_⟩
          rw [pushed, pushScaled, List.append_assoc, ← List.map_append, List.take_append_drop]

theorem inputCallback_eq (self : CaptureStream capacity Resampler Processor Encoder Bytes)
    (mono : List ℚ) : ∃ input accepted,
      self.inputCallback mono = { self with input := input, accepted := accepted } := by
  refine List.foldlRecOn mono pushSample
    (motive := fun state : CaptureStream capacity Resampler Processor Encoder Bytes =>
      ∃ input accepted, state = { self with input := input, accepted := accepted })
    ⟨_, _, rfl⟩ ?_
  rintro _ ⟨input, accepted, rfl⟩ sample _
  unfold pushSample
  split
  · exact ⟨_, _, rfl⟩
  · exact ⟨_, _, rfl⟩

/-- Applying at least as many volume changes as are queued leaves the last of them. -/
theorem applyVolumeOps_enough {limit : ℕ}
    {self : CaptureStream capacity Resampler Processor Encoder Bytes}
    (enough : self.volumeOps.items.length ≤ limit) :
    self.applyVolumeOps limit =
      { self with
        volume := (self.volumeOps.items.getLast?.map (min · 1)).getD self.volume
        volumeOps := .empty } := by
  induction limit generalizing self with
  | zero =>
      have nothing : self.volumeOps = .empty :=
        BoundedQueue.ext (List.length_eq_zero_iff.mp (Nat.le_zero.mp enough))
      rw [applyVolumeOps, nothing]
      cases self
      cases nothing
      rfl
  | succ limit ih =>
      rw [applyVolumeOps]
      split
      · next volume volumeOps popped =>
          have items := BoundedQueue.tryPop_eq_some_iff.mp popped
          rw [items, List.length_cons, Nat.add_le_add_iff_right] at enough
          rw [ih enough, items]
          cases volumeOps.items with
          | nil => rfl
          | cons changed changes =>
              rw [List.getLast?_cons_cons, List.getLast?_eq_some_getLast (List.cons_ne_nil _ _)]
              rfl
      · next nothing =>
          have nothing : self.volumeOps = .empty :=
            BoundedQueue.ext (BoundedQueue.tryPop_eq_none_iff.mp nothing)
          cases self
          cases nothing
          rfl

/-- A round applies all the volume changes that are queued. -/
theorem applyVolumeOps_eq (self : CaptureStream capacity Resampler Processor Encoder Bytes) :
    self.applyVolumeOps inputVolumeOpsPerDataCallback =
      { self with
        volume := (self.volumeOps.items.getLast?.map (min · 1)).getD self.volume
        volumeOps := .empty } :=
  applyVolumeOps_enough self.volumeOps.bounded

theorem InOrder.processInput {self : CaptureStream capacity Resampler Processor Encoder Bytes}
    (inOrder : self.InOrder) (gain : ℚ) : (self.processInput parts gain).InOrder := by
  have taken : ∀ wanted, (self.takeInput wanted).InOrder := by
    intro wanted
    have split := self.input.popIter_append wanted
    calc (self.rounds ++ [(self.input.popIter wanted).1]).flatten ++
          (self.input.popIter wanted).2.items
        = self.rounds.flatten ++ self.input.items := by
          rw [List.flatten_append, List.flatten_singleton, List.append_assoc, split]
      _ = _ := inOrder
  unfold CaptureStream.processInput
  split
  · simp only [CaptureStream.resampleInput]
    split
    · exact taken _
    · split
      · exact taken _
      · exact taken _
  · obtain ⟨framer, pushed⟩ := pushStashes_eq parts (self.takeInput self.input.items.length)
      (self.input.popIter self.input.items.length).1 gain
    simp only [pushed]
    exact taken _

theorem InOrder.processRound {self : CaptureStream capacity Resampler Processor Encoder Bytes}
    (inOrder : self.InOrder) : (self.processRound parts).InOrder := by
  unfold CaptureStream.processRound
  split
  · exact inOrder.processInput _
  · refine InOrder.processInput ?_ _
    rw [applyVolumeOps_eq]
    exact inOrder

theorem InOrder.inputCallback {self : CaptureStream capacity Resampler Processor Encoder Bytes}
    (inOrder : self.InOrder) (mono : List ℚ) : (self.inputCallback mono).InOrder := by
  refine List.foldlRecOn mono pushSample inOrder fun state inOrder sample _ => ?_
  unfold pushSample
  split
  · next input pushed =>
      have items := (BoundedQueue.tryPush_eq_some_iff.mp pushed).2
      rw [InOrder, items, ← List.append_assoc, inOrder]
  · exact inOrder

/-! ### The gain of a round -/

/-- The gains of the rounds of a task without a resampler. The volume of a round is the last
change since the round before, and at most 1; of the changes, the first ones fit into their
queue. -/
def roundGains (amp : ℚ) : ℚ → List ℚ → List Move → List ℚ
  | _, _, [] => []
  | volume, queued, .setVolume changed :: moves =>
      roundGains amp volume (queued ++ [changed]) moves
  | volume, queued, .processRound :: moves =>
      let changes := queued.take inputVolumeOpsCapacity
      let volume := (changes.getLast?.map (min · 1)).getD volume
      amp * volume :: roundGains amp volume [] moves
  | volume, queued, .inputCallback _ :: moves => roundGains amp volume queued moves
  | volume, queued, .setMuted _ :: moves => roundGains amp volume queued moves

/-- The samples of every round, scaled by the gain of the round. -/
def scaleRounds (rounds : List (List ℚ)) (gains : List ℚ) : List ℚ :=
  (List.zipWith (fun samples gain => samples.map (· * gain)) rounds gains).flatten

/-- A round of a task without a resampler pushes what it takes, scaled by its gain. -/
theorem processRound_eq {self : CaptureStream capacity Resampler Processor Encoder Bytes}
    (noResampler : self.resampler = none) (begins : self.gain = none) :
    let volume := (self.volumeOps.items.getLast?.map (min · 1)).getD self.volume
    ∃ framer input, self.processRound parts =
      { self with
        volume := volume
        volumeOps := .empty
        opusFramer := framer
        input := input
        rounds := self.rounds ++ [self.input.items]
        scaled := self.scaled ++ self.input.items.map (· * (self.amp * volume)) } := by
  intro volume
  have everything : (self.input.popIter self.input.items.length).1 = self.input.items :=
    List.take_length
  obtain ⟨framer, pushed⟩ := pushStashes_eq parts
    ({ self with volume := volume, volumeOps := .empty }.takeInput self.input.items.length)
    (self.input.popIter self.input.items.length).1 (self.amp * volume)
  refine ⟨framer, (self.input.popIter self.input.items.length).2, ?_⟩
  have processed : self.processRound parts =
      ({ self with volume := volume, volumeOps := .empty }.takeInput
        self.input.items.length).pushStashes parts
          (self.input.popIter self.input.items.length).1 (self.amp * volume) := by
    unfold CaptureStream.processRound
    split
    · next isGain => cases begins.symm.trans isGain
    · simp only [applyVolumeOps_eq, CaptureStream.processInput]
      split
      · next isResampler => cases noResampler.symm.trans isResampler
      · rfl
  rw [processed, pushed]
  simp only [CaptureStream.takeInput, everything]

/-- What a task without a resampler pushes to the framer is what it takes in every round, scaled
by the gain that the round has by the moves so far. -/
theorem scaled_foldl (parts : CaptureParts Resampler Processor Encoder Bytes) (moves : List Move)
    (self : CaptureStream capacity Resampler Processor Encoder Bytes) (queued : List ℚ)
    (noResampler : self.resampler = none) (begins : self.gain = none)
    (isQueued : self.volumeOps.items = queued.take inputVolumeOpsCapacity) :
    ∃ rounds, (moves.foldl (step parts) self).rounds = self.rounds ++ rounds ∧
      rounds.length = (roundGains self.amp self.volume queued moves).length ∧
      (moves.foldl (step parts) self).scaled =
        self.scaled ++ scaleRounds rounds (roundGains self.amp self.volume queued moves) := by
  induction moves generalizing self queued with
  | nil => exact ⟨[], (List.append_nil _).symm, rfl, (List.append_nil _).symm⟩
  | cons move moves ih =>
      cases move with
      | inputCallback mono =>
          obtain ⟨input, accepted, called⟩ := self.inputCallback_eq mono
          rw [List.foldl_cons, step, called]
          exact ih _ queued noResampler begins isQueued
      | setMuted muted => exact ih _ queued noResampler begins isQueued
      | setVolume changed =>
          refine ih _ (queued ++ [changed]) noResampler begins ?_
          change ((self.volumeOps.tryPush changed).getD self.volumeOps).items = _
          cases pushed : self.volumeOps.tryPush changed with
          | some volumeOps =>
              obtain ⟨room, items⟩ := BoundedQueue.tryPush_eq_some_iff.mp pushed
              rw [isQueued, List.length_take, min_lt_iff] at room
              have short := room.resolve_left (Nat.lt_irrefl _)
              rw [Option.getD_some, items, isQueued, List.take_of_length_le short.le,
                List.take_of_length_le]
              rw [List.length_append]
              exact short
          | none =>
              have full := BoundedQueue.tryPush_eq_none_iff.mp pushed
              rw [isQueued, List.length_take] at full
              have long : inputVolumeOpsCapacity ≤ queued.length := min_eq_left_iff.mp full
              rw [Option.getD_none, isQueued, List.take_append_of_le_length long]
      | processRound =>
          obtain ⟨framer, input, processed⟩ := self.processRound_eq noResampler begins
          rw [List.foldl_cons, step, processed]
          obtain ⟨rounds, taken, long, scaled⟩ := ih
            { self with
              volume := (self.volumeOps.items.getLast?.map (min · 1)).getD self.volume
              volumeOps := .empty
              opusFramer := framer
              input := input
              rounds := self.rounds ++ [self.input.items]
              scaled := self.scaled ++ self.input.items.map (· * (self.amp *
                (self.volumeOps.items.getLast?.map (min · 1)).getD self.volume)) }
            [] noResampler begins rfl
          refine ⟨self.input.items :: rounds, ?_, ?_, ?_⟩
          · rw [taken, List.append_assoc]
            rfl
          · rw [roundGains, List.length_cons, List.length_cons, long, isQueued]
          · rw [scaled, List.append_assoc, isQueued]
            rfl

end CaptureStream

/-! ## Playback -/

/-- What the decoder task uses of other libraries. -/
structure DecoderParts (Decoder Resampler Frame : Type) where
  decodeFloat : Decoder → Frame → Decoder × Option (List ℚ)
  inputFramesNext : Resampler → ℕ
  processIntoBuffer : Resampler → List ℚ → Resampler × Option (List ℚ)

def opusRingCapacity : ℕ := frameSize * 10

/-- The playing end of a call. -/
structure OpusSource where
  cons : BoundedQueue opusRingCapacity ℚ
  outputChannels : ℕ
  oneChannel : 1 ≤ outputChannels
  volume : ℚ
  amp : ℚ

namespace OpusSource

def new (outputChannels : ℕ) (volume amp : ℚ) : OpusSource where
  cons := .empty
  outputChannels := max outputChannels 1
  oneChannel := Nat.le_max_right _ _
  volume := max 0 (min volume 1)
  amp := max amp (1 / 10)

/-- How many frames an output of so many samples has; the last one may be cut short. -/
def framesOf (self : OpusSource) (samples : ℕ) : ℕ :=
  (samples + self.outputChannels - 1) / self.outputChannels

/-- The sample of a popped frame, on every channel of that frame. -/
def played (self : OpusSource) (popped : List ℚ) (index : ℕ) : ℚ :=
  (popped[index / self.outputChannels]?).elim 0 fun sample => sample * self.amp * self.volume

def mixInto (self : OpusSource) (output : List ℚ) : OpusSource × List ℚ :=
  let popped := self.cons.popIter (self.framesOf output.length)
  ({ self with cons := popped.2 },
    output.mapIdx fun index sample => sample + self.played popped.1 index)

def setVolume (self : OpusSource) (volume : ℚ) : OpusSource :=
  { self with volume := max 0 (min volume 1) }

/-- Starting and stopping are up to the call; seeking is not supported. -/
instance : AudioSource OpusSource where
  mixInto := mixInto
  start := id
  stop := id
  setVolume := setVolume
  skip self _ := self
  rewind self _ := self

instance : LawfulAudioSource OpusSource where
  contribution self samples :=
    (List.range samples).map (self.played (self.cons.popIter (self.framesOf samples)).1)
  advanced self samples := { self with cons := (self.cons.popIter (self.framesOf samples)).2 }
  length_contribution self samples := by rw [List.length_map, List.length_range]
  mixInto_eq self output := by
    refine Prod.ext rfl (List.ext_getElem ?_ fun index inside inside' => ?_)
    · simp only [AudioSource.mixInto, mixInto, List.length_mapIdx, List.length_zipWith,
        List.length_map, List.length_range, Nat.min_self]
    · simp only [AudioSource.mixInto, mixInto, List.getElem_mapIdx, List.getElem_zipWith,
        List.getElem_map, List.getElem_range]

end OpusSource

/-- A call that is being heard: the decoder task, and the source that plays what it puts into
the ring. -/
structure OpusCall (Decoder Resampler : Type) where
  decoder : Decoder
  resampler : Option Resampler
  buf : List ℚ
  overflows : ℕ
  source : OpusSource
  /-- What was decoded, the chunks of it that the resampler was given, what was offered to the
  ring, and what was popped from it. -/
  decoded : List ℚ
  chunks : List (List ℚ)
  produced : List ℚ
  heard : List ℚ

namespace OpusCall

variable {Decoder Frame : Type}

def new (decoder : Decoder) (resampler : Option Resampler) (outputChannels : ℕ)
    (volume amp : ℚ) : OpusCall Decoder Resampler where
  decoder := decoder
  resampler := resampler
  buf := []
  overflows := 0
  source := .new outputChannels volume amp
  decoded := []
  chunks := []
  produced := []
  heard := []

/-- Offer samples to the ring. The tail that does not fit is dropped. -/
def pushSlice (self : OpusCall Decoder Resampler) (samples : List ℚ) :
    OpusCall Decoder Resampler :=
  { self with
    source := { self.source with cons := self.source.cons.pushSlice samples }
    overflows := self.overflows +
      if opusRingCapacity - self.source.cons.items.length < samples.length then 1 else 0
    produced := self.produced ++ samples }

/-- Buffer what was decoded and resample the next chunk of it, once there is one. -/
def resample (parts : DecoderParts Decoder Resampler Frame) (self : OpusCall Decoder Resampler)
    (resampler : Resampler) (samples : List ℚ) : OpusCall Decoder Resampler :=
  let need := parts.inputFramesNext resampler
  let buf := self.buf ++ samples
  if buf.length < need then
    { self with buf := buf }
  else
    let result := parts.processIntoBuffer resampler (buf.take need)
    let given := { self with
      resampler := some result.1
      buf := buf.drop need
      chunks := self.chunks ++ [buf.take need] }
    match result.2 with
    | some resampled => given.pushSlice resampled
    | none => given

/-- One received frame. A frame that cannot be decoded is skipped. -/
def receive (parts : DecoderParts Decoder Resampler Frame) (self : OpusCall Decoder Resampler)
    (frame : Frame) : OpusCall Decoder Resampler :=
  let result := parts.decodeFloat self.decoder frame
  match result.2 with
  | some samples =>
      let decoded := { self with decoder := result.1, decoded := self.decoded ++ samples }
      match self.resampler with
      | some resampler => decoded.resample parts resampler samples
      | none => decoded.pushSlice samples
  | none => { self with decoder := result.1 }

/-- One callback of the output device. -/
def mix (self : OpusCall Decoder Resampler) (output : List ℚ) : OpusCall Decoder Resampler :=
  { self with
    source := (self.source.mixInto output).1
    heard := self.heard ++
      (self.source.cons.popIter (self.source.framesOf output.length)).1 }

inductive Move (Frame : Type) where
  | receive (frame : Frame)
  | mix (output : List ℚ)
  | setVolume (volume : ℚ)

def step (parts : DecoderParts Decoder Resampler Frame) (self : OpusCall Decoder Resampler) :
    Move Frame → OpusCall Decoder Resampler
  | .receive frame => self.receive parts frame
  | .mix output => self.mix output
  | .setVolume volume => { self with source := self.source.setVolume volume }

/-- What is heard and what is in the ring is what was offered, except for dropped tails. -/
structure Heard (call : OpusCall Decoder Resampler) : Prop where
  inOrder : (call.heard ++ call.source.cons.items).Sublist call.produced
  complete : call.overflows = 0 → call.heard ++ call.source.cons.items = call.produced

theorem Heard.pushSlice {self : OpusCall Decoder Resampler} (heard : self.Heard)
    (samples : List ℚ) : (self.pushSlice samples).Heard where
  inOrder := by
    change (self.heard ++ (self.source.cons.pushSlice samples).items).Sublist
      (self.produced ++ samples)
    rw [BoundedQueue.items_pushSlice, ← List.append_assoc]
    exact heard.inOrder.append (List.take_sublist _ _)
  complete := by
    intro noOverflow
    have fits : ¬ opusRingCapacity - self.source.cons.items.length < samples.length := by
      intro overflows
      change self.overflows + (if _ then 1 else 0) = 0 at noOverflow
      rw [if_pos overflows] at noOverflow
      omega
    have earlier : self.overflows = 0 := by
      change self.overflows + (if _ then 1 else 0) = 0 at noOverflow
      omega
    change self.heard ++ (self.source.cons.pushSlice samples).items = self.produced ++ samples
    rw [BoundedQueue.items_pushSlice, List.take_of_length_le (by omega), ← List.append_assoc,
      heard.complete earlier]

theorem Heard.resample {parts : DecoderParts Decoder Resampler Frame}
    {self : OpusCall Decoder Resampler} (heard : self.Heard) (resampler : Resampler)
    (samples : List ℚ) : (self.resample parts resampler samples).Heard := by
  simp only [OpusCall.resample]
  split
  · exact ⟨heard.inOrder, heard.complete⟩
  · split
    · refine Heard.pushSlice ?_ _
      exact ⟨heard.inOrder, heard.complete⟩
    · exact ⟨heard.inOrder, heard.complete⟩

theorem Heard.receive {parts : DecoderParts Decoder Resampler Frame}
    {self : OpusCall Decoder Resampler} (heard : self.Heard) (frame : Frame) :
    (self.receive parts frame).Heard := by
  simp only [OpusCall.receive]
  split
  · split
    · refine Heard.resample ?_ _ _
      exact ⟨heard.inOrder, heard.complete⟩
    · refine Heard.pushSlice ?_ _
      exact ⟨heard.inOrder, heard.complete⟩
  · exact ⟨heard.inOrder, heard.complete⟩

theorem Heard.mix {self : OpusCall Decoder Resampler} (heard : self.Heard) (output : List ℚ) :
    (self.mix output).Heard := by
  have split := self.source.cons.popIter_append (self.source.framesOf output.length)
  have same : (self.mix output).heard ++ (self.mix output).source.cons.items =
      self.heard ++ self.source.cons.items := by
    rw [OpusCall.mix, List.append_assoc]
    exact congrArg (self.heard ++ ·) split
  exact ⟨same ▸ heard.inOrder, fun noOverflow => same.trans (heard.complete noOverflow)⟩

/-- What waits for the resampler is the rest of what was decoded. -/
def Buffered (need : ℕ) (call : OpusCall Decoder Resampler) : Prop :=
  call.resampler.isSome → Chunked need call.decoded call.chunks call.buf

theorem Buffered.receive {parts : DecoderParts Decoder Resampler Frame} {need : ℕ}
    (fixedInput : ∀ resampler, parts.inputFramesNext resampler = need)
    (atMostNeed : ∀ decoder frame, ∀ samples ∈ (parts.decodeFloat decoder frame).2,
      samples.length ≤ need)
    {self : OpusCall Decoder Resampler} (buffered : self.Buffered need) (frame : Frame) :
    (self.receive parts frame).Buffered need := by
  simp only [OpusCall.receive]
  split
  · next samples decodes =>
      have long := atMostNeed self.decoder frame samples decodes
      cases isResampler : self.resampler with
      | none =>
          intro isSome
          simp only [OpusCall.pushSlice] at isSome
          cases isSome
      | some resampler =>
          intro _
          have cut := buffered (isResampler ▸ rfl)
          simp only [OpusCall.resample, fixedInput]
          split
          · next waits =>
              rw [List.length_append] at waits
              exact cut.more waits
          · next enough =>
              rw [List.length_append] at enough
              have short := cut.short
              -- the buffer and the first of the new samples are one chunk
              have taken : (self.buf ++ samples).take need =
                  self.buf ++ samples.take (need - self.buf.length) := by
                rw [List.take_append, List.take_of_length_le (by omega)]
              have dropped : (self.buf ++ samples).drop need =
                  samples.drop (need - self.buf.length) := by
                rw [List.drop_append, List.drop_of_length_le (by omega), List.nil_append]
              have fills : self.buf.length + (samples.take (need - self.buf.length)).length =
                  need := by
                rw [List.length_take]
                omega
              have left : ([] : List ℚ).length +
                  (samples.drop (need - self.buf.length)).length < need := by
                rw [List.length_drop, List.length_nil]
                omega
              have rest := (cut.fill fills).more left
              rw [List.append_assoc, List.take_append_drop, List.nil_append, ← taken,
                ← dropped] at rest
              split
              · exact rest
              · exact rest
  · exact buffered

end OpusCall

end Audio

end Vacs
