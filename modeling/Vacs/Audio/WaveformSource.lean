import Mathlib.Algebra.GroupWithZero.Nat
import Mathlib.Algebra.Order.Ring.Unbundled.Rat
import Mathlib.Order.Lattice

/-!
# Generated tones

A waveform source plays cycles: its segments of tone one after the other, then silence. A
looped source plays cycle after cycle, any other source one cycle.

A source that is told to stop fades out first. A source that is told to restart fades out,
keeps silent for a while and plays from the start. Both are under way in the same flag,
and a second flag tells the restart from the stop.

What is mixed in does not matter here, only what each frame does to the state of the
source.
-/

set_option autoImplicit false

namespace Vacs

namespace Audio

def targetSampleRate : ℕ := 48000

structure WaveformSource where
  /-- The number of samples of each segment. -/
  segments : List ℕ
  volume : ℚ
  releaseSamples : ℕ
  envPos : ℕ
  active : Bool
  releasing : Bool
  restarting : Bool
  totalToneSamples : ℕ
  silenceSamples : ℕ
  restartSamples : ℕ
  looped : Bool
  currentSegmentIdx : ℕ
  segmentElapsed : ℕ
  /-- The position inside the cycle. -/
  cyclePos : ℕ
deriving DecidableEq

namespace WaveformSource

/-- The pause and the fade are counted in samples, as the segments are. -/
def new (segments : List ℕ) (pause : Option ℕ) (fade : ℕ) (volume : ℚ) : WaveformSource where
  segments := segments
  volume := max 0 (min volume 1)
  releaseSamples := fade
  envPos := 0
  active := false
  releasing := false
  restarting := false
  totalToneSamples := segments.sum
  silenceSamples := pause.getD 0
  restartSamples := targetSampleRate / 10
  looped := pause.isSome
  currentSegmentIdx := 0
  segmentElapsed := 0
  cyclePos := 0

/-! ## One frame -/

/-- A frame of tone: it advances the envelope and the segment, and moves on to the next
segment where there is one. -/
def playTone (source : WaveformSource) : WaveformSource :=
  let source :=
    { source with envPos := source.envPos + 1, segmentElapsed := source.segmentElapsed + 1 }
  if source.segments.getD source.currentSegmentIdx 0 ≤ source.segmentElapsed ∧
      source.currentSegmentIdx + 1 < source.segments.length then
    { source with currentSegmentIdx := source.currentSegmentIdx + 1, segmentElapsed := 0 }
  else source

def resetCycle (source : WaveformSource) : WaveformSource :=
  { source with cyclePos := 0, envPos := 0, currentSegmentIdx := 0, segmentElapsed := 0 }

/-- A cycle is the tone and the silence, or the tone and the silence of a restart. -/
def cycleLen (source : WaveformSource) : ℕ :=
  source.totalToneSamples +
    if source.restarting then source.restartSamples else source.silenceSamples

def advanceCycle (source : WaveformSource) : WaveformSource :=
  let source := { source with cyclePos := source.cyclePos + 1 }
  if source.cycleLen ≤ source.cyclePos then
    if source.restarting then { source.resetCycle with restarting := false, releasing := false }
    else if source.looped then source.resetCycle
    else { source with active := false }
  else source

/-- When the fade has come to its end, the source stops, or goes on with the silence of
the restart. -/
def completeRelease (source : WaveformSource) : WaveformSource :=
  if source.releasing ∧ source.releaseSamples ≤ source.envPos then
    if source.restarting then
      { source with
        releasing := false
        cyclePos := source.totalToneSamples
        currentSegmentIdx := source.segments.length - 1
        segmentElapsed := source.segments.getLast?.getD 0 }
    else { source with releasing := false, active := false }
  else source

/-- What every frame that is mixed in ends with. -/
def finishFrame (source : WaveformSource) : WaveformSource :=
  let source := source.advanceCycle
  if source.active then source.completeRelease else source

def mixFrame (source : WaveformSource) : WaveformSource :=
  if source.cyclePos < source.totalToneSamples then source.playTone.finishFrame
  else if source.releasing ∧ ¬ source.restarting then
    { source with active := false, releasing := false }
  else source.finishFrame

/-- The frames of a buffer. The loop is left when the source becomes inactive. -/
def mixFrames (source : WaveformSource) : ℕ → WaveformSource
  | 0 => source
  | frames + 1 => if source.active then source.mixFrame.mixFrames frames else source

/-! ## The calls -/

def mixInto (source : WaveformSource) (frames : ℕ) : WaveformSource :=
  if ¬ source.active ∨ source.volume = 0 then source else source.mixFrames frames

def start (source : WaveformSource) : WaveformSource :=
  { source with
    active := true
    releasing := false
    restarting := false
    envPos := 0
    cyclePos := 0
    currentSegmentIdx := 0
    segmentElapsed := 0 }

/-- A source that is being released already ignores the call. -/
def stop (source : WaveformSource) : WaveformSource :=
  if source.active ∧ ¬ source.releasing then { source with releasing := true, envPos := 0 }
  else source

def restart (source : WaveformSource) : WaveformSource :=
  if source.active then { source.stop with restarting := true } else source.start

inductive Call where
  | start
  | stop
  | restart
  | mixInto (frames : ℕ)

def call (source : WaveformSource) : Call → WaveformSource
  | .start => source.start
  | .stop => source.stop
  | .restart => source.restart
  | .mixInto frames => source.mixInto frames

def run (source : WaveformSource) (calls : List Call) : WaveformSource :=
  calls.foldl call source

/-- The source at the start of a cycle that it is going to play. -/
def AtCycleStart (source : WaveformSource) : Prop :=
  source.active ∧ source.cyclePos = 0

/-- However the frames are mixed from here on, the source becomes inactive in time and
starts no further cycle. -/
def HonoursStop (source : WaveformSource) : Prop :=
  ∀ mixes : List ℕ,
    (source.releaseSamples + source.totalToneSamples + source.restartSamples ≤ mixes.sum →
      (source.run (mixes.map .mixInto)).active = false) ∧
    (0 < mixes.sum → ¬ (source.run (mixes.map .mixInto)).AtCycleStart)

/-- The condition for a stop to win: the source does not play, or no restart is pending and
the fade ends before the tone runs into the next cycle. -/
def StopWins (source : WaveformSource) : Prop :=
  source.active = false ∨
    (source.restarting = false ∧
      (source.looped ∧ source.silenceSamples = 0 ∧
          source.cyclePos < source.totalToneSamples →
        source.releaseSamples = 0 ∨
          source.releaseSamples + source.cyclePos <
            source.totalToneSamples + if source.releasing then source.envPos else 0))

/-! ## What a frame can do -/

/-- The envelope after a frame: only tone advances it. -/
def envAfter (source : WaveformSource) : ℕ :=
  if source.cyclePos < source.totalToneSamples then source.envPos + 1 else source.envPos

/-- What one frame makes of an active source. -/
inductive Frame (source : WaveformSource) : WaveformSource → Prop
  | stopped (releasing : Bool) (envPos cyclePos currentSegmentIdx segmentElapsed : ℕ)
      (final : source.restarting = false)
      (reason : source.looped = false ∨ source.releasing = true ∧
        (source.totalToneSamples ≤ source.cyclePos ∨ source.releaseSamples = 0 ∨
          source.cyclePos + 1 < source.totalToneSamples + source.silenceSamples ∧
            source.releaseSamples ≤ source.envAfter))
      (inRange : source.currentSegmentIdx < source.segments.length →
        currentSegmentIdx < source.segments.length) :
      Frame source { source with
        active := false, releasing, envPos, cyclePos, currentSegmentIdx, segmentElapsed }
  | restarted (restarting : source.restarting = true)
      (isOver : source.totalToneSamples + source.restartSamples ≤ source.cyclePos + 1) :
      Frame source { source with
        releasing := false, restarting := false, envPos := 0, cyclePos := 0,
        currentSegmentIdx := 0, segmentElapsed := 0 }
  | wrapped (final : source.restarting = false) (looped : source.looped = true)
      (isOver : source.totalToneSamples + source.silenceSamples ≤ source.cyclePos + 1)
      (sounding : source.releasing = true →
        source.cyclePos < source.totalToneSamples ∧ source.releaseSamples ≠ 0) :
      Frame source { source with
        envPos := 0, cyclePos := 0, currentSegmentIdx := 0, segmentElapsed := 0 }
  | faded (restarting : source.restarting = true) (releasing : source.releasing = true)
      (currentSegmentIdx segmentElapsed : ℕ)
      (inRange : source.currentSegmentIdx < source.segments.length →
        currentSegmentIdx < source.segments.length) :
      Frame source { source with
        releasing := false, envPos := source.envAfter, cyclePos := source.totalToneSamples,
        currentSegmentIdx, segmentElapsed }
  | advanced (within : source.cyclePos + 1 < source.cycleLen)
      (sounding : source.releasing = true →
        source.envAfter < source.releaseSamples ∧
          (source.restarting = true ∨ source.cyclePos < source.totalToneSamples))
      (currentSegmentIdx segmentElapsed : ℕ)
      (inRange : source.currentSegmentIdx < source.segments.length →
        currentSegmentIdx < source.segments.length) :
      Frame source { source with
        envPos := source.envAfter, cyclePos := source.cyclePos + 1,
        currentSegmentIdx, segmentElapsed }

theorem playTone_eq (source : WaveformSource) :
    ∃ currentSegmentIdx segmentElapsed,
      source.playTone = { source with
        envPos := source.envPos + 1, currentSegmentIdx, segmentElapsed } ∧
      (source.currentSegmentIdx < source.segments.length →
        currentSegmentIdx < source.segments.length) := by
  simp only [playTone]
  split_ifs with last
  · exact ⟨_, _, rfl, fun _ => last.2⟩
  · exact ⟨_, _, rfl, id⟩

/-- The end of a frame, given the envelope and the segment after it. -/
theorem finishFrame_frame {source : WaveformSource} (active : source.active = true)
    {currentSegmentIdx segmentElapsed : ℕ}
    (inRange : source.currentSegmentIdx < source.segments.length →
      currentSegmentIdx < source.segments.length)
    (sounding : source.releasing = true →
      source.restarting = true ∨ source.cyclePos < source.totalToneSamples) :
    Frame source { source with
      envPos := source.envAfter, currentSegmentIdx, segmentElapsed }.finishFrame := by
  unfold finishFrame advanceCycle
  by_cases isOver : source.cycleLen ≤ source.cyclePos + 1
  · cases restarting : source.restarting with
    | true =>
        have turned : source.totalToneSamples + source.restartSamples ≤ source.cyclePos + 1 := by
          simpa [cycleLen, restarting] using isOver
        simpa [cycleLen, restarting, turned, active, resetCycle, completeRelease] using
          Frame.restarted restarting turned
    | false =>
        have ended : source.totalToneSamples + source.silenceSamples ≤ source.cyclePos + 1 := by
          simpa [cycleLen, restarting] using isOver
        cases looped : source.looped with
        | false =>
            simpa [cycleLen, restarting, ended, looped] using
              Frame.stopped source.releasing source.envAfter (source.cyclePos + 1)
                currentSegmentIdx segmentElapsed restarting (.inl looped) inRange
        | true =>
            -- The new cycle starts with an envelope of 0, so only an empty fade is over.
            by_cases done : source.releasing = true ∧ source.releaseSamples = 0
            · simpa [cycleLen, restarting, ended, looped, active, resetCycle, completeRelease, done]
                using Frame.stopped false 0 0 0 0 restarting (.inr ⟨done.1, .inr (.inl done.2)⟩)
                  (Nat.zero_lt_of_lt ·)
            · have goesOn : source.releasing = true →
                  source.cyclePos < source.totalToneSamples ∧ source.releaseSamples ≠ 0 :=
                fun releasing => ⟨(sounding releasing).resolve_left (by simp [restarting]),
                  fun empty => done ⟨releasing, empty⟩⟩
              simpa [cycleLen, restarting, ended, looped, active, resetCycle, completeRelease, done]
                using Frame.wrapped restarting looped ended goesOn
  · by_cases done : source.releasing = true ∧ source.releaseSamples ≤ source.envAfter
    · cases restarting : source.restarting with
      | true =>
          have within : ¬ source.totalToneSamples + source.restartSamples ≤
              source.cyclePos + 1 := by simpa [cycleLen, restarting] using isOver
          simpa [cycleLen, restarting, within, active, completeRelease, done] using
            Frame.faded restarting done.1 (source.segments.length - 1)
              (source.segments.getLast?.getD 0) (fun inside => by omega)
      | false =>
          have within : ¬ source.totalToneSamples + source.silenceSamples ≤
              source.cyclePos + 1 := by simpa [cycleLen, restarting] using isOver
          simpa [cycleLen, restarting, within, active, completeRelease, done] using
            Frame.stopped false source.envAfter (source.cyclePos + 1) currentSegmentIdx
              segmentElapsed restarting
              (.inr ⟨done.1, .inr (.inr ⟨Nat.lt_of_not_le within, done.2⟩)⟩) inRange
    · have goesOn : source.releasing = true → source.envAfter < source.releaseSamples ∧
          (source.restarting = true ∨ source.cyclePos < source.totalToneSamples) :=
        fun releasing => ⟨Nat.lt_of_not_le fun faded => done ⟨releasing, faded⟩,
          sounding releasing⟩
      have advanced := Frame.advanced (Nat.lt_of_not_le isOver) goesOn currentSegmentIdx
        segmentElapsed inRange
      unfold cycleLen at isOver
      simpa [cycleLen, isOver, active, completeRelease, done] using advanced

theorem mixFrame_frame {source : WaveformSource} (active : source.active = true) :
    Frame source source.mixFrame := by
  unfold mixFrame
  split_ifs with tone silent
  · obtain ⟨idx, elapsed, played, inRange⟩ := source.playTone_eq
    rw [played]
    have env : source.envPos + 1 = source.envAfter := by rw [envAfter, if_pos tone]
    rw [env]
    exact finishFrame_frame active inRange fun _ => .inr tone
  · exact .stopped _ _ _ _ _ (Bool.eq_false_iff.mpr silent.2)
      (.inr ⟨silent.1, .inl (Nat.le_of_not_lt tone)⟩) id
  · have env : source.envPos = source.envAfter := by rw [envAfter, if_neg tone]
    have frame : Frame source { source with envPos := source.envAfter }.finishFrame :=
      finishFrame_frame active id fun releasing => .inl (not_not.mp fun final =>
        silent ⟨releasing, final⟩)
    rwa [← env] at frame

/-! ## The invariant -/

structure Sound (source : WaveformSource) : Prop where
  total : source.totalToneSamples = source.segments.sum
  /-- There is a segment to play whenever there is tone. -/
  indexed : source.segments ≠ [] → source.currentSegmentIdx < source.segments.length
  pausing : 0 < source.restartSamples
  fading : source.active = true → source.releasing = true →
    source.envPos < source.releaseSamples ∨ source.releaseSamples = 0

theorem new_sound (segments : List ℕ) (pause : Option ℕ) (fade : ℕ) (volume : ℚ) :
    (new segments pause fade volume).Sound where
  total := rfl
  indexed := List.length_pos_iff.mpr
  pausing := Nat.succ_pos 4799
  fading := fun active => absurd active Bool.false_ne_true

theorem Frame.sound {source next : WaveformSource} (frame : Frame source next)
    (sound : source.Sound) : next.Sound := by
  have nonempty : source.segments ≠ [] → 0 < source.segments.length := List.length_pos_iff.mpr
  cases frame with
  | stopped _ _ _ _ _ _ _ inRange =>
      exact ⟨sound.total, fun some => inRange (sound.indexed some), sound.pausing,
        fun active => absurd active Bool.false_ne_true⟩
  | restarted =>
      exact ⟨sound.total, nonempty, sound.pausing,
        fun _ releasing => absurd releasing Bool.false_ne_true⟩
  | wrapped _ _ _ sounding =>
      exact ⟨sound.total, nonempty, sound.pausing,
        fun _ releasing => .inl (Nat.pos_of_ne_zero (sounding releasing).2)⟩
  | faded _ _ _ _ inRange =>
      exact ⟨sound.total, fun some => inRange (sound.indexed some), sound.pausing,
        fun _ releasing => absurd releasing Bool.false_ne_true⟩
  | advanced _ sounding _ _ inRange =>
      exact ⟨sound.total, fun some => inRange (sound.indexed some), sound.pausing,
        fun _ releasing => .inl (sounding releasing).1⟩

/-- Whenever a frame of tone is generated, the segment that it is generated from exists. -/
theorem Sound.segment_exists {source : WaveformSource} (sound : source.Sound)
    (tone : source.cyclePos < source.totalToneSamples) :
    source.currentSegmentIdx < source.segments.length := by
  apply sound.indexed
  intro empty
  rw [sound.total, empty] at tone
  exact Nat.not_lt_zero _ tone

theorem Frame.volume {source next : WaveformSource} (frame : Frame source next) :
    next.volume = source.volume := by
  cases frame <;> rfl

/-! ## Frames one after the other -/

theorem mixFrames_inactive {source : WaveformSource} (inactive : source.active = false)
    (frames : ℕ) : source.mixFrames frames = source := by
  cases frames with
  | zero => rfl
  | succ frames => simp [mixFrames, inactive]

theorem mixFrames_succ {source : WaveformSource} (active : source.active = true) (frames : ℕ) :
    source.mixFrames (frames + 1) = source.mixFrame.mixFrames frames := by
  simp [mixFrames, active]

/-- What every frame of an active source keeps is kept by all the frames of a buffer. -/
theorem mixFrames_induct {motive : WaveformSource → Prop}
    (kept : ∀ source next, source.active = true → Frame source next → motive source → motive next)
    {source : WaveformSource} (initially : motive source) (frames : ℕ) :
    motive (source.mixFrames frames) := by
  induction frames generalizing source with
  | zero => exact initially
  | succ frames ih =>
      cases active : source.active with
      | false => rwa [mixFrames_inactive active]
      | true =>
          rw [mixFrames_succ active]
          exact ih (kept source _ active (mixFrame_frame active) initially)

theorem mixFrames_volume (source : WaveformSource) (frames : ℕ) :
    (source.mixFrames frames).volume = source.volume :=
  mixFrames_induct (motive := fun later => later.volume = source.volume)
    (fun _ _ _ frame same => frame.volume.trans same) rfl frames

theorem mixFrames_add (source : WaveformSource) (first second : ℕ) :
    source.mixFrames (first + second) = (source.mixFrames first).mixFrames second := by
  induction first generalizing source with
  | zero => rw [Nat.zero_add, mixFrames]
  | succ first ih =>
      cases active : source.active with
      | false => rw [mixFrames_inactive active, mixFrames_inactive active,
          mixFrames_inactive active]
      | true => rw [Nat.succ_add, mixFrames_succ active, mixFrames_succ active, ih]

/-- Frames that are mixed into several buffers are mixed as into one. -/
theorem run_mixes {source : WaveformSource} (audible : source.volume ≠ 0) (mixes : List ℕ) :
    source.run (mixes.map .mixInto) = source.mixFrames mixes.sum := by
  induction mixes generalizing source with
  | nil => rfl
  | cons frames mixes ih =>
      have mixed : source.mixInto frames = source.mixFrames frames := by
        cases active : source.active with
        | false => simp [mixInto, active, mixFrames_inactive active]
        | true => simp [mixInto, active, audible]
      have stillAudible : (source.mixInto frames).volume ≠ 0 := by
        rwa [mixed, mixFrames_volume]
      rw [List.sum_cons, mixFrames_add, ← mixed]
      exact ih stillAudible

theorem honoursStop_iff_mixFrames {source : WaveformSource} (audible : source.volume ≠ 0) :
    source.HonoursStop ↔ ∀ frames,
      (source.releaseSamples + source.totalToneSamples + source.restartSamples ≤ frames →
        (source.mixFrames frames).active = false) ∧
      (0 < frames → ¬ (source.mixFrames frames).AtCycleStart) := by
  unfold HonoursStop
  constructor
  · intro honours frames
    have mixed := run_mixes audible [frames]
    have single := honours [frames]
    rwa [mixed, List.sum_singleton] at single
  · intro honours mixes
    rw [run_mixes audible]
    exact honours mixes.sum

theorem Sound.call {source : WaveformSource} (sound : source.Sound) (call : Call) :
    (source.call call).Sound := by
  have fresh : source.start.Sound :=
    ⟨sound.total, List.length_pos_iff.mpr, sound.pausing,
      fun _ releasing => absurd releasing Bool.false_ne_true⟩
  have released : source.stop.Sound := by
    unfold stop
    split_ifs
    · exact ⟨sound.total, sound.indexed, sound.pausing,
        fun _ _ => (Nat.eq_zero_or_pos _).symm⟩
    · exact sound
  cases call with
  | start => exact fresh
  | stop => exact released
  | restart =>
      change source.restart.Sound
      unfold restart
      split_ifs
      · exact ⟨released.total, released.indexed, released.pausing, released.fading⟩
      · exact fresh
  | mixInto frames =>
      change (source.mixInto frames).Sound
      unfold mixInto
      split_ifs
      · exact sound
      · exact mixFrames_induct (fun _ _ _ frame sound => frame.sound sound) sound frames

theorem Sound.run {source : WaveformSource} (sound : source.Sound) (calls : List Call) :
    (source.run calls).Sound := by
  induction calls generalizing source with
  | nil => exact sound
  | cons call calls ih => exact ih (sound.call call)

/-! ## A stop that wins -/

/-- A source that is fading out for good and gets there before the cycle is over. -/
structure Winding (source : WaveformSource) : Prop where
  sound : source.Sound
  releasing : source.releasing = true
  final : source.restarting = false
  clear : source.looped = true ∧ source.silenceSamples = 0 ∧
      source.cyclePos < source.totalToneSamples →
    source.releaseSamples = 0 ∨
      source.releaseSamples + source.cyclePos < source.totalToneSamples + source.envPos

theorem Winding.frame {source next : WaveformSource} (winding : source.Winding)
    (active : source.active = true) (frame : Frame source next) :
    next.active = false ∨
      next.Winding ∧ next.cyclePos = source.cyclePos + 1 ∧
        next.totalToneSamples = source.totalToneSamples ∧
        source.cyclePos < source.totalToneSamples := by
  have sound := frame.sound winding.sound
  have fading := winding.sound.fading active winding.releasing
  have final := winding.final
  have clear := winding.clear
  cases frame with
  | stopped => exact .inl rfl
  | restarted restarting => simp [final] at restarting
  | faded restarting => simp [final] at restarting
  | wrapped _ looped isOver sounding =>
      -- The fade would be over at the last frame of the tone.
      obtain ⟨tone, nonempty⟩ := sounding winding.releasing
      have inTime := clear ⟨looped, by omega, tone⟩
      omega
  | advanced within sounding =>
      obtain ⟨_, pending | tone⟩ := sounding winding.releasing
      · simp [final] at pending
      · refine .inr ⟨⟨sound, winding.releasing, final, ?_⟩, rfl, rfl, tone⟩
        rintro ⟨looped, gapless, _⟩
        have inTime := clear ⟨looped, gapless, tone⟩
        simp only [envAfter, if_pos tone]
        omega

/-- As long as the source is active the frames lie in the tone of one cycle. -/
theorem Winding.mixFrames {source : WaveformSource} (winding : source.Winding) {frames : ℕ}
    (active : (source.mixFrames frames).active = true) (positive : 0 < frames) :
    (source.mixFrames frames).cyclePos = source.cyclePos + frames ∧
      source.cyclePos + frames ≤ source.totalToneSamples := by
  induction frames generalizing source with
  | zero => exact absurd positive (Nat.lt_irrefl 0)
  | succ frames ih =>
      cases playing : source.active with
      | false => simp [mixFrames_inactive playing, playing] at active
      | true =>
          rw [mixFrames_succ playing] at active ⊢
          obtain inactive | ⟨later, advanced, total, tone⟩ :=
            winding.frame playing (mixFrame_frame playing)
          · simp [mixFrames_inactive inactive, inactive] at active
          · obtain rfl | more := Nat.eq_zero_or_pos frames
            · exact ⟨advanced, tone⟩
            · obtain ⟨position, inTone⟩ := ih later active more
              omega

theorem Winding.honoursStop {source : WaveformSource} (winding : source.Winding)
    (audible : source.volume ≠ 0) : source.HonoursStop := by
  rw [honoursStop_iff_mixFrames audible]
  intro frames
  constructor
  · intro enough
    apply Bool.eq_false_iff.mpr
    intro active
    have pausing := winding.sound.pausing
    have inTone := (winding.mixFrames active (by omega)).2
    omega
  · rintro positive ⟨active, atStart⟩
    have advanced := (winding.mixFrames active positive).1
    omega

/-! ## A stop that is lost -/

/-- Some frames from here the source starts a cycle. -/
def GoesOn (source : WaveformSource) : Prop :=
  ∃ frames, 0 < frames ∧ (source.mixFrames frames).AtCycleStart

theorem GoesOn.not_honoursStop {source : WaveformSource} (goesOn : source.GoesOn)
    (audible : source.volume ≠ 0) : ¬ source.HonoursStop := by
  obtain ⟨frames, positive, starts⟩ := goesOn
  rw [honoursStop_iff_mixFrames audible]
  exact fun honours => (honours frames).2 positive starts

theorem AtCycleStart.goesOn {source : WaveformSource} (active : source.active = true)
    (starts : source.mixFrame.AtCycleStart) : source.GoesOn := by
  refine ⟨1, Nat.one_pos, ?_⟩
  rwa [mixFrames_succ active]

theorem GoesOn.before {source : WaveformSource} (active : source.active = true)
    (goesOn : source.mixFrame.GoesOn) : source.GoesOn := by
  obtain ⟨frames, _, starts⟩ := goesOn
  refine ⟨frames + 1, Nat.succ_pos frames, ?_⟩
  rwa [mixFrames_succ active]

/-- How far the end of a restart is. A fade comes to its end once, and then the silence is
counted down. -/
def restartLeft (source : WaveformSource) : ℕ :=
  (if source.releasing then source.totalToneSamples + source.restartSamples + 1 else 0) +
    (source.totalToneSamples + source.restartSamples - source.cyclePos)

theorem Frame.restartLeft_lt {source next : WaveformSource} (frame : Frame source next)
    (sound : source.Sound) (active : source.active = true)
    (restarting : source.restarting = true) :
    next.AtCycleStart ∨
      next.active = true ∧ next.restarting = true ∧ next.restartLeft < source.restartLeft := by
  have pausing := sound.pausing
  cases frame with
  | stopped _ _ _ _ _ final => simp [final] at restarting
  | restarted => exact .inl ⟨active, rfl⟩
  | wrapped final => simp [final] at restarting
  | faded _ releasing =>
      refine .inr ⟨active, restarting, ?_⟩
      simp only [restartLeft, releasing, if_true, Bool.false_eq_true, if_false]
      omega
  | advanced within =>
      refine .inr ⟨active, restarting, ?_⟩
      simp only [cycleLen, restarting, if_true] at within
      simp only [restartLeft]
      omega

/-- A restart that is pending gets to the start of the cycle. -/
theorem goesOn_of_restarting {source : WaveformSource} (sound : source.Sound)
    (active : source.active = true) (restarting : source.restarting = true) :
    source.GoesOn := by
  induction left : source.restartLeft using Nat.strong_induction_on generalizing source with
  | _ left ih =>
      subst left
      have frame := mixFrame_frame active
      obtain starts | ⟨stillActive, stillRestarting, less⟩ :=
        frame.restartLeft_lt sound active restarting
      · exact starts.goesOn active
      · exact .before active (ih _ less (frame.sound sound) stillActive stillRestarting rfl)

/-- A fade that is not over by the end of a tone that no pause follows. -/
structure Wrapping (source : WaveformSource) : Prop where
  active : source.active = true
  final : source.restarting = false
  looped : source.looped = true
  gapless : source.silenceSamples = 0
  tone : source.cyclePos < source.totalToneSamples
  fading : source.releaseSamples ≠ 0
  late : source.totalToneSamples + source.envPos ≤ source.releaseSamples + source.cyclePos

theorem Wrapping.frame {source next : WaveformSource} (wrapping : source.Wrapping)
    (frame : Frame source next) :
    next.AtCycleStart ∨ next.Wrapping ∧
      next.totalToneSamples - next.cyclePos < source.totalToneSamples - source.cyclePos := by
  obtain ⟨active, final, looped, gapless, tone, fading, late⟩ := wrapping
  have env : source.envAfter = source.envPos + 1 := if_pos tone
  cases frame with
  | stopped _ _ _ _ _ _ reason =>
      obtain once | ⟨_, silent | empty | ⟨within, faded⟩⟩ := reason
      · simp [looped] at once
      · omega
      · exact absurd empty fading
      · omega
  | restarted restarting => simp [final] at restarting
  | faded restarting => simp [final] at restarting
  | wrapped => exact .inl ⟨active, rfl⟩
  | advanced within =>
      simp only [cycleLen, final, gapless, Bool.false_eq_true, if_false, Nat.add_zero] at within
      refine .inr ⟨⟨active, final, looped, gapless, within, fading, ?_⟩, ?_⟩
      · simp only [env]
        omega
      · simp only
        omega

theorem Wrapping.goesOn {source : WaveformSource} (wrapping : source.Wrapping) :
    source.GoesOn := by
  induction left : source.totalToneSamples - source.cyclePos using Nat.strong_induction_on
    generalizing source with
  | _ left ih =>
      subst left
      obtain starts | ⟨wrapping', less⟩ := wrapping.frame (mixFrame_frame wrapping.active)
      · exact starts.goesOn wrapping.active
      · exact .before wrapping.active (ih _ less wrapping' rfl)

/-! ## The runs in which a stop wins -/

theorem stop_of_inactive {source : WaveformSource} (inactive : source.active = false) :
    source.stop = source := by
  simp [stop, inactive]

theorem stop_of_active {source : WaveformSource} (active : source.active = true) :
    source.stop = { source with
      releasing := true, envPos := if source.releasing then source.envPos else 0 } := by
  cases releasing : source.releasing with
  | false => simp [stop, active, releasing]
  | true => simp [stop, ← releasing]

theorem stop_volume (source : WaveformSource) : source.stop.volume = source.volume := by
  unfold stop
  split_ifs <;> rfl

theorem run_volume (source : WaveformSource) (calls : List Call) :
    (source.run calls).volume = source.volume := by
  have called (source : WaveformSource) (call : Call) :
      (source.call call).volume = source.volume := by
    cases call with
    | start => rfl
    | stop => exact stop_volume source
    | restart =>
        change source.restart.volume = source.volume
        unfold restart
        split_ifs
        · exact stop_volume source
        · rfl
    | mixInto frames =>
        change (source.mixInto frames).volume = source.volume
        unfold mixInto
        split_ifs
        · rfl
        · exact mixFrames_volume source frames
  induction calls generalizing source with
  | nil => rfl
  | cons call calls ih => exact (ih (source.call call)).trans (called source call)

theorem stop_honoursStop_iff {source : WaveformSource} (sound : source.Sound)
    (audible : source.volume ≠ 0) : source.stop.HonoursStop ↔ source.StopWins := by
  cases active : source.active with
  | false =>
      rw [stop_of_inactive active]
      refine iff_of_true ((honoursStop_iff_mixFrames audible).mpr fun frames => ?_) (.inl active)
      rw [mixFrames_inactive active]
      exact ⟨fun _ => active, fun _ starts => Bool.false_ne_true (active.symm.trans starts.1)⟩
  | true =>
      have released : source.stop.Sound := sound.call .stop
      have eq := stop_of_active active
      rw [eq] at released ⊢
      constructor
      · intro honours
        have final : source.restarting = false := Bool.eq_false_iff.mpr fun restarting =>
          (goesOn_of_restarting released active restarting).not_honoursStop audible honours
        refine .inr ⟨final, ?_⟩
        rintro ⟨looped, gapless, tone⟩
        by_contra late
        obtain ⟨fading, late⟩ := not_or.mp late
        have wrapping : Wrapping { source with
            releasing := true, envPos := if source.releasing then source.envPos else 0 } :=
          ⟨active, final, looped, gapless, tone, fading, Nat.le_of_not_lt late⟩
        exact wrapping.goesOn.not_honoursStop audible honours
      · rintro (inactive | ⟨final, clear⟩)
        · simp [active] at inactive
        · exact Winding.honoursStop ⟨released, rfl, final, clear⟩ audible

/-- Exactly those stops are not lost that find no restart pending and whose fade does not run
into the next cycle. -/
theorem stop_honoured_iff (segments : List ℕ) (pause : Option ℕ) (fade : ℕ) (volume : ℚ)
    (audible : 0 < volume) (calls : List Call) :
    ((new segments pause fade volume).run (calls ++ [.stop])).HonoursStop ↔
      ((new segments pause fade volume).run calls).StopWins := by
  have sound := (new_sound segments pause fade volume).run calls
  have loud : ((new segments pause fade volume).run calls).volume ≠ 0 := by
    rw [run_volume]
    exact ne_of_gt (lt_max_of_lt_right (lt_min audible (by decide +kernel)))
  rw [run, List.foldl_append]
  exact stop_honoursStop_iff sound loud

theorem stop_honoured_iff_fading :
    ((new [4, 3] none 2 1).run ([.start, .mixInto 3] ++ [.stop])).HonoursStop :=
  (stop_honoured_iff [4, 3] none 2 1 (by decide +kernel) [.start, .mixInto 3]).mpr
    (by unfold StopWins; decide +kernel)

/-- A stop that comes while the source fades out for a restart is lost: the tone is played
once more. -/
theorem stop_lost_in_restart :
    ¬ ∀ (segments : List ℕ) (pause : Option ℕ) (fade : ℕ) (volume : ℚ), 0 < volume →
      ∀ calls : List Call,
        ((new segments pause fade volume).run (calls ++ [.stop])).HonoursStop := by
  intro always
  have restarting := (new_sound [4, 3] none 2 1).run [.start, .mixInto 3, .restart]
  have wins := (stop_honoursStop_iff restarting (by decide +kernel)).mp
    (always [4, 3] none 2 1 (by decide +kernel) [.start, .mixInto 3, .restart])
  have lost : ¬ ((new [4, 3] none 2 1).run [.start, .mixInto 3, .restart]).StopWins := by
    unfold StopWins
    decide +kernel
  exact lost wins

end WaveformSource

end Audio

end Vacs
