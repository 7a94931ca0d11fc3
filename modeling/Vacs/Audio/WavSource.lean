import Mathlib.Algebra.Order.Ring.Unbundled.Rat
import Mathlib.Order.Lattice

/-!
# Clips that are played back

A source plays a decoded clip, once or in a loop with a pause after each pass. It is
stopped and restarted with a short release at the end of which it becomes inactive, or
starts from the front. Skipping and rewinding move its position at any time.

The audio callback indexes and subtracts unchecked. What would panic there has no result
here.
-/

set_option autoImplicit false

namespace Vacs

namespace Audio

/-- A subtraction that panics when it underflows. -/
def checkedSub (a b : ℕ) : Option ℕ :=
  if b ≤ a then some (a - b) else none

theorem checkedSub_eq {a b : ℕ} (le : b ≤ a) : checkedSub a b = some (a - b) :=
  if_pos le

structure WavSource where
  samples : List ℚ
  volume : ℚ
  active : Bool
  pos : ℕ
  releaseFrames : ℕ
  releasing : Bool
  releaseTotal : ℕ
  releaseRemaining : ℕ
  restartAfterRelease : Bool
  loopPauseFrames : Option ℕ
  loopEdgeFrames : ℕ
  pauseRemaining : ℕ
deriving DecidableEq

namespace WavSource

/-- `release` is the number of frames that the release takes at the sample rate. -/
def fromClip (samples : List ℚ) (release : ℕ) (volume : ℚ) : WavSource where
  samples := samples
  volume := max 0 (min volume 1)
  active := false
  pos := 0
  releaseFrames := max release 1
  releasing := false
  releaseTotal := 0
  releaseRemaining := 0
  restartAfterRelease := false
  loopPauseFrames := none
  loopEdgeFrames := 0
  pauseRemaining := 0

/-- `pause` and `edge` are counted in frames. -/
def looped (source : WavSource) (pause edge : ℕ) : WavSource :=
  { source with
    loopPauseFrames := some pause
    loopEdgeFrames := min edge (source.samples.length / 2) }

def isPlaying (source : WavSource) : Bool :=
  source.active && decide (source.pos < source.samples.length)

def beginRelease (source : WavSource) (restart : Bool) : Option WavSource :=
  let source := { source with restartAfterRelease := restart }
  if source.releasing then some source
  else
    (checkedSub source.samples.length source.pos).map fun left =>
      let total := max (min source.releaseFrames left) 1
      { source with releasing := true, releaseTotal := total, releaseRemaining := total }

def cancelRelease (source : WavSource) : WavSource :=
  { source with releasing := false, releaseRemaining := 0, restartAfterRelease := false }

/-! ## One frame -/

/-- A frame of a pause. The clip starts over when the pause ends. -/
def pauseFrame (source : WavSource) : WavSource :=
  let source := { source with pauseRemaining := source.pauseRemaining - 1 }
  if source.pauseRemaining = 0 then { source with pos := 0 } else source

/-- The fade at both ends of each pass of a loop. -/
def edgeGain (source : WavSource) : Option ℚ :=
  if 0 < source.loopEdgeFrames then
    (checkedSub source.samples.length source.pos).map fun left =>
      let distance := min (source.pos + 1) left
      if distance < source.loopEdgeFrames then distance / source.loopEdgeFrames else 1
  else some 1

/-- The gain of the release, and the source with one frame less of it to go. -/
def releaseGain (source : WavSource) : Option (WavSource × ℚ) :=
  if source.releasing then
    (checkedSub source.releaseRemaining 1).map fun remaining =>
      ({ source with releaseRemaining := remaining },
        source.releaseRemaining / source.releaseTotal)
  else some (source, 1)

/-- What follows a frame that was sounded: the end of the release, or the end of the clip. -/
def settle (source : WavSource) : WavSource :=
  if source.releasing ∧ source.releaseRemaining = 0 then
    if source.restartAfterRelease then { source.cancelRelease with pos := 0 }
    else { source.cancelRelease with active := false }
  else if source.samples.length ≤ source.pos then
    match source.loopPauseFrames with
    | some 0 => { source with pos := 0 }
    | some frames => { source with pauseRemaining := frames }
    | none => { source with active := false }
  else source

/-- The source after a frame, and what it mixes in. -/
def mixFrame (source : WavSource) : Option (WavSource × Option ℚ) :=
  if 0 < source.pauseRemaining then some (source.pauseFrame, none)
  else do
    let sample ← source.samples[source.pos]?
    let edge ← source.edgeGain
    let (source, release) ← source.releaseGain
    some ({ source with pos := source.pos + 1 }.settle,
      some (sample * source.volume * edge * release))

/-- The frames of a buffer, with what is sounded. The loop is left when the source becomes
inactive. -/
def mixFrames (source : WavSource) : ℕ → Option (WavSource × List ℚ)
  | 0 => some (source, [])
  | frames + 1 =>
      if source.active then do
        let (source, sounded) ← source.mixFrame
        let (source, later) ← source.mixFrames frames
        some (source, sounded.toList ++ later)
      else some (source, [])

/-! ## The calls -/

def mixInto (source : WavSource) (frames : ℕ) : Option (WavSource × List ℚ) :=
  if ¬ source.active ∨ source.volume = 0 then some (source, [])
  else if source.samples.length ≤ source.pos ∧ source.pauseRemaining = 0 then
    some ({ source with active := false }, [])
  else source.mixFrames frames

def start (source : WavSource) : WavSource :=
  { source.cancelRelease with active := true }

def stop (source : WavSource) : Option WavSource :=
  if source.isPlaying then source.beginRelease false
  else some { source with pauseRemaining := 0, active := false }

def restart (source : WavSource) : Option WavSource :=
  if source.isPlaying then source.beginRelease true
  else some { source.cancelRelease with pauseRemaining := 0, pos := 0, active := true }

def setVolume (source : WavSource) (volume : ℚ) : WavSource :=
  { source with volume := max 0 (min volume 1) }

def skip (source : WavSource) (frames : ℕ) : WavSource :=
  { source with pos := min (source.pos + frames) (source.samples.length - 1) }

def rewind (source : WavSource) (frames : ℕ) : WavSource :=
  { source with pos := source.pos - min frames source.pos }

inductive Call where
  | start
  | stop
  | restart
  | skip (frames : ℕ)
  | rewind (frames : ℕ)
  | setVolume (volume : ℚ)
  | mixInto (frames : ℕ)
deriving DecidableEq

/-- The source after a call, and what the call sounds. -/
def call (source : WavSource) : Call → Option (WavSource × List ℚ)
  | .start => some (source.start, [])
  | .stop => source.stop.map (·, [])
  | .restart => source.restart.map (·, [])
  | .skip frames => some (source.skip frames, [])
  | .rewind frames => some (source.rewind frames, [])
  | .setVolume volume => some (source.setVolume volume, [])
  | .mixInto frames => source.mixInto frames

def run (source : WavSource) : List Call → Option (WavSource × List ℚ)
  | [] => some (source, [])
  | call :: calls => do
      let (source, sounded) ← source.call call
      let (source, later) ← source.run calls
      some (source, sounded ++ later)

/-- A source as it is constructed. -/
inductive Built : WavSource → Prop
  | fromClip (samples : List ℚ) (release : ℕ) (volume : ℚ) : Built (fromClip samples release volume)
  | looped {source : WavSource} (built : Built source) (pause edge : ℕ) :
      Built (source.looped pause edge)

/-! ## What a frame can do -/

/-- The positions and the release lie in their ranges. -/
structure Safe (source : WavSource) : Prop where
  pos_le : source.pos ≤ source.samples.length
  pausing : 0 < source.pauseRemaining → 0 < source.samples.length
  releasePos : 0 < source.releaseFrames
  fading : source.releasing = true →
    0 < source.releaseRemaining ∧ source.releaseRemaining ≤ source.releaseFrames

/-- There is a frame to mix: a sample, or a part of a pause. -/
def Ready (source : WavSource) : Prop :=
  source.pos < source.samples.length ∨ 0 < source.pauseRemaining

/-- What is left of the release after a frame that is sounded. -/
def remainingAfter (source : WavSource) : ℕ :=
  if source.releasing then source.releaseRemaining - 1 else source.releaseRemaining

/-- What one frame makes of a source, and what it sounds. -/
inductive Frame (source : WavSource) : WavSource → Option ℚ → Prop
  | paused (pausing : 0 < source.pauseRemaining) :
      Frame source source.pauseFrame none
  | released (sample : ℚ) (releasing : source.releasing = true)
      (final : source.restartAfterRelease = false)
      (inside : source.pos < source.samples.length) :
      Frame source { source.cancelRelease with active := false, pos := source.pos + 1 }
        (some sample)
  | restarted (sample : ℚ) (releasing : source.releasing = true)
      (restart : source.restartAfterRelease = true)
      (inside : source.pos < source.samples.length) :
      Frame source { source.cancelRelease with pos := 0 } (some sample)
  | wrapped (sample : ℚ) (sounding : source.releasing = true → 0 < source.remainingAfter)
      (inside : source.pos < source.samples.length) (silent : source.pauseRemaining = 0)
      (gapless : source.loopPauseFrames = some 0) :
      Frame source { source with pos := 0, releaseRemaining := source.remainingAfter }
        (some sample)
  | passed (sample : ℚ) (sounding : source.releasing = true → 0 < source.remainingAfter)
      (inside : source.pos < source.samples.length) (pause : ℕ) (positive : 0 < pause) :
      Frame source
        { source with
          pos := source.pos + 1
          releaseRemaining := source.remainingAfter
          pauseRemaining := pause }
        (some sample)
  | ended (sample : ℚ) (sounding : source.releasing = true → 0 < source.remainingAfter)
      (inside : source.pos < source.samples.length) (once : source.loopPauseFrames = none) :
      Frame source
        { source with
          active := false
          pos := source.pos + 1
          releaseRemaining := source.remainingAfter }
        (some sample)
  | advanced (sample : ℚ) (sounding : source.releasing = true → 0 < source.remainingAfter)
      (inside : source.pos + 1 < source.samples.length) :
      Frame source
        { source with pos := source.pos + 1, releaseRemaining := source.remainingAfter }
        (some sample)

theorem edgeGain_isSome {source : WavSource} (inside : source.pos < source.samples.length) :
    ∃ gain, source.edgeGain = some gain := by
  unfold edgeGain
  split_ifs
  · exact ⟨_, by rw [checkedSub_eq (Nat.le_of_lt inside)]; rfl⟩
  · exact ⟨_, rfl⟩

theorem releaseGain_isSome {source : WavSource}
    (fading : source.releasing = true → 0 < source.releaseRemaining) :
    ∃ gain, source.releaseGain =
      some ({ source with releaseRemaining := source.remainingAfter }, gain) := by
  unfold releaseGain remainingAfter
  split_ifs with releasing
  · exact ⟨_, by rw [checkedSub_eq (fading releasing)]; rfl⟩
  · exact ⟨_, rfl⟩

/-- Outside a pause the sample at the position is sounded. -/
theorem mixFrame_sounding {source : WavSource} (silent : ¬ 0 < source.pauseRemaining)
    (inside : source.pos < source.samples.length)
    (fading : source.releasing = true → 0 < source.releaseRemaining) :
    ∃ sample, source.mixFrame =
      some ({ source with
        pos := source.pos + 1, releaseRemaining := source.remainingAfter }.settle,
        some sample) := by
  obtain ⟨edge, edgeEq⟩ := edgeGain_isSome inside
  obtain ⟨gain, gainEq⟩ := releaseGain_isSome fading
  refine ⟨source.samples[source.pos] * source.volume * edge * gain, ?_⟩
  rw [mixFrame, if_neg silent, List.getElem?_eq_getElem inside, edgeEq, gainEq]
  rfl

theorem settle_frame {source : WavSource} (sample : ℚ) (silent : ¬ 0 < source.pauseRemaining)
    (inside : source.pos < source.samples.length) :
    Frame source
      { source with pos := source.pos + 1, releaseRemaining := source.remainingAfter }.settle
      (some sample) := by
  unfold settle
  split_ifs with isOver restart last
  · exact .restarted sample isOver.1 restart inside
  · exact .released sample isOver.1 (Bool.eq_false_iff.mpr restart) inside
  · have sounding : source.releasing = true → 0 < source.remainingAfter :=
      fun releasing => Nat.pos_of_ne_zero fun none => isOver ⟨releasing, none⟩
    split
    · exact .wrapped sample sounding inside (Nat.eq_zero_of_not_pos silent) ‹_›
    · exact .passed sample sounding inside _ (Nat.pos_of_ne_zero fun zero => by simp_all)
    · exact .ended sample sounding inside ‹_›
  · exact .advanced sample
      (fun releasing => Nat.pos_of_ne_zero fun none => isOver ⟨releasing, none⟩)
      (Nat.lt_of_not_le last)

/-- No frame panics, and this is what it does. -/
theorem mixFrame_frame {source : WavSource} (safe : source.Safe) (ready : source.Ready) :
    ∃ next sounded, source.mixFrame = some (next, sounded) ∧ Frame source next sounded := by
  by_cases pausing : 0 < source.pauseRemaining
  · exact ⟨_, none, if_pos pausing, .paused pausing⟩
  · have inside := ready.resolve_right pausing
    obtain ⟨sample, mixed⟩ :=
      mixFrame_sounding pausing inside fun releasing => (safe.fading releasing).1
    exact ⟨_, _, mixed, settle_frame sample pausing inside⟩

theorem Frame.safe {source next : WavSource} {sounded : Option ℚ}
    (frame : Frame source next sounded) (safe : source.Safe) : next.Safe := by
  obtain ⟨pos_le, pausing, releasePos, fading⟩ := safe
  have within : source.remainingAfter ≤ source.releaseRemaining := by
    unfold remainingAfter
    split_ifs <;> omega
  cases frame with
  | paused positive =>
      simp only [pauseFrame]
      split_ifs
      · exact ⟨Nat.zero_le _, fun _ => pausing positive, releasePos, fading⟩
      · exact ⟨pos_le, fun _ => pausing positive, releasePos, fading⟩
  | released _ _ _ inside =>
      exact ⟨inside, pausing, releasePos, fun releasing => absurd releasing Bool.false_ne_true⟩
  | restarted =>
      exact ⟨Nat.zero_le _, pausing, releasePos,
        fun releasing => absurd releasing Bool.false_ne_true⟩
  | wrapped _ sounding =>
      exact ⟨Nat.zero_le _, pausing, releasePos,
        fun releasing => ⟨sounding releasing, within.trans (fading releasing).2⟩⟩
  | passed _ sounding inside =>
      exact ⟨inside, fun _ => Nat.zero_lt_of_lt inside, releasePos,
        fun releasing => ⟨sounding releasing, within.trans (fading releasing).2⟩⟩
  | ended _ sounding inside =>
      exact ⟨inside, pausing, releasePos,
        fun releasing => ⟨sounding releasing, within.trans (fading releasing).2⟩⟩
  | advanced _ sounding inside =>
      exact ⟨Nat.le_of_lt inside, pausing, releasePos,
        fun releasing => ⟨sounding releasing, within.trans (fading releasing).2⟩⟩

theorem Frame.ready {source next : WavSource} {sounded : Option ℚ}
    (frame : Frame source next sounded) (safe : source.Safe) (active : next.active = true) :
    next.Ready := by
  cases frame with
  | paused pausing =>
      simp only [pauseFrame]
      split_ifs with isOver
      · exact .inl (safe.pausing pausing)
      · exact .inr (Nat.pos_of_ne_zero isOver)
  | released => exact absurd active Bool.false_ne_true
  | restarted _ _ _ inside => exact .inl (Nat.zero_lt_of_lt inside)
  | wrapped _ _ inside => exact .inl (Nat.zero_lt_of_lt inside)
  | passed _ _ _ _ positive => exact .inr positive
  | ended => exact absurd active Bool.false_ne_true
  | advanced _ _ inside => exact .inl inside

/-- What mixing some frames makes of a source, frame by frame. -/
inductive Mixed : WavSource → WavSource → List ℚ → Prop
  | done (source : WavSource) : Mixed source source []
  | exhausted {source : WavSource} (isOver : ¬ source.Ready) :
      Mixed source { source with active := false } []
  | frame {source next final : WavSource} {sounded : Option ℚ} {later : List ℚ}
      (safe : source.Safe) (active : source.active = true) (frame : Frame source next sounded)
      (mixed : Mixed next final later) : Mixed source final (sounded.toList ++ later)

theorem Mixed.safe {source final : WavSource} {sounded : List ℚ}
    (mixed : Mixed source final sounded) (safe : source.Safe) : final.Safe := by
  induction mixed with
  | done => exact safe
  | exhausted => exact ⟨safe.pos_le, safe.pausing, safe.releasePos, safe.fading⟩
  | frame _ _ frame _ ih => exact ih (frame.safe safe)

theorem mixFrames_mixed {source : WavSource} (safe : source.Safe)
    (ready : source.active = true → source.Ready) (frames : ℕ) :
    ∃ final sounded, source.mixFrames frames = some (final, sounded) ∧
      Mixed source final sounded := by
  induction frames generalizing source with
  | zero => exact ⟨source, [], rfl, .done source⟩
  | succ frames ih =>
      by_cases active : source.active = true
      · obtain ⟨next, sounded, mixesFrame, frame⟩ := mixFrame_frame safe (ready active)
        obtain ⟨final, later, mixes, mixed⟩ := ih (frame.safe safe) (frame.ready safe)
        refine ⟨final, sounded.toList ++ later, ?_, .frame safe active frame mixed⟩
        rw [mixFrames, if_pos active, mixesFrame]
        simp only [Option.bind_eq_bind, Option.bind_some, mixes]
      · exact ⟨source, [], if_neg active, .done source⟩

theorem mixInto_mixed {source : WavSource} (safe : source.Safe) (frames : ℕ) :
    ∃ final sounded, source.mixInto frames = some (final, sounded) ∧
      Mixed source final sounded := by
  unfold mixInto
  split_ifs with silent isOver
  · exact ⟨source, [], rfl, .done source⟩
  · refine ⟨_, [], rfl, .exhausted ?_⟩
    unfold Ready
    omega
  · refine mixFrames_mixed safe (fun _ => ?_) frames
    unfold Ready
    omega

/-! ## What a call can do -/

theorem isPlaying_iff (source : WavSource) :
    source.isPlaying = true ↔
      source.active = true ∧ source.pos < source.samples.length := by
  rw [isPlaying, Bool.and_eq_true, decide_eq_true_iff]

/-- A release that is under way, with what is to follow it. -/
def releasingFor (source : WavSource) (restart : Bool) (total remaining : ℕ) : WavSource :=
  { source with
    releasing := true
    restartAfterRelease := restart
    releaseTotal := total
    releaseRemaining := remaining }

theorem beginRelease_eq {source : WavSource} (safe : source.Safe) (restart : Bool) :
    ∃ total remaining,
      source.beginRelease restart = some (source.releasingFor restart total remaining) ∧
      0 < remaining ∧ remaining ≤ source.releaseFrames ∧
      (source.releasing = true → remaining = source.releaseRemaining) := by
  unfold beginRelease releasingFor
  simp only
  split_ifs with releasing
  · obtain ⟨positive, bounded⟩ := safe.fading releasing
    exact ⟨source.releaseTotal, source.releaseRemaining, by rw [releasing], positive, bounded,
      fun _ => rfl⟩
  · rw [checkedSub_eq safe.pos_le]
    have positive := safe.releasePos
    exact ⟨_, _, rfl, by omega, by omega, fun on => absurd on releasing⟩

/-- What a call makes of a source, and what it sounds. -/
inductive Called (source : WavSource) : Call → WavSource → List ℚ → Prop
  | start : Called source .start source.start []
  | released (active : source.active = true) (total remaining : ℕ) (positive : 0 < remaining)
      (bounded : remaining ≤ source.releaseFrames)
      (resumed : source.releasing = true → remaining = source.releaseRemaining) :
      Called source .stop (source.releasingFor false total remaining) []
  | halted : Called source .stop { source with pauseRemaining := 0, active := false } []
  | restarting (active : source.active = true) (inside : source.pos < source.samples.length)
      (total remaining : ℕ) (positive : 0 < remaining)
      (bounded : remaining ≤ source.releaseFrames) :
      Called source .restart (source.releasingFor true total remaining) []
  | restarted :
      Called source .restart
        { source.cancelRelease with pauseRemaining := 0, pos := 0, active := true } []
  | skip (frames : ℕ) : Called source (.skip frames) (source.skip frames) []
  | rewind (frames : ℕ) : Called source (.rewind frames) (source.rewind frames) []
  | setVolume (volume : ℚ) : Called source (.setVolume volume) (source.setVolume volume) []
  | mixInto (frames : ℕ) {next : WavSource} {sounded : List ℚ}
      (mixed : Mixed source next sounded) : Called source (.mixInto frames) next sounded

/-- No call panics, and this is what it does. -/
theorem call_called {source : WavSource} (safe : source.Safe) (call : Call) :
    ∃ next sounded, source.call call = some (next, sounded) ∧
      Called source call next sounded := by
  cases call with
  | start => exact ⟨_, _, rfl, .start⟩
  | stop =>
      by_cases playing : source.isPlaying = true
      · obtain ⟨total, remaining, begins, positive, bounded, resumed⟩ :=
          beginRelease_eq safe false
        have active := (source.isPlaying_iff.mp playing).1
        refine ⟨_, _, ?_, .released active total remaining positive bounded resumed⟩
        rw [WavSource.call, stop, if_pos playing, begins, Option.map_some]
      · refine ⟨_, _, ?_, .halted⟩
        rw [WavSource.call, stop, if_neg playing, Option.map_some]
  | restart =>
      by_cases playing : source.isPlaying = true
      · obtain ⟨total, remaining, begins, positive, bounded, _⟩ := beginRelease_eq safe true
        obtain ⟨active, inside⟩ := source.isPlaying_iff.mp playing
        refine ⟨_, _, ?_, .restarting active inside total remaining positive bounded⟩
        rw [WavSource.call, restart, if_pos playing, begins, Option.map_some]
      · refine ⟨_, _, ?_, .restarted⟩
        rw [WavSource.call, restart, if_neg playing, Option.map_some]
  | skip frames => exact ⟨_, _, rfl, .skip frames⟩
  | rewind frames => exact ⟨_, _, rfl, .rewind frames⟩
  | setVolume volume => exact ⟨_, _, rfl, .setVolume volume⟩
  | mixInto frames =>
      obtain ⟨next, sounded, mixes, mixed⟩ := mixInto_mixed safe frames
      exact ⟨next, sounded, mixes, .mixInto frames mixed⟩

theorem Called.safe {source next : WavSource} {call : Call} {sounded : List ℚ}
    (called : Called source call next sounded) (safe : source.Safe) : next.Safe := by
  have unreleased : ∀ {releasing : Bool} {motive : Prop}, releasing = false →
      releasing = true → motive := fun off on => absurd (off.symm.trans on) Bool.false_ne_true
  cases called with
  | start => exact ⟨safe.pos_le, safe.pausing, safe.releasePos, unreleased rfl⟩
  | released _ _ _ positive bounded =>
      exact ⟨safe.pos_le, safe.pausing, safe.releasePos, fun _ => ⟨positive, bounded⟩⟩
  | halted =>
      exact ⟨safe.pos_le, fun pausing => absurd pausing (Nat.lt_irrefl 0), safe.releasePos,
        safe.fading⟩
  | restarting _ _ _ _ positive bounded =>
      exact ⟨safe.pos_le, safe.pausing, safe.releasePos, fun _ => ⟨positive, bounded⟩⟩
  | restarted =>
      exact ⟨Nat.zero_le _, fun pausing => absurd pausing (Nat.lt_irrefl 0), safe.releasePos,
        unreleased rfl⟩
  | skip =>
      exact ⟨(Nat.min_le_right _ _).trans (Nat.sub_le _ _), safe.pausing, safe.releasePos,
        safe.fading⟩
  | rewind =>
      exact ⟨(Nat.sub_le _ _).trans safe.pos_le, safe.pausing, safe.releasePos, safe.fading⟩
  | setVolume => exact ⟨safe.pos_le, safe.pausing, safe.releasePos, safe.fading⟩
  | mixInto _ mixed => exact mixed.safe safe

/-! ## What a stop promises -/

/-- The source is silent, or fades out for good. -/
def Stopping (source : WavSource) : Prop :=
  source.active = true → source.releasing = true ∧ source.restartAfterRelease = false

/-- The frames that a source that is stopping still sounds. -/
def budget (source : WavSource) : ℕ :=
  if source.active then source.releaseRemaining else 0

theorem budget_of_active {source : WavSource} (active : source.active = true) :
    source.budget = source.releaseRemaining :=
  if_pos active

theorem releasingFor_budget {source : WavSource} (active : source.active = true)
    {restart : Bool} {total remaining : ℕ} :
    (source.releasingFor restart total remaining).budget = remaining :=
  if_pos active

theorem Frame.stopping {source next : WavSource} {sounded : Option ℚ}
    (frame : Frame source next sounded) (safe : source.Safe) (active : source.active = true)
    (stopping : source.Stopping) :
    next.Stopping ∧ sounded.toList.length + next.budget ≤ source.budget := by
  obtain ⟨releasing, final⟩ := stopping active
  have positive := (safe.fading releasing).1
  have spent : 1 + source.remainingAfter ≤ source.budget := by
    rw [budget_of_active active, remainingAfter, if_pos releasing]
    omega
  have goesOn : ∀ {next : WavSource}, next.active = true →
      next.releaseRemaining = source.remainingAfter → 1 + next.budget ≤ source.budget := by
    intro next active same
    rwa [budget_of_active active, same]
  cases frame with
  | paused =>
      simp only [pauseFrame]
      split_ifs
      · exact ⟨fun _ => ⟨releasing, final⟩, Nat.le_of_eq (Nat.zero_add _)⟩
      · exact ⟨fun _ => ⟨releasing, final⟩, Nat.le_of_eq (Nat.zero_add _)⟩
  | released =>
      refine ⟨fun active => absurd active Bool.false_ne_true, ?_⟩
      exact (Nat.le_add_right 1 source.remainingAfter).trans spent
  | restarted _ _ restart => simp [final] at restart
  | wrapped => exact ⟨fun _ => ⟨releasing, final⟩, goesOn active rfl⟩
  | passed => exact ⟨fun _ => ⟨releasing, final⟩, goesOn active rfl⟩
  | ended =>
      refine ⟨fun active => absurd active Bool.false_ne_true, ?_⟩
      exact (Nat.le_add_right 1 source.remainingAfter).trans spent
  | advanced => exact ⟨fun _ => ⟨releasing, final⟩, goesOn active rfl⟩

theorem Mixed.stopping {source final : WavSource} {sounded : List ℚ}
    (mixed : Mixed source final sounded) (stopping : source.Stopping) :
    final.Stopping ∧ sounded.length + final.budget ≤ source.budget := by
  induction mixed with
  | done => exact ⟨stopping, Nat.le_of_eq (Nat.zero_add _)⟩
  | exhausted => exact ⟨fun active => absurd active Bool.false_ne_true, Nat.zero_le _⟩
  | frame safe active frame _ ih =>
      obtain ⟨stopping', spent⟩ := frame.stopping safe active stopping
      obtain ⟨stopping'', spentLater⟩ := ih stopping'
      refine ⟨stopping'', ?_⟩
      rw [List.length_append]
      omega

theorem Called.stopping {source next : WavSource} {call : Call} {sounded : List ℚ}
    (called : Called source call next sounded) (stopping : source.Stopping)
    (noStart : call ≠ .start) (noRestart : call ≠ .restart) :
    next.Stopping ∧ sounded.length + next.budget ≤ source.budget := by
  cases called with
  | start => exact absurd rfl noStart
  | released active _ _ _ _ resumed =>
      refine ⟨fun _ => ⟨rfl, rfl⟩, ?_⟩
      rw [budget_of_active active, ← resumed (stopping active).1, releasingFor_budget active]
      exact Nat.le_of_eq (Nat.zero_add _)
  | halted => exact ⟨fun active => absurd active Bool.false_ne_true, Nat.zero_le _⟩
  | restarting => exact absurd rfl noRestart
  | restarted => exact absurd rfl noRestart
  | skip => exact ⟨stopping, Nat.le_of_eq (Nat.zero_add _)⟩
  | rewind => exact ⟨stopping, Nat.le_of_eq (Nat.zero_add _)⟩
  | setVolume => exact ⟨stopping, Nat.le_of_eq (Nat.zero_add _)⟩
  | mixInto _ mixed => exact mixed.stopping stopping

/-! ## What a restart promises -/

/-- The source plays on and on. -/
structure Looping (source : WavSource) : Prop where
  active : source.active = true
  again : source.releasing = true → source.restartAfterRelease = true
  ready : source.Ready
  looped : source.loopPauseFrames ≠ none

theorem Frame.looping {source next : WavSource} {sounded : Option ℚ}
    (frame : Frame source next sounded) (safe : source.Safe) (looping : source.Looping) :
    next.Looping := by
  obtain ⟨active, again, _, looped⟩ := looping
  have ready := frame.ready safe
  cases frame with
  | paused =>
      simp only [pauseFrame] at ready ⊢
      split_ifs at ready ⊢
      · exact ⟨active, again, ready active, looped⟩
      · exact ⟨active, again, ready active, looped⟩
  | released _ releasing final => simp [again releasing] at final
  | restarted =>
      exact ⟨active, fun releasing => absurd releasing Bool.false_ne_true, ready active, looped⟩
  | wrapped => exact ⟨active, again, ready active, looped⟩
  | passed => exact ⟨active, again, ready active, looped⟩
  | ended _ _ _ once => exact absurd once looped
  | advanced => exact ⟨active, again, ready active, looped⟩

theorem Mixed.looping {source final : WavSource} {sounded : List ℚ}
    (mixed : Mixed source final sounded) (looping : source.Looping) : final.Looping := by
  induction mixed with
  | done => exact looping
  | exhausted isOver => exact absurd looping.ready isOver
  | frame safe _ frame _ ih => exact ih (frame.looping safe looping)

theorem Called.restart_looping {source next : WavSource} {sounded : List ℚ}
    (called : Called source .restart next sounded) (nonempty : 0 < source.samples.length)
    (looped : source.loopPauseFrames ≠ none) : next.Looping := by
  cases called with
  | restarting active inside => exact ⟨active, fun _ => rfl, .inl inside, looped⟩
  | restarted =>
      exact ⟨rfl, fun releasing => absurd releasing Bool.false_ne_true, .inl nonempty, looped⟩

theorem Called.looping {source next : WavSource} {call : Call} {sounded : List ℚ}
    (called : Called source call next sounded) (safe : source.Safe) (looping : source.Looping)
    (noStop : call ≠ .stop) : next.Looping := by
  obtain ⟨active, again, ready, looped⟩ := looping
  have nonempty : 0 < source.samples.length := ready.elim Nat.zero_lt_of_lt safe.pausing
  cases called with
  | start => exact ⟨rfl, fun releasing => absurd releasing Bool.false_ne_true, ready, looped⟩
  | released => exact absurd rfl noStop
  | halted => exact absurd rfl noStop
  | restarting => exact ⟨active, fun _ => rfl, ready, looped⟩
  | restarted => exact Called.restarted.restart_looping nonempty looped
  | skip frames =>
      refine ⟨active, again, .inl ?_, looped⟩
      exact Nat.lt_of_le_of_lt (Nat.min_le_right _ _) (Nat.sub_lt nonempty Nat.one_pos)
  | rewind frames =>
      refine ⟨active, again, ready.imp_left fun inside => ?_, looped⟩
      exact Nat.lt_of_le_of_lt (Nat.sub_le _ _) inside
  | setVolume => exact ⟨active, again, ready, looped⟩
  | mixInto _ mixed => exact mixed.looping ⟨active, again, ready, looped⟩

/-! ## Runs -/

/-- The parts of a source that no call touches. -/
structure SameClip (source next : WavSource) : Prop where
  samples : next.samples = source.samples
  releaseFrames : next.releaseFrames = source.releaseFrames
  loopPauseFrames : next.loopPauseFrames = source.loopPauseFrames

theorem SameClip.refl (source : WavSource) : SameClip source source := ⟨rfl, rfl, rfl⟩

theorem SameClip.trans {source next final : WavSource} (first : SameClip source next)
    (second : SameClip next final) : SameClip source final :=
  ⟨second.samples.trans first.samples, second.releaseFrames.trans first.releaseFrames,
    second.loopPauseFrames.trans first.loopPauseFrames⟩

theorem Frame.sameClip {source next : WavSource} {sounded : Option ℚ}
    (frame : Frame source next sounded) : SameClip source next := by
  cases frame with
  | paused =>
      simp only [pauseFrame]
      split_ifs <;> exact ⟨rfl, rfl, rfl⟩
  | _ => exact ⟨rfl, rfl, rfl⟩

theorem Called.sameClip {source next : WavSource} {call : Call} {sounded : List ℚ}
    (called : Called source call next sounded) : SameClip source next := by
  cases called with
  | mixInto _ mixed =>
      induction mixed with
      | done source => exact .refl source
      | exhausted => exact ⟨rfl, rfl, rfl⟩
      | frame _ _ frame _ ih => exact frame.sameClip.trans ih
  | _ => exact ⟨rfl, rfl, rfl⟩

theorem run_cons {source final : WavSource} {call : Call} {calls : List Call} {sounded : List ℚ}
    (safe : source.Safe) (runs : source.run (call :: calls) = some (final, sounded)) :
    ∃ next first later, Called source call next first ∧ next.Safe ∧
      next.run calls = some (final, later) ∧ sounded = first ++ later := by
  obtain ⟨next, first, callEq, called⟩ := call_called safe call
  rw [run, callEq, Option.bind_eq_bind, Option.bind_some] at runs
  obtain ⟨⟨_, later⟩, runsLater, same⟩ := Option.bind_eq_some_iff.mp runs
  obtain ⟨rfl, rfl⟩ := Prod.mk.inj (Option.some.inj same)
  exact ⟨next, first, later, called, called.safe safe, runsLater, rfl⟩

theorem run_isSome {source : WavSource} (safe : source.Safe) (calls : List Call) :
    (source.run calls).isSome := by
  induction calls generalizing source with
  | nil => rfl
  | cons call calls ih =>
      obtain ⟨next, first, callEq, called⟩ := call_called safe call
      obtain ⟨⟨final, later⟩, runs⟩ := Option.isSome_iff_exists.mp (ih (called.safe safe))
      rw [run, callEq]
      simp only [Option.bind_eq_bind, Option.bind_some, runs, Option.isSome_some]

/-- A property that every call of a kind keeps is kept by the runs of these calls. -/
theorem run_preserves {motive : WavSource → Prop} (kind : Call → Prop)
    (kept : ∀ source call next sounded, source.Safe → kind call →
      Called source call next sounded → motive source → motive next)
    {source final : WavSource} {calls : List Call} {sounded : List ℚ} (safe : source.Safe)
    (kinds : ∀ call ∈ calls, kind call) (runs : source.run calls = some (final, sounded))
    (initially : motive source) : final.Safe ∧ motive final := by
  induction calls generalizing source sounded with
  | nil =>
      obtain ⟨rfl, _⟩ := Prod.mk.inj (Option.some.inj runs)
      exact ⟨safe, initially⟩
  | cons call calls ih =>
      obtain ⟨next, first, later, called, safe', runsLater, _⟩ := run_cons safe runs
      exact ih safe' (fun call member => kinds call (List.mem_cons_of_mem _ member)) runsLater
        (kept source call next first safe (kinds call List.mem_cons_self) called initially)

/-- A source that is stopping sounds no more than its budget. -/
theorem run_stopping {source final : WavSource} {calls : List Call} {sounded : List ℚ}
    (safe : source.Safe) (stopping : source.Stopping)
    (noStart : ∀ call ∈ calls, call ≠ .start ∧ call ≠ .restart)
    (runs : source.run calls = some (final, sounded)) :
    sounded.length ≤ source.budget := by
  induction calls generalizing source sounded with
  | nil =>
      obtain ⟨_, rfl⟩ := Prod.mk.inj (Option.some.inj runs)
      exact Nat.zero_le _
  | cons call calls ih =>
      obtain ⟨next, first, later, called, safe', runsLater, rfl⟩ := run_cons safe runs
      obtain ⟨neStart, neRestart⟩ := noStart call List.mem_cons_self
      obtain ⟨stopping', spent⟩ := called.stopping stopping neStart neRestart
      have spentLater := ih safe' stopping'
        (fun call member => noStart call (List.mem_cons_of_mem _ member)) runsLater
      rw [List.length_append]
      omega

/-- The part of a run that follows some calls. -/
theorem run_append {source final : WavSource} {earlier later : List Call} {sounded : List ℚ}
    (safe : source.Safe) (runs : source.run (earlier ++ later) = some (final, sounded)) :
    ∃ middle second, middle.Safe ∧ SameClip source middle ∧
      middle.run later = some (final, second) := by
  induction earlier generalizing source sounded with
  | nil => exact ⟨source, sounded, safe, .refl source, runs⟩
  | cons call earlier ih =>
      obtain ⟨next, first, rest, called, safe', runsLater, rfl⟩ := run_cons safe runs
      obtain ⟨middle, second, safe'', same, runsLater⟩ := ih safe' runsLater
      exact ⟨middle, second, safe'', called.sameClip.trans same, runsLater⟩

theorem Built.safe {source : WavSource} (built : Built source) : source.Safe := by
  induction built with
  | fromClip samples release volume =>
      exact ⟨Nat.zero_le _, fun pausing => absurd pausing (Nat.lt_irrefl 0),
        Nat.le_max_right release 1, fun releasing => absurd releasing Bool.false_ne_true⟩
  | looped _ _ _ ih => exact ⟨ih.pos_le, ih.pausing, ih.releasePos, ih.fading⟩

theorem run_stop {source stopped : WavSource} {calls : List Call} {sounded : List ℚ}
    (safe : source.Safe) (runs : source.run (calls ++ [.stop]) = some (stopped, sounded)) :
    stopped.Safe ∧ stopped.Stopping ∧ stopped.budget ≤ source.releaseFrames := by
  obtain ⟨middle, second, safe', same, runsStop⟩ := run_append safe runs
  obtain ⟨next, first, rest, called, safe'', runsNil, _⟩ := run_cons safe' runsStop
  obtain ⟨rfl, _⟩ := Prod.mk.inj (Option.some.inj runsNil)
  rw [← same.releaseFrames]
  refine ⟨safe'', ?_⟩
  cases called with
  | released active _ _ _ bounded =>
      refine ⟨fun _ => ⟨rfl, rfl⟩, ?_⟩
      rwa [releasingFor_budget active]
  | halted => exact ⟨fun active => absurd active Bool.false_ne_true, Nat.zero_le _⟩

/-- No run panics, a stop is honoured within a release, and a loop plays on after a restart. -/
theorem indexSafe_and_honoursStop {source : WavSource} (built : Built source) :
    (∀ calls, (source.run calls).isSome) ∧
    (∀ calls stopped earlier, source.run (calls ++ [.stop]) = some (stopped, earlier) →
      ∀ later, (∀ call ∈ later, call ≠ .start ∧ call ≠ .restart) →
      ∀ final sounded, stopped.run later = some (final, sounded) →
        sounded.length ≤ source.releaseFrames) ∧
    (source.samples ≠ [] → source.loopPauseFrames ≠ none →
      ∀ calls later, Call.stop ∉ later →
      ∀ final sounded, source.run (calls ++ .restart :: later) = some (final, sounded) →
        final.active = true) := by
  have safe := built.safe
  refine ⟨run_isSome safe, ?_, ?_⟩
  · intro calls stopped earlier runs later noStart final sounded runsLater
    obtain ⟨safe', stopping, bounded⟩ := run_stop safe runs
    exact (run_stopping safe' stopping noStart runsLater).trans bounded
  · intro nonempty looped calls later noStop final sounded runs
    obtain ⟨middle, second, safe', same, runsRestart⟩ := run_append safe runs
    obtain ⟨next, first, rest, called, safe'', runsLater, _⟩ := run_cons safe' runsRestart
    have inside : 0 < middle.samples.length := by
      rw [same.samples]
      exact List.length_pos_iff.mpr nonempty
    have looping : next.Looping :=
      called.restart_looping inside (by rwa [same.loopPauseFrames])
    have kept := run_preserves (motive := Looping) (fun call => call ≠ .stop)
      (fun _ _ _ _ safe noStop called looping => called.looping safe looping noStop)
      safe'' (fun call member stop => noStop (stop ▸ member)) runsLater looping
    exact kept.2.active

theorem indexSafe_and_honoursStop_looped :
    (((fromClip [1, 2, 3] 2 1).looped 1 1).run [.start, .mixInto 2, .stop, .mixInto 4]).isSome ∧
      (∀ stopped earlier, ((fromClip [1, 2, 3] 2 1).looped 1 1).run [.start, .mixInto 2, .stop] =
          some (stopped, earlier) →
        ∀ final sounded, stopped.run [.mixInto 4, .mixInto 7] = some (final, sounded) →
          sounded.length ≤ 2) ∧
      ∀ final sounded, ((fromClip [1, 2, 3] 2 1).looped 1 1).run
          [.start, .mixInto 2, .restart, .skip 5, .mixInto 9] = some (final, sounded) →
        final.active = true := by
  have promises := indexSafe_and_honoursStop (.looped (.fromClip [1, 2, 3] 2 1) 1 1)
  refine ⟨promises.1 _, fun stopped earlier runs => ?_, promises.2.2 (List.cons_ne_nil _ _) (Option.some_ne_none _)
    [.start, .mixInto 2] [.skip 5, .mixInto 9] (by decide +kernel)⟩
  exact promises.2.1 [.start, .mixInto 2] stopped earlier runs [.mixInto 4, .mixInto 7]
    (by decide +kernel)

end WavSource

end Audio

end Vacs
