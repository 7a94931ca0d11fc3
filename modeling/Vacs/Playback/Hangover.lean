import Vacs.Foundations.GuardedRuns
import Vacs.Playback.OpenClips

/-!
# The hangover

When the last transmission of a clip has ended, the clip stays open for a while: a
transmission that resumes continues it, and what is still heard is recorded. The state
machine does not remember when the transmission ended. It measures the time from the last
audio: the last frame that it received during a transmission, or the beginning of one.

When a clip was last heard and when its last transmission ended are noted here from the calls
alone. The clip carries the first of the two (`Sound.heard`). The two are the same as long as
frames keep coming. When they are late or missing, a tick between the two deadlines closes a
clip too early, or a later one too late, and these ticks are the only ones that do
(`hangover_kept_iff`).
-/

set_option autoImplicit false

namespace Vacs

namespace Playback

open GuardedRuns

namespace FsmCall

def now : FsmCall → Instant
  | .event _ now _ | .tick _ now _ => now

end FsmCall

/-- The end of the last transmission of a clip. -/
structure Ending where
  clipId : ℕ
  endedAt : Instant
deriving DecidableEq

/-- When the clip of a tap began, and when it was last heard. -/
structure Heard where
  beganAt : Instant := 0
  lastAt : Instant := 0
deriving DecidableEq

structure HangoverRun where
  fsm : Fsm
  clock : Instant
  /-- What ended last on a tap, unless a transmission has begun since or the tap has been
  closed or has changed its format. -/
  endings : TapId → Option Ending
  /-- What was heard on a tap, by the times of the calls. -/
  heard : TapId → Heard

namespace HangoverRun

def new (config : PlaybackConfig) (mode : RecordingMode) : HangoverRun :=
  ⟨.new config mode, 0, fun _ => none, fun _ => {}⟩

def noteEndings (run : HangoverRun) (next : Fsm) : FsmCall → TapId → Option Ending
  | .event (.tapOpened tap sampleRate channels) _ _, key =>
      if key = Fsm.mapTap run.fsm.mode tap ∧ run.fsm.reformats key sampleRate channels then none
      else run.endings key
  | .event (.tapClosed tap) _ _, key | .event (.rxBegin tap _ _) _ _, key =>
      if key = Fsm.mapTap run.fsm.mode tap then none else run.endings key
  -- A clip that is too long has a successor, which takes over its transmitters.
  | .event (.frame _ _ _) _ _, key =>
      (run.endings key).map fun ending =>
        { ending with clipId := (next.clipAt key).elim ending.clipId OpenClip.clipId }
  | .event (.rxEnd _ _ _) now _, key =>
      match run.fsm.clipAt key, next.clipAt key with
      | some before, some after =>
          if before.transmitters ≠ ∅ ∧ after.transmitters = ∅ then some ⟨after.clipId, now⟩
          else run.endings key
      | _, _ => run.endings key
  | .tick _ _ _, key => run.endings key

/-- A clip is heard when a transmission begins, and in every frame until the last transmission
has ended. A frame that makes it too long begins its successor. -/
def noteHeard (run : HangoverRun) : FsmCall → TapId → Heard
  | .event (.rxBegin tap _ _) now _, key =>
      if key = Fsm.mapTap run.fsm.mode tap then
        { beganAt := if (run.fsm.clipAt key).isSome then (run.heard key).beganAt else now
          lastAt := now }
      else run.heard key
  | .event (.frame tap _ capturedAt) _ _, key =>
      if key = Fsm.mapTap run.fsm.mode tap then
        if run.fsm.maxClipDuration ≤ capturedAt - (run.heard key).beganAt then
          ⟨capturedAt, capturedAt⟩
        else if (run.endings key).isSome then run.heard key
        else { run.heard key with lastAt := capturedAt }
      else run.heard key
  | .event (.tapOpened _ _ _) _ _, key | .event (.tapClosed _) _ _, key
  | .event (.rxEnd _ _ _) _ _, key | .tick _ _ _, key => run.heard key

/-- A call, at a time that is not before that of the last one. -/
def step (run : HangoverRun) (call : FsmCall) : Option HangoverRun :=
  if run.clock ≤ call.now then
    let next := (run.fsm.call call).1
    some ⟨next, call.now, run.noteEndings next call, run.noteHeard call⟩
  else none

/-! ## The law and its condition -/

/-- A tick closes exactly the clips without transmitters whose last transmission ended a
hangover ago. Before that, a transmission that begins continues the clip, and what is heard is
written to it. -/
def HangoverLaw (run : HangoverRun) : FsmCall → Prop
  | .tick order now nowWall =>
      ∀ key clip, run.fsm.clipAt key = some clip →
        ((run.fsm.tick order now nowWall).1.clipAt key = none ∧
            clip.closeAction now nowWall ∈ (run.fsm.tick order now nowWall).2 ↔
          clip.transmitters = ∅ ∧
            ∃ ending ∈ run.endings key, ending.endedAt + run.fsm.hangover ≤ now)
  | .event (.rxBegin tap callsign frequency) now nowWall =>
      ∀ ending ∈ run.endings (Fsm.mapTap run.fsm.mode tap),
        now < ending.endedAt + run.fsm.hangover →
        (run.fsm.rxBegin tap callsign frequency now nowWall).2 = [] ∧
          ∃ clip, (run.fsm.rxBegin tap callsign frequency now nowWall).1.clipAt
              (Fsm.mapTap run.fsm.mode tap) = some clip ∧
            clip.clipId = ending.clipId ∧ ⟨callsign, frequency⟩ ∈ clip.transmitters
  | .event (.frame tap samples capturedAt) now nowWall =>
      ∀ ending ∈ run.endings (Fsm.mapTap run.fsm.mode tap),
        now < ending.endedAt + run.fsm.hangover →
        .writeFrame ending.clipId samples ∈ (run.fsm.frame tap samples capturedAt nowWall).2
  | .event _ _ _ => True

/-- The hangover after a clip was last heard and the hangover after its last transmission are
both over, or neither is. -/
def NotBetween (hangover : ℕ) (now : Instant) (heard : Heard) (ending : Ending) : Prop :=
  max heard.lastAt ending.endedAt + hangover ≤ now ∨
    now < min heard.lastAt ending.endedAt + hangover

/-- No tick comes between the two deadlines of an open clip whose last transmission has ended. -/
def NotBetweenDeadlines (run : HangoverRun) : FsmCall → Prop
  | .tick _ now _ =>
      ∀ key ∈ run.fsm.taps.keys, (run.fsm.clipAt key).isSome →
        ∀ ending ∈ run.endings key, NotBetween run.fsm.hangover now (run.heard key) ending
  | .event _ _ _ => True

instance (hangover : ℕ) (now : Instant) (heard : Heard) (ending : Ending) :
    Decidable (NotBetween hangover now heard ending) :=
  inferInstanceAs (Decidable (_ ∨ _))

instance (run : HangoverRun) : DecidablePred run.NotBetweenDeadlines
  | .tick _ now _ =>
      inferInstanceAs (Decidable (∀ key ∈ run.fsm.taps.keys, (run.fsm.clipAt key).isSome →
        ∀ ending ∈ run.endings key, NotBetween run.fsm.hangover now (run.heard key) ending))
  | .event _ _ _ => isTrue trivial

/-! ## The invariant -/

/-- A clip without transmitters is the one whose last transmission has ended, and one that is
gone was closed after its hangover. -/
def Kept (hangover : ℕ) (clock : Instant) : Option OpenClip → Option Ending → Prop
  | some clip, some ending => clip.transmitters = ∅ ∧ clip.clipId = ending.clipId
  | some clip, none => clip.transmitters ≠ ∅
  | none, some ending => ending.endedAt + hangover ≤ clock
  | none, none => True

structure Sound (run : HangoverRun) : Prop where
  kept : ∀ key, Kept run.fsm.hangover run.clock (run.fsm.clipAt key) (run.endings key)
  /-- A clip carries when it began and when it was last heard. -/
  heard : ∀ key clip, run.fsm.clipAt key = some clip →
    (⟨clip.startedAt, clip.lastAudioAt⟩ : Heard) = run.heard key

theorem clipAt_new (config : PlaybackConfig) (mode : RecordingMode) (key : TapId) :
    (new config mode).fsm.clipAt key = none := by
  simp [new, Fsm.new, Fsm.clipAt]

theorem new_sound (config : PlaybackConfig) (mode : RecordingMode) :
    (new config mode).Sound where
  kept key := by
    rw [clipAt_new]
    trivial
  heard key clip isClip := by
    rw [clipAt_new] at isClip
    cases isClip

section Steps

variable {hangover : ℕ} {clock later : Instant} {clip : Option OpenClip} {ending : Option Ending}

theorem Kept.mono (kept : Kept hangover clock clip ending) (isLater : clock ≤ later) :
    Kept hangover later clip ending := by
  cases clip with
  | some clip => cases ending <;> exact kept
  | none =>
      cases ending with
      | none => trivial
      | some ending => exact Nat.le_trans kept isLater

theorem Kept.none : Kept hangover clock none none :=
  trivial

/-- A frame changes neither the transmitters of a clip nor whether it is there. -/
theorem Kept.frame (kept : Kept hangover clock clip ending) {after : OpenClip → OpenClip}
    (same : ∀ clip, (after clip).transmitters = clip.transmitters) :
    Kept hangover clock (clip.map after) (ending.map fun ending =>
      { ending with clipId := (clip.map after).elim ending.clipId OpenClip.clipId }) := by
  cases clip with
  | none => cases ending <;> exact kept
  | some clip =>
      cases ending with
      | none => exact fun isEmpty => kept ((same clip).symm.trans isEmpty)
      | some ending => exact ⟨(same clip).trans kept.1, rfl⟩

variable {run next : HangoverRun}

theorem Sound.keptEvent (sound : run.Sound) (event : PlaybackSourceEvent) (now : Instant)
    (nowWall : SystemTime) (key : TapId) :
    Kept run.fsm.hangover run.clock ((run.fsm.onEvent event now nowWall).1.clipAt key)
      (run.noteEndings (run.fsm.onEvent event now nowWall).1 (.event event now nowWall) key) := by
  have kept := sound.kept key
  cases event with
  | tapOpened tap sampleRate channels =>
      simp only [Fsm.onEvent, noteEndings, Fsm.clipAt_tapOpened]
      split
      · exact Kept.none
      · exact kept
  | tapClosed tap =>
      simp only [Fsm.onEvent, noteEndings, Fsm.clipAt_tapClosed]
      split
      · exact Kept.none
      · exact kept
  | frame tap samples capturedAt =>
      simp only [Fsm.onEvent, noteEndings, Fsm.clipAt_frame]
      split
      · exact kept.frame fun clip => run.fsm.afterFrame_transmitters capturedAt nowWall clip
      · simpa using kept.frame fun clip => (rfl : (id clip).transmitters = clip.transmitters)
  | rxBegin tap callsign frequency =>
      simp only [Fsm.onEvent, noteEndings, Fsm.clipAt_rxBegin]
      split
      · cases run.fsm.taps.lookup key with
        | none => exact Kept.none
        | some entry => exact Finset.ne_empty_of_mem (Fsm.mem_afterBegin ..)
      · exact kept
  | rxEnd callsign frequency activeTransmitters =>
      simp only [Fsm.onEvent, noteEndings, Fsm.clipAt_rxEnd]
      cases isClip : run.fsm.clipAt key with
      | none =>
          rw [isClip] at kept
          exact kept
      | some clip =>
          rw [isClip] at kept
          simp only [Option.map_some]
          split_ifs with empties
          · exact ⟨empties.2, rfl⟩
          · cases isEnding : run.endings key with
            | none =>
                rw [isEnding] at kept
                exact fun isEmpty => empties ⟨kept, isEmpty⟩
            | some ending =>
                rw [isEnding] at kept
                refine ⟨?_, kept.2⟩
                simp [OpenClip.endTransmitter, kept.1]

theorem shouldClose_iff {now : Instant} {clip : OpenClip} :
    Fsm.shouldClose hangover now clip = true ↔
      clip.transmitters = ∅ ∧ clip.lastAudioAt + hangover ≤ now := by
  simp [Fsm.shouldClose]

/-- Outside of the time between two deadlines, both or none of them have passed. -/
theorem notBetween_iff {first second now : ℕ} :
    max first second + hangover ≤ now ∨ now < min first second + hangover ↔
      (first + hangover ≤ now ↔ second + hangover ≤ now) := by
  omega

theorem deadlines {order : Enumeration TapId} {now : Instant} {nowWall : SystemTime}
    (sound : run.Sound)
    (guard : run.NotBetweenDeadlines (.tick order now nowWall)) {key : TapId} {clip : OpenClip}
    {ending : Ending} (isClip : run.fsm.clipAt key = some clip)
    (isEnding : run.endings key = some ending) :
    clip.lastAudioAt + run.fsm.hangover ≤ now ↔ ending.endedAt + run.fsm.hangover ≤ now := by
  have isOpen : (run.fsm.clipAt key).isSome := Option.isSome_of_eq_some isClip
  have apart := guard key (Fsm.mem_keys_of_clipAt isClip) isOpen ending isEnding
  rw [← sound.heard key clip isClip] at apart
  exact notBetween_iff.mp apart

/-- A tick that is not between the deadlines closes the clips whose hangover has passed. -/
theorem Sound.keptTick (sound : run.Sound) {order : Enumeration TapId} {now : Instant}
    {nowWall : SystemTime} (guard : run.NotBetweenDeadlines (.tick order now nowWall))
    (ordered : run.clock ≤ now) (key : TapId) :
    Kept run.fsm.hangover now ((run.fsm.tick order now nowWall).1.clipAt key)
      (run.endings key) := by
  have kept := sound.kept key
  rw [Fsm.clipAt_tick]
  cases isClip : run.fsm.clipAt key with
  | none =>
      rw [isClip] at kept
      exact kept.mono ordered
  | some clip =>
      rw [isClip] at kept
      cases isEnding : run.endings key with
      | none =>
          rw [isEnding] at kept
          rw [Option.filter_some, if_pos]
          · exact kept
          · have stays : ¬ Fsm.shouldClose run.fsm.hangover now clip = true :=
              fun closes => kept (shouldClose_iff.mp closes).1
            simpa using stays
      | some ending =>
          rw [isEnding] at kept
          rw [Option.filter_some]
          split
          · exact kept
          · rename_i closes
            have due := (shouldClose_iff.mp (by simpa using closes)).2
            exact (deadlines sound guard isClip isEnding).mp due

/-- The clip of a tap is last heard when the calls say so. -/
theorem Sound.heardCall (sound : run.Sound) (call : FsmCall) (key : TapId) (clip : OpenClip)
    (isClip : (run.fsm.call call).1.clipAt key = some clip) :
    (⟨clip.startedAt, clip.lastAudioAt⟩ : Heard) = run.noteHeard call key := by
  have heard := sound.heard key
  cases call with
  | tick order now nowWall =>
      rw [Fsm.call, Fsm.clipAt_tick] at isClip
      exact heard clip (Option.filter_eq_some_iff.mp isClip).1
  | event event now nowWall =>
      cases event with
      | tapOpened tap sampleRate channels =>
          rw [Fsm.call, Fsm.onEvent, Fsm.clipAt_tapOpened] at isClip
          exact heard clip (Option.ite_none_left_eq_some.mp isClip).2
      | tapClosed tap =>
          rw [Fsm.call, Fsm.onEvent, Fsm.clipAt_tapClosed] at isClip
          exact heard clip (Option.ite_none_left_eq_some.mp isClip).2
      | rxEnd callsign frequency activeTransmitters =>
          rw [Fsm.call, Fsm.onEvent, Fsm.clipAt_rxEnd] at isClip
          obtain ⟨before, isBefore, rfl⟩ := Option.map_eq_some_iff.mp isClip
          exact heard before isBefore
      | rxBegin tap callsign frequency =>
          rw [Fsm.call, Fsm.onEvent, Fsm.clipAt_rxBegin] at isClip
          simp only [noteHeard]
          split at isClip
          · next same =>
              rw [if_pos same]
              obtain ⟨entry, isEntry, rfl⟩ := Option.map_eq_some_iff.mp isClip
              rw [Fsm.clipAt_of_entry isEntry] at heard ⊢
              cases isOpen : entry.openClip with
              | none => rfl
              | some before => rw [← heard before isOpen]; rfl
          · next differs =>
              rw [if_neg differs]
              exact heard clip isClip
      | frame tap samples capturedAt =>
          rw [Fsm.call, Fsm.onEvent, Fsm.clipAt_frame] at isClip
          simp only [noteHeard]
          split at isClip
          · next same =>
              obtain ⟨before, isBefore, rfl⟩ := Option.map_eq_some_iff.mp isClip
              have kept := sound.kept key
              rw [isBefore] at kept
              rw [if_pos same, ← heard before isBefore]
              unfold Fsm.afterFrame
              simp only
              split
              · rfl
              · cases isEnding : run.endings key with
                | none =>
                    rw [isEnding] at kept
                    rw [if_neg kept]
                    rfl
                | some ending =>
                    rw [isEnding] at kept
                    rw [if_pos kept.1]
                    rfl
          · next differs =>
              rw [if_neg differs]
              exact heard clip isClip

theorem Sound.step (sound : run.Sound) {call : FsmCall} (guard : run.NotBetweenDeadlines call)
    (steps : run.step call = some next) : next.Sound := by
  obtain ⟨ordered, ⟨⟩⟩ := Option.ite_none_right_eq_some.mp steps
  refine ⟨fun key => ?_, sound.heardCall call⟩
  simp only [Fsm.call_hangover]
  cases call with
  | event event now nowWall => exact (sound.keptEvent event now nowWall key).mono ordered
  | tick order now nowWall => exact sound.keptTick guard ordered key

/-! ## The condition is exact -/

/-- A tick closes a clip by the time of its last audio. -/
theorem tick_closes_iff {fsm : Fsm} {order : Enumeration TapId} {now : Instant}
    {nowWall : SystemTime} {key : TapId} {clip : OpenClip} (isClip : fsm.clipAt key = some clip) :
    (fsm.tick order now nowWall).1.clipAt key = none ∧
        clip.closeAction now nowWall ∈ (fsm.tick order now nowWall).2 ↔
      clip.transmitters = ∅ ∧ clip.lastAudioAt + fsm.hangover ≤ now := by
  rw [← shouldClose_iff, Fsm.clipAt_tick, isClip, Option.filter_some]
  constructor
  · rintro ⟨closed, -⟩
    by_contra stays
    rw [if_pos (by simpa using stays)] at closed
    cases closed
  · intro due
    exact ⟨if_neg (by simpa using due), Fsm.closeAction_mem_tick isClip due order nowWall⟩

/-- Before the hangover has passed, the clip of the last transmission is still open. -/
theorem Sound.continues (sound : run.Sound) {key : TapId} {ending : Ending} {now : Instant}
    (isEnding : run.endings key = some ending) (ordered : run.clock ≤ now)
    (before : now < ending.endedAt + run.fsm.hangover) :
    ∃ clip, run.fsm.clipAt key = some clip ∧ clip.clipId = ending.clipId := by
  have kept := sound.kept key
  rw [isEnding] at kept
  cases isClip : run.fsm.clipAt key with
  | some clip =>
      rw [isClip] at kept
      exact ⟨clip, rfl, kept.2⟩
  | none =>
      rw [isClip] at kept
      exact absurd (Nat.le_trans kept ordered) (Nat.not_le_of_lt before)

theorem notBetweenDeadlines_iff (sound : run.Sound) {call : FsmCall}
    (steps : run.step call = some next) :
    run.NotBetweenDeadlines call ↔ run.HangoverLaw call := by
  obtain ⟨ordered, -⟩ := Option.ite_none_right_eq_some.mp steps
  cases call with
  | event event now nowWall =>
      refine iff_of_true trivial ?_
      cases event with
      | rxBegin tap callsign frequency =>
          intro ending isEnding before
          obtain ⟨clip, isClip, same⟩ := sound.continues isEnding ordered before
          obtain ⟨entry, isEntry, isOpen⟩ := Fsm.clipAt_eq_some_iff.mp isClip
          refine ⟨by simp only [Fsm.rxBegin, isEntry, isOpen],
            run.fsm.afterBegin ⟨callsign, frequency⟩ now nowWall (some clip), ?_, ?_, ?_⟩
          · rw [Fsm.clipAt_rxBegin, if_pos rfl, isEntry, Option.map_some, isOpen]
          · exact same
          · exact Fsm.mem_afterBegin ..
      | frame tap samples capturedAt =>
          intro ending isEnding before
          obtain ⟨clip, isClip, same⟩ := sound.continues isEnding ordered before
          rw [← same]
          exact Fsm.writeFrame_mem isClip now nowWall
      | tapOpened => trivial
      | tapClosed => trivial
      | rxEnd => trivial
  | tick order now nowWall =>
      constructor
      · intro guard key clip isClip
        rw [tick_closes_iff isClip]
        refine and_congr_right fun isEmpty => ?_
        have kept := sound.kept key
        rw [isClip] at kept
        cases isEnding : run.endings key with
        | none =>
            rw [isEnding] at kept
            exact absurd isEmpty kept
        | some ending => simpa using deadlines sound guard isClip isEnding
      · intro law key _ isOpen ending isEnding
        obtain ⟨clip, isClip⟩ := Option.isSome_iff_exists.mp isOpen
        have kept := sound.kept key
        rw [isClip, isEnding] at kept
        have isEmpty : clip.transmitters = ∅ := kept.1
        rw [NotBetween, ← sound.heard key clip isClip, notBetween_iff]
        have closes := (tick_closes_iff isClip).symm.trans (law key clip isClip)
        rw [and_congr_right_iff] at closes
        have same := closes isEmpty
        rw [isEnding] at same
        simpa using same

end Steps

/-- The hangover law holds at every call of a run exactly when no tick of the run comes between
the deadlines of a clip. -/
theorem hangover_kept_iff (config : PlaybackConfig) (mode : RecordingMode)
    {calls : List FsmCall} {final : HangoverRun}
    (runs : runMoves step (new config mode) calls = some final) :
    Guarded step HangoverLaw (new config mode) calls ↔
      Guarded step NotBetweenDeadlines (new config mode) calls :=
  (guarded_iff (fun _ _ _ sound steps => notBetweenDeadlines_iff sound steps)
    (fun _ _ _ sound guard steps => sound.step guard steps) runs (new_sound config mode)).symm

instance : LinearOrder TapId :=
  LinearOrder.lift' (fun
    | .headset => 0
    | .speaker => 1
    | .merged => 2
    | .frequency frequency => frequency + 3) (by
    rintro (_ | _ | _ | _) (_ | _ | _ | _) same <;> simp_all)

/-- An instant, in milliseconds. -/
def milliseconds (count : ℕ) : Instant := count * 10 ^ 6

def headsetCall (event : PlaybackSourceEvent) (count : ℕ) : FsmCall :=
  .event event (milliseconds count) 0

/-- A transmission of 600 ms, and what is received of it. -/
def transmission (received : List FsmCall) : List FsmCall :=
  [headsetCall (.tapOpened .headset 48000 1) 0, headsetCall (.rxBegin .headset "DLH123" 121500000) 0]
    ++ received ++ [headsetCall (.rxEnd "DLH123" 121500000 none) 600]

def tickAt (count : ℕ) : FsmCall := .tick (.increasing TapId) (milliseconds count) 0

/-- The transmission is heard to its end, and resumes 200 ms later. -/
def resumed : List FsmCall :=
  transmission [headsetCall (.frame .headset [0] (milliseconds 600)) 600] ++
    [tickAt 700, headsetCall (.rxBegin .headset "DLH123" 121500000) 800]

theorem hangover_kept_iff_resumed :
    Guarded step HangoverLaw (new ⟨10, 500, 5⟩ .perTap) resumed := by
  have isSome : (runMoves step (new ⟨10, 500, 5⟩ .perTap) resumed).isSome := by decide +kernel
  obtain ⟨final, runs⟩ := Option.isSome_iff_exists.mp isSome
  exact (hangover_kept_iff ⟨10, 500, 5⟩ .perTap runs).mpr (by decide +kernel)

/-- Nothing is received of the transmission: its clip is closed 10 ms after its end. -/
theorem unheard_clip_closes_early :
    ¬ ∀ (config : PlaybackConfig) (mode : RecordingMode) (calls : List FsmCall)
      (final : HangoverRun), runMoves step (new config mode) calls = some final →
      Guarded step HangoverLaw (new config mode) calls := by
  intro always
  have isSome : (runMoves step (new ⟨10, 500, 5⟩ .perTap)
      (transmission [] ++ [tickAt 610])).isSome := by decide +kernel
  have ended : (runMoves step (new ⟨10, 500, 5⟩ .perTap) (transmission [])).map
      (fun run => (run.fsm.clipAt .headset, run.endings .headset, run.fsm.hangover)) =
      some (some ⟨1, 0, 0, 0, ∅, {"DLH123"}, some 121500000⟩, some ⟨1, milliseconds 600⟩,
        milliseconds 500) := by decide +kernel
  obtain ⟨final, runs⟩ := Option.isSome_iff_exists.mp isSome
  obtain ⟨run, isRun, isEnded⟩ := Option.map_eq_some_iff.mp ended
  obtain ⟨isClip, rest⟩ := Prod.mk.inj isEnded
  obtain ⟨isEnding, hangover⟩ := Prod.mk.inj rest
  have law := ((always _ _ _ final runs).later isRun).1 .headset _ isClip
  have closes := law.symm.trans (tick_closes_iff isClip)
  rw [isEnding, hangover] at closes
  have due := closes.mpr ⟨rfl, by decide⟩
  exact absurd due (by simp [milliseconds])

end HangoverRun

end Playback

end Vacs
