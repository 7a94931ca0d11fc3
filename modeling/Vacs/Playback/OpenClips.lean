import Vacs.Playback.Brackets

/-!
# The open clips of the taps

What every call of the state machine does to the open clip of a tap: a frame may replace
it by its successor, a transmission joins it or opens it, the end of a transmission takes
transmitters from it, and a tick removes it when its hangover has passed (`clipAt_tick`).
Only a frame whose tap has an open clip is written (`writeFrame_of_mem`).
-/

set_option autoImplicit false

namespace Vacs

namespace Playback

namespace Fsm

/-- The open clip of a tap. -/
def clipAt (fsm : Fsm) (key : TapId) : Option OpenClip :=
  (fsm.taps.lookup key).bind TapState.openClip

/-- A format differs from that of the open tap. -/
def reformats (fsm : Fsm) (key : TapId) (sampleRate channels : ℕ) : Bool :=
  (fsm.taps.lookup key).any fun entry =>
    decide (entry.sampleRate ≠ sampleRate ∨ entry.channels ≠ channels)

/-- The clip of a tap after a frame: the successor of one that is too long. -/
def afterFrame (fsm : Fsm) (capturedAt : Instant) (nowWall : SystemTime) (clip : OpenClip) :
    OpenClip :=
  if fsm.maxClipDuration ≤ capturedAt - clip.startedAt then
    { clip with
      clipId := fsm.nextClipId
      startedAt := capturedAt
      startedAtWall := nowWall
      lastAudioAt := capturedAt }
  else if clip.transmitters = ∅ then clip
  else { clip with lastAudioAt := capturedAt }

/-- The clip of a tap after a transmission has begun. -/
def afterBegin (fsm : Fsm) (transmitter : Transmitter) (now : Instant) (nowWall : SystemTime) :
    Option OpenClip → OpenClip
  | some clip =>
      { clip with
        callsigns := insert transmitter.callsign clip.callsigns
        transmitters := insert transmitter clip.transmitters
        lastAudioAt := now }
  | none =>
      { clipId := fsm.nextClipId
        startedAt := now
        startedAtWall := nowWall
        lastAudioAt := now
        transmitters := {transmitter}
        callsigns := {transmitter.callsign}
        frequency := some transmitter.frequency }

section Events

variable {fsm : Fsm} {key : TapId}

theorem clipAt_of_entry {entry : TapState} (isEntry : fsm.taps.lookup key = some entry) :
    fsm.clipAt key = entry.openClip := by
  rw [clipAt, isEntry]
  rfl

theorem clipAt_eq_some_iff {clip : OpenClip} :
    fsm.clipAt key = some clip ↔
      ∃ entry, fsm.taps.lookup key = some entry ∧ entry.openClip = some clip :=
  Option.bind_eq_some_iff

theorem mem_keys_of_clipAt {clip : OpenClip} (isOpen : fsm.clipAt key = some clip) :
    key ∈ fsm.taps.keys := by
  obtain ⟨entry, isEntry, -⟩ := clipAt_eq_some_iff.mp isOpen
  rw [Finmap.mem_keys]
  exact Finmap.mem_of_lookup_eq_some isEntry

theorem clipAt_of_none (isNone : fsm.taps.lookup key = none) : fsm.clipAt key = none := by
  rw [clipAt, isNone]
  rfl

theorem clipAt_insert_self {next : Fsm} {entry : TapState}
    (taps : next.taps = fsm.taps.insert key entry) : next.clipAt key = entry.openClip := by
  rw [clipAt, taps, Finmap.lookup_insert]
  rfl

theorem clipAt_insert_of_ne {next : Fsm} {entry : TapState} {other : TapId}
    (taps : next.taps = fsm.taps.insert key entry) (differs : other ≠ key) :
    next.clipAt other = fsm.clipAt other := by
  rw [clipAt, taps, Finmap.lookup_insert_of_ne _ differs]
  rfl

@[simp] theorem afterFrame_transmitters (capturedAt : Instant) (nowWall : SystemTime)
    (clip : OpenClip) :
    (fsm.afterFrame capturedAt nowWall clip).transmitters = clip.transmitters := by
  unfold afterFrame
  split
  · rfl
  · split <;> rfl

theorem mem_afterBegin (transmitter : Transmitter) (now : Instant) (nowWall : SystemTime)
    (clip : Option OpenClip) :
    transmitter ∈ (fsm.afterBegin transmitter now nowWall clip).transmitters := by
  cases clip with
  | none => exact Finset.mem_singleton_self _
  | some clip => exact Finset.mem_insert_self ..

variable (fsm key)

theorem clipAt_tapOpened (tap : TapId) (sampleRate channels : ℕ) (now : Instant)
    (nowWall : SystemTime) :
    (fsm.tapOpened tap sampleRate channels now nowWall).1.clipAt key =
      if key = mapTap fsm.mode tap ∧ fsm.reformats key sampleRate channels then none
      else fsm.clipAt key := by
  by_cases same : key = mapTap fsm.mode tap
  · subst same
    cases isEntry : fsm.taps.lookup (mapTap fsm.mode tap) with
    | none => simp [tapOpened, reformats, clipAt, setTap, isEntry]
    | some entry =>
        by_cases changes : entry.sampleRate ≠ sampleRate ∨ entry.channels ≠ channels
        · simp only [tapOpened, reformats, isEntry, Option.getD_some, if_pos changes,
            Option.any_some, decide_eq_true changes, and_self, if_true]
          exact Eq.trans (clipAt_insert_self rfl) rfl
        · simp only [tapOpened, reformats, isEntry, Option.getD_some, if_neg changes,
            Option.any_some, decide_eq_false changes, Bool.false_eq_true, and_false, if_false]
          exact (clipAt_insert_self rfl).trans (clipAt_of_entry isEntry).symm
  · simp only [tapOpened, same, false_and, if_false]
    split
    · exact clipAt_insert_of_ne rfl same
    · exact clipAt_insert_of_ne rfl same

theorem clipAt_tapClosed (tap : TapId) (now : Instant) (nowWall : SystemTime) :
    (fsm.tapClosed tap now nowWall).1.clipAt key =
      if key = mapTap fsm.mode tap then none else fsm.clipAt key := by
  simp only [tapClosed, clipAt, Finmap.lookup_erase_eq]
  split <;> rfl

theorem clipAt_frame (tap : TapId) (samples : Samples) (capturedAt : Instant)
    (nowWall : SystemTime) :
    (fsm.frame tap samples capturedAt nowWall).1.clipAt key =
      if key = mapTap fsm.mode tap then (fsm.clipAt key).map (fsm.afterFrame capturedAt nowWall)
      else fsm.clipAt key := by
  unfold frame
  simp only
  split
  · rename_i isNone
    split
    · rename_i same
      rw [same, clipAt_of_none isNone]
      rfl
    · rfl
  · rename_i entry isEntry
    split
    · rename_i isNone
      split
      · rename_i same
        rw [same, clipAt_of_entry isEntry, isNone]
        rfl
      · rfl
    · rename_i clip isOpen
      by_cases same : key = mapTap fsm.mode tap
      · subst same
        rw [if_pos rfl, clipAt_of_entry isEntry, isOpen]
        simp only [Option.map_some, afterFrame]
        split
        · exact Eq.trans (clipAt_insert_self rfl) rfl
        · exact Eq.trans (clipAt_insert_self rfl) rfl
      · rw [if_neg same]
        split
        · exact clipAt_insert_of_ne rfl same
        · exact clipAt_insert_of_ne rfl same

theorem clipAt_rxBegin (tap : TapId) (callsign : String) (frequency : Frequency) (now : Instant)
    (nowWall : SystemTime) :
    (fsm.rxBegin tap callsign frequency now nowWall).1.clipAt key =
      if key = mapTap fsm.mode tap then
        (fsm.taps.lookup key).map fun entry =>
          fsm.afterBegin ⟨callsign, frequency⟩ now nowWall entry.openClip
      else fsm.clipAt key := by
  unfold rxBegin
  simp only
  split
  · rename_i isNone
    split
    · rename_i same
      rw [same, clipAt_of_none isNone, isNone]
      rfl
    · rfl
  · rename_i entry isEntry
    by_cases same : key = mapTap fsm.mode tap
    · subst same
      rw [if_pos rfl, isEntry]
      split
      · rename_i clip isOpen
        refine (clipAt_insert_self rfl).trans ?_
        simp only [Option.map_some, isOpen, afterBegin]
      · rename_i isOpen
        refine (clipAt_insert_self rfl).trans ?_
        simp only [Option.map_some, isOpen, afterBegin]
    · rw [if_neg same]
      split
      · exact clipAt_insert_of_ne rfl same
      · exact clipAt_insert_of_ne rfl same

theorem clipAt_rxEnd (callsign : String) (frequency : Frequency)
    (activeTransmitters : Option (List String)) :
    (fsm.rxEnd callsign frequency activeTransmitters).1.clipAt key =
      (fsm.clipAt key).map fun clip =>
        clip.endTransmitter ⟨callsign, frequency⟩ activeTransmitters := by
  simp only [rxEnd, clipAt, Finmap.lookup_filterMap]
  cases fsm.taps.lookup key <;> rfl

end Events

/-! ## Ticks -/

section Ticks

variable {now : Instant} {nowWall : SystemTime}

theorem clipAt_tickTap (state : Fsm × List FsmAction) (key other : TapId) :
    (tickTap now nowWall state key).1.clipAt other =
      if other = key then
        (state.1.clipAt other).filter fun clip => !shouldClose state.1.hangover now clip
      else state.1.clipAt other := by
  by_cases same : other = key
  · subst same
    rw [if_pos rfl]
    cases isEntry : state.1.taps.lookup other with
    | none => simp only [tickTap, isEntry, clipAt, Option.bind_none, Option.filter_none]
    | some entry =>
        rw [clipAt_of_entry isEntry]
        cases isOpen : entry.openClip with
        | none => simp [tickTap, isEntry, isOpen, clipAt]
        | some clip =>
            cases due : shouldClose state.1.hangover now clip with
            | false => simp [tickTap, isEntry, isOpen, due, clipAt, Option.filter_some]
            | true => simp [tickTap, isEntry, isOpen, due, clipAt, setTap, TapState.closeOpenClip, Option.filter_some]
  · rw [if_neg same]
    unfold tickTap
    split
    · rfl
    · split
      · exact clipAt_insert_of_ne rfl same
      · rfl

/-- The loop of a tick, by induction on the taps that are ahead. -/
theorem clipAt_tickTaps (keys : List TapId) (state : Fsm × List FsmAction) (other : TapId) :
    (keys.foldl (tickTap now nowWall) state).1.clipAt other =
      if other ∈ keys then
        (state.1.clipAt other).filter fun clip => !shouldClose state.1.hangover now clip
      else state.1.clipAt other := by
  induction keys generalizing state with
  | nil => rfl
  | cons key keys ih =>
      rw [List.foldl_cons, ih, (tickTap_config now nowWall state key).2, clipAt_tickTap]
      by_cases same : other = key
      · simp [same, Option.filter_filter]
      · simp [same]

theorem clipAt_tick (fsm : Fsm) (order : Enumeration TapId) (now : Instant) (nowWall : SystemTime)
    (key : TapId) :
    (fsm.tick order now nowWall).1.clipAt key =
      (fsm.clipAt key).filter fun clip => !shouldClose fsm.hangover now clip := by
  rw [tick, clipAt_tickTaps]
  split
  · rfl
  · rename_i absent
    have isNone : fsm.taps.lookup key = none := by
      rw [Finmap.lookup_eq_none, ← Finmap.mem_keys]
      simpa using absent
    rw [clipAt_of_none isNone]
    rfl

theorem subset_tickTaps (keys : List TapId) (state : Fsm × List FsmAction) :
    state.2 ⊆ (keys.foldl (tickTap now nowWall) state).2 := by
  induction keys generalizing state with
  | nil => exact fun _ member => member
  | cons key keys ih =>
      refine List.Subset.trans ?_ (ih _)
      unfold tickTap
      split
      · exact fun _ member => member
      · split
        · exact List.subset_append_left ..
        · exact fun _ member => member

theorem closeAction_mem_tickTaps {key : TapId} {clip : OpenClip} (keys : List TapId)
    (state : Fsm × List FsmAction) (isOpen : state.1.clipAt key = some clip)
    (due : shouldClose state.1.hangover now clip) (ahead : key ∈ keys) :
    clip.closeAction now nowWall ∈ (keys.foldl (tickTap now nowWall) state).2 := by
  induction keys generalizing state with
  | nil => cases ahead
  | cons other keys ih =>
      by_cases same : key = other
      · subst same
        refine subset_tickTaps keys _ ?_
        obtain ⟨entry, isEntry, isOpen⟩ := clipAt_eq_some_iff.mp isOpen
        simp [tickTap, isEntry, isOpen, due, TapState.closeOpenClip]
      · refine ih _ ?_ ?_ ((List.mem_cons.mp ahead).resolve_left same)
        · rw [clipAt_tickTap, if_neg same, isOpen]
        · rw [(tickTap_config now nowWall state other).2]
          exact due

theorem closeAction_mem_tick {fsm : Fsm} {key : TapId} {clip : OpenClip}
    (isOpen : fsm.clipAt key = some clip) (due : shouldClose fsm.hangover now clip)
    (order : Enumeration TapId) (nowWall : SystemTime) :
    clip.closeAction now nowWall ∈ (fsm.tick order now nowWall).2 := by
  refine closeAction_mem_tickTaps _ (fsm, []) isOpen due ?_
  rw [Enumeration.mem_list]
  exact mem_keys_of_clipAt isOpen

end Ticks

/-! ## What is written -/

section Writes

variable {fsm : Fsm}

theorem writeFrame_notMem_close {entry : TapState} {now : Instant} {nowWall : SystemTime}
    {clipId : ℕ} {written : Samples} :
    .writeFrame clipId written ∉ (entry.closeOpenClip now nowWall).2 := by
  unfold TapState.closeOpenClip
  cases entry.openClip with
  | none => exact List.not_mem_nil
  | some clip =>
      intro member
      cases List.mem_singleton.mp member

/-- Only a frame whose tap has an open clip is written, to this clip. -/
theorem writeFrame_of_mem {event : PlaybackSourceEvent} {now : Instant} {nowWall : SystemTime}
    {clipId : ℕ} {written : Samples}
    (member : .writeFrame clipId written ∈ (fsm.onEvent event now nowWall).2) :
    ∃ tap samples capturedAt clip, event = .frame tap samples capturedAt ∧
      fsm.clipAt (mapTap fsm.mode tap) = some clip ∧ clip.clipId = clipId := by
  cases event with
  | tapOpened tap sampleRate channels =>
      simp only [onEvent, tapOpened] at member
      split at member
      · exact absurd member writeFrame_notMem_close
      · cases member
  | tapClosed tap =>
      simp only [onEvent, tapClosed] at member
      split at member
      · cases member
      · exact absurd member writeFrame_notMem_close
  | frame tap samples capturedAt =>
      simp only [onEvent, frame] at member
      split at member
      · cases member
      · rename_i entry isEntry
        split at member
        · cases member
        · rename_i clip isOpen
          have same : clipId = clip.clipId ∧ written = samples := by
            split at member
            · simpa [OpenClip.closeAction] using member
            · simpa using member
          exact ⟨tap, samples, capturedAt, clip, rfl, (clipAt_of_entry isEntry).trans isOpen,
            same.1.symm⟩
  | rxBegin tap callsign frequency =>
      simp only [onEvent, rxBegin] at member
      split at member
      · cases member
      · split at member
        · cases member
        · cases List.mem_singleton.mp member
  | rxEnd callsign frequency activeTransmitters => cases member

theorem writeFrame_mem {tap : TapId} {samples : Samples} {capturedAt : Instant} {clip : OpenClip}
    (isOpen : fsm.clipAt (mapTap fsm.mode tap) = some clip) (now : Instant)
    (nowWall : SystemTime) :
    .writeFrame clip.clipId samples ∈
      (fsm.onEvent (.frame tap samples capturedAt) now nowWall).2 := by
  obtain ⟨entry, isEntry, isOpen⟩ := clipAt_eq_some_iff.mp isOpen
  simp only [onEvent, frame, isEntry, isOpen]
  split <;> exact List.mem_cons_self

theorem writeFrame_notMem_tick {order : Enumeration TapId} {now : Instant}
    {nowWall : SystemTime} {clipId : ℕ} {written : Samples} :
    .writeFrame clipId written ∉ (fsm.tick order now nowWall).2 := by
  refine tick_induct (fun state => .writeFrame clipId written ∉ state.2)
    (fun state key unwritten => ?_) List.not_mem_nil order
  unfold tickTap
  split
  · exact unwritten
  · split
    · exact fun member => (List.mem_append.mp member).elim unwritten writeFrame_notMem_close
    · exact unwritten

end Writes

end Fsm

end Playback

end Vacs
