import Vacs.Playback.Brackets

/-!
# The formats of clips

A tap has the format that was announced for it last, as long as it is open, and its open
clip was opened in this format. `formats_onEvent` says how an event changes the formats of
the taps, and `Formatted.call` that every call keeps the clips in the formats of their taps.
-/

set_option autoImplicit false

namespace Vacs

namespace Playback

/-- A sample rate and a number of channels. -/
abbrev AudioFormat : Type := ℕ × ℕ

namespace TapState

def format (entry : TapState) : AudioFormat :=
  (entry.sampleRate, entry.channels)

end TapState

/-- The formats of the taps after an event of the stream. -/
def announce (mode : RecordingMode) (formats : TapId → Option AudioFormat) :
    PlaybackSourceEvent → TapId → Option AudioFormat
  | .tapOpened tap sampleRate channels =>
      Function.update formats (Fsm.mapTap mode tap) (some (sampleRate, channels))
  | .tapClosed tap => Function.update formats (Fsm.mapTap mode tap) none
  | .frame _ _ _ | .rxBegin _ _ _ | .rxEnd _ _ _ => formats

/-- The formats in which clips were opened, after an action. -/
def noteAction (opened : ℕ → Option AudioFormat) : FsmAction → ℕ → Option AudioFormat
  | .openClip clipId _ sampleRate channels _ _ _ =>
      Function.update opened clipId (some (sampleRate, channels))
  | .writeFrame _ _ | .closeClip _ _ _ _ => opened

def noteActions (opened : ℕ → Option AudioFormat) (actions : List FsmAction) :
    ℕ → Option AudioFormat :=
  actions.foldl noteAction opened

namespace Fsm

/-- The formats of the taps that are open. -/
def formats (fsm : Fsm) (key : TapId) : Option AudioFormat :=
  (fsm.taps.lookup key).map TapState.format

/-- Every open clip was opened in the format of its tap. -/
def Formatted (fsm : Fsm) (opened : ℕ → Option AudioFormat) : Prop :=
  ∀ key entry clip, fsm.taps.lookup key = some entry → entry.openClip = some clip →
    clip.clipId < fsm.nextClipId ∧ opened clip.clipId = some entry.format

/-! ## The formats of the taps -/

theorem formats_insert {fsm next : Fsm} {key : TapId} {entry : TapState}
    (taps : next.taps = fsm.taps.insert key entry) :
    next.formats = Function.update fsm.formats key (some entry.format) := by
  funext other
  simp only [formats, taps, Finmap.lookup_insert_eq, Function.update_apply]
  split <;> rfl

/-- An entry that keeps its format may be replaced. -/
theorem formats_insert_same {fsm next : Fsm} {key : TapId} {entry changed : TapState}
    (taps : next.taps = fsm.taps.insert key changed)
    (isEntry : fsm.taps.lookup key = some entry) (same : changed.format = entry.format) :
    next.formats = fsm.formats := by
  rw [formats_insert taps, same]
  apply Function.update_eq_self_iff.mpr
  rw [formats, isEntry]
  rfl

section Formats

variable (fsm : Fsm)

theorem formats_tapOpened (tap : TapId) (sampleRate channels : ℕ) (now : Instant)
    (nowWall : SystemTime) :
    (fsm.tapOpened tap sampleRate channels now nowWall).1.formats =
      announce fsm.mode fsm.formats (.tapOpened tap sampleRate channels) := by
  unfold tapOpened
  simp only
  split
  · exact Eq.trans (formats_insert rfl) rfl
  · rename_i same
    obtain ⟨rate, count⟩ := not_or.mp same
    refine Eq.trans (formats_insert rfl) ?_
    rw [TapState.format, not_not.mp rate, not_not.mp count]
    rfl

theorem formats_frame (tap : TapId) (samples : Samples) (capturedAt : Instant)
    (nowWall : SystemTime) :
    (fsm.frame tap samples capturedAt nowWall).1.formats = fsm.formats := by
  unfold frame
  simp only
  split
  · rfl
  · rename_i entry isEntry
    split
    · rfl
    · split
      · exact formats_insert_same rfl isEntry rfl
      · exact formats_insert_same rfl isEntry rfl

theorem formats_rxBegin (tap : TapId) (callsign : String) (frequency : Frequency) (now : Instant)
    (nowWall : SystemTime) :
    (fsm.rxBegin tap callsign frequency now nowWall).1.formats = fsm.formats := by
  unfold rxBegin
  simp only
  split
  · rfl
  · rename_i entry isEntry
    split
    · exact formats_insert_same rfl isEntry rfl
    · exact formats_insert_same rfl isEntry rfl

theorem formats_rxEnd (callsign : String) (frequency : Frequency)
    (activeTransmitters : Option (List String)) :
    (fsm.rxEnd callsign frequency activeTransmitters).1.formats = fsm.formats := by
  funext key
  simp only [rxEnd, formats, Finmap.lookup_filterMap]
  cases fsm.taps.lookup key <;> rfl

theorem formats_onEvent (event : PlaybackSourceEvent) (now : Instant) (nowWall : SystemTime) :
    (fsm.onEvent event now nowWall).1.formats = announce fsm.mode fsm.formats event := by
  cases event with
  | tapOpened tap sampleRate channels =>
      exact fsm.formats_tapOpened tap sampleRate channels now nowWall
  | tapClosed tap =>
      funext key
      simp only [onEvent, tapClosed, formats, announce, Finmap.lookup_erase_eq,
        Function.update_apply]
      split <;> rfl
  | frame tap samples capturedAt => exact fsm.formats_frame tap samples capturedAt nowWall
  | rxBegin tap callsign frequency => exact fsm.formats_rxBegin tap callsign frequency now nowWall
  | rxEnd callsign frequency activeTransmitters =>
      exact fsm.formats_rxEnd callsign frequency activeTransmitters

end Formats

theorem formats_tickTap (now : Instant) (nowWall : SystemTime) (state : Fsm × List FsmAction)
    (key : TapId) : (tickTap now nowWall state key).1.formats = state.1.formats := by
  unfold tickTap
  split
  · rfl
  · rename_i entry isEntry
    split
    · exact formats_insert_same rfl isEntry rfl
    · rfl

theorem formats_tick (fsm : Fsm) (order : Enumeration TapId) (now : Instant)
    (nowWall : SystemTime) : (fsm.tick order now nowWall).1.formats = fsm.formats := by
  refine tick_induct (fun state => state.1.formats = fsm.formats) (fun state key same => ?_) rfl order
  exact (formats_tickTap now nowWall state key).trans same

/-! ## The formats of the clips -/

section Clips

variable {fsm next : Fsm} {opened : ℕ → Option AudioFormat}

/-- A tap gets a clip that was opened in its format, and the other clips stay as they were. -/
theorem Formatted.insert (formatted : fsm.Formatted opened) {key : TapId} {entry : TapState}
    {openedNext : ℕ → Option AudioFormat} (taps : next.taps = fsm.taps.insert key entry)
    (nextClipId : fsm.nextClipId ≤ next.nextClipId)
    (kept : ∀ clipId, clipId < fsm.nextClipId → openedNext clipId = opened clipId)
    (clips : ∀ clip, entry.openClip = some clip →
      clip.clipId < next.nextClipId ∧ openedNext clip.clipId = some entry.format) :
    next.Formatted openedNext := by
  intro other found clip isFound isOpen
  rw [taps, Finmap.lookup_insert_eq] at isFound
  split at isFound
  · cases isFound
    exact clips clip isOpen
  · obtain ⟨below, format⟩ := formatted other found clip isFound isOpen
    exact ⟨below.trans_le nextClipId, (kept _ below).trans format⟩

theorem noteActions_closeOpenClip (entry : TapState) (now : Instant) (nowWall : SystemTime) :
    noteActions opened (entry.closeOpenClip now nowWall).2 = opened := by
  unfold TapState.closeOpenClip
  cases entry.openClip <;> rfl

theorem Formatted.tapOpened (formatted : fsm.Formatted opened) (tap : TapId)
    (sampleRate channels : ℕ) (now : Instant) (nowWall : SystemTime) :
    (fsm.tapOpened tap sampleRate channels now nowWall).1.Formatted
      (noteActions opened (fsm.tapOpened tap sampleRate channels now nowWall).2) := by
  unfold Fsm.tapOpened
  simp only
  split
  · rw [noteActions_closeOpenClip]
    exact formatted.insert rfl le_rfl (fun _ _ => rfl) fun clip isOpen => by cases isOpen
  · refine formatted.insert rfl le_rfl (fun _ _ => rfl) fun clip isOpen => ?_
    cases isEntry : fsm.taps.lookup (mapTap fsm.mode tap) with
    | none =>
        rw [isEntry] at isOpen
        cases isOpen
    | some entry =>
        rw [isEntry] at isOpen
        exact formatted _ entry clip isEntry isOpen

theorem Formatted.tapClosed (formatted : fsm.Formatted opened) (tap : TapId) (now : Instant)
    (nowWall : SystemTime) :
    (fsm.tapClosed tap now nowWall).1.Formatted
      (noteActions opened (fsm.tapClosed tap now nowWall).2) := by
  have same : noteActions opened (fsm.tapClosed tap now nowWall).2 = opened := by
    unfold Fsm.tapClosed
    simp only
    split
    · rfl
    · exact noteActions_closeOpenClip ..
  rw [same]
  intro key entry clip isEntry isOpen
  simp only [Fsm.tapClosed, Finmap.lookup_erase_eq] at isEntry
  split at isEntry
  · cases isEntry
  · exact formatted key entry clip isEntry isOpen

theorem Formatted.frame (formatted : fsm.Formatted opened) (tap : TapId) (samples : Samples)
    (capturedAt : Instant) (nowWall : SystemTime) :
    (fsm.frame tap samples capturedAt nowWall).1.Formatted
      (noteActions opened (fsm.frame tap samples capturedAt nowWall).2) := by
  unfold Fsm.frame
  simp only
  split
  · exact formatted
  · rename_i entry isEntry
    split
    · exact formatted
    · rename_i clip isOpen
      split
      · refine formatted.insert rfl (Nat.le_succ _) (fun clipId below => ?_) fun next isNext => ?_
        · exact Function.update_of_ne (Nat.ne_of_lt below) ..
        · cases isNext
          exact ⟨Nat.lt_succ_self _, Function.update_self ..⟩
      · refine formatted.insert rfl le_rfl (fun _ _ => rfl) fun heard isHeard => ?_
        cases isHeard
        split
        · exact formatted _ entry clip isEntry isOpen
        · exact formatted _ entry clip isEntry isOpen

theorem Formatted.rxBegin (formatted : fsm.Formatted opened) (tap : TapId) (callsign : String)
    (frequency : Frequency) (now : Instant) (nowWall : SystemTime) :
    (fsm.rxBegin tap callsign frequency now nowWall).1.Formatted
      (noteActions opened (fsm.rxBegin tap callsign frequency now nowWall).2) := by
  unfold Fsm.rxBegin
  simp only
  split
  · exact formatted
  · rename_i entry isEntry
    split
    · rename_i clip isOpen
      refine formatted.insert rfl le_rfl (fun _ _ => rfl) fun joined isJoined => ?_
      cases isJoined
      exact formatted _ entry clip isEntry isOpen
    · refine formatted.insert rfl (Nat.le_succ _) (fun clipId below => ?_) fun clip isClip => ?_
      · exact Function.update_of_ne (Nat.ne_of_lt below) ..
      · cases isClip
        exact ⟨Nat.lt_succ_self _, Function.update_self ..⟩

theorem Formatted.rxEnd (formatted : fsm.Formatted opened) (callsign : String)
    (frequency : Frequency) (activeTransmitters : Option (List String)) :
    (fsm.rxEnd callsign frequency activeTransmitters).1.Formatted
      (noteActions opened (fsm.rxEnd callsign frequency activeTransmitters).2) := by
  intro key entry clip isEntry isOpen
  simp only [Fsm.rxEnd, Finmap.lookup_filterMap] at isEntry
  obtain ⟨before, isBefore, same⟩ := Option.bind_eq_some_iff.mp isEntry
  cases same
  obtain ⟨clipBefore, isOpenBefore, rfl⟩ := Option.map_eq_some_iff.mp isOpen
  exact formatted key before clipBefore isBefore isOpenBefore

/-- One round of the loop of a tick. -/
theorem Formatted.tickTap {state : Fsm × List FsmAction}
    (formatted : state.1.Formatted (noteActions opened state.2)) (now : Instant)
    (nowWall : SystemTime) (key : TapId) :
    (Fsm.tickTap now nowWall state key).1.Formatted
      (noteActions opened (Fsm.tickTap now nowWall state key).2) := by
  unfold Fsm.tickTap
  split
  · exact formatted
  · rename_i entry isEntry
    split
    · have same : noteActions opened (state.2 ++ (entry.closeOpenClip now nowWall).2) =
          noteActions opened state.2 := by
        rw [noteActions, List.foldl_append]
        exact noteActions_closeOpenClip entry now nowWall
      simp only [same]
      exact formatted.insert rfl le_rfl (fun _ _ => rfl) fun clip isOpen => by cases isOpen
    · exact formatted

theorem Formatted.tick (formatted : fsm.Formatted opened) (order : Enumeration TapId)
    (now : Instant) (nowWall : SystemTime) :
    (fsm.tick order now nowWall).1.Formatted
      (noteActions opened (fsm.tick order now nowWall).2) := by
  refine tick_induct (fun state => state.1.Formatted (noteActions opened state.2)) ?_ formatted order
  exact fun state key formatted => formatted.tickTap now nowWall key

/-- Every call keeps the clips in the formats of their taps. -/
theorem Formatted.call (formatted : fsm.Formatted opened) (call : FsmCall) :
    (fsm.call call).1.Formatted (noteActions opened (fsm.call call).2) := by
  cases call with
  | tick order now nowWall => exact formatted.tick order now nowWall
  | event event now nowWall =>
      cases event with
      | tapOpened tap sampleRate channels =>
          exact formatted.tapOpened tap sampleRate channels now nowWall
      | tapClosed tap => exact formatted.tapClosed tap now nowWall
      | frame tap samples capturedAt => exact formatted.frame tap samples capturedAt nowWall
      | rxBegin tap callsign frequency =>
          exact formatted.rxBegin tap callsign frequency now nowWall
      | rxEnd callsign frequency activeTransmitters =>
          exact formatted.rxEnd callsign frequency activeTransmitters

end Clips

end Fsm

end Playback

end Vacs
