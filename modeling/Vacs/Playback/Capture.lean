import Vacs.Foundations.GuardedRuns
import Vacs.Playback.ClipFormats
import Vacs.Playback.Forwarder
import Vacs.Playback.OpenClips

/-!
# Capturing with PipeWire

The audio of every node of the radio client is captured by a stream of its own. A stream
announces its format when it has negotiated one for the first time, and sends frames from
then on; the forwarder passes both on to the state machine, which opens clips in the
format that was announced last for their tap.

What a stream negotiates later is not announced, two nodes of one tap announce formats for
the same tap, and an announcement is lost when the channel to the forwarder is full. A
clip is written in the format in which it was opened exactly when every frame that is
written was captured in the format that was announced last (`written_in_format_iff`).
-/

set_option autoImplicit false

namespace Vacs

namespace Playback

open GuardedRuns

/-- The capacity of the channel to the forwarder. -/
def captureChannelCapacity : ℕ := 1024

/-- A capture stream and what it has negotiated. -/
structure CaptureStream where
  tap : TapId
  opened : Bool
  sampleRate : ℕ
  channels : ℕ
  /-- The format of the buffers that the stream delivers. -/
  negotiated : Option AudioFormat
deriving DecidableEq

/-- How a frame was captured: its format, and the one announced last for its tap. -/
structure FrameTag where
  captured : AudioFormat
  announced : Option AudioFormat
deriving DecidableEq

structure CaptureRun where
  /-- The streams, by the node that they capture. -/
  captures : HashMap ℕ CaptureStream
  channel : List (LoopbackEvent × Option FrameTag)
  forwarder : Forwarder
  stream : List (PlaybackSourceEvent × Option FrameTag)
  fsm : Fsm
  /-- The formats announced last, and not withdrawn, for the taps of the state machine. -/
  announced : TapId → Option AudioFormat
  /-- The formats in which clips were opened. -/
  opened : ℕ → Option AudioFormat

inductive CaptureMove where
  /-- A node of the radio client appears. -/
  | global (node : ℕ) (tap : TapId)
  | globalRemove (node : ℕ)
  /-- The stream of a node negotiates a format, which its listener may fail to parse. -/
  | paramChanged (node : ℕ) (format : AudioFormat) (parsed : Bool)
  | process (node : ℕ) (samples : Samples) (capturedAt : Instant)
  /-- The forwarder receives a captured event, or one of the radio client. -/
  | forwardCapture
  | forwardRadio (event : TrackAudioEvent) (state : TrackAudioState)
      (order : Enumeration Transmitter)
  /-- The state machine handles the next event of the forwarder. -/
  | handle (now : Instant) (nowWall : SystemTime)
  | tick (order : Enumeration TapId) (now : Instant) (nowWall : SystemTime)

namespace CaptureRun

def new (config : PlaybackConfig) (mode : RecordingMode) : CaptureRun where
  captures := ∅
  channel := []
  forwarder := {}
  stream := []
  fsm := .new config mode
  announced := fun _ => none
  opened := fun _ => none

/-- Send to the forwarder, unless the channel is full. -/
def trySend (run : CaptureRun) (event : LoopbackEvent) (tag : Option FrameTag) : CaptureRun :=
  if run.channel.length < captureChannelCapacity then
    { run with
      channel := run.channel ++ [(event, tag)]
      announced := announce run.fsm.mode run.announced (Forwarder.captured event) }
  else run

def paramChanged (run : CaptureRun) (node : ℕ) (capture : CaptureStream) (format : AudioFormat)
    (parsed : Bool) : CaptureRun :=
  if parsed then
    let channels := format.2 % 2 ^ 16
    let updated : CaptureStream :=
      { capture with sampleRate := format.1, channels, negotiated := some format }
    if !capture.opened ∧ 0 < format.1 ∧ 0 < format.2 then
      { run with captures := run.captures.insert node { updated with opened := true } }.trySend
        (.opened capture.tap format.1 channels) none
    else { run with captures := run.captures.insert node updated }
  else
    { run with captures := run.captures.insert node { capture with negotiated := some format } }

def step (run : CaptureRun) : CaptureMove → Option CaptureRun
  | .global node tap => some { run with captures := run.captures.insert node ⟨tap, false, 0, 0, none⟩ }
  | .globalRemove node =>
      match run.captures.lookup node with
      | none => some run
      | some capture =>
          some ({ run with captures := run.captures.erase node }.trySend (.closed capture.tap) none)
  | .paramChanged node format parsed =>
      (run.captures.lookup node).map fun capture => run.paramChanged node capture format parsed
  | .process node samples capturedAt =>
      (run.captures.lookup node).bind fun capture =>
        capture.negotiated.map fun format =>
          run.trySend (.frame capture.tap samples capturedAt)
            (some ⟨format, run.announced (Fsm.mapTap run.fsm.mode capture.tap)⟩)
  | .forwardCapture =>
      match run.channel with
      | [] => none
      | (event, tag) :: channel =>
          let (forwarder, events) := run.forwarder.handle (.capture event)
          some { run with channel, forwarder, stream := run.stream ++ events.map (·, tag) }
  | .forwardRadio event state order =>
      let (forwarder, events) := run.forwarder.handle (.radio event state order)
      some { run with forwarder, stream := run.stream ++ events.map (·, none) }
  | .handle now nowWall =>
      match run.stream with
      | [] => none
      | (event, _) :: stream =>
          let (fsm, actions) := run.fsm.call (.event event now nowWall)
          some { run with stream, fsm, opened := noteActions run.opened actions }
  | .tick order now nowWall =>
      let (fsm, actions) := run.fsm.call (.tick order now nowWall)
      some { run with fsm, opened := noteActions run.opened actions }

/-! ## The law and its condition -/

/-- The actions of the state machine in a step. -/
def actions (run : CaptureRun) : CaptureMove → List FsmAction
  | .handle now nowWall =>
      match run.stream with
      | [] => []
      | (event, _) :: _ => (run.fsm.call (.event event now nowWall)).2
  | .tick order now nowWall => (run.fsm.call (.tick order now nowWall)).2
  | _ => []

/-- The tap of a frame. -/
def frameTap : PlaybackSourceEvent → Option TapId
  | .frame tap _ _ => some tap
  | _ => none

/-- The tag of the event that is handled next. -/
def nextTag (run : CaptureRun) : Option FrameTag :=
  run.stream.head?.bind Prod.snd

/-- What is written in a step was captured in the format in which its clip was opened. -/
def WritesTrueFormat (run : CaptureRun) (move : CaptureMove) : Prop :=
  ∀ clipId samples, FsmAction.writeFrame clipId samples ∈ run.actions move →
    ∃ tag, run.nextTag = some tag ∧ run.opened clipId = some tag.captured

/-- A frame that arrives while its tap has an open clip was captured in the format that was
announced last for the tap. -/
def CapturedAsAnnounced (run : CaptureRun) : CaptureMove → Prop
  | .handle _ _ =>
      ∀ next ∈ run.stream.head?, ∀ tag ∈ next.2, ∀ tap ∈ frameTap next.1,
        (run.fsm.clipAt (Fsm.mapTap run.fsm.mode tap)).isSome →
        tag.announced = some tag.captured
  | _ => True

instance (run : CaptureRun) : DecidablePred run.CapturedAsAnnounced
  | .handle _ _ =>
      inferInstanceAs (Decidable (∀ next ∈ run.stream.head?, ∀ tag ∈ next.2,
        ∀ tap ∈ frameTap next.1, (run.fsm.clipAt (Fsm.mapTap run.fsm.mode tap)).isSome →
        tag.announced = some tag.captured))
  | .global _ _ | .globalRemove _ | .paramChanged _ _ _ | .process _ _ _ | .forwardCapture
  | .forwardRadio _ _ _ | .tick _ _ _ => isTrue trivial

end CaptureRun

/-! ## The events under way -/

/-- The frames that are under way to a state machine with these formats carry the formats
that it will have when it handles them. -/
def Tagged (mode : RecordingMode) :
    (TapId → Option AudioFormat) → List (PlaybackSourceEvent × Option FrameTag) → Prop
  | _, [] => True
  | formats, (event, tag) :: queue =>
      (∀ tap samples capturedAt, event = .frame tap samples capturedAt →
        ∃ captured, tag = some ⟨captured, formats (Fsm.mapTap mode tap)⟩) ∧
      Tagged mode (announce mode formats event) queue

/-- The formats after the events of a queue. -/
def announceAll (mode : RecordingMode) (formats : TapId → Option AudioFormat)
    (queue : List (PlaybackSourceEvent × Option FrameTag)) : TapId → Option AudioFormat :=
  queue.foldl (fun formats entry => announce mode formats entry.1) formats

section Queues

variable {mode : RecordingMode} {formats : TapId → Option AudioFormat}
  {queue later : List (PlaybackSourceEvent × Option FrameTag)}

theorem announceAll_append :
    announceAll mode formats (queue ++ later) =
      announceAll mode (announceAll mode formats queue) later :=
  List.foldl_append

theorem tagged_append :
    Tagged mode formats (queue ++ later) ↔
      Tagged mode formats queue ∧ Tagged mode (announceAll mode formats queue) later := by
  induction queue generalizing formats with
  | nil => exact ⟨fun tagged => ⟨trivial, tagged⟩, And.right⟩
  | cons entry queue ih =>
      obtain ⟨event, tag⟩ := entry
      simp only [List.cons_append, Tagged, ih, and_assoc]
      rfl

/-- A reception: its events say nothing about formats. -/
def IsReception : PlaybackSourceEvent → Prop
  | .rxBegin _ _ _ | .rxEnd _ _ _ => True
  | .tapOpened _ _ _ | .tapClosed _ | .frame _ _ _ => False

theorem announceAll_receptions (receptions : ∀ entry ∈ queue, IsReception entry.1) :
    announceAll mode formats queue = formats := by
  induction queue with
  | nil => rfl
  | cons entry queue ih =>
      obtain ⟨event, tag⟩ := entry
      have isReception := receptions _ List.mem_cons_self
      have same : announce mode formats event = formats := by
        cases event <;> first | rfl | exact isReception.elim
      rw [announceAll, List.foldl_cons, same]
      exact ih fun entry member => receptions entry (List.mem_cons_of_mem _ member)

theorem tagged_receptions (receptions : ∀ entry ∈ queue, IsReception entry.1) :
    Tagged mode formats queue := by
  induction queue generalizing formats with
  | nil => trivial
  | cons entry queue ih =>
      obtain ⟨event, tag⟩ := entry
      refine ⟨?_, ih fun entry member => receptions entry (List.mem_cons_of_mem _ member)⟩
      rintro tap samples capturedAt rfl
      exact (receptions _ List.mem_cons_self).elim

end Queues

namespace Forwarder

/-- The loop over the receptions that move, by induction on them. -/
theorem migrated_receptions (newTap : TapId) (transmitters : List Transmitter)
    (state : Forwarder × List PlaybackSourceEvent)
    (receptions : ∀ output ∈ state.2, IsReception output) :
    ∀ output ∈ (transmitters.foldl (migrateOne newTap) state).2, IsReception output := by
  induction transmitters generalizing state with
  | nil => exact receptions
  | cons transmitter transmitters ih =>
      refine ih _ fun output member => ?_
      obtain member | member := List.mem_append.mp member
      · exact receptions output member
      · obtain rfl | rfl : output = _ ∨ output = _ := by simpa using member
        · trivial
        · trivial

theorem handle_radio_receptions (forwarder : Forwarder) (event : TrackAudioEvent)
    (state : TrackAudioState) (order : Enumeration Transmitter) :
    ∀ output ∈ (forwarder.handle (.radio event state order)).2, IsReception output := by
  cases event with
  | rxBegin callsign frequency =>
      intro output member
      rw [List.mem_singleton.mp member]
      trivial
  | rxEnd callsign frequency activeTransmitters =>
      intro output member
      rw [List.mem_singleton.mp member]
      trivial
  | stationStateUpdate frequency headset =>
      simp only [handle]
      unfold stationStateUpdate
      split
      · exact migrated_receptions _ _ _ fun _ member => absurd member List.not_mem_nil
      · exact fun _ member => absurd member List.not_mem_nil

end Forwarder

/-! ## The invariant -/

namespace CaptureRun

/-- The events that the state machine is still to handle. -/
def underway (run : CaptureRun) : List (PlaybackSourceEvent × Option FrameTag) :=
  run.stream ++ run.channel.map fun entry => (Forwarder.captured entry.1, entry.2)

structure Sound (run : CaptureRun) : Prop where
  formatted : run.fsm.Formatted run.opened
  tagged : Tagged run.fsm.mode run.fsm.formats run.underway
  announced : run.announced = announceAll run.fsm.mode run.fsm.formats run.underway

theorem new_sound (config : PlaybackConfig) (mode : RecordingMode) : (new config mode).Sound where
  formatted := by
    intro key entry clip isEntry
    simp [new, Fsm.new] at isEntry
  tagged := trivial
  announced := by
    funext key
    simp [new, Fsm.new, underway, announceAll, Fsm.formats]

section Steps

variable {run next : CaptureRun}

theorem Sound.withCaptures (sound : run.Sound) (captures : HashMap ℕ CaptureStream) :
    Sound { run with captures } :=
  ⟨sound.formatted, sound.tagged, sound.announced⟩

theorem Sound.trySend (sound : run.Sound) {event : LoopbackEvent} {tag : Option FrameTag}
    (fits : ∀ tap samples capturedAt, event = .frame tap samples capturedAt →
      ∃ captured, tag = some ⟨captured, run.announced (Fsm.mapTap run.fsm.mode tap)⟩) :
    (run.trySend event tag).Sound := by
  unfold CaptureRun.trySend
  split_ifs
  · have queued : underway
        { run with
          channel := run.channel ++ [(event, tag)]
          announced := announce run.fsm.mode run.announced (Forwarder.captured event) } =
        run.underway ++ [(Forwarder.captured event, tag)] := by
      simp [underway]
    refine ⟨sound.formatted, ?_, ?_⟩
    · rw [queued, tagged_append, ← sound.announced]
      refine ⟨sound.tagged, fun tap samples capturedAt isFrame => ?_, trivial⟩
      cases event with
      | frame => cases isFrame; exact fits tap samples capturedAt rfl
      | opened => cases isFrame
      | closed => cases isFrame
    · rw [queued, announceAll_append, ← sound.announced]
      rfl
  · exact sound

/-- The state machine is called: its formats follow the event. -/
theorem Sound.handle (sound : run.Sound) {now : Instant} {nowWall : SystemTime}
    (steps : run.step (.handle now nowWall) = some next) : next.Sound := by
  cases queue : run.stream with
  | nil => simp [step, queue] at steps
  | cons entry stream =>
      obtain ⟨event, tag⟩ := entry
      simp only [step, queue, Option.some.injEq] at steps
      subst steps
      have mode := run.fsm.call_mode (.event event now nowWall)
      have formats := run.fsm.formats_onEvent event now nowWall
      have queued : run.underway = (event, tag) ::
          (stream ++ run.channel.map fun entry => (Forwarder.captured entry.1, entry.2)) := by
        rw [underway, queue]
        rfl
      have tagged := sound.tagged
      have announced := sound.announced
      rw [queued] at tagged announced
      refine ⟨sound.formatted.call (.event event now nowWall), ?_, ?_⟩
      · rw [mode]
        exact formats ▸ tagged.2
      · rw [mode]
        exact announced.trans (formats ▸ rfl)

/-- Receptions are queued between what the forwarder has sent and what it is still to take. -/
theorem Sound.receive (sound : run.Sound) {events : List PlaybackSourceEvent}
    (receptions : ∀ event ∈ events, IsReception event) (forwarder : Forwarder) :
    Sound { run with forwarder, stream := run.stream ++ events.map (·, none) } := by
  have areReceptions : ∀ entry ∈ events.map (fun event => (event, (none : Option FrameTag))),
      IsReception entry.1 := by
    intro entry member
    obtain ⟨event, isEvent, rfl⟩ := List.mem_map.mp member
    exact receptions event isEvent
  have tagged := sound.tagged
  have announced := sound.announced
  rw [underway, tagged_append] at tagged
  rw [underway, announceAll_append] at announced
  refine ⟨sound.formatted, ?_, ?_⟩
  · simp only [underway, tagged_append, announceAll_append, announceAll_receptions areReceptions]
    exact ⟨⟨tagged.1, tagged_receptions areReceptions⟩, tagged.2⟩
  · simp only [underway, announceAll_append, announceAll_receptions areReceptions]
    exact announced

theorem Sound.step (sound : run.Sound) {move : CaptureMove}
    (steps : run.step move = some next) : next.Sound := by
  cases move with
  | global node tap => exact Option.some.inj steps ▸ sound.withCaptures _
  | globalRemove node =>
      simp only [CaptureRun.step] at steps
      split at steps
      · exact Option.some.inj steps ▸ sound
      · exact Option.some.inj steps ▸
          (sound.withCaptures _).trySend fun _ _ _ isFrame => by cases isFrame
  | paramChanged node format parsed =>
      obtain ⟨capture, _, rfl⟩ := Option.map_eq_some_iff.mp steps
      unfold CaptureRun.paramChanged
      simp only
      split_ifs
      · exact (sound.withCaptures _).trySend fun _ _ _ isFrame => by cases isFrame
      · exact sound.withCaptures _
      · exact sound.withCaptures _
  | process node samples capturedAt =>
      obtain ⟨capture, _, captures⟩ := Option.bind_eq_some_iff.mp steps
      obtain ⟨format, _, rfl⟩ := Option.map_eq_some_iff.mp captures
      refine sound.trySend fun tap samples capturedAt isFrame => ?_
      cases isFrame
      exact ⟨format, rfl⟩
  | forwardCapture =>
      cases queue : run.channel with
      | nil => simp [CaptureRun.step, queue] at steps
      | cons entry channel =>
          obtain ⟨event, tag⟩ := entry
          simp only [CaptureRun.step, queue, Option.some.injEq] at steps
          subst steps
          -- The event goes from one queue to the other.
          have same : run.underway =
              (run.stream ++ [(Forwarder.captured event, tag)]) ++
                channel.map fun entry => (Forwarder.captured entry.1, entry.2) := by
            rw [underway, queue, List.append_assoc]
            rfl
          have tagged := sound.tagged
          have announced := sound.announced
          rw [same] at tagged announced
          exact ⟨sound.formatted, tagged, announced⟩
  | forwardRadio event state order =>
      cases steps
      have receptions := run.forwarder.handle_radio_receptions event state order
      exact sound.receive receptions _
  | handle now nowWall => exact sound.handle steps
  | tick order now nowWall =>
      simp only [CaptureRun.step, Option.some.injEq] at steps
      subst steps
      have mode := run.fsm.call_mode (.tick order now nowWall)
      have formats := run.fsm.formats_tick order now nowWall
      refine ⟨sound.formatted.call (.tick order now nowWall), ?_, ?_⟩
      · rw [mode]
        exact formats.symm ▸ sound.tagged
      · rw [mode]
        exact sound.announced.trans (formats.symm ▸ rfl)

/-! ## The condition is exact -/

/-- A frame that is written: its clip, and the format that was announced when it was
captured. -/
theorem Sound.written (sound : run.Sound) {tap : TapId} {samples : Samples} {capturedAt : Instant}
    {tag : Option FrameTag} {stream : List (PlaybackSourceEvent × Option FrameTag)}
    (queue : run.stream = (.frame tap samples capturedAt, tag) :: stream) {clip : OpenClip}
    (isOpen : run.fsm.clipAt (Fsm.mapTap run.fsm.mode tap) = some clip) :
    ∃ captured, tag = some ⟨captured, run.opened clip.clipId⟩ := by
  obtain ⟨entry, isEntry, isOpen⟩ := Fsm.clipAt_eq_some_iff.mp isOpen
  have tagged := sound.tagged
  rw [underway, queue] at tagged
  obtain ⟨captured, isTag⟩ := tagged.1 tap samples capturedAt rfl
  refine ⟨captured, isTag.trans ?_⟩
  rw [Fsm.formats, isEntry, (sound.formatted _ entry clip isEntry isOpen).2]
  rfl

theorem frame_of_frameTap {event : PlaybackSourceEvent} {tap : TapId} (isTap : tap ∈ frameTap event) :
    ∃ samples capturedAt, event = .frame tap samples capturedAt := by
  cases event with
  | frame other samples capturedAt =>
      cases isTap
      exact ⟨samples, capturedAt, rfl⟩
  | _ => cases isTap

theorem capturedAsAnnounced_iff (sound : run.Sound) (move : CaptureMove) :
    run.CapturedAsAnnounced move ↔ run.WritesTrueFormat move := by
  cases move with
  | handle now nowWall =>
      cases queue : run.stream with
      | nil =>
          refine iff_of_true (fun next isNext => ?_) fun clipId samples written => ?_
          · simp [queue] at isNext
          · simp [actions, queue] at written
      | cons next stream =>
          obtain ⟨event, tag⟩ := next
          constructor
          · intro asAnnounced clipId written member
            simp only [actions, queue] at member
            obtain ⟨tap, samples, capturedAt, clip, rfl, isOpen, rfl⟩ := Fsm.writeFrame_of_mem member
            obtain ⟨captured, rfl⟩ := sound.written queue isOpen
            refine ⟨⟨captured, run.opened clip.clipId⟩, by simp [nextTag, queue], ?_⟩
            refine asAnnounced _ (by rw [queue]; rfl) _ rfl tap rfl ?_
            rw [isOpen]
            rfl
          · intro inFormat next isNext frameTag isTag tap isTap isOpen
            rw [queue] at isNext
            cases isNext
            cases isTag
            obtain ⟨samples, capturedAt, rfl⟩ := frame_of_frameTap isTap
            obtain ⟨clip, isOpen⟩ := Option.isSome_iff_exists.mp isOpen
            obtain ⟨captured, same⟩ := sound.written queue isOpen
            cases same
            have written : .writeFrame clip.clipId samples ∈ run.actions (.handle now nowWall) := by
              simp only [actions, queue]
              exact Fsm.writeFrame_mem isOpen now nowWall
            obtain ⟨other, isTag, isOpened⟩ := inFormat clip.clipId samples written
            simp only [nextTag, queue, List.head?_cons, Option.bind_some, Option.some.injEq] at isTag
            subst isTag
            exact isOpened
  | tick order now nowWall =>
      exact iff_of_true trivial fun _ _ member => absurd member Fsm.writeFrame_notMem_tick
  | _ => exact iff_of_true trivial fun _ _ member => absurd member List.not_mem_nil

end Steps

/-- All clips are written in the format in which they were opened in exactly those runs in
which every frame that is written was captured in the format announced last for its tap. -/
theorem written_in_format_iff (config : PlaybackConfig) (mode : RecordingMode)
    {moves : List CaptureMove} {final : CaptureRun}
    (runs : runMoves step (new config mode) moves = some final) :
    Guarded step WritesTrueFormat (new config mode) moves ↔
      Guarded step CapturedAsAnnounced (new config mode) moves :=
  (guarded_iff (fun _ _ _ sound _ => capturedAsAnnounced_iff sound _)
    (fun _ _ _ sound _ steps => sound.step steps) runs (new_sound config mode)).symm

/-- A transmission begins on the headset, which is captured with two channels at 48 kHz. -/
def receptionBegins : List CaptureMove :=
  [.global 7 .headset, .paramChanged 7 (48000, 2) true, .forwardCapture, .handle 0 0,
    .forwardRadio (.rxBegin "LOVV_CTR" 132600000) {} (.increasing Transmitter), .handle 0 0]

/-- Two samples are captured and arrive. -/
def captureFrame : List CaptureMove :=
  [.process 7 [0, 0] 0, .forwardCapture, .handle 0 0]

theorem written_in_format_iff_received :
    Guarded step WritesTrueFormat (new Fsm.playbackConfig .perTap)
      (receptionBegins ++ captureFrame) := by
  have isSome : (runMoves step (new Fsm.playbackConfig .perTap)
      (receptionBegins ++ captureFrame)).isSome := by decide +kernel
  obtain ⟨final, runs⟩ := Option.isSome_iff_exists.mp isSome
  exact (written_in_format_iff Fsm.playbackConfig .perTap runs).mpr (by decide +kernel)

/-- The stream changes to 44.1 kHz while the clip is open, which is not announced: the next
frame is written to the clip of the old format. -/
theorem renegotiated_frame_written :
    ¬ ∀ (config : PlaybackConfig) (mode : RecordingMode) (moves : List CaptureMove)
      (final : CaptureRun), runMoves step (new config mode) moves = some final →
      Guarded step WritesTrueFormat (new config mode) moves := by
  intro always
  let earlier := receptionBegins ++
    [.paramChanged 7 (44100, 2) true, .process 7 [0, 0] 0, .forwardCapture]
  have isSome : (runMoves step (new Fsm.playbackConfig .perTap)
      (earlier ++ [.handle 0 0])).isSome := by decide +kernel
  have written : (runMoves step (new Fsm.playbackConfig .perTap) earlier).map
      (fun run => (run.actions (.handle 0 0), run.nextTag, run.opened 1)) =
      some ([.writeFrame 1 [0, 0]], some ⟨(44100, 2), some (48000, 2)⟩, some (48000, 2)) := by
    decide +kernel
  obtain ⟨final, runs⟩ := Option.isSome_iff_exists.mp isSome
  obtain ⟨run, isRun, isWritten⟩ := Option.map_eq_some_iff.mp written
  obtain ⟨actions, rest⟩ := Prod.mk.inj isWritten
  obtain ⟨isTag, isOpened⟩ := Prod.mk.inj rest
  have law := ((always _ _ _ final runs).later isRun).1 1 [0, 0] (by
    rw [actions]
    exact List.mem_singleton_self _)
  obtain ⟨tag, same, inFormat⟩ := law
  rw [isTag, Option.some.injEq] at same
  rw [← same, isOpened] at inFormat
  exact absurd inFormat (by decide)

end CaptureRun

end Playback

end Vacs
