import Vacs.Playback.Fsm

/-!
# Clips are well bracketed

The calls of the state machine and the actions it returns make up a log. A ledger
reads the log entry by entry and admits an entry only if it fits what came before
(`Ledger.Admits`): clips open under growing ids, one at a time on a tap and in the
format that was last announced for the tap; a frame is written once if its tap has
an open clip, and not at all otherwise; only open clips close, and a tick closes
none whose transmissions have not all ended.

Every log of the state machine is admitted, and the clips that are open in the
ledger at its end are those the state machine holds (`log_admitted`). One lemma per
call relates the ledger after its entries to the state machine after it.
-/

set_option autoImplicit false

namespace Vacs

namespace Playback

/-! ## Logs -/

/-- A call of the state machine. A tick walks the taps in some order. -/
inductive FsmCall where
  | event (event : PlaybackSourceEvent) (now : Instant) (nowWall : SystemTime)
  | tick (order : Enumeration TapId) (now : Instant) (nowWall : SystemTime)

namespace Fsm

def call (fsm : Fsm) : FsmCall → Fsm × List FsmAction
  | .event event now nowWall => fsm.onEvent event now nowWall
  | .tick order now nowWall => fsm.tick order now nowWall

/-- The state machine after calls. -/
def run (fsm : Fsm) (calls : List FsmCall) : Fsm :=
  calls.foldl (fun fsm call => (fsm.call call).1) fsm

end Fsm

/-- An entry of the log: a call, or an action that was returned for the last call. -/
inductive LogEntry where
  | call (call : FsmCall)
  | action (action : FsmAction)

/-- Every call, followed by its actions. -/
def Fsm.log (fsm : Fsm) : List FsmCall → List LogEntry
  | [] => []
  | call :: calls =>
      .call call :: (fsm.call call).2.map .action ++ (fsm.call call).1.log calls

/-! ## The ledger -/

/-- An open clip: its id and format, and what began on its tap since it or the clip it continues was
opened, the transmissions that have not ended and the callsigns of all. -/
structure LedgerClip where
  clipId : ℕ
  sampleRate : ℕ
  channels : ℕ
  pending : Finset Transmitter
  callsigns : Finset String
deriving DecidableEq

/-- What the last call lets its actions do. -/
inductive Current where
  /-- A frame arrived on a tap with an open clip and is still to be written. -/
  | frame (tap : TapId) (samples : Samples)
  /-- The frame is written. -/
  | written (tap : TapId)
  /-- The clip of the frame's tap was closed with these transmissions and callsigns. -/
  | rotated (tap : TapId) (pending : Finset Transmitter) (callsigns : Finset String)
  | rxBegin (tap : TapId) (transmitter : Transmitter)
  | tick
  | other

structure Ledger where
  /-- The id of the clip that was opened last. -/
  lastOpened : ℕ := 0
  /-- The format that was announced last for a tap. -/
  formats : TapId → Option (ℕ × ℕ) := fun _ => none
  clips : TapId → Option LedgerClip := fun _ => none
  /-- The callsigns of the clips that were closed. -/
  closed : ℕ → Option (Finset String) := fun _ => none
  current : Current := .other

namespace Ledger

/-- A transmission is not over after the end of another: it is another one, and is listed as
active if it is on the same frequency and there is a list. -/
def outlasts (callsign : String) (frequency : Frequency)
    (activeTransmitters : Option (List String)) (transmitter : Transmitter) : Bool :=
  decide (transmitter ≠ ⟨callsign, frequency⟩) &&
    decide (∀ active ∈ activeTransmitters,
      transmitter.frequency ≠ frequency ∨ transmitter.callsign ∈ active)

/-- Take note of a call. -/
def observe (mode : RecordingMode) (ledger : Ledger) : FsmCall → Ledger
  | .event (.tapOpened tap sampleRate channels) _ _ =>
      { ledger with
        formats := Function.update ledger.formats (Fsm.mapTap mode tap) (some (sampleRate, channels))
        current := .other }
  | .event (.tapClosed _) _ _ => { ledger with current := .other }
  | .event (.frame tap samples _) _ _ =>
      { ledger with
        current :=
          if (ledger.clips (Fsm.mapTap mode tap)).isSome then .frame (Fsm.mapTap mode tap) samples
          else .other }
  | .event (.rxBegin tap callsign frequency) _ _ =>
      { ledger with
        clips := Function.update ledger.clips (Fsm.mapTap mode tap)
          ((ledger.clips (Fsm.mapTap mode tap)).map fun clip =>
            { clip with
              pending := insert ⟨callsign, frequency⟩ clip.pending
              callsigns := insert callsign clip.callsigns })
        current := .rxBegin (Fsm.mapTap mode tap) ⟨callsign, frequency⟩ }
  | .event (.rxEnd callsign frequency activeTransmitters) _ _ =>
      { ledger with
        clips := fun tap => (ledger.clips tap).map fun clip =>
          { clip with
            pending := clip.pending.filter fun transmitter =>
              outlasts callsign frequency activeTransmitters transmitter = true }
        current := .other }
  | .tick _ _ _ => { ledger with current := .tick }

def setClip (ledger : Ledger) (tap : TapId) (clip : Option LedgerClip) : Ledger :=
  { ledger with clips := Function.update ledger.clips tap clip }

/-- The tap without its clip, whose callsigns are kept. -/
def close (ledger : Ledger) (tap : TapId) : Ledger :=
  { ledger.setClip tap none with
    closed := fun clipId =>
      if (ledger.clips tap).map LedgerClip.clipId = some clipId then
        (ledger.clips tap).map LedgerClip.callsigns
      else ledger.closed clipId }

/-- The transmissions and callsigns a clip starts with, if the last call lets one open on the tap:
those of the transmission that begins, or of the clip that was closed for being too long. -/
def startsWith : Current → TapId → Option (Finset Transmitter × Finset String)
  | .rxBegin tap transmitter, key =>
      if tap = key then some ({transmitter}, {transmitter.callsign}) else none
  | .rotated tap pending callsigns, key => if tap = key then some (pending, callsigns) else none
  | .frame _ _, _ | .written _, _ | .tick, _ | .other, _ => none

/-- A clip that closes after the frame on its tap was written may be continued. -/
def afterClose (tap : TapId) (clip : LedgerClip) : Current → Current
  | .written key => if key = tap then .rotated key clip.pending clip.callsigns else .written key
  | current => current

/-- The ledger admits an entry and becomes another one. -/
inductive Admits (mode : RecordingMode) : Ledger → LogEntry → Ledger → Prop where
  | call {ledger : Ledger} {call : FsmCall}
      (written : ∀ tap samples, ledger.current ≠ .frame tap samples) :
      Admits mode ledger (.call call) (ledger.observe mode call)
  | openClip {ledger : Ledger} {clipId : ℕ} {tap : TapId} {sampleRate channels : ℕ}
      {callsigns : Finset String} {frequency : Option Frequency} {startedAt : SystemTime}
      {pending : Finset Transmitter}
      (increases : ledger.lastOpened < clipId) (idle : ledger.clips tap = none)
      (format : ledger.formats tap = some (sampleRate, channels))
      (starts : startsWith ledger.current tap = some (pending, callsigns)) :
      Admits mode ledger
        (.action (.openClip clipId tap sampleRate channels callsigns frequency startedAt))
        { ledger.setClip tap (some ⟨clipId, sampleRate, channels, pending, callsigns⟩) with
          lastOpened := clipId
          current := .other }
  | writeFrame {ledger : Ledger} {tap : TapId} {samples : Samples} {clip : LedgerClip}
      (due : ledger.current = .frame tap samples) (isOpen : ledger.clips tap = some clip)
      (format : ledger.formats tap = some (clip.sampleRate, clip.channels)) :
      Admits mode ledger (.action (.writeFrame clip.clipId samples))
        { ledger with current := .written tap }
  | closeClip {ledger : Ledger} {tap : TapId} {clip : LedgerClip} {endedAt : SystemTime}
      {durationMs : ℕ} (isOpen : ledger.clips tap = some clip)
      (written : ∀ tap samples, ledger.current ≠ .frame tap samples)
      (ended : ledger.current = .tick → clip.pending = ∅) :
      Admits mode ledger (.action (.closeClip clip.clipId clip.callsigns endedAt durationMs))
        { ledger.close tap with current := afterClose tap clip ledger.current }

/-- The ledger admits the entries of a log one after the other. -/
inductive AdmitsAll (mode : RecordingMode) : Ledger → List LogEntry → Ledger → Prop where
  | nil (ledger : Ledger) : AdmitsAll mode ledger [] ledger
  | cons {ledger next final : Ledger} {entry : LogEntry} {entries : List LogEntry}
      (first : Admits mode ledger entry next) (rest : AdmitsAll mode next entries final) :
      AdmitsAll mode ledger (entry :: entries) final

theorem AdmitsAll.append {mode : RecordingMode} {ledger next final : Ledger}
    {entries more : List LogEntry} (first : AdmitsAll mode ledger entries next)
    (second : AdmitsAll mode next more final) : AdmitsAll mode ledger (entries ++ more) final := by
  induction first with
  | nil => exact second
  | cons admits _ ih => exact .cons admits (ih second)

theorem close_eq_self {ledger : Ledger} {tap : TapId} (idle : ledger.clips tap = none) :
    ledger.close tap = ledger := by
  have clips : Function.update ledger.clips tap none = ledger.clips := by
    rw [← idle, Function.update_eq_self]
  simp [close, setClip, idle, clips]

end Ledger

/-! ## The ledger and the state machine -/

/-- The open clip of a tap, as the ledger has it. -/
def TapState.ledgerClip (entry : TapState) : Option LedgerClip :=
  entry.openClip.map fun clip =>
    ⟨clip.clipId, entry.sampleRate, entry.channels, clip.transmitters, clip.callsigns⟩

namespace Fsm

/-- The open clips of the state machine, as the ledger has them. -/
def ledgerClips (fsm : Fsm) (tap : TapId) : Option LedgerClip :=
  (fsm.taps.lookup tap).bind TapState.ledgerClip

theorem ledgerClips_of_entry {fsm : Fsm} {tap : TapId} {entry : TapState}
    (isEntry : fsm.taps.lookup tap = some entry) : fsm.ledgerClips tap = entry.ledgerClip := by
  unfold ledgerClips
  rw [isEntry]
  rfl

/-- The ledger knows the ids, the formats and the clips of the state machine. -/
structure Matches (fsm : Fsm) (ledger : Ledger) : Prop where
  ids : ledger.lastOpened < fsm.nextClipId
  formats : ∀ tap entry, fsm.taps.lookup tap = some entry →
    ledger.formats tap = some (entry.sampleRate, entry.channels)
  clips : ∀ tap, ledger.clips tap = fsm.ledgerClips tap

theorem matches_new (config : PlaybackConfig) (mode : RecordingMode) :
    (new config mode).Matches {} where
  ids := Nat.zero_lt_one
  formats := by
    intro tap entry isEntry
    simp [new] at isEntry
  clips := by
    intro tap
    simp [ledgerClips, new]

/-- Replacing the entry of a tap on both sides. -/
theorem Matches.insert {fsm updated : Fsm} {ledger next : Ledger} (matched : fsm.Matches ledger)
    {key : TapId} {entry : TapState} (taps : updated.taps = fsm.taps.insert key entry)
    (ids : next.lastOpened < updated.nextClipId)
    (format : next.formats key = some (entry.sampleRate, entry.channels))
    (otherFormats : ∀ tap, tap ≠ key → next.formats tap = ledger.formats tap)
    (clip : next.clips key = entry.ledgerClip)
    (otherClips : ∀ tap, tap ≠ key → next.clips tap = ledger.clips tap) :
    updated.Matches next where
  ids := ids
  formats := by
    intro tap other isOther
    rw [taps, Finmap.lookup_insert_eq] at isOther
    split at isOther
    case isTrue same =>
      cases isOther
      rw [same]
      exact format
    case isFalse differs =>
      rw [otherFormats tap differs]
      exact matched.formats tap other isOther
  clips := by
    intro tap
    unfold ledgerClips
    rw [taps, Finmap.lookup_insert_eq]
    split
    case isTrue same => rw [same, clip, Option.bind_some]
    case isFalse differs => rw [otherClips tap differs, matched.clips tap, ledgerClips]

end Fsm

namespace Ledger

/-- Closing the clip of a tap, if it has one. -/
theorem admitsAll_closeOpenClip {mode : RecordingMode} {ledger : Ledger} {key : TapId}
    {entry : TapState} (isClip : ledger.clips key = entry.ledgerClip)
    (current : ledger.current = .other ∨ ledger.current = .tick)
    (ended : ledger.current = .tick → ∀ clip ∈ entry.openClip, clip.transmitters = ∅)
    (now : Instant) (nowWall : SystemTime) :
    AdmitsAll mode ledger ((entry.closeOpenClip now nowWall).2.map .action)
      (ledger.close key) := by
  unfold TapState.closeOpenClip
  cases isOpen : entry.openClip with
  | none =>
      have idle : ledger.clips key = none := by
        rw [isClip, TapState.ledgerClip, isOpen]
        rfl
      rw [close_eq_self idle]
      exact .nil ledger
  | some clip =>
      have isClip : ledger.clips key =
          some ⟨clip.clipId, entry.sampleRate, entry.channels, clip.transmitters,
            clip.callsigns⟩ := by
        rw [isClip, TapState.ledgerClip, isOpen]
        rfl
      have written : ∀ tap samples, ledger.current ≠ .frame tap samples := by
        intro tap samples isFrame
        rcases current with isCurrent | isCurrent <;> simp [isCurrent] at isFrame
      have same (closing : LedgerClip) : afterClose key closing ledger.current = ledger.current := by
        rcases current with isCurrent | isCurrent <;> simp [isCurrent, afterClose]
      refine .cons (.closeClip isClip written fun isTick => ended isTick clip isOpen) ?_
      simp only [same]
      exact .nil (ledger.close key)

end Ledger

namespace Fsm

open Ledger

variable {fsm : Fsm} {ledger : Ledger}

/-- The entries of a call are admitted, and the ledger matches the state machine again. -/
def Continues (fsm : Fsm) (ledger : Ledger) (call : FsmCall) : Prop :=
  ∃ next, AdmitsAll fsm.mode ledger (.call call :: (fsm.call call).2.map .action) next ∧
    (fsm.call call).1.Matches next ∧ ∀ tap samples, next.current ≠ .frame tap samples

/-- The entry that a tap announcement starts from. -/
theorem continues_tapOpened (matched : fsm.Matches ledger)
    (written : ∀ tap samples, ledger.current ≠ .frame tap samples) (tap : TapId)
    (sampleRate channels : ℕ) (now : Instant) (nowWall : SystemTime) :
    fsm.Continues ledger (.event (.tapOpened tap sampleRate channels) now nowWall) := by
  have observed : Admits fsm.mode ledger
      (.call (.event (.tapOpened tap sampleRate channels) now nowWall)) _ := .call written
  set key := mapTap fsm.mode tap with isKey
  set entry := (fsm.taps.lookup key).getD ⟨sampleRate, channels, none⟩ with isEntry
  have isClip : ledger.clips key = entry.ledgerClip := by
    rw [matched.clips, ledgerClips, isEntry]
    cases fsm.taps.lookup key <;> rfl
  simp only [observe, ← isKey] at observed
  set opened : Ledger :=
    { ledger with
      formats := Function.update ledger.formats key (some (sampleRate, channels))
      current := .other } with isOpened
  unfold Continues
  simp only [Fsm.call, onEvent, tapOpened, ← isKey]
  split
  case isTrue =>
    have closes : AdmitsAll fsm.mode opened ((entry.closeOpenClip now nowWall).2.map .action)
        (opened.close key) := by
      refine admitsAll_closeOpenClip ?_ (Or.inl rfl) (fun isTick => ?_) now nowWall
      · exact isClip
      · cases isTick
    refine ⟨opened.close key, .cons observed closes, ?_, by simp [close, setClip, isOpened]⟩
    exact matched.insert rfl matched.ids (Function.update_self ..)
      (fun other differs => Function.update_of_ne differs ..) (Function.update_self ..)
      (fun other differs => Function.update_of_ne differs ..)
  case isFalse same =>
    simp only [not_or, not_not] at same
    refine ⟨opened, .cons observed (.nil _), matched.insert rfl matched.ids ?_
      (fun other differs => Function.update_of_ne differs ..) isClip (fun _ _ => rfl),
      by simp [isOpened]⟩
    rw [same.1, same.2]
    exact Function.update_self ..

theorem continues_tapClosed (matched : fsm.Matches ledger)
    (written : ∀ tap samples, ledger.current ≠ .frame tap samples) (tap : TapId)
    (now : Instant) (nowWall : SystemTime) :
    fsm.Continues ledger (.event (.tapClosed tap) now nowWall) := by
  have observed : Admits fsm.mode ledger (.call (.event (.tapClosed tap) now nowWall)) _ :=
    .call written
  set key := mapTap fsm.mode tap with isKey
  simp only [observe] at observed
  unfold Continues
  simp only [Fsm.call, onEvent, tapClosed, ← isKey]
  refine ⟨close { ledger with current := .other } key, .cons observed ?_, ⟨matched.ids, ?_, ?_⟩,
    by simp [close, setClip]⟩
  · cases isEntry : fsm.taps.lookup key with
    | none =>
        have idle : Ledger.clips { ledger with current := .other } key = none := by
          rw [matched.clips, ledgerClips, isEntry]
          rfl
        rw [close_eq_self idle]
        exact .nil _
    | some entry =>
        refine admitsAll_closeOpenClip ?_ (Or.inl rfl) (by simp) now nowWall
        rw [← ledgerClips_of_entry isEntry]
        exact matched.clips key
  · intro other entry isEntry
    rw [Finmap.lookup_erase_eq] at isEntry
    split at isEntry
    case isTrue => cases isEntry
    case isFalse => exact matched.formats other entry isEntry
  · intro other
    simp only [close, setClip, ledgerClips]
    rw [Finmap.lookup_erase_eq]
    split
    case isTrue same =>
      rw [same]
      exact Function.update_self ..
    case isFalse differs =>
      rw [Function.update_of_ne differs]
      exact matched.clips other

theorem continues_rxEnd (matched : fsm.Matches ledger)
    (written : ∀ tap samples, ledger.current ≠ .frame tap samples) (callsign : String)
    (frequency : Frequency) (activeTransmitters : Option (List String)) (now : Instant)
    (nowWall : SystemTime) :
    fsm.Continues ledger (.event (.rxEnd callsign frequency activeTransmitters) now nowWall) := by
  have observed : Admits fsm.mode ledger
      (.call (.event (.rxEnd callsign frequency activeTransmitters) now nowWall)) _ :=
    .call written
  refine ⟨_, .cons observed (.nil _), ⟨matched.ids, ?_, ?_⟩, by simp [observe]⟩
  · intro tap entry isEntry
    simp only [Fsm.call, onEvent, rxEnd] at isEntry
    rw [Finmap.lookup_filterMap] at isEntry
    obtain ⟨before, isBefore, isEntry⟩ := Option.bind_eq_some_iff.mp isEntry
    cases isEntry
    exact matched.formats tap before isBefore
  · intro tap
    simp only [observe, Fsm.call, onEvent, rxEnd, ledgerClips]
    rw [Finmap.lookup_filterMap, matched.clips tap, ledgerClips]
    cases fsm.taps.lookup tap with
    | none => rfl
    | some entry =>
        cases isOpen : entry.openClip with
        | none => simp [TapState.ledgerClip, isOpen]
        | some clip =>
            simp only [Option.bind_some, TapState.ledgerClip, isOpen, Option.map_some]
            congr 2
            ext transmitter
            simp [outlasts, OpenClip.endTransmitter, and_assoc, and_comm]

theorem continues_rxBegin (matched : fsm.Matches ledger)
    (written : ∀ tap samples, ledger.current ≠ .frame tap samples) (tap : TapId)
    (callsign : String) (frequency : Frequency) (now : Instant) (nowWall : SystemTime) :
    fsm.Continues ledger (.event (.rxBegin tap callsign frequency) now nowWall) := by
  have observed : Admits fsm.mode ledger
      (.call (.event (.rxBegin tap callsign frequency) now nowWall)) _ := .call written
  set key := mapTap fsm.mode tap with isKey
  simp only [observe, ← isKey] at observed
  unfold Continues
  simp only [Fsm.call, onEvent, rxBegin, ← isKey]
  cases isEntry : fsm.taps.lookup key with
  | none =>
      have idle : ledger.clips key = none := by
        rw [matched.clips, ledgerClips, isEntry]
        rfl
      rw [idle] at observed
      refine ⟨_, .cons observed (.nil _), ?_, by simp⟩
      refine ⟨matched.ids, matched.formats, fun other => ?_⟩
      rw [Option.map_none, ← idle, Function.update_eq_self]
      exact matched.clips other
  | some entry =>
      have isClip := (matched.clips key).trans (ledgerClips_of_entry isEntry)
      have format := matched.formats key entry isEntry
      simp only
      cases isOpen : entry.openClip with
      | some clip =>
          refine ⟨_, .cons observed (.nil _), ?_, by simp⟩
          refine matched.insert rfl matched.ids format (fun _ _ => rfl) ?_
            (fun other differs => Function.update_of_ne differs ..)
          simp only [Function.update_self, isClip, TapState.ledgerClip, isOpen, Option.map_some]
      | none =>
          have idle : ledger.clips key = none := by
            rw [isClip, TapState.ledgerClip, isOpen]
            rfl
          rw [idle, Option.map_none, ← idle, Function.update_eq_self] at observed
          have starts : startsWith (.rxBegin key ⟨callsign, frequency⟩) key =
              some ({⟨callsign, frequency⟩}, {callsign}) := if_pos rfl
          refine ⟨_, .cons observed (.cons (.openClip matched.ids idle format starts) (.nil _)), ?_,
            by simp⟩
          exact matched.insert rfl (Nat.lt_succ_self _) format (fun _ _ => rfl)
            (Function.update_self ..) (fun other differs => Function.update_of_ne differs ..)

theorem continues_frame (matched : fsm.Matches ledger)
    (written : ∀ tap samples, ledger.current ≠ .frame tap samples) (tap : TapId)
    (samples : Samples) (capturedAt now : Instant) (nowWall : SystemTime) :
    fsm.Continues ledger (.event (.frame tap samples capturedAt) now nowWall) := by
  have observed : Admits fsm.mode ledger
      (.call (.event (.frame tap samples capturedAt) now nowWall)) _ := .call written
  set key := mapTap fsm.mode tap with isKey
  simp only [observe, ← isKey] at observed
  unfold Continues
  simp only [Fsm.call, onEvent, frame, ← isKey]
  cases isEntry : fsm.taps.lookup key with
  | none =>
      have idle : ledger.clips key = none := by
        rw [matched.clips, ledgerClips, isEntry]
        rfl
      simp only [idle, Option.isSome_none, Bool.false_eq_true, if_false] at observed
      exact ⟨_, .cons observed (.nil _), ⟨matched.ids, matched.formats, matched.clips⟩, by simp⟩
  | some entry =>
      have isClip := (matched.clips key).trans (ledgerClips_of_entry isEntry)
      have format := matched.formats key entry isEntry
      simp only
      cases isOpen : entry.openClip with
      | none =>
          have idle : ledger.clips key = none := by
            rw [isClip, TapState.ledgerClip, isOpen]
            rfl
          simp only [idle, Option.isSome_none, Bool.false_eq_true, if_false] at observed
          exact ⟨_, .cons observed (.nil _), ⟨matched.ids, matched.formats, matched.clips⟩, by simp⟩
      | some clip =>
          have isClip : ledger.clips key =
              some ⟨clip.clipId, entry.sampleRate, entry.channels, clip.transmitters,
            clip.callsigns⟩ := by
            rw [isClip, TapState.ledgerClip, isOpen]
            rfl
          simp only [isClip, Option.isSome_some, if_true] at observed
          set framed : Ledger := { ledger with current := .frame key samples } with isFramed
          have framedClip : framed.clips key =
              some ⟨clip.clipId, entry.sampleRate, entry.channels, clip.transmitters,
                clip.callsigns⟩ := isClip
          have writes : Admits fsm.mode framed (.action (.writeFrame clip.clipId samples))
              { framed with current := .written key } := .writeFrame rfl framedClip format
          simp only
          split
          case isTrue =>
            -- the clip is too long: the next one takes over its transmissions
            set done : Ledger := { framed with current := .written key } with isDone
            have doneClip : done.clips key =
                some ⟨clip.clipId, entry.sampleRate, entry.channels, clip.transmitters,
                clip.callsigns⟩ := isClip
            set rotated : Ledger :=
              { done.close key with current := .rotated key clip.transmitters clip.callsigns }
              with isRotated
            have current : afterClose key
                ⟨clip.clipId, entry.sampleRate, entry.channels, clip.transmitters, clip.callsigns⟩
                done.current = .rotated key clip.transmitters clip.callsigns := if_pos rfl
            have closes : Admits fsm.mode done (.action (clip.closeAction capturedAt nowWall))
                rotated := by
              rw [isRotated, ← current]
              exact .closeClip doneClip (by simp [isDone]) (by simp [isDone])
            have starts : startsWith rotated.current key =
                some (clip.transmitters, clip.callsigns) := if_pos rfl
            have idle : rotated.clips key = none := Function.update_self ..
            have heardCloses : (if clip.transmitters = ∅ then clip
                else { clip with lastAudioAt := capturedAt }).closeAction capturedAt nowWall =
                clip.closeAction capturedAt nowWall := by
              split <;> rfl
            rw [heardCloses]
            have opens : Admits fsm.mode rotated
                (.action (.openClip fsm.nextClipId key entry.sampleRate entry.channels
                  clip.callsigns clip.frequency nowWall)) _ :=
              .openClip matched.ids idle format starts
            refine ⟨_, .cons observed (.cons writes (.cons closes (.cons opens (.nil _)))), ?_,
              by simp⟩
            refine matched.insert rfl (Nat.lt_succ_self _) format (fun _ _ => rfl)
              (Function.update_self ..) (fun other differs => ?_)
            exact (Function.update_of_ne differs ..).trans (Function.update_of_ne differs ..)
          case isFalse =>
            refine ⟨_, .cons observed (.cons writes (.nil _)), ?_, by simp⟩
            refine matched.insert rfl matched.ids format (fun _ _ => rfl) ?_ (fun _ _ => rfl)
            refine Eq.trans isClip ?_
            simp only [TapState.ledgerClip, Option.map_some]
            split <;> rfl

/-- One round of the loop of a tick. -/
theorem admitsAll_tickTap {mode : RecordingMode} {actions : List FsmAction} {start : Ledger}
    (admitted : AdmitsAll mode start (actions.map .action) ledger)
    (matched : fsm.Matches ledger) (ticks : ledger.current = .tick) (now : Instant)
    (nowWall : SystemTime) (key : TapId) :
    ∃ next, AdmitsAll mode start
        ((tickTap now nowWall (fsm, actions) key).2.map .action) next ∧
      (tickTap now nowWall (fsm, actions) key).1.Matches next ∧ next.current = .tick := by
  unfold tickTap
  cases isEntry : fsm.taps.lookup key with
  | none => exact ⟨ledger, admitted, matched, ticks⟩
  | some entry =>
      have isClip := (matched.clips key).trans (ledgerClips_of_entry isEntry)
      simp only
      split
      case isFalse => exact ⟨ledger, admitted, matched, ticks⟩
      case isTrue closing =>
        have ended : ∀ clip ∈ entry.openClip, clip.transmitters = ∅ := by
          intro clip isOpen
          rw [isOpen, Option.any_some, shouldClose, Bool.and_eq_true, decide_eq_true_eq] at closing
          exact closing.1
        have closes : AdmitsAll mode ledger ((entry.closeOpenClip now nowWall).2.map .action)
            (ledger.close key) :=
          admitsAll_closeOpenClip isClip (Or.inr ticks) (fun _ => ended) now nowWall
        refine ⟨ledger.close key, ?_, ?_, ticks⟩
        · rw [List.map_append]
          exact admitted.append closes
        · exact matched.insert rfl matched.ids (matched.formats key entry isEntry)
            (fun _ _ => rfl) (Function.update_self ..)
            (fun other differs => Function.update_of_ne differs ..)

theorem continues_tick (matched : fsm.Matches ledger)
    (written : ∀ tap samples, ledger.current ≠ .frame tap samples) (order : Enumeration TapId)
    (now : Instant) (nowWall : SystemTime) :
    fsm.Continues ledger (.tick order now nowWall) := by
  have observed : Admits fsm.mode ledger (.call (.tick order now nowWall))
      { ledger with current := .tick } := .call written
  obtain ⟨next, admitted, matched, ticks⟩ : ∃ next,
      AdmitsAll fsm.mode { ledger with current := .tick }
        ((fsm.tick order now nowWall).2.map .action) next ∧
      (fsm.tick order now nowWall).1.Matches next ∧ next.current = .tick := by
    refine tick_induct (fun state => ∃ next,
        AdmitsAll fsm.mode { ledger with current := .tick } (state.2.map .action) next ∧
        state.1.Matches next ∧ next.current = .tick)
      ?_ ⟨_, .nil _, ⟨matched.ids, matched.formats, matched.clips⟩, rfl⟩ order
    rintro state key ⟨next, admitted, matched, ticks⟩
    exact admitsAll_tickTap admitted matched ticks now nowWall key
  refine ⟨next, .cons observed admitted, matched, fun tap samples isFrame => ?_⟩
  rw [ticks] at isFrame
  cases isFrame

/-- Every call continues the log. -/
theorem continues_call (matched : fsm.Matches ledger)
    (written : ∀ tap samples, ledger.current ≠ .frame tap samples) (call : FsmCall) :
    fsm.Continues ledger call := by
  cases call with
  | tick order now nowWall => exact continues_tick matched written order now nowWall
  | event event now nowWall =>
      cases event with
      | tapOpened tap sampleRate channels =>
          exact continues_tapOpened matched written tap sampleRate channels now nowWall
      | tapClosed tap => exact continues_tapClosed matched written tap now nowWall
      | frame tap samples capturedAt =>
          exact continues_frame matched written tap samples capturedAt now nowWall
      | rxBegin tap callsign frequency =>
          exact continues_rxBegin matched written tap callsign frequency now nowWall
      | rxEnd callsign frequency activeTransmitters =>
          exact continues_rxEnd matched written callsign frequency activeTransmitters now nowWall

theorem tickTap_config (now : Instant) (nowWall : SystemTime) (state : Fsm × List FsmAction)
    (key : TapId) :
    (tickTap now nowWall state key).1.mode = state.1.mode ∧
      (tickTap now nowWall state key).1.hangover = state.1.hangover := by
  unfold tickTap
  split
  · exact ⟨rfl, rfl⟩
  · split <;> exact ⟨rfl, rfl⟩

/-- A call leaves the mode and the hangover as they were configured. -/
theorem call_config (fsm : Fsm) (call : FsmCall) :
    (fsm.call call).1.mode = fsm.mode ∧ (fsm.call call).1.hangover = fsm.hangover := by
  cases call with
  | tick order now nowWall =>
      refine tick_induct
        (fun state => state.1.mode = fsm.mode ∧ state.1.hangover = fsm.hangover)
        (fun state key same => ?_) ⟨rfl, rfl⟩ order
      have config := tickTap_config now nowWall state key
      exact ⟨config.1.trans same.1, config.2.trans same.2⟩
  | event event now nowWall =>
      cases event with
      | tapOpened tap sampleRate channels =>
          simp only [Fsm.call, onEvent, tapOpened]
          split <;> exact ⟨rfl, rfl⟩
      | tapClosed tap => exact ⟨rfl, rfl⟩
      | frame tap samples capturedAt =>
          simp only [Fsm.call, onEvent, frame]
          split
          case h_1 => exact ⟨rfl, rfl⟩
          case h_2 =>
            split
            case h_1 => exact ⟨rfl, rfl⟩
            case h_2 => split <;> exact ⟨rfl, rfl⟩
      | rxBegin tap callsign frequency =>
          simp only [Fsm.call, onEvent, rxBegin]
          split
          case h_1 => exact ⟨rfl, rfl⟩
          case h_2 => split <;> exact ⟨rfl, rfl⟩
      | rxEnd callsign frequency activeTransmitters => exact ⟨rfl, rfl⟩

theorem call_mode (fsm : Fsm) (call : FsmCall) : (fsm.call call).1.mode = fsm.mode :=
  (fsm.call_config call).1

theorem call_hangover (fsm : Fsm) (call : FsmCall) :
    (fsm.call call).1.hangover = fsm.hangover :=
  (fsm.call_config call).2

/-- The log of calls, by induction on them. -/
theorem admitsAll_log (calls : List FsmCall) :
    ∀ (fsm : Fsm) (ledger : Ledger), fsm.Matches ledger →
      (∀ tap samples, ledger.current ≠ .frame tap samples) →
      ∃ final, AdmitsAll fsm.mode ledger (fsm.log calls) final ∧ (fsm.run calls).Matches final ∧
        ∀ tap samples, final.current ≠ .frame tap samples := by
  induction calls with
  | nil =>
      intro fsm ledger matched written
      exact ⟨ledger, .nil ledger, matched, written⟩
  | cons call calls ih =>
      intro fsm ledger matched written
      obtain ⟨next, first, matched, written⟩ := continues_call matched written call
      obtain ⟨final, rest, matched, written⟩ := ih _ next matched written
      rw [call_mode] at rest
      exact ⟨final, first.append rest, matched, written⟩

end Fsm

/-! ## Ids -/

namespace LogEntry

/-- The id of the clip that is opened. -/
def opened : LogEntry → Option ℕ
  | .action (.openClip clipId _ _ _ _ _ _) => some clipId
  | .action (.writeFrame _ _) | .action (.closeClip _ _ _ _) | .call _ => none

/-- The id of the clip that is closed. -/
def closed : LogEntry → Option ℕ
  | .action (.closeClip clipId _ _ _) => some clipId
  | .action (.writeFrame _ _) | .action (.openClip _ _ _ _ _ _ _) | .call _ => none

end LogEntry

namespace Ledger

/-- The ids of the open clips. -/
def ids (ledger : Ledger) (tap : TapId) : Option ℕ :=
  (ledger.clips tap).map LedgerClip.clipId

/-- No id is in use twice, and none is ahead of the last one. -/
structure Distinct (ledger : Ledger) : Prop where
  bounded : ∀ tap clipId, ledger.ids tap = some clipId → clipId ≤ ledger.lastOpened
  injective : ∀ tap other clipId, ledger.ids tap = some clipId →
    ledger.ids other = some clipId → tap = other

theorem ids_observe (mode : RecordingMode) (ledger : Ledger) (call : FsmCall) :
    (ledger.observe mode call).ids = ledger.ids := by
  funext tap
  cases call with
  | tick order now nowWall => rfl
  | event event now nowWall =>
      cases event with
      | tapOpened _ _ _ => rfl
      | tapClosed _ => rfl
      | frame _ _ _ => rfl
      | rxBegin begins callsign frequency =>
          simp only [ids, observe, Function.update_apply]
          split
          case isTrue same =>
            rw [same]
            cases ledger.clips (Fsm.mapTap mode begins) <;> rfl
          case isFalse => rfl
      | rxEnd callsign frequency activeTransmitters =>
          simp only [ids, observe]
          cases ledger.clips tap <;> rfl

theorem lastOpened_observe (mode : RecordingMode) (ledger : Ledger) (call : FsmCall) :
    (ledger.observe mode call).lastOpened = ledger.lastOpened := by
  cases call with
  | tick order now nowWall => rfl
  | event event now nowWall => cases event <;> rfl

theorem ids_setClip (ledger : Ledger) (tap : TapId) (clip : Option LedgerClip) :
    (ledger.setClip tap clip).ids = Function.update ledger.ids tap (clip.map LedgerClip.clipId) := by
  funext other
  simp only [ids, setClip, Function.update_apply]
  split <;> rfl

/-- What an entry does to the ids. -/
theorem Admits.ids_cases {mode : RecordingMode} {ledger next : Ledger} {entry : LogEntry}
    (admits : Admits mode ledger entry next) :
    (entry.opened = none ∧ entry.closed = none ∧ next.ids = ledger.ids ∧
      next.lastOpened = ledger.lastOpened) ∨
    (∃ clipId tap, entry.opened = some clipId ∧ entry.closed = none ∧
      ledger.lastOpened < clipId ∧ next.ids = Function.update ledger.ids tap (some clipId) ∧
      next.lastOpened = clipId) ∨
    (∃ clipId tap, entry.opened = none ∧ entry.closed = some clipId ∧
      ledger.ids tap = some clipId ∧ next.ids = Function.update ledger.ids tap none ∧
      next.lastOpened = ledger.lastOpened) := by
  cases admits with
  | call written =>
      exact Or.inl ⟨rfl, rfl, ids_observe mode ledger _, lastOpened_observe mode ledger _⟩
  | openClip increases idle format starts =>
      exact Or.inr (Or.inl ⟨_, _, rfl, rfl, increases, ids_setClip ledger _ _, rfl⟩)
  | writeFrame due isOpen format => exact Or.inl ⟨rfl, rfl, rfl, rfl⟩
  | closeClip isOpen written ended =>
      refine Or.inr (Or.inr ⟨_, _, rfl, rfl, ?_, ids_setClip ledger _ none, rfl⟩)
      rw [ids, isOpen, Option.map_some]

theorem Distinct.admits {mode : RecordingMode} {ledger next : Ledger} {entry : LogEntry}
    (distinct : ledger.Distinct) (admits : Admits mode ledger entry next) : next.Distinct := by
  rcases admits.ids_cases with ⟨-, -, same, last⟩ | ⟨clipId, tap, -, -, increases, isIds, last⟩ |
    ⟨clipId, tap, -, -, isOpen, isIds, last⟩
  · constructor
    · rw [same, last]
      exact distinct.bounded
    · rw [same]
      exact distinct.injective
  · have fresh : ∀ other, ledger.ids other ≠ some clipId := by
      intro other isOther
      have bounded := distinct.bounded other clipId isOther
      omega
    constructor
    · intro other otherId
      rw [isIds, last, Function.update_apply]
      split
      case isTrue =>
        intro isOther
        cases isOther
        exact le_refl clipId
      case isFalse =>
        intro isOther
        have bounded := distinct.bounded other otherId isOther
        omega
    · intro first second otherId
      rw [isIds, Function.update_apply, Function.update_apply]
      grind [distinct.injective]
  · constructor
    · intro other otherId
      rw [isIds, last, Function.update_apply]
      split
      case isTrue => exact fun closed => nomatch closed
      case isFalse => exact distinct.bounded other otherId
    · intro first second otherId
      rw [isIds, Function.update_apply, Function.update_apply]
      grind [distinct.injective]

/-- Ids of opened clips increase, and no clip is closed twice. -/
theorem AdmitsAll.increasing {mode : RecordingMode} {ledger final : Ledger}
    {entries : List LogEntry} (admitted : AdmitsAll mode ledger entries final) :
    ledger.Distinct →
      (∀ clipId ∈ entries.filterMap LogEntry.opened, ledger.lastOpened < clipId) ∧
      (entries.filterMap LogEntry.opened).Pairwise (· < ·) ∧
      (∀ clipId ∈ entries.filterMap LogEntry.closed,
        (∃ tap, ledger.ids tap = some clipId) ∨ ledger.lastOpened < clipId) ∧
      (entries.filterMap LogEntry.closed).Nodup := by
  induction admitted with
  | nil ledger => intro _; simp
  | cons first rest ih =>
      intro distinct
      obtain ⟨above, increases, known, once⟩ := ih (distinct.admits first)
      rcases first.ids_cases with ⟨opened, closed, same, last⟩ |
        ⟨clipId, tap, opened, closed, grows, isIds, last⟩ |
        ⟨clipId, tap, opened, closed, isOpen, isIds, last⟩
      · rw [List.filterMap_cons_none opened, List.filterMap_cons_none closed]
        rw [same, last] at known
        rw [last] at above
        exact ⟨above, increases, known, once⟩
      · rw [List.filterMap_cons_some opened, List.filterMap_cons_none closed]
        rw [last] at above known
        refine ⟨?_, List.pairwise_cons.mpr ⟨above, increases⟩, ?_, once⟩
        · intro other member
          rcases List.mem_cons.mp member with same | later
          · rw [same]
            exact grows
          · exact grows.trans (above other later)
        · intro other member
          rcases known other member with ⟨otherTap, isOther⟩ | later
          · rw [isIds, Function.update_apply] at isOther
            grind
          · exact Or.inr (grows.trans later)
      · rw [List.filterMap_cons_none opened, List.filterMap_cons_some closed]
        rw [last] at above known
        refine ⟨above, increases, ?_, List.nodup_cons.mpr ⟨?_, once⟩⟩
        · intro other member
          rcases List.mem_cons.mp member with same | later
          · rw [same]
            exact Or.inl ⟨tap, isOpen⟩
          · rcases known other later with ⟨otherTap, isOther⟩ | later
            · rw [isIds, Function.update_apply] at isOther
              grind
            · exact Or.inr later
        · intro again
          rcases known clipId again with ⟨otherTap, isOther⟩ | later
          · rw [isIds, Function.update_apply] at isOther
            grind [distinct.injective]
          · have bounded := distinct.bounded tap clipId isOpen
            omega

theorem distinct_empty : Distinct {} where
  bounded := by
    intro tap clipId isId
    simp [ids] at isId
  injective := by
    intro tap other clipId isId
    simp [ids] at isId

end Ledger

/-! ## Every log is well bracketed -/

namespace Fsm

open Ledger

/-- The log of any calls is admitted entry by entry, with increasing ids of opened clips and no
clip closed twice; no frame is left unwritten at its end, and the clips that are open then are
those the state machine holds. -/
theorem log_admitted (config : PlaybackConfig) (mode : RecordingMode) (calls : List FsmCall) :
    ∃ final, AdmitsAll mode {} ((new config mode).log calls) final ∧
      (∀ tap samples, final.current ≠ .frame tap samples) ∧
      (∀ tap, final.clips tap = ((new config mode).run calls).ledgerClips tap) ∧
      (((new config mode).log calls).filterMap LogEntry.opened).Pairwise (· < ·) ∧
      (((new config mode).log calls).filterMap LogEntry.closed).Nodup := by
  obtain ⟨final, admitted, matched, written⟩ :=
    admitsAll_log calls (new config mode) {} (matches_new config mode) (by simp)
  obtain ⟨-, increases, -, once⟩ := admitted.increasing distinct_empty
  exact ⟨final, admitted, written, matched.clips, increases, once⟩

end Fsm

end Playback

end Vacs
