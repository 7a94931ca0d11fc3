import Vacs.Playback.Books
import Vacs.Playback.OpenClips

/-!
# Recordings and their callsigns

The ledger of a log knows the callsigns of the transmissions that began while a clip was
open. A clip that closes is committed with them, since the closing action carries them. A
clip that is still open at shutdown is committed with the callsigns it was opened with:
those are the same if no other callsign has joined it since.

In every run that leaves names for clips free, the books are kept, and the callsigns of
all committed clips are those of the ledger; this holds after a shutdown too if no clip
that a callsign joined is left open (`recording_accounts`). A clip that a second station
joins before the shutdown is committed without it (`shutdown_missesCallsign`).
-/

set_option autoImplicit false

namespace Vacs

namespace Playback

open RecorderEffect Ledger

/-! ## The callsigns of clips -/

namespace Ledger

/-- The callsigns of the transmissions that began while the clip was open. -/
def Received (ledger : Ledger) (clipId : ℕ) (callsigns : Finset String) : Prop :=
  ledger.closed clipId = some callsigns ∨
    ∃ tap clip, ledger.clips tap = some clip ∧ clip.clipId = clipId ∧ clip.callsigns = callsigns

theorem closed_observe (mode : RecordingMode) (ledger : Ledger) (call : FsmCall) :
    (ledger.observe mode call).closed = ledger.closed := by
  cases call with
  | tick order now nowWall => rfl
  | event event now nowWall => cases event <;> rfl

/-- Every announced format is valid. -/
def Formatted (ledger : Ledger) : Prop :=
  ∀ tap sampleRate channels, ledger.formats tap = some (sampleRate, channels) →
    sampleRate ≠ 0 ∧ channels ≠ 0

theorem closed_close (ledger : Ledger) (tap : TapId) (clipId : ℕ) :
    (ledger.close tap).closed clipId =
      if ledger.ids tap = some clipId then (ledger.clips tap).map LedgerClip.callsigns
      else ledger.closed clipId :=
  rfl

end Ledger

namespace Recorder

/-- The recorder writes only clips that are open in the ledger, and has committed only clips that
are closed there, with their callsigns. -/
structure Voices (recorder : Recorder) (ledger : Ledger) (opened : List ℕ)
    (effects : List RecorderEffect) : Prop where
  distinct : ledger.Distinct
  known : ∀ id ∈ opened, id ≤ ledger.lastOpened
  writing : ∀ id, (recorder.openClips.lookup id).isSome → ∃ tap, ledger.ids tap = some id
  closed : ∀ clip ∈ effects.filterMap committed,
    ledger.closed clip.id = some clip.callsigns ∧ ∀ tap, ledger.ids tap ≠ some clip.id

variable {recorder : Recorder} {ledger next : Ledger} {maxClips : ℕ} {opened : List ℕ}
  {effects : List RecorderEffect} {mode : RecordingMode}

/-- A call changes no clip that is closed or opens. -/
theorem Voices.call (voices : recorder.Voices ledger opened effects) (mode : RecordingMode)
    (call : FsmCall) : recorder.Voices (ledger.observe mode call) opened effects where
  distinct := by
    constructor
    · rw [ids_observe, lastOpened_observe]
      exact voices.distinct.bounded
    · rw [ids_observe]
      exact voices.distinct.injective
  known := by
    rw [lastOpened_observe]
    exact voices.known
  writing := by
    rw [ids_observe]
    exact voices.writing
  closed := by
    rw [ids_observe, closed_observe]
    exact voices.closed

/-- A clip opens in the ledger, and its writer is created or not. -/
theorem Voices.open (voices : recorder.Voices ledger opened effects) {after : Recorder}
    {more : List RecorderEffect} {clipId : ℕ} {tap : TapId}
    (books : recorder.Books maxClips opened effects) (distinct : next.Distinct)
    (increases : ledger.lastOpened < clipId) (idle : ledger.ids tap = none)
    (isIds : next.ids = Function.update ledger.ids tap (some clipId))
    (isLast : next.lastOpened = clipId) (isClosed : next.closed = ledger.closed)
    (writes : ∀ id, (after.openClips.lookup id).isSome →
      id = clipId ∨ (recorder.openClips.lookup id).isSome)
    (commits : (effects ++ more).filterMap committed = effects.filterMap committed) :
    after.Voices next (opened ++ [clipId]) (effects ++ more) where
  distinct := distinct
  known := by
    intro id member
    rw [isLast]
    rcases List.mem_append.mp member with isOpened | isLatest
    · exact ((voices.known id isOpened).trans_lt increases).le
    · exact (List.mem_singleton.mp isLatest).le
  writing := by
    intro id isWriting
    rw [isIds]
    rcases writes id isWriting with isNew | isOld
    · exact ⟨tap, by rw [isNew, Function.update_self]⟩
    · obtain ⟨other, isOther⟩ := voices.writing id isOld
      have differs : other ≠ tap := by
        rintro rfl
        rw [idle] at isOther
        cases isOther
      exact ⟨other, by rw [Function.update_of_ne differs, isOther]⟩
  closed := by
    intro clip member
    rw [commits] at member
    obtain ⟨isCallsigns, notOpen⟩ := voices.closed clip member
    refine ⟨by rw [isClosed, isCallsigns], fun other => ?_⟩
    have older := voices.known clip.id
      ((books.accounted clip.id).mpr (Or.inl (mem_outcome_of_committed member)))
    rw [isIds, Function.update_apply]
    split
    case isTrue =>
      intro isNew
      cases isNew
      omega
    case isFalse => exact notOpen other

/-- A clip closes in the ledger. -/
theorem Voices.close (voices : recorder.Voices ledger opened effects) (after : Recorder)
    (more : List RecorderEffect) {tap : TapId} {clip : LedgerClip} (distinct : next.Distinct)
    (isOpen : ledger.clips tap = some clip)
    (isIds : next.ids = Function.update ledger.ids tap none)
    (isLast : next.lastOpened = ledger.lastOpened) (isClosed : next.closed = (ledger.close tap).closed)
    (writes : ∀ id, (after.openClips.lookup id).isSome →
      id ≠ clip.clipId ∧ (recorder.openClips.lookup id).isSome)
    (commits : ∀ stored ∈ (effects ++ more).filterMap committed,
      stored ∈ effects.filterMap committed ∨
        stored.id = clip.clipId ∧ stored.callsigns = clip.callsigns) :
    after.Voices next opened (effects ++ more) where
  distinct := distinct
  known := by
    rw [isLast]
    exact voices.known
  writing := by
    intro id isWriting
    obtain ⟨differs, isOld⟩ := writes id isWriting
    obtain ⟨other, isOther⟩ := voices.writing id isOld
    have otherTap : other ≠ tap := by
      rintro rfl
      rw [ids, isOpen] at isOther
      cases isOther
      exact differs rfl
    exact ⟨other, by rw [isIds, Function.update_of_ne otherTap, isOther]⟩
  closed := by
    have isId : ledger.ids tap = some clip.clipId := by rw [ids, isOpen, Option.map_some]
    intro stored member
    rw [isClosed, closed_close, isId, isIds]
    rcases commits stored member with isOld | ⟨sameId, sameCallsigns⟩
    · obtain ⟨isCallsigns, notOpen⟩ := voices.closed stored isOld
      refine ⟨?_, fun other => ?_⟩
      · rw [if_neg (isId ▸ notOpen tap), isCallsigns]
      · rw [Function.update_apply]
        split
        case isTrue => simp
        case isFalse => exact notOpen other
    · rw [sameId, if_pos rfl, isOpen, Option.map_some, sameCallsigns]
      refine ⟨rfl, fun other => ?_⟩
      rw [Function.update_apply]
      split
      case isTrue => simp
      case isFalse differs =>
        intro isOther
        exact differs (voices.distinct.injective other tap _ isOther isId)

/-! ## Actions -/

theorem finish_openClips (recorder : Recorder) (clipId : ℕ) (path : String)
    (finalized : Option ClipMeta) :
    (recorder.finish clipId path finalized).1.openClips = recorder.openClips := by
  cases finalized <;> rfl

theorem mem_committed_finish {clipId : ℕ} {path : String} {finalized : Option ClipMeta}
    {stored : ClipMeta}
    (member : stored ∈ (recorder.finish clipId path finalized).2.filterMap committed) :
    stored ∈ finalized := by
  cases finalized with
  | none => cases member
  | some clip =>
      cases List.mem_singleton.mp member
      rfl

/-- The books and the callsigns are in order. -/
structure Keeps (recorder : Recorder) (maxClips : ℕ) (ledger : Ledger) (opened : List ℕ)
    (effects : List RecorderEffect) : Prop where
  books : recorder.Books maxClips opened effects
  voices : recorder.Voices ledger opened effects

/-- A name is free for a clip: there are fewer files than numbers to append to a name. -/
def hasRoom (recorder : Recorder) : Bool :=
  decide (recorder.store.files.card < 2 ^ 32 - 2)

theorem Keeps.openClip (keeps : recorder.Keeps maxClips ledger opened effects) (disk : Disk)
    (hasRoom : recorder.hasRoom = true) {clipId : ℕ} {tap : TapId} {sampleRate channels : ℕ}
    {callsigns : Finset String} {frequency : Option Frequency} {startedAt : SystemTime}
    (admits : Admits mode ledger
      (.action (.openClip clipId tap sampleRate channels callsigns frequency startedAt)) next) :
    Keeps (recorder.openClip disk clipId tap sampleRate channels callsigns frequency startedAt).1
      maxClips next (opened ++ [clipId])
      (effects ++
        (recorder.openClip disk clipId tap sampleRate channels callsigns frequency startedAt).2) := by
  have distinct := keeps.voices.distinct.admits admits
  have free : recorder.store.allocate tap startedAt ∉ recorder.store.files :=
    uniquePath_notMem _ (of_decide_eq_true hasRoom)
  cases admits with
  | openClip increases idle format starts =>
      have idle : ledger.ids tap = none := by rw [ids, idle, Option.map_none]
      have fresh : clipId ∉ opened := by
        intro member
        have older := keeps.voices.known clipId member
        omega
      unfold Recorder.openClip
      cases ClipWriter.create disk clipId sampleRate channels with
      | some writer =>
          constructor
          · rw [List.append_nil]
            exact keeps.books.openSome fresh free
          · refine keeps.voices.open keeps.books distinct increases idle (ids_setClip ledger _ _) rfl
              rfl ?_ ?_
            · intro id isWriting
              simp only [Finmap.lookup_insert_eq] at isWriting
              split at isWriting
              case isTrue same => exact Or.inl same
              case isFalse => exact Or.inr isWriting
            · rw [List.append_nil]
      | none =>
          constructor
          · exact keeps.books.openNone fresh free
          · exact keeps.voices.open keeps.books distinct increases idle (ids_setClip ledger _ _) rfl
              rfl (fun _ isWriting => Or.inr isWriting)
              (filterMap_append_none committed effects (.discarded clipId) rfl)

theorem Keeps.closeClip (keeps : recorder.Keeps maxClips ledger opened effects) (disk : Disk)
    {clipId : ℕ} {callsigns : Finset String} {endedAt : SystemTime} {durationMs : ℕ}
    (admits : Admits mode ledger (.action (.closeClip clipId callsigns endedAt durationMs)) next) :
    Keeps (recorder.closeClip disk clipId callsigns endedAt durationMs).1 maxClips next opened
      (effects ++ (recorder.closeClip disk clipId callsigns endedAt durationMs).2) := by
  have distinct := keeps.voices.distinct.admits admits
  cases admits with
  | @closeClip tap clip _ _ isOpen written ended =>
      have isIds := ids_setClip ledger tap none
      unfold Recorder.closeClip
      cases isWriting : recorder.openClips.lookup clip.clipId with
      | none =>
          -- the writer was not created, and the clip has its outcome
          refine ⟨?_, keeps.voices.close recorder [] distinct isOpen isIds rfl rfl ?_ ?_⟩
          · rw [List.append_nil]
            exact keeps.books
          · intro id writes
            refine ⟨?_, writes⟩
            rintro rfl
            rw [isWriting] at writes
            cases writes
          · intro stored member
            rw [List.append_nil] at member
            exact Or.inl member
      | some writing =>
          set closing : RecorderClip := { writing with callsigns := clip.callsigns } with isClosing
          refine ⟨keeps.books.finish isWriting fun stored isStored => ?_,
            keeps.voices.close _ _ distinct isOpen isIds rfl rfl ?_ ?_⟩
          · obtain ⟨isId, isPath, -⟩ := of_mem_finalize isStored
            exact ⟨isId, isPath⟩
          · intro id writes
            rw [finish_openClips, Finmap.lookup_erase_eq] at writes
            split at writes
            case isTrue => cases writes
            case isFalse differs => exact ⟨differs, writes⟩
          · intro stored member
            rw [List.filterMap_append, List.mem_append] at member
            rcases member with isOld | isNew
            · exact Or.inl isOld
            · obtain ⟨isId, -, isCallsigns⟩ := of_mem_finalize (mem_committed_finish isNew)
              exact Or.inr ⟨isId, isCallsigns⟩

theorem writeFrame_files (disk : Disk) (recorder : Recorder) (clipId : ℕ) (samples : Samples) :
    (recorder.writeFrame disk clipId samples).store.files = recorder.store.files := by
  unfold Recorder.writeFrame
  split <;> rfl

theorem removeFiles_subset (files : Finset String) (clips : List ClipMeta) :
    ClipStore.removeFiles files clips ⊆ files := by
  intro path member
  exact (ClipStore.mem_removeFiles.mp member).1

theorem finish_files_subset (recorder : Recorder) (clipId : ℕ) (path : String)
    (finalized : Option ClipMeta) :
    (recorder.finish clipId path finalized).1.store.files ⊆ recorder.store.files := by
  cases finalized with
  | none => exact Finset.erase_subset path _
  | some clip =>
      simp only [finish, ClipStore.commit, ClipStore.evictOverflow, ClipStore.evictLoop_eq]
      exact removeFiles_subset _ _

theorem closeClip_files_subset (disk : Disk) (recorder : Recorder) (clipId : ℕ)
    (callsigns : Finset String) (endedAt : SystemTime) (durationMs : ℕ) :
    (recorder.closeClip disk clipId callsigns endedAt durationMs).1.store.files ⊆
      recorder.store.files := by
  unfold Recorder.closeClip
  split
  case h_1 => exact Finset.Subset.refl _
  case h_2 => exact finish_files_subset _ _ _ _

theorem hasRoom_of_subset {after : Recorder} (subset : after.store.files ⊆ recorder.store.files)
    (hasRoom : recorder.hasRoom = true) : after.hasRoom = true :=
  decide_eq_true ((Finset.card_le_card subset).trans_lt (of_decide_eq_true hasRoom))

/-- An action that the ledger admits. After a clip was opened the same call opens no other. -/
theorem Keeps.applyAction (keeps : recorder.Keeps maxClips ledger opened effects) (disk : Disk)
    (hasRoom : ledger.current ≠ .other → recorder.hasRoom = true) {action : FsmAction}
    (admits : Admits mode ledger (.action action) next) :
    Keeps (recorder.applyAction disk action).1 maxClips next
      (opened ++ (LogEntry.opened (.action action)).toList)
      (effects ++ (recorder.applyAction disk action).2) ∧
    (next.current ≠ .other → (recorder.applyAction disk action).1.hasRoom = true) := by
  cases action with
  | openClip clipId tap sampleRate channels callsigns frequency startedAt =>
      have busy : ledger.current ≠ .other := by
        intro isOther
        cases admits with
        | openClip increases idle format starts =>
            rw [isOther] at starts
            cases starts
      refine ⟨keeps.openClip disk (hasRoom busy) admits, ?_⟩
      cases admits with
      | openClip increases idle format starts => exact fun isBusy => absurd rfl isBusy
  | writeFrame clipId samples =>
      simp only [Recorder.applyAction, LogEntry.opened, Option.toList_none, List.append_nil]
      cases admits with
      | writeFrame due isOpen format =>
          refine ⟨⟨keeps.books.writeFrame disk _ samples, ?_⟩, fun _ => ?_⟩
          · refine ⟨?_, keeps.voices.known, ?_, keeps.voices.closed⟩
            · exact ⟨keeps.voices.distinct.bounded, keeps.voices.distinct.injective⟩
            · intro id isWriting
              refine keeps.voices.writing id ?_
              rwa [writeFrame_lookup_isSome] at isWriting
          · have busy : ledger.current ≠ .other := by
              rw [due]
              simp
            exact hasRoom_of_subset (writeFrame_files disk recorder _ samples).subset (hasRoom busy)
  | closeClip clipId callsigns endedAt durationMs =>
      refine ⟨?_, fun busyAfter => ?_⟩
      · rw [LogEntry.opened, Option.toList_none, List.append_nil]
        exact keeps.closeClip disk admits
      · have busy : ledger.current ≠ .other := by
          intro isOther
          cases admits with
          | closeClip isOpen written ended =>
              apply busyAfter
              rw [isOther]
              rfl
        exact hasRoom_of_subset (closeClip_files_subset disk recorder _ _ _ _) (hasRoom busy)

/-! ## The callsigns of clips that are being written -/

/-- A clip that is being written has the callsigns it has in the ledger, unless another one has
joined it. -/
def Heard (recorder : Recorder) (ledger : Ledger) (joined : List ℕ) : Prop :=
  ∀ tap clip, ledger.clips tap = some clip →
    ∀ writing, recorder.openClips.lookup clip.clipId = some writing →
      clip.clipId ∈ joined ∨ writing.callsigns = clip.callsigns

theorem lookup_writeFrame {disk : Disk} {clipId id : ℕ} {samples : Samples}
    {writing : RecorderClip}
    (isWriting : (recorder.writeFrame disk clipId samples).openClips.lookup id = some writing) :
    ∃ held, recorder.openClips.lookup id = some held ∧ held.callsigns = writing.callsigns := by
  unfold Recorder.writeFrame at isWriting
  split at isWriting
  · exact ⟨writing, isWriting, rfl⟩
  · next clip isClip =>
      simp only [Finmap.lookup_insert_eq] at isWriting
      split at isWriting
      · next same =>
          cases isWriting
          exact ⟨clip, same ▸ isClip, rfl⟩
      · exact ⟨writing, isWriting, rfl⟩

theorem lookup_closeClip {disk : Disk} {clipId id : ℕ} {callsigns : Finset String}
    {endedAt : SystemTime} {durationMs : ℕ} {writing : RecorderClip}
    (isWriting : (recorder.closeClip disk clipId callsigns endedAt durationMs).1.openClips.lookup id =
      some writing) : recorder.openClips.lookup id = some writing := by
  unfold Recorder.closeClip at isWriting
  split at isWriting
  · exact isWriting
  · rw [finish_openClips, Finmap.lookup_erase_eq] at isWriting
    split at isWriting
    · cases isWriting
    · exact isWriting

/-- The writer of a clip that opens has the callsigns of the clip. -/
theorem lookup_openClip {disk : Disk} {clipId : ℕ} {tap : TapId} {sampleRate channels : ℕ}
    {callsigns : Finset String} {frequency : Option Frequency} {startedAt : SystemTime} {id : ℕ}
    {writing : RecorderClip}
    (isWriting : (recorder.openClip disk clipId tap sampleRate channels callsigns frequency
      startedAt).1.openClips.lookup id = some writing) :
    id = clipId ∧ writing.callsigns = callsigns ∨ recorder.openClips.lookup id = some writing := by
  unfold Recorder.openClip at isWriting
  simp only at isWriting
  split at isWriting
  · simp only [Finmap.lookup_insert_eq] at isWriting
    split at isWriting
    · next same =>
        cases isWriting
        exact Or.inl ⟨same, rfl⟩
    · exact Or.inr isWriting
  · exact Or.inr isWriting

theorem Heard.applyAction {joined : List ℕ} (heard : recorder.Heard ledger joined)
    (voices : recorder.Voices ledger opened effects) (disk : Disk) {action : FsmAction}
    (admits : Admits mode ledger (.action action) next) :
    (recorder.applyAction disk action).1.Heard next joined := by
  intro tap clip isClip writing isWriting
  cases admits with
  | @openClip clipId opens _ _ _ _ _ _ increases =>
      change Function.update ledger.clips opens _ tap = some clip at isClip
      rcases lookup_openClip isWriting with ⟨same, isCallsigns⟩ | isOld
      · by_cases isTap : tap = opens
        · subst isTap
          rw [Function.update_self] at isClip
          cases isClip
          exact Or.inr isCallsigns
        · rw [Function.update_of_ne isTap] at isClip
          have older := voices.distinct.bounded tap clip.clipId (by rw [ids, isClip, Option.map_some])
          omega
      · by_cases isTap : tap = opens
        · subst isTap
          rw [Function.update_self] at isClip
          cases isClip
          -- no clip of a later id is being written
          obtain ⟨other, isOther⟩ := voices.writing clipId (by rw [isOld, Option.isSome_some])
          have older := voices.distinct.bounded other clipId isOther
          omega
        · rw [Function.update_of_ne isTap] at isClip
          exact heard tap clip isClip writing isOld
  | writeFrame =>
      obtain ⟨held, isHeld, same⟩ := lookup_writeFrame isWriting
      rw [← same]
      exact heard tap clip isClip held isHeld
  | @closeClip closes =>
      change Function.update ledger.clips closes none tap = some clip at isClip
      by_cases isTap : tap = closes
      · subst isTap
        rw [Function.update_self] at isClip
        cases isClip
      · rw [Function.update_of_ne isTap] at isClip
        exact heard tap clip isClip writing (lookup_closeClip isWriting)

/-- The actions of a call, by induction on them. -/
theorem Keeps.applyActions {joined : List ℕ} (disk : Disk) (actions : List FsmAction) :
    ∀ {recorder : Recorder} {ledger : Ledger} {opened : List ℕ} {effects : List RecorderEffect}
      {final : Ledger}, recorder.Keeps maxClips ledger opened effects →
      recorder.Heard ledger joined → (ledger.current ≠ .other → recorder.hasRoom = true) →
      AdmitsAll mode ledger (actions.map .action) final →
      Keeps (recorder.applyActions disk actions).1 maxClips final
        (opened ++ (actions.map LogEntry.action).filterMap LogEntry.opened)
        (effects ++ (recorder.applyActions disk actions).2) ∧
      (recorder.applyActions disk actions).1.Heard final joined := by
  induction actions with
  | nil =>
      intro recorder ledger opened effects final keeps heard _ admitted
      cases admitted
      exact ⟨by simpa [Recorder.applyActions] using keeps, heard⟩
  | cons action actions ih =>
      intro recorder ledger opened effects final keeps heard hasRoom admitted
      cases admitted with
      | cons first rest =>
          obtain ⟨keepsNext, hasRoomNext⟩ := keeps.applyAction disk hasRoom first
          obtain ⟨keepsFinal, heardFinal⟩ :=
            ih keepsNext (heard.applyAction keeps.voices disk first) hasRoomNext rest
          simp only [Recorder.applyActions]
          rw [List.append_assoc, List.append_assoc] at keepsFinal
          have openings : (List.map LogEntry.action (action :: actions)).filterMap LogEntry.opened =
              (LogEntry.opened (.action action)).toList ++
                (actions.map LogEntry.action).filterMap LogEntry.opened := by
            rw [List.map_cons, List.filterMap_cons]
            cases LogEntry.opened (.action action) <;> rfl
          rw [openings]
          exact ⟨keepsFinal, heardFinal⟩

/-! ## Actions on a reliable disk -/

theorem failed_finish {clipId : ℕ} {path : String} {finalized : Option ClipMeta}
    (isSome : finalized.isSome) : (recorder.finish clipId path finalized).2.filterMap failed = [] := by
  cases finalized with
  | none => cases isSome
  | some clip => rfl

theorem isSome_finalize_reliable (clip : RecorderClip) (id : ℕ) (endedAt : Option SystemTime)
    (durationOverride : Option ℕ) :
    (clip.finalize .reliable id endedAt durationOverride).isSome = true := by
  unfold RecorderClip.finalize ClipWriter.finalize
  rw [Option.isSome_map]
  simp only [Disk.reliable, if_true]
  split <;> rfl

/-- No writer fails, if the formats are valid. -/
theorem failed_applyAction (recorder : Recorder) {action : FsmAction} (formatted : ledger.Formatted)
    (admits : Admits mode ledger (.action action) next) :
    (recorder.applyAction .reliable action).2.filterMap failed = [] ∧ next.Formatted := by
  cases admits with
  | openClip increases idle format starts =>
      obtain ⟨isRate, isChannels⟩ := formatted _ _ _ format
      refine ⟨?_, formatted⟩
      simp [Recorder.applyAction, Recorder.openClip, ClipWriter.create, isRate, isChannels,
        Disk.reliable]
  | writeFrame due isOpen format => exact ⟨rfl, formatted⟩
  | closeClip isOpen written ended =>
      refine ⟨?_, formatted⟩
      simp only [Recorder.applyAction, Recorder.closeClip]
      split
      case h_1 => rfl
      case h_2 => exact failed_finish (isSome_finalize_reliable _ _ _ _)

theorem failed_applyActions (actions : List FsmAction) :
    ∀ {recorder : Recorder} {ledger final : Ledger}, ledger.Formatted →
      AdmitsAll mode ledger (actions.map .action) final →
      (recorder.applyActions .reliable actions).2.filterMap failed = [] ∧ final.Formatted := by
  induction actions with
  | nil =>
      intro recorder ledger final formatted admitted
      cases admitted
      exact ⟨rfl, formatted⟩
  | cons action actions ih =>
      intro recorder ledger final formatted admitted
      cases admitted with
      | cons first rest =>
          obtain ⟨noneFailed, formattedNext⟩ :=
            failed_applyAction recorder formatted first
          obtain ⟨noneFailedLater, formattedFinal⟩ := ih formattedNext rest
          refine ⟨?_, formattedFinal⟩
          simp only [Recorder.applyActions]
          rw [List.filterMap_append, noneFailed, noneFailedLater]
          rfl

/-! ## Shutdown -/

/-- The loop at shutdown keeps the books, by induction on the clips that are still to come. -/
theorem Books.drainAll (disk : Disk) (clipIds : List ℕ) :
    ∀ {recorder : Recorder} {effects : List RecorderEffect},
      recorder.Books maxClips opened effects →
      (recorder.drainAll disk clipIds).1.Books maxClips opened
        (effects ++ (recorder.drainAll disk clipIds).2) := by
  induction clipIds with
  | nil =>
      intro recorder effects books
      simpa [Recorder.drainAll] using books
  | cons clipId clipIds ih =>
      intro recorder effects books
      simp only [Recorder.drainAll]
      rw [← List.append_assoc]
      apply ih
      unfold Recorder.drainOne
      cases isWriting : recorder.openClips.lookup clipId with
      | none => simpa using books
      | some clip =>
          refine books.finish isWriting fun stored isStored => ?_
          obtain ⟨isId, isPath, -⟩ := of_mem_finalize isStored
          exact ⟨isId, isPath⟩

theorem drainOne_openClips (disk : Disk) (recorder : Recorder) (clipId id : ℕ) :
    (recorder.drainOne disk clipId).1.openClips.lookup id =
      if id = clipId then none else recorder.openClips.lookup id := by
  unfold Recorder.drainOne
  cases isWriting : recorder.openClips.lookup clipId with
  | none =>
      simp only
      split
      case isTrue same => rw [same, isWriting]
      case isFalse => rfl
  | some clip =>
      simp only [finish_openClips]
      rw [Finmap.lookup_erase_eq]

/-- Only clips that are not walked are left. -/
theorem drainAll_openClips (disk : Disk) (clipIds : List ℕ) (id : ℕ) :
    ∀ recorder : Recorder, (recorder.drainAll disk clipIds).1.openClips.lookup id =
      if id ∈ clipIds then none else recorder.openClips.lookup id := by
  induction clipIds with
  | nil =>
      intro recorder
      rfl
  | cons clipId clipIds ih =>
      intro recorder
      simp only [Recorder.drainAll]
      rw [ih, drainOne_openClips]
      by_cases same : id = clipId
      · simp [same]
      · simp [same]

/-- A clip that is committed at shutdown was being written, with its callsigns. -/
theorem mem_committed_drainAll (disk : Disk) (clipIds : List ℕ) {stored : ClipMeta} :
    ∀ {recorder : Recorder},
      stored ∈ (recorder.drainAll disk clipIds).2.filterMap committed →
      ∃ clip, recorder.openClips.lookup stored.id = some clip ∧ clip.callsigns = stored.callsigns := by
  induction clipIds with
  | nil =>
      intro recorder member
      cases member
  | cons clipId clipIds ih =>
      intro recorder member
      simp only [Recorder.drainAll] at member
      rw [List.filterMap_append, List.mem_append] at member
      rcases member with isFirst | later
      · unfold Recorder.drainOne at isFirst
        cases isWriting : recorder.openClips.lookup clipId with
        | none =>
            rw [isWriting] at isFirst
            cases isFirst
        | some clip =>
            simp only [isWriting] at isFirst
            obtain ⟨isId, -, isCallsigns⟩ := of_mem_finalize (mem_committed_finish isFirst)
            exact ⟨clip, by rw [isId, isWriting], isCallsigns.symm⟩
      · obtain ⟨clip, isWriting, isCallsigns⟩ := ih later
        rw [drainOne_openClips] at isWriting
        split at isWriting
        case isTrue => cases isWriting
        case isFalse => exact ⟨clip, isWriting, isCallsigns⟩

theorem failed_drainAll (clipIds : List ℕ) :
    ∀ recorder : Recorder, (recorder.drainAll .reliable clipIds).2.filterMap failed = [] := by
  induction clipIds with
  | nil =>
      intro recorder
      rfl
  | cons clipId clipIds ih =>
      intro recorder
      simp only [Recorder.drainAll]
      rw [List.filterMap_append, ih, List.append_nil]
      unfold Recorder.drainOne
      split
      case h_1 => rfl
      case h_2 => exact failed_finish (isSome_finalize_reliable _ _ _ _)

end Recorder

/-! ## Runs -/

namespace FsmCall

/-- A tap is announced with a sample rate and with channels. -/
def hasFormat : FsmCall → Bool
  | .event (.tapOpened _ sampleRate channels) _ _ =>
      decide (sampleRate ≠ 0) && decide (channels ≠ 0)
  | .event _ _ _ | .tick _ _ _ => true

end FsmCall

theorem Ledger.Formatted.call {ledger : Ledger} (formatted : ledger.Formatted)
    (mode : RecordingMode) {call : FsmCall} (hasFormat : call.hasFormat = true) :
    (ledger.observe mode call).Formatted := by
  cases call with
  | tick order now nowWall => exact formatted
  | event event now nowWall =>
      cases event with
      | tapOpened tap sampleRate channels =>
          rw [FsmCall.hasFormat, Bool.and_eq_true, decide_eq_true_eq, decide_eq_true_eq] at hasFormat
          intro other otherRate otherChannels isFormat
          simp only [observe, Function.update_apply] at isFormat
          split at isFormat
          case isTrue =>
            cases isFormat
            exact hasFormat
          case isFalse => exact formatted other otherRate otherChannels isFormat
      | tapClosed tap => exact formatted
      | frame tap samples capturedAt => exact formatted
      | rxBegin tap callsign frequency => exact formatted
      | rxEnd callsign frequency activeTransmitters => exact formatted

namespace RecordingMove

def call? : RecordingMove → Option FsmCall
  | .call called _ => some called
  | .delete _ | .clear => none

/-- No request to the file system fails, and no invalid format is announced. -/
def Succeeds : RecordingMove → Prop
  | .call called disk => disk = .reliable ∧ called.hasFormat = true
  | .delete _ | .clear => True

end RecordingMove

namespace Recording

/-- Before every call of a run there is a name left for a clip. -/
def runHasRoom (recording : Recording) : List RecordingMove → Bool
  | [] => true
  | move :: moves =>
      (recording.recorder.hasRoom || move.call?.isNone) &&
        (recording.step move).1.runHasRoom moves

/-- The clip that a move gives a callsign it does not have. -/
def joins (recording : Recording) : RecordingMove → Option ℕ
  | .call (.event (.rxBegin tap callsign _) _ _) _ =>
      ((recording.fsm.clipAt (Fsm.mapTap recording.fsm.mode tap)).filter fun clip =>
        decide (callsign ∉ clip.callsigns)).map OpenClip.clipId
  | .call _ _ | .delete _ | .clear => none

/-- The clips that a callsign joins during moves. -/
def joinedClips (recording : Recording) : List RecordingMove → List ℕ
  | [] => []
  | move :: moves => (recording.joins move).toList ++ (recording.step move).1.joinedClips moves

/-- None of the clips that a callsign joins during moves is left open by them. -/
def joinedFinish (recording : Recording) (moves : List RecordingMove) : Bool :=
  decide (∀ clipId ∈ recording.joinedClips moves,
    (recording.run moves).1.recorder.openClips.lookup clipId = none)

variable {maxClips : ℕ} {opened joined : List ℕ} {effects : List RecorderEffect}

/-- What holds between the moves of a run. -/
structure Runs (recording : Recording) (maxClips : ℕ) (ledger : Ledger) (opened : List ℕ)
    (effects : List RecorderEffect) (joined : List ℕ) : Prop where
  matched : recording.fsm.Matches ledger
  written : ∀ tap samples, ledger.current ≠ .frame tap samples
  keeps : recording.recorder.Keeps maxClips ledger opened effects
  heard : recording.recorder.Heard ledger joined

theorem clipAt_of_matches {fsm : Fsm} {ledger : Ledger} (matched : fsm.Matches ledger)
    {tap : TapId} {clip : LedgerClip} (isClip : ledger.clips tap = some clip) :
    ∃ openClip, fsm.clipAt tap = some openClip ∧ openClip.clipId = clip.clipId ∧
      openClip.callsigns = clip.callsigns := by
  rw [matched.clips] at isClip
  obtain ⟨entry, isEntry, isClip⟩ := Option.bind_eq_some_iff.mp isClip
  obtain ⟨openClip, isOpen, rfl⟩ := Option.map_eq_some_iff.mp isClip
  exact ⟨openClip, (Fsm.clipAt_of_entry isEntry).trans isOpen, rfl, rfl⟩

/-- A transmission that begins may join a clip; no other call changes the callsigns of one. -/
theorem Runs.heard_observe {recording : Recording} {ledger : Ledger}
    (runs : recording.Runs maxClips ledger opened effects joined) (call : FsmCall) (disk : Disk) :
    recording.recorder.Heard (ledger.observe recording.fsm.mode call)
      (joined ++ (recording.joins (.call call disk)).toList) := by
  have earlier : ∀ tap clip, ledger.clips tap = some clip →
      ∀ writing, recording.recorder.openClips.lookup clip.clipId = some writing →
        clip.clipId ∈ joined ++ (recording.joins (.call call disk)).toList ∨
          writing.callsigns = clip.callsigns := fun tap clip isClip writing isWriting =>
    (runs.heard tap clip isClip writing isWriting).imp_left (List.mem_append_left _)
  intro tap clip isClip writing isWriting
  cases call with
  | tick order now nowWall => exact earlier tap clip isClip writing isWriting
  | event event now nowWall =>
      cases event with
      | tapOpened _ _ _ => exact earlier tap clip isClip writing isWriting
      | tapClosed _ => exact earlier tap clip isClip writing isWriting
      | frame _ _ _ => exact earlier tap clip isClip writing isWriting
      | rxBegin begins callsign frequency =>
          simp only [observe, Function.update_apply] at isClip
          split at isClip
          case isFalse => exact earlier tap clip isClip writing isWriting
          case isTrue =>
            obtain ⟨before, isBefore, rfl⟩ := Option.map_eq_some_iff.mp isClip
            obtain ⟨openClip, isOpen, sameId, sameCallsigns⟩ :=
              clipAt_of_matches runs.matched isBefore
            by_cases isNew : callsign ∈ before.callsigns
            · simp only [Finset.insert_eq_self.mpr isNew]
              exact earlier _ before isBefore writing isWriting
            · refine Or.inl (List.mem_append_right _ (Option.mem_toList.mpr ?_))
              refine Option.map_eq_some_iff.mpr ⟨openClip, ?_, sameId⟩
              rw [Option.filter_eq_some_iff]
              exact ⟨isOpen, decide_eq_true (sameCallsigns ▸ isNew)⟩
      | rxEnd callsign frequency activeTransmitters =>
          obtain ⟨before, isBefore, rfl⟩ := Option.map_eq_some_iff.mp isClip
          exact earlier tap before isBefore writing isWriting

/-- A call of the state machine, and what the recorder does with its actions. -/
theorem Runs.call {recording : Recording} {ledger : Ledger}
    (runs : recording.Runs maxClips ledger opened effects joined) (call : FsmCall) (disk : Disk)
    (hasRoom : recording.recorder.hasRoom = true) :
    ∃ next, AdmitsAll recording.fsm.mode ledger
        (.call call :: (recording.fsm.call call).2.map .action) next ∧
      (recording.step (.call call disk)).1.Runs maxClips next
        (opened ++ ((recording.fsm.call call).2.map LogEntry.action).filterMap LogEntry.opened)
        (effects ++ (recording.step (.call call disk)).2)
        (joined ++ (recording.joins (.call call disk)).toList) ∧
      (RecordingMove.Succeeds (.call call disk) → ledger.Formatted →
        next.Formatted ∧ (recording.step (.call call disk)).2.filterMap failed = []) := by
  obtain ⟨next, admitted, matched, written⟩ := Fsm.continues_call runs.matched runs.written call
  refine ⟨next, admitted, ?_, ?_⟩
  · cases admitted with
    | cons first rest =>
        cases first with
        | call =>
            have observed : recording.recorder.Keeps maxClips
                (ledger.observe recording.fsm.mode call) opened effects :=
              ⟨runs.keeps.books, runs.keeps.voices.call recording.fsm.mode call⟩
            obtain ⟨keeps, heard⟩ := Recorder.Keeps.applyActions disk _ observed
              (runs.heard_observe call disk) (fun _ => hasRoom) rest
            exact ⟨matched, written, keeps, heard⟩
  · rintro ⟨isReliable, hasFormat⟩ formatted
    cases admitted with
    | cons first rest =>
        cases first with
        | call =>
            have observed := formatted.call recording.fsm.mode hasFormat
            obtain ⟨noneFailed, formattedNext⟩ := Recorder.failed_applyActions _ observed rest
            rw [isReliable]
            exact ⟨formattedNext, noneFailed⟩

/-- A request of the user removes clips of the deque. -/
theorem Runs.removes {recording : Recording} {ledger : Ledger} {after : Recorder}
    {gone : List ClipMeta} (runs : recording.Runs maxClips ledger opened effects joined)
    (books : after.Books maxClips opened (effects ++ gone.map RecorderEffect.deleted))
    (sameOpen : after.openClips = recording.recorder.openClips) :
    Runs { recording with recorder := after } maxClips ledger opened
      (effects ++ gone.map RecorderEffect.deleted) joined := by
  refine ⟨runs.matched, runs.written, ⟨books, runs.keeps.voices.distinct, runs.keeps.voices.known,
    ?_, ?_⟩, ?_⟩
  · rw [sameOpen]
    exact runs.keeps.voices.writing
  · have commits : (effects ++ gone.map RecorderEffect.deleted).filterMap committed =
        effects.filterMap committed := by
      simp [committed]
    rw [commits]
    exact runs.keeps.voices.closed
  · unfold Recorder.Heard
    rw [sameOpen]
    exact runs.heard

/-- A request of the user leaves the state machine alone. -/
theorem Runs.request {recording : Recording} {ledger : Ledger}
    (runs : recording.Runs maxClips ledger opened effects joined) {move : RecordingMove}
    (isRequest : move.call? = none) :
    (recording.step move).1.fsm = recording.fsm ∧
      (recording.step move).1.Runs maxClips ledger opened (effects ++ (recording.step move).2)
        joined ∧
      (recording.step move).2.filterMap failed = [] := by
  cases move with
  | call call disk => cases isRequest
  | delete id =>
      exact ⟨rfl, runs.removes (runs.keeps.books.delete id) rfl, by
        simp [Recording.step, Recorder.delete, failed]⟩
  | clear =>
      exact ⟨rfl, runs.removes runs.keeps.books.clear rfl, by
        simp [Recording.step, Recorder.clear, failed]⟩

/-- A run, by induction on its moves. -/
theorem Runs.run (moves : List RecordingMove) :
    ∀ {recording : Recording} {ledger : Ledger} {opened joined : List ℕ}
      {effects : List RecorderEffect},
      recording.Runs maxClips ledger opened effects joined → recording.runHasRoom moves = true →
      ∃ final, AdmitsAll recording.fsm.mode ledger
          (recording.fsm.log (moves.filterMap RecordingMove.call?)) final ∧
        (recording.run moves).1.Runs maxClips final
          (opened ++ (recording.fsm.log (moves.filterMap RecordingMove.call?)).filterMap
            LogEntry.opened)
          (effects ++ (recording.run moves).2) (joined ++ recording.joinedClips moves) ∧
        ((∀ move ∈ moves, move.Succeeds) → ledger.Formatted →
          (recording.run moves).2.filterMap failed = []) := by
  induction moves with
  | nil =>
      intro recording ledger opened joined effects runs _
      refine ⟨ledger, .nil ledger, ?_, fun _ _ => rfl⟩
      simpa [Recording.run, Fsm.log, joinedClips] using runs
  | cons move moves ih =>
      intro recording ledger opened joined effects runs hasRoom
      rw [runHasRoom, Bool.and_eq_true] at hasRoom
      cases isCall : move.call? with
      | none =>
          obtain ⟨sameFsm, runsNext, noneFailed⟩ := runs.request isCall
          obtain ⟨final, admitted, runsFinal, succeedsLater⟩ := ih runsNext hasRoom.2
          rw [List.append_assoc] at runsFinal
          rw [sameFsm] at admitted runsFinal
          have joinsNone : recording.joins move = none := by
            cases move with
            | call call disk => cases isCall
            | delete id => rfl
            | clear => rfl
          rw [List.filterMap_cons_none isCall, joinedClips, joinsNone, Option.toList_none,
            List.nil_append]
          refine ⟨final, admitted, runsFinal, fun allSucceed formatted => ?_⟩
          have noneFailedLater := succeedsLater
            (fun later member => allSucceed later (List.mem_cons_of_mem _ member)) formatted
          simp only [Recording.run]
          rw [List.filterMap_append, noneFailed, noneFailedLater]
          rfl
      | some call =>
          obtain ⟨disk, rfl⟩ : ∃ disk, move = .call call disk := by
            cases move with
            | call other disk =>
                cases isCall
                exact ⟨disk, rfl⟩
            | delete id => cases isCall
            | clear => cases isCall
          have hasRoomNow : recording.recorder.hasRoom = true := by
            simpa [RecordingMove.call?] using hasRoom.1
          obtain ⟨next, admitted, runsNext, succeeds⟩ := runs.call call disk hasRoomNow
          obtain ⟨final, admittedLater, runsFinal, succeedsLater⟩ := ih runsNext hasRoom.2
          have isMode : (recording.step (.call call disk)).1.fsm.mode = recording.fsm.mode :=
            Fsm.call_mode recording.fsm call
          rw [isMode] at admittedLater
          refine ⟨final, admitted.append admittedLater, ?_, ?_⟩
          · rw [List.append_assoc, List.append_assoc, List.append_assoc,
              ← List.filterMap_append] at runsFinal
            exact runsFinal
          · intro allSucceed formatted
            obtain ⟨formattedNext, noneFailed⟩ :=
              succeeds (allSucceed _ List.mem_cons_self) formatted
            have noneFailedLater := succeedsLater
              (fun later member => allSucceed later (List.mem_cons_of_mem _ member)) formattedNext
            simp only [Recording.run]
            rw [List.filterMap_append, noneFailed, noneFailedLater]
            rfl

/-- A recording that begins. -/
theorem runs_new (config : PlaybackConfig) (mode : RecordingMode) (asKhz : Frequency → String) :
    (new config mode asKhz).Runs config.maxClips {} [] [] [] where
  matched := Fsm.matches_new config mode
  written := by simp
  keeps :=
    { books := Recorder.Books.new asKhz config.maxClips
      voices :=
        { distinct := distinct_empty
          known := by simp
          writing := by simp [new]
          closed := by simp } }
  heard := nofun

/-- A clip that is still being written, and that no callsign has joined, has the callsigns it
received. -/
theorem Runs.received {recording : Recording} {ledger : Ledger}
    (runs : recording.Runs maxClips ledger opened effects joined)
    (finish : ∀ clipId ∈ joined, recording.recorder.openClips.lookup clipId = none) {clipId : ℕ}
    {writing : RecorderClip}
    (isWriting : recording.recorder.openClips.lookup clipId = some writing) :
    ledger.Received clipId writing.callsigns := by
  obtain ⟨tap, isId⟩ := runs.keeps.voices.writing clipId (by rw [isWriting, Option.isSome_some])
  obtain ⟨clip, isClip, rfl⟩ := Option.map_eq_some_iff.mp isId
  rcases runs.heard tap clip isClip writing isWriting with isJoined | same
  · rw [finish _ isJoined] at isWriting
    cases isWriting
  · exact Or.inr ⟨tap, clip, isClip, rfl, same.symm⟩

/-! ## Every recording -/

/-- The clips that the state machine opened during moves. -/
def openedBy (config : PlaybackConfig) (mode : RecordingMode) (moves : List RecordingMove) :
    List ℕ :=
  ((Fsm.new config mode).log (moves.filterMap RecordingMove.call?)).filterMap LogEntry.opened

/-- The books are in order, and the committed clips have the callsigns they received according to
the log. -/
def Accounted (recorder : Recorder) (config : PlaybackConfig) (mode : RecordingMode)
    (moves : List RecordingMove) (effects : List RecorderEffect) : Prop :=
  recorder.Books config.maxClips (openedBy config mode moves) effects ∧
    ∃ ledger,
      AdmitsAll mode {} ((Fsm.new config mode).log (moves.filterMap RecordingMove.call?)) ledger ∧
      ∀ clip ∈ effects.filterMap committed, ledger.Received clip.id clip.callsigns

theorem runHasRoom_append {moves later : List RecordingMove} :
    ∀ {recording : Recording}, recording.runHasRoom (moves ++ later) = true →
      recording.runHasRoom moves = true := by
  induction moves with
  | nil =>
      intro recording _
      rfl
  | cons move moves ih =>
      intro recording hasRoom
      rw [List.cons_append, runHasRoom, Bool.and_eq_true] at hasRoom
      rw [runHasRoom, Bool.and_eq_true]
      exact ⟨hasRoom.1, ih hasRoom.2⟩

/-- Before the shutdown. -/
theorem accounted_run (config : PlaybackConfig) (mode : RecordingMode)
    (asKhz : Frequency → String) {moves : List RecordingMove}
    (hasRoom : (new config mode asKhz).runHasRoom moves = true) :
    Accounted ((new config mode asKhz).run moves).1.recorder config mode moves
      ((new config mode asKhz).run moves).2 := by
  obtain ⟨ledger, admitted, runs, -⟩ := (runs_new config mode asKhz).run moves hasRoom
  refine ⟨runs.keeps.books, ledger, admitted, fun clip member => ?_⟩
  exact Or.inl (runs.keeps.voices.closed clip member).1

/-- After the shutdown. -/
theorem accounted_shutdown (config : PlaybackConfig) (mode : RecordingMode)
    (asKhz : Frequency → String) {moves : List RecordingMove}
    (hasRoom : (new config mode asKhz).runHasRoom moves = true)
    (finish : (new config mode asKhz).joinedFinish moves = true) (order : Enumeration ℕ)
    (disk : Disk) :
    Accounted (((new config mode asKhz).run moves).1.shutdown order disk).1.recorder config mode
      moves (((new config mode asKhz).run moves).2 ++
        (((new config mode asKhz).run moves).1.shutdown order disk).2) := by
  obtain ⟨ledger, admitted, runs, -⟩ := (runs_new config mode asKhz).run moves hasRoom
  refine ⟨runs.keeps.books.drainAll disk _, ledger, admitted, fun clip member => ?_⟩
  rw [List.filterMap_append, List.mem_append] at member
  rcases member with isEarlier | isDrained
  · exact Or.inl (runs.keeps.voices.closed clip isEarlier).1
  · obtain ⟨writing, isWriting, isCallsigns⟩ := Recorder.mem_committed_drainAll disk _ isDrained
    rw [← isCallsigns]
    exact runs.received (of_decide_eq_true finish) isWriting

theorem openClips_shutdown (recording : Recording) (order : Enumeration ℕ) (disk : Disk) :
    (recording.shutdown order disk).1.recorder.openClips = ∅ := by
  apply Finmap.ext_lookup
  intro id
  rw [Finmap.lookup_empty]
  refine (Recorder.drainAll_openClips disk _ id recording.recorder).trans ?_
  split
  case isTrue => rfl
  case isFalse absent =>
    rw [Enumeration.mem_list, Finmap.mem_keys] at absent
    exact Finmap.lookup_eq_none.mpr absent

/-- Clips that were not given up were committed. -/
theorem outcome_eq_committed {effects : List RecorderEffect} (noneFailed : effects.filterMap failed = []) :
    effects.filterMap outcome = (effects.filterMap committed).map ClipMeta.id := by
  induction effects with
  | nil => rfl
  | cons effect effects ih =>
      cases effect with
      | recorded clip evicted => exact congrArg (clip.id :: ·) (ih noneFailed)
      | discarded clipId => cases noneFailed
      | deleted clip => exact ih noneFailed

/-- Once no clip is open, every clip that was opened has exactly one outcome. -/
theorem outcome_perm {config : PlaybackConfig} {mode : RecordingMode} {moves : List RecordingMove}
    {recorder : Recorder} {effects : List RecorderEffect}
    (books : recorder.Books config.maxClips (openedBy config mode moves) effects)
    (noneOpen : recorder.openClips = ∅) :
    (effects.filterMap outcome).Perm (openedBy config mode moves) := by
  obtain ⟨ledger, admitted, -⟩ :=
    Fsm.admitsAll_log (moves.filterMap RecordingMove.call?) (Fsm.new config mode) {}
      (Fsm.matches_new config mode) (by simp)
  obtain ⟨-, increases, -, -⟩ := admitted.increasing distinct_empty
  have distinct : (openedBy config mode moves).Nodup := increases.imp ne_of_lt
  refine (List.perm_ext_iff_of_nodup books.once distinct).mpr fun id => ?_
  rw [books.accounted, noneOpen]
  simp

/-- In a run that leaves a name for a clip before every call, the books and callsigns are in order
after every part of the run. If none of the clips that a callsign joined is still open, they are
in order after the shutdown, too. Then no clip is open, and every clip that was opened was either
committed or given up, once; it was committed if no request to the file system failed and no
invalid format was announced. -/
theorem recording_accounts (config : PlaybackConfig) (mode : RecordingMode)
    (asKhz : Frequency → String) (moves : List RecordingMove)
    (hasRoom : (new config mode asKhz).runHasRoom moves = true)
    (finish : (new config mode asKhz).joinedFinish moves = true) (order : Enumeration ℕ)
    (disk : Disk) (effects : List RecorderEffect)
    (isEffects : effects = ((new config mode asKhz).run moves).2 ++
      (((new config mode asKhz).run moves).1.shutdown order disk).2) :
    (∀ earlier, earlier <+: moves →
      Accounted ((new config mode asKhz).run earlier).1.recorder config mode earlier
        ((new config mode asKhz).run earlier).2) ∧
    Accounted (((new config mode asKhz).run moves).1.shutdown order disk).1.recorder config mode
      moves effects ∧
    (((new config mode asKhz).run moves).1.shutdown order disk).1.recorder.openClips = ∅ ∧
    (effects.filterMap outcome).Perm (openedBy config mode moves) ∧
    ((∀ move ∈ moves, move.Succeeds) → disk = .reliable →
      ((effects.filterMap committed).map ClipMeta.id).Perm (openedBy config mode moves)) := by
  have noneOpen := openClips_shutdown ((new config mode asKhz).run moves).1 order disk
  have closed := accounted_shutdown config mode asKhz hasRoom finish order disk
  rw [← isEffects] at closed
  have outcomes := outcome_perm closed.1 noneOpen
  refine ⟨?_, closed, noneOpen, outcomes, ?_⟩
  · rintro earlier ⟨later, isMoves⟩
    rw [← isMoves] at hasRoom
    exact accounted_run config mode asKhz (runHasRoom_append hasRoom)
  · intro allSucceed isReliable
    obtain ⟨ledger, -, -, succeeds⟩ := (runs_new config mode asKhz).run moves hasRoom
    have noneFailed : effects.filterMap failed = [] := by
      rw [isEffects, List.filterMap_append, succeeds allSucceed (by simp [Formatted]), isReliable]
      exact Recorder.failed_drainAll _ _
    rw [← outcome_eq_committed noneFailed]
    exact outcomes

/-! ## A callsign that joins before the shutdown -/

/-- An event at time zero, on a reliable disk. -/
def heardEvent (event : PlaybackSourceEvent) : RecordingMove :=
  .call (.event event 0 0) .reliable

/-- A station transmits, and the recorder shuts down. -/
def oneStation : List RecordingMove :=
  [heardEvent (.tapOpened .headset 48000 2), heardEvent (.rxBegin .headset "LOWW_TWR" 119400000)]

/-- Another station joins. -/
def twoStations : List RecordingMove :=
  oneStation ++ [heardEvent (.rxBegin .headset "AUA1" 119400000)]

def smallConfig : PlaybackConfig := ⟨15, 250, 90⟩

def smallRecording : Recording := new smallConfig .perTap toString

/-- Two taps are recorded, one of them with a writer that `disk` decides about. The other one's
clip is joined by a station, is continued when it is too long, and is deleted. -/
def twoTaps (disk : Disk) : List RecordingMove :=
  [heardEvent (.tapOpened .headset 48000 2), heardEvent (.tapOpened .speaker 48000 2),
    heardEvent (.rxBegin .headset "LOWW_TWR" 119400000),
    .call (.event (.rxBegin .speaker "LOWW_APP" 134675000) 0 0) disk,
    heardEvent (.rxBegin .headset "AUA1" 119400000),
    heardEvent (.frame .headset [0, 0] 90000000000),
    heardEvent (.tapClosed .speaker), heardEvent (.tapOpened .speaker 48000 2),
    heardEvent (.rxBegin .speaker "LOWW_APP" 134675000), .delete 1]

/-- No file can be created. -/
def fullDisk : Disk := { Disk.reliable with creates := fun _ => false }

/-- The recording after moves and the shutdown, and the effects of both. -/
def ended (moves : List RecordingMove) : Recording × List RecorderEffect :=
  (((smallRecording.run moves).1.shutdown (.increasing ℕ) .reliable).1,
    (smallRecording.run moves).2 ++
      ((smallRecording.run moves).1.shutdown (.increasing ℕ) .reliable).2)

theorem twoTaps_accounts :
    (∀ earlier, earlier <+: twoTaps fullDisk →
      Accounted (smallRecording.run earlier).1.recorder smallConfig .perTap earlier
        (smallRecording.run earlier).2) ∧
    Accounted (ended (twoTaps fullDisk)).1.recorder smallConfig .perTap (twoTaps fullDisk)
      (ended (twoTaps fullDisk)).2 ∧
    (ended (twoTaps fullDisk)).1.recorder.openClips = ∅ ∧
    ((ended (twoTaps fullDisk)).2.filterMap outcome).Perm [1, 2, 3, 4] ∧
    (ended (twoTaps fullDisk)).2.filterMap failed = [2] ∧
    (((ended (twoTaps .reliable)).2.filterMap committed).map ClipMeta.id).Perm [1, 2, 3, 4] := by
  obtain ⟨before, after, noneOpen, outcomes, -⟩ :=
    recording_accounts smallConfig .perTap toString (twoTaps fullDisk) (by decide +kernel)
      (by decide +kernel) (.increasing ℕ) .reliable _ rfl
  obtain ⟨-, -, -, -, commits⟩ :=
    recording_accounts smallConfig .perTap toString (twoTaps .reliable) (by decide +kernel)
      (by decide +kernel) (.increasing ℕ) .reliable _ rfl
  refine ⟨before, after, noneOpen, outcomes, by decide +kernel, commits ?_ rfl⟩
  simp [twoTaps, heardEvent, RecordingMove.Succeeds, FsmCall.hasFormat]

theorem log_twoStations :
    (Fsm.new smallConfig .perTap).log (twoStations.filterMap RecordingMove.call?) =
      [.call (.event (.tapOpened .headset 48000 2) 0 0),
        .call (.event (.rxBegin .headset "LOWW_TWR" 119400000) 0 0),
        .action (.openClip 1 .headset 48000 2 {"LOWW_TWR"} (some 119400000) 0),
        .call (.event (.rxBegin .headset "AUA1" 119400000) 0 0)] :=
  rfl

/-- The clip has received both callsigns. -/
theorem callsigns_twoStations {ledger : Ledger} {callsigns : Finset String}
    (admitted : AdmitsAll .perTap {}
      ((Fsm.new smallConfig .perTap).log (twoStations.filterMap RecordingMove.call?)) ledger)
    (received : ledger.Received 1 callsigns) : callsigns = {"AUA1", "LOWW_TWR"} := by
  rw [log_twoStations] at admitted
  obtain _ | ⟨announced, admitted⟩ := admitted
  obtain _ | ⟨begun, admitted⟩ := admitted
  obtain _ | ⟨opens, admitted⟩ := admitted
  obtain _ | ⟨joined, admitted⟩ := admitted
  cases announced
  cases begun
  cases joined
  cases admitted
  cases opens with
  | openClip increases idle format starts =>
      cases starts
      rcases received with isClosed | ⟨tap, clip, isClip, -, isCallsigns⟩
      · cases isClosed
      · simp [observe, setClip, Fsm.mapTap, Function.update_apply] at isClip
        rw [← isCallsigns, ← isClip.2]

/-- The clip of two stations is committed at shutdown with the callsign of the first one. -/
theorem shutdown_missesCallsign :
    ¬ ∀ (config : PlaybackConfig) (mode : RecordingMode) (asKhz : Frequency → String)
      (moves : List RecordingMove) (order : Enumeration ℕ), (∀ move ∈ moves, move.Succeeds) →
      Accounted (((new config mode asKhz).run moves).1.shutdown order .reliable).1.recorder config
        mode moves (((new config mode asKhz).run moves).2 ++
          (((new config mode asKhz).run moves).1.shutdown order .reliable).2) := by
  intro always
  have succeed : ∀ move ∈ twoStations, move.Succeeds := by
    simp [twoStations, oneStation, heardEvent, RecordingMove.Succeeds, FsmCall.hasFormat]
  obtain ⟨-, ledger, admitted, received⟩ :=
    always smallConfig .perTap toString twoStations (.increasing ℕ) succeed
  have commits : ⟨1, "clip-0-headset.wav", {"LOWW_TWR"}, some 119400000, 0, 0, 0⟩ ∈
      ((smallRecording.run twoStations).2 ++ ((smallRecording.run twoStations).1.shutdown
        (.increasing ℕ) .reliable).2).filterMap committed := by decide +kernel
  have callsigns := callsigns_twoStations admitted (received _ commits)
  exact absurd callsigns (by decide)

end Recording

end Playback

end Vacs
