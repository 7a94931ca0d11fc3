import Vacs.Playback.Recorder

/-!
# The books of the recorder

Every clip that is opened has one outcome: it is committed, or its writer fails and it is
given up. `Books` states this for a recorder and its effects so far, together with what
the deque and the directory hold: the deque the last clips that were committed and not
deleted, and the directory a file of its own for every clip of the deque and every clip
that is being written. Everything that the recorder does keeps the books.
-/

set_option autoImplicit false

namespace Vacs

namespace Playback

/-! ## Owners of files -/

/-- Every file has one owner, and every owner one file. -/
structure Tidy (files : Finset String) (owns : ℕ → String → Prop) : Prop where
  mem_iff : ∀ path, path ∈ files ↔ ∃ id, owns id path
  functional : ∀ id path other, owns id path → owns id other → path = other
  injective : ∀ id other path, owns id path → owns other path → id = other

namespace Tidy

variable {files : Finset String} {owns : ℕ → String → Prop}

theorem congr (tidy : Tidy files owns) {other : ℕ → String → Prop}
    (same : ∀ id path, other id path ↔ owns id path) : Tidy files other := by
  have isOwns : other = owns := by
    funext id path
    exact propext (same id path)
  rw [isOwns]
  exact tidy

/-- A new file with a new owner. -/
theorem insert (tidy : Tidy files owns) {id : ℕ} {path : String} (free : path ∉ files)
    (isNew : ∀ other, ¬ owns id other) :
    Tidy (Insert.insert path files) fun owner file => owns owner file ∨ owner = id ∧ file = path where
  mem_iff := by
    intro file
    rw [Finset.mem_insert, tidy.mem_iff]
    constructor
    · rintro (isPath | ⟨owner, isOwner⟩)
      · exact ⟨id, Or.inr ⟨rfl, isPath⟩⟩
      · exact ⟨owner, Or.inl isOwner⟩
    · rintro ⟨owner, isOwner | ⟨-, isPath⟩⟩
      · exact Or.inr ⟨owner, isOwner⟩
      · exact Or.inl isPath
  functional := by
    rintro owner first second (isFirst | ⟨isId, rfl⟩) (isSecond | ⟨isId', rfl⟩)
    · exact tidy.functional owner first second isFirst isSecond
    · exact absurd (isId' ▸ isFirst) (isNew first)
    · exact absurd (isId ▸ isSecond) (isNew second)
    · rfl
  injective := by
    rintro first second file (isFirst | ⟨rfl, isPath⟩) (isSecond | ⟨rfl, isPath'⟩)
    · exact tidy.injective first second file isFirst isSecond
    · exact absurd ((tidy.mem_iff path).mpr ⟨first, isPath' ▸ isFirst⟩) free
    · exact absurd ((tidy.mem_iff path).mpr ⟨second, isPath ▸ isSecond⟩) free
    · rfl

/-- The files of some owners are removed with them. -/
theorem remove (tidy : Tidy files owns) {rest : Finset String} (gone : ℕ → Prop)
    (isRest : ∀ path, path ∈ rest ↔ path ∈ files ∧ ¬ ∃ id, gone id ∧ owns id path) :
    Tidy rest fun owner file => owns owner file ∧ ¬ gone owner where
  mem_iff := by
    intro path
    rw [isRest, tidy.mem_iff]
    constructor
    · rintro ⟨⟨id, isOwner⟩, noneGone⟩
      exact ⟨id, isOwner, fun isGone => noneGone ⟨id, isGone, isOwner⟩⟩
    · rintro ⟨id, isOwner, stays⟩
      refine ⟨⟨id, isOwner⟩, ?_⟩
      rintro ⟨other, isGone, isOther⟩
      rw [tidy.injective id other path isOwner isOther] at stays
      exact stays isGone
  functional := fun id path other isPath isOther =>
    tidy.functional id path other isPath.1 isOther.1
  injective := fun id other path isPath isOther =>
    tidy.injective id other path isPath.1 isOther.1

end Tidy

/-! ## The books -/

namespace RecorderEffect

/-- The clip that was committed. -/
def committed : RecorderEffect → Option ClipMeta
  | .recorded clip _ => some clip
  | .discarded _ | .deleted _ => none

/-- The clip that was deleted. -/
def removed : RecorderEffect → Option ClipMeta
  | .deleted clip => some clip
  | .discarded _ | .recorded _ _ => none

/-- The id of the clip that was given up. -/
def failed : RecorderEffect → Option ℕ
  | .discarded clipId => some clipId
  | .deleted _ | .recorded _ _ => none

/-- The id of the clip that has its outcome. -/
def outcome : RecorderEffect → Option ℕ
  | .recorded clip _ => some clip.id
  | .discarded clipId => some clipId
  | .deleted _ => none

end RecorderEffect

open RecorderEffect

section History

variable {α : Type} (read : RecorderEffect → Option α) (effects : List RecorderEffect)
  (effect : RecorderEffect)

theorem filterMap_append_none (isNone : read effect = none) :
    (effects ++ [effect]).filterMap read = effects.filterMap read := by
  rw [List.filterMap_append, List.filterMap_cons_none isNone, List.filterMap_nil, List.append_nil]

theorem filterMap_append_some {value : α} (isSome : read effect = some value) :
    (effects ++ [effect]).filterMap read = effects.filterMap read ++ [value] := by
  rw [List.filterMap_append, List.filterMap_cons_some isSome, List.filterMap_nil]

end History

namespace Recorder

/-- The clip has the file: it is in the deque, or is being written. -/
def Owns (recorder : Recorder) (id : ℕ) (path : String) : Prop :=
  (∃ clip ∈ recorder.store.clips, clip.id = id ∧ clip.path = path) ∨
    ∃ clip, recorder.openClips.lookup id = some clip ∧ clip.path = path

/-- The recorder after effects, when clips with the given ids were opened. -/
structure Books (recorder : Recorder) (maxClips : ℕ) (opened : List ℕ)
    (effects : List RecorderEffect) : Prop where
  capacity : recorder.store.maxClips = maxClips
  /-- A clip that was opened has its outcome, or is being written. -/
  accounted : ∀ id, id ∈ opened ↔
    id ∈ effects.filterMap outcome ∨ (recorder.openClips.lookup id).isSome
  /-- No clip has two outcomes. -/
  once : (effects.filterMap outcome).Nodup
  /-- A clip that is being written has no outcome. -/
  apart : ∀ id, (recorder.openClips.lookup id).isSome → id ∉ effects.filterMap outcome
  /-- The deque holds the last clips that were committed and not deleted. -/
  retains : List.Retains maxClips (effects.filterMap committed) (effects.filterMap removed)
    recorder.store.clips
  /-- The files are those of the deque and of the clips that are being written. -/
  tidy : Tidy recorder.store.files recorder.Owns

/-- A clip is finalized under its id, with its file and its callsigns. -/
theorem of_mem_finalize {disk : Disk} {clip : RecorderClip} {id : ℕ} {endedAt : Option SystemTime}
    {durationOverride : Option ℕ} {stored : ClipMeta}
    (isStored : stored ∈ clip.finalize disk id endedAt durationOverride) :
    stored.id = id ∧ stored.path = clip.path ∧ stored.callsigns = clip.callsigns := by
  obtain ⟨actualMs, -, isStored⟩ := Option.map_eq_some_iff.mp isStored
  rw [← isStored]
  exact ⟨rfl, rfl, rfl⟩

theorem mem_outcome_of_committed {effects : List RecorderEffect} {clip : ClipMeta}
    (member : clip ∈ effects.filterMap committed) : clip.id ∈ effects.filterMap outcome := by
  obtain ⟨effect, isEffect, isClip⟩ := List.mem_filterMap.mp member
  refine List.mem_filterMap.mpr ⟨effect, isEffect, ?_⟩
  cases effect with
  | recorded other _ =>
      cases isClip
      rfl
  | discarded _ => cases isClip
  | deleted _ => cases isClip

/-- The ids of committed clips are among the outcomes. -/
theorem committedIds_sublist (effects : List RecorderEffect) :
    ((effects.filterMap committed).map ClipMeta.id).Sublist (effects.filterMap outcome) := by
  induction effects with
  | nil => exact List.Sublist.refl []
  | cons effect effects ih =>
      cases effect with
      | recorded clip evicted => exact ih.cons_cons clip.id
      | discarded clipId => exact ih.cons clipId
      | deleted clip => exact ih

/-- Clips leave the deque together with their files. -/
theorem tidy_forget {recorder after : Recorder} (gone : List ClipMeta)
    (tidy : Tidy recorder.store.files recorder.Owns)
    (sameOpen : after.openClips = recorder.openClips)
    (isFiles : after.store.files = ClipStore.removeFiles recorder.store.files gone)
    (split : ∀ clip, clip ∈ recorder.store.clips ↔ clip ∈ after.store.clips ∨ clip ∈ gone)
    (distinct : ∀ stays ∈ after.store.clips, ∀ leaves ∈ gone, stays.id ≠ leaves.id)
    (idle : ∀ leaves ∈ gone, recorder.openClips.lookup leaves.id = none) :
    Tidy after.store.files after.Owns := by
  refine (tidy.remove (fun id => ∃ leaves ∈ gone, leaves.id = id) ?_).congr ?_
  · intro path
    rw [isFiles, ClipStore.mem_removeFiles, and_congr_right_iff]
    intro isFile
    refine not_congr ⟨fun member => ?_, ?_⟩
    · obtain ⟨leaves, isGone, isPath⟩ := List.mem_map.mp member
      exact ⟨leaves.id, ⟨leaves, isGone, rfl⟩,
        Or.inl ⟨leaves, (split leaves).mpr (Or.inr isGone), rfl, isPath⟩⟩
    · rintro ⟨id, ⟨leaves, isGone, isId⟩, owner⟩
      have isOwner : recorder.Owns leaves.id leaves.path :=
        Or.inl ⟨leaves, (split leaves).mpr (Or.inr isGone), rfl, rfl⟩
      rw [isId] at isOwner
      rw [tidy.functional id path leaves.path owner isOwner]
      exact List.mem_map_of_mem isGone
  · intro id path
    simp only [Owns, sameOpen]
    constructor
    · rintro (⟨stays, member, isId, isPath⟩ | ⟨clip, isOpen, isPath⟩)
      · refine ⟨Or.inl ⟨stays, (split stays).mpr (Or.inl member), isId, isPath⟩, ?_⟩
        rintro ⟨leaves, isGone, sameId⟩
        exact distinct stays member leaves isGone (isId.trans sameId.symm)
      · refine ⟨Or.inr ⟨clip, isOpen, isPath⟩, ?_⟩
        rintro ⟨leaves, isGone, sameId⟩
        have isNone := idle leaves isGone
        rw [sameId, isOpen] at isNone
        cases isNone
    · rintro ⟨⟨clip, member, isId, isPath⟩ | isOpen, stays⟩
      · rcases (split clip).mp member with remains | isGone
        · exact Or.inl ⟨clip, remains, isId, isPath⟩
        · exact absurd ⟨clip, isGone, isId⟩ stays
      · exact Or.inr isOpen

/-- Writing opens no clip and closes none. -/
theorem writeFrame_lookup_isSome (disk : Disk) (recorder : Recorder) (clipId id : ℕ)
    (samples : Samples) :
    ((recorder.writeFrame disk clipId samples).openClips.lookup id).isSome =
      (recorder.openClips.lookup id).isSome := by
  unfold Recorder.writeFrame
  split
  case h_1 => rfl
  case h_2 clip isOpen =>
    rw [Finmap.lookup_insert_eq]
    split
    case isTrue same =>
      rw [same, isOpen]
      rfl
    case isFalse => rfl

namespace Books

variable {recorder : Recorder} {maxClips : ℕ} {opened : List ℕ} {effects : List RecorderEffect}

theorem new (asKhz : Frequency → String) (maxClips : ℕ) :
    Books { store := { asKhz := asKhz, maxClips := maxClips } } maxClips [] [] where
  capacity := rfl
  accounted := by simp
  once := List.nodup_nil
  apart := by simp
  retains := List.Retains.nil maxClips
  tidy := by
    constructor <;> simp [Owns]

/-- A clip of the deque has its outcome. -/
theorem mem_outcome (books : recorder.Books maxClips opened effects) {clip : ClipMeta}
    (member : clip ∈ recorder.store.clips) : clip.id ∈ effects.filterMap outcome :=
  mem_outcome_of_committed (books.retains.subset member)

/-- A clip whose writer was created. -/
theorem openSome (books : recorder.Books maxClips opened effects) {id : ℕ} {clip : RecorderClip}
    (fresh : id ∉ opened) (free : clip.path ∉ recorder.store.files) :
    Books { openClips := recorder.openClips.insert id clip
            store := recorder.store.touch clip.path } maxClips (opened ++ [id]) effects where
  capacity := books.capacity
  accounted := by
    intro other
    rw [List.mem_append, List.mem_singleton, Finmap.lookup_insert_eq, books.accounted]
    split <;> simp_all
  once := books.once
  apart := by
    intro other isOpen
    rw [Finmap.lookup_insert_eq] at isOpen
    split at isOpen
    case isTrue same =>
      rw [same]
      exact fun member => fresh ((books.accounted id).mpr (Or.inl member))
    case isFalse => exact books.apart other isOpen
  retains := books.retains
  tidy := by
    have isNew : ∀ other, ¬ recorder.Owns id other := by
      rintro other (⟨stored, member, isId, -⟩ | ⟨other, isOpen, -⟩)
      · exact fresh ((books.accounted id).mpr (Or.inl (isId ▸ books.mem_outcome member)))
      · exact fresh ((books.accounted id).mpr (Or.inr (by simp [isOpen])))
    refine (books.tidy.insert free isNew).congr fun owner file => ?_
    have absent : recorder.openClips.lookup id = none := by
      by_contra isOpen
      exact fresh ((books.accounted id).mpr (Or.inr (Option.isSome_iff_ne_none.mpr isOpen)))
    simp only [Owns, ClipStore.touch, Finmap.lookup_insert_eq]
    split
    case isTrue same =>
      rw [same, absent]
      simp [eq_comm]
    case isFalse differs => simp [differs]

/-- A clip whose writer was not created. -/
theorem openNone (books : recorder.Books maxClips opened effects) {id : ℕ} {path : String}
    (fresh : id ∉ opened) (free : path ∉ recorder.store.files) :
    Books { recorder with store := recorder.store.discard path } maxClips (opened ++ [id])
      (effects ++ [.discarded id]) where
  capacity := books.capacity
  accounted := by
    intro other
    rw [filterMap_append_some outcome effects (.discarded id) rfl, List.mem_append, List.mem_append, List.mem_singleton,
      books.accounted, or_right_comm]
  once := by
    rw [filterMap_append_some outcome effects (.discarded id) rfl, List.nodup_append_comm]
    refine List.nodup_cons.mpr ⟨?_, books.once⟩
    exact fun member => fresh ((books.accounted id).mpr (Or.inl member))
  apart := by
    intro other isOpen
    rw [filterMap_append_some outcome effects (.discarded id) rfl, List.mem_append, not_or]
    refine ⟨books.apart other isOpen, ?_⟩
    intro isId
    rw [List.mem_singleton.mp isId] at isOpen
    exact fresh ((books.accounted id).mpr (Or.inr isOpen))
  retains := by
    rw [filterMap_append_none committed effects (.discarded id) rfl,
      filterMap_append_none removed effects (.discarded id) rfl]
    exact books.retains
  tidy := by
    have same : recorder.store.files.erase path = recorder.store.files :=
      Finset.erase_eq_of_notMem free
    simp only [ClipStore.discard, same]
    exact books.tidy

/-- Without a clip that is being written. -/
theorem owns_erase {id : ℕ} {clip : RecorderClip} (isOpen : recorder.openClips.lookup id = some clip)
    (books : recorder.Books maxClips opened effects) (owner : ℕ) (path : String) :
    Owns { recorder with openClips := recorder.openClips.erase id } owner path ↔
      recorder.Owns owner path ∧ owner ≠ id := by
  have absent : ∀ stored ∈ recorder.store.clips, stored.id ≠ id := by
    intro stored member isId
    have isOutcome := books.mem_outcome member
    rw [isId] at isOutcome
    exact books.apart id (by simp [isOpen]) isOutcome
  simp only [Owns, Finmap.lookup_erase_eq]
  by_cases same : owner = id
  · rw [same]
    simp
    intro stored member isId
    exact absurd isId (absent stored member)
  · simp [same]

/-- A clip that was being written has its outcome. -/
theorem accounted_outcome (books : recorder.Books maxClips opened effects) {id : ℕ}
    (effect : RecorderEffect) (isOutcome : effect.outcome = some id)
    (isOpen : (recorder.openClips.lookup id).isSome) :
    (∀ other, other ∈ opened ↔ other ∈ (effects ++ [effect]).filterMap outcome ∨
        ((recorder.openClips.erase id).lookup other).isSome) ∧
      ((effects ++ [effect]).filterMap outcome).Nodup ∧
      (∀ other, ((recorder.openClips.erase id).lookup other).isSome →
        other ∉ (effects ++ [effect]).filterMap outcome) := by
  rw [filterMap_append_some outcome effects effect isOutcome]
  refine ⟨?_, ?_, ?_⟩
  · intro other
    rw [books.accounted, List.mem_append, List.mem_singleton, Finmap.lookup_erase_eq]
    split
    case isTrue same =>
      rw [same]
      simp [isOpen]
    case isFalse differs => simp [differs]
  · rw [List.nodup_append_comm]
    exact List.nodup_cons.mpr ⟨books.apart id isOpen, books.once⟩
  · intro other
    rw [List.mem_append, List.mem_singleton, Finmap.lookup_erase_eq, not_or]
    split
    case isTrue same => simp
    case isFalse differs => exact fun stays => ⟨books.apart other stays, differs⟩

/-- A clip that was being written is committed. -/
theorem finishSome (books : recorder.Books maxClips opened effects) {id : ℕ} {clip : RecorderClip}
    (isOpen : recorder.openClips.lookup id = some clip) {stored : ClipMeta}
    (isId : stored.id = id) (isPath : stored.path = clip.path) :
    Books { openClips := recorder.openClips.erase id
            store := (recorder.store.commit stored).1 } maxClips opened
      (effects ++ [.recorded stored (recorder.store.commit stored).2]) := by
  have isOpenSome : (recorder.openClips.lookup id).isSome := by simp [isOpen]
  have isOutcome : outcome (.recorded stored (recorder.store.commit stored).2) = some id := by
    rw [← isId]
    rfl
  obtain ⟨accounted, once, apart⟩ := books.accounted_outcome _ isOutcome isOpenSome
  have fresh : stored ∉ effects.filterMap committed := by
    intro member
    have isOutcome := mem_outcome_of_committed member
    rw [isId] at isOutcome
    exact books.apart id isOpenSome isOutcome
  have owned : ∀ owner path,
      (∃ other ∈ recorder.store.clips ++ [stored], other.id = owner ∧ other.path = path) ∨
        (∃ other, (recorder.openClips.erase id).lookup owner = some other ∧ other.path = path) ↔
      recorder.Owns owner path := by
    intro owner path
    simp only [Owns, Finmap.lookup_erase_eq]
    by_cases same : owner = id
    · rw [same, isOpen]
      simp [isId, isPath, or_and_right, exists_or]
    · have differs : ¬ id = owner := fun isOwner => same isOwner.symm
      simp [same, differs, isId, or_and_right, exists_or]
  refine ⟨books.capacity, accounted, once, apart, ?_, ?_⟩
  · rw [filterMap_append_some committed effects (.recorded stored _) rfl,
      filterMap_append_none removed effects (.recorded stored _) rfl]
    simp only [ClipStore.commit, ClipStore.evictOverflow, ClipStore.evictLoop_eq, books.capacity]
    exact books.retains.push fresh
  · set before : Recorder :=
      { openClips := recorder.openClips.erase id
        store := { recorder.store with clips := recorder.store.clips ++ [stored] } } with isBefore
    have distinct : ((recorder.store.clips ++ [stored]).map ClipMeta.id).Nodup := by
      refine once.sublist (List.Sublist.trans ?_ (committedIds_sublist _))
      rw [filterMap_append_some committed effects (.recorded stored _) rfl]
      exact ((books.retains.latest.sublist.trans List.filter_sublist).append_right _).map _
    have tidy : Tidy before.store.files before.Owns := books.tidy.congr owned
    set excess := before.store.clips.length - recorder.store.maxClips with isExcess
    have isKept : (recorder.store.commit stored).1.clips = before.store.clips.drop excess := by
      simp only [ClipStore.commit, ClipStore.evictOverflow, ClipStore.evictLoop_eq]
      rfl
    have parts := List.take_append_drop excess before.store.clips
    refine tidy_forget (before.store.clips.take excess) tidy rfl ?_ ?_ ?_ ?_
    · simp only [ClipStore.commit, ClipStore.evictOverflow, ClipStore.evictLoop_eq]
      rfl
    · intro other
      rw [isKept, or_comm, ← List.mem_append, parts]
    · intro stays isStays leaves isLeaves
      rw [isKept] at isStays
      have both : (before.store.clips.map ClipMeta.id).Nodup := distinct
      rw [← parts, List.map_append] at both
      have apart := (List.nodup_append.mp both).2.2
      exact (apart leaves.id (List.mem_map_of_mem isLeaves) stays.id
        (List.mem_map_of_mem isStays)).symm
    · intro leaves isLeaves
      have member : leaves ∈ recorder.store.clips ++ [stored] := List.mem_of_mem_take isLeaves
      by_contra isOpen
      refine apart leaves.id (Option.isSome_iff_ne_none.mpr isOpen) ?_
      rw [filterMap_append_some outcome effects _ isOutcome]
      rcases List.mem_append.mp member with inDeque | isLast
      · exact List.mem_append_left _ (books.mem_outcome inDeque)
      · rw [List.mem_singleton.mp isLast, isId]
        exact List.mem_append_right _ List.mem_cons_self

/-- A clip that was being written is given up. -/
theorem finishNone (books : recorder.Books maxClips opened effects) {id : ℕ} {clip : RecorderClip}
    (isOpen : recorder.openClips.lookup id = some clip) :
    Books { openClips := recorder.openClips.erase id
            store := recorder.store.discard clip.path } maxClips opened
      (effects ++ [.discarded id]) := by
  have isOpenSome : (recorder.openClips.lookup id).isSome := by simp [isOpen]
  obtain ⟨accounted, once, apart⟩ :=
    books.accounted_outcome (.discarded id) rfl isOpenSome
  refine ⟨books.capacity, accounted, once, apart, ?_, ?_⟩
  · rw [filterMap_append_none committed effects (.discarded id) rfl,
      filterMap_append_none removed effects (.discarded id) rfl]
    exact books.retains
  · have owner : recorder.Owns id clip.path := Or.inr ⟨clip, isOpen, rfl⟩
    refine Tidy.congr (Tidy.remove books.tidy (· = id) fun path => ?_) (books.owns_erase isOpen)
    simp only [ClipStore.discard]
    rw [Finset.mem_erase, and_comm, and_congr_right_iff]
    intro _
    simp only [exists_eq_left]
    refine not_congr ⟨fun isPath => isPath ▸ owner, fun isOwner => ?_⟩
    exact books.tidy.functional id path clip.path isOwner owner

/-- A clip that was being written is committed or given up. -/
theorem finish (books : recorder.Books maxClips opened effects) {id : ℕ} {clip : RecorderClip}
    (isOpen : recorder.openClips.lookup id = some clip) {finalized : Option ClipMeta}
    (isClip : ∀ stored ∈ finalized, stored.id = id ∧ stored.path = clip.path) :
    Books (Recorder.finish { recorder with openClips := recorder.openClips.erase id } id clip.path
        finalized).1 maxClips opened
      (effects ++ (Recorder.finish { recorder with openClips := recorder.openClips.erase id } id
        clip.path finalized).2) := by
  cases finalized with
  | none => exact books.finishNone isOpen
  | some stored =>
      obtain ⟨isId, isPath⟩ := isClip stored rfl
      exact books.finishSome isOpen isId isPath

/-- The clips of the deque have ids of their own. -/
theorem nodup_ids (books : recorder.Books maxClips opened effects) :
    (recorder.store.clips.map ClipMeta.id).Nodup := by
  refine books.once.sublist (List.Sublist.trans ?_ (committedIds_sublist effects))
  exact (books.retains.latest.sublist.trans List.filter_sublist).map _

/-- Clips of the deque are deleted. -/
theorem forget (books : recorder.Books maxClips opened effects) {gone : List ClipMeta}
    (inDeque : gone ⊆ recorder.store.clips) :
    Books
      { recorder with
        store :=
          { recorder.store with
            clips := recorder.store.clips.filter fun clip => decide (clip ∉ gone)
            files := ClipStore.removeFiles recorder.store.files gone } }
      maxClips opened (effects ++ gone.map RecorderEffect.deleted) := by
  have outcomes : (effects ++ gone.map RecorderEffect.deleted).filterMap outcome =
      effects.filterMap outcome := by
    simp [outcome]
  have commits : (effects ++ gone.map RecorderEffect.deleted).filterMap committed =
      effects.filterMap committed := by
    simp [committed]
  have removes : (effects ++ gone.map RecorderEffect.deleted).filterMap removed =
      effects.filterMap removed ++ gone := by
    simp [Function.comp_def, removed]
  refine ⟨books.capacity, ?_, ?_, ?_, ?_, ?_⟩
  · rw [outcomes]
    exact books.accounted
  · rw [outcomes]
    exact books.once
  · rw [outcomes]
    exact books.apart
  · rw [commits, removes]
    exact books.retains.remove (List.Subset.trans inDeque books.retains.subset)
  · refine tidy_forget gone books.tidy rfl rfl ?_ ?_ ?_
    · intro clip
      rw [List.mem_filter, decide_eq_true_eq]
      by_cases isGone : clip ∈ gone
      · simp [isGone, inDeque isGone]
      · simp [isGone]
    · intro stays isStays leaves isLeaves sameId
      rw [List.mem_filter, decide_eq_true_eq] at isStays
      have same := List.inj_on_of_nodup_map books.nodup_ids isStays.1 (inDeque isLeaves) sameId
      rw [same] at isStays
      exact isStays.2 isLeaves
    · intro leaves isLeaves
      by_contra isOpen
      exact books.apart leaves.id (Option.isSome_iff_ne_none.mpr isOpen)
        (books.mem_outcome (inDeque isLeaves))

theorem eraseP_eq_filter {clips : List ClipMeta} {clip : ClipMeta} :
    (clips.map ClipMeta.id).Nodup → clip ∈ clips →
      clips.eraseP (fun other => decide (other.id = clip.id)) =
        clips.filter fun other => decide (other ∉ [clip]) := by
  induction clips with
  | nil => simp
  | cons first clips ih =>
      intro distinct member
      rw [List.map_cons, List.nodup_cons] at distinct
      by_cases same : first.id = clip.id
      · have isClip : first = clip := by
          rcases List.mem_cons.mp member with isFirst | later
          · exact isFirst.symm
          · exact absurd (same ▸ List.mem_map_of_mem later) distinct.1
        rw [List.eraseP_cons_of_pos (by simp [same]), List.filter_cons_of_neg (by simp [isClip])]
        refine (List.filter_eq_self.mpr fun other later => ?_).symm
        have differs : other ≠ clip := by
          rintro rfl
          exact distinct.1 (isClip ▸ List.mem_map_of_mem later)
        simp [differs]
      · have differs : first ≠ clip := fun isClip => same (isClip ▸ rfl)
        have later : clip ∈ clips := by
          rcases List.mem_cons.mp member with isFirst | later
          · exact absurd isFirst.symm differs
          · exact later
        rw [List.eraseP_cons_of_neg (by simp [same]), List.filter_cons_of_pos (by simp [differs]),
          ih distinct.2 later]

theorem delete (books : recorder.Books maxClips opened effects) (id : ℕ) :
    (recorder.delete id).1.Books maxClips opened (effects ++ (recorder.delete id).2) := by
  unfold Recorder.delete ClipStore.delete
  split
  case h_1 =>
    simp only [Option.toList_none, List.map_nil, List.append_nil]
    exact books
  case h_2 clip isFound =>
    have isId : clip.id = id := by simpa using List.find?_some isFound
    have member := List.mem_of_find?_eq_some isFound
    have forgotten := books.forget (List.cons_subset.mpr ⟨member, List.nil_subset _⟩)
    rw [← eraseP_eq_filter books.nodup_ids member, isId] at forgotten
    exact forgotten

theorem clear (books : recorder.Books maxClips opened effects) :
    recorder.clear.1.Books maxClips opened (effects ++ recorder.clear.2) := by
  have forgotten := books.forget (List.Subset.refl recorder.store.clips)
  have isNil : (recorder.store.clips.filter fun clip => decide (clip ∉ recorder.store.clips)) =
      [] := by
    simp
  rw [isNil] at forgotten
  exact forgotten

/-- Writing changes no name and no callsign. -/
theorem writeFrame (books : recorder.Books maxClips opened effects) (disk : Disk) (id : ℕ)
    (samples : Samples) : (recorder.writeFrame disk id samples).Books maxClips opened effects := by
  have sameOpen := fun other => writeFrame_lookup_isSome disk recorder id other samples
  cases isOpen : recorder.openClips.lookup id with
  | none =>
      simp only [Recorder.writeFrame, isOpen]
      exact books
  | some clip =>
      simp only [Recorder.writeFrame, isOpen] at sameOpen ⊢
      refine ⟨books.capacity, ?_, books.once, ?_, books.retains, books.tidy.congr ?_⟩
      · simp only [sameOpen]
        exact books.accounted
      · simp only [sameOpen]
        exact books.apart
      · intro owner path
        simp only [Owns, Finmap.lookup_insert_eq]
        split
        case isTrue same =>
          rw [same, isOpen]
          simp
        case isFalse => rfl

end Books

end Recorder

end Playback

end Vacs
