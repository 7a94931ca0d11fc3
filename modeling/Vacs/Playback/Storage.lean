import Mathlib
import Vacs.Foundations.RollingQueue
import Vacs.Playback.Fsm

/-!
# The clip store

The store has a rolling deque of the clips that were recorded last, and a directory with
their files, which are known here by their names. A name is reserved by looking for one
that no file has: `clip-{ms}-{tap}.wav`, or with a number before the extension. A free
name is found unless there are as many files as numbers (`uniquePath_notMem`).
-/

set_option autoImplicit false

namespace Vacs

namespace Playback

structure ClipMeta where
  id : ℕ
  path : String
  callsigns : Finset String
  frequency : Option Frequency
  startedAt : SystemTime
  endedAt : SystemTime
  durationMs : ℕ
deriving DecidableEq

/-- The text of a tap in the names of its clips. The radio library writes a frequency in
kilohertz. -/
def TapId.filenameToken (asKhz : Frequency → String) : TapId → String
  | .frequency hertz => "freq-" ++ asKhz hertz
  | .headset => "headset"
  | .speaker => "speaker"
  | .merged => "merged"

def systemTimeToUnixMs (time : SystemTime) : ℕ :=
  (time / 10 ^ 6).toNat

/-! ## Names -/

def numberedPath (base : String) (number : ℕ) : String :=
  base ++ "-" ++ toString number ++ ".wav"

/-- The first free name with a number from a range. -/
def firstFree (files : Finset String) (base : String) : ℕ → ℕ → Option String
  | 0, _ => none
  | count + 1, number =>
      if numberedPath base number ∈ files then firstFree files base count (number + 1)
      else some (numberedPath base number)

def uniquePath (files : Finset String) (base : String) : String :=
  let first := base ++ ".wav"
  if first ∈ files then
    -- the numbers below `u32::MAX`, and the taken name if there is none left
    (firstFree files base (2 ^ 32 - 2) 1).getD first
  else first

theorem numberedPath_injective (base : String) : Function.Injective (numberedPath base) := by
  intro first second same
  unfold numberedPath at same
  rw [String.append_left_inj, String.append_right_inj] at same
  exact Nat.repr_injective same

theorem firstFree_notMem {files : Finset String} {base path : String} {count : ℕ} :
    ∀ {number : ℕ}, firstFree files base count number = some path → path ∉ files := by
  induction count with
  | zero =>
      intro number isPath
      cases isPath
  | succ count ih =>
      intro number isPath
      unfold firstFree at isPath
      split at isPath
      case isTrue => exact ih isPath
      case isFalse free =>
        cases isPath
        exact free

/-- A search without result has met only taken names. -/
theorem mem_of_firstFree_eq_none {files : Finset String} {base : String} {count : ℕ} :
    ∀ {number : ℕ}, firstFree files base count number = none →
      ∀ offset < count, numberedPath base (number + offset) ∈ files := by
  induction count with
  | zero =>
      intro number _ offset inRange
      omega
  | succ count ih =>
      intro number isNone offset inRange
      unfold firstFree at isNone
      split at isNone
      case isFalse => cases isNone
      case isTrue taken =>
        cases offset with
        | zero => exact taken
        | succ offset =>
            have later := ih isNone offset (by omega)
            rwa [Nat.add_assoc, Nat.add_comm 1 offset] at later

theorem le_card_of_firstFree_eq_none {files : Finset String} {base : String} {count number : ℕ}
    (isNone : firstFree files base count number = none) : count ≤ files.card := by
  have taken := mem_of_firstFree_eq_none isNone
  have injective : Function.Injective fun offset => numberedPath base (number + offset) := by
    intro first second same
    have sameNumber := numberedPath_injective base same
    omega
  calc count = ((Finset.range count).image fun offset => numberedPath base (number + offset)).card := by
        rw [Finset.card_image_of_injective _ injective, Finset.card_range]
    _ ≤ files.card := by
        apply Finset.card_le_card
        intro path member
        obtain ⟨offset, inRange, isPath⟩ := Finset.mem_image.mp member
        rw [← isPath]
        exact taken offset (Finset.mem_range.mp inRange)

/-- Fewer files than numbers leave a name free. -/
theorem uniquePath_notMem {files : Finset String} (base : String)
    (few : files.card < 2 ^ 32 - 2) : uniquePath files base ∉ files := by
  unfold uniquePath
  simp only
  split
  case isFalse free => exact free
  case isTrue =>
    cases isPath : firstFree files base (2 ^ 32 - 2) 1 with
    | none =>
        have many := le_card_of_firstFree_eq_none isPath
        omega
    | some path => exact firstFree_notMem isPath

/-! ## The store -/

structure ClipStore where
  asKhz : Frequency → String
  maxClips : ℕ
  /-- The deque, the oldest clip first. -/
  clips : List ClipMeta := []
  /-- The names of the clip files in the directory. -/
  files : Finset String := ∅

namespace ClipStore

def allocate (store : ClipStore) (tap : TapId) (startedAt : SystemTime) : String :=
  let unixMs := systemTimeToUnixMs startedAt
  let base := "clip-" ++ toString unixMs ++ "-" ++ tap.filenameToken store.asKhz
  uniquePath store.files base

/-- Create a file, or leave one that is there. -/
def touch (store : ClipStore) (path : String) : ClipStore :=
  { store with files := insert path store.files }

/-- Remove a file, if it is there. -/
def discard (store : ClipStore) (path : String) : ClipStore :=
  { store with files := store.files.erase path }

/-- Take clips from the front of the deque while there are too many. -/
def evictLoop (maxClips : ℕ) : List ClipMeta → Finset String →
    List ClipMeta × Finset String × List ClipMeta
  | [], files => ([], files, [])
  | clip :: clips, files =>
      if maxClips < clips.length + 1 then
        let evicted := evictLoop maxClips clips (files.erase clip.path)
        (evicted.1, evicted.2.1, clip :: evicted.2.2)
      else (clip :: clips, files, [])

def evictOverflow (store : ClipStore) : ClipStore × List ClipMeta :=
  let evicted := evictLoop store.maxClips store.clips store.files
  ({ store with clips := evicted.1, files := evicted.2.1 }, evicted.2.2)

def commit (store : ClipStore) (clip : ClipMeta) : ClipStore × List ClipMeta :=
  evictOverflow { store with clips := store.clips ++ [clip] }

/-- Delete a clip, if it is in the deque. -/
def delete (store : ClipStore) (id : ℕ) : ClipStore × Option ClipMeta :=
  match store.clips.find? fun clip => decide (clip.id = id) with
  | none => (store, none)
  | some clip =>
      ({ store with
          clips := store.clips.eraseP fun clip => decide (clip.id = id)
          files := store.files.erase clip.path }, some clip)

def removeFiles (files : Finset String) (clips : List ClipMeta) : Finset String :=
  clips.foldl (fun files clip => files.erase clip.path) files

def clear (store : ClipStore) : ClipStore :=
  { store with clips := [], files := removeFiles store.files store.clips }

theorem mem_removeFiles {clips : List ClipMeta} {path : String} :
    ∀ {files : Finset String}, path ∈ removeFiles files clips ↔
      path ∈ files ∧ path ∉ clips.map ClipMeta.path := by
  induction clips with
  | nil =>
      intro files
      simp [removeFiles]
  | cons clip clips ih =>
      intro files
      rw [removeFiles, List.foldl_cons]
      refine Iff.trans ih ?_
      rw [Finset.mem_erase, List.map_cons, List.mem_cons, not_or]
      tauto

/-- The loop leaves the last clips and removes the files of the others. -/
theorem evictLoop_eq (maxClips : ℕ) (clips : List ClipMeta) :
    ∀ files : Finset String, evictLoop maxClips clips files =
      (clips.rtake maxClips, removeFiles files (clips.take (clips.length - maxClips)),
        clips.take (clips.length - maxClips)) := by
  induction clips with
  | nil =>
      intro files
      simp [evictLoop, List.rtake, removeFiles]
  | cons clip clips ih =>
      intro files
      unfold evictLoop
      split
      case isTrue tooMany =>
        have excess : (clip :: clips).length - maxClips = (clips.length - maxClips) + 1 := by
          rw [List.length_cons]
          omega
        rw [ih, List.rtake, List.rtake, excess, List.drop_succ_cons, List.take_succ_cons]
        rfl
      case isFalse fits =>
        have excess : (clip :: clips).length - maxClips = 0 := by
          rw [List.length_cons]
          omega
        rw [List.rtake, excess]
        rfl

end ClipStore

end Playback

end Vacs
