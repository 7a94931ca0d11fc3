import Vacs.Coverage.Changes

/-!
# Views of the coverage

A client keeps a view of the stations, a map from stations to covering positions,
and folds the changes it is sent into it: an online or handed-off station gets
the target position, an offline station is dropped. `Describes` says that a list
of changes leads from one coverage to another: it mentions no station twice,
every mentioned station ends at the target of its change, and all others keep
their coverage. Folding such a list into a view of the first coverage gives a
view of the second, also when the list and the view are restricted to the
relevant stations of a profile.
-/

set_option autoImplicit false

namespace Vacs

/-- The changes are exactly the differences between two coverages. -/
structure IsDiff (changes : List StationChange) (before after : StationId → Option PositionId) :
    Prop where
  nodup : (changes.map StationChange.stationId).Nodup
  mem_iff : ∀ change, change ∈ changes ↔
    changeBetween change.stationId (before change.stationId) (after change.stationId) = some change

/-- The changes lead from one coverage to another. -/
structure Describes (changes : List StationChange)
    (before after : StationId → Option PositionId) : Prop where
  nodup : (changes.map StationChange.stationId).Nodup
  told : ∀ change ∈ changes, change.target = after change.stationId
  kept : ∀ stationId, (∀ change ∈ changes, change.stationId ≠ stationId) →
    after stationId = before stationId

theorem Describes.nil {before after : StationId → Option PositionId}
    (same : ∀ stationId, after stationId = before stationId) : Describes [] before after where
  nodup := List.nodup_nil
  told := by simp
  kept stationId _ := same stationId

theorem Network.isDiff_coverageDiff (network : Network) (fromOnline toOnline : Finset PositionId) :
    IsDiff (network.coverageDiff fromOnline toOnline) (network.coverage fromOnline)
      (network.coverage toOnline) where
  nodup := network.nodup_coverageDiff fromOnline toOnline
  mem_iff change := by
    rw [network.mem_coverageDiff, stationDiff_eq_changeBetween]
    rfl

theorem IsDiff.describes {changes : List StationChange}
    {before after : StationId → Option PositionId} (isDiff : IsDiff changes before after) :
    Describes changes before after where
  nodup := isDiff.nodup
  told change member := changeBetween_target ((isDiff.mem_iff change).mp member)
  kept stationId unmentioned := by
    cases between : changeBetween stationId (before stationId) (after stationId) with
    | none => exact changeBetween_eq_none between
    | some change =>
        have named := changeBetween_stationId between
        refine absurd named (unmentioned change ((isDiff.mem_iff change).mpr ?_))
        rw [named]
        exact between

/-! ## Folding changes into a map -/

/-- Fold changes into a view. -/
def applyChanges (view : HashMap StationId PositionId) (changes : List StationChange) :
    HashMap StationId PositionId :=
  view.patch (changes.map fun change => (change.stationId, change.target))

theorem keys_of_changes (changes : List StationChange) :
    (changes.map fun change => (change.stationId, change.target)).map Prod.fst =
      changes.map StationChange.stationId := by
  rw [List.map_map]
  rfl

theorem lookup_applyChanges_of_mem {changes : List StationChange}
    (nodup : (changes.map StationChange.stationId).Nodup) {change : StationChange}
    (member : change ∈ changes) (view : HashMap StationId PositionId) :
    (applyChanges view changes).lookup change.stationId = change.target :=
  Finmap.lookup_patch_of_mem (keys_of_changes changes ▸ nodup)
    (List.mem_map_of_mem (f := fun change => (change.stationId, change.target)) member) view

theorem lookup_applyChanges_of_unmentioned {changes : List StationChange} {stationId : StationId}
    (unmentioned : ∀ change ∈ changes, change.stationId ≠ stationId)
    (view : HashMap StationId PositionId) :
    (applyChanges view changes).lookup stationId = view.lookup stationId := by
  rw [applyChanges, Finmap.lookup_patch_of_notMem]
  rw [keys_of_changes, List.mem_map]
  rintro ⟨change, member, named⟩
  exact unmentioned change member named

/-- Folding changes that lead from one coverage to another. -/
theorem Describes.lookup_applyChanges {changes : List StationChange}
    {before after : StationId → Option PositionId} (describes : Describes changes before after)
    {view : HashMap StationId PositionId}
    (shows : ∀ stationId, view.lookup stationId = before stationId) (stationId : StationId) :
    (applyChanges view changes).lookup stationId = after stationId := by
  by_cases mentioned : ∃ change ∈ changes, change.stationId = stationId
  · obtain ⟨change, member, rfl⟩ := mentioned
    rw [lookup_applyChanges_of_mem describes.nodup member, describes.told change member]
  · have unmentioned : ∀ change ∈ changes, change.stationId ≠ stationId :=
      fun change member named => mentioned ⟨change, member, named⟩
    rw [lookup_applyChanges_of_unmentioned unmentioned, shows,
      describes.kept stationId unmentioned]

/-! ## Restriction to the relevant stations -/

/-- Whether a station is told to the client. -/
def RelevantStations.has (relevant : RelevantStations) (stationId : StationId) : Bool :=
  match relevant with
  | .all => true
  | .subset stationIds => decide (stationId ∈ stationIds)
  | .none => false

/-- The part of a coverage that is told to the client. -/
def RelevantStations.restrict (relevant : RelevantStations)
    (coverage : StationId → Option PositionId) (stationId : StationId) : Option PositionId :=
  if relevant.has stationId then coverage stationId else Option.none

theorem Describes.restrict {changes : List StationChange}
    {before after : StationId → Option PositionId} (describes : Describes changes before after)
    (relevant : RelevantStations) :
    Describes (changes.filter fun change => relevant.has change.stationId)
      (relevant.restrict before) (relevant.restrict after) where
  nodup := describes.nodup.sublist (List.Sublist.map _ List.filter_sublist)
  told change member := by
    rw [List.mem_filter] at member
    rw [RelevantStations.restrict, if_pos member.2]
    exact describes.told change member.1
  kept stationId unmentioned := by
    unfold RelevantStations.restrict
    split
    · rename_i isRelevant
      refine describes.kept stationId fun change member named => ?_
      exact unmentioned change (List.mem_filter.mpr ⟨member, by rwa [named]⟩) named
    · rfl

end Vacs
