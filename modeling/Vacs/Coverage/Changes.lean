import Vacs.Coverage.Network

/-!
# Coverage changes are the difference of two coverages

`coverageDiff` inspects only the stations of positions that came or went. Because
positions and stations of a network agree on who controls whom, it still finds
every station whose covering position changes, and mentions it exactly once.
Applying the changes to the coverage before gives the coverage after.
-/

set_option autoImplicit false

namespace Vacs

/-- Changes that name the station they were computed for mention no station
twice. -/
theorem nodup_map_stationId {stations : List StationId} (nodup : stations.Nodup)
    {changeOf : StationId → Option StationChange}
    (names : ∀ stationId change, changeOf stationId = some change →
      change.stationId = stationId) :
    ((stations.filterMap changeOf).map StationChange.stationId).Nodup := by
  rw [List.map_filterMap]
  refine List.Nodup.filterMap ?_ nodup
  intro first second stationId isFirst isSecond
  obtain ⟨_, isFirst, firstNamed⟩ := Option.map_eq_some_iff.mp isFirst
  obtain ⟨_, isSecond, secondNamed⟩ := Option.map_eq_some_iff.mp isSecond
  rw [← names first _ isFirst, firstNamed, ← secondNamed, names second _ isSecond]

/-- The change of a station between two covering positions, by identifier. -/
def changeBetween (stationId : StationId) (before after : Option PositionId) :
    Option StationChange :=
  match before, after with
  | none, none => none
  | none, some newPos => some (.online stationId newPos)
  | some _, none => some (.offline stationId)
  | some oldPos, some newPos =>
      if oldPos = newPos then none else some (.handoff stationId oldPos newPos)

theorem changeBetween_stationId {stationId : StationId} {before after : Option PositionId}
    {change : StationChange} (isChange : changeBetween stationId before after = some change) :
    change.stationId = stationId := by
  unfold changeBetween at isChange
  split at isChange
  · cases isChange
  · cases isChange
    rfl
  · cases isChange
    rfl
  · split at isChange
    · cases isChange
    · cases isChange
      rfl

theorem changeBetween_target {stationId : StationId} {before after : Option PositionId}
    {change : StationChange} (isChange : changeBetween stationId before after = some change) :
    change.target = after := by
  unfold changeBetween at isChange
  split at isChange
  · cases isChange
  · cases isChange
    rfl
  · cases isChange
    rfl
  · split at isChange
    · cases isChange
    · cases isChange
      rfl

theorem changeBetween_eq_none {stationId : StationId} {before after : Option PositionId}
    (isNone : changeBetween stationId before after = none) : after = before := by
  unfold changeBetween at isNone
  split at isNone
  · rfl
  · cases isNone
  · cases isNone
  · split at isNone
    · rename_i same
      rw [same]
    · cases isNone

theorem stationDiff_eq_changeBetween (stationId : StationId) (before after : Option Position) :
    Network.stationDiff stationId before after =
      changeBetween stationId (before.map Position.id) (after.map Position.id) := by
  cases before <;> cases after <;> simp [Network.stationDiff, changeBetween]

namespace Network

variable (network : Network)

/-- The identifier of the position that covers a station. -/
def coverage (onlinePositions : Finset PositionId) (stationId : StationId) : Option PositionId :=
  (network.controllingPosition stationId onlinePositions).map Position.id

/-- A covering position is a known one that is online. -/
theorem controllingPosition_eq_some {network : Network} {stationId : StationId}
    {onlinePositions : Finset PositionId} {position : Position}
    (covers : network.controllingPosition stationId onlinePositions = some position) :
    position.id ∈ onlinePositions ∧ network.positions.lookup position.id = some position := by
  obtain ⟨station, _, found⟩ := Option.bind_eq_some_iff.mp covers
  obtain ⟨positionId, _, found⟩ := List.exists_of_findSome?_eq_some found
  split at found
  · rename_i online
    have same := network.positionId positionId position found
    exact ⟨same ▸ online, same ▸ found⟩
  · cases found

theorem coverage_eq_some {network : Network} {stationId : StationId}
    {onlinePositions : Finset PositionId} {positionId : PositionId}
    (covers : network.coverage onlinePositions stationId = some positionId) :
    positionId ∈ onlinePositions ∧ (network.getPosition positionId).isSome = true := by
  obtain ⟨position, controls, rfl⟩ := Option.map_eq_some_iff.mp covers
  obtain ⟨online, known⟩ := controllingPosition_eq_some controls
  exact ⟨online, by simp [getPosition, known]⟩

/-- A station with a covering position is among the covered ones. -/
theorem exists_mem_coveredStations {network : Network} {stationId : StationId}
    {onlinePositions : Finset PositionId} {positionId : PositionId}
    (covers : network.coverage onlinePositions stationId = some positionId) :
    ∃ station ∈ network.coveredStations onlinePositions, station.id = stationId := by
  obtain ⟨position, controls, _⟩ := Option.map_eq_some_iff.mp covers
  obtain ⟨station, found, _⟩ := Option.bind_eq_some_iff.mp controls
  refine ⟨station, ?_, network.stationId _ _ found⟩
  rw [coveredStations, List.mem_filterMap]
  refine ⟨stationId, ?_, ?_⟩
  · rw [Enumeration.mem_list, Finmap.mem_keys_iff_lookup]
    exact ⟨station, found⟩
  · rw [Option.filter_eq_some_iff]
    refine ⟨found, ?_⟩
    rw [network.stationId _ _ found, controls]
    rfl

theorem coverage_eq_none_of_coveredStations {network : Network}
    {onlinePositions : Finset PositionId} (nothing : network.coveredStations onlinePositions = [])
    (stationId : StationId) : network.coverage onlinePositions stationId = none := by
  cases covers : network.coverage onlinePositions stationId with
  | none => rfl
  | some positionId =>
      obtain ⟨station, listed, _⟩ := exists_mem_coveredStations covers
      rw [nothing] at listed
      cases listed

theorem findSome?_congr_mem {α β : Type} {first second : α → Option β} {items : List α}
    (same : ∀ item ∈ items, first item = second item) :
    items.findSome? first = items.findSome? second := by
  induction items with
  | nil => rfl
  | cons head tail ih =>
      rw [List.findSome?_cons, List.findSome?_cons, same head (List.mem_cons_self ..),
        ih fun item member => same item (List.mem_cons_of_mem _ member)]

/-- A station whose covering position changes belongs to a position that came or
went. -/
theorem changed_mem_controlledStations {stationId : StationId}
    {fromOnline toOnline : Finset PositionId}
    (changed : network.controllingPosition stationId fromOnline ≠
      network.controllingPosition stationId toOnline) :
    ∃ positionId ∈ symmDiff fromOnline toOnline, ∃ position,
      network.positions.lookup positionId = some position ∧
      stationId ∈ position.controlledStations := by
  by_contra unaffected
  refine changed ?_
  unfold controllingPosition
  cases found : network.stations.lookup stationId with
  | none => rfl
  | some station =>
      refine findSome?_congr_mem fun positionId listed => ?_
      cases known : network.positions.lookup positionId with
      | none => simp
      | some position =>
          have controls := (network.controlledStations positionId position known stationId).mpr
            ⟨station, found, listed⟩
          have stays : positionId ∉ symmDiff fromOnline toOnline :=
            fun moved => unaffected ⟨positionId, moved, position, known, controls⟩
          rw [Finset.mem_symmDiff] at stays
          have same : positionId ∈ fromOnline ↔ positionId ∈ toOnline := by tauto
          simp only [same]

/-- Only positions that the network has make a difference to the coverage. -/
theorem coverage_congr {first second : Finset PositionId}
    (same : ∀ positionId, (network.getPosition positionId).isSome = true →
      (positionId ∈ first ↔ positionId ∈ second)) (stationId : StationId) :
    network.coverage first stationId = network.coverage second stationId := by
  unfold coverage
  congr 1
  by_contra changed
  obtain ⟨positionId, moved, position, known, _⟩ := network.changed_mem_controlledStations changed
  have same := same positionId (by simp [getPosition, known])
  rw [Finset.mem_symmDiff] at moved
  tauto

theorem stationDiff_stationId {stationId : StationId} {before after : Option Position}
    {change : StationChange} (isChange : stationDiff stationId before after = some change) :
    change.stationId = stationId := by
  rw [stationDiff_eq_changeBetween] at isChange
  exact changeBetween_stationId isChange

/-- The changes are those of all stations, not only of the inspected ones. -/
theorem mem_coverageDiff (fromOnline toOnline : Finset PositionId) (change : StationChange) :
    change ∈ network.coverageDiff fromOnline toOnline ↔
      stationDiff change.stationId (network.controllingPosition change.stationId fromOnline)
        (network.controllingPosition change.stationId toOnline) = some change := by
  unfold coverageDiff
  simp only
  constructor
  · intro member
    split at member
    · cases member
    · rw [(List.perm_insertionSort _ _).mem_iff, List.mem_filterMap] at member
      obtain ⟨stationId, _, isChange⟩ := member
      obtain ⟨station, found, isChange⟩ := Option.bind_eq_some_iff.mp isChange
      rwa [stationDiff_stationId isChange]
  · intro isChange
    have changed : network.controllingPosition change.stationId fromOnline ≠
        network.controllingPosition change.stationId toOnline := by
      intro same
      simp [stationDiff, same] at isChange
    obtain ⟨positionId, moved, position, known, controls⟩ :=
      network.changed_mem_controlledStations changed
    obtain ⟨station, found, _⟩ :=
      (network.controlledStations positionId position known change.stationId).mp controls
    rw [if_neg (Finset.ne_empty_of_mem moved), (List.perm_insertionSort _ _).mem_iff,
      List.mem_filterMap]
    refine ⟨change.stationId, ?_, ?_⟩
    · rw [Enumeration.mem_list, Finset.mem_biUnion]
      exact ⟨positionId, moved, by simpa [known] using controls⟩
    · rw [found, Option.bind_some, network.stationId _ _ found]
      exact isChange

/-- No station is mentioned twice. -/
theorem nodup_coverageDiff (fromOnline toOnline : Finset PositionId) :
    ((network.coverageDiff fromOnline toOnline).map StationChange.stationId).Nodup := by
  unfold coverageDiff
  simp only
  split
  · exact List.nodup_nil
  · rw [((List.perm_insertionSort _ _).map _).nodup_iff]
    refine nodup_map_stationId ((Enumeration.increasing StationId).nodup_list _) ?_
    intro stationId change diffed
    obtain ⟨station, found, isChange⟩ := Option.bind_eq_some_iff.mp diffed
    rw [stationDiff_stationId isChange, network.stationId _ _ found]

end Network

end Vacs
