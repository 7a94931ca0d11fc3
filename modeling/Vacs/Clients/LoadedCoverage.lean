import Vacs.Clients.Staffing
import Vacs.Coverage.LoadSoundness

/-!
# The coverage changes of a loaded network

In a loaded network the stations of a position are exactly those that list it, so the
inspected stations are all that can change. The changes mention every station whose
position differs once and no other station, and folding them into the coverage before
gives the coverage after (`coverageDiff_exact`). Changing one position is a case of
this (`coverageChanges_eq`).
-/

set_option autoImplicit false

namespace Vacs

/-- The changes that concern a station are the change between its two positions. -/
theorem IsDiff.filter_eq {changes : List StationChange}
    {before after : StationId → Option PositionId} (isDiff : IsDiff changes before after)
    (stationId : StationId) :
    changes.filter (fun change => decide (change.stationId = stationId)) =
      (changeBetween stationId (before stationId) (after stationId)).toList := by
  cases between : changeBetween stationId (before stationId) (after stationId) with
  | none =>
      apply List.filter_eq_nil_iff.mpr
      intro change member concerns
      rw [decide_eq_true_eq] at concerns
      have isChange := (isDiff.mem_iff change).mp member
      rw [concerns, between] at isChange
      cases isChange
  | some change =>
      have named := changeBetween_stationId between
      apply List.perm_singleton.mp
      apply (List.perm_ext_iff_of_nodup (isDiff.nodup.of_map.filter _)
        (List.nodup_singleton change)).mpr
      intro other
      rw [List.mem_filter, decide_eq_true_eq, List.mem_singleton, isDiff.mem_iff]
      constructor
      · rintro ⟨isChange, concerns⟩
        rw [concerns, between] at isChange
        exact (Option.some.inj isChange).symm
      · rintro rfl
        rw [named]
        exact ⟨between, rfl⟩

namespace Network

variable (network : Network)

/-- The stations that the positions cover, with the covering positions. -/
def coverageMap (onlinePositions : Finset PositionId) : StationCoverage :=
  network.stations.filterMap fun stationId _ => network.coverage onlinePositions stationId

theorem lookup_coverageMap (onlinePositions : Finset PositionId) (stationId : StationId) :
    (network.coverageMap onlinePositions).lookup stationId =
      network.coverage onlinePositions stationId := by
  rw [coverageMap, Finmap.lookup_filterMap]
  cases found : network.stations.lookup stationId with
  | some station => rfl
  | none => simp [coverage, controllingPosition, found]

theorem coverageDiff_self (onlinePositions : Finset PositionId) :
    network.coverageDiff onlinePositions onlinePositions = [] := by
  simp only [coverageDiff, symmDiff_self, Finset.bot_eq_empty, if_true]

/-- The changes of leaving one position and joining another. -/
theorem coverageChanges_eq (source target : Option PositionId)
    (onlinePositions : Finset PositionId) :
    network.coverageChanges source target onlinePositions =
      network.coverageDiff onlinePositions
        (onlinePositions \ source.toFinset ∪ target.toFinset) := by
  cases source with
  | none =>
      cases target with
      | none => simp [coverageChanges, coverageDiff_self]
      | some target =>
          have after : onlinePositions \ Option.toFinset none ∪ Option.toFinset (some target) =
              insert target onlinePositions := by
            ext positionId
            simp
          rw [after]
          by_cases counted : target ∈ onlinePositions
          · simp [coverageChanges, counted, coverageDiff_self]
          · simp [coverageChanges, counted]
  | some source =>
      cases target with
      | none =>
          have after : onlinePositions \ Option.toFinset (some source) ∪ Option.toFinset none =
              onlinePositions.erase source := by
            ext positionId
            simp [and_comm]
          rw [after]
          by_cases counted : source ∈ onlinePositions
          · simp [coverageChanges, counted]
          · simp [coverageChanges, counted, coverageDiff_self]
      | some target =>
          have after : onlinePositions \ Option.toFinset (some source) ∪
              Option.toFinset (some target) = insert target (onlinePositions.erase source) := by
            ext positionId
            simp [and_comm]
          rw [after]
          by_cases same : source = target
          · subst same
            have rejoined : insert source (onlinePositions.erase source) =
                insert source onlinePositions := by
              ext positionId
              by_cases own : positionId = source <;> simp [own]
            rw [rejoined]
            by_cases counted : source ∈ onlinePositions
            · simp [coverageChanges, counted, coverageDiff_self]
            · simp [coverageChanges, counted]
          · by_cases leaves : source ∈ onlinePositions
            · simp [coverageChanges, same, leaves]
            · by_cases joins : target ∈ onlinePositions
              · simp [coverageChanges, same, leaves, joins, coverageDiff_self]
              · simp [coverageChanges, same, leaves, joins]

end Network

namespace Loading

variable {digit : Char → Bool} {order : LoadOrder} {firs : List FlightInformationRegionRaw}
  {loaded : LoadedNetwork}

/-- The coverage changes of a loaded network are exactly the difference of the two coverages. -/
theorem coverageDiff_exact (isLoaded : load digit order firs = .ok loaded)
    (fromOnline toOnline : Finset PositionId) :
    (∀ stationId,
      ((networkOf isLoaded).coverageDiff fromOnline toOnline).filter
          (fun change => decide (change.stationId = stationId)) =
        (changeBetween stationId ((networkOf isLoaded).coverage fromOnline stationId)
          ((networkOf isLoaded).coverage toOnline stationId)).toList) ∧
      ClientManager.updateOnlineStations ((networkOf isLoaded).coverageMap fromOnline)
          ((networkOf isLoaded).coverageDiff fromOnline toOnline) =
        (networkOf isLoaded).coverageMap toOnline ∧
      ∀ source target, (networkOf isLoaded).coverageChanges source target fromOnline =
        (networkOf isLoaded).coverageDiff fromOnline
          (fromOnline \ source.toFinset ∪ target.toFinset) := by
  have isDiff := (networkOf isLoaded).isDiff_coverageDiff fromOnline toOnline
  refine ⟨isDiff.filter_eq, ?_, ?_⟩
  · apply Finmap.ext_lookup
    intro stationId
    rw [Network.lookup_coverageMap]
    exact ClientManager.lookup_updateOnlineStations isDiff
      ((networkOf isLoaded).lookup_coverageMap fromOnline) stationId
  · intro source target
    exact (networkOf isLoaded).coverageChanges_eq source target fromOnline

theorem coverageDiff_exact_vienna :
    ∃ (loaded : LoadedNetwork)
      (isLoaded : load Char.isDigit ⟨.increasing ProfileId, .increasing StationId⟩
        [viennaRegion] = .ok loaded),
      (((networkOf isLoaded).coverageDiff {⟨"LOVV_CTR"⟩} {⟨"LOWW_TWR"⟩, ⟨"EDMM_CTR"⟩}).filter
          (fun change => decide (change.stationId = ⟨"LOWW_TWR"⟩)) =
        (changeBetween ⟨"LOWW_TWR"⟩ ((networkOf isLoaded).coverage {⟨"LOVV_CTR"⟩} ⟨"LOWW_TWR"⟩)
          ((networkOf isLoaded).coverage {⟨"LOWW_TWR"⟩, ⟨"EDMM_CTR"⟩} ⟨"LOWW_TWR"⟩)).toList) ∧
      ClientManager.updateOnlineStations ((networkOf isLoaded).coverageMap {⟨"LOVV_CTR"⟩})
          ((networkOf isLoaded).coverageDiff {⟨"LOVV_CTR"⟩} {⟨"LOWW_TWR"⟩, ⟨"EDMM_CTR"⟩}) =
        (networkOf isLoaded).coverageMap {⟨"LOWW_TWR"⟩, ⟨"EDMM_CTR"⟩} ∧
      (networkOf isLoaded).coverageChanges (some ⟨"LOVV_CTR"⟩) (some ⟨"LOWW_TWR"⟩)
          {⟨"LOVV_CTR"⟩} =
        (networkOf isLoaded).coverageDiff {⟨"LOVV_CTR"⟩} {⟨"LOWW_TWR"⟩} := by
  obtain ⟨loaded, isLoaded⟩ :=
    load_of_loadable ⟨.increasing ProfileId, .increasing StationId⟩ loadable_viennaRegion
  obtain ⟨perStation, updated, -⟩ :=
    coverageDiff_exact isLoaded {⟨"LOVV_CTR"⟩} {⟨"LOWW_TWR"⟩, ⟨"EDMM_CTR"⟩}
  obtain ⟨-, -, moved⟩ := coverageDiff_exact isLoaded {⟨"LOVV_CTR"⟩} ∅
  exact ⟨loaded, isLoaded, perStation _, updated, moved (some ⟨"LOVV_CTR"⟩) (some ⟨"LOWW_TWR"⟩)⟩

end Loading

end Vacs
