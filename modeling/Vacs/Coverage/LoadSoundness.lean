import Vacs.Coverage.LoadTables

/-!
# A loaded network is sound

A dataset that is loaded has no identifier twice, every name that is used exists, and
positions and stations agree on who controls whom (`ReferentiallySound`). Conversely a
dataset is loaded if its items are valid, the names they use exist and the parents of
every station end (`Loadable`).
-/

set_option autoImplicit false

namespace Vacs

open Checks CheckedTables

namespace Loading

/-! ## Soundness -/

/-- The identifiers of a dataset are unique. -/
structure UniqueIds (firs : List FlightInformationRegionRaw) : Prop where
  firIds : (firs.map FlightInformationRegionRaw.id).Nodup
  stationIds : ((firs.flatMap FlightInformationRegionRaw.stations).map StationRaw.id).Nodup
  positionIds : ((firs.flatMap FlightInformationRegionRaw.positions).map PositionRaw.id).Nodup
  profileIds : firs.Pairwise fun first second => Disjoint first.profiles.keys second.profiles.keys

/-- A network holds the items of a dataset, and every name in it exists. -/
structure ReferentiallySound (firs : List FlightInformationRegionRaw) (network : LoadedNetwork) :
    Prop where
  unique : UniqueIds firs
  firKeys : network.firs.keys = (firs.map FlightInformationRegionRaw.id).toFinset
  stationKeys : network.stations.keys = allStationIds firs
  positionKeys : network.positions.keys = allPositionIds firs
  profileKeys : network.profiles.keys = allProfileIds firs
  stationId : ∀ key station, network.stations.lookup key = some station → station.id = key
  positionId : ∀ key position, network.positions.lookup key = some position → position.id = key
  covered : ∀ key station, network.stations.lookup key = some station →
    station.controlledBy ≠ [] ∧ station.controlledBy.Nodup
  controlledBy : ∀ key station, network.stations.lookup key = some station →
    ∀ positionId ∈ station.controlledBy, positionId ∈ network.positions
  controlledStations : ∀ key position, network.positions.lookup key = some position →
    ∀ stationId, stationId ∈ position.controlledStations ↔
      ∃ station, network.stations.lookup stationId = some station ∧ key ∈ station.controlledBy
  profileId : ∀ key position, network.positions.lookup key = some position →
    ∀ profileId ∈ position.profileId, profileId ∈ network.profiles
  defaultCallSources : ∀ key position, network.positions.lookup key = some position →
    ∀ stationId ∈ position.defaultCallSources, stationId ∈ network.stations

/-- A dataset without errors: the identifiers are unique, the items pass their validators, the
parents of a station end and one of them lists a position, and the names that are used exist. -/
structure Loadable (digit : Char → Bool) (firs : List FlightInformationRegionRaw) : Prop where
  unique : UniqueIds firs
  firsValid : ∀ fir ∈ firs, fir.validate = .ok ()
  stationsValid : ∀ fir ∈ firs, ∀ station ∈ fir.stations, station.validate = .ok ()
  positionsValid : ∀ fir ∈ firs, ∀ position ∈ fir.positions, position.validate digit = .ok ()
  profilesValid : ∀ fir ∈ firs, ∀ key profile, fir.profiles.lookup key = some profile →
    profile.validateReferences (allStationIds firs) = .ok ()
  chains : ∀ fir ∈ firs, ∀ station ∈ fir.stations, ∃ chain,
    ParentChain (allStations firs) station chain ∧ ∃ member ∈ chain, member.controlledBy ≠ []
  controlledBy : ∀ fir ∈ firs, ∀ station ∈ fir.stations,
    ∀ positionId ∈ station.controlledBy, positionId ∈ allPositionIds firs
  profileId : ∀ fir ∈ firs, ∀ position ∈ fir.positions,
    ∀ profileId ∈ position.profileId, profileId ∈ allProfileIds firs
  defaultCallSources : ∀ fir ∈ firs, ∀ position ∈ fir.positions,
    ∀ stationId ∈ position.defaultCallSources, stationId ∈ allStationIds firs

/-! ## The identifiers of a dataset -/

section Ids

variable {firs : List FlightInformationRegionRaw}

theorem mem_allPositionIds {positionId : PositionId} :
    positionId ∈ allPositionIds firs ↔
      ∃ fir ∈ firs, ∃ raw ∈ fir.positions, raw.id = positionId := by
  rw [allPositionIds, List.mem_toFinset, List.mem_map]
  simp only [List.mem_flatMap]
  constructor
  · rintro ⟨raw, ⟨fir, isFir, listed⟩, same⟩
    exact ⟨fir, isFir, raw, listed, same⟩
  · rintro ⟨fir, isFir, raw, listed, same⟩
    exact ⟨raw, ⟨fir, isFir, listed⟩, same⟩

theorem mem_allProfileIds {profileId : ProfileId} :
    profileId ∈ allProfileIds firs ↔
      ∃ fir ∈ firs, ∃ profile, fir.profiles.lookup profileId = some profile := by
  induction firs with
  | nil => simp [allProfileIds]
  | cons fir firs ih =>
      have split : allProfileIds (fir :: firs) = fir.profiles.keys ∪ allProfileIds firs := rfl
      rw [split, Finset.mem_union, ih, Finmap.mem_keys_iff_lookup, List.exists_mem_cons_iff]

theorem mem_allStationIds {stationId : StationId} :
    stationId ∈ allStationIds firs ↔ ∃ fir ∈ firs, ∃ raw ∈ fir.stations, raw.id = stationId := by
  rw [allStationIds, Finmap.mem_keys, allStations, Finmap.mem_indexBy]
  simp only [List.mem_flatMap]
  constructor
  · rintro ⟨raw, ⟨fir, isFir, listed⟩, same⟩
    exact ⟨fir, isFir, raw, listed, same⟩
  · rintro ⟨fir, isFir, raw, listed, same⟩
    exact ⟨raw, ⟨fir, isFir, listed⟩, same⟩

theorem mem_of_lookup_allStations {key : StationId} {raw : StationRaw}
    (found : (allStations firs).lookup key = some raw) : ∃ fir ∈ firs, raw ∈ fir.stations :=
  List.mem_flatMap.mp (Finmap.mem_of_lookup_indexBy StationRaw.id _ found)

theorem keyed_allStations (key : StationId) (raw : StationRaw)
    (found : (allStations firs).lookup key = some raw) : raw.id = key :=
  Finmap.key_of_lookup_indexBy StationRaw.id _ found

/-- With unique identifiers every station of the dataset is found. -/
theorem lookup_allStations (unique : UniqueIds firs) {fir : FlightInformationRegionRaw}
    (isFir : fir ∈ firs) {raw : StationRaw} (listed : raw ∈ fir.stations) :
    (allStations firs).lookup raw.id = some raw :=
  Finmap.lookup_indexBy_of_nodup StationRaw.id unique.stationIds
    (List.mem_flatMap.mpr ⟨fir, isFir, listed⟩)

end Ids

/-! ## References -/

section References

theorem validateEntries_eq_ok_iff {Id : Type} [DecidableEq Id] (field : String)
    (text : Id → String) (known : Finset Id) (entries : List Id) :
    validateEntries field text known entries = .ok () ↔ ∀ id ∈ entries, id ∈ known := by
  rw [validateEntries, forM_eq_ok_iff]
  refine forall₂_congr fun id _ => ?_
  rw [firstError_eq_ok_iff, List.forall_mem_singleton, decide_eq_false_iff_not, not_not]

theorem located_eq_nil_iff {firId : FlightInformationRegionId} {item : String}
    {result : Except CoverageError Unit} : located firId item result = [] ↔ result = .ok () := by
  cases result with
  | ok _ => exact iff_of_true rfl rfl
  | error error => simp [located]

variable {order : LoadOrder} {firs : List FlightInformationRegionRaw}
  {fir : FlightInformationRegionRaw}

theorem mem_profileEntries {entry : FlightInformationRegionId × ProfileId × Layout.Profile} :
    entry ∈ fir.profileEntries order ↔
      entry.1 = fir.id ∧ fir.profiles.lookup entry.2.1 = some entry.2.2 := by
  obtain ⟨firId, key, profile⟩ := entry
  simp only [FlightInformationRegionRaw.profileEntries, List.mem_flatMap, Enumeration.mem_list,
    List.mem_map, Option.mem_toList, Prod.mk.injEq, Finmap.mem_keys_iff_lookup]
  constructor
  · rintro ⟨_, _, _, found, rfl, rfl, rfl⟩
    exact ⟨rfl, found⟩
  · rintro ⟨rfl, found⟩
    exact ⟨key, ⟨profile, found⟩, profile, found, rfl, rfl, rfl⟩

/-- The references of a region are right exactly if the names it uses exist. -/
theorem referenceErrors_eq_nil_iff :
    referenceErrors order firs fir = [] ↔
      (∀ station ∈ fir.stations, ∀ positionId ∈ station.controlledBy,
        positionId ∈ allPositionIds firs) ∧
      (∀ position ∈ fir.positions,
        (∀ profileId ∈ position.profileId, profileId ∈ allProfileIds firs) ∧
          ∀ stationId ∈ position.defaultCallSources, stationId ∈ allStationIds firs) ∧
      ∀ key profile, fir.profiles.lookup key = some profile →
        profile.validateReferences (allStationIds firs) = .ok () := by
  simp only [referenceErrors, List.append_eq_nil_iff, List.flatMap_eq_nil_iff, located_eq_nil_iff,
    StationRaw.validateReferences, PositionRaw.validateProfile, PositionRaw.validateStations,
    validateEntries_eq_ok_iff, Option.mem_toList, mem_profileEntries, and_assoc]
  refine and_congr_right fun _ => and_congr_right fun _ => ?_
  constructor
  · intro valid key profile found
    exact valid (fir.id, key, profile) ⟨rfl, found⟩
  · rintro valid ⟨_, key, profile⟩ ⟨_, found⟩
    exact valid key profile found

end References

/-! ## Unique identifiers -/

section Unique

variable {digit : Char → Bool} {order : LoadOrder} {firs : List FlightInformationRegionRaw}

theorem keys_stationEntries (all : StationTable) :
    (firs.flatMap FlightInformationRegionRaw.stationEntries).map (stationEntering all).key =
      (firs.flatMap FlightInformationRegionRaw.stations).map StationRaw.id := by
  rw [List.map_flatMap, List.map_flatMap]
  congr 1
  funext fir
  exact List.map_map ..

theorem keys_positionEntries :
    (firs.flatMap FlightInformationRegionRaw.positionEntries).map (positionEntering digit).key =
      (firs.flatMap FlightInformationRegionRaw.positions).map PositionRaw.id := by
  rw [List.map_flatMap, List.map_flatMap]
  congr 1
  funext fir
  exact List.map_map ..

theorem keys_profileEntries (fir : FlightInformationRegionRaw) :
    (fir.profileEntries order).map profileEntering.key =
      order.profiles.list fir.profiles.keys := by
  have own : ∀ key ∈ order.profiles.list fir.profiles.keys,
      (((fir.profiles.lookup key).toList.map fun profile => (fir.id, key, profile)).map
        profileEntering.key) = [key] := by
    intro key member
    rw [Enumeration.mem_list, Finmap.mem_keys_iff_lookup] at member
    obtain ⟨profile, found⟩ := member
    rw [found]
    rfl
  rw [FlightInformationRegionRaw.profileEntries, List.map_flatMap, List.flatMap_congr own,
    List.flatMap_singleton']

theorem nodup_profileEntries_iff :
    ((firs.flatMap (FlightInformationRegionRaw.profileEntries order)).map
      profileEntering.key).Nodup ↔
        firs.Pairwise fun first second => Disjoint first.profiles.keys second.profiles.keys := by
  rw [List.map_flatMap, List.nodup_flatMap]
  constructor
  · rintro ⟨_, apart⟩
    refine apart.imp ?_
    intro first second disjoint
    rw [Finset.disjoint_left]
    intro key isFirst isSecond
    simp only [Function.onFun, keys_profileEntries] at disjoint
    exact disjoint ((order.profiles.mem_list _ _).mpr isFirst)
      ((order.profiles.mem_list _ _).mpr isSecond)
  · intro apart
    refine ⟨?_, apart.imp ?_⟩
    · intro fir _
      rw [keys_profileEntries]
      exact order.profiles.nodup_list _
    · intro first second disjoint
      simp only [Function.onFun, keys_profileEntries]
      intro key isFirst isSecond
      exact Finset.disjoint_left.mp disjoint ((order.profiles.mem_list _ _).mp isFirst)
        ((order.profiles.mem_list _ _).mp isSecond)

/-- The items of a dataset are entered without errors exactly if the identifiers are unique, every
item is accepted and the references are right. -/
theorem clean_iff :
    Clean digit order firs .empty firs ↔
      UniqueIds firs ∧
        (∀ fir ∈ firs, referenceErrors order firs fir = []) ∧
        (∀ fir ∈ firs, fir.validate = .ok ()) ∧
        (∀ fir ∈ firs, ∀ raw ∈ fir.positions,
          ∃ position, (positionEntering digit).parse (fir.id, raw) = .ok position) ∧
        ∀ fir ∈ firs, ∀ raw ∈ fir.stations,
          ∃ station, (stationEntering (allStations firs)).parse (fir.id, raw) = .ok station := by
  constructor
  · intro clean
    obtain ⟨firIds, _, firsValid⟩ := (fill_clean_iff reports_firEntering _ _).mp clean.regions
    obtain ⟨positionIds, _, positions⟩ :=
      (fill_clean_iff (reports_positionEntering digit) _ _).mp clean.positions
    obtain ⟨stationIds, _, stations⟩ :=
      (fill_clean_iff (reports_stationEntering _) _ _).mp clean.stations
    obtain ⟨profileIds, _, _⟩ := (fill_clean_iff reports_profileEntering _ _).mp clean.profiles
    rw [keys_positionEntries] at positionIds
    rw [keys_stationEntries] at stationIds
    refine ⟨⟨firIds, stationIds, positionIds, nodup_profileEntries_iff.mp profileIds⟩,
      clean.references, ?_, ?_, ?_⟩
    · intro fir isFir
      exact parse_firEntering_iff.mp (firsValid fir isFir)
    · intro fir isFir raw listed
      exact positions (fir.id, raw) (List.mem_flatMap.mpr
        ⟨fir, isFir, List.mem_map.mpr ⟨raw, listed, rfl⟩⟩)
    · intro fir isFir raw listed
      exact stations (fir.id, raw) (List.mem_flatMap.mpr
        ⟨fir, isFir, List.mem_map.mpr ⟨raw, listed, rfl⟩⟩)
  · rintro ⟨unique, references, firsValid, positions, stations⟩
    refine ⟨rfl, references, ?_, ?_, ?_, ?_⟩
    · apply (fill_clean_iff reports_firEntering _ _).mpr
      refine ⟨unique.firIds, fun _ _ => Finmap.lookup_empty _, ?_⟩
      intro fir isFir
      exact parse_firEntering_iff.mpr (firsValid fir isFir)
    · apply (fill_clean_iff (reports_positionEntering digit) _ _).mpr
      refine ⟨?_, fun _ _ => Finmap.lookup_empty _, ?_⟩
      · rw [keys_positionEntries]
        exact unique.positionIds
      · intro entry listed
        obtain ⟨fir, isFir, listed⟩ := List.mem_flatMap.mp listed
        obtain ⟨raw, isRaw, rfl⟩ := List.mem_map.mp listed
        exact positions fir isFir raw isRaw
    · apply (fill_clean_iff (reports_stationEntering _) _ _).mpr
      refine ⟨?_, fun _ _ => Finmap.lookup_empty _, ?_⟩
      · rw [keys_stationEntries]
        exact unique.stationIds
      · intro entry listed
        obtain ⟨fir, isFir, listed⟩ := List.mem_flatMap.mp listed
        obtain ⟨raw, isRaw, rfl⟩ := List.mem_map.mp listed
        exact stations fir isFir raw isRaw
    · apply (fill_clean_iff reports_profileEntering _ _).mpr
      exact ⟨nodup_profileEntries_iff.mpr unique.profileIds, fun _ _ => Finmap.lookup_empty _,
        fun entry _ => ⟨entry.2.2, rfl⟩⟩

end Unique

/-! ## The tables -/

section Tables

variable {digit : Char → Bool} {order : LoadOrder} {firs : List FlightInformationRegionRaw}

theorem load_eq_ok_iff {network : LoadedNetwork} :
    load digit order firs = .ok network ↔
      Clean digit order firs .empty firs ∧
        (∀ key station, (filled digit order firs .empty firs).stations.lookup key = some station →
          ∀ positionId ∈ station.controlledBy, ∃ position,
            (filled digit order firs .empty firs).positions.lookup positionId = some position) ∧
        network =
          { firs := (filled digit order firs .empty firs).firs
            positions := (linkPositions
              (stationValues order (filled digit order firs .empty firs).stations)
              ((filled digit order firs .empty firs).positions, [])).1
            stations := (filled digit order firs .empty firs).stations
            profiles := (filled digit order firs .empty firs).profiles } := by
  unfold load
  by_cases clean : Clean digit order firs .empty firs
  · rw [foldl_of_clean clean]
    have noErrors : (filled digit order firs .empty firs).errors = [] := rfl
    simp only [noErrors, clean, true_and]
    have known : (∀ key station,
        (filled digit order firs .empty firs).stations.lookup key = some station →
          ∀ positionId ∈ station.controlledBy, ∃ position,
            (filled digit order firs .empty firs).positions.lookup positionId = some position) ↔
        (linkPositions (stationValues order (filled digit order firs .empty firs).stations)
          ((filled digit order firs .empty firs).positions, [])).2 = [] := by
      rw [errors_linkPositions_iff]
      simp only [mem_stationValues, true_and, forall_exists_index]
      exact forall_comm
    rw [known]
    split
    · rename_i errors
      exact iff_of_false (fun isOk => nomatch isOk) fun both => errors both.1
    · rename_i linked
      rw [not_not] at linked
      rw [Except.ok.injEq, and_iff_right linked]
      exact eq_comm
  · have errors : ((firs.foldl (loadFir digit order firs) .empty)).errors ≠ [] :=
      fun none => clean (foldl_clean_iff.mp none)
    have linkedErrors : (linkPositions
        (stationValues order (firs.foldl (loadFir digit order firs) .empty).stations)
        ((firs.foldl (loadFir digit order firs) .empty).positions,
          (firs.foldl (loadFir digit order firs) .empty).errors)).2 ≠ [] :=
      fun none => errors ((errors_linkPositions_iff _ _).mp none).1
    simp only [ne_eq, linkedErrors, not_false_eq_true, if_true, clean, false_and, reduceCtorEq]

/-- The items of all regions, entered into an empty table. -/
theorem lookup_fill_regions {Id Raw Entry : Type} [DecidableEq Id]
    {entering : Entering Id (FlightInformationRegionId × Raw) Entry CoverageError}
    (reports : entering.Reports) {items : FlightInformationRegionRaw → List Raw}
    (clean : (fill entering ∅ (firs.flatMap fun fir => (items fir).map (fir.id, ·))).2 = [])
    {key : Id} {entry : Entry} :
    (fill entering ∅ (firs.flatMap fun fir => (items fir).map (fir.id, ·))).1.lookup key =
        some entry ↔
      ∃ fir ∈ firs, ∃ raw ∈ items fir, entering.key (fir.id, raw) = key ∧
        entering.parse (fir.id, raw) = .ok entry := by
  rw [lookup_fill reports clean]
  simp only [Finmap.lookup_empty, reduceCtorEq, false_or, List.mem_flatMap, List.mem_map]
  constructor
  · rintro ⟨_, ⟨fir, isFir, raw, listed, rfl⟩, same, parsed⟩
    exact ⟨fir, isFir, raw, listed, same, parsed⟩
  · rintro ⟨fir, isFir, raw, listed, same, parsed⟩
    exact ⟨(fir.id, raw), ⟨fir, isFir, raw, listed, rfl⟩, same, parsed⟩

theorem mem_keys_fill_regions {Id Raw Entry : Type} [DecidableEq Id]
    {entering : Entering Id (FlightInformationRegionId × Raw) Entry CoverageError}
    (reports : entering.Reports) {items : FlightInformationRegionRaw → List Raw}
    (clean : (fill entering ∅ (firs.flatMap fun fir => (items fir).map (fir.id, ·))).2 = [])
    {key : Id} :
    key ∈ (fill entering ∅ (firs.flatMap fun fir => (items fir).map (fir.id, ·))).1.keys ↔
      ∃ fir ∈ firs, ∃ raw ∈ items fir, entering.key (fir.id, raw) = key := by
  rw [Finmap.mem_keys_iff_lookup]
  constructor
  · rintro ⟨entry, found⟩
    obtain ⟨fir, isFir, raw, listed, same, _⟩ := (lookup_fill_regions reports clean).mp found
    exact ⟨fir, isFir, raw, listed, same⟩
  · rintro ⟨fir, isFir, raw, listed, rfl⟩
    have member : (fir.id, raw) ∈ firs.flatMap fun fir => (items fir).map (fir.id, ·) :=
      List.mem_flatMap.mpr ⟨fir, isFir, List.mem_map.mpr ⟨raw, listed, rfl⟩⟩
    obtain ⟨entry, _, found⟩ := lookup_fill_key reports clean member
    exact ⟨entry, found⟩

variable (clean : Clean digit order firs .empty firs)
include clean

theorem lookup_stations {key : StationId} {station : LoadedStation} :
    (filled digit order firs .empty firs).stations.lookup key = some station ↔
      ∃ fir ∈ firs, ∃ raw ∈ fir.stations, raw.id = key ∧
        (stationEntering (allStations firs)).parse (fir.id, raw) = .ok station :=
  lookup_fill_regions (reports_stationEntering _) clean.stations

theorem lookup_positions {key : PositionId} {position : LoadedPosition} :
    (filled digit order firs .empty firs).positions.lookup key = some position ↔
      ∃ fir ∈ firs, ∃ raw ∈ fir.positions, raw.id = key ∧
        (positionEntering digit).parse (fir.id, raw) = .ok position :=
  lookup_fill_regions (reports_positionEntering digit) clean.positions

theorem lookup_profiles {key : ProfileId} {profile : Layout.Profile} :
    (filled digit order firs .empty firs).profiles.lookup key = some profile ↔
      ∃ fir ∈ firs, fir.profiles.lookup key = some profile := by
  rw [filled, lookup_fill reports_profileEntering clean.profiles]
  simp only [LoadState.empty, Finmap.lookup_empty, reduceCtorEq, false_or, List.mem_flatMap,
    mem_profileEntries, profileEntering, Except.ok.injEq]
  constructor
  · rintro ⟨_, ⟨fir, isFir, _, found⟩, rfl, rfl⟩
    exact ⟨fir, isFir, found⟩
  · rintro ⟨fir, isFir, found⟩
    exact ⟨(fir.id, key, profile), ⟨fir, isFir, rfl, found⟩, rfl, rfl⟩

/-- The regions of the table are those of the dataset. -/
theorem keys_firs :
    (filled digit order firs .empty firs).firs.keys =
      (firs.map FlightInformationRegionRaw.id).toFinset := by
  ext key
  rw [Finmap.mem_keys_iff_lookup, List.mem_toFinset, List.mem_map, filled]
  constructor
  · rintro ⟨fir, found⟩
    rcases (lookup_fill reports_firEntering clean.regions _ _).mp found with
      absent | ⟨raw, isFir, same, _⟩
    · simp only [LoadState.empty, Finmap.lookup_empty, reduceCtorEq] at absent
    · exact ⟨raw, isFir, same⟩
  · rintro ⟨raw, isFir, rfl⟩
    obtain ⟨fir, _, found⟩ := lookup_fill_key reports_firEntering clean.regions isFir
    exact ⟨fir, found⟩

theorem keys_stations :
    (filled digit order firs .empty firs).stations.keys = allStationIds firs := by
  ext key
  rw [mem_allStationIds]
  exact mem_keys_fill_regions (reports_stationEntering _) clean.stations

theorem keys_positions :
    (filled digit order firs .empty firs).positions.keys = allPositionIds firs := by
  ext key
  rw [mem_allPositionIds]
  exact mem_keys_fill_regions (reports_positionEntering digit) clean.positions

theorem keys_profiles :
    (filled digit order firs .empty firs).profiles.keys = allProfileIds firs := by
  ext key
  rw [Finmap.mem_keys_iff_lookup, mem_allProfileIds]
  simp only [lookup_profiles clean]
  constructor
  · rintro ⟨profile, fir, isFir, found⟩
    exact ⟨fir, isFir, profile, found⟩
  · rintro ⟨fir, isFir, profile, found⟩
    exact ⟨profile, fir, isFir, found⟩

/-- A station of the table was read from the dataset. -/
theorem station_of_lookup {key : StationId} {station : LoadedStation}
    (found : (filled digit order firs .empty firs).stations.lookup key = some station) :
    station.id = key ∧ station.controlledBy ≠ [] ∧
      ∃ raw : StationRaw, raw.resolveControlledBy (allStations firs) = .ok station.controlledBy := by
  obtain ⟨fir, _, raw, _, same, parsed⟩ := (lookup_stations clean).mp found
  obtain ⟨_, controlledBy, resolved, covered, rfl⟩ := parse_stationEntering_iff.mp parsed
  exact ⟨same, covered, raw, resolved⟩

/-- The stations that list a position of the table. -/
theorem mem_listing_stationValues {key : PositionId} {stationId : StationId} :
    stationId ∈ listing key
        (listings (stationValues order (filled digit order firs .empty firs).stations)) ↔
      ∃ station, (filled digit order firs .empty firs).stations.lookup stationId = some station ∧
        key ∈ station.controlledBy := by
  simp only [mem_listing, mem_listings, mem_stationValues]
  constructor
  · rintro ⟨station, ⟨⟨other, found⟩, listed⟩, rfl⟩
    have same := (station_of_lookup clean found).1
    exact ⟨station, same ▸ found, listed⟩
  · rintro ⟨station, found, listed⟩
    exact ⟨station, ⟨⟨stationId, found⟩, listed⟩, (station_of_lookup clean found).1⟩

end Tables

/-! ## Soundness of loading -/

section Sound

variable {digit : Char → Bool} {order : LoadOrder} {firs : List FlightInformationRegionRaw}

/-- A position of a loaded network was read from the dataset and given its stations. -/
theorem lookup_linked (clean : Clean digit order firs .empty firs) {key : PositionId}
    {position : LoadedPosition}
    (found : (linkPositions (stationValues order (filled digit order firs .empty firs).stations)
      ((filled digit order firs .empty firs).positions, [])).1.lookup key = some position) :
    position.id = key ∧
      (∃ fir ∈ firs, ∃ raw ∈ fir.positions, raw.profileId = position.profileId ∧
        raw.defaultCallSources = position.defaultCallSources) ∧
      position.controlledStations = listing key
        (listings (stationValues order (filled digit order firs .empty firs).stations)) := by
  rw [lookup_linkPositions] at found
  obtain ⟨entered, present, rfl⟩ := Option.map_eq_some_iff.mp found
  obtain ⟨fir, isFir, raw, listed, same, parsed⟩ := (lookup_positions clean).mp present
  obtain ⟨_, rfl⟩ := parse_positionEntering_iff.mp parsed
  exact ⟨same, ⟨fir, isFir, raw, listed, rfl, rfl⟩, Finset.empty_union _⟩

theorem referentiallySound_of_load {network : LoadedNetwork}
    (loaded : load digit order firs = .ok network) : ReferentiallySound firs network := by
  obtain ⟨clean, known, rfl⟩ := load_eq_ok_iff.mp loaded
  obtain ⟨unique, references, _, _, _⟩ := clean_iff.mp clean
  have linkedKeys : ∀ key, (∃ position, (linkPositions
      (stationValues order (filled digit order firs .empty firs).stations)
        ((filled digit order firs .empty firs).positions, [])).1.lookup key = some position) ↔
      ∃ position, (filled digit order firs .empty firs).positions.lookup key = some position := by
    intro key
    simp only [← Option.isSome_iff_exists, lookup_linkPositions, Option.isSome_map]
  refine
    { unique := unique
      firKeys := keys_firs clean
      stationKeys := keys_stations clean
      positionKeys := ?_
      profileKeys := keys_profiles clean
      stationId := fun key station found => (station_of_lookup clean found).1
      positionId := fun key position found => (lookup_linked clean found).1
      covered := ?_
      controlledBy := ?_
      controlledStations := ?_
      profileId := ?_
      defaultCallSources := ?_ }
  · rw [← keys_positions clean]
    ext key
    rw [Finmap.mem_keys_iff_lookup, Finmap.mem_keys_iff_lookup, linkedKeys]
  · intro key station found
    obtain ⟨_, covered, _, resolved⟩ := station_of_lookup clean found
    exact ⟨covered, nodup_of_resolveControlledBy resolved⟩
  · intro key station found positionId listed
    exact Finmap.mem_iff.mpr ((linkedKeys positionId).mpr
      (known key station found positionId listed))
  · intro key position found stationId
    obtain ⟨_, _, stations⟩ := lookup_linked clean found
    rw [stations]
    exact mem_listing_stationValues clean
  · intro key position found profileId named
    obtain ⟨_, ⟨fir, isFir, raw, listed, sameProfile, _⟩, _⟩ := lookup_linked clean found
    obtain ⟨_, positions, _⟩ := referenceErrors_eq_nil_iff.mp (references fir isFir)
    rw [← Finmap.mem_keys, keys_profiles clean]
    exact (positions raw listed).1 profileId (sameProfile ▸ named)
  · intro key position found stationId named
    obtain ⟨_, ⟨fir, isFir, raw, listed, _, sameSources⟩, _⟩ := lookup_linked clean found
    obtain ⟨_, positions, _⟩ := referenceErrors_eq_nil_iff.mp (references fir isFir)
    rw [← Finmap.mem_keys, keys_stations clean]
    exact (positions raw listed).2 stationId (sameSources ▸ named)

/-- The stations of the dataset are resolved if their parents end. -/
theorem resolved_of_loadable (loadable : Loadable digit firs) {fir : FlightInformationRegionRaw}
    (isFir : fir ∈ firs) {raw : StationRaw} (listed : raw ∈ fir.stations) :
    ∃ controlledBy, raw.resolveControlledBy (allStations firs) = .ok controlledBy ∧
      controlledBy ≠ [] ∧ ∀ positionId ∈ controlledBy, positionId ∈ allPositionIds firs := by
  obtain ⟨chain, isChain, covering, isCovering, lists⟩ := loadable.chains fir isFir raw listed
  have found := lookup_allStations loadable.unique isFir listed
  obtain ⟨controlledBy, resolved, collected⟩ :=
    resolveControlledBy_of_chain isChain found keyed_allStations
  refine ⟨controlledBy, resolved, ?_, ?_⟩
  · intro none
    obtain ⟨positionId, isListed⟩ := List.exists_mem_of_ne_nil _ lists
    have isCollected := (collected positionId).mpr ⟨covering, isCovering, isListed⟩
    rw [none] at isCollected
    exact List.not_mem_nil isCollected
  · intro positionId isCollected
    obtain ⟨member, inChain, isListed⟩ := (collected positionId).mp isCollected
    obtain ⟨owner, isOwner, owned⟩ :=
      mem_of_lookup_allStations (isChain.lookup found keyed_allStations member inChain)
    exact loadable.controlledBy owner isOwner member owned positionId isListed

theorem load_of_loadable (order : LoadOrder) (loadable : Loadable digit firs) :
    ∃ network, load digit order firs = .ok network := by
  have clean : Clean digit order firs .empty firs := by
    refine clean_iff.mpr ⟨loadable.unique, ?_, loadable.firsValid, ?_, ?_⟩
    · intro fir isFir
      exact referenceErrors_eq_nil_iff.mpr ⟨loadable.controlledBy fir isFir,
        fun position listed => ⟨loadable.profileId fir isFir position listed,
          loadable.defaultCallSources fir isFir position listed⟩,
        loadable.profilesValid fir isFir⟩
    · intro fir isFir raw listed
      exact ⟨_, parse_positionEntering_iff.mpr ⟨loadable.positionsValid fir isFir raw listed, rfl⟩⟩
    · intro fir isFir raw listed
      obtain ⟨controlledBy, resolved, covered, _⟩ := resolved_of_loadable loadable isFir listed
      exact ⟨_, parse_stationEntering_iff.mpr ⟨loadable.stationsValid fir isFir raw listed,
        controlledBy, resolved, covered, rfl⟩⟩
  refine ⟨_, load_eq_ok_iff.mpr ⟨clean, ?_, rfl⟩⟩
  intro key station found positionId listed
  obtain ⟨fir, isFir, raw, isRaw, _, parsed⟩ := (lookup_stations clean).mp found
  obtain ⟨_, controlledBy, resolved, _, rfl⟩ := parse_stationEntering_iff.mp parsed
  obtain ⟨other, resolvedToo, _, known⟩ := resolved_of_loadable loadable isFir isRaw
  rw [resolved] at resolvedToo
  cases resolvedToo
  rw [← Finmap.mem_keys_iff_lookup, keys_positions clean]
  exact known positionId listed

/-- What is loaded is sound, and a dataset without errors is loaded. -/
theorem load_sound (digit : Char → Bool) (order : LoadOrder)
    (firs : List FlightInformationRegionRaw) :
    (∀ network, load digit order firs = .ok network → ReferentiallySound firs network) ∧
      (Loadable digit firs → ∃ network, load digit order firs = .ok network) :=
  ⟨fun _ => referentiallySound_of_load, load_of_loadable order⟩

end Sound

/-- Every position of the dataset is loaded with its data. -/
theorem position_of_load {digit : Char → Bool} {order : LoadOrder}
    {firs : List FlightInformationRegionRaw} {network : LoadedNetwork}
    (loaded : load digit order firs = .ok network) {fir : FlightInformationRegionRaw}
    (isFir : fir ∈ firs) {raw : PositionRaw} (listed : raw ∈ fir.positions) :
    ∃ stations, network.positions.lookup raw.id = some
      { id := raw.id, prefixes := raw.prefixes, frequency := raw.frequency,
        facilityType := raw.facilityType, profileId := raw.profileId,
        defaultCallSources := raw.defaultCallSources, controlledStations := stations,
        firId := fir.id } := by
  obtain ⟨clean, _, rfl⟩ := load_eq_ok_iff.mp loaded
  obtain ⟨_, _, _, positions, _⟩ := clean_iff.mp clean
  obtain ⟨entered, parsed⟩ := positions fir isFir raw listed
  have present := (lookup_positions clean).mpr ⟨fir, isFir, raw, listed, rfl, parsed⟩
  obtain ⟨_, rfl⟩ := parse_positionEntering_iff.mp parsed
  have linked := lookup_linkPositions ((filled digit order firs .empty firs).positions, [])
    (stationValues order (filled digit order firs .empty firs).stations) raw.id
  rw [present] at linked
  exact ⟨_, linked⟩

/-! ## The network of the other modules -/

/-- A loaded network, without the regions and what only loading reads. -/
def LoadedNetwork.toNetwork {firs : List FlightInformationRegionRaw} (network : LoadedNetwork)
    (sound : ReferentiallySound firs network) : Network where
  positions := network.positions.filterMap fun _ position => some position.toPosition
  stations := network.stations.filterMap fun _ station => some station.toStation
  profiles := network.profiles.filterMap fun _ profile => some profile.toProfile
  positionId key position found := by
    rw [Finmap.lookup_filterMap] at found
    obtain ⟨entry, isEntry, same⟩ := Option.bind_eq_some_iff.mp found
    cases same
    exact sound.positionId key entry isEntry
  stationId key station found := by
    rw [Finmap.lookup_filterMap] at found
    obtain ⟨entry, isEntry, same⟩ := Option.bind_eq_some_iff.mp found
    cases same
    exact sound.stationId key entry isEntry
  controlledStations key position found stationKey := by
    rw [Finmap.lookup_filterMap] at found
    obtain ⟨entry, isEntry, same⟩ := Option.bind_eq_some_iff.mp found
    cases same
    rw [sound.controlledStations key entry isEntry]
    simp only [Finmap.lookup_filterMap, Option.bind_eq_some_iff, Option.some.injEq]
    constructor
    · rintro ⟨station, isStation, listed⟩
      exact ⟨station.toStation, ⟨station, isStation, rfl⟩, listed⟩
    · rintro ⟨_, ⟨station, isStation, rfl⟩, listed⟩
      exact ⟨station, isStation, listed⟩

/-- The network that a dataset is loaded to. -/
def networkOf {digit : Char → Bool} {order : LoadOrder} {firs : List FlightInformationRegionRaw}
    {loaded : LoadedNetwork} (isLoaded : load digit order firs = .ok loaded) : Network :=
  loaded.toNetwork (referentiallySound_of_load isLoaded)

/-! ### A region with a tower below a centre -/

/-- The tower is covered by its own position, then by that of the centre. -/
def viennaTower : StationRaw where
  id := ⟨"LOWW_TWR"⟩
  parentId := some ⟨"LOVV_CTR"⟩
  controlledBy := [⟨"LOWW_TWR"⟩]

def viennaCentre : StationRaw where
  id := ⟨"LOVV_CTR"⟩
  parentId := none
  controlledBy := [⟨"LOVV_CTR"⟩]

def viennaProfile : Layout.Profile where
  id := ⟨"TOWER"⟩
  view := .page
  profileType := .tabbed [{ label := ["Tower"], page := .mk 1 (.keys
    [.mk ["Tower"] (some ⟨"LOWW_TWR"⟩) none, .mk ["Centre"] (some ⟨"LOVV_CTR"⟩) none]) }]
  relevantStationIds := {⟨"LOWW_TWR"⟩, ⟨"LOVV_CTR"⟩}

def viennaRegion : FlightInformationRegionRaw where
  id := ⟨"LOVV"⟩
  stations := [viennaTower, viennaCentre]
  positions := [
    { id := ⟨"LOWW_TWR"⟩, prefixes := {"LOWW"}, frequency := "119.400", facilityType := .tower,
      profileId := some ⟨"TOWER"⟩, defaultCallSources := [⟨"LOWW_TWR"⟩] },
    { id := ⟨"LOVV_CTR"⟩, prefixes := {"LOVV"}, frequency := "134.350", facilityType := .enroute,
      profileId := none, defaultCallSources := [] }]
  profiles := (∅ : HashMap ProfileId Layout.Profile).insert ⟨"TOWER"⟩ viennaProfile

theorem loadable_viennaRegion : Loadable Char.isDigit [viennaRegion] := by
  have centre : ParentChain (allStations [viennaRegion]) viennaCentre [viennaCentre] := .root rfl
  have tower : ParentChain (allStations [viennaRegion]) viennaTower [viennaTower, viennaCentre] :=
    .parent rfl (by decide +kernel) centre
  refine
    { unique := ⟨by decide +kernel, by decide +kernel, by decide +kernel,
        List.pairwise_singleton _ _⟩
      firsValid := List.forall_mem_singleton.mpr rfl
      stationsValid := List.forall_mem_singleton.mpr ?_
      positionsValid := List.forall_mem_singleton.mpr ?_
      profilesValid := List.forall_mem_singleton.mpr ?_
      chains := List.forall_mem_singleton.mpr ?_
      controlledBy := List.forall_mem_singleton.mpr (by decide +kernel)
      profileId := List.forall_mem_singleton.mpr (by decide +kernel)
      defaultCallSources := List.forall_mem_singleton.mpr (by decide +kernel) }
  · intro station listed
    rcases List.mem_pair.mp listed with rfl | rfl <;> rfl
  · intro position listed
    rcases List.mem_pair.mp listed with rfl | rfl <;> rfl
  · intro key profile found
    simp only [viennaRegion, Finmap.lookup_insert_eq, Finmap.lookup_empty] at found
    split at found
    · cases found
      rfl
    · cases found
  · intro station listed
    rcases List.mem_pair.mp listed with rfl | rfl
    · exact ⟨_, tower, viennaTower, List.mem_cons_self .., List.cons_ne_nil _ _⟩
    · exact ⟨_, centre, viennaCentre, List.mem_singleton_self _, List.cons_ne_nil _ _⟩

theorem load_sound_vienna :
    ∃ network, load Char.isDigit ⟨.increasing ProfileId, .increasing StationId⟩ [viennaRegion] =
      .ok network ∧ ReferentiallySound [viennaRegion] network := by
  obtain ⟨sound, loads⟩ :=
    load_sound Char.isDigit ⟨.increasing ProfileId, .increasing StationId⟩ [viennaRegion]
  obtain ⟨network, loaded⟩ := loads loadable_viennaRegion
  exact ⟨network, loaded, sound network loaded⟩

/-! ### A profile that names a station of nobody -/

/-- A dataset as in `Loadable`, whatever stations its profiles name. -/
structure LoadableItems (digit : Char → Bool) (firs : List FlightInformationRegionRaw) : Prop where
  unique : UniqueIds firs
  firsValid : ∀ fir ∈ firs, fir.validate = .ok ()
  stationsValid : ∀ fir ∈ firs, ∀ station ∈ fir.stations, station.validate = .ok ()
  positionsValid : ∀ fir ∈ firs, ∀ position ∈ fir.positions, position.validate digit = .ok ()
  chains : ∀ fir ∈ firs, ∀ station ∈ fir.stations, ∃ chain,
    ParentChain (allStations firs) station chain ∧ ∃ member ∈ chain, member.controlledBy ≠ []
  controlledBy : ∀ fir ∈ firs, ∀ station ∈ fir.stations,
    ∀ positionId ∈ station.controlledBy, positionId ∈ allPositionIds firs
  profileId : ∀ fir ∈ firs, ∀ position ∈ fir.positions,
    ∀ profileId ∈ position.profileId, profileId ∈ allProfileIds firs
  defaultCallSources : ∀ fir ∈ firs, ∀ position ∈ fir.positions,
    ∀ stationId ∈ position.defaultCallSources, stationId ∈ allStationIds firs

/-- The profile of the tower has a key for a station that no region has. -/
def strangerProfile : Layout.Profile :=
  { viennaProfile with
    profileType := .tabbed [{ label := ["Tower"], page := .mk 1 (.keys
      [.mk ["Ground"] (some ⟨"LOWW_GND"⟩) none]) }]
    relevantStationIds := {⟨"LOWW_GND"⟩} }

def strangerRegion : FlightInformationRegionRaw :=
  { viennaRegion with
    profiles := (∅ : HashMap ProfileId Layout.Profile).insert ⟨"TOWER"⟩ strangerProfile }

theorem loadableItems_strangerRegion : LoadableItems Char.isDigit [strangerRegion] where
  unique := ⟨by decide +kernel, by decide +kernel, by decide +kernel, List.pairwise_singleton _ _⟩
  firsValid := List.forall_mem_singleton.mpr rfl
  stationsValid := List.forall_mem_singleton.mpr
    (List.forall_mem_singleton.mp loadable_viennaRegion.stationsValid)
  positionsValid := List.forall_mem_singleton.mpr
    (List.forall_mem_singleton.mp loadable_viennaRegion.positionsValid)
  chains := List.forall_mem_singleton.mpr (List.forall_mem_singleton.mp loadable_viennaRegion.chains)
  controlledBy := List.forall_mem_singleton.mpr (by decide +kernel)
  profileId := List.forall_mem_singleton.mpr (by decide +kernel)
  defaultCallSources := List.forall_mem_singleton.mpr (by decide +kernel)

/-- A dataset with such a profile is refused, whatever else is right with it. -/
theorem load_refuses_stranger :
    ¬ ∀ (digit : Char → Bool) (order : LoadOrder) (firs : List FlightInformationRegionRaw),
      LoadableItems digit firs → ∃ network, load digit order firs = .ok network := by
  intro always
  obtain ⟨network, loaded⟩ := always _ ⟨.increasing ProfileId, .increasing StationId⟩ _
    loadableItems_strangerRegion
  obtain ⟨clean, -⟩ := load_eq_ok_iff.mp loaded
  have references := (clean_iff.mp clean).2.1 strangerRegion (List.mem_singleton_self _)
  have valid := (referenceErrors_eq_nil_iff.mp references).2.2 ⟨"TOWER"⟩ strangerProfile
    (Finmap.lookup_insert _)
  have refused : (strangerProfile.validateReferences (allStationIds [strangerRegion])).toOption =
      none := by decide +kernel
  rw [valid] at refused
  cases refused

end Loading

end Vacs
