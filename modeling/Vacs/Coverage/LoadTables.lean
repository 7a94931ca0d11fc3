import Vacs.Coverage.Inheritance

/-!
# The tables of a dataset

Loading walks the regions once and enters their items into tables. The errors of the
regions are those of the tables that are filled with all items and those of the
references (`foldl_clean_iff`), and without errors the tables hold all items
(`foldl_of_clean`). Every position then gets the stations that list it
(`lookup_linkPositions`), which fails only for a position that does not exist
(`errors_linkPositions_iff`).
-/

set_option autoImplicit false

namespace Vacs

open Checks CheckedTables

namespace Loading

/-! ## What the tables report -/

section Reports

theorem reports_firEntering : firEntering.Reports := by
  intro raw errors refused
  simp only [firEntering] at refused
  cases parsed : FlightInformationRegion.tryFrom raw with
  | ok fir =>
      rw [parsed] at refused
      cases refused
  | error error =>
      rw [parsed] at refused
      cases refused
      exact List.cons_ne_nil _ _

theorem reports_positionEntering (digit : Char → Bool) : (positionEntering digit).Reports := by
  intro raw errors refused
  simp only [positionEntering] at refused
  cases parsed : LoadedPosition.fromRaw digit raw.2 raw.1 with
  | ok position =>
      rw [parsed] at refused
      cases refused
  | error error =>
      rw [parsed] at refused
      cases refused
      exact List.cons_ne_nil _ _

theorem errors_ne_nil_of_resolveControlledBy {all : StationTable} {raw : StationRaw}
    {errors : List CoverageError} (refused : raw.resolveControlledBy all = .error errors) :
    errors ≠ [] := by
  unfold StationRaw.resolveControlledBy at refused
  simp only at refused
  split at refused
  · cases refused
  · rename_i found
    cases refused
    exact found

/-- What a station of the dataset becomes. -/
theorem fromRaw_eq_ok_iff {all : StationTable} {raw : StationRaw}
    {firId : FlightInformationRegionId} {station : LoadedStation} :
    LoadedStation.fromRaw all raw firId = .ok station ↔
      raw.validate = .ok () ∧ ∃ controlledBy, raw.resolveControlledBy all = .ok controlledBy ∧
        station =
          { id := raw.id, parentId := raw.parentId, controlledBy := controlledBy,
            firId := firId } := by
  unfold LoadedStation.fromRaw
  cases raw.validate with
  | error error => simp
  | ok _ =>
      cases raw.resolveControlledBy all with
      | error errors => simp [Except.map]
      | ok controlledBy =>
          simp only [Except.map, Except.ok.injEq, exists_eq_left', true_and]
          exact eq_comm

theorem errors_ne_nil_of_fromRaw {all : StationTable} {raw : StationRaw}
    {firId : FlightInformationRegionId} {errors : List CoverageError}
    (refused : LoadedStation.fromRaw all raw firId = .error errors) : errors ≠ [] := by
  unfold LoadedStation.fromRaw at refused
  cases valid : raw.validate with
  | error error =>
      rw [valid] at refused
      cases refused
      exact List.cons_ne_nil _ _
  | ok _ =>
      rw [valid] at refused
      cases resolved : raw.resolveControlledBy all with
      | ok controlledBy =>
          rw [resolved] at refused
          cases refused
      | error found =>
          rw [resolved] at refused
          cases refused
          exact errors_ne_nil_of_resolveControlledBy resolved

theorem reports_stationEntering (all : StationTable) : (stationEntering all).Reports := by
  intro raw errors refused
  simp only [stationEntering] at refused
  cases parsed : LoadedStation.fromRaw all raw.2 raw.1 with
  | error found =>
      rw [parsed] at refused
      cases refused
      simpa using errors_ne_nil_of_fromRaw parsed
  | ok station =>
      rw [parsed] at refused
      simp only at refused
      split at refused
      · cases refused
        exact List.cons_ne_nil _ _
      · cases refused

theorem reports_profileEntering : profileEntering.Reports := by
  intro raw errors refused
  cases refused

theorem parse_stationEntering_iff {all : StationTable}
    {raw : FlightInformationRegionId × StationRaw} {station : LoadedStation} :
    (stationEntering all).parse raw = .ok station ↔
      raw.2.validate = .ok () ∧ ∃ controlledBy, raw.2.resolveControlledBy all = .ok controlledBy ∧
        controlledBy ≠ [] ∧
          station =
            { id := raw.2.id, parentId := raw.2.parentId, controlledBy := controlledBy,
              firId := raw.1 } := by
  simp only [stationEntering]
  cases parsed : LoadedStation.fromRaw all raw.2 raw.1 with
  | error errors =>
      simp only [reduceCtorEq, false_iff]
      rintro ⟨valid, controlledBy, resolved, _, _⟩
      have isOk : LoadedStation.fromRaw all raw.2 raw.1 = .ok _ :=
        fromRaw_eq_ok_iff.mpr ⟨valid, controlledBy, resolved, rfl⟩
      rw [parsed] at isOk
      cases isOk
  | ok loaded =>
      obtain ⟨valid, controlledBy, resolved, rfl⟩ := fromRaw_eq_ok_iff.mp parsed
      simp only
      split
      · rename_i uncovered
        simp only [reduceCtorEq, false_iff]
        rintro ⟨_, other, resolvedToo, covered, _⟩
        rw [resolved] at resolvedToo
        cases resolvedToo
        exact covered uncovered
      · rename_i covered
        simp only [Except.ok.injEq, valid, resolved, true_and, exists_eq_left']
        constructor
        · rintro rfl
          exact ⟨covered, rfl⟩
        · rintro ⟨_, rfl⟩
          rfl

theorem parse_positionEntering_iff {digit : Char → Bool}
    {raw : FlightInformationRegionId × PositionRaw} {position : LoadedPosition} :
    (positionEntering digit).parse raw = .ok position ↔
      raw.2.validate digit = .ok () ∧
        position =
          { id := raw.2.id, prefixes := raw.2.prefixes, frequency := raw.2.frequency,
            facilityType := raw.2.facilityType, profileId := raw.2.profileId,
            defaultCallSources := raw.2.defaultCallSources, controlledStations := ∅,
            firId := raw.1 } := by
  simp only [positionEntering, LoadedPosition.fromRaw]
  cases raw.2.validate digit with
  | error error => simp [Except.map, Except.mapError]
  | ok _ =>
      simp only [Except.map, Except.mapError, Except.ok.injEq, true_and]
      exact eq_comm

theorem parse_firEntering_iff {raw : FlightInformationRegionRaw} :
    (∃ fir, firEntering.parse raw = .ok fir) ↔ raw.validate = .ok () := by
  simp only [firEntering, FlightInformationRegion.tryFrom]
  cases raw.validate with
  | error error => simp [Except.map, Except.mapError]
  | ok _ => simp [Except.map, Except.mapError]

end Reports

/-! ## The regions one after the other -/

section Regions

variable {digit : Char → Bool} {order : LoadOrder} {all : List FlightInformationRegionRaw}

/-- The tables can be filled with the items of the regions, whose references are right. -/
structure Clean (digit : Char → Bool) (order : LoadOrder) (all : List FlightInformationRegionRaw)
    (state : LoadState) (firs : List FlightInformationRegionRaw) : Prop where
  errors : state.errors = []
  references : ∀ fir ∈ firs, referenceErrors order all fir = []
  regions : (fill firEntering state.firs firs).2 = []
  positions : (fill (positionEntering digit) state.positions
    (firs.flatMap FlightInformationRegionRaw.positionEntries)).2 = []
  stations : (fill (stationEntering (allStations all)) state.stations
    (firs.flatMap FlightInformationRegionRaw.stationEntries)).2 = []
  profiles : (fill profileEntering state.profiles
    (firs.flatMap (FlightInformationRegionRaw.profileEntries order))).2 = []

/-- The tables after the regions have been entered. -/
def filled (digit : Char → Bool) (order : LoadOrder) (all : List FlightInformationRegionRaw)
    (state : LoadState) (firs : List FlightInformationRegionRaw) : LoadState where
  firs := (fill firEntering state.firs firs).1
  stations := (fill (stationEntering (allStations all)) state.stations
    (firs.flatMap FlightInformationRegionRaw.stationEntries)).1
  positions := (fill (positionEntering digit) state.positions
    (firs.flatMap FlightInformationRegionRaw.positionEntries)).1
  profiles := (fill profileEntering state.profiles
    (firs.flatMap (FlightInformationRegionRaw.profileEntries order))).1
  errors := []

/-- A region that is refused leaves an error. -/
theorem errors_loadFir_of_refused {state : LoadState} {fir : FlightInformationRegionRaw}
    (refused : (enter firEntering state.firs fir).2 ≠ []) :
    (loadFir digit order all state fir).errors ≠ [] := by
  unfold loadFir
  simp only [ne_eq, refused, not_false_eq_true, if_true]
  exact fun none => refused (List.append_eq_nil_iff.mp none).2

/-- A region that is not refused has its items entered. -/
theorem loadFir_of_entered {state : LoadState} {fir : FlightInformationRegionRaw}
    (entered : (enter firEntering state.firs fir).2 = []) :
    loadFir digit order all state fir =
      { firs := (enter firEntering state.firs fir).1
        stations := (fill (stationEntering (allStations all)) state.stations
          fir.stationEntries).1
        positions := (fill (positionEntering digit) state.positions fir.positionEntries).1
        profiles := (fill profileEntering state.profiles (fir.profileEntries order)).1
        errors := state.errors ++ referenceErrors order all fir ++
          (fill (positionEntering digit) state.positions fir.positionEntries).2 ++
            (fill (stationEntering (allStations all)) state.stations fir.stationEntries).2 ++
              (fill profileEntering state.profiles (fir.profileEntries order)).2 } := by
  unfold loadFir
  simp only [entered, ne_eq, not_true_eq_false, if_false, List.append_nil]

theorem errors_loadFir_iff {state : LoadState} {fir : FlightInformationRegionRaw} :
    (loadFir digit order all state fir).errors = [] ↔
      Clean digit order all state [fir] := by
  by_cases entered : (enter firEntering state.firs fir).2 = []
  · rw [loadFir_of_entered entered]
    simp only [List.append_eq_nil_iff]
    constructor
    · rintro ⟨⟨⟨⟨errors, references⟩, positions⟩, stations⟩, profiles⟩
      refine ⟨errors, ?_, ?_, ?_, ?_, ?_⟩
      · intro only member
        rw [List.mem_singleton.mp member]
        exact references
      · simpa [fill] using entered
      · simpa using positions
      · simpa using stations
      · simpa using profiles
    · intro clean
      refine ⟨⟨⟨⟨clean.errors, clean.references fir (List.mem_singleton_self fir)⟩, ?_⟩, ?_⟩, ?_⟩
      · simpa using clean.positions
      · simpa using clean.stations
      · simpa using clean.profiles
  · refine iff_of_false (errors_loadFir_of_refused entered) ?_
    intro clean
    exact entered (List.append_eq_nil_iff.mp clean.regions).1

theorem loadFir_of_clean {state : LoadState} {fir : FlightInformationRegionRaw}
    (clean : Clean digit order all state [fir]) :
    loadFir digit order all state fir = filled digit order all state [fir] := by
  have entered : (enter firEntering state.firs fir).2 = [] :=
    (List.append_eq_nil_iff.mp clean.regions).1
  have errors := errors_loadFir_iff.mpr clean
  rw [loadFir_of_entered entered] at errors ⊢
  simp only at errors
  simp only [filled, errors, fill, List.flatMap_cons, List.flatMap_nil, List.append_nil]

/-- The regions of a list are clean if the first is, and the others are after it. -/
theorem clean_cons_iff {state : LoadState} {fir : FlightInformationRegionRaw}
    {firs : List FlightInformationRegionRaw} :
    Clean digit order all state (fir :: firs) ↔
      Clean digit order all state [fir] ∧
        Clean digit order all (filled digit order all state [fir]) firs := by
  constructor
  · intro clean
    have enteredFirs := clean.regions
    have enteredPositions := clean.positions
    have enteredStations := clean.stations
    have enteredProfiles := clean.profiles
    rw [← List.singleton_append, fill_append] at enteredFirs
    rw [← List.singleton_append, List.flatMap_append, fill_append]
      at enteredPositions enteredStations enteredProfiles
    rw [List.append_eq_nil_iff] at enteredFirs enteredPositions enteredStations enteredProfiles
    refine ⟨⟨clean.errors, ?_, enteredFirs.1, enteredPositions.1, enteredStations.1,
      enteredProfiles.1⟩, ⟨rfl, ?_, enteredFirs.2, enteredPositions.2, enteredStations.2,
        enteredProfiles.2⟩⟩
    · intro only member
      rw [List.mem_singleton.mp member]
      exact clean.references fir (List.mem_cons_self ..)
    · exact fun later member => clean.references later (List.mem_cons_of_mem _ member)
  · rintro ⟨first, rest⟩
    refine ⟨first.errors, ?_, ?_, ?_, ?_, ?_⟩
    · intro item member
      rcases List.mem_cons.mp member with rfl | later
      · exact first.references item (List.mem_singleton_self item)
      · exact rest.references item later
    · rw [← List.singleton_append, fill_append]
      exact List.append_eq_nil_iff.mpr ⟨first.regions, rest.regions⟩
    · rw [← List.singleton_append, List.flatMap_append, fill_append]
      exact List.append_eq_nil_iff.mpr ⟨first.positions, rest.positions⟩
    · rw [← List.singleton_append, List.flatMap_append, fill_append]
      exact List.append_eq_nil_iff.mpr ⟨first.stations, rest.stations⟩
    · rw [← List.singleton_append, List.flatMap_append, fill_append]
      exact List.append_eq_nil_iff.mpr ⟨first.profiles, rest.profiles⟩

theorem filled_cons (state : LoadState) (fir : FlightInformationRegionRaw)
    (firs : List FlightInformationRegionRaw) :
    filled digit order all (filled digit order all state [fir]) firs =
      filled digit order all state (fir :: firs) := by
  have split : fir :: firs = [fir] ++ firs := rfl
  rw [split]
  simp only [filled, List.flatMap_append, fill_append]

/-- The regions are entered without errors exactly if they are clean. -/
theorem foldl_clean_iff {state : LoadState} {firs : List FlightInformationRegionRaw} :
    (firs.foldl (loadFir digit order all) state).errors = [] ↔
      Clean digit order all state firs := by
  induction firs generalizing state with
  | nil =>
      constructor
      · intro errors
        exact ⟨errors, List.forall_mem_nil _, rfl, rfl, rfl, rfl⟩
      · exact Clean.errors
  | cons fir firs ih =>
      rw [List.foldl_cons, ih, clean_cons_iff]
      constructor
      · intro rest
        have first := errors_loadFir_iff.mp rest.errors
        rw [loadFir_of_clean first] at rest
        exact ⟨first, rest⟩
      · rintro ⟨first, rest⟩
        rw [loadFir_of_clean first]
        exact rest

/-- The tables of clean regions are those that are filled with all items. -/
theorem foldl_of_clean {state : LoadState} {firs : List FlightInformationRegionRaw}
    (clean : Clean digit order all state firs) :
    firs.foldl (loadFir digit order all) state = filled digit order all state firs := by
  induction firs generalizing state with
  | nil =>
      have errors := clean.errors
      cases state
      simp only at errors
      subst errors
      rfl
  | cons fir firs ih =>
      obtain ⟨first, rest⟩ := clean_cons_iff.mp clean
      rw [List.foldl_cons, loadFir_of_clean first, ih rest, filled_cons]

end Regions

/-! ## The stations of the positions -/

section Linking

/-- The stations with the positions that they list. -/
def listings (stations : List LoadedStation) : List (LoadedStation × PositionId) :=
  stations.flatMap fun station => station.controlledBy.map (station, ·)

theorem mem_listings {stations : List LoadedStation} {station : LoadedStation}
    {positionId : PositionId} :
    (station, positionId) ∈ listings stations ↔
      station ∈ stations ∧ positionId ∈ station.controlledBy := by
  simp [listings]

/-- Linking goes through the listings. -/
theorem linkPositions_eq_foldl (stations : List LoadedStation)
    (linked : HashMap PositionId LoadedPosition × List CoverageError) :
    linkPositions stations linked =
      (listings stations).foldl (fun linked listing => linkPosition listing.1 linked listing.2)
        linked := by
  rw [listings, List.foldl_flatMap, linkPositions]
  congr 1
  funext linked station
  rw [List.foldl_map]

/-- A position with further stations. -/
def LoadedPosition.withStations (stations : Finset StationId) (position : LoadedPosition) :
    LoadedPosition :=
  { position with controlledStations := position.controlledStations ∪ stations }

@[simp] theorem withStations_empty (position : LoadedPosition) :
    position.withStations ∅ = position := by
  simp [LoadedPosition.withStations]

theorem withStations_withStations (first second : Finset StationId) (position : LoadedPosition) :
    (position.withStations first).withStations second = position.withStations (first ∪ second) := by
  simp [LoadedPosition.withStations, Finset.union_assoc]

/-- The stations of the listings of a position. -/
def listing (positionId : PositionId) (pairs : List (LoadedStation × PositionId)) :
    Finset StationId :=
  ((pairs.filter fun pair => decide (pair.2 = positionId)).map fun pair => pair.1.id).toFinset

theorem mem_listing {positionId : PositionId} {pairs : List (LoadedStation × PositionId)}
    {stationId : StationId} :
    stationId ∈ listing positionId pairs ↔
      ∃ station, (station, positionId) ∈ pairs ∧ station.id = stationId := by
  simp [listing]

theorem lookup_linkPosition (station : LoadedStation)
    (linked : HashMap PositionId LoadedPosition × List CoverageError)
    (positionId wanted : PositionId) :
    (linkPosition station linked positionId).1.lookup wanted =
      (linked.1.lookup wanted).map
        (LoadedPosition.withStations (listing wanted [(station, positionId)])) := by
  have other : wanted ≠ positionId → listing wanted [(station, positionId)] = ∅ := by
    intro different
    simp [listing, Ne.symm different]
  unfold linkPosition
  cases found : linked.1.lookup positionId with
  | none =>
      simp only
      by_cases same : wanted = positionId
      · rw [same, found]
        rfl
      · rw [other same]
        cases linked.1.lookup wanted <;> simp
  | some position =>
      simp only [Finmap.lookup_insert_eq]
      split
      · rename_i same
        subst same
        have own : listing wanted [(station, wanted)] = {station.id} := by
          simp [listing]
        rw [found, Option.map_some, own, LoadedPosition.withStations, Finset.union_comm,
          ← Finset.insert_eq]
      · rename_i different
        rw [other different]
        cases linked.1.lookup wanted <;> simp

theorem errors_linkPosition_iff (station : LoadedStation)
    (linked : HashMap PositionId LoadedPosition × List CoverageError) (positionId : PositionId) :
    (linkPosition station linked positionId).2 = [] ↔
      linked.2 = [] ∧ ∃ position, linked.1.lookup positionId = some position := by
  unfold linkPosition
  cases linked.1.lookup positionId <;> simp

variable (pairs : List (LoadedStation × PositionId))
  (linked : HashMap PositionId LoadedPosition × List CoverageError)

theorem lookup_foldl_linkPosition (wanted : PositionId) :
    (pairs.foldl (fun linked pair => linkPosition pair.1 linked pair.2) linked).1.lookup wanted =
      (linked.1.lookup wanted).map (LoadedPosition.withStations (listing wanted pairs)) := by
  induction pairs generalizing linked with
  | nil => cases found : linked.1.lookup wanted <;> simp [found, listing]
  | cons pair pairs ih =>
      rw [List.foldl_cons, ih, lookup_linkPosition, Option.map_map]
      congr 1
      funext position
      rw [Function.comp_apply, withStations_withStations]
      congr 1
      ext stationId
      rw [Finset.mem_union, mem_listing, mem_listing, mem_listing]
      simp only [List.mem_cons, List.not_mem_nil, or_false, or_and_right, exists_or]

theorem errors_foldl_linkPosition_iff :
    (pairs.foldl (fun linked pair => linkPosition pair.1 linked pair.2) linked).2 = [] ↔
      linked.2 = [] ∧ ∀ pair ∈ pairs, ∃ position, linked.1.lookup pair.2 = some position := by
  induction pairs generalizing linked with
  | nil => simp
  | cons pair pairs ih =>
      rw [List.foldl_cons, ih, errors_linkPosition_iff, List.forall_mem_cons, and_assoc]
      simp only [← Option.isSome_iff_exists, lookup_linkPosition, Option.isSome_map]

/-- Every position gets the stations that list it. -/
theorem lookup_linkPositions (stations : List LoadedStation) (wanted : PositionId) :
    (linkPositions stations linked).1.lookup wanted =
      (linked.1.lookup wanted).map
        (LoadedPosition.withStations (listing wanted (listings stations))) := by
  rw [linkPositions_eq_foldl, lookup_foldl_linkPosition]

/-- Linking reports no error if the positions that the stations list exist. -/
theorem errors_linkPositions_iff (stations : List LoadedStation) :
    (linkPositions stations linked).2 = [] ↔
      linked.2 = [] ∧ ∀ station ∈ stations, ∀ positionId ∈ station.controlledBy,
        ∃ position, linked.1.lookup positionId = some position := by
  rw [linkPositions_eq_foldl, errors_foldl_linkPosition_iff]
  refine and_congr_right fun _ => ?_
  constructor
  · intro known station member positionId listed
    exact known (station, positionId) (mem_listings.mpr ⟨member, listed⟩)
  · rintro known ⟨station, positionId⟩ member
    obtain ⟨isStation, listed⟩ := mem_listings.mp member
    exact known station isStation positionId listed

theorem mem_stationValues {order : LoadOrder} {stations : HashMap StationId LoadedStation}
    {station : LoadedStation} :
    station ∈ stationValues order stations ↔ ∃ key, stations.lookup key = some station := by
  simp only [stationValues, List.mem_filterMap, Enumeration.mem_list,
    Finmap.mem_keys_iff_lookup]
  constructor
  · rintro ⟨key, _, found⟩
    exact ⟨key, found⟩
  · rintro ⟨key, found⟩
    exact ⟨key, ⟨station, found⟩, found⟩

end Linking

end Loading

end Vacs
