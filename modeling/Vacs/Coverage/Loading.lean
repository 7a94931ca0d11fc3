import Vacs.Foundations.CheckedTables
import Vacs.Coverage.Profiles

/-!
# Loading a dataset

A dataset is a list of flight information regions with their stations, positions and
profiles. Loading checks the references of every item against the ids that occur
anywhere, enters the items into tables, and gives the positions the stations that
list them. A station inherits the positions of its parents. All errors are
collected, and a network is returned only if there are none.

Reading the files is left out: the regions are given as they are read.
-/

set_option autoImplicit false

namespace Vacs

open Checks CheckedTables

/-- Identifier of a flight information region. -/
structure FlightInformationRegionId where
  val : String
deriving DecidableEq, Repr

theorem ProfileId.val_injective : Function.Injective ProfileId.val := by
  rintro ⟨_⟩ ⟨_⟩ rfl
  rfl

instance : LinearOrder ProfileId := LinearOrder.lift' ProfileId.val ProfileId.val_injective

namespace FacilityType

def asStr : FacilityType → String
  | .ramp => "RMP"
  | .delivery => "DEL"
  | .ground => "GND"
  | .tower => "TWR"
  | .approach => "APP"
  | .departure => "DEP"
  | .enroute => "CTR"
  | .flightServiceStation => "FSS"
  | .radio => "RDO"
  | .trafficFlow => "FMP"
  | .unknown => "UNKNOWN"

/-- The texts that name a facility type. -/
def suffixes : List (String × FacilityType) :=
  [("RMP", .ramp), ("RAMP", .ramp), ("DEL", .delivery), ("DELIVERY", .delivery),
    ("GND", .ground), ("GROUND", .ground), ("TWR", .tower), ("TOWER", .tower),
    ("APP", .approach), ("APPROACH", .approach), ("DEP", .departure), ("DEPARTURE", .departure),
    ("CTR", .enroute), ("CENTER", .enroute), ("ENROUTE", .enroute),
    ("FSS", .flightServiceStation), ("FLIGHTSERVICESTATION", .flightServiceStation),
    ("RDO", .radio), ("RADIO", .radio), ("TMU", .trafficFlow),
    ("TRAFFICMANAGEMENTUNIT", .trafficFlow), ("FMP", .trafficFlow),
    ("FLOWMANAGEMENTPOSITION", .trafficFlow), ("TRAFFICFLOW", .trafficFlow)]

/-- The facility type that the part of a text after its last underscore names. -/
def fromStr (text : String) : Option FacilityType :=
  let upper := text.toList.map Char.toUpper
  let suffix := (upper.splitOn '_').getLast?.getD []
  (suffixes.find? fun entry => decide (entry.1.toList = suffix)).map Prod.snd

end FacilityType

namespace Loading

/-! ## Regions as they are read -/

structure StationRaw where
  id : StationId
  parentId : Option StationId
  controlledBy : List PositionId
deriving DecidableEq

structure PositionRaw where
  id : PositionId
  prefixes : Finset String
  frequency : String
  facilityType : FacilityType
  profileId : Option ProfileId
  defaultCallSources : List StationId
deriving DecidableEq

structure FlightInformationRegionRaw where
  id : FlightInformationRegionId
  stations : List StationRaw
  positions : List PositionRaw
  profiles : HashMap ProfileId Layout.Profile

/-! ## What is loaded -/

structure LoadedStation extends Station where
  parentId : Option StationId
  firId : FlightInformationRegionId

structure LoadedPosition extends Position where
  firId : FlightInformationRegionId

structure FlightInformationRegion where
  id : FlightInformationRegionId
  stations : Finset StationId
  positions : Finset PositionId
  profiles : Finset ProfileId

structure LoadedNetwork where
  firs : HashMap FlightInformationRegionId FlightInformationRegion
  positions : HashMap PositionId LoadedPosition
  stations : HashMap StationId LoadedStation
  profiles : HashMap ProfileId Layout.Profile

/-! ## Validators -/

def StationRaw.validate (raw : StationRaw) : Except CoverageError Unit :=
  firstError [(raw.id.val.isEmpty, .validation (.empty "id"))]

/-- The first entry of a list that occurs before. -/
def firstDuplicate {α : Type} [DecidableEq α] : List α → List α → Option α
  | _, [] => none
  | seen, item :: items => if item ∈ seen then some item else firstDuplicate (item :: seen) items

def PositionRaw.validate (digit : Char → Bool) (raw : PositionRaw) : Except CoverageError Unit :=
  let implied := FacilityType.fromStr raw.id.val
  let duplicate := firstDuplicate [] raw.defaultCallSources
  firstError [
    (raw.id.val.isEmpty, .validation (.empty "id")),
    (decide (raw.prefixes = ∅ ∨ ∃ pre ∈ raw.prefixes, pre.isEmpty),
      .validation (.empty "prefixes")),
    (raw.frequency.isEmpty, .validation (.empty "frequency")),
    (!isFrequency digit raw.frequency,
      .validation (.invalidFormat "frequency" (.text raw.frequency) "must match pattern XXX.XXX")),
    (decide (raw.facilityType = .unknown),
      .validation (.invalidValue "facility_type" (.text "Unknown") "must not be Unknown")),
    (implied.any fun implied => decide (implied ≠ raw.facilityType),
      .validation (.invalidValue "facility_type" (.text raw.facilityType.asStr)
        ("id `" ++ raw.id.val ++ "` implies `" ++ (implied.elim "" FacilityType.asStr) ++ "`"))),
    (raw.profileId.any fun profileId => profileId.val.isEmpty, .validation (.empty "profile_id")),
    (duplicate.isSome,
      .validation (.invalidValue "default_call_sources" (.text (duplicate.elim "" StationId.val))
        "duplicate entry"))]

def FlightInformationRegionRaw.validate (raw : FlightInformationRegionRaw) :
    Except CoverageError Unit :=
  firstError [
    (raw.id.val.isEmpty, .validation (.empty "id")),
    (raw.stations.isEmpty, .validation (.empty "stations")),
    (raw.positions.isEmpty, .validation (.empty "positions"))]

/-! ## Validators of references -/

/-- The first entry that is not known is a missing reference. -/
def validateEntries {Id : Type} [DecidableEq Id] (field : String) (text : Id → String)
    (known : Finset Id) (entries : List Id) : Except CoverageError Unit :=
  entries.forM fun id => firstError [(decide (id ∉ known),
    .validation (.missingReference field (text id)))]

def StationRaw.validateReferences (positions : Finset PositionId) (raw : StationRaw) :
    Except CoverageError Unit :=
  validateEntries "position_id" PositionId.val positions raw.controlledBy

def PositionRaw.validateProfile (profiles : Finset ProfileId) (raw : PositionRaw) :
    Except CoverageError Unit :=
  validateEntries "profile_id" ProfileId.val profiles raw.profileId.toList

def PositionRaw.validateStations (stations : Finset StationId) (raw : PositionRaw) :
    Except CoverageError Unit :=
  validateEntries "default_call_sources" StationId.val stations raw.defaultCallSources

/-! ## Inherited positions -/

/-- The stations of a dataset by id. -/
abbrev StationTable : Type := HashMap StationId StationRaw

structure Resolving where
  controlledBy : List PositionId := []
  seen : Finset PositionId := ∅
  visited : Finset StationId := ∅
  order : List String := []
  errors : List CoverageError := []

/-- Append the positions that have not been seen. -/
def Resolving.extend (resolving : Resolving) (positions : List PositionId) : Resolving :=
  positions.foldl (fun resolving position =>
    if position ∈ resolving.seen then resolving
    else
      { resolving with
        controlledBy := resolving.controlledBy ++ [position]
        seen := insert position resolving.seen }) resolving

/-- The loop up the parents of a station. Every round visits a station that was not visited, so the
number of stations bounds the rounds. -/
def resolveFrom (all : StationTable) (own : StationRaw) :
    ℕ → Option StationRaw → Resolving → Resolving
  | 0, _, resolving => resolving
  | _ + 1, none, resolving => resolving
  | fuel + 1, some station, resolving =>
      if station.id ∈ resolving.visited then
        { resolving with
          errors := resolving.errors ++
            [.validation (.cycleDetected (resolving.order ++ [station.id.val]))] }
      else
        let resolving :=
          { resolving with
            visited := insert station.id resolving.visited
            order := resolving.order ++ [station.id.val] }.extend station.controlledBy
        match station.parentId with
        | none => resolveFrom all own fuel none resolving
        | some parentId =>
            match all.lookup parentId with
            | none =>
                resolveFrom all own fuel none
                  { resolving with
                    errors := resolving.errors ++
                      [.validation (.missingParent own.id.val parentId.val)] }
            | some parent => resolveFrom all own fuel (some parent) resolving

def StationRaw.resolveControlledBy (all : StationTable) (raw : StationRaw) :
    Except (List CoverageError) (List PositionId) :=
  let resolved := resolveFrom all raw (all.keys.card + 2) (some raw) {}
  if resolved.errors = [] then .ok resolved.controlledBy else .error resolved.errors

/-! ## Items of a region -/

section Load

variable (digit : Char → Bool)

def LoadedPosition.fromRaw (raw : PositionRaw) (firId : FlightInformationRegionId) :
    Except CoverageError LoadedPosition :=
  (raw.validate digit).map fun _ =>
    { id := raw.id
      prefixes := raw.prefixes
      frequency := raw.frequency
      facilityType := raw.facilityType
      profileId := raw.profileId
      defaultCallSources := raw.defaultCallSources
      controlledStations := ∅
      firId := firId }

def LoadedStation.fromRaw (all : StationTable) (raw : StationRaw)
    (firId : FlightInformationRegionId) : Except (List CoverageError) LoadedStation :=
  match raw.validate with
  | .error error => .error [error]
  | .ok () =>
      (raw.resolveControlledBy all).map fun controlledBy =>
        { id := raw.id
          parentId := raw.parentId
          controlledBy := controlledBy
          firId := firId }

def FlightInformationRegion.tryFrom (raw : FlightInformationRegionRaw) :
    Except CoverageError FlightInformationRegion :=
  raw.validate.map fun _ =>
    { id := raw.id
      stations := (raw.stations.map StationRaw.id).toFinset
      positions := (raw.positions.map PositionRaw.id).toFinset
      profiles := raw.profiles.keys }

/-- How regions are entered. -/
def firEntering : Entering FlightInformationRegionId FlightInformationRegionRaw
    FlightInformationRegion CoverageError where
  key := FlightInformationRegionRaw.id
  duplicate raw := .duplicate "FIR" raw.id.val
  parse raw := (FlightInformationRegion.tryFrom raw).mapError fun error =>
    [.load "FIR" raw.id.val error]

/-- How the positions of the regions are entered. -/
def positionEntering : Entering PositionId (FlightInformationRegionId × PositionRaw) LoadedPosition
    CoverageError where
  key raw := raw.2.id
  duplicate raw := .context raw.1.val (.duplicate "Position" raw.2.id.val)
  parse raw := (LoadedPosition.fromRaw digit raw.2 raw.1).mapError fun error =>
    [.context raw.1.val (.load "Position" raw.2.id.val error)]

/-- How the stations of the regions are entered. A station that no position controls is refused. -/
def stationEntering (all : StationTable) : Entering StationId
    (FlightInformationRegionId × StationRaw) LoadedStation CoverageError where
  key raw := raw.2.id
  duplicate raw := .context raw.1.val (.duplicate "Station" raw.2.id.val)
  parse raw :=
    match LoadedStation.fromRaw all raw.2 raw.1 with
    | .error errors => .error (errors.map fun error =>
        .context raw.1.val (.load "Station" raw.2.id.val error))
    | .ok station =>
        if station.controlledBy = [] then
          .error [.context raw.1.val (.validation (.emptyCoverage station.id.val))]
        else .ok station

/-- How the profiles of the regions are entered. -/
def profileEntering : Entering ProfileId (FlightInformationRegionId × ProfileId × Layout.Profile)
    Layout.Profile CoverageError where
  key raw := raw.2.1
  duplicate raw := .context raw.1.val (.duplicate "Profile" raw.2.1.val)
  parse raw := .ok raw.2.2

/-! ## The dataset -/

/-- The orders in which hash maps are walked. -/
structure LoadOrder where
  profiles : Enumeration ProfileId
  stations : Enumeration StationId

namespace FlightInformationRegionRaw

def positionEntries (fir : FlightInformationRegionRaw) :
    List (FlightInformationRegionId × PositionRaw) :=
  fir.positions.map (fir.id, ·)

def stationEntries (fir : FlightInformationRegionRaw) :
    List (FlightInformationRegionId × StationRaw) :=
  fir.stations.map (fir.id, ·)

def profileEntries (order : LoadOrder) (fir : FlightInformationRegionRaw) :
    List (FlightInformationRegionId × ProfileId × Layout.Profile) :=
  (order.profiles.list fir.profiles.keys).flatMap fun profileId =>
    (fir.profiles.lookup profileId).toList.map fun profile => (fir.id, profileId, profile)

end FlightInformationRegionRaw

section Ids

variable (firs : List FlightInformationRegionRaw)

def allStations : StationTable :=
  Finmap.indexBy StationRaw.id (firs.flatMap FlightInformationRegionRaw.stations)

def allStationIds : Finset StationId :=
  (allStations firs).keys

def allPositionIds : Finset PositionId :=
  ((firs.flatMap FlightInformationRegionRaw.positions).map PositionRaw.id).toFinset

def allProfileIds : Finset ProfileId :=
  firs.foldr (fun fir ids => fir.profiles.keys ∪ ids) ∅

end Ids

/-- The error of a failed check of an item, with where the item stands. -/
def located (firId : FlightInformationRegionId) (item : String) :
    Except CoverageError Unit → List CoverageError
  | .ok () => []
  | .error error => [.context firId.val (.context item error)]

/-- The errors in the references of a region. -/
def referenceErrors (order : LoadOrder) (firs : List FlightInformationRegionRaw)
    (fir : FlightInformationRegionRaw) : List CoverageError :=
  (fir.stations.flatMap fun station =>
      located fir.id station.id.val (station.validateReferences (allPositionIds firs))) ++
    (fir.positions.flatMap fun position =>
      located fir.id position.id.val (position.validateProfile (allProfileIds firs)) ++
        located fir.id position.id.val (position.validateStations (allStationIds firs))) ++
    (fir.profileEntries order).flatMap fun entry =>
      located fir.id entry.2.2.id.val (entry.2.2.validateReferences (allStationIds firs))

/-- The tables while the regions are entered. -/
structure LoadState where
  firs : HashMap FlightInformationRegionId FlightInformationRegion
  stations : HashMap StationId LoadedStation
  positions : HashMap PositionId LoadedPosition
  profiles : HashMap ProfileId Layout.Profile
  errors : List CoverageError

def LoadState.empty : LoadState where
  firs := ∅
  stations := ∅
  positions := ∅
  profiles := ∅
  errors := []

/-- Enter a region. The items of a region that is refused are not entered. -/
def loadFir (order : LoadOrder) (firs : List FlightInformationRegionRaw) (state : LoadState)
    (fir : FlightInformationRegionRaw) : LoadState :=
  let entered := enter firEntering state.firs fir
  let errors := state.errors ++ referenceErrors order firs fir ++ entered.2
  if entered.2 ≠ [] then { state with errors := errors }
  else
    let positions := fill (positionEntering digit) state.positions fir.positionEntries
    let stations := fill (stationEntering (allStations firs)) state.stations fir.stationEntries
    let profiles := fill profileEntering state.profiles (fir.profileEntries order)
    { firs := entered.1
      stations := stations.1
      positions := positions.1
      profiles := profiles.1
      errors := errors ++ positions.2 ++ stations.2 ++ profiles.2 }

/-- Give a position a station that lists it. -/
def linkPosition (station : LoadedStation)
    (linked : HashMap PositionId LoadedPosition × List CoverageError) (positionId : PositionId) :
    HashMap PositionId LoadedPosition × List CoverageError :=
  match linked.1.lookup positionId with
  | some position =>
      (linked.1.insert positionId
        { position with controlledStations := insert station.id position.controlledStations },
        linked.2)
  | none =>
      (linked.1, linked.2 ++
        [.context station.firId.val (.context station.id.val
          (.validation (.missingReference "position_id" positionId.val)))])

/-- Give the positions the stations that list them. -/
def linkPositions (stations : List LoadedStation)
    (linked : HashMap PositionId LoadedPosition × List CoverageError) :
    HashMap PositionId LoadedPosition × List CoverageError :=
  stations.foldl (fun linked station => station.controlledBy.foldl (linkPosition station) linked)
    linked

/-- The stations of a table, in the order in which it is walked. -/
def stationValues (order : LoadOrder) (stations : HashMap StationId LoadedStation) :
    List LoadedStation :=
  (order.stations.list stations.keys).filterMap stations.lookup

/-- Load the network of the given regions, or all errors in them. -/
def load (order : LoadOrder) (firs : List FlightInformationRegionRaw) :
    Except (List CoverageError) LoadedNetwork :=
  let state := firs.foldl (loadFir digit order firs) .empty
  let linked := linkPositions (stationValues order state.stations) (state.positions, state.errors)
  if linked.2 ≠ [] then .error linked.2
  else
    .ok
      { firs := state.firs
        positions := linked.1
        stations := state.stations
        profiles := state.profiles }

end Load

end Loading

end Vacs
