import Vacs.Foundations.FiniteMap
import Vacs.Protocol.Identifiers
import Mathlib.Data.Finset.SymmDiff

/-!
# The coverage network

A network lists positions and stations. A station names the positions that may
control it, most preferred first; a position knows the stations it appears in.
Which position covers a station depends on which positions are online: it is the
first online one on the station's list. When the set of online positions
changes, the coverage changes of the stations are computed from the stations of
the positions that came or went only.

A network is only ever built by loading a dataset, which fills the stations of
the positions from the lists of the stations. That agreement is a field of
`Network`.
-/

set_option autoImplicit false

namespace Vacs

/-- Identifier of a profile. -/
structure ProfileId where
  val : String
deriving DecidableEq, Repr

/-- Facility types in ascending priority. -/
inductive FacilityType where
  | unknown
  | trafficFlow
  | radio
  | ramp
  | delivery
  | ground
  | tower
  | approach
  | departure
  | enroute
  | flightServiceStation
deriving DecidableEq, Repr

theorem FacilityType.ctorIdx_injective : Function.Injective FacilityType.ctorIdx := by
  intro first second same
  cases first <;> cases second <;> first | rfl | cases same

instance : LinearOrder FacilityType :=
  LinearOrder.lift' FacilityType.ctorIdx FacilityType.ctorIdx_injective

/-! ## Station changes -/

/-- A change in the status of a station. -/
inductive StationChange where
  | online (stationId : StationId) (positionId : PositionId)
  | handoff (stationId : StationId) (fromPositionId toPositionId : PositionId)
  | offline (stationId : StationId)
deriving DecidableEq, Repr

namespace StationChange

def stationId : StationChange → StationId
  | .online stationId _ => stationId
  | .handoff stationId _ _ => stationId
  | .offline stationId => stationId

/-- The position that covers the station afterwards. -/
def target : StationChange → Option PositionId
  | .online _ positionId => some positionId
  | .handoff _ _ toPositionId => some toPositionId
  | .offline _ => none

/-- The kind of a change and its identifiers, in the order changes are compared. -/
def key : StationChange → ℕ ×ₗ String ×ₗ String ×ₗ String
  | .online stationId positionId => toLex (0, toLex (stationId.val, toLex (positionId.val, "")))
  | .handoff stationId fromPositionId toPositionId =>
      toLex (1, toLex (stationId.val, toLex (fromPositionId.val, toPositionId.val)))
  | .offline stationId => toLex (2, toLex (stationId.val, toLex ("", "")))

theorem key_injective : Function.Injective key := by
  intro first second same
  cases first <;> cases second <;> simp_all [key, PositionId.val_injective.eq_iff,
    StationId.val_injective.eq_iff]

end StationChange

instance : LinearOrder StationChange :=
  LinearOrder.lift' StationChange.key StationChange.key_injective

/-! ## Positions, stations and profiles -/

structure Position where
  id : PositionId
  prefixes : Finset String
  frequency : String
  facilityType : FacilityType
  profileId : Option ProfileId
  defaultCallSources : List StationId
  controlledStations : Finset StationId
deriving DecidableEq

structure Station where
  id : StationId
  /-- The positions that may control the station, most preferred first. -/
  controlledBy : List PositionId
deriving DecidableEq

structure Profile where
  id : ProfileId
  relevantStationIds : Finset StationId
deriving DecidableEq

/-- Which profile a client has selected, with a reference to it. -/
inductive ActiveProfile (Reference : Type) where
  | specific (profile : Reference)
  | custom
  | none
deriving DecidableEq

/-- A loaded dataset. -/
structure Network where
  positions : HashMap PositionId Position
  stations : HashMap StationId Station
  profiles : HashMap ProfileId Profile
  positionId : ∀ key position, positions.lookup key = some position → position.id = key
  stationId : ∀ key station, stations.lookup key = some station → station.id = key
  controlledStations : ∀ key position, positions.lookup key = some position → ∀ stationKey,
    stationKey ∈ position.controlledStations ↔
      ∃ station, stations.lookup stationKey = some station ∧ key ∈ station.controlledBy

/-- The stations a client is told about. -/
inductive RelevantStations where
  | all
  | subset (stationIds : Finset StationId)
  | none
deriving DecidableEq

namespace Network

def getProfile (network : Network) (profileId : ProfileId) : Option Profile :=
  network.profiles.lookup profileId

def getPosition (network : Network) (positionId : PositionId) : Option Position :=
  network.positions.lookup positionId

/-- The last step of loading a dataset: a position gets the stations that list it. -/
def linkStations (stations : HashMap StationId Station) (positionId : PositionId)
    (position : Position) : Position :=
  { position with
    controlledStations := stations.keys.filter fun stationId =>
      (stations.lookup stationId).any fun station => decide (positionId ∈ station.controlledBy) }

/-- The network of the given entries. -/
def ofEntries (positions : List Position) (stations : List Station) (profiles : List Profile) :
    Network where
  positions := (Finmap.indexBy Position.id positions).filterMap fun positionId position =>
    some (linkStations (Finmap.indexBy Station.id stations) positionId position)
  stations := Finmap.indexBy Station.id stations
  profiles := Finmap.indexBy Profile.id profiles
  positionId key position found := by
    rw [Finmap.lookup_filterMap] at found
    obtain ⟨entry, isEntry, linked⟩ := Option.bind_eq_some_iff.mp found
    cases linked
    have named : entry.id = key := Finmap.key_of_lookup_indexBy Position.id positions isEntry
    exact named
  stationId _ _ found := Finmap.key_of_lookup_indexBy Station.id stations found
  controlledStations key position found stationKey := by
    rw [Finmap.lookup_filterMap] at found
    obtain ⟨entry, _, linked⟩ := Option.bind_eq_some_iff.mp found
    cases linked
    simp only [linkStations, Finset.mem_filter, Finmap.mem_keys_iff_lookup, Option.any_eq_true,
      decide_eq_true_eq]
    constructor
    · rintro ⟨_, station, isStation, listed⟩
      exact ⟨station, isStation, listed⟩
    · rintro ⟨station, isStation, listed⟩
      exact ⟨⟨station, isStation⟩, station, isStation, listed⟩

/-! ## Coverage -/

/-- The position that covers a station when the given positions are online. -/
def controllingPosition (network : Network) (stationId : StationId)
    (onlinePositions : Finset PositionId) : Option Position :=
  (network.stations.lookup stationId).bind fun station =>
    station.controlledBy.findSome? fun positionId =>
      if positionId ∈ onlinePositions then network.positions.lookup positionId else none

/-- The stations that are covered by the given positions. -/
def coveredStations (network : Network) (onlinePositions : Finset PositionId) : List Station :=
  ((Enumeration.increasing StationId).list network.stations.keys).filterMap fun stationId =>
    (network.stations.lookup stationId).filter fun station =>
      (network.controllingPosition station.id onlinePositions).isSome

/-- The change of a station between two covering positions. -/
def stationDiff (stationId : StationId) (before after : Option Position) : Option StationChange :=
  if before.map Position.id = after.map Position.id then none
  else
    match before, after with
    | none, some newPos => some (.online stationId newPos.id)
    | some _, none => some (.offline stationId)
    | some oldPos, some newPos => some (.handoff stationId oldPos.id newPos.id)
    | none, none => none

/-- The changes of all stations between two sets of online positions. Only the
stations of positions that came or went are looked at. -/
def coverageDiff (network : Network) (fromOnline toOnline : Finset PositionId) :
    List StationChange :=
  let changedPositions := symmDiff fromOnline toOnline
  if changedPositions = ∅ then []
  else
    let candidateStations := changedPositions.biUnion fun positionId =>
      ((network.positions.lookup positionId).map Position.controlledStations).getD ∅
    (((Enumeration.increasing StationId).list candidateStations).filterMap fun stationId =>
      (network.stations.lookup stationId).bind fun station =>
        stationDiff station.id (network.controllingPosition station.id fromOnline)
          (network.controllingPosition station.id toOnline)).insertionSort (· ≤ ·)

/-- The changes of all stations when one position leaves or joins the online
ones. -/
def coverageChanges (network : Network) (fromPositionId toPositionId : Option PositionId)
    (onlinePositions : Finset PositionId) : List StationChange :=
  let (changed, updatedPositions) : Bool × Finset PositionId :=
    match fromPositionId, toPositionId with
    | some source, some target =>
        if source = target then (decide (target ∉ onlinePositions), insert target onlinePositions)
        else (decide (source ∈ onlinePositions) || decide (target ∉ onlinePositions.erase source),
          insert target (onlinePositions.erase source))
    | some source, none => (decide (source ∈ onlinePositions), onlinePositions.erase source)
    | none, some target => (decide (target ∉ onlinePositions), insert target onlinePositions)
    | none, none => (false, onlinePositions)
  if !changed then [] else network.coverageDiff onlinePositions updatedPositions

def relevantStations (network : Network) : ActiveProfile ProfileId → RelevantStations
  | .specific profileId =>
      match network.profiles.lookup profileId with
      | none => .none
      | some profile => .subset profile.relevantStationIds
  | .custom => .all
  | .none => .none

/-! ## Matching controllers to positions -/

/-- Read a relief callsign as the standard one: two underscores are one. -/
def collapseRelief : List Char → List Char
  | '_' :: '_' :: rest => '_' :: collapseRelief rest
  | char :: rest => char :: collapseRelief rest
  | [] => []

/-- The positions a controller may be working, sorted by identifier: the one its
callsign names, or those that share its frequency and facility type and have a
prefix of its callsign. -/
def findPositions (network : Network) (callsign frequency : String)
    (facilityType : FacilityType) : List Position :=
  let callsign := (collapseRelief callsign.toList).map Char.toUpper
  let agrees := fun position : Position =>
    position.frequency == frequency && position.facilityType == facilityType
  match (network.positions.lookup ⟨String.ofList callsign⟩).filter agrees with
  | some position => [position]
  | none =>
      ((Enumeration.increasing PositionId).list network.positions.keys).filterMap fun positionId =>
        (network.positions.lookup positionId).filter fun position =>
          agrees position && decide (∃ pre ∈ position.prefixes, pre.toList.isPrefixOf callsign)

end Network

end Vacs
