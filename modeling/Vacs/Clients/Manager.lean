import Vacs.Clients.Session

/-!
# The client manager

The client manager keeps the sessions of the connected clients and, beside them,
which positions are online with which clients, which positions are only staffed
on VATSIM, and which position covers each station. Logins, logouts, sync rounds
against the VATSIM data feed and reloads of the dataset all update the four maps
by hand, and compute which station changes the clients have to be told.

`addClient` and `removeClient` take the locks of the maps several times. Each of
their critical sections is a definition of its own, and the operations are the
sections run one after the other.
-/

set_option autoImplicit false

namespace Vacs

/-- Positions with the clients that staff them. -/
abbrev PositionClients : Type := HashMap PositionId (Finset ClientId)

/-- The covering position of each station. -/
abbrev StationCoverage : Type := HashMap StationId PositionId

structure ClientManager where
  positionGracePeriod : Duration
  maxConfSize : ℕ
  network : Network
  clients : HashMap ClientId ClientSession
  onlinePositions : PositionClients
  vatsimOnlyPositions : PositionClients
  onlineStations : StationCoverage

/-- The orders in which one operation happens to walk the maps it reads. -/
structure ClientIteration where
  clients : Enumeration ClientId
  positions : Enumeration PositionId
  stations : Enumeration StationId

/-- The iteration in increasing order of identifiers. -/
def ClientIteration.increasing : ClientIteration where
  clients := Enumeration.increasing ClientId
  positions := Enumeration.increasing PositionId
  stations := Enumeration.increasing StationId

/-- A station as it is listed to a client. -/
structure StationInfo where
  id : StationId
  own : Bool
deriving DecidableEq

namespace ClientManager

def new (network : Network) (positionGracePeriod : Duration) (maxConfSize : ℕ) :
    ClientManager where
  positionGracePeriod := positionGracePeriod
  maxConfSize := maxConfSize
  network := network
  clients := ∅
  onlinePositions := ∅
  vatsimOnlyPositions := ∅
  onlineStations := ∅

/-- The positions that count for coverage: online or staffed on VATSIM. -/
def allPositions (s : ClientManager) : Finset PositionId :=
  s.onlinePositions.keys ∪ s.vatsimOnlyPositions.keys

/-! ## Station changes -/

/-- A change as clients see it, if they do. A station covered by a position that is
only staffed on VATSIM is not callable, so it is as if it were offline. -/
def visibleChange (fromOnlinePositions toOnlinePositions : Finset PositionId)
    (change : StationChange) : Option StationChange :=
  match change with
  | .online _ positionId => if positionId ∈ toOnlinePositions then some change else none
  | .handoff stationId fromPositionId toPositionId =>
      match decide (fromPositionId ∈ fromOnlinePositions),
        decide (toPositionId ∈ toOnlinePositions) with
      | true, true => some change
      | true, false => some (.offline stationId)
      | false, true => some (.online stationId toPositionId)
      | false, false => none
  | .offline _ => some change

def clientVisibleChanges (changes : List StationChange)
    (fromOnlinePositions toOnlinePositions : Finset PositionId) : List StationChange :=
  changes.filterMap (visibleChange fromOnlinePositions toOnlinePositions)

def updateOnlineStations (onlineStations : StationCoverage) (changes : List StationChange) :
    StationCoverage :=
  changes.foldl (fun onlineStations change =>
    match change with
    | .online stationId positionId => onlineStations.insert stationId positionId
    | .offline stationId => onlineStations.erase stationId
    | .handoff stationId _ toPositionId => onlineStations.insert stationId toPositionId)
    onlineStations

/-- The stations a position covers, as they are walked. -/
def stationsOf (order : ClientIteration) (onlineStations : StationCoverage)
    (positionId : PositionId) : List StationId :=
  (order.stations.list onlineStations.keys).filter fun stationId =>
    onlineStations.lookup stationId == some positionId

/-- The part of the broadcast changes that a client with the profile is sent. -/
def relevantChanges (network : Network) (profile : ActiveProfile ProfileId)
    (changes : List StationChange) : List StationChange :=
  match network.relevantStations profile with
  | .all => changes
  | .subset relevantIds => changes.filter fun change => decide (change.stationId ∈ relevantIds)
  | .none => []

def listStations (order : ClientIteration) (s : ClientManager)
    (profile : ActiveProfile ProfileId) (selfPositionId : Option PositionId) :
    List StationInfo :=
  let stations : List StationId :=
    match s.network.relevantStations profile with
    | .all => order.stations.list s.onlineStations.keys
    | .subset ids => order.stations.list ids
    | .none => []
  (stations.insertionSort (· ≤ ·)).filterMap fun stationId =>
    (s.onlineStations.lookup stationId).bind fun controller =>
      if controller ∈ s.onlinePositions.keys then
        some { id := stationId, own := selfPositionId == some controller }
      else none

/-! ## Adding a client -/

/-- The first section of `addClient`: the session is entered unless the client is
connected already. -/
def registerSession (s : ClientManager) (clientInfo : ClientInfo)
    (activeProfile : ActiveProfile ProfileId) (tx : ℕ) (now : Instant) : Option ClientManager :=
  if clientInfo.id ∈ s.clients.keys then none
  else some { s with
    clients := s.clients.insert clientInfo.id (.new clientInfo activeProfile tx now) }

/-- The second section of `addClient`: the client staffs its position. -/
def staffPosition (order : ClientIteration) (s : ClientManager) (clientId : ClientId)
    (positionId : PositionId) : ClientManager × List StationChange :=
  match (s.onlinePositions.lookup positionId).filter fun clients => decide (clients ≠ ∅) with
  | some clients =>
      ({ s with onlinePositions := s.onlinePositions.insert positionId (insert clientId clients) },
        [])
  | none =>
      let onlinePositions := s.onlinePositions.insert positionId {clientId}
      if positionId ∈ s.vatsimOnlyPositions.keys then
        ({ s with
            onlinePositions := onlinePositions
            vatsimOnlyPositions := s.vatsimOnlyPositions.erase positionId },
          (stationsOf order s.onlineStations positionId).map fun stationId =>
            .online stationId positionId)
      else
        let allChanges := s.network.coverageChanges none (some positionId) s.allPositions
        ({ s with
            onlinePositions := onlinePositions
            onlineStations := updateOnlineStations s.onlineStations allChanges },
          clientVisibleChanges allChanges onlinePositions.keys onlinePositions.keys)

/-- `none` when the client is connected already; else the new state and the
changes to broadcast. -/
def addClient (order : ClientIteration) (s : ClientManager) (clientInfo : ClientInfo)
    (activeProfile : ActiveProfile ProfileId) (tx : ℕ) (now : Instant) :
    Option (ClientManager × List StationChange) :=
  (s.registerSession clientInfo activeProfile tx now).map fun s =>
    match clientInfo.positionId with
    | some positionId => s.staffPosition order clientInfo.id positionId
    | none => (s, [])

/-! ## Removing a client -/

/-- The positions that controllers without a session staff on VATSIM, except those
that are online. -/
def rebuildVatsimOnly (order : ClientIteration) (network : Network)
    (controllers : HashMap ClientId ControllerInfo) (vacsClientIds : Finset ClientId)
    (onlinePositions : PositionClients) : PositionClients :=
  (order.clients.list controllers.keys).foldl (fun vatsimOnly cid =>
    match controllers.lookup cid with
    | none => vatsimOnly
    | some controller =>
        if controller.facilityType = .unknown ∨ cid ∈ vacsClientIds then vatsimOnly
        else
          match network.findPositions controller.callsign controller.frequency
              controller.facilityType with
          | [position] =>
              if position.id ∈ onlinePositions.keys then vatsimOnly
              else vatsimOnly.insert position.id
                (insert cid ((vatsimOnly.lookup position.id).getD ∅))
          | _ => vatsimOnly) ∅

/-- The first section of `removeClient`: the session is taken out. -/
def takeSession (s : ClientManager) (clientId : ClientId) :
    Option (ClientManager × ClientSession) :=
  (s.clients.lookup clientId).map fun session =>
    ({ s with clients := s.clients.erase clientId }, session)

/-- Whether the position is about to go offline, so that the data feed is asked. -/
def needsFetch (s : ClientManager) (positionId : PositionId) : Bool :=
  (s.onlinePositions.lookup positionId).any fun clients => clients.card == 1

/-- What is fetched before a position goes offline: the data feed, if it answers,
and the connected clients. -/
abbrev Prefetched : Type := Option (Option (List ControllerInfo) × Finset ClientId)

/-- The VATSIM controllers that still staff a position its last client leaves. -/
def remainingControllers (order : ClientIteration) (s : ClientManager) (positionId : PositionId)
    (prefetched : Prefetched) : Option (Finset ClientId) :=
  match prefetched with
  | some (some controllers, vacsClientIds) =>
      (rebuildVatsimOnly order s.network (ControllerInfo.indexByCid controllers) vacsClientIds
        (s.onlinePositions.erase positionId)).lookup positionId
  | _ => none

/-- The section of `removeClient` that takes the client off its position. -/
def leavePosition (order : ClientIteration) (s : ClientManager) (clientId : ClientId)
    (positionId : PositionId) (prefetched : Prefetched) : ClientManager × List StationChange :=
  match s.onlinePositions.lookup positionId with
  | none => (s, [])
  | some clients =>
      if clients.card = 1 then
        match s.remainingControllers order positionId prefetched with
        | some cids =>
            ({ s with
                onlinePositions := s.onlinePositions.erase positionId
                vatsimOnlyPositions := s.vatsimOnlyPositions.insert positionId cids },
              (stationsOf order s.onlineStations positionId).map .offline)
        | none =>
            let allChanges :=
              s.network.coverageDiff s.allPositions (s.allPositions.erase positionId)
            ({ s with
                onlinePositions := s.onlinePositions.erase positionId
                onlineStations := updateOnlineStations s.onlineStations allChanges },
              clientVisibleChanges allChanges s.onlinePositions.keys s.onlinePositions.keys)
      else
        ({ s with
            onlinePositions := s.onlinePositions.insert positionId (clients.erase clientId) }, [])

/-- The last sections of `removeClient`: with the last client gone, nothing is
covered any more. -/
def clearVatsimOnly (s : ClientManager) : ClientManager := { s with vatsimOnlyPositions := ∅ }

def clearOnlineStations (s : ClientManager) : ClientManager := { s with onlineStations := ∅ }

/-- The data feed answers with `feed`, if it does. The changes are those to
broadcast. -/
def removeClient (order : ClientIteration) (s : ClientManager) (clientId : ClientId)
    (feed : Option (List ControllerInfo)) : ClientManager × List StationChange :=
  match s.takeSession clientId with
  | none => (s, [])
  | some (s, session) =>
      let (s, changes) : ClientManager × List StationChange :=
        match session.positionId with
        | none => (s, [])
        | some positionId =>
            let prefetched : Prefetched :=
              if s.needsFetch positionId then some (feed, s.clients.keys) else none
            s.leavePosition order clientId positionId prefetched
      if s.clients.isEmpty then (s.clearVatsimOnly.clearOnlineStations, [])
      else (s, changes)

end ClientManager

end Vacs
