import Vacs.Clients.Manager

/-!
# Sync rounds and dataset reloads

A sync round compares every session with the VATSIM data feed. It decides which
clients lost their connection, moves the clients whose callsign or frequency now
belongs to another position, rebuilds the positions that are only staffed on
VATSIM, and updates the covered stations from the difference of the position
sets. A reload replaces the network, takes clients off positions that no longer
exist, and recomputes the covered stations from scratch.

What is sent to single clients is part of the results; how it is sent is not.
-/

set_option autoImplicit false

namespace Vacs

/-- What a pass over the sessions found and did. -/
structure ClientPositionSync where
  /-- Clients whose VATSIM connection was lost or became ambiguous. -/
  disconnectedClients : List (ClientId × DisconnectReason) := []
  /-- Session infos for clients whose position changed. -/
  sessionInfoUpdates : List (ClientSession × SessionInfo) := []
  /-- Clients that need a full station list, with their profile and position. -/
  stationListUpdates : List (ClientSession × ActiveProfile ProfileId × Option PositionId) := []
  /-- Client infos to broadcast. -/
  clientInfoUpdates : List ClientInfo := []
  /-- Clients that joined a position that was online already. -/
  selfHandoffClients : List (ClientSession × PositionId) := []
  /-- Clients that left a position that stays online. -/
  departureHandoffClients : List (ClientSession × PositionId) := []
  /-- Whether a position was added to or removed from the online ones. -/
  positionsChanged : Bool := false
  /-- Clients newly marked for disconnect. -/
  markedPendingDisconnect : ℕ := 0

namespace ClientManager

/-! ## One session of a sync round -/

/-- A client without a usable VATSIM connection is disconnected in the second
round that finds it so. -/
def disconnectOrMarkPending (gracePeriod : Duration) (now : Instant) (cid : ClientId)
    (session : ClientSession) (result : ClientPositionSync) :
    ClientSession × ClientPositionSync :=
  if session.isWithinPositionGracePeriod gracePeriod now then (session, result)
  else
    match session.takePendingDisconnect with
    | (session, true) =>
        (session, { result with
          disconnectedClients :=
            result.disconnectedClients ++ [(cid, .noActiveVatsimConnection)] })
    | (session, false) =>
        (session.markPendingDisconnect, { result with
          markedPendingDisconnect := result.markedPendingDisconnect + 1 })

/-- Take a moving client off its old position. -/
def vacate (cid : ClientId) (session : ClientSession) (oldPositionId : PositionId)
    (onlinePositions : PositionClients) (result : ClientPositionSync) :
    PositionClients × ClientPositionSync :=
  match onlinePositions.lookup oldPositionId with
  | none => (onlinePositions, result)
  | some clients =>
      if clients.card ≤ 1 then
        (onlinePositions.erase oldPositionId, { result with positionsChanged := true })
      else
        (onlinePositions.insert oldPositionId (clients.erase cid), { result with
          departureHandoffClients :=
            result.departureHandoffClients ++ [(session, oldPositionId)] })

/-- Put a moving client on its new position. -/
def occupy (cid : ClientId) (session : ClientSession) (newPositionId : PositionId)
    (onlinePositions : PositionClients) (result : ClientPositionSync) :
    PositionClients × ClientPositionSync :=
  let before := (onlinePositions.lookup newPositionId).getD ∅
  let clients := insert cid before
  (onlinePositions.insert newPositionId clients, { result with
    positionsChanged :=
      result.positionsChanged || (decide (cid ∉ before) && clients.card == 1)
    selfHandoffClients :=
      if 1 < clients.card then result.selfHandoffClients ++ [(session, newPositionId)]
      else result.selfHandoffClients })

/-- Move a client from its old position, if any, to its new one, if any. -/
def relocate (cid : ClientId) (session : ClientSession)
    (oldPositionId newPositionId : Option PositionId) (onlinePositions : PositionClients)
    (result : ClientPositionSync) : PositionClients × ClientPositionSync :=
  let (onlinePositions, result) :=
    match oldPositionId with
    | some oldPositionId => vacate cid session oldPositionId onlinePositions result
    | none => (onlinePositions, result)
  match newPositionId with
  | some newPositionId => occupy cid session newPositionId onlinePositions result
  | none => (onlinePositions, result)

/-- A client whose position changed. -/
def changePosition (network : Network) (maxConfSize : ℕ) (cid : ClientId)
    (session : ClientSession) (newPosition : Option Position) (onlinePositions : PositionClients)
    (result : ClientPositionSync) :
    ClientSession × PositionClients × ClientPositionSync :=
  let oldPositionId := session.positionId
  let newPositionId := newPosition.map Position.id
  let session := session.setPositionId newPositionId
  let (onlinePositions, result) :=
    relocate cid session oldPositionId newPositionId onlinePositions result
  let (session, profile) :=
    session.updateActiveProfile (newPosition.bind Position.profileId) network
  (session, onlinePositions, { result with
    stationListUpdates :=
      result.stationListUpdates ++ [(session, session.activeProfile, newPositionId)]
    sessionInfoUpdates := result.sessionInfoUpdates ++ [(session, {
      client := session.clientInfo
      profile := profile
      defaultCallSources := (newPosition.map Position.defaultCallSources).getD []
      maxConfSize := maxConfSize })] })

/-- A client whose callsign or frequency changed. -/
def followController (network : Network) (maxConfSize : ℕ) (controller : ControllerInfo)
    (cid : ClientId) (session : ClientSession) (onlinePositions : PositionClients)
    (result : ClientPositionSync) :
    ClientSession × PositionClients × ClientPositionSync :=
  let newPositions :=
    network.findPositions controller.callsign controller.frequency controller.facilityType
  if 1 < newPositions.length then
    (session, onlinePositions, { result with
      disconnectedClients := result.disconnectedClients ++
        [(cid, .ambiguousVatsimPosition (newPositions.map Position.id))] })
  else
    let newPosition := newPositions.head?
    let (session, onlinePositions, result) :=
      if session.positionId ≠ newPosition.map Position.id then
        changePosition network maxConfSize cid session newPosition onlinePositions result
      else (session, onlinePositions, result)
    (session, onlinePositions, { result with
      clientInfoUpdates := result.clientInfoUpdates ++ [session.clientInfo] })

/-- One session of the pass, given the controller of its client. -/
def syncSession (network : Network) (maxConfSize : ℕ) (gracePeriod : Duration) (now : Instant)
    (requireActiveConnection : Bool) (controller : Option ControllerInfo) (cid : ClientId)
    (session : ClientSession) (onlinePositions : PositionClients)
    (result : ClientPositionSync) :
    ClientSession × PositionClients × ClientPositionSync :=
  match controller.filter fun controller => controller.facilityType != .unknown with
  | none =>
      if requireActiveConnection then
        let (session, result) := disconnectOrMarkPending gracePeriod now cid session result
        (session, onlinePositions, result)
      else (session, onlinePositions, result)
  | some controller =>
      let (session, _) := session.takePendingDisconnect
      if session.isWithinPositionGracePeriod gracePeriod now then (session, onlinePositions, result)
      else
        match session.updateClientInfo controller with
        | (session, false) => (session, onlinePositions, result)
        | (session, true) =>
            followController network maxConfSize controller cid session onlinePositions result

/-- The pass over all sessions. -/
def syncClientPositions (order : ClientIteration) (s : ClientManager) (now : Instant)
    (controllers : HashMap ClientId ControllerInfo) (requireActiveConnection : Bool) :
    HashMap ClientId ClientSession × PositionClients × ClientPositionSync :=
  (order.clients.list s.clients.keys).foldl (fun (clients, onlinePositions, result) cid =>
    match clients.lookup cid with
    | none => (clients, onlinePositions, result)
    | some session =>
        let (session, onlinePositions, result) :=
          syncSession s.network s.maxConfSize s.positionGracePeriod now requireActiveConnection
            (controllers.lookup cid) cid session onlinePositions result
        (clients.insert cid session, onlinePositions, result))
    (s.clients, s.onlinePositions, {})

/-! ## A sync round -/

/-- Events for clients that joined or left a position without it going on- or
offline, about the stations no coverage change mentions. -/
def computeSelfHandoffs (network : Network)
    (selfHandoffClients : List (ClientSession × PositionId))
    (coverageChanges : List StationChange) (allOnline : Finset PositionId) :
    List (ClientSession × List StationChange) :=
  selfHandoffClients.filterMap fun (session, newPosId) =>
    (network.getPosition newPosId).bind fun position =>
      let selfHandoffs :=
        (((Enumeration.increasing StationId).list position.controlledStations).filterMap
          fun stationId =>
            if stationId ∈ coverageChanges.map StationChange.stationId then none
            else
              (network.controllingPosition stationId allOnline).bind fun controller =>
                if controller.id = newPosId then
                  some (StationChange.handoff stationId newPosId newPosId)
                else none).insertionSort (· ≤ ·)
      if selfHandoffs = [] then none else some (session, selfHandoffs)

/-- What a sync round leaves to be sent and done. -/
structure SyncOutcome where
  sync : ClientPositionSync
  /-- Station changes for single clients. -/
  perClientChanges : List (ClientSession × List StationChange)
  /-- Station changes for all clients. -/
  coverageChanges : List StationChange

/-- Stations whose covering position stays, but moves between being online and
only being staffed on VATSIM. -/
def callabilityChanges (order : ClientIteration) (onlineStations : StationCoverage)
    (allChanges : List StationChange) (startOnline endOnline : Finset PositionId) :
    List StationChange :=
  (order.stations.list onlineStations.keys).filterMap fun stationId =>
    if stationId ∈ allChanges.map StationChange.stationId then none
    else
      (onlineStations.lookup stationId).bind fun positionId =>
        match decide (positionId ∈ startOnline), decide (positionId ∈ endOnline) with
        | true, false => some (.offline stationId)
        | false, true => some (.online stationId positionId)
        | _, _ => none

def syncVatsimState (order : ClientIteration) (s : ClientManager) (now : Instant)
    (controllers : HashMap ClientId ControllerInfo) (requireActiveConnection : Bool) :
    ClientManager × SyncOutcome :=
  let (clients, onlinePositions, sync) :=
    s.syncClientPositions order now controllers requireActiveConnection
  let vatsimOnly :=
    rebuildVatsimOnly order s.network controllers clients.keys onlinePositions
  let sync := { sync with
    positionsChanged := sync.positionsChanged || decide (s.vatsimOnlyPositions ≠ vatsimOnly) }
  let endAll := onlinePositions.keys ∪ vatsimOnly.keys
  let (onlineStations, coverageChanges) : StationCoverage × List StationChange :=
    if sync.positionsChanged then
      let allChanges := s.network.coverageDiff s.allPositions endAll
      let onlineStations := updateOnlineStations s.onlineStations allChanges
      (onlineStations,
        clientVisibleChanges allChanges s.onlinePositions.keys onlinePositions.keys ++
          callabilityChanges order onlineStations allChanges s.onlinePositions.keys
            onlinePositions.keys)
    else (s.onlineStations, [])
  ({ s with
      clients := clients
      onlinePositions := onlinePositions
      vatsimOnlyPositions := vatsimOnly
      onlineStations := onlineStations }, {
    sync := sync
    perClientChanges := computeSelfHandoffs s.network
      (sync.selfHandoffClients ++ sync.departureHandoffClients) coverageChanges endAll
    coverageChanges := coverageChanges })

/-! ## A dataset reload -/

/-- The changes between two station maps. -/
def computeStationDiff (order : ClientIteration) (old new : StationCoverage) :
    List StationChange :=
  let changed := (order.stations.list old.keys).filterMap fun stationId =>
    match old.lookup stationId, new.lookup stationId with
    | some _, none => some (StationChange.offline stationId)
    | some oldPosId, some newPosId =>
        if newPosId ≠ oldPosId then some (.handoff stationId oldPosId newPosId) else none
    | none, _ => none
  let opened := (order.stations.list new.keys).filterMap fun stationId =>
    if stationId ∈ old.keys then none
    else (new.lookup stationId).map (StationChange.online stationId)
  (changed ++ opened).insertionSort (· ≤ ·)

/-- Update the session of a client, if it is connected, and note what it is
told. -/
def updateSession
    (update : ClientSession → ClientSession × Option SessionInfo)
    (acc : HashMap ClientId ClientSession × List (ClientSession × SessionInfo))
    (clientId : ClientId) :
    HashMap ClientId ClientSession × List (ClientSession × SessionInfo) :=
  match acc.1.lookup clientId with
  | none => acc
  | some session =>
      let (session, info) := update session
      (acc.1.insert clientId session, acc.2 ++ (info.map fun info => (session, info)).toList)

/-- A client whose position is gone from the network. -/
def clearPosition (network : Network) (maxConfSize : ℕ) (session : ClientSession) :
    ClientSession × Option SessionInfo :=
  let (session, profile) := (session.setPositionId none).updateActiveProfile none network
  (session, some {
    client := session.clientInfo
    profile := profile
    defaultCallSources := []
    maxConfSize := maxConfSize })

/-- A client whose position is still there is sent its profile again, since the
content may have changed under the same identifier. -/
def refreshProfile (network : Network) (maxConfSize : ℕ) (position : Option Position)
    (session : ClientSession) : ClientSession × Option SessionInfo :=
  let (session, tracked) :=
    session.updateActiveProfile (position.bind Position.profileId) network
  let profile : Option SessionProfile :=
    match tracked with
    | .changed profile => some (.changed profile)
    | .unchanged =>
        match session.activeProfile with
        | .specific profileId =>
            match network.getProfile profileId with
            | some profile => some (.changed (.specific profile))
            | none => some (.changed .none)
        | _ => none
  (session, profile.map fun profile => {
    client := session.clientInfo
    profile := profile
    defaultCallSources := (position.map Position.defaultCallSources).getD []
    maxConfSize := maxConfSize })

/-- The clients of the positions, as they are walked. -/
def clientsOn (order : ClientIteration) (onlinePositions : PositionClients)
    (positionId : PositionId) : List ClientId :=
  order.clients.list ((onlinePositions.lookup positionId).getD ∅)

/-- The sessions after a reload, with what the clients are told about them. -/
def reloadSessions (order : ClientIteration) (s : ClientManager) (network : Network) :
    HashMap ClientId ClientSession × List (ClientSession × SessionInfo) :=
  let stale := s.onlinePositions.keys.filter fun positionId =>
    (network.getPosition positionId).isNone
  let surviving := s.onlinePositions.keys.filter fun positionId =>
    (network.getPosition positionId).isSome
  let cleared := (order.positions.list stale).foldl (fun acc positionId =>
    (clientsOn order s.onlinePositions positionId).foldl
      (updateSession (clearPosition network s.maxConfSize)) acc) (s.clients, [])
  (order.positions.list surviving).foldl (fun acc positionId =>
    (clientsOn order s.onlinePositions positionId).foldl
      (updateSession
        (refreshProfile network s.maxConfSize (network.getPosition positionId))) acc) cleared

/-- The station map of a network, from scratch. -/
def recomputeStations (network : Network) (allPositions : Finset PositionId) : StationCoverage :=
  (network.coveredStations allPositions).foldl (fun onlineStations station =>
    match network.controllingPosition station.id allPositions with
    | some position => onlineStations.insert station.id position.id
    | none => onlineStations) ∅

/-- The new state, what single clients are told about their sessions, and the
station changes to broadcast. -/
def replaceNetwork (order : ClientIteration) (s : ClientManager) (network : Network) :
    ClientManager × List (ClientSession × SessionInfo) × List StationChange :=
  let known := fun (positionId : PositionId) (_ : Finset ClientId) =>
    (network.getPosition positionId).isSome
  let (clients, sessionUpdates) := s.reloadSessions order network
  let onlinePositions := s.onlinePositions.retain known
  let vatsimOnly := s.vatsimOnlyPositions.retain known
  let newOnlineStations :=
    recomputeStations network (onlinePositions.keys ∪ vatsimOnly.keys)
  let allChanges := computeStationDiff order s.onlineStations newOnlineStations
  ({ s with
      network := network
      clients := clients
      onlinePositions := onlinePositions
      vatsimOnlyPositions := vatsimOnly
      onlineStations := updateOnlineStations s.onlineStations allChanges },
    sessionUpdates,
    clientVisibleChanges allChanges onlinePositions.keys onlinePositions.keys)

end ClientManager

end Vacs
