import Vacs.Foundations.GuardedRuns
import Vacs.Foundations.KeyedLists
import Vacs.Signaling.Messages

/-!
# The session cache and the stores of the frontend

The app keeps lists of the online stations and clients, from which a newly attached
remote frontend is given its snapshot. Every message that changes them is passed on
as an event, and each frontend folds the events into stores of its own: a map of the
stations and an array of the clients.

`Agree` says that the lists hold no id twice and stand for the same maps as the
stores. Messages that announce no known station or client as new and hand off no
unknown station keep it (`Agree.handle`).
-/

set_option autoImplicit false

namespace Vacs

open GuardedRuns KeyedLists Signaling

namespace App

/-- The messages that are about the session, the stations and the clients. -/
inductive SessionMessage where
  | sessionInfo (info : Signaling.SessionInfo)
  | stationList (stations : List StationInfo)
  | stationChanges (changes : List StationChange)
  | clientList (clients : List ClientInfo)
  | clientConnected (client : ClientInfo)
  | clientDisconnected (clientId : ClientId)
  | clientInfo (info : ClientInfo)
deriving DecidableEq

/-! ## The cache of the app -/

/-- The fields of the app state that such messages change. -/
structure SessionCache where
  sessionInfo : Option Signaling.SessionInfo := none
  stations : List StationInfo := []
  clients : List ClientInfo := []
deriving DecidableEq

namespace SessionCache

def ownPositionId (cache : SessionCache) : Option PositionId :=
  cache.sessionInfo.bind fun info => info.client.positionId

/-- One round of the loop over the changes. -/
def applyStationChange (ownPositionId : Option PositionId) (stations : List StationInfo) :
    StationChange → List StationInfo
  | .online stationId positionId =>
      stations ++ [⟨stationId, decide (ownPositionId = some positionId)⟩]
  | .handoff stationId _ toPositionId =>
      updateFirst StationInfo.id stationId
        (fun station => { station with own := decide (ownPositionId = some toPositionId) }) stations
  | .offline stationId => remove StationInfo.id stations stationId

/-- Replace the client with the id of the given one, or append it. -/
def upsertClient (clients : List ClientInfo) (info : ClientInfo) : List ClientInfo :=
  if clients.any (fun client => decide (client.id = info.id)) then
    updateFirst ClientInfo.id info.id (fun _ => info) clients
  else clients ++ [info]

/-- The cache after `handle_signaling_message`. -/
def handleSignalingMessage (cache : SessionCache) : SessionMessage → SessionCache
  | .clientConnected client => { cache with clients := cache.clients ++ [client] }
  | .clientDisconnected clientId =>
      { cache with clients := remove ClientInfo.id cache.clients clientId }
  | .clientList clients => { cache with clients := clients }
  | .clientInfo info => { cache with clients := upsertClient cache.clients info }
  | .sessionInfo info => { cache with sessionInfo := some info }
  | .stationList stations => { cache with stations := stations }
  | .stationChanges changes =>
      { cache with
        stations := changes.foldl (applyStationChange cache.ownPositionId) cache.stations }

end SessionCache

/-! ## The stores of a frontend -/

structure StationsStore where
  stations : HashMap StationId Bool := ∅
  defaultSource : Option StationId := none
  temporarySource : Option StationId := none
  positionDefaultSources : List StationId := []
deriving DecidableEq

namespace StationsStore

def isOwn (stations : HashMap StationId Bool) (source : StationId) : Bool :=
  (stations.lookup source).getD false

def checkStationSourcesAreOwn (store : StationsStore) (useDefaultCallSources : Bool)
    (stations : HashMap StationId Bool) : Option StationId × Option StationId :=
  let defaultSource :=
    if store.defaultSource.any (isOwn stations) then store.defaultSource
    else if useDefaultCallSources then store.positionDefaultSources.find? (isOwn stations)
    else none
  let temporarySource :=
    if store.temporarySource.any (fun source => !isOwn stations source) ||
        decide (defaultSource = store.temporarySource) then none
    else store.temporarySource
  (defaultSource, temporarySource)

/-- Take over a map of stations, and drop sources that are no longer own stations. -/
def replaceStations (store : StationsStore) (useDefaultCallSources : Bool)
    (stations : HashMap StationId Bool) : StationsStore :=
  let sources := store.checkStationSourcesAreOwn useDefaultCallSources stations
  { store with stations := stations, defaultSource := sources.1, temporarySource := sources.2 }

def setStations (store : StationsStore) (useDefaultCallSources : Bool)
    (stationsList : List StationInfo) : StationsStore :=
  store.replaceStations useDefaultCallSources
    (stationsList.foldl (fun stations station => stations.insert station.id station.own) ∅)

/-- One round of the loop over the changes. -/
def applyStationChange (ownPositionId : Option PositionId) (stations : HashMap StationId Bool) :
    StationChange → HashMap StationId Bool
  | .online stationId positionId =>
      stations.insert stationId (decide (some positionId = ownPositionId))
  | .handoff stationId _ toPositionId =>
      stations.insert stationId (decide (some toPositionId = ownPositionId))
  | .offline stationId => stations.erase stationId

def addStationChanges (store : StationsStore) (useDefaultCallSources : Bool)
    (ownPositionId : Option PositionId) (changes : List StationChange) : StationsStore :=
  store.replaceStations useDefaultCallSources
    (changes.foldl (applyStationChange ownPositionId) store.stations)

def getPositionDefaultSource (store : StationsStore) (useDefaultCallSources : Bool)
    (sources : List StationId) : Option StationId :=
  if !useDefaultCallSources || store.defaultSource.isSome then store.defaultSource
  else sources.find? (isOwn store.stations)

def setPositionDefaultSources (store : StationsStore) (useDefaultCallSources : Bool)
    (sources : List StationId) : StationsStore :=
  let defaultSource := store.getPositionDefaultSource useDefaultCallSources sources
  { store with
    positionDefaultSources := sources
    defaultSource := defaultSource
    temporarySource :=
      if store.temporarySource = defaultSource then none else store.temporarySource }

end StationsStore

/-- The stores that the events for such messages change, with the setting they read. -/
structure FrontendStores where
  positionId : Option PositionId := none
  stationsStore : StationsStore := {}
  clients : List ClientInfo := []
  useDefaultCallSources : Bool
deriving DecidableEq

namespace FrontendStores

def addClient (stores : FrontendStores) (client : ClientInfo) : FrontendStores :=
  { stores with clients := remove ClientInfo.id stores.clients client.id ++ [client] }

def removeClient (stores : FrontendStores) (clientId : ClientId) : FrontendStores :=
  { stores with clients := remove ClientInfo.id stores.clients clientId }

def applySessionInfo (stores : FrontendStores) (info : Signaling.SessionInfo) : FrontendStores :=
  { stores with
    positionId := info.client.positionId
    stationsStore := stores.stationsStore.setPositionDefaultSources stores.useDefaultCallSources
      info.defaultCallSources }

/-- The listener for the event that the app emits for a message. -/
def onEvent (stores : FrontendStores) : SessionMessage → FrontendStores
  | .sessionInfo info => stores.applySessionInfo info
  | .stationList stations =>
      { stores with
        stationsStore := stores.stationsStore.setStations stores.useDefaultCallSources stations }
  | .stationChanges changes =>
      { stores with
        stationsStore := stores.stationsStore.addStationChanges stores.useDefaultCallSources
          stores.positionId changes }
  | .clientList clients => { stores with clients := clients }
  | .clientConnected client => stores.addClient client
  | .clientDisconnected clientId => stores.removeClient clientId
  | .clientInfo info => stores.addClient info

end FrontendStores

/-! ## Both views of the same messages -/

structure SessionViews where
  cache : SessionCache := {}
  stores : FrontendStores
deriving DecidableEq

namespace SessionViews

def handle (views : SessionViews) (message : SessionMessage) : SessionViews :=
  { cache := views.cache.handleSignalingMessage message
    stores := views.stores.onEvent message }

/-- A snapshot holds no id twice and stands for the maps of the stores. -/
structure Agree (views : SessionViews) : Prop where
  stationsDistinct : Distinct StationInfo.id views.cache.stations
  clientsDistinct : Distinct ClientInfo.id views.cache.clients
  stations : ∀ stationId, (findKey StationInfo.id views.cache.stations stationId).map StationInfo.own =
    views.stores.stationsStore.stations.lookup stationId
  clients : ∀ clientId, findKey ClientInfo.id views.cache.clients clientId =
    findKey ClientInfo.id views.stores.clients clientId

/-- A change that brings a station online that is offline, or hands off one that is online. -/
def isExpected (stations : List StationInfo) : StationChange → Bool
  | .online stationId _ => decide (stationId ∉ stations.map StationInfo.id)
  | .handoff stationId _ _ => decide (stationId ∈ stations.map StationInfo.id)
  | .offline _ => true

/-- Every change is expected by the list at its turn. -/
def areExpected (ownPositionId : Option PositionId) : List StationInfo → List StationChange → Bool
  | _, [] => true
  | stations, change :: changes =>
      isExpected stations change &&
        areExpected ownPositionId (SessionCache.applyStationChange ownPositionId stations change)
          changes

/-- A message that announces no known station or client as new, hands off no unknown station and
lists nothing twice. -/
def announcesNew (views : SessionViews) : SessionMessage → Bool
  | .stationList stations => decide (Distinct StationInfo.id stations)
  | .stationChanges changes =>
      areExpected views.cache.ownPositionId views.cache.stations changes
  | .clientList clients => decide (Distinct ClientInfo.id clients)
  | .clientConnected client => decide (client.id ∉ views.cache.clients.map ClientInfo.id)
  | .sessionInfo _ | .clientDisconnected _ | .clientInfo _ => true

/-! ## Stations -/

/-- A list of stations without repeated ids stands for a map. -/
structure Represents (list : List StationInfo) (map : HashMap StationId Bool) : Prop where
  distinct : Distinct StationInfo.id list
  lookup : ∀ stationId, (findKey StationInfo.id list stationId).map StationInfo.own =
    map.lookup stationId

/-- The map that the frontend makes of a list without repeated ids. -/
theorem represents_foldl_insert {list : List StationInfo}
    (distinct : Distinct StationInfo.id list) :
    Represents list
      (list.foldl (fun stations station => stations.insert station.id station.own) ∅) := by
  have fold : ∀ (list : List StationInfo), Distinct StationInfo.id list →
      ∀ (map : HashMap StationId Bool) stationId,
        (list.foldl (fun stations station => stations.insert station.id station.own) map).lookup
          stationId =
        ((findKey StationInfo.id list stationId).map StationInfo.own).or (map.lookup stationId) := by
    intro list
    induction list with
    | nil => simp [findKey]
    | cons station list ih =>
        intro distinct map stationId
        obtain ⟨isNew, distinct⟩ := List.nodup_cons.mp distinct
        rw [List.foldl_cons, ih distinct, findKey_cons, Finmap.lookup_insert_eq]
        by_cases same : station.id = stationId
        · subst same
          rw [findKey_eq_none_iff.mpr isNew]
          simp
        · simp [same, Ne.symm same]
  refine ⟨distinct, fun stationId => ?_⟩
  rw [fold list distinct]
  simp

/-- An expected change does the same to the list and to the map. -/
theorem Represents.applyStationChange {list : List StationInfo} {map : HashMap StationId Bool}
    (represents : Represents list map) {ownPositionId : Option PositionId}
    {change : StationChange} (expected : isExpected list change = true) :
    Represents (SessionCache.applyStationChange ownPositionId list change)
      (StationsStore.applyStationChange ownPositionId map change) := by
  cases change with
  | online stationId positionId =>
      have isNew : stationId ∉ list.map StationInfo.id := of_decide_eq_true expected
      refine ⟨represents.distinct.append_new isNew, fun other => ?_⟩
      simp only [SessionCache.applyStationChange, StationsStore.applyStationChange]
      rw [findKey_append_new isNew, Finmap.lookup_insert_eq, ← represents.lookup other]
      by_cases same : stationId = other
      · simp [same, eq_comm]
      · simp [same, Ne.symm same]
  | handoff stationId fromPositionId toPositionId =>
      have isKnown : stationId ∈ list.map StationInfo.id := of_decide_eq_true expected
      have keeps : ∀ station : StationInfo, station.id = stationId →
          StationInfo.id { station with own := decide (ownPositionId = some toPositionId) } =
            stationId :=
        fun station same => same
      refine ⟨?_, fun other => ?_⟩
      · unfold Distinct SessionCache.applyStationChange
        rw [map_updateFirst keeps]
        exact represents.distinct
      · simp only [SessionCache.applyStationChange, StationsStore.applyStationChange]
        rw [findKey_updateFirst keeps, Finmap.lookup_insert_eq, ← represents.lookup other]
        by_cases same : stationId = other
        · subst same
          cases found : findKey StationInfo.id list stationId with
          | none => exact absurd isKnown (findKey_eq_none_iff.mp found)
          | some station => simp [eq_comm]
        · simp [same, Ne.symm same]
  | offline stationId =>
      refine ⟨represents.distinct.remove stationId, fun other => ?_⟩
      simp only [SessionCache.applyStationChange, StationsStore.applyStationChange]
      rw [findKey_remove, Finmap.lookup_erase_eq, ← represents.lookup other]
      by_cases same : stationId = other
      · simp [same]
      · simp [same, Ne.symm same]

theorem Represents.foldl_applyStationChange {ownPositionId : Option PositionId}
    {changes : List StationChange} {list : List StationInfo} {map : HashMap StationId Bool}
    (represents : Represents list map)
    (expected : areExpected ownPositionId list changes = true) :
    Represents (changes.foldl (SessionCache.applyStationChange ownPositionId) list)
      (changes.foldl (StationsStore.applyStationChange ownPositionId) map) := by
  induction changes generalizing list map with
  | nil => exact represents
  | cons change changes ih =>
      obtain ⟨first, rest⟩ := Bool.and_eq_true_iff.mp expected
      exact ih (represents.applyStationChange first) rest

/-! ## Clients -/

/-- Updating a known client in place, or appending an unknown one, is the frontend's
replacement. -/
theorem findKey_upsert {clients known : List ClientInfo}
    (same : ∀ clientId, findKey ClientInfo.id clients clientId = findKey ClientInfo.id known clientId)
    (info : ClientInfo) (clientId : ClientId) :
    findKey ClientInfo.id (SessionCache.upsertClient clients info) clientId =
      findKey ClientInfo.id (remove ClientInfo.id known info.id ++ [info]) clientId := by
  unfold SessionCache.upsertClient
  rw [findKey_append_new (notMem_remove known info.id), findKey_remove, ← same clientId]
  split
  case isTrue isKnown =>
    rw [findKey_updateFirst fun _ _ => rfl]
    by_cases isInfo : info.id = clientId
    · subst isInfo
      obtain ⟨client, listed, hasId⟩ := List.any_eq_true.mp isKnown
      cases found : findKey ClientInfo.id clients info.id with
      | none =>
          refine absurd ?_ (findKey_eq_none_iff.mp found)
          exact List.mem_map.mpr ⟨client, listed, of_decide_eq_true hasId⟩
      | some client => simp
    · simp [isInfo]
  case isFalse isUnknown =>
    have isNew : info.id ∉ clients.map ClientInfo.id := by
      intro listed
      obtain ⟨client, isClient, hasId⟩ := List.mem_map.mp listed
      exact isUnknown (List.any_eq_true.mpr ⟨client, isClient, decide_eq_true hasId⟩)
    rw [findKey_append_new isNew]
    by_cases isInfo : info.id = clientId <;> simp [isInfo]

theorem distinct_upsert {clients : List ClientInfo} (distinct : Distinct ClientInfo.id clients)
    (info : ClientInfo) :
    Distinct ClientInfo.id (SessionCache.upsertClient clients info) := by
  unfold SessionCache.upsertClient
  split
  case isTrue =>
    unfold Distinct
    rw [map_updateFirst fun _ _ => rfl]
    exact distinct
  case isFalse isUnknown =>
    refine distinct.append_new fun listed => isUnknown ?_
    obtain ⟨client, isClient, hasId⟩ := List.mem_map.mp listed
    exact List.any_eq_true.mpr ⟨client, isClient, decide_eq_true hasId⟩

/-! ## Runs -/

/-- Agreement, with the own position known alike. -/
structure Mirrors (views : SessionViews) : Prop where
  agree : views.Agree
  position : views.cache.ownPositionId = views.stores.positionId

theorem mirrors_initial (useDefaultCallSources : Bool) :
    Mirrors { stores := { useDefaultCallSources := useDefaultCallSources } } where
  agree := ⟨List.nodup_nil, List.nodup_nil, fun _ => rfl, fun _ => rfl⟩
  position := rfl

theorem Mirrors.handle {views : SessionViews} (mirrors : views.Mirrors)
    {message : SessionMessage} (isNew : views.announcesNew message = true) :
    (views.handle message).Mirrors := by
  obtain ⟨⟨stationsDistinct, clientsDistinct, stations, clients⟩, position⟩ := mirrors
  cases message with
  | sessionInfo info => exact ⟨⟨stationsDistinct, clientsDistinct, stations, clients⟩, rfl⟩
  | stationList list =>
      have represents := represents_foldl_insert (of_decide_eq_true isNew)
      exact ⟨⟨represents.distinct, clientsDistinct, represents.lookup, clients⟩, position⟩
  | stationChanges changes =>
      have represents := Represents.foldl_applyStationChange ⟨stationsDistinct, stations⟩ isNew
      refine ⟨⟨represents.distinct, clientsDistinct, ?_, clients⟩, position⟩
      rw [position] at represents
      simp only [SessionViews.handle, SessionCache.handleSignalingMessage, position]
      exact represents.lookup
  | clientList list =>
      exact ⟨⟨stationsDistinct, of_decide_eq_true isNew, stations, fun _ => rfl⟩, position⟩
  | clientConnected client =>
      have isNew : client.id ∉ views.cache.clients.map ClientInfo.id := of_decide_eq_true isNew
      refine ⟨⟨stationsDistinct, clientsDistinct.append_new isNew, stations, ?_⟩, position⟩
      intro clientId
      simp only [SessionViews.handle, SessionCache.handleSignalingMessage, FrontendStores.onEvent,
        FrontendStores.addClient]
      rw [findKey_append_new isNew, findKey_append_new (notMem_remove _ client.id), findKey_remove,
        clients clientId]
      by_cases same : client.id = clientId <;> simp [same]
  | clientDisconnected clientId =>
      refine ⟨⟨stationsDistinct, clientsDistinct.remove clientId, stations, ?_⟩, position⟩
      intro other
      simp only [SessionViews.handle, SessionCache.handleSignalingMessage, FrontendStores.onEvent,
        FrontendStores.removeClient]
      rw [findKey_remove, findKey_remove, clients other]
  | clientInfo info =>
      exact ⟨⟨stationsDistinct, distinct_upsert clientsDistinct info, stations,
        findKey_upsert clients info⟩, position⟩

/-- As long as every message announces only what is new and hands off only what is known, the
snapshot of the app and the stores of the frontend agree. -/
theorem snapshot_agrees {useDefaultCallSources : Bool} {messages : List SessionMessage}
    (guarded : Guarded (fun views message => some (handle views message))
      (fun views message => views.announcesNew message = true)
      { stores := { useDefaultCallSources := useDefaultCallSources } } messages) :
    (messages.foldl handle { stores := { useDefaultCallSources := useDefaultCallSources } }).Agree := by
  have mirrors : Mirrors (messages.foldl handle
      { stores := { useDefaultCallSources := useDefaultCallSources } }) := by
    refine guarded.preserves ?_ (runMoves_total handle _ messages)
      (mirrors_initial useDefaultCallSources)
    intro views message next mirrors isNew steps
    cases steps
    exact mirrors.handle isNew
  exact mirrors.agree

def attached : SessionViews := { stores := { useDefaultCallSources := true } }

def lovvInfo : ClientInfo := ⟨⟨"LOVI"⟩, "LOVV_CTR", "134.350", some ⟨"LOVV_CTR"⟩⟩

def lovvSession : Signaling.SessionInfo := ⟨lovvInfo, .unchanged, [⟨"LOVV"⟩, ⟨"LOWW"⟩], some 5⟩

/-- A session in which a station comes online, changes hands and goes offline, and another client
connects and is announced with a new frequency. -/
def quietSession : List SessionMessage :=
  [.sessionInfo lovvSession, .stationList [⟨⟨"LOVV"⟩, true⟩], .clientList [lovvInfo],
    .stationChanges [.online ⟨"LOWW"⟩ ⟨"LOWW_TWR"⟩],
    .stationChanges [.handoff ⟨"LOWW"⟩ ⟨"LOWW_TWR"⟩ ⟨"LOVV_CTR"⟩, .offline ⟨"LOVV"⟩],
    .clientConnected ⟨⟨"LOWW"⟩, "LOWW_TWR", "119.400", none⟩,
    .clientInfo ⟨⟨"LOWW"⟩, "LOWW_TWR", "123.800", none⟩]

theorem quietSession_agrees :
    (quietSession.foldl handle attached).Agree ∧
      (quietSession.foldl handle attached).cache.stations = [⟨⟨"LOWW"⟩, true⟩] := by
  have guarded : Guarded (fun views message => some (handle views message))
      (fun views message => views.announcesNew message = true) attached quietSession := by
    decide +kernel
  exact ⟨snapshot_agrees guarded, by decide +kernel⟩

/-- A station that comes online twice is listed twice, so is a client that connects twice, and the
handoff of an unknown station is only noticed by the frontend. -/
theorem repeatedAnnouncements_disagree :
    ¬ ([SessionMessage.stationChanges [.online ⟨"LOWW"⟩ ⟨"LOWW_TWR"⟩],
        .stationChanges [.online ⟨"LOWW"⟩ ⟨"LOVV_CTR"⟩]].foldl handle attached).Agree ∧
      ¬ ([SessionMessage.clientConnected lovvInfo, .clientConnected lovvInfo].foldl handle
        attached).Agree ∧
      ¬ ([SessionMessage.stationChanges [.handoff ⟨"LOWW"⟩ ⟨"LOWW_TWR"⟩ ⟨"LOVV_CTR"⟩]].foldl handle
        attached).Agree := by
  refine ⟨fun agree => ?_, fun agree => ?_, fun agree => ?_⟩
  · exact absurd agree.stationsDistinct (by decide +kernel)
  · exact absurd agree.clientsDistinct (by decide +kernel)
  · exact absurd (agree.stations ⟨"LOWW"⟩) (by decide +kernel)

end SessionViews

end App

end Vacs
