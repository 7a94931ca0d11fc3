import Vacs.Clients.Announcements
import Vacs.Signaling.Messages

/-!
# The station list of a session

A client is sent the list of its stations when it logs in, when a sync round moves it to
another position, and when it asks for it. The login and the request take position and
profile from the copy of the session that the connection has kept since the login; a
sync round takes them from the session of the client manager, which it has just
updated. A session info goes with every login and with every move.

The machine below carries out logins, logouts, sync rounds, reloads and requests one
after the other, and tracks what every client was told about its session. A request is
answered for the wrong position as soon as the copy is out of date
(`followed_position_is_not_listed`). In runs whose requests all find it up to date,
every list is for the position and the profile that its client was told last.
-/

set_option autoImplicit false

namespace Vacs

open Signaling (LoginFailureReason)

/-! ## Logging in -/

/-- What a client logs in with. -/
structure LoginRequest where
  clientId : ClientId
  customProfile : Bool
  positionId : Option PositionId
deriving DecidableEq

namespace LoginRequest

def activeProfile (request : LoginRequest) (position : Option Position) :
    ActiveProfile ProfileId :=
  if request.customProfile then .custom
  else
    match position.bind Position.profileId with
    | some profileId => .specific profileId
    | none => .none

/-- Which of the positions that match the VATSIM connection the client works. -/
def selectPosition (request : LoginRequest) (positions : List Position) :
    Except LoginFailureReason (Option Position) :=
  match positions, request.positionId with
  | [], _ => .ok none
  | [position], _ => .ok (some position)
  | positions, some targetPid =>
      match positions.find? fun position => position.id == targetPid with
      | some position => .ok (some position)
      | none => .error .invalidVatsimPosition
  | positions, none => .error (.ambiguousVatsimPosition (positions.map Position.id))

def resolveVatsimPosition (request : LoginRequest) (network : Network)
    (controllerInfo : Option ControllerInfo) :
    Except LoginFailureReason (ClientInfo × ActiveProfile ProfileId) :=
  match controllerInfo.filter fun controller => controller.facilityType != .unknown with
  | none => .error .noActiveVatsimConnection
  | some controller =>
      (request.selectPosition (network.findPositions controller.callsign controller.frequency
        controller.facilityType)).map fun position =>
          ({ id := request.clientId
             displayName := controller.callsign
             frequency := controller.frequency
             positionId := position.map Position.id }, request.activeProfile position)

/-- The session that a login asks for, once protocol version and token are accepted. -/
def process (request : LoginRequest) (network : Network) (requireActiveConnection : Bool)
    (controllerInfo : Option ControllerInfo) :
    Except LoginFailureReason (ClientInfo × ActiveProfile ProfileId) :=
  if requireActiveConnection then request.resolveVatsimPosition network controllerInfo
  else
    let position := request.positionId.bind network.getPosition
    .ok ({ id := request.clientId
           displayName := request.clientId.val
           frequency := ""
           positionId := position.map Position.id }, request.activeProfile position)

/-- A client that logs in with the profile of a position logs in on this position. -/
theorem positionId_of_process {request : LoginRequest} {network : Network}
    {requireActiveConnection : Bool} {controllerInfo : Option ControllerInfo}
    {clientInfo : ClientInfo} {profileId : ProfileId}
    (accepts : request.process network requireActiveConnection controllerInfo =
      .ok (clientInfo, .specific profileId)) : clientInfo.positionId ≠ none := by
  have placed : ∀ position : Option Position,
      request.activeProfile position = .specific profileId → position.map Position.id ≠ none := by
    intro position selects
    cases position with
    | none =>
        unfold activeProfile at selects
        split at selects <;> cases selects
    | some position => exact Option.some_ne_none _
  unfold process at accepts
  split at accepts
  · unfold resolveVatsimPosition at accepts
    split at accepts
    · cases accepts
    · rename_i controller _
      cases selects : request.selectPosition (network.findPositions controller.callsign
        controller.frequency controller.facilityType) with
      | error reason =>
          rw [selects] at accepts
          cases accepts
      | ok position =>
          rw [selects] at accepts
          obtain ⟨rfl, isSelected⟩ := Prod.mk.inj (Except.ok.inj accepts)
          exact placed position isSelected
  · obtain ⟨rfl, selects⟩ := Prod.mk.inj (Except.ok.inj accepts)
    exact placed _ selects

end LoginRequest

/-! ## The machine -/

/-- The client manager, the next channel to be created, and the connections of the clients. -/
structure ListingServer where
  manager : ClientManager
  nextTx : ℕ
  connections : Connections

inductive ListingMove where
  | login (order : ClientIteration) (now : Instant) (requireActiveConnection : Bool)
      (controllerInfo : Option ControllerInfo) (request : LoginRequest)
  | logout (order : ClientIteration) (clientId : ClientId) (feed : Option (List ControllerInfo))
  | syncVatsimState (order : ClientIteration) (now : Instant)
      (controllers : HashMap ClientId ControllerInfo) (requireActiveConnection : Bool)
  | replaceNetwork (order : ClientIteration) (dataset : Dataset)
  | listStations (order : ClientIteration) (clientId : ClientId)

/-- A message to a client about its session. -/
inductive SessionNotice where
  | sessionInfo (info : SessionInfo)
  | stationList (stations : List StationInfo)
deriving DecidableEq

/-- What a login announces first. -/
def ClientManager.initialInfo (s : ClientManager) (session : ClientSession) : SessionInfo where
  client := session.clientInfo
  profile :=
    match session.activeProfile with
    | .specific profileId =>
        match s.network.getProfile profileId with
        | some profile => .changed (.specific profile)
        | none => .changed .none
    | .custom => .changed .custom
    | .none => .changed .none
  defaultCallSources :=
    ((session.positionId.bind s.network.getPosition).map Position.defaultCallSources).getD []
  maxConfSize := s.maxConfSize

namespace ListingServer

/-- What an operation leaves to be sent, in order, when it has released its locks. -/
structure Outcome where
  manager : ClientManager
  connections : Connections
  notices : List (ClientId × SessionNotice)

def new (dataset : Dataset) (positionGracePeriod : Duration) (maxConfSize : ℕ) :
    ListingServer where
  manager := .new dataset.network positionGracePeriod maxConfSize
  nextTx := 0
  connections := ∅

/-- Register the session, and greet its client from the copy that the connection keeps. -/
def login (state : ListingServer) (order : ClientIteration) (now : Instant)
    (clientInfo : ClientInfo) (activeProfile : ActiveProfile ProfileId) : Outcome :=
  match state.manager.addClient order clientInfo activeProfile state.nextTx now with
  | none => ⟨state.manager, state.connections, []⟩
  | some (manager, _) =>
      let client := ClientSession.new clientInfo activeProfile state.nextTx now
      { manager := manager
        connections := state.connections.insert clientInfo.id ⟨client, ⟨none, .none⟩⟩
        notices := [(client.id, .sessionInfo (manager.initialInfo client)),
          (client.id, .stationList
            (manager.listStations order client.activeProfile client.positionId))] }

def operate (state : ListingServer) : ListingMove → Option Outcome
  | .login order now requireActiveConnection controllerInfo request =>
      match request.process state.manager.network requireActiveConnection controllerInfo with
      | .error _ => none
      | .ok (clientInfo, activeProfile) => some (state.login order now clientInfo activeProfile)
  | .logout order clientId feed => some {
      manager := (state.manager.removeClient order clientId feed).1
      connections := state.connections.erase clientId
      notices := [] }
  | .syncVatsimState order now controllers requireActiveConnection =>
      let (manager, outcome) :=
        state.manager.syncVatsimState order now controllers requireActiveConnection
      some {
        manager := manager
        connections := state.connections
        notices := (outcome.sync.sessionInfoUpdates.map fun (session, info) =>
            (session.id, .sessionInfo info)) ++
          outcome.sync.stationListUpdates.map fun (session, profile, positionId) =>
            (session.id, .stationList (manager.listStations order profile positionId)) }
  | .replaceNetwork order dataset =>
      let (manager, sessionUpdates, _) := state.manager.replaceNetwork order dataset.network
      some {
        manager := manager
        connections := state.connections
        notices := sessionUpdates.map fun (session, info) => (session.id, .sessionInfo info) }
  | .listStations order clientId =>
      (state.connections.lookup clientId).map fun connection => {
        manager := state.manager
        connections := state.connections
        notices := [(clientId, .stationList (state.manager.listStations order
          connection.session.activeProfile connection.session.positionId))] }

/-- A client reads a notice. -/
def deliver (connections : Connections) : ClientId × SessionNotice → Connections
  | (clientId, .sessionInfo info) => connections.tell clientId info
  | (_, .stationList _) => connections

def step (state : ListingServer) (move : ListingMove) : Option ListingServer :=
  (state.operate move).map fun outcome => {
    manager := outcome.manager
    nextTx := state.nextTx + 1
    connections := outcome.notices.foldl deliver outcome.connections }

/-! ## Lists for what was announced -/

/-- The list is that of the position and the profile that the client was told last. -/
def ListsAnnounced (manager : ClientManager) (connections : Connections) (clientId : ClientId) :
    SessionNotice → Prop
  | .sessionInfo _ => True
  | .stationList stations => ∃ connection, connections.lookup clientId = some connection ∧
      ∀ order, stations = manager.listStations order connection.known.activeProfile
        connection.known.positionId

/-- Every list among the notices is for what its client was told before. -/
def AllAnnounced (manager : ClientManager) : Connections → List (ClientId × SessionNotice) → Prop
  | _, [] => True
  | connections, notice :: later =>
      ListsAnnounced manager connections notice.1 notice.2 ∧
        AllAnnounced manager (deliver connections notice) later

/-- Every list that the move sends is for what its client was told last. -/
def Announces (state : ListingServer) (move : ListingMove) : Prop :=
  ∀ outcome ∈ state.operate move, AllAnnounced outcome.manager outcome.connections outcome.notices

/-- A client asks for its stations only while the copy of its connection has the position and
the profile of its session. -/
def UpToDate (state : ListingServer) : ListingMove → Prop
  | .listStations _ clientId => ∀ connection ∈ state.connections.lookup clientId,
      ∃ session ∈ state.manager.clients.lookup clientId,
        connection.session.positionId = session.positionId ∧
          connection.session.activeProfile = session.activeProfile
  | _ => True

/-! ## What clients were told -/

/-- What every client was told describes its session. -/
structure Informs (state : ListingServer) : Prop where
  indexed : ClientIndexed state.manager
  keyed : state.manager.network.KeyedProfiles
  described : Connections.Match (Connections.Described state.manager.network) state.connections
    state.manager.clients

/-- The list of stations does not depend on the order in which they are walked. -/
theorem listStations_order (s : ClientManager) (first second : ClientIteration)
    (profile : ActiveProfile ProfileId) (selfPositionId : Option PositionId) :
    s.listStations first profile selfPositionId = s.listStations second profile selfPositionId := by
  have sorted : ∀ stationIds : Finset StationId,
      (first.stations.list stationIds).insertionSort (· ≤ ·) =
        (second.stations.list stationIds).insertionSort (· ≤ ·) := by
    intro stationIds
    refine List.Perm.eq_of_pairwise' (List.pairwise_insertionSort _ _)
      (List.pairwise_insertionSort _ _) ?_
    exact ((List.perm_insertionSort _ _).trans
      (Enumeration.perm_list first.stations second.stations stationIds)).trans
        (List.perm_insertionSort _ _).symm
  unfold ClientManager.listStations
  cases s.network.relevantStations profile with
  | all => simp only [sorted]
  | subset stationIds => simp only [sorted]
  | none => rfl

/-- The list for a session is the one for what its client was told. -/
theorem listsAnnounced {manager : ClientManager} {connections : Connections} {clientId : ClientId}
    {connection : Connection} {session : ClientSession}
    (connected : connections.lookup clientId = some connection)
    (describes : connection.known.Describes manager.network session) (order : ClientIteration) :
    ListsAnnounced manager connections clientId (.stationList
      (manager.listStations order session.activeProfile session.positionId)) := by
  refine ⟨connection, connected, fun other => ?_⟩
  rw [describes.listStations]
  exact listStations_order manager order other _ _

section Notices

variable {manager : ClientManager}

theorem foldl_deliver_infos (infos : List (ClientSession × SessionInfo))
    (connections : Connections) :
    (infos.map fun (session, info) => (session.id, SessionNotice.sessionInfo info)).foldl deliver
      connections = connections.tellAll infos := by
  induction infos generalizing connections with
  | nil => rfl
  | cons first rest ih => exact ih _

/-- Session infos come before the notices that rely on them. -/
theorem allAnnounced_infos (infos : List (ClientSession × SessionInfo)) (connections : Connections)
    {later : List (ClientId × SessionNotice)}
    (announced : AllAnnounced manager (connections.tellAll infos) later) :
    AllAnnounced manager connections
      ((infos.map fun (session, info) => (session.id, SessionNotice.sessionInfo info)) ++ later) := by
  induction infos generalizing connections with
  | nil => exact announced
  | cons first rest ih => exact ⟨trivial, ih _ announced⟩

/-- A list changes nothing of what clients were told. -/
theorem foldl_deliver_lists {Update : Type} (updates : List Update) (client : Update → ClientId)
    (stations : Update → List StationInfo) (connections : Connections) :
    (updates.map fun update => (client update, SessionNotice.stationList (stations update))).foldl
      deliver connections = connections := by
  induction updates with
  | nil => rfl
  | cons first rest ih => exact ih

theorem allAnnounced_lists {Update : Type} (updates : List Update) (client : Update → ClientId)
    (stations : Update → List StationInfo) (connections : Connections)
    (announced : ∀ update ∈ updates,
      ListsAnnounced manager connections (client update) (.stationList (stations update))) :
    AllAnnounced manager connections
      (updates.map fun update => (client update, .stationList (stations update))) := by
  induction updates with
  | nil => trivial
  | cons first rest ih =>
      refine ⟨announced first (List.mem_cons_self ..), ih fun update member => ?_⟩
      exact announced update (List.mem_cons_of_mem _ member)

end Notices

/-! ## Every move -/

/-- The operation leaves every client informed, and lists nothing that it was not told. -/
structure Outcome.Sound (outcome : Outcome) : Prop where
  indexed : ClientIndexed outcome.manager
  keyed : outcome.manager.network.KeyedProfiles
  described : Connections.Match (Connections.Described outcome.manager.network)
    (outcome.notices.foldl deliver outcome.connections) outcome.manager.clients
  announced : AllAnnounced outcome.manager outcome.connections outcome.notices

theorem network_addClient {order : ClientIteration} {s after : ClientManager}
    {clientInfo : ClientInfo} {activeProfile : ActiveProfile ProfileId} {tx : ℕ} {now : Instant}
    {changes : List StationChange}
    (adds : s.addClient order clientInfo activeProfile tx now = some (after, changes)) :
    after.network = s.network := by
  obtain ⟨registered, registers, isAfter⟩ := Option.map_eq_some_iff.mp adds
  obtain ⟨_, rfl⟩ := ClientManager.registerSession_eq_some registers
  cases hasPosition : clientInfo.positionId with
  | none =>
      rw [hasPosition] at isAfter
      cases isAfter
      rfl
  | some positionId =>
      rw [hasPosition] at isAfter
      obtain rfl := (congrArg Prod.fst isAfter).symm
      exact ClientManager.network_staffPosition ..

/-- Whoever hears the first session info knows its session. -/
theorem describes_initialInfo {s : ClientManager} (keyed : s.network.KeyedProfiles)
    (session : ClientSession)
    (placed : ∀ profileId, session.activeProfile = .specific profileId →
      session.positionId ≠ none) (known : KnownSession) :
    (known.hear (s.initialInfo session)).Describes s.network session := by
  refine ⟨rfl, ?_⟩
  cases selected : session.activeProfile with
  | custom =>
      left
      simp [KnownSession.hear, ClientManager.initialInfo, selected, SessionProfile.follow,
        ActiveProfile.reference]
  | none =>
      left
      simp [KnownSession.hear, ClientManager.initialInfo, selected, SessionProfile.follow,
        ActiveProfile.reference]
  | specific profileId =>
      cases found : s.network.getProfile profileId with
      | some profile =>
          left
          simp [KnownSession.hear, ClientManager.initialInfo, selected, found,
            SessionProfile.follow, ActiveProfile.reference, keyed _ _ found]
      | none =>
          refine .inr ⟨placed profileId selected, profileId, ⟨?_, selected⟩, found⟩
          simp [KnownSession.hear, ClientManager.initialInfo, selected, found,
            SessionProfile.follow, ActiveProfile.reference]

variable {state : ListingServer}

theorem Informs.login (informs : state.Informs) (order : ClientIteration) (now : Instant)
    {clientInfo : ClientInfo} {activeProfile : ActiveProfile ProfileId}
    (placed : ∀ profileId, activeProfile = .specific profileId → clientInfo.positionId ≠ none) :
    (state.login order now clientInfo activeProfile).Sound := by
  unfold ListingServer.login
  cases adds : state.manager.addClient order clientInfo activeProfile state.nextTx now with
  | none => exact ⟨informs.indexed, informs.keyed, informs.described, trivial⟩
  | some added =>
      obtain ⟨manager, changes⟩ := added
      have sameNetwork := network_addClient adds
      have keyed : manager.network.KeyedProfiles := sameNetwork ▸ informs.keyed
      let client := ClientSession.new clientInfo activeProfile state.nextTx now
      have describes := describes_initialInfo keyed client placed ⟨none, .none⟩
      have greeted := Connections.tell_insert state.connections clientInfo.id
        ⟨client, ⟨none, .none⟩⟩ (manager.initialInfo client)
      have told : Connections.tell (state.connections.insert clientInfo.id ⟨client, ⟨none, .none⟩⟩)
          client.id (manager.initialInfo client) = _ := greeted
      refine ⟨ClientManager.addClient_indexed order informs.indexed adds, keyed, ?_, trivial, ?_,
        trivial⟩
      · simp only [List.foldl_cons, List.foldl_nil, deliver]
        rw [told, StationServer.clients_addClient adds, sameNetwork]
        exact informs.described.insert ⟨rfl, sameNetwork ▸ describes⟩
      · simp only [deliver]
        rw [told]
        exact listsAnnounced (Finmap.lookup_insert _) describes order

theorem Informs.logout (informs : state.Informs) (order : ClientIteration) (clientId : ClientId)
    (feed : Option (List ControllerInfo)) :
    Outcome.Sound ⟨(state.manager.removeClient order clientId feed).1,
      state.connections.erase clientId, []⟩ := by
  obtain ⟨sameNetwork, sessions⟩ :=
    ClientManager.removeClient_sessions order state.manager clientId feed
  refine ⟨ClientManager.removeClient_indexed order clientId feed informs.indexed, ?_, ?_, trivial⟩
  · rw [sameNetwork]
    exact informs.keyed
  · rw [sameNetwork, sessions]
    exact informs.described.erase clientId

theorem Informs.syncVatsimState (informs : state.Informs) (order : ClientIteration) (now : Instant)
    (controllers : HashMap ClientId ControllerInfo) (requireActiveConnection : Bool) :
    ∀ outcome ∈ state.operate (.syncVatsimState order now controllers requireActiveConnection),
      outcome.Sound := by
  rintro outcome isOutcome
  cases isOutcome
  have indexed := ClientManager.syncVatsimState_indexed order now controllers
    requireActiveConnection informs.indexed
  have tells := ClientManager.syncClientPositions_tells order informs.keyed now controllers
    requireActiveConnection informs.described
  refine ⟨indexed, informs.keyed, ?_, ?_⟩
  · simp only [List.foldl_append]
    rw [foldl_deliver_infos, foldl_deliver_lists]
    exact tells.described
  · apply allAnnounced_infos
    apply allAnnounced_lists
    rintro ⟨session, profile, positionId⟩ member
    obtain ⟨_, current, isCurrent, rfl, rfl⟩ := tells.lists _ member
    obtain ⟨connection, connected, _, describes⟩ := tells.described.of_session isCurrent
    have describes : connection.known.Describes (state.manager.syncVatsimState order now controllers
      requireActiveConnection).1.network current := describes
    exact listsAnnounced connected describes order

theorem Informs.replaceNetwork (informs : state.Informs) (order : ClientIteration)
    (dataset : Dataset) :
    ∀ outcome ∈ state.operate (.replaceNetwork order dataset), outcome.Sound := by
  rintro outcome isOutcome
  cases isOutcome
  have tells := ClientManager.reloadSessions_tells order dataset.profiles informs.indexed.staffing
    informs.described
  refine ⟨ClientManager.replaceNetwork_indexed order dataset.network informs.indexed,
    dataset.profiles, ?_, ?_⟩
  · simp only
    rw [foldl_deliver_infos]
    exact tells
  · simp only
    rw [← List.append_nil (List.map _ _)]
    exact allAnnounced_infos _ _ trivial

/-- A request finds nothing changed. -/
theorem Informs.listStations (informs : state.Informs) {order : ClientIteration}
    {clientId : ClientId} (upToDate : state.UpToDate (.listStations order clientId)) :
    ∀ outcome ∈ state.operate (.listStations order clientId), outcome.Sound := by
  intro outcome isOutcome
  obtain ⟨connection, connected, rfl⟩ := Option.map_eq_some_iff.mp isOutcome
  refine ⟨informs.indexed, informs.keyed, informs.described, ?_, trivial⟩
  obtain ⟨session, found, position, profile⟩ := upToDate connection connected
  obtain ⟨_, isConnection, _, describes⟩ := informs.described.of_session found
  rw [connected] at isConnection
  cases isConnection
  simp only
  rw [position, profile]
  exact listsAnnounced connected describes order

/-- A move whose request finds the copy up to date lists what was announced. -/
theorem Informs.operate (informs : state.Informs) {move : ListingMove}
    (upToDate : state.UpToDate move) {outcome : Outcome}
    (isOutcome : state.operate move = some outcome) : outcome.Sound := by
  cases move with
  | login order now requireActiveConnection controllerInfo request =>
      cases accepts : request.process state.manager.network requireActiveConnection
          controllerInfo with
      | error reason =>
          simp only [ListingServer.operate, accepts] at isOutcome
          cases isOutcome
      | ok session =>
          obtain ⟨clientInfo, activeProfile⟩ := session
          simp only [ListingServer.operate, accepts] at isOutcome
          cases isOutcome
          refine informs.login order now fun profileId selected => ?_
          exact LoginRequest.positionId_of_process (selected ▸ accepts)
  | logout order clientId feed =>
      cases isOutcome
      exact informs.logout order clientId feed
  | syncVatsimState order now controllers requireActiveConnection =>
      exact informs.syncVatsimState order now controllers requireActiveConnection outcome isOutcome
  | replaceNetwork order dataset => exact informs.replaceNetwork order dataset outcome isOutcome
  | listStations order clientId => exact informs.listStations upToDate outcome isOutcome

theorem Informs.step (informs : state.Informs) {move : ListingMove} {next : ListingServer}
    (upToDate : state.UpToDate move) (steps : state.step move = some next) : next.Informs := by
  obtain ⟨outcome, isOutcome, rfl⟩ := Option.map_eq_some_iff.mp steps
  have sound := informs.operate upToDate isOutcome
  exact ⟨sound.indexed, sound.keyed, sound.described⟩

theorem new_informs (dataset : Dataset) (positionGracePeriod : Duration) (maxConfSize : ℕ) :
    (new dataset positionGracePeriod maxConfSize).Informs where
  indexed := ClientManager.new_indexed _ _ _
  keyed := dataset.profiles
  described _ := .none

end ListingServer

/-- In every run whose requests all find the copy of their connection up to date, every list of
stations that a client is sent is that of the position and the profile it was told last. -/
theorem lists_announced (dataset : Dataset) (positionGracePeriod : Duration) (maxConfSize : ℕ)
    {moves : List ListingMove} {final : ListingServer}
    (upToDate : GuardedRuns.Guarded ListingServer.step ListingServer.UpToDate
      (.new dataset positionGracePeriod maxConfSize) moves)
    (runs : GuardedRuns.runMoves ListingServer.step (.new dataset positionGracePeriod maxConfSize)
      moves = some final) :
    GuardedRuns.Guarded ListingServer.step ListingServer.Announces
      (.new dataset positionGracePeriod maxConfSize) moves := by
  have kept : ∀ state move next, ListingServer.Informs state → state.UpToDate move →
      state.step move = some next → next.Informs :=
    fun state move next informs upToDate steps => informs.step upToDate steps
  refine upToDate.strengthen kept ?_ runs (ListingServer.new_informs _ _ _)
  intro state move next informs upToDate _ outcome isOutcome
  exact (informs.operate upToDate isOutcome).announced

/-! ### A client that moves to another sector -/

instance (state : ListingServer) : ∀ move, Decidable (state.UpToDate move)
  | .listStations .. => inferInstanceAs (Decidable (∀ connection ∈ _, ∃ session ∈ _, _ ∧ _))
  | .login .. | .logout .. | .syncVatsimState .. | .replaceNetwork .. => isTrue trivial

/-- Two positions for one station, which is on the profile of the first only. -/
def twoProfiles : Dataset where
  network := .ofEntries
    [⟨⟨"LOVV_CTR"⟩, ∅, "132.600", .enroute, some ⟨"LOVV"⟩, [], ∅⟩,
      ⟨⟨"LOVV_E_CTR"⟩, ∅, "134.350", .enroute, some ⟨"LOVV_E"⟩, [], ∅⟩]
    [⟨⟨"LOVV"⟩, [⟨"LOVV_CTR"⟩, ⟨"LOVV_E_CTR"⟩]⟩]
    [⟨⟨"LOVV"⟩, {⟨"LOVV"⟩}⟩, ⟨⟨"LOVV_E"⟩, ∅⟩]
  profiles _ _ found := Finmap.key_of_lookup_indexBy Profile.id _ found

/-- The client logs in on the first position. -/
def firstSectorLogin : ListingMove :=
  .login .increasing 0 true (some ⟨⟨"10000001"⟩, "LOVV_CTR", "132.600", .enroute, none⟩)
    ⟨⟨"10000001"⟩, false, none⟩

/-- The data feed has it on the second one. -/
def secondSectorRound : ListingMove :=
  .syncVatsimState .increasing 1 (ControllerInfo.indexByCid
    [⟨⟨"10000001"⟩, "LOVV_E_CTR", "134.350", .enroute, none⟩]) true

def stationsRequest : ListingMove := .listStations .increasing ⟨"10000001"⟩

/-- The client asks while it is on the first position, and is then moved to the second. -/
theorem lists_announced_askedBefore :
    ∃ final, GuardedRuns.runMoves ListingServer.step (.new twoProfiles 0 3)
        [firstSectorLogin, stationsRequest, secondSectorRound] = some final ∧
      GuardedRuns.Guarded ListingServer.step ListingServer.Announces (.new twoProfiles 0 3)
        [firstSectorLogin, stationsRequest, secondSectorRound] := by
  have runs : (GuardedRuns.runMoves ListingServer.step (.new twoProfiles 0 3)
      [firstSectorLogin, stationsRequest, secondSectorRound]).isSome = true := by
    decide +kernel
  obtain ⟨final, runs⟩ := Option.isSome_iff_exists.mp runs
  exact ⟨final, runs, lists_announced twoProfiles 0 3 (by decide +kernel) runs⟩

/-- The client asks when it is on the second position, and is sent the stations of the first. -/
theorem followed_position_is_not_listed :
    ¬∀ (dataset : Dataset) (positionGracePeriod : Duration) (maxConfSize : ℕ)
      (moves : List ListingMove) (final : ListingServer),
      GuardedRuns.runMoves ListingServer.step (.new dataset positionGracePeriod maxConfSize)
          moves = some final →
        GuardedRuns.Guarded ListingServer.step ListingServer.Announces
          (.new dataset positionGracePeriod maxConfSize) moves := by
  intro announces
  have asked : (GuardedRuns.runMoves ListingServer.step (.new twoProfiles 0 3)
      ([firstSectorLogin, secondSectorRound] ++ [stationsRequest])).isSome = true := by
    decide +kernel
  obtain ⟨final, runs⟩ := Option.isSome_iff_exists.mp asked
  have outdated : (GuardedRuns.runMoves ListingServer.step (.new twoProfiles 0 3)
      [firstSectorLogin, secondSectorRound]).any (fun state => decide (
        ∃ connection ∈ state.connections.lookup ⟨"10000001"⟩,
          connection.known = ⟨some ⟨"LOVV_E_CTR"⟩, .specific ⟨"LOVV_E"⟩⟩ ∧
          state.manager.listStations .increasing connection.session.activeProfile
            connection.session.positionId = [⟨⟨"LOVV"⟩, false⟩] ∧
          state.manager.listStations .increasing connection.known.activeProfile
            connection.known.positionId = [])) = true := by
    decide +kernel
  obtain ⟨state, moved, holds⟩ := (Option.any_eq_true _ _).mp outdated
  obtain ⟨connection, connected, _, listed, told⟩ := of_decide_eq_true holds
  have asks := ((announces twoProfiles 0 3 _ final runs).later moved).1
  have isOutcome : state.operate stationsRequest = some ⟨state.manager, state.connections,
      [(⟨"10000001"⟩, .stationList (state.manager.listStations .increasing
        connection.session.activeProfile connection.session.positionId))]⟩ := by
    simp only [stationsRequest, ListingServer.operate, Option.mem_def.mp connected, Option.map_some]
  obtain ⟨other, isConnection, same⟩ := (asks _ isOutcome).1
  rw [Option.mem_def.mp connected] at isConnection
  cases isConnection
  have equal := same .increasing
  rw [listed, told] at equal
  cases equal

end Vacs
