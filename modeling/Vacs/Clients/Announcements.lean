import Vacs.Clients.StationOrder
import Vacs.Clients.SyncOrder

/-!
# What clients are told about their sessions

A session info tells a client its position and, if that changed, its profile. Sync
rounds and reloads send one to every client whose session they move to another
position or profile, so that what a client was told last describes the session that
the client manager has for it (`syncClientPositions_described`,
`reloadSessions_described`).

A profile that the network does not have is announced as none. A client on a position
that refers to such a profile is told none while its session has it selected; for both
there are no stations to list.
-/

set_option autoImplicit false

namespace Vacs

/-- Every profile is kept under its own id, as the loader enters them. -/
def Network.KeyedProfiles (network : Network) : Prop :=
  ∀ key profile, network.profiles.lookup key = some profile → profile.id = key

/-- A network as it is loaded. -/
structure Dataset where
  network : Network
  profiles : network.KeyedProfiles

/-! ## Announcements -/

/-- The selection of a profile, by its id. -/
def ActiveProfile.reference : ActiveProfile Profile → ActiveProfile ProfileId
  | .specific profile => .specific profile.id
  | .custom => .custom
  | .none => .none

/-- The profile of a client that is told about it. -/
def SessionProfile.follow (told : ActiveProfile ProfileId) :
    SessionProfile → ActiveProfile ProfileId
  | .unchanged => told
  | .changed profile => profile.reference

/-- What a client knows of its session: position and profile, as it was last told. -/
structure KnownSession where
  positionId : Option PositionId
  activeProfile : ActiveProfile ProfileId
deriving DecidableEq

namespace KnownSession

def hear (known : KnownSession) (info : SessionInfo) : KnownSession where
  positionId := info.client.positionId
  activeProfile := info.profile.follow known.activeProfile

/-- The client was told that it has no profile, and its session has one selected. -/
structure Lacks (known : KnownSession) (session : ClientSession) (profileId : ProfileId) :
    Prop where
  told : known.activeProfile = .none
  selected : session.activeProfile = .specific profileId

/-- What the client was told is right, apart from a profile that the network does not have. -/
structure Describes (network : Network) (known : KnownSession) (session : ClientSession) :
    Prop where
  position : known.positionId = session.positionId
  profile : known.activeProfile = session.activeProfile ∨
    session.positionId ≠ none ∧
      ∃ profileId, known.Lacks session profileId ∧ network.getProfile profileId = none

/-- The stations for what a client was told are those of its session. -/
theorem Describes.listStations {known : KnownSession} {session : ClientSession}
    {s : ClientManager} (describes : known.Describes s.network session)
    (order : ClientIteration) :
    s.listStations order known.activeProfile known.positionId =
      s.listStations order session.activeProfile session.positionId := by
  rw [describes.position]
  rcases describes.profile with same | ⟨_, profileId, lacks, missing⟩
  · rw [same]
  · have absent : s.network.profiles.lookup profileId = none := missing
    have nothing : s.network.relevantStations (.specific profileId) = .none := by
      simp only [Network.relevantStations, absent]
    unfold ClientManager.listStations
    rw [lacks.told, lacks.selected, nothing]
    rfl

/-- A session with the same position and profile is described as well. -/
theorem Describes.congr {network : Network} {known : KnownSession}
    {session session' : ClientSession} (describes : known.Describes network session)
    (position : session'.positionId = session.positionId)
    (profile : session'.activeProfile = session.activeProfile) :
    known.Describes network session' where
  position := describes.position.trans position.symm
  profile := by
    rcases describes.profile with same | ⟨placed, profileId, lacks, missing⟩
    · exact .inl (same.trans profile.symm)
    · refine .inr ⟨position ▸ placed, profileId, ⟨lacks.told, ?_⟩, missing⟩
      exact profile.trans lacks.selected

end KnownSession

/-- Whoever is told about a profile that follows a position knows it, or it stayed as it was. -/
theorem ClientSession.Follows.told {network : Network} (keyed : network.KeyedProfiles)
    {session : ClientSession} {newProfileId : Option ProfileId}
    {outcome : ClientSession × SessionProfile}
    (follows : session.Follows newProfileId network outcome) (told : ActiveProfile ProfileId) :
    outcome.2.follow told = outcome.1.activeProfile ∨
      outcome = (session, .unchanged) ∧ ∀ profileId,
        session.activeProfile = .specific profileId → newProfileId = some profileId := by
  cases follows with
  | stays same => exact .inr ⟨rfl, same⟩
  | clears => exact .inl rfl
  | selects isNew known => exact .inl (congrArg _ (keyed _ _ known))

/-! ## Connections -/

/-- A connection: its own copy of the session, from the login, and what its client was told. -/
structure Connection where
  session : ClientSession
  known : KnownSession
deriving DecidableEq

/-- The connections of the clients, one for each session. -/
abbrev Connections : Type := HashMap ClientId Connection

namespace Connections

def tell (connections : Connections) (clientId : ClientId) (info : SessionInfo) : Connections :=
  match connections.lookup clientId with
  | none => connections
  | some connection => connections.insert clientId
      { connection with known := connection.known.hear info }

/-- Send the session infos one after the other. -/
def tellAll (connections : Connections) (infos : List (ClientSession × SessionInfo)) :
    Connections :=
  infos.foldl (fun connections told => connections.tell told.1.id told.2) connections

theorem lookup_tell (connections : Connections) (clientId other : ClientId)
    (info : SessionInfo) :
    (connections.tell clientId info).lookup other =
      (connections.lookup other).map fun connection =>
        if other = clientId then
          { connection with known := connection.known.hear info }
        else connection := by
  unfold tell
  by_cases same : other = clientId
  · subst same
    cases found : connections.lookup other with
    | none => exact found
    | some connection => simp
  · cases connections.lookup clientId with
    | none => simp [same]
    | some connection =>
        rw [Finmap.lookup_insert_of_ne _ same]
        simp [same]

theorem tellAll_append (connections : Connections)
    (earlier later : List (ClientSession × SessionInfo)) :
    connections.tellAll (earlier ++ later) = (connections.tellAll earlier).tellAll later :=
  List.foldl_append

/-- Every client has a connection, and every connection its client, and the two are related. -/
def Match (related : ClientId → Connection → ClientSession → Prop) (connections : Connections)
    (clients : HashMap ClientId ClientSession) : Prop :=
  ∀ clientId, Option.Rel (related clientId) (connections.lookup clientId)
    (clients.lookup clientId)

/-- What the client was told describes its session. -/
def Described (network : Network) (clientId : ClientId) (connection : Connection)
    (session : ClientSession) : Prop :=
  session.id = clientId ∧ connection.known.Describes network session

theorem Match.of_session {related : ClientId → Connection → ClientSession → Prop}
    {connections : Connections} {clients : HashMap ClientId ClientSession}
    (matched : Match related connections clients) {clientId : ClientId} {session : ClientSession}
    (found : clients.lookup clientId = some session) :
    ∃ connection, connections.lookup clientId = some connection ∧
      related clientId connection session := by
  have matched := matched clientId
  rw [found] at matched
  generalize connections.lookup clientId = connected at matched ⊢
  cases matched with
  | some related => exact ⟨_, rfl, related⟩

theorem Match.imp {related related' : ClientId → Connection → ClientSession → Prop}
    {connections : Connections} {clients : HashMap ClientId ClientSession}
    (matched : Match related connections clients)
    (weaken : ∀ clientId connection session, clients.lookup clientId = some session →
      related clientId connection session → related' clientId connection session) :
    Match related' connections clients := by
  intro clientId
  have matched := matched clientId
  generalize connections.lookup clientId = connected at matched ⊢
  cases found : clients.lookup clientId with
  | none =>
      rw [found] at matched
      cases matched
      exact .none
  | some session =>
      rw [found] at matched
      cases matched with
      | some related => exact .some (weaken clientId _ session found related)

theorem Match.insert {related : ClientId → Connection → ClientSession → Prop}
    {connections : Connections} {clients : HashMap ClientId ClientSession}
    (matched : Match related connections clients) {clientId : ClientId} {connection : Connection}
    {session : ClientSession} (own : related clientId connection session) :
    Match related (connections.insert clientId connection) (clients.insert clientId session) := by
  intro other
  rw [Finmap.lookup_insert_eq, Finmap.lookup_insert_eq]
  split
  · rename_i same
    exact .some (same ▸ own)
  · exact matched other

theorem Match.erase {related : ClientId → Connection → ClientSession → Prop}
    {connections : Connections} {clients : HashMap ClientId ClientSession}
    (matched : Match related connections clients) (clientId : ClientId) :
    Match related (connections.erase clientId) (clients.erase clientId) := by
  intro other
  rw [Finmap.lookup_erase_eq, Finmap.lookup_erase_eq]
  split
  · exact .none
  · exact matched other

theorem tell_insert (connections : Connections) (clientId : ClientId) (connection : Connection)
    (info : SessionInfo) :
    Connections.tell (connections.insert clientId connection) clientId info =
      connections.insert clientId { connection with known := connection.known.hear info } := by
  unfold tell
  rw [Finmap.lookup_insert]
  exact Finmap.insert_insert _

theorem lookup_tellAll_own (connections : Connections) {clientId : ClientId}
    {session : ClientSession} (named : session.id = clientId) (infos : List SessionInfo)
    (other : ClientId) :
    (connections.tellAll (infos.map fun info => (session, info))).lookup other =
      (connections.lookup other).map fun connection =>
        if other = clientId then
          { connection with known := infos.foldl KnownSession.hear connection.known }
        else connection := by
  subst named
  induction infos generalizing connections with
  | nil => simp [tellAll]
  | cons info infos ih =>
      have first : connections.tellAll ((info :: infos).map fun info => (session, info)) =
          (connections.tell session.id info).tellAll (infos.map fun info => (session, info)) := rfl
      rw [first, ih, lookup_tell, Option.map_map]
      apply Option.map_congr
      intro connection _
      by_cases same : other = session.id <;> simp [same]

/-- One session is updated, and its client is told what there is to tell. -/
theorem Match.update {related related' : ClientId → Connection → ClientSession → Prop}
    {connections : Connections} {clients : HashMap ClientId ClientSession}
    (matched : Match related connections clients) {session session' : ClientSession}
    {clientId : ClientId} (named : session'.id = clientId)
    (found : clients.lookup clientId = some session) (infos : List SessionInfo)
    (own : ∀ connection, related clientId connection session → related' clientId
      { connection with known := infos.foldl KnownSession.hear connection.known } session')
    (others : ∀ other connection session, other ≠ clientId →
      related other connection session → related' other connection session) :
    Match related' (connections.tellAll (infos.map fun info => (session', info)))
      (clients.insert clientId session') := by
  intro other
  have matched := matched other
  rw [lookup_tellAll_own connections named, Finmap.lookup_insert_eq]
  by_cases same : other = clientId
  · subst same
    rw [found] at matched
    cases isFound : connections.lookup other with
    | none =>
        rw [isFound] at matched
        cases matched
    | some connection =>
        rw [isFound] at matched
        cases matched with
        | some related => simpa using Option.Rel.some (own connection related)
  · simp only [same, if_false, Option.map_id']
    generalize connections.lookup other = connection at matched ⊢
    generalize clients.lookup other = current at matched ⊢
    cases matched with
    | none => exact .none
    | some related => exact .some (others other _ _ same related)

end Connections

namespace ClientManager

/-! ## Sync rounds -/

/-- What a visit of the pass has its client told: nothing, or the position and profile that the
session was moved to, with the stations for them. -/
inductive VisitTells (network : Network) (session : ClientSession) (result : ClientPositionSync)
    (outcome : ClientSession × PositionClients × ClientPositionSync) : Prop
  | nothing (position : outcome.1.positionId = session.positionId)
      (profile : outcome.1.activeProfile = session.activeProfile)
      (infos : outcome.2.2.sessionInfoUpdates = result.sessionInfoUpdates)
      (lists : outcome.2.2.stationListUpdates = result.stationListUpdates)
  | moved (info : SessionInfo)
      (hears : ∀ known : KnownSession, known.Describes network session →
        (known.hear info).Describes network outcome.1)
      (infos : outcome.2.2.sessionInfoUpdates = result.sessionInfoUpdates ++ [(outcome.1, info)])
      (lists : outcome.2.2.stationListUpdates = result.stationListUpdates ++
        [(outcome.1, outcome.1.activeProfile, outcome.1.positionId)])

section Visits

variable {network : Network} {maxConfSize : ℕ} {cid : ClientId} {session : ClientSession}
  {onlinePositions : PositionClients} {result : ClientPositionSync}

theorem changePosition_tells (keyed : network.KeyedProfiles) (newPosition : Option Position) :
    VisitTells network session result
      (changePosition network maxConfSize cid session newPosition onlinePositions result) := by
  obtain ⟨_, _, _, relocated⟩ := relocate_eq cid
    (session.setPositionId (newPosition.map Position.id)) session.positionId
    (newPosition.map Position.id) onlinePositions result
  have follows := (session.setPositionId (newPosition.map Position.id)).updateActiveProfile_follows
    (newPosition.bind Position.profileId) network
  have position := (session.setPositionId (newPosition.map Position.id)
    ).positionId_updateActiveProfile (newPosition.bind Position.profileId) network
  unfold changePosition
  simp only [relocated]
  generalize (session.setPositionId (newPosition.map Position.id)).updateActiveProfile
    (newPosition.bind Position.profileId) network = outcome at follows position ⊢
  have isAt : outcome.1.positionId = newPosition.map Position.id := position
  refine .moved _ (fun known describes => ⟨rfl, ?_⟩) rfl (by simp only [isAt])
  rcases follows.told keyed known.activeProfile with told | ⟨rfl, same⟩
  · exact .inl told
  · rcases describes.profile with isTold | ⟨_, profileId, lacks, missing⟩
    · exact .inl isTold
    · refine .inr ⟨?_, profileId, ⟨lacks.told, lacks.selected⟩, missing⟩
      have follows := same profileId lacks.selected
      intro nowhere
      rw [isAt, Option.map_eq_none_iff] at nowhere
      rw [nowhere] at follows
      cases follows

theorem followController_tells (keyed : network.KeyedProfiles) (controller : ControllerInfo) :
    VisitTells network session result
      (followController network maxConfSize controller cid session onlinePositions result) := by
  unfold followController
  simp only
  split
  · exact .nothing rfl rfl rfl rfl
  · split
    · have tells : VisitTells network session result (changePosition network maxConfSize cid
          session (network.findPositions controller.callsign controller.frequency
            controller.facilityType).head? onlinePositions result) := changePosition_tells keyed _
      cases tells with
      | nothing position profile infos lists => exact .nothing position profile infos lists
      | moved info hears infos lists => exact .moved info hears infos lists
    · exact .nothing rfl rfl rfl rfl

/-- A session that has kept its position and profile so far. -/
theorem VisitTells.of_same {session' : ClientSession}
    {outcome : ClientSession × PositionClients × ClientPositionSync}
    (tells : VisitTells network session' result outcome)
    (position : session'.positionId = session.positionId)
    (profile : session'.activeProfile = session.activeProfile) :
    VisitTells network session result outcome := by
  cases tells with
  | nothing samePosition sameProfile infos lists =>
      exact .nothing (samePosition.trans position) (sameProfile.trans profile) infos lists
  | moved info hears infos lists =>
      exact .moved info (fun known describes => hears known (describes.congr position profile))
        infos lists

theorem disconnectOrMarkPending_tells (gracePeriod : Duration) (now : Instant) :
    VisitTells network session result
      ((disconnectOrMarkPending gracePeriod now cid session result).1, onlinePositions,
        (disconnectOrMarkPending gracePeriod now cid session result).2) := by
  unfold disconnectOrMarkPending ClientSession.takePendingDisconnect
  cases session.isWithinPositionGracePeriod gracePeriod now with
  | true => exact .nothing rfl rfl rfl rfl
  | false => cases session.pendingDisconnect <;> exact .nothing rfl rfl rfl rfl

theorem syncSession_tells (keyed : network.KeyedProfiles) (gracePeriod : Duration) (now : Instant)
    (requireActiveConnection : Bool) (controller : Option ControllerInfo) :
    VisitTells network session result
      (syncSession network maxConfSize gracePeriod now requireActiveConnection controller cid
        session onlinePositions result) := by
  unfold syncSession
  split
  · split
    · exact disconnectOrMarkPending_tells gracePeriod now
    · exact .nothing rfl rfl rfl rfl
  · simp only
    split
    · exact .nothing rfl rfl rfl rfl
    · split <;> rename_i isUpdated <;> obtain ⟨rfl, _⟩ := Prod.mk.inj isUpdated
      · exact .nothing rfl rfl rfl rfl
      · exact (followController_tells keyed _).of_same rfl rfl

end Visits

open Connections

/-- Where the pass stands when the pending clients are still to be visited: everybody who was told
something knows the session that the pass left, and the stations to be listed are for it. -/
structure PassTells (s : ClientManager) (connections : Connections) (pending : List ClientId)
    (acc : HashMap ClientId ClientSession × PositionClients × ClientPositionSync) : Prop where
  nodup : pending.Nodup
  described : Match (Described s.network) (connections.tellAll acc.2.2.sessionInfoUpdates) acc.1
  lists : ∀ update ∈ acc.2.2.stationListUpdates, update.1.id ∉ pending ∧
    ∃ session, acc.1.lookup update.1.id = some session ∧
      session.activeProfile = update.2.1 ∧ session.positionId = update.2.2

theorem PassTells.visit {s : ClientManager} (keyed : s.network.KeyedProfiles) (now : Instant)
    (controllers : HashMap ClientId ControllerInfo) (requireActiveConnection : Bool)
    {connections : Connections} {cid : ClientId} {pending : List ClientId}
    {acc : HashMap ClientId ClientSession × PositionClients × ClientPositionSync}
    (before : PassTells s connections (cid :: pending) acc) :
    PassTells s connections pending
      (s.visitClient now controllers requireActiveConnection acc cid) := by
  obtain ⟨notPending, nodup⟩ := List.nodup_cons.mp before.nodup
  have notAgain : ∀ update ∈ acc.2.2.stationListUpdates, update.1.id ∉ pending :=
    fun update member listed => (before.lists update member).1 (List.mem_cons_of_mem _ listed)
  unfold visitClient
  cases found : acc.1.lookup cid with
  | none =>
      exact ⟨nodup, before.described, fun update member =>
        ⟨notAgain update member, (before.lists update member).2⟩⟩
  | some session =>
      obtain ⟨_, _, named, _⟩ := before.described.of_session found
      have tells : VisitTells s.network session acc.2.2
          (syncSession s.network s.maxConfSize s.positionGracePeriod now requireActiveConnection
            (controllers.lookup cid) cid session acc.2.1 acc.2.2) := syncSession_tells keyed ..
      have sameId : (syncSession s.network s.maxConfSize s.positionGracePeriod now
          requireActiveConnection (controllers.lookup cid) cid session acc.2.1 acc.2.2).1.id =
          session.id := syncSession_synced.id
      simp only
      generalize syncSession s.network s.maxConfSize s.positionGracePeriod now
        requireActiveConnection (controllers.lookup cid) cid session acc.2.1 acc.2.2 = outcome
        at tells sameId ⊢
      have isNamed : outcome.1.id = cid := sameId.trans named
      have kept : ∀ update ∈ acc.2.2.stationListUpdates, update.1.id ∉ pending ∧
          ∃ session, (acc.1.insert cid outcome.1).lookup update.1.id = some session ∧
            session.activeProfile = update.2.1 ∧ session.positionId = update.2.2 := by
        intro update member
        obtain ⟨unlisted, session, isFound, same⟩ := before.lists update member
        have other : update.1.id ≠ cid := fun same => unlisted (same ▸ List.mem_cons_self ..)
        exact ⟨notAgain update member, session,
          (Finmap.lookup_insert_of_ne _ other).trans isFound, same⟩
      cases tells with
      | nothing position profile infos lists =>
          refine ⟨nodup, ?_, by rwa [lists]⟩
          rw [infos]
          exact before.described.update isNamed found []
            (fun connection described => ⟨isNamed, described.2.congr position profile⟩)
            fun _ _ _ _ described => described
      | moved info hears infos lists =>
          refine ⟨nodup, ?_, ?_⟩
          · rw [infos, tellAll_append]
            exact before.described.update isNamed found [info]
              (fun connection described => ⟨isNamed, hears connection.known described.2⟩)
              fun _ _ _ _ described => described
          · rw [lists]
            intro update member
            rcases List.mem_append.mp member with earlier | isNew
            · exact kept update earlier
            · obtain rfl := List.mem_singleton.mp isNew
              exact ⟨isNamed ▸ notPending, outcome.1, isNamed ▸ Finmap.lookup_insert _, rfl, rfl⟩

/-- After the pass, whoever was told something knows the session that the pass left. -/
theorem syncClientPositions_tells (order : ClientIteration) {s : ClientManager}
    (keyed : s.network.KeyedProfiles) (now : Instant)
    (controllers : HashMap ClientId ControllerInfo) (requireActiveConnection : Bool)
    {connections : Connections} (described : Match (Described s.network) connections s.clients) :
    PassTells s connections []
      (s.syncClientPositions order now controllers requireActiveConnection) := by
  rw [syncClientPositions_eq_foldl]
  apply GuardedRuns.foldl_pending (PassTells s connections)
  · intro cid pending acc before
    exact before.visit keyed now controllers requireActiveConnection
  · exact ⟨order.clients.nodup_list _, described, fun update member => by cases member⟩

/-! ## Reloads -/

/-- Whether the client of a session knows it in the course of a reload: it does, apart from a
profile that is missing, or one that is to be announced again. -/
structure Recalled (network : Network) (surviving pending : List ClientId) (clientId : ClientId)
    (connection : Connection) (session : ClientSession) : Prop where
  named : session.id = clientId
  position : connection.known.positionId = session.positionId
  profile : connection.known.activeProfile = session.activeProfile ∨
    ∃ profileId, connection.known.Lacks session profileId ∧
      (clientId ∈ pending ∨ clientId ∈ surviving ∧ network.getProfile profileId = none)

/-- What a reload does to a session, with what it tells the client about it. -/
def Refreshes (network : Network) (surviving : List ClientId) (clientId : ClientId)
    (update : ClientSession → ClientSession × Option SessionInfo) : Prop :=
  ∀ pending connection session,
    Recalled network surviving (clientId :: pending) clientId connection session →
    Recalled network surviving [] clientId
      { connection with
        known := (update session).2.toList.foldl KnownSession.hear connection.known }
      (update session).1

theorem clearPosition_refreshes {network : Network} (keyed : network.KeyedProfiles)
    (maxConfSize : ℕ) (surviving : List ClientId) (clientId : ClientId) :
    Refreshes network surviving clientId (clearPosition network maxConfSize) := by
  intro pending connection session recalled
  have follows := (session.setPositionId none).updateActiveProfile_follows none network
  have client := (session.setPositionId none).clientInfo_updateActiveProfile none network
  unfold clearPosition
  simp only
  generalize (session.setPositionId none).updateActiveProfile none network = outcome
    at follows client ⊢
  refine ⟨?_, rfl, ?_⟩
  · exact (congrArg ClientInfo.id client).trans recalled.named
  · left
    rcases follows.told keyed connection.known.activeProfile with told | ⟨rfl, same⟩
    · exact told
    · rcases recalled.profile with isTold | ⟨profileId, lacks, _⟩
      · exact isTold
      · cases same profileId lacks.selected

theorem refreshProfile_refreshes {network : Network} (keyed : network.KeyedProfiles)
    (maxConfSize : ℕ) (position : Option Position) {surviving : List ClientId}
    {clientId : ClientId} (survives : clientId ∈ surviving) :
    Refreshes network surviving clientId (refreshProfile network maxConfSize position) := by
  intro pending connection session recalled
  have follows := session.updateActiveProfile_follows (position.bind Position.profileId) network
  unfold refreshProfile
  simp only
  generalize session.updateActiveProfile (position.bind Position.profileId) network = outcome
    at follows ⊢
  cases follows with
  | clears => exact ⟨recalled.named, rfl, .inl rfl⟩
  | selects isNew known => exact ⟨recalled.named, rfl, .inl (congrArg _ (keyed _ _ known))⟩
  | stays =>
      have unlessSelected : (∀ profileId, session.activeProfile ≠ .specific profileId) →
          connection.known.activeProfile = session.activeProfile := by
        intro unselected
        rcases recalled.profile with isTold | ⟨profileId, lacks, _⟩
        · exact isTold
        · exact absurd lacks.selected (unselected profileId)
      cases selected : session.activeProfile with
      | custom =>
          refine ⟨recalled.named, recalled.position, .inl (unlessSelected ?_)⟩
          simp [selected]
      | none =>
          refine ⟨recalled.named, recalled.position, .inl (unlessSelected ?_)⟩
          simp [selected]
      | specific profileId =>
          simp only
          cases known : network.getProfile profileId with
          | some profile =>
              refine ⟨recalled.named, rfl, .inl ?_⟩
              rw [selected]
              exact congrArg _ (keyed _ _ known)
          | none =>
              exact ⟨recalled.named, rfl, .inr ⟨profileId, ⟨rfl, selected⟩, .inr ⟨survives, known⟩⟩⟩

/-- Where the walk through the clients stands when the pending ones are still to be visited. -/
def ReloadTells (network : Network) (connections : Connections) (surviving pending : List ClientId)
    (acc : HashMap ClientId ClientSession × List (ClientSession × SessionInfo)) : Prop :=
  Match (Recalled network surviving pending) (connections.tellAll acc.2) acc.1

theorem ReloadTells.visit {network : Network} {connections : Connections}
    {surviving pending : List ClientId} {clientId : ClientId}
    {acc : HashMap ClientId ClientSession × List (ClientSession × SessionInfo)}
    {update : ClientSession → ClientSession × Option SessionInfo}
    (before : ReloadTells network connections surviving (clientId :: pending) acc)
    (refreshes : Refreshes network surviving clientId update) :
    ReloadTells network connections surviving pending (updateSession update acc clientId) := by
  have others : ∀ other connection session, other ≠ clientId →
      Recalled network surviving (clientId :: pending) other connection session →
      Recalled network surviving pending other connection session := by
    intro other connection session different recalled
    refine ⟨recalled.named, recalled.position, recalled.profile.imp_right ?_⟩
    rintro ⟨profileId, lacks, isPending | missing⟩
    · exact ⟨profileId, lacks, .inl (List.mem_of_ne_of_mem different isPending)⟩
    · exact ⟨profileId, lacks, .inr missing⟩
  unfold updateSession
  cases found : acc.1.lookup clientId with
  | none =>
      apply Match.imp before
      intro other connection session isFound recalled
      refine others other connection session (fun same => ?_) recalled
      rw [same, found] at isFound
      cases isFound
  | some session =>
      obtain ⟨connection, _, recalled⟩ := before.of_session found
      have told : acc.2 ++ ((update session).2.map fun info => ((update session).1, info)).toList =
          acc.2 ++ (update session).2.toList.map fun info => ((update session).1, info) := by
        cases (update session).2 <;> rfl
      unfold ReloadTells
      simp only [told, tellAll_append]
      refine before.update (refreshes pending connection session recalled).named found _ ?_ others
      intro connection recalled
      have refreshed := refreshes pending connection session recalled
      refine ⟨refreshed.named, refreshed.position, refreshed.profile.imp_right ?_⟩
      rintro ⟨profileId, lacks, isPending | missing⟩
      · cases isPending
      · exact ⟨profileId, lacks, .inr missing⟩

/-- Before a reload, a client that does not know its profile is on a position, so that it is still
to be visited. -/
theorem reloadTells_start (order : ClientIteration) {s : ClientManager} (network : Network)
    (staffing : Staffing s.clients s.onlinePositions) {connections : Connections}
    (described : Match (Described s.network) connections s.clients) (surviving : List ClientId) :
    ReloadTells network connections surviving
      (s.staleClients order network ++ (s.survivingClients order network).map Prod.snd)
      (s.clients, []) := by
  apply described.imp
  rintro clientId connection session found ⟨named, describes⟩
  refine ⟨named, describes.position, describes.profile.imp_right ?_⟩
  rintro ⟨placed, profileId, lacks, _⟩
  refine ⟨profileId, lacks, .inl (List.mem_append.mpr ?_)⟩
  obtain ⟨positionId, isAt⟩ := Option.ne_none_iff_exists'.mp placed
  have staffs : Staffs s.onlinePositions clientId positionId :=
    (staffing.staffed clientId positionId).mpr ⟨session, found, isAt⟩
  cases known : network.getPosition positionId with
  | some position =>
      exact .inr ((mem_survivingClients order).mpr ⟨positionId, by rw [known]; rfl, staffs⟩)
  | none => exact .inl ((mem_staleClients order).mpr ⟨positionId, by rw [known]; rfl, staffs⟩)

/-- The walk through the clients tells everybody. -/
theorem reloadSessions_recalled (order : ClientIteration) {s : ClientManager} {network : Network}
    (keyed : network.KeyedProfiles) (staffing : Staffing s.clients s.onlinePositions)
    {connections : Connections} (described : Match (Described s.network) connections s.clients) :
    ReloadTells network connections ((s.survivingClients order network).map Prod.snd) []
      (s.reloadSessions order network) := by
  have cleared : ReloadTells network connections
      ((s.survivingClients order network).map Prod.snd)
      ((s.survivingClients order network).map Prod.snd)
      ((s.staleClients order network).foldl (updateSession (clearPosition network s.maxConfSize))
        (s.clients, [])) := by
    refine GuardedRuns.foldl_pending (fun pending acc => ReloadTells network connections
      ((s.survivingClients order network).map Prod.snd)
      (pending ++ (s.survivingClients order network).map Prod.snd) acc) ?_
      (reloadTells_start order network staffing described _)
    intro clientId pending acc before
    exact before.visit (clearPosition_refreshes keyed s.maxConfSize _ clientId)
  rw [reloadSessions_eq]
  refine (GuardedRuns.foldl_pending (fun pending acc =>
    (∀ visit ∈ pending, visit.2 ∈ (s.survivingClients order network).map Prod.snd) ∧
      ReloadTells network connections ((s.survivingClients order network).map Prod.snd)
        (pending.map Prod.snd) acc) ?_ ⟨fun visit => List.mem_map_of_mem, cleared⟩).2
  rintro visit pending acc ⟨survive, before⟩
  refine ⟨fun later member => survive later (List.mem_cons_of_mem _ member), ?_⟩
  exact before.visit (refreshProfile_refreshes keyed s.maxConfSize _
    (survive visit (List.mem_cons_self ..)))

/-- After a reload, what every client was told describes its session. -/
theorem reloadSessions_tells (order : ClientIteration) {s : ClientManager} {network : Network}
    (keyed : network.KeyedProfiles) (staffing : Staffing s.clients s.onlinePositions)
    {connections : Connections} (described : Match (Described s.network) connections s.clients) :
    Match (Described network) (connections.tellAll (s.reloadSessions order network).2)
      (s.reloadSessions order network).1 := by
  have recalled := reloadSessions_recalled order keyed staffing described
  have reloaded := reloadSessions_reloaded order network staffing
  apply recalled.imp
  intro clientId connection after isAfter isRecalled
  refine ⟨isRecalled.named, isRecalled.position, isRecalled.profile.imp_right ?_⟩
  rintro ⟨profileId, lacks, isPending | ⟨survives, missing⟩⟩
  · cases isPending
  · refine ⟨?_, profileId, lacks, missing⟩
    obtain ⟨positionId, known, staffs⟩ := (mem_survivingClients order).mp survives
    obtain ⟨before, isBefore, isAt⟩ := (staffing.staffed clientId positionId).mp staffs
    have carried := reloaded clientId
    rw [isBefore, isAfter] at carried
    cases carried with
    | some kept =>
        rw [kept.position, isAt]
        simp [Option.filter, known]

end ClientManager

end Vacs
