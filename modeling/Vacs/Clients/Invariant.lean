import Vacs.Clients.SyncPass
import Vacs.Clients.Reload

/-!
# The client and coverage index

`ClientIndexed` is the agreement between the four maps of the client manager:
sessions and online positions agree, no position is both online and only staffed
on VATSIM, and the station map is the coverage of both kinds of positions. Every
operation keeps it, so every state reachable from an empty client manager has it.
-/

set_option autoImplicit false

namespace Vacs

/-- The maps of the client manager agree. -/
structure ClientIndexed (s : ClientManager) : Prop where
  staffing : Staffing s.clients s.onlinePositions
  disjoint : Disjoint s.onlinePositions.keys s.vatsimOnlyPositions.keys
  covered : s.Covered

/-- The operations that change the client manager, each with the orders in which it
walks the maps. -/
inductive ClientOperation where
  | addClient (order : ClientIteration) (clientInfo : ClientInfo)
      (activeProfile : ActiveProfile ProfileId) (tx : ℕ) (now : Instant)
  | removeClient (order : ClientIteration) (clientId : ClientId)
      (feed : Option (List ControllerInfo))
  | syncVatsimState (order : ClientIteration) (now : Instant)
      (controllers : HashMap ClientId ControllerInfo) (requireActiveConnection : Bool)
  | replaceNetwork (order : ClientIteration) (network : Network)

/-- What an operation emits: station changes for single clients and for all. -/
structure Emission where
  perClient : List (ClientSession × List StationChange) := []
  broadcast : List StationChange := []

namespace ClientManager

def execute (s : ClientManager) : ClientOperation → ClientManager × Emission
  | .addClient order clientInfo activeProfile tx now =>
      match s.addClient order clientInfo activeProfile tx now with
      | some (s, changes) => (s, { broadcast := changes })
      | none => (s, {})
  | .removeClient order clientId feed =>
      let (s, changes) := s.removeClient order clientId feed
      (s, { broadcast := changes })
  | .syncVatsimState order now controllers requireActiveConnection =>
      let (s, outcome) := s.syncVatsimState order now controllers requireActiveConnection
      (s, { perClient := outcome.perClientChanges, broadcast := outcome.coverageChanges })
  | .replaceNetwork order network =>
      let (s, _, changes) := s.replaceNetwork order network
      (s, { broadcast := changes })

def run (s : ClientManager) (operations : List ClientOperation) : ClientManager :=
  operations.foldl (fun s operation => (s.execute operation).1) s

theorem new_indexed (network : Network) (positionGracePeriod : Duration) (maxConfSize : ℕ) :
    ClientIndexed (new network positionGracePeriod maxConfSize) where
  staffing := by
    refine ⟨fun clientId session found => ?_, fun clientId positionId => ?_, fun _ _ found => ?_⟩
    · rw [new, Finmap.lookup_empty] at found
      cases found
    · simp [new, Staffs, SessionAt]
    · rw [new, Finmap.lookup_empty] at found
      cases found
  disjoint := Finset.disjoint_empty_left _
  covered stationId := by
    have uncovered : network.coverage ∅ stationId = none := by
      rw [Option.eq_none_iff_forall_not_mem]
      intro positionId covers
      exact absurd (Network.coverage_eq_some covers).1 (Finset.notMem_empty _)
    rw [show (new network positionGracePeriod maxConfSize).allPositions = ∅ from rfl]
    rw [show (new network positionGracePeriod maxConfSize).network = network from rfl, uncovered]
    rfl

/-! ## Adding a client -/

theorem registerSession_eq_some {s registered : ClientManager} {clientInfo : ClientInfo}
    {activeProfile : ActiveProfile ProfileId} {tx : ℕ} {now : Instant}
    (registers : s.registerSession clientInfo activeProfile tx now = some registered) :
    clientInfo.id ∉ s.clients.keys ∧ registered = { s with
      clients := s.clients.insert clientInfo.id (.new clientInfo activeProfile tx now) } := by
  unfold registerSession at registers
  split at registers
  · cases registers
  · rename_i absent
    cases registers
    exact ⟨absent, rfl⟩

theorem not_staffs_of_absent {s : ClientManager} {clientId : ClientId}
    (staffing : Staffing s.clients s.onlinePositions) (absent : clientId ∉ s.clients.keys)
    (positionId : PositionId) : ¬Staffs s.onlinePositions clientId positionId := by
  rw [staffing.staffed]
  rintro ⟨session, found, _⟩
  exact absent ((Finmap.mem_keys_iff_lookup _ _).mpr ⟨session, found⟩)

theorem addClient_indexed (order : ClientIteration) {s after : ClientManager}
    {clientInfo : ClientInfo} {activeProfile : ActiveProfile ProfileId} {tx : ℕ} {now : Instant}
    {changes : List StationChange} (indexed : ClientIndexed s)
    (adds : s.addClient order clientInfo activeProfile tx now = some (after, changes)) :
    ClientIndexed after := by
  obtain ⟨registered, registers, isAfter⟩ := Option.map_eq_some_iff.mp adds
  obtain ⟨absent, rfl⟩ := registerSession_eq_some registers
  have free := not_staffs_of_absent indexed.staffing absent
  have named : ∀ clientId session, (s.clients.insert clientInfo.id
      (.new clientInfo activeProfile tx now)).lookup clientId = some session →
      session.id = clientId := by
    intro clientId session found
    rw [Finmap.lookup_insert_eq] at found
    split at found
    · rename_i same
      cases found
      exact same.symm
    · exact indexed.staffing.named clientId session found
  have isAt : (ClientSession.new clientInfo activeProfile tx now).positionId =
      clientInfo.positionId := rfl
  cases hasPosition : clientInfo.positionId with
  | none =>
      rw [hasPosition] at isAfter
      cases isAfter
      refine ⟨⟨named, fun clientId positionId => ?_, indexed.staffing.occupied⟩, indexed.disjoint,
        indexed.covered⟩
      rw [sessionAt_insert, isAt, hasPosition]
      split
      · rename_i same
        subst same
        simp [free]
      · exact indexed.staffing.staffed clientId positionId
  | some own =>
      rw [hasPosition] at isAfter
      simp only at isAfter
      have isAfter := (congrArg Prod.fst isAfter).symm
      simp only at isAfter
      subst isAfter
      refine ⟨⟨?_, fun clientId positionId => ?_, ?_⟩, ?_, ?_⟩
      · rw [clients_staffPosition]
        exact named
      · rw [clients_staffPosition, onlinePositions_staffPosition, staffs_join, sessionAt_insert,
          isAt, hasPosition]
        split
        · rename_i same
          subst same
          simp [free, eq_comm]
        · rename_i different
          simpa [different] using indexed.staffing.staffed clientId positionId
      · rw [onlinePositions_staffPosition]
        exact occupied_join indexed.staffing.occupied
      · exact disjoint_staffPosition order _ clientInfo.id own indexed.disjoint
      · exact covered_staffPosition order _ clientInfo.id own indexed.covered

/-! ## Removing a client -/

theorem takeSession_eq_some {s taken : ClientManager} {clientId : ClientId}
    {session : ClientSession} (takes : s.takeSession clientId = some (taken, session)) :
    s.clients.lookup clientId = some session ∧
      taken = { s with clients := s.clients.erase clientId } := by
  obtain ⟨found, isFound, isTaken⟩ := Option.map_eq_some_iff.mp takes
  cases isTaken
  exact ⟨isFound, rfl⟩

/-- The section of `removeClient` between taking the session and the last check. -/
def departs (order : ClientIteration) (s : ClientManager) (clientId : ClientId)
    (feed : Option (List ControllerInfo)) (session : ClientSession) :
    ClientManager × List StationChange :=
  match session.positionId with
  | none => (s, [])
  | some positionId =>
      s.leavePosition order clientId positionId
        (if s.needsFetch positionId then some (feed, s.clients.keys) else none)

theorem removeClient_eq (order : ClientIteration) (s : ClientManager) (clientId : ClientId)
    (feed : Option (List ControllerInfo)) :
    s.removeClient order clientId feed =
      match s.takeSession clientId with
      | none => (s, [])
      | some (s, session) =>
          if (s.departs order clientId feed session).1.clients.isEmpty then
            ((s.departs order clientId feed session).1.clearVatsimOnly.clearOnlineStations, [])
          else s.departs order clientId feed session := by
  unfold removeClient departs
  cases s.takeSession clientId with
  | none => rfl
  | some taken =>
      obtain ⟨taken, session⟩ := taken
      cases session.positionId <;> rfl

/-- A client that is taken out leaves its position, and the maps agree again. -/
theorem departs_indexed (order : ClientIteration) {s : ClientManager} {clientId : ClientId}
    (feed : Option (List ControllerInfo)) {session : ClientSession} (indexed : ClientIndexed s)
    (found : s.clients.lookup clientId = some session) :
    ClientIndexed ({ s with clients := s.clients.erase clientId }.departs order clientId feed
      session).1 := by
  have own : ∀ positionId, Staffs s.onlinePositions clientId positionId ↔
      session.positionId = some positionId := by
    intro positionId
    rw [indexed.staffing.staffed, SessionAt, found]
    simp
  have named : ∀ other session, (s.clients.erase clientId).lookup other = some session →
      session.id = other := by
    intro other session found
    rw [Finmap.lookup_erase_eq] at found
    split at found
    · cases found
    · exact indexed.staffing.named other session found
  unfold departs
  cases isAt : session.positionId with
  | none =>
      refine ⟨⟨named, fun other positionId => ?_, indexed.staffing.occupied⟩, indexed.disjoint,
        indexed.covered⟩
      rw [sessionAt_erase, ← indexed.staffing.staffed]
      refine ⟨fun staffs => ⟨?_, staffs⟩, fun both => both.2⟩
      rintro rfl
      rw [own, isAt] at staffs
      cases staffs
  | some positionId =>
      have staffs := (own positionId).mpr isAt
      refine ⟨⟨?_, fun other position => ?_, ?_⟩, ?_, ?_⟩
      · rw [clients_leavePosition]
        exact named
      · rw [clients_leavePosition, sessionAt_erase, ← indexed.staffing.staffed]
        refine (staffs_leavePosition order { s with clients := s.clients.erase clientId } clientId
          positionId _ staffs.onlyClient).trans ?_
        constructor
        · rintro ⟨staffs, apart⟩
          refine ⟨?_, staffs⟩
          rintro rfl
          refine apart ⟨rfl, ?_⟩
          have isPosition := (own position).mp staffs
          rw [isAt] at isPosition
          exact (Option.some.inj isPosition).symm
        · rintro ⟨apart, staffs⟩
          exact ⟨staffs, fun same => apart same.1⟩
      · exact occupied_leavePosition _ _ _ _ _ indexed.staffing.occupied
      · exact disjoint_leavePosition _ _ _ _ _ indexed.disjoint
      · exact covered_leavePosition _ _ _ _ _ indexed.covered indexed.disjoint

/-- With no session left, the cleared maps agree. -/
theorem clear_indexed {s : ClientManager} (indexed : ClientIndexed s)
    (alone : s.clients.isEmpty = true) :
    ClientIndexed s.clearVatsimOnly.clearOnlineStations where
  staffing := indexed.staffing
  disjoint := Finset.disjoint_empty_right _
  covered stationId := by
    have offline : s.onlinePositions.keys = ∅ := by
      rw [Finmap.keys_eq_empty_iff]
      intro positionId
      rw [Option.eq_none_iff_forall_not_mem]
      intro clients found
      obtain ⟨clientId, member⟩ := Finset.nonempty_iff_ne_empty.mpr
        (indexed.staffing.occupied positionId clients found)
      obtain ⟨session, connected, _⟩ :=
        (indexed.staffing.staffed clientId positionId).mp ⟨clients, found, member⟩
      rw [(Finmap.isEmpty_iff _).mp alone clientId] at connected
      cases connected
    have nothing : s.clearVatsimOnly.clearOnlineStations.allPositions = ∅ := by
      simp [allPositions, clearOnlineStations, clearVatsimOnly, offline]
    rw [nothing]
    exact ((new_indexed s.network 0 0).covered stationId)

theorem removeClient_indexed (order : ClientIteration) {s : ClientManager} (clientId : ClientId)
    (feed : Option (List ControllerInfo)) (indexed : ClientIndexed s) :
    ClientIndexed (s.removeClient order clientId feed).1 := by
  rw [removeClient_eq]
  cases takes : s.takeSession clientId with
  | none => exact indexed
  | some taken =>
      obtain ⟨taken, session⟩ := taken
      obtain ⟨found, rfl⟩ := takeSession_eq_some takes
      have departed := departs_indexed order feed indexed found
      simp only
      split
      · rename_i alone
        exact clear_indexed departed alone
      · exact departed

/-! ## Sync rounds -/

theorem disjoint_rebuildVatsimOnly (order : ClientIteration) (network : Network)
    (controllers : HashMap ClientId ControllerInfo) (vacsClientIds : Finset ClientId)
    (onlinePositions : PositionClients) :
    Disjoint onlinePositions.keys
      (rebuildVatsimOnly order network controllers vacsClientIds onlinePositions).keys := by
  unfold rebuildVatsimOnly
  refine List.foldlRecOn
    (motive := fun vatsimOnly : PositionClients => Disjoint onlinePositions.keys vatsimOnly.keys)
    _ _ (Finset.disjoint_empty_right _) ?_
  intro vatsimOnly disjoint cid _
  split
  · exact disjoint
  · split
    · exact disjoint
    · split
      · split
        · exact disjoint
        · rename_i offline
          rw [Finmap.keys_insert_eq, Finset.disjoint_insert_right]
          exact ⟨offline, disjoint⟩
      · exact disjoint

theorem syncVatsimState_indexed (order : ClientIteration) {s : ClientManager} (now : Instant)
    (controllers : HashMap ClientId ControllerInfo) (requireActiveConnection : Bool)
    (indexed : ClientIndexed s) :
    ClientIndexed (s.syncVatsimState order now controllers requireActiveConnection).1 := by
  have passed := syncClientPositions_passed order now controllers requireActiveConnection
    indexed.staffing
  unfold syncVatsimState
  generalize s.syncClientPositions order now controllers requireActiveConnection = pass at passed ⊢
  obtain ⟨clients, onlinePositions, sync⟩ := pass
  refine ⟨passed.staffing, disjoint_rebuildVatsimOnly .., fun stationId => ?_⟩
  simp only
  split
  · exact lookup_updateOnlineStations (s.network.isDiff_coverageDiff _ _) indexed.covered stationId
  · rename_i unchanged
    simp only [Bool.or_eq_true, decide_eq_true_eq, not_or, Bool.not_eq_true, ne_eq,
      not_not] at unchanged
    have same : onlinePositions.keys ∪ (rebuildVatsimOnly order s.network controllers clients.keys
        onlinePositions).keys = s.allPositions := by
      rw [← unchanged.2, passed.keys unchanged.1]
      rfl
    simp only [allPositions, same]
    exact indexed.covered stationId

/-! ## Dataset reloads -/

theorem keys_retain_known (positions : PositionClients) (network : Network)
    (positionId : PositionId) :
    positionId ∈ (positions.retain fun positionId _ =>
        (network.getPosition positionId).isSome).keys ↔
      positionId ∈ positions.keys ∧ (network.getPosition positionId).isSome = true := by
  simp only [Finmap.mem_keys_iff_lookup, Finmap.lookup_retain_eq_some]
  exact exists_and_right

theorem replaceNetwork_indexed (order : ClientIteration) {s : ClientManager} (network : Network)
    (indexed : ClientIndexed s) : ClientIndexed (s.replaceNetwork order network).1 := by
  have reloaded := reloadSessions_reloaded order network indexed.staffing
  refine ⟨⟨fun clientId session found => ?_, fun clientId positionId => ?_,
    fun positionId clients found => ?_⟩, ?_, fun stationId => ?_⟩
  · have carried := reloaded clientId
    rw [show (s.reloadSessions order network).1.lookup clientId = some session from found]
      at carried
    generalize isBefore : s.clients.lookup clientId = before at carried
    cases carried with
    | some carries =>
        rw [carries.client.id]
        exact indexed.staffing.named clientId _ isBefore
  · have carried := reloaded clientId
    have staffed := indexed.staffing.staffed clientId positionId
    have kept : Staffs (s.replaceNetwork order network).1.onlinePositions clientId positionId ↔
        Staffs s.onlinePositions clientId positionId ∧
          (network.getPosition positionId).isSome = true := by
      unfold Staffs replaceNetwork
      simp only [Finmap.lookup_retain_eq_some]
      tauto
    rw [kept, staffed]
    unfold SessionAt replaceNetwork
    simp only
    generalize s.clients.lookup clientId = before at carried
    generalize (s.reloadSessions order network).1.lookup clientId = after at carried
    cases carried with
    | none => simp
    | some carries => simp [carries.position, Option.filter_eq_some_iff]
  · exact indexed.staffing.occupied positionId clients
      ((Finmap.lookup_retain_eq_some _ _ _ _).mp found).1
  · rw [Finset.disjoint_left]
    intro positionId online onVatsim
    exact Finset.disjoint_left.mp indexed.disjoint ((keys_retain_known _ _ _).mp online).1
      ((keys_retain_known _ _ _).mp onVatsim).1
  · refine (lookup_updateOnlineStations (isDiff_computeStationDiff order _ _) (fun _ => rfl)
      stationId).trans ?_
    exact lookup_recomputeStations network _ stationId

/-! ## Runs -/

theorem execute_indexed {s : ClientManager} (operation : ClientOperation)
    (indexed : ClientIndexed s) : ClientIndexed (s.execute operation).1 := by
  cases operation with
  | addClient order clientInfo activeProfile tx now =>
      cases adds : s.addClient order clientInfo activeProfile tx now with
      | none =>
          simp only [execute, adds]
          exact indexed
      | some added =>
          simp only [execute, adds]
          exact addClient_indexed order indexed adds
  | removeClient order clientId feed => exact removeClient_indexed order clientId feed indexed
  | syncVatsimState order now controllers requireActiveConnection =>
      exact syncVatsimState_indexed order now controllers requireActiveConnection indexed
  | replaceNetwork order network => exact replaceNetwork_indexed order network indexed

/-- The maps agree in every state that operations lead to. -/
theorem run_indexed {s : ClientManager} (operations : List ClientOperation)
    (indexed : ClientIndexed s) : ClientIndexed (s.run operations) :=
  List.foldlRecOn (motive := ClientIndexed) operations _ indexed
    fun _ indexed operation _ => execute_indexed operation indexed

end ClientManager

/-- In every state reachable from an empty client manager, sessions and online
positions agree, no online position is without clients, no position is both online
and only staffed on VATSIM, and the station map is the coverage of both. -/
theorem reachable_clientIndexes (network : Network) (positionGracePeriod : Duration)
    (maxConfSize : ℕ) (operations : List ClientOperation) :
    let s := (ClientManager.new network positionGracePeriod maxConfSize).run operations
    (∀ clientId positionId,
      (∃ clients, s.onlinePositions.lookup positionId = some clients ∧ clientId ∈ clients) ↔
        ∃ session, s.clients.lookup clientId = some session ∧
          session.positionId = some positionId) ∧
    (∀ positionId, s.onlinePositions.lookup positionId ≠ some ∅) ∧
    (∀ positionId, ¬(positionId ∈ s.onlinePositions.keys ∧
      positionId ∈ s.vatsimOnlyPositions.keys)) ∧
    ∀ stationId, s.onlineStations.lookup stationId =
      (s.network.controllingPosition stationId
        (s.onlinePositions.keys ∪ s.vatsimOnlyPositions.keys)).map Position.id := by
  intro s
  have indexed : ClientIndexed s := ClientManager.run_indexed operations
    (ClientManager.new_indexed network positionGracePeriod maxConfSize)
  refine ⟨indexed.staffing.staffed, fun positionId isEmpty => ?_, fun positionId both => ?_,
    indexed.covered⟩
  · exact indexed.staffing.occupied positionId ∅ isEmpty rfl
  · exact Finset.disjoint_left.mp indexed.disjoint both.1 both.2

end Vacs
