import Vacs.Clients.Invariant

/-!
# The views of clients converge

A client that is connected before and after an operation, and keeps its position
and its profile, folds the station changes it is sent into its view. If the view
showed the visible coverage before, restricted to the stations of the profile, it
shows the visible coverage afterwards. Logins, logouts and sync rounds do this
with changes that mention no station twice.
-/

set_option autoImplicit false

namespace Vacs

/-- The station changes of an emission that a client is sent, in order: those for
it alone, then its part of those for all. -/
def Emission.sentTo (emission : Emission) (network : Network) (session : ClientSession) :
    List StationChange :=
  (emission.perClient.filter fun sent => sent.1.id == session.id).flatMap Prod.snd ++
    ClientManager.relevantChanges network session.activeProfile emission.broadcast

namespace ClientManager

/-- The view shows the visible coverage as far as the profile goes. -/
def Shows (s : ClientManager) (profile : ActiveProfile ProfileId)
    (view : HashMap StationId PositionId) : Prop :=
  ∀ stationId, view.lookup stationId = (s.network.relevantStations profile).restrict
    (fun stationId => s.visibleCoverage.lookup stationId) stationId

/-- The changes lead from what clients see in one state to what they see in
another. -/
def Tells (changes : List StationChange) (before after : ClientManager) : Prop :=
  Describes changes (seen before.onlinePositions.keys before.onlineStations.lookup)
    (seen after.onlinePositions.keys after.onlineStations.lookup)

/-- Folding what a client is sent. -/
theorem Tells.shows {changes : List StationChange} {before after : ClientManager}
    (tells : Tells changes before after) {network : Network} {profile : ActiveProfile ProfileId}
    {view : HashMap StationId PositionId} (shows : before.Shows profile view)
    (wasNetwork : (before.network.relevantStations profile) = network.relevantStations profile)
    (isNetwork : after.network = network) :
    after.Shows profile (applyChanges view (relevantChanges network profile changes)) := by
  intro stationId
  rw [relevantChanges_eq, isNetwork]
  refine ((tells.restrict (network.relevantStations profile)).lookup_applyChanges
    (fun stationId => ?_) stationId).trans ?_
  · rw [shows stationId, wasNetwork]
    simp only [RelevantStations.restrict, lookup_visibleCoverage]
  · simp only [RelevantStations.restrict, lookup_visibleCoverage]

/-! ## Logins -/

theorem staffPosition_tells (order : ClientIteration) {s : ClientManager} (covered : s.Covered)
    (clientId : ClientId) (positionId : PositionId) :
    Tells (s.staffPosition order clientId positionId).2 s
      (s.staffPosition order clientId positionId).1 := by
  unfold staffPosition Tells
  split
  · rename_i clients found
    simp only [keys_insert_of_found (Option.filter_eq_some_iff.mp found).1]
    exact Describes.nil fun _ => rfl
  · simp only
    split
    · simp only [Finmap.keys_insert_eq]
      refine describes_stationsOf order (fun _ => rfl) (fun other different => ?_)
        fun stationId covers => ?_
      · rw [Finset.mem_insert, or_iff_right different]
      · exact (seen_eq_some.mpr ⟨covers, Finset.mem_insert_self _ _⟩).symm
    · rename_i notVatsim
      have isDiff := isDiff_coverageChanges_join positionId s.network s.allPositions
      have shows := lookup_updateOnlineStations isDiff covered
      -- a position that covered a station before is online afterwards only if it was
      have stays : ∀ stationId source, s.network.coverage s.allPositions stationId = some source →
          (source ∈ insert positionId s.onlinePositions.keys ↔ source ∈ s.onlinePositions.keys) := by
        intro stationId source covers
        rw [Finset.mem_insert, or_iff_right_iff_imp]
        rintro rfl
        rcases Finset.mem_union.mp (Network.coverage_eq_some covers).1 with online | onVatsim
        · exact online
        · exact absurd onVatsim notVatsim
      simp only [Finmap.keys_insert_eq]
      rw [show s.onlineStations.lookup = s.network.coverage s.allPositions from funext covered,
        show (updateOnlineStations s.onlineStations _).lookup = _ from funext shows]
      refine describes_clientVisibleChanges isDiff ⟨?_, fun _ _ _ => Iff.rfl⟩ ?_
      · exact fun stationId source _ covers _ _ => stays stationId source covers
      · exact fun stationId source covers _ => (stays stationId source covers).symm

theorem addClient_tells (order : ClientIteration) {s after : ClientManager}
    {clientInfo : ClientInfo} {activeProfile : ActiveProfile ProfileId} {tx : ℕ} {now : Instant}
    {changes : List StationChange} (covered : s.Covered)
    (adds : s.addClient order clientInfo activeProfile tx now = some (after, changes)) :
    Tells changes s after ∧ after.network = s.network ∧
      ∀ clientId ∈ s.clients.keys, after.clients.lookup clientId = s.clients.lookup clientId := by
  obtain ⟨registered, registers, isAfter⟩ := Option.map_eq_some_iff.mp adds
  obtain ⟨absent, rfl⟩ := registerSession_eq_some registers
  have kept : ∀ clientId ∈ s.clients.keys, (s.clients.insert clientInfo.id
      (.new clientInfo activeProfile tx now)).lookup clientId = s.clients.lookup clientId := by
    intro clientId connected
    exact Finmap.lookup_insert_of_ne _ fun same => absent (same ▸ connected)
  cases hasPosition : clientInfo.positionId with
  | none =>
      rw [hasPosition] at isAfter
      cases isAfter
      exact ⟨Describes.nil fun _ => rfl, rfl, kept⟩
  | some positionId =>
      rw [hasPosition] at isAfter
      obtain ⟨isAfter, isChanges⟩ := Prod.ext_iff.mp isAfter
      simp only at isAfter isChanges
      subst isAfter isChanges
      refine ⟨staffPosition_tells order (s := { s with
        clients := s.clients.insert clientInfo.id (.new clientInfo activeProfile tx now) })
        covered _ _, network_staffPosition .., ?_⟩
      rw [clients_staffPosition]
      exact kept

/-! ## Logouts -/

theorem leavePosition_tells (order : ClientIteration) {s : ClientManager} (covered : s.Covered)
    (clientId : ClientId) (positionId : PositionId) (prefetched : Prefetched) :
    Tells (s.leavePosition order clientId positionId prefetched).2 s
      (s.leavePosition order clientId positionId prefetched).1 := by
  unfold leavePosition Tells
  split
  · exact Describes.nil fun _ => rfl
  · rename_i clients found
    split
    · split
      · simp only [keys_erase_eq]
        refine describes_stationsOf order (fun _ => rfl) (fun other different => ?_)
          fun stationId covers => ?_
        · rw [Finset.mem_erase, and_iff_right different]
        · simp [seen, covers, StationChange.target, Option.filter]
      · have isDiff := s.network.isDiff_coverageDiff s.allPositions
          (s.allPositions.erase positionId)
        have shows := lookup_updateOnlineStations isDiff covered
        -- a position that covers a station afterwards is not the one that is left
        have stays : ∀ stationId target,
            s.network.coverage (s.allPositions.erase positionId) stationId = some target →
            (target ∈ s.onlinePositions.keys ↔ target ∈ s.onlinePositions.keys.erase positionId) :=
          fun stationId target covers => by
            rw [Finset.mem_erase, and_iff_right
              (Finset.ne_of_mem_erase (Network.coverage_eq_some covers).1)]
        simp only [keys_erase_eq]
        rw [show s.onlineStations.lookup = s.network.coverage s.allPositions from funext covered,
          show (updateOnlineStations s.onlineStations _).lookup = _ from funext shows]
        refine describes_clientVisibleChanges isDiff ⟨fun _ _ _ _ _ _ => Iff.rfl, stays⟩ ?_
        exact fun stationId target _ covers => stays stationId target covers
    · simp only [keys_insert_of_found found]
      exact Describes.nil fun _ => rfl

/-- A logout tells the clients that stay connected everything. -/
theorem removeClient_tells (order : ClientIteration) {s : ClientManager} (clientId : ClientId)
    (feed : Option (List ControllerInfo)) (indexed : ClientIndexed s) :
    ((s.removeClient order clientId feed).1.clients.isEmpty = true ∧
        (s.removeClient order clientId feed).2 = []) ∨
      Tells (s.removeClient order clientId feed).2 s (s.removeClient order clientId feed).1 := by
  rw [removeClient_eq]
  cases takes : s.takeSession clientId with
  | none => exact .inr (Describes.nil fun _ => rfl)
  | some taken =>
      obtain ⟨taken, session⟩ := taken
      obtain ⟨found, rfl⟩ := takeSession_eq_some takes
      simp only
      split
      · rename_i alone
        exact .inl ⟨alone, rfl⟩
      · refine .inr ?_
        unfold departs
        split
        · exact Describes.nil fun _ => rfl
        · exact leavePosition_tells order (s := { s with clients := s.clients.erase clientId })
            indexed.covered _ _ _

theorem removeClient_sessions (order : ClientIteration) (s : ClientManager) (clientId : ClientId)
    (feed : Option (List ControllerInfo)) :
    (s.removeClient order clientId feed).1.network = s.network ∧
      (s.removeClient order clientId feed).1.clients = s.clients.erase clientId := by
  rw [removeClient_eq]
  cases takes : s.takeSession clientId with
  | none =>
      have absent : s.clients.lookup clientId = none := by simpa [takeSession] using takes
      exact ⟨rfl, (Finmap.erase_eq_self absent).symm⟩
  | some taken =>
      obtain ⟨taken, session⟩ := taken
      obtain ⟨found, rfl⟩ := takeSession_eq_some takes
      have departed : ∀ s : ClientManager, (s.departs order clientId feed session).1.network =
          s.network ∧ (s.departs order clientId feed session).1.clients = s.clients := by
        intro s
        unfold departs
        split
        · exact ⟨rfl, rfl⟩
        · exact ⟨network_leavePosition .., clients_leavePosition ..⟩
      simp only
      split <;> exact departed { s with clients := s.clients.erase clientId }

/-! ## Sync rounds -/

theorem syncVatsimState_tells (order : ClientIteration) {s : ClientManager} (now : Instant)
    (controllers : HashMap ClientId ControllerInfo) (requireActiveConnection : Bool)
    (indexed : ClientIndexed s) :
    Tells (s.syncVatsimState order now controllers requireActiveConnection).2.coverageChanges s
      (s.syncVatsimState order now controllers requireActiveConnection).1 := by
  have passed := syncClientPositions_passed order now controllers requireActiveConnection
    indexed.staffing
  unfold syncVatsimState
  generalize s.syncClientPositions order now controllers requireActiveConnection = pass at passed ⊢
  obtain ⟨clients, onlinePositions, sync⟩ := pass
  simp only
  split
  · have isDiff := s.network.isDiff_coverageDiff s.allPositions
      (onlinePositions.keys ∪
        (rebuildVatsimOnly order s.network controllers clients.keys onlinePositions).keys)
    have shows := lookup_updateOnlineStations isDiff indexed.covered
    rw [← funext shows, ← show s.onlineStations.lookup = _ from funext indexed.covered] at isDiff
    exact describes_syncChanges isDiff
  · rename_i unchanged
    simp only [Bool.or_eq_true, not_or, Bool.not_eq_true] at unchanged
    have same : onlinePositions.keys = s.onlinePositions.keys := passed.keys unchanged.1
    unfold Tells
    simp only [same]
    exact Describes.nil fun _ => rfl

theorem mem_computeSelfHandoffs {network : Network}
    {handoffClients : List (ClientSession × PositionId)} {coverageChanges : List StationChange}
    {allOnline : Finset PositionId} {sent : ClientSession × List StationChange}
    (member : sent ∈ computeSelfHandoffs network handoffClients coverageChanges allOnline) :
    ∃ entry ∈ handoffClients, entry.1 = sent.1 := by
  obtain ⟨entry, listed, isSent⟩ := List.mem_filterMap.mp member
  obtain ⟨position, _, isSent⟩ := Option.bind_eq_some_iff.mp isSent
  simp only at isSent
  split at isSent
  · cases isSent
  · exact ⟨entry, listed, congrArg Prod.fst (Option.some.inj isSent)⟩

/-- A client that keeps its position is sent no changes of its own. -/
theorem syncVatsimState_perClient (order : ClientIteration) {s : ClientManager} (now : Instant)
    (controllers : HashMap ClientId ControllerInfo) (requireActiveConnection : Bool)
    (indexed : ClientIndexed s) {clientId : ClientId} {before after : ClientSession}
    (wasConnected : s.clients.lookup clientId = some before)
    (isConnected : (s.syncVatsimState order now controllers
      requireActiveConnection).1.clients.lookup clientId = some after)
    (stays : after.positionId = before.positionId) :
    ∀ sent ∈ (s.syncVatsimState order now controllers requireActiveConnection).2.perClientChanges,
      sent.1.id ≠ clientId := by
  have passed := syncClientPositions_passed order now controllers requireActiveConnection
    indexed.staffing
  unfold syncVatsimState at isConnected ⊢
  generalize s.syncClientPositions order now controllers requireActiveConnection = pass
    at passed isConnected ⊢
  obtain ⟨clients, onlinePositions, sync⟩ := pass
  rintro sent member rfl
  obtain ⟨entry, listed, isSent⟩ := mem_computeSelfHandoffs member
  obtain ⟨_, earlier, later, wasEarlier, isLater, moved⟩ := passed.handoffs entry listed
  simp only at isLater isConnected
  rw [isSent, wasConnected] at wasEarlier
  rw [isSent, isConnected] at isLater
  cases wasEarlier
  cases isLater
  exact moved stays

end ClientManager

/-- Whether the operation leaves the network as it is. -/
def ClientOperation.keepsNetwork : ClientOperation → Bool
  | .replaceNetwork _ _ => false
  | _ => true

namespace ClientManager

theorem execute_tells {s : ClientManager} (indexed : ClientIndexed s) {operation : ClientOperation}
    (keepsNetwork : operation.keepsNetwork = true) :
    (s.execute operation).1.network = s.network ∧
      (((s.execute operation).1.clients.isEmpty = true ∧ (s.execute operation).2.broadcast = []) ∨
        Tells (s.execute operation).2.broadcast s (s.execute operation).1) := by
  cases operation with
  | addClient order clientInfo activeProfile tx now =>
      cases adds : s.addClient order clientInfo activeProfile tx now with
      | none =>
          simp only [execute, adds]
          exact ⟨trivial, .inr (Describes.nil fun _ => rfl)⟩
      | some added =>
          obtain ⟨tells, sameNetwork, _⟩ := addClient_tells order indexed.covered adds
          simp only [execute, adds]
          exact ⟨sameNetwork, .inr tells⟩
  | removeClient order clientId feed =>
      exact ⟨(removeClient_sessions order s clientId feed).1,
        removeClient_tells order clientId feed indexed⟩
  | syncVatsimState order now controllers requireActiveConnection =>
      exact ⟨rfl,
        .inr (syncVatsimState_tells order now controllers requireActiveConnection indexed)⟩
  | replaceNetwork order network => cases keepsNetwork

theorem execute_perClient {s : ClientManager} (indexed : ClientIndexed s)
    {operation : ClientOperation} {clientId : ClientId} {before after : ClientSession}
    (wasConnected : s.clients.lookup clientId = some before)
    (isConnected : (s.execute operation).1.clients.lookup clientId = some after)
    (stays : after.positionId = before.positionId) :
    ∀ sent ∈ (s.execute operation).2.perClient, sent.1.id ≠ clientId := by
  cases operation with
  | addClient order clientInfo activeProfile tx now =>
      cases adds : s.addClient order clientInfo activeProfile tx now <;>
        simp [execute, adds]
  | removeClient order clientId feed => simp [execute]
  | syncVatsimState order now controllers requireActiveConnection =>
      exact syncVatsimState_perClient order now controllers requireActiveConnection indexed
        wasConnected isConnected stays
  | replaceNetwork order network => simp [execute]

end ClientManager

/-- Logins, logouts and sync rounds mention no station twice in their broadcast, and
the view of every client that stays connected with its position and profile
converges to the visible coverage. -/
theorem views_converge {s : ClientManager} (indexed : ClientIndexed s)
    {operation : ClientOperation} (keepsNetwork : operation.keepsNetwork = true) :
    ((s.execute operation).2.broadcast.map StationChange.stationId).Nodup ∧
      ∀ clientId before after view, s.clients.lookup clientId = some before →
        (s.execute operation).1.clients.lookup clientId = some after →
        after.positionId = before.positionId → after.activeProfile = before.activeProfile →
        s.Shows before.activeProfile view →
        (s.execute operation).1.Shows after.activeProfile (applyChanges view
          ((s.execute operation).2.sentTo (s.execute operation).1.network after)) := by
  obtain ⟨sameNetwork, alone | tells⟩ := ClientManager.execute_tells indexed keepsNetwork
  · refine ⟨by rw [alone.2]; exact List.nodup_nil, ?_⟩
    intro clientId before after view _ isConnected
    rw [(Finmap.isEmpty_iff _).mp alone.1 clientId] at isConnected
    cases isConnected
  · refine ⟨tells.nodup, ?_⟩
    intro clientId before after view wasConnected isConnected samePosition sameProfile shows
    have isId : after.id = clientId :=
      (ClientManager.execute_indexed operation indexed).staffing.named clientId after isConnected
    have noneSent : ((s.execute operation).2.perClient.filter fun sent =>
        sent.1.id == after.id) = [] := by
      rw [List.filter_eq_nil_iff]
      intro sent member
      rw [isId, beq_iff_eq]
      exact ClientManager.execute_perClient indexed wasConnected isConnected samePosition sent
        member
    rw [Emission.sentTo, noneSent, List.flatMap_nil, List.nil_append, sameProfile]
    refine tells.shows shows ?_ rfl
    rw [sameNetwork]

/-! ## A login that a client watches -/

/-- A station that two positions may control. -/
def twoSectors : Network :=
  .ofEntries
    [⟨⟨"LOVV_CTR"⟩, ∅, "132.600", .enroute, none, [], ∅⟩,
      ⟨⟨"LOVV_E_CTR"⟩, ∅, "134.350", .enroute, none, [], ∅⟩]
    [⟨⟨"LOVV"⟩, [⟨"LOVV_CTR"⟩, ⟨"LOVV_E_CTR"⟩]⟩] []

/-- Log in a client without a position. -/
def observerLogin : ClientOperation :=
  .addClient .increasing ⟨⟨"10000002"⟩, "LOVV_OBS", "199.998", none⟩ .custom 1 0

/-- Log in a client on the preferred position of the station. -/
def controllerLogin : ClientOperation :=
  .addClient .increasing ⟨⟨"10000001"⟩, "LOVV_CTR", "132.600", some ⟨"LOVV_CTR"⟩⟩ .custom 0 0

def observed : ClientManager := (ClientManager.new twoSectors 0 3).run [observerLogin]

theorem views_converge_controllerLogin :
    ∃ after, (observed.execute controllerLogin).1.clients.lookup ⟨"10000002"⟩ = some after ∧
      (observed.execute controllerLogin).2.sentTo (observed.execute controllerLogin).1.network
        after = [.online ⟨"LOVV"⟩ ⟨"LOVV_CTR"⟩] ∧
      (observed.execute controllerLogin).1.Shows after.activeProfile (applyChanges ∅
        ((observed.execute controllerLogin).2.sentTo
          (observed.execute controllerLogin).1.network after)) := by
  refine ⟨.new ⟨⟨"10000002"⟩, "LOVV_OBS", "199.998", none⟩ .custom 1 0, by decide +kernel,
    by decide +kernel, ?_⟩
  refine (views_converge (ClientManager.run_indexed _ (ClientManager.new_indexed _ _ _)) rfl).2
    ⟨"10000002"⟩ (.new ⟨⟨"10000002"⟩, "LOVV_OBS", "199.998", none⟩ .custom 1 0) _ ∅
    (by decide +kernel) (by decide +kernel) rfl rfl fun stationId => ?_
  have nothing : observed.visibleCoverage = ∅ := by decide +kernel
  change none = RelevantStations.restrict _ (fun stationId =>
    observed.visibleCoverage.lookup stationId) stationId
  rw [nothing]
  simp [RelevantStations.restrict]

end Vacs
