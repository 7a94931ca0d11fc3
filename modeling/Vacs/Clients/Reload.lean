import Vacs.Clients.Staffing
import Vacs.Foundations.GuardedRuns

/-!
# What a dataset reload does to sessions and stations

A reload walks the clients of the positions that are gone and clears their
position, then walks the clients of the others and refreshes their profile. Both
loops update single sessions and never move a client to another position, so a
session ends with its position if the network still has it and without one
otherwise (`reloadSessions_reloaded`). The station map is recomputed from scratch
and the difference to the old map is folded into it; the result is the coverage
of the new network (`lookup_recomputeStations`, `isDiff_computeStationDiff`).
-/

set_option autoImplicit false

namespace Vacs

/-! ## Sessions -/

/-- The same connection, with a custom profile kept. -/
structure SameClient (before after : ClientSession) : Prop where
  id : after.id = before.id
  tx : after.tx = before.tx
  custom : before.activeProfile = .custom → after.activeProfile = .custom

theorem SameClient.refl (session : ClientSession) : SameClient session session :=
  ⟨rfl, rfl, fun custom => custom⟩

theorem SameClient.trans {first second third : ClientSession} (before : SameClient first second)
    (after : SameClient second third) : SameClient first third :=
  ⟨after.id.trans before.id, after.tx.trans before.tx,
    fun custom => after.custom (before.custom custom)⟩

theorem ClientSession.sameClient_updateActiveProfile (session : ClientSession)
    (newProfileId : Option ProfileId) (network : Network) :
    SameClient session (session.updateActiveProfile newProfileId network).1 where
  id := by simp [id]
  tx := session.tx_updateActiveProfile newProfileId network
  custom := by
    intro custom
    simp [updateActiveProfile, custom]

namespace ClientManager

/-- Every session of the first map is carried over to the second. -/
def Carried (carries : ClientId → ClientSession → ClientSession → Prop)
    (before after : HashMap ClientId ClientSession) : Prop :=
  ∀ clientId, Option.Rel (carries clientId) (before.lookup clientId) (after.lookup clientId)

section Folds

variable {update : ClientSession → ClientSession × Option SessionInfo}
  {carries : ClientId → ClientSession → ClientSession → Prop}

theorem lookup_updateSession
    (acc : HashMap ClientId ClientSession × List (ClientSession × SessionInfo))
    (clientId other : ClientId) :
    (updateSession update acc clientId).1.lookup other =
      if other = clientId then (acc.1.lookup other).map fun session => (update session).1
      else acc.1.lookup other := by
  unfold updateSession
  cases found : acc.1.lookup clientId with
  | none =>
      simp only
      split
      · rename_i same
        rw [same, found]
        rfl
      · rfl
  | some session =>
      simp only [Finmap.lookup_insert_eq]
      split
      · rename_i same
        rw [same, found]
        rfl
      · rfl

theorem Carried.refl (refl : ∀ clientId session, carries clientId session session)
    (clients : HashMap ClientId ClientSession) : Carried carries clients clients := by
  intro clientId
  cases clients.lookup clientId with
  | none => exact .none
  | some session => exact .some (refl clientId session)

theorem Carried.trans {first second third : HashMap ClientId ClientSession}
    {carries' carries'' : ClientId → ClientSession → ClientSession → Prop}
    (before : Carried carries first second) (after : Carried carries' second third)
    (compose : ∀ clientId a b c, carries clientId a b → carries' clientId b c →
      carries'' clientId a c) :
    Carried carries'' first third := by
  intro clientId
  have before := before clientId
  have after := after clientId
  revert before after
  cases first.lookup clientId <;> cases second.lookup clientId <;>
    cases third.lookup clientId <;> intro before after <;> cases before <;> cases after
  · exact .none
  · exact .some (compose clientId _ _ _ ‹_› ‹_›)

theorem Carried.imp {before after : HashMap ClientId ClientSession}
    {carries' : ClientId → ClientSession → ClientSession → Prop}
    (carried : Carried carries before after)
    (weaken : ∀ clientId first second, before.lookup clientId = some first →
      carries clientId first second → carries' clientId first second) :
    Carried carries' before after := by
  intro clientId
  have carried := carried clientId
  generalize after.lookup clientId = kept at carried ⊢
  cases found : before.lookup clientId with
  | none =>
      rw [found] at carried
      cases carried
      exact .none
  | some session =>
      rw [found] at carried
      cases carried with
      | some carries => exact .some (weaken clientId session _ found carries)

/-- One session is updated. -/
theorem Carried.updateSession (refl : ∀ clientId session, carries clientId session session)
    (acc : HashMap ClientId ClientSession × List (ClientSession × SessionInfo))
    {clientId : ClientId} (step : ∀ session, carries clientId session (update session).1) :
    Carried carries acc.1 (updateSession update acc clientId).1 := by
  intro other
  rw [lookup_updateSession]
  cases acc.1.lookup other with
  | none =>
      rw [Option.map_none, ite_self]
      exact .none
  | some session =>
      split
      · rename_i same
        subst same
        exact .some (step session)
      · exact .some (refl other session)

/-- A client that keeps its position is updated any number of times. -/
def KeepsPosition (_ : ClientId) (before after : ClientSession) : Prop :=
  SameClient before after ∧ after.positionId = before.positionId

theorem carried_refreshed (network : Network) (maxConfSize : ℕ)
    (visits : List (PositionId × ClientId))
    (acc : HashMap ClientId ClientSession × List (ClientSession × SessionInfo)) :
    Carried KeepsPosition acc.1 (visits.foldl (fun acc visit =>
      updateSession (refreshProfile network maxConfSize (network.getPosition visit.1)) acc
        visit.2) acc).1 := by
  induction visits generalizing acc with
  | nil => exact Carried.refl (fun _ session => ⟨SameClient.refl session, rfl⟩) _
  | cons visit visits ih =>
      have step : Carried KeepsPosition acc.1 (updateSession
          (refreshProfile network maxConfSize (network.getPosition visit.1)) acc visit.2).1 := by
        refine Carried.updateSession (fun _ session => ⟨SameClient.refl session, rfl⟩) acc ?_
        intro session
        exact ⟨session.sameClient_updateActiveProfile _ network, by simp [refreshProfile]⟩
      refine step.trans (ih _) fun _ first second third before after => ?_
      exact ⟨before.1.trans after.1, after.2.trans before.2⟩

/-- A client whose position is cleared if it is listed. -/
def ClearedIn (visits : List ClientId) (clientId : ClientId) (before after : ClientSession) :
    Prop :=
  SameClient before after ∧
    after.positionId = if clientId ∈ visits then none else before.positionId

theorem carried_cleared (network : Network) (maxConfSize : ℕ) (visits : List ClientId)
    (acc : HashMap ClientId ClientSession × List (ClientSession × SessionInfo)) :
    Carried (ClearedIn visits) acc.1
      (visits.foldl (updateSession (clearPosition network maxConfSize)) acc).1 := by
  induction visits generalizing acc with
  | nil => exact Carried.refl (fun _ session => ⟨SameClient.refl session, by simp⟩) _
  | cons clientId visits ih =>
      have step : Carried (ClearedIn [clientId]) acc.1
          (updateSession (clearPosition network maxConfSize) acc clientId).1 := by
        intro other
        rw [lookup_updateSession]
        cases acc.1.lookup other with
        | none =>
            rw [Option.map_none, ite_self]
            exact .none
        | some session =>
            split
            · rename_i same
              refine .some ⟨?_, by simp [clearPosition, same]⟩
              have cleared : SameClient session (session.setPositionId none) := ⟨rfl, rfl, id⟩
              exact cleared.trans (ClientSession.sameClient_updateActiveProfile _ _ _)
            · rename_i different
              exact .some ⟨SameClient.refl session, by simp [different]⟩
      refine step.trans (ih _) fun other first second third before after => ?_
      refine ⟨before.1.trans after.1, ?_⟩
      rw [after.2, before.2]
      by_cases same : other = clientId <;> by_cases listed : other ∈ visits <;>
        simp [same, listed]

end Folds

/-- What a reload makes of a session. -/
structure Reloaded (network : Network) (before after : ClientSession) : Prop where
  client : SameClient before after
  position : after.positionId =
    before.positionId.filter fun positionId => (network.getPosition positionId).isSome

/-- The clients of some of the online positions. -/
theorem mem_flatMap_clientsOn (order : ClientIteration) {onlinePositions : PositionClients}
    {test : PositionId → Prop} [DecidablePred test] {clientId : ClientId} :
    clientId ∈ (order.positions.list (onlinePositions.keys.filter test)).flatMap
        (clientsOn order onlinePositions) ↔
      ∃ positionId, test positionId ∧ Staffs onlinePositions clientId positionId := by
  simp only [List.mem_flatMap, Enumeration.mem_list, Finset.mem_filter, clientsOn,
    Finmap.mem_keys_iff_lookup, Staffs]
  constructor
  · rintro ⟨positionId, ⟨⟨clients, found⟩, passes⟩, member⟩
    exact ⟨positionId, passes, clients, found, by simpa [found] using member⟩
  · rintro ⟨positionId, passes, clients, found, member⟩
    exact ⟨positionId, ⟨⟨clients, found⟩, passes⟩, by simpa [found] using member⟩

/-- The clients of the positions that are gone, as they are walked. -/
def staleClients (order : ClientIteration) (s : ClientManager) (network : Network) :
    List ClientId :=
  (order.positions.list (s.onlinePositions.keys.filter fun positionId =>
    (network.getPosition positionId).isNone)).flatMap (clientsOn order s.onlinePositions)

/-- The clients of the other positions, with these. -/
def survivingClients (order : ClientIteration) (s : ClientManager) (network : Network) :
    List (PositionId × ClientId) :=
  (order.positions.list (s.onlinePositions.keys.filter fun positionId =>
    (network.getPosition positionId).isSome)).flatMap fun positionId =>
      (clientsOn order s.onlinePositions positionId).map fun clientId => (positionId, clientId)

theorem reloadSessions_eq (order : ClientIteration) (s : ClientManager) (network : Network) :
    s.reloadSessions order network =
      (s.survivingClients order network).foldl (fun acc visit => updateSession
          (refreshProfile network s.maxConfSize (network.getPosition visit.1)) acc visit.2)
        ((s.staleClients order network).foldl
          (updateSession (clearPosition network s.maxConfSize)) (s.clients, [])) := by
  simp only [survivingClients, staleClients, List.foldl_flatMap, List.foldl_map]
  rfl

theorem mem_staleClients (order : ClientIteration) {s : ClientManager} {network : Network}
    {clientId : ClientId} :
    clientId ∈ s.staleClients order network ↔ ∃ positionId,
      (network.getPosition positionId).isNone ∧ Staffs s.onlinePositions clientId positionId :=
  mem_flatMap_clientsOn order

theorem mem_survivingClients (order : ClientIteration) {s : ClientManager} {network : Network}
    {clientId : ClientId} :
    clientId ∈ (s.survivingClients order network).map Prod.snd ↔ ∃ positionId,
      (network.getPosition positionId).isSome ∧ Staffs s.onlinePositions clientId positionId := by
  rw [← mem_flatMap_clientsOn order]
  simp [survivingClients, List.map_flatMap]

/-- Every session keeps its position if the network still has it. -/
theorem reloadSessions_reloaded (order : ClientIteration) {s : ClientManager} (network : Network)
    (staffing : Staffing s.clients s.onlinePositions) :
    Carried (fun _ => Reloaded network) s.clients (s.reloadSessions order network).1 := by
  have cleared := carried_cleared network s.maxConfSize (s.staleClients order network)
    (s.clients, [])
  have refreshed := carried_refreshed network s.maxConfSize (s.survivingClients order network)
  have isStale : ∀ clientId before after, s.clients.lookup clientId = some before →
      ClearedIn (s.staleClients order network) clientId before after →
        Reloaded network before after := by
    intro clientId before after found cleared
    refine ⟨cleared.1, ?_⟩
    have at_iff : ∀ positionId, Staffs s.onlinePositions clientId positionId ↔
        before.positionId = some positionId := by
      intro positionId
      rw [staffing.staffed, SessionAt, found]
      simp
    rw [cleared.2]
    split
    · rename_i listed
      obtain ⟨positionId, gone, staffs⟩ := (mem_staleClients order).mp listed
      rw [(at_iff positionId).mp staffs]
      simp only [Option.isNone_iff_eq_none] at gone
      simp [Option.filter, gone]
    · rename_i unlisted
      cases isAt : before.positionId with
      | none => rfl
      | some positionId =>
          have known : (network.getPosition positionId).isSome := by
            by_contra gone
            refine unlisted ((mem_staleClients order).mpr ⟨positionId, ?_,
              (at_iff positionId).mpr isAt⟩)
            simpa using gone
          simp [Option.filter, known]
  rw [reloadSessions_eq]
  refine (cleared.imp isStale).trans (refreshed _) fun clientId first second third before after => ?_
  exact ⟨before.client.trans after.1, after.2.trans before.position⟩

/-! ## Stations -/

theorem lookup_recomputeStations (network : Network) (allPositions : Finset PositionId)
    (stationId : StationId) :
    (recomputeStations network allPositions).lookup stationId =
      network.coverage allPositions stationId := by
  -- a covered station that is not recorded yet is still ahead
  let Recorded (pending : List Station) (acc : StationCoverage) : Prop :=
    acc.lookup stationId = network.coverage allPositions stationId ∨
      (acc.lookup stationId = none ∧ ∃ station ∈ pending, station.id = stationId)
  suffices recorded : Recorded [] (recomputeStations network allPositions) by
    rcases recorded with recorded | ⟨_, _, ahead, _⟩
    · exact recorded
    · cases ahead
  refine GuardedRuns.foldl_pending Recorded (fun station pending acc recorded => ?_) ?_
  · by_cases same : station.id = stationId
    · subst same
      left
      cases controls : network.controllingPosition station.id allPositions with
      | none =>
          have uncovered : network.coverage allPositions station.id = none := by
            rw [Network.coverage, controls, Option.map_none]
          rcases recorded with recorded | ⟨unrecorded, _⟩
          · exact recorded
          · exact unrecorded.trans uncovered.symm
      | some position =>
          rw [Network.coverage, controls]
          exact Finmap.lookup_insert _
    · have ahead : Recorded pending acc := by
        refine recorded.imp_right fun unrecorded => ⟨unrecorded.1, ?_⟩
        obtain ⟨_, other, member, named⟩ := unrecorded
        rcases List.mem_cons.mp member with rfl | member
        · exact absurd named same
        · exact ⟨other, member, named⟩
      cases network.controllingPosition station.id allPositions with
      | none => exact ahead
      | some position =>
          have apart : stationId ≠ station.id := fun reversed => same reversed.symm
          simp only [Recorded, Finmap.lookup_insert_of_ne _ apart]
          exact ahead
  · cases covers : network.coverage allPositions stationId with
    | none => exact .inl covers.symm
    | some positionId => exact .inr ⟨rfl, Network.exists_mem_coveredStations covers⟩

/-! ## The difference of two station maps -/

section StationDiff

variable (order : ClientIteration) (old new : StationCoverage)

/-- The change of a station that was covered. -/
def changedStation (stationId : StationId) : Option StationChange :=
  match old.lookup stationId, new.lookup stationId with
  | some _, none => some (StationChange.offline stationId)
  | some oldPosId, some newPosId =>
      if newPosId ≠ oldPosId then some (.handoff stationId oldPosId newPosId) else none
  | none, _ => none

/-- The change of a station that was not covered. -/
def openedStation (stationId : StationId) : Option StationChange :=
  if stationId ∈ old.keys then none
  else (new.lookup stationId).map (StationChange.online stationId)

theorem computeStationDiff_eq :
    computeStationDiff order old new =
      ((order.stations.list old.keys).filterMap (changedStation old new) ++
        (order.stations.list new.keys).filterMap (openedStation old new)).insertionSort
          (· ≤ ·) := rfl

theorem changedStation_eq_some {stationId : StationId} {change : StationChange} :
    changedStation old new stationId = some change ↔ stationId ∈ old.keys ∧
      changeBetween stationId (old.lookup stationId) (new.lookup stationId) = some change := by
  rw [Finmap.mem_keys_iff_lookup]
  unfold changedStation changeBetween
  cases old.lookup stationId <;> cases new.lookup stationId <;> simp [eq_comm]

theorem openedStation_eq_some {stationId : StationId} {change : StationChange} :
    openedStation old new stationId = some change ↔ stationId ∉ old.keys ∧
      changeBetween stationId (old.lookup stationId) (new.lookup stationId) = some change := by
  unfold openedStation changeBetween
  split
  · rename_i covered
    simp [covered]
  · rename_i uncovered
    have absent : old.lookup stationId = none := by
      rwa [Finmap.mem_keys, ← Finmap.lookup_eq_none] at uncovered
    rw [absent]
    cases new.lookup stationId <;> simp [uncovered]

theorem isDiff_computeStationDiff :
    IsDiff (computeStationDiff order old new) (fun stationId => old.lookup stationId)
      fun stationId => new.lookup stationId where
  nodup := by
    rw [computeStationDiff_eq, ((List.perm_insertionSort _ _).map _).nodup_iff, List.map_append,
      List.nodup_append]
    refine ⟨nodup_map_stationId (order.stations.nodup_list _) fun stationId change isChange => ?_,
      nodup_map_stationId (order.stations.nodup_list _) fun stationId change isChange => ?_, ?_⟩
    · exact changeBetween_stationId ((changedStation_eq_some old new).mp isChange).2
    · exact changeBetween_stationId ((openedStation_eq_some old new).mp isChange).2
    · rintro stationId isChanged _ isOpened rfl
      obtain ⟨change, member, rfl⟩ := List.mem_map.mp isChanged
      obtain ⟨changed, _, isChange⟩ := List.mem_filterMap.mp member
      obtain ⟨other, member, named⟩ := List.mem_map.mp isOpened
      obtain ⟨opened, _, isOther⟩ := List.mem_filterMap.mp member
      obtain ⟨covered, isChange⟩ := (changedStation_eq_some old new).mp isChange
      obtain ⟨uncovered, isOther⟩ := (openedStation_eq_some old new).mp isOther
      rw [changeBetween_stationId isChange, changeBetween_stationId isOther] at named
      exact uncovered (named ▸ covered)
  mem_iff change := by
    rw [computeStationDiff_eq, (List.perm_insertionSort _ _).mem_iff, List.mem_append,
      List.mem_filterMap, List.mem_filterMap]
    constructor
    · rintro (⟨stationId, _, isChange⟩ | ⟨stationId, _, isChange⟩)
      · obtain ⟨_, isChange⟩ := (changedStation_eq_some old new).mp isChange
        rwa [changeBetween_stationId isChange]
      · obtain ⟨_, isChange⟩ := (openedStation_eq_some old new).mp isChange
        rwa [changeBetween_stationId isChange]
    · intro isChange
      by_cases covered : change.stationId ∈ old.keys
      · refine .inl ⟨change.stationId, (Enumeration.mem_list ..).mpr covered, ?_⟩
        exact (changedStation_eq_some old new).mpr ⟨covered, isChange⟩
      · refine .inr ⟨change.stationId, (Enumeration.mem_list ..).mpr ?_, ?_⟩
        · have absent : old.lookup change.stationId = none := by
            rwa [Finmap.mem_keys, ← Finmap.lookup_eq_none] at covered
          rw [Finmap.mem_keys_iff_lookup]
          by_contra isAbsent
          have newAbsent : new.lookup change.stationId = none := by
            rw [Option.eq_none_iff_forall_not_mem]
            exact fun positionId found => isAbsent ⟨positionId, found⟩
          simp [absent, newAbsent, changeBetween] at isChange
        · exact (openedStation_eq_some old new).mpr ⟨covered, isChange⟩

end StationDiff

end ClientManager

end Vacs
