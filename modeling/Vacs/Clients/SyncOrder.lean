import Vacs.Clients.Convergence

/-!
# The order in which a sync round walks its maps

The pass of a sync round moves clients between the online positions one after the
other, and what it notes on the way depends on the order: when two clients swap their
positions, the first to move leaves its position alone or shared, depending on who it
is. What the round arrives at does not depend on it.

What becomes of a session depends on the session and its controller only
(`syncSession_eq`). The sessions at the end determine the online positions, since the
two agree and no position is left empty (`positions_ext`). The pass may note a change
of positions that comes undone; then the difference of the position sets is empty, and
so are the changes (`changes_eq`).
-/

set_option autoImplicit false

namespace Vacs

/-- Positions without empty entries are determined by who staffs them. -/
theorem positions_ext {first second : PositionClients} (firstOccupied : Occupied first)
    (secondOccupied : Occupied second)
    (same : ∀ clientId positionId,
      Staffs first clientId positionId ↔ Staffs second clientId positionId) : first = second := by
  have carried : ∀ {one other : PositionClients}, Occupied one →
      (∀ clientId positionId, Staffs one clientId positionId ↔ Staffs other clientId positionId) →
      ∀ positionId clients, one.lookup positionId = some clients →
        other.lookup positionId = some clients := by
    intro one other occupied agree positionId clients found
    obtain ⟨clientId, member⟩ := Finset.nonempty_iff_ne_empty.mpr (occupied positionId clients found)
    obtain ⟨others, isOther, _⟩ := (agree clientId positionId).mp ⟨clients, found, member⟩
    have equal : others = clients := by
      ext other
      constructor
      · intro listed
        obtain ⟨_, same, isMember⟩ := (agree other positionId).mpr ⟨others, isOther, listed⟩
        rw [found] at same
        cases same
        exact isMember
      · intro listed
        obtain ⟨_, same, isMember⟩ := (agree other positionId).mp ⟨clients, found, listed⟩
        rw [isOther] at same
        cases same
        exact isMember
    rw [isOther, equal]
  apply Finmap.ext_lookup
  intro positionId
  apply Option.ext
  intro clients
  exact ⟨carried firstOccupied same positionId clients,
    carried secondOccupied (fun clientId positionId => (same clientId positionId).symm) positionId
      clients⟩

namespace ClientManager

/-! ## One session -/

section Session

variable (network : Network) (maxConfSize : ℕ) (gracePeriod : Duration) (now : Instant)
  (requireActiveConnection : Bool) (controller : Option ControllerInfo) (cid : ClientId)
  (session : ClientSession)

/-- What the pass does to a session, and whether it is to be disconnected. -/
def syncedSession : ClientSession × List (ClientId × DisconnectReason) :=
  let outcome := syncSession network maxConfSize gracePeriod now requireActiveConnection controller
    cid session ∅ {}
  (outcome.1, outcome.2.2.disconnectedClients)

variable (onlinePositions : PositionClients) (result : ClientPositionSync)

theorem disconnectedClients_relocate (oldPositionId newPositionId : Option PositionId) :
    (relocate cid session oldPositionId newPositionId onlinePositions result
      ).2.disconnectedClients = result.disconnectedClients := by
  obtain ⟨_, _, _, moved⟩ :=
    relocate_eq cid session oldPositionId newPositionId onlinePositions result
  rw [moved]

/-- Two visits of a session end with the same session, and with the same to be disconnected. -/
def SameVerdict (result result' : ClientPositionSync)
    (outcome outcome' : ClientSession × PositionClients × ClientPositionSync) : Prop :=
  outcome.1 = outcome'.1 ∧ ∃ more,
    outcome.2.2.disconnectedClients = result.disconnectedClients ++ more ∧
      outcome'.2.2.disconnectedClients = result'.disconnectedClients ++ more

variable (onlinePositions' : PositionClients) (result' : ClientPositionSync)

theorem SameVerdict.stays {outcome outcome' : ClientSession × PositionClients × ClientPositionSync}
    (sameSession : outcome.1 = outcome'.1)
    (kept : outcome.2.2.disconnectedClients = result.disconnectedClients)
    (kept' : outcome'.2.2.disconnectedClients = result'.disconnectedClients) :
    SameVerdict result result' outcome outcome' :=
  ⟨sameSession, [], by rw [kept, List.append_nil], by rw [kept', List.append_nil]⟩

theorem changePosition_sameVerdict (newPosition : Option Position) :
    SameVerdict result result'
      (changePosition network maxConfSize cid session newPosition onlinePositions result)
      (changePosition network maxConfSize cid session newPosition onlinePositions' result') := by
  apply SameVerdict.stays
  · rfl
  · exact disconnectedClients_relocate cid (session.setPositionId (newPosition.map Position.id))
      onlinePositions result session.positionId (newPosition.map Position.id)
  · exact disconnectedClients_relocate cid (session.setPositionId (newPosition.map Position.id))
      onlinePositions' result' session.positionId (newPosition.map Position.id)

theorem followController_sameVerdict (controller : ControllerInfo) :
    SameVerdict result result'
      (followController network maxConfSize controller cid session onlinePositions result)
      (followController network maxConfSize controller cid session onlinePositions' result') := by
  unfold followController
  simp only
  split
  · exact ⟨rfl, _, rfl, rfl⟩
  · split
    · obtain ⟨sameSession, more, noted, noted'⟩ := changePosition_sameVerdict network maxConfSize cid
        session onlinePositions result onlinePositions' result'
        (network.findPositions controller.callsign controller.frequency
          controller.facilityType).head?
      exact ⟨sameSession, more, noted, noted'⟩
    · exact .stays result result' rfl rfl rfl

theorem syncSession_sameVerdict :
    SameVerdict result result'
      (syncSession network maxConfSize gracePeriod now requireActiveConnection controller cid
        session onlinePositions result)
      (syncSession network maxConfSize gracePeriod now requireActiveConnection controller cid
        session onlinePositions' result') := by
  unfold syncSession
  split
  · split
    · unfold disconnectOrMarkPending ClientSession.takePendingDisconnect
      cases session.isWithinPositionGracePeriod gracePeriod now with
      | true => exact .stays result result' rfl rfl rfl
      | false =>
          cases session.pendingDisconnect with
          | true => exact ⟨rfl, _, rfl, rfl⟩
          | false => exact .stays result result' rfl rfl rfl
    · exact .stays result result' rfl rfl rfl
  · rename_i controller _
    simp only
    split
    · exact .stays result result' rfl rfl rfl
    · cases updates : session.takePendingDisconnect.1.updateClientInfo controller with
      | mk updated changed =>
          cases changed with
          | false => exact .stays result result' rfl rfl rfl
          | true => exact followController_sameVerdict ..

/-- A visit does to a session what it would do in any other order. -/
theorem syncSession_eq :
    (syncSession network maxConfSize gracePeriod now requireActiveConnection controller cid session
        onlinePositions result).1 =
      (syncedSession network maxConfSize gracePeriod now requireActiveConnection controller cid
        session).1 ∧
    (syncSession network maxConfSize gracePeriod now requireActiveConnection controller cid session
        onlinePositions result).2.2.disconnectedClients = result.disconnectedClients ++
      (syncedSession network maxConfSize gracePeriod now requireActiveConnection controller cid
        session).2 := by
  obtain ⟨sameSession, more, noted, alone⟩ := syncSession_sameVerdict network maxConfSize
    gracePeriod now requireActiveConnection controller cid session onlinePositions result ∅ {}
  refine ⟨sameSession, ?_⟩
  rw [noted, syncedSession]
  exact congrArg _ alone.symm

end Session

/-! ## All sessions -/

section Pass

variable (s : ClientManager) (now : Instant) (controllers : HashMap ClientId ControllerInfo)
  (requireActiveConnection : Bool)

/-- What a round does to the session of a client. -/
def synced (cid : ClientId) (session : ClientSession) :
    ClientSession × List (ClientId × DisconnectReason) :=
  syncedSession s.network s.maxConfSize s.positionGracePeriod now requireActiveConnection
    (controllers.lookup cid) cid session

/-- One visit of the pass. -/
def visitClient (acc : HashMap ClientId ClientSession × PositionClients × ClientPositionSync)
    (cid : ClientId) : HashMap ClientId ClientSession × PositionClients × ClientPositionSync :=
  match acc.1.lookup cid with
  | none => acc
  | some session =>
      let outcome := syncSession s.network s.maxConfSize s.positionGracePeriod now
        requireActiveConnection (controllers.lookup cid) cid session acc.2.1 acc.2.2
      (acc.1.insert cid outcome.1, outcome.2)

theorem syncClientPositions_eq_foldl (order : ClientIteration) :
    s.syncClientPositions order now controllers requireActiveConnection =
      (order.clients.list s.clients.keys).foldl
        (s.visitClient now controllers requireActiveConnection)
        (s.clients, s.onlinePositions, {}) := by
  rfl

/-- A pass over some clients: their sessions, and who is to be disconnected. -/
theorem foldl_visitClient (visited : List ClientId) (nodup : visited.Nodup)
    (acc : HashMap ClientId ClientSession × PositionClients × ClientPositionSync) :
    (∀ cid, (visited.foldl (s.visitClient now controllers requireActiveConnection) acc).1.lookup cid =
      if cid ∈ visited then
        (acc.1.lookup cid).map fun session =>
          (s.synced now controllers requireActiveConnection cid session).1
      else acc.1.lookup cid) ∧
    (visited.foldl (s.visitClient now controllers requireActiveConnection) acc
        ).2.2.disconnectedClients =
      acc.2.2.disconnectedClients ++ visited.flatMap fun cid =>
        (acc.1.lookup cid).elim [] fun session =>
          (s.synced now controllers requireActiveConnection cid session).2 := by
  induction visited generalizing acc with
  | nil => simp
  | cons first rest ih =>
      obtain ⟨notLater, nodup⟩ := List.nodup_cons.mp nodup
      rw [List.foldl_cons]
      obtain ⟨sessions, disconnected⟩ := ih nodup
        (s.visitClient now controllers requireActiveConnection acc first)
      have kept : ∀ cid, cid ≠ first →
          (s.visitClient now controllers requireActiveConnection acc first).1.lookup cid =
            acc.1.lookup cid := by
        intro cid different
        unfold visitClient
        cases acc.1.lookup first with
        | none => rfl
        | some session => exact Finmap.lookup_insert_of_ne _ different
      have own : (s.visitClient now controllers requireActiveConnection acc first).1.lookup first =
          (acc.1.lookup first).map fun session =>
            (s.synced now controllers requireActiveConnection first session).1 := by
        unfold visitClient
        cases found : acc.1.lookup first with
        | none => exact found
        | some session =>
            simp only [Finmap.lookup_insert, Option.map_some]
            exact congrArg some (syncSession_eq ..).1
      have noted : (s.visitClient now controllers requireActiveConnection acc first
          ).2.2.disconnectedClients = acc.2.2.disconnectedClients ++
            (acc.1.lookup first).elim [] fun session =>
              (s.synced now controllers requireActiveConnection first session).2 := by
        unfold visitClient
        cases acc.1.lookup first with
        | none => exact (List.append_nil _).symm
        | some session => exact (syncSession_eq ..).2
      constructor
      · intro cid
        rw [sessions]
        by_cases isFirst : cid = first
        · subst isFirst
          rw [if_neg notLater, if_pos (List.mem_cons_self ..), own]
        · rw [kept cid isFirst]
          simp only [List.mem_cons, isFirst, false_or]
      · have later : rest.flatMap (fun cid =>
            ((s.visitClient now controllers requireActiveConnection acc first).1.lookup cid).elim []
              fun session => (s.synced now controllers requireActiveConnection cid session).2) =
            rest.flatMap fun cid => (acc.1.lookup cid).elim [] fun session =>
              (s.synced now controllers requireActiveConnection cid session).2 := by
          apply List.flatMap_congr
          intro cid member
          rw [kept cid fun same => notLater (same ▸ member)]
        rw [disconnected, noted, later, List.append_assoc, List.flatMap_cons]

/-- The sessions after a round. -/
theorem lookup_syncClientPositions (order : ClientIteration) (cid : ClientId) :
    (s.syncClientPositions order now controllers requireActiveConnection).1.lookup cid =
      (s.clients.lookup cid).map fun session =>
        (s.synced now controllers requireActiveConnection cid session).1 := by
  rw [syncClientPositions_eq_foldl, (s.foldl_visitClient now controllers requireActiveConnection _
    (order.clients.nodup_list _) _).1]
  split
  · rfl
  · rename_i absent
    rw [Enumeration.mem_list, Finmap.mem_keys_iff_lookup, ← Option.isSome_iff_exists,
      Option.not_isSome_iff_eq_none] at absent
    rw [absent]
    rfl

theorem disconnectedClients_syncClientPositions (order : ClientIteration) :
    (s.syncClientPositions order now controllers requireActiveConnection
        ).2.2.disconnectedClients =
      (order.clients.list s.clients.keys).flatMap fun cid =>
        (s.clients.lookup cid).elim [] fun session =>
          (s.synced now controllers requireActiveConnection cid session).2 := by
  rw [syncClientPositions_eq_foldl, (s.foldl_visitClient now controllers requireActiveConnection _
    (order.clients.nodup_list _) _).2]
  rfl

end Pass

/-! ## The positions that are only staffed on VATSIM -/

section VatsimOnly

variable (network : Network) (controllers : HashMap ClientId ControllerInfo)
  (vacsClientIds : Finset ClientId) (onlinePositions : PositionClients)

/-- A controller without a session is alone a match for a position that is not online. -/
def StaffsOnVatsim (cid : ClientId) (positionId : PositionId) : Prop :=
  ∃ controller, controllers.lookup cid = some controller ∧ controller.facilityType ≠ .unknown ∧
    cid ∉ vacsClientIds ∧ ∃ position,
      network.findPositions controller.callsign controller.frequency controller.facilityType =
        [position] ∧ position.id = positionId ∧ positionId ∉ onlinePositions.keys

/-- One controller of the data feed. -/
def noteController (vatsimOnly : PositionClients) (cid : ClientId) : PositionClients :=
  match controllers.lookup cid with
  | none => vatsimOnly
  | some controller =>
      if controller.facilityType = .unknown ∨ cid ∈ vacsClientIds then vatsimOnly
      else
        match network.findPositions controller.callsign controller.frequency
            controller.facilityType with
        | [position] =>
            if position.id ∈ onlinePositions.keys then vatsimOnly
            else vatsimOnly.insert position.id
              (insert cid ((vatsimOnly.lookup position.id).getD ∅))
        | _ => vatsimOnly

/-- A controller either staffs a position, and is put there, or it changes nothing. -/
theorem noteController_cases (vatsimOnly : PositionClients) (cid : ClientId) :
    (∃ positionId, (∀ other, StaffsOnVatsim network controllers vacsClientIds onlinePositions cid
        other ↔ other = positionId) ∧
      noteController network controllers vacsClientIds onlinePositions vatsimOnly cid =
        vatsimOnly.insert positionId (insert cid ((vatsimOnly.lookup positionId).getD ∅))) ∨
    ((∀ positionId, ¬ StaffsOnVatsim network controllers vacsClientIds onlinePositions cid
        positionId) ∧
      noteController network controllers vacsClientIds onlinePositions vatsimOnly cid =
        vatsimOnly) := by
  unfold noteController
  cases found : controllers.lookup cid with
  | none =>
      right
      refine ⟨?_, rfl⟩
      rintro positionId ⟨_, isFound, _⟩
      rw [found] at isFound
      cases isFound
  | some controller =>
      have own : ∀ {positionId}, StaffsOnVatsim network controllers vacsClientIds onlinePositions
          cid positionId → controller.facilityType ≠ .unknown ∧ cid ∉ vacsClientIds ∧ ∃ position,
            network.findPositions controller.callsign controller.frequency
              controller.facilityType = [position] ∧ position.id = positionId ∧
                positionId ∉ onlinePositions.keys := by
        rintro positionId ⟨_, isFound, staffs⟩
        rw [found] at isFound
        cases isFound
        exact staffs
      simp only
      by_cases excluded : controller.facilityType = .unknown ∨ cid ∈ vacsClientIds
      · right
        refine ⟨?_, if_pos excluded⟩
        intro positionId staffs
        obtain ⟨known, outside, _⟩ := own staffs
        exact excluded.elim known outside
      · rw [if_neg excluded]
        obtain ⟨known, outside⟩ := not_or.mp excluded
        split
        · rename_i position matching
          by_cases online : position.id ∈ onlinePositions.keys
          · right
            refine ⟨?_, if_pos online⟩
            intro positionId staffs
            obtain ⟨_, _, other, isOther, rfl, offline⟩ := own staffs
            rw [matching] at isOther
            cases isOther
            exact offline online
          · left
            refine ⟨position.id, ?_, if_neg online⟩
            intro other
            constructor
            · intro staffs
              obtain ⟨_, _, candidate, isCandidate, rfl, _⟩ := own staffs
              rw [matching] at isCandidate
              cases isCandidate
              rfl
            · rintro rfl
              exact ⟨controller, found, known, outside, position, matching, rfl, online⟩
        · rename_i several
          right
          refine ⟨?_, rfl⟩
          intro positionId staffs
          obtain ⟨_, _, position, matching, _⟩ := own staffs
          exact several position matching

/-- Who staffs the positions after some controllers, and no position is empty. -/
theorem foldl_noteController (visited : List ClientId) (vatsimOnly : PositionClients)
    (occupied : Occupied vatsimOnly) :
    Occupied (visited.foldl (noteController network controllers vacsClientIds onlinePositions)
        vatsimOnly) ∧
      ∀ cid positionId, Staffs (visited.foldl
          (noteController network controllers vacsClientIds onlinePositions) vatsimOnly) cid
            positionId ↔
        Staffs vatsimOnly cid positionId ∨ cid ∈ visited ∧
          StaffsOnVatsim network controllers vacsClientIds onlinePositions cid positionId := by
  induction visited generalizing vatsimOnly with
  | nil => exact ⟨occupied, by simp⟩
  | cons first rest ih =>
      rw [List.foldl_cons]
      rcases noteController_cases network controllers vacsClientIds onlinePositions vatsimOnly first
        with ⟨joined, staffsOnly, noted⟩ | ⟨staffsNone, noted⟩
      · obtain ⟨stillOccupied, staffs⟩ := ih _ (noted ▸ occupied_join occupied)
        refine ⟨stillOccupied, ?_⟩
        intro cid positionId
        rw [staffs, noted, staffs_join, List.mem_cons, or_and_right, or_assoc]
        refine or_congr_right (or_congr_left ?_)
        constructor
        · rintro ⟨rfl, rfl⟩
          exact ⟨rfl, (staffsOnly _).mpr rfl⟩
        · rintro ⟨rfl, isStaffed⟩
          exact ⟨rfl, (staffsOnly _).mp isStaffed⟩
      · rw [noted]
        obtain ⟨stillOccupied, staffs⟩ := ih vatsimOnly occupied
        refine ⟨stillOccupied, ?_⟩
        intro cid positionId
        rw [staffs, List.mem_cons, or_and_right]
        refine or_congr_right ⟨.inr, ?_⟩
        rintro (⟨rfl, isStaffed⟩ | later)
        · exact absurd isStaffed (staffsNone positionId)
        · exact later

/-- The positions only staffed on VATSIM are the same in every order of the controllers. -/
theorem rebuildVatsimOnly_order (first second : ClientIteration) :
    rebuildVatsimOnly first network controllers vacsClientIds onlinePositions =
      rebuildVatsimOnly second network controllers vacsClientIds onlinePositions := by
  have empty : Occupied (∅ : PositionClients) := by
    intro positionId clients found
    rw [Finmap.lookup_empty] at found
    cases found
  obtain ⟨occupiedFirst, staffsFirst⟩ := foldl_noteController network controllers vacsClientIds
    onlinePositions (first.clients.list controllers.keys) ∅ empty
  obtain ⟨occupiedSecond, staffsSecond⟩ := foldl_noteController network controllers vacsClientIds
    onlinePositions (second.clients.list controllers.keys) ∅ empty
  apply positions_ext occupiedFirst occupiedSecond
  intro cid positionId
  rw [staffsFirst, staffsSecond, Enumeration.mem_list, Enumeration.mem_list]

end VatsimOnly

/-! ## The coverage changes -/

section Changes

variable (order : ClientIteration) (s : ClientManager)

/-- The covered stations after a round. -/
def coveredAfter (endAll : Finset PositionId) : StationCoverage :=
  updateOnlineStations s.onlineStations (s.network.coverageDiff s.allPositions endAll)

/-- The changes that a round broadcasts. -/
def changesAfter (endOnline endAll : Finset PositionId) : List StationChange :=
  let allChanges := s.network.coverageDiff s.allPositions endAll
  clientVisibleChanges allChanges s.onlinePositions.keys endOnline ++
    callabilityChanges order (s.coveredAfter endAll) allChanges s.onlinePositions.keys endOnline

/-- Where the positions stay the same, nothing changes. -/
theorem changesAfter_same :
    s.coveredAfter s.allPositions = s.onlineStations ∧
      s.changesAfter order s.onlinePositions.keys s.allPositions = [] := by
  have none : s.network.coverageDiff s.allPositions s.allPositions = [] := by
    simp [Network.coverageDiff]
  have stays : s.coveredAfter s.allPositions = s.onlineStations := by
    rw [coveredAfter, none]
    rfl
  refine ⟨stays, ?_⟩
  rw [changesAfter, none, stays]
  simp only [clientVisibleChanges, List.filterMap_nil, List.nil_append, callabilityChanges,
    List.map_nil, List.not_mem_nil, if_false]
  rw [List.filterMap_eq_nil_iff]
  intro stationId _
  cases s.onlineStations.lookup stationId with
  | none => rfl
  | some positionId =>
      rw [Option.bind_some]
      by_cases online : positionId ∈ s.onlinePositions.keys <;> simp [online]

/-- The order in which the stations are walked moves the changes only. -/
theorem perm_changesAfter (first second : ClientIteration) (endOnline endAll : Finset PositionId) :
    (s.changesAfter first endOnline endAll).Perm (s.changesAfter second endOnline endAll) := by
  apply List.Perm.append_left
  exact (Enumeration.perm_list first.stations second.stations _).filterMap _

/-- A round whose pass notes no change of positions is one that changes none. -/
theorem changes_eq {now : Instant} {controllers : HashMap ClientId ControllerInfo}
    {requireActiveConnection : Bool} {clients : HashMap ClientId ClientSession}
    {onlinePositions : PositionClients} {sync : ClientPositionSync}
    (isPass : s.syncClientPositions order now controllers requireActiveConnection =
      (clients, onlinePositions, sync))
    (staffing : Staffing s.clients s.onlinePositions) {vatsimOnly : PositionClients}
    (unchanged : ¬ (sync.positionsChanged || decide (s.vatsimOnlyPositions ≠ vatsimOnly)) = true) :
    s.onlineStations = s.coveredAfter (onlinePositions.keys ∪ vatsimOnly.keys) ∧
      [] = s.changesAfter order onlinePositions.keys (onlinePositions.keys ∪ vatsimOnly.keys) := by
  have passed := syncClientPositions_passed order now controllers requireActiveConnection staffing
  rw [isPass] at passed
  simp only [Bool.or_eq_true, decide_eq_true_eq, not_or, Bool.not_eq_true, ne_eq,
    not_not] at unchanged
  have sameOnline : onlinePositions.keys = s.onlinePositions.keys := passed.keys unchanged.1
  have sameAll : onlinePositions.keys ∪ vatsimOnly.keys = s.allPositions := by
    rw [sameOnline, ← unchanged.2]
    rfl
  rw [sameAll, sameOnline]
  obtain ⟨stays, none⟩ := s.changesAfter_same order
  exact ⟨stays.symm, none.symm⟩

/-- What a round arrives at. -/
theorem syncVatsimState_eq {now : Instant} {controllers : HashMap ClientId ControllerInfo}
    {requireActiveConnection : Bool} {clients : HashMap ClientId ClientSession}
    {onlinePositions : PositionClients} {sync : ClientPositionSync}
    (isPass : s.syncClientPositions order now controllers requireActiveConnection =
      (clients, onlinePositions, sync))
    (staffing : Staffing s.clients s.onlinePositions) {vatsimOnly : PositionClients}
    (isVatsimOnly : rebuildVatsimOnly order s.network controllers clients.keys onlinePositions =
      vatsimOnly) :
    (s.syncVatsimState order now controllers requireActiveConnection).1 =
        { s with
          clients := clients
          onlinePositions := onlinePositions
          vatsimOnlyPositions := vatsimOnly
          onlineStations := s.coveredAfter (onlinePositions.keys ∪ vatsimOnly.keys) } ∧
      (s.syncVatsimState order now controllers requireActiveConnection).2.coverageChanges =
        s.changesAfter order onlinePositions.keys (onlinePositions.keys ∪ vatsimOnly.keys) ∧
      (s.syncVatsimState order now controllers requireActiveConnection).2.sync.disconnectedClients =
        sync.disconnectedClients := by
  unfold syncVatsimState
  simp only [isPass, isVatsimOnly]
  by_cases changed : (sync.positionsChanged ||
      decide (s.vatsimOnlyPositions ≠ vatsimOnly)) = true
  · simp only [changed, if_true]
    exact ⟨rfl, rfl, trivial⟩
  · obtain ⟨covered, changes⟩ := s.changes_eq order isPass staffing changed
    simp only [changed, Bool.false_eq_true, if_false]
    exact ⟨by rw [← covered], changes, trivial⟩

end Changes

/-! ## Any two orders -/

/-- The pass arrives at the same sessions and online positions in every order, and disconnects the
same clients. -/
theorem syncClientPositions_order (first second : ClientIteration) {s : ClientManager}
    (now : Instant) (controllers : HashMap ClientId ControllerInfo)
    (requireActiveConnection : Bool) (staffing : Staffing s.clients s.onlinePositions) :
    (s.syncClientPositions first now controllers requireActiveConnection).1 =
        (s.syncClientPositions second now controllers requireActiveConnection).1 ∧
      (s.syncClientPositions first now controllers requireActiveConnection).2.1 =
        (s.syncClientPositions second now controllers requireActiveConnection).2.1 ∧
      (s.syncClientPositions first now controllers requireActiveConnection
          ).2.2.disconnectedClients.Perm
        (s.syncClientPositions second now controllers requireActiveConnection
          ).2.2.disconnectedClients := by
  have sessions : (s.syncClientPositions first now controllers requireActiveConnection).1 =
      (s.syncClientPositions second now controllers requireActiveConnection).1 := by
    apply Finmap.ext_lookup
    intro cid
    rw [lookup_syncClientPositions, lookup_syncClientPositions]
  have passedFirst :=
    (syncClientPositions_passed first now controllers requireActiveConnection staffing).staffing
  have passedSecond :=
    (syncClientPositions_passed second now controllers requireActiveConnection staffing).staffing
  refine ⟨sessions, ?_, ?_⟩
  · apply positions_ext passedFirst.occupied passedSecond.occupied
    intro clientId positionId
    rw [passedFirst.staffed, passedSecond.staffed, sessions]
  · rw [disconnectedClients_syncClientPositions, disconnectedClients_syncClientPositions]
    exact (Enumeration.perm_list first.clients second.clients _).flatMap_right _

/-- A sync round arrives at the same state in every order, disconnects the same clients and
broadcasts the same changes. -/
theorem syncVatsimState_order (first second feed : ClientIteration) {s : ClientManager}
    (now : Instant) (controllers : HashMap ClientId ControllerInfo)
    (requireActiveConnection : Bool) (indexed : ClientIndexed s) :
    (s.syncVatsimState first now controllers requireActiveConnection).1 =
        (s.syncVatsimState second now controllers requireActiveConnection).1 ∧
      (s.syncVatsimState first now controllers requireActiveConnection
          ).1.vatsimOnlyPositions =
        rebuildVatsimOnly feed s.network controllers
          (s.syncVatsimState first now controllers requireActiveConnection).1.clients.keys
          (s.syncVatsimState first now controllers requireActiveConnection).1.onlinePositions ∧
      (s.syncVatsimState first now controllers requireActiveConnection
          ).2.sync.disconnectedClients.Perm
        (s.syncVatsimState second now controllers requireActiveConnection
          ).2.sync.disconnectedClients ∧
      (s.syncVatsimState first now controllers requireActiveConnection).2.coverageChanges.Perm
        (s.syncVatsimState second now controllers requireActiveConnection).2.coverageChanges := by
  obtain ⟨sameSessions, sameOnline, sameDisconnected⟩ :=
    syncClientPositions_order first second now controllers requireActiveConnection indexed.staffing
  cases isFirst : s.syncClientPositions first now controllers requireActiveConnection with
  | mk clients rest =>
    obtain ⟨onlinePositions, sync⟩ := rest
    cases isSecond : s.syncClientPositions second now controllers requireActiveConnection with
    | mk clients' rest' =>
      obtain ⟨onlinePositions', sync'⟩ := rest'
      rw [isFirst, isSecond] at sameSessions sameOnline sameDisconnected
      simp only at sameSessions sameOnline sameDisconnected
      subst sameSessions sameOnline
      obtain ⟨stateFirst, changesFirst, disconnectedFirst⟩ :=
        s.syncVatsimState_eq first isFirst indexed.staffing rfl
      obtain ⟨stateSecond, changesSecond, disconnectedSecond⟩ :=
        s.syncVatsimState_eq second isSecond indexed.staffing
          (rebuildVatsimOnly_order s.network controllers clients.keys onlinePositions second first)
      refine ⟨stateFirst.trans stateSecond.symm, ?_, ?_, ?_⟩
      · rw [stateFirst]
        exact rebuildVatsimOnly_order s.network controllers clients.keys onlinePositions first feed
      · rw [disconnectedFirst, disconnectedSecond]
        exact sameDisconnected
      · rw [changesFirst, changesSecond]
        exact s.perm_changesAfter first second _ _

end ClientManager

/-! ### Two controllers that swap their positions -/

/-- A controller on each of the two positions. -/
def twoControllers : ClientManager :=
  (ClientManager.new twoSectors 0 3).run [controllerLogin,
    .addClient .increasing ⟨⟨"10000002"⟩, "LOVV_E_CTR", "134.350", some ⟨"LOVV_E_CTR"⟩⟩ .custom 1 0]

/-- The data feed after they have swapped. -/
def swappedFeed : HashMap ClientId ControllerInfo :=
  ControllerInfo.indexByCid [⟨⟨"10000001"⟩, "LOVV_E_CTR", "134.350", .enroute, none⟩,
    ⟨⟨"10000002"⟩, "LOVV_CTR", "132.600", .enroute, none⟩]

/-- The increasing order, backwards. -/
def decreasing : ClientIteration where
  clients := ClientIteration.increasing.clients.reversed
  positions := ClientIteration.increasing.positions.reversed
  stations := ClientIteration.increasing.stations.reversed

/-- They have swapped, whoever is moved first. -/
theorem syncVatsimState_order_swap :
    (twoControllers.syncVatsimState .increasing 1 swappedFeed false).1 =
        (twoControllers.syncVatsimState decreasing 1 swappedFeed false).1 ∧
      (twoControllers.syncVatsimState .increasing 1 swappedFeed false).1.onlinePositions.lookup
        ⟨"LOVV_CTR"⟩ = some {⟨"10000002"⟩} :=
  ⟨(ClientManager.syncVatsimState_order .increasing decreasing .increasing 1 swappedFeed false
      (ClientManager.run_indexed _ (ClientManager.new_indexed _ _ _))).1, by decide +kernel⟩

end Vacs
