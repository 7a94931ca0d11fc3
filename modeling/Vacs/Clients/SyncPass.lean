import Vacs.Clients.Staffing
import Vacs.Foundations.GuardedRuns

/-!
# The pass over the sessions of a sync round

`SessionSynced` says what the pass may do with one session: the client stays the
same, the online positions follow the session if it moves, the pass notes every
position that comes or goes, and it collects station events for clients that
moved only. One lemma for each half of a move and one for each branch give it for
a session; the pass over all sessions follows by induction over the list it
visits.
-/

set_option autoImplicit false

namespace Vacs

/-- The clients for which the pass has collected single station events. -/
def ClientPositionSync.handoffClients (result : ClientPositionSync) :
    List (ClientSession × PositionId) :=
  result.selfHandoffClients ++ result.departureHandoffClients

namespace ClientManager

/-! ## The two halves of a move -/

/-- What taking a client off a position, or putting it on one, may collect. -/
structure Noted (session : ClientSession) (before : PositionClients) (result : ClientPositionSync)
    (after : PositionClients) (result' : ClientPositionSync) : Prop where
  keys : result'.positionsChanged = false →
    result.positionsChanged = false ∧ after.keys = before.keys
  handoffs : ∀ entry ∈ result'.handoffClients, entry ∈ result.handoffClients ∨ entry.1 = session

theorem Noted.refl (session : ClientSession) (onlinePositions : PositionClients)
    (result : ClientPositionSync) : Noted session onlinePositions result onlinePositions result where
  keys unchanged := ⟨unchanged, rfl⟩
  handoffs _ member := .inl member

theorem Noted.trans {session : ClientSession} {first second third : PositionClients}
    {result result' result'' : ClientPositionSync}
    (before : Noted session first result second result')
    (after : Noted session second result' third result'') :
    Noted session first result third result'' where
  keys unchanged := by
    obtain ⟨unchanged, same⟩ := after.keys unchanged
    obtain ⟨unchanged, same'⟩ := before.keys unchanged
    exact ⟨unchanged, same.trans same'⟩
  handoffs entry member := by
    rcases after.handoffs entry member with member | isSession
    · exact before.handoffs entry member
    · exact .inr isSession

section Halves

variable {cid : ClientId} {session : ClientSession} {positionId : PositionId}
  {onlinePositions : PositionClients} {result : ClientPositionSync}

theorem vacate_noted :
    Noted session onlinePositions result
      (vacate cid session positionId onlinePositions result).1
      (vacate cid session positionId onlinePositions result).2 := by
  unfold vacate
  split
  · exact Noted.refl _ _ _
  · rename_i clients found
    split
    · exact ⟨fun unchanged => by simp at unchanged, fun _ member => .inl member⟩
    · refine ⟨fun unchanged => ⟨unchanged, keys_insert_of_found found⟩, ?_⟩
      intro entry member
      simp only [ClientPositionSync.handoffClients, List.mem_append, List.mem_singleton] at member ⊢
      rcases member with member | member | rfl
      · exact .inl (.inl member)
      · exact .inl (.inr member)
      · exact .inr rfl

theorem staffs_vacate (staffs : Staffs onlinePositions cid positionId) {other : ClientId}
    {position : PositionId} :
    Staffs (vacate cid session positionId onlinePositions result).1 other position ↔
      Staffs onlinePositions other position ∧ ¬(other = cid ∧ position = positionId) := by
  obtain ⟨clients, found, member⟩ := staffs
  simp only [vacate, found]
  split
  · rename_i atMostOne
    have single : clients.card = 1 :=
      le_antisymm atMostOne (Finset.card_pos.mpr ⟨cid, member⟩)
    have only := Staffs.onlyClient ⟨clients, found, member⟩ clients found single
    exact staffs_close (found.trans (congrArg some only))
  · exact staffs_depart found

theorem occupied_vacate (occupied : Occupied onlinePositions) :
    Occupied (vacate cid session positionId onlinePositions result).1 := by
  unfold vacate
  split
  · exact occupied
  · rename_i clients found
    split
    · exact occupied_close occupied
    · rename_i several
      exact occupied_depart occupied found fun single => several single.le

theorem occupy_noted :
    Noted session onlinePositions result
      (occupy cid session positionId onlinePositions result).1
      (occupy cid session positionId onlinePositions result).2 := by
  unfold occupy
  refine ⟨fun unchanged => ?_, fun entry member => ?_⟩
  · simp only [Bool.or_eq_false_iff] at unchanged
    refine ⟨unchanged.1, ?_⟩
    cases found : onlinePositions.lookup positionId with
    | none => simp [found] at unchanged
    | some clients => exact keys_insert_of_found found
  · simp only [ClientPositionSync.handoffClients, List.mem_append] at member ⊢
    rcases member with member | member
    · split at member
      · rcases List.mem_append.mp member with member | member
        · exact .inl (.inl member)
        · rw [List.mem_singleton.mp member]
          exact .inr rfl
      · exact .inl (.inl member)
    · exact .inl (.inr member)

theorem staffs_occupy {other : ClientId} {position : PositionId} :
    Staffs (occupy cid session positionId onlinePositions result).1 other position ↔
      Staffs onlinePositions other position ∨ (other = cid ∧ position = positionId) :=
  staffs_join

theorem occupied_occupy (occupied : Occupied onlinePositions) :
    Occupied (occupy cid session positionId onlinePositions result).1 :=
  occupied_join occupied

theorem relocate_noted (cid : ClientId) (session : ClientSession)
    (oldPositionId newPositionId : Option PositionId) (onlinePositions : PositionClients)
    (result : ClientPositionSync) :
    Noted session onlinePositions result
      (relocate cid session oldPositionId newPositionId onlinePositions result).1
      (relocate cid session oldPositionId newPositionId onlinePositions result).2 := by
  cases oldPositionId <;> cases newPositionId
  · exact Noted.refl _ _ _
  · exact occupy_noted
  · exact vacate_noted
  · exact vacate_noted.trans occupy_noted

/-- A move notes only who is handed off and whether the positions changed. -/
theorem relocate_eq (cid : ClientId) (session : ClientSession)
    (oldPositionId newPositionId : Option PositionId) (onlinePositions : PositionClients)
    (result : ClientPositionSync) :
    ∃ positionsChanged selfHandoffClients departureHandoffClients,
      (relocate cid session oldPositionId newPositionId onlinePositions result).2 =
        { result with
          positionsChanged := positionsChanged
          selfHandoffClients := selfHandoffClients
          departureHandoffClients := departureHandoffClients } := by
  have leaves : ∀ positionId, ∃ positionsChanged departureHandoffClients,
      (vacate cid session positionId onlinePositions result).2 =
        { result with
          positionsChanged := positionsChanged
          departureHandoffClients := departureHandoffClients } := by
    intro positionId
    unfold vacate
    split
    · exact ⟨_, _, rfl⟩
    · split <;> exact ⟨_, _, rfl⟩
  cases oldPositionId with
  | none => cases newPositionId <;> exact ⟨_, _, _, rfl⟩
  | some oldPositionId =>
      obtain ⟨positionsChanged, departureHandoffClients, left⟩ := leaves oldPositionId
      cases newPositionId with
      | none => exact ⟨_, _, _, left⟩
      | some newPositionId =>
          unfold relocate occupy
          simp only [left]
          exact ⟨_, _, _, rfl⟩

theorem occupied_relocate {oldPositionId newPositionId : Option PositionId}
    (occupied : Occupied onlinePositions) :
    Occupied (relocate cid session oldPositionId newPositionId onlinePositions result).1 := by
  cases oldPositionId <;> cases newPositionId
  · exact occupied
  · exact occupied_occupy occupied
  · exact occupied_vacate occupied
  · exact occupied_occupy (occupied_vacate occupied)

/-- A client that staffed its old position now staffs its new one. -/
theorem staffs_relocate {oldPositionId newPositionId : Option PositionId}
    (own : ∀ position, Staffs onlinePositions cid position ↔ oldPositionId = some position)
    {other : ClientId} {position : PositionId} :
    Staffs (relocate cid session oldPositionId newPositionId onlinePositions result).1 other
        position ↔
      if other = cid then newPositionId = some position
      else Staffs onlinePositions other position := by
  unfold relocate
  cases oldPositionId with
  | none =>
      cases newPositionId with
      | none => grind
      | some newPositionId =>
          simp only [staffs_occupy]
          grind
  | some oldPositionId =>
      have staffs := (own oldPositionId).mpr rfl
      cases newPositionId with
      | none =>
          simp only [staffs_vacate staffs]
          grind
      | some newPositionId =>
          simp only [staffs_occupy, staffs_vacate staffs]
          grind

end Halves

/-! ## One session -/

/-- What the pass may do with the session of one client. -/
structure SessionSynced (cid : ClientId) (session : ClientSession)
    (onlinePositions : PositionClients) (result : ClientPositionSync)
    (outcome : ClientSession × PositionClients × ClientPositionSync) : Prop where
  id : outcome.1.id = session.id
  tx : outcome.1.tx = session.tx
  staffs : (∀ position, Staffs onlinePositions cid position ↔ session.positionId = some position) →
    ∀ other position, Staffs outcome.2.1 other position ↔
      if other = cid then outcome.1.positionId = some position
      else Staffs onlinePositions other position
  occupied : Occupied onlinePositions → Occupied outcome.2.1
  keys : outcome.2.2.positionsChanged = false →
    result.positionsChanged = false ∧ outcome.2.1.keys = onlinePositions.keys
  handoffs : ∀ entry ∈ outcome.2.2.handoffClients, entry ∈ result.handoffClients ∨
    (entry.1.id = session.id ∧ outcome.1.positionId ≠ session.positionId)

section Session

variable {network : Network} {maxConfSize : ℕ} {cid : ClientId} {session session' : ClientSession}
  {onlinePositions : PositionClients} {result result' : ClientPositionSync}

/-- A session that keeps its position. -/
theorem SessionSynced.stays (id : session'.id = session.id) (tx : session'.tx = session.tx)
    (position : session'.positionId = session.positionId)
    (changed : result'.positionsChanged = result.positionsChanged)
    (handoffs : result'.handoffClients = result.handoffClients) :
    SessionSynced cid session onlinePositions result (session', onlinePositions, result') where
  id := id
  tx := tx
  staffs own other positionId := by
    split
    · rename_i same
      subst same
      rw [own, position]
    · exact Iff.rfl
  occupied occupied := occupied
  keys unchanged := ⟨changed ▸ unchanged, rfl⟩
  handoffs entry member := .inl (handoffs ▸ member)

/-- A session that has changed in ways the pass does not look at. -/
theorem SessionSynced.of_same
    {outcome : ClientSession × PositionClients × ClientPositionSync}
    (synced : SessionSynced cid session' onlinePositions result outcome)
    (id : session'.id = session.id) (tx : session'.tx = session.tx)
    (position : session'.positionId = session.positionId) :
    SessionSynced cid session onlinePositions result outcome where
  id := synced.id.trans id
  tx := synced.tx.trans tx
  staffs own := synced.staffs fun positionId => by rw [own, position]
  occupied := synced.occupied
  keys := synced.keys
  handoffs entry member := by
    rw [← id, ← position]
    exact synced.handoffs entry member

theorem changePosition_synced {newPosition : Option Position}
    (moves : session.positionId ≠ newPosition.map Position.id) :
    SessionSynced cid session onlinePositions result
      (changePosition network maxConfSize cid session newPosition onlinePositions result) := by
  have isNew : (changePosition network maxConfSize cid session newPosition onlinePositions
      result).1.positionId = newPosition.map Position.id := by
    simp [changePosition]
  have noted := relocate_noted cid (session.setPositionId (newPosition.map Position.id))
    session.positionId (newPosition.map Position.id) onlinePositions result
  refine ⟨?_, ?_, fun own other position => ?_, occupied_relocate, noted.keys, ?_⟩
  · simp [changePosition, ClientSession.id, ClientSession.setPositionId]
  · simp [changePosition, ClientSession.setPositionId]
  · rw [isNew]
    exact staffs_relocate own
  · intro entry member
    rcases noted.handoffs entry member with member | isSession
    · exact .inl member
    · refine .inr ⟨by rw [isSession]; rfl, ?_⟩
      rw [isNew]
      exact moves.symm

theorem followController_synced {controller : ControllerInfo} :
    SessionSynced cid session onlinePositions result
      (followController network maxConfSize controller cid session onlinePositions result) := by
  unfold followController
  simp only
  split
  · exact SessionSynced.stays rfl rfl rfl rfl rfl
  · split
    · rename_i moves
      have synced : SessionSynced cid session onlinePositions result (changePosition network
          maxConfSize cid session _ onlinePositions result) := changePosition_synced moves
      exact ⟨synced.id, synced.tx, synced.staffs, synced.occupied, synced.keys, synced.handoffs⟩
    · exact SessionSynced.stays rfl rfl rfl rfl rfl

theorem disconnectOrMarkPending_synced {gracePeriod : Duration} {now : Instant} :
    SessionSynced cid session onlinePositions result
      ((disconnectOrMarkPending gracePeriod now cid session result).1, onlinePositions,
        (disconnectOrMarkPending gracePeriod now cid session result).2) := by
  unfold disconnectOrMarkPending
  split
  · exact SessionSynced.stays rfl rfl rfl rfl rfl
  · simp only [ClientSession.takePendingDisconnect]
    split <;> rename_i isTaken <;> obtain ⟨rfl, _⟩ := Prod.mk.inj isTaken
    · exact SessionSynced.stays rfl rfl rfl rfl rfl
    · exact SessionSynced.stays rfl rfl rfl rfl rfl

theorem syncSession_synced {gracePeriod : Duration} {now : Instant}
    {requireActiveConnection : Bool} {controller : Option ControllerInfo} :
    SessionSynced cid session onlinePositions result
      (syncSession network maxConfSize gracePeriod now requireActiveConnection controller cid
        session onlinePositions result) := by
  unfold syncSession
  split
  · split
    · exact disconnectOrMarkPending_synced
    · exact SessionSynced.stays rfl rfl rfl rfl rfl
  · simp only
    split
    · exact SessionSynced.stays rfl rfl rfl rfl rfl
    · split <;> rename_i isUpdated <;> obtain ⟨rfl, _⟩ := Prod.mk.inj isUpdated
      · exact SessionSynced.stays rfl rfl rfl rfl rfl
      · exact followController_synced.of_same rfl rfl rfl

end Session

/-! ## All sessions -/

/-- Where the pass stands when the pending clients are still to be visited. -/
structure Passed (s : ClientManager) (pending : List ClientId)
    (acc : HashMap ClientId ClientSession × PositionClients × ClientPositionSync) : Prop where
  staffing : Staffing acc.1 acc.2.1
  unvisited : ∀ clientId ∈ pending, acc.1.lookup clientId = s.clients.lookup clientId
  keys : acc.2.2.positionsChanged = false → acc.2.1.keys = s.onlinePositions.keys
  handoffs : ∀ entry ∈ acc.2.2.handoffClients, entry.1.id ∉ pending ∧
    ∃ before after, s.clients.lookup entry.1.id = some before ∧
      acc.1.lookup entry.1.id = some after ∧ after.positionId ≠ before.positionId

theorem Passed.start {s : ClientManager} (staffing : Staffing s.clients s.onlinePositions)
    (pending : List ClientId) : Passed s pending (s.clients, s.onlinePositions, {}) where
  staffing := staffing
  unvisited _ _ := rfl
  keys _ := rfl
  handoffs entry member := by simp [ClientPositionSync.handoffClients] at member

theorem Passed.skip {s : ClientManager} {cid : ClientId} {pending : List ClientId}
    {acc : HashMap ClientId ClientSession × PositionClients × ClientPositionSync}
    (passed : Passed s (cid :: pending) acc) : Passed s pending acc where
  staffing := passed.staffing
  unvisited clientId listed := passed.unvisited clientId (List.mem_cons_of_mem _ listed)
  keys := passed.keys
  handoffs entry member :=
    ⟨fun listed => (passed.handoffs entry member).1 (List.mem_cons_of_mem _ listed),
      (passed.handoffs entry member).2⟩

theorem Passed.visit {s : ClientManager} {cid : ClientId} {pending : List ClientId}
    {clients : HashMap ClientId ClientSession} {onlinePositions : PositionClients}
    {result : ClientPositionSync} {session : ClientSession}
    {outcome : ClientSession × PositionClients × ClientPositionSync}
    (passed : Passed s (cid :: pending) (clients, onlinePositions, result))
    (nodup : (cid :: pending).Nodup) (found : clients.lookup cid = some session)
    (synced : SessionSynced cid session onlinePositions result outcome) :
    Passed s pending (clients.insert cid outcome.1, outcome.2) := by
  have notPending := (List.nodup_cons.mp nodup).1
  have own : ∀ position,
      Staffs onlinePositions cid position ↔ session.positionId = some position := by
    intro position
    rw [passed.staffing.staffed, SessionAt, found]
    simp
  have isId := passed.staffing.named cid session found
  have before := passed.unvisited cid (List.mem_cons_self ..)
  refine ⟨⟨?_, ?_, synced.occupied passed.staffing.occupied⟩, ?_, ?_, ?_⟩
  · intro clientId visited isVisited
    rw [Finmap.lookup_insert_eq] at isVisited
    split at isVisited
    · rename_i same
      cases isVisited
      rw [synced.id, isId, same]
    · exact passed.staffing.named clientId visited isVisited
  · intro clientId position
    rw [synced.staffs own, sessionAt_insert]
    split
    · exact Iff.rfl
    · exact passed.staffing.staffed clientId position
  · intro clientId listed
    have different : clientId ≠ cid := fun same => notPending (same ▸ listed)
    rw [Finmap.lookup_insert_of_ne _ different]
    exact passed.unvisited clientId (List.mem_cons_of_mem _ listed)
  · intro unchanged
    obtain ⟨unchanged, same⟩ := synced.keys unchanged
    exact same.trans (passed.keys unchanged)
  · intro entry member
    rcases synced.handoffs entry member with member | ⟨isSession, moved⟩
    · obtain ⟨visited, earlier, later, wasEarlier, isLater, moved⟩ :=
        passed.handoffs entry member
      have different : entry.1.id ≠ cid := fun same => visited (same ▸ List.mem_cons_self ..)
      refine ⟨fun listed => visited (List.mem_cons_of_mem _ listed), earlier, later, wasEarlier,
        ?_, moved⟩
      rw [Finmap.lookup_insert_of_ne _ different]
      exact isLater
    · rw [isSession, isId]
      exact ⟨notPending, session, outcome.1, before.symm.trans found,
        Finmap.lookup_insert clients, moved⟩

/-- The whole pass, from sessions and online positions that agree. -/
theorem syncClientPositions_passed (order : ClientIteration) {s : ClientManager} (now : Instant)
    (controllers : HashMap ClientId ControllerInfo) (requireActiveConnection : Bool)
    (staffing : Staffing s.clients s.onlinePositions) :
    Passed s [] (s.syncClientPositions order now controllers requireActiveConnection) := by
  refine (GuardedRuns.foldl_pending (fun pending acc => pending.Nodup ∧ Passed s pending acc) ?_
    ⟨order.clients.nodup_list _, Passed.start staffing _⟩).2
  rintro cid pending ⟨clients, onlinePositions, result⟩ ⟨nodup, passed⟩
  refine ⟨nodup.of_cons, ?_⟩
  cases found : clients.lookup cid with
  | none =>
      simp only [found]
      exact passed.skip
  | some session =>
      simp only [found]
      exact passed.visit nodup found syncSession_synced

/-- The pass neither connects nor disconnects anybody. -/
theorem tx_syncClientPositions (order : ClientIteration) (s : ClientManager) (now : Instant)
    (controllers : HashMap ClientId ControllerInfo) (requireActiveConnection : Bool)
    (clientId : ClientId) :
    ((s.syncClientPositions order now controllers requireActiveConnection).1.lookup
      clientId).map ClientSession.tx = (s.clients.lookup clientId).map ClientSession.tx := by
  unfold syncClientPositions
  refine List.foldlRecOn (motive := fun acc : HashMap ClientId ClientSession × PositionClients ×
    ClientPositionSync => (acc.1.lookup clientId).map ClientSession.tx =
      (s.clients.lookup clientId).map ClientSession.tx) _ _ rfl ?_
  rintro ⟨clients, onlinePositions, result⟩ same cid _
  simp only at same ⊢
  cases found : clients.lookup cid with
  | none => exact same
  | some session =>
      simp only [Finmap.lookup_insert_eq]
      split
      · rename_i isThis
        subst isThis
        rw [← same, found, Option.map_some, Option.map_some, syncSession_synced.tx]
      · exact same

end ClientManager

end Vacs
