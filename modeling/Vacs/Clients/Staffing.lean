import Vacs.Clients.Visibility

/-!
# Sessions, staffed positions and covered stations

The session of a client names its position, and the online positions name their
clients. `Staffing` says that the two agree and that no online position is left
without clients. `Covered` says that the station map is the coverage of the
positions that count. Each section of `addClient` and `removeClient`, and each
half of a move between positions, has one lemma for what it does to the staffed
positions, one for the positions only staffed on VATSIM and one for `Covered`.
-/

set_option autoImplicit false

namespace Vacs

/-- The client is among those of an online position. -/
def Staffs (onlinePositions : PositionClients) (clientId : ClientId) (positionId : PositionId) :
    Prop :=
  ∃ clients, onlinePositions.lookup positionId = some clients ∧ clientId ∈ clients

/-- The client is connected, at the position. -/
def SessionAt (clients : HashMap ClientId ClientSession) (clientId : ClientId)
    (positionId : PositionId) : Prop :=
  ∃ session, clients.lookup clientId = some session ∧ session.positionId = some positionId

/-- No online position is without clients. -/
def Occupied (onlinePositions : PositionClients) : Prop :=
  ∀ positionId clients, onlinePositions.lookup positionId = some clients → clients ≠ ∅

/-- If the position has a single client, it is this one. -/
def OnlyClient (onlinePositions : PositionClients) (clientId : ClientId)
    (positionId : PositionId) : Prop :=
  ∀ clients, onlinePositions.lookup positionId = some clients → clients.card = 1 →
    clients = {clientId}

/-- Sessions and online positions agree. -/
structure Staffing (clients : HashMap ClientId ClientSession)
    (onlinePositions : PositionClients) : Prop where
  named : ∀ clientId session, clients.lookup clientId = some session → session.id = clientId
  staffed : ∀ clientId positionId,
    Staffs onlinePositions clientId positionId ↔ SessionAt clients clientId positionId
  occupied : Occupied onlinePositions

theorem Staffs.onlyClient {onlinePositions : PositionClients} {clientId : ClientId}
    {positionId : PositionId} (staffs : Staffs onlinePositions clientId positionId) :
    OnlyClient onlinePositions clientId positionId := by
  intro clients found single
  obtain ⟨_, same, member⟩ := staffs
  rw [found] at same
  cases same
  obtain ⟨only, rfl⟩ := Finset.card_eq_one.mp single
  rw [Finset.mem_singleton.mp member]

/-! ## Sessions at positions -/

theorem sessionAt_insert {clients : HashMap ClientId ClientSession} {clientId other : ClientId}
    {session : ClientSession} {positionId : PositionId} :
    SessionAt (clients.insert clientId session) other positionId ↔
      if other = clientId then session.positionId = some positionId
      else SessionAt clients other positionId := by
  unfold SessionAt
  rw [Finmap.lookup_insert_eq]
  split <;> simp

theorem sessionAt_erase {clients : HashMap ClientId ClientSession} {clientId other : ClientId}
    {positionId : PositionId} :
    SessionAt (clients.erase clientId) other positionId ↔
      other ≠ clientId ∧ SessionAt clients other positionId := by
  unfold SessionAt
  rw [Finmap.lookup_erase_eq]
  split <;> simp_all

/-! ## Joining and leaving a set of clients -/

section Membership

variable {onlinePositions : PositionClients} {clientId other : ClientId}
  {positionId position : PositionId} {clients : Finset ClientId}

theorem staffs_join :
    Staffs (onlinePositions.insert positionId
        (insert clientId ((onlinePositions.lookup positionId).getD ∅))) other position ↔
      Staffs onlinePositions other position ∨ (other = clientId ∧ position = positionId) := by
  unfold Staffs
  rw [Finmap.lookup_insert_eq]
  split
  · rename_i same
    subst same
    cases onlinePositions.lookup position <;> simp [or_comm]
  · rename_i different
    simp [different]

theorem occupied_join (occupied : Occupied onlinePositions) :
    Occupied (onlinePositions.insert positionId
      (insert clientId ((onlinePositions.lookup positionId).getD ∅))) := by
  intro position clients found
  rw [Finmap.lookup_insert_eq] at found
  split at found
  · cases found
    exact Finset.insert_ne_empty _ _
  · exact occupied position clients found

theorem staffs_close (found : onlinePositions.lookup positionId = some {clientId}) :
    Staffs (onlinePositions.erase positionId) other position ↔
      Staffs onlinePositions other position ∧ ¬(other = clientId ∧ position = positionId) := by
  unfold Staffs
  rw [Finmap.lookup_erase_eq]
  split
  · rename_i same
    subst same
    simp [found]
  · rename_i different
    simp [different]

theorem occupied_close (occupied : Occupied onlinePositions) :
    Occupied (onlinePositions.erase positionId) := by
  intro position clients found
  rw [Finmap.lookup_erase_eq] at found
  split at found
  · cases found
  · exact occupied position clients found

theorem staffs_depart (found : onlinePositions.lookup positionId = some clients) :
    Staffs (onlinePositions.insert positionId (clients.erase clientId)) other position ↔
      Staffs onlinePositions other position ∧ ¬(other = clientId ∧ position = positionId) := by
  unfold Staffs
  rw [Finmap.lookup_insert_eq]
  split
  · rename_i same
    subst same
    simp [found, and_comm]
  · rename_i different
    simp [different]

theorem occupied_depart (occupied : Occupied onlinePositions)
    (found : onlinePositions.lookup positionId = some clients) (several : clients.card ≠ 1) :
    Occupied (onlinePositions.insert positionId (clients.erase clientId)) := by
  intro position left isLeft
  rw [Finmap.lookup_insert_eq] at isLeft
  split at isLeft
  · cases isLeft
    intro isEmpty
    have present := Finset.card_pos.mpr
      (Finset.nonempty_iff_ne_empty.mpr (occupied positionId clients found))
    have atMostOne := Finset.pred_card_le_card_erase (s := clients) (a := clientId)
    rw [isEmpty, Finset.card_empty] at atMostOne
    omega
  · exact occupied position left isLeft

theorem keys_insert_of_found {value : Finset ClientId}
    (found : onlinePositions.lookup positionId = some clients) :
    (onlinePositions.insert positionId value).keys = onlinePositions.keys := by
  rw [Finmap.keys_insert_eq, Finset.insert_eq_self, Finmap.mem_keys_iff_lookup]
  exact ⟨clients, found⟩

end Membership

theorem keys_erase_eq {K V : Type} [DecidableEq K] (m : HashMap K V) (key : K) :
    (m.erase key).keys = m.keys.erase key := by
  ext other
  rw [Finset.mem_erase, Finmap.mem_keys, Finmap.mem_keys, Finmap.mem_erase]

namespace ClientManager

/-- The station map is the coverage of the positions that count. -/
def Covered (s : ClientManager) : Prop :=
  ∀ stationId, s.onlineStations.lookup stationId = s.network.coverage s.allPositions stationId

/-- Folding the difference of two coverages into the station map. -/
theorem lookup_updateOnlineStations {onlineStations : StationCoverage}
    {changes : List StationChange} {before after : StationId → Option PositionId}
    (isDiff : IsDiff changes before after)
    (shows : ∀ stationId, onlineStations.lookup stationId = before stationId)
    (stationId : StationId) :
    (updateOnlineStations onlineStations changes).lookup stationId = after stationId := by
  rw [updateOnlineStations_eq]
  exact isDiff.describes.lookup_applyChanges shows stationId

/-! ## Staffing a position -/

section StaffPosition

variable (order : ClientIteration) (s : ClientManager) (clientId : ClientId)
  (positionId : PositionId)

theorem clients_staffPosition :
    (s.staffPosition order clientId positionId).1.clients = s.clients := by
  unfold staffPosition
  split
  · rfl
  · simp only
    split <;> rfl

theorem network_staffPosition :
    (s.staffPosition order clientId positionId).1.network = s.network := by
  unfold staffPosition
  split
  · rfl
  · simp only
    split <;> rfl

theorem onlinePositions_staffPosition :
    (s.staffPosition order clientId positionId).1.onlinePositions =
      s.onlinePositions.insert positionId
        (insert clientId ((s.onlinePositions.lookup positionId).getD ∅)) := by
  unfold staffPosition
  split
  · rename_i clients found
    rw [(Option.filter_eq_some_iff.mp found).1, Option.getD_some]
  · rename_i vacant
    have isEmpty : (s.onlinePositions.lookup positionId).getD ∅ = ∅ := by
      cases found : s.onlinePositions.lookup positionId with
      | none => rfl
      | some clients =>
          rw [found] at vacant
          simpa [Option.filter] using vacant
    rw [isEmpty, insert_empty_eq]
    simp only
    split <;> rfl

/-- A position that is staffed is not counted as only staffed on VATSIM. -/
theorem keys_vatsimOnlyPositions_staffPosition
    (disjoint : Disjoint s.onlinePositions.keys s.vatsimOnlyPositions.keys) :
    (s.staffPosition order clientId positionId).1.vatsimOnlyPositions.keys =
      s.vatsimOnlyPositions.keys.erase positionId := by
  unfold staffPosition
  split
  · rename_i clients found
    have online : positionId ∈ s.onlinePositions.keys :=
      (Finmap.mem_keys_iff_lookup _ _).mpr ⟨clients, (Option.filter_eq_some_iff.mp found).1⟩
    rw [Finset.erase_eq_of_notMem (Finset.disjoint_left.mp disjoint online)]
  · simp only
    split
    · exact keys_erase_eq _ _
    · rename_i absent
      rw [Finset.erase_eq_of_notMem absent]

theorem disjoint_staffPosition
    (disjoint : Disjoint s.onlinePositions.keys s.vatsimOnlyPositions.keys) :
    Disjoint (s.staffPosition order clientId positionId).1.onlinePositions.keys
      (s.staffPosition order clientId positionId).1.vatsimOnlyPositions.keys := by
  rw [keys_vatsimOnlyPositions_staffPosition _ _ _ _ disjoint, onlinePositions_staffPosition,
    Finmap.keys_insert_eq, Finset.disjoint_insert_left]
  exact ⟨Finset.notMem_erase _ _, disjoint.mono_right (Finset.erase_subset _ _)⟩

theorem allPositions_staffPosition :
    (s.staffPosition order clientId positionId).1.allPositions =
      insert positionId s.allPositions := by
  unfold staffPosition allPositions
  split
  · simp only [Finmap.keys_insert_eq, Finset.insert_union]
  · simp only
    split
    · simp only [Finmap.keys_insert_eq, keys_erase_eq]
      ext other
      simp only [Finset.mem_union, Finset.mem_insert, Finset.mem_erase]
      tauto
    · simp only [Finmap.keys_insert_eq, Finset.insert_union]

/-- Adding a position to those that count. -/
theorem isDiff_coverageChanges_join (network : Network) (positions : Finset PositionId) :
    IsDiff (network.coverageChanges none (some positionId) positions)
      (network.coverage positions) (network.coverage (insert positionId positions)) := by
  unfold Network.coverageChanges
  simp only
  split
  · rename_i counted
    have counted : positionId ∈ positions := by simpa using counted
    rw [Finset.insert_eq_self.mpr counted]
    refine ⟨List.nodup_nil, fun change => ?_⟩
    unfold changeBetween
    split <;> simp_all
  · exact network.isDiff_coverageDiff _ _

theorem covered_staffPosition (covered : s.Covered) :
    (s.staffPosition order clientId positionId).1.Covered := by
  intro stationId
  rw [allPositions_staffPosition, network_staffPosition]
  unfold staffPosition
  split
  · rename_i clients found
    have counted : positionId ∈ s.allPositions := Finset.mem_union_left _
      ((Finmap.mem_keys_iff_lookup _ _).mpr ⟨clients, (Option.filter_eq_some_iff.mp found).1⟩)
    rw [Finset.insert_eq_self.mpr counted]
    exact covered stationId
  · simp only
    split
    · rename_i onVatsim
      have counted : positionId ∈ s.allPositions := Finset.mem_union_right _ onVatsim
      rw [Finset.insert_eq_self.mpr counted]
      exact covered stationId
    · exact lookup_updateOnlineStations (isDiff_coverageChanges_join positionId _ _) covered
        stationId

end StaffPosition

/-! ## Leaving a position -/

section LeavePosition

variable (order : ClientIteration) (s : ClientManager) (clientId : ClientId)
  (positionId : PositionId) (prefetched : Prefetched)

theorem clients_leavePosition :
    (s.leavePosition order clientId positionId prefetched).1.clients = s.clients := by
  unfold leavePosition
  split
  · rfl
  · split
    · split <;> rfl
    · rfl

theorem network_leavePosition :
    (s.leavePosition order clientId positionId prefetched).1.network = s.network := by
  unfold leavePosition
  split
  · rfl
  · split
    · split <;> rfl
    · rfl

theorem onlinePositions_leavePosition :
    (s.leavePosition order clientId positionId prefetched).1.onlinePositions =
      match s.onlinePositions.lookup positionId with
      | none => s.onlinePositions
      | some clients =>
          if clients.card = 1 then s.onlinePositions.erase positionId
          else s.onlinePositions.insert positionId (clients.erase clientId) := by
  unfold leavePosition
  cases s.onlinePositions.lookup positionId with
  | none => rfl
  | some clients =>
      simp only
      split
      · split <;> rfl
      · rfl

theorem staffs_leavePosition (only : OnlyClient s.onlinePositions clientId positionId)
    {other : ClientId} {position : PositionId} :
    Staffs (s.leavePosition order clientId positionId prefetched).1.onlinePositions other
        position ↔
      Staffs s.onlinePositions other position ∧
        ¬(other = clientId ∧ position = positionId) := by
  rw [onlinePositions_leavePosition]
  cases found : s.onlinePositions.lookup positionId with
  | none =>
      refine ⟨fun staffs => ⟨staffs, ?_⟩, fun both => both.1⟩
      rintro ⟨_, rfl⟩
      obtain ⟨clients, present, _⟩ := staffs
      rw [found] at present
      cases present
  | some clients =>
      simp only
      split
      · rename_i single
        exact staffs_close (found.trans (congrArg some (only clients found single)))
      · exact staffs_depart found

theorem occupied_leavePosition (occupied : Occupied s.onlinePositions) :
    Occupied (s.leavePosition order clientId positionId prefetched).1.onlinePositions := by
  rw [onlinePositions_leavePosition]
  cases found : s.onlinePositions.lookup positionId with
  | none => exact occupied
  | some clients =>
      simp only
      split
      · exact occupied_close occupied
      · rename_i several
        exact occupied_depart occupied found several

theorem disjoint_leavePosition
    (disjoint : Disjoint s.onlinePositions.keys s.vatsimOnlyPositions.keys) :
    Disjoint (s.leavePosition order clientId positionId prefetched).1.onlinePositions.keys
      (s.leavePosition order clientId positionId prefetched).1.vatsimOnlyPositions.keys := by
  unfold leavePosition
  split
  · exact disjoint
  · rename_i clients found
    split
    · split
      · simp only [keys_erase_eq, Finmap.keys_insert_eq]
        rw [Finset.disjoint_insert_right]
        exact ⟨Finset.notMem_erase _ _, disjoint.mono_left (Finset.erase_subset _ _)⟩
      · simp only [keys_erase_eq]
        exact disjoint.mono_left (Finset.erase_subset _ _)
    · simp only [keys_insert_of_found found]
      exact disjoint

theorem covered_leavePosition (covered : s.Covered)
    (disjoint : Disjoint s.onlinePositions.keys s.vatsimOnlyPositions.keys) :
    (s.leavePosition order clientId positionId prefetched).1.Covered := by
  intro stationId
  rw [network_leavePosition]
  unfold leavePosition
  split
  · exact covered stationId
  · rename_i clients found
    have online : positionId ∈ s.onlinePositions.keys :=
      (Finmap.mem_keys_iff_lookup _ _).mpr ⟨clients, found⟩
    split
    · split
      · rename_i cids _
        have same : (s.onlinePositions.erase positionId).keys ∪
            (s.vatsimOnlyPositions.insert positionId cids).keys = s.allPositions := by
          rw [keys_erase_eq, Finmap.keys_insert_eq, Finset.union_insert, ← Finset.insert_union,
            Finset.insert_erase online]
          rfl
        simp only [allPositions, same]
        exact covered stationId
      · have left : (s.onlinePositions.erase positionId).keys ∪ s.vatsimOnlyPositions.keys =
            s.allPositions.erase positionId := by
          rw [keys_erase_eq, allPositions, Finset.erase_union_distrib,
            Finset.erase_eq_of_notMem (Finset.disjoint_left.mp disjoint online)]
        simp only [allPositions, left]
        exact lookup_updateOnlineStations (s.network.isDiff_coverageDiff _ _) covered stationId
    · simp only [allPositions, keys_insert_of_found found]
      exact covered stationId

end LeavePosition

end ClientManager

end Vacs
