import Vacs.Clients.Convergence
import Vacs.Foundations.GuardedRuns

/-!
# Logins and logouts that overlap

`addClient` and `removeClient` hold no lock from their first section to their last.
A task is a started operation with the section it is about to enter; the sections
of all tasks interleave in any order. A client may log in again as soon as the
first section of its logout is done, while the section that takes it off its
position is still ahead.

The machine below takes one section at a time. `Registered` is what holds between
the sections: a client on a position is connected there or a logout has yet to
take it off, and a connected client is on its position or its login has yet to put
it there. Two sections can break it, and the last one can wipe the stations of a
client that came in the meantime. `Harmless` excludes exactly these cases.
-/

set_option autoImplicit false

namespace Vacs

/-- A started login or logout, by the section that it is about to enter. -/
inductive RegistrationTask where
  | staffing (clientId : ClientId) (positionId : PositionId)
  | peeking (clientId : ClientId) (positionId : PositionId)
  | fetching (clientId : ClientId) (positionId : PositionId)
  | leaving (clientId : ClientId) (positionId : PositionId)
      (prefetched : ClientManager.Prefetched)
  | checking
  | clearingVatsimOnly
  | clearingStations
deriving DecidableEq

/-- The task is a logout that has yet to take the client off the position. -/
def RegistrationTask.Removes (task : RegistrationTask) (clientId : ClientId)
    (positionId : PositionId) : Prop :=
  match task with
  | .peeking client position | .fetching client position | .leaving client position _ =>
      client = clientId ∧ position = positionId
  | _ => False

instance (task : RegistrationTask) (clientId : ClientId) (positionId : PositionId) :
    Decidable (task.Removes clientId positionId) := by
  unfold RegistrationTask.Removes
  split <;> infer_instance

/-- The client manager and the started tasks. -/
structure Registrations where
  manager : ClientManager
  tasks : Multiset RegistrationTask

/-- The next section to run: the first of a new operation, or that of a task. -/
inductive RegistrationMove where
  | login (clientInfo : ClientInfo) (activeProfile : ActiveProfile ProfileId) (tx : ℕ)
      (now : Instant)
  | staff (order : ClientIteration) (clientId : ClientId) (positionId : PositionId)
  | logout (clientId : ClientId)
  | peek (clientId : ClientId) (positionId : PositionId)
  | fetch (clientId : ClientId) (positionId : PositionId) (feed : Option (List ControllerInfo))
  | leave (order : ClientIteration) (clientId : ClientId) (positionId : PositionId)
      (prefetched : ClientManager.Prefetched)
  | check
  | clearVatsimOnly
  | clearStations

namespace Registrations

/-- Finish the section of a pending task: the task goes on as `later`, if at all. -/
def finish (state : Registrations) (task : RegistrationTask) (manager : ClientManager)
    (later : Option RegistrationTask) : Option Registrations :=
  if task ∈ state.tasks then
    some ⟨manager, Multiset.ofList later.toList + state.tasks.erase task⟩
  else none

/-- Start an operation with its first section. -/
def start (state : Registrations) (manager : ClientManager) (later : Option RegistrationTask) :
    Registrations :=
  ⟨manager, Multiset.ofList later.toList + state.tasks⟩

def step (state : Registrations) : RegistrationMove → Option Registrations
  | .login clientInfo activeProfile tx now =>
      match state.manager.registerSession clientInfo activeProfile tx now with
      | none => some state
      | some manager =>
          some (state.start manager (clientInfo.positionId.map (.staffing clientInfo.id)))
  | .staff order clientId positionId =>
      state.finish (.staffing clientId positionId)
        (state.manager.staffPosition order clientId positionId).1 none
  | .logout clientId =>
      match state.manager.takeSession clientId with
      | none => some state
      | some (manager, session) =>
          some (state.start manager (some (session.positionId.elim .checking (.peeking clientId))))
  | .peek clientId positionId =>
      state.finish (.peeking clientId positionId) state.manager
        (some (if state.manager.needsFetch positionId then .fetching clientId positionId
          else .leaving clientId positionId none))
  | .fetch clientId positionId feed =>
      state.finish (.fetching clientId positionId) state.manager
        (some (.leaving clientId positionId (some (feed, state.manager.clients.keys))))
  | .leave order clientId positionId prefetched =>
      state.finish (.leaving clientId positionId prefetched)
        (state.manager.leavePosition order clientId positionId prefetched).1 (some .checking)
  | .check =>
      state.finish .checking state.manager
        (if state.manager.clients.isEmpty then some .clearingVatsimOnly else none)
  | .clearVatsimOnly =>
      state.finish .clearingVatsimOnly state.manager.clearVatsimOnly (some .clearingStations)
  | .clearStations => state.finish .clearingStations state.manager.clearOnlineStations none

/-! ## Sections that do no harm -/

/-- The clients that leaving the position takes off it. -/
def takenOff (state : Registrations) (clientId : ClientId) (positionId : PositionId) :
    Finset ClientId :=
  match state.manager.onlinePositions.lookup positionId with
  | none => ∅
  | some clients =>
      if clients.card = 1 then clients else clients.filter fun other => other = clientId

/-- Nobody who is connected loses its position for good, nobody who is gone gets one
for good, and no covered station is cleared. -/
def Harmless (state : Registrations) : RegistrationMove → Prop
  | .staff _ clientId positionId =>
      SessionAt state.manager.clients clientId positionId ∨
        ∃ task ∈ state.tasks, task.Removes clientId positionId
  | .leave _ clientId positionId _ => ∀ other ∈ state.takenOff clientId positionId,
      SessionAt state.manager.clients other positionId →
        RegistrationTask.staffing other positionId ∈ state.tasks
  | .clearStations =>
      state.manager.network.coveredStations state.manager.allPositions = []
  | _ => True

/-- What holds between the sections. -/
structure Registered (state : Registrations) : Prop where
  staffed : ∀ clientId positionId, Staffs state.manager.onlinePositions clientId positionId →
    SessionAt state.manager.clients clientId positionId ∨
      ∃ task ∈ state.tasks, task.Removes clientId positionId
  connected : ∀ clientId positionId, SessionAt state.manager.clients clientId positionId →
    Staffs state.manager.onlinePositions clientId positionId ∨
      RegistrationTask.staffing clientId positionId ∈ state.tasks
  occupied : Occupied state.manager.onlinePositions
  disjoint : Disjoint state.manager.onlinePositions.keys state.manager.vatsimOnlyPositions.keys
  covered : state.manager.Covered ∨ RegistrationTask.clearingStations ∈ state.tasks

theorem registered_of_indexed {s : ClientManager} (indexed : ClientIndexed s) :
    Registered ⟨s, 0⟩ where
  staffed clientId positionId staffs :=
    .inl ((indexed.staffing.staffed clientId positionId).mp staffs)
  connected clientId positionId isAt :=
    .inl ((indexed.staffing.staffed clientId positionId).mpr isAt)
  occupied := indexed.staffing.occupied
  disjoint := indexed.disjoint
  covered := .inl indexed.covered

section Finish

variable {state next : Registrations} {task : RegistrationTask} {manager : ClientManager}
  {later : Option RegistrationTask}

theorem finish_eq_some (finishes : state.finish task manager later = some next) :
    task ∈ state.tasks ∧ next.manager = manager ∧
      next.tasks = Multiset.ofList later.toList + state.tasks.erase task := by
  unfold finish at finishes
  split at finishes
  · rename_i pending
    cases finishes
    exact ⟨pending, rfl, rfl⟩
  · cases finishes

/-- Other tasks stay pending. -/
theorem pending_finish (finishes : state.finish task manager later = some next)
    {other : RegistrationTask} (pending : other ∈ state.tasks) (different : other ≠ task) :
    other ∈ next.tasks := by
  rw [(finish_eq_some finishes).2.2, Multiset.mem_add]
  exact .inr ((Multiset.mem_erase_of_ne different).mpr pending)

theorem later_finish {other : RegistrationTask}
    (finishes : state.finish task manager (some other) = some next) : other ∈ next.tasks := by
  rw [(finish_eq_some finishes).2.2, Multiset.mem_add]
  exact .inl (by simp)

/-- A logout that has yet to take the client off the position stays pending. -/
theorem removes_finish (finishes : state.finish task manager later = some next)
    {clientId : ClientId} {positionId : PositionId}
    (goesOn : task.Removes clientId positionId → ∃ other ∈ later, other.Removes clientId positionId)
    (pending : ∃ task ∈ state.tasks, task.Removes clientId positionId) :
    ∃ task ∈ next.tasks, task.Removes clientId positionId := by
  obtain ⟨other, isPending, removes⟩ := pending
  by_cases same : other = task
  · obtain ⟨other, isLater, removes⟩ := goesOn (same ▸ removes)
    cases isLater
    exact ⟨other, later_finish finishes, removes⟩
  · exact ⟨other, pending_finish finishes isPending same, removes⟩

end Finish

/-! ## Every harmless section keeps the invariant -/

section Steps

variable {state next : Registrations}

theorem login_registered {clientInfo : ClientInfo} {activeProfile : ActiveProfile ProfileId}
    {tx : ℕ} {now : Instant} (registered : Registered state)
    (steps : state.step (.login clientInfo activeProfile tx now) = some next) :
    Registered next := by
  simp only [step] at steps
  split at steps
  · cases steps
    exact registered
  · rename_i manager registers
    obtain ⟨absent, rfl⟩ := ClientManager.registerSession_eq_some registers
    cases steps
    have kept : ∀ task ∈ state.tasks, task ∈ (state.start { state.manager with
        clients := state.manager.clients.insert clientInfo.id
          (.new clientInfo activeProfile tx now) }
        (clientInfo.positionId.map (.staffing clientInfo.id))).tasks :=
      fun task pending => Multiset.mem_add.mpr (.inr pending)
    refine ⟨fun clientId positionId staffs => ?_, fun clientId positionId isAt => ?_,
      registered.occupied, registered.disjoint, ?_⟩
    · rcases registered.staffed clientId positionId staffs with isAt | ⟨task, pending, removes⟩
      · have ⟨session, found, _⟩ := isAt
        have different : clientId ≠ clientInfo.id := by
          rintro rfl
          exact absent ((Finmap.mem_keys_iff_lookup _ _).mpr ⟨session, found⟩)
        refine .inl (sessionAt_insert.mpr ?_)
        rw [if_neg different]
        exact isAt
      · exact .inr ⟨task, kept task pending, removes⟩
    · have inserted := sessionAt_insert.mp isAt
      split at inserted
      · rename_i same
        subst same
        have position : clientInfo.positionId = some positionId := inserted
        refine .inr (Multiset.mem_add.mpr (.inl ?_))
        simp [position]
      · exact (registered.connected clientId positionId inserted).imp_right (kept _)
    · exact registered.covered.imp id (kept _)

theorem logout_registered {clientId : ClientId} (registered : Registered state)
    (steps : state.step (.logout clientId) = some next) : Registered next := by
  simp only [step] at steps
  split at steps
  · cases steps
    exact registered
  · rename_i manager session takes
    obtain ⟨found, rfl⟩ := ClientManager.takeSession_eq_some takes
    cases steps
    have kept : ∀ task ∈ state.tasks, task ∈ (state.start { state.manager with
        clients := state.manager.clients.erase clientId }
        (some (session.positionId.elim .checking (.peeking clientId)))).tasks :=
      fun task pending => Multiset.mem_add.mpr (.inr pending)
    refine ⟨fun other positionId staffs => ?_, fun other positionId isAt => ?_,
      registered.occupied, registered.disjoint, registered.covered.imp id (kept _)⟩
    · rcases registered.staffed other positionId staffs with isAt | ⟨task, pending, removes⟩
      · by_cases same : other = clientId
        · subst same
          obtain ⟨_, isFound, position⟩ := isAt
          rw [found] at isFound
          cases isFound
          refine .inr ⟨.peeking other positionId, Multiset.mem_add.mpr (.inl ?_), rfl, rfl⟩
          simp [position]
        · exact .inl (sessionAt_erase.mpr ⟨same, isAt⟩)
      · exact .inr ⟨task, kept task pending, removes⟩
    · exact (registered.connected other positionId (sessionAt_erase.mp isAt).2).imp_right (kept _)

/-- A section that leaves the maps as they are. -/
theorem idle_registered {task : RegistrationTask} {later : Option RegistrationTask}
    (registered : Registered state)
    (finishes : state.finish task state.manager later = some next)
    (goesOn : ∀ clientId positionId, task.Removes clientId positionId →
      ∃ other ∈ later, other.Removes clientId positionId)
    (notStaffing : ∀ clientId positionId, task ≠ .staffing clientId positionId)
    (notClearing : task ≠ .clearingStations) : Registered next := by
  have same := (finish_eq_some finishes).2.1
  refine ⟨fun clientId positionId staffs => ?_, fun clientId positionId isAt => ?_,
    same ▸ registered.occupied, same ▸ registered.disjoint, ?_⟩
  · rw [same] at staffs ⊢
    exact (registered.staffed clientId positionId staffs).imp_right
      (removes_finish finishes (goesOn clientId positionId))
  · rw [same] at isAt ⊢
    exact (registered.connected clientId positionId isAt).imp_right fun pending =>
      pending_finish finishes pending (notStaffing clientId positionId).symm
  · rw [same]
    exact registered.covered.imp_right fun pending =>
      pending_finish finishes pending notClearing.symm

theorem staff_registered {order : ClientIteration} {clientId : ClientId} {positionId : PositionId}
    (registered : Registered state) (harmless : state.Harmless (.staff order clientId positionId))
    (steps : state.step (.staff order clientId positionId) = some next) : Registered next := by
  obtain ⟨_, isManager, _⟩ := finish_eq_some steps
  have goesOn : ∀ other position, RegistrationTask.Removes (.staffing clientId positionId) other
      position → ∃ task ∈ (none : Option RegistrationTask), task.Removes other position :=
    fun _ _ removes => removes.elim
  refine ⟨fun other position staffs => ?_, fun other position isAt => ?_, ?_, ?_, ?_⟩
  · rw [isManager, ClientManager.onlinePositions_staffPosition, staffs_join] at staffs
    rw [isManager, ClientManager.clients_staffPosition]
    rcases staffs with staffs | ⟨rfl, rfl⟩
    · exact (registered.staffed other position staffs).imp_right
        (removes_finish steps (goesOn other position))
    · exact harmless.imp_right (removes_finish steps (goesOn other position))
  · rw [isManager, ClientManager.clients_staffPosition] at isAt
    rw [isManager, ClientManager.onlinePositions_staffPosition, staffs_join]
    by_cases isThis : other = clientId ∧ position = positionId
    · exact .inl (.inr isThis)
    · refine (registered.connected other position isAt).imp .inl fun pending =>
        pending_finish steps pending fun same => isThis ?_
      cases same
      exact ⟨rfl, rfl⟩
  · rw [isManager, ClientManager.onlinePositions_staffPosition]
    exact occupied_join registered.occupied
  · rw [isManager]
    exact ClientManager.disjoint_staffPosition order _ clientId positionId registered.disjoint
  · rw [isManager]
    exact registered.covered.imp (ClientManager.covered_staffPosition order _ clientId positionId)
      fun pending => pending_finish steps pending fun same => by cases same

/-- Exactly the clients that are taken off stop staffing the position. -/
theorem staffs_leave_iff (state : Registrations) (order : ClientIteration) (clientId : ClientId)
    (positionId : PositionId) (prefetched : ClientManager.Prefetched) (other : ClientId)
    (position : PositionId) :
    Staffs (state.manager.leavePosition order clientId positionId prefetched).1.onlinePositions
        other position ↔
      Staffs state.manager.onlinePositions other position ∧
        ¬(position = positionId ∧ other ∈ state.takenOff clientId positionId) := by
  rw [ClientManager.onlinePositions_leavePosition]
  unfold takenOff
  cases found : state.manager.onlinePositions.lookup positionId with
  | none => simp
  | some clients =>
      simp only
      split
      · unfold Staffs
        rw [Finmap.lookup_erase_eq]
        by_cases same : position = positionId
        · subst same
          simp [found]
        · simp [same]
      · rw [staffs_depart found]
        by_cases same : position = positionId
        · subst same
          simp only [Staffs, found, Option.some.injEq, exists_eq_left', Finset.mem_filter]
          tauto
        · simp [same]

theorem mem_takenOff {clientId : ClientId} {positionId : PositionId}
    (staffs : Staffs state.manager.onlinePositions clientId positionId) :
    clientId ∈ state.takenOff clientId positionId := by
  obtain ⟨clients, found, member⟩ := staffs
  simp only [takenOff, found]
  split
  · exact member
  · exact Finset.mem_filter.mpr ⟨member, rfl⟩

theorem leave_registered {order : ClientIteration} {clientId : ClientId} {positionId : PositionId}
    {prefetched : ClientManager.Prefetched} (registered : Registered state)
    (harmless : state.Harmless (.leave order clientId positionId prefetched))
    (steps : state.step (.leave order clientId positionId prefetched) = some next) :
    Registered next := by
  obtain ⟨_, isManager, _⟩ := finish_eq_some steps
  refine ⟨fun other position staffs => ?_, fun other position isAt => ?_, ?_, ?_, ?_⟩
  · rw [isManager, staffs_leave_iff] at staffs
    rw [isManager, ClientManager.clients_leavePosition]
    refine (registered.staffed other position staffs.1).imp_right (removes_finish steps ?_)
    rintro ⟨rfl, rfl⟩
    exact absurd ⟨rfl, mem_takenOff staffs.1⟩ staffs.2
  · rw [isManager, ClientManager.clients_leavePosition] at isAt
    rw [isManager, staffs_leave_iff]
    have kept : ∀ pending : RegistrationTask.staffing other position ∈ state.tasks,
        RegistrationTask.staffing other position ∈ next.tasks :=
      fun pending => pending_finish steps pending fun same => by cases same
    by_cases off : position = positionId ∧ other ∈ state.takenOff clientId positionId
    · exact .inr (kept (off.1 ▸ harmless other off.2 (off.1 ▸ isAt)))
    · exact (registered.connected other position isAt).imp (fun staffs => ⟨staffs, off⟩) kept
  · rw [isManager]
    exact ClientManager.occupied_leavePosition order _ clientId positionId prefetched
      registered.occupied
  · rw [isManager]
    exact ClientManager.disjoint_leavePosition order _ clientId positionId prefetched
      registered.disjoint
  · rw [isManager]
    exact registered.covered.imp (fun covered => ClientManager.covered_leavePosition order _
      clientId positionId prefetched covered registered.disjoint)
      fun pending => pending_finish steps pending fun same => by cases same

theorem clearVatsimOnly_registered (registered : Registered state)
    (steps : state.step .clearVatsimOnly = some next) : Registered next := by
  obtain ⟨_, isManager, _⟩ := finish_eq_some steps
  refine ⟨fun clientId positionId staffs => ?_, fun clientId positionId isAt => ?_, ?_, ?_,
    .inr (later_finish steps)⟩
  · rw [isManager] at staffs ⊢
    exact (registered.staffed clientId positionId staffs).imp_right
      (removes_finish steps fun removes => removes.elim)
  · rw [isManager] at isAt ⊢
    exact (registered.connected clientId positionId isAt).imp_right fun pending =>
      pending_finish steps pending fun same => by cases same
  · rw [isManager]
    exact registered.occupied
  · rw [isManager]
    exact Finset.disjoint_empty_right _

theorem clearStations_registered (registered : Registered state)
    (harmless : state.Harmless .clearStations)
    (steps : state.step .clearStations = some next) : Registered next := by
  obtain ⟨_, isManager, _⟩ := finish_eq_some steps
  refine ⟨fun clientId positionId staffs => ?_, fun clientId positionId isAt => ?_, ?_, ?_, .inl ?_⟩
  · rw [isManager] at staffs ⊢
    exact (registered.staffed clientId positionId staffs).imp_right
      (removes_finish steps fun removes => removes.elim)
  · rw [isManager] at isAt ⊢
    exact (registered.connected clientId positionId isAt).imp_right fun pending =>
      pending_finish steps pending fun same => by cases same
  · rw [isManager]
    exact registered.occupied
  · rw [isManager]
    exact registered.disjoint
  · rw [isManager]
    intro stationId
    exact (Network.coverage_eq_none_of_coveredStations harmless stationId).symm

theorem step_registered {move : RegistrationMove} (registered : Registered state)
    (harmless : state.Harmless move) (steps : state.step move = some next) : Registered next := by
  cases move with
  | login clientInfo activeProfile tx now => exact login_registered registered steps
  | staff order clientId positionId => exact staff_registered registered harmless steps
  | logout clientId => exact logout_registered registered steps
  | peek clientId positionId =>
      refine idle_registered registered steps ?_ (fun _ _ same => by cases same)
        (fun same => by cases same)
      rintro other position ⟨rfl, rfl⟩
      refine ⟨_, rfl, ?_⟩
      split <;> exact ⟨rfl, rfl⟩
  | fetch clientId positionId feed =>
      refine idle_registered registered steps ?_ (fun _ _ same => by cases same)
        (fun same => by cases same)
      rintro other position ⟨rfl, rfl⟩
      exact ⟨_, rfl, rfl, rfl⟩
  | leave order clientId positionId prefetched => exact leave_registered registered harmless steps
  | check =>
      exact idle_registered registered steps (fun _ _ removes => removes.elim)
        (fun _ _ same => by cases same) (fun same => by cases same)
  | clearVatsimOnly => exact clearVatsimOnly_registered registered steps
  | clearStations => exact clearStations_registered registered harmless steps

end Steps

/-- When every started operation has finished, sessions and online positions agree and
the station map is the coverage of the positions. -/
def Settled (s : ClientManager) : Prop :=
  (∀ clientId positionId, SessionAt s.clients clientId positionId →
    Staffs s.onlinePositions clientId positionId) ∧
  (∀ clientId positionId, Staffs s.onlinePositions clientId positionId →
    SessionAt s.clients clientId positionId) ∧ s.Covered

theorem Registered.settled {s : ClientManager} (registered : Registered ⟨s, 0⟩) : Settled s := by
  refine ⟨fun clientId positionId isAt => ?_, fun clientId positionId staffs => ?_, ?_⟩
  · exact (registered.connected clientId positionId isAt).resolve_right (Multiset.notMem_zero _)
  · refine (registered.staffed clientId positionId staffs).resolve_right ?_
    rintro ⟨task, pending, _⟩
    exact Multiset.notMem_zero _ pending
  · exact registered.covered.resolve_right (Multiset.notMem_zero _)

instance (clients : HashMap ClientId ClientSession) (clientId : ClientId)
    (positionId : PositionId) : Decidable (SessionAt clients clientId positionId) :=
  decidable_of_iff (((clients.lookup clientId).bind ClientSession.positionId) = some positionId)
    Option.bind_eq_some_iff

instance (state : Registrations) : ∀ move, Decidable (state.Harmless move)
  | .staff _ clientId positionId =>
      have : Decidable (∃ task ∈ state.tasks, task.Removes clientId positionId) :=
        Multiset.decidableExistsMultiset
      inferInstanceAs (Decidable (_ ∨ _))
  | .leave _ _ _ _ => inferInstanceAs (Decidable (∀ _ ∈ _, _ → _))
  | .clearStations => inferInstanceAs (Decidable (_ = _))
  | .login _ _ _ _ | .logout _ | .peek _ _ | .fetch _ _ _ | .check | .clearVatsimOnly =>
      inferInstanceAs (Decidable True)

end Registrations

/-- Logins and logouts whose sections all do no harm leave the maps settled once all
of them have finished, from any client manager whose maps agree. -/
theorem harmlessRun_settles {s final : ClientManager} (indexed : ClientIndexed s)
    {moves : List RegistrationMove}
    (harmless : GuardedRuns.Guarded Registrations.step Registrations.Harmless ⟨s, 0⟩ moves)
    (runs : GuardedRuns.runMoves Registrations.step ⟨s, 0⟩ moves = some ⟨final, 0⟩) :
    Registrations.Settled final :=
  (harmless.preserves (fun _ _ _ => Registrations.step_registered) runs
    (Registrations.registered_of_indexed indexed)).settled

/-! ## A client that reconnects too early -/

/-- A login of the client on its position. -/
def loginAgain : RegistrationMove :=
  .login ⟨⟨"10000001"⟩, "LOVV_CTR", "132.600", some ⟨"LOVV_CTR"⟩⟩ .custom 0 0

/-- The client reconnects when the logout is over. -/
def reconnectsAfterwards : List RegistrationMove :=
  [loginAgain, .staff .increasing ⟨"10000001"⟩ ⟨"LOVV_CTR"⟩, .logout ⟨"10000001"⟩,
    .peek ⟨"10000001"⟩ ⟨"LOVV_CTR"⟩, .fetch ⟨"10000001"⟩ ⟨"LOVV_CTR"⟩ none,
    .leave .increasing ⟨"10000001"⟩ ⟨"LOVV_CTR"⟩ (some (none, ∅)), .check, .clearVatsimOnly,
    .clearStations, loginAgain, .staff .increasing ⟨"10000001"⟩ ⟨"LOVV_CTR"⟩]

/-- The client reconnects while the data feed is asked. -/
def reconnectsMeanwhile : List RegistrationMove :=
  [loginAgain, .staff .increasing ⟨"10000001"⟩ ⟨"LOVV_CTR"⟩, .logout ⟨"10000001"⟩,
    .peek ⟨"10000001"⟩ ⟨"LOVV_CTR"⟩, loginAgain, .staff .increasing ⟨"10000001"⟩ ⟨"LOVV_CTR"⟩,
    .fetch ⟨"10000001"⟩ ⟨"LOVV_CTR"⟩ none,
    .leave .increasing ⟨"10000001"⟩ ⟨"LOVV_CTR"⟩ (some (none, {⟨"10000001"⟩})), .check]

theorem harmlessRun_settles_reconnectsAfterwards :
    ∃ final, GuardedRuns.runMoves Registrations.step ⟨.new twoSectors 0 3, 0⟩
        reconnectsAfterwards = some ⟨final, 0⟩ ∧
      Registrations.Settled final ∧ SessionAt final.clients ⟨"10000001"⟩ ⟨"LOVV_CTR"⟩ := by
  have tasks : (GuardedRuns.runMoves Registrations.step ⟨.new twoSectors 0 3, 0⟩
      reconnectsAfterwards).map Registrations.tasks = some 0 := by decide +kernel
  have isAt : ∀ final ∈ GuardedRuns.runMoves Registrations.step ⟨.new twoSectors 0 3, 0⟩
      reconnectsAfterwards, SessionAt final.manager.clients ⟨"10000001"⟩ ⟨"LOVV_CTR"⟩ := by
    decide +kernel
  obtain ⟨⟨final, _⟩, runs, rfl⟩ := Option.map_eq_some_iff.mp tasks
  exact ⟨final, runs, harmlessRun_settles (ClientManager.new_indexed _ _ _) (by decide +kernel)
    runs, isAt _ runs⟩

/-- The logout that is still under way takes the new session off its position. -/
theorem reconnectsMeanwhile_unsettled :
    ¬∀ (s final : ClientManager) (moves : List RegistrationMove), ClientIndexed s →
      GuardedRuns.runMoves Registrations.step ⟨s, 0⟩ moves = some ⟨final, 0⟩ →
      Registrations.Settled final := by
  intro settles
  have tasks : (GuardedRuns.runMoves Registrations.step ⟨.new twoSectors 0 3, 0⟩
      reconnectsMeanwhile).map Registrations.tasks = some 0 := by decide +kernel
  have isAt : ∀ final ∈ GuardedRuns.runMoves Registrations.step ⟨.new twoSectors 0 3, 0⟩
      reconnectsMeanwhile, SessionAt final.manager.clients ⟨"10000001"⟩ ⟨"LOVV_CTR"⟩ ∧
        final.manager.onlinePositions.lookup ⟨"LOVV_CTR"⟩ = none := by
    decide +kernel
  obtain ⟨⟨final, _⟩, runs, rfl⟩ := Option.map_eq_some_iff.mp tasks
  obtain ⟨connected, offline⟩ := isAt _ runs
  obtain ⟨clients, online, _⟩ := (settles _ final _ (ClientManager.new_indexed _ _ _) runs).1
    _ _ connected
  rw [offline] at online
  cases online

end Vacs
