import Vacs.Clients.Reconnect
import Vacs.Calls.Operations

/-!
# Who ends a session

Every connection has a task: it registers a session, runs the interaction loop, and
finally unregisters its client. A sync round decides which clients to kick while it
holds the sessions, and unregisters them one after the other afterwards.
`unregisterClient` takes the session of a client out of the client manager and then
cleans up the calls of the client. It is given the client only, so it cannot tell
which session of the client it is called for.

The machine below runs connection tasks, sync rounds and the later sections of
logins and logouts in any order. A task remembers the session it is about by its
channel. `Rightful` says that a move that takes out a session or cleans up calls is
about the session that is there. It holds along a run if no client logs in while an
unregistration of an earlier session is still to come (`Unhurried`).
-/

set_option autoImplicit false

namespace Vacs

/-- A client and the session a task has created or observed, if there was one. -/
abbrev SessionRef : Type := ClientId × Option ℕ

/-- Where a connection task or a sync round stands. -/
inductive SessionTask where
  /-- The interaction loop; the unregistration is still to come. -/
  | connection (clientId : ClientId) (tx : ℕ)
  /-- A sync round that has clients left to kick. -/
  | kicking (sessions : List SessionRef)
  /-- An unregistration that has calls left to clean up, with the rest of its round. -/
  | cleaning (session : SessionRef) (rest : List SessionRef)
deriving DecidableEq

/-- The sessions a task has yet to unregister or to clean up after. -/
def SessionTask.sessions : SessionTask → List SessionRef
  | .connection clientId tx => [(clientId, some tx)]
  | .kicking sessions => sessions
  | .cleaning session rest => session :: rest

/-- The managers, the next channel to be created, and the running tasks. -/
structure AppState where
  registrations : Registrations
  calls : CallManager
  nextTx : ℕ
  tasks : Multiset SessionTask

inductive SessionMove where
  | register (clientInfo : ClientInfo) (activeProfile : ActiveProfile ProfileId) (now : Instant)
  /-- A later section of a login or a logout. -/
  | proceed (move : RegistrationMove)
  /-- A message that the interaction loop of some client handles. -/
  | interact (request : Request)
  /-- The interaction loop of a connection ends, and its task unregisters the client. -/
  | hangUp (clientId : ClientId) (tx : ℕ)
  | syncVatsimState (order : ClientIteration) (now : Instant)
      (controllers : HashMap ClientId ControllerInfo) (requireActiveConnection : Bool)
  | kick (session : SessionRef) (rest : List SessionRef)
  | cleanup (order : Iteration) (now : Instant) (session : SessionRef) (rest : List SessionRef)

/-- The move is not the first section of an operation. -/
def RegistrationMove.isLater : RegistrationMove → Bool
  | .login _ _ _ _ | .logout _ => false
  | _ => true

def Operation.isCleanup : Operation → Bool
  | .cleanupClientCalls _ => true
  | _ => false

namespace AppState

def new (network : Network) (positionGracePeriod : Duration) (maxConfSize : ℕ) : AppState where
  registrations := ⟨.new network positionGracePeriod maxConfSize, 0⟩
  calls := .new maxConfSize
  nextTx := 0
  tasks := 0

/-- The connected clients. -/
def clients (state : AppState) : HashMap ClientId ClientSession :=
  state.registrations.manager.clients

/-- The first section of `unregisterClient`, called by a task for one session. -/
def unregisterClient (state : AppState) (task : SessionTask) (session : SessionRef)
    (rest : List SessionRef) : Option AppState :=
  if task ∈ state.tasks then
    (state.registrations.step (.logout session.1)).map fun registrations =>
      { state with
        registrations := registrations
        tasks := .cleaning session rest ::ₘ state.tasks.erase task }
  else none

def step (state : AppState) : SessionMove → Option AppState
  | .register clientInfo activeProfile now =>
      if clientInfo.id ∈ state.clients.keys then some state
      else
        (state.registrations.step (.login clientInfo activeProfile state.nextTx now)).map
          fun registrations =>
            { state with
              registrations := registrations
              nextTx := state.nextTx + 1
              tasks := .connection clientInfo.id state.nextTx ::ₘ state.tasks }
  | .proceed move =>
      if move.isLater then
        (state.registrations.step move).map fun registrations =>
          { state with registrations := registrations }
      else none
  | .interact request =>
      if request.op.isCleanup then none
      else some { state with calls := state.calls.next request }
  | .hangUp clientId tx =>
      state.unregisterClient (.connection clientId tx) (clientId, some tx) []
  | .syncVatsimState order now controllers requireActiveConnection =>
      let (manager, outcome) := state.registrations.manager.syncVatsimState order now controllers
        requireActiveConnection
      some { state with
        registrations := { state.registrations with manager := manager }
        tasks := .kicking (outcome.sync.disconnectedClients.map fun (clientId, _) =>
          (clientId, (state.clients.lookup clientId).map ClientSession.tx)) ::ₘ state.tasks }
  | .kick session rest => state.unregisterClient (.kicking (session :: rest)) session rest
  | .cleanup order now session rest =>
      if .cleaning session rest ∈ state.tasks then
        some { state with
          calls := state.calls.next ⟨.cleanupClientCalls session.1, order, now⟩
          tasks := .kicking rest ::ₘ state.tasks.erase (.cleaning session rest) }
      else none

/-- The session of the client, if it is connected, is the given one. -/
def IsSession (state : AppState) (session : SessionRef) : Prop :=
  ∀ current ∈ state.clients.lookup session.1, some current.tx = session.2

/-- A move that takes out a session or cleans up the calls of its client does it for
the session that the connection created or the sync round observed. -/
def Rightful (state : AppState) : SessionMove → Prop
  | .hangUp clientId tx => state.IsSession (clientId, some tx)
  | .kick session _ => state.IsSession session
  | .cleanup _ _ session _ => state.IsSession session
  | _ => True

/-- A client that is not connected logs in only when every unregistration of an
earlier session is over. -/
def Unhurried (state : AppState) : SessionMove → Prop
  | .register clientInfo _ _ => clientInfo.id ∈ state.clients.keys ∨
      ∀ task ∈ state.tasks, ∀ session ∈ task.sessions, session.1 ≠ clientInfo.id
  | _ => True

/-- Whatever a task has yet to unregister or clean up is the current session. -/
def Current (state : AppState) : Prop :=
  ∀ task ∈ state.tasks, ∀ session ∈ task.sessions, state.IsSession session

/-! ## Moves of the client manager -/

theorem clients_finish {state next : Registrations} {task : RegistrationTask}
    {manager : ClientManager} {later : Option RegistrationTask}
    (finishes : state.finish task manager later = some next)
    (same : manager.clients = state.manager.clients) :
    next.manager.clients = state.manager.clients := by
  rw [(Registrations.finish_eq_some finishes).2.1, same]

/-- Later sections connect and disconnect nobody. -/
theorem clients_of_isLater {state next : Registrations} {move : RegistrationMove}
    (isLater : move.isLater = true) (steps : state.step move = some next) :
    next.manager.clients = state.manager.clients := by
  cases move with
  | login | logout => cases isLater
  | staff => exact clients_finish steps (ClientManager.clients_staffPosition ..)
  | leave => exact clients_finish steps (ClientManager.clients_leavePosition ..)
  | peek | fetch | check | clearVatsimOnly | clearStations => exact clients_finish steps rfl

theorem clients_logout {state next : Registrations} {clientId : ClientId}
    (steps : state.step (.logout clientId) = some next) :
    next.manager.clients = state.manager.clients.erase clientId := by
  simp only [Registrations.step] at steps
  split at steps
  · rename_i notConnected
    cases steps
    have absent : state.manager.clients.lookup clientId = none := by
      simpa [ClientManager.takeSession] using notConnected
    exact (Finmap.erase_eq_self absent).symm
  · rename_i manager session takes
    cases steps
    obtain ⟨_, rfl⟩ := ClientManager.takeSession_eq_some takes
    rfl

theorem clients_login {state next : Registrations} {clientInfo : ClientInfo}
    {activeProfile : ActiveProfile ProfileId} {tx : ℕ} {now : Instant}
    (absent : clientInfo.id ∉ state.manager.clients.keys)
    (steps : state.step (.login clientInfo activeProfile tx now) = some next) :
    next.manager.clients =
      state.manager.clients.insert clientInfo.id (.new clientInfo activeProfile tx now) := by
  simp only [Registrations.step] at steps
  split at steps
  · rename_i notRegistered
    simp [ClientManager.registerSession, absent] at notRegistered
  · rename_i manager registers
    cases steps
    obtain ⟨_, rfl⟩ := ClientManager.registerSession_eq_some registers
    rfl

/-! ## Unhurried moves keep the tasks up to date -/

section Steps

variable {state next : AppState}

/-- Nobody connects, and the new tasks are about sessions of the old ones. -/
theorem Current.of_shrink (current : Current state)
    (clients : ∀ clientId session, next.clients.lookup clientId = some session →
      state.clients.lookup clientId = some session)
    (tasks : ∀ task ∈ next.tasks, ∀ session ∈ task.sessions,
      ∃ earlier ∈ state.tasks, session ∈ earlier.sessions) : Current next := by
  intro task running session listed connected isConnected
  obtain ⟨earlier, running, listed⟩ := tasks task running session listed
  exact current earlier running session listed connected (clients _ _ isConnected)

theorem unregisterClient_current {task : SessionTask} {session : SessionRef}
    {rest : List SessionRef} (current : Current state)
    (sessions : task.sessions = session :: rest)
    (steps : state.unregisterClient task session rest = some next) : Current next := by
  unfold unregisterClient at steps
  split at steps
  · rename_i running
    obtain ⟨registrations, logsOut, rfl⟩ := Option.map_eq_some_iff.mp steps
    refine current.of_shrink (fun clientId connected isConnected => ?_) fun other runs ref listed => ?_
    · change registrations.manager.clients.lookup clientId = some connected at isConnected
      rw [clients_logout logsOut, Finmap.lookup_erase_eq] at isConnected
      split at isConnected
      · cases isConnected
      · exact isConnected
    · rcases Multiset.mem_cons.mp runs with rfl | runs
      · exact ⟨task, running, sessions ▸ listed⟩
      · exact ⟨other, Multiset.mem_of_mem_erase runs, listed⟩
  · cases steps

theorem register_current {clientInfo : ClientInfo} {activeProfile : ActiveProfile ProfileId}
    {now : Instant} (current : Current state)
    (unhurried : state.Unhurried (.register clientInfo activeProfile now))
    (steps : state.step (.register clientInfo activeProfile now) = some next) : Current next := by
  simp only [step] at steps
  split at steps
  · cases steps
    exact current
  · rename_i absent
    obtain ⟨registrations, logsIn, rfl⟩ := Option.map_eq_some_iff.mp steps
    have idle := unhurried.resolve_left absent
    intro task runs session listed connected isConnected
    change registrations.manager.clients.lookup session.1 = some connected at isConnected
    rw [clients_login absent logsIn, Finmap.lookup_insert_eq] at isConnected
    rcases Multiset.mem_cons.mp runs with rfl | runs
    · rw [SessionTask.sessions, List.mem_singleton] at listed
      subst listed
      rw [if_pos rfl] at isConnected
      cases isConnected
      rfl
    · rw [if_neg (idle task runs session listed)] at isConnected
      exact current task runs session listed connected isConnected

theorem syncVatsimState_current {order : ClientIteration} {now : Instant}
    {controllers : HashMap ClientId ControllerInfo} {requireActiveConnection : Bool}
    (current : Current state)
    (steps : state.step (.syncVatsimState order now controllers requireActiveConnection) =
      some next) : Current next := by
  have kept : ∀ clientId, (next.clients.lookup clientId).map ClientSession.tx =
      (state.clients.lookup clientId).map ClientSession.tx := by
    intro clientId
    cases steps
    exact state.registrations.manager.tx_syncClientPositions order now controllers
      requireActiveConnection clientId
  have isSession : ∀ session : SessionRef,
      (∀ connected ∈ state.clients.lookup session.1, some connected.tx = session.2) →
      next.IsSession session := by
    intro session before connected isConnected
    have kept := kept session.1
    rw [show next.clients.lookup session.1 = some connected from isConnected] at kept
    obtain ⟨earlier, was, same⟩ := Option.map_eq_some_iff.mp kept.symm
    rw [← same]
    exact before earlier was
  cases steps
  intro task runs session listed
  refine isSession session ?_
  rcases Multiset.mem_cons.mp runs with rfl | runs
  · obtain ⟨kicked, _, rfl⟩ := List.mem_map.mp listed
    intro connected isConnected
    simp only at isConnected ⊢
    rw [show state.clients.lookup kicked.1 = some connected from isConnected]
    rfl
  · exact current task runs session listed

theorem step_current {move : SessionMove} (current : Current state)
    (unhurried : state.Unhurried move) (steps : state.step move = some next) : Current next := by
  cases move with
  | register clientInfo activeProfile now => exact register_current current unhurried steps
  | proceed move =>
      simp only [step] at steps
      split at steps
      · rename_i isLater
        obtain ⟨registrations, proceeds, rfl⟩ := Option.map_eq_some_iff.mp steps
        refine current.of_shrink (fun clientId session isConnected => ?_)
          fun task runs session listed => ⟨task, runs, listed⟩
        change registrations.manager.clients.lookup clientId = some session at isConnected
        rw [clients_of_isLater isLater proceeds] at isConnected
        exact isConnected
      · cases steps
  | interact request =>
      simp only [step] at steps
      split at steps
      · cases steps
      · cases steps
        exact current
  | hangUp clientId tx => exact unregisterClient_current current rfl steps
  | syncVatsimState order now controllers requireActiveConnection =>
      exact syncVatsimState_current current steps
  | kick session rest => exact unregisterClient_current current rfl steps
  | cleanup order now session rest =>
      simp only [step] at steps
      split at steps
      · rename_i running
        cases steps
        refine current.of_shrink (fun _ _ isConnected => isConnected) fun task runs ref listed => ?_
        rcases Multiset.mem_cons.mp runs with rfl | runs
        · exact ⟨_, running, List.mem_cons_of_mem _ listed⟩
        · exact ⟨task, Multiset.mem_of_mem_erase runs, listed⟩
      · cases steps

/-- A move of a task is about a session of the task. -/
theorem Current.rightful {move : SessionMove} (current : Current state)
    (steps : state.step move = some next) : state.Rightful move := by
  have running : ∀ {task session rest}, state.unregisterClient task session rest = some next →
      task ∈ state.tasks := by
    intro task session rest unregisters
    by_contra absent
    simp [unregisterClient, absent] at unregisters
  cases move with
  | hangUp clientId tx => exact current _ (running steps) _ (List.mem_cons_self ..)
  | kick session rest => exact current _ (running steps) _ (List.mem_cons_self ..)
  | cleanup order now session rest =>
      refine current (.cleaning session rest) ?_ _ (List.mem_cons_self ..)
      by_contra absent
      simp [step, absent] at steps
  | register | proceed | interact | syncVatsimState => trivial

end Steps

instance (state : AppState) (session : SessionRef) : Decidable (state.IsSession session) :=
  inferInstanceAs (Decidable (∀ current ∈ state.clients.lookup session.1, _ = _))

instance (state : AppState) : ∀ move, Decidable (state.Rightful move)
  | .hangUp _ _ | .kick _ _ | .cleanup _ _ _ _ => inferInstanceAs (Decidable (state.IsSession _))
  | .register _ _ _ | .proceed _ | .interact _ | .syncVatsimState _ _ _ _ =>
      inferInstanceAs (Decidable True)

instance (state : AppState) : ∀ move, Decidable (state.Unhurried move)
  | .register _ _ _ => inferInstanceAs (Decidable (_ ∨ ∀ _ ∈ _, ∀ _ ∈ _, _))
  | .proceed _ | .interact _ | .hangUp _ _ | .syncVatsimState _ _ _ _ | .kick _ _
  | .cleanup _ _ _ _ => inferInstanceAs (Decidable True)

end AppState

/-- In every run from an empty server in which no client logs in while an
unregistration of an earlier session is still to come, every session that is taken
out, and every session whose calls are cleaned up, is the one that the connection
created or the sync round observed. -/
theorem unhurriedRun_rightful (network : Network) (positionGracePeriod : Duration)
    (maxConfSize : ℕ) {moves : List SessionMove} {final : AppState}
    (unhurried : GuardedRuns.Guarded AppState.step AppState.Unhurried
      (.new network positionGracePeriod maxConfSize) moves)
    (runs : GuardedRuns.runMoves AppState.step (.new network positionGracePeriod maxConfSize)
      moves = some final) :
    GuardedRuns.Guarded AppState.step AppState.Rightful
      (.new network positionGracePeriod maxConfSize) moves :=
  unhurried.strengthen (fun _ _ _ => AppState.step_current)
    (fun _ _ _ current _ steps => current.rightful steps) runs
    fun _ running => absurd running (Multiset.notMem_zero _)

/-! ## A client that logs in before its old task is done -/

/-- A login of the client without a position. -/
def observerRegisters : SessionMove :=
  .register ⟨⟨"10000002"⟩, "LOVV_OBS", "199.998", none⟩ .custom 0

/-- A sync round that finds nobody on VATSIM. -/
def emptySync : SessionMove := .syncVatsimState .increasing 0 ∅ true

/-- The second round without a VATSIM connection kicks the client. -/
def observerKicked : List SessionMove :=
  [observerRegisters, emptySync, emptySync, .kick (⟨"10000002"⟩, some 0) [], .proceed .check,
    .proceed .clearVatsimOnly, .proceed .clearStations,
    .cleanup .increasing 0 (⟨"10000002"⟩, some 0) []]

/-- The task of the kicked session ends, then the client logs in again. -/
def returnsAfterwards : List SessionMove :=
  observerKicked ++ [.hangUp ⟨"10000002"⟩ 0, .cleanup .increasing 0 (⟨"10000002"⟩, some 0) [],
    observerRegisters]

theorem unhurriedRun_rightful_returnsAfterwards :
    GuardedRuns.Guarded AppState.step AppState.Rightful (.new twoSectors 0 3) returnsAfterwards ∧
      ∃ final, GuardedRuns.runMoves AppState.step (.new twoSectors 0 3) returnsAfterwards =
        some final := by
  have runs : (GuardedRuns.runMoves AppState.step (.new twoSectors 0 3)
      returnsAfterwards).isSome = true := by decide +kernel
  obtain ⟨final, runs⟩ := Option.isSome_iff_exists.mp runs
  exact ⟨unhurriedRun_rightful twoSectors 0 3 (by decide +kernel) runs, final, runs⟩

/-- The client logs in again before the task of the kicked session ends. -/
def returnsMeanwhile : List SessionMove :=
  observerKicked ++ [observerRegisters, .hangUp ⟨"10000002"⟩ 0]

/-- The task of the kicked session takes out the new one. -/
theorem returnsMeanwhile_wrongful :
    ¬∀ (network : Network) (positionGracePeriod : Duration) (maxConfSize : ℕ)
      (moves : List SessionMove) (final : AppState),
      GuardedRuns.runMoves AppState.step (.new network positionGracePeriod maxConfSize) moves =
        some final →
      GuardedRuns.Guarded AppState.step AppState.Rightful
        (.new network positionGracePeriod maxConfSize) moves := by
  intro rightful
  have runs : (GuardedRuns.runMoves AppState.step (.new twoSectors 0 3)
      returnsMeanwhile).isSome = true := by decide +kernel
  obtain ⟨final, runs⟩ := Option.isSome_iff_exists.mp runs
  have wrongful : ¬GuardedRuns.Guarded AppState.step AppState.Rightful (.new twoSectors 0 3)
      returnsMeanwhile := by decide +kernel
  exact wrongful (rightful twoSectors 0 3 returnsMeanwhile final runs)

end Vacs
