import Vacs.Clients.StationTasks

/-!
# Station changes in order

The view of a client shows the visible coverage as long as the messages about a
station reach its queue in the order in which the coverage changed. Nothing makes the
tasks that send them keep this order: a controller that takes over a position may be
announced before its predecessor's logout is, and the station then stays offline for
everybody else (`loginAnnouncedFirst_hides`).

A message is `UpToDate` if all it says is still true when it is queued, or if
another message about the same station is still to be sent. In runs that queue only
such messages, the views of all clients converge.
-/

set_option autoImplicit false

namespace Vacs

/-! ## What a client should see -/

/-- The status fits a station that the position covers. -/
def StationStatus.fits (self : Option PositionId) (positionId : PositionId) :
    StationStatus → Bool
  | .listed own => own == (self == some positionId)
  | .coveredBy other => other == positionId

namespace ClientManager

/-- The visible coverage of a station, as far as the profile of the session goes. -/
def visibleTo (s : ClientManager) (session : ClientSession) (stationId : StationId) :
    Option PositionId :=
  (s.network.relevantStations session.activeProfile).restrict
    (fun stationId => s.visibleCoverage.lookup stationId) stationId

/-- What a client knows of a station is right. -/
def agrees (s : ClientManager) (session : ClientSession) (stationId : StationId)
    (known : Option StationStatus) : Bool :=
  match known, s.visibleTo session stationId with
  | none, none => true
  | some status, some positionId => status.fits session.positionId positionId
  | _, _ => false

theorem agrees_congr {s : ClientManager} {first second : ClientSession}
    (position : second.positionId = first.positionId)
    (profile : second.activeProfile = first.activeProfile) (stationId : StationId)
    (known : Option StationStatus) :
    s.agrees second stationId known = s.agrees first stationId known := by
  unfold agrees visibleTo
  rw [position, profile]

theorem agrees_of_visibleTo {s s' : ClientManager} {session : ClientSession}
    {stationId : StationId} (same : s'.visibleTo session stationId = s.visibleTo session stationId)
    (known : Option StationStatus) :
    s'.agrees session stationId known = s.agrees session stationId known := by
  unfold agrees
  rw [same]

theorem visibleTo_eq_some {s : ClientManager} {session : ClientSession} {stationId : StationId}
    {positionId : PositionId} :
    s.visibleTo session stationId = some positionId ↔
      (s.network.relevantStations session.activeProfile).has stationId = true ∧
        s.onlineStations.lookup stationId = some positionId ∧
        positionId ∈ s.onlinePositions.keys := by
  unfold visibleTo RelevantStations.restrict
  split
  · rename_i relevant
    simp only [visibleCoverage, Finmap.lookup_retain_eq_some, decide_eq_true_eq, relevant,
      true_and]
  · rename_i irrelevant
    simp [irrelevant]

/-- A station that is listed is visible, and its own flag is right. -/
theorem mem_listStations (order : ClientIteration) (s : ClientManager)
    (session : ClientSession) (info : StationInfo) :
    info ∈ s.listStations order session.activeProfile session.positionId ↔
      ∃ positionId, s.visibleTo session info.id = some positionId ∧
        info.own = (session.positionId == some positionId) := by
  simp only [listStations, List.mem_filterMap, List.mem_insertionSort, Option.bind_eq_some_iff,
    visibleTo_eq_some]
  constructor
  · rintro ⟨stationId, listed, positionId, covers, isInfo⟩
    split at isInfo
    · rename_i online
      cases isInfo
      refine ⟨positionId, ⟨?_, covers, online⟩, rfl⟩
      cases relevant : s.network.relevantStations session.activeProfile with
      | all => rfl
      | subset ids =>
          rw [relevant] at listed
          exact decide_eq_true ((order.stations.mem_list ids stationId).mp listed)
      | none =>
          rw [relevant] at listed
          cases listed
    · cases isInfo
  · rintro ⟨positionId, ⟨isRelevant, covers, online⟩, isOwn⟩
    refine ⟨info.id, ?_, positionId, covers, ?_⟩
    · cases relevant : s.network.relevantStations session.activeProfile with
      | all =>
          simp only [Enumeration.mem_list, Finmap.mem_keys_iff_lookup]
          exact ⟨positionId, covers⟩
      | subset ids =>
          rw [relevant] at isRelevant
          exact (order.stations.mem_list ids info.id).mpr (of_decide_eq_true isRelevant)
      | none =>
          rw [relevant] at isRelevant
          cases isRelevant
    · rw [if_pos online, ← isOwn]

/-- The list of stations says the truth about every station. -/
theorem agrees_listStations (order : ClientIteration) (s : ClientManager)
    (session : ClientSession) (stationId : StationId) {known : Option StationStatus}
    (isKnown : StationMessage.news stationId (.stationList
      (s.listStations order session.activeProfile session.positionId)) = some known) :
    s.agrees session stationId known = true := by
  obtain rfl := Option.some.inj isKnown
  unfold Finmap.lastUpdate
  cases found : (StationMessage.updates (.stationList (s.listStations order session.activeProfile
      session.positionId))).reverse.find? fun update => decide (update.1 = stationId) with
  | none =>
      have absent : s.visibleTo session stationId = none := by
        rw [Option.eq_none_iff_forall_not_mem]
        intro positionId visible
        have listed := (mem_listStations order s session
          ⟨stationId, session.positionId == some positionId⟩).mpr ⟨positionId, visible, rfl⟩
        rw [List.find?_eq_none] at found
        exact found _ (List.mem_reverse.mpr (List.mem_map_of_mem listed)) (decide_eq_true rfl)
      simp [agrees, absent]
  | some update =>
      have isStation := List.find?_some found
      rw [decide_eq_true_eq] at isStation
      obtain ⟨info, listed, rfl⟩ :=
        List.mem_map.mp (List.mem_reverse.mp (List.mem_of_find?_eq_some found))
      obtain ⟨positionId, visible, isOwn⟩ := (mem_listStations order s session info).mp listed
      rw [show info.id = stationId from isStation] at visible
      simp [agrees, visible, StationStatus.fits, isOwn]

end ClientManager

/-! ## Messages in order -/

namespace StationStep

/-- The step will tell the session something about the station. -/
def concerns (network : Network) (session : ClientSession) (stationId : StationId) :
    StationStep → Bool
  | .listStations tx _ _ => tx == session.tx
  | .broadcast changes =>
      (network.relevantStations session.activeProfile).has stationId &&
        changes.any fun change => change.stationId == stationId
  | .enqueue tx message => tx == session.tx && (message.news stationId).isSome
  | .start _ => false

end StationStep

namespace StationServer

/-- Some task will tell the session something about the station. -/
def Pending (state : StationServer) (session : ClientSession) (stationId : StationId) : Bool :=
  state.tasks.anyValue fun steps => steps.any (·.concerns state.manager.network session stationId)

/-- All that a message says about stations is right, or another message about the station is
still to be sent. -/
def UpToDate (state : StationServer) (session : ClientSession) (message : StationMessage) : Prop :=
  ∀ stationId ∈ (message.updates.map Prod.fst).toFinset ∪ state.manager.onlineStations.keys,
    ∀ known ∈ message.news stationId, state.manager.agrees session stationId known = true ∨
      state.Pending session stationId = true

instance (state : StationServer) (session : ClientSession) (message : StationMessage) :
    Decidable (state.UpToDate session message) :=
  inferInstanceAs (Decidable (∀ stationId ∈ _, ∀ known ∈ message.news stationId, _))

/-- A step with the rest of its task left. A message is put into the queue of a session that has
kept its position and profile only if it is up to date. -/
def stepInOrder (state : StationServer) : StationStep → Prop
  | .enqueue tx message =>
      ∀ clientId ∈ state.manager.clients.keys, ∀ session ∈ state.manager.clients.lookup clientId,
        session.tx = tx → tx ∉ state.moved → state.UpToDate session message
  | _ => True

instance (state : StationServer) : (step : StationStep) → Decidable (state.stepInOrder step)
  | .enqueue tx message =>
      inferInstanceAs (Decidable (∀ clientId ∈ state.manager.clients.keys,
        ∀ session ∈ state.manager.clients.lookup clientId,
          session.tx = tx → tx ∉ state.moved → state.UpToDate session message))
  | .listStations .. | .broadcast .. | .start .. => isTrue trivial

def InOrder (state : StationServer) : StationMove → Prop
  | .proceed task _ =>
      ∀ steps ∈ state.tasks.lookup task, ∀ step ∈ steps.head?,
        stepInOrder { state with tasks := state.tasks.insert task steps.tail } step
  | _ => True

instance (state : StationServer) : (move : StationMove) → Decidable (state.InOrder move)
  | .proceed task _ =>
      inferInstanceAs (Decidable (∀ steps ∈ state.tasks.lookup task, ∀ step ∈ steps.head?,
        stepInOrder { state with tasks := state.tasks.insert task steps.tail } step))
  | .login .. | .logout .. | .sync .. | .requestList .. | .deliver .. => isTrue trivial

/-- The last thing the client of a session was told about a station, or is going to read in its
queue. -/
def known (state : StationServer) (tx : ℕ) (stationId : StationId) :
    Option (Option StationStatus) :=
  (StationMessage.latest stationId (state.queue tx)).or
    ((state.views.lookup tx).map fun view => view.lookup stationId)

/-- The session has a right copy of its position and profile, it has started or is going to, and
what its client knows or will read is right or is going to be corrected. -/
structure Served (state : StationServer) (session : ClientSession) : Prop where
  copy : ∃ copy, state.sessions.lookup session.tx = some copy ∧
    copy.positionId = session.positionId ∧ copy.activeProfile = session.activeProfile
  started : (∃ view, state.views.lookup session.tx = some view) ∨
    ∃ task steps, state.tasks.lookup task = some steps ∧ .start session.tx ∈ steps
  right : ∀ stationId value, state.known session.tx stationId = some value →
    state.manager.agrees session stationId value = true ∨ state.Pending session stationId = true

/-- The maps of the manager agree, tasks and sessions belong to earlier operations, and every
session that has kept its position and profile is served. -/
structure Informed (state : StationServer) : Prop where
  indexed : ClientIndexed state.manager
  earlierTasks : ∀ task steps, state.tasks.lookup task = some steps → task < state.operations
  earlierSessions : ∀ clientId session, state.manager.clients.lookup clientId = some session →
    session.tx < state.operations
  served : ∀ clientId session, state.manager.clients.lookup clientId = some session →
    session.tx ∉ state.moved → state.Served session

theorem informed_new (network : Network) (positionGracePeriod : Duration) (maxConfSize : ℕ) :
    (new network positionGracePeriod maxConfSize).Informed where
  indexed := ClientManager.new_indexed network positionGracePeriod maxConfSize
  earlierTasks task steps found := by simp [new] at found
  earlierSessions clientId session found := by simp [new, ClientManager.new] at found
  served clientId session found := by simp [new, ClientManager.new] at found

theorem pending_iff (state : StationServer) (session : ClientSession) (stationId : StationId) :
    state.Pending session stationId = true ↔
      ∃ task steps, state.tasks.lookup task = some steps ∧
        ∃ step ∈ steps, step.concerns state.manager.network session stationId = true := by
  unfold Pending
  rw [Finmap.anyValue_iff]
  simp only [List.any_eq_true]

theorem concerns_congr {network : Network} {first second : ClientSession}
    (tx : second.tx = first.tx) (profile : second.activeProfile = first.activeProfile)
    (stationId : StationId) (step : StationStep) :
    step.concerns network second stationId = step.concerns network first stationId := by
  cases step <;> simp [StationStep.concerns, tx, profile]

/-! ### Operations -/

/-- What is pending stays so when an operation adds its task. -/
theorem Pending.begin {state next : StationServer} (fresh : ∀ task steps,
      state.tasks.lookup task = some steps → task < state.operations)
    {steps : List StationStep} (tasks : next.tasks = state.tasks.insert state.operations steps)
    (network : next.manager.network = state.manager.network) {first second : ClientSession}
    (tx : second.tx = first.tx) (profile : second.activeProfile = first.activeProfile)
    {stationId : StationId} (pending : state.Pending first stationId = true) :
    next.Pending second stationId = true := by
  obtain ⟨task, earlier, found, step, member, concerns⟩ := (pending_iff _ _ _).mp pending
  refine (pending_iff _ _ _).mpr ⟨task, earlier, ?_, step, member, ?_⟩
  · have different : task ≠ state.operations := (fresh task earlier found).ne
    rw [tasks, Finmap.lookup_insert_of_ne _ different]
    exact found
  · rw [network, concerns_congr tx profile]
    exact concerns

/-- A change of the visible coverage is going to be broadcast. -/
theorem Tells.pending {state next : StationServer} {changes : List StationChange}
    (tells : ClientManager.Tells changes state.manager next.manager)
    (network : next.manager.network = state.manager.network) {steps : List StationStep}
    (tasks : next.tasks = state.tasks.insert state.operations steps)
    (sends : .broadcast changes ∈ steps) (session : ClientSession) (stationId : StationId) :
    next.manager.visibleTo session stationId = state.manager.visibleTo session stationId ∨
      next.Pending session stationId = true := by
  by_cases mentioned : ∃ change ∈ changes, change.stationId = stationId
  · obtain ⟨change, member, isStation⟩ := mentioned
    cases relevant : (next.manager.network.relevantStations session.activeProfile).has stationId with
    | false =>
        left
        unfold ClientManager.visibleTo RelevantStations.restrict
        rw [relevant, ← network, relevant]
        rfl
    | true =>
        right
        refine (pending_iff _ _ _).mpr ⟨state.operations, steps, ?_, _, sends, ?_⟩
        · rw [tasks, Finmap.lookup_insert]
        · simp only [StationStep.concerns, relevant, Bool.true_and, List.any_eq_true, beq_iff_eq]
          exact ⟨change, member, isStation⟩
  · left
    have kept := tells.kept stationId fun change member named => mentioned ⟨change, member, named⟩
    unfold ClientManager.visibleTo RelevantStations.restrict
    simp only [ClientManager.lookup_visibleCoverage, network]
    split
    · exact kept
    · rfl

/-- An operation that keeps what belongs to a session and announces what it changes. -/
theorem Served.begin {state next : StationServer} {before after : ClientSession}
    (served : state.Served before)
    (fresh : ∀ task steps, state.tasks.lookup task = some steps → task < state.operations)
    {steps : List StationStep} (tasks : next.tasks = state.tasks.insert state.operations steps)
    (network : next.manager.network = state.manager.network)
    (announced : ∀ stationId,
      next.manager.visibleTo after stationId = state.manager.visibleTo after stationId ∨
        next.Pending after stationId = true)
    (tx : after.tx = before.tx) (position : after.positionId = before.positionId)
    (profile : after.activeProfile = before.activeProfile)
    (queue : next.queue before.tx = state.queue before.tx)
    (views : next.views.lookup before.tx = state.views.lookup before.tx)
    (sessions : next.sessions.lookup before.tx = state.sessions.lookup before.tx) :
    next.Served after where
  copy := by
    obtain ⟨copy, found, samePosition, sameProfile⟩ := served.copy
    refine ⟨copy, ?_, samePosition.trans position.symm, sameProfile.trans profile.symm⟩
    rw [tx, sessions]
    exact found
  started := by
    rw [tx, views]
    refine served.started.imp_right ?_
    rintro ⟨task, pending, found, member⟩
    refine ⟨task, pending, ?_, member⟩
    rw [tasks, Finmap.lookup_insert_of_ne _ (fresh task pending found).ne]
    exact found
  right stationId value isKnown := by
    have wasKnown : state.known before.tx stationId = some value := by
      rw [← isKnown, known, known, tx, queue, views]
    rcases served.right stationId value wasKnown with agrees | pending
    · rcases announced stationId with same | pending
      · left
        rw [ClientManager.agrees_of_visibleTo same, ClientManager.agrees_congr position profile]
        exact agrees
      · exact .inr pending
    · exact .inr (Pending.begin fresh tasks network tx profile pending)

theorem earlierTasks_begin {state : StationServer}
    (fresh : ∀ task steps, state.tasks.lookup task = some steps → task < state.operations)
    (steps : List StationStep) (task : ℕ) (pending : List StationStep)
    (found : (state.tasks.insert state.operations steps).lookup task = some pending) :
    task < state.operations + 1 := by
  rw [Finmap.lookup_insert_eq] at found
  split at found
  · rename_i same
    rw [same]
    exact Nat.lt_succ_self _
  · exact Nat.lt_succ_of_lt (fresh task pending found)

/-! ### Logins, logouts and sync rounds -/

/-- A login enters one session. -/
theorem clients_addClient {order : ClientIteration} {s after : ClientManager}
    {clientInfo : ClientInfo} {activeProfile : ActiveProfile ProfileId} {tx : ℕ} {now : Instant}
    {changes : List StationChange}
    (adds : s.addClient order clientInfo activeProfile tx now = some (after, changes)) :
    after.clients = s.clients.insert clientInfo.id (.new clientInfo activeProfile tx now) := by
  obtain ⟨registered, registers, isAfter⟩ := Option.map_eq_some_iff.mp adds
  obtain ⟨_, rfl⟩ := ClientManager.registerSession_eq_some registers
  cases hasPosition : clientInfo.positionId with
  | none =>
      rw [hasPosition] at isAfter
      cases isAfter
      rfl
  | some positionId =>
      rw [hasPosition] at isAfter
      obtain rfl := (congrArg Prod.fst isAfter).symm
      exact ClientManager.clients_staffPosition ..

theorem Informed.login {state : StationServer} (informed : state.Informed)
    {order : ClientIteration} {clientInfo : ClientInfo} {activeProfile : ActiveProfile ProfileId}
    {now : Instant} {manager : ClientManager} {changes : List StationChange}
    (adds : state.manager.addClient order clientInfo activeProfile state.operations now =
      some (manager, changes)) :
    Informed { state.begin manager [.broadcast changes, .start state.operations] with
      queues := state.queues.insert state.operations []
      views := state.views.erase state.operations
      sessions := state.sessions.insert state.operations
        (.new clientInfo activeProfile state.operations now) } := by
  obtain ⟨tells, network, _⟩ := ClientManager.addClient_tells order informed.indexed.covered adds
  have entered : ∀ other session, manager.clients.lookup other = some session →
      session = .new clientInfo activeProfile state.operations now ∨
        state.manager.clients.lookup other = some session := by
    intro other session found
    rw [clients_addClient adds, Finmap.lookup_insert_eq] at found
    split at found
    · exact .inl (Option.some.inj found).symm
    · exact .inr found
  refine ⟨ClientManager.addClient_indexed order informed.indexed adds,
    earlierTasks_begin informed.earlierTasks _, ?_, ?_⟩
  · intro other session found
    rcases entered other session found with rfl | earlier
    · exact Nat.lt_succ_self _
    · exact Nat.lt_succ_of_lt (informed.earlierSessions other session earlier)
  · intro other session found notMoved
    rcases entered other session found with rfl | earlier
    · -- The new session has not been told anything yet.
      refine ⟨⟨_, Finmap.lookup_insert _, rfl, rfl⟩, .inr ⟨state.operations, _,
        Finmap.lookup_insert _, List.mem_cons_of_mem _ (List.mem_singleton.mpr rfl)⟩, ?_⟩
      intro stationId value isKnown
      simp [known, queue, ClientSession.new, StationMessage.latest] at isKnown
    · have different : session.tx ≠ state.operations :=
        (informed.earlierSessions other session earlier).ne
      refine (informed.served other session earlier notMoved).begin informed.earlierTasks rfl network
        (Tells.pending tells network rfl (List.mem_cons_self ..) session) rfl rfl rfl ?_ ?_ ?_
      · simp [queue, different]
      · exact Finmap.lookup_erase_ne different
      · exact Finmap.lookup_insert_of_ne _ different

theorem Informed.logout {state : StationServer} (informed : state.Informed)
    (order : ClientIteration) (clientId : ClientId) (feed : Option (List ControllerInfo)) :
    Informed (state.begin (state.manager.removeClient order clientId feed).1
      [.broadcast (state.manager.removeClient order clientId feed).2]) := by
  obtain ⟨network, clients⟩ := ClientManager.removeClient_sessions order state.manager clientId feed
  have remains : ∀ other session,
      (state.manager.removeClient order clientId feed).1.clients.lookup other = some session →
      state.manager.clients.lookup other = some session := by
    intro other session found
    rw [clients, Finmap.lookup_erase_eq] at found
    split at found
    · cases found
    · exact found
  refine ⟨ClientManager.removeClient_indexed order clientId feed informed.indexed,
    earlierTasks_begin informed.earlierTasks _, ?_, ?_⟩
  · intro other session found
    exact Nat.lt_succ_of_lt (informed.earlierSessions other session (remains other session found))
  · intro other session found notMoved
    have served := informed.served other session (remains other session found) notMoved
    rcases ClientManager.removeClient_tells order clientId feed informed.indexed with alone | tells
    · change (state.manager.removeClient order clientId feed).1.clients.lookup other = _ at found
      rw [(Finmap.isEmpty_iff _).mp alone.1 other] at found
      cases found
    · exact served.begin informed.earlierTasks rfl network
        (Tells.pending tells network rfl (List.mem_singleton.mpr rfl) session) rfl rfl rfl rfl rfl rfl

theorem notMem_movedSessions {before after : HashMap ClientId ClientSession} {clientId : ClientId}
    {old new : ClientSession} (wasConnected : before.lookup clientId = some old)
    (isConnected : after.lookup clientId = some new) (kept : old.tx ∉ movedSessions before after) :
    new.positionId = old.positionId ∧ new.activeProfile = old.activeProfile := by
  by_contra moved
  refine kept (Finset.mem_biUnion.mpr ⟨clientId, ?_, ?_⟩)
  · rw [Finmap.mem_keys_iff_lookup]
    exact ⟨old, wasConnected⟩
  · rw [wasConnected, isConnected]
    simp only [if_neg moved, Finset.mem_singleton]

theorem Informed.sync {state : StationServer} (informed : state.Informed)
    (order : ClientIteration) (now : Instant) (controllers : HashMap ClientId ControllerInfo)
    (requireActiveConnection : Bool) :
    Informed
      { state.begin
          (state.manager.syncVatsimState order now controllers requireActiveConnection).1
          (state.manager.syncVatsimState order now controllers
            requireActiveConnection).2.stationSteps with
        moved := state.moved ∪ movedSessions state.manager.clients
          (state.manager.syncVatsimState order now controllers
            requireActiveConnection).1.clients } := by
  have tells := ClientManager.syncVatsimState_tells order now controllers requireActiveConnection
    informed.indexed
  have sameTx := fun clientId => state.manager.tx_syncClientPositions order now controllers
    requireActiveConnection clientId
  have indexed := ClientManager.syncVatsimState_indexed order now controllers
    requireActiveConnection informed.indexed
  have remains : ∀ other session,
      (state.manager.syncVatsimState order now controllers
        requireActiveConnection).1.clients.lookup other = some session →
      ∃ before, state.manager.clients.lookup other = some before ∧ session.tx = before.tx := by
    intro other session found
    have same := sameTx other
    rw [show (state.manager.syncClientPositions order now controllers
      requireActiveConnection).1.lookup other = some session from found] at same
    obtain ⟨before, wasConnected, isTx⟩ := Option.map_eq_some_iff.mp same.symm
    exact ⟨before, wasConnected, isTx.symm⟩
  refine ⟨indexed, earlierTasks_begin informed.earlierTasks _, ?_, ?_⟩
  · intro other session found
    obtain ⟨before, wasConnected, isTx⟩ := remains other session found
    rw [isTx]
    exact Nat.lt_succ_of_lt (informed.earlierSessions other before wasConnected)
  · intro other session found notMoved
    obtain ⟨before, wasConnected, isTx⟩ := remains other session found
    simp only [isTx, Finset.mem_union, not_or] at notMoved
    obtain ⟨position, profile⟩ := notMem_movedSessions wasConnected found notMoved.2
    refine (informed.served other before wasConnected notMoved.1).begin informed.earlierTasks rfl rfl
      ?_ isTx position profile rfl rfl rfl
    refine Tells.pending tells ?_ rfl (List.mem_append_right _ (List.mem_singleton.mpr rfl)) session
    rfl

theorem Informed.requestList {state : StationServer} (informed : state.Informed)
    (steps : List StationStep) : Informed (state.begin state.manager steps) where
  indexed := informed.indexed
  earlierTasks := earlierTasks_begin informed.earlierTasks steps
  earlierSessions other session found :=
    Nat.lt_succ_of_lt (informed.earlierSessions other session found)
  served other session found notMoved :=
    (informed.served other session found notMoved).begin informed.earlierTasks rfl rfl
      (fun _ => .inl rfl) rfl rfl rfl rfl rfl rfl

/-! ### Steps of a task -/

/-- What is pending stays so when a step is replaced by steps that concern the same station. -/
theorem Pending.replace {state next : StationServer} {task : ℕ} {step : StationStep}
    {remaining : List StationStep} (found : state.tasks.lookup task = some (step :: remaining))
    (after : List StationStep)
    (tasks : next.tasks = state.tasks.insert task (after ++ remaining))
    (manager : next.manager = state.manager) {session : ClientSession} {stationId : StationId}
    (replaced : step.concerns state.manager.network session stationId = true →
      ∃ later ∈ after, later.concerns state.manager.network session stationId = true)
    (pending : state.Pending session stationId = true) :
    next.Pending session stationId = true := by
  obtain ⟨other, steps, isOther, concerned, member, concerns⟩ := (pending_iff _ _ _).mp pending
  rw [pending_iff, manager, tasks]
  by_cases same : other = task
  · subst same
    rw [found] at isOther
    cases isOther
    rcases List.mem_cons.mp member with rfl | later
    · obtain ⟨later, isLater, concernsLater⟩ := replaced concerns
      exact ⟨other, _, Finmap.lookup_insert _, later, List.mem_append_left _ isLater, concernsLater⟩
    · exact ⟨other, _, Finmap.lookup_insert _, concerned, List.mem_append_right _ later, concerns⟩
  · refine ⟨other, steps, ?_, concerned, member, concerns⟩
    rw [Finmap.lookup_insert_of_ne _ same]
    exact isOther

/-- A session that knew something of a station is still served when another step is taken. -/
theorem Served.still {state next : StationServer} {session : ClientSession}
    (served : state.Served session) {stationId : StationId} {value : Option StationStatus}
    (wasKnown : state.known session.tx stationId = some value) {task : ℕ} {step : StationStep}
    {remaining : List StationStep} (found : state.tasks.lookup task = some (step :: remaining))
    (after : List StationStep) (manager : next.manager = state.manager)
    (tasks : next.tasks = state.tasks.insert task (after ++ remaining))
    (replaced : step.concerns state.manager.network session stationId = true →
      ∃ later ∈ after, later.concerns state.manager.network session stationId = true) :
    next.manager.agrees session stationId value = true ∨
      next.Pending session stationId = true := by
  rw [manager]
  rcases served.right stationId value wasKnown with agrees | pending
  · exact .inl agrees
  · exact .inr (Pending.replace found after tasks manager replaced pending)

/-- A session that is going to start still is when another step is taken. -/
theorem Served.startReplaced {state next : StationServer} {session : ClientSession}
    (served : state.Served session) {task : ℕ} {step : StationStep}
    {remaining : List StationStep} (found : state.tasks.lookup task = some (step :: remaining))
    (after : List StationStep)
    (tasks : next.tasks = state.tasks.insert task (after ++ remaining))
    (views : ∀ view, state.views.lookup session.tx = some view →
      ∃ view, next.views.lookup session.tx = some view)
    (starts : step = .start session.tx → ∃ view, next.views.lookup session.tx = some view) :
    (∃ view, next.views.lookup session.tx = some view) ∨
      ∃ task steps, next.tasks.lookup task = some steps ∧ .start session.tx ∈ steps := by
  rcases served.started with ⟨view, started⟩ | ⟨other, steps, isOther, member⟩
  · exact .inl (views view started)
  · rw [tasks]
    by_cases same : other = task
    · subst same
      rw [found] at isOther
      cases isOther
      rcases List.mem_cons.mp member with isStart | later
      · exact .inl (starts isStart.symm)
      · exact .inr ⟨other, _, Finmap.lookup_insert _, List.mem_append_right _ later⟩
    · refine .inr ⟨other, steps, ?_, member⟩
      rw [Finmap.lookup_insert_of_ne _ same]
      exact isOther

/-- A station that is mentioned in changes is in the news. -/
theorem news_of_mem {changes : List StationChange} {change : StationChange}
    (member : change ∈ changes) :
    (StationMessage.news change.stationId (.stationChanges changes)).isSome = true := by
  simp only [StationMessage.news, Finmap.lastUpdate, Option.isSome_map, List.find?_isSome]
  exact ⟨_, List.mem_reverse.mpr (List.mem_map_of_mem member), by simp⟩

/-- A broadcast sends every connected session the changes of its stations. -/
theorem broadcastStationChanges_concerns {s : ClientManager} (order : ClientIteration)
    {changes : List StationChange} {clientId : ClientId} {session : ClientSession}
    (connected : s.clients.lookup clientId = some session) {stationId : StationId}
    (concerns : (StationStep.broadcast changes).concerns s.network session stationId = true) :
    ∃ later ∈ s.broadcastStationChanges order changes,
      later.concerns s.network session stationId = true := by
  simp only [StationStep.concerns, Bool.and_eq_true, List.any_eq_true, beq_iff_eq] at concerns
  obtain ⟨isRelevant, change, member, rfl⟩ := concerns
  have sent : change ∈ ClientManager.relevantChanges s.network session.activeProfile changes := by
    rw [ClientManager.relevantChanges_eq]
    exact List.mem_filter.mpr ⟨member, isRelevant⟩
  refine ⟨.enqueue session.tx (.stationChanges
    (ClientManager.relevantChanges s.network session.activeProfile changes)), ?_, ?_⟩
  · refine List.mem_filterMap.mpr ⟨clientId, ?_, ?_⟩
    · rw [Enumeration.mem_list, Finmap.mem_keys_iff_lookup]
      exact ⟨session, connected⟩
    · rw [connected, Option.bind_some]
      exact if_neg (List.ne_nil_of_mem sent)
  · simp [StationStep.concerns, news_of_mem sent]

theorem UpToDate.news {state : StationServer} {session : ClientSession} {message : StationMessage}
    (upToDate : state.UpToDate session message) {stationId : StationId}
    {value : Option StationStatus} (isNews : message.news stationId = some value) :
    state.manager.agrees session stationId value = true ∨
      state.Pending session stationId = true := by
  by_cases listed : stationId ∈
      (message.updates.map Prod.fst).toFinset ∪ state.manager.onlineStations.keys
  · exact upToDate stationId listed value isNews
  · -- The station is neither mentioned nor covered.
    rw [Finset.mem_union, not_or, List.mem_toFinset] at listed
    have unmentioned : Finmap.lastUpdate message.updates stationId = none := by
      rw [Finmap.lastUpdate, Option.map_eq_none_iff, List.find?_eq_none]
      intro update member isStation
      refine listed.1 (List.mem_map.mpr ⟨update, List.mem_reverse.mp member, ?_⟩)
      exact of_decide_eq_true isStation
    have uncovered : state.manager.visibleTo session stationId = none := by
      rw [Option.eq_none_iff_forall_not_mem]
      intro positionId visible
      refine listed.2 ?_
      rw [Finmap.mem_keys_iff_lookup]
      exact ⟨positionId, (ClientManager.visibleTo_eq_some.mp visible).2.1⟩
    cases message with
    | stationList stations =>
        simp only [StationMessage.news, unmentioned, Option.getD_none, Option.some.injEq] at isNews
        subst isNews
        left
        simp [ClientManager.agrees, uncovered]
    | stationChanges changes =>
        rw [StationMessage.news, unmentioned] at isNews
        cases isNews

/-- A session that starts is served: its list is fresh, whatever waits behind it. -/
theorem Served.start {state : StationServer} {session : ClientSession}
    (served : state.Served session) {task : ℕ} {order : ClientIteration} {tx : ℕ}
    {remaining : List StationStep} (found : state.tasks.lookup task = some (.start tx :: remaining)) :
    (state.carryOut task order remaining (.start tx)).Served session := by
  obtain ⟨copy, isCopy, position, profile⟩ := served.copy
  have sameQueue : (state.carryOut task order remaining (.start tx)).queue session.tx =
    state.queue session.tx := rfl
  by_cases same : tx = session.tx
  · subst same
    have views : (state.carryOut task order remaining (.start session.tx)).views.lookup
        session.tx = some (StationMessage.apply ∅ (.stationList (state.manager.listStations order
          copy.activeProfile copy.positionId))) := by
      simp [StationServer.carryOut, isCopy]
    refine ⟨⟨copy, isCopy, position, profile⟩, .inl ⟨_, views⟩, fun stationId value isKnown => ?_⟩
    rw [known, sameQueue, views, Option.map_some, StationMessage.lookup_apply] at isKnown
    cases waiting : StationMessage.latest stationId (state.queue session.tx) with
    | some said =>
        rw [waiting, Option.some_or] at isKnown
        have wasKnown : state.known session.tx stationId = some value := by
          rw [known, waiting, Option.some_or, isKnown]
        refine served.still wasKnown found [] ?_ ?_ nofun
        · rfl
        · rfl
    | none =>
        left
        rw [waiting, Option.none_or] at isKnown
        rw [← ClientManager.agrees_congr position profile]
        refine ClientManager.agrees_listStations order state.manager copy stationId ?_
        rw [← isKnown]
        rfl
  · have views : (state.carryOut task order remaining (.start tx)).views.lookup session.tx =
        state.views.lookup session.tx := by
      unfold StationServer.carryOut
      dsimp only
      split
      · rfl
      · exact Finmap.lookup_insert_of_ne _ fun isTx => same isTx.symm
    refine ⟨⟨copy, isCopy, position, profile⟩, ?_, fun stationId value isKnown => ?_⟩
    · refine served.startReplaced found [] rfl (fun view started => ?_) ?_
      · exact ⟨view, views.trans started⟩
      · rintro ⟨⟩
        exact absurd rfl same
    · rw [known, sameQueue, views] at isKnown
      refine served.still isKnown found [] ?_ ?_ nofun
      · rfl
      · rfl

theorem Served.carryOut {state : StationServer} {clientId : ClientId} {session : ClientSession}
    (connected : state.manager.clients.lookup clientId = some session)
    (notMoved : session.tx ∉ state.moved) (served : state.Served session) {task : ℕ}
    (order : ClientIteration) {step : StationStep} {remaining : List StationStep}
    (found : state.tasks.lookup task = some (step :: remaining))
    (inOrder : stepInOrder { state with tasks := state.tasks.insert task remaining } step) :
    (state.carryOut task order remaining step).Served session := by
  cases step with
  | listStations tx profile positionId =>
      refine ⟨served.copy, ?_, fun stationId value isKnown => ?_⟩
      · exact served.startReplaced found [_] rfl (fun view started => ⟨view, started⟩) nofun
      · refine served.still isKnown found [.enqueue tx (.stationList
          (state.manager.listStations order profile positionId))] ?_ ?_ fun concerns => ?_
        · rfl
        · rfl
        · exact ⟨_, List.mem_singleton.mpr rfl, by
            simpa [StationStep.concerns, StationMessage.news] using concerns⟩
  | broadcast changes =>
      refine ⟨served.copy, ?_, fun stationId value isKnown => ?_⟩
      · exact served.startReplaced found _ rfl (fun view started => ⟨view, started⟩) nofun
      · refine served.still isKnown found _ ?_ ?_ (broadcastStationChanges_concerns order connected)
        · rfl
        · rfl
  | enqueue tx message =>
      refine ⟨served.copy, ?_, fun stationId value isKnown => ?_⟩
      · exact served.startReplaced found [] rfl (fun view started => ⟨view, started⟩) nofun
      · by_cases isNews : tx = session.tx ∧ (message.news stationId).isSome = true
        · -- The message is the last thing the client will read about the station.
          obtain ⟨rfl, isSome⟩ := isNews
          obtain ⟨said, isSaid⟩ := Option.isSome_iff_exists.mp isSome
          have isValue : value = said := by
            simp only [known, StationServer.carryOut, queue, Finmap.lookup_insert, Option.getD_some,
              StationMessage.latest_append, isSaid, Option.some_or, Option.some.injEq] at isKnown
            exact isKnown.symm
          rw [isValue]
          refine UpToDate.news (inOrder clientId ?_ session connected rfl notMoved) isSaid
          rw [Finmap.mem_keys_iff_lookup]
          exact ⟨session, connected⟩
        · have wasKnown : state.known session.tx stationId = some value := by
            rw [← isKnown]
            unfold known StationServer.carryOut queue
            by_cases same : tx = session.tx
            · subst same
              have nothing : message.news stationId = none := by
                simpa using isNews
              simp [StationMessage.latest_append, nothing]
            · simp [Finmap.lookup_insert_of_ne _ fun isTx => same isTx.symm]
          refine served.still wasKnown found [] ?_ ?_ fun concerns => ?_
          · rfl
          · rfl
          · exact absurd (by simpa [StationStep.concerns] using concerns) isNews
  | start tx => exact served.start found

/-- Delivering a message changes nothing a client knows or will read. -/
theorem known_deliver {state : StationServer} {tx : ℕ} {view : StationView}
    {message : StationMessage} {rest : List StationMessage}
    (isView : state.views.lookup tx = some view) (waiting : state.queue tx = message :: rest)
    (other : ℕ) (stationId : StationId) :
    known { state with
      queues := state.queues.insert tx rest
      views := state.views.insert tx (message.apply view) } other stationId =
      state.known other stationId := by
  by_cases same : other = tx
  · subst same
    rw [known, known, waiting, isView]
    simp only [queue, Finmap.lookup_insert, Option.getD_some, Option.map_some,
      StationMessage.lookup_apply, StationMessage.latest]
    cases StationMessage.latest stationId rest <;> cases message.news stationId <;> rfl
  · simp [known, queue, same]

theorem Informed.deliver {state : StationServer} (informed : state.Informed) {tx : ℕ}
    {view : StationView} {message : StationMessage} {rest : List StationMessage}
    (isView : state.views.lookup tx = some view) (waiting : state.queue tx = message :: rest) :
    Informed { state with
      queues := state.queues.insert tx rest
      views := state.views.insert tx (message.apply view) } where
  indexed := informed.indexed
  earlierTasks := informed.earlierTasks
  earlierSessions := informed.earlierSessions
  served clientId session connected notMoved := by
    have served := informed.served clientId session connected notMoved
    refine ⟨served.copy, served.started.imp_left ?_, fun stationId value isKnown => ?_⟩
    · rintro ⟨earlier, started⟩
      dsimp only
      rw [Finmap.lookup_insert_eq]
      split
      · exact ⟨_, rfl⟩
      · exact ⟨earlier, started⟩
    · rw [known_deliver isView waiting] at isKnown
      exact served.right stationId value isKnown

/-- A task that is over concerns nobody. -/
theorem Informed.finish {state : StationServer} (informed : state.Informed) {task : ℕ}
    (found : state.tasks.lookup task = some []) :
    Informed { state with tasks := state.tasks.erase task } := by
  have remains : ∀ other steps step, state.tasks.lookup other = some steps → step ∈ steps →
      (state.tasks.erase task).lookup other = some steps := by
    intro other steps step isOther member
    rw [Finmap.lookup_erase_eq, if_neg]
    · exact isOther
    · rintro rfl
      rw [found] at isOther
      cases isOther
      cases member
  refine ⟨informed.indexed, fun other steps isOther => ?_, informed.earlierSessions, ?_⟩
  · rw [Finmap.lookup_erase_eq] at isOther
    split at isOther
    · cases isOther
    · exact informed.earlierTasks other steps isOther
  · intro clientId session connected notMoved
    have served := informed.served clientId session connected notMoved
    refine ⟨served.copy, served.started.imp_right ?_, fun stationId value isKnown => ?_⟩
    · rintro ⟨other, steps, isOther, member⟩
      exact ⟨other, steps, remains other steps _ isOther member, member⟩
    · refine (served.right stationId value isKnown).imp_right fun pending => ?_
      obtain ⟨other, steps, isOther, step, member, concerns⟩ := (pending_iff _ _ _).mp pending
      exact (pending_iff _ _ _).mpr
        ⟨other, steps, remains other steps step isOther member, step, member, concerns⟩

theorem carryOut_frame (state : StationServer) (task : ℕ) (order : ClientIteration)
    (remaining : List StationStep) (step : StationStep) :
    (state.carryOut task order remaining step).manager = state.manager ∧
      (state.carryOut task order remaining step).operations = state.operations ∧
      (state.carryOut task order remaining step).moved = state.moved ∧
      ∃ steps, (state.carryOut task order remaining step).tasks = state.tasks.insert task steps := by
  cases step <;> exact ⟨rfl, rfl, rfl, _, rfl⟩

theorem Informed.carryOut {state : StationServer} (informed : state.Informed) {task : ℕ}
    (order : ClientIteration) {step : StationStep} {remaining : List StationStep}
    (found : state.tasks.lookup task = some (step :: remaining))
    (inOrder : stepInOrder { state with tasks := state.tasks.insert task remaining } step) :
    (state.carryOut task order remaining step).Informed := by
  obtain ⟨manager, operations, moved, steps, tasks⟩ :=
    carryOut_frame state task order remaining step
  refine ⟨?_, fun other pending isOther => ?_, ?_, ?_⟩
  · rw [manager]
    exact informed.indexed
  · rw [tasks, Finmap.lookup_insert_eq] at isOther
    rw [operations]
    split at isOther
    · rename_i same
      rw [same]
      exact informed.earlierTasks task _ found
    · exact informed.earlierTasks other pending isOther
  · rw [manager, operations]
    exact informed.earlierSessions
  · rw [manager, moved]
    intro clientId session connected notMoved
    exact Served.carryOut connected notMoved (informed.served clientId session connected notMoved)
      order found inOrder

theorem Informed.step {state next : StationServer} (informed : state.Informed)
    {move : StationMove} (isNext : state.step move = some next) (inOrder : state.InOrder move) :
    next.Informed := by
  cases move with
  | login order clientInfo activeProfile now =>
      obtain ⟨⟨manager, changes⟩, adds, rfl⟩ := Option.map_eq_some_iff.mp isNext
      exact informed.login adds
  | logout order clientId feed =>
      cases isNext
      exact informed.logout order clientId feed
  | sync order now controllers requireActiveConnection =>
      cases isNext
      exact informed.sync order now controllers requireActiveConnection
  | requestList tx =>
      obtain ⟨session, _, isNext⟩ := Option.bind_eq_some_iff.mp isNext
      split at isNext
      · cases isNext
        exact informed.requestList _
      · cases isNext
  | proceed task order =>
      obtain ⟨steps, found, rfl⟩ := Option.map_eq_some_iff.mp isNext
      cases steps with
      | nil => exact informed.finish found
      | cons step remaining =>
          exact informed.carryOut order found (inOrder _ found step rfl)
  | deliver tx =>
      simp only [StationServer.step] at isNext
      split at isNext
      · rename_i view message rest isView waiting
        cases isNext
        exact informed.deliver isView waiting
      · cases isNext

/-- The decidable form of being quiet. -/
def IsQuiet (state : StationServer) : Prop :=
  state.tasks.keys = ∅ ∧ ∀ clientId ∈ state.manager.clients.keys,
    ∀ session ∈ state.manager.clients.lookup clientId, state.queue session.tx = []

instance (state : StationServer) : Decidable state.IsQuiet :=
  inferInstanceAs (Decidable (_ ∧ _))

theorem IsQuiet.quiet {state : StationServer} (isQuiet : state.IsQuiet) : state.Quiet := by
  refine ⟨?_, fun clientId session connected => isQuiet.2 clientId ?_ session connected⟩
  · refine Finmap.ext_lookup fun task => ?_
    rw [(Finmap.keys_eq_empty_iff state.tasks).mp isQuiet.1, Finmap.lookup_empty]
  · rw [Finmap.mem_keys_iff_lookup]
    exact ⟨session, connected⟩

end StationServer

/-- Once all operations have finished and all queues are drained, the view of every connected
client that kept its position and profile shows the visible coverage of its stations, in every run
that queues only messages that are up to date. -/
theorem run_stationViews (network : Network) (positionGracePeriod : Duration) (maxConfSize : ℕ)
    (moves : List StationMove) (final : StationServer)
    (inOrder : GuardedRuns.Guarded StationServer.step StationServer.InOrder
      (.new network positionGracePeriod maxConfSize) moves)
    (runs : GuardedRuns.runMoves StationServer.step (.new network positionGracePeriod maxConfSize)
      moves = some final)
    (quiet : final.Quiet) (clientId : ClientId) (session : ClientSession)
    (connected : final.manager.clients.lookup clientId = some session)
    (kept : session.tx ∉ final.moved) :
    ∃ view, final.views.lookup session.tx = some view ∧
      ∀ stationId, final.manager.agrees session stationId (view.lookup stationId) = true := by
  have informed : final.Informed :=
    inOrder.preserves (fun _ _ _ informed inOrder isNext => informed.step isNext inOrder) runs
      (StationServer.informed_new network positionGracePeriod maxConfSize)
  have idle : ∀ task steps, final.tasks.lookup task ≠ some steps := by
    intro task steps found
    rw [quiet.1] at found
    simp at found
  have served := informed.served clientId session connected kept
  obtain ⟨view, isView⟩ := served.started.resolve_right (by
    rintro ⟨task, steps, found, _⟩
    exact idle task steps found)
  refine ⟨view, isView, fun stationId => ?_⟩
  refine (served.right stationId (view.lookup stationId) ?_).resolve_right ?_
  · rw [StationServer.known, quiet.2 clientId session connected, isView]
    rfl
  · intro pending
    obtain ⟨task, steps, found, _⟩ := (StationServer.pending_iff _ _ _).mp pending
    exact idle task steps found

/-! ## A handover that an observer watches -/

/-- A controller is online and an observer knows. The controller logs out and another one logs in on
its position; neither has been announced yet. -/
def handover : List StationMove :=
  let controller := fun id : String => StationMove.login .increasing
    ⟨⟨id⟩, "LOVV_CTR", "132.600", some ⟨"LOVV_CTR"⟩⟩ .custom 0
  [.login .increasing ⟨⟨"10000002"⟩, "LOVV_OBS", "199.998", none⟩ .custom 0] ++
    List.replicate 3 (.proceed 0 .increasing) ++ [controller "10000001"] ++
    List.replicate 5 (.proceed 1 .increasing) ++
    [.deliver 0, .deliver 1, .logout .increasing ⟨"10000001"⟩ none, controller "10000003"]

/-- Everything is delivered. -/
def deliveries : List StationMove :=
  [.deliver 0, .deliver 0, .deliver 3, .deliver 3]

/-- The logout is announced before the login. -/
def logoutAnnouncedFirst : List StationMove :=
  handover ++ List.replicate 4 (.proceed 2 .increasing) ++
    List.replicate 5 (.proceed 3 .increasing) ++ deliveries

theorem logoutAnnouncedFirst_stationViews :
    ∃ final, GuardedRuns.runMoves StationServer.step (.new twoSectors 0 3) logoutAnnouncedFirst =
        some final ∧
      ∃ session view, final.manager.clients.lookup ⟨"10000002"⟩ = some session ∧
        final.views.lookup session.tx = some view ∧
        ∀ stationId, final.manager.agrees session stationId (view.lookup stationId) = true := by
  have inOrder : GuardedRuns.Guarded StationServer.step StationServer.InOrder
      (.new twoSectors 0 3) logoutAnnouncedFirst := by
    decide +kernel
  have settles : (GuardedRuns.runMoves StationServer.step (.new twoSectors 0 3)
      logoutAnnouncedFirst).any (fun final => decide (final.IsQuiet ∧ final.moved = ∅ ∧
        (⟨"10000002"⟩ : ClientId) ∈ final.manager.clients.keys)) = true := by
    decide +kernel
  obtain ⟨final, runs, holds⟩ := (Option.any_eq_true _ _).mp settles
  obtain ⟨isQuiet, nobodyMoved, connected⟩ := of_decide_eq_true holds
  rw [Finmap.mem_keys_iff_lookup] at connected
  obtain ⟨session, connected⟩ := connected
  obtain ⟨view, isView, agrees⟩ := run_stationViews twoSectors 0 3 logoutAnnouncedFirst final inOrder
    runs isQuiet.quiet ⟨"10000002"⟩ session connected (by rw [nobodyMoved]; exact Finset.notMem_empty _)
  exact ⟨final, runs, session, view, connected, isView, agrees⟩

/-- The login is announced before the logout. -/
def loginAnnouncedFirst : List StationMove :=
  handover ++ List.replicate 5 (.proceed 3 .increasing) ++
    List.replicate 4 (.proceed 2 .increasing) ++ deliveries

/-- The observer is told last that the station went offline, although its new controller covers
it. -/
theorem loginAnnouncedFirst_hides :
    ∃ final, GuardedRuns.runMoves StationServer.step (.new twoSectors 0 3) loginAnnouncedFirst =
        some final ∧ final.Quiet ∧
      ∃ session view, final.manager.clients.lookup ⟨"10000002"⟩ = some session ∧
        session.tx ∉ final.moved ∧ final.views.lookup session.tx = some view ∧
        view.lookup ⟨"LOVV"⟩ = none ∧
        final.manager.visibleTo session ⟨"LOVV"⟩ = some ⟨"LOVV_CTR"⟩ := by
  have settles : (GuardedRuns.runMoves StationServer.step (.new twoSectors 0 3)
      loginAnnouncedFirst).any (fun final => decide (final.IsQuiet ∧
        ∃ session ∈ final.manager.clients.lookup ⟨"10000002"⟩, session.tx ∉ final.moved ∧
          ∃ view ∈ final.views.lookup session.tx, view.lookup ⟨"LOVV"⟩ = none ∧
            final.manager.visibleTo session ⟨"LOVV"⟩ = some ⟨"LOVV_CTR"⟩)) = true := by
    decide +kernel
  obtain ⟨final, runs, holds⟩ := (Option.any_eq_true _ _).mp settles
  obtain ⟨isQuiet, session, connected, kept, view, isView, unseen, visible⟩ := of_decide_eq_true holds
  exact ⟨final, runs, isQuiet.quiet, session, view, connected, kept, isView, unseen, visible⟩

end Vacs
