import Vacs.Clients.Convergence
import Vacs.Foundations.GuardedRuns

/-!
# Telling clients about stations

Logins, logouts and sync rounds compute under the locks which station changes the
clients have to be told, and send them afterwards, client by client. A request for
the list of stations reads the list and sends it afterwards. The session of a client
forwards the messages in its queue in order; before it does so for the first time, it
lists the stations for the client.

What a client knows of the stations is folded from what it receives: a list replaces
everything, an online or handed-off station is set, an offline station is dropped. A
list only says whether a station is the client's own, a change names the position.
-/

set_option autoImplicit false

namespace Vacs

/-- What the server tells a client about stations. -/
inductive StationMessage where
  | stationList (stations : List StationInfo)
  | stationChanges (changes : List StationChange)
deriving DecidableEq

/-- What a client was told about a covered station. -/
inductive StationStatus where
  | listed (own : Bool)
  | coveredBy (positionId : PositionId)
deriving DecidableEq

/-- The stations a client knows of. -/
abbrev StationView : Type := HashMap StationId StationStatus

namespace StationMessage

/-- The stations that are set or dropped. -/
def updates : StationMessage → List (StationId × Option StationStatus)
  | .stationList stations => stations.map fun info => (info.id, some (.listed info.own))
  | .stationChanges changes =>
      changes.map fun change => (change.stationId, change.target.map .coveredBy)

/-- Fold a message into a view. -/
def apply (view : StationView) (message : StationMessage) : StationView :=
  match message with
  | .stationList _ => Finmap.patch ∅ message.updates
  | .stationChanges _ => view.patch message.updates

/-- What a message says about a station, if anything. -/
def news (stationId : StationId) (message : StationMessage) : Option (Option StationStatus) :=
  match message with
  | .stationList _ => some ((Finmap.lastUpdate message.updates stationId).getD none)
  | .stationChanges _ => Finmap.lastUpdate message.updates stationId

theorem lookup_apply (view : StationView) (message : StationMessage) (stationId : StationId) :
    (message.apply view).lookup stationId =
      (message.news stationId).getD (view.lookup stationId) := by
  cases message with
  | stationList stations => exact Finmap.lookup_patch _ _ _
  | stationChanges changes => exact Finmap.lookup_patch _ _ _

/-- The last thing that waiting messages, the oldest first, say about a station. -/
def latest (stationId : StationId) : List StationMessage → Option (Option StationStatus)
  | [] => none
  | message :: later => (latest stationId later).or (message.news stationId)

theorem latest_append (stationId : StationId) (messages : List StationMessage)
    (message : StationMessage) :
    latest stationId (messages ++ [message]) =
      (message.news stationId).or (latest stationId messages) := by
  induction messages with
  | nil => simp [latest]
  | cons first rest ih => rw [List.cons_append, latest, ih, latest, Option.or_assoc]

end StationMessage

/-- One step of a task that tells clients about stations. -/
inductive StationStep where
  /-- Read the list of stations for a session. -/
  | listStations (tx : ℕ) (profile : ActiveProfile ProfileId) (positionId : Option PositionId)
  /-- Look up who is connected. -/
  | broadcast (changes : List StationChange)
  | enqueue (tx : ℕ) (message : StationMessage)
  /-- The session of a login lists the stations and begins to forward messages. -/
  | start (tx : ℕ)
deriving DecidableEq

/-- The manager, the tasks in progress, and for every session its queue, the view of its client,
and its own copy of what it was created with. A session that was moved to another position or
profile is marked. -/
structure StationServer where
  manager : ClientManager
  /-- The number of operations so far; it names the task of the next one, and its channel. -/
  operations : ℕ
  tasks : HashMap ℕ (List StationStep)
  queues : HashMap ℕ (List StationMessage)
  views : HashMap ℕ StationView
  sessions : HashMap ℕ ClientSession
  moved : Finset ℕ

inductive StationMove where
  | login (order : ClientIteration) (clientInfo : ClientInfo)
      (activeProfile : ActiveProfile ProfileId) (now : Instant)
  | logout (order : ClientIteration) (clientId : ClientId) (feed : Option (List ControllerInfo))
  | sync (order : ClientIteration) (now : Instant)
      (controllers : HashMap ClientId ControllerInfo) (requireActiveConnection : Bool)
  | requestList (tx : ℕ)
  | proceed (task : ℕ) (order : ClientIteration)
  | deliver (tx : ℕ)

/-- The sessions that change their position or profile. -/
def movedSessions (before after : HashMap ClientId ClientSession) : Finset ℕ :=
  before.keys.biUnion fun clientId =>
    match before.lookup clientId, after.lookup clientId with
    | some old, some new =>
        if new.positionId = old.positionId ∧ new.activeProfile = old.activeProfile then ∅
        else {old.tx}
    | _, _ => ∅

/-- Send station changes to everybody who is connected, as far as their profiles go. -/
def ClientManager.broadcastStationChanges (order : ClientIteration) (s : ClientManager)
    (changes : List StationChange) : List StationStep :=
  (order.clients.list s.clients.keys).filterMap fun clientId =>
    (s.clients.lookup clientId).bind fun session =>
      let changesToSend := relevantChanges s.network session.activeProfile changes
      if changesToSend = [] then none
      else some (.enqueue session.tx (.stationChanges changesToSend))

/-- What a sync round sends when it has released its locks. -/
def ClientManager.SyncOutcome.stationSteps (outcome : ClientManager.SyncOutcome) : List StationStep :=
  (outcome.sync.stationListUpdates.map fun (session, profile, positionId) =>
      .listStations session.tx profile positionId) ++
    (outcome.perClientChanges.map fun (session, changes) =>
      .enqueue session.tx (.stationChanges changes)) ++
    [.broadcast outcome.coverageChanges]

namespace StationServer

def new (network : Network) (positionGracePeriod : Duration) (maxConfSize : ℕ) :
    StationServer where
  manager := .new network positionGracePeriod maxConfSize
  operations := 0
  tasks := ∅
  queues := ∅
  views := ∅
  sessions := ∅
  moved := ∅

def queue (state : StationServer) (tx : ℕ) : List StationMessage :=
  (state.queues.lookup tx).getD []

/-- An operation has updated the manager, and has steps left. -/
def begin (state : StationServer) (manager : ClientManager) (steps : List StationStep) :
    StationServer :=
  { state with
    manager := manager
    operations := state.operations + 1
    tasks := state.tasks.insert state.operations steps }

/-- Carry out one step of a task. -/
def carryOut (state : StationServer) (task : ℕ) (order : ClientIteration)
    (remaining : List StationStep) : StationStep → StationServer
  | .listStations tx profile positionId =>
      { state with
        tasks := state.tasks.insert task (.enqueue tx (.stationList
          (state.manager.listStations order profile positionId)) :: remaining) }
  | .broadcast changes =>
      { state with
        tasks := state.tasks.insert task
          (state.manager.broadcastStationChanges order changes ++ remaining) }
  | .enqueue tx message =>
      { state with
        tasks := state.tasks.insert task remaining
        queues := state.queues.insert tx (state.queue tx ++ [message]) }
  | .start tx =>
      { state with
        tasks := state.tasks.insert task remaining
        views :=
          match state.sessions.lookup tx with
          | none => state.views
          | some session => state.views.insert tx (StationMessage.apply ∅ (.stationList
              (state.manager.listStations order session.activeProfile session.positionId))) }

def step (state : StationServer) : StationMove → Option StationServer
  | .login order clientInfo activeProfile now =>
      let tx := state.operations
      (state.manager.addClient order clientInfo activeProfile tx now).map
        fun (manager, changes) =>
          { state.begin manager [.broadcast changes, .start tx] with
            queues := state.queues.insert tx []
            views := state.views.erase tx
            sessions := state.sessions.insert tx (.new clientInfo activeProfile tx now) }
  | .logout order clientId feed =>
      let (manager, changes) := state.manager.removeClient order clientId feed
      some (state.begin manager [.broadcast changes])
  | .sync order now controllers requireActiveConnection =>
      let (manager, outcome) :=
        state.manager.syncVatsimState order now controllers requireActiveConnection
      some { state.begin manager outcome.stationSteps with
        moved := state.moved ∪ movedSessions state.manager.clients manager.clients }
  | .requestList tx =>
      (state.sessions.lookup tx).bind fun session =>
        if tx ∈ state.views.keys then
          some (state.begin state.manager
            [.listStations tx session.activeProfile session.positionId])
        else none
  | .proceed task order =>
      (state.tasks.lookup task).map fun steps =>
        match steps with
        | [] => { state with tasks := state.tasks.erase task }
        | step :: remaining => state.carryOut task order remaining step
  | .deliver tx =>
      match state.views.lookup tx, state.queue tx with
      | some view, message :: rest => some { state with
          queues := state.queues.insert tx rest
          views := state.views.insert tx (message.apply view) }
      | _, _ => none

/-- All operations have finished and the queues of all sessions are drained. -/
def Quiet (state : StationServer) : Prop :=
  state.tasks = ∅ ∧ ∀ clientId session, state.manager.clients.lookup clientId = some session →
    state.queue session.tx = []

end StationServer

end Vacs
