import Mathlib.Data.Fintype.Basic
import Vacs.Coverage.Network
import Vacs.Foundations.GuardedRuns
import Vacs.Foundations.LockQueues

/-!
# The locks of the client manager

Every operation of the client manager takes some of its four locks, in several
phases. What it takes depends on branches whose conditions it reads under the locks;
here an operation comes with the outcome of its branches, and `path` says which locks
it takes and gives back on the way.

Two acquisitions go against the documented order: `replaceNetwork` takes `clients`
while it holds `online_positions`, and `emitCoverageGauges` takes
`vatsim_only_positions` while it holds `online_stations`. A run deadlocks exactly
when one of them comes to wait for an operation that takes the same two locks the
other way round and waits itself.
-/

set_option autoImplicit false

namespace Vacs

inductive ManagerLock where
  | clients
  | onlinePositions
  | vatsimOnlyPositions
  | onlineStations
deriving DecidableEq

namespace ManagerLock

instance : Fintype ManagerLock :=
  ⟨{clients, onlinePositions, vatsimOnlyPositions, onlineStations}, fun lock => by
    cases lock <;> decide⟩

/-- The place of a lock in the documented order. -/
def place : ManagerLock → ℕ
  | clients => 1
  | onlinePositions => 2
  | vatsimOnlyPositions => 3
  | onlineStations => 4

/-- The first lock comes before the second one in the documented order. -/
def Before (first second : ManagerLock) : Prop :=
  first.place < second.place

instance : DecidableRel Before := fun first second =>
  inferInstanceAs (Decidable (first.place < second.place))

/-- The second lock is taken under the first one against the documented order. -/
def Crossed (held lock : ManagerLock) : Prop :=
  (held = onlinePositions ∧ lock = clients) ∨
    (held = onlineStations ∧ lock = vatsimOnlyPositions)

instance : DecidableRel Crossed := fun held lock =>
  inferInstanceAs (Decidable ((held = onlinePositions ∧ lock = clients) ∨
    (held = onlineStations ∧ lock = vatsimOnlyPositions)))

/-- The second lock may be taken while the first one is held. -/
def MayHold (held lock : ManagerLock) : Prop :=
  Before held lock ∨ Crossed held lock

instance : DecidableRel MayHold := fun held lock =>
  inferInstanceAs (Decidable (Before held lock ∨ Crossed held lock))

end ManagerLock

/-- The acquisitions and releases of an operation, in their order. -/
abbrev LockPath := List (LockInstruction ManagerLock)

/-! ## What the operations acquire and release -/

namespace LockPath

open LockInstruction ManagerLock

/-- A guard that is dropped at the end of its statement. -/
def briefly (lock : ManagerLock) (mode : LockMode) : LockPath :=
  [acquire lock mode, release lock]

def updateOnlineStations (changes : List StationChange) : LockPath :=
  if changes.isEmpty then [] else briefly onlineStations .write

def broadcastStationChanges (changes : List StationChange) : LockPath :=
  if changes.isEmpty then [] else briefly clients .read

def emitCoverageGauges : LockPath :=
  [acquire onlinePositions .read, acquire onlineStations .read, acquire vatsimOnlyPositions .read,
    release onlinePositions, release onlineStations, release vatsimOnlyPositions]

def listStations : RelevantStations → LockPath
  | .none => []
  | _ => [acquire onlinePositions .read, acquire onlineStations .read, release onlineStations,
      release onlinePositions]

/-- The station may turn out not to be online. -/
def stationCoverage (online : Bool) : LockPath :=
  briefly onlineStations .read ++
    if online then [acquire onlinePositions .read, acquire vatsimOnlyPositions .read,
      release vatsimOnlyPositions, release onlinePositions]
    else []

def coverageSnapshot : LockPath :=
  [acquire onlinePositions .read, acquire vatsimOnlyPositions .read, acquire onlineStations .read,
    release onlineStations, release vatsimOnlyPositions, release onlinePositions]

/-- How `add_client` finds the position of the new client. -/
inductive Entering where
  | noPosition
  | alreadyOnline
  | wasVatsimOnly
  | wasOffline (allChanges : List StationChange)

def entering : Entering → LockPath
  | .noPosition => []
  | .alreadyOnline => briefly onlinePositions .write
  | .wasVatsimOnly =>
      [acquire onlinePositions .write] ++ briefly vatsimOnlyPositions .write ++
        briefly onlineStations .read ++ [release onlinePositions]
  | .wasOffline allChanges =>
      [acquire onlinePositions .write] ++ briefly vatsimOnlyPositions .write ++
        updateOnlineStations allChanges ++ [release onlinePositions]

/-- How `remove_client` leaves the position of the client. The snapshot of the clients is
taken only if the client was the last one there. -/
inductive Leaving where
  | noPosition
  | notOnline (prefetched : Bool)
  | shared (prefetched : Bool)
  | becameVatsimOnly
  | wentOffline (prefetched : Bool) (allChanges : List StationChange)

def prefetch (needsFetch : Bool) : LockPath :=
  briefly onlinePositions .read ++ if needsFetch then briefly clients .read else []

def leaving : Leaving → LockPath
  | .noPosition => []
  | .notOnline prefetched | .shared prefetched =>
      prefetch prefetched ++ briefly onlinePositions .write
  | .becameVatsimOnly =>
      prefetch true ++ [acquire onlinePositions .write] ++ briefly vatsimOnlyPositions .write ++
        briefly onlineStations .read ++ [release onlinePositions]
  | .wentOffline prefetched allChanges =>
      prefetch prefetched ++ [acquire onlinePositions .write] ++
        briefly vatsimOnlyPositions .read ++ updateOnlineStations allChanges ++
        [release onlinePositions]

/-- The locked part of `replace_network`. -/
def replacing (allChanges : List StationChange) : LockPath :=
  briefly onlineStations .read ++
    [acquire onlinePositions .write, acquire clients .write, acquire vatsimOnlyPositions .write] ++
    updateOnlineStations allChanges ++
    [release vatsimOnlyPositions, release clients, release onlinePositions]

/-- The locked part of `sync_vatsim_state`, with the coverage changes if positions
changed. -/
def syncing (allChanges : Option (List StationChange)) : LockPath :=
  [acquire clients .write, acquire onlinePositions .write, acquire vatsimOnlyPositions .write] ++
    (match allChanges with
      | none => []
      | some allChanges => updateOnlineStations allChanges ++ briefly onlineStations .read) ++
    [release vatsimOnlyPositions, release onlinePositions, release clients]

end LockPath

/-- An operation of the client manager, with the outcome of its branches. -/
inductive ManagerOperation where
  | addClientDuplicate
  | addClient (entering : LockPath.Entering) (changes : List StationChange)
  | removeClientUnknown
  | removeClientLast (leaving : LockPath.Leaving)
  | removeClient (leaving : LockPath.Leaving) (changes : List StationChange)
  | listStations (relevant : RelevantStations)
  | stationCoverage (online : Bool)
  | coverageSnapshot
  | replaceNetwork (allChanges stationChanges : List StationChange)
  | syncVatsimState (allChanges : Option (List StationChange))
      (stationListUpdates : List RelevantStations) (coverageChanges : List StationChange)
  | broadcastStationChanges (changes : List StationChange)
  | emitCoverageGauges

namespace ManagerOperation

open ManagerLock LockPath

/-- The locks that the operation takes and gives back. -/
def path : ManagerOperation → LockPath
  | addClientDuplicate => briefly clients .write
  | addClient entered changes =>
      briefly clients .write ++ entering entered ++ LockPath.broadcastStationChanges changes ++
        LockPath.emitCoverageGauges
  | removeClientUnknown => briefly clients .write
  | removeClientLast left =>
      briefly clients .write ++ leaving left ++ briefly clients .read ++
        briefly vatsimOnlyPositions .write ++ briefly onlineStations .write
  | removeClient left changes =>
      briefly clients .write ++ leaving left ++ briefly clients .read ++
        LockPath.broadcastStationChanges changes ++ LockPath.emitCoverageGauges
  | listStations relevant => LockPath.listStations relevant
  | stationCoverage online => LockPath.stationCoverage online
  | coverageSnapshot => LockPath.coverageSnapshot
  | replaceNetwork allChanges stationChanges =>
      replacing allChanges ++ LockPath.broadcastStationChanges stationChanges ++
        LockPath.emitCoverageGauges
  | syncVatsimState allChanges stationListUpdates coverageChanges =>
      syncing allChanges ++ stationListUpdates.flatMap LockPath.listStations ++
        LockPath.broadcastStationChanges coverageChanges ++ LockPath.emitCoverageGauges
  | broadcastStationChanges changes => LockPath.broadcastStationChanges changes
  | emitCoverageGauges => LockPath.emitCoverageGauges

/-- The operation neither replaces the network nor emits the coverage gauges. -/
def KeepsOrder : ManagerOperation → Prop
  | addClient .. | removeClient .. | replaceNetwork .. | syncVatsimState .. |
    emitCoverageGauges => False
  | _ => True

end ManagerOperation

/-! ## The documented order -/

namespace LockPath

open LockState ManagerLock

/-- The path keeps the documented order and gives back all locks. -/
def Ordered (path : LockPath) : Prop :=
  Complete Before path

instance (path : LockPath) : Decidable path.Ordered :=
  inferInstanceAs (Decidable (Complete Before path))

theorem Ordered.append {path continuation : LockPath} (ordered : path.Ordered)
    (isOrdered : continuation.Ordered) : LockPath.Ordered (path ++ continuation) :=
  Complete.append ordered isOrdered

theorem Ordered.mayHold {path : LockPath} (ordered : path.Ordered) : Complete MayHold path :=
  Complete.mono (fun _ _ => .inl) ordered

theorem ordered_briefly (lock : ManagerLock) (mode : LockMode) : (briefly lock mode).Ordered := by
  cases lock <;> cases mode <;> decide

theorem ordered_broadcastStationChanges (changes : List StationChange) :
    (broadcastStationChanges changes).Ordered := by
  unfold broadcastStationChanges
  split <;> decide

theorem ordered_listStations (relevant : RelevantStations) : (listStations relevant).Ordered := by
  unfold listStations
  split <;> decide

theorem ordered_entering (entered : Entering) : (entering entered).Ordered := by
  cases entered with
  | noPosition => decide
  | alreadyOnline => decide
  | wasVatsimOnly => decide
  | wasOffline allChanges =>
      simp only [entering, updateOnlineStations]
      split <;> decide

theorem ordered_leaving (left : Leaving) : (leaving left).Ordered := by
  cases left with
  | noPosition => decide
  | notOnline prefetched => cases prefetched <;> decide
  | shared prefetched => cases prefetched <;> decide
  | becameVatsimOnly => decide
  | wentOffline prefetched allChanges =>
      simp only [leaving, updateOnlineStations]
      cases prefetched <;> split <;> decide

theorem ordered_syncing (allChanges : Option (List StationChange)) :
    (syncing allChanges).Ordered := by
  cases allChanges with
  | none => decide
  | some allChanges =>
      simp only [syncing, updateOnlineStations]
      split <;> decide

theorem complete_replacing (allChanges : List StationChange) :
    Complete MayHold (replacing allChanges) := by
  simp only [replacing, updateOnlineStations]
  split <;> decide

theorem complete_emitCoverageGauges : Complete MayHold emitCoverageGauges := by decide

/-- Whatever ends with the coverage gauges goes against the documented order. -/
theorem not_ordered_of_emits {path : LockPath} (complete : Complete MayHold path) :
    ¬LockPath.Ordered (path ++ emitCoverageGauges) := by
  rintro ⟨legal, _⟩
  rw [legal_append, complete.2] at legal
  exact absurd legal.2 (by decide)

end LockPath

namespace ManagerOperation

open LockState ManagerLock LockPath

/-- The operation ends with the coverage gauges. -/
def Emits (operation : ManagerOperation) : Prop :=
  ∃ before, Complete MayHold before ∧ operation.path = before ++ LockPath.emitCoverageGauges

/-- Every operation keeps the documented order or ends with the coverage gauges. -/
theorem ordered_or_emits (operation : ManagerOperation) :
    (operation.KeepsOrder ∧ operation.path.Ordered) ∨
      (¬operation.KeepsOrder ∧ operation.Emits) := by
  cases operation with
  | addClientDuplicate => exact .inl ⟨trivial, ordered_briefly _ _⟩
  | addClient entered changes =>
      exact .inr ⟨id, _, (((ordered_briefly _ _).append (ordered_entering entered)).append
        (ordered_broadcastStationChanges changes)).mayHold, rfl⟩
  | removeClientUnknown => exact .inl ⟨trivial, ordered_briefly _ _⟩
  | removeClientLast left =>
      exact .inl ⟨trivial, ((((ordered_briefly _ _).append (ordered_leaving left)).append
        (ordered_briefly _ _)).append (ordered_briefly _ _)).append (ordered_briefly _ _)⟩
  | removeClient left changes =>
      exact .inr ⟨id, _, ((((ordered_briefly _ _).append (ordered_leaving left)).append
        (ordered_briefly _ _)).append (ordered_broadcastStationChanges changes)).mayHold, rfl⟩
  | listStations relevant => exact .inl ⟨trivial, ordered_listStations relevant⟩
  | stationCoverage online => exact .inl ⟨trivial, by cases online <;> decide⟩
  | coverageSnapshot => exact .inl ⟨trivial, by decide⟩
  | replaceNetwork allChanges stationChanges =>
      exact .inr ⟨id, _, (complete_replacing allChanges).append
        (ordered_broadcastStationChanges stationChanges).mayHold, rfl⟩
  | syncVatsimState allChanges stationListUpdates coverageChanges =>
      exact .inr ⟨id, _, (((ordered_syncing allChanges).append
        (.flatMap ordered_listStations stationListUpdates)).append
        (ordered_broadcastStationChanges coverageChanges)).mayHold, rfl⟩
  | broadcastStationChanges changes => exact .inl ⟨trivial, ordered_broadcastStationChanges changes⟩
  | emitCoverageGauges => exact .inr ⟨id, [], by decide, rfl⟩

theorem complete_path (operation : ManagerOperation) : Complete MayHold operation.path := by
  rcases ordered_or_emits operation with ⟨_, ordered⟩ | ⟨_, before, complete, isPath⟩
  · exact ordered.mayHold
  · rw [isPath]
    exact complete.append complete_emitCoverageGauges

/-- Exactly the operations that neither replace the network nor emit the coverage gauges
keep the documented order. -/
theorem ordered_path_iff (operation : ManagerOperation) :
    operation.path.Ordered ↔ operation.KeepsOrder := by
  rcases ordered_or_emits operation with ⟨keeps, ordered⟩ | ⟨breaks, before, complete, isPath⟩
  · exact iff_of_true ordered keeps
  · rw [isPath]
    exact iff_of_false (not_ordered_of_emits complete) breaks

end ManagerOperation

/-! ## Runs in which the crossed acquisitions do not meet -/

namespace ManagerLock

open LockState

/-- Of two locks that are taken in both orders, an operation that holds one is made to wait
for the other only if nobody who holds the other waits for the one. -/
def Uncrossed (state : LockState ℕ ManagerLock) : LockMove ℕ ManagerOperation → Prop
  | .wait thread => ∀ held lock, Crossed held lock ∨ Crossed lock held →
      state.Holds thread held → state.Requests thread lock →
      ∀ other ∈ state.threads.keys, state.Holds other lock → ¬state.Waits other held
  | _ => True

instance (state : LockState ℕ ManagerLock) :
    ∀ move : LockMove ℕ ManagerOperation, Decidable (Uncrossed state move)
  | .wait thread => inferInstanceAs (Decidable (∀ held lock, Crossed held lock ∨ Crossed lock held →
      state.Holds thread held → state.Requests thread lock →
      ∀ other ∈ state.threads.keys, state.Holds other lock → ¬state.Waits other held))
  | .start _ _ => isTrue trivial
  | .acquire _ => isTrue trivial
  | .release _ => isTrue trivial

/-- The queues are in order, and of two locks that are taken in both orders, no two
operations hold one each and wait for the other. -/
structure Untangled (state : LockState ℕ ManagerLock) : Prop where
  queued : Queued MayHold state
  uncrossed : ∀ held lock, Crossed held lock → ¬(state.Meets held lock ∧ state.Meets lock held)

theorem Uncrossed.not_meets {state : LockState ℕ ManagerLock} {thread : ℕ}
    {held lock : ManagerLock} (uncrossed : Uncrossed state (.wait thread))
    (crossing : Crossed held lock ∨ Crossed lock held) (holds : state.Holds thread held)
    (requests : state.Requests thread lock) : ¬state.Meets lock held := by
  rintro ⟨other, otherHolds, otherWaits⟩
  have runs : other ∈ state.threads.keys := by
    obtain ⟨running, found, _⟩ := otherHolds
    exact (Finmap.mem_keys_iff_lookup _ _).mpr ⟨running, found⟩
  exact uncrossed held lock crossing holds requests other runs otherHolds otherWaits

theorem step_untangled {state next : LockState ℕ ManagerLock}
    {move : LockMove ℕ ManagerOperation} (untangled : Untangled state)
    (uncrossed : Uncrossed state move)
    (steps : state.step ManagerOperation.path move = some next) : Untangled next := by
  refine ⟨step_queued (fun operation => operation.complete_path.1) untangled.queued steps, ?_⟩
  rintro held lock crossed ⟨meets, meetsBack⟩
  rcases step_meets untangled.queued steps meets with met | ⟨thread, rfl, holds, requests⟩
  · rcases step_meets untangled.queued steps meetsBack with
      metBack | ⟨thread, rfl, holds, requests⟩
    · exact untangled.uncrossed held lock crossed ⟨met, metBack⟩
    · exact Uncrossed.not_meets uncrossed (.inr crossed) holds requests met
  · rcases step_meets untangled.queued steps meetsBack with
      metBack | ⟨_, same, _, alsoRequests⟩
    · exact Uncrossed.not_meets uncrossed (.inl crossed) holds requests metBack
    · -- the same operation cannot be about to take both locks
      cases same
      cases requests.unique alsoRequests
      revert crossed
      cases held <;> decide

/-- Conversely, an operation that is made to wait across another one deadlocks with it. -/
theorem deadlocked_of_crossed {state next : LockState ℕ ManagerLock} {thread other : ℕ}
    {held lock : ManagerLock} (crossing : Crossed held lock ∨ Crossed lock held)
    (holds : state.Holds thread held) (requests : state.Requests thread lock)
    (otherHolds : state.Holds other lock) (otherWaits : state.Waits other held)
    (steps : state.step ManagerOperation.path (.wait thread) = some next) :
    next.Deadlocked := by
  cases moved_of_step steps with
  | wait _ awaited mode program others isRunning isNew =>
      have isLock : lock = awaited :=
        requests.unique ⟨_, isRunning, mode, program, rfl⟩
      subst isLock
      have different : held ≠ lock := by
        rintro rfl
        revert crossing
        cases held <;> decide
      refine LockState.Meets.deadlocked ⟨thread, holds, ?_⟩ ⟨other, otherHolds, ?_⟩
      · simp [Waits]
      · simpa [Waits, Function.update_of_ne different] using otherWaits

/-- The documented order, with the first two or the last two locks swapped. -/
def placeIn (positionsFirst stationsFirst : Bool) : ManagerLock → ℕ
  | clients => if positionsFirst then 2 else 1
  | onlinePositions => if positionsFirst then 1 else 2
  | vatsimOnlyPositions => if stationsFirst then 4 else 3
  | onlineStations => if stationsFirst then 3 else 4

open Classical in
/-- Two locks are ranked the way in which operations wait for them. -/
theorem Untangled.not_deadlocked {state : LockState ℕ ManagerLock} (untangled : Untangled state) :
    ¬state.Deadlocked := by
  have ranked : state.Ranked (placeIn (decide (state.Meets onlinePositions clients))
      (decide (state.Meets onlineStations vatsimOnlyPositions))) := by
    intro held awaited meets
    obtain ⟨thread, holds, waits⟩ := meets
    have meets : state.Meets held awaited := ⟨thread, holds, waits⟩
    rcases untangled.queued.allowed holds (untangled.queued.requests _ _ waits) with
      before | ⟨rfl, rfl⟩ | ⟨rfl, rfl⟩
    · have notBack : Crossed awaited held → ¬state.Meets awaited held := fun crossed back =>
        untangled.uncrossed awaited held crossed ⟨back, meets⟩
      cases held <;> cases awaited <;> first
        | exact absurd before (by decide)
        | simp only [placeIn]; grind [Crossed]
    · simp only [placeIn, meets, decide_true, if_true]
      decide
    · simp only [placeIn, meets, decide_true, if_true]
      decide
  exact ranked.acyclic untangled.queued

end ManagerLock

/-- In every run in which no operation is made to wait across another one that takes the
same two locks in the other order, there is no deadlock. The documented order is kept by the
operations that neither replace the network nor emit the coverage gauges, and by no other. -/
theorem uncrossedRun_deadlockFree {moves : List (LockMove ℕ ManagerOperation)}
    {final : LockState ℕ ManagerLock}
    (uncrossed : GuardedRuns.Guarded (LockState.step ManagerOperation.path)
      ManagerLock.Uncrossed .idle moves)
    (runs : GuardedRuns.runMoves (LockState.step ManagerOperation.path) .idle moves =
      some final) :
    ¬final.Deadlocked ∧
      ∀ operation : ManagerOperation, operation.path.Ordered ↔ operation.KeepsOrder := by
  refine ⟨?_, ManagerOperation.ordered_path_iff⟩
  have initially : ManagerLock.Untangled .idle :=
    ⟨LockState.queued_idle, fun _ _ _ ⟨⟨_, _, waits⟩, _⟩ => by cases waits⟩
  exact (uncrossed.preserves (fun _ _ _ => ManagerLock.step_untangled) runs
    initially).not_deadlocked

/-- The VATSIM state is synced while the network is replaced. The sync has the clients and
the positions before the reload asks for them, so the reload waits for the sync. -/
def reloadAfterSync : List (LockMove ℕ ManagerOperation) :=
  [.start 0 (.syncVatsimState none [] []), .start 1 (.replaceNetwork [] []), .acquire 0,
    .acquire 1, .release 1, .acquire 0, .wait 1, .acquire 0, .release 0, .release 0, .release 0,
    .acquire 1, .acquire 1, .release 1, .release 1, .release 1]

/-- The sync has the clients and the reload the positions when each asks for the other. -/
def reloadDuringSync : List (LockMove ℕ ManagerOperation) :=
  [.start 0 (.syncVatsimState none [] []), .start 1 (.replaceNetwork [] []), .acquire 0,
    .acquire 1, .release 1, .acquire 1, .wait 0, .wait 1]

theorem uncrossedRun_deadlockFree_reloadAfterSync :
    ∃ final, GuardedRuns.runMoves (LockState.step ManagerOperation.path) .idle reloadAfterSync =
        some final ∧ ¬final.Deadlocked := by
  have runs : (GuardedRuns.runMoves (LockState.step ManagerOperation.path) .idle
      reloadAfterSync).isSome = true := by decide +kernel
  obtain ⟨final, runs⟩ := Option.isSome_iff_exists.mp runs
  exact ⟨final, runs, (uncrossedRun_deadlockFree (by decide +kernel) runs).1⟩

/-- The reload waits for the sync and the sync for the reload. -/
theorem reloadDuringSync_deadlocked :
    ¬∀ (moves : List (LockMove ℕ ManagerOperation)) (final : LockState ℕ ManagerLock),
      GuardedRuns.runMoves (LockState.step ManagerOperation.path) .idle moves = some final →
      ¬final.Deadlocked := by
  intro deadlockFree
  have runs : (GuardedRuns.runMoves (LockState.step ManagerOperation.path) .idle
      reloadDuringSync).isSome = true := by decide +kernel
  have tangled : ∀ final ∈ GuardedRuns.runMoves (LockState.step ManagerOperation.path) .idle
      reloadDuringSync, (final.Holds 0 .clients ∧ final.Waits 0 .onlinePositions) ∧
        final.Holds 1 .onlinePositions ∧ final.Waits 1 .clients := by
    decide +kernel
  obtain ⟨final, runs⟩ := Option.isSome_iff_exists.mp runs
  obtain ⟨sync, reload⟩ := tangled final runs
  exact deadlockFree _ final runs (LockState.Meets.deadlocked ⟨0, sync⟩ ⟨1, reload⟩)

end Vacs
