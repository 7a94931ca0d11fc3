import Mathlib.Logic.Relation
import Vacs.Foundations.FiniteMap

/-!
# Fair reader-writer locks

Threads run straight-line programs that acquire and release reader-writer locks.
Every lock has a first-in first-out queue. An acquisition succeeds at once if nobody
is queued and the holders are compatible with it; otherwise the thread waits in the
queue. A release hands the lock to the head of the queue, and on to the next, as
long as they are compatible with the holders, so readers queue behind a waiting
writer.

A thread awaits another one if it waits for a lock that the other holds, or that the
other waits for ahead of it. `Ranked` says that the locks can be ranked such that
every waiting thread holds only locks of a lower rank than the one it waits for. Then
no thread awaits itself over any number of others (`Ranked.acyclic`). The rank may
depend on the state, so that acquisitions in opposite orders are fine as long as they
do not meet.
-/

set_option autoImplicit false

inductive LockMode where
  | read
  | write
deriving DecidableEq

inductive LockInstruction (Lock : Type) where
  | acquire (lock : Lock) (mode : LockMode)
  | release (lock : Lock)
deriving DecidableEq

/-- What a thread has left to do, and the locks it holds. -/
structure LockThread (Lock : Type) where
  program : List (LockInstruction Lock)
  held : List (Lock × LockMode)

structure LockState (Thread Lock : Type) where
  threads : HashMap Thread (LockThread Lock)
  queue : Lock → List (Thread × LockMode)

/-- The next thing to happen: an operation starts as a new thread, or a thread takes a
lock at once, is made to wait for it, or releases it. -/
inductive LockMove (Thread Operation : Type) where
  | start (thread : Thread) (operation : Operation)
  | acquire (thread : Thread)
  | wait (thread : Thread)
  | release (thread : Thread)

namespace LockState

variable {Thread Lock Operation : Type} [DecidableEq Thread] [DecidableEq Lock]

/-- Whether a lock may be taken besides those who hold it. -/
def compatible (threads : HashMap Thread (LockThread Lock)) (lock : Lock) (mode : LockMode) :
    Bool :=
  decide (∀ thread ∈ threads.keys, ∀ running ∈ threads.lookup thread, ∀ hold ∈ running.held,
    hold.1 = lock → mode = .read ∧ hold.2 = .read)

/-- Give the lock to a thread, whose program goes on after the acquisition. -/
def grant (threads : HashMap Thread (LockThread Lock)) (lock : Lock) (thread : Thread)
    (mode : LockMode) : HashMap Thread (LockThread Lock) :=
  match threads.lookup thread with
  | none => threads
  | some running =>
      threads.insert thread ⟨running.program.tail, (lock, mode) :: running.held⟩

/-- Hand a lock to the threads at the front of its queue. -/
def promote (lock : Lock) : HashMap Thread (LockThread Lock) → List (Thread × LockMode) →
    HashMap Thread (LockThread Lock) × List (Thread × LockMode)
  | threads, [] => (threads, [])
  | threads, (thread, mode) :: queue =>
      if compatible threads lock mode then promote lock (grant threads lock thread mode) queue
      else (threads, (thread, mode) :: queue)

/-- Whether an acquisition succeeds at once. -/
def free (state : LockState Thread Lock) (lock : Lock) (mode : LockMode) : Bool :=
  (state.queue lock).isEmpty && compatible state.threads lock mode

/-- Nothing runs. -/
def idle : LockState Thread Lock :=
  ⟨∅, fun _ => []⟩

def step (path : Operation → List (LockInstruction Lock)) (state : LockState Thread Lock) :
    LockMove Thread Operation → Option (LockState Thread Lock)
  | .start thread operation =>
      if thread ∈ state.threads.keys then none
      else some { state with threads := state.threads.insert thread ⟨path operation, []⟩ }
  | .acquire thread =>
      match state.threads.lookup thread with
      | some ⟨.acquire lock mode :: _, _⟩ =>
          if state.free lock mode then
            some { state with threads := grant state.threads lock thread mode }
          else none
      | _ => none
  | .wait thread =>
      match state.threads.lookup thread with
      | some ⟨.acquire lock mode :: _, _⟩ =>
          if state.free lock mode ∨ thread ∈ (state.queue lock).map Prod.fst then none
          else some { state with
            queue := Function.update state.queue lock (state.queue lock ++ [(thread, mode)]) }
      | _ => none
  | .release thread =>
      match state.threads.lookup thread with
      | some ⟨.release lock :: program, held⟩ =>
          let (threads, queue) := promote lock
            (state.threads.insert thread ⟨program, held.filter fun hold => hold.1 ≠ lock⟩)
            (state.queue lock)
          some ⟨threads, Function.update state.queue lock queue⟩
      | _ => none

/-! ## Waiting -/

def Holds (state : LockState Thread Lock) (thread : Thread) (lock : Lock) : Prop :=
  ∃ running ∈ state.threads.lookup thread, lock ∈ running.held.map Prod.fst

def Waits (state : LockState Thread Lock) (thread : Thread) (lock : Lock) : Prop :=
  thread ∈ (state.queue lock).map Prod.fst

/-- The thread is about to acquire the lock. -/
def Requests (state : LockState Thread Lock) (thread : Thread) (lock : Lock) : Prop :=
  ∃ running ∈ state.threads.lookup thread, ∃ mode program,
    running.program = .acquire lock mode :: program

/-- The lock that the program acquires next. -/
def requested : List (LockInstruction Lock) → Option Lock
  | .acquire lock _ :: _ => some lock
  | _ => none

omit [DecidableEq Lock] in
theorem requested_eq_some_iff {program : List (LockInstruction Lock)} {lock : Lock} :
    requested program = some lock ↔ ∃ mode rest, program = .acquire lock mode :: rest := by
  constructor
  · intro isLock
    unfold requested at isLock
    split at isLock
    · cases isLock
      exact ⟨_, _, rfl⟩
    · cases isLock
  · rintro ⟨mode, rest, rfl⟩
    rfl

instance (state : LockState Thread Lock) (thread : Thread) (lock : Lock) :
    Decidable (state.Requests thread lock) :=
  decidable_of_iff (∃ running ∈ state.threads.lookup thread,
    requested running.program = some lock) (by simp only [Requests, requested_eq_some_iff])

/-- The first thread waits for a lock that the second one holds or waits for ahead of
it. -/
def Awaits (state : LockState Thread Lock) (first second : Thread) : Prop :=
  ∃ lock, state.Waits first lock ∧ (state.Holds second lock ∨
    (state.Waits second lock ∧ ((state.queue lock).map Prod.fst).idxOf second <
      ((state.queue lock).map Prod.fst).idxOf first))

/-- A thread awaits itself, over any number of others. -/
def Deadlocked (state : LockState Thread Lock) : Prop :=
  ∃ thread, Relation.TransGen state.Awaits thread thread

/-- Some thread waits for a lock while it holds another one. -/
def Meets (state : LockState Thread Lock) (held awaited : Lock) : Prop :=
  ∃ thread, state.Holds thread held ∧ state.Waits thread awaited

instance (state : LockState Thread Lock) (thread : Thread) (lock : Lock) :
    Decidable (state.Holds thread lock) :=
  inferInstanceAs (Decidable (∃ running ∈ state.threads.lookup thread,
    lock ∈ running.held.map Prod.fst))

instance (state : LockState Thread Lock) (thread : Thread) (lock : Lock) :
    Decidable (state.Waits thread lock) :=
  inferInstanceAs (Decidable (thread ∈ (state.queue lock).map Prod.fst))

omit [DecidableEq Lock] in
/-- Two threads that wait for each other's lock are deadlocked. -/
theorem Meets.deadlocked {state : LockState Thread Lock} {first second : Lock}
    (meets : state.Meets first second) (meetsBack : state.Meets second first) :
    state.Deadlocked := by
  obtain ⟨thread, holdsFirst, awaitsSecond⟩ := meets
  obtain ⟨other, holdsSecond, awaitsFirst⟩ := meetsBack
  have awaits : state.Awaits thread other := ⟨second, awaitsSecond, .inl holdsSecond⟩
  exact ⟨thread, .tail (.single awaits) ⟨first, awaitsFirst, .inl holdsFirst⟩⟩

/-! ## Programs -/

/-- The program acquires a lock only while it holds locks that it may hold then. -/
def Legal (allowed : Lock → Lock → Prop) : List Lock → List (LockInstruction Lock) → Prop
  | _, [] => True
  | held, .acquire lock _ :: program =>
      (∀ other ∈ held, allowed other lock) ∧ Legal allowed (lock :: held) program
  | held, .release lock :: program =>
      Legal allowed (held.filter fun other => other ≠ lock) program

instance decidableLegal (allowed : Lock → Lock → Prop) [DecidableRel allowed] :
    ∀ (held : List Lock) (program : List (LockInstruction Lock)),
      Decidable (Legal allowed held program)
  | _, [] => isTrue trivial
  | held, .acquire lock _ :: program =>
      have := decidableLegal allowed (lock :: held) program
      inferInstanceAs (Decidable ((∀ other ∈ held, allowed other lock) ∧
        Legal allowed (lock :: held) program))
  | held, .release lock :: program =>
      decidableLegal allowed (held.filter fun other => other ≠ lock) program

theorem Legal.mono {allowed permitted : Lock → Lock → Prop}
    (weaker : ∀ held lock, allowed held lock → permitted held lock) {held : List Lock}
    {program : List (LockInstruction Lock)} (legal : Legal allowed held program) :
    Legal permitted held program := by
  induction program generalizing held with
  | nil => trivial
  | cons instruction program ih =>
      cases instruction with
      | acquire lock mode =>
          exact ⟨fun other isHeld => weaker other lock (legal.1 other isHeld), ih legal.2⟩
      | release lock => exact ih legal

/-- The locks that are held after a program. -/
def heldAfter : List Lock → List (LockInstruction Lock) → List Lock
  | held, [] => held
  | held, .acquire lock _ :: program => heldAfter (lock :: held) program
  | held, .release lock :: program => heldAfter (held.filter fun other => other ≠ lock) program

theorem legal_append {allowed : Lock → Lock → Prop} {held : List Lock}
    {program continuation : List (LockInstruction Lock)} :
    Legal allowed held (program ++ continuation) ↔
      Legal allowed held program ∧ Legal allowed (heldAfter held program) continuation := by
  induction program generalizing held with
  | nil => exact (Iff.of_eq (true_and _)).symm
  | cons instruction program ih =>
      cases instruction with
      | acquire lock mode => simp only [List.cons_append, Legal, heldAfter, ih, and_assoc]
      | release lock => simp only [List.cons_append, Legal, heldAfter, ih]

theorem heldAfter_append {held : List Lock}
    {program continuation : List (LockInstruction Lock)} :
    heldAfter held (program ++ continuation) = heldAfter (heldAfter held program) continuation := by
  induction program generalizing held with
  | nil => rfl
  | cons instruction program ih =>
      cases instruction with
      | acquire lock mode => exact ih
      | release lock => exact ih

/-- A program that takes locks only as it may and gives all of them back. -/
def Complete (allowed : Lock → Lock → Prop) (program : List (LockInstruction Lock)) : Prop :=
  Legal allowed [] program ∧ heldAfter [] program = []

instance (allowed : Lock → Lock → Prop) [DecidableRel allowed]
    (program : List (LockInstruction Lock)) : Decidable (Complete allowed program) :=
  inferInstanceAs (Decidable (Legal allowed [] program ∧ heldAfter [] program = []))

theorem Complete.append {allowed : Lock → Lock → Prop}
    {program continuation : List (LockInstruction Lock)} (complete : Complete allowed program)
    (completes : Complete allowed continuation) : Complete allowed (program ++ continuation) := by
  constructor
  · rw [legal_append, complete.2]
    exact ⟨complete.1, completes.1⟩
  · rw [heldAfter_append, complete.2]
    exact completes.2

theorem Complete.flatMap {α : Type} {allowed : Lock → Lock → Prop}
    {parts : α → List (LockInstruction Lock)} (complete : ∀ part, Complete allowed (parts part))
    (list : List α) : Complete allowed (list.flatMap parts) := by
  induction list with
  | nil => exact ⟨trivial, rfl⟩
  | cons part list ih =>
      rw [List.flatMap_cons]
      exact (complete part).append ih

theorem Complete.mono {allowed permitted : Lock → Lock → Prop}
    (weaker : ∀ held lock, allowed held lock → permitted held lock)
    {program : List (LockInstruction Lock)} (complete : Complete allowed program) :
    Complete permitted program :=
  ⟨complete.1.mono weaker, complete.2⟩

def LegalPrograms (allowed : Lock → Lock → Prop) (threads : HashMap Thread (LockThread Lock)) :
    Prop :=
  ∀ thread running, threads.lookup thread = some running →
    Legal allowed (running.held.map Prod.fst) running.program

/-- Whoever is queued is about to acquire the lock, and all programs are legal. -/
structure Queued (allowed : Lock → Lock → Prop) (state : LockState Thread Lock) : Prop where
  requests : ∀ lock thread, state.Waits thread lock → state.Requests thread lock
  nodup : ∀ lock, ((state.queue lock).map Prod.fst).Nodup
  legal : LegalPrograms allowed state.threads

omit [DecidableEq Lock] in
/-- A thread is about to acquire one lock only. -/
theorem Requests.unique {state : LockState Thread Lock} {thread : Thread} {first second : Lock}
    (isFirst : state.Requests thread first) (isSecond : state.Requests thread second) :
    first = second := by
  obtain ⟨running, found, mode, program, isProgram⟩ := isFirst
  obtain ⟨_, isFound, _, _, isOther⟩ := isSecond
  cases Option.some.inj (Eq.trans (Eq.symm found) isFound)
  rw [isProgram] at isOther
  cases isOther
  rfl

/-- A thread holds only what it may hold when it acquires a lock. -/
theorem Queued.allowed {allowed : Lock → Lock → Prop} {state : LockState Thread Lock}
    (queued : Queued allowed state) {thread : Thread} {held lock : Lock}
    (holds : state.Holds thread held) (requests : state.Requests thread lock) :
    allowed held lock := by
  obtain ⟨running, found, mode, program, isProgram⟩ := requests
  obtain ⟨_, isFound, member⟩ := holds
  cases Option.some.inj (Eq.trans (Eq.symm found) isFound)
  have legal := queued.legal thread running found
  rw [isProgram] at legal
  exact legal.1 held member

theorem queued_idle {allowed : Lock → Lock → Prop} :
    Queued allowed (idle : LockState Thread Lock) :=
  ⟨nofun, fun _ => List.nodup_nil, nofun⟩

/-! ## Ranked locks cannot deadlock -/

/-- Every waiting thread holds only locks of a lower rank than the one it waits for. -/
def Ranked (state : LockState Thread Lock) (rank : Lock → ℕ) : Prop :=
  ∀ held awaited, state.Meets held awaited → rank held < rank awaited

theorem Ranked.acyclic {allowed : Lock → Lock → Prop} {state : LockState Thread Lock}
    (queued : Queued allowed state) {rank : Lock → ℕ} (ranked : state.Ranked rank) :
    ¬state.Deadlocked := by
  -- along a chain, the rank of the awaited lock grows or the place in its queue comes down
  have climbs : ∀ {first last : Thread}, Relation.TransGen state.Awaits first last →
      ∀ start finish, state.Waits first start → state.Waits last finish →
        rank start < rank finish ∨ (start = finish ∧
          ((state.queue start).map Prod.fst).idxOf last <
            ((state.queue start).map Prod.fst).idxOf first) := by
    intro first last chain
    induction chain with
    | @single last awaits =>
        intro start finish waits lastWaits
        obtain ⟨lock, isWaiting, next⟩ := awaits
        have isStart := (queued.requests _ _ waits).unique (queued.requests _ _ isWaiting)
        rcases next with holds | ⟨alsoWaits, ahead⟩
        · exact .inl (ranked start finish ⟨last, isStart ▸ holds, lastWaits⟩)
        · have isFinish := (queued.requests _ _ alsoWaits).unique (queued.requests _ _ lastWaits)
          exact .inr ⟨isStart.trans isFinish, isStart ▸ ahead⟩
    | @tail middle last _ awaits ih =>
        intro start finish waits lastWaits
        obtain ⟨lock, isWaiting, next⟩ := awaits
        rcases next with holds | ⟨alsoWaits, ahead⟩
        · have higher := ranked lock finish ⟨last, holds, lastWaits⟩
          rcases ih start lock waits isWaiting with lower | ⟨same, _⟩
          · exact .inl (lower.trans higher)
          · exact .inl (same ▸ higher)
        · have isFinish := (queued.requests _ _ alsoWaits).unique (queued.requests _ _ lastWaits)
          rcases ih start lock waits isWaiting with lower | ⟨same, before⟩
          · exact .inl (isFinish ▸ lower)
          · exact .inr ⟨same.trans isFinish, (same ▸ ahead).trans before⟩
  rintro ⟨thread, circle⟩
  obtain ⟨other, awaits, _⟩ := Relation.TransGen.head'_iff.mp circle
  obtain ⟨lock, waits, _⟩ := awaits
  rcases climbs circle lock lock waits waits with lower | ⟨_, ahead⟩
  · exact absurd lower (lt_irrefl _)
  · exact absurd ahead (lt_irrefl _)

/-! ## Granting a lock -/

section Granting

variable {threads : HashMap Thread (LockThread Lock)} {lock : Lock}

omit [DecidableEq Lock] in
theorem lookup_grant_of_ne {thread other : Thread} {mode : LockMode} (different : other ≠ thread) :
    (grant threads lock thread mode).lookup other = threads.lookup other := by
  unfold grant
  split
  · rfl
  · exact Finmap.lookup_insert_of_ne _ different

omit [DecidableEq Lock] in
theorem lookup_grant {thread : Thread} {running : LockThread Lock} (mode : LockMode)
    (found : threads.lookup thread = some running) :
    (grant threads lock thread mode).lookup thread =
      some ⟨running.program.tail, (lock, mode) :: running.held⟩ := by
  rw [grant, found]
  exact Finmap.lookup_insert _

/-- Granting a lock to a thread that is about to acquire it keeps programs legal. -/
theorem legal_grant {allowed : Lock → Lock → Prop} {thread : Thread} {running : LockThread Lock}
    {mode mode' : LockMode} {program : List (LockInstruction Lock)}
    (legal : LegalPrograms allowed threads) (found : threads.lookup thread = some running)
    (isProgram : running.program = .acquire lock mode' :: program) :
    LegalPrograms allowed (grant threads lock thread mode) := by
  intro other running' isRunning
  by_cases same : other = thread
  · subst same
    rw [lookup_grant mode found] at isRunning
    cases isRunning
    have legal := legal other running found
    rw [isProgram] at legal ⊢
    exact legal.2
  · rw [lookup_grant_of_ne same] at isRunning
    exact legal other running' isRunning

variable {queue remaining : List (Thread × LockMode)} {threads' : HashMap Thread (LockThread Lock)}

theorem suffix_of_promote (promoted : promote lock threads queue = (threads', remaining)) :
    remaining.map Prod.fst <:+ queue.map Prod.fst := by
  induction queue generalizing threads with
  | nil =>
      cases promoted
      exact List.suffix_refl _
  | cons entry queue ih =>
      unfold promote at promoted
      split at promoted
      · exact (ih promoted).trans (List.suffix_cons _ _)
      · cases promoted
        exact List.suffix_refl _

/-- Threads that are not queued, or stay queued, go on as before. -/
theorem lookup_promote {other : Thread}
    (promoted : promote lock threads queue = (threads', remaining))
    (nodup : (queue.map Prod.fst).Nodup)
    (kept : other ∉ queue.map Prod.fst ∨ other ∈ remaining.map Prod.fst) :
    threads'.lookup other = threads.lookup other := by
  induction queue generalizing threads with
  | nil =>
      cases promoted
      rfl
  | cons entry queue ih =>
      rw [List.map_cons] at nodup kept
      unfold promote at promoted
      split at promoted
      · have different : other ≠ entry.1 := by
          rintro rfl
          rcases kept with outside | stays
          · exact outside (List.mem_cons_self ..)
          · exact (List.nodup_cons.mp nodup).1 ((suffix_of_promote promoted).subset stays)
        rw [ih promoted nodup.of_cons (kept.imp_left fun outside listed =>
          outside (List.mem_cons_of_mem _ listed)), lookup_grant_of_ne different]
      · cases promoted
        rfl

theorem legal_promote {allowed : Lock → Lock → Prop}
    (promoted : promote lock threads queue = (threads', remaining))
    (legal : LegalPrograms allowed threads)
    (requests : ∀ thread ∈ queue.map Prod.fst, ∃ running ∈ threads.lookup thread,
      ∃ mode program, running.program = .acquire lock mode :: program)
    (nodup : (queue.map Prod.fst).Nodup) : LegalPrograms allowed threads' := by
  induction queue generalizing threads with
  | nil =>
      cases promoted
      exact legal
  | cons entry queue ih =>
      rw [List.map_cons] at nodup
      unfold promote at promoted
      split at promoted
      · obtain ⟨running, found, mode, program, isProgram⟩ :=
          requests entry.1 (List.mem_cons_self ..)
        refine ih promoted (legal_grant legal found isProgram) (fun thread listed => ?_)
          nodup.of_cons
        have different : thread ≠ entry.1 := fun same =>
          (List.nodup_cons.mp nodup).1 (same ▸ listed)
        rw [lookup_grant_of_ne different]
        exact requests thread (List.mem_cons_of_mem _ listed)
      · cases promoted
        exact legal

end Granting

/-! ## Every move keeps the queues -/

section Steps

variable {path : Operation → List (LockInstruction Lock)} {allowed : Lock → Lock → Prop}
  {state next : LockState Thread Lock}

omit [DecidableEq Lock] in
theorem Requests.of_lookup_eq {thread : Thread} {lock : Lock}
    (requests : state.Requests thread lock)
    (same : next.threads.lookup thread = state.threads.lookup thread) :
    next.Requests thread lock := by
  obtain ⟨running, found, isNext⟩ := requests
  exact ⟨running, same.trans found, isNext⟩

omit [DecidableEq Lock] in
theorem Holds.of_lookup_eq {thread : Thread} {lock : Lock} (holds : next.Holds thread lock)
    (same : next.threads.lookup thread = state.threads.lookup thread) :
    state.Holds thread lock := by
  obtain ⟨running, found, member⟩ := holds
  exact ⟨running, same.symm.trans found, member⟩

/-- Everything a move can do. -/
inductive Moved (path : Operation → List (LockInstruction Lock)) (state : LockState Thread Lock) :
    LockMove Thread Operation → LockState Thread Lock → Prop where
  | start (thread : Thread) (operation : Operation) (absent : thread ∉ state.threads.keys) :
      Moved path state (.start thread operation)
        { state with threads := state.threads.insert thread ⟨path operation, []⟩ }
  | acquire (thread : Thread) (lock : Lock) (mode : LockMode)
      (program : List (LockInstruction Lock)) (held : List (Lock × LockMode))
      (isRunning : state.threads.lookup thread = some ⟨.acquire lock mode :: program, held⟩)
      (isFree : state.free lock mode) :
      Moved path state (.acquire thread)
        { state with threads := grant state.threads lock thread mode }
  | wait (thread : Thread) (lock : Lock) (mode : LockMode)
      (program : List (LockInstruction Lock)) (held : List (Lock × LockMode))
      (isRunning : state.threads.lookup thread = some ⟨.acquire lock mode :: program, held⟩)
      (isNew : ¬state.Waits thread lock) :
      Moved path state (.wait thread)
        { state with
          queue := Function.update state.queue lock (state.queue lock ++ [(thread, mode)]) }
  | release (thread : Thread) (lock : Lock) (program : List (LockInstruction Lock))
      (held : List (Lock × LockMode))
      (isRunning : state.threads.lookup thread = some ⟨.release lock :: program, held⟩)
      (threads : HashMap Thread (LockThread Lock)) (queue : List (Thread × LockMode))
      (promoted : promote lock
        (state.threads.insert thread ⟨program, held.filter fun hold => hold.1 ≠ lock⟩)
        (state.queue lock) = (threads, queue)) :
      Moved path state (.release thread) ⟨threads, Function.update state.queue lock queue⟩

theorem moved_of_step {move : LockMove Thread Operation}
    (steps : state.step path move = some next) : Moved path state move next := by
  cases move with
  | start started operation =>
      simp only [step] at steps
      split at steps
      · cases steps
      · cases steps
        exact .start started operation ‹_›
  | acquire taker =>
      simp only [step] at steps
      split at steps
      · split at steps
        · cases steps
          exact .acquire taker _ _ _ _ ‹_› ‹_›
        · cases steps
      · cases steps
  | wait waiter =>
      simp only [step] at steps
      split at steps
      · split at steps
        · cases steps
        · rename_i mustWait
          cases steps
          exact .wait waiter _ _ _ _ ‹_› fun waits => mustWait (.inr waits)
      · cases steps
  | release releaser =>
      simp only [step] at steps
      split at steps
      · cases steps
        exact .release releaser _ _ _ ‹_› _ _ rfl
      · cases steps

/-- A thread that is about to release a lock is in no queue. -/
theorem Queued.ne_of_releases (queued : Queued allowed state) {thread releaser : Thread}
    {lock released : Lock} {program : List (LockInstruction Lock)} {held : List (Lock × LockMode)}
    (waits : state.Waits thread lock)
    (isRunning : state.threads.lookup releaser = some ⟨.release released :: program, held⟩) :
    thread ≠ releaser := by
  rintro rfl
  obtain ⟨_, found, mode, _, isProgram⟩ := queued.requests lock thread waits
  cases Option.some.inj (Eq.trans (Eq.symm isRunning) found)
  cases isProgram

/-- What a move does to the queues: those who wait afterwards waited before and go on as
they were, except for the thread that is made to wait. -/
theorem step_waits {move : LockMove Thread Operation} (queued : Queued allowed state)
    (steps : state.step path move = some next) {thread : Thread} {lock : Lock}
    (waits : next.Waits thread lock) :
    next.threads.lookup thread = state.threads.lookup thread ∧
      (state.Waits thread lock ∨ (move = .wait thread ∧ state.Requests thread lock)) := by
  cases moved_of_step steps with
  | start started operation absent =>
      obtain ⟨running, found, _⟩ := queued.requests lock thread waits
      refine ⟨Finmap.lookup_insert_of_ne _ ?_, .inl waits⟩
      rintro rfl
      exact absent ((Finmap.mem_keys_iff_lookup _ _).mpr ⟨running, found⟩)
  | acquire taker taken mode program held isRunning isFree =>
      refine ⟨lookup_grant_of_ne ?_, .inl waits⟩
      rintro rfl
      have same := (queued.requests lock thread waits).unique
        (⟨_, isRunning, mode, program, rfl⟩ : state.Requests thread taken)
      subst same
      simp only [free, Bool.and_eq_true, List.isEmpty_iff] at isFree
      simp only [Waits] at waits
      rw [isFree.1] at waits
      cases waits
  | wait waiter awaited mode program held isRunning isNew =>
      refine ⟨rfl, ?_⟩
      simp only [Waits] at waits
      by_cases same : lock = awaited
      · subst same
        rw [Function.update_self, List.map_append, List.mem_append] at waits
        rcases waits with waits | isWaiter
        · exact .inl waits
        · rw [List.map_singleton, List.mem_singleton] at isWaiter
          subst isWaiter
          exact .inr ⟨rfl, _, isRunning, mode, program, rfl⟩
      · rw [Function.update_of_ne same] at waits
        exact .inl waits
  | release releaser released program held isRunning threads queue promoted =>
      simp only [Waits] at waits
      have waited : state.Waits thread lock := by
        by_cases same : lock = released
        · subst same
          rw [Function.update_self] at waits
          exact (suffix_of_promote promoted).subset waits
        · rw [Function.update_of_ne same] at waits
          exact waits
      refine ⟨?_, .inl waited⟩
      refine (lookup_promote promoted (queued.nodup released) ?_).trans
        (Finmap.lookup_insert_of_ne _ (queued.ne_of_releases waited isRunning))
      by_cases same : lock = released
      · subst same
        rw [Function.update_self] at waits
        exact .inr waits
      · exact .inl fun alsoQueued => same
          ((queued.requests lock thread waited).unique (queued.requests released thread alsoQueued))

/-- A thread comes to wait for a lock while it holds another one only by being made to
wait. -/
theorem step_meets {move : LockMove Thread Operation} (queued : Queued allowed state)
    (steps : state.step path move = some next) {held awaited : Lock}
    (meets : next.Meets held awaited) :
    state.Meets held awaited ∨ ∃ thread, move = .wait thread ∧ state.Holds thread held ∧
      state.Requests thread awaited := by
  obtain ⟨thread, holds, waits⟩ := meets
  obtain ⟨same, waited | ⟨isWait, requests⟩⟩ := step_waits queued steps waits
  · exact .inl ⟨thread, holds.of_lookup_eq same, waited⟩
  · exact .inr ⟨thread, isWait, holds.of_lookup_eq same, requests⟩

theorem step_nodup {move : LockMove Thread Operation}
    (nodup : ∀ lock, ((state.queue lock).map Prod.fst).Nodup)
    (steps : state.step path move = some next) (lock : Lock) :
    ((next.queue lock).map Prod.fst).Nodup := by
  cases moved_of_step steps with
  | start started operation absent => exact nodup lock
  | acquire taker taken mode program held isRunning isFree => exact nodup lock
  | wait waiter awaited mode program held isRunning isNew =>
      simp only
      by_cases same : lock = awaited
      · subst same
        rw [Function.update_self, List.map_append, List.nodup_append]
        refine ⟨nodup lock, List.nodup_singleton _, ?_⟩
        rintro thread listed _ isWaiter rfl
        cases List.mem_singleton.mp isWaiter
        exact isNew listed
      · rw [Function.update_of_ne same]
        exact nodup lock
  | release releaser released program held isRunning threads queue promoted =>
      simp only
      by_cases same : lock = released
      · subst same
        rw [Function.update_self]
        exact (nodup lock).sublist (suffix_of_promote promoted).sublist
      · rw [Function.update_of_ne same]
        exact nodup lock

theorem step_legal {move : LockMove Thread Operation}
    (legal : ∀ operation, Legal allowed [] (path operation)) (queued : Queued allowed state)
    (steps : state.step path move = some next) : LegalPrograms allowed next.threads := by
  cases moved_of_step steps with
  | start started operation absent =>
      intro thread running found
      rw [Finmap.lookup_insert_eq] at found
      split at found
      · cases found
        exact legal operation
      · exact queued.legal thread running found
  | acquire taker taken mode program held isRunning isFree =>
      exact legal_grant queued.legal isRunning rfl
  | wait waiter awaited mode program held isRunning isNew => exact queued.legal
  | release releaser released program held isRunning threads queue promoted =>
      refine legal_promote promoted (fun thread running found => ?_) (fun thread listed => ?_)
        (queued.nodup released)
      · rw [Finmap.lookup_insert_eq] at found
        split at found
        · cases found
          have legal : Legal allowed ((held.map Prod.fst).filter fun other => other ≠ released)
            program := queued.legal releaser _ isRunning
          rw [List.filter_map] at legal
          exact legal
        · exact queued.legal thread running found
      · obtain ⟨running, found, isNext⟩ := queued.requests released thread listed
        refine ⟨running, ?_, isNext⟩
        exact (Finmap.lookup_insert_of_ne _ (queued.ne_of_releases listed isRunning)).trans found

theorem step_queued {move : LockMove Thread Operation}
    (legal : ∀ operation, Legal allowed [] (path operation)) (queued : Queued allowed state)
    (steps : state.step path move = some next) : Queued allowed next := by
  refine ⟨fun lock thread waits => ?_, step_nodup queued.nodup steps,
    step_legal legal queued steps⟩
  obtain ⟨same, waited | ⟨_, requests⟩⟩ := step_waits queued steps waits
  · exact (queued.requests lock thread waited).of_lookup_eq same
  · exact requests.of_lookup_eq same

end Steps

end LockState
