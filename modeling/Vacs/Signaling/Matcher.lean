import Mathlib.Data.List.Nodup
import Vacs.Foundations.GuardedRuns
import Vacs.Signaling.Messages

/-!
# Waiters for a matching message

A waiter creates a oneshot channel, puts an entry with its predicate and the
sending end into the matcher's queue, and awaits the receiving end. A message goes
to the first entry whose predicate accepts it. The matcher never learns of a
receiver that is gone: the entry of a waiter that timed out or was dropped stays in
the queue until a message takes it out.

`Tracks` relates the queue to the waiters and holds after every step
(`Tracks.step`). A message reaches the earliest live waiter that accepts it exactly
when the first entry that accepts it is live (`Tracks.delivers_iff`), and a run
delivers every message right exactly when no message meets a dead entry first.
-/

set_option autoImplicit false

namespace Vacs

open GuardedRuns

namespace Signaling

/-! ## Oneshot channels and waiters -/

/-- A oneshot channel: the value that was sent, and which ends are gone. -/
structure Oneshot where
  value : Option ServerMessage := none
  senderGone : Bool := false
  receiverGone : Bool := false
deriving DecidableEq

namespace Oneshot

/-- Sending uses up the sender, and the value is lost when the receiver is gone. -/
def send (channel : Oneshot) (msg : ServerMessage) : Oneshot :=
  { channel with
    value := if channel.receiverGone then none else some msg
    senderGone := true }

end Oneshot

/-- A waiting request for a message that matches a predicate; the responder is the
sending end of the waiter's channel. -/
structure MatcherEntry where
  predicate : ServerMessage → Bool
  responder : ℕ

/-- A call of `wait_for_with_timeout`, from its start on. -/
structure Waiter where
  predicate : ServerMessage → Bool
  /-- Its entry has been pushed to the queue. -/
  registered : Bool := false
  channel : Oneshot := {}
  /-- What the call returned, if it has. -/
  result : Option (Except SignalingError ServerMessage) := none

namespace Waiter

/-- The waiter still waits for a message: its entry has neither been used nor cleared, and its
receiver exists. -/
def isLive (waiter : Waiter) : Bool :=
  waiter.registered && !waiter.channel.senderGone && !waiter.channel.receiverGone

end Waiter

/-- The matcher with its waiters; the logs of registrations and of deliveries are in the order
in which these happened. -/
structure ResponseMatcher where
  inner : List MatcherEntry := []
  waiters : ℕ → Option Waiter := fun _ => none
  registrations : List ℕ := []
  deliveries : List (ℕ × ServerMessage) := []

inductive MatcherMove where
  /-- A task calls `wait_for_with_timeout`, and awaits the lock of the queue. -/
  | waitFor (waiter : ℕ) (predicate : ServerMessage → Bool)
  /-- The call has the lock and pushes its entry. -/
  | register (waiter : ℕ)
  /-- The timeout of the call expires. -/
  | expire (waiter : ℕ)
  /-- The caller drops the call. -/
  | abandon (waiter : ℕ)
  /-- The call finds its channel ready and returns. -/
  | poll (waiter : ℕ)
  | tryMatch (msg : ServerMessage)
  | clear

namespace ResponseMatcher

def setWaiter (state : ResponseMatcher) (waiter : ℕ) (value : Waiter) : ResponseMatcher :=
  { state with waiters := Function.update state.waiters waiter (some value) }

/-! ## Operations -/

/-- The first half of `wait_for_with_timeout`: a new channel. -/
def waitFor (state : ResponseMatcher) (waiter : ℕ) (predicate : ServerMessage → Bool) :
    Option ResponseMatcher :=
  match state.waiters waiter with
  | none => some (state.setWaiter waiter { predicate := predicate })
  | some _ => none

/-- `self.inner.lock().await.push_back(entry)`. -/
def register (state : ResponseMatcher) (waiter : ℕ) : Option ResponseMatcher := do
  let call ← state.waiters waiter
  if !call.registered && !call.channel.receiverGone then
    some { state.setWaiter waiter { call with registered := true } with
      inner := state.inner ++ [⟨call.predicate, waiter⟩]
      registrations := state.registrations ++ [waiter] }
  else none

/-- The channel is polled before the timer: a timeout needs an empty channel. -/
def expire (state : ResponseMatcher) (waiter : ℕ) : Option ResponseMatcher := do
  let call ← state.waiters waiter
  if call.registered && !call.channel.receiverGone && !call.channel.senderGone then
    some (state.setWaiter waiter { call with
      channel := { call.channel with receiverGone := true }
      result := some (.error (.timeout "Matcher timed out")) })
  else none

/-- The future is dropped, before or after it pushed its entry. -/
def abandon (state : ResponseMatcher) (waiter : ℕ) : Option ResponseMatcher := do
  let call ← state.waiters waiter
  if !call.channel.receiverGone then
    some (state.setWaiter waiter { call with
      channel := { call.channel with receiverGone := true } })
  else none

/-- The receiver is ready once the sender is gone, with or without a value. -/
def poll (state : ResponseMatcher) (waiter : ℕ) : Option ResponseMatcher := do
  let call ← state.waiters waiter
  if call.registered && !call.channel.receiverGone && call.channel.senderGone then
    some (state.setWaiter waiter { call with
      channel := { call.channel with receiverGone := true }
      result := some
        (match call.channel.value with
        | some msg => .ok msg
        | none => .error (.runtime (.disconnected none))) })
  else none

/-- The responder of an entry sends a message; the send fails if the receiver is gone, and the
failure is ignored. -/
def respond (state : ResponseMatcher) (waiter : ℕ) (msg : ServerMessage) : ResponseMatcher :=
  match state.waiters waiter with
  | none => state
  | some call =>
      { state.setWaiter waiter { call with channel := call.channel.send msg } with
        deliveries :=
          if call.channel.receiverGone then state.deliveries
          else state.deliveries ++ [(waiter, msg)] }

/-- Send the message to the first entry that accepts it, which leaves the queue. -/
def tryMatch (state : ResponseMatcher) (msg : ServerMessage) : ResponseMatcher :=
  match state.inner.findIdx? (·.predicate msg) with
  | none => state
  | some pos =>
      match state.inner[pos]? with
      | none => state
      | some entry => { state with inner := state.inner.eraseIdx pos }.respond entry.responder msg

/-- Drop all entries, and with each its sender. -/
def clear (state : ResponseMatcher) : ResponseMatcher :=
  { state with
    inner := []
    waiters := fun waiter => (state.waiters waiter).map fun call =>
      if state.inner.any (·.responder == waiter) then
        { call with channel := { call.channel with senderGone := true } }
      else call }

def step (state : ResponseMatcher) : MatcherMove → Option ResponseMatcher
  | .waitFor waiter predicate => state.waitFor waiter predicate
  | .register waiter => state.register waiter
  | .expire waiter => state.expire waiter
  | .abandon waiter => state.abandon waiter
  | .poll waiter => state.poll waiter
  | .tryMatch msg => some (state.tryMatch msg)
  | .clear => some state.clear

/-! ## What matching a message should do -/

/-- The waiter's entry is in the queue. -/
def isQueued (state : ResponseMatcher) (waiter : ℕ) : Bool :=
  (state.waiters waiter).any fun call => call.registered && !call.channel.senderGone

def isLive (state : ResponseMatcher) (waiter : ℕ) : Bool :=
  (state.waiters waiter).any (·.isLive)

/-- The waiter is live and its predicate holds. -/
def wants (state : ResponseMatcher) (msg : ServerMessage) (waiter : ℕ) : Bool :=
  (state.waiters waiter).any fun call => call.isLive && call.predicate msg

/-- The message goes to the earliest registered live waiter whose predicate holds and to
nobody else, and only live waiters lose their entry to it. -/
structure Delivers (state : ResponseMatcher) (msg : ServerMessage) : Prop where
  earliest : (state.tryMatch msg).deliveries = state.deliveries ++
    ((state.registrations.find? (state.wants msg)).map (·, msg)).toList
  consumers : ∀ waiter, state.isQueued waiter = true →
    (state.tryMatch msg).isQueued waiter = false → state.isLive waiter = true

/-- The first entry whose predicate holds, if there is one, has a live receiver. -/
def MeetsLive (state : ResponseMatcher) (msg : ServerMessage) : Prop :=
  ∀ entry ∈ state.inner.find? (·.predicate msg), state.isLive entry.responder = true

/-- A step that matches a message delivers it right. -/
def DeliversRight (state : ResponseMatcher) : MatcherMove → Prop
  | .tryMatch msg => state.Delivers msg
  | _ => True

/-- A step that matches a message finds no dead entry first. -/
def MetAlive (state : ResponseMatcher) : MatcherMove → Prop
  | .tryMatch msg => state.MeetsLive msg
  | _ => True

/-- No waiter has been sent more than one message, or one that its predicate rejects, and what
a call returned was sent to it. -/
structure ServedRight (state : ResponseMatcher) : Prop where
  once : (state.deliveries.map Prod.fst).Nodup
  accepted : ∀ waiter msg, (waiter, msg) ∈ state.deliveries →
    ∃ call, state.waiters waiter = some call ∧ call.predicate msg = true
  returned : ∀ waiter call msg, state.waiters waiter = some call →
    call.result = some (.ok msg) → (waiter, msg) ∈ state.deliveries

/-! ## The queue and the waiters -/

/-- What the logs say about one waiter agrees with its call: a sender is only used after the
registration, and a message was sent to the waiter only if its sender is used. -/
structure Accounts (state : ResponseMatcher) (waiter : ℕ) : Prop where
  registered : waiter ∈ state.registrations ↔
    ∃ call, state.waiters waiter = some call ∧ call.registered = true
  unsent : ∀ call, state.waiters waiter = some call → call.registered = false →
    call.channel.senderGone = false
  served : ∀ msg, (waiter, msg) ∈ state.deliveries →
    ∃ call, state.waiters waiter = some call ∧ call.channel.senderGone = true ∧
      call.predicate msg = true
  returned : ∀ call msg, state.waiters waiter = some call →
    (call.channel.value = some msg ∨ call.result = some (.ok msg)) →
      (waiter, msg) ∈ state.deliveries

/-- The queue holds the entries of the registered waiters whose sender is unused, in the order
of their registration. -/
structure Tracks (state : ResponseMatcher) : Prop where
  queue : state.inner.map MatcherEntry.responder = state.registrations.filter state.isQueued
  predicates : ∀ entry ∈ state.inner, ∀ call, state.waiters entry.responder = some call →
    entry.predicate = call.predicate
  once : state.registrations.Nodup
  servedOnce : (state.deliveries.map Prod.fst).Nodup
  accounts : ∀ waiter, state.Accounts waiter

theorem tracks_initial : Tracks {} where
  queue := rfl
  predicates := by simp
  once := List.nodup_nil
  servedOnce := List.nodup_nil
  accounts := by
    intro waiter
    constructor <;> simp

theorem Tracks.servedRight {state : ResponseMatcher} (tracks : state.Tracks) :
    state.ServedRight where
  once := tracks.servedOnce
  accepted := by
    intro waiter msg delivered
    obtain ⟨call, isCall, -, accepts⟩ := (tracks.accounts waiter).served msg delivered
    exact ⟨call, isCall, accepts⟩
  returned := fun waiter call msg isCall result =>
    (tracks.accounts waiter).returned call msg isCall (Or.inr result)

theorem Tracks.mem_queue {state : ResponseMatcher} (tracks : state.Tracks) {entry : MatcherEntry}
    (queued : entry ∈ state.inner) :
    ∃ call, state.waiters entry.responder = some call ∧ call.registered = true ∧
      call.channel.senderGone = false ∧ entry.predicate = call.predicate := by
  have isQueued : entry.responder ∈ state.registrations.filter state.isQueued := by
    rw [← tracks.queue]
    exact List.mem_map_of_mem queued
  obtain ⟨call, isCall, flags⟩ :=
    (Option.any_eq_true _ _).mp (List.mem_filter.mp isQueued).2
  obtain ⟨registered, unused⟩ := Bool.and_eq_true_iff.mp flags
  exact ⟨call, isCall, registered, by simpa using unused,
    tracks.predicates entry queued call isCall⟩

/-- A step that does not concern a waiter keeps its account. -/
theorem Accounts.frame {state next : ResponseMatcher} {waiter : ℕ}
    (accounts : state.Accounts waiter) (sameCall : next.waiters waiter = state.waiters waiter)
    (sameRegistered : waiter ∈ next.registrations ↔ waiter ∈ state.registrations)
    (sameDelivered : ∀ msg, (waiter, msg) ∈ next.deliveries ↔ (waiter, msg) ∈ state.deliveries) :
    next.Accounts waiter where
  registered := by
    rw [sameRegistered, sameCall]
    exact accounts.registered
  unsent := by
    rw [sameCall]
    exact accounts.unsent
  served := by
    intro msg delivered
    rw [sameCall]
    exact accounts.served msg ((sameDelivered msg).mp delivered)
  returned := by
    intro call msg isCall got
    rw [sameCall] at isCall
    exact (sameDelivered msg).mpr (accounts.returned call msg isCall got)

@[simp] theorem waiters_setWaiter_self (state : ResponseMatcher) (waiter : ℕ) (value : Waiter) :
    (state.setWaiter waiter value).waiters waiter = some value :=
  Function.update_self ..

theorem waiters_setWaiter_of_ne (state : ResponseMatcher) {waiter other : ℕ} (value : Waiter)
    (differs : other ≠ waiter) :
    (state.setWaiter waiter value).waiters other = state.waiters other :=
  Function.update_of_ne differs ..

theorem isQueued_of_call {state : ResponseMatcher} {waiter : ℕ} {call : Waiter}
    (isCall : state.waiters waiter = some call) :
    state.isQueued waiter = (call.registered && !call.channel.senderGone) := by
  unfold isQueued
  rw [isCall]
  rfl

/-- Only the changed waiter can enter or leave the queue. -/
theorem isQueued_setWaiter_of_ne (state : ResponseMatcher) {waiter other : ℕ} (value : Waiter)
    (differs : other ≠ waiter) :
    (state.setWaiter waiter value).isQueued other = state.isQueued other := by
  unfold isQueued
  rw [waiters_setWaiter_of_ne state value differs]

/-- A change of a waiter that keeps the queue as it is. -/
theorem Tracks.setWaiter {state : ResponseMatcher} (tracks : state.Tracks) {waiter : ℕ}
    {value : Waiter}
    (predicate : ∀ call, state.waiters waiter = some call → value.predicate = call.predicate)
    (queued : (value.registered && !value.channel.senderGone) = state.isQueued waiter)
    (accounts : (state.setWaiter waiter value).Accounts waiter) :
    (state.setWaiter waiter value).Tracks := by
  have sameQueue : (state.setWaiter waiter value).isQueued = state.isQueued := by
    funext other
    by_cases same : other = waiter
    · subst same
      rw [isQueued_of_call (state.waiters_setWaiter_self other value), queued]
    · exact isQueued_setWaiter_of_ne state value same
  refine
    { queue := by rw [sameQueue]; exact tracks.queue
      predicates := ?_
      once := tracks.once
      servedOnce := tracks.servedOnce
      accounts := ?_ }
  · intro entry isEntry other isOther
    obtain ⟨call, isCall, -, -, same⟩ := tracks.mem_queue isEntry
    by_cases isWaiter : entry.responder = waiter
    · rw [isWaiter, waiters_setWaiter_self] at isOther
      cases isOther
      rw [predicate call (isWaiter ▸ isCall)]
      exact same
    · rw [waiters_setWaiter_of_ne state value isWaiter] at isOther
      exact tracks.predicates entry isEntry other isOther
  · intro other
    by_cases same : other = waiter
    · subst same
      exact accounts
    · exact (tracks.accounts other).frame (waiters_setWaiter_of_ne state value same) Iff.rfl
        fun _ => Iff.rfl

theorem Tracks.waitFor {state next : ResponseMatcher} (tracks : state.Tracks) {waiter : ℕ}
    {predicate : ServerMessage → Bool} (steps : state.waitFor waiter predicate = some next) :
    next.Tracks := by
  unfold ResponseMatcher.waitFor at steps
  split at steps
  case h_2 => cases steps
  case h_1 fresh =>
    cases steps
    have account := tracks.accounts waiter
    refine tracks.setWaiter (by simp [fresh]) (by simp [isQueued, fresh]) ?_
    refine ⟨?_, ?_, ?_, ?_⟩
    · refine account.registered.trans ?_
      simp [fresh]
    · intro call isCall _
      rw [waiters_setWaiter_self] at isCall
      cases isCall
      rfl
    · intro msg delivered
      obtain ⟨call, isCall, -⟩ := account.served msg delivered
      rw [fresh] at isCall
      cases isCall
    · intro call msg isCall got
      rw [waiters_setWaiter_self] at isCall
      cases isCall
      simp at got

/-- A change of a call that touches neither its registration nor its sender. -/
theorem Tracks.setCall {state : ResponseMatcher} (tracks : state.Tracks) {waiter : ℕ}
    {call value : Waiter} (isCall : state.waiters waiter = some call)
    (predicate : value.predicate = call.predicate) (registered : value.registered = call.registered)
    (sender : value.channel.senderGone = call.channel.senderGone)
    (returned : ∀ msg, (value.channel.value = some msg ∨ value.result = some (.ok msg)) →
      (waiter, msg) ∈ state.deliveries) :
    (state.setWaiter waiter value).Tracks := by
  have account := tracks.accounts waiter
  refine tracks.setWaiter ?_ ?_ ⟨?_, ?_, ?_, ?_⟩
  · intro known isKnown
    cases isCall.symm.trans isKnown
    exact predicate
  · rw [isQueued_of_call isCall, registered, sender]
  · refine account.registered.trans ?_
    simp [isCall, registered]
  · intro known isKnown unregistered
    rw [waiters_setWaiter_self] at isKnown
    cases isKnown
    rw [sender]
    exact account.unsent call isCall (registered ▸ unregistered)
  · intro msg delivered
    obtain ⟨served, isServed, gone, accepts⟩ := account.served msg delivered
    cases isCall.symm.trans isServed
    exact ⟨value, state.waiters_setWaiter_self waiter value, sender.trans gone,
      predicate ▸ accepts⟩
  · intro known msg isKnown got
    rw [waiters_setWaiter_self] at isKnown
    cases isKnown
    exact returned msg got

/-- The next state of an operation that is guarded by a condition on one waiter. -/
theorem bind_guard_eq_some {state next : ResponseMatcher} {waiter : ℕ} {condition : Waiter → Bool}
    {result : Waiter → ResponseMatcher}
    (steps : ((state.waiters waiter).bind fun call =>
      if condition call = true then some (result call) else none) = some next) :
    ∃ call, state.waiters waiter = some call ∧ condition call = true ∧ result call = next := by
  obtain ⟨call, isCall, rest⟩ := Option.bind_eq_some_iff.mp steps
  split at rest
  case isFalse => cases rest
  case isTrue holds => exact ⟨call, isCall, holds, Option.some.inj rest⟩

theorem Tracks.register {state next : ResponseMatcher} (tracks : state.Tracks) {waiter : ℕ}
    (steps : state.register waiter = some next) : next.Tracks := by
  obtain ⟨call, isCall, holds, rfl⟩ := bind_guard_eq_some steps
  obtain ⟨unregistered, -⟩ := Bool.and_eq_true_iff.mp holds
  have unregistered : call.registered = false := by simpa using unregistered
  have account := tracks.accounts waiter
  have unsent := account.unsent call isCall unregistered
  have isNew : waiter ∉ state.registrations := by
    intro known
    obtain ⟨other, isOther, registered⟩ := account.registered.mp known
    cases isCall.symm.trans isOther
    exact absurd registered (by simp [unregistered])
  set value : Waiter := { call with registered := true } with isValue
  have self := state.waiters_setWaiter_self waiter value
  have queued : (state.setWaiter waiter value).isQueued waiter = true := by
    rw [isQueued_of_call self]
    simp [isValue, unsent]
  refine
    { queue := ?_
      predicates := ?_
      once := List.nodup_append.mpr ⟨tracks.once, List.nodup_singleton _, by
        intro other known new isNewOne same
        rw [List.mem_singleton.mp isNewOne] at same
        exact isNew (same ▸ known)⟩
      servedOnce := tracks.servedOnce
      accounts := ?_ }
  · have filtered : state.registrations.filter (state.setWaiter waiter value).isQueued =
        state.registrations.filter state.isQueued := by
      refine List.filter_congr fun other known => isQueued_setWaiter_of_ne state value ?_
      rintro rfl
      exact isNew known
    rw [List.map_append, tracks.queue]
    change _ = (state.registrations ++ [waiter]).filter (state.setWaiter waiter value).isQueued
    rw [List.filter_append, filtered]
    simp [queued]
  · intro entry isEntry known isKnown
    rcases List.mem_append.mp isEntry with old | new
    · obtain ⟨other, isOther, registered, -, same⟩ := tracks.mem_queue old
      have differs : entry.responder ≠ waiter := by
        intro isWaiter
        exact isNew (account.registered.mpr ⟨other, isWaiter ▸ isOther, registered⟩)
      cases isOther.symm.trans ((waiters_setWaiter_of_ne state value differs).symm.trans isKnown)
      exact same
    · cases List.mem_singleton.mp new
      cases self.symm.trans isKnown
      rfl
  · intro other
    by_cases same : other = waiter
    · subst same
      refine ⟨by simp [isValue], ?_, ?_, ?_⟩
      · intro known isKnown stays
        cases self.symm.trans isKnown
        exact unsent
      · intro msg delivered
        obtain ⟨served, isServed, gone, -⟩ := account.served msg delivered
        cases isCall.symm.trans isServed
        exact absurd gone (by simp [unsent])
      · intro known msg isKnown got
        cases self.symm.trans isKnown
        exact account.returned call msg isCall got
    · exact (tracks.accounts other).frame (waiters_setWaiter_of_ne state value same)
        (by simp [same]) fun _ => Iff.rfl

theorem Tracks.expire {state next : ResponseMatcher} (tracks : state.Tracks) {waiter : ℕ}
    (steps : state.expire waiter = some next) : next.Tracks := by
  obtain ⟨call, isCall, -, rfl⟩ := bind_guard_eq_some steps
  refine tracks.setCall isCall rfl rfl rfl fun msg got => ?_
  rcases got with sent | result
  · exact (tracks.accounts waiter).returned call msg isCall (Or.inl sent)
  · cases result

theorem Tracks.abandon {state next : ResponseMatcher} (tracks : state.Tracks) {waiter : ℕ}
    (steps : state.abandon waiter = some next) : next.Tracks := by
  obtain ⟨call, isCall, -, rfl⟩ := bind_guard_eq_some steps
  exact tracks.setCall isCall rfl rfl rfl fun msg got =>
    (tracks.accounts waiter).returned call msg isCall got

theorem Tracks.poll {state next : ResponseMatcher} (tracks : state.Tracks) {waiter : ℕ}
    (steps : state.poll waiter = some next) : next.Tracks := by
  obtain ⟨call, isCall, -, rfl⟩ := bind_guard_eq_some steps
  refine tracks.setCall isCall rfl rfl rfl fun msg got => ?_
  apply (tracks.accounts waiter).returned call msg isCall
  rcases got with sent | result
  · exact Or.inl sent
  · refine Or.inl ?_
    cases value : call.channel.value with
    | none => simp [value] at result
    | some sent => simpa [value] using result

/-- The waiters in the queue are those that are queued by their own account. -/
theorem Tracks.mem_inner_iff {state : ResponseMatcher} (tracks : state.Tracks) (waiter : ℕ) :
    waiter ∈ state.inner.map MatcherEntry.responder ↔ state.isQueued waiter = true := by
  rw [tracks.queue, List.mem_filter, and_iff_right_iff_imp]
  intro queued
  obtain ⟨call, isCall, flags⟩ := (Option.any_eq_true _ _).mp queued
  exact (tracks.accounts waiter).registered.mpr ⟨call, isCall, (Bool.and_eq_true_iff.mp flags).1⟩

/-- Clearing uses up the senders of all registered waiters. -/
theorem Tracks.waiters_clear {state : ResponseMatcher} (tracks : state.Tracks) {waiter : ℕ}
    {call : Waiter} (isCall : state.waiters waiter = some call) :
    state.clear.waiters waiter =
      some { call with channel := { call.channel with senderGone := call.registered } } := by
  have inQueue : state.inner.any (·.responder == waiter) = state.isQueued waiter := by
    rw [Bool.eq_iff_iff, ← tracks.mem_inner_iff waiter]
    simp [List.mem_map]
  have unsent := (tracks.accounts waiter).unsent call isCall
  simp only [ResponseMatcher.clear, isCall, inQueue, isQueued_of_call isCall, Option.map_some]
  obtain ⟨predicate, registered, ⟨value, senderGone, receiverGone⟩, result⟩ := call
  cases registered with
  | false =>
      have unsent : senderGone = false := unsent rfl
      simp [unsent]
  | true => cases senderGone <;> rfl

theorem Tracks.clear {state : ResponseMatcher} (tracks : state.Tracks) : state.clear.Tracks := by
  have known : ∀ waiter call, state.clear.waiters waiter = some call →
      ∃ before, state.waiters waiter = some before ∧ call =
        { before with channel := { before.channel with senderGone := before.registered } } := by
    intro waiter call isCall
    cases isBefore : state.waiters waiter with
    | none => simp [ResponseMatcher.clear, isBefore] at isCall
    | some before =>
        rw [tracks.waiters_clear isBefore] at isCall
        exact ⟨before, rfl, (Option.some.inj isCall).symm⟩
  have unqueued : ∀ waiter ∈ state.registrations, ¬ state.clear.isQueued waiter = true := by
    intro waiter registered queued
    obtain ⟨call, isCall, flags⟩ := (Option.any_eq_true _ _).mp queued
    obtain ⟨before, -, rfl⟩ := known waiter call isCall
    simp at flags
  refine
    { queue := (List.filter_eq_nil_iff.mpr unqueued).symm
      predicates := by simp [ResponseMatcher.clear]
      once := tracks.once
      servedOnce := tracks.servedOnce
      accounts := ?_ }
  intro waiter
  have account := tracks.accounts waiter
  refine ⟨account.registered.trans ⟨?_, ?_⟩, ?_, ?_, ?_⟩
  · rintro ⟨call, isCall, registered⟩
    exact ⟨_, tracks.waiters_clear isCall, registered⟩
  · rintro ⟨call, isCall, registered⟩
    obtain ⟨before, isBefore, rfl⟩ := known waiter call isCall
    exact ⟨before, isBefore, registered⟩
  · intro call isCall unregistered
    obtain ⟨before, -, rfl⟩ := known waiter call isCall
    exact unregistered
  · intro msg delivered
    obtain ⟨call, isCall, gone, accepts⟩ := account.served msg delivered
    refine ⟨_, tracks.waiters_clear isCall, ?_, accepts⟩
    refine eq_true_of_ne_false fun unregistered => ?_
    exact absurd gone (by simp [account.unsent call isCall unregistered])
  · intro call msg isCall got
    obtain ⟨before, isBefore, rfl⟩ := known waiter call isCall
    exact account.returned before msg isBefore got

/-! ## Matching -/

theorem tryMatch_of_none {state : ResponseMatcher} {msg : ServerMessage}
    (rejected : state.inner.find? (·.predicate msg) = none) : state.tryMatch msg = state := by
  have noPosition : state.inner.findIdx? (·.predicate msg) = none := by
    rw [List.findIdx?_eq_none_iff]
    intro entry queued
    simpa using List.find?_eq_none.mp rejected entry queued
  unfold tryMatch
  rw [noPosition]

theorem tryMatch_of_some {state : ResponseMatcher} {msg : ServerMessage} {entry : MatcherEntry}
    (first : state.inner.find? (·.predicate msg) = some entry) :
    state.tryMatch msg =
      { state with inner := state.inner.eraseP (·.predicate msg) }.respond entry.responder msg := by
  rw [List.find?_eq_bind_findIdx?_getElem?] at first
  obtain ⟨position, isPosition, isEntry⟩ := Option.bind_eq_some_iff.mp first
  unfold tryMatch
  simp only [isPosition, isEntry, List.eraseP_eq_eraseIdx]

/-- What matching a message does when an entry accepts it: the entry leaves the queue and its
call is sent the message, which arrives if the receiver exists. -/
structure Serves (state next : ResponseMatcher) (msg : ServerMessage) (waiter : ℕ)
    (call : Waiter) : Prop where
  isCall : state.waiters waiter = some call
  registered : call.registered = true
  unsent : call.channel.senderGone = false
  accepts : call.predicate msg = true
  inner : next.inner = state.inner.eraseP (·.predicate msg)
  self : next.waiters waiter = some { call with channel := call.channel.send msg }
  others : ∀ other, other ≠ waiter → next.waiters other = state.waiters other
  registrations : next.registrations = state.registrations
  deliveries : next.deliveries = state.deliveries ++
    if call.channel.receiverGone then [] else [(waiter, msg)]

theorem Tracks.serves {state : ResponseMatcher} (tracks : state.Tracks) {msg : ServerMessage}
    {entry : MatcherEntry} (first : state.inner.find? (·.predicate msg) = some entry) :
    ∃ call, Serves state (state.tryMatch msg) msg entry.responder call := by
  obtain ⟨call, isCall, registered, unsent, same⟩ :=
    tracks.mem_queue (List.mem_of_find?_eq_some first)
  have accepts : entry.predicate msg = true := by
    simpa using List.find?_some first
  refine ⟨call, isCall, registered, unsent, same ▸ accepts, ?_, ?_, ?_, ?_, ?_⟩
  all_goals
    rw [tryMatch_of_some first]
    simp only [respond, isCall]
  · rfl
  · exact waiters_setWaiter_self ..
  · exact fun other differs => waiters_setWaiter_of_ne _ _ differs
  · rfl
  · cases call.channel.receiverGone <;> simp

namespace Serves

variable {state next : ResponseMatcher} {msg : ServerMessage} {waiter : ℕ} {call : Waiter}

theorem isQueued_eq (serves : Serves state next msg waiter call) :
    next.isQueued = fun other => state.isQueued other && decide (other ≠ waiter) := by
  funext other
  by_cases same : other = waiter
  · subst same
    rw [isQueued_of_call serves.self]
    simp [Oneshot.send]
  · simp [isQueued, serves.others other same, same]

theorem mem_deliveries (serves : Serves state next msg waiter call) (other : ℕ)
    (sent : ServerMessage) :
    (other, sent) ∈ next.deliveries ↔ (other, sent) ∈ state.deliveries ∨
      call.channel.receiverGone = false ∧ other = waiter ∧ sent = msg := by
  rw [serves.deliveries]
  cases call.channel.receiverGone <;> simp

/-- The waiter was sent nothing before. -/
theorem undelivered (serves : Serves state next msg waiter call)
    (account : state.Accounts waiter) (sent : ServerMessage) :
    (waiter, sent) ∉ state.deliveries := by
  intro delivered
  obtain ⟨served, isServed, gone, -⟩ := account.served sent delivered
  cases serves.isCall.symm.trans isServed
  exact absurd gone (by simp [serves.unsent])

theorem nodup_deliveries (serves : Serves state next msg waiter call)
    (account : state.Accounts waiter) (once : (state.deliveries.map Prod.fst).Nodup) :
    (next.deliveries.map Prod.fst).Nodup := by
  rw [serves.deliveries]
  cases call.channel.receiverGone with
  | true => simpa using once
  | false =>
      simp only [Bool.false_eq_true, if_false, List.map_append, List.map_cons, List.map_nil]
      refine List.nodup_append.mpr ⟨once, List.nodup_singleton _, ?_⟩
      intro other earlier new isNew same
      obtain ⟨⟨served, sent⟩, delivered, rfl⟩ := List.mem_map.mp earlier
      rw [List.mem_singleton.mp isNew] at same
      exact serves.undelivered account sent (same ▸ delivered)

/-- The account of the waiter that is served. -/
theorem accounts_self (serves : Serves state next msg waiter call)
    (account : state.Accounts waiter) : next.Accounts waiter := by
  refine ⟨?_, ?_, ?_, ?_⟩
  · rw [serves.registrations, account.registered, serves.self, serves.isCall]
    simp
  · intro known isKnown unregistered
    cases serves.self.symm.trans isKnown
    exact absurd unregistered (by simp [serves.registered])
  · intro sent delivered
    rcases (serves.mem_deliveries waiter sent).mp delivered with earlier | ⟨-, -, rfl⟩
    · exact absurd earlier (serves.undelivered account sent)
    · exact ⟨_, serves.self, rfl, serves.accepts⟩
  · intro known sent isKnown got
    cases serves.self.symm.trans isKnown
    refine (serves.mem_deliveries waiter sent).mpr ?_
    rcases got with value | result
    · cases gone : call.channel.receiverGone with
      | true => simp [Oneshot.send, gone] at value
      | false =>
          have isMsg : msg = sent := by simpa [Oneshot.send, gone] using value
          exact Or.inr ⟨rfl, rfl, isMsg.symm⟩
    · exact Or.inl (account.returned call sent serves.isCall (Or.inr result))

end Serves

/-- Taking out the first accepting entry takes out its waiter. -/
theorem Tracks.map_eraseP {state : ResponseMatcher} (tracks : state.Tracks) {msg : ServerMessage}
    {entry : MatcherEntry} (first : state.inner.find? (·.predicate msg) = some entry) :
    (state.inner.eraseP (·.predicate msg)).map MatcherEntry.responder =
      state.registrations.filter fun waiter =>
        state.isQueued waiter && decide (waiter ≠ entry.responder) := by
  obtain ⟨accepts, before, after, split, rejected⟩ := List.find?_eq_some_iff_append.mp first
  have erased : state.inner.eraseP (·.predicate msg) = before ++ after := by
    rw [split, List.eraseP_append_right]
    · simp [accepts]
    · intro other isBefore
      simpa using rejected other isBefore
  have distinct : ((before ++ entry :: after).map MatcherEntry.responder).Nodup := by
    rw [← split, tracks.queue]
    exact tracks.once.filter _
  rw [List.map_append, List.map_cons, List.nodup_middle, List.nodup_cons] at distinct
  have filtered : (state.inner.map MatcherEntry.responder).filter
      (fun waiter => decide (waiter ≠ entry.responder)) =
        (before ++ after).map MatcherEntry.responder := by
    rw [split, List.map_append, List.map_cons, List.filter_append, List.filter_cons,
      List.map_append]
    simp only [ne_eq, not_true_eq_false, decide_false, Bool.false_eq_true, if_false]
    rw [← List.filter_append]
    refine List.filter_eq_self.mpr fun waiter isWaiter => ?_
    refine decide_eq_true fun same => distinct.1 ?_
    exact same ▸ isWaiter
  rw [erased, ← filtered, tracks.queue, List.filter_filter]
  simp only [Bool.and_comm]

theorem Tracks.tryMatch {state : ResponseMatcher} (tracks : state.Tracks) (msg : ServerMessage) :
    (state.tryMatch msg).Tracks := by
  cases first : state.inner.find? (·.predicate msg) with
  | none =>
      rw [tryMatch_of_none first]
      exact tracks
  | some entry =>
      obtain ⟨call, serves⟩ := tracks.serves first
      have account := tracks.accounts entry.responder
      refine
        { queue := ?_
          predicates := ?_
          once := serves.registrations ▸ tracks.once
          servedOnce := serves.nodup_deliveries account tracks.servedOnce
          accounts := ?_ }
      · rw [serves.isQueued_eq, serves.inner, serves.registrations]
        exact tracks.map_eraseP first
      · intro other isOther known isKnown
        rw [serves.inner] at isOther
        have isOther := List.mem_of_mem_eraseP isOther
        by_cases same : other.responder = entry.responder
        · rw [same, serves.self] at isKnown
          cases isKnown
          exact tracks.predicates other isOther call (same ▸ serves.isCall)
        · exact tracks.predicates other isOther known ((serves.others _ same).symm.trans isKnown)
      · intro waiter
        by_cases same : waiter = entry.responder
        · subst same
          exact serves.accounts_self account
        · refine (tracks.accounts waiter).frame (serves.others waiter same)
            (by rw [serves.registrations]) fun sent => ?_
          rw [serves.mem_deliveries]
          simp [same]

theorem Tracks.step {state next : ResponseMatcher} (tracks : state.Tracks) {move : MatcherMove}
    (steps : state.step move = some next) : next.Tracks := by
  cases move with
  | waitFor waiter predicate => exact tracks.waitFor steps
  | register waiter => exact tracks.register steps
  | expire waiter => exact tracks.expire steps
  | abandon waiter => exact tracks.abandon steps
  | poll waiter => exact tracks.poll steps
  | tryMatch msg =>
      cases steps
      exact tracks.tryMatch msg
  | clear =>
      cases steps
      exact tracks.clear

/-! ## Who receives a message -/

/-- The earliest live waiter that accepts the message, found in the queue. -/
theorem Tracks.find_wants {state : ResponseMatcher} (tracks : state.Tracks) (msg : ServerMessage) :
    state.registrations.find? (state.wants msg) =
      (state.inner.find? fun entry => state.wants msg entry.responder).map
        MatcherEntry.responder := by
  have queued : ∀ waiter, state.wants msg waiter = true → state.isQueued waiter = true := by
    intro waiter wanted
    obtain ⟨call, isCall, live⟩ := (Option.any_eq_true _ _).mp wanted
    rw [isQueued_of_call isCall]
    simp only [Waiter.isLive, Bool.and_eq_true] at live ⊢
    exact live.1.1
  have inQueue : state.wants msg = fun waiter => state.isQueued waiter && state.wants msg waiter := by
    funext waiter
    cases wanted : state.wants msg waiter with
    | false => simp
    | true => simp [queued waiter wanted]
  calc state.registrations.find? (state.wants msg)
      = (state.registrations.filter state.isQueued).find? (state.wants msg) := by
        rw [List.find?_filter]
        conv_lhs => rw [inQueue]
        simp only [Bool.decide_and, Bool.decide_eq_true]
    _ = (state.inner.map MatcherEntry.responder).find? (state.wants msg) := by rw [tracks.queue]
    _ = _ := List.find?_map ..

theorem Tracks.wants_eq {state : ResponseMatcher} (tracks : state.Tracks) {msg : ServerMessage}
    {entry : MatcherEntry} (queued : entry ∈ state.inner) :
    state.wants msg entry.responder =
      (state.isLive entry.responder && entry.predicate msg) := by
  obtain ⟨call, isCall, -, -, same⟩ := tracks.mem_queue queued
  simp [wants, isLive, isCall, same]

/-- A stricter predicate finds the same entry if that entry passes it. -/
theorem find_eq_some_of_stricter {entries : List MatcherEntry} {entry : MatcherEntry}
    {predicate stricter : MatcherEntry → Bool} (first : entries.find? predicate = some entry)
    (implies : ∀ other ∈ entries, stricter other = true → predicate other = true)
    (passes : stricter entry = true) : entries.find? stricter = some entry := by
  obtain ⟨-, before, after, rfl, rejected⟩ := List.find?_eq_some_iff_append.mp first
  refine List.find?_eq_some_iff_append.mpr ⟨passes, before, after, rfl, fun other isBefore => ?_⟩
  have rejects := rejected other isBefore
  cases strict : stricter other with
  | false => rfl
  | true =>
      have accepted := implies other (List.mem_append_left _ isBefore) strict
      simp [accepted] at rejects

/-- A message is delivered right exactly if the first entry that accepts it is live. -/
theorem Tracks.delivers_iff {state : ResponseMatcher} (tracks : state.Tracks)
    (msg : ServerMessage) : state.Delivers msg ↔ state.MeetsLive msg := by
  unfold MeetsLive
  cases first : state.inner.find? (·.predicate msg) with
  | none =>
      refine iff_of_true ⟨?_, ?_⟩ (by simp)
      · have unwanted : state.registrations.find? (state.wants msg) = none := by
          rw [tracks.find_wants, Option.map_eq_none_iff, List.find?_eq_none]
          intro entry queued
          rw [tracks.wants_eq queued]
          have rejects := List.find?_eq_none.mp first entry queued
          simp [rejects]
        rw [tryMatch_of_none first, unwanted]
        simp
      · intro waiter queued unqueued
        rw [tryMatch_of_none first, queued] at unqueued
        cases unqueued
  | some entry =>
      obtain ⟨call, serves⟩ := tracks.serves first
      have isEntry := List.mem_of_find?_eq_some first
      have accepts : entry.predicate msg = true := by
        simpa using List.find?_some first
      have isLive : state.isLive entry.responder = !call.channel.receiverGone := by
        simp [ResponseMatcher.isLive, serves.isCall, Waiter.isLive, serves.registered,
          serves.unsent]
      have queued : state.isQueued entry.responder = true := by
        rw [isQueued_of_call serves.isCall, serves.registered, serves.unsent]
        rfl
      constructor
      · rintro delivers _ ⟨⟩
        refine delivers.consumers entry.responder queued ?_
        rw [serves.isQueued_eq]
        simp
      · intro meets
        have live := meets entry rfl
        have wanted : state.registrations.find? (state.wants msg) = some entry.responder := by
          rw [tracks.find_wants, find_eq_some_of_stricter first ?_ ?_]
          · rfl
          · intro other isOther wants
            rw [tracks.wants_eq isOther] at wants
            exact (Bool.and_eq_true_iff.mp wants).2
          · rw [tracks.wants_eq isEntry, live, accepts]
            rfl
        have arrives : call.channel.receiverGone = false := by
          simpa using isLive.symm.trans live
        refine ⟨?_, ?_⟩
        · rw [serves.deliveries, wanted]
          simp [arrives]
        · intro waiter isQueued unqueued
          rw [serves.isQueued_eq] at unqueued
          have isResponder : waiter = entry.responder := by
            simpa [isQueued] using unqueued
          exact isResponder ▸ live

/-! ## Runs -/

theorem guarded_deliversRight_iff {moves : List MatcherMove} {final : ResponseMatcher}
    (runs : runMoves step {} moves = some final) :
    Guarded step DeliversRight {} moves ↔ Guarded step MetAlive {} moves := by
  have same : ∀ (state : ResponseMatcher) move, state.Tracks →
      (state.DeliversRight move ↔ state.MetAlive move) := by
    intro state move tracks
    cases move with
    | tryMatch msg => exact tracks.delivers_iff msg
    | _ => exact Iff.rfl
  constructor
  · intro guarded
    exact guarded.strengthen (fun state move next tracks _ steps => tracks.step steps)
      (fun state move next tracks delivers _ => (same state move tracks).mp delivers) runs
      tracks_initial
  · intro guarded
    exact guarded.strengthen (fun state move next tracks _ steps => tracks.step steps)
      (fun state move next tracks meets _ => (same state move tracks).mpr meets) runs
      tracks_initial

/-- Along every run, no waiter is sent more than one message or one it rejects; and every
message reaches the earliest live waiter that accepts it, without being consumed by a dead one,
exactly if no message meets the entry of a dead waiter first. -/
theorem delivers_iff_metAlive {moves : List MatcherMove} {final : ResponseMatcher}
    (runs : runMoves step {} moves = some final) :
    (Guarded step DeliversRight {} moves ↔ Guarded step MetAlive {} moves) ∧
      final.ServedRight := by
  refine ⟨guarded_deliversRight_iff runs, ?_⟩
  have tracks := runMoves_preserves (fun state move next tracks steps =>
    Tracks.step tracks steps) runs tracks_initial
  exact tracks.servedRight

instance (state : ResponseMatcher) (move : MatcherMove) : Decidable (state.MetAlive move) :=
  match move with
  | .tryMatch msg => inferInstanceAs (Decidable (∀ entry ∈ state.inner.find? (·.predicate msg),
      state.isLive entry.responder = true))
  | .waitFor .. | .register .. | .expire .. | .abandon .. | .poll .. | .clear => isTrue trivial

def isDisconnected (msg : ServerMessage) : Bool :=
  decide (msg = .disconnected .terminated)

/-- Two waiters for the same message, the message, and its arrival. -/
def overlappingWaiters : List MatcherMove :=
  [.waitFor 0 isDisconnected, .waitFor 1 isDisconnected, .register 1, .register 0,
    .tryMatch (.disconnected .terminated), .poll 1, .expire 0]

/-- The waiter that registered first is the one that receives it. -/
theorem overlappingWaiters_delivers :
    ∃ final, runMoves step {} overlappingWaiters = some final ∧
      Guarded step DeliversRight {} overlappingWaiters ∧ final.ServedRight ∧
      final.deliveries = [(1, .disconnected .terminated)] := by
  have alive : Guarded step MetAlive {} overlappingWaiters := by
    decide +kernel
  have outcome : (runMoves step {} overlappingWaiters).any
      (fun final => decide (final.deliveries = [(1, .disconnected .terminated)])) = true := by
    decide +kernel
  obtain ⟨final, runs, delivered⟩ := (Option.any_eq_true _ _).mp outcome
  obtain ⟨iff, served⟩ := delivers_iff_metAlive runs
  exact ⟨final, runs, iff.mpr alive, served, of_decide_eq_true delivered⟩

/-- A waiter that times out before the message for both of them arrives. -/
def expiredWaiter : List MatcherMove :=
  [.waitFor 0 isDisconnected, .register 0, .waitFor 1 isDisconnected, .register 1, .expire 0,
    .tryMatch (.disconnected .terminated)]

/-- The dead waiter at the front swallows the message, and the live one goes without. -/
theorem expiredWaiter_swallows :
    ∃ final, runMoves step {} expiredWaiter = some final ∧ final.isLive 1 = true ∧
      final.deliveries = [] ∧ ¬ Guarded step DeliversRight {} expiredWaiter := by
  have outcome : (runMoves step {} expiredWaiter).any
      (fun final => final.isLive 1 && decide (final.deliveries = [])) = true := by
    decide +kernel
  obtain ⟨final, runs, holds⟩ := (Option.any_eq_true _ _).mp outcome
  obtain ⟨live, undelivered⟩ := Bool.and_eq_true_iff.mp holds
  refine ⟨final, runs, live, of_decide_eq_true undelivered, fun guarded => ?_⟩
  have dead : ¬ Guarded step MetAlive {} expiredWaiter := by
    decide +kernel
  exact dead ((guarded_deliversRight_iff runs).mp guarded)

end ResponseMatcher

end Signaling

end Vacs
