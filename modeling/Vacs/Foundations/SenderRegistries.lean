import Mathlib.Data.List.Basic

/-!
# Fanning out to unbounded channels

A registry holds the senders of unbounded channels and sends every event to all of them. A
sender whose receiver is gone is dropped from the registry on the occasion. A channel can have
other senders as well, which send to this channel alone.

No event is lost: a channel that is open has received every event since it was registered, in
order and once (`Registered.fanned`).
-/

set_option autoImplicit false

namespace Vacs

structure FanChannel (Event : Type) where
  pending : List Event := []
  closed : Bool := false
  /-- How many events had been fanned out when the channel was registered. -/
  since : Option ℕ := none
  /-- All events that were sent on the channel. -/
  sent : List Event := []
  /-- Those that came from the registry. -/
  fanned : List Event := []

namespace FanChannel

variable {Event : Type}

def push (channel : FanChannel Event) (event : Event) : FanChannel Event :=
  { channel with pending := channel.pending ++ [event], sent := channel.sent ++ [event] }

def fan (channel : FanChannel Event) (event : Event) : FanChannel Event :=
  { channel.push event with fanned := channel.fanned ++ [event] }

end FanChannel

structure SenderRegistry (Event : Type) where
  /-- The channels, by number; numbers from `created` on are free. -/
  channels : ℕ → FanChannel Event := fun _ => {}
  created : ℕ := 0
  senders : List ℕ := []
  /-- All events that were fanned out. -/
  log : List Event := []

namespace SenderRegistry

variable {Event : Type}

def setChannel (registry : SenderRegistry Event) (index : ℕ) (channel : FanChannel Event) :
    SenderRegistry Event :=
  { registry with
    channels := fun other => if other = index then channel else registry.channels other }

/-- A new channel. -/
def create (registry : SenderRegistry Event) : SenderRegistry Event :=
  { registry with created := registry.created + 1 }

/-- Add a channel, and drop the senders whose receivers are gone. -/
def register (registry : SenderRegistry Event) (index : ℕ) : SenderRegistry Event :=
  { registry.setChannel index
      { registry.channels index with since := some registry.log.length } with
    senders := (registry.senders.filter fun sender => !(registry.channels sender).closed) ++
      [index] }

/-- The receiver of a channel is dropped. -/
def close (registry : SenderRegistry Event) (index : ℕ) : SenderRegistry Event :=
  registry.setChannel index { registry.channels index with closed := true }

/-- Another sender of a channel sends an event. -/
def push (registry : SenderRegistry Event) (index : ℕ) (event : Event) : SenderRegistry Event :=
  registry.setChannel index ((registry.channels index).push event)

/-- The receiver of a channel takes an event. -/
def pop (registry : SenderRegistry Event) (index : ℕ) : Option (Event × SenderRegistry Event) :=
  match (registry.channels index).pending with
  | [] => none
  | event :: pending =>
      some (event, registry.setChannel index { registry.channels index with pending })

/-- Send an event to every channel, keeping the senders for which that succeeds. -/
def send (registry : SenderRegistry Event) (event : Event) : SenderRegistry Event :=
  { registry with
    channels := fun index =>
      if index ∈ registry.senders ∧ (registry.channels index).closed = false then
        (registry.channels index).fan event
      else registry.channels index
    senders := registry.senders.filter fun sender => !(registry.channels sender).closed
    log := registry.log ++ [event] }

/-- Send events one after the other. -/
def sendAll (registry : SenderRegistry Event) (events : List Event) : SenderRegistry Event :=
  events.foldl send registry

theorem log_sendAll (registry : SenderRegistry Event) (events : List Event) :
    (registry.sendAll events).log = registry.log ++ events := by
  induction events generalizing registry with
  | nil => exact (List.append_nil _).symm
  | cons event events ih =>
      rw [sendAll, List.foldl_cons, ← sendAll, ih, send, List.append_assoc, List.singleton_append]

/-! ## What a channel receives -/

/-- The account of a channel. -/
structure Registered (registry : SenderRegistry Event) (index : ℕ) : Prop where
  fresh : registry.created ≤ index → registry.channels index = {} ∧ index ∉ registry.senders
  /-- While the receiver is there, a registered channel has received every event since. -/
  fanned : ∀ since, (registry.channels index).since = some since →
    (registry.channels index).closed = false →
    index ∈ registry.senders ∧ since ≤ registry.log.length ∧
      (registry.channels index).fanned = registry.log.drop since
  unregistered : (registry.channels index).since = none →
    index ∉ registry.senders ∧ (registry.channels index).fanned = []

variable {registry : SenderRegistry Event} {index : ℕ}

theorem registered_new (index : ℕ) : (({} : SenderRegistry Event)).Registered index where
  fresh _ := ⟨rfl, List.not_mem_nil⟩
  fanned _ isSince := nomatch isSince
  unregistered _ := ⟨List.not_mem_nil, rfl⟩

theorem Registered.create (registered : registry.Registered index) :
    registry.create.Registered index where
  fresh isFree := registered.fresh (Nat.le_of_succ_le isFree)
  fanned := registered.fanned
  unregistered := registered.unregistered

theorem Registered.send (registered : registry.Registered index) (event : Event) :
    (registry.send event).Registered index := by
  have kept : index ∈ (registry.send event).senders ↔
      index ∈ registry.senders ∧ (registry.channels index).closed = false := by
    rw [SenderRegistry.send, List.mem_filter, Bool.not_eq_true']
  by_cases receives : index ∈ registry.senders ∧ (registry.channels index).closed = false
  · have channel : (registry.send event).channels index = (registry.channels index).fan event :=
      if_pos receives
    refine ⟨fun isFree => absurd receives.1 (registered.fresh isFree).2, ?_, ?_⟩
    · intro since isSince _
      rw [channel] at isSince ⊢
      obtain ⟨-, inLog, fanned⟩ := registered.fanned since isSince receives.2
      refine ⟨kept.mpr receives, ?_, ?_⟩
      · rw [SenderRegistry.send, List.length_append]
        exact Nat.le_add_right_of_le inLog
      · rw [SenderRegistry.send, List.drop_append_of_le_length inLog, ← fanned]
        rfl
    · intro none
      rw [channel] at none
      exact absurd receives.1 (registered.unregistered none).1
  · have channel : (registry.send event).channels index = registry.channels index :=
      if_neg receives
    refine ⟨fun isFree => ?_, ?_, ?_⟩
    · rw [channel, kept]
      exact ⟨(registered.fresh isFree).1, receives⟩
    · intro since isSince isOpen
      rw [channel] at isSince isOpen
      exact absurd ⟨(registered.fanned since isSince isOpen).1, isOpen⟩ receives
    · intro none
      rw [channel] at none ⊢
      rw [kept]
      exact ⟨receives, (registered.unregistered none).2⟩

theorem Registered.sendAll (registered : registry.Registered index) (events : List Event) :
    (registry.sendAll events).Registered index := by
  induction events generalizing registry with
  | nil => exact registered
  | cons event events ih => exact ih (registered.send event)

/-- An operation on channels that leaves what was fanned out as it is. -/
theorem Registered.setChannel (registered : registry.Registered index) {other : ℕ}
    (created : other < registry.created) {channel : FanChannel Event}
    (since : channel.since = (registry.channels other).since)
    (fanned : channel.fanned = (registry.channels other).fanned)
    (closed : (registry.channels other).closed = true → channel.closed = true) :
    (registry.setChannel other channel).Registered index := by
  by_cases same : index = other
  · subst same
    have isChannel : (registry.setChannel index channel).channels index = channel := if_pos rfl
    refine ⟨fun isFree => absurd created (Nat.not_lt.mpr isFree), ?_, ?_⟩
    · intro start isSince isOpen
      rw [isChannel] at isSince isOpen ⊢
      have wasOpen : (registry.channels index).closed = false := by
        refine eq_false_of_ne_true fun wasClosed => ?_
        rw [closed wasClosed] at isOpen
        cases isOpen
      rw [fanned]
      exact registered.fanned start (since ▸ isSince) wasOpen
    · intro none
      rw [isChannel] at none ⊢
      rw [fanned]
      exact registered.unregistered (since ▸ none)
  · have isChannel : (registry.setChannel other channel).channels index = registry.channels index :=
      if_neg same
    refine ⟨fun isFree => ?_, ?_, ?_⟩
    · rw [isChannel]
      exact registered.fresh isFree
    · rw [isChannel]
      exact registered.fanned
    · rw [isChannel]
      exact registered.unregistered

theorem Registered.register (registered : registry.Registered index) {other : ℕ}
    (created : other < registry.created) (isNew : (registry.channels other).since = none)
    (account : registry.Registered other) : (registry.register other).Registered index := by
  have kept : index ≠ other → (index ∈ (registry.register other).senders ↔
      index ∈ registry.senders ∧ (registry.channels index).closed = false) := by
    intro apart
    rw [SenderRegistry.register, List.mem_append, List.mem_filter, Bool.not_eq_true',
      List.mem_singleton, or_iff_left apart]
  by_cases same : index = other
  · subst same
    have isChannel : (registry.register index).channels index =
        { registry.channels index with since := some registry.log.length } := if_pos rfl
    refine ⟨fun isFree => absurd created (Nat.not_lt.mpr isFree), ?_, ?_⟩
    · intro since isSince isOpen
      rw [isChannel] at isSince ⊢
      cases isSince
      refine ⟨List.mem_append_right _ (List.mem_singleton_self index), Nat.le_refl _, ?_⟩
      change (registry.channels index).fanned = registry.log.drop registry.log.length
      rw [(account.unregistered isNew).2, List.drop_length]
    · intro none
      rw [isChannel] at none
      cases none
  · have isChannel : (registry.register other).channels index = registry.channels index :=
      if_neg same
    refine ⟨fun isFree => ?_, ?_, ?_⟩
    · rw [isChannel, kept same]
      exact ⟨(registered.fresh isFree).1, fun both => (registered.fresh isFree).2 both.1⟩
    · intro since isSince isOpen
      rw [isChannel] at isSince isOpen ⊢
      obtain ⟨isSender, fanned⟩ := registered.fanned since isSince isOpen
      exact ⟨(kept same).mpr ⟨isSender, isOpen⟩, fanned⟩
    · intro none
      rw [isChannel] at none ⊢
      rw [kept same]
      exact ⟨fun both => (registered.unregistered none).1 both.1, (registered.unregistered none).2⟩

/-- A new channel is registered at once. -/
theorem Registered.subscribe (registered : ∀ index, registry.Registered index) (index : ℕ) :
    (registry.create.register registry.created).Registered index := by
  refine (registered index).create.register (Nat.lt_succ_self _) ?_ (registered _).create
  exact congrArg FanChannel.since ((registered _).fresh (Nat.le_refl _)).1

/-! ## What is taken from a channel -/

/-- The receiver of a channel is there and has taken these events. -/
structure Taken (registry : SenderRegistry Event) (index : ℕ) (taken : List Event) : Prop where
  created : index < registry.created
  isOpen : (registry.channels index).closed = false
  sent : (registry.channels index).sent = taken ++ (registry.channels index).pending

variable {taken : List Event}

theorem taken_create (registered : registry.Registered registry.created) :
    registry.create.Taken registry.created [] := by
  have fresh := (registered.fresh (Nat.le_refl _)).1
  refine ⟨Nat.lt_succ_self _, ?_, ?_⟩
  · exact congrArg FanChannel.closed fresh
  · exact (congrArg FanChannel.sent fresh).trans (congrArg FanChannel.pending fresh).symm

theorem Taken.create (isTaken : registry.Taken index taken) : registry.create.Taken index taken :=
  ⟨Nat.lt_succ_of_lt isTaken.created, isTaken.isOpen, isTaken.sent⟩

theorem Taken.send (isTaken : registry.Taken index taken) (event : Event) :
    (registry.send event).Taken index taken := by
  refine ⟨isTaken.created, ?_, ?_⟩
  · simp only [SenderRegistry.send]
    split <;> exact isTaken.isOpen
  · simp only [SenderRegistry.send]
    split
    · simp only [FanChannel.fan, FanChannel.push]
      rw [isTaken.sent, List.append_assoc]
    · exact isTaken.sent

theorem Taken.sendAll (isTaken : registry.Taken index taken) (events : List Event) :
    (registry.sendAll events).Taken index taken := by
  induction events generalizing registry with
  | nil => exact isTaken
  | cons event events ih => exact ih (isTaken.send event)

theorem Taken.setChannel (isTaken : registry.Taken index taken) {other : ℕ}
    (apart : index ≠ other) (channel : FanChannel Event) :
    (registry.setChannel other channel).Taken index taken := by
  have isChannel : (registry.setChannel other channel).channels index = registry.channels index :=
    if_neg apart
  refine ⟨isTaken.created, ?_, ?_⟩
  · rw [isChannel]
    exact isTaken.isOpen
  · rw [isChannel]
    exact isTaken.sent

theorem Taken.register (isTaken : registry.Taken index taken) (other : ℕ) :
    (registry.register other).Taken index taken := by
  by_cases same : index = other
  · subst same
    have isChannel : (registry.register index).channels index =
        { registry.channels index with since := some registry.log.length } := if_pos rfl
    refine ⟨isTaken.created, ?_, ?_⟩
    · rw [isChannel]
      exact isTaken.isOpen
    · rw [isChannel]
      exact isTaken.sent
  · have isTaken := isTaken.setChannel same
      { registry.channels other with since := some registry.log.length }
    exact ⟨isTaken.created, isTaken.isOpen, isTaken.sent⟩

theorem Taken.push (isTaken : registry.Taken index taken) (event : Event) :
    (registry.push index event).Taken index taken := by
  have isChannel : (registry.push index event).channels index =
      (registry.channels index).push event := if_pos rfl
  refine ⟨isTaken.created, ?_, ?_⟩
  · rw [isChannel]
    exact isTaken.isOpen
  · rw [isChannel, FanChannel.push, isTaken.sent, List.append_assoc]

theorem pop_eq_some {event : Event} {next : SenderRegistry Event}
    (pops : registry.pop index = some (event, next)) :
    ∃ pending, (registry.channels index).pending = event :: pending ∧
      next = registry.setChannel index { registry.channels index with pending } := by
  unfold pop at pops
  split at pops
  · cases pops
  · next pending isPending =>
      cases pops
      exact ⟨_, isPending, rfl⟩

theorem Taken.pop (isTaken : registry.Taken index taken) {event : Event}
    {next : SenderRegistry Event} (pops : registry.pop index = some (event, next)) :
    next.Taken index (taken ++ [event]) := by
  obtain ⟨pending, isPending, rfl⟩ := pop_eq_some pops
  have isChannel : (registry.setChannel index { registry.channels index with pending }).channels
      index = { registry.channels index with pending } := if_pos rfl
  refine ⟨isTaken.created, ?_, ?_⟩
  · rw [isChannel]
    exact isTaken.isOpen
  · rw [isChannel, isTaken.sent, isPending, List.append_assoc, List.singleton_append]

/-! ## Other senders -/

/-- The events of a kind are those that come from the registry. -/
def FansOut (registry : SenderRegistry Event) (kind : Event → Bool) : Prop :=
  ∀ index, (registry.channels index).sent.filter kind = (registry.channels index).fanned

variable {kind : Event → Bool}

theorem FansOut.setChannel (fansOut : registry.FansOut kind) {channel : FanChannel Event}
    (same : channel.sent.filter kind = channel.fanned) :
    (registry.setChannel index channel).FansOut kind := by
  intro other
  simp only [SenderRegistry.setChannel]
  split
  · exact same
  · exact fansOut other

theorem FansOut.create (fansOut : registry.FansOut kind) : registry.create.FansOut kind :=
  fansOut

theorem FansOut.register (fansOut : registry.FansOut kind) (index : ℕ) :
    (registry.register index).FansOut kind := by
  have registered : (registry.setChannel index
      { registry.channels index with since := some registry.log.length }).FansOut kind :=
    fansOut.setChannel (fansOut index)
  exact registered

theorem FansOut.send (fansOut : registry.FansOut kind) {event : Event} (isKind : kind event = true) :
    (registry.send event).FansOut kind := by
  intro index
  simp only [SenderRegistry.send]
  split
  · rw [FanChannel.fan, FanChannel.push, List.filter_append, List.filter_singleton, isKind, cond_true,
      fansOut index]
  · exact fansOut index

theorem FansOut.sendAll (fansOut : registry.FansOut kind) {events : List Event}
    (areKind : ∀ event ∈ events, kind event = true) : (registry.sendAll events).FansOut kind := by
  induction events generalizing registry with
  | nil => exact fansOut
  | cons event events ih =>
      exact ih (fansOut.send (areKind event (List.mem_cons_self ..))) fun other isThere =>
        areKind other (List.mem_cons_of_mem _ isThere)

theorem FansOut.push (fansOut : registry.FansOut kind) {event : Event}
    (isOther : kind event = false) : (registry.push index event).FansOut kind := by
  refine fansOut.setChannel ?_
  rw [FanChannel.push, List.filter_append, List.filter_singleton, isOther, cond_false,
    List.append_nil]
  exact fansOut index

end SenderRegistry

end Vacs
