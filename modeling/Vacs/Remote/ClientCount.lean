import Mathlib.Algebra.Group.Nat.Defs
import Mathlib.Logic.Function.Basic
import Mathlib.Order.Basic
import Vacs.Foundations.GuardedRuns

/-!
# The number of remote clients

Every start of the remote server makes a new counter and a new token. The tasks of the
connections share the counter of the server that they belong to: they count up when they
open and down when they close. A stop cancels the token and stores 0 in the counter.

The tasks are not stopped, so those of a stopped server still count: they may open as long
as the server hands over what it has accepted, and close at any time. As long as the next
server is not started they count where the number of clients is read.

A counter, its token and its connections are a generation; the counter that is made with
the `RemoteServer` itself is generation 0.
-/

set_option autoImplicit false

namespace Vacs

namespace Remote

open GuardedRuns

/-- The number of values of a `usize`. -/
def usizeValues : ℕ := 2 ^ 64

structure Generation where
  clientCount : ℕ
  cancelled : Bool
  /-- The server listens on its address. -/
  bound : Bool
  /-- The task of the server has ended because it could not. -/
  failed : Bool
  /-- The connections that are open. -/
  connections : ℕ
  /-- The connections that were open when the server was stopped. -/
  leftOpen : ℕ
deriving DecidableEq

def Generation.new : Generation where
  clientCount := 0
  cancelled := false
  bound := false
  failed := false
  connections := 0
  leftOpen := 0

structure RemoteServer where
  /-- The token, by its generation. -/
  shutdown : Option ℕ
  /-- The counter, by its generation. -/
  clientCount : ℕ
  generations : ℕ → Generation

namespace RemoteServer

def new : RemoteServer where
  shutdown := none
  clientCount := 0
  generations := fun _ => .new

def set (server : RemoteServer) (generation : ℕ) (value : Generation) : RemoteServer :=
  { server with generations := Function.update server.generations generation value }

def isListening (server : RemoteServer) : Bool :=
  match server.shutdown with
  | some token => !(server.generations token).cancelled
  | none => false

def connectedClients (server : RemoteServer) : ℕ :=
  (server.generations server.clientCount).clientCount

def start (server : RemoteServer) : RemoteServer :=
  if server.isListening then server
  else
    { server.set (server.clientCount + 1) .new with
      shutdown := some (server.clientCount + 1)
      clientCount := server.clientCount + 1 }

def stop (server : RemoteServer) : RemoteServer :=
  match server.shutdown with
  | some token =>
      let generation := server.generations token
      let server := server.set token
        { generation with cancelled := true, leftOpen := generation.connections }
      let held := server.generations server.clientCount
      { server.set server.clientCount { held with clientCount := 0 } with shutdown := none }
  | none => server

def restart (server : RemoteServer) : RemoteServer :=
  server.stop.start

inductive Move where
  | start
  | stop
  | restart
  /-- The server of a generation gets hold of its address, or does not. -/
  | binds (generation : ℕ)
  | bindFails (generation : ℕ)
  /-- A connection of a generation counts up, or down. -/
  | opens (generation : ℕ)
  | closes (generation : ℕ)

/-- Another server is waiting for its address. -/
def Starting (server : RemoteServer) (generation : ℕ) : Prop :=
  0 < generation ∧ generation ≤ server.clientCount ∧
    (server.generations generation).bound = false ∧
    (server.generations generation).failed = false

instance (server : RemoteServer) (generation : ℕ) : Decidable (server.Starting generation) :=
  inferInstanceAs (Decidable (_ ∧ _))

/-- A connection takes up memory, so there are never as many as a `usize` has values. -/
def step (server : RemoteServer) : Move → Option RemoteServer
  | .start => some server.start
  | .stop => some server.stop
  | .restart => some server.restart
  | .binds generation =>
      let bound := server.generations generation
      if server.Starting generation then
        some (server.set generation { bound with bound := true })
      else none
  | .bindFails generation =>
      let failing := server.generations generation
      if server.Starting generation then
        some (server.set generation { failing with failed := true, cancelled := true })
      else none
  | .opens generation =>
      let opening := server.generations generation
      if opening.bound ∧ opening.connections + 1 < usizeValues then
        some (server.set generation { opening with
          clientCount := (opening.clientCount + 1) % usizeValues
          connections := opening.connections + 1 })
      else none
  | .closes generation =>
      let closing := server.generations generation
      if 0 < closing.connections then
        some (server.set generation { closing with
          clientCount := (closing.clientCount + usizeValues - 1) % usizeValues
          connections := closing.connections - 1 })
      else none

/-! ## The law and its condition -/

/-- The connections of the server that is running. -/
def runningConnections (server : RemoteServer) : ℕ :=
  match server.shutdown with
  | some token =>
      if (server.generations token).cancelled then 0 else (server.generations token).connections
  | none => 0

def Exact (server : RemoteServer) : Prop :=
  server.connectedClients = server.runningConnections

/-- The step does not take a counter below 0. -/
def NoWrap (server : RemoteServer) : Move → Prop
  | .closes generation => 0 < (server.generations generation).clientCount
  | _ => True

/-- The step takes no counter below 0, and the count is exact after it. -/
def Counts (server : RemoteServer) (move : Move) : Prop :=
  server.NoWrap move ∧ ∀ next ∈ server.step move, next.Exact

/-- No connection of a stopped server opens before the next start, and none closes unless
there are more than when the server was stopped. -/
def InTime (server : RemoteServer) : Move → Prop
  | .opens generation => generation = server.clientCount → server.isListening
  | .closes generation =>
      (server.generations generation).leftOpen < (server.generations generation).connections
  | _ => True

instance (server : RemoteServer) : ∀ move, Decidable (server.InTime move)
  | .start => isTrue trivial
  | .stop => isTrue trivial
  | .restart => isTrue trivial
  | .binds _ => isTrue trivial
  | .bindFails _ => isTrue trivial
  | .opens _ => inferInstanceAs (Decidable (_ → _))
  | .closes _ => inferInstanceAs (Decidable (_ < _))

end RemoteServer

/-! ## The invariant -/

/-- The counter leaves out the connections that were open when it was reset. -/
structure Generation.Sound (generation : Generation) : Prop where
  counted : generation.clientCount + generation.leftOpen = generation.connections
  bounded : generation.connections < usizeValues
  unbound : generation.bound = false → generation.connections = 0

/-- What a counter that is read has to be, depending on whether its server is running. -/
def Generation.Fits (generation : Generation) (running : Bool) : Prop :=
  if running then generation.leftOpen = 0 else generation.clientCount = 0

theorem Generation.new_sound : Generation.new.Sound :=
  ⟨rfl, Nat.two_pow_pos 64, fun _ => rfl⟩

namespace RemoteServer

structure Sound (server : RemoteServer) : Prop where
  token : ∀ token, server.shutdown = some token → token = server.clientCount
  generations : ∀ generation, (server.generations generation).Sound
  held : (server.generations server.clientCount).Fits server.isListening

theorem new_sound : new.Sound where
  token := fun _ held => absurd held (Option.some_ne_none _).symm
  generations := fun _ => Generation.new_sound
  held := rfl

section Steps

variable {server next : RemoteServer} {generation : ℕ} {value : Generation}

theorem isListening_eq
    (token : ∀ token, server.shutdown = some token → token = server.clientCount) :
    server.isListening =
      (server.shutdown.isSome && !(server.generations server.clientCount).cancelled) := by
  unfold isListening
  cases held : server.shutdown with
  | none => rfl
  | some held' => rw [token held' held]; rfl

theorem runningConnections_eq
    (token : ∀ token, server.shutdown = some token → token = server.clientCount) :
    server.runningConnections =
      if server.isListening then (server.generations server.clientCount).connections else 0 := by
  rw [isListening_eq token, runningConnections]
  cases held : server.shutdown with
  | none => rfl
  | some held' =>
      rw [token held' held]
      cases cancelled : (server.generations server.clientCount).cancelled <;> simp [cancelled]

theorem Sound.exact (sound : server.Sound) : server.Exact := by
  have counted := (sound.generations server.clientCount).counted
  have held := sound.held
  rw [Exact, runningConnections_eq sound.token, connectedClients]
  cases listening : server.isListening with
  | true =>
      rw [listening] at held
      have stays : (server.generations server.clientCount).leftOpen = 0 := held
      rw [if_pos rfl]
      omega
  | false =>
      rw [listening] at held
      exact held

theorem set_self : (server.set generation value).generations generation = value :=
  Function.update_self ..

theorem set_of_ne {other : ℕ} (ne : other ≠ generation) :
    (server.set generation value).generations other = server.generations other :=
  Function.update_of_ne ne ..

theorem set_isListening (same : value.cancelled = (server.generations generation).cancelled) :
    (server.set generation value).isListening = server.isListening := by
  unfold isListening
  cases shutdown : server.shutdown with
  | none => simp [RemoteServer.set, shutdown]
  | some token =>
      simp only [RemoteServer.set, shutdown]
      by_cases held : token = generation
      · rw [held, Function.update_self, same]
      · rw [Function.update_of_ne held]

theorem Exact.silent (exact : server.Exact)
    (token : ∀ token, server.shutdown = some token → token = server.clientCount)
    (silent : server.isListening = false) : server.connectedClients = 0 := by
  rw [Exact, runningConnections_eq token, silent] at exact
  exact exact

theorem set_generations (sound : value.Sound)
    (others : ∀ generation, (server.generations generation).Sound) (other : ℕ) :
    ((server.set generation value).generations other).Sound := by
  by_cases same : other = generation
  · rw [same, set_self]
    exact sound
  · rw [set_of_ne same]
    exact others other

/-- The generation that is read is replaced, or another one is read from now on. -/
theorem sound_of_held {shutdown : Option ℕ}
    (generations : ∀ generation, (server.generations generation).Sound) (sound : value.Sound)
    (token : ∀ token, shutdown = some token → token = generation)
    (held : value.Fits (shutdown.isSome && !value.cancelled)) :
    Sound { server.set generation value with shutdown, clientCount := generation } where
  token := token
  generations := set_generations sound generations
  held := by
    rw [isListening_eq token]
    simp only [set_self]
    exact held

/-- A generation is replaced by one that keeps its part of the invariant. -/
theorem Sound.set (sound : server.Sound) (valueSound : value.Sound)
    (held : generation = server.clientCount →
      value.Fits (server.shutdown.isSome && !value.cancelled)) :
    (server.set generation value).Sound := by
  by_cases same : generation = server.clientCount
  · subst same
    exact sound_of_held sound.generations valueSound sound.token (held rfl)
  · refine ⟨sound.token, set_generations valueSound sound.generations, ?_⟩
    have kept : (server.set generation value).generations server.clientCount =
        server.generations server.clientCount := set_of_ne (Ne.symm same)
    have listens : (server.set generation value).isListening =
        (server.shutdown.isSome &&
          !((server.set generation value).generations server.clientCount).cancelled) :=
      isListening_eq sound.token
    rw [kept, ← isListening_eq sound.token] at listens
    rw [listens]
    exact kept.symm ▸ sound.held

theorem Sound.start (sound : server.Sound) : server.start.Sound := by
  unfold RemoteServer.start
  split_ifs with listening
  · exact sound
  · exact sound_of_held sound.generations Generation.new_sound
      (fun token held => (Option.some.inj held).symm) rfl

theorem Sound.stop (sound : server.Sound) : server.stop.Sound := by
  unfold RemoteServer.stop
  cases shutdown : server.shutdown with
  | none => exact sound
  | some token =>
      have same := sound.token token shutdown
      have held := sound.generations server.clientCount
      subst same
      simp only [RemoteServer.set, Function.update_self, Function.update_idem]
      exact sound_of_held sound.generations ⟨Nat.zero_add _, held.bounded, held.unbound⟩
        (fun token held => absurd held (Option.some_ne_none _).symm) rfl

/-! ## The condition is exact -/

theorem fits_of_held (sound : server.Sound) (held : generation = server.clientCount) :
    (server.generations generation).Fits
      (server.shutdown.isSome && !(server.generations generation).cancelled) := by
  subst held
  rw [← isListening_eq sound.token]
  exact sound.held

theorem Sound.step (sound : server.Sound) {move : Move} (inTime : server.InTime move)
    (steps : server.step move = some next) : next.Sound := by
  cases move with
  | start => exact Option.some.inj steps ▸ sound.start
  | stop => exact Option.some.inj steps ▸ sound.stop
  | restart => exact Option.some.inj steps ▸ sound.stop.start
  | binds generation =>
      obtain ⟨_, ⟨⟩⟩ := Option.ite_none_right_eq_some.mp steps
      obtain ⟨counted, bounded, _⟩ := sound.generations generation
      exact sound.set ⟨counted, bounded, fun unbound => Bool.noConfusion unbound⟩
        (fits_of_held sound)
  | bindFails generation =>
      obtain ⟨⟨_, _, waiting, _⟩, ⟨⟩⟩ := Option.ite_none_right_eq_some.mp steps
      obtain ⟨counted, bounded, unbound⟩ := sound.generations generation
      refine sound.set ⟨counted, bounded, unbound⟩ fun _ => ?_
      have none := unbound waiting
      simp only [Generation.Fits, Bool.not_true, Bool.and_false, Bool.false_eq_true, if_false]
      omega
  | opens generation =>
      obtain ⟨⟨bound, room⟩, ⟨⟩⟩ := Option.ite_none_right_eq_some.mp steps
      obtain ⟨counted, bounded, unbound⟩ := sound.generations generation
      have added : ((server.generations generation).clientCount + 1) % usizeValues =
          (server.generations generation).clientCount + 1 := Nat.mod_eq_of_lt (by omega)
      refine sound.set ⟨by simp only [added]; omega, room, fun waiting => by simp_all⟩
        fun held => ?_
      have fits := fits_of_held sound held
      have listening := inTime held
      rw [isListening_eq sound.token, ← held] at listening
      rw [listening] at fits ⊢
      exact fits
  | closes generation =>
      obtain ⟨_, ⟨⟩⟩ := Option.ite_none_right_eq_some.mp steps
      obtain ⟨counted, bounded, unbound⟩ := sound.generations generation
      have later : (server.generations generation).leftOpen <
        (server.generations generation).connections := inTime
      have taken : ((server.generations generation).clientCount + usizeValues - 1) %
          usizeValues = (server.generations generation).clientCount - 1 := by
        rw [Nat.sub_add_comm (by omega), Nat.add_mod_right]
        exact Nat.mod_eq_of_lt (by omega)
      refine sound.set ⟨by simp only [taken]; omega, by simp only; omega,
        fun waiting => by simp only; have := unbound waiting; omega⟩ fun held => ?_
      have fits := fits_of_held sound held
      unfold Generation.Fits at fits ⊢
      split_ifs at fits ⊢
      · exact fits
      · omega

theorem inTime_iff_counts (sound : server.Sound) {move : Move}
    (steps : server.step move = some next) : server.InTime move ↔ server.Counts move := by
  constructor
  · intro inTime
    refine ⟨?_, fun other isNext => ?_⟩
    · cases move with
      | closes generation =>
          have counted := (sound.generations generation).counted
          simp only [InTime, NoWrap] at inTime ⊢
          omega
      | _ => trivial
    · cases Option.some.inj (steps.symm.trans isNext)
      exact (sound.step inTime steps).exact
  · rintro ⟨noWrap, exactly⟩
    cases move with
    | closes generation =>
        have counted := (sound.generations generation).counted
        simp only [InTime, NoWrap] at noWrap ⊢
        omega
    | opens generation =>
        -- A server that does not run has a count of 0 before, and of 1 after the step.
        intro held
        subst held
        have exact := exactly next steps
        obtain ⟨_, ⟨⟩⟩ := Option.ite_none_right_eq_some.mp steps
        cases silent : server.isListening with
        | true => rfl
        | false =>
            have before : server.connectedClients = 0 := sound.exact.silent sound.token silent
            have after := exact.silent sound.token (by rw [set_isListening, silent]; rfl)
            rw [connectedClients] at before after
            simp [RemoteServer.set, before, usizeValues] at after
    | _ => trivial

end Steps

/-- The count is exact, and no counter is taken below 0, in exactly those runs in which no
connection of a stopped server opens before the next start, and none closes unless there
are more than when the server was stopped. -/
theorem count_exact_iff {moves : List Move} {final : RemoteServer}
    (runs : runMoves step new moves = some final) :
    Guarded step Counts new moves ↔ Guarded step InTime new moves :=
  (guarded_iff (fun _ _ _ sound steps => inTime_iff_counts sound steps)
    (fun _ _ _ sound inTime steps => sound.step inTime steps) runs new_sound).symm

theorem count_exact_iff_restarted :
    Guarded step Counts new [.start, .binds 1, .opens 1, .opens 1, .closes 1, .closes 1, .restart,
      .binds 2, .opens 2] := by
  have runs : (runMoves step new [.start, .binds 1, .opens 1, .opens 1, .closes 1, .closes 1,
      .restart, .binds 2, .opens 2]).isSome := by decide +kernel
  obtain ⟨final, runs⟩ := Option.isSome_iff_exists.mp runs
  exact (count_exact_iff runs).mpr (by decide +kernel)

/-- A client whose connection closes after the server has been stopped takes the counter
below 0. -/
theorem count_wraps_after_stop :
    ¬ ∀ (moves : List Move) (final : RemoteServer), runMoves step new moves = some final →
      Guarded step Counts new moves := by
  intro always
  have wraps : (runMoves step new ([.start, .binds 1, .opens 1, .stop] ++ [.closes 1])).map
      (fun final => (final.connectedClients, final.runningConnections)) =
      some (2 ^ 64 - 1, 0) := by decide +kernel
  obtain ⟨final, runs, counted⟩ := Option.map_eq_some_iff.mp wraps
  obtain ⟨connectedClients, runningConnections⟩ := Prod.mk.inj counted
  obtain ⟨before, -, steps, law⟩ := (always _ final runs).last runs
  have exact : final.connectedClients = final.runningConnections := law.2 final steps
  rw [connectedClients, runningConnections] at exact
  exact absurd exact (by decide)

end RemoteServer

end Remote

end Vacs
