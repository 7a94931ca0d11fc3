import Mathlib.Data.Nat.Notation
import Mathlib.Data.Option.Basic

/-!
# Runs of a machine under a guard

A machine takes moves one after the other; a move that is not enabled has no
result. `runMoves` carries out a list of moves. `Guarded` says that every move of
a run satisfies a guard in the state in which it is taken. An invariant that
every guarded move keeps holds at the end of every guarded run.

A round of moves that is repeated is run through by `runMoves_rounds`.

For a loop over a list, `foldl_pending` is the rule for an invariant that speaks of
the elements still ahead.
-/

set_option autoImplicit false

namespace GuardedRuns

variable {State Move : Type} (step : State → Move → Option State)

/-- Carry out moves one after the other. -/
def runMoves : State → List Move → Option State
  | state, [] => some state
  | state, move :: moves => (step state move).bind fun next => runMoves next moves

/-- Every move satisfies the guard in the state in which it is taken. -/
def Guarded (guard : State → Move → Prop) : State → List Move → Prop
  | _, [] => True
  | state, move :: moves => guard state move ∧ ∀ next ∈ step state move, Guarded guard next moves

instance decidableGuarded (guard : State → Move → Prop) [∀ state move, Decidable (guard state move)] :
    ∀ (state : State) (moves : List Move), Decidable (Guarded step guard state moves)
  | _, [] => isTrue trivial
  | state, move :: moves =>
      have (next : State) : Decidable (Guarded step guard next moves) :=
        decidableGuarded guard next moves
      inferInstanceAs (Decidable (guard state move ∧ ∀ next ∈ step state move,
        Guarded step guard next moves))

variable {step}

/-- An invariant that guarded moves keep holds after a guarded run. -/
theorem Guarded.preserves {guard : State → Move → Prop} {invariant : State → Prop}
    (kept : ∀ state move next, invariant state → guard state move →
      step state move = some next → invariant next)
    {moves : List Move} {start final : State} (guarded : Guarded step guard start moves)
    (runs : runMoves step start moves = some final) (initially : invariant start) :
    invariant final := by
  induction moves generalizing start with
  | nil =>
      cases runs
      exact initially
  | cons move moves ih =>
      obtain ⟨next, steps, runs⟩ := Option.bind_eq_some_iff.mp runs
      exact ih (guarded.2 next steps) runs (kept start move next initially guarded.1 steps)

/-- An invariant that every move keeps holds after every run. -/
theorem runMoves_preserves {invariant : State → Prop}
    (kept : ∀ state move next, invariant state → step state move = some next → invariant next)
    {moves : List Move} {start final : State} (runs : runMoves step start moves = some final)
    (initially : invariant start) : invariant final := by
  induction moves generalizing start with
  | nil =>
      cases runs
      exact initially
  | cons move moves ih =>
      obtain ⟨next, steps, runs⟩ := Option.bind_eq_some_iff.mp runs
      exact ih runs (kept start move next initially steps)

/-- A guard that an invariant gives to every guarded move holds along the run. -/
theorem Guarded.strengthen {guard stronger : State → Move → Prop} {invariant : State → Prop}
    (kept : ∀ state move next, invariant state → guard state move →
      step state move = some next → invariant next)
    (gives : ∀ state move next, invariant state → guard state move →
      step state move = some next → stronger state move)
    {moves : List Move} {start final : State} (guarded : Guarded step guard start moves)
    (runs : runMoves step start moves = some final) (initially : invariant start) :
    Guarded step stronger start moves := by
  induction moves generalizing start with
  | nil => trivial
  | cons move moves ih =>
      obtain ⟨next, steps, runs⟩ := Option.bind_eq_some_iff.mp runs
      refine ⟨gives start move next initially guarded.1 steps, fun other isNext => ?_⟩
      cases Option.some.inj (steps.symm.trans isNext)
      exact ih (guarded.2 next steps) runs (kept start move next initially guarded.1 steps)

/-- Two guards that agree on the moves from states with an invariant, which these moves
keep, hold along the same runs. -/
theorem guarded_iff {guard law : State → Move → Prop} {invariant : State → Prop}
    (agree : ∀ state move next, invariant state → step state move = some next →
      (guard state move ↔ law state move))
    (kept : ∀ state move next, invariant state → guard state move →
      step state move = some next → invariant next)
    {moves : List Move} {start final : State} (runs : runMoves step start moves = some final)
    (initially : invariant start) :
    Guarded step guard start moves ↔ Guarded step law start moves := by
  induction moves generalizing start with
  | nil => exact Iff.rfl
  | cons move moves ih =>
      obtain ⟨next, steps, runs⟩ := Option.bind_eq_some_iff.mp runs
      have same := agree start move next initially steps
      constructor
      · rintro ⟨first, rest⟩
        refine ⟨same.mp first, fun other isNext => ?_⟩
        cases Option.some.inj (steps.symm.trans isNext)
        exact (ih runs (kept start move next initially first steps)).mp (rest next steps)
      · rintro ⟨first, rest⟩
        have allowed := same.mpr first
        refine ⟨allowed, fun other isNext => ?_⟩
        cases Option.some.inj (steps.symm.trans isNext)
        exact (ih runs (kept start move next initially allowed steps)).mpr (rest next steps)

theorem runMoves_append (start : State) (earlier later : List Move) :
    runMoves step start (earlier ++ later) =
      (runMoves step start earlier).bind fun state => runMoves step state later := by
  induction earlier generalizing start with
  | nil => rfl
  | cons move moves ih =>
      rw [List.cons_append, runMoves, runMoves, Option.bind_assoc]
      exact Option.bind_congr fun next _ => ih next

theorem Guarded.append {guard : State → Move → Prop} {start middle : State}
    {earlier later : List Move} (runs : runMoves step start earlier = some middle)
    (guarded : Guarded step guard start earlier) (guardedLater : Guarded step guard middle later) :
    Guarded step guard start (earlier ++ later) := by
  induction earlier generalizing start with
  | nil =>
      cases runs
      exact guardedLater
  | cons move moves ih =>
      obtain ⟨next, steps, runs⟩ := Option.bind_eq_some_iff.mp runs
      refine ⟨guarded.1, fun other isNext => ?_⟩
      cases Option.some.inj (steps.symm.trans isNext)
      exact ih runs (guarded.2 next steps)

/-- The later moves of a guarded run, from the state that the earlier ones lead to. -/
theorem Guarded.later {guard : State → Move → Prop} {start middle : State}
    {earlier later : List Move} (guarded : Guarded step guard start (earlier ++ later))
    (runs : runMoves step start earlier = some middle) : Guarded step guard middle later := by
  induction earlier generalizing start with
  | nil =>
      cases runs
      exact guarded
  | cons move moves ih =>
      obtain ⟨next, steps, runs⟩ := Option.bind_eq_some_iff.mp runs
      exact ih (guarded.2 next steps) runs

/-- The last move of a guarded run. -/
theorem Guarded.last {guard : State → Move → Prop} {start final : State} {earlier : List Move}
    {move : Move} (guarded : Guarded step guard start (earlier ++ [move]))
    (runs : runMoves step start (earlier ++ [move]) = some final) :
    ∃ before, runMoves step start earlier = some before ∧ step before move = some final ∧
      guard before move := by
  rw [runMoves_append] at runs
  obtain ⟨before, isBefore, last⟩ := Option.bind_eq_some_iff.mp runs
  obtain ⟨next, steps, same⟩ := Option.bind_eq_some_iff.mp last
  cases same
  exact ⟨before, isBefore, steps, (guarded.later isBefore).1⟩

/-- A round that takes every state of a sequence to the next one, repeated. -/
theorem runMoves_rounds {states : ℕ → State} {round : List Move} {rounds : ℕ}
    (each : ∀ done, done < rounds → runMoves step (states done) round = some (states (done + 1))) :
    runMoves step (states 0) (List.replicate rounds round).flatten = some (states rounds) := by
  induction rounds with
  | zero => rfl
  | succ rounds ih =>
      rw [List.replicate_succ', List.flatten_append, runMoves_append,
        ih fun done before => each done (Nat.lt_succ_of_lt before), List.flatten_singleton]
      exact each rounds (Nat.lt_succ_self rounds)

theorem guarded_rounds {guard : State → Move → Prop} {states : ℕ → State} {round : List Move}
    {rounds : ℕ}
    (each : ∀ done, done < rounds → runMoves step (states done) round = some (states (done + 1)))
    (guarded : ∀ done, done < rounds → Guarded step guard (states done) round) :
    Guarded step guard (states 0) (List.replicate rounds round).flatten := by
  induction rounds with
  | zero => trivial
  | succ rounds ih =>
      rw [List.replicate_succ', List.flatten_append, List.flatten_singleton]
      have before := runMoves_rounds fun done earlier => each done (Nat.lt_succ_of_lt earlier)
      refine Guarded.append before (ih ?_ ?_) (guarded rounds (Nat.lt_succ_self rounds))
      · intro done earlier
        exact each done (Nat.lt_succ_of_lt earlier)
      · intro done earlier
        exact guarded done (Nat.lt_succ_of_lt earlier)

/-- A machine whose every move is enabled folds its moves. -/
theorem runMoves_total (next : State → Move → State) (start : State) (moves : List Move) :
    runMoves (fun state move => some (next state move)) start moves =
      some (moves.foldl next start) := by
  induction moves generalizing start with
  | nil => rfl
  | cons move moves ih => exact ih (next start move)

/-- A relation between the elements that are ahead and the accumulator, which every round of
a loop keeps, holds at its end with nothing ahead. -/
theorem foldl_pending {Element : Type} {round : State → Element → State}
    (relation : List Element → State → Prop)
    (kept : ∀ element pending state, relation (element :: pending) state →
      relation pending (round state element))
    {list : List Element} {start : State} (initially : relation list start) :
    relation [] (list.foldl round start) := by
  induction list generalizing start with
  | nil => exact initially
  | cons element pending ih => exact ih (kept element pending start initially)

end GuardedRuns
