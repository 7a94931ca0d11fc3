import Mathlib.Data.Nat.Notation
import Mathlib.Order.Basic
import Mathlib.Tactic.Common

/-!
# Keyed limiters that hand out cells

A keyed limiter grants cells to keys. At every instant a key has a number of cells
left; a request for several cells is allowed, or it has to wait, or it asks for more
than the limiter can ever hold. `Lawful` says what a caller relies on: a request is
allowed exactly when the cells are there, an allowed request takes its cells, and any
other request takes nothing.

The generic cell rate algorithm is such a limiter (`gcra_lawful`). It keeps one number
for a key, the instant at which the key's cells would all be back.
-/

set_option autoImplicit false

namespace CellLimiters

/-- The answer to a request for cells. -/
inductive Decision where
  | allowed
  | notUntil (instant : ℕ)
  | insufficientCapacity
deriving DecidableEq, Repr

/-- A keyed limiter: how many cells a key has left at an instant, and what a request for cells
answers and leaves. -/
structure Limiter (Key Cells : Type) where
  tokens : Cells → ℕ → Key → ℕ
  checkKeyN : Cells → ℕ → Key → ℕ → Decision × Cells

namespace Limiter

variable {Key Cells : Type}

/-- A request takes its cells exactly when it is allowed. -/
structure Lawful (limiter : Limiter Key Cells) : Prop where
  allowed_iff : ∀ (cells : Cells) (now : ℕ) (key : Key) (n : ℕ), 0 < n →
    ((limiter.checkKeyN cells now key n).1 = .allowed ↔ n ≤ limiter.tokens cells now key)
  consumed : ∀ (cells : Cells) (now : ℕ) (key : Key) (n : ℕ), 0 < n →
    (limiter.checkKeyN cells now key n).1 = .allowed →
      limiter.tokens (limiter.checkKeyN cells now key n).2 now key + n =
        limiter.tokens cells now key
  kept : ∀ (cells : Cells) (now : ℕ) (key : Key) (n : ℕ), 0 < n →
    (limiter.checkKeyN cells now key n).1 ≠ .allowed →
      (limiter.checkKeyN cells now key n).2 = cells

end Limiter

/-! ## The generic cell rate algorithm -/

section Gcra

variable {Key : Type} [DecidableEq Key]

/-- The instant at which all cells of a key are back, or the next cell at the latest. -/
def settledAt (period now arrival : ℕ) : ℕ :=
  max arrival (now + period)

/-- The cells left for a key whose cells are back at `arrival`. -/
def cellsLeft (period burst now arrival : ℕ) : ℕ :=
  (now + period * (burst + 1) - settledAt period now arrival) / period

/-- A limiter that gives back one cell a period and holds at most `burst` cells for a key.
A key it does not know yet has all its cells. -/
def gcra (period burst : ℕ) : Limiter Key (Key → ℕ) where
  tokens arrivals now key := cellsLeft period burst now (arrivals key)
  checkKeyN arrivals now key n :=
    let arrival := settledAt period now (arrivals key)
    if burst < n then (.insufficientCapacity, arrivals)
    else if now + period * burst < arrival + period * (n - 1) then
      (.notUntil (arrival + period * (n - 1) - period * burst), arrivals)
    else (.allowed, Function.update arrivals key (arrival + period * n))

theorem cellsLeft_le_burst (period burst now arrival : ℕ) :
    cellsLeft period burst now arrival ≤ burst := by
  have back : now + period ≤ settledAt period now arrival := Nat.le_max_right _ _
  have span : now + period * (burst + 1) = now + period + period * burst := by
    rw [Nat.mul_succ]
    omega
  apply Nat.div_le_of_le_mul
  omega

/-- The cells left are those whose latest instant has not passed. -/
theorem le_cellsLeft_iff {period : ℕ} (positive : 0 < period) (burst now arrival n : ℕ) :
    n ≤ cellsLeft period burst now arrival ↔
      n = 0 ∨ settledAt period now arrival + period * n ≤ now + period * (burst + 1) := by
  rw [cellsLeft, Nat.le_div_iff_mul_le positive, Nat.mul_comm n period]
  rcases Nat.eq_zero_or_pos n with rfl | asked
  · simp
  · have : 0 < period * n := Nat.mul_pos positive asked
    omega

theorem gcra_allowed_iff {period : ℕ} (positive : 0 < period) (burst : ℕ) (arrivals : Key → ℕ)
    (now : ℕ) (key : Key) (n : ℕ) (asked : 0 < n) :
    ((gcra period burst).checkKeyN arrivals now key n).1 = .allowed ↔
      n ≤ (gcra period burst).tokens arrivals now key := by
  have fits : n ≤ cellsLeft period burst now (arrivals key) → n ≤ burst := fun enough =>
    Nat.le_trans enough (cellsLeft_le_burst period burst now (arrivals key))
  have spread : period * n = period * (n - 1) + period := by
    rw [← Nat.mul_succ, Nat.succ_eq_add_one, Nat.sub_add_cancel asked]
  have wide : period * (burst + 1) = period * burst + period := Nat.mul_succ period burst
  have enough := le_cellsLeft_iff positive burst now (arrivals key) n
  change _ ↔ n ≤ cellsLeft period burst now (arrivals key)
  simp only [gcra]
  split
  · constructor
    · intro refused
      cases refused
    · intro allowed
      exact absurd (fits allowed) (by omega)
  · split
    · constructor
      · intro refused
        cases refused
      · intro allowed
        rcases enough.mp allowed with none | inTime
        · omega
        · omega
    · constructor
      · intro _
        apply enough.mpr
        omega
      · intro _
        rfl

theorem gcra_lawful {period : ℕ} (positive : 0 < period) (burst : ℕ) :
    (gcra period burst : Limiter Key (Key → ℕ)).Lawful where
  allowed_iff := fun arrivals now key n asked =>
    gcra_allowed_iff positive burst arrivals now key n asked
  consumed := by
    intro arrivals now key n asked allowed
    have enough := (gcra_allowed_iff positive burst arrivals now key n asked).mp allowed
    have inTime := (le_cellsLeft_iff positive burst now (arrivals key) n).mp enough
    revert allowed
    simp only [gcra]
    split
    · intro refused
      cases refused
    · split
      · intro refused
        cases refused
      · intro _
        simp only [Function.update_self]
        have later : settledAt period now (settledAt period now (arrivals key) + period * n) =
            settledAt period now (arrivals key) + period * n := by
          unfold settledAt
          omega
        have left : now + period * (burst + 1) -
              (settledAt period now (arrivals key) + period * n) + period * n =
            now + period * (burst + 1) - settledAt period now (arrivals key) := by
          omega
        unfold cellsLeft
        rw [later, ← left, Nat.add_mul_div_left _ _ positive]
  kept := by
    intro arrivals now key n asked
    simp only [gcra]
    split
    · intro _
      rfl
    · split
      · intro _
        rfl
      · intro refused
        exact absurd rfl refused

end Gcra

end CellLimiters
