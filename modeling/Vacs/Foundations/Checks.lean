import Mathlib.Data.List.Basic
import Mathlib.Tactic.Common

/-!
# Checks that stop at the first error

A validator goes through conditions in order and reports the first one that fails.
`firstError` does so for a list of conditions; `forM_eq_ok_iff` and
`mapM_eq_ok_iff` are for a loop over the elements of a list.
-/

set_option autoImplicit false

namespace Checks

variable {ε α β : Type}

/-- The error of the first failing condition. A condition is given by whether it fails. -/
def firstError : List (Bool × ε) → Except ε Unit
  | [] => .ok ()
  | (true, error) :: _ => .error error
  | (false, _) :: checks => firstError checks

theorem firstError_eq_ok_iff (checks : List (Bool × ε)) :
    firstError checks = .ok () ↔ ∀ check ∈ checks, check.1 = false := by
  induction checks with
  | nil => simp [firstError]
  | cons check checks ih =>
      obtain ⟨fails, error⟩ := check
      cases fails with
      | false => simp [firstError, ih]
      | true => simp [firstError]

theorem bind_eq_ok_iff {first : Except ε α} {next : α → Except ε β} {result : β} :
    first.bind next = .ok result ↔ ∃ value, first = .ok value ∧ next value = .ok result := by
  cases first with
  | ok value => simp [Except.bind]
  | error error => simp [Except.bind]

/-- A loop of checks passes exactly if every check does. -/
theorem forM_eq_ok_iff (check : α → Except ε Unit) (items : List α) :
    items.forM check = .ok () ↔ ∀ item ∈ items, check item = .ok () := by
  induction items with
  | nil => simp [pure, Except.pure]
  | cons item items ih =>
      change (check item).bind (fun _ => items.forM check) = .ok () ↔ _
      rw [bind_eq_ok_iff, ih, List.forall_mem_cons]
      constructor
      · rintro ⟨_, first, rest⟩
        exact ⟨first, rest⟩
      · rintro ⟨first, rest⟩
        exact ⟨(), first, rest⟩

end Checks
