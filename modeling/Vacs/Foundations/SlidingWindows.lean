import Mathlib.Data.List.Pairwise
import Mathlib.Data.List.TakeWhile
import Mathlib.Data.Nat.Notation
import Mathlib.Order.Basic
import Mathlib.Tactic.Common

/-!
# Sliding windows over a log of instants

Something is allowed at most `limit` times in any closed interval of length `window`.
Who enforces this need not keep the whole log of what was allowed: it is enough to keep
a queue of recent instants, to drop an instant from its front once it lies more than
the window behind, and to allow something only while the queue is shorter than the
limit. `Tracks` relates such a queue to the whole log, and says that the log has no
crowded interval.
-/

set_option autoImplicit false

namespace SlidingWindows

/-- The instants of a log that lie in the closed interval that begins at `start`. -/
def within (log : List ℕ) (start length : ℕ) : List ℕ :=
  log.filter fun instant => decide (start ≤ instant ∧ instant ≤ start + length)

/-- A queue holds the recent instants of a log that has at most `limit` of them in every window,
and everything that it has dropped lies more than the window before `now`. -/
structure Tracks (window limit now : ℕ) (log recent : List ℕ) : Prop where
  ordered : log.Pairwise (· ≤ ·)
  past : ∀ instant ∈ log, instant ≤ now
  kept : ∃ expired, log = expired ++ recent ∧ ∀ instant ∈ expired, instant + window < now
  bounded : recent.length ≤ limit
  windows : ∀ start, (within log start window).length ≤ limit

namespace Tracks

variable {window limit now later : ℕ} {log recent : List ℕ}

theorem nil (window limit now : ℕ) : Tracks window limit now [] [] where
  ordered := List.Pairwise.nil
  past := by simp
  kept := ⟨[], rfl, by simp⟩
  bounded := Nat.zero_le limit
  windows := fun _ => Nat.zero_le limit

theorem elapse (tracks : Tracks window limit now log recent) (passes : now ≤ later) :
    Tracks window limit later log recent where
  ordered := tracks.ordered
  past := fun instant logged => (tracks.past instant logged).trans passes
  kept := by
    obtain ⟨expired, isLog, gone⟩ := tracks.kept
    exact ⟨expired, isLog, fun instant member => (gone instant member).trans_le passes⟩
  bounded := tracks.bounded
  windows := tracks.windows

theorem sorted (tracks : Tracks window limit now log recent) : recent.Pairwise (· ≤ ·) := by
  obtain ⟨expired, isLog, -⟩ := tracks.kept
  have ordered := tracks.ordered
  rw [isLog] at ordered
  exact (List.pairwise_append.mp ordered).2.1

/-- Instants more than the window behind are dropped from the front. -/
theorem prune (tracks : Tracks window limit now log recent) :
    Tracks window limit now log
      (recent.dropWhile fun instant => decide (window < now - instant)) where
  ordered := tracks.ordered
  past := tracks.past
  kept := by
    obtain ⟨expired, isLog, gone⟩ := tracks.kept
    refine ⟨expired ++ recent.takeWhile fun instant => decide (window < now - instant), ?_, ?_⟩
    · rw [List.append_assoc, List.takeWhile_append_dropWhile]
      exact isLog
    · intro instant member
      rcases List.mem_append.mp member with dropped | dropped
      · exact gone instant dropped
      · have behind := List.mem_takeWhile_imp dropped
        rw [decide_eq_true_eq] at behind
        omega
  bounded := (List.dropWhile_sublist _).length_le.trans tracks.bounded
  windows := tracks.windows

/-- There is room for one more instant while the queue is shorter than the limit. -/
theorem push (tracks : Tracks window limit now log recent) (room : recent.length < limit)
    (passes : now ≤ later) : Tracks window limit later (log ++ [later]) (recent ++ [later]) where
  ordered := by
    refine List.pairwise_append.mpr ⟨tracks.ordered, List.pairwise_singleton _ _, ?_⟩
    intro instant logged last isLast
    rw [List.mem_singleton.mp isLast]
    exact (tracks.past instant logged).trans passes
  past := by
    intro instant member
    rcases List.mem_append.mp member with logged | isLast
    · exact (tracks.past instant logged).trans passes
    · exact (List.mem_singleton.mp isLast).le
  kept := by
    obtain ⟨expired, isLog, gone⟩ := tracks.kept
    refine ⟨expired, ?_, fun instant member => (gone instant member).trans_le passes⟩
    rw [isLog, List.append_assoc]
  bounded := by
    rw [List.length_append, List.length_singleton]
    exact room
  windows := by
    intro start
    rw [within, List.filter_append, List.length_append]
    by_cases inside : start ≤ later ∧ later ≤ start + window
    · -- what was dropped lies before every window that reaches the new instant
      obtain ⟨expired, isLog, gone⟩ := tracks.kept
      have outside : expired.filter
          (fun instant => decide (start ≤ instant ∧ instant ≤ start + window)) = [] := by
        rw [List.filter_eq_nil_iff]
        intro instant member
        have before := gone instant member
        rw [decide_eq_true_eq]
        omega
      have few := List.length_filter_le
        (fun instant => decide (start ≤ instant ∧ instant ≤ start + window)) recent
      have one := List.length_filter_le
        (fun instant => decide (start ≤ instant ∧ instant ≤ start + window)) [later]
      rw [isLog, List.filter_append, outside, List.nil_append]
      rw [List.length_singleton] at one
      omega
    · rw [List.filter_cons_of_neg (by simpa using inside), List.filter_nil, List.length_nil,
        Nat.add_zero]
      exact tracks.windows start

end Tracks

end SlidingWindows
