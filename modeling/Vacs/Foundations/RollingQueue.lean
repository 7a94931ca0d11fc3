import Mathlib.Data.List.DropRight
import Mathlib.Data.List.Nodup

/-!
# Queues that keep the last elements

A rolling queue has a capacity: an element that is pushed onto a full queue evicts the
oldest one. Elements may also be removed by request. `Retains` relates such a queue to
all elements that were pushed and all that were removed: the queue is the end of what
was pushed and not removed, and an element is missing only if as many elements as the
queue can hold were pushed after it.
-/

set_option autoImplicit false

namespace List

variable {α : Type} [DecidableEq α]

/-- What a rolling queue holds of the elements that were pushed. -/
structure Retains (capacity : ℕ) (pushed removed queue : List α) : Prop where
  distinct : pushed.Nodup
  known : removed ⊆ pushed
  latest : queue <:+ pushed.filter fun element => decide (element ∉ removed)
  bounded : queue.length ≤ capacity
  evicted : ∀ before element after, pushed = before ++ element :: after → element ∉ removed →
    element ∉ queue → capacity ≤ after.length

namespace Retains

variable {capacity : ℕ} {pushed removed queue : List α}

theorem nil (capacity : ℕ) : Retains capacity ([] : List α) [] [] where
  distinct := List.nodup_nil
  known := List.Subset.refl []
  latest := List.suffix_rfl
  bounded := Nat.zero_le capacity
  evicted := by
    intro before element after isNil
    simp at isNil

theorem subset (retains : Retains capacity pushed removed queue) : queue ⊆ pushed := by
  intro element member
  exact (List.mem_filter.mp (retains.latest.subset member)).1

theorem not_removed (retains : Retains capacity pushed removed queue) {element : α}
    (member : element ∈ queue) : element ∉ removed :=
  of_decide_eq_true (List.mem_filter.mp (retains.latest.subset member)).2

theorem nodup (retains : Retains capacity pushed removed queue) : queue.Nodup :=
  (retains.distinct.filter _).sublist retains.latest.sublist

/-- What comes after an element in the queue was pushed after it. -/
theorem length_after_le (retains : Retains capacity pushed removed queue)
    {before after older newer : List α} {element : α}
    (isPushed : pushed = before ++ element :: after) (isQueue : queue = older ++ element :: newer) :
    newer.length ≤ after.length := by
  have kept : element ∉ removed := retains.not_removed (by simp [isQueue])
  obtain ⟨gone, isFilter⟩ := retains.latest
  have distinct := retains.distinct.filter fun element => decide (element ∉ removed)
  rw [← isFilter, isQueue, ← List.append_assoc] at distinct
  rw [isPushed, isQueue, List.filter_append, List.filter_cons_of_pos (by simpa using kept),
    ← List.append_assoc] at isFilter
  have absent : element ∉ gone ++ older := by
    intro member
    have disjoint := (List.nodup_append.mp distinct).2.2 element member element
    simp at disjoint
  have absentAfter : element ∉ newer := by
    have tail := (List.nodup_append.mp distinct).2.1
    exact (List.nodup_cons.mp tail).1
  obtain ⟨-, -, isNewer⟩ := (List.append_cons_inj_of_notMem absent absentAfter).mp isFilter
  rw [isNewer]
  exact List.length_filter_le _ after

theorem push (retains : Retains capacity pushed removed queue) {element : α}
    (fresh : element ∉ pushed) :
    Retains capacity (pushed ++ [element]) removed
      ((queue ++ [element]).rtake capacity) where
  distinct := by
    rw [List.nodup_append_comm, List.singleton_append]
    exact List.nodup_cons.mpr ⟨fresh, retains.distinct⟩
  known := List.Subset.trans retains.known (List.subset_append_left pushed [element])
  latest := by
    have kept : element ∉ removed := fun isRemoved => fresh (retains.known isRemoved)
    rw [List.filter_append, List.filter_cons_of_pos (by simpa using kept), List.filter_nil]
    obtain ⟨gone, isFilter⟩ := retains.latest
    refine (List.drop_suffix _ _).trans ⟨gone, ?_⟩
    rw [← isFilter, List.append_assoc]
  bounded := by
    simp only [List.rtake, List.length_drop]
    omega
  evicted := by
    intro before other after isPushed notRemoved missing
    rcases List.eq_nil_or_concat after with isNil | ⟨middle, last, isAfter⟩
    · -- the element itself is evicted: nothing is held
      rw [isNil] at isPushed
      obtain ⟨-, isOther⟩ := List.append_inj' isPushed rfl
      cases isOther
      have none : capacity = 0 := by
        by_contra positive
        apply missing
        rw [List.rtake, List.drop_append_of_le_length (by
          have bounded := retains.bounded
          simp only [List.length_append, List.length_singleton]
          omega)]
        exact List.mem_append_right _ List.mem_cons_self
      omega
    · rw [List.concat_eq_append] at isAfter
      have isPushed : pushed ++ [element] = (before ++ other :: middle) ++ [last] := by
        rw [isPushed, isAfter, List.append_assoc, List.cons_append]
      obtain ⟨isPushed, -⟩ := List.append_inj' isPushed rfl
      have longer : after.length = middle.length + 1 := by simp [isAfter]
      by_cases held : other ∈ queue
      · obtain ⟨older, newer, isQueue⟩ := List.append_of_mem held
        have newerBound := retains.length_after_le isPushed isQueue
        by_contra short
        apply missing
        rw [List.rtake, isQueue, List.append_assoc, List.drop_append_of_le_length (by
          simp only [List.length_append, List.length_cons, List.length_nil]
          omega)]
        exact List.mem_append_right _ List.mem_cons_self
      · have bound := retains.evicted before other middle isPushed notRemoved held
        omega

theorem remove (retains : Retains capacity pushed removed queue) {gone : List α}
    (isPushed : gone ⊆ pushed) :
    Retains capacity pushed (removed ++ gone)
      (queue.filter fun element => decide (element ∉ gone)) where
  distinct := retains.distinct
  known := List.append_subset.mpr ⟨retains.known, isPushed⟩
  latest := by
    have filtered := retains.latest.filter fun element => decide (element ∉ gone)
    rw [List.filter_filter] at filtered
    have same : (fun element : α => decide (element ∉ removed ++ gone)) =
        fun element => decide (element ∉ gone) && decide (element ∉ removed) := by
      funext element
      simp [List.mem_append, not_or, Bool.and_comm]
    rw [same]
    exact filtered
  bounded := (List.length_filter_le _ queue).trans retains.bounded
  evicted := by
    intro before element after isPushed notRemoved missing
    rw [List.mem_append, not_or] at notRemoved
    refine retains.evicted before element after isPushed notRemoved.1 fun member => missing ?_
    exact List.mem_filter.mpr ⟨member, decide_eq_true notRemoved.2⟩

end Retains

end List
