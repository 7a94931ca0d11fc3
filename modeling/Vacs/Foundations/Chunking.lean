import Mathlib.Data.List.Basic
import Mathlib.Data.Nat.Notation

/-!
# A stream cut into chunks of one size

A stream of elements is cut into full chunks of a fixed size and a rest that does not yet
fill one. The cut is determined by the stream (`Chunked.unique`): it cannot depend on the
pieces in which the stream arrived. A program that collects elements in a buffer keeps the
cut piece by piece, with `Chunked.more` while the buffer fills and `Chunked.fill` when it
is full.
-/

set_option autoImplicit false

variable {α : Type}

/-- The stream is the chunks followed by the rest. -/
structure Chunked (size : ℕ) (stream : List α) (chunks : List (List α)) (rest : List α) :
    Prop where
  joined : chunks.flatten ++ rest = stream
  full : ∀ chunk ∈ chunks, chunk.length = size
  short : rest.length < size

namespace Chunked

variable {size : ℕ} {stream rest : List α} {chunks : List (List α)}

theorem nil (positive : 0 < size) : Chunked size ([] : List α) [] [] where
  joined := rfl
  full := fun _ isChunk => nomatch isChunk
  short := positive

/-- Elements that do not fill the rest wait with it. -/
theorem more (cut : Chunked size stream chunks rest) {added : List α}
    (room : rest.length + added.length < size) :
    Chunked size (stream ++ added) chunks (rest ++ added) where
  joined := by rw [← List.append_assoc, cut.joined]
  full := cut.full
  short := by rw [List.length_append]; exact room

/-- Elements that fill the rest make a chunk of it. -/
theorem fill (cut : Chunked size stream chunks rest) {added : List α}
    (exact : rest.length + added.length = size) :
    Chunked size (stream ++ added) (chunks ++ [rest ++ added]) [] where
  joined := by
    rw [List.flatten_append, List.flatten_singleton, List.append_nil, ← List.append_assoc,
      cut.joined]
  full := by
    intro chunk isChunk
    rcases List.mem_append.mp isChunk with old | isNew
    · exact cut.full chunk old
    · rw [List.mem_singleton.mp isNew, List.length_append]
      exact exact
  short := by
    have positive := cut.short
    exact Nat.lt_of_le_of_lt (Nat.zero_le _) positive

/-- A stream has one cut. -/
theorem unique {chunks' : List (List α)} {rest' : List α} (cut : Chunked size stream chunks rest)
    (cut' : Chunked size stream chunks' rest') : chunks = chunks' ∧ rest = rest' := by
  induction chunks generalizing stream chunks' with
  | nil =>
      cases chunks' with
      | nil => exact ⟨rfl, cut.joined.trans cut'.joined.symm⟩
      | cons chunk' chunks' =>
          -- the other cut would need a whole chunk of the rest
          have long := congrArg List.length (cut.joined.trans cut'.joined.symm)
          have isFull := cut'.full chunk' List.mem_cons_self
          have short := cut.short
          simp only [List.flatten_nil, List.nil_append, List.flatten_cons, List.length_append] at long
          omega
  | cons chunk chunks ih =>
      cases chunks' with
      | nil =>
          have long := congrArg List.length (cut.joined.trans cut'.joined.symm)
          have isFull := cut.full chunk List.mem_cons_self
          have short := cut'.short
          simp only [List.flatten_nil, List.nil_append, List.flatten_cons, List.length_append] at long
          omega
      | cons chunk' chunks' =>
          have joined := cut.joined.trans cut'.joined.symm
          rw [List.flatten_cons, List.flatten_cons, List.append_assoc, List.append_assoc] at joined
          have sameLength : chunk.length = chunk'.length :=
            (cut.full chunk List.mem_cons_self).trans (cut'.full chunk' List.mem_cons_self).symm
          obtain ⟨rfl, tails⟩ := List.append_inj joined sameLength
          have first : Chunked size (chunks.flatten ++ rest) chunks rest :=
            ⟨rfl, fun other isChunk => cut.full other (List.mem_cons_of_mem _ isChunk), cut.short⟩
          have second : Chunked size (chunks.flatten ++ rest) chunks' rest' :=
            ⟨tails.symm, fun other isChunk => cut'.full other (List.mem_cons_of_mem _ isChunk),
              cut'.short⟩
          obtain ⟨rfl, rfl⟩ := ih first second
          exact ⟨rfl, rfl⟩

end Chunked
