import Vacs.Foundations.SlidingWindows
import Vacs.Protocol.Identifiers

/-!
# The gate for reconnecting

When its connection fails, the client asks the gate whether it may reconnect. The gate
counts the recent reconnects. When there have been too many, it suppresses reconnecting
for a while, and looks at the window again only after that.

The client tells the gate that it reconnects somewhat later than it asks.
-/

set_option autoImplicit false

namespace Vacs

open SlidingWindows

namespace Signaling

structure ReconnectGate where
  maxInWindow : ℕ
  window : ℕ
  cooldown : ℕ
  recent : List Instant
  suppressedUntil : Option Instant
  positive : 0 < maxInWindow

namespace ReconnectGate

def new (maxInWindow window cooldown : ℕ) (positive : 0 < maxInWindow) : ReconnectGate where
  maxInWindow := maxInWindow
  window := window
  cooldown := cooldown
  recent := []
  suppressedUntil := none
  positive := positive

def prune (gate : ReconnectGate) (now : Instant) : ReconnectGate :=
  { gate with
    recent := gate.recent.dropWhile fun instant => decide (gate.window < now - instant) }

/-- The part of `can_reconnect` that follows once nothing is suppressed any more. -/
def checkWindow (gate : ReconnectGate) (now : Instant) : ReconnectGate × Except Instant Unit :=
  let gate := gate.prune now
  if gate.maxInWindow ≤ gate.recent.length then
    let untilInstant := now + gate.cooldown
    ({ gate with suppressedUntil := some untilInstant }, .error untilInstant)
  else (gate, .ok ())

def canReconnect (gate : ReconnectGate) (now : Instant) : ReconnectGate × Except Instant Unit :=
  match gate.suppressedUntil with
  | some untilInstant =>
      if now < untilInstant then (gate, .error untilInstant)
      else { gate with suppressedUntil := none }.checkWindow now
  | none => gate.checkWindow now

def onReconnect (gate : ReconnectGate) (now : Instant) : ReconnectGate :=
  { gate with recent := gate.recent ++ [now] }.prune now

def clear (gate : ReconnectGate) : ReconnectGate :=
  { gate with recent := [], suppressedUntil := none }

/-! ## Runs -/

/-- When the client asks the gate, and when it reconnects if it may. -/
structure Attempt where
  checkedAt : Instant
  reconnectedAt : Instant
  ordered : checkedAt ≤ reconnectedAt

/-- The client asks only after it has reconnected. -/
def InOrder (attempts : List Attempt) : Prop :=
  attempts.Pairwise fun earlier later => earlier.reconnectedAt ≤ later.checkedAt

def attempt (gate : ReconnectGate) (attempt : Attempt) : ReconnectGate × Except Instant Unit :=
  match gate.canReconnect attempt.checkedAt with
  | (gate, .ok ()) => (gate.onReconnect attempt.reconnectedAt, .ok ())
  | (gate, .error untilInstant) => (gate, .error untilInstant)

def run (gate : ReconnectGate) : List Attempt → ReconnectGate
  | [] => gate
  | attempt :: attempts => (gate.attempt attempt).1.run attempts

/-- The answers of the gate, with the attempts that they answer. -/
def answers (gate : ReconnectGate) : List Attempt → List (Attempt × Except Instant Unit)
  | [] => []
  | attempt :: attempts =>
      (attempt, (gate.attempt attempt).2) :: (gate.attempt attempt).1.answers attempts

/-- When the client has reconnected. -/
def reconnects (answers : List (Attempt × Except Instant Unit)) : List Instant :=
  answers.filterMap fun answer =>
    match answer.2 with
    | .ok () => some answer.1.reconnectedAt
    | .error _ => none

/-- The gate tracks the reconnects of the past. -/
def Enforces (gate : ReconnectGate) (now : Instant) (past : List Instant) : Prop :=
  Tracks gate.window gate.maxInWindow now past gate.recent

/-! ## What asking does -/

section Asking

variable {gate : ReconnectGate} {now : Instant} {past : List Instant}

theorem Enforces.prune (enforces : gate.Enforces now past) : (gate.prune now).Enforces now past :=
  Tracks.prune enforces

/-- The gate checks its window: there is room for one more reconnect, or it suppresses
reconnecting from now on. -/
theorem checkWindow_cases (gate : ReconnectGate) (now : Instant) :
    (gate.checkWindow now = (gate.prune now, .ok ()) ∧
        (gate.prune now).recent.length < gate.maxInWindow) ∨
      ∃ untilInstant, gate.checkWindow now =
        ({ gate.prune now with suppressedUntil := some untilInstant }, .error untilInstant) := by
  unfold checkWindow
  by_cases full : gate.maxInWindow ≤ (gate.prune now).recent.length
  · right
    exact ⟨_, if_pos full⟩
  · left
    exact ⟨if_neg full, Nat.lt_of_not_le full⟩

theorem canReconnect_cases (gate : ReconnectGate) (now : Instant) :
    (∃ untilInstant, gate.suppressedUntil = some untilInstant ∧ now < untilInstant ∧
        gate.canReconnect now = (gate, .error untilInstant)) ∨
      (∀ untilInstant, gate.suppressedUntil = some untilInstant → untilInstant ≤ now) ∧
        gate.canReconnect now = { gate with suppressedUntil := none }.checkWindow now := by
  unfold canReconnect
  cases suppressed : gate.suppressedUntil with
  | none =>
      refine .inr ⟨by simp, ?_⟩
      have same : { gate with suppressedUntil := none } = gate := by rw [← suppressed]
      rw [same]
  | some untilInstant =>
      simp only
      by_cases early : now < untilInstant
      · exact .inl ⟨untilInstant, rfl, early, if_pos early⟩
      · refine .inr ⟨?_, if_neg early⟩
        rintro _ ⟨⟩
        exact Nat.le_of_not_lt early

/-- One attempt keeps track of the reconnects, and leaves the bounds of the gate as they are. -/
theorem Enforces.attempt (enforces : gate.Enforces now past) (attempt : Attempt)
    (passes : now ≤ attempt.checkedAt) :
    (gate.attempt attempt).1.Enforces attempt.reconnectedAt
      (past ++ reconnects [(attempt, (gate.attempt attempt).2)]) := by
  have atCheck : gate.Enforces attempt.checkedAt past := Tracks.elapse enforces passes
  have afterwards : gate.Enforces attempt.reconnectedAt past :=
    Tracks.elapse atCheck attempt.ordered
  rcases canReconnect_cases gate attempt.checkedAt with ⟨untilInstant, -, -, refused⟩ | ⟨-, checks⟩
  · simp only [ReconnectGate.attempt, refused, reconnects, List.filterMap_cons_none,
      List.filterMap_nil, List.append_nil]
    exact afterwards
  · rcases checkWindow_cases { gate with suppressedUntil := none } attempt.checkedAt with
      ⟨allowed, room⟩ | ⟨untilInstant, refused⟩
    · rw [allowed] at checks
      simp only [ReconnectGate.attempt, checks, reconnects, List.filterMap_cons,
        List.filterMap_nil]
      have pushed := Tracks.push (Tracks.prune atCheck) room attempt.ordered
      exact Tracks.prune pushed
    · rw [refused] at checks
      simp only [ReconnectGate.attempt, checks, reconnects, List.filterMap_cons_none,
        List.filterMap_nil, List.append_nil]
      exact Tracks.elapse (Tracks.prune atCheck) attempt.ordered

theorem attempt_bounds (gate : ReconnectGate) (attempt : Attempt) :
    (gate.attempt attempt).1.maxInWindow = gate.maxInWindow ∧
      (gate.attempt attempt).1.window = gate.window := by
  rcases canReconnect_cases gate attempt.checkedAt with ⟨untilInstant, -, -, refused⟩ | ⟨-, checks⟩
  · simp [ReconnectGate.attempt, refused]
  · rcases checkWindow_cases { gate with suppressedUntil := none } attempt.checkedAt with
      ⟨allowed, -⟩ | ⟨untilInstant, refused⟩
    · rw [allowed] at checks
      simp [ReconnectGate.attempt, checks, onReconnect, ReconnectGate.prune]
    · rw [refused] at checks
      simp [ReconnectGate.attempt, checks, ReconnectGate.prune]

/-- While reconnecting is suppressed, the gate refuses and stays as it is. -/
theorem attempt_suppressed {untilInstant : Instant} (suppressed : gate.suppressedUntil = some untilInstant)
    {attempt : Attempt} (early : attempt.checkedAt < untilInstant) :
    gate.attempt attempt = (gate, .error untilInstant) := by
  simp [ReconnectGate.attempt, canReconnect, suppressed, early]

/-- A gate that refuses has suppressed reconnecting. -/
theorem suppressed_of_attempt {attempt : Attempt} {untilInstant : Instant}
    (refused : (gate.attempt attempt).2 = .error untilInstant) :
    (gate.attempt attempt).1.suppressedUntil = some untilInstant := by
  rcases canReconnect_cases gate attempt.checkedAt with ⟨known, suppressed, -, isKnown⟩ | ⟨-, checks⟩
  · simp only [ReconnectGate.attempt, isKnown, Except.error.injEq] at refused ⊢
    rw [suppressed, refused]
  · rcases checkWindow_cases { gate with suppressedUntil := none } attempt.checkedAt with
      ⟨allowed, -⟩ | ⟨known, isKnown⟩
    · rw [allowed] at checks
      simp [ReconnectGate.attempt, checks] at refused
    · rw [isKnown] at checks
      simp only [ReconnectGate.attempt, checks, Except.error.injEq] at refused ⊢
      rw [refused]

end Asking

/-! ## What a run does -/

/-- The gate tracks the reconnects through a run. -/
theorem Enforces.run {gate : ReconnectGate} {now : Instant} {past : List Instant}
    (enforces : gate.Enforces now past) {attempts : List Attempt} (inOrder : InOrder attempts)
    (passes : ∀ attempt ∈ attempts, now ≤ attempt.checkedAt) :
    (gate.run attempts).maxInWindow = gate.maxInWindow ∧
      (gate.run attempts).window = gate.window ∧
        ∃ later, (gate.run attempts).Enforces later
          (past ++ reconnects (gate.answers attempts)) := by
  induction attempts generalizing gate now past with
  | nil =>
      refine ⟨rfl, rfl, now, ?_⟩
      simpa [ReconnectGate.run, answers, reconnects] using enforces
  | cons attempt attempts ih =>
      obtain ⟨afterwards, inOrder⟩ := List.pairwise_cons.mp inOrder
      obtain ⟨sameLimit, sameWindow, later, tracked⟩ :=
        ih (enforces.attempt attempt (passes attempt List.mem_cons_self)) inOrder afterwards
      obtain ⟨limit, window⟩ := attempt_bounds gate attempt
      refine ⟨sameLimit.trans limit, sameWindow.trans window, later, ?_⟩
      rw [List.append_assoc, reconnects, reconnects, ← List.filterMap_append] at tracked
      exact tracked

theorem map_fst_answers (gate : ReconnectGate) (attempts : List Attempt) :
    (gate.answers attempts).map Prod.fst = attempts := by
  induction attempts generalizing gate with
  | nil => rfl
  | cons attempt attempts ih => rw [answers, List.map_cons, ih]

/-- Nothing is allowed while reconnecting is suppressed. -/
theorem answers_suppressed {gate : ReconnectGate} {untilInstant : Instant}
    (suppressed : gate.suppressedUntil = some untilInstant) {attempts : List Attempt}
    (inOrder : InOrder attempts) :
    ∀ answer ∈ gate.answers attempts, answer.1.checkedAt < untilInstant → answer.2 ≠ .ok () := by
  induction attempts generalizing gate with
  | nil => simp [answers]
  | cons attempt attempts ih =>
      obtain ⟨afterwards, inOrder⟩ := List.pairwise_cons.mp inOrder
      intro answer member soon
      by_cases early : attempt.checkedAt < untilInstant
      · have refused := attempt_suppressed suppressed early
        rcases List.mem_cons.mp member with rfl | member
        · simp [refused]
        · refine ih ?_ inOrder answer member soon
          rw [refused]
          exact suppressed
      · -- nobody asks earlier than that any more
        exfalso
        have asked := List.mem_map_of_mem (f := Prod.fst) member
        rw [map_fst_answers] at asked
        rcases List.mem_cons.mp asked with same | later
        · rw [same] at soon
          exact early soon
        · have order := Nat.le_trans attempt.ordered (afterwards answer.1 later)
          exact early (Nat.lt_of_le_of_lt order soon)

/-- After a refusal nothing is allowed before the instant that it names. -/
theorem answers_refused (gate : ReconnectGate) {attempts : List Attempt}
    (inOrder : InOrder attempts) :
    (gate.answers attempts).Pairwise fun refused later =>
      ∀ untilInstant, refused.2 = .error untilInstant →
        later.1.checkedAt < untilInstant → later.2 ≠ .ok () := by
  induction attempts generalizing gate with
  | nil => exact List.Pairwise.nil
  | cons attempt attempts ih =>
      obtain ⟨-, inOrder⟩ := List.pairwise_cons.mp inOrder
      refine List.pairwise_cons.mpr ⟨?_, ih _ inOrder⟩
      intro later member untilInstant refused early
      exact answers_suppressed (suppressed_of_attempt refused) inOrder later member early

/-- No interval of the length of the window holds more reconnects than the gate allows, the queue
of recent ones is sorted and no longer than that, and after a refusal nothing is allowed before
the instant that it names. -/
theorem enforces_window (maxInWindow window cooldown : ℕ) (positive : 0 < maxInWindow)
    (attempts : List Attempt) (inOrder : InOrder attempts) :
    (∀ start, (within
        (reconnects ((new maxInWindow window cooldown positive).answers attempts))
        start window).length ≤ maxInWindow) ∧
      ((new maxInWindow window cooldown positive).run attempts).recent.Pairwise (· ≤ ·) ∧
      ((new maxInWindow window cooldown positive).run attempts).recent.length ≤ maxInWindow ∧
      ((new maxInWindow window cooldown positive).answers attempts).Pairwise
        fun refused later => ∀ untilInstant, refused.2 = .error untilInstant →
          later.1.checkedAt < untilInstant → later.2 ≠ .ok () := by
  have initially : (new maxInWindow window cooldown positive).Enforces 0 [] :=
    Tracks.nil window maxInWindow 0
  obtain ⟨limit, length, later, tracked⟩ := initially.run inOrder fun _ _ => Nat.zero_le _
  rw [List.nil_append, Enforces, limit, length] at tracked
  exact ⟨tracked.windows, tracked.sorted, tracked.bounded, answers_refused _ inOrder⟩

/-- Three attempts in ten seconds, of which the third is refused, one while reconnecting is
suppressed, and one after that. -/
def fiveAttempts : List Attempt :=
  [⟨0, 0, by decide⟩, ⟨4, 5, by decide⟩, ⟨9, 9, by decide⟩, ⟨100, 100, by decide⟩,
    ⟨130, 131, by decide⟩]

theorem enforces_window_refused :
    ((new 2 60 120 (by decide)).answers fiveAttempts).map Prod.snd =
        [.ok (), .ok (), .error 129, .error 129, .ok ()] ∧
      (within (reconnects ((new 2 60 120 (by decide)).answers fiveAttempts)) 0 60).length ≤ 2 ∧
      ((new 2 60 120 (by decide)).run fiveAttempts).recent.Pairwise (· ≤ ·) ∧
      ((new 2 60 120 (by decide)).run fiveAttempts).recent.length ≤ 2 ∧
      ((new 2 60 120 (by decide)).answers fiveAttempts).Pairwise
        fun refused later => ∀ untilInstant, refused.2 = .error untilInstant →
          later.1.checkedAt < untilInstant → later.2 ≠ .ok () := by
  obtain ⟨windows, sorted, bounded, refuses⟩ :=
    enforces_window 2 60 120 (by decide) fiveAttempts (by simp [InOrder, fiveAttempts])
  exact ⟨rfl, windows 0, sorted, bounded, refuses⟩

end ReconnectGate

end Signaling

end Vacs
