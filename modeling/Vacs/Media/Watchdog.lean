import Mathlib.Data.List.TakeWhile
import Mathlib.Data.Nat.Notation

/-!
# The media watchdog

Once a second the watchdog of a started peer reads the counters of received RTP and RTCP
packets. It reports that no media comes in when neither has moved for five seconds, or when
no RTP packet has come within fifteen seconds of the start, whatever the RTCP counter does.
It reports this at most once.

The task remembers only the last counters and when they last changed. That is enough: it has
reported exactly when the whole history of its readings says so (`Watchdog.fired_iff`).
-/

set_option autoImplicit false

namespace Vacs

namespace Media

/-- Times are in milliseconds. -/
def noInboundMediaTimeout : ℕ := 5000

def firstRtpTimeout : ℕ := 15000

/-- The counters of received RTP and RTCP packets. -/
structure Inbound where
  rtp : ℕ
  rtcp : ℕ
deriving DecidableEq

/-- What the counters were when they were read. -/
structure Reading where
  time : ℕ
  inbound : Inbound
deriving DecidableEq

structure Watchdog where
  lastInbound : Inbound
  startedAt : ℕ
  lastInboundChange : ℕ
  fired : Bool
  /-- All readings, the latest first. The last one is that of the start. -/
  readings : List Reading
deriving DecidableEq

namespace Watchdog

def spawn (started : Reading) : Watchdog where
  lastInbound := started.inbound
  startedAt := started.time
  lastInboundChange := started.time
  fired := false
  readings := [started]

/-- Note whether the counters have moved. -/
def observe (self : Watchdog) (reading : Reading) : Watchdog :=
  if reading.inbound ≠ self.lastInbound then
    { self with
      lastInbound := reading.inbound
      lastInboundChange := reading.time
      readings := reading :: self.readings }
  else
    { self with readings := reading :: self.readings }

def stalled (self : Watchdog) (now : ℕ) : Bool :=
  decide (noInboundMediaTimeout ≤ now - self.lastInboundChange)

def rtpNeverArrived (self : Watchdog) (reading : Reading) : Bool :=
  reading.inbound.rtp = 0 && decide (firstRtpTimeout ≤ reading.time - self.startedAt)

/-- One tick, and whether it reports. -/
def tick (self : Watchdog) (reading : Reading) : Watchdog × Bool :=
  let observed := self.observe reading
  if !observed.fired &&
      (observed.stalled reading.time || observed.rtpNeverArrived reading) then
    ({ observed with fired := true }, true)
  else
    (observed, false)

/-- A tick either reports, or changes nothing but what the task remembers. -/
theorem tick_cases (self : Watchdog) (reading : Reading) :
    let observed := self.observe reading
    (observed.fired = false ∧
      (observed.stalled reading.time || observed.rtpNeverArrived reading) = true ∧
      self.tick reading = ({ observed with fired := true }, true)) ∨
    (observed.fired = true ∨
        (observed.stalled reading.time || observed.rtpNeverArrived reading) = false) ∧
      self.tick reading = (observed, false) := by
  intro observed
  cases fired : observed.fired with
  | true => exact Or.inr ⟨Or.inl rfl, if_neg (by rw [fired]; exact Bool.false_ne_true)⟩
  | false =>
      cases reason : observed.stalled reading.time || observed.rtpNeverArrived reading with
      | true => exact Or.inl ⟨rfl, rfl, if_pos (by rw [fired, reason]; rfl)⟩
      | false => exact Or.inr ⟨Or.inr rfl, if_neg (by rw [reason, Bool.and_false]; exact Bool.false_ne_true)⟩

/-! ## What a report means -/

/-- The readings up to the latest one since the counters last moved. -/
def unmoved : List Reading → List Reading
  | [] => []
  | latest :: earlier =>
      latest :: earlier.takeWhile fun reading => reading.inbound = latest.inbound

/-- The latest of some readings is a reason to report: the counters have stood still for too
long, or the first RTP packet is overdue. -/
def Missing (startedAt : ℕ) : List Reading → Prop
  | [] => False
  | latest :: earlier =>
      (∃ reading ∈ unmoved (latest :: earlier),
        reading.time + noInboundMediaTimeout ≤ latest.time) ∨
      latest.inbound.rtp = 0 ∧ startedAt + firstRtpTimeout ≤ latest.time

/-- Some readings up to a tick were a reason to report. -/
def Reported (startedAt : ℕ) (readings : List Reading) : Prop :=
  ∃ past, past <:+ readings ∧ Missing startedAt past

theorem unmoved_cons_of_eq {reading latest : Reading} {earlier : List Reading}
    (same : reading.inbound = latest.inbound) :
    unmoved (reading :: latest :: earlier) = reading :: unmoved (latest :: earlier) := by
  rw [unmoved, List.takeWhile_cons_of_pos (by rw [same]; exact decide_eq_true rfl), unmoved, same]

theorem unmoved_cons_of_ne {reading latest : Reading} {earlier : List Reading}
    (moved : reading.inbound ≠ latest.inbound) :
    unmoved (reading :: latest :: earlier) = [reading] := by
  have stops : ¬ decide (latest.inbound = reading.inbound) = true := by
    rw [decide_eq_true_iff]
    exact moved.symm
  exact congrArg (reading :: ·) (List.takeWhile_cons_of_neg stops)

theorem reported_cons {startedAt : ℕ} {reading : Reading} {readings : List Reading} :
    Reported startedAt (reading :: readings) ↔
      Reported startedAt readings ∨ Missing startedAt (reading :: readings) := by
  constructor
  · rintro ⟨past, isSuffix, missing⟩
    rcases List.suffix_cons_iff.mp isSuffix with rfl | older
    · exact Or.inr missing
    · exact Or.inl ⟨past, older, missing⟩
  · rintro (⟨past, older, missing⟩ | missing)
    · exact ⟨past, older.trans (List.suffix_cons _ _), missing⟩
    · exact ⟨_, List.suffix_refl _, missing⟩

/-- What the task remembers of its readings, which are all from before a time. -/
structure Watches (watchdog : Watchdog) (now : ℕ) : Prop where
  latest : ∃ reading earlier, watchdog.readings = reading :: earlier ∧
    reading.inbound = watchdog.lastInbound
  started : watchdog.startedAt ≤ now
  /-- The counters have stood still since the last change. -/
  change : ∃ reading ∈ unmoved watchdog.readings, reading.time = watchdog.lastInboundChange
  first : ∀ reading ∈ unmoved watchdog.readings, watchdog.lastInboundChange ≤ reading.time
  past : ∀ reading ∈ watchdog.readings, reading.time ≤ now
  fired_iff : watchdog.fired = true ↔ Reported watchdog.startedAt watchdog.readings

theorem Watches.spawn (started : Reading) : (spawn started).Watches started.time where
  latest := ⟨started, [], rfl, rfl⟩
  started := Nat.le_refl _
  change := ⟨started, List.mem_singleton_self _, rfl⟩
  first := fun reading isListed => by
    rw [List.mem_singleton.mp isListed]
    exact Nat.le_refl _
  past := fun reading isListed => by
    rw [List.mem_singleton.mp isListed]
  fired_iff := by
    refine ⟨fun fired => (Bool.false_ne_true fired).elim, ?_⟩
    rintro ⟨past, isSuffix, missing⟩
    rcases List.suffix_cons_iff.mp isSuffix with rfl | older
    · -- nothing is overdue at the start itself
      exfalso
      rcases missing with ⟨reading, isListed, overdue⟩ | ⟨-, overdue⟩
      · rw [List.mem_singleton.mp isListed] at overdue
        exact absurd overdue (by unfold noInboundMediaTimeout; omega)
      · change started.time + firstRtpTimeout ≤ started.time at overdue
        exact absurd overdue (by unfold firstRtpTimeout; omega)
    · rw [List.suffix_nil.mp older] at missing
      exact missing.elim

theorem Watches.later {self : Watchdog} {now now' : ℕ} (watches : self.Watches now)
    (later : now ≤ now') : self.Watches now' :=
  { watches with
    started := watches.started.trans later
    past := fun reading isListed => (watches.past reading isListed).trans later }

/-- What is remembered after a reading, before the task decides whether to report. -/
theorem Watches.observe {self : Watchdog} {now : ℕ} (watches : self.Watches now)
    (inbound : Inbound) :
    let observed := self.observe ⟨now, inbound⟩
    observed.readings = ⟨now, inbound⟩ :: self.readings ∧
    observed.startedAt = self.startedAt ∧ observed.fired = self.fired ∧
    inbound = observed.lastInbound ∧
    (∃ reading ∈ unmoved observed.readings, reading.time = observed.lastInboundChange) ∧
    ∀ reading ∈ unmoved observed.readings, observed.lastInboundChange ≤ reading.time := by
  obtain ⟨latest, earlier, listed, isLast⟩ := watches.latest
  obtain ⟨change, isChange, changed⟩ := watches.change
  have first := watches.first
  rw [listed] at isChange first
  unfold Watchdog.observe
  by_cases same : inbound = self.lastInbound
  · have sameLatest : inbound = latest.inbound := same.trans isLast.symm
    have moved : unmoved (⟨now, inbound⟩ :: self.readings) =
        ⟨now, inbound⟩ :: unmoved (latest :: earlier) := by
      rw [listed]
      exact unmoved_cons_of_eq sameLatest
    rw [if_neg (not_not.mpr same)]
    refine ⟨rfl, rfl, rfl, same, ⟨change, ?_, changed⟩, ?_⟩
    · rw [moved]
      exact List.mem_cons_of_mem _ isChange
    · intro reading isListed
      rw [moved] at isListed
      rcases List.mem_cons.mp isListed with rfl | older
      · rw [← changed]
        refine watches.past change ?_
        rw [listed]
        rcases List.mem_cons.mp isChange with rfl | inEarlier
        · exact List.mem_cons_self
        · exact List.mem_cons_of_mem _ (List.takeWhile_subset _ inEarlier)
      · exact first reading older
  · have moved : unmoved (⟨now, inbound⟩ :: self.readings) = [⟨now, inbound⟩] := by
      rw [listed]
      exact unmoved_cons_of_ne fun sameLatest => same (sameLatest.trans isLast)
    rw [if_pos same]
    refine ⟨rfl, rfl, rfl, rfl, ⟨⟨now, inbound⟩, ?_, rfl⟩, ?_⟩
    · rw [moved]
      exact List.mem_singleton_self _
    · intro reading isListed
      rw [moved] at isListed
      rw [List.mem_singleton.mp isListed]

/-- What a tick compares is what its readings say. -/
theorem missing_iff {watchdog : Watchdog} {now : ℕ} {inbound : Inbound}
    {earlier : List Reading} (listed : watchdog.readings = ⟨now, inbound⟩ :: earlier)
    (change : ∃ reading ∈ unmoved watchdog.readings, reading.time = watchdog.lastInboundChange)
    (first : ∀ reading ∈ unmoved watchdog.readings,
      watchdog.lastInboundChange ≤ reading.time) :
    (watchdog.stalled now || watchdog.rtpNeverArrived ⟨now, inbound⟩) = true ↔
      Missing watchdog.startedAt watchdog.readings := by
  have timeout : 0 < noInboundMediaTimeout ∧ 0 < firstRtpTimeout := by decide
  have stalls : watchdog.stalled now = true ↔
      ∃ reading ∈ unmoved watchdog.readings, reading.time + noInboundMediaTimeout ≤ now := by
    rw [stalled, decide_eq_true_iff]
    constructor
    · intro overdue
      obtain ⟨reading, isListed, isChange⟩ := change
      exact ⟨reading, isListed, by omega⟩
    · rintro ⟨reading, isListed, overdue⟩
      have since := first reading isListed
      omega
  have never : watchdog.rtpNeverArrived ⟨now, inbound⟩ = true ↔
      inbound.rtp = 0 ∧ watchdog.startedAt + firstRtpTimeout ≤ now := by
    rw [rtpNeverArrived, Bool.and_eq_true, decide_eq_true_iff, decide_eq_true_iff]
    refine and_congr_right fun _ => ?_
    change firstRtpTimeout ≤ now - watchdog.startedAt ↔ _
    omega
  rw [Bool.or_eq_true, stalls, never]
  rw [listed]
  exact Iff.rfl

theorem Watches.tick {self : Watchdog} {now : ℕ} (watches : self.Watches now)
    (inbound : Inbound) : (self.tick ⟨now, inbound⟩).1.Watches now := by
  obtain ⟨listed, startedAt, fired, isLast, change, first⟩ := watches.observe inbound
  have missing := missing_iff listed change first
  have past : ∀ reading ∈ (self.observe ⟨now, inbound⟩).readings, reading.time ≤ now := by
    intro reading isListed
    rw [listed] at isListed
    rcases List.mem_cons.mp isListed with rfl | older
    · exact Nat.le_refl _
    · exact watches.past reading older
  have reported : Reported self.startedAt (self.observe ⟨now, inbound⟩).readings ↔
      self.fired = true ∨
        Missing self.startedAt (self.observe ⟨now, inbound⟩).readings := by
    rw [listed, reported_cons, ← watches.fired_iff]
  rw [startedAt] at missing
  rcases self.tick_cases ⟨now, inbound⟩ with ⟨-, reason, ticked⟩ | ⟨silent, ticked⟩
  · rw [ticked]
    refine ⟨⟨_, _, listed, isLast⟩, startedAt ▸ watches.started, change, first, past, ?_⟩
    change true = true ↔ Reported (self.observe ⟨now, inbound⟩).startedAt _
    rw [startedAt]
    exact iff_of_true rfl (reported.mpr (Or.inr (missing.mp reason)))
  · rw [ticked]
    refine ⟨⟨_, _, listed, isLast⟩, startedAt ▸ watches.started, change, first, past, ?_⟩
    rw [startedAt, reported, fired]
    refine ⟨Or.inl, fun reason => reason.elim id fun isMissing => ?_⟩
    rcases silent with already | quiet
    · exact fired ▸ already
    · rw [missing.mpr isMissing] at quiet
      cases quiet

theorem fired_observe (self : Watchdog) (reading : Reading) :
    (self.observe reading).fired = self.fired := by
  unfold Watchdog.observe
  split
  · rfl
  · rfl

/-- A tick reports when it fires, which it does once. -/
theorem tick_reports (self : Watchdog) (reading : Reading) :
    (self.tick reading).2 = (!self.fired && (self.tick reading).1.fired) := by
  have kept := self.fired_observe reading
  rcases self.tick_cases reading with ⟨unfired, -, ticked⟩ | ⟨-, ticked⟩
  · rw [ticked, ← kept, unfired]
    rfl
  · rw [ticked, kept]
    exact (Bool.not_and_self _).symm

theorem fired_tick {self : Watchdog} (fired : self.fired = true) (reading : Reading) :
    (self.tick reading).1.fired = true := by
  rcases self.tick_cases reading with ⟨-, -, ticked⟩ | ⟨-, ticked⟩
  · rw [ticked]
  · rw [ticked]
    exact (self.fired_observe reading).trans fired

end Watchdog

end Media

end Vacs
