import Vacs.Foundations.CellLimiters
import Vacs.Calls.Entries
import Mathlib.Algebra.Ring.Nat

/-!
# Rate limits for call invites

The server checks a call invite against two limiters, one for bursts and one for
the minute, and charges one cell per target. Both are optional. The limiters come
from outside; `Lawful` says what is relied on.

An invite that is refused should leave both limiters as they were. The first
limiter is charged before the second is asked, so the cells are lost when the
second one refuses (`checkCallInvite_allOrNothing`).
-/

set_option autoImplicit false

namespace Vacs

open CellLimiters

/-- The key of a limiter. -/
structure RateLimitKey where
  val : String
deriving DecidableEq, Repr

def RateLimitKey.fromClientId (clientId : ClientId) : RateLimitKey :=
  ⟨clientId.val⟩

/-- A limiter together with the cells it keeps. -/
structure KeyedLimiter (Cells : Type) where
  limiter : Limiter RateLimitKey Cells
  cells : Cells

/-- The limiters of the call invites. -/
structure RateLimiters (Cells : Type) where
  callInvite : Option (KeyedLimiter Cells)
  callInvitePerMinute : Option (KeyedLimiter Cells)

/-- The two readings of the clock in one check of a limiter: when the cells are asked for, and
from when the time to wait is counted. -/
structure ClockReadings where
  checkedAt : Instant
  countedFrom : Instant

/-- One check of a call invite. -/
structure InviteCheck where
  key : RateLimitKey
  targets : ℕ
  burst : ClockReadings
  minute : ClockReadings

/-- Why a check refuses: the limit is exhausted for the given duration, or the invite carries more
targets than can ever pass. -/
inductive RateLimitRejection where
  | rateLimited (retryAfter : Duration)
  | tooManyTargets
deriving DecidableEq, Repr

/-- The cells charged for a number of targets. -/
def chargedCells (targets : ℕ) : ℕ :=
  max (min targets (2 ^ 32 - 1)) 1

/-- How often cells come back and how many there can be. -/
structure Policy where
  enabled : Bool
  perSeconds : ℕ
  burst : ℕ

/-- The part of the configuration that is about call invites. -/
structure RateLimitersConfig where
  enabled : Bool
  callInvite : Policy
  callInvitePerMinute : ℕ

section Checks

variable {Cells : Type}

/-- The limiters of a configuration; `keyed` makes a limiter from the time in which one cell comes
back and the number of cells in a burst. -/
def RateLimiters.fromConfig (keyed : Duration → ℕ → KeyedLimiter Cells)
    (config : RateLimitersConfig) : RateLimiters Cells :=
  if config.enabled then
    { callInvite :=
        if config.callInvite.enabled then
          some (keyed (max config.callInvite.perSeconds 1 * 1000000000) config.callInvite.burst)
        else none
      callInvitePerMinute :=
        if 0 < config.callInvitePerMinute then
          some (keyed (60000000000 / config.callInvitePerMinute) config.callInvitePerMinute)
        else none }
  else { callInvite := none, callInvitePerMinute := none }

def checkN (keyed : Option (KeyedLimiter Cells)) (clock : ClockReadings) (key : RateLimitKey)
    (n : ℕ) : Except RateLimitRejection Unit × Option (KeyedLimiter Cells) :=
  match keyed with
  | none => (.ok (), none)
  | some keyed =>
      let (decision, cells) := keyed.limiter.checkKeyN keyed.cells clock.checkedAt key n
      let after := some { keyed with cells := cells }
      match decision with
      | .allowed => (.ok (), after)
      | .notUntil instant => (.error (.rateLimited (instant - clock.countedFrom)), after)
      | .insufficientCapacity => (.error .tooManyTargets, after)

/-- Check an invite against both limiters, charging one cell per target. -/
def RateLimiters.checkCallInvite (limiters : RateLimiters Cells) (check : InviteCheck) :
    Except RateLimitRejection Unit × RateLimiters Cells :=
  let n := chargedCells check.targets
  let (answer, callInvite) := checkN limiters.callInvite check.burst check.key n
  match answer with
  | .error rejection => (.error rejection, { limiters with callInvite := callInvite })
  | .ok () =>
      let (answer, callInvitePerMinute) :=
        checkN limiters.callInvitePerMinute check.minute check.key n
      (answer, { callInvite := callInvite, callInvitePerMinute := callInvitePerMinute })

/-! ## What a check takes -/

/-- The cells an optional limiter has left for a key. -/
def tokensLeft (keyed : Option (KeyedLimiter Cells)) (now : Instant) (key : RateLimitKey) :
    Option ℕ :=
  keyed.map fun keyed => keyed.limiter.tokens keyed.cells now key

/-- The limiter, if there is one, has the cells. -/
def HasTokens (keyed : Option (KeyedLimiter Cells)) (now : Instant) (key : RateLimitKey)
    (n : ℕ) : Prop :=
  ∀ tokens ∈ tokensLeft keyed now key, n ≤ tokens

/-- Exactly `n` cells are gone. -/
def Spends (before after : Option (KeyedLimiter Cells)) (now : Instant) (key : RateLimitKey)
    (n : ℕ) : Prop :=
  tokensLeft before now key = (tokensLeft after now key).map (· + n)

/-- The limiters behave as a caller relies on. -/
def LawfulKeyed (keyed : Option (KeyedLimiter Cells)) : Prop :=
  ∀ limiter ∈ keyed, limiter.limiter.Lawful

variable {keyed : Option (KeyedLimiter Cells)}

theorem chargedCells_pos (targets : ℕ) : 0 < chargedCells targets :=
  Nat.lt_of_lt_of_le Nat.zero_lt_one (Nat.le_max_right _ _)

theorem tokensLeft_some (limiter : KeyedLimiter Cells) (now : Instant) (key : RateLimitKey) :
    tokensLeft (some limiter) now key = some (limiter.limiter.tokens limiter.cells now key) :=
  rfl

theorem hasTokens_some (limiter : KeyedLimiter Cells) (now : Instant) (key : RateLimitKey)
    (n : ℕ) :
    HasTokens (some limiter) now key n ↔ n ≤ limiter.limiter.tokens limiter.cells now key := by
  simp [HasTokens, tokensLeft]

/-- A limiter that has the cells allows the request and takes them; otherwise it refuses and
stays as it is. -/
theorem checkN_spec (lawful : LawfulKeyed keyed) (clock : ClockReadings) (key : RateLimitKey)
    {n : ℕ} (asked : 0 < n) :
    (HasTokens keyed clock.checkedAt key n ∧ (checkN keyed clock key n).1 = .ok () ∧
        Spends keyed (checkN keyed clock key n).2 clock.checkedAt key n) ∨
      (¬ HasTokens keyed clock.checkedAt key n ∧
        (∃ rejection, checkN keyed clock key n = (.error rejection, keyed))) := by
  cases keyed with
  | none =>
      left
      refine ⟨?_, rfl, rfl⟩
      intro tokens present
      cases present
  | some limiter =>
      have law := lawful limiter rfl
      have allows := law.allowed_iff limiter.cells clock.checkedAt key n asked
      have takes := law.consumed limiter.cells clock.checkedAt key n asked
      have keeps := law.kept limiter.cells clock.checkedAt key n asked
      rw [hasTokens_some]
      rcases answer : limiter.limiter.checkKeyN limiter.cells clock.checkedAt key n with
        ⟨decision, cells⟩
      rw [answer] at allows takes keeps
      simp only [checkN, answer]
      cases decision with
      | allowed =>
          left
          refine ⟨allows.mp rfl, rfl, ?_⟩
          simp only [Spends, tokensLeft_some, Option.map_some]
          exact congrArg some (takes rfl).symm
      | notUntil instant =>
          right
          have same : cells = limiter.cells := keeps (by simp)
          subst same
          exact ⟨fun enough => by simpa using allows.mpr enough, _, rfl⟩
      | insufficientCapacity =>
          right
          have same : cells = limiter.cells := keeps (by simp)
          subst same
          exact ⟨fun enough => by simpa using allows.mpr enough, _, rfl⟩

theorem LawfulKeyed.checkN (lawful : LawfulKeyed keyed) (clock : ClockReadings)
    (key : RateLimitKey) (n : ℕ) : LawfulKeyed (checkN keyed clock key n).2 := by
  cases keyed with
  | none => exact lawful
  | some limiter =>
      have law := lawful limiter rfl
      simp only [Vacs.checkN]
      split
      all_goals
        rintro after same
        cases same
        exact law

/-! ## Both limiters -/

namespace RateLimiters

variable {limiters : RateLimiters Cells}

/-- Refused checks take nothing, and allowed ones take one cell per target from each limiter. -/
structure AllOrNothing (limiters : RateLimiters Cells) (check : InviteCheck) : Prop where
  refused : ∀ rejection, (limiters.checkCallInvite check).1 = .error rejection →
    ∀ now : Instant,
      tokensLeft (limiters.checkCallInvite check).2.callInvite now check.key =
          tokensLeft limiters.callInvite now check.key ∧
        tokensLeft (limiters.checkCallInvite check).2.callInvitePerMinute now check.key =
          tokensLeft limiters.callInvitePerMinute now check.key
  allowed : (limiters.checkCallInvite check).1 = .ok () →
    Spends limiters.callInvite (limiters.checkCallInvite check).2.callInvite
        check.burst.checkedAt check.key (max check.targets 1) ∧
      Spends limiters.callInvitePerMinute (limiters.checkCallInvite check).2.callInvitePerMinute
        check.minute.checkedAt check.key (max check.targets 1)

/-- The burst limiter has the cells for a check. -/
def BurstAffords (limiters : RateLimiters Cells) (check : InviteCheck) : Prop :=
  HasTokens limiters.callInvite check.burst.checkedAt check.key (chargedCells check.targets)

/-- The limiter of the minute has the cells for a check. -/
def MinuteAffords (limiters : RateLimiters Cells) (check : InviteCheck) : Prop :=
  HasTokens limiters.callInvitePerMinute check.minute.checkedAt check.key
    (chargedCells check.targets)

/-- No cells are charged for a check that the second limiter refuses, and a number of targets
that does not fit 32 bits is not let through by a limiter. -/
def ChargesWhole (limiters : RateLimiters Cells) (check : InviteCheck) : Prop :=
  (limiters.callInvite.isSome → limiters.BurstAffords check → limiters.MinuteAffords check) ∧
    (limiters.callInvite.isSome ∨ limiters.callInvitePerMinute.isSome →
      limiters.BurstAffords check → limiters.MinuteAffords check → check.targets < 2 ^ 32)

/-- The limiters behave as the check relies on. -/
def Lawful (limiters : RateLimiters Cells) : Prop :=
  LawfulKeyed limiters.callInvite ∧ LawfulKeyed limiters.callInvitePerMinute

/-- What a check does, by which limiter refuses. -/
theorem checkCallInvite_spec (lawful : limiters.Lawful) (check : InviteCheck) :
    (limiters.BurstAffords check ∧ limiters.MinuteAffords check ∧
        (limiters.checkCallInvite check).1 = .ok () ∧
        Spends limiters.callInvite (limiters.checkCallInvite check).2.callInvite
          check.burst.checkedAt check.key (chargedCells check.targets) ∧
        Spends limiters.callInvitePerMinute
          (limiters.checkCallInvite check).2.callInvitePerMinute
          check.minute.checkedAt check.key (chargedCells check.targets)) ∨
      (¬ limiters.BurstAffords check ∧
        ∃ rejection, limiters.checkCallInvite check = (.error rejection, limiters)) ∨
      (limiters.BurstAffords check ∧ ¬ limiters.MinuteAffords check ∧
        (∃ rejection, (limiters.checkCallInvite check).1 = .error rejection) ∧
        Spends limiters.callInvite (limiters.checkCallInvite check).2.callInvite
          check.burst.checkedAt check.key (chargedCells check.targets) ∧
        (limiters.checkCallInvite check).2.callInvitePerMinute =
          limiters.callInvitePerMinute) := by
  have asked := chargedCells_pos check.targets
  rcases checkN_spec lawful.1 check.burst check.key asked with
    ⟨burst, allowed, spent⟩ | ⟨burst, rejection, refused⟩
  · rcases checkN_spec lawful.2 check.minute check.key asked with
      ⟨minute, allowedToo, spentToo⟩ | ⟨minute, rejection, refused⟩
    · left
      refine ⟨burst, minute, ?_⟩
      simp only [checkCallInvite, allowed, allowedToo]
      exact ⟨trivial, spent, spentToo⟩
    · right
      right
      refine ⟨burst, minute, ?_⟩
      simp only [checkCallInvite, allowed, refused]
      exact ⟨⟨rejection, rfl⟩, spent, trivial⟩
  · right
    left
    refine ⟨burst, rejection, ?_⟩
    simp only [checkCallInvite, refused]

/-- Two amounts spent from one limiter are the same, if there is a limiter. -/
theorem spends_unique {before after : Option (KeyedLimiter Cells)} {now : Instant}
    {key : RateLimitKey} {first second : ℕ} (present : before.isSome)
    (firstSpent : Spends before after now key first)
    (secondSpent : Spends before after now key second) : first = second := by
  obtain ⟨limiter, rfl⟩ := Option.isSome_iff_exists.mp present
  have same := firstSpent.symm.trans secondSpent
  cases after with
  | none => cases firstSpent
  | some after =>
      simp only [tokensLeft_some, Option.map_some, Option.some.injEq] at same
      omega

/-- Nothing is left of a limiter that is not there. -/
theorem eq_none_of_spends {after : Option (KeyedLimiter Cells)} {now : Instant}
    {key : RateLimitKey} {n : ℕ} (spent : Spends none after now key n) : after = none := by
  cases after with
  | none => rfl
  | some after => cases spent

theorem spends_zero {before after : Option (KeyedLimiter Cells)} {now : Instant}
    {key : RateLimitKey} (same : tokensLeft after now key = tokensLeft before now key) :
    Spends before after now key 0 := by
  rw [Spends, same]
  simp

theorem chargedCells_eq_iff (targets : ℕ) :
    chargedCells targets = max targets 1 ↔ targets < 2 ^ 32 := by
  rw [chargedCells]
  omega

/-- One check is all or nothing exactly when it charges whole. -/
theorem allOrNothing_iff (lawful : limiters.Lawful) (check : InviteCheck) :
    limiters.AllOrNothing check ↔ limiters.ChargesWhole check := by
  rcases checkCallInvite_spec lawful check with
    ⟨burst, minute, allowed, spent, spentToo⟩ | ⟨burst, rejection, refused⟩ |
      ⟨burst, minute, ⟨rejection, refused⟩, spent, kept⟩
  · constructor
    · intro whole
      refine ⟨fun _ _ => minute, ?_⟩
      intro present _ _
      apply (chargedCells_eq_iff check.targets).mp
      obtain ⟨full, fullToo⟩ := whole.allowed allowed
      rcases present with present | present
      · exact spends_unique present spent full
      · exact spends_unique present spentToo fullToo
    · intro whole
      refine ⟨?_, ?_⟩
      · intro rejection refused
        rw [allowed] at refused
        cases refused
      · intro _
        by_cases present : limiters.callInvite.isSome ∨ limiters.callInvitePerMinute.isSome
        · rw [← (chargedCells_eq_iff check.targets).mpr (whole.2 present burst minute)]
          exact ⟨spent, spentToo⟩
        · obtain ⟨noBurst, noMinute⟩ := not_or.mp present
          rw [Option.not_isSome_iff_eq_none] at noBurst noMinute
          constructor
          · rw [noBurst] at spent ⊢
            rw [eq_none_of_spends spent]
            rfl
          · rw [noMinute] at spentToo ⊢
            rw [eq_none_of_spends spentToo]
            rfl
  · constructor
    · intro _
      exact ⟨fun _ affords => absurd affords burst, fun _ affords => absurd affords burst⟩
    · intro _
      refine ⟨?_, ?_⟩
      · intro _ _ now
        rw [refused]
        exact ⟨rfl, rfl⟩
      · intro allowed
        rw [refused] at allowed
        cases allowed
  · constructor
    · intro whole
      have same := (whole.refused rejection refused check.burst.checkedAt).1
      refine ⟨?_, fun _ _ affords => absurd affords minute⟩
      intro present _
      have nothing := spends_unique present spent (spends_zero same)
      have something := chargedCells_pos check.targets
      omega
    · intro whole
      have absent : limiters.callInvite = none := by
        apply Option.not_isSome_iff_eq_none.mp
        intro present
        exact minute (whole.1 present burst)
      refine ⟨?_, ?_⟩
      · intro _ _ now
        rw [absent] at spent ⊢
        rw [kept, eq_none_of_spends spent]
        exact ⟨rfl, rfl⟩
      · intro allowed
        rw [refused] at allowed
        cases allowed

/-! ## Runs of checks -/

theorem Lawful.checkCallInvite (lawful : limiters.Lawful) (check : InviteCheck) :
    (limiters.checkCallInvite check).2.Lawful := by
  have burst := lawful.1.checkN check.burst check.key (chargedCells check.targets)
  have minute := lawful.2.checkN check.minute check.key (chargedCells check.targets)
  simp only [RateLimiters.checkCallInvite]
  split
  · exact ⟨burst, lawful.2⟩
  · exact ⟨burst, minute⟩

/-- A refused check that charges whole changes no limiter. -/
theorem checkCallInvite_of_refused (lawful : limiters.Lawful) {check : InviteCheck}
    {rejection : RateLimitRejection} (whole : limiters.ChargesWhole check)
    (refused : (limiters.checkCallInvite check).1 = .error rejection) :
    (limiters.checkCallInvite check).2 = limiters := by
  rcases checkCallInvite_spec lawful check with
    ⟨_, _, allowed, _⟩ | ⟨_, rejection, same⟩ | ⟨burst, minute, _, spent, kept⟩
  · rw [allowed] at refused
    cases refused
  · rw [same]
  · have absent : limiters.callInvite = none := by
      apply Option.not_isSome_iff_eq_none.mp
      intro present
      exact minute (whole.1 present burst)
    rw [absent] at spent
    have gone := eq_none_of_spends spent
    cases after : (limiters.checkCallInvite check).2 with
    | mk callInvite callInvitePerMinute =>
        rw [after] at gone kept
        cases limiters
        cases absent
        cases gone
        cases kept
        rfl

/-- The limiters after a run of checks. -/
def checkAll (limiters : RateLimiters Cells) (checks : List InviteCheck) : RateLimiters Cells :=
  checks.foldl (fun limiters check => (limiters.checkCallInvite check).2) limiters

/-- The checks of a run that are allowed. -/
def allowedChecks : RateLimiters Cells → List InviteCheck → List InviteCheck
  | _, [] => []
  | limiters, check :: checks =>
      let after := allowedChecks (limiters.checkCallInvite check).2 checks
      match (limiters.checkCallInvite check).1 with
      | .ok () => check :: after
      | .error _ => after

/-- How many targets a run lets through. -/
def allowedTargets (limiters : RateLimiters Cells) (checks : List InviteCheck) : ℕ :=
  ((allowedChecks limiters checks).map InviteCheck.targets).sum

theorem Lawful.checkAll (lawful : limiters.Lawful) (checks : List InviteCheck) :
    (limiters.checkAll checks).Lawful := by
  induction checks generalizing limiters with
  | nil => exact lawful
  | cons check checks ih => exact ih (lawful.checkCallInvite check)

theorem allowedChecks_append (limiters : RateLimiters Cells) (before after : List InviteCheck) :
    allowedChecks limiters (before ++ after) =
      allowedChecks limiters before ++ allowedChecks (limiters.checkAll before) after := by
  induction before generalizing limiters with
  | nil => rfl
  | cons check before ih =>
      simp only [List.cons_append, allowedChecks, ih]
      split
      · rfl
      · rfl

/-- A refused check that charges whole can be left out of a run. -/
theorem allowedChecks_drop_refused (lawful : limiters.Lawful) (before after : List InviteCheck)
    {check : InviteCheck} {rejection : RateLimitRejection}
    (whole : (limiters.checkAll before).ChargesWhole check)
    (refused : ((limiters.checkAll before).checkCallInvite check).1 = .error rejection) :
    allowedChecks limiters (before ++ check :: after) =
      allowedChecks limiters (before ++ after) := by
  have same := checkCallInvite_of_refused (lawful.checkAll before) whole refused
  rw [allowedChecks_append, allowedChecks_append, allowedChecks, same, refused]

/-- An invite check is all or nothing exactly when the limiter of the minute has the cells that
the burst limiter charges, and the number of targets fits 32 bits if a limiter lets it through.
Refused checks of this kind have no influence on how many targets a run lets through. -/
theorem checkCallInvite_allOrNothing (lawful : limiters.Lawful) :
    (∀ check, limiters.AllOrNothing check ↔ limiters.ChargesWhole check) ∧
      ∀ (before after : List InviteCheck) (check : InviteCheck) (rejection : RateLimitRejection),
        (limiters.checkAll before).ChargesWhole check →
          ((limiters.checkAll before).checkCallInvite check).1 = .error rejection →
            limiters.allowedTargets (before ++ check :: after) =
              limiters.allowedTargets (before ++ after) := by
  refine ⟨allOrNothing_iff lawful, ?_⟩
  intro before after check rejection whole refused
  rw [allowedTargets, allowedTargets, allowedChecks_drop_refused lawful before after whole refused]

end RateLimiters

end Checks

namespace RateLimiters

instance decidableHasTokens {Cells : Type} (keyed : Option (KeyedLimiter Cells)) (now : Instant)
    (key : RateLimitKey) (n : ℕ) : Decidable (HasTokens keyed now key n) :=
  inferInstanceAs (Decidable (∀ tokens ∈ tokensLeft keyed now key, n ≤ tokens))

instance decidableChargesWhole {Cells : Type} (limiters : RateLimiters Cells)
    (check : InviteCheck) : Decidable (limiters.ChargesWhole check) :=
  have : Decidable (limiters.BurstAffords check) := decidableHasTokens _ _ _ _
  have : Decidable (limiters.MinuteAffords check) := decidableHasTokens _ _ _ _
  inferInstanceAs (Decidable (_ ∧ _))

/-- A limiter of the generic cell rate algorithm that has not seen a key. -/
def unused (period : Duration) (burst : ℕ) : KeyedLimiter (RateLimitKey → ℕ) where
  limiter := gcra period burst
  cells := fun _ => 0

/-- Bursts of `burst` targets with one cell back in ten minutes, and `perMinute` a minute. -/
def tenMinutely (burst perMinute : ℕ) : RateLimiters (RateLimitKey → ℕ) :=
  fromConfig unused
    { enabled := true
      callInvite := { enabled := true, perSeconds := 600, burst := burst }
      callInvitePerMinute := perMinute }

theorem tenMinutely_lawful (burst : ℕ) {perMinute : ℕ} (few : perMinute ≤ 60000000000) :
    (tenMinutely burst perMinute).Lawful := by
  constructor
  · rintro limiter same
    cases same
    exact gcra_lawful (by simp) burst
  · intro limiter same
    by_cases any : 0 < perMinute
    · simp only [tenMinutely, fromConfig, if_true, if_pos any, Option.mem_some_iff] at same
      subst same
      exact gcra_lawful (Nat.div_pos few any) perMinute
    · simp only [tenMinutely, fromConfig, if_true, if_neg any] at same
      cases same

/-- A check for `client1` at a number of seconds. -/
def checkAt (seconds targets : ℕ) : InviteCheck where
  key := ⟨"client1"⟩
  targets := targets
  burst := { checkedAt := seconds * 1000000000, countedFrom := seconds * 1000000000 }
  minute := { checkedAt := seconds * 1000000000, countedFrom := seconds * 1000000000 }

/-- Three targets of eight in a burst and three a minute are charged whole, and an invite for
nine targets does not change what follows. -/
theorem checkCallInvite_allOrNothing_threeTargets :
    (tenMinutely 8 3).AllOrNothing (checkAt 0 3) ∧
      (tenMinutely 8 3).allowedTargets ([] ++ checkAt 0 9 :: [checkAt 0 3]) =
        (tenMinutely 8 3).allowedTargets ([] ++ [checkAt 0 3]) := by
  have lawful : (tenMinutely 8 3).Lawful := tenMinutely_lawful 8 (by decide)
  refine ⟨((checkCallInvite_allOrNothing lawful).1 _).mpr (by decide +kernel), ?_⟩
  exact (checkCallInvite_allOrNothing lawful).2 [] _ _ .tooManyTargets (by decide +kernel) rfl

/-- After three targets in a minute the fourth one is refused, and the burst limiter is charged
for it. Five such refusals use up the burst, and a minute later an invite is refused that would
otherwise be let through. -/
theorem refusedInvites_charged :
    ¬ ((tenMinutely 8 3).checkAll [checkAt 0 3]).AllOrNothing (checkAt 0 1) ∧
      (tenMinutely 8 3).allowedTargets
          (checkAt 0 3 :: List.replicate 5 (checkAt 0 1) ++ [checkAt 60 1]) = 3 ∧
      (tenMinutely 8 3).allowedTargets (checkAt 0 3 :: [checkAt 60 1]) = 4 := by
  refine ⟨?_, by decide +kernel, by decide +kernel⟩
  intro whole
  have lawful : (tenMinutely 8 3).Lawful := tenMinutely_lawful 8 (by decide)
  have charged := (allOrNothing_iff (lawful.checkAll [checkAt 0 3]) (checkAt 0 1)).mp whole
  exact absurd charged (by decide +kernel)

end RateLimiters

end Vacs
