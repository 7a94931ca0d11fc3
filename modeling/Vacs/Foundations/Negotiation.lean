import Mathlib.Data.List.Basic

/-!
# Offers and answers between two ends

Two ends negotiate a connection over one FIFO channel in each direction. An end that
offers waits for the answer; an end that accepts an offer holds the exchange at once
and answers. Offers carry no number that an answer could be checked against, so an
answer goes to whatever offer is waiting.

An end whose connection broke retries: it may give up what it holds and offer anew.
When offers cross, the keeper ignores the other's offer while it retries, and the
yielder accepts every offer.

A link is coherent if it is in one of eight phases, told apart by the messages in
flight. Every step from a coherent link leads to a coherent link. So an answer only
meets the offer it answers, and ends that rest hold the same exchange.
-/

set_option autoImplicit false

namespace Negotiation

/-- A message, with the exchange it belongs to. -/
inductive Message where
  | offer (exchange : ℕ)
  | answer (exchange : ℕ)
deriving DecidableEq, Repr

/-- What an end holds of the connection. A broken connection does not come back. -/
inductive Status where
  | idle
  | offering (exchange : ℕ)
  | settled (exchange : ℕ) (broken : Bool)
deriving DecidableEq, Repr

/-- One end of the link. -/
structure Party where
  status : Status
  retrying : Bool
deriving DecidableEq, Repr

namespace Party

/-- What happens to a connection apart from the messages. -/
inductive Turns (party : Party) : Party → Prop where
  | stays : Turns party party
  | gives_up (retries : party.retrying = true) : Turns party { party with status := .idle }
  | breaks {exchange : ℕ} {broken : Bool} (holds : party.status = .settled exchange broken) :
      Turns party ⟨.settled exchange true, true⟩
  | heals {exchange : ℕ} (holds : party.status = .settled exchange false) :
      Turns party ⟨.settled exchange false, false⟩

/-- The end waits for the answer to its offer, unless it gave the offer up. -/
def Offers (party : Party) (exchange : ℕ) : Prop :=
  party.status = .offering exchange ∨ party.status = .idle ∧ party.retrying = true

/-- The end holds the exchange, unless it gave it up. -/
def Holds (party : Party) (exchange : ℕ) : Prop :=
  (∃ broken, party.status = .settled exchange broken) ∨
    party.status = .idle ∧ party.retrying = true

/-- An end retries what is broken, and a first exchange only when it is broken. -/
structure Sound (party : Party) : Prop where
  retries : ∀ exchange, party.status = .settled exchange true → party.retrying = true
  first_broken : party.retrying = true → ∀ broken, party.status = .settled 0 broken →
    broken = true
  first_offer : party.retrying = true → party.status ≠ .offering 0

/-- An end offers anew to replace a first exchange, or to retry when none of its earlier
offers and no answer to them is in flight. -/
def MayOffer (party : Party) (outgoing incoming : List Message) : Prop :=
  (∃ broken, party.status = .settled 0 broken) ∨
    party.retrying = true ∧ (∀ exchange, .offer exchange ∉ outgoing) ∧
      ∀ exchange, .answer exchange ∉ incoming

theorem Offers.turn {party next : Party} {exchange : ℕ} (offers : party.Offers exchange)
    (turns : party.Turns next) : next.Offers exchange := by
  cases turns with
  | stays => exact offers
  | gives_up retries => exact .inr ⟨rfl, retries⟩
  | breaks holds => simp [Offers, holds] at offers
  | heals holds => simp [Offers, holds] at offers

theorem Holds.turn {party next : Party} {exchange : ℕ} (holds : party.Holds exchange)
    (turns : party.Turns next) : next.Holds exchange := by
  cases turns with
  | stays => exact holds
  | gives_up retries => exact .inr ⟨rfl, retries⟩
  | breaks settled =>
      simp only [Holds, settled, Status.settled.injEq, reduceCtorEq, false_and, or_false] at holds
      obtain ⟨_, rfl, _⟩ := holds
      exact .inl ⟨true, rfl⟩
  | heals settled =>
      simp only [Holds, settled, Status.settled.injEq, reduceCtorEq, false_and, or_false] at holds
      obtain ⟨_, rfl, _⟩ := holds
      exact .inl ⟨false, rfl⟩

theorem Sound.turn {party next : Party} (sound : party.Sound) (turns : party.Turns next) :
    next.Sound := by
  cases turns with
  | stays => exact sound
  | gives_up => exact ⟨nofun, nofun, nofun⟩
  | breaks => exact ⟨fun _ _ => rfl, by rintro _ _ ⟨⟩; rfl, nofun⟩
  | heals => exact ⟨nofun, nofun, nofun⟩

/-- A connection that was just made is not broken, and not a first one that is retried. -/
theorem Sound.settle {party : Party} {exchange : ℕ}
    (fresh : party.retrying = true → exchange ≠ 0) :
    Sound { party with status := .settled exchange false } := by
  refine ⟨nofun, ?_, nofun⟩
  rintro retries _ ⟨⟩
  exact absurd rfl (fresh retries)

theorem Sound.offer {party : Party} {exchange : ℕ}
    (fresh : party.retrying = true → exchange ≠ 0) :
    Sound { party with status := .offering exchange } := by
  refine ⟨nofun, nofun, ?_⟩
  rintro retries ⟨⟩
  exact fresh retries rfl

/-- A turn keeps the exchange, and cannot mend what is broken. -/
theorem Turns.settled {party next : Party} {exchange : ℕ} {broken : Bool}
    (turns : party.Turns next) (settled : next.status = .settled exchange broken) :
    ∃ before, party.status = .settled exchange before ∧ (before = true → broken = true) := by
  cases turns with
  | stays => exact ⟨broken, settled, id⟩
  | gives_up => cases settled
  | breaks holds =>
      cases settled
      exact ⟨_, holds, fun _ => rfl⟩
  | heals holds =>
      cases settled
      exact ⟨_, holds, id⟩

/-- An end that offers after a turn has taken none. -/
theorem Turns.offering {party next : Party} {exchange : ℕ} (turns : party.Turns next)
    (offering : next.status = .offering exchange) : next = party := by
  cases turns with
  | stays => rfl
  | gives_up => cases offering
  | breaks => cases offering
  | heals => cases offering

theorem Offers.not_settled {party : Party} {exchange other : ℕ} {broken : Bool}
    (offers : party.Offers exchange) : party.status ≠ .settled other broken := by
  intro settled
  simp [Offers, settled] at offers

theorem Holds.not_offering {party : Party} {exchange own : ℕ} (holds : party.Holds exchange) :
    party.status ≠ .offering own := by
  intro offering
  simp [Holds, offering] at holds

theorem Holds.eq_of_settled {party : Party} {exchange other : ℕ} {broken : Bool}
    (holds : party.Holds exchange) (settled : party.status = .settled other broken) :
    other = exchange := by
  simp only [Holds, settled, Status.settled.injEq, reduceCtorEq, false_and, or_false] at holds
  obtain ⟨_, same, _⟩ := holds
  exact same

theorem Offers.not_initial {party : Party} {exchange : ℕ} (offers : party.Offers exchange) :
    party ≠ ⟨.idle, false⟩ := by
  rintro rfl
  simp [Offers] at offers

theorem Holds.not_initial {party : Party} {exchange : ℕ} (holds : party.Holds exchange) :
    party ≠ ⟨.idle, false⟩ := by
  rintro rfl
  simp [Holds] at holds

/-- While the offer of an end or the answer to it is in flight, the end does not offer. -/
theorem Offers.not_mayOffer {party : Party} {exchange : ℕ} {outgoing incoming : List Message}
    (offers : party.Offers exchange)
    (inFlight : .offer exchange ∈ outgoing ∨ .answer exchange ∈ incoming) :
    ¬ party.MayOffer outgoing incoming := by
  rintro (⟨_, settled⟩ | ⟨_, noOffer, noAnswer⟩)
  · exact offers.not_settled settled
  · exact inFlight.elim (noOffer exchange) (noAnswer exchange)

end Party

/-! ## Links and their steps -/

/-- Two ends, the messages on their way to each of them, and the number of exchanges that
were opened so far. -/
structure Link where
  keeper : Party
  yielder : Party
  toKeeper : List Message
  toYielder : List Message
  exchanges : ℕ
deriving DecidableEq, Repr

/-- The steps of a link. An end applies an answer to whatever offer of its own is waiting. -/
inductive Step (link : Link) : Link → Prop where
  | keeperTurns {next : Party} (turns : link.keeper.Turns next) :
      Step link { link with keeper := next }
  | yielderTurns {next : Party} (turns : link.yielder.Turns next) :
      Step link { link with yielder := next }
  | starts (unstarted : link.exchanges = 0) :
      Step link { link with
        keeper := { link.keeper with status := .offering 0 }
        toYielder := link.toYielder ++ [.offer 0]
        exchanges := 1 }
  | keeperOffers (may : link.keeper.MayOffer link.toYielder link.toKeeper) :
      Step link { link with
        keeper := { link.keeper with status := .offering link.exchanges }
        toYielder := link.toYielder ++ [.offer link.exchanges]
        exchanges := link.exchanges + 1 }
  | yielderOffers (may : link.yielder.MayOffer link.toKeeper link.toYielder) :
      Step link { link with
        yielder := { link.yielder with status := .offering link.exchanges }
        toKeeper := link.toKeeper ++ [.offer link.exchanges]
        exchanges := link.exchanges + 1 }
  | keeperAccepts {exchange : ℕ} {rest : List Message}
      (next : link.toKeeper = .offer exchange :: rest) (rests : link.keeper.retrying = false)
      (free : ∀ own, link.keeper.status ≠ .offering own) :
      Step link { link with
        keeper := { link.keeper with status := .settled exchange false }
        toKeeper := rest
        toYielder := link.toYielder ++ [.answer exchange] }
  | keeperIgnores {exchange : ℕ} {rest : List Message}
      (next : link.toKeeper = .offer exchange :: rest) (retries : link.keeper.retrying = true) :
      Step link { link with toKeeper := rest }
  | yielderAccepts {exchange : ℕ} {rest : List Message}
      (next : link.toYielder = .offer exchange :: rest) :
      Step link { link with
        yielder := { link.yielder with status := .settled exchange false }
        toYielder := rest
        toKeeper := link.toKeeper ++ [.answer exchange] }
  | keeperApplies {exchange own : ℕ} {rest : List Message}
      (next : link.toKeeper = .answer exchange :: rest)
      (waits : link.keeper.status = .offering own) :
      Step link { link with
        keeper := { link.keeper with status := .settled own false }
        toKeeper := rest }
  | yielderApplies {exchange own : ℕ} {rest : List Message}
      (next : link.toYielder = .answer exchange :: rest)
      (waits : link.yielder.status = .offering own) :
      Step link { link with
        yielder := { link.yielder with status := .settled own false }
        toYielder := rest }
  | keeperDiscards {exchange : ℕ} {rest : List Message}
      (next : link.toKeeper = .answer exchange :: rest) (idle : link.keeper.status = .idle) :
      Step link { link with toKeeper := rest }
  | yielderDiscards {exchange : ℕ} {rest : List Message}
      (next : link.toYielder = .answer exchange :: rest) (idle : link.yielder.status = .idle) :
      Step link { link with toYielder := rest }

/-! ## The phases of a link -/

/-- What the ends hold while the given messages are on their way to the keeper and to the
yielder. -/
inductive Phase (keeper yielder : Party) : List Message → List Message → Prop where
  /-- Nothing is in flight. An offer of the yielder may have been ignored: the yielder retries
  or the keeper does, with nothing that could heal. -/
  | quiet (rests : ∃ exchange, keeper.Holds exchange)
      (other : (∃ exchange, yielder.Holds exchange) ∨ ∃ own, yielder.status = .offering own)
      (agree : ∀ first second lost gone, keeper.status = .settled first lost →
        yielder.status = .settled second gone → first = second)
      (ignored : ∀ own, yielder.status = .offering own → yielder.retrying = false →
        ∀ exchange broken, keeper.status = .settled exchange broken → broken = true) :
      Phase keeper yielder [] []
  /-- The keeper offers. Its first offer finds the yielder as it was at the start. -/
  | keeperOffers {exchange : ℕ} (own : keeper.Offers exchange)
      (initially : exchange = 0 ↔ yielder = ⟨.idle, false⟩) :
      Phase keeper yielder [] [.offer exchange]
  /-- The yielder answered. -/
  | yielderAnswers {exchange : ℕ} (own : keeper.Offers exchange)
      (holds : yielder.Holds exchange) : Phase keeper yielder [.answer exchange] []
  /-- The yielder offers, to retry or to replace the first exchange. -/
  | yielderOffers {exchange : ℕ} (own : yielder.Offers exchange)
      (rests : ∃ exchange, keeper.Holds exchange)
      (replaces : yielder.retrying = false → ∀ exchange broken,
        keeper.status = .settled exchange broken → exchange = 0) :
      Phase keeper yielder [.offer exchange] []
  /-- The keeper answered. -/
  | keeperAnswers {exchange : ℕ} (own : yielder.Offers exchange)
      (holds : keeper.Holds exchange) : Phase keeper yielder [] [.answer exchange]
  /-- The keeper answered, and then offers itself. -/
  | keeperTakesOver {exchange newer : ℕ} (own : yielder.Offers exchange)
      (offers : keeper.Offers newer) (later : newer ≠ 0) :
      Phase keeper yielder [] [.answer exchange, .offer newer]
  /-- The yielder answered, and then offers itself. -/
  | yielderTakesOver {exchange newer : ℕ} (own : keeper.Offers exchange)
      (offers : yielder.Offers newer) (replaces : yielder.retrying = false → exchange = 0) :
      Phase keeper yielder [.answer exchange, .offer newer] []
  /-- The offers cross. -/
  | crossing {exchange crossed : ℕ} (later : exchange ≠ 0) (own : keeper.Offers exchange)
      (offers : yielder.Offers crossed) :
      Phase keeper yielder [.offer crossed] [.offer exchange]
  /-- The yielder answered after its own offer, which the keeper is about to ignore. -/
  | yielderYields {exchange crossed : ℕ} (later : exchange ≠ 0) (own : keeper.Offers exchange)
      (holds : yielder.Holds exchange) :
      Phase keeper yielder [.offer crossed, .answer exchange] []

/-- A link that has not started, or is in one of the phases. -/
inductive Coherent (link : Link) : Prop where
  | unstarted (keeper : link.keeper = ⟨.idle, false⟩) (yielder : link.yielder = ⟨.idle, false⟩)
      (toKeeper : link.toKeeper = []) (toYielder : link.toYielder = [])
      (exchanges : link.exchanges = 0)
  | started (some_exchange : link.exchanges ≠ 0) (sound : link.keeper.Sound)
      (phase : Phase link.keeper link.yielder link.toKeeper link.toYielder)

/-! ## Every step leads from phase to phase -/

section Steps

variable {keeper yielder : Party} {toKeeper toYielder : List Message}

theorem Phase.keeperTurn {next : Party} (phase : Phase keeper yielder toKeeper toYielder)
    (turns : keeper.Turns next) : Phase next yielder toKeeper toYielder := by
  cases phase with
  | quiet rests other agree ignored =>
      obtain ⟨exchange, holds⟩ := rests
      refine .quiet ⟨exchange, holds.turn turns⟩ other ?_ ?_
      · intro first second lost gone settled
        obtain ⟨before, was, _⟩ := turns.settled settled
        exact agree first second before gone was
      · intro own offering still exchange broken settled
        obtain ⟨before, was, stays⟩ := turns.settled settled
        exact stays (ignored own offering still exchange before was)
  | keeperOffers own initially => exact .keeperOffers (own.turn turns) initially
  | yielderAnswers own holds => exact .yielderAnswers (own.turn turns) holds
  | yielderOffers own rests replaces =>
      obtain ⟨exchange, holds⟩ := rests
      refine .yielderOffers own ⟨exchange, holds.turn turns⟩ ?_
      intro still exchange broken settled
      obtain ⟨before, was, _⟩ := turns.settled settled
      exact replaces still exchange before was
  | keeperAnswers own holds => exact .keeperAnswers own (holds.turn turns)
  | keeperTakesOver own offers later => exact .keeperTakesOver own (offers.turn turns) later
  | yielderTakesOver own offers replaces =>
      exact .yielderTakesOver (own.turn turns) offers replaces
  | crossing later own offers => exact .crossing later (own.turn turns) offers
  | yielderYields later own holds => exact .yielderYields later (own.turn turns) holds

/-- An end that has only just begun takes no turn, and no turn leads back there. -/
theorem Party.Turns.initial_iff {party next : Party} (turns : party.Turns next) :
    next = ⟨.idle, false⟩ ↔ party = ⟨.idle, false⟩ := by
  constructor
  · rintro rfl
    generalize isInitial : (⟨.idle, false⟩ : Party) = initial at turns
    cases turns with
    | stays => rfl
    | gives_up retries =>
        rw [← congrArg Party.retrying isInitial] at retries
        cases retries
    | breaks => cases isInitial
    | heals => cases isInitial
  · rintro rfl
    cases turns with
    | stays => rfl
    | gives_up retries => cases retries
    | breaks holds => cases holds
    | heals holds => cases holds

/-- An end with an offer that retries after a turn has retried before. -/
theorem Party.Offers.retrying_of_turn {party next : Party} {exchange : ℕ}
    (offers : party.Offers exchange) (turns : party.Turns next)
    (still : next.retrying = false) : party.retrying = false := by
  cases turns with
  | stays => exact still
  | gives_up => exact still
  | breaks holds => exact absurd holds offers.not_settled
  | heals holds => exact absurd holds offers.not_settled

theorem Phase.yielderTurn {next : Party} (phase : Phase keeper yielder toKeeper toYielder)
    (turns : yielder.Turns next) : Phase keeper next toKeeper toYielder := by
  cases phase with
  | quiet rests other agree ignored =>
      refine .quiet rests ?_ ?_ ?_
      · rcases other with ⟨exchange, holds⟩ | ⟨own, offering⟩
        · exact .inl ⟨exchange, holds.turn turns⟩
        · rcases Party.Offers.turn (.inl offering) turns with offering | idle
          · exact .inr ⟨own, offering⟩
          · exact .inl ⟨0, .inr idle⟩
      · intro first second lost gone settled other
        obtain ⟨before, was, _⟩ := turns.settled other
        exact agree first second lost before settled was
      · intro own offering
        obtain rfl := turns.offering offering
        exact ignored own offering
  | keeperOffers own initially =>
      exact .keeperOffers own (initially.trans turns.initial_iff.symm)
  | yielderAnswers own holds => exact .yielderAnswers own (holds.turn turns)
  | yielderOffers own rests replaces =>
      refine .yielderOffers (own.turn turns) rests fun still => ?_
      exact replaces (own.retrying_of_turn turns still)
  | keeperAnswers own holds => exact .keeperAnswers (own.turn turns) holds
  | keeperTakesOver own offers later => exact .keeperTakesOver (own.turn turns) offers later
  | yielderTakesOver own offers replaces =>
      refine .yielderTakesOver own (offers.turn turns) fun still => ?_
      exact replaces (offers.retrying_of_turn turns still)
  | crossing later own offers => exact .crossing later own (offers.turn turns)
  | yielderYields later own holds => exact .yielderYields later own (holds.turn turns)

theorem Phase.keeperOffer {exchange : ℕ} (phase : Phase keeper yielder toKeeper toYielder)
    (later : exchange ≠ 0) (may : keeper.MayOffer toYielder toKeeper) :
    Phase { keeper with status := .offering exchange } yielder toKeeper
      (toYielder ++ [.offer exchange]) := by
  cases phase with
  | quiet _ other =>
      refine .keeperOffers (.inl rfl) (iff_of_false later ?_)
      rintro rfl
      rcases other with ⟨_, holds⟩ | ⟨_, offering⟩
      · exact holds.not_initial rfl
      · cases offering
  | yielderOffers own => exact .crossing later (.inl rfl) own
  | keeperAnswers own => exact .keeperTakesOver own (.inl rfl) later
  | keeperOffers own => exact absurd may (own.not_mayOffer (.inl (by simp)))
  | yielderAnswers own => exact absurd may (own.not_mayOffer (.inr (by simp)))
  | keeperTakesOver _ offers => exact absurd may (offers.not_mayOffer (.inl (by simp)))
  | yielderTakesOver own => exact absurd may (own.not_mayOffer (.inr (by simp)))
  | crossing _ own => exact absurd may (own.not_mayOffer (.inl (by simp)))
  | yielderYields _ own => exact absurd may (own.not_mayOffer (.inr (by simp)))

/-- An end that does not retry offers to replace the first exchange. -/
theorem Party.MayOffer.replaces {party : Party} {outgoing incoming : List Message}
    (may : party.MayOffer outgoing incoming) (still : party.retrying = false) :
    ∃ broken, party.status = .settled 0 broken := by
  rcases may with settled | ⟨retries, _⟩
  · exact settled
  · simp [still] at retries

theorem Phase.yielderOffer {exchange : ℕ} (phase : Phase keeper yielder toKeeper toYielder)
    (may : yielder.MayOffer toKeeper toYielder) :
    Phase keeper { yielder with status := .offering exchange } (toKeeper ++ [.offer exchange])
      toYielder := by
  cases phase with
  | quiet rests _ agree =>
      refine .yielderOffers (.inl rfl) rests fun still first lost settled => ?_
      obtain ⟨broken, replaced⟩ := may.replaces still
      exact agree first 0 lost broken settled replaced
  | keeperOffers own initially =>
      refine .crossing (fun first => ?_) own (.inl rfl)
      rw [initially.mp first] at may
      obtain ⟨_, settled⟩ := may.replaces rfl
      cases settled
  | yielderAnswers own holds =>
      refine .yielderTakesOver own (.inl rfl) fun still => ?_
      obtain ⟨_, settled⟩ := may.replaces still
      exact (holds.eq_of_settled settled).symm
  | yielderOffers own => exact absurd may (own.not_mayOffer (.inl (by simp)))
  | keeperAnswers own => exact absurd may (own.not_mayOffer (.inr (by simp)))
  | keeperTakesOver own => exact absurd may (own.not_mayOffer (.inr (by simp)))
  | yielderTakesOver _ offers => exact absurd may (offers.not_mayOffer (.inl (by simp)))
  | crossing _ _ offers => exact absurd may (offers.not_mayOffer (.inl (by simp)))
  | yielderYields later _ holds =>
      rcases may with ⟨_, settled⟩ | ⟨_, noOffer, _⟩
      · exact absurd (holds.eq_of_settled settled).symm later
      · exact absurd List.mem_cons_self (noOffer _)

theorem Phase.keeperAccept {exchange : ℕ}
    (phase : Phase keeper yielder (.offer exchange :: toKeeper) toYielder)
    (rests : keeper.retrying = false) (free : ∀ own, keeper.status ≠ .offering own) :
    Phase { keeper with status := .settled exchange false } yielder toKeeper
      (toYielder ++ [.answer exchange]) := by
  -- The keeper does not wait for an answer, so no offer of its own is in flight.
  have notOffers : ∀ own, ¬ keeper.Offers own := by
    rintro own (offering | ⟨_, retries⟩)
    · exact free own offering
    · simp [rests] at retries
  cases phase with
  | yielderOffers own => exact .keeperAnswers own (.inl ⟨false, rfl⟩)
  | crossing _ own => exact absurd own (notOffers _)
  | yielderYields _ own => exact absurd own (notOffers _)

theorem Phase.keeperIgnore {exchange : ℕ} (sound : keeper.Sound)
    (phase : Phase keeper yielder (.offer exchange :: toKeeper) toYielder)
    (retries : keeper.retrying = true) : Phase keeper yielder toKeeper toYielder := by
  cases phase with
  | yielderOffers own rests replaces =>
      refine .quiet rests ?_ (fun _ _ _ _ _ settled => absurd settled own.not_settled) ?_
      · rcases own with offering | idle
        · exact .inr ⟨_, offering⟩
        · exact .inl ⟨0, .inr idle⟩
      · intro _ _ still exchange broken settled
        obtain rfl := replaces still exchange broken settled
        exact sound.first_broken retries broken settled
  | crossing later own offers =>
      exact .keeperOffers own (iff_of_false later offers.not_initial)
  | yielderYields _ own holds => exact .yielderAnswers own holds

theorem Phase.yielderAccept {exchange : ℕ}
    (phase : Phase keeper yielder toKeeper (.offer exchange :: toYielder)) :
    Phase keeper { yielder with status := .settled exchange false }
      (toKeeper ++ [.answer exchange]) toYielder := by
  cases phase with
  | keeperOffers own => exact .yielderAnswers own (.inl ⟨false, rfl⟩)
  | crossing later own => exact .yielderYields later own (.inl ⟨false, rfl⟩)

/-- An end that waits for an answer waits for the one to its own offer. -/
theorem Party.Offers.eq_of_offering {party : Party} {exchange own : ℕ}
    (offers : party.Offers exchange) (waits : party.status = .offering own) :
    own = exchange := by
  simpa [Offers, waits] using offers

/-- An end that offered and holds nothing has given the offer up. -/
theorem Party.Offers.holds_of_idle {party : Party} {exchange : ℕ}
    (offers : party.Offers exchange) (idle : party.status = .idle) (any : ℕ) :
    party.Holds any := by
  rcases offers with offering | gaveUp
  · simp [idle] at offering
  · exact .inr gaveUp

theorem Phase.keeperApply {exchange own : ℕ}
    (phase : Phase keeper yielder (.answer exchange :: toKeeper) toYielder)
    (waits : keeper.status = .offering own) :
    Phase { keeper with status := .settled own false } yielder toKeeper toYielder := by
  cases phase with
  | yielderAnswers offers holds =>
      rw [offers.eq_of_offering waits]
      refine .quiet ⟨exchange, .inl ⟨false, rfl⟩⟩ (.inl ⟨exchange, holds⟩) ?_
        fun _ offering => absurd offering holds.not_offering
      rintro _ second _ gone ⟨⟩ settled
      exact (holds.eq_of_settled settled).symm
  | yielderTakesOver offers others replaces =>
      rw [offers.eq_of_offering waits]
      refine .yielderOffers others ⟨exchange, .inl ⟨false, rfl⟩⟩ ?_
      rintro still _ _ ⟨⟩
      exact replaces still

theorem Phase.yielderApply {exchange own : ℕ}
    (phase : Phase keeper yielder toKeeper (.answer exchange :: toYielder))
    (waits : yielder.status = .offering own) :
    Phase keeper { yielder with status := .settled own false } toKeeper toYielder := by
  cases phase with
  | keeperAnswers offers holds =>
      rw [offers.eq_of_offering waits]
      refine .quiet ⟨exchange, holds⟩ (.inl ⟨exchange, .inl ⟨false, rfl⟩⟩) ?_ nofun
      rintro first _ lost _ settled ⟨⟩
      exact holds.eq_of_settled settled
  | keeperTakesOver _ offers later =>
      exact .keeperOffers offers (iff_of_false later nofun)

theorem Phase.keeperDiscard {exchange : ℕ}
    (phase : Phase keeper yielder (.answer exchange :: toKeeper) toYielder)
    (idle : keeper.status = .idle) : Phase keeper yielder toKeeper toYielder := by
  have notSettled : ∀ first lost, keeper.status ≠ .settled first lost := by simp [idle]
  cases phase with
  | yielderAnswers offers holds =>
      exact .quiet ⟨0, offers.holds_of_idle idle 0⟩ (.inl ⟨exchange, holds⟩)
        (fun _ _ _ _ settled => absurd settled (notSettled _ _))
        fun _ _ _ _ _ settled => absurd settled (notSettled _ _)
  | yielderTakesOver offers others =>
      exact .yielderOffers others ⟨0, offers.holds_of_idle idle 0⟩
        fun _ _ _ settled => absurd settled (notSettled _ _)

theorem Phase.yielderDiscard {exchange : ℕ}
    (phase : Phase keeper yielder toKeeper (.answer exchange :: toYielder))
    (idle : yielder.status = .idle) : Phase keeper yielder toKeeper toYielder := by
  cases phase with
  | keeperAnswers offers holds =>
      exact .quiet ⟨exchange, holds⟩ (.inl ⟨0, offers.holds_of_idle idle 0⟩)
        (fun _ _ _ _ _ settled => by simp [idle] at settled)
        fun _ offering => by simp [idle] at offering
  | keeperTakesOver own offers later =>
      exact .keeperOffers offers (iff_of_false later own.not_initial)

end Steps

/-! ## What a coherent link guarantees -/

/-- Every step of a coherent link leads to a coherent link. -/
theorem Coherent.step {link next : Link} (coherent : Coherent link) (steps : Step link next) :
    Coherent next := by
  obtain ⟨keeper, yielder, toKeeper, toYielder, exchanges⟩ := link
  cases coherent with
  | unstarted isKeeper isYielder noneToKeeper noneToYielder none_yet =>
      simp only at isKeeper isYielder noneToKeeper noneToYielder none_yet
      subst isKeeper isYielder noneToKeeper noneToYielder none_yet
      cases steps with
      | keeperTurns turns => exact .unstarted (turns.initial_iff.mpr rfl) rfl rfl rfl rfl
      | yielderTurns turns => exact .unstarted rfl (turns.initial_iff.mpr rfl) rfl rfl rfl
      | starts =>
          refine .started Nat.one_ne_zero (Party.Sound.offer nofun) ?_
          exact .keeperOffers (.inl rfl) (iff_of_true rfl rfl)
      | keeperOffers may => cases (may.replaces rfl).choose_spec
      | yielderOffers may => cases (may.replaces rfl).choose_spec
      | keeperAccepts arrives => cases arrives
      | keeperIgnores arrives => cases arrives
      | yielderAccepts arrives => cases arrives
      | keeperApplies arrives => cases arrives
      | yielderApplies arrives => cases arrives
      | keeperDiscards arrives => cases arrives
      | yielderDiscards arrives => cases arrives
  | started some_exchange sound phase =>
      have more : exchanges + 1 ≠ 0 := Nat.succ_ne_zero exchanges
      simp only at phase sound some_exchange
      cases steps with
      | keeperTurns turns => exact .started some_exchange (sound.turn turns) (phase.keeperTurn turns)
      | yielderTurns turns => exact .started some_exchange sound (phase.yielderTurn turns)
      | starts unstarted => exact absurd unstarted some_exchange
      | keeperOffers may =>
          exact .started more (Party.Sound.offer fun _ => some_exchange)
            (phase.keeperOffer some_exchange may)
      | yielderOffers may => exact .started more sound (phase.yielderOffer may)
      | keeperAccepts arrives rests free =>
          cases arrives
          refine .started some_exchange (Party.Sound.settle fun retries => ?_)
            (phase.keeperAccept rests free)
          exact absurd (rests.symm.trans retries) Bool.false_ne_true
      | keeperIgnores arrives retries =>
          cases arrives
          exact .started some_exchange sound (phase.keeperIgnore sound retries)
      | yielderAccepts arrives =>
          cases arrives
          exact .started some_exchange sound phase.yielderAccept
      | keeperApplies arrives waits =>
          cases arrives
          refine .started some_exchange (Party.Sound.settle fun retries => ?_)
            (phase.keeperApply waits)
          rintro rfl
          exact sound.first_offer retries waits
      | yielderApplies arrives waits =>
          cases arrives
          exact .started some_exchange sound (phase.yielderApply waits)
      | keeperDiscards arrives idle =>
          cases arrives
          exact .started some_exchange sound (phase.keeperDiscard idle)
      | yielderDiscards arrives idle =>
          cases arrives
          exact .started some_exchange sound (phase.yielderDiscard idle)

/-- The keeper waits for the answer that arrives, unless it gave the offer up. -/
theorem Coherent.answer_toKeeper {link : Link} (coherent : Coherent link) {exchange : ℕ}
    {rest : List Message} (arrives : link.toKeeper = .answer exchange :: rest) :
    link.keeper.Offers exchange := by
  cases coherent with
  | unstarted _ _ none => simp [none] at arrives
  | started _ _ phase =>
      generalize link.toYielder = toYielder at phase
      rw [arrives] at phase
      cases phase with
      | yielderAnswers own => exact own
      | yielderTakesOver own => exact own

/-- The yielder waits for the answer that arrives, unless it gave the offer up. -/
theorem Coherent.answer_toYielder {link : Link} (coherent : Coherent link) {exchange : ℕ}
    {rest : List Message} (arrives : link.toYielder = .answer exchange :: rest) :
    link.yielder.Offers exchange := by
  cases coherent with
  | unstarted _ _ _ none => simp [none] at arrives
  | started _ _ phase =>
      generalize link.toKeeper = toKeeper at phase
      rw [arrives] at phase
      cases phase with
      | keeperAnswers own => exact own
      | keeperTakesOver own => exact own

/-- An offer that finds the yielder as it was at the start is the first one. -/
theorem Coherent.offer_toYielder {link : Link} (coherent : Coherent link) {exchange : ℕ}
    {rest : List Message} (arrives : link.toYielder = .offer exchange :: rest)
    (initially : link.yielder = ⟨.idle, false⟩) : exchange = 0 := by
  cases coherent with
  | unstarted _ _ _ none => simp [none] at arrives
  | started _ _ phase =>
      generalize link.toKeeper = toKeeper at phase
      rw [arrives] at phase
      cases phase with
      | keeperOffers _ first => exact first.mpr initially
      | crossing _ _ offers => exact absurd initially offers.not_initial

/-- No offer finds the keeper as it was at the start. -/
theorem Coherent.offer_toKeeper {link : Link} (coherent : Coherent link) {exchange : ℕ}
    {rest : List Message} (arrives : link.toKeeper = .offer exchange :: rest) :
    link.keeper ≠ ⟨.idle, false⟩ := by
  cases coherent with
  | unstarted _ _ none => simp [none] at arrives
  | started _ _ phase =>
      generalize link.toYielder = toYielder at phase
      rw [arrives] at phase
      cases phase with
      | yielderOffers _ rests => exact rests.choose_spec.not_initial
      | crossing _ own => exact own.not_initial
      | yielderYields _ own => exact own.not_initial

/-- With nothing in flight, both ends hold the same exchange if they hold one. -/
theorem Coherent.agree {link : Link} (coherent : Coherent link) (noneToKeeper : link.toKeeper = [])
    (noneToYielder : link.toYielder = []) {first second : ℕ} {lost gone : Bool}
    (keeper : link.keeper.status = .settled first lost)
    (yielder : link.yielder.status = .settled second gone) : first = second := by
  cases coherent with
  | unstarted idle => simp [idle] at keeper
  | started _ _ phase =>
      rw [noneToKeeper, noneToYielder] at phase
      cases phase with
      | quiet _ _ agree => exact agree first second lost gone keeper yielder

/-- With nothing in flight and nothing to retry, both ends hold an exchange. -/
theorem Coherent.rests {link : Link} (coherent : Coherent link)
    (started : link.exchanges ≠ 0) (noneToKeeper : link.toKeeper = [])
    (noneToYielder : link.toYielder = []) (keeper : link.keeper.retrying = false)
    (yielder : link.yielder.retrying = false) :
    ∃ exchange lost gone, link.keeper.status = .settled exchange lost ∧
      link.yielder.status = .settled exchange gone := by
  cases coherent with
  | unstarted _ _ _ _ none => exact absurd none started
  | started _ sound phase =>
      rw [noneToKeeper, noneToYielder] at phase
      cases phase with
      | quiet holds other agree ignored =>
          obtain ⟨exchange, ⟨lost, settled⟩ | ⟨_, retries⟩⟩ := holds
          · rcases other with ⟨second, ⟨gone, alsoSettled⟩ | ⟨_, retries⟩⟩ | ⟨own, offering⟩
            · obtain rfl := agree exchange second lost gone settled alsoSettled
              exact ⟨exchange, lost, gone, settled, alsoSettled⟩
            · simp [yielder] at retries
            · obtain rfl := ignored own offering yielder exchange lost settled
              have := sound.retries exchange settled
              simp [keeper] at this
          · simp [keeper] at retries

end Negotiation
