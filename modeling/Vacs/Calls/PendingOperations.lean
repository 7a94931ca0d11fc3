import Vacs.Calls.LaggingIndexes

/-!
# Operations in progress

The cells in which a lagging manager and a coherent one differ are accounted for
by the operations in progress (`Lags`). In turn the coherent manager knows
something of each of them (`PendingSections.Fits`): a client that is about to be
silenced no longer rings, a caller that is about to be freed is in no call. That
knowledge survives every step of the coherent manager that does not fall into the
window the operation leaves open.
-/

set_option autoImplicit false

namespace Vacs

open CallManager

/-! ## Operations in progress -/

namespace PendingSections

/-- The client of the operation is about to be marked in the ringing entry of a call. -/
def withdraws : PendingSections → CallId → Bool
  | .mark callId _ _, call => decide (callId = call)
  | _, _ => false

/-- A client is about to be silenced in a call. -/
def silences : PendingSections → CallId → ClientId → Bool
  | .silence callId _ _ callees, call, client => decide (callId = call ∧ client ∈ callees)
  | _, _, _ => false

/-- The busy marker of a client will be cleared unless it is in an active call. -/
def reads : PendingSections → ClientId → Bool
  | .readActive callerId, client => decide (callerId = client)
  | _, _ => false

/-- The busy marker of a client will be cleared. -/
def clears : PendingSections → ClientId → Bool
  | .clearBusy callerId, client => decide (callerId = client)
  | _, _ => false

/-- The operation accounts for a busy marker that is stale. -/
def Excuses : PendingSections → ClientId → CallId → Prop
  | .readActive callerId, client, _ => callerId = client
  | .clearBusy callerId, client, _ => callerId = client
  | .silence callId callerId ringingEnded _, client, call =>
      ringingEnded = true ∧ callerId = client ∧ callId = call
  | .release callId callerId, client, call => callerId = client ∧ callId = call
  | _, _, _ => False

/-- What the coherent manager knows of an operation in progress for a client. -/
def Fits (t : CallManager) (client : ClientId) : PendingSections → Prop
  | .readActive callerId => ∀ call, t.clientActiveCalls.lookup callerId = some call →
      (t.call call).Joined callerId
  | .clearBusy callerId => t.clientActiveCalls.lookup callerId = none
  | .silence callId callerId ringingEnded callees =>
      (∀ callee ∈ callees, rungAs t.clientIncomingCalls callee callId = none) ∧
        (ringingEnded = true → callerId = client ∧ ¬ (t.call callId).Calls callerId)
  | .release callId callerId => callerId = client ∧ ¬ (t.call callId).Engages callerId
  | _ => True

end PendingSections

/-- Some operation in progress has a property. -/
def Doing (tasks : HashMap ClientId PendingSections)
    (property : ClientId → PendingSections → Prop) : Prop :=
  ∃ client pending, tasks.lookup client = some pending ∧ property client pending

theorem Doing.alter {tasks : HashMap ClientId PendingSections}
    {property : ClientId → PendingSections → Prop} (doing : Doing tasks property)
    (client : ClientId) (after : Option PendingSections) :
    (∃ pending, tasks.lookup client = some pending ∧ property client pending) ∨
      Doing (tasks.alter client after) property := by
  obtain ⟨other, pending, found, holds⟩ := doing
  by_cases same : other = client
  · subst same
    exact .inl ⟨pending, found, holds⟩
  · refine .inr ⟨other, pending, ?_, holds⟩
    rwa [Finmap.lookup_alter, if_neg same]

def Withdrawing (tasks : HashMap ClientId PendingSections) (call : CallId) (client : ClientId) :
    Prop :=
  Doing tasks fun other pending => other = client ∧ pending.withdraws call = true

def Silencing (tasks : HashMap ClientId PendingSections) (call : CallId) (client : ClientId) :
    Prop :=
  Doing tasks fun _ pending => pending.silences call client = true

def Stale (tasks : HashMap ClientId PendingSections) (client : ClientId) (call : CallId) : Prop :=
  Doing tasks fun _ pending => pending.Excuses client call

/-- The manager lags behind a coherent one by what the operations in progress have still to
do. -/
structure Lags (tasks : HashMap ClientId PendingSections) (s t : CallManager) : Prop where
  coherent : Coherent t
  fits : ∀ client pending, tasks.lookup client = some pending → pending.Fits t client
  alike : Alike (Withdrawing tasks) (Silencing tasks) (Stale tasks) s t

/-- Some operation in progress has a property, or the one that comes in its place for a client
has it. -/
def During (tasks : HashMap ClientId PendingSections) (client : ClientId)
    (after : Option PendingSections) (property : ClientId → PendingSections → Prop) : Prop :=
  Doing tasks property ∨ ∃ left, after = some left ∧ property client left

theorem During.alter {tasks : HashMap ClientId PendingSections} {client : ClientId}
    {after : Option PendingSections} {property : ClientId → PendingSections → Prop}
    (during : During tasks client after property) :
    (∃ pending, tasks.lookup client = some pending ∧ property client pending) ∨
      Doing (tasks.alter client after) property := by
  rcases during with doing | ⟨left, isLeft, holds⟩
  · exact doing.alter client after
  · refine .inr ⟨client, left, ?_, holds⟩
    rw [Finmap.lookup_alter, if_pos rfl, isLeft]

theorem during_of_alter {tasks : HashMap ClientId PendingSections} {client : ClientId}
    {after : Option PendingSections} {property : ClientId → PendingSections → Prop}
    (doing : Doing (tasks.alter client after) property) : During tasks client after property := by
  obtain ⟨other, pending, found, holds⟩ := doing
  rw [Finmap.lookup_alter] at found
  split at found
  · rename_i same
    subst same
    exact .inr ⟨pending, found, holds⟩
  · exact .inl ⟨other, pending, found, holds⟩

/-- The relation while a section replaces what a client has still to do by what is left. -/
abbrev AlikeDuring (tasks : HashMap ClientId PendingSections) (client : ClientId)
    (after : Option PendingSections) (s t : CallManager) : Prop :=
  Alike
    (fun call callee => During tasks client after fun other pending =>
      other = callee ∧ pending.withdraws call = true)
    (fun call callee => During tasks client after fun _ pending =>
      pending.silences call callee = true)
    (fun caller call => During tasks client after fun _ pending => pending.Excuses caller call) s t

namespace Lags

variable {tasks : HashMap ClientId PendingSections} {s t : CallManager} {client : ClientId}
  {after : Option PendingSections}

/-- What is left to do may account for more. -/
theorem during (alike : Alike (Withdrawing tasks) (Silencing tasks) (Stale tasks) s t)
    (notMarked : ∀ left call, after = some left → left.withdraws call = false) :
    AlikeDuring tasks client after s t := by
  refine alike.relabel (fun call callee => ⟨?_, .inl⟩) (fun _ _ => .inl) (fun _ _ => .inl)
  rintro (doing | ⟨left, isLeft, _, withdraws⟩)
  · exact doing
  · rw [notMarked left call isLeft] at withdraws
    cases withdraws

/-- A section is through when what it accounted for is in order or left to be done. -/
theorem settle (coherent : Coherent t)
    (fits : ∀ other pending, tasks.lookup other = some pending → pending.Fits t other)
    (fitsAfter : ∀ left, after = some left → left.Fits t client)
    (alike : AlikeDuring tasks client after s t)
    (withdrawn : ∀ pending call, tasks.lookup client = some pending →
      pending.withdraws call = true →
        rungAs s.clientIncomingCalls client call = rungAs t.clientIncomingCalls client call)
    (silenced : ∀ pending call callee, tasks.lookup client = some pending →
      pending.silences call callee = true →
        (∃ left, after = some left ∧ left.silences call callee = true) ∨
          rungAs s.clientIncomingCalls callee call = rungAs t.clientIncomingCalls callee call)
    (excused : ∀ pending caller call, tasks.lookup client = some pending →
      pending.Excuses caller call → t.clientActiveCalls.lookup caller = none →
        s.clientActiveCalls.lookup caller = some call →
          ∃ left, after = some left ∧ left.Excuses caller call) :
    Lags (tasks.alter client after) s t where
  coherent := coherent
  fits other pending found := by
    rw [Finmap.lookup_alter] at found
    split at found
    · rename_i same
      subst same
      exact fitsAfter pending found
    · exact fits other pending found
  alike := by
    have leftDoes {property : ClientId → PendingSections → Prop}
        (does : ∃ left, after = some left ∧ property client left) :
        Doing (tasks.alter client after) property := by
      obtain ⟨left, isLeft, holds⟩ := does
      exact ⟨client, left, by rw [Finmap.lookup_alter, if_pos rfl, isLeft], holds⟩
    refine ⟨alike.ringingCalls, alike.activeCalls, alike.populated, ?_, ?_, ?_⟩
    · intro callee call
      rcases alike.incoming callee call with same | withdrawing | silencing
      · exact .inl same
      · rcases withdrawing.alter with ⟨pending, found, rfl, withdraws⟩ | doing
        · exact .inl (withdrawn pending call found withdraws)
        · exact .inr (.inl doing)
      · rcases silencing.alter with ⟨pending, found, silences⟩ | doing
        · rcases silenced pending call callee found silences with left | same
          · exact .inr (.inr (leftDoes left))
          · exact .inl same
        · exact .inr (.inr doing)
    · intro callee call withdrawing
      exact alike.withdrawn callee call (during_of_alter withdrawing)
    · intro caller
      rcases alike.busy caller with same | ⟨free, call, marked, stale⟩
      · exact .inl same
      · refine .inr ⟨free, call, marked, ?_⟩
        rcases stale.alter with ⟨pending, found, excuses⟩ | doing
        · exact leftDoes (excused pending caller call found excuses free marked)
        · exact doing

end Lags

/-! ## Steps of the coherent manager -/

/-- The coherent manager only takes clients and targets away. -/
structure Retreats (t t' : CallManager) : Prop where
  coherent : Coherent t'
  shrinks : ∀ call, Shrinks (t.call call) (t'.call call)
  rings : ∀ call target client, (t'.call call).Rings target client →
    (t.call call).Rings target client

theorem Retreats.refl {t : CallManager} (coherent : Coherent t) : Retreats t t where
  coherent := coherent
  shrinks call := .refl (coherent.wellFormed call)
  rings _ _ _ rings := rings

/-- Only an invitation makes a client ring. -/
theorem CallStep.rings_before {request : Request} {evicted : Option ClientId} {call : CallId}
    {before after : CallState} (step : CallStep request evicted call before after)
    (notInvite : ∀ caller source target notified,
      request.op ≠ .attemptCall call caller source target notified)
    {target : CallTarget} {client : ClientId} (rings : after.Rings target client) :
    before.Rings target client := by
  have departed {state : CallState} {gone : ClientId} (departs : Departs gone state after) :
      ∃ entry, state.ringing = some entry ∧ entry.Rings target client := by
    cases departs with
    | hangUp => exact absurd rings (CallState.rings_none _ _ _)
    | tearDown => exact absurd rings (CallState.rings_none _ _ _)
    | leave => exact rings
  cases step with
  | invite isOp => exact absurd isOp (notInvite _ _ _ _)
  | withdraw _ _ iff => exact ⟨_, rfl, ((iff target client).mp rings).1⟩
  | cancel _ _ _ iff => exact ⟨_, rfl, ((iff target client).mp rings).1⟩
  | answer _ _ _ _ _ iff => exact ⟨_, rfl, ((iff target client).mp rings).1⟩
  | drop => exact rings
  | depart _ departs => exact departed departs
  | report => exact rings
  | evict _ _ _ departs =>
      obtain ⟨entry, isEntry, rung⟩ := departed departs
      exact ⟨entry, isEntry, rung⟩

theorem Follows.retreats {request : Request} {evicted : Option ClientId} {t t' : CallManager}
    (follows : Follows request evicted t t') (coherent : Coherent t)
    (notInvite : ∀ call caller source target notified,
      request.op ≠ .attemptCall call caller source target notified)
    (notAnswer : ∀ call client, request.op ≠ .acceptCall call client) : Retreats t t' where
  coherent := follows.coherent coherent
  shrinks call := by
    rcases follows.calls call with same | step
    · rw [same]
      exact .refl (coherent.wellFormed call)
    · exact .of_step step (coherent.wellFormed call) (notInvite call) (notAnswer call)
  rings call target client rings := by
    rcases follows.calls call with same | step
    · rwa [same] at rings
    · exact step.rings_before (notInvite call) rings

theorem rungAs_eq_none_iff {t : CallManager} (coherent : Coherent t) (client : ClientId)
    (call : CallId) :
    rungAs t.clientIncomingCalls client call = none ↔
      ∀ target, ¬ (t.call call).Rings target client := by
  rw [Option.eq_none_iff_forall_ne_some]
  refine forall_congr' fun target => ?_
  rw [ne_eq, coherent.indexed.incoming client call target]
  simp

theorem busy_eq_none_iff {t : CallManager} (coherent : Coherent t) (client : ClientId) :
    t.clientActiveCalls.lookup client = none ↔ ∀ call, ¬ (t.call call).Engages client := by
  rw [Option.eq_none_iff_forall_ne_some]
  exact forall_congr' fun call => not_congr (coherent.indexed.busy client call)

namespace PendingSections.Fits

variable {t t' : CallManager} {client : ClientId} {pending : PendingSections}

/-- What is known of an operation in progress depends on who rings, calls and has joined. -/
theorem transfer (fits : pending.Fits t client) (coherent : Coherent t) (coherent' : Coherent t')
    (rings : ∀ call callee, pending.silences call callee = true → ∀ target,
      (t'.call call).Rings target callee → (t.call call).Rings target callee)
    (reads : ∀ caller call, pending.reads caller = true → (t'.call call).Calls caller →
      ((t.call call).Calls caller → (t.call call).Joined caller) → (t'.call call).Joined caller)
    (clears : ∀ caller call, pending.clears caller = true → (t'.call call).Engages caller →
      (t.call call).Engages caller)
    (calls : ∀ call, (t'.call call).Calls client → (t.call call).Calls client)
    (joined : ∀ call, (t'.call call).Joined client → (t.call call).Engages client) :
    pending.Fits t' client := by
  cases pending with
  | mark => trivial
  | readActive caller =>
      intro call busy
      rcases (coherent'.indexed.busy caller call).mp busy with callsAfter | joinedAfter
      · refine reads caller call (by simp [PendingSections.reads]) callsAfter fun callsBefore => ?_
        exact fits call ((coherent.indexed.busy caller call).mpr (.inl callsBefore))
      · exact joinedAfter
  | clearBusy caller =>
      change t.clientActiveCalls.lookup caller = none at fits
      change t'.clientActiveCalls.lookup caller = none
      rw [busy_eq_none_iff coherent] at fits
      rw [busy_eq_none_iff coherent']
      intro call engages
      exact fits call (clears caller call (by simp [PendingSections.clears]) engages)
  | silence call caller ended callees =>
      refine ⟨fun callee member => ?_, fun isEnded => ?_⟩
      · have silent := (rungAs_eq_none_iff coherent callee call).mp (fits.1 callee member)
        rw [rungAs_eq_none_iff coherent']
        intro target rung
        exact silent target (rings call callee (by simp [PendingSections.silences, member]) target
          rung)
      · obtain ⟨isClient, notCalls⟩ := fits.2 isEnded
        refine ⟨isClient, fun callsAfter => notCalls ?_⟩
        rw [isClient] at callsAfter ⊢
        exact calls call callsAfter
  | release call caller =>
      obtain ⟨isClient, notEngaged⟩ := fits
      refine ⟨isClient, fun engages => notEngaged ?_⟩
      rw [isClient] at engages ⊢
      rcases engages with callsAfter | joinedAfter
      · exact .inl (calls call callsAfter)
      · exact joined call joinedAfter
  | dropJoined => trivial
  | endCall => trivial

theorem retreat (fits : pending.Fits t client) (coherent : Coherent t)
    (retreats : Retreats t t') : pending.Fits t' client := by
  refine fits.transfer coherent retreats.coherent (fun call callee _ target =>
    retreats.rings call target callee) ?_ ?_ (fun call => (retreats.shrinks call).calls client)
    (fun call joined => .inr ((retreats.shrinks call).joined joined))
  · intro caller call _ callsAfter joinedBefore
    have joined := joinedBefore ((retreats.shrinks call).calls caller callsAfter)
    cases active : (t'.call call).active with
    | some entry =>
        exact (retreats.coherent.wellFormed call).callerJoined caller entry active callsAfter
    | none =>
        obtain ⟨entry, isRinging, _⟩ := callsAfter
        obtain ⟨entry', isActive, _⟩ := joined
        have notActive := (retreats.shrinks call).rings active (by simp [isRinging])
        cases notActive.symm.trans isActive
  · intro caller call _ engages
    exact engages.imp ((retreats.shrinks call).calls caller) (retreats.shrinks call).joined

theorem answer (fits : pending.Fits t client) (coherent : Coherent t) (coherent' : Coherent t')
    {call : CallId} {accepting caller : ClientId} {target : CallTarget}
    (answered : Answered accepting caller target (t.call call) (t'.call call))
    (rings : ∀ other rung, (t'.call call).Rings other rung → (t.call call).Rings other rung)
    (others : ∀ other, other ≠ call → t'.call other = t.call other)
    (idle : client ≠ accepting) (notCleared : pending.clears accepting = false) :
    pending.Fits t' client := by
  have callsBefore : ∀ other anybody, (t'.call other).Calls anybody →
      (t.call other).Calls anybody := by
    intro other anybody calls
    by_cases same : other = call
    · subst same
      exact answered.controls anybody (.inl calls) ▸ answered.calls
    · rwa [others other same] at calls
  have joinedBefore : ∀ other anybody, anybody ≠ accepting → (t'.call other).Joined anybody →
      (t.call other).Engages anybody := by
    intro other anybody different joined
    by_cases same : other = call
    · subst same
      rcases (answered.joined_iff anybody).mp joined with rfl | isAccepting | joined
      · exact .inl answered.calls
      · exact absurd isAccepting different
      · exact .inr joined
    · rw [others other same] at joined
      exact .inr joined
  refine fits.transfer coherent coherent' ?_ ?_ ?_ (callsBefore · client)
    (joinedBefore · client idle)
  · intro other callee _ rungTarget rung
    by_cases same : other = call
    · subst same
      exact rings rungTarget callee rung
    · rwa [others other same] at rung
  · intro reader other _ calls joined
    by_cases same : other = call
    · subst same
      exact (answered.joined_iff reader).mpr (.inl (answered.controls reader (.inl calls)))
    · rw [others other same]
      exact joined (callsBefore other reader calls)
  · intro cleared other clears engages
    have different : cleared ≠ accepting := by
      rintro rfl
      rw [notCleared] at clears
      cases clears
    exact engages.elim (fun calls => .inl (callsBefore other cleared calls))
      (joinedBefore other cleared different)

theorem invite (fits : pending.Fits t client) (coherent : Coherent t) (order : Iteration)
    {call : CallId} {caller : ClientId} {source : CallSource} {target : CallTarget}
    {notified : Finset ClientId} (fromCaller : source.clientId = caller ∧ caller ∉ notified)
    (valid : t.validateCallAttempt call caller target notified = .ok ())
    (idle : client ≠ caller) (notCleared : pending.clears caller = false)
    (inCall : pending.reads caller = true → t.inSomeActiveCall caller = true)
    (notSilenced : ∀ callee ∈ notified, pending.silences call callee = false) :
    pending.Fits (t.attemptCall order call caller source target notified).1 client := by
  have follows : Follows ⟨.attemptCall call caller source target notified, order, 0⟩ none t
      (t.attemptCall order call caller source target notified).1 := by
    refine attemptCall_follows coherent rfl ?_ none
    exact fromCaller
  have allowed := validateCallAttempt_allows coherent valid
  obtain ⟨atCall, others⟩ := call_of_tables t
    (t.attemptCall order call caller source target notified).1 call
    (some (invitedEntry (t.call call).ringing call caller source target notified))
    (t.call call).active
    (by rw [attemptCall_ok order source valid]
        exact fun other => Finmap.lookup_insert_eq _ _ other _)
    (by rw [attemptCall_ok order source valid]; exact lookup_unchanged _ rfl)
  have coherent' := follows.coherent coherent
  generalize (t.attemptCall order call caller source target notified).1 = t' at *
  have callerId := invitedEntry_callerId (fun entry found => (allowed.batch entry found).1) call
    source target notified
  have calls : ∀ other anybody, (t'.call other).Calls anybody →
      anybody = caller ∨ (t.call other).Calls anybody := by
    intro other anybody calls
    by_cases same : other = call
    · subst same
      rw [atCall, CallState.calls_some, callerId] at calls
      exact .inl calls.symm
    · rw [others other same] at calls
      exact .inr calls
  have joined : ∀ other anybody, (t'.call other).Joined anybody ↔ (t.call other).Joined anybody := by
    intro other anybody
    by_cases same : other = call
    · subst same
      rw [atCall]
      exact Iff.rfl
    · rw [others other same]
  refine fits.transfer coherent coherent' ?_ ?_ ?_
    (fun other callsAfter => (calls other client callsAfter).resolve_left idle)
    (fun other joinedAfter => .inr ((joined other client).mp joinedAfter))
  · intro other callee silences rungTarget rung
    by_cases same : other = call
    · subst same
      rw [atCall, CallState.rings_some, invitedEntry_rings
        (fun entry found => (allowed.batch entry found).2) other caller source notified
        (t.call other).active] at rung
      refine rung.resolve_left ?_
      rintro ⟨-, member⟩
      rw [notSilenced callee member] at silences
      cases silences
    · rwa [others other same] at rung
  · intro reader other reads callsAfter joinedBefore
    rw [joined]
    rcases calls other reader callsAfter with rfl | callsBefore
    · obtain ⟨active, entry, found, involved⟩ := (Finmap.anyValue_iff _ _).mp (inCall reads)
      have inActive : (t.call active).Joined reader :=
        ⟨entry, found, by simpa [ActiveCallEntry.involves] using involved⟩
      have engaged : ∀ engaging, (t'.call engaging).Engages reader → engaging = other :=
        fun engaging engages => coherent'.indexed.engages_unique engages (.inl callsAfter)
      rw [← engaged active (.inr ((joined active reader).mpr inActive))]
      exact inActive
    · exact joinedBefore callsBefore
  · intro cleared other clears engages
    have different : cleared ≠ caller := by
      rintro rfl
      rw [notCleared] at clears
      cases clears
    exact engages.imp (fun callsAfter => (calls other cleared callsAfter).resolve_left different)
      (joined other cleared).mp

end PendingSections.Fits

end Vacs
