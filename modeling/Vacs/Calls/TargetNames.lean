import Vacs.Calls.Disconnecting

/-!
# When a target names one participant

A participant takes part in a call as a target. Whoever answers takes the target
it was rung for; the caller takes the target its source stands for. A participant
is dropped by that target, so it matters whether two participants of one call may
carry the same one.

An invitation to an active call is checked against the targets of its
participants. An invitation to a call nobody has answered yet is checked against
nothing of the kind: a caller that calls as a station may invite that same
station, and whoever answers then shares the caller's target
(`sharedStation_namesTwo`). As long as no invitation of that kind is made
(`NamesNoSource`), a target names one participant in every reachable state.
-/

set_option autoImplicit false

namespace Vacs

open CallManager

/-- The targets of one call tell its participants apart. -/
structure NamesApart (state : CallState) : Prop where
  /-- No two participants carry one target. -/
  participants : ∀ active, state.active = some active → ∀ first second target,
    active.participants.lookup first = some target →
      active.participants.lookup second = some target → first = second
  /-- No participant carries a target that still rings. -/
  ringing : ∀ active entry, state.active = some active → state.ringing = some entry →
    ∀ client target, active.participants.lookup client = some target →
      entry.targets.lookup target = none
  /-- Before anybody has answered, no source stands for a target that rings. -/
  sources : ∀ entry, state.active = none → state.ringing = some entry → ∀ target ringing,
    entry.targets.lookup target = some ringing →
      entry.targets.lookup ringing.source.toTarget = none

namespace NamesApart

theorem none : NamesApart ⟨none, none⟩ := by
  constructor <;> simp

/-- Targets that stop ringing cannot clash. -/
theorem narrow {entry : RingingCallEntry} {ringing : Option RingingCallEntry}
    {active : Option ActiveCallEntry} (apart : NamesApart ⟨some entry, active⟩)
    (narrows : ∀ after, ringing = some after → Narrows entry after) :
    NamesApart ⟨ringing, active⟩ := by
  have absent : ∀ after, ringing = some after → ∀ target, entry.targets.lookup target = .none →
      after.targets.lookup target = .none := by
    intro after isAfter target wasAbsent
    cases found : after.targets.lookup target with
    | none => rfl
    | some kept =>
        obtain ⟨_, was, _⟩ := (narrows after isAfter).targets target kept found
        cases wasAbsent.symm.trans was
  refine ⟨apart.participants, ?_, ?_⟩
  · intro joined after isActive isAfter client target carries
    exact absent after isAfter target (apart.ringing joined entry isActive rfl client target carries)
  · intro after notActive isAfter target kept found
    obtain ⟨earlier, was, sameSource, _⟩ := (narrows after isAfter).targets target kept found
    rw [sameSource]
    exact absent after isAfter _ (apart.sources entry notActive rfl target earlier was)

/-- Participants that leave cannot clash. -/
theorem leave {ringing : Option RingingCallEntry} {active after : ActiveCallEntry}
    (apart : NamesApart ⟨ringing, some active⟩)
    (stays : ∀ client target, after.participants.lookup client = some target →
      active.participants.lookup client = some target) :
    NamesApart ⟨ringing, some after⟩ := by
  refine ⟨?_, ?_, by simp⟩
  · rintro _ ⟨⟩ first second target one two
    exact apart.participants active rfl first second target (stays first target one)
      (stays second target two)
  · rintro _ entry ⟨⟩ isEntry client target carries
    exact apart.ringing active entry rfl isEntry client target (stays client target carries)

end NamesApart

theorem lookup_leaveActive (active : ActiveCallEntry) (gone client : ClientId)
    (target : CallTarget) :
    (leaveActive active gone).participants.lookup client = some target →
      active.participants.lookup client = some target := by
  change (active.participants.erase gone).lookup client = some target → _
  rw [Finmap.lookup_erase_eq]
  split
  · exact fun absurd => nomatch absurd
  · exact id

theorem Departs.namesApart {client : ClientId} {before after : CallState}
    (departs : Departs client before after) (apart : NamesApart before) : NamesApart after := by
  cases departs with
  | hangUp => exact .none
  | tearDown => exact .none
  | leave => exact apart.leave (lookup_leaveActive _ _)

/-- A step that neither invites nor answers keeps the participants apart. -/
theorem CallStep.namesApart {request : Request} {evicted : Option ClientId} {call : CallId}
    {before after : CallState} (step : CallStep request evicted call before after)
    (notInvite : ∀ caller source target notified,
      request.op ≠ .attemptCall call caller source target notified)
    (notAnswer : ∀ client, request.op ≠ .acceptCall call client) (apart : NamesApart before) :
    NamesApart after := by
  cases step with
  | invite isOp => exact absurd isOp (notInvite _ _ _ _)
  | withdraw _ narrows _ => exact apart.narrow narrows
  | cancel _ _ narrows _ => exact apart.narrow narrows
  | answer isOp => exact absurd isOp (notAnswer _)
  | drop => exact apart.leave (lookup_leaveActive _ _)
  | depart _ departs => exact departs.namesApart apart
  | report => exact apart.leave fun _ _ carries => carries
  | evict _ _ _ departs => exact departs.namesApart (apart.leave fun _ _ carries => carries)

/-! ## Inviting -/

/-- An invitation to a call nobody has answered yet clashes with no source: its target is
neither what its own source stands for nor what another source of the call stands for, and its
source does not stand for a target that rings already. -/
def CallManager.NamesNoSource (s : CallManager) : Operation → Prop
  | .attemptCall callId callerId source target notifiedClients =>
      s.validateCallAttempt callId callerId target notifiedClients = .ok () →
      s.activeCalls.lookup callId = none → source.toTarget ≠ target ∧
        ∀ entry ∈ s.ringingCalls.lookup callId,
          source.toTarget ∉ entry.targets.keys ∧
            ∀ other ∈ entry.targets.keys, ∀ ringing ∈ entry.targets.lookup other,
              ringing.source.toTarget ≠ target
  | _ => True

/-- Inviting keeps the participants apart. -/
theorem NamesApart.invite {state : CallState} (apart : NamesApart state) (call : CallId)
    (caller : ClientId) (source : CallSource) (target : CallTarget) (notified : Finset ClientId)
    (unnamed : ∀ active, state.active = some active → ∀ client,
      active.participants.lookup client ≠ some target)
    (unsourced : state.active = Option.none → source.toTarget ≠ target ∧
      ∀ entry, state.ringing = some entry → entry.targets.lookup source.toTarget = Option.none ∧
        ∀ other ringing, entry.targets.lookup other = some ringing →
          ringing.source.toTarget ≠ target) :
    NamesApart ⟨some (invitedEntry state.ringing call caller source target notified),
      state.active⟩ := by
  have absent : ∀ other, other ≠ target →
      (∀ entry, state.ringing = some entry → entry.targets.lookup other = Option.none) →
      (invitedEntry state.ringing call caller source target notified).targets.lookup other =
        Option.none := by
    intro other different before
    rw [invitedEntry_lookup, if_neg different]
    cases isEntry : state.ringing with
    | none => rfl
    | some entry => exact before entry isEntry
  refine ⟨apart.participants, ?_, ?_⟩
  · rintro active _ isActive ⟨⟩ client carried carries
    refine absent carried ?_ fun entry isEntry =>
      apart.ringing active entry isActive isEntry client carried carries
    rintro rfl
    exact unnamed active isActive client carries
  · rintro _ notActive ⟨⟩ other ringing found
    obtain ⟨ownTarget, others⟩ := unsourced notActive
    rw [invitedEntry_lookup] at found
    split at found
    · cases found
      exact absent _ ownTarget fun entry isEntry => (others entry isEntry).1
    · obtain ⟨entry, isEntry, found⟩ := Option.bind_eq_some_iff.mp found
      refine absent _ ((others entry isEntry).2 other ringing found) ?_
      intro sameEntry isSame
      cases isEntry.symm.trans isSame
      exact apart.sources entry notActive isEntry other ringing found

/-! ## Answering -/

/-- The targets of the participants after a client has joined. -/
theorem joinActive_lookup {active : Option ActiveCallEntry} {call : CallId} {client : ClientId}
    {accepted : RingingTarget} {other : ClientId} {target : CallTarget}
    (carries : (joinActive active call client accepted).participants.lookup other = some target) :
    (other = client ∧ target = accepted.target) ∨
      (∃ old, active = some old ∧ old.participants.lookup other = some target) ∨
      (active = none ∧ other = accepted.callerId ∧ target = accepted.source.toTarget) := by
  cases active with
  | none =>
      have inserted : (joinActive none call client accepted).participants =
          Finmap.insert accepted.callerId accepted.source.toTarget
            (Finmap.insert client accepted.target ∅) := rfl
      rw [inserted, Finmap.lookup_insert_eq, Finmap.lookup_insert_eq, Finmap.lookup_empty] at carries
      grind
  | some old =>
      change (old.participants.insert client accepted.target).lookup other = some target at carries
      rw [Finmap.lookup_insert_eq] at carries
      grind

/-- Answering keeps the participants apart. -/
theorem NamesApart.answer {entry : RingingCallEntry} {ringing : Option RingingCallEntry}
    {active : Option ActiveCallEntry} (apart : NamesApart ⟨some entry, active⟩) (call : CallId)
    {client : ClientId} {target : CallTarget} {rung : RingingTargetEntry}
    (present : entry.targets.lookup target = some rung)
    (left : ∀ after, ringing = some after → ∀ other, after.targets.lookup other =
      if other = target then Option.none else entry.targets.lookup other) :
    NamesApart ⟨ringing, some (joinActive active call client
      (rung.complete call entry.callerId rung.source target))⟩ := by
  have notCarried : ∀ old, active = some old → ∀ other,
      old.participants.lookup other ≠ some target := by
    intro old isOld other carries
    cases (apart.ringing old entry isOld rfl other target carries).symm.trans present
  have notSource : active = Option.none → rung.source.toTarget ≠ target := by
    intro notActive same
    have absent := apart.sources entry notActive rfl target rung present
    rw [same] at absent
    cases absent.symm.trans present
  refine ⟨?_, ?_, by simp⟩
  · rintro _ ⟨⟩ first second carried one two
    rcases joinActive_lookup one with
      ⟨isFirst, isTarget⟩ | ⟨old, isOld, one⟩ | ⟨notActive, isFirst, isSource⟩
    · rcases joinActive_lookup two with
        ⟨isSecond, _⟩ | ⟨old, isOld, two⟩ | ⟨notActive, _, isSource⟩
      · rw [isFirst, isSecond]
      · exact absurd (two.trans (congrArg some isTarget)) (notCarried old isOld second)
      · exact absurd (isSource.symm.trans isTarget) (notSource notActive)
    · rcases joinActive_lookup two with
        ⟨_, isTarget⟩ | ⟨sameOld, isSame, two⟩ | ⟨notActive, _⟩
      · exact absurd (one.trans (congrArg some isTarget)) (notCarried old isOld first)
      · cases isOld.symm.trans isSame
        exact apart.participants old isOld first second carried one two
      · cases notActive.symm.trans isOld
    · rcases joinActive_lookup two with ⟨_, isTarget⟩ | ⟨old, isOld, _⟩ | ⟨_, isSecond, _⟩
      · exact absurd (isSource.symm.trans isTarget) (notSource notActive)
      · cases notActive.symm.trans isOld
      · rw [isFirst, isSecond]
  · rintro _ after ⟨⟩ isAfter other carried carries
    rw [left after isAfter]
    split
    · rfl
    · rename_i different
      rcases joinActive_lookup carries with
        ⟨_, isTarget⟩ | ⟨old, isOld, carries⟩ | ⟨notActive, _, isSource⟩
      · exact absurd isTarget different
      · exact apart.ringing old entry isOld rfl other carried carries
      · rw [isSource]
        exact apart.sources entry notActive rfl target rung present

/-! ## Runs -/

/-- In every call the targets tell the participants apart. -/
structure NamesApartEverywhere (s : CallManager) : Prop where
  coherent : Coherent s
  calls : ∀ call, NamesApart (s.call call)

/-- A request as the handlers make it whose invitation clashes with no source. -/
def CallManager.NamesNoSourceRequest (s : CallManager) (request : Request) : Prop :=
  request.op.FromHandler ∧ s.NamesNoSource request.op

instance (s : CallManager) : (op : Operation) → Decidable (s.NamesNoSource op)
  | .attemptCall _ _ _ _ _ => inferInstanceAs (Decidable (_ = _ → _ = _ → _ ≠ _ ∧ _))
  | .rejectCall .. | .failRingingRecipient .. | .callError .. | .acceptCall .. | .dropTarget ..
  | .endCall .. | .reportLinkFailure .. | .cleanupClientCalls .. => isTrue trivial

instance (s : CallManager) (request : Request) : Decidable (s.NamesNoSourceRequest request) :=
  inferInstanceAs (Decidable (_ ∧ _))

/-- An invitation that clashes with no source keeps the participants apart. -/
theorem NamesApartEverywhere.attemptCall {s : CallManager} (apart : NamesApartEverywhere s)
    (order : Iteration) {call : CallId} {caller : ClientId} {source : CallSource}
    {target : CallTarget} {notified : Finset ClientId}
    (namesNoSource : s.NamesNoSource (.attemptCall call caller source target notified)) :
    NamesApart ((s.attemptCall order call caller source target notified).1.call call) := by
  cases valid : s.validateCallAttempt call caller target notified with
  | error reason =>
      simp only [CallManager.attemptCall, valid]
      exact apart.calls call
  | ok _ =>
      have unsourced : (s.call call).active = none → source.toTarget ≠ target ∧
          ∀ entry, (s.call call).ringing = some entry →
            entry.targets.lookup source.toTarget = none ∧
            ∀ other ringing, entry.targets.lookup other = some ringing →
              ringing.source.toTarget ≠ target := by
        intro notActive
        obtain ⟨ownTarget, others⟩ := namesNoSource valid notActive
        refine ⟨ownTarget, fun entry isEntry => ?_⟩
        obtain ⟨absent, sources⟩ := others entry isEntry
        rw [Finmap.mem_keys, ← Finmap.lookup_eq_none] at absent
        exact ⟨absent, fun other ringing found =>
          sources other ((Finmap.mem_keys_iff_lookup _ _).mpr ⟨ringing, found⟩) ringing found⟩
      have fresh := (apart.calls call).invite call caller source target notified
        (fun active found => validateCallAttempt_unnamed valid found) unsourced
      rw [attemptCall_ok order source valid]
      simpa [CallManager.call] using fresh

/-- An answer keeps the participants apart. -/
theorem NamesApartEverywhere.acceptCall {s : CallManager} (apart : NamesApartEverywhere s)
    (order : Iteration) (call : CallId) (client : ClientId) :
    NamesApart ((s.acceptCall order call client).1.call call) := by
  rcases acceptCall_call apart.coherent order call client with
    same | ⟨entry, target, ringing, found, present, _, atCall, _⟩
  · rw [same]
    exact apart.calls call
  · have before := apart.calls call
    rw [call_eq_of_ringing found] at before
    rw [atCall]
    refine before.answer call present ?_
    intro after isAfter other
    split at isAfter
    · cases isAfter
    · cases isAfter
      exact Finmap.lookup_erase_eq entry.targets target other

/-- Every request that clashes with no source keeps the participants of every call apart. -/
theorem NamesApartEverywhere.next {s : CallManager} (apart : NamesApartEverywhere s)
    {request : Request} (guarded : s.NamesNoSourceRequest request) :
    NamesApartEverywhere (s.next request) := by
  obtain ⟨fromHandler, namesNoSource⟩ := guarded
  have follows := execute_follows apart.coherent request fromHandler.fromCaller
  refine ⟨follows.coherent apart.coherent, fun call => ?_⟩
  rcases follows.calls call with same | step
  · rw [same]
    exact apart.calls call
  · by_cases invites : ∃ caller source target notified,
        request.op = .attemptCall call caller source target notified
    · obtain ⟨caller, source, target, notified, isOp⟩ := invites
      rw [isOp] at namesNoSource
      have kept := apart.attemptCall request.order namesNoSource
      simpa [CallManager.next, CallManager.execute, isOp] using kept
    · by_cases answers : ∃ client, request.op = .acceptCall call client
      · obtain ⟨client, isOp⟩ := answers
        have kept := apart.acceptCall request.order call client
        simpa [CallManager.next, CallManager.execute, isOp] using kept
      · refine step.namesApart ?_ ?_ (apart.calls call)
        · intro caller source target notified isOp
          exact invites ⟨caller, source, target, notified, isOp⟩
        · exact fun client isOp => answers ⟨client, isOp⟩

/-! ## Dropping by target -/

/-- The participant a drop has removed. -/
def DropTargetOutcome.dropped : DropTargetOutcome → Option ClientId
  | .participantDropped clientId _ => some clientId
  | _ => none

/-- Every target names at most one participant of a call, and a drop does not depend on the order
in which the participants are walked. -/
structure TargetsNameOne (s : CallManager) : Prop where
  participants : ∀ call active, s.activeCalls.lookup call = some active →
    ∀ first second target, active.participants.lookup first = some target →
      active.participants.lookup second = some target → first = second
  dropped : ∀ call leader target first second,
    (s.dropTarget first call leader target .requested).2.dropped =
      (s.dropTarget second call leader target .requested).2.dropped
  remaining : ∀ call leader target first second,
    (s.dropTarget first call leader target .requested).1.activeCalls =
      (s.dropTarget second call leader target .requested).1.activeCalls

theorem dropRingingTarget_order (s : CallManager) (first second : Iteration) (call : CallId)
    (client : ClientId) (target : CallTarget) :
    (s.dropRingingTarget first call client target).map (fun result =>
        (result.1.activeCalls, result.2.dropped)) =
      (s.dropRingingTarget second call client target).map fun result =>
        (result.1.activeCalls, result.2.dropped) := by
  unfold dropRingingTarget
  cases s.ringingCalls.lookup call with
  | none => rfl
  | some entry =>
      simp only
      cases entry.targets.lookup target with
      | none => rfl
      | some ringing =>
          simp only
          split <;> rfl

theorem obsoleteOutcome_dropped (s : CallManager) (order : Iteration) (call : CallId) :
    (s.obsoleteOutcome order call).dropped = none := by
  unfold obsoleteOutcome
  simp only
  split <;> rfl

theorem dropJoinedParticipant_order {s : CallManager} (call : CallId)
    (unique : ∀ active, s.activeCalls.lookup call = some active →
      ∀ first second target, active.participants.lookup first = some target →
        active.participants.lookup second = some target → first = second)
    (first second : Iteration) (client : ClientId) (target : CallTarget) :
    ((s.dropJoinedParticipant first call client target .requested).1.activeCalls,
        (s.dropJoinedParticipant first call client target .requested).2.dropped) =
      ((s.dropJoinedParticipant second call client target .requested).1.activeCalls,
        (s.dropJoinedParticipant second call client target .requested).2.dropped) := by
  unfold dropJoinedParticipant
  cases found : s.activeCalls.lookup call with
  | none => simp [obsoleteOutcome_dropped]
  | some active =>
      simp only
      have sameSearch : ((first.clients.list active.participants.keys).find? fun participant =>
            active.participants.lookup participant == some target) =
          (second.clients.list active.participants.keys).find? fun participant =>
            active.participants.lookup participant == some target := by
        refine first.clients.find?_eq second.clients active.participants.keys ?_
        intro one _ two _ isOne isTwo
        exact unique active found one two target (by simpa using isOne) (by simpa using isTwo)
      rw [sameSearch]
      split
      · rfl
      · split
        · simp [obsoleteOutcome_dropped]
        · simp only [reduceCtorEq, if_false]
          split
          · rfl
          · split
            · rfl
            · split <;> rfl

theorem dropTarget_order {s : CallManager} (call : CallId)
    (unique : ∀ active, s.activeCalls.lookup call = some active →
      ∀ first second target, active.participants.lookup first = some target →
        active.participants.lookup second = some target → first = second)
    (first second : Iteration) (client : ClientId) (target : CallTarget) :
    ((s.dropTarget first call client target .requested).1.activeCalls,
        (s.dropTarget first call client target .requested).2.dropped) =
      ((s.dropTarget second call client target .requested).1.activeCalls,
        (s.dropTarget second call client target .requested).2.dropped) := by
  have ringing := dropRingingTarget_order s first second call client target
  have joined := dropJoinedParticipant_order call unique first second client target
  unfold dropTarget
  cases one : s.dropRingingTarget first call client target with
  | none =>
      cases two : s.dropRingingTarget second call client target with
      | none => exact joined
      | some result => simp [one, two] at ringing
  | some result =>
      cases two : s.dropRingingTarget second call client target with
      | none => simp [one, two] at ringing
      | some other =>
          rw [one, two] at ringing
          exact Option.some.inj ringing

theorem NamesApartEverywhere.targetsNameOne {s : CallManager} (apart : NamesApartEverywhere s) :
    TargetsNameOne s where
  participants call active found := (apart.calls call).participants active found
  dropped call leader target first second :=
    congrArg Prod.snd (dropTarget_order call (apart.calls call).participants first second leader
      target)
  remaining call leader target first second :=
    congrArg Prod.fst (dropTarget_order call (apart.calls call).participants first second leader
      target)

/-- A run whose invitations clash with no source gives every participant a target of its own. -/
theorem run_targetsNameOne (maxConfSize : ℕ) (requests : List Request)
    (guarded : GuardedRuns.Guarded (fun s request => some (CallManager.next s request))
      CallManager.NamesNoSourceRequest (CallManager.new maxConfSize) requests) :
    TargetsNameOne ((CallManager.new maxConfSize).run requests) := by
  have start : NamesApartEverywhere (CallManager.new maxConfSize) := by
    refine ⟨coherent_new maxConfSize, fun call => ?_⟩
    have empty : (CallManager.new maxConfSize).call call = ⟨none, none⟩ := by
      simp [CallManager.call, CallManager.new]
    rw [empty]
    exact .none
  refine (guarded.preserves ?_ (GuardedRuns.runMoves_total _ _ _) start).targetsNameOne
  rintro s request _ apart guarded ⟨⟩
  exact apart.next guarded

/-! ## A caller that invites the station it calls as -/

/-- One client calls as a station it shares with a second one and invites that station and a third
client, which both accept. -/
def sharedStation : List Request :=
  let caller : ClientId := ⟨"10000001"⟩
  let sharing : ClientId := ⟨"10000002"⟩
  let third : ClientId := ⟨"10000003"⟩
  let source : CallSource := { clientId := caller, stationId := some ⟨"LOVV"⟩ }
  let covering : Finset ClientId := {caller, sharing}
  [.attemptCall ⟨1⟩ caller source (.station ⟨"LOVV"⟩) (covering.erase caller),
    .acceptCall ⟨1⟩ sharing,
    .attemptCall ⟨1⟩ caller source (.client third) {third},
    .acceptCall ⟨1⟩ third].map fun op => { op := op, order := .increasing, now := 0 }

/-- The iteration in decreasing order of client identifiers. -/
def Iteration.decreasing : Iteration :=
  { Iteration.increasing with clients := (Enumeration.increasing ClientId).reversed }

/-- The caller and the client that answered carry one target, and which of them a drop meets
depends on the iteration order: the caller may not drop itself, the other one is dropped. -/
theorem sharedStation_namesTwo :
    (∀ request ∈ sharedStation, request.op.FromHandler) ∧
      (((CallManager.new 5).run sharedStation).activeCalls.lookup ⟨1⟩).map (fun active =>
        (active.participants.lookup ⟨"10000001"⟩, active.participants.lookup ⟨"10000002"⟩)) =
          some (some (.station ⟨"LOVV"⟩), some (.station ⟨"LOVV"⟩)) ∧
      (((CallManager.new 5).run sharedStation).dropTarget .increasing ⟨1⟩ ⟨"10000001"⟩
        (.station ⟨"LOVV"⟩) .requested).2.dropped = none ∧
      (((CallManager.new 5).run sharedStation).dropTarget .decreasing ⟨1⟩ ⟨"10000001"⟩
        (.station ⟨"LOVV"⟩) .requested).2.dropped = some ⟨"10000002"⟩ ∧
      ¬ TargetsNameOne ((CallManager.new 5).run sharedStation) := by
  have walksUp : (((CallManager.new 5).run sharedStation).dropTarget .increasing ⟨1⟩ ⟨"10000001"⟩
      (.station ⟨"LOVV"⟩) .requested).2.dropped = none := by
    decide +kernel
  have walksDown : (((CallManager.new 5).run sharedStation).dropTarget .decreasing ⟨1⟩
      ⟨"10000001"⟩ (.station ⟨"LOVV"⟩) .requested).2.dropped = some ⟨"10000002"⟩ := by
    decide +kernel
  refine ⟨by decide +kernel, by decide +kernel, walksUp, walksDown, fun namesOne => ?_⟩
  have same := namesOne.dropped ⟨1⟩ ⟨"10000001"⟩ (.station ⟨"LOVV"⟩) .increasing .decreasing
  rw [walksUp, walksDown] at same
  cases same

/-- The conference of three gives every participant a target of its own. -/
theorem conferenceOfThree_targetsNameOne :
    GuardedRuns.Guarded (fun s request => some (CallManager.next s request))
        CallManager.NamesNoSourceRequest (CallManager.new 5) conferenceOfThree ∧
      TargetsNameOne ((CallManager.new 5).run conferenceOfThree) := by
  have guarded : GuardedRuns.Guarded (fun s request => some (CallManager.next s request))
      CallManager.NamesNoSourceRequest (CallManager.new 5) conferenceOfThree := by
    decide +kernel
  exact ⟨guarded, run_targetsNameOne 5 conferenceOfThree guarded⟩

end Vacs
