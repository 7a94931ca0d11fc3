import Vacs.Calls.Coherence

/-!
# The history of joins and dead-link reports

Whether a dead-link report is confirmed depends on everything that happened
before it in its call: who joined when, who reported which link, who left. The
manager keeps two fields of the active entry for it, the join sequence and the
pending reports.

The history of a run is kept here beside the manager: who joined which call and
who reported which link, newest first (`linkLog`). The entry's fields are what
the history says (`LinksRecorded`), in every active call of every run.
-/

set_option autoImplicit false

namespace Vacs

open CallManager

/-! ## The history of a run -/

/-- What a run does that bears on dead links. -/
inductive LinkEvent where
  | joined (call : CallId) (client : ClientId)
  | reported (call : CallId) (reporter peer : ClientId) (time : Instant)
deriving DecidableEq

/-- The call an event belongs to. -/
def LinkEvent.call : LinkEvent → CallId
  | .joined call _ => call
  | .reported call _ _ _ => call

/-- Whether the client is a participant of the call. -/
def CallManager.isParticipant (s : CallManager) (call : CallId) (client : ClientId) : Bool :=
  (s.activeCalls.lookup call).any fun active => active.involves client

/-- What one operation adds to the history, newest first. An accepted invitation
that opens a call lets its caller join before the accepting client. -/
def CallManager.linkEvents (s : CallManager) (request : Request) : List LinkEvent :=
  match request.op with
  | .acceptCall call client =>
      if !s.isParticipant call client && (s.next request).isParticipant call client then
        match s.activeCalls.lookup call, s.ringingCalls.lookup call with
        | none, some ringing => [.joined call client, .joined call ringing.callerId]
        | _, _ => [.joined call client]
      else []
  | .reportLinkFailure call reporter peer =>
      if reporter ≠ peer ∧ s.isParticipant call reporter ∧ s.isParticipant call peer then
        [.reported call reporter peer request.now]
      else []
  | _ => []

/-- The history of a run, newest first. -/
def CallManager.linkLog (s : CallManager) : List Request → List LinkEvent
  | [] => []
  | request :: rest => (s.next request).linkLog rest ++ s.linkEvents request

/-- The most recent report on a link, with its reporter and time, since the later
of its ends joined. -/
def lastReport (call : CallId) (first second : ClientId) :
    List LinkEvent → Option (ClientId × Instant)
  | [] => none
  | .joined other client :: older =>
      if other = call ∧ (client = first ∨ client = second) then none
      else lastReport call first second older
  | .reported other reporter peer time :: older =>
      if other = call ∧ (reporter = first ∧ peer = second ∨ reporter = second ∧ peer = first) then
        some (reporter, time)
      else lastReport call first second older

/-- The end of a link whose latest join is the later one. -/
def lastJoined (call : CallId) (first second : ClientId) : List LinkEvent → Option ClientId
  | [] => none
  | .joined other client :: older =>
      if other = call ∧ (client = first ∨ client = second) then some client
      else lastJoined call first second older
  | .reported _ _ _ _ :: older => lastJoined call first second older

@[simp] theorem isParticipant_iff (s : CallManager) (call : CallId) (client : ClientId) :
    s.isParticipant call client = true ↔ (s.call call).Joined client := by
  cases found : s.activeCalls.lookup call <;>
    simp [isParticipant, CallState.Joined, CallManager.call, ActiveCallEntry.involves, found]

theorem linkLog_append (s : CallManager) (earlier later : List Request) :
    s.linkLog (earlier ++ later) = (s.run earlier).linkLog later ++ s.linkLog earlier := by
  induction earlier generalizing s with
  | nil => simp [linkLog, CallManager.run]
  | cons request rest ih =>
      simp only [List.cons_append, linkLog, ih, List.append_assoc]
      rfl

/-- Reports from before an end joined do not count. -/
theorem lastReport_append_of_joined {call : CallId} {first second client : ClientId}
    {newer : List LinkEvent} (joined : LinkEvent.joined call client ∈ newer)
    (isEnd : client = first ∨ client = second) (older : List LinkEvent) :
    lastReport call first second (newer ++ older) = lastReport call first second newer := by
  induction newer with
  | nil => cases joined
  | cons event rest ih =>
      cases event with
      | joined other end' =>
          simp only [List.cons_append, lastReport]
          split
          · rfl
          · rename_i notEnd
            refine ih ((List.mem_cons.mp joined).resolve_left ?_)
            rintro ⟨⟩
            exact notEnd ⟨rfl, isEnd⟩
      | reported other reporter peer time =>
          simp only [List.cons_append, lastReport]
          split
          · rfl
          · exact ih ((List.mem_cons.mp joined).resolve_left (by simp))

/-- Events of other calls do not count. -/
theorem lastReport_append_of_call_ne {call : CallId} {newer : List LinkEvent}
    (elsewhere : ∀ event ∈ newer, event.call ≠ call) (first second : ClientId)
    (older : List LinkEvent) :
    lastReport call first second (newer ++ older) = lastReport call first second older := by
  induction newer with
  | nil => rfl
  | cons event rest ih =>
      have other := elsewhere event (List.mem_cons_self ..)
      have tail := ih fun event member => elsewhere event (List.mem_cons_of_mem _ member)
      cases event <;> simp_all [lastReport, LinkEvent.call]

theorem lastJoined_append_of_call_ne {call : CallId} {newer : List LinkEvent}
    (elsewhere : ∀ event ∈ newer, event.call ≠ call) (first second : ClientId)
    (older : List LinkEvent) :
    lastJoined call first second (newer ++ older) = lastJoined call first second older := by
  induction newer with
  | nil => rfl
  | cons event rest ih =>
      have other := elsewhere event (List.mem_cons_self ..)
      have tail := ih fun event member => elsewhere event (List.mem_cons_of_mem _ member)
      cases event <;> simp_all [lastJoined, LinkEvent.call]

/-- A link is reported by one of its ends. -/
theorem lastReport_reporter {call : CallId} {first second reporter : ClientId} {time : Instant}
    {log : List LinkEvent} (last : lastReport call first second log = some (reporter, time)) :
    reporter = first ∨ reporter = second := by
  induction log with
  | nil => cases last
  | cons event rest ih =>
      cases event with
      | joined other client =>
          simp only [lastReport] at last
          split at last
          · cases last
          · exact ih last
      | reported other by' peer at' =>
          simp only [lastReport] at last
          split at last
          · rename_i isLink
            cases last
            exact isLink.2.imp And.left And.left
          · exact ih last

/-! ## The entry records the history -/

/-- The join sequence and the pending reports of an active call are what the
history says about its participants. -/
structure LinksRecorded (call : CallId) (active : ActiveCallEntry) (log : List LinkEvent) :
    Prop where
  sequenced : ∀ client ∈ active.participants.keys,
    ∃ seq, active.joinOrder.lookup client = some seq ∧ seq < active.nextJoinSeq
  ordered : ∀ first second, first ∈ active.participants.keys →
    second ∈ active.participants.keys → first ≠ second →
    lastJoined call first second log = some (active.laterJoiner first second)
  endsJoined : ∀ key report, active.linkReports.lookup key = some report →
    key.1 ∈ active.participants.keys ∧ key.2 ∈ active.participants.keys
  reports : ∀ first second, first ∈ active.participants.keys →
    second ∈ active.participants.keys → first ≠ second →
    (active.linkReports.lookup (ActiveCallEntry.linkKey first second)).map
        (fun report => (report.reporters, report.refreshedAt)) =
      (lastReport call first second log).map fun report => ({report.1}, report.2)

theorem linkKey_comm (first second : ClientId) :
    ActiveCallEntry.linkKey first second = ActiveCallEntry.linkKey second first := by
  unfold ActiveCallEntry.linkKey
  rcases lt_trichotomy first second with less | rfl | less
  · rw [if_pos less.le, if_neg less.not_ge]
  · rfl
  · rw [if_neg less.not_ge, if_pos less.le]

theorem linkKey_eq_iff (first second reporter peer : ClientId) :
    ActiveCallEntry.linkKey first second = ActiveCallEntry.linkKey reporter peer ↔
      first = reporter ∧ second = peer ∨ first = peer ∧ second = reporter := by
  constructor
  · unfold ActiveCallEntry.linkKey
    split <;> split <;> simp only [Prod.mk.injEq] <;> tauto
  · rintro (⟨rfl, rfl⟩ | ⟨rfl, rfl⟩)
    · rfl
    · exact linkKey_comm first second

theorem linkKey_cases (first second : ClientId) :
    ActiveCallEntry.linkKey first second = (first, second) ∨
      ActiveCallEntry.linkKey first second = (second, first) := by
  unfold ActiveCallEntry.linkKey
  split
  · exact .inl rfl
  · exact .inr rfl

theorem laterJoiner_congr {active active' : ActiveCallEntry} {first second : ClientId}
    (sameFirst : active'.joinOrder.lookup first = active.joinOrder.lookup first)
    (sameSecond : active'.joinOrder.lookup second = active.joinOrder.lookup second) :
    active'.laterJoiner first second = active.laterJoiner first second := by
  simp only [ActiveCallEntry.laterJoiner, sameFirst, sameSecond]

namespace LinksRecorded

variable {call : CallId} {active : ActiveCallEntry} {log : List LinkEvent}

/-- Events of other calls change nothing. -/
theorem elsewhere (recorded : LinksRecorded call active log) {events : List LinkEvent}
    (elsewhere : ∀ event ∈ events, event.call ≠ call) :
    LinksRecorded call active (events ++ log) where
  sequenced := recorded.sequenced
  ordered first second isFirst isSecond different := by
    rw [lastJoined_append_of_call_ne elsewhere]
    exact recorded.ordered first second isFirst isSecond different
  endsJoined := recorded.endsJoined
  reports first second isFirst isSecond different := by
    rw [lastReport_append_of_call_ne elsewhere]
    exact recorded.reports first second isFirst isSecond different

/-- A leaving participant takes its place in the join sequence and all reports on
its links with it. -/
theorem leave (recorded : LinksRecorded call active log) (client : ClientId) :
    LinksRecorded call (leaveActive active client) log := by
  have joinOrder : ∀ other, other ≠ client →
      (leaveActive active client).joinOrder.lookup other = active.joinOrder.lookup other :=
    fun other different => Finmap.lookup_erase_ne different
  have linkReports : ∀ first second, first ≠ client → second ≠ client →
      (leaveActive active client).linkReports.lookup (ActiveCallEntry.linkKey first second) =
        active.linkReports.lookup (ActiveCallEntry.linkKey first second) := by
    intro first second isFirst isSecond
    change (active.linkReports.retain _).lookup _ = _
    rw [Finmap.lookup_retain]
    cases active.linkReports.lookup (ActiveCallEntry.linkKey first second) with
    | none => rfl
    | some report =>
        rcases linkKey_cases first second with key | key <;> simp [key, isFirst, isSecond]
  constructor
  · intro other stays
    rw [leaveActive_keys, Finset.mem_erase] at stays
    rw [joinOrder other stays.1]
    exact recorded.sequenced other stays.2
  · intro first second isFirst isSecond different
    rw [leaveActive_keys, Finset.mem_erase] at isFirst isSecond
    rw [laterJoiner_congr (joinOrder first isFirst.1) (joinOrder second isSecond.1)]
    exact recorded.ordered first second isFirst.2 isSecond.2 different
  · intro key report found
    change (active.linkReports.retain _).lookup key = _ at found
    rw [Finmap.lookup_retain_eq_some] at found
    obtain ⟨found, kept⟩ := found
    obtain ⟨isFirst, isSecond⟩ := recorded.endsJoined key report found
    simp only [Bool.and_eq_true, bne_iff_ne, ne_eq] at kept
    rw [leaveActive_keys]
    exact ⟨Finset.mem_erase_of_ne_of_mem kept.1 isFirst,
      Finset.mem_erase_of_ne_of_mem kept.2 isSecond⟩
  · intro first second isFirst isSecond different
    rw [leaveActive_keys, Finset.mem_erase] at isFirst isSecond
    rw [linkReports first second isFirst.1 isSecond.1]
    exact recorded.reports first second isFirst.2 isSecond.2 different

/-- A client that joins is last in the join sequence, and nobody has reported a
link to it. -/
theorem join (recorded : LinksRecorded call active log) {client : ClientId}
    (outside : client ∉ active.participants.keys) (accepted : RingingTarget) :
    LinksRecorded call (joinActive (some active) call client accepted)
      (.joined call client :: log) := by
  have keys := joinActive_keys (some active) call client accepted
  have joinOrder : ∀ other, (joinActive (some active) call client accepted).joinOrder.lookup other =
      if other = client then some active.nextJoinSeq else active.joinOrder.lookup other :=
    fun other => Finmap.lookup_insert_eq _ _ other _
  have unreported : ∀ first second, first = client ∨ second = client →
      active.linkReports.lookup (ActiveCallEntry.linkKey first second) = none := by
    intro first second isEnd
    cases found : active.linkReports.lookup (ActiveCallEntry.linkKey first second) with
    | none => rfl
    | some report =>
        obtain ⟨isFirst, isSecond⟩ := recorded.endsJoined _ report found
        rcases linkKey_cases first second with key | key <;> rw [key] at isFirst isSecond <;>
          rcases isEnd with rfl | rfl <;> exact absurd ‹_› outside
  constructor
  · intro other joined
    rw [joinOrder]
    change ∃ seq, _ ∧ seq < active.nextJoinSeq + 1
    split
    · exact ⟨active.nextJoinSeq, rfl, Nat.lt_succ_self _⟩
    · rename_i different
      rw [keys] at joined
      obtain ⟨seq, known, earlier⟩ :=
        recorded.sequenced other (Finset.mem_of_mem_insert_of_ne joined different)
      exact ⟨seq, known, earlier.trans (Nat.lt_succ_self _)⟩
  · intro first second isFirst isSecond different
    rw [keys, Finset.mem_insert] at isFirst isSecond
    simp only [lastJoined, true_and]
    split
    · rename_i isEnd
      rcases isEnd with rfl | rfl
      · obtain ⟨seq, known, earlier⟩ :=
          recorded.sequenced second (isSecond.resolve_left different.symm)
        simp [ActiveCallEntry.laterJoiner, joinOrder, different.symm, known, earlier.le]
      · obtain ⟨seq, known, earlier⟩ := recorded.sequenced first (isFirst.resolve_left different)
        simp [ActiveCallEntry.laterJoiner, joinOrder, different, known, earlier]
    · rename_i notEnd
      rw [not_or] at notEnd
      have sameFirst := joinOrder first
      have sameSecond := joinOrder second
      rw [if_neg (Ne.symm notEnd.1)] at sameFirst
      rw [if_neg (Ne.symm notEnd.2)] at sameSecond
      rw [laterJoiner_congr sameFirst sameSecond]
      exact recorded.ordered first second (isFirst.resolve_left (Ne.symm notEnd.1))
        (isSecond.resolve_left (Ne.symm notEnd.2)) different
  · intro key report found
    obtain ⟨isFirst, isSecond⟩ := recorded.endsJoined key report found
    rw [keys]
    exact ⟨Finset.mem_insert_of_mem isFirst, Finset.mem_insert_of_mem isSecond⟩
  · intro first second isFirst isSecond different
    rw [keys, Finset.mem_insert] at isFirst isSecond
    change (active.linkReports.lookup _).map _ = _
    simp only [lastReport, true_and]
    split
    · rename_i isEnd
      rw [unreported first second (isEnd.imp Eq.symm Eq.symm)]
      rfl
    · rename_i notEnd
      rw [not_or] at notEnd
      exact recorded.reports first second (isFirst.resolve_left (Ne.symm notEnd.1))
        (isSecond.resolve_left (Ne.symm notEnd.2)) different

/-- A call opens with its caller first and the accepting client second. -/
theorem opened (call : CallId) (log : List LinkEvent) {client : ClientId}
    {accepted : RingingTarget} (different : accepted.callerId ≠ client) :
    LinksRecorded call (joinActive none call client accepted)
      (.joined call client :: .joined call accepted.callerId :: log) := by
  have keys := joinActive_keys none call client accepted
  have joinOrder : ∀ other, (joinActive none call client accepted).joinOrder.lookup other =
      if other = client then some 1 else if other = accepted.callerId then some 0 else none := by
    intro other
    change (Finmap.insert client 1 (Finmap.insert accepted.callerId 0 ∅)).lookup other = _
    rw [Finmap.lookup_insert_eq, Finmap.lookup_insert_eq, Finmap.lookup_empty]
  have unreported : (joinActive none call client accepted).linkReports = ∅ := rfl
  have ends : ∀ first second, first ∈ (joinActive none call client accepted).participants.keys →
      second ∈ (joinActive none call client accepted).participants.keys → first ≠ second →
      first = accepted.callerId ∧ second = client ∨ first = client ∧ second = accepted.callerId := by
    intro first second isFirst isSecond distinct
    simp only [keys, Finset.mem_insert, Finset.mem_singleton] at isFirst isSecond
    rcases isFirst with rfl | rfl <;> rcases isSecond with rfl | rfl <;> tauto
  constructor
  · intro other joined
    change ∃ seq, _ ∧ seq < 2
    simp only [keys, Finset.mem_insert, Finset.mem_singleton] at joined
    rcases joined with rfl | rfl
    · exact ⟨0, by simp [joinOrder, different], by omega⟩
    · exact ⟨1, by simp [joinOrder], by omega⟩
  · intro first second isFirst isSecond distinct
    rcases ends first second isFirst isSecond distinct with ⟨rfl, rfl⟩ | ⟨rfl, rfl⟩ <;>
      simp [lastJoined, ActiveCallEntry.laterJoiner, joinOrder, different]
  · intro key report found
    rw [unreported, Finmap.lookup_empty] at found
    cases found
  · intro first second isFirst isSecond distinct
    rw [unreported, Finmap.lookup_empty]
    rcases ends first second isFirst isSecond distinct with ⟨rfl, rfl⟩ | ⟨rfl, rfl⟩ <;>
      simp [lastReport]

/-- A report is fresh as long as it is younger than the time to live. -/
theorem fresh_iff (now time : Instant) :
    ¬ linkReportTtl ≤ now - time ↔ now < time + linkReportTtl := by
  have general : ∀ now time ttl : ℕ, 0 < ttl → (¬ ttl ≤ now - time ↔ now < time + ttl) := by
    omega
  exact general now time linkReportTtl (by decide)

/-- A report is confirmed when the last one counted was filed by the other end and
is still fresh. -/
theorem confirmed_iff (recorded : LinksRecorded call active log) {reporter peer : ClientId}
    (reporterJoined : reporter ∈ active.participants.keys)
    (peerJoined : peer ∈ active.participants.keys) (distinct : reporter ≠ peer) (now : Instant) :
    (active.recordLinkReportAt reporter peer now).2 = true ↔
      ∃ time, lastReport call reporter peer log = some (peer, time) ∧
        now < time + linkReportTtl := by
  have reports := recorded.reports reporter peer reporterJoined peerJoined distinct
  have positive : 0 < linkReportTtl := by decide
  simp only [ActiveCallEntry.recordLinkReportAt, decide_eq_true_eq, Finset.mem_insert]
  cases last : lastReport call reporter peer log with
  | none =>
      rw [last, Option.map_none, Option.map_eq_none_iff] at reports
      simp [reports, distinct.symm, not_le.mpr positive]
  | some report =>
      obtain ⟨by', time⟩ := report
      rw [last, Option.map_some, Option.map_eq_some_iff] at reports
      obtain ⟨stored, found, same⟩ := reports
      simp only [Prod.mk.injEq] at same
      obtain ⟨reporters, refreshedAt⟩ := same
      simp only [found, Option.getD_some, refreshedAt, ge_iff_le, Option.some.injEq,
        Prod.mk.injEq]
      split
      · rename_i expired
        simp only [Finset.notMem_empty, or_false, distinct.symm, false_iff, not_exists, not_and]
        rintro _ ⟨_, rfl⟩
        exact fun fresh => (fresh_iff now time).mpr fresh expired
      · rename_i fresh
        simp only [reporters, Finset.mem_singleton, distinct.symm, false_or]
        constructor
        · rintro rfl
          exact ⟨time, ⟨rfl, rfl⟩, (fresh_iff now time).mp fresh⟩
        · rintro ⟨_, ⟨same, _⟩, _⟩
          exact same.symm

/-- A report that is not confirmed becomes the last one on its link. -/
theorem report (recorded : LinksRecorded call active log) {reporter peer : ClientId}
    (reporterJoined : reporter ∈ active.participants.keys)
    (peerJoined : peer ∈ active.participants.keys) (distinct : reporter ≠ peer) {now : Instant}
    (pending : (active.recordLinkReportAt reporter peer now).2 = false) :
    LinksRecorded call (active.recordLinkReportAt reporter peer now).1
      (.reported call reporter peer now :: log) := by
  have reports := recorded.reports reporter peer reporterJoined peerJoined distinct
  have stored : ∃ first, (active.recordLinkReportAt reporter peer now).1.linkReports =
      active.linkReports.insert (ActiveCallEntry.linkKey reporter peer)
        { reporters := {reporter}, refreshedAt := now, firstReportedAt := first } := by
    simp only [ActiveCallEntry.recordLinkReportAt, decide_eq_false_iff_not, Finset.mem_insert,
      not_or] at pending ⊢
    generalize reported : (active.linkReports.lookup
      (ActiveCallEntry.linkKey reporter peer)).getD
        { reporters := ∅, refreshedAt := now, firstReportedAt := now } = report at pending ⊢
    have own : report.reporters ⊆ {reporter, peer} := by
      cases found : active.linkReports.lookup (ActiveCallEntry.linkKey reporter peer) with
      | none =>
          rw [found, Option.getD_none] at reported
          rw [← reported]
          exact Finset.empty_subset _
      | some stored =>
          rw [found, Option.getD_some] at reported
          subst reported
          rw [found, Option.map_some] at reports
          obtain ⟨last, isLast, same⟩ := Option.map_eq_some_iff.mp reports.symm
          simp only [Prod.mk.injEq] at same
          rw [← same.1, Finset.singleton_subset_iff, Finset.mem_insert, Finset.mem_singleton]
          exact lastReport_reporter isLast
    have single : insert reporter (if now - report.refreshedAt ≥ linkReportTtl then
        { report with reporters := ∅, firstReportedAt := now } else report).reporters =
        {reporter} := by
      ext other
      simp only [Finset.mem_insert, Finset.mem_singleton, or_iff_left_iff_imp]
      intro member
      have isEnd : other ∈ ({reporter, peer} : Finset ClientId) := by
        split at member
        · exact absurd member (Finset.notMem_empty _)
        · exact own member
      rcases Finset.mem_insert.mp isEnd with isReporter | isPeer
      · exact isReporter
      · rw [Finset.mem_singleton.mp isPeer] at member
        exact absurd member pending.2
    exact ⟨_, by rw [single]⟩
  obtain ⟨first, stored⟩ := stored
  constructor
  · exact recorded.sequenced
  · exact recorded.ordered
  · intro key report found
    rw [stored, Finmap.lookup_insert_eq] at found
    split at found
    · rename_i isKey
      rw [isKey]
      rcases linkKey_cases reporter peer with key | key <;> rw [key]
      · exact ⟨reporterJoined, peerJoined⟩
      · exact ⟨peerJoined, reporterJoined⟩
    · exact recorded.endsJoined key report found
  · intro one other isOne isOther different
    rw [stored, Finmap.lookup_insert_eq]
    simp only [lastReport, true_and, linkKey_eq_iff]
    by_cases same : one = reporter ∧ other = peer ∨ one = peer ∧ other = reporter
    · have reversed : reporter = one ∧ peer = other ∨ reporter = other ∧ peer = one := by
        tauto
      simp [same, reversed]
    · have reversed : ¬ (reporter = one ∧ peer = other ∨ reporter = other ∧ peer = one) := by
        tauto
      simp only [same, if_false, reversed]
      exact recorded.reports one other isOne isOther different

/-- A confirmed report leaves nothing behind: its link goes with the evicted
end. -/
theorem evict (recorded : LinksRecorded call active log) {reporter peer client : ClientId}
    (isEnd : client = reporter ∨ client = peer) (now : Instant) :
    LinksRecorded call (leaveActive (active.recordLinkReportAt reporter peer now).1 client)
      (.reported call reporter peer now :: log) := by
  have same : leaveActive (active.recordLinkReportAt reporter peer now).1 client =
      leaveActive active client := by
    have reports : ((active.recordLinkReportAt reporter peer now).1.linkReports.retain
        fun key _ => key.1 != client && key.2 != client) =
        active.linkReports.retain fun key _ => key.1 != client && key.2 != client := by
      refine Finmap.ext_lookup fun key => ?_
      rw [Finmap.lookup_retain, Finmap.lookup_retain]
      simp only [ActiveCallEntry.recordLinkReportAt, Finmap.lookup_insert_eq]
      split
      · rename_i isKey
        subst isKey
        have gone : ((ActiveCallEntry.linkKey reporter peer).1 != client &&
            (ActiveCallEntry.linkKey reporter peer).2 != client) = false := by
          rcases linkKey_cases reporter peer with key | key <;> rw [key] <;>
            rcases isEnd with rfl | rfl <;> simp
        cases active.linkReports.lookup (ActiveCallEntry.linkKey reporter peer) <;> simp [gone]
      · rfl
    simp only [leaveActive, ActiveCallEntry.forgetParticipant, reports]
    rfl
  rw [same]
  have left := recorded.leave client
  refine ⟨left.sequenced, left.ordered, left.endsJoined, ?_⟩
  intro first second isFirst isSecond different
  have other : ¬ (reporter = first ∧ peer = second ∨ reporter = second ∧ peer = first) := by
    rw [leaveActive_keys, Finset.mem_erase] at isFirst isSecond
    rintro (⟨rfl, rfl⟩ | ⟨rfl, rfl⟩) <;> rcases isEnd with rfl | rfl <;> tauto
  simp only [lastReport, true_and, other, if_false]
  exact left.reports first second isFirst isSecond different

end LinksRecorded

/-! ## Runs keep the record -/

/-- Every active call records the history. -/
def CallManager.LinksFollow (s : CallManager) (log : List LinkEvent) : Prop :=
  ∀ call active, s.activeCalls.lookup call = some active → LinksRecorded call active log

theorem Departs.linksRecorded {client : ClientId} {call : CallId} {before after : CallState}
    {log : List LinkEvent} (departs : Departs client before after)
    (recorded : ∀ active, before.active = some active → LinksRecorded call active log)
    (active : ActiveCallEntry) (found : after.active = some active) :
    LinksRecorded call active log := by
  cases departs with
  | hangUp => cases found
  | tearDown => cases found
  | leave =>
      cases found
      exact (recorded _ rfl).leave client

/-- What a departure leaves of an active call. -/
theorem Departs.active_eq {client : ClientId} {before after : CallState}
    {active left : ActiveCallEntry} (departs : Departs client before after)
    (found : before.active = some active) (isLeft : after.active = some left) :
    left = leaveActive active client := by
  cases departs with
  | hangUp => cases isLeft
  | tearDown => cases isLeft
  | leave =>
      cases found
      cases isLeft
      rfl

/-- A step that is neither an answer nor a report. -/
theorem CallStep.linksRecorded {request : Request} {evicted : Option ClientId} {call : CallId}
    {before after : CallState} {log : List LinkEvent}
    (step : CallStep request evicted call before after)
    (notAccept : ∀ call client, request.op ≠ .acceptCall call client)
    (notReport : ∀ call reporter peer, request.op ≠ .reportLinkFailure call reporter peer)
    (recorded : ∀ active, before.active = some active → LinksRecorded call active log)
    (active : ActiveCallEntry) (found : after.active = some active) :
    LinksRecorded call active log := by
  cases step with
  | invite => exact recorded active found
  | withdraw => exact recorded active found
  | cancel => exact recorded active found
  | answer isOp => exact absurd isOp (notAccept _ _)
  | @drop _ dropped =>
      cases found
      exact (recorded _ rfl).leave dropped
  | depart _ departs => exact departs.linksRecorded recorded active found
  | report isOp => exact absurd isOp (notReport _ _ _)
  | evict isOp => exact absurd isOp (notReport _ _ _)

/-- The step of an accepted invitation: the accepting client joins. -/
theorem CallStep.of_acceptCall {request : Request} {evicted : Option ClientId}
    {call accepting : CallId} {client : ClientId} {before after : CallState}
    (step : CallStep request evicted call before after)
    (isOp : request.op = .acceptCall accepting client) :
    call = accepting ∧ ∃ entry accepted, before.ringing = some entry ∧
      entry.Rings accepted.target client ∧ accepted.callerId = entry.callerId ∧
      after.active = some (joinActive before.active call client accepted) := by
  cases step with
  | invite isOther => cases isOp.symm.trans isOther
  | withdraw isOther =>
      rcases isOther with isOther | isOther | isOther | isOther <;> cases isOp.symm.trans isOther
  | cancel isOther => cases isOp.symm.trans isOther
  | @answer _ accepted entry _ _ isAccept rung callerId _ _ _ =>
      cases isOp.symm.trans isAccept
      exact ⟨rfl, entry, accepted, rfl, rung, callerId, rfl⟩
  | drop isOther => cases isOp.symm.trans isOther
  | depart isOther =>
      rcases isOther with isOther | isOther | isOther <;> cases isOp.symm.trans isOther
  | report isOther => cases isOp.symm.trans isOther
  | evict isOther => cases isOp.symm.trans isOther

/-- Accepting does nothing, or the accepting client joins, after the caller if it
opens the call. -/
theorem acceptCall_cases {s : CallManager} (coherent : Coherent s) {request : Request}
    {call : CallId} {client : ClientId} (isOp : request.op = .acceptCall call client) :
    ((∀ other, (s.next request).call other = s.call other) ∧ s.linkEvents request = []) ∨
    ∃ accepted : RingingTarget, accepted.callerId ≠ client ∧ ¬ (s.call call).Joined client ∧
      (∀ other, other ≠ call → (s.next request).call other = s.call other) ∧
      (s.next request).activeCalls.lookup call =
        some (joinActive (s.call call).active call client accepted) ∧
      s.linkEvents request = .joined call client ::
        match (s.call call).active with
        | none => [.joined call accepted.callerId]
        | some _ => [] := by
  have follows := execute_follows coherent request (by rw [isOp]; trivial)
  have others : ∀ other, other ≠ call → (s.next request).call other = s.call other := by
    intro other different
    rcases follows.calls other with same | step
    · exact same
    · exact absurd (step.of_acceptCall isOp).1 different
  rcases follows.calls call with same | step
  · left
    constructor
    · intro other
      by_cases isCall : other = call
      · rw [isCall, same]
      · exact others other isCall
    · have participant : (s.next request).isParticipant call client =
          s.isParticipant call client := by
        rw [Bool.eq_iff_iff, isParticipant_iff, isParticipant_iff, same]
      simp only [linkEvents, isOp, participant, Bool.not_and_self, Bool.false_eq_true, if_false]
  · right
    obtain ⟨_, entry, accepted, ringing, rung, callerId, joined⟩ := step.of_acceptCall isOp
    have wf := coherent.wellFormed call
    have outside : ¬ (s.call call).Joined client :=
      fun isJoined => wf.joinedNotRung _ client isJoined ⟨entry, ringing, rung⟩
    have notCaller : accepted.callerId ≠ client := by
      rintro rfl
      exact wf.callerNotRung _ _ ⟨entry, ringing, callerId.symm⟩ ⟨entry, ringing, rung⟩
    have inside : ((s.next request).call call).Joined client := by
      refine ⟨_, joined, ?_⟩
      rw [joinActive_keys]
      cases (s.call call).active <;> simp
    refine ⟨accepted, notCaller, outside, others, joined, ?_⟩
    rw [← isParticipant_iff, Bool.not_eq_true] at outside
    rw [← isParticipant_iff] at inside
    have found : s.ringingCalls.lookup call = some entry := ringing
    simp only [linkEvents, isOp, inside, outside, Bool.not_false, Bool.and_true, if_true, found,
      callerId, CallManager.call]
    cases s.activeCalls.lookup call <;> rfl

theorem acceptCall_linksFollow {s : CallManager} (coherent : Coherent s) {log : List LinkEvent}
    (recorded : s.LinksFollow log) {request : Request} {call : CallId} {client : ClientId}
    (isOp : request.op = .acceptCall call client) :
    (s.next request).LinksFollow (s.linkEvents request ++ log) := by
  intro other active found
  rcases acceptCall_cases coherent isOp with
    ⟨same, nothing⟩ | ⟨accepted, notCaller, outside, others, joined, events⟩
  · rw [nothing]
    exact recorded other active ((congrArg CallState.active (same other)).symm.trans found)
  · rw [events]
    by_cases isCall : other = call
    · subst isCall
      cases found.symm.trans joined
      cases was : (s.call other).active with
      | none => exact .opened other log notCaller
      | some old =>
          exact (recorded other old was).join (fun member => outside ⟨old, was, member⟩) accepted
    · refine LinksRecorded.elsewhere ?_ ?_
      · exact recorded other active
          ((congrArg CallState.active (others other isCall)).symm.trans found)
      · cases (s.call call).active <;> simp [LinkEvent.call, Ne.symm isCall]

theorem reportLinkFailure_linksFollow {s : CallManager} (coherent : Coherent s)
    {log : List LinkEvent} (recorded : s.LinksFollow log) {request : Request} {call : CallId}
    {reporter peer : ClientId} (isOp : request.op = .reportLinkFailure call reporter peer) :
    (s.next request).LinksFollow (s.linkEvents request ++ log) := by
  have state : s.next request =
      (s.reportLinkFailure request.order call reporter peer request.now).1 := by
    simp [CallManager.next, CallManager.execute, isOp]
  rw [state]
  rcases reportLinkFailure_cases coherent request.order call reporter peer request.now with
    ⟨invalid, unchanged⟩ | ⟨active, found, distinct, reporterJoined, peerJoined, outcome⟩
  · have nothing : s.linkEvents request = [] := by
      rw [← isParticipant_iff, ← isParticipant_iff] at invalid
      simp only [linkEvents, isOp]
      rw [if_neg invalid]
    rw [unchanged, nothing]
    exact recorded
  · have event : s.linkEvents request = [.reported call reporter peer request.now] := by
      simp only [linkEvents, isOp]
      rw [if_pos ⟨distinct, (isParticipant_iff s call reporter).mpr ⟨active, found, reporterJoined⟩,
        (isParticipant_iff s call peer).mpr ⟨active, found, peerJoined⟩⟩]
    have elsewhere : ∀ other, other ≠ call → ∀ event ∈ s.linkEvents request,
        event.call ≠ other := by
      intro other different
      simpa [event, LinkEvent.call] using different.symm
    have entry := recorded call active found
    obtain ⟨⟨atCall, others⟩, _⟩ := recorded_coherent coherent found reporter peer request.now
    rcases outcome with ⟨pending, result⟩ | ⟨_, _, departed⟩
    · rw [result]
      intro other after isAfter
      rw [Finmap.lookup_insert_eq] at isAfter
      split at isAfter
      · rename_i isCall
        cases isAfter
        rw [isCall, event]
        exact entry.report reporterJoined peerJoined distinct pending
      · rename_i isOther
        exact (recorded other after isAfter).elsewhere (elsewhere other isOther)
    · intro other after isAfter
      by_cases isCall : other = call
      · subst isCall
        have isEnd := laterJoiner_mem (active.recordLinkReportAt reporter peer request.now).1
          reporter peer
        have departs := departed.departs
        rw [atCall] at departs
        rw [departs.active_eq rfl isAfter, event]
        exact entry.evict isEnd request.now
      · refine LinksRecorded.elsewhere ?_ (elsewhere other isCall)
        refine recorded other after ?_
        have same := (departed.others other isCall).trans (others other isCall)
        exact (congrArg CallState.active same).symm.trans isAfter

/-- One operation adds its events to what the active calls record. -/
theorem next_linksFollow {s : CallManager} (coherent : Coherent s) {log : List LinkEvent}
    (recorded : s.LinksFollow log) {request : Request} (fromCaller : request.op.FromCaller) :
    (s.next request).LinksFollow (s.linkEvents request ++ log) := by
  by_cases isAccept : ∃ call client, request.op = .acceptCall call client
  · obtain ⟨call, client, isOp⟩ := isAccept
    exact acceptCall_linksFollow coherent recorded isOp
  · by_cases isReport : ∃ call reporter peer, request.op = .reportLinkFailure call reporter peer
    · obtain ⟨call, reporter, peer, isOp⟩ := isReport
      exact reportLinkFailure_linksFollow coherent recorded isOp
    · simp only [not_exists] at isAccept isReport
      have nothing : s.linkEvents request = [] := by
        unfold linkEvents
        split
        · exact absurd ‹_› (isAccept _ _)
        · exact absurd ‹_› (isReport _ _ _)
        · rfl
      rw [nothing]
      intro call active found
      rcases (execute_follows coherent request fromCaller).calls call with same | step
      · exact recorded call active ((congrArg CallState.active same).symm.trans found)
      · exact step.linksRecorded isAccept isReport (recorded call) active found

/-- A whole run adds its history to what the active calls record. -/
theorem run_linksFollow {s : CallManager} (coherent : Coherent s) {log : List LinkEvent}
    (recorded : s.LinksFollow log) {requests : List Request}
    (fromCaller : ∀ request ∈ requests, request.op.FromCaller) :
    (s.run requests).LinksFollow (s.linkLog requests ++ log) := by
  induction requests generalizing s log with
  | nil => exact recorded
  | cons request rest ih =>
      have first := fromCaller request (List.mem_cons_self ..)
      have later := ih (next_coherent coherent first) (next_linksFollow coherent recorded first)
        fun other member => fromCaller other (List.mem_cons_of_mem _ member)
      rw [linkLog, List.append_assoc]
      exact later

/-! ## Who joined since -/

/-- A participant after a departure was one before. -/
theorem Departs.joined_before {client other : ClientId} {before after : CallState}
    (departs : Departs client before after) (joined : after.Joined other) :
    before.Joined other := by
  cases departs with
  | hangUp => simp at joined
  | tearDown => simp at joined
  | leave =>
      rw [CallState.joined_some, leaveActive_keys] at joined
      exact ⟨_, rfl, Finset.mem_of_mem_erase joined⟩

/-- Nobody becomes a participant but by accepting. -/
theorem CallStep.joined_before {request : Request} {evicted : Option ClientId} {call : CallId}
    {before after : CallState} (step : CallStep request evicted call before after)
    (notAccept : ∀ call client, request.op ≠ .acceptCall call client) {other : ClientId}
    (joined : after.Joined other) : before.Joined other := by
  cases step with
  | invite => exact joined
  | withdraw => exact joined
  | cancel => exact joined
  | answer isOp => exact absurd isOp (notAccept _ _)
  | drop =>
      rw [CallState.joined_some, leaveActive_keys] at joined
      exact ⟨_, rfl, Finset.mem_of_mem_erase joined⟩
  | depart _ departs => exact departs.joined_before joined
  | report =>
      obtain ⟨_, ⟨⟩, member⟩ := joined
      exact ⟨_, rfl, member⟩
  | evict _ _ _ departs =>
      obtain ⟨_, ⟨⟩, member⟩ := departs.joined_before joined
      exact ⟨_, rfl, member⟩

/-- The history lists exactly those that became participants. -/
theorem joined_mem_linkEvents_iff {s : CallManager} (coherent : Coherent s) {request : Request}
    (fromCaller : request.op.FromCaller) (call : CallId) (client : ClientId) :
    .joined call client ∈ s.linkEvents request ↔
      ¬ (s.call call).Joined client ∧ ((s.next request).call call).Joined client := by
  by_cases isAccept : ∃ accepting acceptor, request.op = .acceptCall accepting acceptor
  · obtain ⟨accepting, acceptor, isOp⟩ := isAccept
    rcases acceptCall_cases coherent isOp with
      ⟨same, nothing⟩ | ⟨accepted, notCaller, outside, others, joined, events⟩
    · rw [nothing, same call]
      simp
    · by_cases isCall : call = accepting
      · subst isCall
        have keys := joinActive_keys (s.call call).active call acceptor accepted
        have joinedIff : ((s.next request).call call).Joined client ↔
            client ∈ (joinActive (s.call call).active call acceptor accepted).participants.keys := by
          simp [CallState.Joined, CallManager.call, joined]
        rw [events, joinedIff, keys]
        cases was : (s.call call).active with
        | none => simp [CallState.Joined, was, or_comm]
        | some old =>
            have wasOutside : acceptor ∉ old.participants.keys :=
              fun member => outside ⟨old, was, member⟩
            simp only [List.mem_singleton, LinkEvent.joined.injEq, true_and, CallState.Joined, was,
              Option.some.injEq, exists_eq_left', Finset.mem_insert]
            constructor
            · rintro rfl
              exact ⟨wasOutside, .inl rfl⟩
            · rintro ⟨notIn, isAcceptor | isIn⟩
              · exact isAcceptor
              · exact absurd isIn notIn
      · rw [events, others call isCall]
        cases (s.call accepting).active <;> simp [isCall]
  · simp only [not_exists] at isAccept
    have none : .joined call client ∉ s.linkEvents request := by
      unfold linkEvents
      split
      · exact absurd ‹_› (isAccept _ _)
      · split <;> simp
      · simp
    simp only [none, false_iff, not_and]
    intro notJoined joined
    refine notJoined ?_
    rcases (execute_follows coherent request fromCaller).calls call with same | step
    · rwa [same] at joined
    · exact step.joined_before isAccept joined

/-- A participant was one before the run or joined in it. -/
theorem joined_mem_linkLog {s : CallManager} (coherent : Coherent s) {requests : List Request}
    (fromCaller : ∀ request ∈ requests, request.op.FromCaller) {call : CallId}
    {client : ClientId} (outside : ¬ (s.call call).Joined client)
    (inside : ((s.run requests).call call).Joined client) :
    .joined call client ∈ s.linkLog requests := by
  induction requests generalizing s with
  | nil => exact absurd inside outside
  | cons request rest ih =>
      have first := fromCaller request (List.mem_cons_self ..)
      rw [linkLog, List.mem_append]
      by_cases joined : ((s.next request).call call).Joined client
      · exact .inr ((joined_mem_linkEvents_iff coherent first call client).mpr ⟨outside, joined⟩)
      · exact .inl (ih (next_coherent coherent first)
          (fun other member => fromCaller other (List.mem_cons_of_mem _ member)) joined inside)

end Vacs
