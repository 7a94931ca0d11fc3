import Vacs.Calls.LinkHistory

/-!
# Eviction over a dead link

A participant is evicted when both ends of a link have reported it dead, the
other end not too long ago and both while neither has left since. Here that is
stated on the history of the run alone, which the active entries record.
-/

set_option autoImplicit false

namespace Vacs

open CallManager

/-- What a dead-link report does, in terms of the history before it. -/
structure EvictionLaw (s : CallManager) (log : List LinkEvent) (request : Request) (call : CallId)
    (reporter peer : ClientId) : Prop where
  /-- It evicts somebody exactly when the last report on the link since both ends
  joined came from the other end and is fresh. -/
  evicts_iff : (s.execute request).2.evicted.isSome = true ↔
    reporter ≠ peer ∧ s.Participant call reporter ∧ s.Participant call peer ∧
      ∃ time, lastReport call reporter peer log = some (peer, time) ∧
        request.now < time + linkReportTtl
  /-- Otherwise it removes nobody. -/
  otherwise : (s.execute request).2.evicted = none → ∀ other client,
    (s.next request).Participant other client ↔ s.Participant other client
  /-- It evicts the end that joined later. -/
  evicted : ∀ client, (s.execute request).2.evicted = some client →
    lastJoined call reporter peer log = some client ∧ ¬ (s.next request).Participant call client
  /-- Which end that is does not depend on who reports. -/
  symmetric : lastJoined call reporter peer log = lastJoined call peer reporter log

theorem lastJoined_comm (call : CallId) (first second : ClientId) (log : List LinkEvent) :
    lastJoined call first second log = lastJoined call second first log := by
  induction log with
  | nil => rfl
  | cons event rest ih => cases event <;> simp only [lastJoined, ih, or_comm]

/-- Joins from before an end joined do not count. -/
theorem lastJoined_append_of_joined {call : CallId} {first second client : ClientId}
    {newer : List LinkEvent} (joined : LinkEvent.joined call client ∈ newer)
    (isEnd : client = first ∨ client = second) (older : List LinkEvent) :
    lastJoined call first second (newer ++ older) = lastJoined call first second newer := by
  induction newer with
  | nil => cases joined
  | cons event rest ih =>
      cases event with
      | joined other other' =>
          simp only [List.cons_append, lastJoined]
          split
          · rfl
          · rename_i notEnd
            refine ih ((List.mem_cons.mp joined).resolve_left ?_)
            rintro ⟨⟩
            exact notEnd ⟨rfl, isEnd⟩
      | reported other reporter peer time =>
          simp only [List.cons_append, lastJoined]
          exact ih ((List.mem_cons.mp joined).resolve_left (by simp))

/-- A client that departs is no participant any more. -/
theorem Departs.not_joined {client : ClientId} {before after : CallState}
    (departs : Departs client before after) : ¬ after.Joined client := by
  cases departs with
  | hangUp => simp
  | tearDown => simp
  | leave => simp

theorem evictionLaw_of_linksFollow {s : CallManager} (coherent : Coherent s)
    {log : List LinkEvent} (recorded : s.LinksFollow log) {request : Request} {call : CallId}
    {reporter peer : ClientId} (isOp : request.op = .reportLinkFailure call reporter peer) :
    EvictionLaw s log request call reporter peer := by
  have executed : s.execute request =
      (s.reportLinkFailure request.order call reporter peer request.now).map id .reported := by
    simp [CallManager.execute, isOp]
  have state : s.next request =
      (s.reportLinkFailure request.order call reporter peer request.now).1 :=
    congrArg Prod.fst executed
  have outcome : (s.execute request).2.evicted = Outcome.evicted (.reported
      (s.reportLinkFailure request.order call reporter peer request.now).2) :=
    congrArg (fun result => result.2.evicted) executed
  have symmetric := lastJoined_comm call reporter peer log
  rcases reportLinkFailure_cases coherent request.order call reporter peer request.now with
    ⟨invalid, unchanged⟩ | ⟨active, found, distinct, reporterJoined, peerJoined, result⟩
  · rw [unchanged] at state outcome
    refine ⟨?_, ?_, ?_, symmetric⟩
    · rw [outcome]
      simp only [Outcome.evicted, Option.isSome_none, Bool.false_eq_true, false_iff]
      exact fun holds => invalid ⟨holds.1, holds.2.1, holds.2.2.1⟩
    · intro _ other client
      rw [state]
    · intro client isSome
      cases outcome.symm.trans isSome
  · have entry := recorded call active found
    have confirmed := entry.confirmed_iff reporterJoined peerJoined distinct request.now
    obtain ⟨⟨atCall, others⟩, _⟩ := recorded_coherent coherent found reporter peer request.now
    rcases result with ⟨pending, result⟩ | ⟨isConfirmed, ⟨unreachable, actions, result⟩, departed⟩
    · rw [result] at state outcome
      rw [pending, Bool.false_eq_true, false_iff] at confirmed
      refine ⟨?_, ?_, ?_, symmetric⟩
      · rw [outcome]
        simp only [Outcome.evicted, Option.isSome_none, Bool.false_eq_true, false_iff]
        exact fun holds => confirmed holds.2.2.2
      · intro _ other client
        change ((s.next request).call other).Joined client ↔ (s.call other).Joined client
        rw [state]
        by_cases isCall : other = call
        · rw [isCall, atCall, call_eq_of_active found]
          simp
        · rw [others other isCall]
      · intro client isSome
        cases outcome.symm.trans isSome
    · rw [result] at outcome
      refine ⟨?_, ?_, ?_, symmetric⟩
      · rw [outcome]
        simp only [Outcome.evicted, Option.isSome_some, true_iff]
        exact ⟨distinct, ⟨active, found, reporterJoined⟩, ⟨active, found, peerJoined⟩,
          confirmed.mp isConfirmed⟩
      · intro isNone
        cases outcome.symm.trans isNone
      · intro client isSome
        cases outcome.symm.trans isSome
        refine ⟨entry.ordered reporter peer reporterJoined peerJoined distinct, ?_⟩
        rw [state]
        exact departed.departs.not_joined

/-- What a dead-link report does after any run. Of the history, only what happened
since an end was last out of the call counts. -/
theorem run_evictionLaw (maxConfSize : ℕ) (requests : List Request)
    (fromCaller : ∀ request ∈ requests, request.op.FromCaller) (request : Request)
    (call : CallId) (reporter peer : ClientId)
    (isOp : request.op = .reportLinkFailure call reporter peer) :
    EvictionLaw ((CallManager.new maxConfSize).run requests)
        ((CallManager.new maxConfSize).linkLog requests) request call reporter peer ∧
      ∀ earlier later, requests = earlier ++ later →
        (¬ ((CallManager.new maxConfSize).run earlier).Participant call reporter ∨
          ¬ ((CallManager.new maxConfSize).run earlier).Participant call peer) →
        EvictionLaw ((CallManager.new maxConfSize).run requests)
          (((CallManager.new maxConfSize).run earlier).linkLog later) request call reporter
          peer := by
  have start := coherent_new maxConfSize
  have coherent := run_coherent start fromCaller
  have recorded : ((CallManager.new maxConfSize).run requests).LinksFollow
      ((CallManager.new maxConfSize).linkLog requests ++ []) := by
    refine run_linksFollow start ?_ fromCaller
    intro other active found
    simp [CallManager.new] at found
  rw [List.append_nil] at recorded
  have law := evictionLaw_of_linksFollow coherent recorded isOp
  refine ⟨law, ?_⟩
  rintro earlier later rfl out
  rw [linkLog_append] at law
  have earlierCoherent : Coherent ((CallManager.new maxConfSize).run earlier) :=
    run_coherent start fun request member => fromCaller request (List.mem_append_left _ member)
  have run_append : (CallManager.new maxConfSize).run (earlier ++ later) =
      ((CallManager.new maxConfSize).run earlier).run later := List.foldl_append
  rw [run_append] at law ⊢
  generalize (CallManager.new maxConfSize).run earlier = s at *
  generalize (CallManager.new maxConfSize).linkLog earlier = older at *
  by_cases both : (s.run later).Participant call reporter ∧ (s.run later).Participant call peer
  · have joined : ∃ client, (client = reporter ∨ client = peer) ∧
        .joined call client ∈ s.linkLog later := by
      have laterFrom : ∀ request ∈ later, request.op.FromCaller :=
        fun request member => fromCaller request (List.mem_append_right _ member)
      rcases out with outside | outside
      · exact ⟨reporter, .inl rfl, joined_mem_linkLog earlierCoherent laterFrom outside both.1⟩
      · exact ⟨peer, .inr rfl, joined_mem_linkLog earlierCoherent laterFrom outside both.2⟩
    obtain ⟨client, isEnd, joined⟩ := joined
    have sameReport := lastReport_append_of_joined joined isEnd older
    have sameJoined := lastJoined_append_of_joined joined isEnd older
    exact ⟨sameReport ▸ law.evicts_iff, law.otherwise, sameJoined ▸ law.evicted,
      lastJoined_comm _ _ _ _⟩
  · have nobody : ((s.run later).execute request).2.evicted.isSome = false := by
      rw [← Bool.not_eq_true, law.evicts_iff]
      exact fun holds => both ⟨holds.2.1, holds.2.2.1⟩
    refine ⟨?_, law.otherwise, ?_, lastJoined_comm _ _ _ _⟩
    · rw [nobody]
      simp only [Bool.false_eq_true, false_iff]
      exact fun holds => both ⟨holds.2.1, holds.2.2.1⟩
    · intro client isSome
      rw [isSome] at nobody
      cases nobody

theorem conferenceOfThree_evictionLaw :
    let report := fun (reporter peer : ClientId) (now : Instant) =>
      ({ op := .reportLinkFailure ⟨1⟩ reporter peer, order := .increasing, now := now } : Request)
    let requests := conferenceOfThree ++ [report ⟨"LOWI"⟩ ⟨"LOVV"⟩ 0]
    let second := report ⟨"LOVV"⟩ ⟨"LOWI"⟩ 89000000000
    (((CallManager.new 5).run requests).execute second).2.evicted = some ⟨"LOWI"⟩ ∧
      EvictionLaw ((CallManager.new 5).run requests) ((CallManager.new 5).linkLog requests) second
        ⟨1⟩ ⟨"LOVV"⟩ ⟨"LOWI"⟩ := by
  refine ⟨by decide +kernel, (run_evictionLaw 5 _ ?_ _ _ _ _ rfl).1⟩
  intro request member
  rcases List.mem_append.mp member with setup | reported
  · exact conferenceOfThree_fromCaller request setup
  · rw [List.mem_singleton.mp reported]
    trivial

end Vacs
