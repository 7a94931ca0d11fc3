import Vacs.Calls.Sections

/-!
# A call manager whose indexes lag behind

While operations are in progress the indexes of the call manager lag behind its
tables: a client that is rejecting is already silent, the clients of a cancelled
target still ring, a caller whose call stopped ringing is still busy. A manager
that lags is compared with a coherent one that has the same tables (`Alike`). Both
managers take every section of the code; where the coherent one takes several
sections at once, what it is ahead by has to be accounted for.
-/

set_option autoImplicit false

namespace Vacs

open CallManager

/-! ## A manager whose indexes lag -/

/-- The indexes of `s` agree with those of `t` except where a client is withdrawing from a
call or being silenced in it, or keeps a stale busy marker. -/
structure Alike (withdrawing silencing : CallId → ClientId → Prop)
    (stale : ClientId → CallId → Prop) (s t : CallManager) : Prop where
  ringingCalls : s.ringingCalls = t.ringingCalls
  activeCalls : s.activeCalls = t.activeCalls
  populated : Populated s.clientIncomingCalls
  incoming : ∀ client call,
    rungAs s.clientIncomingCalls client call = rungAs t.clientIncomingCalls client call ∨
      withdrawing call client ∨ silencing call client
  withdrawn : ∀ client call, withdrawing call client →
    rungAs s.clientIncomingCalls client call = none
  busy : ∀ client, s.clientActiveCalls.lookup client = t.clientActiveCalls.lookup client ∨
    (t.clientActiveCalls.lookup client = none ∧
      ∃ call, s.clientActiveCalls.lookup client = some call ∧ stale client call)

namespace Alike

variable {withdrawing silencing : CallId → ClientId → Prop} {stale : ClientId → CallId → Prop}
  {s t : CallManager}

theorem call_eq (alike : Alike withdrawing silencing stale s t) (call : CallId) :
    s.call call = t.call call := by
  simp [CallManager.call, alike.ringingCalls, alike.activeCalls]

/-- The ringing calls are replaced. -/
theorem setRinging (alike : Alike withdrawing silencing stale s t)
    (table : HashMap CallId RingingCallEntry) :
    Alike withdrawing silencing stale { s with ringingCalls := table }
      { t with ringingCalls := table } :=
  { alike with ringingCalls := rfl }

/-- The active calls are replaced. -/
theorem setActive (alike : Alike withdrawing silencing stale s t)
    (table : HashMap CallId ActiveCallEntry) :
    Alike withdrawing silencing stale { s with activeCalls := table }
      { t with activeCalls := table } :=
  { alike with activeCalls := rfl }

/-- Clients stop ringing for a call. -/
theorem silence (alike : Alike withdrawing silencing stale s t) (call : CallId)
    (clients : List ClientId) :
    Alike withdrawing silencing stale (s.silenceAll call clients) (t.silenceAll call clients) where
  ringingCalls := alike.ringingCalls
  activeCalls := alike.activeCalls
  populated := populated_foldl_removeIncoming clients alike.populated
  incoming client other := by
    simp only [silenceAll, rungAs_foldl_removeIncoming]
    split
    · exact .inl rfl
    · exact alike.incoming client other
  withdrawn client other isWithdrawing := by
    simp only [silenceAll, rungAs_foldl_removeIncoming]
    split
    · rfl
    · exact alike.withdrawn client other isWithdrawing
  busy := alike.busy

/-- Clients ring for a call, none of which is withdrawing from it. -/
theorem ring (alike : Alike withdrawing silencing stale s t) {call : CallId} (target : CallTarget)
    {clients : List ClientId} (staying : ∀ client ∈ clients, ¬ withdrawing call client) :
    Alike withdrawing silencing stale
      { s with clientIncomingCalls :=
        clients.foldl (insertIncoming call target) s.clientIncomingCalls }
      { t with clientIncomingCalls :=
        clients.foldl (insertIncoming call target) t.clientIncomingCalls } where
  ringingCalls := alike.ringingCalls
  activeCalls := alike.activeCalls
  populated := populated_foldl_insertIncoming clients alike.populated
  incoming client other := by
    simp only [rungAs_foldl_insertIncoming]
    split
    · exact .inl rfl
    · exact alike.incoming client other
  withdrawn client other isWithdrawing := by
    simp only [rungAs_foldl_insertIncoming]
    split
    · rename_i rung
      exact absurd (rung.2 ▸ isWithdrawing) (staying client rung.1)
    · exact alike.withdrawn client other isWithdrawing
  busy := alike.busy

/-- Busy markers are updated, each to something that depends on nothing but itself. -/
theorem mark (alike : Alike withdrawing silencing stale s t)
    {busy busy' : HashMap ClientId CallId}
    (kept : ∀ client,
      (busy.lookup client = s.clientActiveCalls.lookup client ∧
        busy'.lookup client = t.clientActiveCalls.lookup client) ∨
      busy.lookup client = busy'.lookup client) :
    Alike withdrawing silencing stale { s with clientActiveCalls := busy }
      { t with clientActiveCalls := busy' } where
  ringingCalls := alike.ringingCalls
  activeCalls := alike.activeCalls
  populated := alike.populated
  incoming := alike.incoming
  withdrawn := alike.withdrawn
  busy client := by
    rcases kept client with ⟨first, second⟩ | same
    · simp only [first, second]
      exact alike.busy client
    · exact .inl same

/-- A client is marked as free. -/
theorem free (alike : Alike withdrawing silencing stale s t) (freed : ClientId) :
    Alike withdrawing silencing stale
      { s with clientActiveCalls := s.clientActiveCalls.erase freed }
      { t with clientActiveCalls := t.clientActiveCalls.erase freed } := by
  refine alike.mark fun client => ?_
  rw [Finmap.lookup_erase_eq, Finmap.lookup_erase_eq]
  split
  · exact .inr rfl
  · exact .inl ⟨rfl, rfl⟩

/-- A client is marked as busy. -/
theorem occupy (alike : Alike withdrawing silencing stale s t) (client : ClientId)
    (call : CallId) :
    Alike withdrawing silencing stale
      { s with clientActiveCalls := s.clientActiveCalls.insert client call }
      { t with clientActiveCalls := t.clientActiveCalls.insert client call } := by
  refine alike.mark fun other => ?_
  rw [Finmap.lookup_insert_eq, Finmap.lookup_insert_eq]
  split
  · exact .inr rfl
  · exact .inl ⟨rfl, rfl⟩

/-- Clients that are busy with a call are marked as free. -/
theorem release (alike : Alike withdrawing silencing stale s t) (call : CallId)
    (clients : List ClientId) :
    Alike withdrawing silencing stale
      { s with clientActiveCalls := clients.foldl (releaseBusy call) s.clientActiveCalls }
      { t with clientActiveCalls := clients.foldl (releaseBusy call) t.clientActiveCalls } where
  ringingCalls := alike.ringingCalls
  activeCalls := alike.activeCalls
  populated := alike.populated
  incoming := alike.incoming
  withdrawn := alike.withdrawn
  busy client := by
    simp only [lookup_foldl_releaseBusy]
    rcases alike.busy client with same | ⟨free, stays, marked, isStale⟩
    · rw [same]
      exact .inl rfl
    · by_cases released : client ∈ clients ∧ stays = call
      · simp [free, marked, released.1, released.2]
      · refine .inr ⟨by simp [free], stays, ?_, isStale⟩
        rw [if_neg, marked]
        rintro ⟨member, isCall⟩
        exact released ⟨member, Option.some.inj (marked.symm.trans isCall)⟩

/-! ### Sections that are whole operations -/

theorem cancelPending (alike : Alike withdrawing silencing stale s t) (order : Iteration)
    (call : CallId) :
    Alike withdrawing silencing stale (s.cancelPendingInvitations order call).1
      (t.cancelPendingInvitations order call).1 := by
  unfold cancelPendingInvitations
  rw [alike.ringingCalls]
  cases t.ringingCalls.lookup call with
  | none => exact alike
  | some entry =>
      exact (alike.setRinging (t.ringingCalls.erase call)).silence entry.callId
        (notifiedList order entry)

theorem endRinging (alike : Alike withdrawing silencing stale s t) (order : Iteration)
    (call : CallId) (client : ClientId) :
    Alike withdrawing silencing stale (s.endRinging order call client).1
      (t.endRinging order call client).1 := by
  unfold CallManager.endRinging
  rw [alike.ringingCalls]
  cases t.ringingCalls.lookup call with
  | none => exact alike
  | some entry =>
      dsimp only
      split
      · exact ((alike.setRinging (t.ringingCalls.erase call)).silence entry.callId
          (notifiedList order entry)).free client
      · exact alike

theorem endActive (alike : Alike withdrawing silencing stale s t) (order : Iteration)
    (call : CallId) (client : ClientId) :
    Alike withdrawing silencing stale (s.endActive order call client).1
      (t.endActive order call client).1 := by
  unfold CallManager.endActive
  rw [alike.activeCalls]
  cases t.activeCalls.lookup call with
  | none => exact alike
  | some active =>
      dsimp only
      split
      · exact alike
      · split
        · exact ((alike.setActive (t.activeCalls.erase call)).cancelPending order call).release
            call [client]
        · split
          · refine (((alike.setActive (t.activeCalls.erase call)).release call
              (order.clients.list (active.participantsWithoutSelf client).keys)).release call
                [client]).cancelPending order call
          · exact (alike.setActive (t.activeCalls.insert call (leaveActive active client))).release
              call [client]

theorem endCall (alike : Alike withdrawing silencing stale s t) (order : Iteration)
    (call : CallId) (client : ClientId) :
    Alike withdrawing silencing stale (s.endCall order call client).1
      (t.endCall order call client).1 := by
  rw [(endCall_eq order s call client).1, (endCall_eq order t call client).1]
  exact (alike.endRinging order call client).endActive order call client

theorem dropJoined (alike : Alike withdrawing silencing stale s t) (order : Iteration)
    (call : CallId) (client : ClientId) (target : CallTarget) (reason : CallDropReason) :
    Alike withdrawing silencing stale
      (s.dropJoinedParticipant order call client target reason).1
      (t.dropJoinedParticipant order call client target reason).1 := by
  unfold dropJoinedParticipant
  rw [alike.activeCalls]
  cases t.activeCalls.lookup call with
  | none => exact alike
  | some active =>
      dsimp only
      split
      · exact alike
      · split
        · exact alike
        · rename_i dropped _
          split
          · exact alike
          · split
            · exact alike
            · split
              · exact alike
              · split
                · exact alike
                · exact (alike.setActive (t.activeCalls.insert call
                    (leaveActive active dropped))).release call [dropped]

/-- A client accepts that is marked as busy in neither manager. -/
theorem accept (alike : Alike withdrawing silencing stale s t) (order : Iteration)
    (call : CallId) {client : ClientId} (free : client ∉ s.clientActiveCalls.keys)
    (free' : client ∉ t.clientActiveCalls.keys) :
    Alike withdrawing silencing stale (s.acceptCall order call client).1
      (t.acceptCall order call client).1 := by
  unfold acceptCall
  rw [if_neg free, if_neg free', alike.ringingCalls]
  cases t.ringingCalls.lookup call with
  | none => exact alike
  | some entry =>
      dsimp only
      cases acceptedTarget order call client entry with
      | none => exact alike.setRinging _
      | some accepted =>
          dsimp only
          rw [alike.activeCalls]
          exact ((((alike.setRinging _).silence call
            (order.clients.list accepted.notifiedClients)).setActive _).occupy client call)

/-- A caller invites that is marked the same in both managers. -/
theorem attempt (alike : Alike withdrawing silencing stale s t) (order : Iteration)
    {call : CallId} {caller : ClientId} (source : CallSource) (target : CallTarget)
    {notified : Finset ClientId}
    (marked : s.clientActiveCalls.lookup caller = t.clientActiveCalls.lookup caller)
    (staying : ∀ client ∈ notified, ¬ withdrawing call client) :
    Alike withdrawing silencing stale
      (s.attemptCall order call caller source target notified).1
      (t.attemptCall order call caller source target notified).1 := by
  have valid : s.validateCallAttempt call caller target notified =
      t.validateCallAttempt call caller target notified := by
    unfold validateCallAttempt
    rw [marked, alike.ringingCalls, alike.activeCalls]
  unfold attemptCall
  rw [valid]
  cases t.validateCallAttempt call caller target notified with
  | error reason => exact alike
  | ok =>
      dsimp only
      rw [alike.ringingCalls]
      refine ((alike.setRinging _).occupy caller call).ring target ?_
      intro client member
      exact staying client ((order.clients.mem_list notified client).mp member)

/-- Marking a client in the ringing entry finds the same in both managers. -/
theorem markSection (alike : Alike withdrawing silencing stale s t) (call : CallId)
    (client : ClientId) (markFn : RingingTargetEntry → ClientId → RingingTargetEntry) :
    (s.markSection call client markFn).2 = (t.markSection call client markFn).2 ∧
      Alike withdrawing silencing stale (s.markSection call client markFn).1
        (t.markSection call client markFn).1 := by
  unfold CallManager.markSection
  rw [alike.ringingCalls]
  cases t.ringingCalls.lookup call with
  | none => exact ⟨rfl, alike⟩
  | some entry =>
      dsimp only
      split
      · exact ⟨rfl, alike⟩
      · split
        · exact ⟨rfl, alike⟩
        · split
          · exact ⟨rfl, alike.setRinging _⟩
          · exact ⟨rfl, alike.setRinging _⟩

/-! ### Sections of which the coherent manager already has the rest -/

/-- What accounts for the differences may grow, except that withdrawing clients stay the
same. -/
theorem relabel (alike : Alike withdrawing silencing stale s t)
    {withdrawing' silencing' : CallId → ClientId → Prop} {stale' : ClientId → CallId → Prop}
    (withdraws : ∀ call client, withdrawing' call client ↔ withdrawing call client)
    (silences : ∀ call client, silencing call client → silencing' call client)
    (excuses : ∀ client call, stale client call → stale' client call) :
    Alike withdrawing' silencing' stale' s t where
  ringingCalls := alike.ringingCalls
  activeCalls := alike.activeCalls
  populated := alike.populated
  incoming client call := (alike.incoming client call).imp_right
    (Or.imp (withdraws call client).mpr (silences call client))
  withdrawn client call withdrawing := alike.withdrawn client call
    ((withdraws call client).mp withdrawing)
  busy client := (alike.busy client).imp_right fun ⟨free, call, marked, isStale⟩ =>
    ⟨free, call, marked, excuses client call isStale⟩

/-- The coherent manager has silenced clients that are still being silenced. -/
theorem silenceAhead (alike : Alike withdrawing silencing stale s t) (call : CallId)
    {clients : List ClientId} {silencing' : CallId → ClientId → Prop}
    (kept : ∀ other client, silencing other client → silencing' other client)
    (ahead : ∀ client ∈ clients, silencing' call client) :
    Alike withdrawing silencing' stale s (t.silenceAll call clients) where
  ringingCalls := alike.ringingCalls
  activeCalls := alike.activeCalls
  populated := alike.populated
  incoming client other := by
    simp only [silenceAll, rungAs_foldl_removeIncoming]
    split
    · rename_i silenced
      exact .inr (.inr (silenced.2 ▸ ahead client silenced.1))
    · exact (alike.incoming client other).imp_right (Or.imp_right (kept other client))
  withdrawn := alike.withdrawn
  busy := alike.busy

/-- The coherent manager has freed a client that keeps its marker for now. -/
theorem freeAhead (alike : Alike withdrawing silencing stale s t) {busy : HashMap ClientId CallId}
    {stale' : ClientId → CallId → Prop}
    (kept : ∀ client call, stale client call → stale' client call)
    (ahead : ∀ client, busy.lookup client = t.clientActiveCalls.lookup client ∨
      (busy.lookup client = none ∧
        ∀ call, t.clientActiveCalls.lookup client = some call → stale' client call)) :
    Alike withdrawing silencing stale' s { t with clientActiveCalls := busy } where
  ringingCalls := alike.ringingCalls
  activeCalls := alike.activeCalls
  populated := alike.populated
  incoming := alike.incoming
  withdrawn := alike.withdrawn
  busy client := by
    rcases alike.busy client with same | ⟨free, call, marked, isStale⟩
    · rcases ahead client with unchanged | ⟨freed, explained⟩
      · simp only [unchanged]
        exact .inl same
      · cases marked : t.clientActiveCalls.lookup client with
        | none => exact .inl (by rw [same, marked, freed])
        | some call => exact .inr ⟨freed, call, same.trans marked, explained call marked⟩
    · refine .inr ⟨?_, call, marked, kept client call isStale⟩
      rcases ahead client with unchanged | ⟨freed, _⟩
      · exact unchanged.trans free
      · exact freed

/-- A client withdraws first in the index. -/
theorem withdraw (alike : Alike withdrawing silencing stale s t) (call : CallId)
    (client : ClientId) :
    Alike (fun other rung => withdrawing other rung ∨ (other = call ∧ rung = client)) silencing
      stale (s.removeClientIncomingCall call client) t where
  ringingCalls := alike.ringingCalls
  activeCalls := alike.activeCalls
  populated := populated_removeIncoming call alike.populated client
  incoming rung other := by
    simp only [removeClientIncomingCall, rungAs_removeIncoming]
    split
    · rename_i removed
      exact .inr (.inl (.inr removed.symm))
    · exact (alike.incoming rung other).imp_right (Or.imp_left .inl)
  withdrawn rung other isWithdrawing := by
    simp only [removeClientIncomingCall, rungAs_removeIncoming]
    split
    · rfl
    · rename_i kept
      exact alike.withdrawn rung other
        (isWithdrawing.resolve_right fun removed => kept removed.symm)
  busy := alike.busy

/-- A client that has withdrawn in the index withdraws in the coherent manager too. -/
theorem withdrawBoth (alike : Alike withdrawing silencing stale s t) {call : CallId}
    {client : ClientId} (isWithdrawing : withdrawing call client) :
    Alike withdrawing silencing stale s (t.removeClientIncomingCall call client) where
  ringingCalls := alike.ringingCalls
  activeCalls := alike.activeCalls
  populated := alike.populated
  incoming rung other := by
    simp only [removeClientIncomingCall, rungAs_removeIncoming]
    split
    · rename_i removed
      obtain ⟨rfl, rfl⟩ := removed
      exact .inl (alike.withdrawn _ _ isWithdrawing)
    · exact alike.incoming rung other
  withdrawn := alike.withdrawn
  busy := alike.busy

end Alike

end Vacs
