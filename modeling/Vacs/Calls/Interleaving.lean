import Vacs.Calls.PendingOperations

/-!
# Interleaved operations of the call manager

Every section of every operation keeps the call manager tracked by a coherent one
(`Interleaved.Tracked`), as long as it stays out of the windows of the others.

Two kinds of sections act on what an earlier section of their operation found:
a rejection clears the busy marker of the caller, whatever call it names by then,
and a cancellation silences the clients it found, whatever they ring for by then.
An invitation that is made in between is undone in the indexes and stays in the
tables. Where no invitation and no answer falls into such a window
(`Interleaved.Undisturbed`), the indexes describe the tables again once all
operations have completed.
-/

set_option autoImplicit false

namespace Vacs

open CallManager

/-! ## Sections keep the relation -/

theorem MarkKind.marks (kind : MarkKind) : Marks kind.markFn := by
  cases kind with
  | rejected => exact marks_markRejected
  | errored => exact marks_markErrored

namespace Lags

variable {tasks : HashMap ClientId PendingSections} {s t : CallManager} {client : ClientId}

theorem inSomeActiveCall_eq (lags : Lags tasks s t) (caller : ClientId) :
    s.inSomeActiveCall caller = t.inSomeActiveCall caller := by
  simp [inSomeActiveCall, lags.alike.activeCalls]

/-- A section of an operation in progress is through. -/
theorem resumed {pending : PendingSections} {after : Option PendingSections} {t' s' : CallManager}
    (lags : Lags tasks s t) (found : tasks.lookup client = some pending)
    (retreats : Retreats t t')
    (fitsAfter : ∀ left, after = some left → left.Fits t' client)
    (alike : AlikeDuring tasks client after s' t')
    (withdrawn : ∀ call, pending.withdraws call = true →
      rungAs s'.clientIncomingCalls client call = rungAs t'.clientIncomingCalls client call)
    (silenced : ∀ call callee, pending.silences call callee = true →
      (∃ left, after = some left ∧ left.silences call callee = true) ∨
        rungAs s'.clientIncomingCalls callee call = rungAs t'.clientIncomingCalls callee call)
    (excused : ∀ caller call, pending.Excuses caller call →
      t'.clientActiveCalls.lookup caller = none → s'.clientActiveCalls.lookup caller = some call →
        ∃ left, after = some left ∧ left.Excuses caller call) :
    Lags (tasks.alter client after) s' t' := by
  have isPending : ∀ other, tasks.lookup client = some other → other = pending :=
    fun other same => Option.some.inj (same.symm.trans found)
  refine settle retreats.coherent
    (fun other waiting isWaiting => (lags.fits other waiting isWaiting).retreat lags.coherent retreats)
    fitsAfter alike ?_ ?_ ?_
  · intro other call same
    exact isPending other same ▸ withdrawn call
  · intro other call callee same
    exact isPending other same ▸ silenced call callee
  · intro other caller call same
    exact isPending other same ▸ excused caller call

theorem readActive (lags : Lags tasks s t) {caller : ClientId}
    (found : tasks.lookup client = some (.readActive caller)) :
    Lags (tasks.alter client
      (if s.inSomeActiveCall caller then none else some (.clearBusy caller))) s t := by
  have fits : ∀ call, t.clientActiveCalls.lookup caller = some call →
      (t.call call).Joined caller := lags.fits client _ found
  rw [lags.inSomeActiveCall_eq]
  cases inCall : t.inSomeActiveCall caller with
  | true =>
      refine lags.resumed found (.refl lags.coherent) (by intros; contradiction)
        (during lags.alike (by intros; contradiction)) (by intros; contradiction)
        (by intros; contradiction) ?_
      rintro _ call rfl free _
      obtain ⟨active, entry, isActive, involved⟩ := (Finmap.anyValue_iff _ _).mp inCall
      refine absurd (.inr ⟨entry, isActive, ?_⟩)
        ((busy_eq_none_iff lags.coherent caller).mp free active)
      simpa [ActiveCallEntry.involves] using involved
  | false =>
      refine lags.resumed found (.refl lags.coherent) ?_ (during lags.alike ?_)
        (by intros; contradiction) (by intros; contradiction) ?_
      · rintro _ ⟨⟩
        change t.clientActiveCalls.lookup caller = none
        rw [busy_eq_none_iff lags.coherent]
        intro call engages
        have joined := fits call ((lags.coherent.indexed.busy caller call).mpr engages)
        have inActive := (lags.coherent.indexed.inSomeActiveCall_iff engages).mpr joined
        rw [inCall] at inActive
        cases inActive
      · rintro _ call ⟨⟩
        rfl
      · rintro _ call rfl _ _
        exact ⟨_, rfl, rfl⟩

theorem clearBusy (lags : Lags tasks s t) {caller : ClientId}
    (found : tasks.lookup client = some (.clearBusy caller)) :
    Lags (tasks.alter client none)
      { s with clientActiveCalls := s.clientActiveCalls.erase caller } t := by
  have free : t.clientActiveCalls.lookup caller = none := lags.fits client _ found
  have alike := lags.alike.free caller
  rw [Finmap.erase_eq_self free] at alike
  refine lags.resumed found (.refl lags.coherent) (by intros; contradiction)
    (during alike (by intros; contradiction)) (by intros; contradiction) (by intros; contradiction)
    ?_
  rintro _ call rfl _ marked
  simp at marked

theorem silence (lags : Lags tasks s t) {call : CallId} {caller callee : ClientId} {ended : Bool}
    {callees : List ClientId}
    (found : tasks.lookup client = some (.silence call caller ended (callee :: callees))) :
    Lags (tasks.alter client (some (.silence call caller ended callees)))
      (s.removeClientIncomingCall call callee) t := by
  obtain ⟨silent, freed⟩ := lags.fits client _ found
  have alike := lags.alike.silence call [callee]
  have same : t.silenceAll call [callee] = t := by
    have unchanged := removeIncoming_of_silent lags.coherent.indexed.populated
      (silent callee (List.mem_cons_self ..))
    simp [silenceAll, unchanged]
  rw [same] at alike
  refine lags.resumed found (.refl lags.coherent) ?_ (during alike ?_) (by intros; contradiction) ?_ ?_
  · rintro _ ⟨⟩
    exact ⟨fun other member => silent other (List.mem_cons_of_mem _ member), freed⟩
  · rintro _ _ ⟨⟩
    rfl
  · intro other rung silences
    obtain ⟨rfl, member⟩ : call = other ∧ rung ∈ callee :: callees := by
      simpa [PendingSections.silences] using silences
    rcases List.mem_cons.mp member with rfl | member
    · right
      rw [silent rung (List.mem_cons_self ..)]
      simp [removeClientIncomingCall, rungAs_removeIncoming]
    · exact .inl ⟨_, rfl, by simp [PendingSections.silences, member]⟩
  · intro _ _ excuses _ _
    exact ⟨_, rfl, excuses⟩

theorem silenced (lags : Lags tasks s t) {call : CallId} {caller : ClientId} {ended : Bool}
    (found : tasks.lookup client = some (.silence call caller ended [])) :
    Lags (tasks.alter client
      (if ended ∧ caller ∉ (s.activeCallSnapshot call).1.keys then some (.release call caller)
        else none)) s t := by
  obtain ⟨_, freed⟩ := lags.fits client _ found
  have joinedIff : caller ∈ (s.activeCallSnapshot call).1.keys ↔ (t.call call).Joined caller := by
    rw [mem_activeCallSnapshot, lags.alike.call_eq]
  by_cases release : ended = true ∧ caller ∉ (s.activeCallSnapshot call).1.keys
  · rw [if_pos release]
    rw [joinedIff] at release
    refine lags.resumed found (.refl lags.coherent) ?_ (during lags.alike ?_)
      (by intros; contradiction) ?_ ?_
    · rintro _ ⟨⟩
      obtain ⟨isClient, notCalls⟩ := freed release.1
      exact ⟨isClient, fun engages => engages.elim notCalls release.2⟩
    · rintro _ _ ⟨⟩
      rfl
    · intro other callee silences
      simp [PendingSections.silences] at silences
    · rintro _ _ ⟨_, rfl, rfl⟩ _ _
      exact ⟨_, rfl, rfl, rfl⟩
  · rw [if_neg release]
    refine lags.resumed found (.refl lags.coherent) (by intros; contradiction)
      (during lags.alike (by intros; contradiction)) (by intros; contradiction) ?_ ?_
    · intro other callee silences
      simp [PendingSections.silences] at silences
    · rintro _ _ ⟨isEnded, rfl, rfl⟩ free _
      rw [joinedIff] at release
      refine absurd ⟨isEnded, fun joined => ?_⟩ release
      exact (busy_eq_none_iff lags.coherent caller).mp free call (.inr joined)

theorem release (lags : Lags tasks s t) {call : CallId} {caller : ClientId}
    (found : tasks.lookup client = some (.release call caller)) :
    Lags (tasks.alter client none)
      { s with clientActiveCalls := releaseBusy call s.clientActiveCalls caller } t := by
  obtain ⟨_, notEngaged⟩ := lags.fits client _ found
  have alike := lags.alike.release call [caller]
  have same : [caller].foldl (releaseBusy call) t.clientActiveCalls = t.clientActiveCalls := by
    refine Finmap.ext_lookup fun other => ?_
    rw [lookup_foldl_releaseBusy]
    split
    · rename_i marked
      obtain ⟨isCaller, marked⟩ := marked
      rw [List.mem_singleton.mp isCaller] at marked
      exact absurd ((lags.coherent.indexed.busy caller call).mp marked) notEngaged
    · rfl
  rw [same] at alike
  refine lags.resumed found (.refl lags.coherent) (by intros; contradiction)
    (during alike (by intros; contradiction)) (by intros; contradiction) (by intros; contradiction)
    ?_
  rintro _ _ ⟨rfl, rfl⟩ _ marked
  rw [lookup_releaseBusy] at marked
  split at marked
  · cases marked
  · rename_i kept
    exact absurd ⟨rfl, marked⟩ kept

theorem dropJoined (lags : Lags tasks s t) (order : Iteration) {call : CallId}
    {target : CallTarget} {reason : CallDropReason}
    (found : tasks.lookup client = some (.dropJoined call target reason)) :
    Lags (tasks.alter client none)
      (s.dropJoinedParticipant order call client target reason).1
      (t.dropJoinedParticipant order call client target reason).1 := by
  have follows : Follows ⟨.dropTarget call client target reason, order, 0⟩ none t
      (t.dropJoinedParticipant order call client target reason).1 :=
    dropJoinedParticipant_follows lags.coherent rfl none
  exact lags.resumed found
    (follows.retreats lags.coherent (by rintro _ _ _ _ _ ⟨⟩) (by rintro _ _ ⟨⟩))
    (by intros; contradiction)
    (during (lags.alike.dropJoined order call client target reason) (by intros; contradiction))
    (by intros; contradiction) (by intros; contradiction) (by intros; contradiction)

theorem endCall (lags : Lags tasks s t) (order : Iteration) {call : CallId}
    (found : tasks.lookup client = some (.endCall call)) :
    Lags (tasks.alter client none) (s.endCall order call client).1
      (t.endCall order call client).1 := by
  have follows : Follows ⟨.endCall call client, order, 0⟩ none t
      (t.endCall order call client).1 := endCall_follows lags.coherent (.inl rfl) none
  exact lags.resumed found
    (follows.retreats lags.coherent (by rintro _ _ _ _ _ ⟨⟩) (by rintro _ _ ⟨⟩))
    (by intros; contradiction)
    (during (lags.alike.endCall order call client) (by intros; contradiction))
    (by intros; contradiction) (by intros; contradiction) (by intros; contradiction)

/-- A caller that was freed as its call stopped ringing, and is still busy, has joined. -/
theorem fits_readActive {caller : ClientId} (coherent : Coherent (t.freeCaller caller)) :
    (PendingSections.readActive caller).Fits (t.freeCaller caller) client := by
  intro call busy
  have engages := (coherent.indexed.busy caller call).mp busy
  refine (coherent.indexed.inSomeActiveCall_iff engages).mp ?_
  rw [inSomeActiveCall, freeCaller_activeCalls]
  change t.inSomeActiveCall caller = true
  by_contra notInCall
  rw [freeCaller, if_neg notInCall] at busy
  simp at busy

theorem mark (lags : Lags tasks s t) (order : Iteration) {call : CallId} {kind : MarkKind}
    {endsCall : Bool} (found : tasks.lookup client = some (.mark call kind endsCall)) :
    ∃ t', Lags (tasks.alter client (s.resume order client (.mark call kind endsCall)).2)
      (s.resume order client (.mark call kind endsCall)).1 t' := by
  have isWithdrawing : Withdrawing tasks call client :=
    ⟨client, _, found, rfl, by simp [PendingSections.withdraws]⟩
  have silent := lags.alike.withdrawn client call isWithdrawing
  obtain ⟨sameSection, alike⟩ := (lags.alike.withdrawBoth isWithdrawing).markSection call client
    kind.markFn
  have follows : Follows ⟨.failRingingRecipient call client, order, 0⟩ none t
      (t.markClientWithinRingingCalls order call client kind.markFn).1 :=
    markClient_follows lags.coherent kind.marks (.inr (.inl rfl)) none
  have retreats := follows.retreats lags.coherent (by rintro _ _ _ _ _ ⟨⟩) (by rintro _ _ ⟨⟩)
  rw [markClientWithinRingingCalls_eq] at retreats
  simp only [CallManager.resume]
  have incoming := markSection_clientIncomingCalls s call client kind.markFn
  have incoming' := markSection_clientIncomingCalls (t.removeClientIncomingCall call client) call
    client kind.markFn
  cases marking : s.markSection call client kind.markFn with
  | mk s' left =>
      cases marking' : (t.removeClientIncomingCall call client).markSection call client
          kind.markFn with
      | mk t' left' =>
          simp only [marking, marking'] at sameSection alike retreats incoming incoming'
          subst sameSection
          have withdrawn : ∀ other, (PendingSections.mark call kind endsCall).withdraws other = true →
              rungAs s'.clientIncomingCalls client other =
                rungAs t'.clientIncomingCalls client other := by
            intro other withdraws
            obtain rfl : call = other := by simpa [PendingSections.withdraws] using withdraws
            rw [incoming, incoming', silent]
            simp [removeClientIncomingCall, rungAs_removeIncoming]
          cases left with
          | notMarked =>
              refine ⟨t', ?_⟩
              cases endsCall with
              | false =>
                  exact lags.resumed found retreats (by intros; contradiction)
                    (during alike (by intros; contradiction)) withdrawn (by intros; contradiction)
                    (by intros; contradiction)
              | true =>
                  refine lags.resumed found retreats ?_ (during alike ?_) withdrawn
                    (by intros; contradiction) (by intros; contradiction)
                  · rintro _ ⟨⟩
                    trivial
                  · rintro _ _ ⟨⟩
                    rfl
          | marked =>
              refine ⟨t', ?_⟩
              exact lags.resumed found retreats (by intros; contradiction)
                (during alike (by intros; contradiction)) withdrawn (by intros; contradiction)
                (by intros; contradiction)
          | emptied caller =>
              refine ⟨t'.freeCaller caller, lags.resumed found retreats ?_ ?_ ?_
                (by intros; contradiction) (by intros; contradiction)⟩
              · rintro _ ⟨⟩
                exact fits_readActive retreats.coherent
              · have alikeDuring : AlikeDuring tasks client (some (.readActive caller)) s' t' :=
                  during alike (by rintro _ _ ⟨⟩; rfl)
                dsimp only
                unfold freeCaller
                split
                · exact alikeDuring
                · refine alikeDuring.freeAhead (fun _ _ => id) fun other => ?_
                  rw [Finmap.lookup_erase_eq]
                  split
                  · rename_i isCaller
                    exact .inr ⟨rfl, fun _ _ => .inr ⟨_, rfl, isCaller.symm⟩⟩
                  · exact .inl rfl
              · simpa using withdrawn

/-- The next section of an operation in progress. -/
theorem resume (lags : Lags tasks s t) (order : Iteration) {pending : PendingSections}
    (found : tasks.lookup client = some pending) :
    ∃ t', Lags (tasks.alter client (s.resume order client pending).2)
      (s.resume order client pending).1 t' := by
  cases pending with
  | mark => exact lags.mark order found
  | readActive => exact ⟨t, lags.readActive found⟩
  | clearBusy => exact ⟨t, lags.clearBusy found⟩
  | silence call caller ended callees =>
      cases callees with
      | nil => exact ⟨t, lags.silenced found⟩
      | cons => exact ⟨t, lags.silence found⟩
  | release => exact ⟨t, lags.release found⟩
  | dropJoined => exact ⟨_, lags.dropJoined order found⟩
  | endCall => exact ⟨_, lags.endCall order found⟩

/-! ### First sections -/

/-- The first section of an operation is through. -/
theorem begun {after : Option PendingSections} {s' t' : CallManager}
    (idle : client ∉ tasks.keys) (coherent : Coherent t')
    (fits : ∀ other pending, tasks.lookup other = some pending → pending.Fits t' other)
    (fitsAfter : ∀ left, after = some left → left.Fits t' client)
    (alike : AlikeDuring tasks client after s' t') : Lags (tasks.alter client after) s' t' := by
  have none : tasks.lookup client = none := Finmap.lookup_eq_none.mpr (by rwa [Finmap.mem_keys] at idle)
  refine settle coherent fits fitsAfter alike ?_ ?_ ?_ <;> simp [none]

/-- A client withdraws in the index first. -/
theorem withdraw (lags : Lags tasks s t) (idle : client ∉ tasks.keys) (call : CallId)
    (kind : MarkKind) (endsCall : Bool) :
    Lags (tasks.alter client (some (.mark call kind endsCall)))
      (s.removeClientIncomingCall call client) t := by
  refine begun idle lags.coherent lags.fits (by rintro _ ⟨⟩; trivial) ?_
  refine (lags.alike.withdraw call client).relabel (fun other callee => ?_) (fun _ _ => .inl)
    (fun _ _ => .inl)
  simp only [During, Withdrawing, Option.some.injEq, exists_eq_left', PendingSections.withdraws,
    decide_eq_true_iff]
  exact or_congr_right ⟨fun both => ⟨both.2.symm, both.1.symm⟩, fun both => ⟨both.2.symm, both.1.symm⟩⟩

/-- Operations of one section that take clients and targets away. -/
theorem once {s' t' : CallManager} (lags : Lags tasks s t) (idle : client ∉ tasks.keys)
    (retreats : Retreats t t')
    (alike : Alike (Withdrawing tasks) (Silencing tasks) (Stale tasks) s' t') :
    Lags (tasks.alter client none) s' t' :=
  begun idle retreats.coherent
    (fun other pending found => (lags.fits other pending found).retreat lags.coherent retreats)
    (by intros; contradiction) (during alike (by intros; contradiction))

/-- A client that drops a target that does not ring drops a participant next. -/
theorem dropLater (lags : Lags tasks s t) (idle : client ∉ tasks.keys) (call : CallId)
    (target : CallTarget) (reason : CallDropReason) :
    Lags (tasks.alter client (some (.dropJoined call target reason))) s t := by
  refine begun idle lags.coherent lags.fits ?_ (during lags.alike ?_)
  · rintro _ ⟨⟩
    trivial
  · rintro _ _ ⟨⟩
    rfl

/-- A client cancels a ringing target: the clients it rings are silenced one by one, and the
caller is freed, by the sections that follow. -/
theorem cancel (lags : Lags tasks s t) (idle : client ∉ tasks.keys) (order : Iteration)
    {call : CallId} {target : CallTarget} (reason : CallDropReason)
    {entry : RingingCallEntry} {ringing : RingingTargetEntry}
    (found : s.ringingCalls.lookup call = some entry)
    (present : entry.targets.lookup target = some ringing)
    (inviter : ringing.source.clientId = client) :
    Lags (tasks.alter client (some (.silence call entry.callerId
        (entry.targets.erase target).isEmpty (order.clients.list ringing.notifiedClients))))
      (s.withoutTarget call entry target)
      (((t.withoutTarget call entry target).silenceAll call
        (order.clients.list ringing.notifiedClients)).releaseCaller call entry.callerId
          (entry.targets.erase target).isEmpty) := by
  have found' : t.ringingCalls.lookup call = some entry := by
    rw [← lags.alike.ringingCalls, found]
  have follows : Follows ⟨.dropTarget call client target reason, order, 0⟩ none t
      (t.dropTarget order call client target reason).1 :=
    dropTarget_follows lags.coherent rfl none
  have retreats := follows.retreats lags.coherent (by rintro _ _ _ _ _ ⟨⟩) (by rintro _ _ ⟨⟩)
  rw [dropTarget_cancelled order reason found' present inviter] at retreats
  have isCaller : entry.callerId = client :=
    ((lags.coherent.wellFormed call).sourceIsCaller entry found' target ringing present).symm.trans
      inviter
  refine begun idle retreats.coherent
    (fun other pending isPending => (lags.fits other pending isPending).retreat lags.coherent
      retreats) ?_ ?_
  · rintro _ ⟨⟩
    refine ⟨fun callee member => ?_, fun ended => ⟨isCaller, ?_⟩⟩
    · simp [releaseCaller, silenceAll, rungAs_foldl_removeIncoming, member]
    · rintro ⟨after, isRinging, _⟩
      simp [CallManager.call, releaseCaller, silenceAll, withoutTarget, ended] at isRinging
  · have alike : Alike (Withdrawing tasks) (Silencing tasks) (Stale tasks)
        (s.withoutTarget call entry target) (t.withoutTarget call entry target) := by
      unfold withoutTarget
      rw [lags.alike.ringingCalls]
      exact lags.alike.setRinging _
    have alikeDuring : AlikeDuring tasks client (some (.silence call entry.callerId
        (entry.targets.erase target).isEmpty (order.clients.list ringing.notifiedClients)))
        (s.withoutTarget call entry target) (t.withoutTarget call entry target) :=
      during alike (by rintro _ _ ⟨⟩; rfl)
    refine (alikeDuring.silenceAhead call (fun _ _ => id) ?_).freeAhead (fun _ _ => id) ?_
    · intro callee member
      exact .inr ⟨_, rfl, by simpa [PendingSections.silences] using member⟩
    · intro other
      split
      · rename_i ended
        rw [lookup_releaseBusy]
        split
        · rename_i released
          refine .inr ⟨rfl, fun marked isMarked => .inr ⟨_, rfl, ended.1, released.1.symm, ?_⟩⟩
          exact Option.some.inj (released.2.symm.trans isMarked)
        · exact .inl rfl
      · exact .inl rfl

/-- A caller invites outside the windows of the operations in progress. -/
theorem attempt (lags : Lags tasks s t) (idle : client ∉ tasks.keys) (order : Iteration)
    {call : CallId} {source : CallSource} {target : CallTarget} {notified : Finset ClientId}
    (fromCaller : source.clientId = client ∧ client ∉ notified)
    (notCleared : ∀ other pending, tasks.lookup other = some pending →
      pending.clears client = false)
    (inCall : ∀ other pending, tasks.lookup other = some pending → pending.reads client = true →
      s.inSomeActiveCall client = true)
    (notSilenced : ∀ other pending, tasks.lookup other = some pending → ∀ callee ∈ notified,
      pending.silences call callee = false)
    (staying : ∀ callee ∈ notified, ¬ Withdrawing tasks call callee)
    (valid : s.validateCallAttempt call client target notified = .ok ()) :
    Lags (tasks.alter client none)
      (s.attemptCall order call client source target notified).1
      (t.attemptCall order call client source target notified).1 := by
  have none : tasks.lookup client = none :=
    Finmap.lookup_eq_none.mpr (by rwa [Finmap.mem_keys] at idle)
  have marked : s.clientActiveCalls.lookup client = t.clientActiveCalls.lookup client := by
    rcases lags.alike.busy client with same | ⟨free, other, _, worker, pending, found, excuses⟩
    · exact same
    · exfalso
      have fits := lags.fits worker pending found
      cases pending with
      | readActive caller =>
          subst excuses
          have active := inCall worker _ found (by simp [PendingSections.reads])
          rw [lags.inSomeActiveCall_eq] at active
          obtain ⟨engaging, entry, isActive, involved⟩ := (Finmap.anyValue_iff _ _).mp active
          refine (busy_eq_none_iff lags.coherent caller).mp free engaging
            (.inr ⟨entry, isActive, ?_⟩)
          simpa [ActiveCallEntry.involves] using involved
      | clearBusy caller =>
          subst excuses
          simpa [PendingSections.clears] using notCleared worker _ found
      | silence callId caller ended callees =>
          obtain ⟨isEnded, rfl, rfl⟩ := excuses
          obtain ⟨rfl, _⟩ := fits.2 isEnded
          rw [none] at found
          cases found
      | release callId caller =>
          obtain ⟨rfl, rfl⟩ := excuses
          obtain ⟨rfl, _⟩ := fits
          rw [none] at found
          cases found
      | mark | dropJoined | endCall => exact excuses
  have valid' : t.validateCallAttempt call client target notified = .ok () := by
    rw [← valid]
    unfold validateCallAttempt
    rw [marked, lags.alike.ringingCalls, lags.alike.activeCalls]
  have follows : Follows ⟨.attemptCall call client source target notified, order, 0⟩ Option.none t
      (t.attemptCall order call client source target notified).1 := by
    refine attemptCall_follows lags.coherent rfl ?_ Option.none
    exact fromCaller
  refine begun idle (follows.coherent lags.coherent) (fun other pending found => ?_)
    (by intros; contradiction)
    (during (lags.alike.attempt order source target marked staying) (by intros; contradiction))
  refine (lags.fits other pending found).invite lags.coherent order fromCaller valid' ?_
    (notCleared other pending found) ?_ (notSilenced other pending found)
  · rintro rfl
    rw [none] at found
    cases found
  · intro reads
    rw [← lags.inSomeActiveCall_eq]
    exact inCall other pending found reads

/-- A client that is marked as busy in neither manager accepts, outside the windows of the
operations in progress. -/
theorem accept (lags : Lags tasks s t) (idle : client ∉ tasks.keys) (order : Iteration)
    (call : CallId) (free : client ∉ s.clientActiveCalls.keys)
    (notCleared : (∃ target, (s.call call).Rings target client) → ∀ other pending,
      tasks.lookup other = some pending → pending.clears client = false) :
    Lags (tasks.alter client none) (s.acceptCall order call client).1
      (t.acceptCall order call client).1 := by
  have none : tasks.lookup client = none :=
    Finmap.lookup_eq_none.mpr (by rwa [Finmap.mem_keys] at idle)
  have free' : client ∉ t.clientActiveCalls.keys := by
    have absent : s.clientActiveCalls.lookup client = Option.none :=
      Finmap.lookup_eq_none.mpr (by rwa [Finmap.mem_keys] at free)
    rw [Finmap.mem_keys, ← Finmap.lookup_eq_none]
    rcases lags.alike.busy client with same | ⟨freed, _⟩
    · exact same.symm.trans absent
    · exact freed
  have follows : Follows ⟨.acceptCall call client, order, 0⟩ Option.none t
      (t.acceptCall order call client).1 := acceptCall_follows lags.coherent rfl Option.none
  have coherent' := follows.coherent lags.coherent
  refine begun idle coherent' (fun other pending found => ?_) (by intros; contradiction)
    (during (lags.alike.accept order call free free') (by intros; contradiction))
  have fits := lags.fits other pending found
  rcases acceptCall_answered lags.coherent order call client with
    same | ⟨rung, ⟨caller, target, answered⟩, others⟩
  · rwa [same]
  · refine fits.answer lags.coherent coherent' answered ?_ others ?_ ?_
    · intro otherTarget callee rings
      rcases follows.calls call with unchanged | step
      · rwa [unchanged] at rings
      · exact step.rings_before (by rintro _ _ _ _ ⟨⟩) rings
    · rintro rfl
      rw [none] at found
      cases found
    · refine notCleared ?_ other pending found
      rwa [lags.alike.call_eq]

end Lags

/-! ## Windows -/

namespace Interleaved

/-- The client is notified for some target of a ringing call. -/
def rings (state : Interleaved) (callId : CallId) (clientId : ClientId) : Bool :=
  (state.calls.ringingCalls.lookup callId).any fun ringingCall =>
    ringingCall.targets.anyValue fun ringing => ringing.hasNotifiedClient clientId

/-- The section does not fall into a window that another operation leaves open: the caller of an
invitation that goes through is not about to be marked as free, and none of the notified clients
is about to be marked or silenced in the call; a client that answers is not about to be marked
as free. -/
def Undisturbed (state : Interleaved) : SectionMove → Prop
  | .begin request =>
      match request.op with
      | .attemptCall callId callerId _ target notifiedClients =>
          state.calls.validateCallAttempt callId callerId target notifiedClients = .ok () →
            state.tasks.anyValue (·.clears callerId) = false ∧
            (state.tasks.anyValue (·.reads callerId) = true →
              state.calls.inSomeActiveCall callerId = true) ∧
            ∀ callee ∈ notifiedClients,
              (state.tasks.lookup callee).any (·.withdraws callId) = false ∧
                state.tasks.anyValue (·.silences callId callee) = false
      | .acceptCall callId clientId =>
          clientId ∉ state.calls.clientActiveCalls.keys → state.rings callId clientId = true →
            state.tasks.anyValue (·.clears clientId) = false
      | _ => True
  | .resume .. => True

/-- The manager lags behind some coherent one. -/
def Tracked (state : Interleaved) : Prop := ∃ t, Lags state.tasks state.calls t

theorem rings_iff (state : Interleaved) (callId : CallId) (clientId : ClientId) :
    state.rings callId clientId = true ↔
      ∃ target, (state.calls.call callId).Rings target clientId := by
  simp only [rings, Option.any_eq_true, Finmap.anyValue_iff, RingingTargetEntry.hasNotifiedClient,
    decide_eq_true_iff]
  constructor
  · rintro ⟨entry, found, target, ringing, present, notified⟩
    exact ⟨target, entry, found, ringing, present, notified⟩
  · rintro ⟨target, entry, found, ringing, present, notified⟩
    exact ⟨entry, found, target, ringing, present, notified⟩

/-- No operation in progress has a property. -/
theorem not_of_anyValue {tasks : HashMap ClientId PendingSections} {test : PendingSections → Bool}
    (nobody : tasks.anyValue test = false) {client : ClientId} {pending : PendingSections}
    (found : tasks.lookup client = some pending) : test pending = false := by
  rw [← Bool.not_eq_true] at nobody ⊢
  exact fun holds => nobody ((Finmap.anyValue_iff _ _).mpr ⟨client, pending, found, holds⟩)

theorem begin_tracked {state : Interleaved} (tracked : state.Tracked) {request : Request}
    (fromCaller : request.op.FromCaller) (idle : request.op.actor ∉ state.tasks.keys)
    (undisturbed : state.Undisturbed (.begin request))
    {result : CallManager × Option PendingSections}
    (begins : state.calls.begin request = some result) :
    Tracked ⟨result.1, state.tasks.alter request.op.actor result.2⟩ := by
  obtain ⟨t, lags⟩ := tracked
  unfold CallManager.begin at begins
  unfold Undisturbed at undisturbed
  cases isOp : request.op with
  | attemptCall callId callerId source target notifiedClients =>
      simp only [isOp] at begins undisturbed fromCaller idle
      cases begins
      cases valid : state.calls.validateCallAttempt callId callerId target notifiedClients with
      | error reason =>
          refine ⟨t, lags.once idle (.refl lags.coherent) ?_⟩
          simp only [attemptCall, valid]
          exact lags.alike
      | ok =>
          obtain ⟨notCleared, inCall, callees⟩ := undisturbed valid
          refine ⟨_, lags.attempt idle request.order fromCaller
            (fun other pending found => not_of_anyValue notCleared found) ?_ ?_ ?_ valid⟩
          · intro other pending found reads
            exact inCall ((Finmap.anyValue_iff _ _).mpr ⟨other, pending, found, reads⟩)
          · intro other pending found callee member
            exact not_of_anyValue (callees callee member).2 found
          · rintro callee member ⟨_, pending, found, rfl, withdraws⟩
            have staying := (callees _ member).1
            rw [found, Option.any_some, withdraws] at staying
            cases staying
  | rejectCall callId clientId =>
      simp only [isOp] at begins idle
      cases begins
      exact ⟨t, lags.withdraw idle callId .rejected false⟩
  | failRingingRecipient callId clientId =>
      simp only [isOp] at begins idle
      cases begins
      exact ⟨t, lags.withdraw idle callId .errored false⟩
  | callError callId clientId =>
      simp only [isOp] at begins idle
      cases begins
      exact ⟨t, lags.withdraw idle callId .errored true⟩
  | acceptCall callId clientId =>
      simp only [isOp] at begins undisturbed idle
      cases begins
      by_cases busy : clientId ∈ state.calls.clientActiveCalls.keys
      · refine ⟨t, lags.once idle (.refl lags.coherent) ?_⟩
        simp only [acceptCall, busy, if_true]
        exact lags.alike
      · refine ⟨_, lags.accept idle request.order callId busy fun rung other pending found => ?_⟩
        exact not_of_anyValue (undisturbed busy ((rings_iff _ _ _).mpr rung)) found
  | dropTarget callId clientId target reason =>
      simp only [isOp] at begins idle
      rcases dropTarget_cases request.order state.calls callId clientId target reason with
        ⟨notRinging, _⟩ | ⟨notPermitted, _⟩ | ⟨ringingCall, ringing, found, present, inviter, cancelled⟩
      · simp only [notRinging, Option.some.injEq] at begins
        subst begins
        exact ⟨t, lags.dropLater idle callId target reason⟩
      · simp only [notPermitted, Option.some.injEq] at begins
        subst begins
        exact ⟨t, lags.once idle (.refl lags.coherent) lags.alike⟩
      · simp only [cancelled, Option.some.injEq] at begins
        subst begins
        exact ⟨_, lags.cancel idle request.order reason found present inviter⟩
  | endCall callId clientId =>
      simp only [isOp] at begins idle
      cases begins
      have follows : Follows ⟨.endCall callId clientId, request.order, 0⟩ none t
          (t.endCall request.order callId clientId).1 :=
        endCall_follows lags.coherent (.inl rfl) none
      exact ⟨_, lags.once idle
        (follows.retreats lags.coherent (by rintro _ _ _ _ _ ⟨⟩) (by rintro _ _ ⟨⟩))
        (lags.alike.endCall request.order callId clientId)⟩
  | reportLinkFailure => simp [isOp] at begins
  | cleanupClientCalls => simp [isOp] at begins

/-- A section outside the windows of the operations in progress keeps the manager tracked. -/
theorem step_tracked {state next : Interleaved} {move : SectionMove} (tracked : state.Tracked)
    (undisturbed : state.Undisturbed move) (steps : state.step move = some next) :
    next.Tracked := by
  cases move with
  | begin request =>
      simp only [step] at steps
      split at steps
      · rename_i enabled
        obtain ⟨result, begins, rfl⟩ := Option.map_eq_some_iff.mp steps
        exact begin_tracked tracked enabled.1 enabled.2 undisturbed begins
      · cases steps
  | resume clientId order =>
      obtain ⟨pending, found, rfl⟩ := Option.map_eq_some_iff.mp steps
      obtain ⟨t, lags⟩ := tracked
      exact lags.resume order found

instance (state : Interleaved) : (move : SectionMove) → Decidable (state.Undisturbed move)
  | .begin ⟨.attemptCall callId callerId _ target notifiedClients, _, _⟩ =>
      inferInstanceAs (Decidable
        (state.calls.validateCallAttempt callId callerId target notifiedClients = .ok () →
          state.tasks.anyValue (·.clears callerId) = false ∧
          (state.tasks.anyValue (·.reads callerId) = true →
            state.calls.inSomeActiveCall callerId = true) ∧
          ∀ callee ∈ notifiedClients,
            (state.tasks.lookup callee).any (·.withdraws callId) = false ∧
              state.tasks.anyValue (·.silences callId callee) = false))
  | .begin ⟨.acceptCall callId clientId, _, _⟩ =>
      inferInstanceAs (Decidable (clientId ∉ state.calls.clientActiveCalls.keys →
        state.rings callId clientId = true → state.tasks.anyValue (·.clears clientId) = false))
  | .begin ⟨.rejectCall .., _, _⟩ | .begin ⟨.failRingingRecipient .., _, _⟩
  | .begin ⟨.callError .., _, _⟩ | .begin ⟨.dropTarget .., _, _⟩ | .begin ⟨.endCall .., _, _⟩
  | .begin ⟨.reportLinkFailure .., _, _⟩ | .begin ⟨.cleanupClientCalls .., _, _⟩
  | .resume .. => isTrue trivial

end Interleaved

/-! ## Runs -/

/-- What the two indexes of the call manager say about its tables. -/
structure IndexesMatch (s : CallManager) : Prop where
  /-- A client is busy with the call it is the ringing caller or a participant of. -/
  busy : ∀ client call, s.clientActiveCalls.lookup client = some call ↔
    s.Caller call client ∨ s.Participant call client
  /-- A client is listed with the targets it is notified for. -/
  incoming : ∀ client call target,
    (∃ calls, s.clientIncomingCalls.lookup client = some calls ∧
      calls.lookup call = some target) ↔ s.Notified call target client

theorem Lags.indexesMatch {s t : CallManager} (lags : Lags ∅ s t) : IndexesMatch s := by
  have nobody : ∀ property, ¬ Doing ∅ property := by
    rintro property ⟨client, pending, found, _⟩
    simp at found
  have indexed := lags.coherent.indexed
  constructor
  · intro client call
    have marked : s.clientActiveCalls.lookup client = t.clientActiveCalls.lookup client :=
      (lags.alike.busy client).resolve_right fun ⟨_, _, _, stale⟩ => nobody _ stale
    rw [marked, indexed.busy client call, ← lags.alike.call_eq]
    exact Iff.rfl
  · intro client call target
    have rung : rungAs s.clientIncomingCalls client call =
        rungAs t.clientIncomingCalls client call :=
      (lags.alike.incoming client call).resolve_right fun pending =>
        pending.elim (nobody _) (nobody _)
    have listed := indexed.incoming client call target
    rw [← rung, ← lags.alike.call_eq] at listed
    simp only [not_false_eq_true, and_true] at listed
    rw [notified_iff, ← listed, rungAs, Option.bind_eq_some_iff]

/-- Operations whose sections stay out of each other's windows leave the indexes describing the
tables once all of them have completed. -/
theorem run_indexesMatch (maxConfSize : ℕ) (moves : List SectionMove) (final : Interleaved)
    (runs : GuardedRuns.runMoves Interleaved.step (.start maxConfSize) moves = some final)
    (undisturbed : GuardedRuns.Guarded Interleaved.step Interleaved.Undisturbed
      (.start maxConfSize) moves)
    (completed : final.tasks = ∅) : IndexesMatch final.calls := by
  have start : (Interleaved.start maxConfSize).Tracked := by
    refine ⟨CallManager.new maxConfSize, coherent_new maxConfSize, ?_, ?_⟩
    · intro client pending found
      simp [Interleaved.start] at found
    · exact ⟨rfl, rfl, (coherent_new maxConfSize).indexed.populated, fun _ _ => .inl rfl,
        fun _ _ ⟨_, _, found, _⟩ => by simp [Interleaved.start] at found, fun _ => .inl rfl⟩
  obtain ⟨t, lags⟩ : final.Tracked :=
    undisturbed.preserves (fun _ _ _ => Interleaved.step_tracked) runs start
  rw [completed] at lags
  exact lags.indexesMatch

/-- What a client does in the runs below. -/
def beginAt (op : Operation) : SectionMove :=
  .begin { op := op, order := .increasing, now := 0 }

def inviteAt (caller callee : ClientId) : SectionMove :=
  beginAt (.attemptCall ⟨1⟩ caller { clientId := caller } (.client callee) {callee})

/-- A caller rings two clients. One of them rejects while the caller cancels the other, and the
caller invites again. -/
def rejectWhileCancelling : List SectionMove :=
  let caller : ClientId := ⟨"LOWW"⟩
  [inviteAt caller ⟨"LOVV"⟩, inviteAt caller ⟨"LOWI"⟩,
    beginAt (.rejectCall ⟨1⟩ ⟨"LOVV"⟩),
    beginAt (.dropTarget ⟨1⟩ caller (.client ⟨"LOWI"⟩) .requested),
    .resume ⟨"LOVV"⟩ .increasing, .resume caller .increasing, .resume ⟨"LOVV"⟩ .increasing,
    .resume caller .increasing, .resume ⟨"LOVV"⟩ .increasing,
    inviteAt caller ⟨"LOWI"⟩, beginAt (.acceptCall ⟨1⟩ ⟨"LOWI"⟩)]

theorem rejectWhileCancelling_indexesMatch :
    ∃ final, GuardedRuns.runMoves Interleaved.step (.start 5) rejectWhileCancelling = some final ∧
      IndexesMatch final.calls := by
  have completes : (GuardedRuns.runMoves Interleaved.step (.start 5) rejectWhileCancelling).any
      (fun final => decide (final.tasks = ∅)) = true := by
    decide +kernel
  obtain ⟨final, runs, completed⟩ := (Option.any_eq_true _ _).mp completes
  exact ⟨final, runs, run_indexesMatch 5 rejectWhileCancelling final runs (by decide +kernel)
    (of_decide_eq_true completed)⟩

/-- A caller invites one client, which rejects. While the rejection is about to clear the
caller's busy marker, the caller invites another client on the same call. -/
def lateClear : List SectionMove :=
  let caller : ClientId := ⟨"LOWW"⟩
  [inviteAt caller ⟨"LOVV"⟩, beginAt (.rejectCall ⟨1⟩ ⟨"LOVV"⟩),
    .resume ⟨"LOVV"⟩ .increasing, .resume ⟨"LOVV"⟩ .increasing, inviteAt caller ⟨"LOWI"⟩,
    .resume ⟨"LOVV"⟩ .increasing]

/-- All operations have completed, and the caller of the ringing call is not busy. -/
theorem lateClear_callerNotBusy :
    ∃ final, GuardedRuns.runMoves Interleaved.step (.start 5) lateClear = some final ∧
      final.tasks = ∅ ∧ ¬ IndexesMatch final.calls := by
  have state : (GuardedRuns.runMoves Interleaved.step (.start 5) lateClear).any (fun final =>
      decide (final.tasks = ∅ ∧ final.calls.clientActiveCalls.lookup ⟨"LOWW"⟩ = none ∧
        (final.calls.ringingCalls.lookup ⟨1⟩).any fun entry => entry.callerId == ⟨"LOWW"⟩)) =
      true := by
    decide +kernel
  obtain ⟨final, runs, holds⟩ := (Option.any_eq_true _ _).mp state
  obtain ⟨completed, free, rings⟩ := of_decide_eq_true holds
  obtain ⟨entry, found, isCaller⟩ := (Option.any_eq_true _ _).mp rings
  refine ⟨final, runs, completed, fun agrees => ?_⟩
  have marked := (agrees.busy ⟨"LOWW"⟩ ⟨1⟩).mpr (.inl ⟨entry, found, by simpa using isCaller⟩)
  rw [free] at marked
  cases marked

end Vacs
