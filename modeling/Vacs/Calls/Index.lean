import Vacs.Calls.CallSteps

/-!
# The indexes of the call manager

The two indexes agree with the tables when a client's incoming calls are exactly
the calls it rings for, with their targets, and a client is busy exactly with
the call it opened or joined (`Indexed`). A disconnecting client loses all its
incoming calls before the ringing entries are updated, so the relation is stated
up to a set of clients that are already silent (`IndexedBut`).

The operations maintain the indexes with loops that add or remove one client at
a time. The lemmas here read those loops pointwise, and `IndexedBut.move` and
`IndexedBut.shrink` say what an operation on one call has to establish.
-/

set_option autoImplicit false

namespace Vacs

open CallManager

/-- The target a client rings for in a call, according to the index. -/
def rungAs (incoming : HashMap ClientId (HashMap CallId CallTarget)) (client : ClientId)
    (call : CallId) : Option CallTarget :=
  (incoming.lookup client).bind fun calls => calls.lookup call

/-- No client is listed without a call it rings for. -/
def Populated (incoming : HashMap ClientId (HashMap CallId CallTarget)) : Prop :=
  ∀ client calls, incoming.lookup client = some calls → calls.isEmpty = false

/-! ## Loops over the indexes -/

theorem rungAs_removeIncoming (call : CallId)
    (incoming : HashMap ClientId (HashMap CallId CallTarget)) (removed client : ClientId)
    (other : CallId) :
    rungAs (removeIncoming call incoming removed) client other =
      if client = removed ∧ other = call then none else rungAs incoming client other := by
  unfold removeIncoming rungAs
  cases listed : incoming.lookup removed with
  | none =>
      by_cases same : client = removed
      · subst same
        simp [listed]
      · simp [same]
  | some calls =>
      by_cases same : client = removed
      · subst same
        by_cases emptied : (calls.erase call).isEmpty = true
        · have absent := (Finmap.isEmpty_iff _).mp emptied other
          rw [Finmap.lookup_erase_eq] at absent
          simp only [emptied, if_true, Finmap.lookup_erase, Option.bind_none, true_and, listed,
            Option.bind_some]
          split
          · rfl
          · rename_i different
            rw [if_neg different] at absent
            exact absent.symm
        · simp [emptied, Finmap.lookup_erase_eq, listed]
      · by_cases emptied : (calls.erase call).isEmpty = true <;>
          simp [emptied, same]

theorem populated_removeIncoming (call : CallId)
    {incoming : HashMap ClientId (HashMap CallId CallTarget)} (populated : Populated incoming)
    (removed : ClientId) : Populated (removeIncoming call incoming removed) := by
  intro client calls listed
  unfold removeIncoming at listed
  cases was : incoming.lookup removed with
  | none =>
      rw [was] at listed
      exact populated client calls listed
  | some earlier =>
      simp only [was] at listed
      split at listed
      · rw [Finmap.lookup_erase_eq] at listed
        split at listed
        · cases listed
        · exact populated client calls listed
      · rename_i remaining
        rw [Finmap.lookup_insert_eq] at listed
        split at listed
        · cases listed
          simpa using remaining
        · exact populated client calls listed

/-- Removing a call a client does not ring for changes nothing. -/
theorem removeIncoming_of_silent {call : CallId}
    {incoming : HashMap ClientId (HashMap CallId CallTarget)} (populated : Populated incoming)
    {client : ClientId} (silent : rungAs incoming client call = none) :
    removeIncoming call incoming client = incoming := by
  unfold removeIncoming
  cases listed : incoming.lookup client with
  | none => rfl
  | some calls =>
      have absent : calls.lookup call = none := by
        simpa [rungAs, listed] using silent
      have same : calls.erase call = calls := by
        refine Finmap.ext_lookup fun other => ?_
        rw [Finmap.lookup_erase_eq]
        split
        · rename_i isCall
          rw [isCall, absent]
        · rfl
      simp only [same, populated client calls listed, Bool.false_eq_true, if_false]
      refine Finmap.ext_lookup fun other => ?_
      rw [Finmap.lookup_insert_eq]
      split
      · rename_i isClient
        rw [isClient, listed]
      · rfl

theorem rungAs_foldl_removeIncoming (call : CallId) (removed : List ClientId)
    (incoming : HashMap ClientId (HashMap CallId CallTarget)) (client : ClientId)
    (other : CallId) :
    rungAs (removed.foldl (removeIncoming call) incoming) client other =
      if client ∈ removed ∧ other = call then none else rungAs incoming client other := by
  induction removed generalizing incoming with
  | nil => simp
  | cons head tail ih =>
      rw [List.foldl_cons, ih, rungAs_removeIncoming]
      simp only [List.mem_cons]
      grind

theorem populated_foldl_removeIncoming {call : CallId} (removed : List ClientId)
    {incoming : HashMap ClientId (HashMap CallId CallTarget)} (populated : Populated incoming) :
    Populated (removed.foldl (removeIncoming call) incoming) :=
  List.foldlRecOn removed _ populated fun _ listed client _ =>
    populated_removeIncoming _ listed client

theorem rungAs_insertIncoming (call : CallId) (target : CallTarget)
    (incoming : HashMap ClientId (HashMap CallId CallTarget)) (added client : ClientId)
    (other : CallId) :
    rungAs (insertIncoming call target incoming added) client other =
      if client = added ∧ other = call then some target else rungAs incoming client other := by
  unfold insertIncoming rungAs
  rw [Finmap.lookup_insert_eq]
  by_cases same : client = added
  · subst same
    cases incoming.lookup client <;> simp [Finmap.lookup_insert_eq]
  · simp [same]

theorem populated_insertIncoming {call : CallId} {target : CallTarget}
    {incoming : HashMap ClientId (HashMap CallId CallTarget)} (populated : Populated incoming)
    (added : ClientId) : Populated (insertIncoming call target incoming added) := by
  intro client calls listed
  unfold insertIncoming at listed
  rw [Finmap.lookup_insert_eq] at listed
  split at listed
  · cases listed
    exact (Finmap.isEmpty_eq_false_iff _).mpr ⟨call, target, Finmap.lookup_insert _⟩
  · exact populated client calls listed

theorem rungAs_foldl_insertIncoming (call : CallId) (target : CallTarget) (added : List ClientId)
    (incoming : HashMap ClientId (HashMap CallId CallTarget)) (client : ClientId)
    (other : CallId) :
    rungAs (added.foldl (insertIncoming call target) incoming) client other =
      if client ∈ added ∧ other = call then some target else rungAs incoming client other := by
  induction added generalizing incoming with
  | nil => simp
  | cons head tail ih =>
      rw [List.foldl_cons, ih, rungAs_insertIncoming]
      simp only [List.mem_cons]
      grind

theorem populated_foldl_insertIncoming {call : CallId} {target : CallTarget}
    (added : List ClientId) {incoming : HashMap ClientId (HashMap CallId CallTarget)}
    (populated : Populated incoming) :
    Populated (added.foldl (insertIncoming call target) incoming) :=
  List.foldlRecOn added _ populated fun _ listed client _ =>
    populated_insertIncoming listed client

theorem lookup_releaseBusy (call : CallId) (busy : HashMap ClientId CallId)
    (freed client : ClientId) :
    (releaseBusy call busy freed).lookup client =
      if client = freed ∧ busy.lookup client = some call then none else busy.lookup client := by
  unfold releaseBusy
  by_cases pointsHere : busy.lookup freed = some call
  · simp only [pointsHere, Option.any_some, beq_self_eq_true, if_true, Finmap.lookup_erase_eq]
    grind
  · have keeps : (busy.lookup freed).any (· == call) = false := by
      cases marked : busy.lookup freed with
      | none => rfl
      | some other => simpa [marked] using pointsHere
    simp only [keeps, Bool.false_eq_true, if_false]
    grind

theorem lookup_foldl_releaseBusy (call : CallId) (freed : List ClientId)
    (busy : HashMap ClientId CallId) (client : ClientId) :
    (freed.foldl (releaseBusy call) busy).lookup client =
      if client ∈ freed ∧ busy.lookup client = some call then none else busy.lookup client := by
  induction freed generalizing busy with
  | nil => simp
  | cons head tail ih =>
      rw [List.foldl_cons, ih, lookup_releaseBusy]
      simp only [List.mem_cons]
      grind

@[simp] theorem freeCaller_ringingCalls (s : CallManager) (caller : ClientId) :
    (s.freeCaller caller).ringingCalls = s.ringingCalls := by
  unfold CallManager.freeCaller
  split <;> rfl

@[simp] theorem freeCaller_activeCalls (s : CallManager) (caller : ClientId) :
    (s.freeCaller caller).activeCalls = s.activeCalls := by
  unfold CallManager.freeCaller
  split <;> rfl

@[simp] theorem freeCaller_clientIncomingCalls (s : CallManager) (caller : ClientId) :
    (s.freeCaller caller).clientIncomingCalls = s.clientIncomingCalls := by
  unfold CallManager.freeCaller
  split <;> rfl

/-- Freeing a caller looks only at the active calls and the busy markers. -/
theorem freeCaller_clientActiveCalls_congr {s s' : CallManager}
    (activeCalls : s'.activeCalls = s.activeCalls)
    (clientActiveCalls : s'.clientActiveCalls = s.clientActiveCalls) (caller : ClientId) :
    (s'.freeCaller caller).clientActiveCalls = (s.freeCaller caller).clientActiveCalls := by
  have same : s'.inSomeActiveCall caller = s.inSomeActiveCall caller := by
    simp [CallManager.inSomeActiveCall, activeCalls]
  unfold CallManager.freeCaller
  rw [same]
  split
  · exact clientActiveCalls
  · simp [clientActiveCalls]

/-! ## Agreement of the indexes with the tables -/

/-- The indexes describe the tables, except that silent clients are not listed
as ringing. -/
structure IndexedBut (silent : ClientId → Prop) (s : CallManager) : Prop where
  incoming : ∀ client call target, rungAs s.clientIncomingCalls client call = some target ↔
    (s.call call).Rings target client ∧ ¬ silent client
  populated : Populated s.clientIncomingCalls
  busy : ∀ client call, s.clientActiveCalls.lookup client = some call ↔
    (s.call call).Engages client

/-- The indexes describe the tables. -/
abbrev Indexed (s : CallManager) : Prop := IndexedBut (fun _ => False) s

/-- The indexes describe the tables, and every call is well formed. -/
structure Coherent (s : CallManager) : Prop where
  wellFormed : ∀ call, (s.call call).WellFormed call
  indexed : Indexed s

theorem coherent_new (maxConfSize : ℕ) : Coherent (CallManager.new maxConfSize) where
  wellFormed call := by
    have empty : (CallManager.new maxConfSize).call call = ⟨none, none⟩ := by
      simp [CallManager.call, CallManager.new]
    rw [empty]
    exact CallState.wellFormed_none call
  indexed := by
    refine ⟨?_, ?_, ?_⟩
    · intro client call target
      simp [CallManager.new, rungAs, CallManager.call]
    · intro client calls listed
      simp [CallManager.new] at listed
    · intro client call
      simp [CallManager.new, CallManager.call, CallState.Engages]

namespace IndexedBut

variable {silent : ClientId → Prop} {s s' : CallManager} {call : CallId}

/-- An operation on one call keeps the indexes when it keeps them for that call
and does not touch what they say about other calls. -/
theorem move (indexed : IndexedBut silent s)
    (others : ∀ other, other ≠ call → s'.call other = s.call other)
    (incoming : ∀ client target, rungAs s'.clientIncomingCalls client call = some target ↔
      (s'.call call).Rings target client ∧ ¬ silent client)
    (incomingOthers : ∀ client other, other ≠ call →
      rungAs s'.clientIncomingCalls client other = rungAs s.clientIncomingCalls client other)
    (populated : Populated s'.clientIncomingCalls)
    (busy : ∀ client, s'.clientActiveCalls.lookup client = some call ↔
      (s'.call call).Engages client)
    (busyOthers : ∀ client other, other ≠ call →
      (s'.clientActiveCalls.lookup client = some other ↔
        s.clientActiveCalls.lookup client = some other)) :
    IndexedBut silent s' := by
  refine ⟨?_, populated, ?_⟩
  · intro client other target
    by_cases same : other = call
    · subst same
      exact incoming client target
    · rw [incomingOthers client other same, others other same]
      exact indexed.incoming client other target
  · intro client other
    by_cases same : other = call
    · subst same
      exact busy client
    · rw [busyOthers client other same, others other same]
      exact indexed.busy client other

/-- An operation that only removes clients from one call keeps the indexes when
it removes the same clients from them. -/
theorem shrink (indexed : IndexedBut silent s) (gone freed : ClientId → Prop)
    (others : ∀ other, other ≠ call → s'.call other = s.call other)
    (rings : ∀ target client, (s'.call call).Rings target client ↔
      (s.call call).Rings target client ∧ ¬ gone client)
    (incoming : ∀ client other target, rungAs s'.clientIncomingCalls client other = some target ↔
      rungAs s.clientIncomingCalls client other = some target ∧ ¬ (other = call ∧ gone client))
    (populated : Populated s'.clientIncomingCalls)
    (engages : ∀ client, (s'.call call).Engages client ↔
      (s.call call).Engages client ∧ ¬ freed client)
    (busy : ∀ client other, s'.clientActiveCalls.lookup client = some other ↔
      s.clientActiveCalls.lookup client = some other ∧ ¬ (other = call ∧ freed client)) :
    IndexedBut silent s' := by
  refine ⟨?_, populated, ?_⟩
  · intro client other target
    rw [incoming, indexed.incoming]
    by_cases same : other = call
    · subst same
      rw [rings]
      tauto
    · rw [others other same]
      exact ⟨fun rung => rung.1, fun rung => ⟨rung, fun both => same both.1⟩⟩
  · intro client other
    rw [busy, indexed.busy]
    by_cases same : other = call
    · subst same
      rw [engages]
      tauto
    · rw [others other same]
      exact ⟨fun engaged => engaged.1, fun engaged => ⟨engaged, fun both => same both.1⟩⟩

/-- A client is busy with at most one call. -/
theorem engages_unique (indexed : IndexedBut silent s) {client : ClientId}
    {first second : CallId} (firstEngages : (s.call first).Engages client)
    (secondEngages : (s.call second).Engages client) : first = second := by
  have one := (indexed.busy client first).mpr firstEngages
  have two := (indexed.busy client second).mpr secondEngages
  exact Option.some.inj (one.symm.trans two)

/-- A client that is busy with a call is in an active call exactly when it has
joined that call. -/
theorem inSomeActiveCall_iff (indexed : IndexedBut silent s) {client : ClientId}
    (engages : (s.call call).Engages client) :
    s.inSomeActiveCall client = true ↔ (s.call call).Joined client := by
  rw [CallManager.inSomeActiveCall, Finmap.anyValue_iff]
  constructor
  · rintro ⟨other, active, found, involved⟩
    have joined : (s.call other).Joined client :=
      ⟨active, found, by simpa [ActiveCallEntry.involves] using involved⟩
    rwa [indexed.engages_unique engages (.inr joined)]
  · rintro ⟨active, found, joined⟩
    exact ⟨call, active, found, by simpa [ActiveCallEntry.involves] using joined⟩

/-- Erasing the busy marker of a client that is busy with the call. -/
theorem lookup_erase_busy (indexed : IndexedBut silent s) {freed : ClientId}
    (engages : (s.call call).Engages freed) (client : ClientId) (other : CallId) :
    (s.clientActiveCalls.erase freed).lookup client = some other ↔
      s.clientActiveCalls.lookup client = some other ∧ ¬ (other = call ∧ client = freed) := by
  have marked := (indexed.busy freed call).mpr engages
  rw [Finmap.lookup_erase_eq]
  grind

/-- The caller of a call that stops ringing is freed unless it has joined. -/
theorem freeCaller_busy (indexed : IndexedBut silent s) {caller : ClientId}
    (engages : (s.call call).Engages caller) (client : ClientId) (other : CallId) :
    (s.freeCaller caller).clientActiveCalls.lookup client = some other ↔
      s.clientActiveCalls.lookup client = some other ∧
        ¬ (other = call ∧ client = caller ∧ ¬ (s.call call).Joined caller) := by
  unfold CallManager.freeCaller
  split
  · rename_i inCall
    have joined := (indexed.inSomeActiveCall_iff engages).mp inCall
    tauto
  · rename_i notInCall
    have notJoined : ¬ (s.call call).Joined caller :=
      fun joined => notInCall ((indexed.inSomeActiveCall_iff engages).mpr joined)
    rw [indexed.lookup_erase_busy engages]
    tauto

/-- An operation that only narrows the ringing entry of a call keeps the indexes
when it silences the clients that stop ringing, and frees the caller of a call
that neither rings nor is active for it any more. -/
theorem narrow (indexed : IndexedBut silent s) {entry : RingingCallEntry}
    {ringing : Option RingingCallEntry} (gone : ClientId → Prop)
    (found : (s.call call).ringing = some entry)
    (atCall : s'.call call = ⟨ringing, (s.call call).active⟩)
    (others : ∀ other, other ≠ call → s'.call other = s.call other)
    (callerKept : ∀ after, ringing = some after → after.callerId = entry.callerId)
    (rings : ∀ target client, CallState.Rings ⟨ringing, (s.call call).active⟩ target client ↔
      entry.Rings target client ∧ ¬ gone client)
    (incoming : ∀ client other target, rungAs s'.clientIncomingCalls client other = some target ↔
      rungAs s.clientIncomingCalls client other = some target ∧ ¬ (other = call ∧ gone client))
    (populated : Populated s'.clientIncomingCalls)
    (busy : ∀ client other, s'.clientActiveCalls.lookup client = some other ↔
      s.clientActiveCalls.lookup client = some other ∧ ¬ (other = call ∧ client = entry.callerId ∧
        ringing = none ∧ ¬ (s.call call).Joined entry.callerId)) :
    IndexedBut silent s' := by
  refine indexed.shrink gone (fun client => client = entry.callerId ∧ ringing = none ∧
    ¬ (s.call call).Joined entry.callerId) others ?_ incoming populated ?_ busy
  · intro target client
    rw [atCall, rings]
    simp [CallState.Rings, found]
  · intro client
    have joined : CallState.Joined ⟨ringing, (s.call call).active⟩ client ↔
        (s.call call).Joined client := Iff.rfl
    rw [atCall]
    simp only [CallState.Engages, joined]
    cases ringing with
    | none =>
        simp only [CallState.Calls, found, Option.some.injEq, exists_eq_left', true_and]
        grind
    | some after =>
        simp [CallState.Calls, found, callerKept after rfl]

end IndexedBut

end Vacs
