import Vacs.Clients.Convergence

/-!
# Views across a dataset reload

A reload takes positions that are gone off the online ones and only then
translates the coverage changes, asking about both ends of a handoff in the
positions that are left. A handoff from a position that is gone therefore looks as
if the position had only been staffed on VATSIM. If the station goes to a position
that is online, clients are told just the same. If it goes to a position that is
only staffed on VATSIM, they are told nothing and keep the station. This is the
only case in which a view does not converge.
-/

set_option autoImplicit false

namespace Vacs

namespace ClientManager

/-- The reload takes the station from an online position that the new network does
not have, and leaves it to a position that is only staffed on VATSIM. -/
def FallsToVatsim (s : ClientManager) (network : Network) (stationId : StationId) : Prop :=
  ∃ source target, s.onlineStations.lookup stationId = some source ∧
    source ∈ s.onlinePositions.keys ∧ (network.getPosition source).isSome = false ∧
    network.coverage s.allPositions stationId = some target ∧
    target ∈ s.vatsimOnlyPositions.keys

/-- The online positions after a reload are those that the network still has. -/
theorem mem_keys_replaceNetwork (order : ClientIteration) (s : ClientManager) (network : Network)
    (positionId : PositionId) :
    positionId ∈ (s.replaceNetwork order network).1.onlinePositions.keys ↔
      positionId ∈ s.onlinePositions.keys ∧ (network.getPosition positionId).isSome = true :=
  keys_retain_known _ _ _

theorem lookup_onlineStations_replaceNetwork (order : ClientIteration) {s : ClientManager}
    (network : Network) (stationId : StationId) :
    (s.replaceNetwork order network).1.onlineStations.lookup stationId =
      network.coverage s.allPositions stationId := by
  refine (lookup_updateOnlineStations (isDiff_computeStationDiff order _ _) (fun _ => rfl)
    stationId).trans ?_
  rw [lookup_recomputeStations]
  refine network.coverage_congr (fun positionId known => ?_) stationId
  rw [Finset.mem_union, keys_retain_known, keys_retain_known, allPositions, Finset.mem_union]
  tauto

/-- What a client makes of one station when the online positions are pruned before
the change is translated. -/
theorem pruned_translation (stationId : StationId) (before after : Option PositionId)
    {known : PositionId → Prop} {online pruned onVatsim : Finset PositionId}
    (prunes : ∀ positionId, positionId ∈ pruned ↔ positionId ∈ online ∧ known positionId)
    (disjoint : ∀ positionId, positionId ∈ online → positionId ∉ onVatsim)
    (counted : ∀ target, after = some target →
      (target ∈ online ∨ target ∈ onVatsim) ∧ known target) :
    (match (changeBetween stationId before after).bind (visibleChange pruned pruned) with
      | some told => told.target
      | none => before.filter fun positionId => decide (positionId ∈ online)) =
        (after.filter fun positionId => decide (positionId ∈ pruned)) ↔
      ¬∃ source target, before = some source ∧ source ∈ online ∧ ¬known source ∧
        after = some target ∧ target ∈ onVatsim := by
  cases before with
  | none =>
      cases after with
      | none => simp [changeBetween]
      | some target =>
          by_cases isOnline : target ∈ pruned <;>
            simp [changeBetween, visibleChange, isOnline, StationChange.target, Option.filter]
  | some source =>
      cases after with
      | none => simp [changeBetween, visibleChange, StationChange.target]
      | some target =>
          obtain ⟨counts, isKnown⟩ := counted target rfl
          by_cases same : source = target
          · subst same
            have agrees : source ∈ pruned ↔ source ∈ online := by
              rw [prunes, and_iff_left isKnown]
            simp [changeBetween, Option.filter, agrees, isKnown]
          · by_cases toVacs : target ∈ pruned
            · have notVatsim := disjoint target ((prunes target).mp toVacs).1
              by_cases fromVacs : source ∈ pruned <;>
                simp [changeBetween, visibleChange, same, toVacs, fromVacs, notVatsim,
                  StationChange.target, Option.filter]
            · -- the station goes to VATSIM, and the client is told if the source is left
              have onVatsim : target ∈ onVatsim :=
                counts.resolve_left fun isOnline => toVacs ((prunes target).mpr ⟨isOnline, isKnown⟩)
              by_cases fromVacs : source ∈ pruned
              · have isSource := (prunes source).mp fromVacs
                simp [changeBetween, visibleChange, same, toVacs, fromVacs, isSource,
                  StationChange.target, Option.filter]
              · rw [prunes, not_and] at fromVacs
                by_cases wasOnline : source ∈ online <;>
                  simp [changeBetween, visibleChange, same, toVacs, prunes, wasOnline, onVatsim,
                    Option.filter, fromVacs]

/-- After a reload a view is right about a station exactly if the station does not
fall to VATSIM. -/
theorem replaceNetwork_station (order : ClientIteration) {s : ClientManager} (network : Network)
    (indexed : ClientIndexed s) {view : HashMap StationId PositionId}
    (shows : ∀ stationId, view.lookup stationId = s.visibleCoverage.lookup stationId)
    (stationId : StationId) :
    (applyChanges view (s.replaceNetwork order network).2.2).lookup stationId =
        (s.replaceNetwork order network).1.visibleCoverage.lookup stationId ↔
      ¬s.FallsToVatsim network stationId := by
  have isDiff := isDiff_computeStationDiff order s.onlineStations
    (recomputeStations network ((s.onlinePositions.retain fun positionId _ =>
      (network.getPosition positionId).isSome).keys ∪
        (s.vatsimOnlyPositions.retain fun positionId _ =>
          (network.getPosition positionId).isSome).keys))
  have covers : (recomputeStations network ((s.onlinePositions.retain fun positionId _ =>
      (network.getPosition positionId).isSome).keys ∪
        (s.vatsimOnlyPositions.retain fun positionId _ =>
          (network.getPosition positionId).isSome).keys)).lookup =
      network.coverage s.allPositions := by
    funext stationId
    rw [← lookup_onlineStations_replaceNetwork order network stationId]
    exact (lookup_updateOnlineStations isDiff (fun _ => rfl) stationId).symm
  rw [covers] at isDiff
  have translated := pruned_translation stationId (s.onlineStations.lookup stationId)
    (network.coverage s.allPositions stationId) (mem_keys_replaceNetwork order s network)
    (fun positionId online => Finset.disjoint_left.mp indexed.disjoint online)
    fun target isTarget =>
      ⟨Finset.mem_union.mp (Network.coverage_eq_some isTarget).1,
        (Network.coverage_eq_some isTarget).2⟩
  simp only [Bool.not_eq_true] at translated
  refine Iff.trans ?_ translated
  rw [lookup_visibleCoverage, seen, lookup_onlineStations_replaceNetwork]
  refine Eq.congr ?_ rfl
  refine (lookup_clientVisibleChanges isDiff view stationId).trans ?_
  rw [shows, lookup_visibleCoverage]
  rfl

end ClientManager

/-- A client with a custom profile whose view showed the visible coverage is still
connected after a reload, and its view converges exactly if no station falls from
an online position that is gone to a position that is only staffed on VATSIM. -/
theorem reloadedView_converges_iff (order : ClientIteration) {s : ClientManager}
    (indexed : ClientIndexed s) (network : Network) {clientId : ClientId} {before : ClientSession}
    (connected : s.clients.lookup clientId = some before)
    (custom : before.activeProfile = .custom) {view : HashMap StationId PositionId}
    (shows : s.Shows before.activeProfile view) :
    ∃ after, (s.execute (.replaceNetwork order network)).1.clients.lookup clientId = some after ∧
      after.activeProfile = .custom ∧
      ((s.execute (.replaceNetwork order network)).1.Shows after.activeProfile (applyChanges view
          ((s.execute (.replaceNetwork order network)).2.sentTo network after)) ↔
        ∀ stationId, ¬s.FallsToVatsim network stationId) := by
  have carried := ClientManager.reloadSessions_reloaded order network indexed.staffing clientId
  rw [connected] at carried
  generalize isAfter : (s.reloadSessions order network).1.lookup clientId = found at carried
  cases carried with
  | @some _ after reloaded =>
      have stillCustom := reloaded.client.custom custom
      refine ⟨after, isAfter, stillCustom, ?_⟩
      have isAll : ∀ network : Network, network.relevantStations .custom = .all := fun _ => rfl
      have sent : (s.execute (.replaceNetwork order network)).2.sentTo network after =
          (s.replaceNetwork order network).2.2 := by
        rw [Emission.sentTo, stillCustom, ClientManager.relevantChanges, isAll]
        rfl
      rw [sent, stillCustom]
      rw [custom] at shows
      exact forall_congr' fun stationId =>
        ClientManager.replaceNetwork_station order network indexed shows stationId

/-! ## A station that falls to VATSIM -/

/-- The other position is staffed on VATSIM by a controller without a session. -/
def eastOnVatsim : ClientOperation :=
  .syncVatsimState .increasing 0
    (ControllerInfo.indexByCid [⟨⟨"10000003"⟩, "LOVV_E_CTR", "134.350", .enroute, none⟩]) false

def watched : ClientManager :=
  (ClientManager.new twoSectors 0 3).run [controllerLogin, observerLogin, eastOnVatsim]

/-- The dataset without the preferred position. -/
def eastOnly : Network :=
  .ofEntries [⟨⟨"LOVV_E_CTR"⟩, ∅, "134.350", .enroute, none, [], ∅⟩]
    [⟨⟨"LOVV"⟩, [⟨"LOVV_E_CTR"⟩]⟩] []

theorem watched_indexed : ClientIndexed watched :=
  ClientManager.run_indexed _ (ClientManager.new_indexed _ _ _)

/-- The session of the watching client. -/
def observer : ClientSession :=
  .new ⟨⟨"10000002"⟩, "LOVV_OBS", "199.998", none⟩ .custom 1 0

theorem watched_observer : watched.clients.lookup ⟨"10000002"⟩ = some observer := by
  decide +kernel

theorem watched_shows : watched.Shows observer.activeProfile watched.visibleCoverage :=
  fun _ => rfl

/-- The other position is staffed by a client. -/
def eastLogin : ClientOperation :=
  .addClient .increasing ⟨⟨"10000003"⟩, "LOVV_E_CTR", "134.350", some ⟨"LOVV_E_CTR"⟩⟩ .custom 2 0

def bothStaffed : ClientManager :=
  (ClientManager.new twoSectors 0 3).run [controllerLogin, observerLogin, eastLogin]

theorem bothStaffed_indexed : ClientIndexed bothStaffed :=
  ClientManager.run_indexed _ (ClientManager.new_indexed _ _ _)

theorem bothStaffed_observer : bothStaffed.clients.lookup ⟨"10000002"⟩ = some observer := by
  decide +kernel

/-- The preferred position disappears from the dataset, the station falls to the other position,
which is online, and the watching client sees it go there. -/
theorem reloadedView_converges_eastOnly :
    bothStaffed.visibleCoverage.lookup ⟨"LOVV"⟩ = some ⟨"LOVV_CTR"⟩ ∧
    ∃ after, (bothStaffed.execute (.replaceNetwork .increasing eastOnly)).1.clients.lookup
        ⟨"10000002"⟩ = some after ∧ after.activeProfile = .custom ∧
      (bothStaffed.execute (.replaceNetwork .increasing eastOnly)).1.Shows after.activeProfile
        (applyChanges bothStaffed.visibleCoverage
          ((bothStaffed.execute (.replaceNetwork .increasing eastOnly)).2.sentTo eastOnly after)) ∧
      (applyChanges bothStaffed.visibleCoverage
        ((bothStaffed.execute (.replaceNetwork .increasing eastOnly)).2.sentTo eastOnly
          after)).lookup ⟨"LOVV"⟩ = some ⟨"LOVV_E_CTR"⟩ := by
  obtain ⟨after, isAfter, custom, converges⟩ := reloadedView_converges_iff .increasing
    bothStaffed_indexed eastOnly bothStaffed_observer rfl fun _ => rfl
  have shows := converges.mpr fun stationId ⟨_, target, _, _, _, _, onVatsim⟩ => by
    have noneOnVatsim : bothStaffed.vatsimOnlyPositions.keys = ∅ := by decide +kernel
    rw [noneOnVatsim] at onVatsim
    cases Finset.notMem_empty target onVatsim
  refine ⟨by decide +kernel, after, isAfter, custom, shows, (shows ⟨"LOVV"⟩).trans ?_⟩
  rw [custom]
  change (bothStaffed.execute (.replaceNetwork .increasing eastOnly)).1.visibleCoverage.lookup
    ⟨"LOVV"⟩ = some ⟨"LOVV_E_CTR"⟩
  decide +kernel

/-- The preferred position disappears from the dataset, the station falls to the
position that is only staffed on VATSIM, and the watching client keeps it. -/
theorem reloadedView_diverges :
    ¬∀ (order : ClientIteration) (s : ClientManager), ClientIndexed s → ∀ (network : Network)
      (clientId : ClientId) (before after : ClientSession) (view : HashMap StationId PositionId),
      s.clients.lookup clientId = some before → before.activeProfile = .custom →
      s.Shows before.activeProfile view →
      (s.execute (.replaceNetwork order network)).1.clients.lookup clientId = some after →
      (s.execute (.replaceNetwork order network)).1.Shows after.activeProfile (applyChanges view
        ((s.execute (.replaceNetwork order network)).2.sentTo network after)) := by
  intro converges
  have shows := converges .increasing watched watched_indexed eastOnly ⟨"10000002"⟩ observer
    observer watched.visibleCoverage watched_observer rfl watched_shows (by decide +kernel)
    ⟨"LOVV"⟩
  have kept : (applyChanges watched.visibleCoverage
      ((watched.execute (.replaceNetwork .increasing eastOnly)).2.sentTo eastOnly
        observer)).lookup ⟨"LOVV"⟩ = some ⟨"LOVV_CTR"⟩ := by decide +kernel
  have invisible : (watched.execute (.replaceNetwork .increasing eastOnly)).1.visibleCoverage.lookup
      ⟨"LOVV"⟩ = none := by decide +kernel
  rw [kept] at shows
  exact absurd (shows.trans invisible) (by simp)

end Vacs
