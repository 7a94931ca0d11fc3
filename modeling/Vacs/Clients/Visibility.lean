import Vacs.Clients.Sync
import Vacs.Coverage.Views

/-!
# What clients see of the coverage

A client sees a station when the position that covers it is online, and does not
when the position is only staffed on VATSIM. `visibleChange` translates a change
of the coverage into the change a client sees, if any. It is right when it is
asked about the position sets before and after the change.
-/

set_option autoImplicit false

namespace Vacs

namespace ClientManager

/-- A coverage as clients see it when the given positions are online. -/
def seen (online : Finset PositionId) (coverage : StationId → Option PositionId)
    (stationId : StationId) : Option PositionId :=
  (coverage stationId).filter fun positionId => decide (positionId ∈ online)

theorem seen_eq_some {online : Finset PositionId} {coverage : StationId → Option PositionId}
    {stationId : StationId} {positionId : PositionId} :
    seen online coverage stationId = some positionId ↔
      coverage stationId = some positionId ∧ positionId ∈ online := by
  simp [seen, Option.filter_eq_some_iff]

/-- A station that keeps its position is seen as before if the position stays online
or not as it was. -/
theorem seen_congr {fromOnline toOnline : Finset PositionId}
    {before after : StationId → Option PositionId} {stationId : StationId}
    (same : after stationId = before stationId)
    (stays : ∀ positionId, before stationId = some positionId →
      (positionId ∈ fromOnline ↔ positionId ∈ toOnline)) :
    seen toOnline after stationId = seen fromOnline before stationId := by
  unfold seen
  rw [same]
  cases covered : before stationId with
  | none => rfl
  | some positionId => simp [Option.filter, stays positionId covered]

/-- The coverage that clients see. -/
def visibleCoverage (s : ClientManager) : StationCoverage :=
  s.onlineStations.retain fun _ positionId => decide (positionId ∈ s.onlinePositions.keys)

theorem lookup_visibleCoverage (s : ClientManager) (stationId : StationId) :
    s.visibleCoverage.lookup stationId =
      seen s.onlinePositions.keys (fun stationId => s.onlineStations.lookup stationId)
        stationId := by
  rw [visibleCoverage, Finmap.lookup_retain, seen]
  cases s.onlineStations.lookup stationId <;> simp [Option.filter]

/-- Updating the station map is folding the changes into it. -/
theorem updateOnlineStations_eq (onlineStations : StationCoverage)
    (changes : List StationChange) :
    updateOnlineStations onlineStations changes = applyChanges onlineStations changes := by
  rw [updateOnlineStations, applyChanges, Finmap.patch, List.foldl_map]
  congr 1
  funext stations change
  cases change <;> rfl

theorem relevantChanges_eq (network : Network) (profile : ActiveProfile ProfileId)
    (changes : List StationChange) :
    relevantChanges network profile changes = changes.filter fun change =>
      (network.relevantStations profile).has change.stationId := by
  unfold relevantChanges
  split <;> rename_i relevant <;> simp [relevant, RelevantStations.has]

/-! ## Translating one change -/

section Translation

variable {stationId : StationId} {before after : StationId → Option PositionId}
  {fromOnline toOnline fromActual toActual : Finset PositionId}

/-- A change is translated into one that ends where the client should see the
station, and is dropped only if the client sees no difference. -/
theorem visibleChange_spec {change : StationChange}
    (isChange : changeBetween stationId (before stationId) (after stationId) = some change)
    (fromAgrees : ∀ source target, before stationId = some source →
      after stationId = some target → source ≠ target →
      (source ∈ fromOnline ↔ source ∈ fromActual))
    (toAgrees : ∀ target, after stationId = some target →
      (target ∈ toOnline ↔ target ∈ toActual)) :
    match visibleChange fromOnline toOnline change with
    | some told => told.stationId = stationId ∧ told.target = seen toActual after stationId
    | none => seen toActual after stationId = seen fromActual before stationId := by
  unfold seen
  cases was : before stationId with
  | none =>
      cases isNow : after stationId with
      | none => simp [was, isNow, changeBetween] at isChange
      | some target =>
          have agrees := toAgrees target isNow
          simp only [was, isNow, changeBetween, Option.some.injEq] at isChange
          subst isChange
          by_cases online : target ∈ toOnline
          · have isOnline := agrees.mp online
            simp [visibleChange, online, isOnline, StationChange.stationId, StationChange.target,
              Option.filter]
          · have notOnline := mt agrees.mpr online
            simp [visibleChange, online, notOnline]
  | some source =>
      cases isNow : after stationId with
      | none =>
          simp only [was, isNow, changeBetween, Option.some.injEq] at isChange
          subst isChange
          simp [visibleChange, StationChange.stationId, StationChange.target]
      | some target =>
          simp only [was, isNow, changeBetween] at isChange
          split at isChange
          · cases isChange
          · rename_i different
            have fromIff := fromAgrees source target was isNow different
            have toIff := toAgrees target isNow
            cases isChange
            by_cases fromVacs : source ∈ fromOnline <;> by_cases toVacs : target ∈ toOnline <;>
              simp [visibleChange, fromVacs, toVacs, fromIff.symm, toIff.symm,
                StationChange.stationId, StationChange.target, Option.filter]

end Translation

section Lists

variable {changes : List StationChange} {before after : StationId → Option PositionId}
  {fromOnline toOnline fromActual toActual : Finset PositionId}

theorem mem_clientVisibleChanges {told : StationChange} :
    told ∈ clientVisibleChanges changes fromOnline toOnline ↔
      ∃ change ∈ changes, visibleChange fromOnline toOnline change = some told :=
  List.mem_filterMap

theorem visibleChange_stationId {change told : StationChange}
    (isTold : visibleChange fromOnline toOnline change = some told) :
    told.stationId = change.stationId := by
  unfold visibleChange at isTold
  split at isTold
  · split at isTold
    · cases isTold
      rfl
    · cases isTold
  · split at isTold <;> cases isTold <;> rfl
  · cases isTold
    rfl

/-- No station is mentioned twice. -/
theorem nodup_clientVisibleChanges
    (nodup : (changes.map StationChange.stationId).Nodup) :
    ((clientVisibleChanges changes fromOnline toOnline).map StationChange.stationId).Nodup := by
  refine nodup.sublist ?_
  induction changes with
  | nil => exact List.Sublist.refl _
  | cons change rest ih =>
      have rest := ih (List.Nodup.of_cons nodup)
      rw [clientVisibleChanges, List.filterMap_cons]
      split
      · exact rest.cons _
      · rename_i told isTold
        rw [List.map_cons, List.map_cons, visibleChange_stationId isTold]
        exact rest.cons_cons _

/-- What folding the translated changes does to one station of a view. -/
theorem lookup_clientVisibleChanges (isDiff : IsDiff changes before after)
    (view : HashMap StationId PositionId) (stationId : StationId) :
    (applyChanges view (clientVisibleChanges changes fromOnline toOnline)).lookup stationId =
      match (changeBetween stationId (before stationId) (after stationId)).bind
        (visibleChange fromOnline toOnline) with
      | some told => told.target
      | none => view.lookup stationId := by
  cases translated : (changeBetween stationId (before stationId) (after stationId)).bind
      (visibleChange fromOnline toOnline) with
  | some told =>
      obtain ⟨change, isChange, isTold⟩ := Option.bind_eq_some_iff.mp translated
      have named := changeBetween_stationId isChange
      have member : change ∈ changes := by
        rw [isDiff.mem_iff, named]
        exact isChange
      have listed := mem_clientVisibleChanges.mpr ⟨change, member, isTold⟩
      rw [← named, ← visibleChange_stationId isTold]
      exact lookup_applyChanges_of_mem (nodup_clientVisibleChanges isDiff.nodup) listed view
  | none =>
      refine lookup_applyChanges_of_unmentioned (fun told isTold named => ?_) view
      obtain ⟨change, member, isTold⟩ := mem_clientVisibleChanges.mp isTold
      have isChange := (isDiff.mem_iff change).mp member
      rw [← visibleChange_stationId isTold, named] at isChange
      rw [isChange, Option.bind_some, isTold] at translated
      cases translated

/-- What the position sets handed to the translation have to be right about. -/
structure Classifies (before after : StationId → Option PositionId)
    (fromOnline toOnline fromActual toActual : Finset PositionId) : Prop where
  source : ∀ stationId source target, before stationId = some source →
    after stationId = some target → source ≠ target → (source ∈ fromOnline ↔ source ∈ fromActual)
  target : ∀ stationId target, after stationId = some target →
    (target ∈ toOnline ↔ target ∈ toActual)

/-- The sets before and after a change classify it. -/
theorem Classifies.refl : Classifies before after fromActual toActual fromActual toActual where
  source _ _ _ _ _ _ := Iff.rfl
  target _ _ _ := Iff.rfl

theorem target_clientVisibleChanges (isDiff : IsDiff changes before after)
    (classifies : Classifies before after fromOnline toOnline fromActual toActual)
    {told : StationChange} (isTold : told ∈ clientVisibleChanges changes fromOnline toOnline) :
    told.target = seen toActual after told.stationId := by
  obtain ⟨change, member, translated⟩ := mem_clientVisibleChanges.mp isTold
  have spec := visibleChange_spec ((isDiff.mem_iff change).mp member)
    (classifies.source change.stationId) (classifies.target change.stationId)
  rw [translated] at spec
  rw [spec.2, spec.1]

/-- A change that is not passed on makes no difference to clients. -/
theorem seen_eq_of_dropped (isDiff : IsDiff changes before after)
    (classifies : Classifies before after fromOnline toOnline fromActual toActual)
    {change : StationChange} (member : change ∈ changes)
    (dropped : ∀ told ∈ clientVisibleChanges changes fromOnline toOnline,
      told.stationId ≠ change.stationId) :
    seen toActual after change.stationId = seen fromActual before change.stationId := by
  have spec := visibleChange_spec ((isDiff.mem_iff change).mp member)
    (classifies.source change.stationId) (classifies.target change.stationId)
  cases translated : visibleChange fromOnline toOnline change with
  | none =>
      rw [translated] at spec
      exact spec
  | some told =>
      rw [translated] at spec
      exact absurd spec.1
        (dropped told (mem_clientVisibleChanges.mpr ⟨change, member, translated⟩))

/-- If the positions that keep their stations stay online or not as they were,
the translated changes tell clients everything. -/
theorem describes_clientVisibleChanges (isDiff : IsDiff changes before after)
    (classifies : Classifies before after fromOnline toOnline fromActual toActual)
    (stays : ∀ stationId positionId, before stationId = some positionId →
      after stationId = some positionId → (positionId ∈ fromActual ↔ positionId ∈ toActual)) :
    Describes (clientVisibleChanges changes fromOnline toOnline) (seen fromActual before)
      (seen toActual after) where
  nodup := nodup_clientVisibleChanges isDiff.nodup
  told _ isTold := target_clientVisibleChanges isDiff classifies isTold
  kept stationId untold := by
    by_cases mentioned : ∃ change ∈ changes, change.stationId = stationId
    · obtain ⟨change, member, rfl⟩ := mentioned
      exact seen_eq_of_dropped isDiff classifies member untold
    · have same := isDiff.describes.kept stationId
        fun change member named => mentioned ⟨change, member, named⟩
      exact seen_congr same fun positionId covered =>
        stays stationId positionId covered (same.trans covered)

end Lists

/-! ## Positions that change hands between vacs and VATSIM -/

/-- A position goes online or offline while some other map keeps it covering its
stations: the clients are told about exactly these stations. -/
theorem describes_stationsOf (order : ClientIteration) {onlineStations : StationCoverage}
    {fromOnline toOnline : Finset PositionId} {positionId : PositionId}
    {tell : StationId → StationChange} (names : ∀ stationId, (tell stationId).stationId = stationId)
    (others : ∀ other, other ≠ positionId → (other ∈ fromOnline ↔ other ∈ toOnline))
    (target : ∀ stationId, onlineStations.lookup stationId = some positionId →
      (tell stationId).target =
        seen toOnline (fun stationId => onlineStations.lookup stationId) stationId) :
    Describes ((stationsOf order onlineStations positionId).map tell)
      (seen fromOnline fun stationId => onlineStations.lookup stationId)
      (seen toOnline fun stationId => onlineStations.lookup stationId) where
  nodup := by
    rw [List.map_map, show StationChange.stationId ∘ tell = id from funext names, List.map_id]
    exact (order.stations.nodup_list _).filter _
  told change member := by
    obtain ⟨stationId, listed, rfl⟩ := List.mem_map.mp member
    obtain ⟨_, covered⟩ := List.mem_filter.mp listed
    rw [target stationId (by simpa using covered), names]
  kept stationId untold := by
    refine seen_congr rfl fun other covered => others other ?_
    rintro rfl
    refine untold (tell stationId) (List.mem_map_of_mem ?_) (names stationId)
    rw [stationsOf, List.mem_filter, Enumeration.mem_list, Finmap.mem_keys_iff_lookup]
    exact ⟨⟨_, covered⟩, by simp [covered]⟩

section Callability

variable {order : ClientIteration} {onlineStations : StationCoverage}
  {allChanges : List StationChange} {startOnline endOnline : Finset PositionId}

theorem mem_callabilityChanges {told : StationChange} :
    told ∈ callabilityChanges order onlineStations allChanges startOnline endOnline ↔
      told.stationId ∉ allChanges.map StationChange.stationId ∧
      ∃ positionId, onlineStations.lookup told.stationId = some positionId ∧
        ((positionId ∈ startOnline ∧ positionId ∉ endOnline ∧ told = .offline told.stationId) ∨
          (positionId ∉ startOnline ∧ positionId ∈ endOnline ∧
            told = .online told.stationId positionId)) := by
  unfold callabilityChanges
  rw [List.mem_filterMap]
  constructor
  · rintro ⟨stationId, _, isTold⟩
    split at isTold
    · cases isTold
    · rename_i unmentioned
      obtain ⟨positionId, covered, isTold⟩ := Option.bind_eq_some_iff.mp isTold
      split at isTold
      · rename_i wasOnline notOnline
        cases isTold
        exact ⟨unmentioned, positionId, covered, .inl ⟨by simpa using wasOnline,
          by simpa using notOnline, rfl⟩⟩
      · rename_i wasNot isOnline
        cases isTold
        exact ⟨unmentioned, positionId, covered, .inr ⟨by simpa using wasNot,
          by simpa using isOnline, rfl⟩⟩
      · cases isTold
  · rintro ⟨unmentioned, positionId, covered, moved⟩
    refine ⟨told.stationId, ?_, ?_⟩
    · rw [Enumeration.mem_list, Finmap.mem_keys_iff_lookup]
      exact ⟨positionId, covered⟩
    · rw [if_neg unmentioned, covered]
      rcases moved with ⟨wasOnline, notOnline, isOffline⟩ | ⟨wasNot, isOnline, isTold⟩
      · simp [wasOnline, notOnline, ← isOffline]
      · simp [wasNot, isOnline, ← isTold]

theorem nodup_callabilityChanges :
    ((callabilityChanges order onlineStations allChanges startOnline endOnline).map
      StationChange.stationId).Nodup := by
  refine nodup_map_stationId (order.stations.nodup_list _) fun stationId change isTold => ?_
  split at isTold
  · cases isTold
  · obtain ⟨positionId, _, isTold⟩ := Option.bind_eq_some_iff.mp isTold
    split at isTold <;> cases isTold <;> rfl

/-- Together, the translated changes and the changes of callability tell clients
everything. -/
theorem describes_syncChanges {before : StationId → Option PositionId}
    (isDiff : IsDiff allChanges before fun stationId => onlineStations.lookup stationId) :
    Describes
      (clientVisibleChanges allChanges startOnline endOnline ++
        callabilityChanges order onlineStations allChanges startOnline endOnline)
      (seen startOnline before)
      (seen endOnline fun stationId => onlineStations.lookup stationId) where
  nodup := by
    rw [List.map_append, List.nodup_append]
    refine ⟨nodup_clientVisibleChanges isDiff.nodup, nodup_callabilityChanges, ?_⟩
    rintro stationId visible _ callable rfl
    obtain ⟨told, isTold, rfl⟩ := List.mem_map.mp visible
    obtain ⟨change, member, translated⟩ := mem_clientVisibleChanges.mp isTold
    obtain ⟨other, isOther, named⟩ := List.mem_map.mp callable
    refine (mem_callabilityChanges.mp isOther).1 ?_
    rw [named, visibleChange_stationId translated]
    exact List.mem_map_of_mem member
  told told isTold := by
    rcases List.mem_append.mp isTold with isTold | isTold
    · exact target_clientVisibleChanges isDiff Classifies.refl isTold
    · obtain ⟨_, positionId, covered, moved⟩ := mem_callabilityChanges.mp isTold
      rcases moved with ⟨_, notOnline, isOffline⟩ | ⟨_, isOnline, isTold⟩
      · rw [isOffline]
        simp [seen, StationChange.target, StationChange.stationId] at covered ⊢
        simp [covered, Option.filter, notOnline]
      · rw [isTold]
        simp [seen, StationChange.target, StationChange.stationId] at covered ⊢
        simp [covered, Option.filter, isOnline]
  kept stationId untold := by
    have invisible : ∀ told ∈ clientVisibleChanges allChanges startOnline endOnline,
        told.stationId ≠ stationId := fun told isTold =>
      untold told (List.mem_append_left _ isTold)
    by_cases mentioned : ∃ change ∈ allChanges, change.stationId = stationId
    · obtain ⟨change, member, rfl⟩ := mentioned
      exact seen_eq_of_dropped isDiff Classifies.refl member invisible
    · have same := isDiff.describes.kept stationId
        fun change member named => mentioned ⟨change, member, named⟩
      have unmentioned : stationId ∉ allChanges.map StationChange.stationId := by
        rw [List.mem_map]
        exact mentioned
      refine seen_congr same fun positionId wasCovered => ?_
      have covered : onlineStations.lookup stationId = some positionId := same.trans wasCovered
      by_contra differs
      by_cases wasOnline : positionId ∈ startOnline
      · have notOnline : positionId ∉ endOnline :=
          fun isOnline => differs ⟨fun _ => isOnline, fun _ => wasOnline⟩
        refine untold (.offline stationId) (List.mem_append_right _ ?_) rfl
        exact mem_callabilityChanges.mpr
          ⟨unmentioned, positionId, covered, .inl ⟨wasOnline, notOnline, rfl⟩⟩
      · have isOnline : positionId ∈ endOnline := by
          by_contra notOnline
          exact differs ⟨fun held => absurd held wasOnline, fun held => absurd held notOnline⟩
        refine untold (.online stationId positionId) (List.mem_append_right _ ?_) rfl
        exact mem_callabilityChanges.mpr
          ⟨unmentioned, positionId, covered, .inr ⟨wasOnline, isOnline, rfl⟩⟩

end Callability

end ClientManager

end Vacs
