import Vacs.Coverage.Inheritance

/-!
# Walks along the parents of a station

The loop that collects the positions of a station follows the parents of the station
without a bound. From any station and in any table, the walk along the parents ends
in one of three ways (`ParentWalk.exists_end`): at a station that was visited, at a
station without a parent, or at a parent that is not in the table. The three ends are
the three results of the loop.

The table may hold any stations under any ids. In a table that keeps stations under
their own ids, a walk that comes to a station again goes round for ever.
-/

set_option autoImplicit false

namespace Vacs

namespace Loading

/-- From a station along its parents: the stations that are left behind, and the one that is
reached. -/
inductive ParentWalk (all : StationTable) :
    StationRaw → List StationRaw → StationRaw → Prop where
  | here (station : StationRaw) : ParentWalk all station [] station
  | parent {station parent last : StationRaw} {parentId : StationId} {earlier : List StationRaw}
      (names : station.parentId = some parentId) (found : all.lookup parentId = some parent)
      (rest : ParentWalk all parent earlier last) :
      ParentWalk all station (station :: earlier) last

/-- The chain of parents comes to a station again. -/
def Revisits (all : StationTable) (raw : StationRaw) : Prop :=
  ∃ earlier last, ParentWalk all raw earlier last ∧
    ¬ ((earlier ++ [last]).map StationRaw.id).Nodup

/-- The chain of parents comes to an id that is not in the table, and has not come to a station
again before. -/
def LacksParent (all : StationTable) (raw : StationRaw) (parentId : StationId) : Prop :=
  ∃ earlier last, ParentWalk all raw earlier last ∧
    ((earlier ++ [last]).map StationRaw.id).Nodup ∧
      last.parentId = some parentId ∧ all.lookup parentId = none

/-- The loop of `resolve_controlled_by`, without a bound on its rounds, ends in a state. -/
inductive LoopEnds (all : StationTable) (own : StationRaw) :
    Option StationRaw → Resolving → Resolving → Prop where
  | finished (resolving : Resolving) : LoopEnds all own none resolving resolving
  | again {station : StationRaw} {resolving : Resolving}
      (known : station.id ∈ resolving.visited) :
      LoopEnds all own (some station) resolving
        { resolving with
          errors := resolving.errors ++
            [.validation (.cycleDetected (resolving.order ++ [station.id.val]))] }
  | root {station : StationRaw} {resolving final : Resolving}
      (isNew : station.id ∉ resolving.visited) (root : station.parentId = none)
      (rest : LoopEnds all own none (visit resolving station) final) :
      LoopEnds all own (some station) resolving final
  | missing {station : StationRaw} {resolving final : Resolving} {parentId : StationId}
      (isNew : station.id ∉ resolving.visited) (names : station.parentId = some parentId)
      (missing : all.lookup parentId = none)
      (rest : LoopEnds all own none
        { visit resolving station with
          errors := (visit resolving station).errors ++
            [.validation (.missingParent own.id.val parentId.val)] } final) :
      LoopEnds all own (some station) resolving final
  | parent {station parent : StationRaw} {resolving final : Resolving} {parentId : StationId}
      (isNew : station.id ∉ resolving.visited) (names : station.parentId = some parentId)
      (found : all.lookup parentId = some parent)
      (rest : LoopEnds all own (some parent) (visit resolving station) final) :
      LoopEnds all own (some station) resolving final

/-! ## Walks -/

section Walks

variable {all : StationTable} {raw last : StationRaw} {earlier : List StationRaw}

/-- A walk goes on to the parent of the station that it has reached. -/
theorem ParentWalk.snoc (walk : ParentWalk all raw earlier last) {parent : StationRaw}
    {parentId : StationId} (names : last.parentId = some parentId)
    (found : all.lookup parentId = some parent) :
    ParentWalk all raw (earlier ++ [last]) parent := by
  induction walk with
  | here station => exact .parent names found (.here parent)
  | parent namesOwn foundOwn _ ih => exact .parent namesOwn foundOwn (ih names)

/-- A walk may stop at any station that it leaves behind. -/
theorem ParentWalk.stop {stop : StationRaw} {before after : List StationRaw}
    (walk : ParentWalk all raw (before ++ stop :: after) last) :
    ParentWalk all raw before stop := by
  induction before generalizing raw with
  | nil =>
      cases walk
      exact .here _
  | cons first before ih =>
      cases walk with
      | parent names found rest => exact .parent names found (ih rest)

/-- Every station of a walk but the first is in the table. -/
theorem ParentWalk.mem_cases (walk : ParentWalk all raw earlier last) {station : StationRaw}
    (member : station ∈ earlier ++ [last]) :
    station = raw ∨ ∃ key, all.lookup key = some station := by
  induction walk with
  | here => exact .inl (List.mem_singleton.mp member)
  | parent names found _ ih =>
      rcases List.mem_cons.mp member with isFirst | later
      · exact .inl isFirst
      · right
        rcases ih later with isParent | inTable
        · exact ⟨_, isParent ▸ found⟩
        · exact inTable

/-- The ids of the stations in a table. -/
def stationIds (all : StationTable) : Finset StationId :=
  all.keys.image fun key => ((all.lookup key).map StationRaw.id).getD key

theorem mem_stationIds {key : StationId} {station : StationRaw}
    (found : all.lookup key = some station) : station.id ∈ stationIds all :=
  Finset.mem_image.mpr
    ⟨key, (Finmap.mem_keys_iff_lookup all key).mpr ⟨station, found⟩, by simp [found]⟩

/-- A walk that comes to no station twice is no longer than the table. -/
theorem ParentWalk.length_le (walk : ParentWalk all raw earlier last)
    (nodup : (earlier.map StationRaw.id).Nodup) : earlier.length ≤ all.keys.card + 1 := by
  have inside : (earlier.map StationRaw.id).toFinset ⊆ insert raw.id (stationIds all) := by
    intro id member
    obtain ⟨station, listed, rfl⟩ := List.mem_map.mp (List.mem_toFinset.mp member)
    rcases walk.mem_cases (List.mem_append_left _ listed) with rfl | ⟨key, found⟩
    · exact Finset.mem_insert_self _ _
    · exact Finset.mem_insert_of_mem (mem_stationIds found)
  calc earlier.length = (earlier.map StationRaw.id).toFinset.card := by
        rw [List.toFinset_card_of_nodup nodup, List.length_map]
    _ ≤ (insert raw.id (stationIds all)).card := Finset.card_le_card inside
    _ ≤ (stationIds all).card + 1 := Finset.card_insert_le _ _
    _ ≤ all.keys.card + 1 := Nat.add_le_add_right Finset.card_image_le 1

/-- The walk along the parents of a station cannot go on. -/
def WalkEnds (all : StationTable) (earlier : List StationRaw) (last : StationRaw) : Prop :=
  last.id ∈ earlier.map StationRaw.id ∨
    last.id ∉ earlier.map StationRaw.id ∧
      (last.parentId = none ∨
        ∃ parentId, last.parentId = some parentId ∧ all.lookup parentId = none)

theorem nodup_ids_snoc :
    ((earlier ++ [last]).map StationRaw.id).Nodup ↔
      (earlier.map StationRaw.id).Nodup ∧ last.id ∉ earlier.map StationRaw.id := by
  rw [List.map_append, List.map_singleton, List.nodup_append_comm, List.singleton_append,
    List.nodup_cons, and_comm]

/-- As long as no walk has ended, walks get longer. -/
theorem ParentWalk.exists_end_or_length (all : StationTable) (raw : StationRaw) (length : ℕ) :
    (∃ earlier last, ParentWalk all raw earlier last ∧ (earlier.map StationRaw.id).Nodup ∧
      WalkEnds all earlier last) ∨
    ∃ earlier last, ParentWalk all raw earlier last ∧ (earlier.map StationRaw.id).Nodup ∧
      earlier.length = length := by
  induction length with
  | zero => exact .inr ⟨[], raw, .here raw, List.nodup_nil, rfl⟩
  | succ length ih =>
      rcases ih with ended | ⟨earlier, last, walk, nodup, isLength⟩
      · exact .inl ended
      · by_cases again : last.id ∈ earlier.map StationRaw.id
        · exact .inl ⟨earlier, last, walk, nodup, .inl again⟩
        · cases names : last.parentId with
          | none => exact .inl ⟨earlier, last, walk, nodup, .inr ⟨again, .inl names⟩⟩
          | some parentId =>
              cases found : all.lookup parentId with
              | none =>
                  exact .inl ⟨earlier, last, walk, nodup,
                    .inr ⟨again, .inr ⟨parentId, names, found⟩⟩⟩
              | some parent =>
                  exact .inr ⟨earlier ++ [last], parent, walk.snoc names found,
                    nodup_ids_snoc.mpr ⟨nodup, again⟩, by simp [isLength]⟩

/-- From every station the walk along the parents ends. -/
theorem ParentWalk.exists_end (all : StationTable) (raw : StationRaw) :
    ∃ earlier last, ParentWalk all raw earlier last ∧ (earlier.map StationRaw.id).Nodup ∧
      WalkEnds all earlier last := by
  rcases ParentWalk.exists_end_or_length all raw (all.keys.card + 2) with
    ended | ⟨earlier, last, walk, nodup, isLength⟩
  · exact ended
  · have short := walk.length_le nodup
    omega

/-- A chain that comes to a station again does so for a first time. -/
theorem Revisits.exists_first (revisits : Revisits all raw) :
    ∃ earlier last, ParentWalk all raw earlier last ∧ (earlier.map StationRaw.id).Nodup ∧
      last.id ∈ earlier.map StationRaw.id := by
  obtain ⟨earlier, last, walk, repeated⟩ := revisits
  induction earlier using List.reverseRecOn generalizing last with
  | nil => simp at repeated
  | append_singleton earlier previous ih =>
      by_cases nodup : ((earlier ++ [previous]).map StationRaw.id).Nodup
      · refine ⟨_, last, walk, nodup, ?_⟩
        by_contra isNew
        exact repeated (nodup_ids_snoc.mpr ⟨nodup, isNew⟩)
      · exact ih previous walk.stop nodup

/-- A walk to a station without a parent is a chain. -/
theorem ParentWalk.chain (walk : ParentWalk all raw earlier last) (root : last.parentId = none) :
    ParentChain all raw (earlier ++ [last]) := by
  induction walk with
  | here => exact .root root
  | parent names found _ ih => exact .parent names found (ih root)

end Walks

/-! ## The loop along a walk -/

/-- The positions collected are those of a list, each at its first occurrence. -/
structure Resolving.Collects (resolving : Resolving) (positions : List PositionId) : Prop where
  collected : resolving.controlledBy = positions.eraseDups
  seen : ∀ position, position ∈ resolving.seen ↔ position ∈ positions

theorem eraseDups_snoc (positions : List PositionId) (position : PositionId) :
    (positions ++ [position]).eraseDups =
      if position ∈ positions then positions.eraseDups
      else positions.eraseDups ++ [position] := by
  rw [List.eraseDups_append]
  split
  · rename_i known
    simp [List.removeAll, known]
  · rename_i isNew
    simp [List.removeAll, isNew, List.eraseDups_cons]

theorem Resolving.Collects.extend {resolving : Resolving} {before : List PositionId}
    (collects : resolving.Collects before) (positions : List PositionId) :
    (resolving.extend positions).Collects (before ++ positions) := by
  induction positions generalizing resolving before with
  | nil =>
      rw [List.append_nil]
      exact collects
  | cons position positions ih =>
      rw [extend_cons, List.append_cons before]
      apply ih
      by_cases known : position ∈ before
      · rw [if_pos ((collects.seen position).mpr known)]
        refine ⟨?_, fun wanted => ?_⟩
        · rw [eraseDups_snoc, if_pos known]
          exact collects.collected
        · rw [collects.seen, List.mem_append, List.mem_singleton]
          constructor
          · exact .inl
          · rintro (listed | rfl)
            · exact listed
            · exact known
      · rw [if_neg (fun seen => known ((collects.seen position).mp seen))]
        refine ⟨?_, fun wanted => ?_⟩
        · rw [eraseDups_snoc, if_neg known, ← collects.collected]
        · rw [Finset.mem_insert, collects.seen, List.mem_append, List.mem_singleton]
          exact or_comm

theorem Resolving.Collects.visit {resolving : Resolving} {before : List PositionId}
    (collects : resolving.Collects before) (station : StationRaw) :
    (visit resolving station).Collects (before ++ station.controlledBy) := by
  have marked : Collects
      { resolving with
        visited := insert station.id resolving.visited
        order := resolving.order ++ [station.id.val] } before :=
    ⟨collects.collected, collects.seen⟩
  exact marked.extend station.controlledBy

theorem order_visit (resolving : Resolving) (station : StationRaw) :
    (visit resolving station).order = resolving.order ++ [station.id.val] :=
  (Resolving.extend_frame _ _).2.1

/-- The loop has visited the stations of a list, one after the other. -/
structure Resolving.Visited (resolving : Resolving) (stations : List StationRaw) : Prop where
  collects : resolving.Collects (stations.flatMap StationRaw.controlledBy)
  visited : ∀ id, id ∈ resolving.visited ↔ id ∈ stations.map StationRaw.id
  order : resolving.order = stations.map fun station => station.id.val
  errors : resolving.errors = []

theorem Resolving.visited_empty : ({} : Resolving).Visited [] where
  collects := ⟨rfl, by simp⟩
  visited := by simp
  order := rfl
  errors := rfl

theorem Resolving.Visited.visit {resolving : Resolving} {stations : List StationRaw}
    (visited : resolving.Visited stations) (station : StationRaw) :
    (visit resolving station).Visited (stations ++ [station]) where
  collects := by
    simpa using visited.collects.visit station
  visited := by
    intro id
    rw [visited_visit, Finset.mem_insert, visited.visited, List.map_append, List.mem_append,
      List.map_singleton, List.mem_singleton]
    exact or_comm
  order := by
    rw [order_visit, visited.order, List.map_append, List.map_singleton]
  errors := by rw [errors_visit, visited.errors]

section Loop

variable {all : StationTable} {own raw last : StationRaw} {earlier : List StationRaw}

variable (own) in
/-- The loop follows a walk to its last station, and so does the bounded one. -/
theorem ParentWalk.follow (walk : ParentWalk all raw earlier last) (before : List StationRaw)
    (nodup : ((before ++ earlier).map StationRaw.id).Nodup) {resolving : Resolving}
    (visited : resolving.Visited before) :
    ∃ reached : Resolving, reached.Visited (before ++ earlier) ∧
      (∀ fuel, resolveFrom all own (earlier.length + fuel) (some raw) resolving =
        resolveFrom all own fuel (some last) reached) ∧
      ∀ final, LoopEnds all own (some last) reached final →
        LoopEnds all own (some raw) resolving final := by
  induction walk generalizing before resolving with
  | here station =>
      refine ⟨resolving, ?_, ?_, fun _ ends => ends⟩
      · rwa [List.append_nil]
      · intro fuel
        rw [List.length_nil, Nat.zero_add]
  | @parent station parent last parentId earlier names found rest ih =>
      have isNew : station.id ∉ resolving.visited := by
        rw [visited.visited]
        rw [List.append_cons, List.map_append] at nodup
        exact (nodup_ids_snoc.mp (List.nodup_append.mp nodup).1).2
      obtain ⟨reached, isReached, bounded, unbounded⟩ :=
        ih (before ++ [station]) (by rwa [← List.append_cons]) (visited.visit station)
      refine ⟨reached, ?_, ?_, ?_⟩
      · rwa [List.append_cons]
      · intro fuel
        rw [List.length_cons, Nat.add_right_comm, resolveFrom_parent _ isNew names found]
        exact bounded fuel
      · exact fun final ends => .parent isNew names found (unbounded final ends)

/-- What the loop returns from its last state. -/
def Resolving.result (resolving : Resolving) : Except (List CoverageError) (List PositionId) :=
  if resolving.errors = [] then .ok resolving.controlledBy else .error resolving.errors

/-- A walk along new stations, and what the loop does at its last station, give the result. -/
theorem ParentWalk.resolve (walk : ParentWalk all raw earlier last)
    (nodup : (earlier.map StationRaw.id).Nodup) :
    ∃ reached : Resolving, reached.Visited earlier ∧
      ∀ final, (∀ fuel, resolveFrom all raw (fuel + 1) (some last) reached = final) →
        LoopEnds all raw (some last) reached final →
          LoopEnds all raw (some raw) {} final ∧ raw.resolveControlledBy all = final.result := by
  obtain ⟨reached, visited, bounded, unbounded⟩ :=
    walk.follow raw [] nodup Resolving.visited_empty
  refine ⟨reached, visited, ?_⟩
  intro final isFinal ends
  refine ⟨unbounded final ends, ?_⟩
  obtain ⟨spare, enough⟩ := Nat.exists_eq_add_of_le (walk.length_le nodup)
  have follows : resolveFrom all raw (all.keys.card + 2) (some raw) {} = final := by
    have rounds : all.keys.card + 2 = earlier.length + (spare + 1) := by omega
    rw [rounds, bounded, isFinal]
  unfold StationRaw.resolveControlledBy Resolving.result
  rw [follows]

/-- A walk that comes to a station again is an error that lists the stations of the walk. -/
theorem ParentWalk.resolve_again (walk : ParentWalk all raw earlier last)
    (nodup : (earlier.map StationRaw.id).Nodup) (again : last.id ∈ earlier.map StationRaw.id) :
    (∃ final, LoopEnds all raw (some raw) {} final ∧ raw.resolveControlledBy all = final.result) ∧
    raw.resolveControlledBy all = .error
      [.validation (.cycleDetected ((earlier ++ [last]).map fun station => station.id.val))] := by
  obtain ⟨reached, visited, resolved⟩ := walk.resolve nodup
  have known : last.id ∈ reached.visited := (visited.visited last.id).mpr again
  obtain ⟨ends, isResult⟩ := resolved _ (fun fuel => resolveFrom_visited fuel known) (.again known)
  refine ⟨⟨_, ends, isResult⟩, ?_⟩
  rw [isResult, Resolving.result]
  simp [visited.errors, visited.order]

/-- A walk to a station without a parent gives the positions of its stations. -/
theorem ParentWalk.resolve_root (walk : ParentWalk all raw earlier last)
    (nodup : ((earlier ++ [last]).map StationRaw.id).Nodup) (root : last.parentId = none) :
    (∃ final, LoopEnds all raw (some raw) {} final ∧ raw.resolveControlledBy all = final.result) ∧
    raw.resolveControlledBy all =
      .ok ((earlier ++ [last]).flatMap StationRaw.controlledBy).eraseDups := by
  obtain ⟨distinct, isNew⟩ := nodup_ids_snoc.mp nodup
  obtain ⟨reached, visited, resolved⟩ := walk.resolve distinct
  have fresh : last.id ∉ reached.visited := fun known => isNew ((visited.visited _).mp known)
  have after := visited.visit last
  obtain ⟨ends, isResult⟩ := resolved _ (fun fuel => resolveFrom_root fuel fresh root)
    (.root fresh root (.finished _))
  refine ⟨⟨_, ends, isResult⟩, ?_⟩
  rw [isResult, Resolving.result, if_pos after.errors, after.collects.collected]

/-- A walk to a parent that is not in the table is an error that names the parent. -/
theorem ParentWalk.resolve_missing (walk : ParentWalk all raw earlier last)
    (nodup : ((earlier ++ [last]).map StationRaw.id).Nodup) {parentId : StationId}
    (names : last.parentId = some parentId) (missing : all.lookup parentId = none) :
    (∃ final, LoopEnds all raw (some raw) {} final ∧ raw.resolveControlledBy all = final.result) ∧
    raw.resolveControlledBy all =
      .error [.validation (.missingParent raw.id.val parentId.val)] := by
  obtain ⟨distinct, isNew⟩ := nodup_ids_snoc.mp nodup
  obtain ⟨reached, visited, resolved⟩ := walk.resolve distinct
  have fresh : last.id ∉ reached.visited := fun known => isNew ((visited.visited _).mp known)
  have after := visited.visit last
  obtain ⟨ends, isResult⟩ := resolved _ (fun fuel => resolveFrom_missing fuel fresh names missing)
    (.missing fresh names missing (.finished _))
  refine ⟨⟨_, ends, isResult⟩, ?_⟩
  rw [isResult, Resolving.result]
  simp [after.errors]

end Loop

/-- The loop ends for every station and every table. It is an error that a chain of parents comes
to a station again, and that it comes to an id that is not in the table; otherwise the chain has
a root, and its positions are listed from the station to the root, each where it occurs first. -/
theorem resolveControlledBy_spec (all : StationTable) (raw : StationRaw) :
    (∃ final, LoopEnds all raw (some raw) {} final ∧ raw.resolveControlledBy all = final.result) ∧
    ((∃ errors chain, raw.resolveControlledBy all = .error errors ∧
        .validation (.cycleDetected chain) ∈ errors) ↔ Revisits all raw) ∧
    ((∃ errors station parent, raw.resolveControlledBy all = .error errors ∧
        .validation (.missingParent station parent) ∈ errors) ↔
      ∃ parentId, LacksParent all raw parentId) ∧
    (¬ Revisits all raw → (∀ parentId, ¬ LacksParent all raw parentId) →
      ∃ chain, ParentChain all raw chain ∧
        raw.resolveControlledBy all =
          .ok (chain.flatMap StationRaw.controlledBy).eraseDups) := by
  obtain ⟨earlier, last, walk, distinct, ended⟩ := ParentWalk.exists_end all raw
  -- whichever way the walk ends, the other two ends would give another result
  have again : Revisits all raw → ∃ chain,
      raw.resolveControlledBy all = .error [.validation (.cycleDetected chain)] := by
    intro revisits
    obtain ⟨_, _, toAgain, nodup, known⟩ := revisits.exists_first
    exact ⟨_, (toAgain.resolve_again nodup known).2⟩
  have lacking : ∀ parentId, LacksParent all raw parentId →
      raw.resolveControlledBy all =
        .error [.validation (.missingParent raw.id.val parentId.val)] := by
    rintro parentId ⟨_, _, toMissing, nodup, names, missing⟩
    exact (toMissing.resolve_missing nodup names missing).2
  rcases ended with known | ⟨isNew, root | ⟨parentId, names, missing⟩⟩
  · have revisits : Revisits all raw :=
      ⟨earlier, last, walk, fun nodup => (nodup_ids_snoc.mp nodup).2 known⟩
    obtain ⟨terminates, resolved⟩ := walk.resolve_again distinct known
    refine ⟨terminates, ⟨fun _ => revisits, fun _ => ⟨_, _, resolved, List.mem_singleton_self _⟩⟩,
      ⟨?_, ?_⟩, fun never => absurd revisits never⟩
    · rintro ⟨errors, station, parent, isError, member⟩
      rw [resolved] at isError
      cases isError
      simp at member
    · rintro ⟨parentId, lacks⟩
      exact ⟨_, _, _, lacking parentId lacks, List.mem_singleton_self _⟩
  · obtain ⟨terminates, resolved⟩ := walk.resolve_root (nodup_ids_snoc.mpr ⟨distinct, isNew⟩) root
    refine ⟨terminates, ⟨?_, ?_⟩, ⟨?_, ?_⟩, fun _ _ => ⟨_, walk.chain root, resolved⟩⟩
    · rintro ⟨errors, chain, isError, -⟩
      rw [resolved] at isError
      cases isError
    · intro revisits
      obtain ⟨chain, isError⟩ := again revisits
      exact ⟨_, chain, isError, List.mem_singleton_self _⟩
    · rintro ⟨errors, station, parent, isError, -⟩
      rw [resolved] at isError
      cases isError
    · rintro ⟨parentId, lacks⟩
      exact ⟨_, _, _, lacking parentId lacks, List.mem_singleton_self _⟩
  · have lacks : LacksParent all raw parentId :=
      ⟨earlier, last, walk, nodup_ids_snoc.mpr ⟨distinct, isNew⟩, names, missing⟩
    obtain ⟨terminates, resolved⟩ :=
      walk.resolve_missing (nodup_ids_snoc.mpr ⟨distinct, isNew⟩) names missing
    refine ⟨terminates, ⟨?_, ?_⟩,
      ⟨fun _ => ⟨parentId, lacks⟩, fun _ => ⟨_, _, _, resolved, List.mem_singleton_self _⟩⟩,
      fun _ complete => absurd lacks (complete parentId)⟩
    · rintro ⟨errors, chain, isError, member⟩
      rw [resolved] at isError
      cases isError
      simp at member
    · intro revisits
      obtain ⟨chain, isError⟩ := again revisits
      exact ⟨_, chain, isError, List.mem_singleton_self _⟩

end Loading

end Vacs
