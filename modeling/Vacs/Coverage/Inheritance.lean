import Vacs.Coverage.Loading

/-!
# Inherited positions

A station is controlled by the positions it lists, then by those its parent lists,
and so on up to a station without a parent. The loop that collects them lists a
position once (`nodup_of_resolveControlledBy`), and it succeeds for a station whose
parents end (`resolveControlledBy_of_chain`).

The loop of the model is bounded by the number of stations. `Vacs.Coverage.ParentWalks`
shows that the unbounded loop ends in the same state.
-/

set_option autoImplicit false

namespace Vacs

namespace Loading

/-! ## Seen positions -/

/-- The positions collected so far are those seen, each once. -/
structure Resolving.Tidy (resolving : Resolving) : Prop where
  nodup : resolving.controlledBy.Nodup
  seen : ∀ position, position ∈ resolving.controlledBy ↔ position ∈ resolving.seen

namespace Resolving

theorem extend_cons (resolving : Resolving) (position : PositionId)
    (positions : List PositionId) :
    resolving.extend (position :: positions) =
      (if position ∈ resolving.seen then resolving
      else
        { resolving with
          controlledBy := resolving.controlledBy ++ [position]
          seen := insert position resolving.seen }).extend positions :=
  rfl

/-- Extending concerns the positions only. -/
theorem extend_frame (resolving : Resolving) (positions : List PositionId) :
    (resolving.extend positions).visited = resolving.visited ∧
      (resolving.extend positions).order = resolving.order ∧
        (resolving.extend positions).errors = resolving.errors := by
  induction positions generalizing resolving with
  | nil => exact ⟨rfl, rfl, rfl⟩
  | cons position positions ih =>
      rw [extend_cons]
      split
      · exact ih resolving
      · exact ih _

theorem mem_seen_extend (resolving : Resolving) (positions : List PositionId)
    (wanted : PositionId) :
    wanted ∈ (resolving.extend positions).seen ↔ wanted ∈ resolving.seen ∨ wanted ∈ positions := by
  induction positions generalizing resolving with
  | nil => simp [extend]
  | cons position positions ih =>
      rw [extend_cons, ih]
      split
      · rename_i known
        rw [List.mem_cons]
        constructor
        · rintro (seen | later)
          · exact .inl seen
          · exact .inr (.inr later)
        · rintro (seen | rfl | later)
          · exact .inl seen
          · exact .inl known
          · exact .inr later
      · simp only [Finset.mem_insert, List.mem_cons]
        constructor
        · rintro ((same | seen) | later)
          · exact .inr (.inl same)
          · exact .inl seen
          · exact .inr (.inr later)
        · rintro (seen | same | later)
          · exact .inl (.inr seen)
          · exact .inl (.inl same)
          · exact .inr later

theorem Tidy.extend {resolving : Resolving} (tidy : resolving.Tidy)
    (positions : List PositionId) : (resolving.extend positions).Tidy := by
  induction positions generalizing resolving with
  | nil => exact tidy
  | cons position positions ih =>
      rw [extend_cons]
      split
      · exact ih tidy
      · rename_i isNew
        apply ih
        refine ⟨?_, ?_⟩
        · refine List.nodup_append.mpr ⟨tidy.nodup, List.nodup_singleton _, ?_⟩
          intro first listed second same
          rw [List.mem_singleton] at same
          subst same
          rintro rfl
          exact isNew ((tidy.seen _).mp listed)
        · intro wanted
          simp only [List.mem_append, List.mem_singleton, Finset.mem_insert, tidy.seen]
          exact or_comm

end Resolving

/-- The state after a station was visited. -/
def visit (resolving : Resolving) (station : StationRaw) : Resolving :=
  { resolving with
    visited := insert station.id resolving.visited
    order := resolving.order ++ [station.id.val] }.extend station.controlledBy

theorem Resolving.Tidy.visit {resolving : Resolving} (tidy : resolving.Tidy)
    (station : StationRaw) : (visit resolving station).Tidy := by
  have marked : Tidy
      { resolving with
        visited := insert station.id resolving.visited
        order := resolving.order ++ [station.id.val] } := ⟨tidy.nodup, tidy.seen⟩
  exact marked.extend station.controlledBy

theorem visited_visit (resolving : Resolving) (station : StationRaw) :
    (visit resolving station).visited = insert station.id resolving.visited :=
  (Resolving.extend_frame _ _).1

theorem errors_visit (resolving : Resolving) (station : StationRaw) :
    (visit resolving station).errors = resolving.errors :=
  (Resolving.extend_frame _ _).2.2

theorem mem_seen_visit (resolving : Resolving) (station : StationRaw) (position : PositionId) :
    position ∈ (visit resolving station).seen ↔
      position ∈ resolving.seen ∨ position ∈ station.controlledBy :=
  Resolving.mem_seen_extend _ _ _

/-! ## The loop -/

section Loop

variable {all : StationTable} {own : StationRaw}

@[simp] theorem resolveFrom_none (fuel : ℕ) (resolving : Resolving) :
    resolveFrom all own fuel none resolving = resolving := by
  cases fuel <;> rfl

theorem resolveFrom_visited {station : StationRaw} {resolving : Resolving} (fuel : ℕ)
    (again : station.id ∈ resolving.visited) :
    resolveFrom all own (fuel + 1) (some station) resolving =
      { resolving with
        errors := resolving.errors ++
          [.validation (.cycleDetected (resolving.order ++ [station.id.val]))] } := by
  rw [resolveFrom, if_pos again]

theorem resolveFrom_root {station : StationRaw} {resolving : Resolving} (fuel : ℕ)
    (isNew : station.id ∉ resolving.visited) (root : station.parentId = none) :
    resolveFrom all own (fuel + 1) (some station) resolving = visit resolving station := by
  rw [resolveFrom, if_neg isNew, root]
  exact resolveFrom_none fuel _

theorem resolveFrom_missing {station : StationRaw} {resolving : Resolving} {parentId : StationId}
    (fuel : ℕ) (isNew : station.id ∉ resolving.visited)
    (names : station.parentId = some parentId) (missing : all.lookup parentId = none) :
    resolveFrom all own (fuel + 1) (some station) resolving =
      { visit resolving station with
        errors := (visit resolving station).errors ++
          [.validation (.missingParent own.id.val parentId.val)] } := by
  rw [resolveFrom, if_neg isNew, names]
  simp only [missing, resolveFrom_none]
  rfl

theorem resolveFrom_parent {station parent : StationRaw} {resolving : Resolving}
    {parentId : StationId} (fuel : ℕ) (isNew : station.id ∉ resolving.visited)
    (names : station.parentId = some parentId) (found : all.lookup parentId = some parent) :
    resolveFrom all own (fuel + 1) (some station) resolving =
      resolveFrom all own fuel (some parent) (visit resolving station) := by
  rw [resolveFrom, if_neg isNew, names]
  simp only [found]
  rfl

/-- What a station does in the loop. -/
theorem resolveFrom_cases (all : StationTable) (station : StationRaw) (resolving : Resolving) :
    station.id ∈ resolving.visited ∨
      station.id ∉ resolving.visited ∧
        (station.parentId = none ∨
          ∃ parentId, station.parentId = some parentId ∧
            (all.lookup parentId = none ∨ ∃ parent, all.lookup parentId = some parent)) := by
  by_cases again : station.id ∈ resolving.visited
  · exact .inl again
  · right
    refine ⟨again, ?_⟩
    cases names : station.parentId with
    | none => exact .inl rfl
    | some parentId =>
        right
        refine ⟨parentId, rfl, ?_⟩
        cases found : all.lookup parentId with
        | none => exact .inl rfl
        | some parent => exact .inr ⟨parent, rfl⟩

theorem Resolving.Tidy.resolveFrom {resolving : Resolving} (tidy : resolving.Tidy)
    (all : StationTable) (own : StationRaw) (fuel : ℕ) (current : Option StationRaw) :
    (resolveFrom all own fuel current resolving).Tidy := by
  induction fuel generalizing current resolving with
  | zero => exact tidy
  | succ fuel ih =>
      cases current with
      | none => exact tidy
      | some station =>
          rcases resolveFrom_cases all station resolving with
            again | ⟨isNew, root | ⟨parentId, names, missing | ⟨parent, found⟩⟩⟩
          · rw [resolveFrom_visited fuel again]
            exact ⟨tidy.nodup, tidy.seen⟩
          · rw [resolveFrom_root fuel isNew root]
            exact tidy.visit station
          · rw [resolveFrom_missing fuel isNew names missing]
            exact ⟨(tidy.visit station).nodup, (tidy.visit station).seen⟩
          · rw [resolveFrom_parent fuel isNew names found]
            exact ih (tidy.visit station) (some parent)

end Loop

/-- The positions of a station are listed once. -/
theorem nodup_of_resolveControlledBy {all : StationTable} {raw : StationRaw}
    {positions : List PositionId} (resolved : raw.resolveControlledBy all = .ok positions) :
    positions.Nodup := by
  have start : ({} : Resolving).Tidy := ⟨List.nodup_nil, by simp⟩
  unfold StationRaw.resolveControlledBy at resolved
  simp only at resolved
  split at resolved
  · cases resolved
    exact (start.resolveFrom _ _ _ _).nodup
  · cases resolved

/-! ## Chains of parents -/

/-- The station and its parents up to a station without one. A station that is its own ancestor has
no such chain, nor has one whose parents do not all exist. -/
inductive ParentChain (all : StationTable) : StationRaw → List StationRaw → Prop where
  | root {station : StationRaw} (ends : station.parentId = none) :
      ParentChain all station [station]
  | parent {station parent : StationRaw} {parentId : StationId} {chain : List StationRaw}
      (names : station.parentId = some parentId) (found : all.lookup parentId = some parent)
      (rest : ParentChain all parent chain) : ParentChain all station (station :: chain)

section Chains

variable {all : StationTable}

theorem ParentChain.unique {station : StationRaw} {first second : List StationRaw}
    (one : ParentChain all station first) (two : ParentChain all station second) :
    first = second := by
  induction one generalizing second with
  | root ends =>
      cases two with
      | root _ => rfl
      | parent names _ _ =>
          rw [ends] at names
          cases names
  | parent names found _ ih =>
      cases two with
      | root ends =>
          rw [names] at ends
          cases ends
      | parent namesToo foundToo rest =>
          rw [names] at namesToo
          cases namesToo
          rw [found] at foundToo
          cases foundToo
          rw [ih rest]

/-- From a station of a chain on, the rest is its own chain. -/
theorem ParentChain.suffix {station member : StationRaw} {chain : List StationRaw}
    (isChain : ParentChain all station chain) (listed : member ∈ chain) :
    ∃ rest, ParentChain all member rest ∧ rest.length ≤ chain.length := by
  induction isChain with
  | root ends =>
      obtain rfl := List.mem_singleton.mp listed
      exact ⟨_, .root ends, Nat.le_refl _⟩
  | @parent station parent parentId chain names found rest ih =>
      rcases List.mem_cons.mp listed with rfl | later
      · exact ⟨_, .parent names found rest, Nat.le_refl _⟩
      · obtain ⟨suffix, isSuffix, short⟩ := ih later
        exact ⟨suffix, isSuffix, Nat.le_succ_of_le short⟩

/-- The stations of a chain are in the table, if the first is. -/
theorem ParentChain.lookup {station : StationRaw} {chain : List StationRaw}
    (isChain : ParentChain all station chain) (known : all.lookup station.id = some station)
    (keyed : ∀ key entry, all.lookup key = some entry → entry.id = key) :
    ∀ member ∈ chain, all.lookup member.id = some member := by
  induction isChain with
  | root _ =>
      intro member listed
      obtain rfl := List.mem_singleton.mp listed
      exact known
  | @parent station parent parentId chain names found rest ih =>
      intro member listed
      rcases List.mem_cons.mp listed with rfl | later
      · exact known
      · refine ih ?_ member later
        rw [keyed parentId parent found]
        exact found

/-- No station occurs twice in a chain. -/
theorem ParentChain.nodup {station : StationRaw} {chain : List StationRaw}
    (isChain : ParentChain all station chain) (known : all.lookup station.id = some station)
    (keyed : ∀ key entry, all.lookup key = some entry → entry.id = key) :
    (chain.map StationRaw.id).Nodup := by
  induction isChain with
  | root _ => exact List.nodup_singleton _
  | @parent station parent parentId chain names found rest ih =>
      have parentKnown : all.lookup parent.id = some parent := by
        rw [keyed parentId parent found]
        exact found
      rw [List.map_cons, List.nodup_cons]
      refine ⟨?_, ih parentKnown⟩
      intro listed
      obtain ⟨member, later, same⟩ := List.mem_map.mp listed
      have isStation : member = station := by
        have foundMember := rest.lookup parentKnown keyed member later
        rw [same, known] at foundMember
        exact (Option.some.inj foundMember).symm
      subst isStation
      -- the station would have a chain that is shorter than its own
      obtain ⟨suffix, isSuffix, short⟩ := rest.suffix later
      have longer := congrArg List.length
        (isSuffix.unique (ParentChain.parent names found rest))
      rw [List.length_cons] at longer
      omega

/-- The loop follows a chain, and collects the positions that its stations list. -/
theorem ParentChain.resolveFrom (own : StationRaw) {station : StationRaw}
    {chain : List StationRaw} (isChain : ParentChain all station chain)
    (nodup : (chain.map StationRaw.id).Nodup) (resolving : Resolving)
    (fresh : ∀ member ∈ chain, member.id ∉ resolving.visited) (fuel : ℕ)
    (enough : chain.length ≤ fuel) :
    (Loading.resolveFrom all own fuel (some station) resolving).errors = resolving.errors ∧
      ∀ position, position ∈ (Loading.resolveFrom all own fuel (some station) resolving).seen ↔
        position ∈ resolving.seen ∨ ∃ member ∈ chain, position ∈ member.controlledBy := by
  induction isChain generalizing resolving fuel with
  | @root station ends =>
      obtain ⟨fuel, rfl⟩ := Nat.exists_eq_add_of_le' (Nat.le_trans (Nat.le_refl 1) enough)
      rw [resolveFrom_root fuel (fresh station (List.mem_singleton_self _)) ends]
      refine ⟨errors_visit _ _, ?_⟩
      intro position
      rw [mem_seen_visit]
      simp
  | @parent station parent parentId chain names found rest ih =>
      rw [List.length_cons] at enough
      obtain ⟨fuel, rfl⟩ := Nat.exists_eq_add_of_le' (Nat.le_trans (Nat.le_add_left 1 _) enough)
      rw [List.map_cons, List.nodup_cons] at nodup
      have isNew : station.id ∉ resolving.visited := fresh station (List.mem_cons_self ..)
      have freshRest : ∀ member ∈ chain, member.id ∉ (visit resolving station).visited := by
        intro member later
        rw [visited_visit, Finset.mem_insert, not_or]
        refine ⟨?_, fresh member (List.mem_cons_of_mem _ later)⟩
        intro same
        exact nodup.1 (List.mem_map.mpr ⟨member, later, same⟩)
      obtain ⟨errors, seen⟩ := ih nodup.2 _ freshRest fuel (by omega)
      rw [resolveFrom_parent fuel isNew names found]
      refine ⟨errors.trans (errors_visit _ _), ?_⟩
      intro position
      rw [seen, mem_seen_visit, List.exists_mem_cons_iff, or_assoc]

/-- A station whose parents end is resolved to the positions its chain lists. -/
theorem resolveControlledBy_of_chain {raw : StationRaw} {chain : List StationRaw}
    (isChain : ParentChain all raw chain) (known : all.lookup raw.id = some raw)
    (keyed : ∀ key entry, all.lookup key = some entry → entry.id = key) :
    ∃ positions, raw.resolveControlledBy all = .ok positions ∧
      ∀ position, position ∈ positions ↔ ∃ member ∈ chain, position ∈ member.controlledBy := by
  have nodup := isChain.nodup known keyed
  have short : chain.length ≤ all.keys.card := by
    have listed : (chain.map StationRaw.id).toFinset ⊆ all.keys := by
      intro id member
      obtain ⟨station, inChain, rfl⟩ := List.mem_map.mp (List.mem_toFinset.mp member)
      exact (Finmap.mem_keys_iff_lookup _ _).mpr ⟨station, isChain.lookup known keyed _ inChain⟩
    have fewer := Finset.card_le_card listed
    rwa [List.toFinset_card_of_nodup nodup, List.length_map] at fewer
  obtain ⟨errors, seen⟩ := isChain.resolveFrom raw nodup {}
    (fun _ _ => Finset.notMem_empty _) (all.keys.card + 2) (by omega)
  have start : ({} : Resolving).Tidy := ⟨List.nodup_nil, by simp⟩
  have tidy := start.resolveFrom all raw (all.keys.card + 2) (some raw)
  refine ⟨_, if_pos errors, ?_⟩
  intro position
  rw [tidy.seen, seen]
  simp

end Chains

end Loading

end Vacs
