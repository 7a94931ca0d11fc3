import Vacs.Foundations.FiniteMap

/-!
# Tables that are filled with checked items

Items are parsed and entered into a table under their keys. An item whose key is
taken is an error, as is one that cannot be parsed; the others are entered all the
same. The errors of a table that is filled from a list are those of its items in
order.

A table is filled without errors exactly if the keys are new and distinct and every
item can be parsed (`fill_clean_iff`), and then it holds what it held before and
the parsed items (`lookup_fill`).
-/

set_option autoImplicit false

namespace CheckedTables

/-- How items are entered into a table. -/
structure Entering (K Raw V E : Type) where
  key : Raw → K
  duplicate : Raw → E
  parse : Raw → Except (List E) V

variable {K Raw V E : Type} [DecidableEq K]

/-- A refused item has an error. -/
def Entering.Reports (entering : Entering K Raw V E) : Prop :=
  ∀ raw errors, entering.parse raw = .error errors → errors ≠ []

/-- Enter one item; the result is the table and the errors. -/
def enter (entering : Entering K Raw V E) (table : HashMap K V) (raw : Raw) :
    HashMap K V × List E :=
  if (table.lookup (entering.key raw)).isSome then (table, [entering.duplicate raw])
  else
    match entering.parse raw with
    | .ok value => (table.insert (entering.key raw) value, [])
    | .error errors => (table, errors)

/-- Enter the items of a list. -/
def fill (entering : Entering K Raw V E) : HashMap K V → List Raw → HashMap K V × List E
  | table, [] => (table, [])
  | table, raw :: raws =>
      let first := enter entering table raw
      let rest := fill entering first.1 raws
      (rest.1, first.2 ++ rest.2)

variable {entering : Entering K Raw V E}

/-- An item is entered without error if its key is new and it can be parsed. -/
theorem enter_clean_iff (reports : entering.Reports) (table : HashMap K V) (raw : Raw) :
    (enter entering table raw).2 = [] ↔
      table.lookup (entering.key raw) = none ∧ ∃ value, entering.parse raw = .ok value := by
  unfold enter
  cases taken : table.lookup (entering.key raw) with
  | some value => simp
  | none =>
      simp only [Option.isSome_none, Bool.false_eq_true, if_false, true_and]
      cases parsed : entering.parse raw with
      | ok value => simp
      | error errors => simpa using reports raw errors parsed

theorem enter_of_clean (reports : entering.Reports) {table : HashMap K V} {raw : Raw}
    (clean : (enter entering table raw).2 = []) :
    ∃ value, entering.parse raw = .ok value ∧
      (enter entering table raw).1 = table.insert (entering.key raw) value := by
  obtain ⟨isNew, value, parsed⟩ := (enter_clean_iff reports table raw).mp clean
  refine ⟨value, parsed, ?_⟩
  unfold enter
  rw [isNew, parsed]
  rfl

theorem fill_append (table : HashMap K V) (first second : List Raw) :
    fill entering table (first ++ second) =
      ((fill entering (fill entering table first).1 second).1,
        (fill entering table first).2 ++
          (fill entering (fill entering table first).1 second).2) := by
  induction first generalizing table with
  | nil => rfl
  | cons raw first ih =>
      rw [List.cons_append, fill, ih]
      simp only [fill, List.append_assoc]

theorem fill_clean_iff (reports : entering.Reports) (table : HashMap K V) (raws : List Raw) :
    (fill entering table raws).2 = [] ↔
      (raws.map entering.key).Nodup ∧
        (∀ raw ∈ raws, table.lookup (entering.key raw) = none) ∧
          ∀ raw ∈ raws, ∃ value, entering.parse raw = .ok value := by
  induction raws generalizing table with
  | nil => simp [fill]
  | cons raw raws ih =>
      simp only [fill, List.append_eq_nil_iff, List.map_cons, List.nodup_cons,
        List.forall_mem_cons]
      constructor
      · rintro ⟨first, rest⟩
        obtain ⟨isNew, parses⟩ := (enter_clean_iff reports table raw).mp first
        obtain ⟨value, parsed, entered⟩ := enter_of_clean reports first
        rw [entered] at rest
        obtain ⟨nodup, fresh, parsable⟩ := (ih _).mp rest
        have apart : ∀ other ∈ raws, entering.key other ≠ entering.key raw := by
          intro other member same
          have taken := fresh other member
          rw [Finmap.lookup_insert_eq, if_pos same] at taken
          cases taken
        refine ⟨⟨?_, nodup⟩, ⟨isNew, ?_⟩, parses, parsable⟩
        · rintro listed
          obtain ⟨other, member, same⟩ := List.mem_map.mp listed
          exact apart other member same
        · intro other member
          have absent := fresh other member
          rwa [Finmap.lookup_insert_eq, if_neg (apart other member)] at absent
      · rintro ⟨⟨apart, nodup⟩, ⟨isNew, fresh⟩, parses, parsable⟩
        have first := (enter_clean_iff reports table raw).mpr ⟨isNew, parses⟩
        obtain ⟨value, parsed, entered⟩ := enter_of_clean reports first
        refine ⟨first, ?_⟩
        rw [entered]
        refine (ih _).mpr ⟨nodup, ?_, parsable⟩
        intro other member
        have different : entering.key other ≠ entering.key raw := by
          intro same
          exact apart (List.mem_map.mpr ⟨other, member, same⟩)
        rw [Finmap.lookup_insert_eq, if_neg different]
        exact fresh other member

/-- A table that is filled without errors holds the parsed items. -/
theorem lookup_fill (reports : entering.Reports) {table : HashMap K V} {raws : List Raw}
    (clean : (fill entering table raws).2 = []) (key : K) (value : V) :
    (fill entering table raws).1.lookup key = some value ↔
      table.lookup key = some value ∨
        ∃ raw ∈ raws, entering.key raw = key ∧ entering.parse raw = .ok value := by
  induction raws generalizing table with
  | nil => simp [fill]
  | cons raw raws ih =>
      simp only [fill, List.append_eq_nil_iff] at clean ⊢
      obtain ⟨isNew, _⟩ := (enter_clean_iff reports table raw).mp clean.1
      obtain ⟨entry, parsed, entered⟩ := enter_of_clean reports clean.1
      rw [ih clean.2, entered, Finmap.lookup_insert_eq, List.exists_mem_cons_iff]
      by_cases same : key = entering.key raw
      · subst same
        rw [if_pos rfl, isNew, parsed]
        simp
      · rw [if_neg same]
        have other : ¬ (entering.key raw = key ∧ entering.parse raw = .ok value) :=
          fun both => same both.1.symm
        simp [other]

/-- Every item of a table that is filled without errors is found under its key. -/
theorem lookup_fill_key (reports : entering.Reports) {table : HashMap K V} {raws : List Raw}
    (clean : (fill entering table raws).2 = []) {raw : Raw} (member : raw ∈ raws) :
    ∃ value, entering.parse raw = .ok value ∧
      (fill entering table raws).1.lookup (entering.key raw) = some value := by
  obtain ⟨_, _, parses⟩ := (fill_clean_iff reports table raws).mp clean
  obtain ⟨value, parsed⟩ := parses raw member
  exact ⟨value, parsed, (lookup_fill reports clean _ _).mpr (.inr ⟨raw, member, rfl, parsed⟩)⟩

end CheckedTables
