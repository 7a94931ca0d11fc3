import Mathlib.Data.List.Nodup

/-!
# Lists of records with a key

A list of records that carry a key represents the map from a key to the first
record with it. The usual ways of changing such a list are read as changes of that
map: appending a record of a new key, changing the first record of a key in place,
and dropping all records of a key.
-/

set_option autoImplicit false

namespace KeyedLists

variable {Record Key : Type} [DecidableEq Key] (key : Record → Key)

/-- The first record of a key. -/
def findKey (records : List Record) (wanted : Key) : Option Record :=
  records.find? fun record => decide (key record = wanted)

/-- No key is carried twice. -/
def Distinct (records : List Record) : Prop := (records.map key).Nodup

instance (records : List Record) : Decidable (Distinct key records) :=
  inferInstanceAs (Decidable (records.map key).Nodup)

/-- Change the first record of a key in place. -/
def updateFirst (wanted : Key) (update : Record → Record) : List Record → List Record
  | [] => []
  | record :: records =>
      if key record = wanted then update record :: records
      else record :: updateFirst wanted update records

/-- Drop all records of a key. -/
def remove (records : List Record) (unwanted : Key) : List Record :=
  records.filter fun record => decide (key record ≠ unwanted)

variable {key}

theorem findKey_cons (record : Record) (records : List Record) (wanted : Key) :
    findKey key (record :: records) wanted =
      if key record = wanted then some record else findKey key records wanted := by
  unfold findKey
  by_cases same : key record = wanted
  · simp [same]
  · simp [same]

theorem findKey_eq_none_iff {records : List Record} {wanted : Key} :
    findKey key records wanted = none ↔ wanted ∉ records.map key := by
  simp [findKey, List.find?_eq_none]

/-! ## Appending -/

theorem findKey_append_new {records : List Record} {record : Record}
    (isNew : key record ∉ records.map key) (wanted : Key) :
    findKey key (records ++ [record]) wanted =
      if key record = wanted then some record else findKey key records wanted := by
  induction records with
  | nil => exact findKey_cons record [] wanted
  | cons first records ih =>
      simp only [List.map_cons, List.mem_cons, not_or] at isNew
      rw [List.cons_append, findKey_cons, findKey_cons, ih isNew.2]
      by_cases isFirst : key first = wanted
      · subst isFirst
        simp [isNew.1]
      · simp [isFirst]

omit [DecidableEq Key] in
theorem Distinct.append_new {records : List Record} {record : Record}
    (distinct : Distinct key records) (isNew : key record ∉ records.map key) :
    Distinct key (records ++ [record]) := by
  unfold Distinct
  rw [List.map_append, List.map_singleton, List.nodup_append]
  refine ⟨distinct, List.nodup_singleton _, ?_⟩
  intro known isKnown new isNewOne same
  rw [List.mem_singleton.mp isNewOne] at same
  exact isNew (same ▸ isKnown)

/-! ## Changing in place -/

theorem map_updateFirst {wanted : Key} {update : Record → Record}
    (keeps : ∀ record, key record = wanted → key (update record) = wanted)
    (records : List Record) :
    (updateFirst key wanted update records).map key = records.map key := by
  induction records with
  | nil => rfl
  | cons record records ih =>
      unfold updateFirst
      split
      case isTrue same => rw [List.map_cons, List.map_cons, keeps record same, same]
      case isFalse => rw [List.map_cons, List.map_cons, ih]

theorem findKey_updateFirst {changed : Key} {update : Record → Record}
    (keeps : ∀ record, key record = changed → key (update record) = changed)
    (records : List Record) (wanted : Key) :
    findKey key (updateFirst key changed update records) wanted =
      if changed = wanted then (findKey key records wanted).map update
      else findKey key records wanted := by
  induction records with
  | nil => simp [updateFirst, findKey]
  | cons record records ih =>
      unfold updateFirst
      split
      case isTrue same =>
        rw [findKey_cons, findKey_cons, keeps record same, same]
        by_cases isWanted : changed = wanted <;> simp [isWanted]
      case isFalse differs =>
        rw [findKey_cons, findKey_cons, ih]
        by_cases isWanted : changed = wanted
        · subst isWanted
          simp [differs]
        · simp [isWanted]

/-! ## Dropping -/

theorem findKey_remove (records : List Record) (unwanted wanted : Key) :
    findKey key (remove key records unwanted) wanted =
      if unwanted = wanted then none else findKey key records wanted := by
  induction records with
  | nil => simp [remove, findKey]
  | cons record records ih =>
      unfold remove at ih ⊢
      rw [List.filter_cons]
      by_cases dropped : key record = unwanted
      · subst dropped
        simp only [ne_eq, not_true_eq_false, decide_false, Bool.false_eq_true, if_false]
        rw [ih, findKey_cons]
        by_cases same : key record = wanted <;> simp [same]
      · simp only [ne_eq, dropped, not_false_eq_true, decide_true, if_true]
        rw [findKey_cons, findKey_cons, ih]
        by_cases same : key record = wanted
        · subst same
          simp [Ne.symm dropped]
        · simp [same]

theorem Distinct.remove {records : List Record} (distinct : Distinct key records)
    (unwanted : Key) : Distinct key (remove key records unwanted) :=
  List.Nodup.sublist (List.filter_sublist.map key) distinct

theorem notMem_remove (records : List Record) (unwanted : Key) :
    unwanted ∉ (remove key records unwanted).map key := by
  rw [← findKey_eq_none_iff, findKey_remove, if_pos rfl]

end KeyedLists
