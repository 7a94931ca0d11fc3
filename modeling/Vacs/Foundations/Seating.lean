import Vacs.Foundations.FiniteMap
import Mathlib.Algebra.Order.BigOperators.Group.Finset

/-!
# Seats that are taken, reserved and wanted

Some keys hold seats, each under a name; some further names have a seat reserved;
and one key, which may hold a seat itself, still wants seats for a set of names.
Its demand counts the other holders, the reservations, one seat for itself, and
one for every wanted name that neither a reservation nor another holder covers.

The demand does not grow when holders leave, reservations lapse or wishes are
given up (`demand_mono`): a name that loses its cover wants a seat again, but the
seat that covered it is free. It bounds what is needed to seat the wanted names
from scratch (`card_lt_demand`), or beside one single other holder
(`card_sdiff_lt_demand`).
-/

set_option autoImplicit false

namespace Seating

variable {K T : Type} [DecidableEq K] [DecidableEq T]

/-- The names under which the given keys hold seats. -/
def namesOf (seated : HashMap K T) (keys : Finset K) : Finset T :=
  keys.biUnion fun key => (seated.lookup key).toFinset

theorem mem_namesOf (seated : HashMap K T) (keys : Finset K) (name : T) :
    name ∈ namesOf seated keys ↔ ∃ key ∈ keys, seated.lookup key = some name := by
  simp [namesOf, Option.mem_def]

theorem card_namesOf_le (seated : HashMap K T) (keys : Finset K) :
    (namesOf seated keys).card ≤ keys.card := by
  have each : ∀ key ∈ keys, (seated.lookup key).toFinset.card ≤ 1 := by
    intro key _
    cases seated.lookup key <;> simp
  exact (Finset.card_biUnion_le_card_mul keys _ 1 each).trans (by rw [Nat.mul_one])

/-- The names under which keys other than `self` hold seats. -/
def carried (self : K) (seated : HashMap K T) : Finset T :=
  namesOf seated (seated.keys.erase self)

theorem mem_carried (self : K) (seated : HashMap K T) (name : T) :
    name ∈ carried self seated ↔ ∃ key, key ≠ self ∧ seated.lookup key = some name := by
  rw [carried, mem_namesOf]
  constructor
  · rintro ⟨key, member, found⟩
    exact ⟨key, Finset.ne_of_mem_erase member, found⟩
  · rintro ⟨key, different, found⟩
    refine ⟨key, Finset.mem_erase.mpr ⟨different, ?_⟩, found⟩
    exact (Finmap.mem_keys_iff_lookup seated key).mpr ⟨name, found⟩

/-- The seats that are needed once every wanted name has one. -/
def demand (self : K) (seated : HashMap K T) (reserved wanted : Finset T) : ℕ :=
  (seated.keys.erase self).card + reserved.card +
    (wanted \ (reserved ∪ carried self seated)).card + 1

/-- Names that lose their cover do not outnumber the holders that left. -/
theorem card_carried_sdiff_le {self : K} {seated fewer : HashMap K T}
    (stays : ∀ key name, fewer.lookup key = some name → seated.lookup key = some name) :
    (carried self seated \ carried self fewer).card + (fewer.keys.erase self).card ≤
      (seated.keys.erase self).card := by
  have keysStay : fewer.keys.erase self ⊆ seated.keys.erase self := by
    intro key member
    obtain ⟨different, member⟩ := Finset.mem_erase.mp member
    obtain ⟨name, found⟩ := (Finmap.mem_keys_iff_lookup fewer key).mp member
    exact Finset.mem_erase.mpr ⟨different,
      (Finmap.mem_keys_iff_lookup seated key).mpr ⟨name, stays key name found⟩⟩
  have uncovered : carried self seated \ carried self fewer ⊆
      namesOf seated (seated.keys.erase self \ fewer.keys.erase self) := by
    intro name member
    obtain ⟨was, isNot⟩ := Finset.mem_sdiff.mp member
    obtain ⟨key, isHolder, found⟩ := (mem_namesOf seated _ name).mp was
    refine (mem_namesOf seated _ name).mpr ⟨key, Finset.mem_sdiff.mpr ⟨isHolder, ?_⟩, found⟩
    intro remains
    obtain ⟨different, remains⟩ := Finset.mem_erase.mp remains
    obtain ⟨other, kept⟩ := (Finmap.mem_keys_iff_lookup fewer key).mp remains
    cases (stays key other kept).symm.trans found
    exact isNot ((mem_carried self fewer name).mpr ⟨key, different, kept⟩)
  have left := Finset.card_sdiff_add_card_eq_card keysStay
  have lost := (Finset.card_le_card uncovered).trans (card_namesOf_le seated _)
  omega

/-- The demand does not grow when holders leave, reservations lapse and wishes are given up. -/
theorem demand_mono {self : K} {seated fewer : HashMap K T} {reserved lapsed wanted wants : Finset T}
    (stays : ∀ key name, fewer.lookup key = some name → seated.lookup key = some name)
    (lapses : lapsed ⊆ reserved) (shrinks : wants ⊆ wanted) :
    demand self fewer lapsed wants ≤ demand self seated reserved wanted := by
  have covered : wants \ (lapsed ∪ carried self fewer) ⊆
      (wanted \ (reserved ∪ carried self seated)) ∪
        ((reserved \ lapsed) ∪ (carried self seated \ carried self fewer)) := by
    intro name member
    have isWanted := @shrinks name
    simp only [Finset.mem_sdiff, Finset.mem_union] at member ⊢
    tauto
  have bound := (Finset.card_le_card covered).trans ((Finset.card_union_le _ _).trans
    (Nat.add_le_add_left (Finset.card_union_le _ _) _))
  have left : (carried self seated \ carried self fewer).card + (fewer.keys.erase self).card ≤
      (seated.keys.erase self).card := card_carried_sdiff_le stays
  have freed := Finset.card_sdiff_add_card_eq_card lapses
  unfold demand
  omega

/-- The wanted names and the key itself fit into the demand. -/
theorem card_lt_demand (self : K) (seated : HashMap K T) (reserved wanted : Finset T) :
    wanted.card + 1 ≤ demand self seated reserved wanted := by
  have less : demand self ∅ ∅ wanted ≤ demand self seated reserved wanted := by
    refine demand_mono ?_ (Finset.empty_subset _) (Finset.Subset.refl _)
    intro key name found
    rw [Finmap.lookup_empty] at found
    cases found
  have none : carried self (∅ : HashMap K T) = ∅ := by
    ext name
    rw [mem_carried]
    simp
  simpa [demand, none] using less

/-- Beside one other holder, the wanted names it does not cover fit into the demand. -/
theorem card_sdiff_lt_demand {self other : K} {seated : HashMap K T} {name : T}
    (different : other ≠ self) (found : seated.lookup other = some name)
    (reserved wanted : Finset T) :
    (wanted \ {name}).card + 2 ≤ demand self seated reserved wanted := by
  have less : demand self (Finmap.insert other name ∅) ∅ wanted ≤
      demand self seated reserved wanted := by
    refine demand_mono ?_ (Finset.empty_subset _) (Finset.Subset.refl _)
    intro key carriedName kept
    rw [Finmap.lookup_insert_eq, Finmap.lookup_empty] at kept
    split at kept
    · rename_i same
      cases kept
      rw [same, found]
    · cases kept
  have one : carried self (Finmap.insert other name (∅ : HashMap K T)) = {name} := by
    ext carriedName
    rw [mem_carried, Finset.mem_singleton]
    constructor
    · rintro ⟨key, _, kept⟩
      rw [Finmap.lookup_insert_eq, Finmap.lookup_empty] at kept
      split at kept
      · exact (Option.some.inj kept).symm
      · cases kept
    · rintro rfl
      exact ⟨other, different, Finmap.lookup_insert _⟩
  have keys : (Finmap.insert other name (∅ : HashMap K T)).keys.erase self = {other} := by
    rw [Finmap.keys_insert_eq, Finmap.keys_empty]
    ext key
    simp only [Finset.mem_erase, Finset.mem_insert, Finset.notMem_empty, or_false,
      Finset.mem_singleton]
    grind
  have counted : demand self (Finmap.insert other name ∅) ∅ wanted =
      1 + 0 + (wanted \ {name}).card + 1 := by
    rw [demand, one, keys, Finset.empty_union, Finset.card_singleton, Finset.card_empty]
  omega

/-- Reserving a seat for a wanted name nobody covers leaves the demand as it is. -/
theorem demand_reserve {self : K} {seated : HashMap K T} {reserved wanted : Finset T} {name : T}
    (isWanted : name ∈ wanted) (free : name ∉ reserved) (unnamed : name ∉ carried self seated) :
    demand self seated (insert name reserved) (wanted.erase name) =
      demand self seated reserved wanted := by
  have still : (wanted.erase name) \ (insert name reserved ∪ carried self seated) =
      (wanted \ (reserved ∪ carried self seated)).erase name := by
    ext other
    simp only [Finset.mem_sdiff, Finset.mem_erase, Finset.mem_union, Finset.mem_insert]
    tauto
  have member : name ∈ wanted \ (reserved ∪ carried self seated) := by
    simp [isWanted, free, unnamed]
  have counted := Finset.card_erase_add_one member
  have added := Finset.card_insert_of_notMem free
  unfold demand
  rw [still, added]
  omega

/-- A reservation that is taken up leaves the demand as it is. -/
theorem demand_seat {self : K} {seated more : HashMap K T} {reserved : Finset T} {name : T}
    {key : K} (isReserved : name ∈ reserved) (outside : seated.lookup key = none)
    (different : key ≠ self)
    (seats : ∀ other, other ≠ self →
      more.lookup other = if other = key then some name else seated.lookup other)
    (wanted : Finset T) :
    demand self more (reserved.erase name) wanted = demand self seated reserved wanted := by
  have keys : more.keys.erase self = insert key (seated.keys.erase self) := by
    ext other
    simp only [Finset.mem_erase, Finset.mem_insert, Finmap.mem_keys_iff_lookup]
    have atOther := seats other
    grind
  have fresh : key ∉ seated.keys.erase self := by
    simp [Finmap.mem_keys, ← Finmap.lookup_eq_none, outside]
  have covers : (reserved.erase name) ∪ carried self more = reserved ∪ carried self seated := by
    ext other
    simp only [Finset.mem_union, Finset.mem_erase, mem_carried]
    constructor
    · rintro (⟨_, isReserved⟩ | ⟨holder, notSelf, found⟩)
      · exact .inl isReserved
      · rw [seats holder notSelf] at found
        split at found
        · cases found
          exact .inl isReserved
        · exact .inr ⟨holder, notSelf, found⟩
    · by_cases same : other = name
      · intro _
        refine .inr ⟨key, different, ?_⟩
        rw [seats key different, if_pos rfl, same]
      · rintro (isReserved | ⟨holder, notSelf, found⟩)
        · exact .inl ⟨same, isReserved⟩
        · refine .inr ⟨holder, notSelf, ?_⟩
          rw [seats holder notSelf, if_neg, found]
          rintro rfl
          cases outside.symm.trans found
  have counted := Finset.card_erase_add_one isReserved
  unfold demand
  rw [keys, covers, Finset.card_insert_of_notMem fresh]
  omega

end Seating
