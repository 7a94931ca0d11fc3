import Mathlib.Data.Finmap
import Mathlib.Data.List.Sort
import Mathlib.Data.Finset.Card

/-!
# Finite maps, their pointwise reading, and iteration orders

Hash maps are read here as Mathlib's finite maps: a map is determined by its
lookup function, so nothing in a model can depend on the layout of a table.
Mathlib gives `lookup`, `insert` and `erase`; this module adds what a program
does to a map beyond that: filtering and rewriting its entries (`filterMap`,
`retain`), asking whether some value satisfies a test (`anyValue`), collecting the
values (`values`), and running a loop that erases or inserts one entry at a time.

A program that walks a hash map sees its entries in an order it cannot predict.
An `Enumeration` is such an order: a list of the elements of every finite set.
A loop over a map is a fold over the list an arbitrary enumeration returns, so a
statement about the fold for every enumeration is a statement about every order.
-/

set_option autoImplicit false

/-- A finite map with values of one type. -/
abbrev HashMap (K V : Type) : Type := Finmap fun _ : K => V

namespace Finmap

variable {K V W : Type} [DecidableEq K]

/-! ## Pointwise reading of the basic operations -/

@[grind =]
theorem lookup_insert_eq (m : HashMap K V) (key other : K) (value : V) :
    (m.insert key value).lookup other = if other = key then some value else m.lookup other := by
  split
  · rename_i same
    subst same
    exact lookup_insert m
  · rename_i different
    exact lookup_insert_of_ne m different

@[grind =]
theorem lookup_erase_eq (m : HashMap K V) (key other : K) :
    (m.erase key).lookup other = if other = key then none else m.lookup other := by
  split
  · rename_i same
    subst same
    exact lookup_erase other m
  · rename_i different
    exact lookup_erase_ne different

theorem erase_eq_self {m : HashMap K V} {key : K} (absent : m.lookup key = none) :
    m.erase key = m := by
  refine ext_lookup fun other => ?_
  rw [lookup_erase_eq]
  split
  · rename_i same
    rw [same, absent]
  · rfl

theorem mem_keys_iff_lookup (m : HashMap K V) (key : K) :
    key ∈ m.keys ↔ ∃ value, m.lookup key = some value := by
  rw [mem_keys, mem_iff]

theorem keys_insert_eq (m : HashMap K V) (key : K) (value : V) :
    (m.insert key value).keys = Insert.insert key m.keys := by
  ext other
  rw [Finset.mem_insert, mem_keys, mem_keys, mem_insert]

theorem keys_eq_empty_iff (m : HashMap K V) : m.keys = ∅ ↔ ∀ key, m.lookup key = none := by
  rw [Finset.eq_empty_iff_forall_notMem]
  exact forall_congr' fun key => by rw [mem_keys, lookup_eq_none]

/-- Whether the map has no entry. -/
def isEmpty (m : HashMap K V) : Bool := decide (m.keys = ∅)

theorem isEmpty_iff (m : HashMap K V) : m.isEmpty = true ↔ ∀ key, m.lookup key = none := by
  rw [isEmpty, decide_eq_true_iff, keys_eq_empty_iff]

theorem isEmpty_eq_false_iff (m : HashMap K V) :
    m.isEmpty = false ↔ ∃ key value, m.lookup key = some value := by
  rw [← Bool.not_eq_true, isEmpty_iff, not_forall]
  exact exists_congr fun key => Option.ne_none_iff_exists'

/-! ## Rewriting and filtering the entries -/

/-- Rewrite every entry, dropping those that are sent to `none`. -/
def filterMap (f : K → V → Option W) (m : HashMap K V) : HashMap K W :=
  keysLookupEquiv.symm
    ⟨(m.keys.filter fun key => ((m.lookup key).bind (f key)).isSome,
      fun key => (m.lookup key).bind (f key)), by
      intro key
      rw [Finset.mem_filter, mem_keys_iff_lookup]
      constructor
      · intro present
        obtain ⟨_, rewritten⟩ := Option.isSome_iff_exists.mp present
        obtain ⟨value, found, _⟩ := Option.bind_eq_some_iff.mp rewritten
        exact ⟨⟨value, found⟩, present⟩
      · exact fun member => member.2⟩

@[simp, grind =]
theorem lookup_filterMap (f : K → V → Option W) (m : HashMap K V) (key : K) :
    (m.filterMap f).lookup key = (m.lookup key).bind (f key) := by
  simp [filterMap]

/-- Keep the entries that satisfy the test. -/
def retain (keep : K → V → Bool) (m : HashMap K V) : HashMap K V :=
  m.filterMap fun key value => if keep key value then some value else none

theorem lookup_retain (keep : K → V → Bool) (m : HashMap K V) (key : K) :
    (m.retain keep).lookup key =
      (m.lookup key).bind fun value => if keep key value then some value else none :=
  lookup_filterMap _ m key

@[grind =]
theorem lookup_retain_eq_some (keep : K → V → Bool) (m : HashMap K V) (key : K) (value : V) :
    (m.retain keep).lookup key = some value ↔ m.lookup key = some value ∧ keep key value = true := by
  rw [lookup_retain, Option.bind_eq_some_iff]
  constructor
  · rintro ⟨found, present, kept⟩
    split at kept
    · rename_i keeps
      cases kept
      exact ⟨present, keeps⟩
    · cases kept
  · rintro ⟨present, keeps⟩
    exact ⟨value, present, by simp [keeps]⟩

/-- Whether some value of the map satisfies the test. -/
def anyValue (test : V → Bool) (m : HashMap K V) : Bool :=
  decide (∃ key ∈ m.keys, (m.lookup key).any test = true)

theorem anyValue_iff (test : V → Bool) (m : HashMap K V) :
    m.anyValue test = true ↔ ∃ key value, m.lookup key = some value ∧ test value = true := by
  rw [anyValue, decide_eq_true_iff]
  constructor
  · rintro ⟨key, _, holds⟩
    obtain ⟨value, found, passes⟩ := (Option.any_eq_true _ _).mp holds
    exact ⟨key, value, found, passes⟩
  · rintro ⟨key, value, found, passes⟩
    exact ⟨key, (mem_keys_iff_lookup m key).mpr ⟨value, found⟩,
      (Option.any_eq_true _ _).mpr ⟨value, found, passes⟩⟩

/-! ## Updates -/

/-- Set the entry of a key, or clear it. -/
def alter (m : HashMap K V) (key : K) : Option V → HashMap K V
  | some value => m.insert key value
  | none => m.erase key

@[grind =]
theorem lookup_alter (m : HashMap K V) (key other : K) (value : Option V) :
    (m.alter key value).lookup other = if other = key then value else m.lookup other := by
  cases value with
  | none => exact lookup_erase_eq m key other
  | some value => exact lookup_insert_eq m key other value

/-- Carry out updates one after the other. -/
def patch (m : HashMap K V) (updates : List (K × Option V)) : HashMap K V :=
  updates.foldl (fun m update => m.alter update.1 update.2) m

/-- The last update of a key. -/
def lastUpdate (updates : List (K × Option V)) (key : K) : Option (Option V) :=
  (updates.reverse.find? fun update => decide (update.1 = key)).map Prod.snd

/-- A patch sets every key to its last update. -/
theorem lookup_patch (m : HashMap K V) (updates : List (K × Option V)) (key : K) :
    (m.patch updates).lookup key = (lastUpdate updates key).getD (m.lookup key) := by
  induction updates using List.reverseRecOn with
  | nil => rfl
  | append_singleton updates update ih =>
      rw [patch, List.foldl_append, List.foldl_cons, List.foldl_nil, lookup_alter, lastUpdate,
        List.reverse_append, List.reverse_singleton, List.singleton_append, List.find?_cons]
      by_cases same : update.1 = key
      · simp [same]
      · rw [if_neg fun isKey => same isKey.symm]
        simp only [same, decide_false]
        exact ih

/-- A patch leaves the keys it does not mention alone. -/
theorem lookup_patch_of_notMem {updates : List (K × Option V)} {key : K}
    (untouched : key ∉ updates.map Prod.fst) (m : HashMap K V) :
    (m.patch updates).lookup key = m.lookup key := by
  induction updates generalizing m with
  | nil => rfl
  | cons update rest ih =>
      rw [List.map_cons, List.mem_cons, not_or] at untouched
      change ((m.alter update.1 update.2).patch rest).lookup key = _
      rw [ih untouched.2, lookup_alter, if_neg untouched.1]

/-- A patch that mentions every key at most once does what it says. -/
theorem lookup_patch_of_mem {updates : List (K × Option V)}
    (nodup : (updates.map Prod.fst).Nodup) {key : K} {value : Option V}
    (listed : (key, value) ∈ updates) (m : HashMap K V) :
    (m.patch updates).lookup key = value := by
  induction updates generalizing m with
  | nil => cases listed
  | cons update rest ih =>
      rw [List.map_cons, List.nodup_cons] at nodup
      change ((m.alter update.1 update.2).patch rest).lookup key = _
      rcases List.mem_cons.mp listed with rfl | listed
      · rw [lookup_patch_of_notMem nodup.1, lookup_alter, if_pos rfl]
      · exact ih nodup.2 listed _

/-! ## Maps from lists -/

/-- Inserting pairs one after the other, when no key occurs with two values. -/
theorem lookup_foldl_insert {pairs : List (K × V)}
    (functional : ∀ key first second, (key, first) ∈ pairs → (key, second) ∈ pairs →
      first = second) (m : HashMap K V) (key : K) (value : V) :
    (pairs.foldl (fun m pair => m.insert pair.1 pair.2) m).lookup key = some value ↔
      (key, value) ∈ pairs ∨ (∀ other, (key, other) ∉ pairs) ∧ m.lookup key = some value := by
  induction pairs generalizing m with
  | nil => simp
  | cons pair rest ih =>
      obtain ⟨head, first⟩ := pair
      have restFunctional : ∀ key first second, (key, first) ∈ rest → (key, second) ∈ rest →
          first = second :=
        fun key first second one two =>
          functional key first second (List.mem_cons_of_mem _ one) (List.mem_cons_of_mem _ two)
      have atHead : ∀ other, (head, other) ∈ rest → other = first :=
        fun other later => functional head other first (List.mem_cons_of_mem _ later)
          (List.mem_cons_self ..)
      rw [List.foldl_cons, ih restFunctional, lookup_insert_eq]
      simp only [List.mem_cons, Prod.mk.injEq, not_or, not_and]
      grind

/-- The items by their keys; of several with one key, the last. -/
def indexBy (key : V → K) (items : List V) : HashMap K V :=
  items.foldl (fun m item => m.insert (key item) item) ∅

theorem key_of_lookup_indexBy (key : V → K) (items : List V) {found : K} {item : V}
    (lookup : (indexBy key items).lookup found = some item) : key item = found := by
  refine List.foldlRecOn
    (motive := fun m : HashMap K V => ∀ found item, m.lookup found = some item → key item = found)
    items _ (fun found item lookup => ?_) (fun m named next _ found item lookup => ?_)
    found item lookup
  · rw [lookup_empty] at lookup
    cases lookup
  · rw [lookup_insert_eq] at lookup
    split at lookup
    · rename_i same
      cases lookup
      exact same.symm
    · exact named found item lookup

theorem indexBy_concat (key : V → K) (items : List V) (item : V) :
    indexBy key (items ++ [item]) = (indexBy key items).insert (key item) item := by
  rw [indexBy, List.foldl_append]
  rfl

theorem mem_indexBy (key : V → K) (items : List V) (wanted : K) :
    wanted ∈ indexBy key items ↔ ∃ item ∈ items, key item = wanted := by
  induction items using List.reverseRecOn with
  | nil => simp [indexBy, mem_iff]
  | append_singleton items item ih =>
      rw [indexBy_concat, mem_insert, ih]
      simp only [List.mem_append, List.mem_singleton, or_and_right, exists_or, exists_eq_left]
      rw [or_comm, eq_comm]

theorem mem_of_lookup_indexBy (key : V → K) (items : List V) {wanted : K} {item : V}
    (lookup : (indexBy key items).lookup wanted = some item) : item ∈ items := by
  induction items using List.reverseRecOn with
  | nil =>
      rw [indexBy, List.foldl_nil, lookup_empty] at lookup
      cases lookup
  | append_singleton items last ih =>
      rw [indexBy_concat, lookup_insert_eq] at lookup
      split at lookup
      · cases lookup
        exact List.mem_append_right _ (List.mem_singleton_self _)
      · exact List.mem_append_left _ (ih lookup)

/-- With distinct keys every item is found under its own. -/
theorem lookup_indexBy_of_nodup (key : V → K) {items : List V} (nodup : (items.map key).Nodup)
    {item : V} (listed : item ∈ items) : (indexBy key items).lookup (key item) = some item := by
  obtain ⟨found, present⟩ := mem_iff.mp ((mem_indexBy key items (key item)).mpr
    ⟨item, listed, rfl⟩)
  have same := key_of_lookup_indexBy key items present
  rw [present, List.inj_on_of_nodup_map nodup listed (mem_of_lookup_indexBy key items present)
    same.symm]

/-! ## The values of a map, with their multiplicities -/

/-- The values of a map, each as often as it is stored. -/
def values (m : HashMap K V) : Multiset V := m.entries.map Sigma.snd

theorem values_insert_of_lookup_eq_none {m : HashMap K V} {key : K}
    (absent : m.lookup key = none) (value : V) :
    (m.insert key value).values = value ::ₘ m.values := by
  rw [values, entries_insert_of_notMem (lookup_eq_none.mp absent), Multiset.map_cons, values]

theorem values_erase_of_lookup_eq_some {m : HashMap K V} {key : K} {value : V}
    (present : m.lookup key = some value) : m.values = value ::ₘ (m.erase key).values := by
  have restored : (m.erase key).insert key value = m := by
    refine ext_lookup fun other => ?_
    rw [lookup_insert_eq, lookup_erase_eq]
    split
    · next same => rw [same, present]
    · rfl
  have absent : (m.erase key).lookup key = none := lookup_erase key m
  rw [← values_insert_of_lookup_eq_none absent value, restored]

theorem values_insert_of_lookup_eq_some {m : HashMap K V} {key : K} {old : V}
    (present : m.lookup key = some old) (value : V) :
    old ::ₘ (m.insert key value).values = value ::ₘ m.values := by
  have absent : (m.erase key).lookup key = none := lookup_erase key m
  have same : m.insert key value = (m.erase key).insert key value := by
    refine ext_lookup fun other => ?_
    rw [lookup_insert_eq, lookup_insert_eq, lookup_erase_eq]
    split
    · rfl
    · rfl
  rw [same, values_insert_of_lookup_eq_none absent value, values_erase_of_lookup_eq_some present,
    Multiset.cons_swap]

end Finmap

/-! ## Iteration orders -/

/-- An order in which the elements of every finite set are visited, each once. -/
structure Enumeration (α : Type) where
  list : Finset α → List α
  mem_list : ∀ (elements : Finset α) (element : α), element ∈ list elements ↔ element ∈ elements
  nodup_list : ∀ elements : Finset α, (list elements).Nodup

attribute [simp, grind =] Enumeration.mem_list

namespace Enumeration

variable {α : Type}

/-- The increasing order of a linear order. -/
def increasing (α : Type) [LinearOrder α] : Enumeration α where
  list elements :=
    Quot.liftOn elements.val (fun items => items.insertionSort (· ≤ ·)) fun first second perm =>
      List.Perm.eq_of_pairwise' (List.pairwise_insertionSort _ first)
        (List.pairwise_insertionSort _ second)
        ((List.perm_insertionSort _ first).trans
          (perm.trans (List.perm_insertionSort _ second).symm))
  mem_list := by
    rintro ⟨⟨items⟩, nodup⟩ element
    exact (List.perm_insertionSort (· ≤ ·) items).mem_iff
  nodup_list := by
    rintro ⟨⟨items⟩, nodup⟩
    exact (List.perm_insertionSort (· ≤ ·) items).nodup_iff.mpr nodup

theorem pairwise_increasing [LinearOrder α] (elements : Finset α) :
    ((increasing α).list elements).Pairwise (· < ·) := by
  have ascending : ((increasing α).list elements).Pairwise (· ≤ ·) := by
    obtain ⟨⟨items⟩, nodup⟩ := elements
    exact List.pairwise_insertionSort (· ≤ ·) items
  exact (ascending.and ((increasing α).nodup_list elements)).imp
    fun both => lt_of_le_of_ne both.1 both.2

/-- A set is walked in the same elements in every order. -/
theorem perm_list (first second : Enumeration α) (elements : Finset α) :
    (first.list elements).Perm (second.list elements) := by
  rw [List.perm_ext_iff_of_nodup (first.nodup_list elements) (second.nodup_list elements)]
  intro element
  rw [first.mem_list, second.mem_list]

/-- A search for an element that is the only one to pass the test finds it in every order. -/
theorem find?_eq (first second : Enumeration α) (elements : Finset α) {test : α → Bool}
    (unique : ∀ one ∈ elements, ∀ two ∈ elements, test one = true → test two = true →
      one = two) :
    (first.list elements).find? test = (second.list elements).find? test := by
  cases found : (second.list elements).find? test with
  | none =>
      rw [List.find?_eq_none] at found ⊢
      intro element member
      rw [first.mem_list] at member
      exact found element ((second.mem_list elements element).mpr member)
  | some element =>
      have member := (second.mem_list elements element).mp (List.mem_of_find?_eq_some found)
      have passes := List.find?_some found
      cases searched : (first.list elements).find? test with
      | none =>
          rw [List.find?_eq_none] at searched
          exact absurd passes (searched element ((first.mem_list elements element).mpr member))
      | some other =>
          have otherMember := (first.mem_list elements other).mp (List.mem_of_find?_eq_some searched)
          rw [unique other otherMember element member (List.find?_some searched) passes]

/-- The same order, backwards. -/
def reversed (order : Enumeration α) : Enumeration α where
  list elements := (order.list elements).reverse
  mem_list elements element := by rw [List.mem_reverse, order.mem_list]
  nodup_list elements := List.nodup_reverse.mpr (order.nodup_list elements)

end Enumeration
