import Mathlib.Data.List.Nodup
import Mathlib.Data.String.Basic

/-!
# JSON as it is written, and as it is kept

A text in JSON can give several members of one object the same name. Who keeps the text as a
value keeps one of them, the last, and the members in the order of their names
(`Json.toValue`). A value kept so no longer changes (`Json.Sorted.toValue`).

A text in which no two members of an object share a name (`Json.Distinct`) loses nothing but
the order of its members.
-/

set_option autoImplicit false

namespace Vacs

inductive Json where
  | null
  | bool (value : Bool)
  | integer (value : ℤ)
  | double (bits : BitVec 64)
  | string (text : String)
  | array (items : List Json)
  | object (members : List (String × Json))

abbrev Members : Type := List (String × Json)

namespace Json

/-! ## The members of a name -/

/-- The values of all members of a name. -/
def named (name : String) (members : Members) : List Json :=
  (members.filter fun member => member.1 = name).map Prod.snd

theorem named_append (name : String) (first second : Members) :
    named name (first ++ second) = named name first ++ named name second := by
  rw [named, List.filter_append, List.map_append, named, named]

theorem named_eq_nil_iff {name : String} {members : Members} :
    named name members = [] ↔ ∀ member ∈ members, member.1 ≠ name := by
  simp only [named, List.map_eq_nil_iff, List.filter_eq_nil_iff, decide_eq_true_eq, ne_eq]

theorem named_eq_nil {name : String} {members : Members}
    (absent : ∀ member ∈ members, member.1 ≠ name) : named name members = [] :=
  named_eq_nil_iff.mpr absent

theorem named_singleton (name : String) (value : Json) : named name [(name, value)] = [value] := by
  rw [named, List.filter_singleton, decide_eq_true rfl]
  rfl

theorem named_cons_self (name : String) (value : Json) (members : Members) :
    named name ((name, value) :: members) = value :: named name members := by
  rw [← List.singleton_append, named_append, named_singleton, List.singleton_append]

theorem named_cons_of_ne {name : String} {member : String × Json} (other : member.1 ≠ name)
    (members : Members) : named name (member :: members) = named name members := by
  have skipped : named name [member] = [] :=
    named_eq_nil fun held isThere => List.mem_singleton.mp isThere ▸ other
  rw [← List.singleton_append, named_append, skipped, List.nil_append]

theorem mem_named {name : String} {members : Members} {value : Json}
    (isNamed : value ∈ named name members) : (name, value) ∈ members := by
  obtain ⟨member, isThere, rfl⟩ := List.mem_map.mp isNamed
  obtain ⟨isMember, same⟩ := List.mem_filter.mp isThere
  cases of_decide_eq_true same
  exact isMember

/-! ## What is kept -/

/-- A member in front of others, in the order of names. One of the same name comes later, and
stays. -/
def addMember (name : String) (value : Json) : Members → Members
  | [] => [(name, value)]
  | member :: later =>
      if name < member.1 then (name, value) :: member :: later
      else if name = member.1 then member :: later
      else member :: addMember name value later

mutual

/-- The value that is kept of a text. -/
def toValue : Json → Json
  | .array items => .array (itemValues items)
  | .object members => .object (memberValues members)
  | json => json

def itemValues : List Json → List Json
  | [] => []
  | item :: items => item.toValue :: itemValues items

def memberValues : Members → Members
  | [] => []
  | (name, value) :: members => addMember name value.toValue (memberValues members)

end

theorem itemValues_eq_map (items : List Json) : itemValues items = items.map toValue := by
  induction items with
  | nil => rfl
  | cons item items ih => rw [itemValues, ih, List.map_cons]

theorem mem_addMember {name : String} {value : Json} {members : Members} {member : String × Json}
    (isThere : member ∈ addMember name value members) :
    member = (name, value) ∨ member ∈ members := by
  induction members with
  | nil => exact .inl (List.mem_singleton.mp isThere)
  | cons first later ih =>
      rw [addMember] at isThere
      split_ifs at isThere with before same
      · exact List.mem_cons.mp isThere
      · exact .inr isThere
      · rcases List.mem_cons.mp isThere with rfl | isLater
        · exact .inr List.mem_cons_self
        · exact (ih isLater).imp_right (List.mem_cons_of_mem _)

theorem mem_memberValues {members : Members} {member : String × Json}
    (isThere : member ∈ memberValues members) :
    ∃ value, (member.1, value) ∈ members ∧ member.2 = value.toValue := by
  induction members with
  | nil => exact absurd isThere List.not_mem_nil
  | cons first members ih =>
      rcases mem_addMember isThere with rfl | isLater
      · exact ⟨first.2, List.mem_cons_self, rfl⟩
      · obtain ⟨value, isValue, kept⟩ := ih isLater
        exact ⟨value, List.mem_cons_of_mem _ isValue, kept⟩

/-! ## Values in order -/

/-- No name occurs twice in an object, and the members stand in the order of their names. -/
inductive Sorted : Json → Prop
  | null : Sorted .null
  | bool (value : Bool) : Sorted (.bool value)
  | integer (value : ℤ) : Sorted (.integer value)
  | double (bits : BitVec 64) : Sorted (.double bits)
  | string (text : String) : Sorted (.string text)
  | array {items : List Json} (sorted : ∀ item ∈ items, Sorted item) : Sorted (.array items)
  | object {members : Members}
      (ordered : members.Pairwise fun first second => first.1 < second.1)
      (sorted : ∀ member ∈ members, Sorted member.2) : Sorted (.object members)

theorem addMember_ordered (name : String) (value : Json) {members : Members}
    (ordered : members.Pairwise fun first second => first.1 < second.1) :
    (addMember name value members).Pairwise fun first second => first.1 < second.1 := by
  induction ordered with
  | nil => exact List.pairwise_singleton _ _
  | @cons first later before rest ih =>
      rw [addMember]
      split_ifs with less same
      · refine (List.Pairwise.cons before rest).cons fun member isThere => ?_
        rcases List.mem_cons.mp isThere with rfl | isLater
        · exact less
        · exact less.trans (before member isLater)
      · exact .cons before rest
      · refine .cons (fun member isThere => ?_) ih
        rcases mem_addMember isThere with rfl | isLater
        · exact lt_of_le_of_ne (not_lt.mp less) (Ne.symm same)
        · exact before member isLater

theorem memberValues_ordered (members : Members) :
    (memberValues members).Pairwise fun first second => first.1 < second.1 := by
  induction members with
  | nil => exact .nil
  | cons member members ih => exact addMember_ordered member.1 member.2.toValue ih

mutual

theorem sorted_toValue : (json : Json) → json.toValue.Sorted
  | .null => .null
  | .bool value => .bool value
  | .integer value => .integer value
  | .double bits => .double bits
  | .string text => .string text
  | .array items => .array (sorted_itemValues items)
  | .object members => .object (memberValues_ordered members) (sorted_memberValues members)

theorem sorted_itemValues : (items : List Json) → ∀ item ∈ itemValues items, item.Sorted
  | [], _, isThere => absurd isThere List.not_mem_nil
  | first :: items, item, isThere => by
      rcases List.mem_cons.mp isThere with rfl | isLater
      · exact sorted_toValue first
      · exact sorted_itemValues items item isLater

theorem sorted_memberValues : (members : Members) →
    ∀ member ∈ memberValues members, member.2.Sorted
  | [], _, isThere => absurd isThere List.not_mem_nil
  | (_, value) :: members, member, isThere => by
      rcases mem_addMember isThere with rfl | isLater
      · exact sorted_toValue value
      · exact sorted_memberValues members member isLater

end

theorem addMember_of_before {name : String} (value : Json) {members : Members}
    (before : ∀ member ∈ members, name < member.1) :
    addMember name value members = (name, value) :: members := by
  cases members with
  | nil => rfl
  | cons first later => rw [addMember, if_pos (before first List.mem_cons_self)]

theorem memberValues_of_ordered {members : Members}
    (ordered : members.Pairwise fun first second => first.1 < second.1)
    (kept : ∀ member ∈ members, member.2.toValue = member.2) : memberValues members = members := by
  induction ordered with
  | nil => rfl
  | @cons first later before _ ih =>
      rw [memberValues, ih fun member isThere => kept member (List.mem_cons_of_mem _ isThere),
        kept first List.mem_cons_self, addMember_of_before _ before]

/-- Of a value that is in order, everything is kept. -/
theorem Sorted.toValue {json : Json} (sorted : json.Sorted) : json.toValue = json := by
  induction sorted with
  | null | bool | integer | double | string => rfl
  | array _ ih => rw [Json.toValue, itemValues_eq_map, List.map_congr_left ih, List.map_id']
  | object ordered _ ih => rw [Json.toValue, memberValues_of_ordered ordered ih]

/-! ## Texts that lose nothing -/

/-- No name occurs twice in an object. -/
inductive Distinct : Json → Prop
  | null : Distinct .null
  | bool (value : Bool) : Distinct (.bool value)
  | integer (value : ℤ) : Distinct (.integer value)
  | double (bits : BitVec 64) : Distinct (.double bits)
  | string (text : String) : Distinct (.string text)
  | array {items : List Json} (distinct : ∀ item ∈ items, Distinct item) : Distinct (.array items)
  | object {members : Members} (nodup : (members.map Prod.fst).Nodup)
      (distinct : ∀ member ∈ members, Distinct member.2) : Distinct (.object members)

/-! ## The members of a name in what is kept -/

theorem named_addMember_of_ne {name other : String} (differs : name ≠ other) (value : Json)
    (members : Members) : named other (addMember name value members) = named other members := by
  induction members with
  | nil => exact named_cons_of_ne differs []
  | cons first later ih =>
      rw [addMember]
      split_ifs with less same
      · exact named_cons_of_ne differs _
      · rfl
      · rcases eq_or_ne first.1 other with rfl | isOther
        · rw [named_cons_self, named_cons_self, ih]
        · rw [named_cons_of_ne isOther, named_cons_of_ne isOther, ih]

/-- A member of a new name is added. -/
theorem addMember_of_new {name : String} (value : Json) {members : Members}
    (isNew : ∀ member ∈ members, member.1 ≠ name) :
    named name (addMember name value members) = [value] ∧
      (addMember name value members).length = members.length + 1 := by
  induction members with
  | nil => exact ⟨named_singleton name value, rfl⟩
  | cons first later ih =>
      have notFirst := isNew first List.mem_cons_self
      rw [addMember, if_neg notFirst.symm]
      split_ifs with less
      · rw [named_cons_self, named_eq_nil isNew]
        exact ⟨rfl, rfl⟩
      · obtain ⟨isNamed, isLonger⟩ :=
          ih fun member isThere => isNew member (List.mem_cons_of_mem _ isThere)
        rw [named_cons_of_ne notFirst, List.length_cons, isLonger]
        exact ⟨isNamed, rfl⟩

/-- A member whose name comes again is dropped. -/
theorem addMember_of_mem {name : String} (value : Json) {members : Members}
    (ordered : members.Pairwise fun first second => first.1 < second.1)
    (isThere : ∃ member ∈ members, member.1 = name) : addMember name value members = members := by
  induction ordered with
  | nil => exact absurd isThere.choose_spec.1 List.not_mem_nil
  | @cons first later before _ ih =>
      obtain ⟨member, isThere, rfl⟩ := isThere
      rw [addMember]
      rcases List.mem_cons.mp isThere with rfl | isLater
      · rw [if_neg (lt_irrefl _), if_pos rfl]
      · have after := before member isLater
        rw [if_neg after.not_gt, if_neg after.ne', ih ⟨member, isLater, rfl⟩]

/-- Of several members of a name, the last one stands. -/
theorem named_memberValues (name : String) (members : Members) :
    named name (memberValues members) =
      ((named name members).getLast?.map toValue).toList := by
  induction members with
  | nil => rfl
  | cons member members ih =>
      obtain ⟨first, value⟩ := member
      rw [memberValues]
      rcases eq_or_ne first name with rfl | differs
      · rw [named_cons_self]
        cases isLater : named first members with
        | nil =>
            rw [isLater] at ih
            exact (addMember_of_new _ (named_eq_nil_iff.mp ih)).1
        | cons next later =>
            have isThere : ∃ member ∈ memberValues members, member.1 = first := by
              by_contra isNew
              push Not at isNew
              rw [isLater, List.getLast?_cons, named_eq_nil isNew] at ih
              exact List.cons_ne_nil _ _ ih.symm
            rw [addMember_of_mem _ (memberValues_ordered members) isThere, ih, isLater,
              List.getLast?_cons_cons]
      · rw [named_addMember_of_ne differs, named_cons_of_ne differs, ih]

/-- Where no name occurs twice, every member stays. -/
theorem length_memberValues {members : Members} (nodup : (members.map Prod.fst).Nodup) :
    (memberValues members).length = members.length := by
  induction members with
  | nil => rfl
  | cons member members ih =>
      obtain ⟨isNew, nodup⟩ := List.nodup_cons.mp nodup
      rw [memberValues, (addMember_of_new _ fun held isThere same => ?_).2, ih nodup,
        List.length_cons]
      obtain ⟨value, isMember, -⟩ := mem_memberValues isThere
      exact isNew (List.mem_map.mpr ⟨_, isMember, same⟩)

theorem length_named_le_one {members : Members} (nodup : (members.map Prod.fst).Nodup)
    (name : String) : (named name members).length ≤ 1 := by
  induction members with
  | nil => exact Nat.zero_le 1
  | cons member members ih =>
      obtain ⟨isNew, nodup⟩ := List.nodup_cons.mp nodup
      rcases eq_or_ne member.1 name with rfl | differs
      · have absent : named member.1 members = [] :=
          named_eq_nil fun held isThere same => isNew (List.mem_map.mpr ⟨held, isThere, same⟩)
        rw [named_cons_self, absent, List.length_singleton]
      · rw [named_cons_of_ne differs]
        exact ih nodup

/-- Where no name occurs twice, the member of a name stays. -/
theorem named_memberValues_of_nodup {members : Members} (nodup : (members.map Prod.fst).Nodup)
    (name : String) : named name (memberValues members) = (named name members).map toValue := by
  have atMostOne := length_named_le_one nodup name
  rw [named_memberValues]
  match named name members, atMostOne with
  | [], _ => rfl
  | [_], _ => rfl
  | _ :: _ :: _, tooMany => exact absurd tooMany (by simp)

end Json

/-- A value that was kept. -/
structure JsonValue where
  json : Json
  sorted : json.Sorted

def Json.value (json : Json) : JsonValue := ⟨json.toValue, json.sorted_toValue⟩

theorem JsonValue.value_json (value : JsonValue) : value.json.value = value := by
  obtain ⟨json, sorted⟩ := value
  rw [Json.value, JsonValue.mk.injEq]
  exact sorted.toValue

theorem Json.value_toValue (json : Json) : json.toValue.value = json.value :=
  json.value.value_json

end Vacs
