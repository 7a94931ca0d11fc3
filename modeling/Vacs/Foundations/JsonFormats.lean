import Vacs.Foundations.Formats
import Vacs.Foundations.JsonValues

/-!
# Values written as JSON

Structures are written as objects. A member that is required occurs exactly once, one that is
optional at most once; members with other names are skipped, so that members can be added
without harm (`Json.ReadsOnly.append`). A value of a tagged type carries its tag as the name of
its only member, in a member of its own next to those of its payload, or in a member of its own
next to its payload.

What a newer version has written is kept as a value (`Format.withUnknown`), and reads the same
as the text did, where the text names no member of an object twice (`Json.Respects`).
-/

set_option autoImplicit false

namespace Vacs

instance : Text Json := ⟨Json.Distinct⟩

namespace Json

theorem distinct_named {name : String} {members : Members} (isPlain : Text.IsPlain members)
    {value : Json} (isNamed : value ∈ named name members) : value.Distinct :=
  (isPlain _ (mem_named isNamed)).2

/-- A reader that looks at the members of these names only. -/
def ReadsOnly {Value : Type} (names : List String) (decode : Members → Option Value) : Prop :=
  ∀ first second, (∀ name ∈ names, named name first = named name second) →
    decode first = decode second

namespace ReadsOnly

variable {Value Value' : Type} {names : List String} {decode : Members → Option Value}

/-- Members of other names are skipped. -/
theorem append (readsOnly : ReadsOnly names decode) {members others : Members}
    (unread : ∀ member ∈ others, member.1 ∉ names) : decode (members ++ others) = decode members := by
  refine readsOnly _ _ fun name isName => ?_
  have skipped : named name others = [] :=
    named_eq_nil fun member isThere same => unread member isThere (same ▸ isName)
  rw [named_append, skipped, List.append_nil]

/-- Members of other names in front are skipped. -/
theorem prepend (readsOnly : ReadsOnly names decode) {members others : Members}
    (unread : ∀ member ∈ others, member.1 ∉ names) : decode (others ++ members) = decode members := by
  refine readsOnly _ _ fun name isName => ?_
  have skipped : named name others = [] :=
    named_eq_nil fun member isThere same => unread member isThere (same ▸ isName)
  rw [named_append, skipped, List.nil_append]

theorem map (readsOnly : ReadsOnly names decode) (build : Value → Value') :
    ReadsOnly names fun members => (decode members).map build :=
  fun first second same => congrArg (Option.map build) (readsOnly first second same)

theorem mono {larger : List String} (readsOnly : ReadsOnly names decode)
    (within : names.all larger.contains = true) : ReadsOnly larger decode :=
  fun first second same => readsOnly first second fun name isName =>
    same name (List.contains_iff_mem.mp (List.all_eq_true.mp within name isName))

theorem const (value : Option Value) : ReadsOnly names fun _ => value := fun _ _ _ => rfl

end ReadsOnly

/-- A reader that can read the other members whatever the member of this name is. -/
def Tolerates {Value : Type} (name : String) (decode : Members → Option Value) : Prop :=
  ∀ rest, (∀ member ∈ rest, member.1 ≠ name) → ∀ first second,
    (decode (rest ++ [(name, first)])).isSome = (decode (rest ++ [(name, second)])).isSome

theorem Tolerates.map {Value Value' : Type} {name : String} {decode : Members → Option Value}
    (tolerates : Tolerates name decode) (build : Value → Value') :
    Tolerates name fun members => (decode members).map build := by
  intro rest absent first second
  rw [Option.isSome_map, Option.isSome_map]
  exact tolerates rest absent first second

theorem ReadsOnly.tolerates {Value : Type} {name : String} {names : List String}
    {decode : Members → Option Value} (readsOnly : ReadsOnly names decode)
    (unread : names.contains name = false) : Tolerates name decode := by
  have skips : ∀ rest value, decode (rest ++ [(name, value)]) = decode rest := by
    refine fun rest value => readsOnly.append fun member isThere isName => ?_
    cases List.mem_singleton.mp isThere
    rw [List.contains_iff_mem.mpr isName] at unread
    cases unread
  intro rest _ first second
  rw [skips, skips]

end Json

namespace Format

variable {Value : Type}

/-! ## Values that are not objects -/

def text : Format Json String where
  encode := .string
  decode
    | .string text => some text
    | _ => none
  Canonical _ := True
  decode_encode_iff := iff_true_intro rfl
  canonical _ _ := trivial

def boolean : Format Json Bool where
  encode := .bool
  decode
    | .bool value => some value
    | _ => none
  Canonical _ := True
  decode_encode_iff := iff_true_intro rfl
  canonical _ _ := trivial

def unsigned (width : ℕ) : Format Json (BitVec width) where
  encode value := .integer value.toNat
  decode
    | .integer value =>
        if 0 ≤ value ∧ value < 2 ^ width then some (BitVec.ofInt width value) else none
    | _ => none
  Canonical _ := True
  decode_encode_iff := by
    intro value
    have bound : ((value.toNat : ℕ) : ℤ) < 2 ^ width := by exact_mod_cast value.isLt
    dsimp only
    rw [if_pos ⟨Int.natCast_nonneg _, bound⟩, BitVec.ofInt_natCast, BitVec.ofNat_toNat,
      BitVec.setWidth_eq, iff_true]
  canonical _ _ := trivial

/-- The items of an array. -/
def items : Json → Option (List Json)
  | .array items => some items
  | _ => none

theorem plain_items {json : Json} {inner : List Json} (isPlain : Text.IsPlain json)
    (isItems : items json = some inner) : Text.IsPlain inner := by
  cases isPlain with
  | array distinct =>
      cases isItems
      exact distinct
  | _ => cases isItems

def array (format : Format (List Json) Value) : Format Json Value :=
  format.wrap .array items (fun _ => rfl) plain_items

/-- The members of an object. -/
def members : Json → Option Members
  | .object members => some members
  | _ => none

theorem plain_members {json : Json} {inner : Members} (isPlain : Text.IsPlain json)
    (isMembers : members json = some inner) : Text.IsPlain inner := by
  cases isPlain with
  | object _ distinct =>
      cases isMembers
      exact fun member isThere => ⟨trivial, distinct member isThere⟩
  | _ => cases isMembers

def object (format : Format Members Value) : Format Json Value :=
  format.wrap .object members (fun _ => rfl) plain_members

/-! ## Tags -/

/-- The content of a variant that has none. -/
def unit : Format (Option Json) Unit where
  encode _ := none
  decode
    | none => some ()
    | some .null => some ()
    | some _ => none
  Canonical _ := True
  decode_encode_iff := iff_true_intro rfl
  canonical _ _ := trivial

/-- The content of a variant that has some. -/
def content (format : Format Json Value) : Format (Option Json) Value :=
  format.wrap some id (fun _ => rfl) fun isPlain isContent => isPlain _ isContent

def writeExternal : String × Option Json → Json
  | (tag, none) => .string tag
  | (tag, some content) => .object [(tag, content)]

def readExternal : Json → Option (String × Option Json)
  | .string tag => some (tag, none)
  | .object [(tag, content)] => some (tag, some content)
  | _ => none

theorem readExternal_writeExternal (tagged : String × Option Json) :
    readExternal (writeExternal tagged) = some tagged := by
  obtain ⟨tag, content⟩ := tagged
  cases content with
  | none => rfl
  | some content => rfl

theorem plain_readExternal {json : Json} {inner : String × Option Json}
    (isPlain : Text.IsPlain json) (reads : readExternal json = some inner) :
    Text.IsPlain inner := by
  refine ⟨trivial, fun content isContent => ?_⟩
  unfold readExternal at reads
  split at reads
  · cases reads
    cases isContent
  · next tag held =>
      cases reads
      cases isContent
      cases isPlain with
      | object _ distinct => exact distinct _ (List.mem_singleton_self (tag, content))
  · cases reads

/-- A tag that is the name of the content. -/
def external (format : Format (String × Option Json) Value) : Format Json Value :=
  format.wrap writeExternal readExternal (fun _ => readExternal_writeExternal _) plain_readExternal

/-- The tag of an object, if it has one. -/
def tagOf (tagName : String) (members : Members) : Option String :=
  match Json.named tagName members with
  | [.string tag] => some tag
  | _ => none

theorem tagOf_cons {tagName : String} {rest : Members} (tag : String)
    (untagged : ∀ member ∈ rest, member.1 ≠ tagName) :
    tagOf tagName ((tagName, .string tag) :: rest) = some tag := by
  rw [tagOf, ← List.singleton_append, Json.named_append, Json.named_singleton,
    Json.named_eq_nil untagged, List.append_nil]

def writeInternal (tagName : String) (tagged : String × Members) : Json :=
  .object ((tagName, .string tagged.1) :: tagged.2)

def readInternal (tagName : String) : Json → Option (String × Members)
  | .object members => (tagOf tagName members).map fun tag =>
      (tag, members.filter fun member => member.1 ≠ tagName)
  | _ => none

theorem readInternal_writeInternal {tagName : String} {tagged : String × Members}
    (untagged : ∀ member ∈ tagged.2, member.1 ≠ tagName) :
    readInternal tagName (writeInternal tagName tagged) = some tagged := by
  have rest : tagged.2.filter (fun member => member.1 ≠ tagName) = tagged.2 :=
    List.filter_eq_self.mpr fun member isThere => decide_eq_true (untagged member isThere)
  rw [writeInternal, readInternal, tagOf_cons _ untagged, Option.map_some,
    List.filter_cons_of_neg (by simp), rest]

theorem plain_readInternal {tagName : String} {json : Json} {inner : String × Members}
    (isPlain : Text.IsPlain json) (reads : readInternal tagName json = some inner) :
    Text.IsPlain inner := by
  cases json with
  | object members =>
      obtain ⟨tag, -, rfl⟩ := Option.map_eq_some_iff.mp reads
      refine ⟨trivial, fun member isThere => ?_⟩
      exact plain_members isPlain rfl member (List.mem_filter.mp isThere).1
  | _ => cases reads

/-- A tag among the members of the payload. -/
def internal (tagName : String) (format : Format (String × Members) Value)
    (untagged : ∀ value, ∀ member ∈ (format.encode value).2, member.1 ≠ tagName) :
    Format Json Value :=
  format.wrap (writeInternal tagName) (readInternal tagName)
    (fun value => readInternal_writeInternal (untagged value)) plain_readInternal

theorem decode_internal {tagName : String} {format : Format (String × Members) Value}
    (untagged : ∀ value, ∀ member ∈ (format.encode value).2, member.1 ≠ tagName)
    (members : Members) :
    (internal tagName format untagged).decode (.object members) =
      (tagOf tagName members).bind fun tag =>
        format.decode (tag, members.filter fun member => member.1 ≠ tagName) :=
  Option.bind_map ..

theorem tagOf_append {tagName : String} {members others : Members}
    (untagged : ∀ member ∈ others, member.1 ≠ tagName) :
    tagOf tagName (members ++ others) = tagOf tagName members := by
  rw [tagOf, Json.named_append, Json.named_eq_nil untagged, List.append_nil, tagOf]

/-- Members that no payload has are skipped. -/
theorem decode_internal_append {tagName : String} {format : Format (String × Members) Value}
    (untagged : ∀ value, ∀ member ∈ (format.encode value).2, member.1 ≠ tagName)
    {names : List String}
    (readsOnly : ∀ tag, Json.ReadsOnly names fun members => format.decode (tag, members))
    {members others : Members} (unread : ∀ member ∈ others, member.1 ≠ tagName ∧ member.1 ∉ names) :
    (internal tagName format untagged).decode (.object (members ++ others)) =
      (internal tagName format untagged).decode (.object members) := by
  rw [decode_internal, decode_internal, tagOf_append fun member isThere => (unread member isThere).1,
    List.filter_append]
  refine congrArg _ (funext fun tag => (readsOnly tag).append fun member isThere => ?_)
  exact (unread member (List.mem_filter.mp isThere).1).2

/-- A payload that can be read whatever a member is leaves the message readable. -/
theorem tolerates_internal {tagName : String} {format : Format (String × Members) Value}
    (untagged : ∀ value, ∀ member ∈ (format.encode value).2, member.1 ≠ tagName) {name : String}
    (notTag : name ≠ tagName)
    (tolerates : ∀ tag, Json.Tolerates name fun members => format.decode (tag, members)) :
    Json.Tolerates name fun members =>
      (internal tagName format untagged).decode (.object members) := by
  intro rest absent first second
  have single : ∀ value : Json, ∀ member ∈ [(name, value)], member.1 ≠ tagName :=
    fun value member isThere => List.mem_singleton.mp isThere ▸ notTag
  have kept : ∀ value : Json, [(name, value)].filter (fun member => member.1 ≠ tagName) =
      [(name, value)] := fun value =>
    List.filter_eq_self.mpr fun member isThere => decide_eq_true (single value member isThere)
  dsimp only
  rw [decode_internal, decode_internal, tagOf_append (single first), tagOf_append (single second),
    List.filter_append, List.filter_append, kept, kept]
  cases tagOf tagName rest with
  | none => rfl
  | some tag =>
      exact tolerates tag _ (fun member isThere => absent member (List.mem_filter.mp isThere).1)
        first second

def writeAdjacent (tagName contentName : String) (tagged : String × Option Json) : Json :=
  .object ((tagName, .string tagged.1) ::
    (tagged.2.map fun content => (contentName, content)).toList)

def readAdjacent (tagName contentName : String) : Json → Option (String × Option Json)
  | .object members =>
      match tagOf tagName members, Json.named contentName members with
      | some tag, [] => some (tag, none)
      | some tag, [content] => some (tag, some content)
      | _, _ => none
  | _ => none

theorem readAdjacent_writeAdjacent {tagName contentName : String} (apart : contentName ≠ tagName)
    (tagged : String × Option Json) :
    readAdjacent tagName contentName (writeAdjacent tagName contentName tagged) = some tagged := by
  obtain ⟨tag, content⟩ := tagged
  have untagged : ∀ member ∈ (content.map fun content => (contentName, content)).toList,
      member.1 ≠ tagName := by
    intro member isThere
    obtain ⟨held, -, rfl⟩ := Option.map_eq_some_iff.mp (Option.mem_toList.mp isThere)
    exact apart
  have skipped : Json.named contentName [(tagName, .string tag)] = [] :=
    Json.named_eq_nil fun member isThere => List.mem_singleton.mp isThere ▸ apart.symm
  rw [writeAdjacent, readAdjacent, tagOf_cons tag untagged, ← List.singleton_append,
    Json.named_append, skipped]
  cases content with
  | none => rfl
  | some content =>
      rw [Option.map_some, Option.toList_some, List.nil_append, Json.named_singleton]

theorem plain_readAdjacent {tagName contentName : String} {json : Json}
    {inner : String × Option Json} (isPlain : Text.IsPlain json)
    (reads : readAdjacent tagName contentName json = some inner) : Text.IsPlain inner := by
  refine ⟨trivial, fun content isContent => ?_⟩
  cases json with
  | object members =>
      rw [readAdjacent] at reads
      split at reads
      · cases reads
        cases isContent
      · next isNamed =>
          cases reads
          cases isContent
          have isThere : content ∈ Json.named contentName members :=
            isNamed ▸ List.mem_singleton_self content
          exact Json.distinct_named (plain_members isPlain rfl) isThere
      · cases reads
  | _ => cases reads

/-- A tag next to the content. -/
def adjacent (tagName contentName : String) (apart : contentName ≠ tagName)
    (format : Format (String × Option Json) Value) : Format Json Value :=
  format.wrap (writeAdjacent tagName contentName) (readAdjacent tagName contentName)
    (fun _ => readAdjacent_writeAdjacent apart _) plain_readAdjacent

end Format

/-! ## The members of structures -/

/-- The format of some members of an object. Members with other names it neither writes nor
reads. -/
structure Fields (Value : Type) extends Format Members Value where
  names : List String
  writes : ∀ value, ∀ member ∈ encode value, member.1 ∈ names
  reads : Json.ReadsOnly names decode

namespace Fields

variable {Value Value' : Type}

theorem not_written (fields : Fields Value) {name : String}
    (absent : fields.names.contains name = false) (value : Value) :
    ∀ member ∈ fields.encode value, member.1 ≠ name := by
  rintro member isThere rfl
  rw [List.contains_iff_mem.mpr (fields.writes value member isThere)] at absent
  cases absent

/-- A structure on its own. -/
def object (fields : Fields Value) : Format Json Value := fields.toFormat.object

/-- A member that has to be there. -/
def required (name : String) (format : Format Json Value) : Fields Value where
  encode value := [(name, format.encode value)]
  decode members :=
    match Json.named name members with
    | [value] => format.decode value
    | _ => none
  Canonical := format.Canonical
  decode_encode_iff := by
    intro value
    rw [Json.named_singleton]
    exact format.decode_encode_iff
  canonical := by
    intro members value isPlain reads
    split at reads
    · next held isNamed =>
        have isThere : held ∈ Json.named name members := isNamed ▸ List.mem_singleton_self held
        exact format.canonical (Json.distinct_named isPlain isThere) reads
    · cases reads
  names := [name]
  writes value member isThere := by
    cases List.mem_singleton.mp isThere
    exact List.mem_singleton_self name
  reads first second same := by
    dsimp only
    rw [same name (List.mem_singleton_self name)]

/-- A member that can be missing or null. Without a value it is either left out or null. -/
def optional (name : String) (skips : Bool) (format : Format Json Value)
    (notNull : ∀ value, format.encode value ≠ .null) : Fields (Option Value) where
  encode
    | some value => [(name, format.encode value)]
    | none => if skips then [] else [(name, .null)]
  decode members :=
    match Json.named name members with
    | [] => some none
    | [.null] => some none
    | [value] => (format.decode value).map some
    | _ => none
  Canonical value := ∀ held ∈ value, format.Canonical held
  decode_encode_iff := by
    rintro (_ | value)
    · refine iff_of_true ?_ nofun
      cases skips with
      | true => rfl
      | false => rw [if_neg Bool.false_ne_true, Json.named_singleton]
    · rw [Json.named_singleton]
      split
      · next none => cases none
      · next isNull => exact absurd (List.singleton_inj.mp isNull) (notNull value)
      · next held _ same =>
          rw [← List.singleton_inj.mp same,
            format.map_decode_encode_iff (Option.some_injective Value)]
          simp only [Option.mem_def, Option.some.injEq, forall_eq']
      · next _ _ notOne => exact absurd rfl (notOne _)
  canonical := by
    intro members value isPlain reads held isHeld
    split at reads
    · cases reads
      cases isHeld
    · cases reads
      cases isHeld
    · next json _ isNamed =>
        have isThere : json ∈ Json.named name members := isNamed ▸ List.mem_singleton_self json
        obtain ⟨inner, isInner, rfl⟩ := Option.map_eq_some_iff.mp reads
        cases isHeld
        exact format.canonical (Json.distinct_named isPlain isThere) isInner
    · cases reads
  names := [name]
  writes value member isThere := by
    cases value with
    | some value =>
        cases List.mem_singleton.mp isThere
        exact List.mem_singleton_self name
    | none =>
        cases skips with
        | true => exact absurd isThere List.not_mem_nil
        | false =>
            cases List.mem_singleton.mp isThere
            exact List.mem_singleton_self name
  reads first second same := by
    dsimp only
    rw [same name (List.mem_singleton_self name)]

/-- A member that can be missing, and then has a default. -/
def defaulted (name : String) (format : Format Json Value) (default : Value)
    (isCanonical : format.Canonical default) : Fields Value where
  encode value := [(name, format.encode value)]
  decode members :=
    match Json.named name members with
    | [] => some default
    | [value] => format.decode value
    | _ => none
  Canonical := format.Canonical
  decode_encode_iff := by
    intro value
    rw [Json.named_singleton]
    exact format.decode_encode_iff
  canonical := by
    intro members value isPlain reads
    split at reads
    · cases reads
      exact isCanonical
    · next held isNamed =>
        have isThere : held ∈ Json.named name members := isNamed ▸ List.mem_singleton_self held
        exact format.canonical (Json.distinct_named isPlain isThere) reads
    · cases reads
  names := [name]
  writes value member isThere := by
    cases List.mem_singleton.mp isThere
    exact List.mem_singleton_self name
  reads first second same := by
    dsimp only
    rw [same name (List.mem_singleton_self name)]

/-- No member belongs to both. -/
def apart (first : Fields Value) (second : Fields Value') : Bool :=
  first.names.all fun name => !second.names.contains name

theorem not_mem_of_apart {first : Fields Value} {second : Fields Value'}
    (isApart : first.apart second = true) : ∀ name ∈ first.names, name ∉ second.names := by
  intro name isFirst isSecond
  have absent := List.all_eq_true.mp isApart name isFirst
  rw [List.contains_iff_mem.mpr isSecond] at absent
  cases absent

/-- The members of two structures, next to each other. -/
def both (first : Fields Value) (second : Fields Value')
    (isApart : first.apart second = true) : Fields (Value × Value') where
  encode value := first.encode value.1 ++ second.encode value.2
  decode members :=
    (first.decode members).bind fun left => (second.decode members).map fun right => (left, right)
  Canonical value := first.Canonical value.1 ∧ second.Canonical value.2
  decode_encode_iff := by
    rintro ⟨left, right⟩
    have unreadRight : ∀ member ∈ second.encode right, member.1 ∉ first.names :=
      fun member isThere isFirst => not_mem_of_apart isApart _ isFirst (second.writes right member isThere)
    have unreadLeft : ∀ member ∈ first.encode left, member.1 ∉ second.names :=
      fun member isThere => not_mem_of_apart isApart _ (first.writes left member isThere)
    rw [first.reads.append unreadRight, second.reads.prepend unreadLeft, Format.pair_eq_some_iff,
      first.decode_encode_iff, second.decode_encode_iff]
  canonical := by
    intro members value isPlain reads
    obtain ⟨left, isLeft, reads⟩ := Option.bind_eq_some_iff.mp reads
    obtain ⟨right, isRight, rfl⟩ := Option.map_eq_some_iff.mp reads
    exact ⟨first.canonical isPlain isLeft, second.canonical isPlain isRight⟩
  names := first.names ++ second.names
  writes value member isThere := by
    rcases List.mem_append.mp isThere with isFirst | isSecond
    · exact List.mem_append_left _ (first.writes value.1 member isFirst)
    · exact List.mem_append_right _ (second.writes value.2 member isSecond)
  reads one other same := by
    dsimp only
    rw [first.reads one other fun name isName => same name (List.mem_append_left _ isName),
      second.reads one other fun name isName => same name (List.mem_append_right _ isName)]

/-- The same members, of a structure of another shape. -/
def shaped (fields : Fields Value) (shape : Value ≃ Value') : Fields Value' where
  toFormat := fields.toFormat.map shape
  names := fields.names
  writes value := fields.writes (shape.symm value)
  reads := fields.reads.map shape

theorem tolerates_both {first : Fields Value} {second : Fields Value'}
    (isApart : first.apart second = true) {name : String}
    (isFirst : Json.Tolerates name first.decode) (isSecond : Json.Tolerates name second.decode) :
    Json.Tolerates name (first.both second isApart).decode := by
  have isSome : ∀ members, ((first.both second isApart).decode members).isSome =
      ((first.decode members).isSome && (second.decode members).isSome) := by
    intro members
    change ((first.decode members).bind fun left =>
      (second.decode members).map fun right => (left, right)).isSome = _
    cases first.decode members with
    | none => rfl
    | some left => exact Option.isSome_map
  intro rest absent one other
  rw [isSome, isSome, isFirst rest absent one other, isSecond rest absent one other]

/-- A member with any value is there. -/
theorem tolerates_required {name : String} {format : Format Json Value}
    (total : ∀ json, (format.decode json).isSome) :
    Json.Tolerates name (required name format).decode := by
  have isSome : ∀ {rest : Members}, (∀ member ∈ rest, member.1 ≠ name) → ∀ value,
      ((required name format).decode (rest ++ [(name, value)])).isSome = true := by
    intro rest absent value
    dsimp only [required]
    rw [Json.named_append, Json.named_eq_nil absent, Json.named_singleton, List.nil_append]
    exact total value
  intro rest absent first second
  rw [isSome absent, isSome absent]

end Fields

/-! ## What is kept of a text -/

namespace Json

/-- A reader that reads the same from what is kept of a text. -/
def Respects {Wire Value : Type} (IsPlain : Wire → Prop) (keep : Wire → Wire)
    (decode : Wire → Option Value) : Prop :=
  ∀ wire, IsPlain wire → decode (keep wire) = decode wire

variable {Wire Value Value' : Type}

theorem Respects.map {IsPlain : Wire → Prop} {keep : Wire → Wire} {decode : Wire → Option Value}
    (respects : Respects IsPlain keep decode) (build : Value → Value') :
    Respects IsPlain keep fun wire => (decode wire).map build :=
  fun wire isPlain => congrArg (Option.map build) (respects wire isPlain)

/-- Reads the same from the value of a JSON text. -/
abbrev RespectsValue : (Json → Option Value) → Prop := Respects Distinct toValue

/-- Reads the same from the values of the items of an array. -/
abbrev RespectsItems : (List Json → Option Value) → Prop :=
  Respects (fun items => ∀ item ∈ items, item.Distinct) itemValues

/-- Reads the same from the values of the members of an object. -/
abbrev RespectsMembers : (Members → Option Value) → Prop :=
  Respects (fun members => (members.map Prod.fst).Nodup ∧ ∀ member ∈ members, member.2.Distinct)
    memberValues

/-- Reads the same from the value of the content of a variant. -/
abbrev RespectsContent : (Option Json → Option Value) → Prop :=
  Respects (fun content => ∀ json ∈ content, json.Distinct) (Option.map toValue)

end Json

namespace Format

variable {Value Value' : Type}

theorem respects_text : Json.RespectsValue text.decode := by
  intro json _
  cases json <;> rfl

theorem respects_unsigned (width : ℕ) : Json.RespectsValue (unsigned width).decode := by
  intro json _
  cases json <;> rfl

theorem respects_unit : Json.RespectsContent unit.decode := by
  rintro (_ | json) _
  · rfl
  · cases json <;> rfl

theorem respects_content {format : Format Json Value} (respects : Json.RespectsValue format.decode) :
    Json.RespectsContent (content format).decode := by
  rintro (_ | json) isPlain
  · rfl
  · exact respects json (isPlain json rfl)

theorem respects_array {format : Format (List Json) Value}
    (respects : Json.RespectsItems format.decode) : Json.RespectsValue (array format).decode := by
  intro json isPlain
  cases isPlain with
  | array distinct => exact respects _ distinct
  | _ => rfl

theorem respects_object {format : Format Members Value}
    (respects : Json.RespectsMembers format.decode) : Json.RespectsValue (object format).decode := by
  intro json isPlain
  cases isPlain with
  | object nodup distinct => exact respects _ ⟨nodup, distinct⟩
  | _ => rfl

theorem respects_list {format : Format Json Value} (respects : Json.RespectsValue format.decode) :
    Json.RespectsItems format.list.decode := by
  intro items isPlain
  change (Json.itemValues items).mapM format.decode = items.mapM format.decode
  induction items with
  | nil => rfl
  | cons item items ih =>
      obtain ⟨isFirst, isPlain⟩ := List.forall_mem_cons.mp isPlain
      rw [Json.itemValues, List.mapM_cons, List.mapM_cons, respects item isFirst, ih isPlain]

theorem respects_set [DecidableEq Value] {order : Enumeration Value} {format : Format Json Value}
    {all : ∀ value, format.Canonical value} (respects : Json.RespectsValue format.decode) :
    Json.RespectsItems (format.set order all).decode :=
  (respects_list respects).map List.toFinset

theorem readExternal_toValue {json : Json} (distinct : json.Distinct) :
    readExternal json.toValue =
      (readExternal json).map fun tagged => (tagged.1, tagged.2.map Json.toValue) := by
  cases distinct with
  | @object members nodup _ =>
      have sameLength := Json.length_memberValues nodup
      cases members with
      | nil => rfl
      | cons first rest =>
          cases rest with
          | nil => rfl
          | cons second rest =>
              rw [Json.toValue]
              generalize Json.memberValues _ = kept at sameLength ⊢
              rcases kept with _ | ⟨_, _ | _⟩
              · exact absurd sameLength (by simp)
              · exact absurd sameLength (by simp)
              · rfl
  | _ => rfl

theorem respects_external {format : Format (String × Option Json) Value}
    (respects : ∀ tag, Json.RespectsContent fun content => format.decode (tag, content)) :
    Json.RespectsValue (external format).decode := by
  intro json distinct
  change (readExternal json.toValue).bind format.decode = (readExternal json).bind format.decode
  rw [readExternal_toValue distinct]
  cases isTagged : readExternal json with
  | none => rfl
  | some tagged =>
      exact respects tagged.1 tagged.2 (plain_readExternal distinct isTagged).2

end Format

namespace Fields

variable {Value Value' : Type}

theorem respects_required {name : String} {format : Format Json Value}
    (respects : Json.RespectsValue format.decode) :
    Json.RespectsMembers (required name format).decode := by
  rintro members ⟨nodup, distinct⟩
  dsimp only [required]
  rw [Json.named_memberValues_of_nodup nodup]
  have isPlain : ∀ value ∈ Json.named name members, value.Distinct := fun value isNamed =>
    distinct _ (Json.mem_named isNamed)
  match Json.named name members, isPlain with
  | [], _ => rfl
  | [value], isPlain => exact respects value (isPlain value (List.mem_singleton_self value))
  | _ :: _ :: _, _ => rfl

theorem respects_both {first : Fields Value} {second : Fields Value'}
    (isApart : first.apart second = true) (isFirst : Json.RespectsMembers first.decode)
    (isSecond : Json.RespectsMembers second.decode) :
    Json.RespectsMembers (first.both second isApart).decode := by
  intro members isPlain
  dsimp only [both]
  rw [isFirst members isPlain, isSecond members isPlain]

end Fields

/-! ## Values of a newer version -/

/-- A value that this version knows, or what is kept of whatever a newer version has written in
its place. -/
inductive WithUnknown (Known : Type) where
  | known (value : Known)
  | unknown (value : JsonValue)

namespace Format

variable {Known : Type}

/-- Whatever is not known is kept as a value. -/
def withUnknown (format : Format Json Known) (respects : Json.RespectsValue format.decode) :
    Format Json (WithUnknown Known) where
  encode
    | .known value => format.encode value
    | .unknown value => value.json
  decode json :=
    match format.decode json with
    | some value => some (.known value)
    | none => some (.unknown json.value)
  Canonical
    | .known value => format.Canonical value
    | .unknown value => format.decode value.json = none
  decode_encode_iff := by
    rintro (value | value)
    · dsimp only
      rw [← format.decode_encode_iff]
      cases format.decode (format.encode value) <;> simp
    · dsimp only
      rw [value.value_json]
      cases format.decode value.json <;> simp
  canonical := by
    intro json value isPlain reads
    split at reads
    · next known isKnown =>
        cases reads
        exact format.canonical isPlain isKnown
    · next isUnknown =>
        cases reads
        exact (respects json isPlain).trans isUnknown

/-- What is kept of an unknown value is unknown as well, and stays as it is. -/
theorem respects_withUnknown {format : Format Json Known}
    {respects : Json.RespectsValue format.decode} :
    Json.RespectsValue (format.withUnknown respects).decode := by
  intro json isPlain
  dsimp only [withUnknown]
  rw [respects json isPlain, json.value_toValue]

/-- Nothing of a newer version is refused. -/
theorem isSome_decode_withUnknown (format : Format Json Known)
    (respects : Json.RespectsValue format.decode) (json : Json) :
    ((format.withUnknown respects).decode json).isSome := by
  dsimp only [withUnknown]
  cases format.decode json with
  | none => rfl
  | some value => rfl

end Format

end Vacs
