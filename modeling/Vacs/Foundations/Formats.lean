import Mathlib.Data.Finset.Dedup
import Mathlib.Logic.Equiv.Defs
import Vacs.Foundations.FiniteMap

/-!
# Formats

A format writes values and reads what was written. Reading can fail, and several texts can
read as one value. Of a value that comes back unchanged we say that it is canonical. A value
that was read from a plain text always is (`settles`), so that it can be passed on without being
distorted. What makes a text plain is up to its kind (`Text`): a text that says one thing twice
can read as a value that is written, and then reads, differently.

Formats are put together from formats: of lists and finite sets, of maps, of tagged variants,
and with a fallback for whatever a format does not know. A fallback has values that do not
come back: what claims to be unknown, and is written like something known. These are the only
ones (`decode_encode_iff`).
-/

set_option autoImplicit false

namespace Vacs

/-- A kind of texts. -/
class Text (Wire : Type) where
  /-- Nothing is said twice. -/
  IsPlain : Wire → Prop

instance : Text Char := ⟨fun _ => True⟩

instance : Text String := ⟨fun _ => True⟩

instance {Wire : Type} [Text Wire] : Text (List Wire) :=
  ⟨fun wires => ∀ wire ∈ wires, Text.IsPlain wire⟩

instance {Wire : Type} [Text Wire] : Text (Option Wire) :=
  ⟨fun found => ∀ wire ∈ found, Text.IsPlain wire⟩

instance {Wire Wire' : Type} [Text Wire] [Text Wire'] : Text (Wire × Wire') :=
  ⟨fun pair => Text.IsPlain pair.1 ∧ Text.IsPlain pair.2⟩

/-- A way to write values, and to read them. -/
structure Format (Wire Value : Type) [Text Wire] where
  encode : Value → Wire
  decode : Wire → Option Value
  /-- The values that come back as they were written. -/
  Canonical : Value → Prop
  decode_encode_iff : ∀ {value}, decode (encode value) = some value ↔ Canonical value
  canonical : ∀ {wire value}, Text.IsPlain wire → decode wire = some value → Canonical value

namespace Format

variable {Wire Wire' Value Value' : Type} [Text Wire] [Text Wire']

theorem decode_encode (format : Format Wire Value) {value : Value}
    (isCanonical : format.Canonical value) : format.decode (format.encode value) = some value :=
  format.decode_encode_iff.mpr isCanonical

/-- What was read is written so that it reads the same. -/
theorem settles (format : Format Wire Value) {wire : Wire} {value : Value}
    (isPlain : Text.IsPlain wire) (reads : format.decode wire = some value) :
    format.decode (format.encode value) = some value :=
  format.decode_encode (format.canonical isPlain reads)

/-- What comes back inside comes back. -/
theorem map_decode_encode_iff (format : Format Wire Value) {build : Value → Value'}
    (injective : Function.Injective build) {value : Value} :
    (format.decode (format.encode value)).map build = some (build value) ↔
      format.Canonical value := by
  rw [← format.decode_encode_iff, ← Option.map_some, (Option.map_injective injective).eq_iff]

/-- The same format, for values of another shape. -/
def map (format : Format Wire Value) (shape : Value ≃ Value') : Format Wire Value' where
  encode value := format.encode (shape.symm value)
  decode wire := (format.decode wire).map shape
  Canonical value := format.Canonical (shape.symm value)
  decode_encode_iff := by
    intro value
    rw [← format.map_decode_encode_iff shape.injective, shape.apply_symm_apply]
  canonical := by
    intro wire value isPlain reads
    obtain ⟨inner, isInner, rfl⟩ := Option.map_eq_some_iff.mp reads
    rw [shape.symm_apply_apply]
    exact format.canonical isPlain isInner

theorem map_decode_encode (format : Format Wire Value) (build : Value → Value') {value : Value}
    (isCanonical : format.Canonical value) :
    (format.decode (format.encode value)).map build = some (build value) := by
  rw [format.decode_encode isCanonical, Option.map_some]

@[elab_as_elim]
theorem canonical_of_map_decode {format : Format Wire Value} {build : Value → Value'}
    {Good : Value' → Prop} {wire : Wire} {value : Value'} (isPlain : Text.IsPlain wire)
    (reads : (format.decode wire).map build = some value)
    (good : ∀ value, format.Canonical value → Good (build value)) : Good value := by
  obtain ⟨inner, isInner, rfl⟩ := Option.map_eq_some_iff.mp reads
  exact good inner (format.canonical isPlain isInner)

/-- The same format, wrapped. -/
def wrap (format : Format Wire Value) (write : Wire → Wire') (read : Wire' → Option Wire)
    (read_write : ∀ value, read (write (format.encode value)) = some (format.encode value))
    (plain : ∀ {wire inner}, Text.IsPlain wire → read wire = some inner → Text.IsPlain inner) :
    Format Wire' Value where
  encode value := write (format.encode value)
  decode wire := (read wire).bind format.decode
  Canonical := format.Canonical
  decode_encode_iff := by
    intro value
    rw [read_write, Option.bind_some, format.decode_encode_iff]
  canonical := by
    intro wire value isPlain reads
    obtain ⟨inner, isInner, reads⟩ := Option.bind_eq_some_iff.mp reads
    exact format.canonical (plain isPlain isInner) reads

/-! ## Lists, sets and maps -/

theorem mapM_map_encode (format : Format Wire Value) {values : List Value}
    (canonical : ∀ value ∈ values, format.Canonical value) :
    (values.map format.encode).mapM format.decode = some values := by
  induction values with
  | nil => rfl
  | cons value values ih =>
      rw [List.map_cons, List.mapM_cons, format.decode_encode (canonical value List.mem_cons_self),
        ih fun other isThere => canonical other (List.mem_cons_of_mem _ isThere)]
      rfl

/-- Texts that are read one by one each come back by themselves. -/
theorem canonical_of_mapM_map_encode (format : Format Wire Value) {values : List Value}
    (back : (values.map format.encode).mapM format.decode = some values) :
    ∀ value ∈ values, format.Canonical value := by
  induction values with
  | nil => exact fun _ isThere => absurd isThere List.not_mem_nil
  | cons value values ih =>
      rw [List.map_cons, List.mapM_cons] at back
      obtain ⟨head, isHead, back⟩ := Option.bind_eq_some_iff.mp back
      obtain ⟨tail, isTail, back⟩ := Option.bind_eq_some_iff.mp back
      cases back
      exact List.forall_mem_cons.mpr ⟨format.decode_encode_iff.mp isHead, ih isTail⟩

theorem canonical_of_mapM (format : Format Wire Value) {wires : List Wire} {values : List Value}
    (isPlain : Text.IsPlain wires) (reads : wires.mapM format.decode = some values) :
    ∀ value ∈ values, format.Canonical value := by
  induction wires generalizing values with
  | nil =>
      cases reads
      exact fun _ isThere => absurd isThere List.not_mem_nil
  | cons wire wires ih =>
      rw [List.mapM_cons] at reads
      obtain ⟨head, isHead, reads⟩ := Option.bind_eq_some_iff.mp reads
      obtain ⟨tail, isTail, reads⟩ := Option.bind_eq_some_iff.mp reads
      cases reads
      obtain ⟨headPlain, tailPlain⟩ := List.forall_mem_cons.mp isPlain
      exact List.forall_mem_cons.mpr ⟨format.canonical headPlain isHead, ih tailPlain isTail⟩

def list (format : Format Wire Value) : Format (List Wire) (List Value) where
  encode values := values.map format.encode
  decode wires := wires.mapM format.decode
  Canonical values := ∀ value ∈ values, format.Canonical value
  decode_encode_iff := ⟨format.canonical_of_mapM_map_encode, format.mapM_map_encode⟩
  canonical := format.canonical_of_mapM

/-- A finite set of values that come back, written in some order. -/
def set [DecidableEq Value] (order : Enumeration Value) (format : Format Wire Value)
    (all : ∀ value, format.Canonical value) : Format (List Wire) (Finset Value) where
  encode values := (order.list values).map format.encode
  decode wires := (wires.mapM format.decode).map List.toFinset
  Canonical _ := True
  decode_encode_iff := by
    intro values
    rw [format.mapM_map_encode fun value _ => all value, Option.map_some, iff_true]
    refine congrArg some (Finset.ext fun value => ?_)
    rw [List.mem_toFinset, order.mem_list]
  canonical _ _ := trivial

section Maps

variable {Key Name : Type} [DecidableEq Key] [Text Name]

/-- The entries of a map, in some order of its keys. -/
def entries (order : Enumeration Key) (values : HashMap Key Value) : List (Key × Value) :=
  (order.list values.keys).filterMap fun key => (values.lookup key).map fun value => (key, value)

theorem mem_entries (order : Enumeration Key) (values : HashMap Key Value) (key : Key)
    (value : Value) : (key, value) ∈ entries order values ↔ values.lookup key = some value := by
  rw [entries, List.mem_filterMap]
  constructor
  · rintro ⟨other, -, found⟩
    obtain ⟨held, isHeld, same⟩ := Option.map_eq_some_iff.mp found
    cases same
    exact isHeld
  · intro found
    refine ⟨key, ?_, by rw [found, Option.map_some]⟩
    rw [order.mem_list, Finmap.mem_keys]
    exact Finmap.mem_iff.mpr ⟨value, found⟩

theorem ofEntries_entries (order : Enumeration Key) (values : HashMap Key Value) :
    (entries order values).foldl (fun map entry => map.insert entry.1 entry.2) ∅ = values := by
  refine Finmap.ext_lookup fun key => Option.ext fun value => ?_
  have functional : ∀ key first second, (key, first) ∈ entries order values →
      (key, second) ∈ entries order values → first = second := by
    intro key first second isFirst isSecond
    rw [mem_entries] at isFirst isSecond
    exact Option.some_inj.mp (isFirst.symm.trans isSecond)
  rw [Finmap.lookup_foldl_insert functional, mem_entries, Finmap.lookup_empty]
  exact or_iff_left fun both => nomatch both.2

theorem pair_eq_some_iff {first : Option Value} {second : Option Value'} {left : Value}
    {right : Value'} :
    (first.bind fun left => second.map fun right => (left, right)) = some (left, right) ↔
      first = some left ∧ second = some right := by
  cases first <;> cases second <;> simp

/-- One entry of a map. -/
def entry (key : Format Name Key) (value : Format Wire Value) :
    Format (Name × Wire) (Key × Value) where
  encode pair := (key.encode pair.1, value.encode pair.2)
  decode wire := (key.decode wire.1).bind fun first => (value.decode wire.2).map (first, ·)
  Canonical pair := key.Canonical pair.1 ∧ value.Canonical pair.2
  decode_encode_iff := by
    rintro ⟨first, second⟩
    rw [pair_eq_some_iff, key.decode_encode_iff, value.decode_encode_iff]
  canonical := by
    rintro wire pair ⟨keyPlain, valuePlain⟩ reads
    obtain ⟨first, isFirst, reads⟩ := Option.bind_eq_some_iff.mp reads
    obtain ⟨second, isSecond, rfl⟩ := Option.map_eq_some_iff.mp reads
    exact ⟨key.canonical keyPlain isFirst, value.canonical valuePlain isSecond⟩

/-- A map whose entries come back, written entry by entry. Of several entries with one key the
last one stands. -/
def keyed (order : Enumeration Key) (key : Format Name Key) (value : Format Wire Value)
    (all : ∀ pair, (entry key value).Canonical pair) :
    Format (List (Name × Wire)) (HashMap Key Value) where
  encode values := (entries order values).map (entry key value).encode
  decode wires := (wires.mapM (entry key value).decode).map
    fun read => read.foldl (fun map entry => map.insert entry.1 entry.2) ∅
  Canonical _ := True
  decode_encode_iff := by
    intro values
    rw [(entry key value).mapM_map_encode fun pair _ => all pair, Option.map_some,
      ofEntries_entries, iff_true]
  canonical _ _ := trivial

end Maps

end Format

end Vacs
