import Mathlib.Algebra.BigOperators.Group.Finset.Basic
import Mathlib.Algebra.GroupWithZero.Nat
import Mathlib.Algebra.Order.Ring.Unbundled.Rat
import Mathlib.Algebra.Ring.Rat
import Mathlib.Data.List.GetD
import Vacs.Foundations.BoundedQueues
import Vacs.Foundations.FiniteMap

/-!
# The mixer

The mixer owns the sources that play on one output device. On every callback of the device
it lets each source add its samples to the output and clamps what comes out. A source is
told to start, stop, restart, seek or change its volume by its id; an id that is not
registered is ignored.

A source that leaves the mixer is not freed on the audio thread but handed back through a
bounded queue; only when that queue is full, or there is none, is it dropped in place.

Hash maps have no order of their own, so a callback mixes in any order. For sources that add
their samples, as the trait asks of them, the output is the clamped sum of what the
registered sources contribute and each source is advanced once, in every order
(`mix_eq_sum`).
-/

set_option autoImplicit false

namespace Vacs

namespace Audio

abbrev AudioSourceId := ℕ

/-- What the mixer asks of a source. Durations are counted in nanoseconds. -/
class AudioSource (Source : Type) where
  mixInto : Source → List ℚ → Source × List ℚ
  start : Source → Source
  stop : Source → Source
  restart : Source → Source := fun source => start (stop source)
  setVolume : Source → ℚ → Source
  skip : Source → ℕ → Source
  rewind : Source → ℕ → Source

/-- A source on the heap. The address is what freeing it is about; playing changes what is
stored there. -/
structure BoxedSource (Source : Type) where
  address : ℕ
  source : Source
deriving DecidableEq

structure Mixer (capacity : ℕ) (Source : Type) where
  sources : HashMap AudioSourceId (BoxedSource Source)
  removedSources : Option (BoundedQueue capacity (BoxedSource Source))
  /-- What the audio thread had to free. -/
  droppedInline : List (BoxedSource Source)

namespace Mixer

variable {capacity : ℕ} {Source : Type}

def withDeferredDrop (removedSources : BoundedQueue capacity (BoxedSource Source)) :
    Mixer capacity Source where
  sources := ∅
  removedSources := some removedSources
  droppedInline := []

/-- Queue a source for the other side to free. A full queue falls back to dropping inline. -/
def deferDrop (self : Mixer capacity Source) (source : BoxedSource Source) :
    Mixer capacity Source :=
  match self.removedSources.bind fun removed => removed.tryPush source with
  | some removed => { self with removedSources := some removed }
  | none => { self with droppedInline := self.droppedInline ++ [source] }

def addSource (self : Mixer capacity Source) (sourceId : AudioSourceId)
    (source : BoxedSource Source) : Mixer capacity Source :=
  let inserted := { self with sources := self.sources.insert sourceId source }
  match self.sources.lookup sourceId with
  | some replaced => inserted.deferDrop replaced
  | none => inserted

def removeSource (self : Mixer capacity Source) (sourceId : AudioSourceId) :
    Mixer capacity Source :=
  match self.sources.lookup sourceId with
  | some removed => { self with sources := self.sources.erase sourceId }.deferDrop removed
  | none => self

/-- A control call, forwarded to the source it names. -/
def forward (self : Mixer capacity Source) (sourceId : AudioSourceId) (call : Source → Source) :
    Mixer capacity Source :=
  match self.sources.lookup sourceId with
  | some boxed =>
      { self with sources := self.sources.insert sourceId { boxed with source := call boxed.source } }
  | none => self

section Calls

variable [AudioSource Source]

def startSource (self : Mixer capacity Source) (sourceId : AudioSourceId) : Mixer capacity Source :=
  self.forward sourceId AudioSource.start

def stopSource (self : Mixer capacity Source) (sourceId : AudioSourceId) : Mixer capacity Source :=
  self.forward sourceId AudioSource.stop

def restartSource (self : Mixer capacity Source) (sourceId : AudioSourceId) :
    Mixer capacity Source :=
  self.forward sourceId AudioSource.restart

def setSourceVolume (self : Mixer capacity Source) (sourceId : AudioSourceId) (volume : ℚ) :
    Mixer capacity Source :=
  self.forward sourceId fun source => AudioSource.setVolume source volume

def skipInSource (self : Mixer capacity Source) (sourceId : AudioSourceId) (duration : ℕ) :
    Mixer capacity Source :=
  self.forward sourceId fun source => AudioSource.skip source duration

def rewindInSource (self : Mixer capacity Source) (sourceId : AudioSourceId) (duration : ℕ) :
    Mixer capacity Source :=
  self.forward sourceId fun source => AudioSource.rewind source duration

/-- Let one source add its samples. -/
def mixSource (mixed : HashMap AudioSourceId (BoxedSource Source) × List ℚ)
    (sourceId : AudioSourceId) : HashMap AudioSourceId (BoxedSource Source) × List ℚ :=
  match mixed.1.lookup sourceId with
  | some boxed =>
      let result := AudioSource.mixInto boxed.source mixed.2
      (mixed.1.insert sourceId { boxed with source := result.1 }, result.2)
  | none => mixed

def clampSample (sample : ℚ) : ℚ := max (-1) (min sample 1)

/-- One device callback: every source mixes on top of the equilibrium, in the order in which
the map happens to be walked. -/
def mix (self : Mixer capacity Source) (order : Enumeration AudioSourceId) (output : List ℚ) :
    Mixer capacity Source × List ℚ :=
  let mixed := (order.list self.sources.keys).foldl mixSource
    (self.sources, List.replicate output.length 0)
  ({ self with sources := mixed.1 }, mixed.2.map clampSample)

end Calls

/-! ## What leaves the mixer, and where it goes -/

/-- The sources that are registered, by address. -/
def registered (self : Mixer capacity Source) : Multiset ℕ :=
  self.sources.values.map BoxedSource.address

/-- The sources that are waiting to be freed. -/
def removed (self : Mixer capacity Source) : List (BoxedSource Source) :=
  self.removedSources.elim [] BoundedQueue.items

def addresses (sources : List (BoxedSource Source)) : Multiset ℕ :=
  (sources.map BoxedSource.address : List ℕ)

theorem addresses_append (first second : List (BoxedSource Source)) :
    addresses (first ++ second) = addresses first + addresses second := by
  simp only [addresses, List.map_append, Multiset.coe_add]

@[simp] theorem addresses_nil : addresses ([] : List (BoxedSource Source)) = 0 := rfl

theorem addresses_singleton (source : BoxedSource Source) :
    addresses [source] = {source.address} := rfl

/-- Everything the mixer has been given and has not passed on to be freed elsewhere. -/
def owned (self : Mixer capacity Source) : Multiset ℕ :=
  self.registered + addresses self.removed + addresses self.droppedInline

@[simp] theorem sources_deferDrop (self : Mixer capacity Source) (source : BoxedSource Source) :
    (self.deferDrop source).sources = self.sources := by
  unfold deferDrop
  split
  · rfl
  · rfl

theorem sources_addSource (self : Mixer capacity Source) (sourceId : AudioSourceId)
    (source : BoxedSource Source) :
    (self.addSource sourceId source).sources = self.sources.insert sourceId source := by
  unfold addSource
  split
  · rw [sources_deferDrop]
  · rfl

theorem sources_removeSource (self : Mixer capacity Source) (sourceId : AudioSourceId) :
    (self.removeSource sourceId).sources = self.sources.erase sourceId := by
  unfold removeSource
  split
  · rw [sources_deferDrop]
  · next absent => rw [Finmap.erase_eq_self absent]

theorem keys_forward (self : Mixer capacity Source) (sourceId : AudioSourceId)
    (call : Source → Source) : (self.forward sourceId call).sources.keys = self.sources.keys := by
  unfold forward
  split
  · next boxed found =>
      rw [Finmap.keys_insert_eq,
        Finset.insert_eq_of_mem ((Finmap.mem_keys_iff_lookup _ _).mpr ⟨boxed, found⟩)]
  · rfl

/-- A source that is deferred goes to the queue or is dropped in place. -/
theorem deferDrop_cases (self : Mixer capacity Source) (source : BoxedSource Source) :
    ((self.deferDrop source).removed = self.removed ++ [source] ∧
      (self.deferDrop source).droppedInline = self.droppedInline) ∨
    ((self.deferDrop source).removed = self.removed ∧
      (self.deferDrop source).droppedInline = self.droppedInline ++ [source]) := by
  unfold deferDrop
  split
  · next removed pushed =>
      obtain ⟨queue, isQueue, pushed⟩ := Option.bind_eq_some_iff.mp pushed
      left
      refine ⟨?_, rfl⟩
      rw [Mixer.removed, Mixer.removed, isQueue]
      exact (BoundedQueue.tryPush_eq_some_iff.mp pushed).2
  · right
    exact ⟨rfl, rfl⟩

/-- With room in the queue nothing is dropped in place. -/
theorem deferDrop_of_room {self : Mixer capacity Source} (hasQueue : self.removedSources.isSome)
    (room : self.removed.length < capacity) (source : BoxedSource Source) :
    (self.deferDrop source).droppedInline = self.droppedInline ∧
      (self.deferDrop source).removed = self.removed ++ [source] ∧
      (self.deferDrop source).removedSources.isSome := by
  obtain ⟨queue, isQueue⟩ := Option.isSome_iff_exists.mp hasQueue
  have items : self.removed = queue.items := by rw [removed, isQueue, Option.elim]
  rw [items] at room ⊢
  have pushes : ∃ next, queue.tryPush source = some next := by
    cases pushed : queue.tryPush source with
    | none =>
        have full := BoundedQueue.tryPush_eq_none_iff.mp pushed
        omega
    | some next => exact ⟨next, rfl⟩
  obtain ⟨next, pushed⟩ := pushes
  have appended := (BoundedQueue.tryPush_eq_some_iff.mp pushed).2
  simp only [deferDrop, isQueue, Option.bind_some, pushed, removed, Option.elim, appended,
    Option.isSome_some, and_self]

/-- With room in the queue a removal hands back at most one source and drops none. -/
theorem removeSource_of_room {self : Mixer capacity Source}
    (hasQueue : self.removedSources.isSome) (room : self.removed.length < capacity)
    (sourceId : AudioSourceId) :
    (self.removeSource sourceId).removedSources.isSome ∧
      (self.removeSource sourceId).droppedInline = self.droppedInline ∧
      (self.removeSource sourceId).removed.length ≤ self.removed.length + 1 := by
  unfold removeSource
  cases self.sources.lookup sourceId with
  | none => exact ⟨hasQueue, rfl, Nat.le_succ _⟩
  | some removed =>
      let erased := { self with sources := self.sources.erase sourceId }
      have stillHasQueue : erased.removedSources.isSome := hasQueue
      have stillRoom : erased.removed.length < capacity := room
      obtain ⟨nothing, queued, stillThere⟩ := deferDrop_of_room stillHasQueue stillRoom removed
      refine ⟨stillThere, nothing, ?_⟩
      rw [queued, List.length_append]
      exact Nat.le_refl _

/-- Adding a source under an id that is not registered hands back nothing. -/
theorem addSource_of_absent {self : Mixer capacity Source} {sourceId : AudioSourceId}
    (absent : sourceId ∉ self.sources.keys) (source : BoxedSource Source) :
    self.addSource sourceId source =
      { self with sources := self.sources.insert sourceId source } := by
  have found : self.sources.lookup sourceId = none := by
    rw [Finmap.lookup_eq_none, ← Finmap.mem_keys]
    exact absent
  simp only [addSource, found]

theorem owned_deferDrop (self : Mixer capacity Source) (source : BoxedSource Source) :
    (self.deferDrop source).owned = self.owned + {source.address} := by
  have same : (self.deferDrop source).registered = self.registered := by
    rw [registered, sources_deferDrop, registered]
  unfold owned
  rw [same]
  rcases deferDrop_cases self source with ⟨queued, kept⟩ | ⟨kept, dropped⟩
  · rw [queued, kept, addresses_append, addresses_singleton]
    simp only [add_comm, add_left_comm]
  · rw [kept, dropped, addresses_append, addresses_singleton]
    simp only [add_assoc]

theorem owned_addSource (self : Mixer capacity Source) (sourceId : AudioSourceId)
    (source : BoxedSource Source) :
    (self.addSource sourceId source).owned = self.owned + {source.address} := by
  unfold addSource
  cases found : self.sources.lookup sourceId with
  | none =>
      have values := Finmap.values_insert_of_lookup_eq_none found source
      simp only [owned, registered, removed, values, Multiset.map_cons]
      rw [← Multiset.singleton_add]
      simp only [add_assoc, add_comm, add_left_comm]
  | some replaced =>
      have values := congrArg (Multiset.map BoxedSource.address)
        (Finmap.values_insert_of_lookup_eq_some found source)
      rw [Multiset.map_cons, Multiset.map_cons, ← Multiset.singleton_add,
        ← Multiset.singleton_add] at values
      simp only [owned_deferDrop]
      simp only [owned, registered, removed]
      calc _ = ({replaced.address} + ((self.sources.insert sourceId source).values.map
              BoxedSource.address)) + addresses (self.removedSources.elim [] BoundedQueue.items) +
              addresses self.droppedInline := by
            simp only [add_assoc, add_comm, add_left_comm]
        _ = _ := by
            rw [values]
            simp only [add_assoc, add_comm, add_left_comm]

theorem owned_removeSource (self : Mixer capacity Source) (sourceId : AudioSourceId) :
    (self.removeSource sourceId).owned = self.owned := by
  unfold removeSource
  cases found : self.sources.lookup sourceId with
  | none => rfl
  | some removed =>
      have values := Finmap.values_erase_of_lookup_eq_some found
      simp only [owned_deferDrop]
      simp only [owned, registered, Mixer.removed, values, Multiset.map_cons]
      rw [← Multiset.singleton_add]
      simp only [add_assoc, add_comm, add_left_comm]

/-- A control call keeps every source where it is. -/
theorem owned_forward (self : Mixer capacity Source) (sourceId : AudioSourceId)
    (call : Source → Source) : (self.forward sourceId call).owned = self.owned := by
  unfold forward
  cases found : self.sources.lookup sourceId with
  | none => rfl
  | some boxed =>
      have values := congrArg (Multiset.map BoxedSource.address)
        (Finmap.values_insert_of_lookup_eq_some found { boxed with source := call boxed.source })
      rw [Multiset.map_cons, Multiset.map_cons] at values
      have same := (Multiset.cons_inj_right boxed.address).mp values
      simp only [owned, registered, removed, same]

/-! ## A callback -/

section Mixing

variable [AudioSource Source]

theorem values_mixSource (mixed : HashMap AudioSourceId (BoxedSource Source) × List ℚ)
    (sourceId : AudioSourceId) :
    (mixSource mixed sourceId).1.values.map BoxedSource.address =
      mixed.1.values.map BoxedSource.address := by
  unfold mixSource
  cases found : mixed.1.lookup sourceId with
  | none => rfl
  | some boxed =>
      have values := congrArg (Multiset.map BoxedSource.address)
        (Finmap.values_insert_of_lookup_eq_some found
          { boxed with source := (AudioSource.mixInto boxed.source mixed.2).1 })
      rw [Multiset.map_cons, Multiset.map_cons] at values
      exact (Multiset.cons_inj_right boxed.address).mp values

theorem owned_mix (self : Mixer capacity Source) (order : Enumeration AudioSourceId)
    (output : List ℚ) : (self.mix order output).1.owned = self.owned := by
  have fold : ∀ (sourceIds : List AudioSourceId)
      (mixed : HashMap AudioSourceId (BoxedSource Source) × List ℚ),
      (sourceIds.foldl mixSource mixed).1.values.map BoxedSource.address =
        mixed.1.values.map BoxedSource.address := by
    intro sourceIds
    induction sourceIds with
    | nil => exact fun _ => rfl
    | cons sourceId sourceIds ih =>
        intro mixed
        rw [List.foldl_cons, ih, values_mixSource]
  have same := fold (order.list self.sources.keys) (self.sources, List.replicate output.length 0)
  simp only [owned, registered, removed, mix, same]

/-- A mixing source keeps the ids that are registered. -/
theorem keys_mixSource (mixed : HashMap AudioSourceId (BoxedSource Source) × List ℚ)
    (sourceId : AudioSourceId) : (mixSource mixed sourceId).1.keys = mixed.1.keys := by
  unfold mixSource
  cases found : mixed.1.lookup sourceId with
  | none => rfl
  | some boxed =>
      have registered : sourceId ∈ mixed.1.keys :=
        (Finmap.mem_keys_iff_lookup _ _).mpr ⟨boxed, found⟩
      simp only [Finmap.keys_insert_eq, Finset.insert_eq_of_mem registered]

theorem keys_mix (self : Mixer capacity Source) (order : Enumeration AudioSourceId)
    (output : List ℚ) : (self.mix order output).1.sources.keys = self.sources.keys := by
  have fold : ∀ (sourceIds : List AudioSourceId)
      (mixed : HashMap AudioSourceId (BoxedSource Source) × List ℚ),
      (sourceIds.foldl mixSource mixed).1.keys = mixed.1.keys := by
    intro sourceIds
    induction sourceIds with
    | nil => exact fun _ => rfl
    | cons sourceId sourceIds ih =>
        intro mixed
        rw [List.foldl_cons, ih, keys_mixSource]
  exact fold _ _

end Mixing

end Mixer

/-- What the trait asks of a source: that it adds samples of its own to the output, which do
not depend on what the others have added. -/
class LawfulAudioSource (Source : Type) extends AudioSource Source where
  contribution : Source → ℕ → List ℚ
  advanced : Source → ℕ → Source
  length_contribution : ∀ (source : Source) (samples : ℕ),
    (contribution source samples).length = samples
  mixInto_eq : ∀ (source : Source) (output : List ℚ),
    mixInto source output = (advanced source output.length,
      List.zipWith (· + ·) output (contribution source output.length))

namespace Mixer

variable {capacity : ℕ} {Source : Type} [LawfulAudioSource Source]

/-- The sample that a registered source adds at an index. -/
def contributed (sources : HashMap AudioSourceId (BoxedSource Source)) (samples index : ℕ)
    (sourceId : AudioSourceId) : ℚ :=
  ((sources.lookup sourceId).elim [] fun boxed =>
    LawfulAudioSource.contribution boxed.source samples).getD index 0

def advancedBox (samples : ℕ) (boxed : BoxedSource Source) : BoxedSource Source :=
  { boxed with source := LawfulAudioSource.advanced boxed.source samples }

theorem getD_zipWith_add {first second : List ℚ} (same : second.length = first.length)
    (index : ℕ) :
    (List.zipWith (· + ·) first second).getD index 0 = first.getD index 0 + second.getD index 0 := by
  simp only [List.getD_eq_getElem?_getD, List.getElem?_zipWith]
  by_cases inside : index < first.length
  · rw [List.getElem?_eq_getElem inside, List.getElem?_eq_getElem (by omega)]
    rfl
  · rw [List.getElem?_eq_none (by omega), List.getElem?_eq_none (by omega)]
    exact (add_zero 0).symm

theorem lookup_mixSource (mixed : HashMap AudioSourceId (BoxedSource Source) × List ℚ)
    (sourceId other : AudioSourceId) :
    (mixSource mixed sourceId).1.lookup other =
      if other = sourceId then (mixed.1.lookup other).map (advancedBox mixed.2.length)
      else mixed.1.lookup other := by
  cases found : mixed.1.lookup sourceId with
  | none =>
      have same : mixSource mixed sourceId = mixed := by simp only [mixSource, found]
      rw [same]
      split
      · next isSource => rw [isSource, found, Option.map_none]
      · rfl
  | some boxed =>
      simp only [mixSource, found, Finmap.lookup_insert_eq, LawfulAudioSource.mixInto_eq]
      split
      · next isSource =>
          rw [isSource, found]
          rfl
      · rfl

/-- One source adds its samples to the output. -/
theorem output_mixSource (mixed : HashMap AudioSourceId (BoxedSource Source) × List ℚ)
    (sourceId : AudioSourceId) :
    (mixSource mixed sourceId).2.length = mixed.2.length ∧
    ∀ index, (mixSource mixed sourceId).2.getD index 0 =
      mixed.2.getD index 0 + contributed mixed.1 mixed.2.length index sourceId := by
  unfold mixSource contributed
  cases found : mixed.1.lookup sourceId with
  | none =>
      refine ⟨rfl, fun index => ?_⟩
      simp only [Option.elim, List.getD_nil, add_zero]
  | some boxed =>
      have long := LawfulAudioSource.length_contribution boxed.source mixed.2.length
      simp only [LawfulAudioSource.mixInto_eq, Option.elim]
      refine ⟨?_, getD_zipWith_add long⟩
      rw [List.length_zipWith, long, Nat.min_self]

theorem mixSources_eq {sourceIds : List AudioSourceId} (nodup : sourceIds.Nodup)
    (mixed : HashMap AudioSourceId (BoxedSource Source) × List ℚ) :
    (∀ other, (sourceIds.foldl mixSource mixed).1.lookup other =
      if other ∈ sourceIds then (mixed.1.lookup other).map (advancedBox mixed.2.length)
      else mixed.1.lookup other) ∧
    (sourceIds.foldl mixSource mixed).2.length = mixed.2.length ∧
    ∀ index, (sourceIds.foldl mixSource mixed).2.getD index 0 = mixed.2.getD index 0 +
      (sourceIds.map (contributed mixed.1 mixed.2.length index)).sum := by
  induction sourceIds generalizing mixed with
  | nil =>
      refine ⟨fun _ => rfl, rfl, fun index => ?_⟩
      rw [List.map_nil, List.sum_nil, add_zero]
      rfl
  | cons sourceId sourceIds ih =>
      obtain ⟨fresh, nodup⟩ := List.nodup_cons.mp nodup
      obtain ⟨sources, long, samples⟩ := ih nodup (mixSource mixed sourceId)
      obtain ⟨kept, added⟩ := output_mixSource mixed sourceId
      refine ⟨fun other => ?_, long.trans kept, fun index => ?_⟩
      · rw [List.foldl_cons, sources, kept, lookup_mixSource]
        by_cases same : other = sourceId
        · subst same
          rw [if_neg fresh, if_pos rfl, if_pos List.mem_cons_self]
        · rw [if_neg same]
          simp only [List.mem_cons, same, false_or]
      · -- the sources that are still ahead have not changed
        have ahead : sourceIds.map (contributed (mixSource mixed sourceId).1
            (mixSource mixed sourceId).2.length index) =
            sourceIds.map (contributed mixed.1 mixed.2.length index) := by
          refine List.map_congr_left fun other isAhead => ?_
          have different : other ≠ sourceId := fun same => fresh (same ▸ isAhead)
          rw [contributed, contributed, lookup_mixSource, if_neg different, kept]
        rw [List.foldl_cons, samples, added, ahead, List.map_cons, List.sum_cons, add_assoc]

/-- **A callback plays the clamped sum of all registered sources and advances each of them
once, in whatever order the map is walked.** -/
theorem mix_eq_sum (self : Mixer capacity Source) (order : Enumeration AudioSourceId)
    (output : List ℚ) :
    (∀ sourceId, (self.mix order output).1.sources.lookup sourceId =
      (self.sources.lookup sourceId).map (advancedBox output.length)) ∧
    (self.mix order output).2 = (List.range output.length).map fun index =>
      clampSample (∑ sourceId ∈ self.sources.keys,
        contributed self.sources output.length index sourceId) := by
  obtain ⟨sources, long, samples⟩ := mixSources_eq (order.nodup_list self.sources.keys)
    (self.sources, List.replicate output.length 0)
  simp only [List.length_replicate] at sources long samples
  constructor
  · intro sourceId
    rw [mix]
    simp only [sources, order.mem_list]
    split
    · rfl
    · next absent =>
        cases found : self.sources.lookup sourceId with
        | none => rfl
        | some boxed => exact absurd ((Finmap.mem_keys_iff_lookup _ _).mpr ⟨boxed, found⟩) absent
  · have total : ∀ index, ((order.list self.sources.keys).map
        (contributed self.sources output.length index)).sum =
        ∑ sourceId ∈ self.sources.keys, contributed self.sources output.length index sourceId := by
      intro index
      have listed : (order.list self.sources.keys).toFinset = self.sources.keys := by
        ext sourceId
        rw [List.mem_toFinset, order.mem_list]
      rw [← listed, List.sum_toFinset _ (order.nodup_list self.sources.keys), listed]
    refine List.ext_getElem ?_ fun index inMix inside => ?_
    · rw [mix, List.length_map, List.length_map, List.length_range, long]
    · have within : index < output.length := by
        rw [List.length_map, List.length_range] at inside
        exact inside
      have sample := samples index
      have silent : (List.replicate output.length (0 : ℚ)).getD index 0 = 0 :=
        List.getD_replicate 0 within
      rw [total, silent, zero_add] at sample
      rw [List.getElem_map, List.getElem_range, ← sample]
      simp only [mix, List.getElem_map]
      rw [List.getD_eq_getElem _ _ (by omega)]

end Mixer

end Audio

end Vacs
