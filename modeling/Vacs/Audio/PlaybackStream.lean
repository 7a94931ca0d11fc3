import Vacs.Audio.OpusFrames
import Vacs.Foundations.GuardedRuns

/-!
# Playback streams and the audio thread

A playback stream owns a mixer that only the audio thread touches. A control call puts an
operation on a bounded queue; the device callback takes at most 32 of them, applies them to
the mixer and mixes. Sources that leave the mixer come back through a second bounded queue,
which the control calls drain before they queue their own operation.

Control calls may overlap, and callbacks may run between the two halves of a call. Streams
come and go, while the ids of sources are drawn from one counter of the process.

Every source that was ever handed to a stream is at every moment in exactly one place: held
by a call that is under way, queued, registered, waiting to be freed, or freed; and a stream
that has been stopped has left nothing behind (`handed_eq_owned`). An id never reaches a
source of another stream, however long it is kept (`foreign_id_ignored`). And as long as fewer
removals are pending than the queue holds when a removal begins, the audio thread frees
nothing (`audioThread_frees_nothing`).
-/

set_option autoImplicit false

namespace Vacs

namespace Audio

def mixerOpsCapacity : ℕ := 256

def mixerOpsPerDataCallback : ℕ := 32

/-- An operation on its way to the mixer. -/
inductive MixerOp (Source : Type) where
  | addSource (sourceId : AudioSourceId) (source : BoxedSource Source)
  | removeSource (sourceId : AudioSourceId)
  | startSource (sourceId : AudioSourceId)
  | stopSource (sourceId : AudioSourceId)
  | restartSource (sourceId : AudioSourceId)
  | setSourceVolume (sourceId : AudioSourceId) (volume : ℚ)
  | skipInSource (sourceId : AudioSourceId) (duration : ℕ)
  | rewindInSource (sourceId : AudioSourceId) (duration : ℕ)

namespace MixerOp

variable {Source : Type}

/-- The source that travels with an operation. -/
def captured : MixerOp Source → List (BoxedSource Source)
  | addSource _ source => [source]
  | _ => []

def added : MixerOp Source → List AudioSourceId
  | addSource sourceId _ => [sourceId]
  | _ => []

def removes : MixerOp Source → Bool
  | removeSource _ => true
  | _ => false

/-- The id that a control operation other than an addition is about. -/
def target : MixerOp Source → Option AudioSourceId
  | addSource _ _ => none
  | removeSource sourceId => some sourceId
  | startSource sourceId => some sourceId
  | stopSource sourceId => some sourceId
  | restartSource sourceId => some sourceId
  | setSourceVolume sourceId _ => some sourceId
  | skipInSource sourceId _ => some sourceId
  | rewindInSource sourceId _ => some sourceId

def apply [AudioSource Source] (op : MixerOp Source) (mixer : Mixer mixerOpsCapacity Source) :
    Mixer mixerOpsCapacity Source :=
  match op with
  | addSource sourceId source => mixer.addSource sourceId source
  | removeSource sourceId => mixer.removeSource sourceId
  | startSource sourceId => mixer.startSource sourceId
  | stopSource sourceId => mixer.stopSource sourceId
  | restartSource sourceId => mixer.restartSource sourceId
  | setSourceVolume sourceId volume => mixer.setSourceVolume sourceId volume
  | skipInSource sourceId duration => mixer.skipInSource sourceId duration
  | rewindInSource sourceId duration => mixer.rewindInSource sourceId duration

end MixerOp

/-- The control calls of a stream. -/
inductive Call (Source : Type) where
  | addAudioSource (source : BoxedSource Source)
  | removeAudioSource (id : AudioSourceId)
  | startAudioSource (id : AudioSourceId)
  | stopAudioSource (id : AudioSourceId)
  | restartAudioSource (id : AudioSourceId)
  | setVolume (id : AudioSourceId) (volume : ℚ)
  | skipInAudioSource (id : AudioSourceId) (duration : ℕ)
  | rewindInAudioSource (id : AudioSourceId) (duration : ℕ)

structure PlaybackStream (Source : Type) where
  mixerOps : BoundedQueue mixerOpsCapacity (MixerOp Source)
  mixer : Mixer mixerOpsCapacity Source
  /-- Operations of calls that have begun and not yet queued them. -/
  underWay : List (MixerOp Source)
  /-- Every source that was handed to the stream. -/
  handed : List (BoxedSource Source)
  /-- What the control threads have freed. -/
  freed : List (BoxedSource Source)

/-- What is left of a stream that was stopped: what it was handed, what its audio thread had to
free, and the addresses of everything that was freed elsewhere. -/
structure StoppedStream (Source : Type) where
  handed : List (BoxedSource Source)
  droppedInline : List (BoxedSource Source)
  freed : Multiset ℕ

namespace PlaybackStream

variable {Source : Type}

def start : PlaybackStream Source where
  mixerOps := .empty
  mixer := .withDeferredDrop .empty
  underWay := []
  handed := []
  freed := []

/-- Free the sources that the audio callback handed back. -/
def drainRemovedSources (self : PlaybackStream Source) : PlaybackStream Source :=
  { self with
    mixer := { self.mixer with
      removedSources := self.mixer.removedSources.map fun _ => .empty }
    freed := self.freed ++ self.mixer.removed }

def callUnderWay (self : PlaybackStream Source) (op : MixerOp Source) : PlaybackStream Source :=
  { self with underWay := self.underWay ++ [op] }

/-- The first half of a call. An added source is given the next id of the process. Setting a
volume and seeking do not drain. -/
def beginCall (self : PlaybackStream Source) (nextAudioSourceId : ℕ) :
    Call Source → PlaybackStream Source
  | .addAudioSource source =>
      { self.drainRemovedSources.callUnderWay (.addSource nextAudioSourceId source) with
        handed := self.handed ++ [source] }
  | .removeAudioSource id => self.drainRemovedSources.callUnderWay (.removeSource id)
  | .startAudioSource id => self.drainRemovedSources.callUnderWay (.startSource id)
  | .stopAudioSource id => self.drainRemovedSources.callUnderWay (.stopSource id)
  | .restartAudioSource id => self.drainRemovedSources.callUnderWay (.restartSource id)
  | .setVolume id volume => self.callUnderWay (.setSourceVolume id volume)
  | .skipInAudioSource id duration => self.callUnderWay (.skipInSource id duration)
  | .rewindInAudioSource id duration => self.callUnderWay (.rewindInSource id duration)

/-- The second half of a call. An operation that a full queue refuses is dropped, with the
source it carries. -/
def pushOp (self : PlaybackStream Source) (index : ℕ) : Option (PlaybackStream Source) :=
  (self.underWay[index]?).map fun op =>
    match self.mixerOps.tryPush op with
    | some mixerOps =>
        { self with mixerOps := mixerOps, underWay := self.underWay.eraseIdx index }
    | none =>
        { self with underWay := self.underWay.eraseIdx index, freed := self.freed ++ op.captured }

/-- Dropping the device stream frees its callback, with the operations that are queued and the
mixer with its sources. Then the queue of removed sources is drained. -/
def stop (self : PlaybackStream Source) : StoppedStream Source where
  handed := self.handed
  droppedInline := self.mixer.droppedInline
  freed := Mixer.addresses self.freed +
    (Mixer.addresses (self.mixerOps.items.flatMap MixerOp.captured) + self.mixer.registered) +
    Mixer.addresses self.mixer.removed

section Callback

variable [AudioSource Source]

/-- Apply up to `limit` queued operations to the mixer. -/
def applyOps : ℕ → PlaybackStream Source → PlaybackStream Source
  | 0, self => self
  | limit + 1, self =>
      match self.mixerOps.tryPop with
      | some (op, mixerOps) =>
          applyOps limit { self with mixerOps := mixerOps, mixer := op.apply self.mixer }
      | none => self

/-- The callback of the output device. -/
def dataCallback (self : PlaybackStream Source) (order : Enumeration AudioSourceId)
    (output : List ℚ) : PlaybackStream Source × List ℚ :=
  let applied := applyOps mixerOpsPerDataCallback self
  let mixed := applied.mixer.mix order output
  ({ applied with mixer := mixed.1 }, mixed.2)

end Callback

end PlaybackStream

/-- All the streams of a process, by the order in which they were started. -/
structure Playback (Source : Type) where
  nextAudioSourceId : ℕ
  started : ℕ
  streams : ℕ → Option (PlaybackStream Source)
  stopped : ℕ → Option (StoppedStream Source)
  /-- The ids that were returned, with the stream that was asked. -/
  issued : List (AudioSourceId × ℕ)

namespace Playback

variable {Source : Type}

def new : Playback Source where
  nextAudioSourceId := 0
  started := 0
  streams := fun _ => none
  stopped := fun _ => none
  issued := []

def setStream (self : Playback Source) (stream : ℕ) (value : Option (PlaybackStream Source)) :
    Playback Source :=
  { self with streams := Function.update self.streams stream value }

inductive Move (Source : Type) where
  | start
  | beginCall (stream : ℕ) (call : Call Source)
  | pushOp (stream index : ℕ)
  | dataCallback (stream : ℕ) (order : Enumeration AudioSourceId) (output : List ℚ)
  | stop (stream : ℕ)

/-- A stream is not stopped while a call still borrows it. -/
def step [AudioSource Source] (self : Playback Source) : Move Source → Option (Playback Source)
  | .start =>
      some { self.setStream self.started (some .start) with started := self.started + 1 }
  | .beginCall stream call =>
      (self.streams stream).map fun playing =>
        let next := self.setStream stream (some (playing.beginCall self.nextAudioSourceId call))
        match call with
        | .addAudioSource _ =>
            { next with
              nextAudioSourceId := self.nextAudioSourceId + 1
              issued := (self.nextAudioSourceId, stream) :: self.issued }
        | _ => next
  | .pushOp stream index =>
      (self.streams stream).bind fun playing =>
        (playing.pushOp index).map fun next => self.setStream stream (some next)
  | .dataCallback stream order output =>
      (self.streams stream).map fun playing =>
        self.setStream stream (some (playing.dataCallback order output).1)
  | .stop stream =>
      (self.streams stream).bind fun playing =>
        if playing.underWay.isEmpty then
          some { self.setStream stream none with
            stopped := Function.update self.stopped stream (some playing.stop) }
        else none

/-! ## One step, seen from one stream -/

/-- A stream that is there after a step was there before and did not change, or has just been
started, or has taken part in the step. -/
theorem stream_of_step [AudioSource Source] {self next : Playback Source} {move : Move Source}
    (steps : self.step move = some next) {stream : ℕ} {playing : PlaybackStream Source}
    (live : next.streams stream = some playing) :
    self.streams stream = some playing ∨
    (stream = self.started ∧ playing = .start) ∨
    ∃ before, self.streams stream = some before ∧
      ((∃ call, move = .beginCall stream call ∧
          playing = before.beginCall self.nextAudioSourceId call) ∨
        (∃ index, before.pushOp index = some playing) ∨
        ∃ order output, playing = (before.dataCallback order output).1) := by
  have updated : ∀ {touched : ℕ} {value : Option (PlaybackStream Source)},
      Function.update self.streams touched value stream = some playing →
      self.streams stream = some playing ∨ stream = touched ∧ value = some playing := by
    intro touched value isThere
    by_cases same : stream = touched
    · rw [same, Function.update_self] at isThere
      exact Or.inr ⟨same, isThere⟩
    · rw [Function.update_of_ne same] at isThere
      exact Or.inl isThere
  cases move with
  | start =>
      cases steps
      rcases updated live with same | ⟨isNew, fresh⟩
      · exact Or.inl same
      · cases fresh
        exact Or.inr (Or.inl ⟨isNew, rfl⟩)
  | beginCall touched call =>
      obtain ⟨before, wasThere, rfl⟩ := Option.map_eq_some_iff.mp steps
      have changed : Function.update self.streams touched
          (some (before.beginCall self.nextAudioSourceId call)) stream = some playing := by
        cases call <;> exact live
      rcases updated changed with same | ⟨rfl, fresh⟩
      · exact Or.inl same
      · cases fresh
        exact Or.inr (Or.inr ⟨before, wasThere, Or.inl ⟨call, rfl, rfl⟩⟩)
  | pushOp touched index =>
      obtain ⟨before, wasThere, pushes⟩ := Option.bind_eq_some_iff.mp steps
      obtain ⟨after, pushed, rfl⟩ := Option.map_eq_some_iff.mp pushes
      rcases updated live with same | ⟨rfl, fresh⟩
      · exact Or.inl same
      · cases fresh
        exact Or.inr (Or.inr ⟨before, wasThere, Or.inr (Or.inl ⟨index, pushed⟩)⟩)
  | dataCallback touched order output =>
      obtain ⟨before, wasThere, rfl⟩ := Option.map_eq_some_iff.mp steps
      rcases updated live with same | ⟨rfl, fresh⟩
      · exact Or.inl same
      · cases fresh
        exact Or.inr (Or.inr ⟨before, wasThere, Or.inr (Or.inr ⟨order, output, rfl⟩)⟩)
  | stop touched =>
      obtain ⟨before, wasThere, stops⟩ := Option.bind_eq_some_iff.mp steps
      obtain ⟨isIdle, stopped⟩ := Option.ite_none_right_eq_some.mp stops
      cases stopped
      rcases updated live with same | ⟨rfl, gone⟩
      · exact Or.inl same
      · cases gone

/-- What is left of a stream was left before the step, or the stream has just been stopped. -/
theorem stopped_of_step [AudioSource Source] {self next : Playback Source} {move : Move Source}
    (steps : self.step move = some next) {stream : ℕ} {record : StoppedStream Source}
    (isStopped : next.stopped stream = some record) :
    self.stopped stream = some record ∨
    ∃ before, self.streams stream = some before ∧ before.underWay = [] ∧ record = before.stop := by
  cases move with
  | start =>
      cases steps
      exact Or.inl isStopped
  | beginCall touched call =>
      obtain ⟨before, wasThere, rfl⟩ := Option.map_eq_some_iff.mp steps
      left
      cases call <;> exact isStopped
  | pushOp touched index =>
      obtain ⟨before, wasThere, pushes⟩ := Option.bind_eq_some_iff.mp steps
      obtain ⟨after, pushed, rfl⟩ := Option.map_eq_some_iff.mp pushes
      exact Or.inl isStopped
  | dataCallback touched order output =>
      obtain ⟨before, wasThere, rfl⟩ := Option.map_eq_some_iff.mp steps
      exact Or.inl isStopped
  | stop touched =>
      obtain ⟨before, wasThere, stops⟩ := Option.bind_eq_some_iff.mp steps
      obtain ⟨isIdle, stopped⟩ := Option.ite_none_right_eq_some.mp stops
      cases stopped
      have isStopped : Function.update self.stopped touched (some before.stop) stream =
          some record := isStopped
      by_cases same : stream = touched
      · rw [same, Function.update_self] at isStopped
        cases isStopped
        exact Or.inr ⟨before, same ▸ wasThere, List.isEmpty_iff.mp isIdle, rfl⟩
      · rw [Function.update_of_ne same] at isStopped
        exact Or.inl isStopped

end Playback

/-! ## Where the sources are -/

namespace MixerOp

variable {Source : Type}

/-- The sources that a list of operations carries. -/
def carried (ops : List (MixerOp Source)) : Multiset ℕ :=
  Mixer.addresses (ops.flatMap captured)

theorem carried_append (first second : List (MixerOp Source)) :
    carried (first ++ second) = carried first + carried second := by
  rw [carried, List.flatMap_append, Mixer.addresses_append, carried, carried]

theorem carried_cons (op : MixerOp Source) (ops : List (MixerOp Source)) :
    carried (op :: ops) = Mixer.addresses op.captured + carried ops := by
  rw [carried, List.flatMap_cons, Mixer.addresses_append, carried]

theorem carried_eraseIdx {ops : List (MixerOp Source)} {index : ℕ} {op : MixerOp Source}
    (found : ops[index]? = some op) :
    carried ops = Mixer.addresses op.captured + carried (ops.eraseIdx index) := by
  obtain ⟨inside, rfl⟩ := List.getElem?_eq_some_iff.mp found
  rw [← carried_cons]
  exact Multiset.coe_eq_coe.mpr
    (((List.getElem_cons_eraseIdx_perm inside).symm.flatMap_right captured).map _)

theorem owned_apply [AudioSource Source] (op : MixerOp Source)
    (mixer : Mixer mixerOpsCapacity Source) :
    (op.apply mixer).owned = mixer.owned + Mixer.addresses op.captured := by
  cases op with
  | addSource sourceId source => exact mixer.owned_addSource sourceId source
  | removeSource sourceId => exact (mixer.owned_removeSource sourceId).trans (add_zero _).symm
  | _ => exact (mixer.owned_forward _ _).trans (add_zero _).symm

end MixerOp

namespace PlaybackStream

variable {Source : Type}

/-- Every place in which a source of the stream can be. -/
def owned (self : PlaybackStream Source) : Multiset ℕ :=
  MixerOp.carried self.underWay + MixerOp.carried self.mixerOps.items + self.mixer.owned +
    Mixer.addresses self.freed

theorem removed_drainRemovedSources (self : PlaybackStream Source) :
    self.drainRemovedSources.mixer.removed = [] := by
  rw [drainRemovedSources, Mixer.removed]
  cases self.mixer.removedSources with
  | none => rfl
  | some queue => rfl

theorem owned_drainRemovedSources (self : PlaybackStream Source) :
    self.drainRemovedSources.owned = self.owned := by
  have emptied := self.removed_drainRemovedSources
  have registered : self.drainRemovedSources.mixer.registered = self.mixer.registered := rfl
  have dropped : self.drainRemovedSources.mixer.droppedInline = self.mixer.droppedInline := rfl
  have freed : self.drainRemovedSources.freed = self.freed ++ self.mixer.removed := rfl
  have underWay : self.drainRemovedSources.underWay = self.underWay := rfl
  have queued : self.drainRemovedSources.mixerOps = self.mixerOps := rfl
  unfold owned Mixer.owned
  rw [emptied, registered, dropped, freed, underWay, queued, Mixer.addresses_append,
    Mixer.addresses_nil, add_zero]
  simp only [add_assoc, add_comm, add_left_comm]

theorem owned_callUnderWay (self : PlaybackStream Source) (op : MixerOp Source) :
    (self.callUnderWay op).owned = self.owned + Mixer.addresses op.captured := by
  simp only [owned, callUnderWay, MixerOp.carried_append]
  rw [MixerOp.carried_cons]
  simp only [MixerOp.carried, List.flatMap_nil, Mixer.addresses_nil, add_zero]
  simp only [add_assoc, add_comm]

/-- Every source that was handed over is in exactly one place. -/
def Accounted (self : PlaybackStream Source) : Prop :=
  Mixer.addresses self.handed = self.owned

theorem Accounted.beginCall {self : PlaybackStream Source} (accounted : self.Accounted)
    (nextAudioSourceId : ℕ) (call : Call Source) :
    (self.beginCall nextAudioSourceId call).Accounted := by
  have begun : ∀ op : MixerOp Source, Mixer.addresses op.captured = 0 →
      (self.callUnderWay op).Accounted ∧ (self.drainRemovedSources.callUnderWay op).Accounted := by
    intro op nothing
    unfold Accounted
    rw [owned_callUnderWay, owned_callUnderWay, owned_drainRemovedSources, nothing, add_zero]
    exact ⟨accounted, accounted⟩
  cases call with
  | addAudioSource source =>
      have called := owned_callUnderWay self.drainRemovedSources
        (.addSource nextAudioSourceId source)
      rw [owned_drainRemovedSources] at called
      calc Mixer.addresses (self.handed ++ [source])
          = self.owned + Mixer.addresses [source] := by
            rw [Mixer.addresses_append, accounted]
        _ = _ := called.symm
  | removeAudioSource id => exact (begun _ rfl).2
  | startAudioSource id => exact (begun _ rfl).2
  | stopAudioSource id => exact (begun _ rfl).2
  | restartAudioSource id => exact (begun _ rfl).2
  | setVolume id volume => exact (begun _ rfl).1
  | skipInAudioSource id duration => exact (begun _ rfl).1
  | rewindInAudioSource id duration => exact (begun _ rfl).1

/-- A stream that is stopped frees whatever it was handed and has not freed. -/
theorem Accounted.stop {self : PlaybackStream Source} (accounted : self.Accounted)
    (idle : self.underWay = []) :
    Mixer.addresses self.stop.handed =
      self.stop.freed + Mixer.addresses self.stop.droppedInline := by
  refine accounted.trans ?_
  simp only [owned, idle, MixerOp.carried, List.flatMap_nil, Mixer.addresses_nil, zero_add,
    Mixer.owned, PlaybackStream.stop]
  simp only [add_assoc, add_comm, add_left_comm]

theorem Accounted.pushOp {self next : PlaybackStream Source} {index : ℕ}
    (accounted : self.Accounted) (pushed : self.pushOp index = some next) : next.Accounted := by
  obtain ⟨op, found, rfl⟩ := Option.map_eq_some_iff.mp pushed
  have moved := MixerOp.carried_eraseIdx found
  unfold Accounted at accounted ⊢
  cases pushes : self.mixerOps.tryPush op with
  | some mixerOps =>
      have queued := (BoundedQueue.tryPush_eq_some_iff.mp pushes).2
      simp only [owned, queued, MixerOp.carried_append, MixerOp.carried_cons] at accounted ⊢
      rw [accounted, moved]
      simp only [MixerOp.carried, List.flatMap_nil, Mixer.addresses_nil, add_zero]
      simp only [add_comm, add_left_comm]
  | none =>
      simp only [owned, Mixer.addresses_append] at accounted ⊢
      rw [accounted, moved]
      simp only [add_assoc, add_comm, add_left_comm]

section Callback

variable [AudioSource Source]

theorem owned_applyOps (limit : ℕ) (self : PlaybackStream Source) :
    (applyOps limit self).owned = self.owned ∧ (applyOps limit self).handed = self.handed := by
  induction limit generalizing self with
  | zero => exact ⟨rfl, rfl⟩
  | succ limit ih =>
      rw [applyOps]
      split
      · next op mixerOps popped =>
          have items := BoundedQueue.tryPop_eq_some_iff.mp popped
          refine ⟨(ih _).1.trans ?_, (ih _).2⟩
          simp only [owned, items, MixerOp.carried_cons, MixerOp.owned_apply]
          simp only [add_assoc, add_comm]
      · exact ⟨rfl, rfl⟩

theorem Accounted.dataCallback {self : PlaybackStream Source} (accounted : self.Accounted)
    (order : Enumeration AudioSourceId) (output : List ℚ) :
    (self.dataCallback order output).1.Accounted := by
  obtain ⟨owns, handed⟩ := owned_applyOps mixerOpsPerDataCallback self
  unfold Accounted
  calc Mixer.addresses (self.dataCallback order output).1.handed
      = Mixer.addresses self.handed := congrArg Mixer.addresses handed
    _ = (applyOps mixerOpsPerDataCallback self).owned := accounted.trans owns.symm
    _ = _ := by simp only [owned, PlaybackStream.dataCallback, Mixer.owned_mix]

end Callback

/-! ## The ids of a stream -/

/-- The ids of sources that are not yet in the mixer. -/
def additions (ops : List (MixerOp Source)) : List AudioSourceId :=
  ops.flatMap MixerOp.added

def pendingIds (self : PlaybackStream Source) : List AudioSourceId :=
  additions self.underWay ++ additions self.mixerOps.items

def Knows (self : PlaybackStream Source) (sourceId : AudioSourceId) : Prop :=
  sourceId ∈ self.pendingIds ∨ sourceId ∈ self.mixer.sources.keys

/-- No two sources of a stream share an id. -/
structure Distinct (stream : PlaybackStream Source) : Prop where
  nodup : stream.pendingIds.Nodup
  unregistered : ∀ sourceId ∈ stream.pendingIds, sourceId ∉ stream.mixer.sources.keys

/-- The id that a call uses up. -/
def issuedBy (nextAudioSourceId : ℕ) : Call Source → List AudioSourceId
  | .addAudioSource _ => [nextAudioSourceId]
  | _ => []

theorem pendingIds_beginCall (self : PlaybackStream Source) (nextAudioSourceId : ℕ)
    (call : Call Source) :
    (self.beginCall nextAudioSourceId call).pendingIds =
      additions self.underWay ++ issuedBy nextAudioSourceId call ++ additions self.mixerOps.items := by
  have begun : ∀ op : MixerOp Source,
      (self.callUnderWay op).pendingIds =
        additions self.underWay ++ op.added ++ additions self.mixerOps.items := by
    intro op
    simp only [pendingIds, callUnderWay, additions, List.flatMap_append, List.flatMap_cons,
      List.flatMap_nil, List.append_nil]
  cases call <;> exact begun _

theorem keys_beginCall (self : PlaybackStream Source) (nextAudioSourceId : ℕ)
    (call : Call Source) :
    (self.beginCall nextAudioSourceId call).mixer.sources.keys = self.mixer.sources.keys := by
  cases call <;> rfl

theorem pushOp_cases {self next : PlaybackStream Source} {index : ℕ}
    (pushed : self.pushOp index = some next) :
    ∃ op, self.underWay[index]? = some op ∧ next.underWay = self.underWay.eraseIdx index ∧
      next.mixer = self.mixer ∧
      (next.mixerOps.items = self.mixerOps.items ++ [op] ∨ next.mixerOps = self.mixerOps) := by
  obtain ⟨op, found, rfl⟩ := Option.map_eq_some_iff.mp pushed
  refine ⟨op, found, ?_⟩
  cases pushes : self.mixerOps.tryPush op with
  | some mixerOps =>
      exact ⟨rfl, rfl, Or.inl (BoundedQueue.tryPush_eq_some_iff.mp pushes).2⟩
  | none => exact ⟨rfl, rfl, Or.inr rfl⟩

/-- Queueing an operation gives no id to anybody. -/
theorem pendingIds_pushOp {self next : PlaybackStream Source} {index : ℕ}
    (pushed : self.pushOp index = some next) :
    ∃ dropped, (dropped ++ next.pendingIds).Perm self.pendingIds := by
  obtain ⟨op, found, underWay, -, queued⟩ := pushOp_cases pushed
  obtain ⟨inside, rfl⟩ := List.getElem?_eq_some_iff.mp found
  have moved : (self.underWay[index].added ++ additions (self.underWay.eraseIdx index)).Perm
      (additions self.underWay) := by
    rw [additions, ← List.flatMap_cons]
    exact (List.getElem_cons_eraseIdx_perm inside).flatMap_right _
  rcases queued with queued | kept
  · refine ⟨[], ?_⟩
    rw [List.nil_append, pendingIds, pendingIds, underWay, queued, additions, additions,
      List.flatMap_append, List.flatMap_cons, List.flatMap_nil, List.append_nil]
    refine List.Perm.trans ?_ (moved.append_right _)
    rw [← List.append_assoc, List.append_assoc self.underWay[index].added]
    exact List.perm_append_comm
  · refine ⟨self.underWay[index].added, ?_⟩
    rw [pendingIds, pendingIds, underWay, kept, ← List.append_assoc]
    exact moved.append_right _

theorem Distinct.of_perm {self next : PlaybackStream Source} {dropped : List AudioSourceId}
    (distinct : self.Distinct) (perm : (dropped ++ next.pendingIds).Perm self.pendingIds)
    (keys : next.mixer.sources.keys = self.mixer.sources.keys) : next.Distinct where
  nodup := (List.nodup_append.mp (perm.nodup_iff.mpr distinct.nodup)).2.1
  unregistered := fun sourceId isPending => by
    rw [keys]
    exact distinct.unregistered sourceId (perm.mem_iff.mp (List.mem_append_right _ isPending))

section Callback

variable [AudioSource Source]

theorem mem_keys_apply (op : MixerOp Source) (mixer : Mixer mixerOpsCapacity Source)
    (sourceId : AudioSourceId) (isKey : sourceId ∈ (op.apply mixer).sources.keys) :
    sourceId ∈ op.added ∨ sourceId ∈ mixer.sources.keys := by
  cases op with
  | addSource added source =>
      rw [MixerOp.apply, Mixer.sources_addSource, Finmap.keys_insert_eq] at isKey
      rcases Finset.mem_insert.mp isKey with same | old
      · exact Or.inl (List.mem_singleton.mpr same)
      · exact Or.inr old
  | removeSource removed =>
      rw [MixerOp.apply, Mixer.sources_removeSource, Finmap.keys_erase] at isKey
      exact Or.inr (Finset.mem_of_mem_erase isKey)
  | _ => exact Or.inr (Mixer.keys_forward mixer _ _ ▸ isKey)

/-- The first operation in the queue is applied. -/
theorem Distinct.applyOp {self : PlaybackStream Source} (distinct : self.Distinct)
    {op : MixerOp Source} {mixerOps : BoundedQueue mixerOpsCapacity (MixerOp Source)}
    (items : self.mixerOps.items = op :: mixerOps.items) :
    PlaybackStream.Distinct { self with mixerOps := mixerOps, mixer := op.apply self.mixer } ∧
    ∀ sourceId, PlaybackStream.Knows
        { self with mixerOps := mixerOps, mixer := op.apply self.mixer } sourceId →
      self.Knows sourceId := by
  have perm : (op.added ++ (additions self.underWay ++ additions mixerOps.items)).Perm
      self.pendingIds := by
    rw [pendingIds, items, additions, additions, additions, List.flatMap_cons,
      ← List.append_assoc, ← List.append_assoc]
    exact List.perm_append_comm.append_right _
  have nodup := perm.nodup_iff.mpr distinct.nodup
  obtain ⟨-, restNodup, apart⟩ := List.nodup_append.mp nodup
  refine ⟨⟨restNodup, fun sourceId isPending isKey => ?_⟩, fun sourceId known => ?_⟩
  · rcases mem_keys_apply op self.mixer sourceId isKey with isAdded | old
    · exact apart sourceId isAdded sourceId isPending rfl
    · exact distinct.unregistered sourceId
        (perm.mem_iff.mp (List.mem_append_right _ isPending)) old
  · rcases known with isPending | isKey
    · exact Or.inl (perm.mem_iff.mp (List.mem_append_right _ isPending))
    · rcases mem_keys_apply op self.mixer sourceId isKey with isAdded | old
      · exact Or.inl (perm.mem_iff.mp (List.mem_append_left _ isAdded))
      · exact Or.inr old

theorem Distinct.applyOps (limit : ℕ) {self : PlaybackStream Source} (distinct : self.Distinct) :
    (applyOps limit self).Distinct ∧
    ∀ sourceId, (applyOps limit self).Knows sourceId → self.Knows sourceId := by
  induction limit generalizing self with
  | zero => exact ⟨distinct, fun _ known => known⟩
  | succ limit ih =>
      rw [PlaybackStream.applyOps]
      split
      · next op mixerOps popped =>
          obtain ⟨kept, knew⟩ := distinct.applyOp (BoundedQueue.tryPop_eq_some_iff.mp popped)
          exact ⟨(ih kept).1, fun sourceId known => knew sourceId ((ih kept).2 sourceId known)⟩
      · exact ⟨distinct, fun _ known => known⟩

theorem Distinct.dataCallback {self : PlaybackStream Source} (distinct : self.Distinct)
    (order : Enumeration AudioSourceId) (output : List ℚ) :
    (self.dataCallback order output).1.Distinct ∧
    ∀ sourceId, (self.dataCallback order output).1.Knows sourceId → self.Knows sourceId := by
  obtain ⟨applied, knew⟩ := distinct.applyOps mixerOpsPerDataCallback
  have keys := Mixer.keys_mix (PlaybackStream.applyOps mixerOpsPerDataCallback self).mixer order
    output
  have pending : ([] ++ (self.dataCallback order output).1.pendingIds).Perm
      (PlaybackStream.applyOps mixerOpsPerDataCallback self).pendingIds := List.Perm.refl _
  refine ⟨applied.of_perm pending keys, fun sourceId known => ?_⟩
  refine knew sourceId (known.imp id fun isKey => ?_)
  rw [← keys]
  exact isKey

end Callback

/-! ## What the audio thread frees -/

def removals (ops : List (MixerOp Source)) : ℕ := ops.countP MixerOp.removes

/-- Nothing was dropped in place, and everything that is pending still fits in the queue of
removed sources. -/
structure Quiet (stream : PlaybackStream Source) : Prop where
  hasQueue : stream.mixer.removedSources.isSome
  nothing : stream.mixer.droppedInline = []
  room : stream.mixer.removed.length + removals stream.underWay +
    removals stream.mixerOps.items ≤ mixerOpsCapacity

theorem removals_append (first second : List (MixerOp Source)) :
    removals (first ++ second) = removals first + removals second :=
  List.countP_append

theorem removals_cons (op : MixerOp Source) (ops : List (MixerOp Source)) :
    removals (op :: ops) = removals ops + if op.removes then 1 else 0 :=
  List.countP_cons

theorem removals_singleton (op : MixerOp Source) :
    removals [op] = if op.removes then 1 else 0 :=
  (removals_cons op []).trans (Nat.zero_add _)

theorem removals_eraseIdx {ops : List (MixerOp Source)} {index : ℕ} {op : MixerOp Source}
    (found : ops[index]? = some op) :
    removals ops = removals (ops.eraseIdx index) + if op.removes then 1 else 0 := by
  obtain ⟨inside, rfl⟩ := List.getElem?_eq_some_iff.mp found
  rw [← removals_cons]
  exact (List.getElem_cons_eraseIdx_perm inside).symm.countP_eq _

/-- A removal begins while fewer removals are pending than the queue of operations holds. -/
def RemovalFits (self : PlaybackStream Source) : Call Source → Prop
  | .removeAudioSource _ => removals self.underWay + removals self.mixerOps.items < mixerOpsCapacity
  | _ => True

instance (self : PlaybackStream Source) : ∀ call, Decidable (self.RemovalFits call)
  | .removeAudioSource _ => inferInstanceAs (Decidable (_ < _))
  | .addAudioSource _ => isTrue trivial
  | .startAudioSource _ => isTrue trivial
  | .stopAudioSource _ => isTrue trivial
  | .restartAudioSource _ => isTrue trivial
  | .setVolume _ _ => isTrue trivial
  | .skipInAudioSource _ _ => isTrue trivial
  | .rewindInAudioSource _ _ => isTrue trivial

theorem Quiet.drainRemovedSources {self : PlaybackStream Source} (quiet : self.Quiet) :
    self.drainRemovedSources.Quiet where
  hasQueue := Option.isSome_map.trans quiet.hasQueue
  nothing := quiet.nothing
  room := by
    rw [removed_drainRemovedSources]
    exact (Nat.add_le_add_right (Nat.add_le_add_right (Nat.zero_le _) _) _).trans quiet.room

theorem Quiet.callUnderWay {self : PlaybackStream Source} (quiet : self.Quiet)
    {op : MixerOp Source} (keeps : op.removes = false) : (self.callUnderWay op).Quiet where
  hasQueue := quiet.hasQueue
  nothing := quiet.nothing
  room := by
    have none : removals (self.underWay ++ [op]) = removals self.underWay := by
      rw [removals_append, removals_singleton, keeps]
      rfl
    rw [PlaybackStream.callUnderWay, none]
    exact quiet.room

theorem Quiet.beginCall {self : PlaybackStream Source} (quiet : self.Quiet)
    (nextAudioSourceId : ℕ) {call : Call Source} (fits : self.RemovalFits call) :
    (self.beginCall nextAudioSourceId call).Quiet := by
  have drained := quiet.drainRemovedSources
  cases call with
  | addAudioSource source =>
      have keeps : (MixerOp.addSource nextAudioSourceId source).removes = false := rfl
      have begun := drained.callUnderWay keeps
      exact ⟨begun.hasQueue, begun.nothing, begun.room⟩
  | removeAudioSource id =>
      refine ⟨drained.hasQueue, drained.nothing, ?_⟩
      have one : removals (self.underWay ++ [.removeSource id]) = removals self.underWay + 1 := by
        rw [removals_append]
        rfl
      have pending : removals self.underWay + removals self.mixerOps.items < mixerOpsCapacity := fits
      have emptied := removed_drainRemovedSources self
      change self.drainRemovedSources.mixer.removed.length +
        removals (self.underWay ++ [.removeSource id]) + removals self.mixerOps.items ≤ _
      rw [emptied, one, List.length_nil]
      omega
  | startAudioSource id => exact drained.callUnderWay rfl
  | stopAudioSource id => exact drained.callUnderWay rfl
  | restartAudioSource id => exact drained.callUnderWay rfl
  | setVolume id volume => exact quiet.callUnderWay rfl
  | skipInAudioSource id duration => exact quiet.callUnderWay rfl
  | rewindInAudioSource id duration => exact quiet.callUnderWay rfl

theorem Quiet.pushOp {self next : PlaybackStream Source} {index : ℕ} (quiet : self.Quiet)
    (pushed : self.pushOp index = some next) : next.Quiet := by
  obtain ⟨op, found, underWay, mixer, queued⟩ := pushOp_cases pushed
  have moved := removals_eraseIdx found
  have room := quiet.room
  refine ⟨mixer ▸ quiet.hasQueue, mixer ▸ quiet.nothing, ?_⟩
  rw [mixer, underWay]
  rcases queued with queued | kept
  · have one : removals next.mixerOps.items =
        removals self.mixerOps.items + if op.removes then 1 else 0 := by
      rw [queued, removals_append, removals_singleton]
    omega
  · rw [kept]
    omega

section Callback

variable [AudioSource Source]

/-- Applying an operation hands back at most the one source that it removes. -/
theorem apply_quiet {op : MixerOp Source} {mixer : Mixer mixerOpsCapacity Source}
    (hasQueue : mixer.removedSources.isSome)
    (fresh : ∀ sourceId ∈ op.added, sourceId ∉ mixer.sources.keys)
    (room : op.removes = true → mixer.removed.length < mixerOpsCapacity) :
    (op.apply mixer).removedSources.isSome ∧
      (op.apply mixer).droppedInline = mixer.droppedInline ∧
      (op.apply mixer).removed.length ≤ mixer.removed.length + if op.removes then 1 else 0 := by
  have forwarded : ∀ (target : AudioSourceId) (call : Source → Source),
      (mixer.forward target call).removedSources.isSome ∧
        (mixer.forward target call).droppedInline = mixer.droppedInline ∧
        (mixer.forward target call).removed.length ≤ mixer.removed.length := by
    intro target call
    unfold Mixer.forward
    split
    · exact ⟨hasQueue, rfl, Nat.le_refl _⟩
    · exact ⟨hasQueue, rfl, Nat.le_refl _⟩
  cases op with
  | addSource added source =>
      rw [MixerOp.apply, Mixer.addSource_of_absent (fresh added (List.mem_singleton.mpr rfl))]
      exact ⟨hasQueue, rfl, Nat.le_add_right _ _⟩
  | removeSource removed => exact Mixer.removeSource_of_room hasQueue (room rfl) removed
  | _ => exact forwarded _ _

theorem Quiet.applyOps (limit : ℕ) {self : PlaybackStream Source} (quiet : self.Quiet)
    (distinct : self.Distinct) : (applyOps limit self).Quiet := by
  induction limit generalizing self with
  | zero => exact quiet
  | succ limit ih =>
      rw [PlaybackStream.applyOps]
      split
      · next op mixerOps popped =>
          have items := BoundedQueue.tryPop_eq_some_iff.mp popped
          have counted := quiet.room
          rw [items, removals_cons] at counted
          have fresh : ∀ sourceId ∈ op.added, sourceId ∉ self.mixer.sources.keys := by
            intro sourceId isAdded
            refine distinct.unregistered sourceId (List.mem_append_right _ ?_)
            rw [items, additions, List.flatMap_cons]
            exact List.mem_append_left _ isAdded
          obtain ⟨hasQueue, nothing, grown⟩ := apply_quiet quiet.hasQueue fresh fun isRemoval => by
            rw [if_pos isRemoval] at counted
            omega
          refine ih ⟨hasQueue, nothing.trans quiet.nothing, ?_⟩ (distinct.applyOp items).1
          change (op.apply self.mixer).removed.length + removals self.underWay +
            removals mixerOps.items ≤ mixerOpsCapacity
          omega
      · exact quiet

theorem Quiet.dataCallback {self : PlaybackStream Source} (quiet : self.Quiet)
    (distinct : self.Distinct) (order : Enumeration AudioSourceId) (output : List ℚ) :
    (self.dataCallback order output).1.Quiet := by
  have applied := quiet.applyOps mixerOpsPerDataCallback distinct
  exact ⟨applied.hasQueue, applied.nothing, applied.room⟩

end Callback

end PlaybackStream

namespace Playback

variable {Source : Type}

/-- The ids that were given out are distinct, and a stream knows only the ids that were given
out for it. -/
structure WellIssued (playback : Playback Source) : Prop where
  nodup : (playback.issued.map Prod.fst).Nodup
  below : ∀ pair ∈ playback.issued, pair.1 < playback.nextAudioSourceId
  known : ∀ stream playing, playback.streams stream = some playing →
    ∀ sourceId, playing.Knows sourceId → (sourceId, stream) ∈ playback.issued
  distinct : ∀ stream playing, playback.streams stream = some playing → playing.Distinct

theorem wellIssued_new : (new : Playback Source).WellIssued where
  nodup := List.nodup_nil
  below := fun _ isIssued => nomatch isIssued
  known := fun _ _ live => nomatch live
  distinct := fun _ _ live => nomatch live

variable [AudioSource Source]

/-- The record of issued ids only grows, by ids that were not given out before. -/
theorem issued_of_step {self next : Playback Source} {move : Move Source}
    (steps : self.step move = some next) :
    (next.issued = self.issued ∧ next.nextAudioSourceId = self.nextAudioSourceId ∧
      ∀ stream source, move ≠ .beginCall stream (.addAudioSource source)) ∨
    ∃ stream source, move = .beginCall stream (.addAudioSource source) ∧
      next.issued = (self.nextAudioSourceId, stream) :: self.issued ∧
      next.nextAudioSourceId = self.nextAudioSourceId + 1 := by
  cases move with
  | start =>
      cases steps
      exact Or.inl ⟨rfl, rfl, fun _ _ same => nomatch same⟩
  | beginCall touched call =>
      obtain ⟨before, wasThere, rfl⟩ := Option.map_eq_some_iff.mp steps
      cases call with
      | addAudioSource source => exact Or.inr ⟨touched, source, rfl, rfl, rfl⟩
      | _ => exact Or.inl ⟨rfl, rfl, fun _ _ same => by cases same⟩
  | pushOp touched index =>
      obtain ⟨before, wasThere, pushes⟩ := Option.bind_eq_some_iff.mp steps
      obtain ⟨after, pushed, rfl⟩ := Option.map_eq_some_iff.mp pushes
      exact Or.inl ⟨rfl, rfl, fun _ _ same => nomatch same⟩
  | dataCallback touched order output =>
      obtain ⟨before, wasThere, rfl⟩ := Option.map_eq_some_iff.mp steps
      exact Or.inl ⟨rfl, rfl, fun _ _ same => nomatch same⟩
  | stop touched =>
      obtain ⟨before, wasThere, stops⟩ := Option.bind_eq_some_iff.mp steps
      obtain ⟨isIdle, stopped⟩ := Option.ite_none_right_eq_some.mp stops
      cases stopped
      exact Or.inl ⟨rfl, rfl, fun _ _ same => nomatch same⟩

theorem WellIssued.step {self next : Playback Source} {move : Move Source}
    (wellIssued : self.WellIssued) (steps : self.step move = some next) : next.WellIssued := by
  have grows : ∀ pair ∈ self.issued, pair ∈ next.issued := by
    intro pair isIssued
    rcases issued_of_step steps with ⟨same, -, -⟩ | ⟨stream, source, -, extended, -⟩
    · exact same ▸ isIssued
    · exact extended ▸ List.mem_cons_of_mem _ isIssued
  have streams : ∀ stream playing, next.streams stream = some playing → playing.Distinct ∧
      ∀ sourceId, playing.Knows sourceId → (sourceId, stream) ∈ next.issued := by
    intro stream playing live
    rcases stream_of_step steps live with same | ⟨rfl, rfl⟩ | ⟨before, wasThere, changed⟩
    · exact ⟨wellIssued.distinct stream playing same, fun sourceId known =>
        grows _ (wellIssued.known stream playing same sourceId known)⟩
    · refine ⟨⟨List.nodup_nil, fun _ isPending => nomatch isPending⟩, fun sourceId known => ?_⟩
      rcases known with isPending | isKey
      · cases isPending
      · cases isKey
    · have distinct := wellIssued.distinct stream before wasThere
      have known := wellIssued.known stream before wasThere
      rcases changed with ⟨call, rfl, rfl⟩ | ⟨index, pushed⟩ | ⟨order, output, rfl⟩
      · have pending := before.pendingIds_beginCall self.nextAudioSourceId call
        have keys := before.keys_beginCall self.nextAudioSourceId call
        have perm : (before.beginCall self.nextAudioSourceId call).pendingIds.Perm
            (PlaybackStream.issuedBy self.nextAudioSourceId call ++ before.pendingIds) := by
          rw [pending, PlaybackStream.pendingIds, ← List.append_assoc]
          exact List.perm_append_comm.append_right _
        have isNew : ∀ sourceId ∈ PlaybackStream.issuedBy self.nextAudioSourceId call,
            (sourceId, stream) ∈ next.issued ∧ ¬ before.Knows sourceId := by
          intro sourceId isIssued
          cases call with
          | addAudioSource source =>
              cases List.mem_singleton.mp isIssued
              refine ⟨?_, fun knows =>
                Nat.lt_irrefl _ (wellIssued.below _ (known _ knows))⟩
              rcases issued_of_step steps with ⟨-, -, other⟩ | ⟨touched, added, same, extended, -⟩
              · exact absurd rfl (other stream source)
              · cases same
                rw [extended]
                exact List.mem_cons_self
          | _ => cases isIssued
        refine ⟨⟨perm.nodup_iff.mpr (List.nodup_append.mpr ⟨?_, distinct.nodup, ?_⟩), ?_⟩, ?_⟩
        · cases call <;> simp only [PlaybackStream.issuedBy, List.nodup_nil, List.nodup_cons,
            List.not_mem_nil, not_false_eq_true, and_self]
        · rintro sourceId isIssued _ isPending rfl
          exact (isNew sourceId isIssued).2 (Or.inl isPending)
        · intro sourceId isPending
          rw [keys]
          rcases List.mem_append.mp (perm.mem_iff.mp isPending) with isIssued | old
          · exact fun isKey => (isNew sourceId isIssued).2 (Or.inr isKey)
          · exact distinct.unregistered sourceId old
        · rintro sourceId (isPending | isKey)
          · rcases List.mem_append.mp (perm.mem_iff.mp isPending) with isIssued | old
            · exact (isNew sourceId isIssued).1
            · exact grows _ (known sourceId (Or.inl old))
          · rw [keys] at isKey
            exact grows _ (known sourceId (Or.inr isKey))
      · obtain ⟨dropped, perm⟩ := PlaybackStream.pendingIds_pushOp pushed
        obtain ⟨op, -, -, mixer, -⟩ := PlaybackStream.pushOp_cases pushed
        refine ⟨distinct.of_perm perm (mixer ▸ rfl), ?_⟩
        rintro sourceId (isPending | isKey)
        · exact grows _ (known sourceId
            (Or.inl (perm.mem_iff.mp (List.mem_append_right _ isPending))))
        · exact grows _ (known sourceId (Or.inr (mixer ▸ isKey)))
      · obtain ⟨kept, knew⟩ := distinct.dataCallback order output
        exact ⟨kept, fun sourceId knows => grows _ (known sourceId (knew sourceId knows))⟩
  refine ⟨?_, ?_, fun stream playing live => (streams stream playing live).2,
    fun stream playing live => (streams stream playing live).1⟩
  · rcases issued_of_step steps with ⟨same, -, -⟩ | ⟨stream, source, -, extended, -⟩
    · rw [same]
      exact wellIssued.nodup
    · rw [extended, List.map_cons]
      refine List.nodup_cons.mpr ⟨fun isOld => ?_, wellIssued.nodup⟩
      obtain ⟨pair, isIssued, same⟩ := List.mem_map.mp isOld
      exact Nat.lt_irrefl _ (same ▸ wellIssued.below pair isIssued)
  · intro pair isIssued
    rcases issued_of_step steps with ⟨same, counter, -⟩ | ⟨stream, source, -, extended, counter⟩
    · rw [counter]
      exact wellIssued.below pair (same ▸ isIssued)
    · rw [counter]
      rw [extended] at isIssued
      rcases List.mem_cons.mp isIssued with rfl | old
      · exact Nat.lt_succ_self _
      · exact Nat.lt_succ_of_lt (wellIssued.below pair old)

/-! ## Whole runs -/

/-- **Nothing leaks and nothing is freed twice.** In every run of control calls, callbacks,
starts and stops, every source that was handed to a stream is in exactly one place: with a
call under way, in the queue, in the mixer, in the queue of removed sources, or freed. A
stream that has been stopped has freed every source that it was handed. -/
theorem handed_eq_owned {moves : List (Move Source)} {final : Playback Source}
    (runs : GuardedRuns.runMoves step new moves = some final) :
    (∀ stream playing, final.streams stream = some playing →
      Mixer.addresses playing.handed = playing.owned) ∧
    ∀ stream record, final.stopped stream = some record →
      Mixer.addresses record.handed = record.freed + Mixer.addresses record.droppedInline := by
  let AllAccounted (state : Playback Source) : Prop :=
    (∀ stream playing, state.streams stream = some playing → playing.Accounted) ∧
    ∀ stream record, state.stopped stream = some record →
      Mixer.addresses record.handed = record.freed + Mixer.addresses record.droppedInline
  suffices all : AllAccounted final from all
  refine GuardedRuns.runMoves_preserves ?_ runs
    ⟨fun _ _ live => (nomatch live), fun _ _ isStopped => (nomatch isStopped)⟩
  rintro state move next ⟨accounted, settled⟩ steps
  constructor
  · intro stream playing live
    rcases stream_of_step steps live with same | ⟨rfl, rfl⟩ | ⟨before, wasThere, changed⟩
    · exact accounted stream playing same
    · rfl
    · have held := accounted stream before wasThere
      rcases changed with ⟨call, -, rfl⟩ | ⟨index, pushed⟩ | ⟨order, output, rfl⟩
      · exact held.beginCall _ call
      · exact held.pushOp pushed
      · exact held.dataCallback order output
  · intro stream record isStopped
    rcases stopped_of_step steps isStopped with earlier | ⟨before, wasThere, idle, rfl⟩
    · exact settled stream record earlier
    · exact (accounted stream before wasThere).stop idle

/-- Two streams, and a call source that the first of them plays and then removes. -/
def addedAndRemoved : List (Move OpusSource) :=
  [.start, .start, .beginCall 0 (.addAudioSource ⟨7, .new 2 1 1⟩), .pushOp 0 0,
    .dataCallback 0 (.increasing AudioSourceId) [0, 0], .beginCall 0 (.removeAudioSource 0),
    .pushOp 0 0, .dataCallback 0 (.increasing AudioSourceId) [0, 0]]

theorem addedAndRemoved_runs : ∃ final first second,
    GuardedRuns.runMoves step new addedAndRemoved = some final ∧
    final.streams 0 = some first ∧ final.streams 1 = some second ∧
    (0, 0) ∈ final.issued ∧ first.handed.map BoxedSource.address = [7] :=
  ⟨_, _, _, rfl, rfl, rfl, List.mem_singleton_self _, rfl⟩

/-- The first stream is stopped while a second source of it is on its way to the mixer. -/
def stoppedEarly : List (Move OpusSource) :=
  addedAndRemoved ++ [.beginCall 0 (.addAudioSource ⟨8, .new 2 1 1⟩), .pushOp 0 0, .stop 0]

theorem stoppedEarly_runs : ∃ final second record,
    GuardedRuns.runMoves step new stoppedEarly = some final ∧
    final.streams 1 = some second ∧ final.stopped 0 = some record ∧
    record.handed.map BoxedSource.address = [7, 8] :=
  ⟨_, _, _, rfl, rfl, rfl, rfl⟩

theorem handed_eq_owned_stoppedEarly :
    ∃ (second : PlaybackStream OpusSource) (record : StoppedStream OpusSource),
      Mixer.addresses second.handed = second.owned ∧
      Mixer.addresses record.handed = record.freed + Mixer.addresses record.droppedInline ∧
      record.handed.map BoxedSource.address = [7, 8] := by
  obtain ⟨final, second, record, runs, isSecond, isStopped, handed⟩ := stoppedEarly_runs
  obtain ⟨accounted, settled⟩ := handed_eq_owned runs
  exact ⟨second, record, accounted 1 second isSecond, settled 0 record isStopped, handed⟩

/-- **An id never reaches a source of another stream.** An operation on an id that was given
out for one stream leaves the mixer of every other stream as it is, whether or not the first
stream still exists. -/
theorem foreign_id_ignored {moves : List (Move Source)} {final : Playback Source}
    (runs : GuardedRuns.runMoves step new moves = some final) {sourceId : AudioSourceId}
    {owner stream : ℕ} (issued : (sourceId, owner) ∈ final.issued) (foreign : stream ≠ owner)
    {playing : PlaybackStream Source} (live : final.streams stream = some playing)
    {op : MixerOp Source} (about : op.target = some sourceId) :
    op.apply playing.mixer = playing.mixer := by
  have wellIssued : final.WellIssued := GuardedRuns.runMoves_preserves
    (fun _ _ _ kept steps => WellIssued.step kept steps) runs wellIssued_new
  have absent : playing.mixer.sources.lookup sourceId = none := by
    rw [Finmap.lookup_eq_none, ← Finmap.mem_keys]
    intro isKey
    have known := wellIssued.known stream playing live sourceId (Or.inr isKey)
    have same := List.inj_on_of_nodup_map wellIssued.nodup known issued rfl
    exact foreign (congrArg Prod.snd same)
  have ignored : ∀ call : Source → Source, playing.mixer.forward sourceId call = playing.mixer := by
    intro call
    rw [Mixer.forward, absent]
  cases op with
  | addSource added source => cases about
  | removeSource removed =>
      cases about
      rw [MixerOp.apply, Mixer.removeSource, absent]
  | startSource target =>
      cases about
      exact ignored _
  | stopSource target =>
      cases about
      exact ignored _
  | restartSource target =>
      cases about
      exact ignored _
  | setSourceVolume target volume =>
      cases about
      exact ignored fun source => AudioSource.setVolume source volume
  | skipInSource target duration =>
      cases about
      exact ignored fun source => AudioSource.skip source duration
  | rewindInSource target duration =>
      cases about
      exact ignored fun source => AudioSource.rewind source duration

theorem foreign_id_ignored_addedAndRemoved :
    ∃ final : Playback OpusSource, GuardedRuns.runMoves step new addedAndRemoved = some final ∧
    ∀ playing, final.streams 1 = some playing →
      (MixerOp.stopSource 0).apply playing.mixer = playing.mixer := by
  obtain ⟨final, first, second, runs, isFirst, isSecond, issued, handed⟩ := addedAndRemoved_runs
  exact ⟨final, runs, fun playing live =>
    foreign_id_ignored runs issued Nat.one_ne_zero live rfl⟩

/-- Every removal begins while fewer removals are pending than the queue of operations
holds. -/
def RemovalsFit (self : Playback Source) : Move Source → Prop
  | .beginCall stream call => ∀ playing ∈ self.streams stream, playing.RemovalFits call
  | _ => True

instance (self : Playback Source) : ∀ move, Decidable (self.RemovalsFit move)
  | .beginCall stream call =>
      inferInstanceAs (Decidable (∀ playing ∈ self.streams stream, playing.RemovalFits call))
  | .start => isTrue trivial
  | .pushOp _ _ => isTrue trivial
  | .dataCallback _ _ _ => isTrue trivial
  | .stop _ => isTrue trivial

/-- **The audio thread frees nothing.** However control calls overlap with each other and
with callbacks, no callback drops a source in place, of a stream that plays or of one that has
been stopped since, provided that no removal begins while as many removals are pending as the
queue of operations holds. -/
theorem audioThread_frees_nothing {moves : List (Move Source)} {final : Playback Source}
    (fits : GuardedRuns.Guarded step RemovalsFit (new : Playback Source) moves)
    (runs : GuardedRuns.runMoves step new moves = some final) :
    (∀ stream playing, final.streams stream = some playing →
      playing.mixer.droppedInline = []) ∧
    ∀ stream record, final.stopped stream = some record → record.droppedInline = [] := by
  let AllQuiet (state : Playback Source) : Prop :=
    (∀ stream playing, state.streams stream = some playing → playing.Quiet) ∧
    ∀ stream record, state.stopped stream = some record → record.droppedInline = []
  let WellIssuedAndQuiet (state : Playback Source) : Prop := state.WellIssued ∧ AllQuiet state
  have quiet : WellIssuedAndQuiet final := by
    refine GuardedRuns.Guarded.preserves ?_ fits runs ⟨wellIssued_new,
      fun _ _ live => (nomatch live), fun _ _ isStopped => (nomatch isStopped)⟩
    rintro state move next ⟨wellIssued, quiet, nothing⟩ fit steps
    refine ⟨wellIssued.step steps, fun stream playing live => ?_, fun stream record isStopped => ?_⟩
    · rcases stream_of_step steps live with same | ⟨rfl, rfl⟩ | ⟨before, wasThere, changed⟩
      · exact quiet stream playing same
      · exact ⟨rfl, rfl, Nat.zero_le _⟩
      · have wasQuiet := quiet stream before wasThere
        rcases changed with ⟨call, rfl, rfl⟩ | ⟨index, pushed⟩ | ⟨order, output, rfl⟩
        · exact wasQuiet.beginCall _ (fit before wasThere)
        · exact wasQuiet.pushOp pushed
        · exact wasQuiet.dataCallback (wellIssued.distinct stream before wasThere) order output
    · rcases stopped_of_step steps isStopped with earlier | ⟨before, wasThere, -, rfl⟩
      · exact nothing stream record earlier
      · exact (quiet stream before wasThere).nothing
  exact ⟨fun stream playing live => (quiet.2.1 stream playing live).nothing, quiet.2.2⟩

theorem audioThread_frees_nothing_stoppedEarly :
    ∃ (second : PlaybackStream OpusSource) (record : StoppedStream OpusSource),
      second.mixer.droppedInline = [] ∧ record.droppedInline = [] ∧
      record.handed.map BoxedSource.address = [7, 8] := by
  obtain ⟨final, second, record, runs, isSecond, isStopped, handed⟩ := stoppedEarly_runs
  have fits : GuardedRuns.Guarded step RemovalsFit (new : Playback OpusSource)
      stoppedEarly := by decide +kernel
  obtain ⟨playing, stopped⟩ := audioThread_frees_nothing fits runs
  exact ⟨second, record, playing 1 second isSecond, stopped 0 record isStopped, handed⟩

end Playback

end Audio

end Vacs
