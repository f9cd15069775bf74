import Tox4j.Events.AvDispatch
import Tox4j.Events.CoreDispatch
import Tox4j.Lib.Run

/-!
# `Tox4j.Events.Iterate`: events are delivered exactly once

`toxIterate` and `toxavIterate` run the callbacks of toxcore, and then serialise the queue and
empty it, or return null when its size is zero. The two differ in their types only, so they are
one function `iterate`. The `invoke` entry points run a callback between two of its calls.

`native` is the system of all sequences of these calls on one instance. `History` groups the
events of a run: those of each call of `iterate`, and those that are pending. `exactlyOnce_of_run`
is the main result, for both kinds of instances: what each call passes to a listener is the
events of that call, and all events together are those that were raised. `Av.Called` says what the
call of a listener is for each kind of event, without the functions of the dispatch.
-/

set_option autoImplicit false

namespace Tox4j.Events

open Tox4j.Lib
open Tox4j.Native (Fatal)

section

variable {Message Event : Type}

/-- The native part of `iterate`, with the callbacks that toxcore makes: the array it returns and
the queue after it. The buffer has the size of the serialised message. -/
def iterate (queue : EventQueue Message Event) (codec : Codec Message) (cbs : List Event)
    (events : Message) : Except Fatal (Option Bytes × Message) := do
  let events ← cbs.foldlM queue.run events
  if codec.byteSizeLong events = 0 then return (none, events)
  let buffer := codec.serializeToArray events
  return (some buffer, queue.empty)

/-- The calls on an instance. -/
inductive Label (Event : Type)
  /-- An `invoke` entry point runs a callback. -/
  | invoked (e : Event)
  /-- `iterate`, with the callbacks that toxcore makes and the array that it returns. -/
  | iterated (cbs : List Event) (data : Option Bytes)

/-- All sequences of calls on one instance, which its lock puts one after the other. -/
def native (queue : EventQueue Message Event)
    (iterate : List Event → Message → Except Fatal (Option Bytes × Message)) :
    System Message (Label Event) where
  init events := events = queue.empty
  step events l events' :=
    match l with
    | .invoked e => queue.run events e = .ok events'
    | .iterated cbs data => iterate cbs events = .ok (data, events')

/-- The events of a sequence of calls. -/
structure History (Event : Type) where
  /-- For each call of `iterate`, the events since the one before it. -/
  batches : List (List Event)
  /-- What each call of `iterate` returned. -/
  results : List (Option Bytes)
  /-- The events since the last call of `iterate`. -/
  pending : List Event

namespace History

/-- One more call: an event goes to the pending ones, and `iterate` takes them all as its batch. -/
def step (h : History Event) : Label Event → History Event
  | .invoked e => { h with pending := h.pending ++ [e] }
  | .iterated cbs data => ⟨h.batches ++ [h.pending ++ cbs], h.results ++ [data], []⟩

end History

/-- The history of a sequence of calls. -/
def history (ls : List (Label Event)) : History Event := ls.foldl History.step ⟨[], [], []⟩

/-- All events that were raised, in their order. -/
def raised (ls : List (Label Event)) : List Event :=
  ls.flatMap fun
    | .invoked e => [e]
    | .iterated cbs _ => cbs

/-- The history of one more call. -/
theorem history_concat (ls : List (Label Event)) (l : Label Event) :
    history (ls ++ [l]) = (history ls).step l := by
  simp [history, List.foldl_append]

/-- The events that were raised, with those of one more call. -/
theorem raised_concat (ls : List (Label Event)) (l : Label Event) :
    raised (ls ++ [l]) = raised ls ++ raised [l] := by
  simp [raised]

/-- What `iterate` returns for a batch of events. -/
def Returns (queue : EventQueue Message Event) (codec : Codec Message) (batch : List Event)
    (data : Option Bytes) : Prop :=
  batch = [] ∧ data = none ∨
    batch ≠ [] ∧ data = some (codec.serializeToArray (queue.encode queue.empty batch))

variable {queue : EventQueue Message Event} {codec : Codec Message}

/-- The size is zero when no event is in the queue, and only then. -/
theorem byteSizeLong_encode (hsize : WireSize queue codec) (es : List Event) :
    codec.byteSizeLong (queue.encode queue.empty es) = 0 ↔ es = [] := by
  constructor
  · intro hzero
    have helements := hsize.elements (queue.encode queue.empty es)
    rw [queue.elements_encode, queue.elements_empty] at helements
    exact List.length_eq_zero_iff.mp (by omega)
  · intro hnil
    subst hnil
    exact hsize.empty

/-- `iterate` returns the events since the one before it, and leaves an empty queue. -/
theorem iterate_encode (hsize : WireSize queue codec) {pending cbs : List Event}
    {data : Option Bytes} {events : Message}
    (h : iterate queue codec cbs (queue.encode queue.empty pending) = .ok (data, events)) :
    Returns queue codec (pending ++ cbs) data ∧ events = queue.empty := by
  unfold iterate at h
  cases hrun : cbs.foldlM queue.run (queue.encode queue.empty pending) with
  | error fatal =>
      rw [hrun] at h
      exact nomatch h
  | ok after =>
      have hafter : after = queue.encode queue.empty (pending ++ cbs) := by
        rw [queue.eq_encode_of_run hrun, EventQueue.encode, EventQueue.encode, EventQueue.encode,
          List.foldl_append]
      rw [hrun] at h
      simp only [bind, Except.bind, pure, Except.pure] at h
      subst hafter
      by_cases hnil : pending ++ cbs = []
      · rw [if_pos ((byteSizeLong_encode hsize _).mpr hnil)] at h
        obtain ⟨hdata, hevents⟩ := Prod.mk.inj (Except.ok.inj h)
        refine ⟨.inl ⟨hnil, hdata.symm⟩, ?_⟩
        rw [← hevents, hnil]
        rfl
      · rw [if_neg fun hzero => hnil ((byteSizeLong_encode hsize _).mp hzero)] at h
        obtain ⟨hdata, hevents⟩ := Prod.mk.inj (Except.ok.inj h)
        exact ⟨.inr ⟨hnil, hdata.symm⟩, hevents.symm⟩

/-- What the queue and the history have to do with each other. -/
structure Balanced (queue : EventQueue Message Event) (codec : Codec Message) (events : Message)
    (h : History Event) (all : List Event) : Prop where
  kept : events = queue.encode queue.empty h.pending
  returned : List.Forall₂ (Returns queue codec) h.batches h.results
  conserved : h.batches.flatten ++ h.pending = all

/-- A call keeps the balance. -/
theorem Balanced.step (hsize : WireSize queue codec) {events events' : Message}
    {h : History Event} {all : List Event} {l : Label Event}
    (hbalanced : Balanced queue codec events h all)
    (hstep : (native queue (iterate queue codec)).step events l events') :
    Balanced queue codec events' (h.step l) (all ++ raised [l]) := by
  obtain ⟨hqueue, hreturned, hconserved⟩ := hbalanced
  cases l with
  | invoked e =>
      refine ⟨?_, hreturned, ?_⟩
      · show events' = queue.encode queue.empty (h.pending ++ [e])
        rw [queue.eq_append_of_run events e events' hstep, hqueue, EventQueue.encode,
          EventQueue.encode, List.foldl_append]
        rfl
      · show h.batches.flatten ++ (h.pending ++ [e]) = all ++ [e]
        rw [← hconserved, List.append_assoc]
  | iterated cbs data =>
      subst hqueue
      obtain ⟨hreturns, hempty⟩ := iterate_encode hsize hstep
      refine ⟨hempty, ?_, ?_⟩
      · exact List.rel_append hreturned (.cons hreturns .nil)
      · have hraised : raised [Label.iterated cbs data] = cbs := by
          simp [raised]
        show (h.batches ++ [h.pending ++ cbs]).flatten ++ [] = all ++ raised _
        rw [hraised, ← hconserved, List.flatten_append, List.append_nil, List.append_assoc]
        simp

/-- Every sequence of calls keeps the balance. -/
theorem balanced_of_run (hsize : WireSize queue codec) {events : Message}
    {ls : List (Label Event)} (run : (native queue (iterate queue codec)).Run events ls) :
    Balanced queue codec events (history ls) (raised ls) := by
  refine run.invariant (I := fun events ls => Balanced queue codec events (history ls) (raised ls))
    ?_ ?_
  · intro events hinit
    exact ⟨hinit, .nil, rfl⟩
  · intro events ls l events' hbalanced hstep
    rw [history_concat, raised_concat]
    exact hbalanced.step hsize hstep

/-! ### Exactly once -/

/-- Every event was passed to the listener in one call of `iterate`, or is pending. `Passes` says
what a call of `iterate` passes for its batch of events and the array it got. -/
structure ExactlyOnce {Kind : Type} [DecidableEq Kind] (kind : Event → Kind) (kinds : List Kind)
    (Passes : List Event → Option Bytes → Prop) (ls : List (Label Event)) : Prop where
  /-- Null is returned when no event was raised since the last call, and only then. -/
  null : List.Forall₂ (fun batch data => data = none ↔ batch = []) (history ls).batches
    (history ls).results
  passes : List.Forall₂ Passes (history ls).batches (history ls).results
  /-- The batches and the pending events are all events in their order. -/
  batches : (history ls).batches.flatten ++ (history ls).pending = raised ls
  /-- What was passed, kind by kind in each batch, and the pending events are all events. -/
  conserved : ((history ls).batches.flatMap (group kind kinds) ++ (history ls).pending).Perm
    (raised ls)

/-- When the books of the queue balance, each event was passed to a listener once or is pending.
What one call passes is up to `Passes`. -/
theorem exactlyOnce_of_balanced {Kind : Type} [DecidableEq Kind] {kind : Event → Kind}
    {kinds : List Kind} (hnodup : kinds.Nodup) (hkinds : ∀ e, kind e ∈ kinds)
    {Passes : List Event → Option Bytes → Prop}
    (hpasses : ∀ batch data, Returns queue codec batch data → Passes batch data)
    {events : Message} {ls : List (Label Event)}
    (h : Balanced queue codec events (history ls) (raised ls)) :
    ExactlyOnce kind kinds Passes ls where
  null := by
    refine h.returned.imp ?_
    intro batch data hreturns
    rcases hreturns with ⟨hnil, hdata⟩ | ⟨hne, hdata⟩
    · exact ⟨fun _ => hnil, fun _ => hdata⟩
    · exact ⟨fun hnone => (nomatch hdata.symm.trans hnone), fun hnil => absurd hnil hne⟩
  passes := h.returned.imp hpasses
  batches := h.conserved
  conserved := by
    have hgroups (batches : List (List Event)) :
        (batches.flatMap (group kind kinds)).Perm batches.flatten := by
      induction batches with
      | nil => exact .nil
      | cons batch batches ih =>
          rw [List.flatMap_cons, List.flatten_cons]
          exact (group_perm hnodup fun e _ => hkinds e).append ih
    rw [← h.conserved]
    exact (hgroups _).append_right _

/-! ### Calls that return -/

end

/-! ### Core instances -/

namespace Core

/-- `toxIterate`. -/
def toxIterate (codec : Codec CoreEvents) (cbs : List CoreCallback) (events : CoreEvents) :
    Except Fatal (Option Bytes × CoreEvents) :=
  iterate coreQueue codec cbs events

/-- `ToxCoreImpl.iterate` calls a listener for each event of the batch, kind by kind in the order
of `dispatch`, and passes the state through the calls. -/
def IteratePasses (codec : Codec CoreEvents) (batch : List CoreCallback) (data : Option Bytes) :
    Prop :=
  ∀ (w : Wrappers) (S : Type) (listener : ToxCoreEventListener w S) (s : S),
    dispatch codec listener data s
      = .ok ((group CoreCallback.kind CoreKind.all batch).foldl
          (fun s cb => deliver listener s cb.received) s)

/-- A batch of events that the native layer returned is passed to the listener, each event once and
with its own arguments. -/
theorem iteratePasses_of_returns {codec : Codec CoreEvents} {batch : List CoreCallback}
    {data : Option Bytes} (h : Returns coreQueue codec batch data) :
    IteratePasses codec batch data := by
  intro w S listener s
  rcases h with ⟨rfl, rfl⟩ | ⟨-, rfl⟩
  · rfl
  · have hqueue : coreQueue.encode coreQueue.empty batch = CoreEvents.encode {} batch :=
      coreQueue_encode {} batch
    rw [hqueue]
    exact dispatch_encode listener s codec batch

end Core

/-! ### Audio and video instances -/

namespace Av

section

variable {w : Wrappers} {S : Type} (listener : ToxAvEventListener w S)

/-- The arrays that a listener gets for the planes of a frame. It is `Passes`, but arrays that the
listener keeps need not be different ones here. When two of them are the same, they are still the
arrays that the listener gets, and no other array changes. -/
def GetsPlanes (kept : Option Arrays) (heap : Heap) (y u v : Bytes) (arrays : Arrays)
    (heap' : Heap) : Prop :=
  match kept with
  | some kept =>
    arrays = kept ∧
      (∀ r, r ≠ kept.y → r ≠ kept.u → r ≠ kept.v → heap'.contents r = heap.contents r) ∧
      (Separate kept heap y u v → Passes (some kept) heap y u v arrays heap')
  | none => Passes none heap y u v arrays heap'

/-- The listener was called once, with the method of the kind of the event and the arguments that
the callback copied: as many samples as it announces, and of each plane the length that it
computes. -/
def Called (world world' : World S) : AvCallback → Prop
  | .call friendNumber audioEnabled videoEnabled =>
    world' = listener.call (w.ToxFriendNumber.unsafeFrom friendNumber.toInt32) audioEnabled
      videoEnabled world
  | .callState friendNumber state =>
    world' = listener.callState (w.ToxFriendNumber.unsafeFrom friendNumber.toInt32)
      (presentStates state) world
  | .audioBitRate friendNumber bitRate =>
    world' = listener.audioBitRate (w.ToxFriendNumber.unsafeFrom friendNumber.toInt32)
      (w.BitRate.unsafeFrom bitRate.toInt32) world
  | .videoBitRate friendNumber bitRate =>
    world' = listener.videoBitRate (w.ToxFriendNumber.unsafeFrom friendNumber.toInt32)
      (w.BitRate.unsafeFrom bitRate.toInt32) world
  | .audioReceiveFrame friendNumber pcm sampleCount channels samplingRate =>
    world' = listener.audioReceiveFrame (w.ToxFriendNumber.unsafeFrom friendNumber.toInt32)
      (pcm.take (sampleCount * channels.toNat))
      (w.AudioChannels.unsafeFrom channels.toUInt32.toInt32)
      (w.SamplingRate.unsafeFrom samplingRate.toInt32) world
  | .videoReceiveFrame friendNumber width height y u v yStride uStride vStride =>
    let kept := listener.videFrameCachedYUV (w.Height.unsafeFrom height.toUInt32.toInt32) yStride
      uStride vStride world.heap
    ∃ arrays heap',
      GetsPlanes kept.1 kept.2 (y.take (planeLength width.toNat yStride height.toNat))
        (u.take (planeLength (width.toNat / 2) uStride (height.toNat / 2)))
        (v.take (planeLength (width.toNat / 2) vStride (height.toNat / 2))) arrays heap' ∧
      world' = listener.videoReceiveFrame (w.ToxFriendNumber.unsafeFrom friendNumber.toInt32)
        (w.Width.unsafeFrom width.toUInt32.toInt32) (w.Height.unsafeFrom height.toUInt32.toInt32)
        arrays yStride uStride vStride ⟨world.state, heap'⟩

/-- The listener was called for one event after the other, and for no other event. Its state and
its arrays go from each call to the next one. -/
def Calls : List AvCallback → World S → World S → Prop
  | [], world, world' => world' = world
  | cb :: cbs, world, world' => ∃ mid, Called listener world mid cb ∧ Calls cbs mid world'

/-- The event is a frame for which the listener keeps arrays, and one of them is shorter than its
plane. The Kotlin code then throws before it calls the listener. -/
def KeepsTooShort (world : World S) : AvCallback → Prop
  | .videoReceiveFrame _ width height y u v yStride uStride vStride =>
    ∃ kept heap, listener.videFrameCachedYUV (w.Height.unsafeFrom height.toUInt32.toInt32) yStride
        uStride vStride world.heap = (some kept, heap) ∧
      ¬ LongEnough kept heap (y.take (planeLength width.toNat yStride height.toNat))
        (u.take (planeLength (width.toNat / 2) uStride (height.toNat / 2)))
        (v.take (planeLength (width.toNat / 2) vStride (height.toNat / 2)))
  | _ => False

end

/-- `ToxAvImpl.iterate` calls a listener once for each event of the batch, kind by kind in the
order of `dispatch`, and returns what the last call returns. It stops at no other event than a
frame for which the listener itself keeps an array that is too short. Then it has called the
listener once for each event before that frame. -/
def IteratePasses (codec : Codec AvEvents) (batch : List AvCallback) (data : Option Bytes) : Prop :=
  ∀ (w : Wrappers) (S : Type) (listener : ToxAvEventListener w S) (world : World S),
    (∃ world', dispatch codec listener data world = .ok world' ∧
      Calls listener (group AvCallback.kind AvKind.all batch) world world') ∨
    ∃ before frame after mid,
      dispatch codec listener data world = .error .indexOutOfBounds ∧
      group AvCallback.kind AvKind.all batch = before ++ frame :: after ∧
      Calls listener before world mid ∧ KeepsTooShort listener mid frame

section

variable {w : Wrappers} {S : Type} {listener : ToxAvEventListener w S}

/-- A copy changes no length. -/
theorem length_of_copyTo {heap heap' : Heap} {bytes : Bytes} {target : ByteArrayRef}
    (h : heap.copyTo bytes target = .ok heap') (r : ByteArrayRef) :
    (heap'.contents r).length = (heap.contents r).length := by
  unfold Heap.copyTo at h
  simp only at h
  split at h
  · rename_i hfits
    rw [← Except.ok.inj h]
    show (Function.update heap.contents target _ r).length = _
    by_cases hr : r = target
    · subst hr
      rw [Function.update_self, overwrite, List.length_append, List.length_drop]
      omega
    · rw [Function.update_of_ne hr]
  · exact nomatch h

/-- A copy changes no other array. -/
theorem contents_of_copyTo {heap heap' : Heap} {bytes : Bytes} {target r : ByteArrayRef}
    (h : heap.copyTo bytes target = .ok heap') (hr : r ≠ target) :
    heap'.contents r = heap.contents r := by
  unfold Heap.copyTo at h
  simp only at h
  split at h
  · rw [← Except.ok.inj h]
    exact Function.update_of_ne hr ..
  · exact nomatch h

/-- Arrays that are long enough are overwritten, also when they are not different ones. No other
array changes. -/
theorem convertPlanes_fits {kept : Arrays} {heap : Heap} {y u v : Bytes}
    (h : LongEnough kept heap y u v) :
    ∃ heap', convertPlanes (some kept) y u v heap = .ok (kept, heap') ∧
      ∀ r, r ≠ kept.y → r ≠ kept.u → r ≠ kept.v → heap'.contents r = heap.contents r := by
  obtain ⟨hy, hu, hv⟩ := h
  obtain ⟨afterY, hafterY⟩ : ∃ afterY, heap.copyTo y kept.y = .ok afterY :=
    ⟨_, Heap.copyTo_fits rfl hy⟩
  rw [← length_of_copyTo hafterY kept.u] at hu
  rw [← length_of_copyTo hafterY kept.v] at hv
  obtain ⟨afterU, hafterU⟩ : ∃ afterU, afterY.copyTo u kept.u = .ok afterU :=
    ⟨_, Heap.copyTo_fits rfl hu⟩
  rw [← length_of_copyTo hafterU kept.v] at hv
  obtain ⟨afterV, hafterV⟩ : ∃ afterV, afterU.copyTo v kept.v = .ok afterV :=
    ⟨_, Heap.copyTo_fits rfl hv⟩
  refine ⟨afterV, ?_, ?_⟩
  · simp only [convertPlanes, hafterY, bind, Except.bind, hafterU, hafterV]
    rfl
  · intro r hry hru hrv
    rw [contents_of_copyTo hafterV hrv, contents_of_copyTo hafterU hru,
      contents_of_copyTo hafterY hry]

/-- A copy into an array that is too short throws. -/
theorem Heap.copyTo_tooShort {heap : Heap} {bytes : Bytes} {target : ByteArrayRef}
    (h : ¬ bytes.length ≤ (heap.contents target).length) :
    heap.copyTo bytes target = .error .indexOutOfBounds := if_neg h

/-- When one of the kept arrays is too short, the conversion throws at the first such array. -/
theorem convertPlanes_tooShort {kept : Arrays} {heap : Heap} {y u v : Bytes}
    (h : ¬ LongEnough kept heap y u v) :
    convertPlanes (some kept) y u v heap = .error .indexOutOfBounds := by
  unfold convertPlanes
  by_cases hy : y.length ≤ (heap.contents kept.y).length
  · obtain ⟨afterY, hafterY⟩ : ∃ afterY, heap.copyTo y kept.y = .ok afterY :=
      ⟨_, Heap.copyTo_fits rfl hy⟩
    by_cases hu : u.length ≤ (heap.contents kept.u).length
    · -- The third array is the short one. The first two copies leave its length as it was.
      have hv : ¬ v.length ≤ (heap.contents kept.v).length := fun hv => h ⟨hy, hu, hv⟩
      rw [← length_of_copyTo hafterY] at hu
      obtain ⟨afterU, hafterU⟩ : ∃ afterU, afterY.copyTo u kept.u = .ok afterU :=
        ⟨_, Heap.copyTo_fits rfl hu⟩
      rw [← length_of_copyTo hafterY, ← length_of_copyTo hafterU] at hv
      simp only [hafterY, hafterU, Heap.copyTo_tooShort hv, bind, Except.bind]
    · rw [← length_of_copyTo hafterY] at hu
      simp only [hafterY, Heap.copyTo_tooShort hu, bind, Except.bind]
  · simp only [Heap.copyTo_tooShort hy, bind, Except.bind]

/-- What the conversion gives the listener, for arrays that it keeps and for new ones. -/
theorem convertPlanes_gets (kept : Option Arrays) (heap : Heap) (y u v : Bytes) :
    (∃ arrays heap', convertPlanes kept y u v heap = .ok (arrays, heap') ∧
      GetsPlanes kept heap y u v arrays heap') ∨
    ∃ arrays, kept = some arrays ∧ ¬ LongEnough arrays heap y u v ∧
      convertPlanes kept y u v heap = .error .indexOutOfBounds := by
  cases kept with
  | none => exact .inl (convertPlanes_new heap y u v)
  | some kept =>
      by_cases hlong : LongEnough kept heap y u v
      · obtain ⟨heap', hconvert, hothers⟩ := convertPlanes_fits hlong
        refine .inl ⟨kept, heap', hconvert, rfl, hothers, ?_⟩
        intro hseparate
        obtain ⟨heap'', hconvert', hpasses⟩ := convertPlanes_kept hlong hseparate
        rw [hconvert] at hconvert'
        obtain ⟨-, rfl⟩ := Prod.mk.inj (Except.ok.inj hconvert')
        exact hpasses
      · exact .inr ⟨kept, rfl, hlong, convertPlanes_tooShort hlong⟩

variable (listener) in
/-- The dispatch of one event calls the listener once, or stops because of the arrays that the
listener keeps. -/
theorem deliver_cases (world : World S) (cb : AvCallback) :
    (∃ world', deliver listener world cb = .ok world' ∧ Called listener world world' cb) ∨
      deliver listener world cb = .error .indexOutOfBounds ∧ KeepsTooShort listener world cb := by
  cases cb with
  | videoReceiveFrame friendNumber width height y u v yStride uStride vStride =>
      cases hkept : listener.videFrameCachedYUV (w.Height.unsafeFrom height.toUInt32.toInt32)
        yStride uStride vStride world.heap with
      | mk kept heap =>
          cases convertPlanes_gets kept heap
            (y.take (planeLength width.toNat yStride height.toNat))
            (u.take (planeLength (width.toNat / 2) uStride (height.toNat / 2)))
            (v.take (planeLength (width.toNat / 2) vStride (height.toNat / 2))) with
          | inl hgets =>
              obtain ⟨arrays, heap', hconvert, hgets⟩ := hgets
              refine .inl ⟨_, ?_, arrays, heap', by rw [hkept]; exact hgets, rfl⟩
              show handleVideoReceiveFrame listener world _ = _
              unfold handleVideoReceiveFrame
              simp only [hkept, hconvert, bind, Except.bind, pure, Except.pure]
          | inr hshort =>
              obtain ⟨arrays, rfl, hlong, hconvert⟩ := hshort
              refine .inr ⟨?_, arrays, heap, hkept, hlong⟩
              show handleVideoReceiveFrame listener world _ = _
              unfold handleVideoReceiveFrame
              simp only [hkept, hconvert, bind, Except.bind]
  | _ => exact .inl ⟨_, rfl, rfl⟩

/-- The dispatch of a sequence of events calls the listener once for each of them, up to the first
event at which it stops. -/
theorem foldlM_deliver_cases (cbs : List AvCallback) (world : World S) :
    (∃ world', cbs.foldlM (deliver listener) world = .ok world' ∧
      Calls listener cbs world world') ∨
    ∃ before frame after mid,
      cbs.foldlM (deliver listener) world = .error .indexOutOfBounds ∧
      cbs = before ++ frame :: after ∧ Calls listener before world mid ∧
      KeepsTooShort listener mid frame := by
  induction cbs generalizing world with
  | nil => exact .inl ⟨world, rfl, rfl⟩
  | cons cb cbs ih =>
      cases deliver_cases listener world cb with
      | inr hstops =>
          obtain ⟨hdeliver, hshort⟩ := hstops
          refine .inr ⟨[], cb, cbs, world, ?_, rfl, rfl, hshort⟩
          rw [List.foldlM_cons, hdeliver]
          rfl
      | inl hcalled =>
          obtain ⟨mid, hdeliver, hcalled⟩ := hcalled
          have hfold : (cb :: cbs).foldlM (deliver listener) world
              = cbs.foldlM (deliver listener) mid := by
            rw [List.foldlM_cons, hdeliver]
            rfl
          rw [hfold]
          cases ih mid with
          | inl hrest =>
              obtain ⟨world', hrest, hcalls⟩ := hrest
              exact .inl ⟨world', hrest, mid, hcalled, hcalls⟩
          | inr hrest =>
              obtain ⟨before, frame, after, last, hrest, rfl, hcalls, hshort⟩ := hrest
              exact .inr ⟨cb :: before, frame, after, last, hrest, rfl, ⟨mid, hcalled, hcalls⟩,
                hshort⟩

end

/-- What the dispatch makes of the array that `toxavIterate` returned for a batch of events. -/
theorem iteratePasses_of_returns {codec : Codec AvEvents} {batch : List AvCallback}
    {data : Option Bytes} (h : Returns avQueue codec batch data) :
    IteratePasses codec batch data := by
  intro w S listener world
  have hdispatch : dispatch codec listener data world
      = (group AvCallback.kind AvKind.all batch).foldlM (deliver listener) world := by
    rcases h with ⟨rfl, rfl⟩ | ⟨-, rfl⟩
    · rfl
    · rw [dispatch_serialize]
      exact (avPipe listener).dispatch_encode batch world
  rw [hdispatch]
  exact foldlM_deliver_cases _ world

end Av

/-! ### The result -/

section

variable {Message Event : Type} {queue : EventQueue Message Event} {codec : Codec Message}
  {events : Message} {ls : List (Label Event)}

/-- The array for a batch of events, which is null for an empty one. -/
def answer (queue : EventQueue Message Event) (codec : Codec Message) (batch : List Event) :
    Option Bytes :=
  if batch.isEmpty then none else some (codec.serializeToArray (queue.encode queue.empty batch))

end

end Tox4j.Events
