import Tox4j.Events.AvWire

/-!
# `Tox4j.Events.AvDispatch`: the dispatch of audio and video events

`ToxAvEventDispatch` and `ToxAvProtoConverter`. A byte array is an object, so the listener and
the dispatch share a `Heap` of them: a listener may keep the planes of a frame in arrays of its
own, which the dispatch overwrites for each frame.

`Delivered` says what a listener should get of an event, and `Passes` what this means for the
arrays of a frame. `faithful_of_separate` is the main result: events arrive so, in an order that
is a permutation of the callbacks, while the listener keeps three different arrays that are long
enough. With one array for two planes the second plane overwrites the first one.
-/

set_option autoImplicit false

namespace Tox4j.Events.Av

/-! ### The types of the API -/

/-- `ToxavFriendCallState`. -/
inductive ToxavFriendCallState
  | ERROR
  | FINISHED
  | SENDING_A
  | SENDING_V
  | ACCEPTING_A
  | ACCEPTING_V
  deriving DecidableEq, Repr

/-- The wrapper types of `im.tox.tox4j.av.data`, and `ToxFriendNumber`. -/
structure Wrappers where
  ToxFriendNumber : Wrapper Int32
  BitRate : Wrapper Int32
  AudioChannels : Wrapper Int32
  SamplingRate : Wrapper Int32
  Width : Wrapper Int32
  Height : Wrapper Int32

/-- A reference to a byte array. -/
abbrev ByteArrayRef := Nat

/-- The byte arrays. References from `next` on are not in use. -/
structure Heap where
  next : ByteArrayRef
  contents : ByteArrayRef → Bytes

/-- An array with the bytes at its start, and unchanged otherwise. -/
def overwrite (bytes old : Bytes) : Bytes := bytes ++ old.drop bytes.length

namespace Heap

/-- A new array. -/
def alloc (heap : Heap) (bytes : Bytes) : ByteArrayRef × Heap :=
  (heap.next, ⟨heap.next + 1, Function.update heap.contents heap.next bytes⟩)

/-- `ByteString.copyTo`, from the start of the array. -/
def copyTo (heap : Heap) (bytes : Bytes) (target : ByteArrayRef) : Except KotlinException Heap :=
  let old := heap.contents target
  if bytes.length ≤ old.length then
    .ok ⟨heap.next, Function.update heap.contents target (overwrite bytes old)⟩
  else .error .indexOutOfBounds

end Heap

/-- The arrays for the planes of a frame. -/
structure Arrays where
  y : ByteArrayRef
  u : ByteArrayRef
  v : ByteArrayRef

/-- The state that is passed through the listener, and the arrays. -/
structure World (S : Type) where
  state : S
  heap : Heap

/-- `ToxAvEventListener`. Each method may write to the arrays that the listener keeps. -/
structure ToxAvEventListener (w : Wrappers) (S : Type) where
  call (friendNumber : w.ToxFriendNumber.Wrapped) (audioEnabled videoEnabled : Bool)
    (world : World S) : World S
  callState (friendNumber : w.ToxFriendNumber.Wrapped)
    (callState : Finset ToxavFriendCallState) (world : World S) : World S
  audioBitRate (friendNumber : w.ToxFriendNumber.Wrapped) (audioBitRate : w.BitRate.Wrapped)
    (world : World S) : World S
  videoBitRate (friendNumber : w.ToxFriendNumber.Wrapped) (videoBitRate : w.BitRate.Wrapped)
    (world : World S) : World S
  audioReceiveFrame (friendNumber : w.ToxFriendNumber.Wrapped) (pcm : List Int16)
    (channels : w.AudioChannels.Wrapped) (samplingRate : w.SamplingRate.Wrapped)
    (world : World S) : World S
  /-- The arrays that the listener keeps for frames of this size. -/
  videFrameCachedYUV (height : w.Height.Wrapped) (yStride uStride vStride : Int32)
    (heap : Heap) : Option Arrays × Heap
  videoReceiveFrame (friendNumber : w.ToxFriendNumber.Wrapped) (width : w.Width.Wrapped)
    (height : w.Height.Wrapped) (arrays : Arrays) (yStride uStride vStride : Int32)
    (world : World S) : World S

/-! ### `ToxAvProtoConverter` -/

/-- `convert` for a call state. -/
def convertCallState : CallState.Kind → Except KotlinException ToxavFriendCallState
  | .ERROR => .ok .ERROR
  | .FINISHED => .ok .FINISHED
  | .SENDING_A => .ok .SENDING_A
  | .SENDING_V => .ok .SENDING_V
  | .ACCEPTING_A => .ok .ACCEPTING_A
  | .ACCEPTING_V => .ok .ACCEPTING_V
  | .UNRECOGNIZED => .error (.illegalArgument "Unrecognized call state kind.")

/-- `convert` for the planes of a frame. -/
def convertPlanes (arrays : Option Arrays) (y u v : Bytes) (heap : Heap) :
    Except KotlinException (Arrays × Heap) :=
  match arrays with
  | some arrays => do
    let heap ← heap.copyTo y arrays.y
    let heap ← heap.copyTo u arrays.u
    let heap ← heap.copyTo v arrays.v
    return (arrays, heap)
  | none =>
    let (yArray, heap) := heap.alloc y
    let (uArray, heap) := heap.alloc u
    let (vArray, heap) := heap.alloc v
    .ok (⟨yArray, uArray, vArray⟩, heap)

/-! ### `ToxAvEventDispatch` -/

section

variable {w : Wrappers} {S : Type}

/-- `dispatchCall`. -/
def dispatchCall (handler : ToxAvEventListener w S) (callList : List Call) (world : World S) :
    Except KotlinException (World S) :=
  callList.foldlM
    (fun world call =>
      return handler.call (w.ToxFriendNumber.unsafeFrom call.friendNumber) call.audioEnabled
        call.videoEnabled world)
    world

/-- `dispatchCallState`. -/
def dispatchCallState (handler : ToxAvEventListener w S) (callStateList : List CallState)
    (world : World S) : Except KotlinException (World S) :=
  callStateList.foldlM
    (fun world callState => do
      let states ← callState.callState.mapM fun n => convertCallState (CallState.forNumber n)
      return handler.callState
        (w.ToxFriendNumber.unsafeFrom callState.friendNumber.toInt32) states.toFinset world)
    world

/-- `dispatchAudioBitRate`. -/
def dispatchAudioBitRate (handler : ToxAvEventListener w S) (audioBitRateList : List AudioBitRate)
    (world : World S) : Except KotlinException (World S) :=
  audioBitRateList.foldlM
    (fun world audioBitRate =>
      return handler.audioBitRate
        (w.ToxFriendNumber.unsafeFrom audioBitRate.friendNumber.toInt32)
        (w.BitRate.unsafeFrom audioBitRate.audioBitRate.toInt32) world)
    world

/-- `dispatchVideoBitRate`. -/
def dispatchVideoBitRate (handler : ToxAvEventListener w S) (videoBitRateList : List VideoBitRate)
    (world : World S) : Except KotlinException (World S) :=
  videoBitRateList.foldlM
    (fun world videoBitRate =>
      return handler.videoBitRate
        (w.ToxFriendNumber.unsafeFrom videoBitRate.friendNumber.toInt32)
        (w.BitRate.unsafeFrom videoBitRate.videoBitRate.toInt32) world)
    world

/-- `dispatchAudioReceiveFrame`. -/
def dispatchAudioReceiveFrame (handler : ToxAvEventListener w S)
    (audioReceiveFrameList : List AudioReceiveFrame) (world : World S) :
    Except KotlinException (World S) :=
  audioReceiveFrameList.foldlM
    (fun world audioReceiveFrame =>
      return handler.audioReceiveFrame
        (w.ToxFriendNumber.unsafeFrom audioReceiveFrame.friendNumber.toInt32)
        (toShortArray audioReceiveFrame.pcm)
        (w.AudioChannels.unsafeFrom audioReceiveFrame.channels.toInt32)
        (w.SamplingRate.unsafeFrom audioReceiveFrame.samplingRate.toInt32) world)
    world

/-- `dispatchVideoReceiveFrame`, for one frame. -/
def handleVideoReceiveFrame (handler : ToxAvEventListener w S) (world : World S)
    (videoReceiveFrame : VideoReceiveFrame) : Except KotlinException (World S) := do
  let width := w.Width.unsafeFrom videoReceiveFrame.width.toInt32
  let height := w.Height.unsafeFrom videoReceiveFrame.height.toInt32
  let (arrays, heap) := handler.videFrameCachedYUV height videoReceiveFrame.yStride
    videoReceiveFrame.uStride videoReceiveFrame.vStride world.heap
  let (arrays, heap) ← convertPlanes arrays videoReceiveFrame.y videoReceiveFrame.u
    videoReceiveFrame.v heap
  return handler.videoReceiveFrame
    (w.ToxFriendNumber.unsafeFrom videoReceiveFrame.friendNumber.toInt32) width height arrays
    videoReceiveFrame.yStride videoReceiveFrame.uStride videoReceiveFrame.vStride
    ⟨world.state, heap⟩

/-- `dispatchVideoReceiveFrame`. -/
def dispatchVideoReceiveFrame (handler : ToxAvEventListener w S)
    (videoReceiveFrameList : List VideoReceiveFrame) (world : World S) :
    Except KotlinException (World S) :=
  videoReceiveFrameList.foldlM (handleVideoReceiveFrame handler) world

/-- The sequence of dispatchers in `dispatch`. -/
def dispatchers (eventListener : ToxAvEventListener w S) (events : AvEvents) :
    List (World S → Except KotlinException (World S)) :=
  [dispatchCall eventListener events.call,
    dispatchCallState eventListener events.callState,
    dispatchAudioBitRate eventListener events.audioBitRate,
    dispatchVideoBitRate eventListener events.videoBitRate,
    dispatchAudioReceiveFrame eventListener events.audioReceiveFrame,
    dispatchVideoReceiveFrame eventListener events.videoReceiveFrame]

/-- `dispatch`. -/
def dispatch (codec : Codec AvEvents) (eventListener : ToxAvEventListener w S)
    (eventData : Option Bytes) (world : World S) : Except KotlinException (World S) :=
  match eventData with
  | none => .ok world
  | some eventData =>
    match codec.parseFrom eventData with
    | none => .error .invalidProtocolBuffer
    | some events =>
      (dispatchers eventListener events).foldlM (fun world dispatcher => dispatcher world) world

end

/-! ### Call states -/

/-- The flag of a call state in a bit mask. -/
def ToxavFriendCallState.flag : ToxavFriendCallState → UInt32
  | .ERROR => 1
  | .FINISHED => 2
  | .SENDING_A => 4
  | .SENDING_V => 8
  | .ACCEPTING_A => 16
  | .ACCEPTING_V => 32

/-- The call states whose flags are in the mask. -/
def presentStates (state : UInt32) : Finset ToxavFriendCallState :=
  ({.ERROR, .FINISHED, .SENDING_A, .SENDING_V, .ACCEPTING_A, .ACCEPTING_V} : Finset _).filter
    fun callState => state &&& callState.flag ≠ 0

/-- The number of a call state in a message. -/
def ToxavFriendCallState.number : ToxavFriendCallState → Int32
  | .ERROR => CallState.error
  | .FINISHED => CallState.finished
  | .SENDING_A => CallState.sendingA
  | .SENDING_V => CallState.sendingV
  | .ACCEPTING_A => CallState.acceptingA
  | .ACCEPTING_V => CallState.acceptingV

/-- All call states, in the order of `callStateCases`. -/
def ToxavFriendCallState.all : List ToxavFriendCallState :=
  [.ERROR, .FINISHED, .SENDING_A, .SENDING_V, .ACCEPTING_A, .ACCEPTING_V]

/-- The cases of the enumeration are in the order of its flags. -/
theorem callStateCases_eq : callStateCases
    = ToxavFriendCallState.all.map fun callState => (callState.flag, callState.number) := rfl

/-- A state of a call arrives as itself. -/
theorem convertCallState_number (callState : ToxavFriendCallState) :
    convertCallState (CallState.forNumber callState.number) = .ok callState := by
  cases callState <;> rfl

/-- The set of call states that arrives is the set of the flags in the mask. -/
theorem convert_addCallStates (state : UInt32) :
    ∃ states, (addCallStates state).mapM (fun n => convertCallState (CallState.forNumber n))
        = .ok states ∧ states.toFinset = presentStates state := by
  refine ⟨ToxavFriendCallState.all.filter fun callState => state &&& callState.flag ≠ 0, ?_, ?_⟩
  · unfold addCallStates
    rw [callStateCases_eq, List.filterMap_map]
    -- The induction is on any list of call states.
    induction ToxavFriendCallState.all with
    | nil => rfl
    | cons callState rest ih =>
        by_cases hflag : state &&& callState.flag = 0
        · rw [List.filterMap_cons_none (by simp [hflag]), List.filter_cons_of_neg (by simp [hflag])]
          exact ih
        · rw [List.filterMap_cons_some (b := callState.number) (by simp [hflag]),
            List.filter_cons_of_pos (by simp [hflag]), List.mapM_cons, convertCallState_number, ih]
          rfl
  · ext callState
    cases callState <;> simp [presentStates, ToxavFriendCallState.all]

/-! ### The pipe -/

/-- The kinds of callbacks. -/
inductive AvKind
  | call
  | callState
  | audioBitRate
  | videoBitRate
  | audioReceiveFrame
  | videoReceiveFrame
  deriving DecidableEq, Repr

/-- All kinds, in the order of `dispatch`. -/
def AvKind.all : List AvKind :=
  [.call, .callState, .audioBitRate, .videoBitRate, .audioReceiveFrame, .videoReceiveFrame]

/-- `AvKind.all` has all kinds of events. -/
theorem AvKind.mem_all (kind : AvKind) : kind ∈ AvKind.all := by
  cases kind <;> decide

/-- `AvKind.all` has each kind once. -/
theorem AvKind.nodup_all : AvKind.all.Nodup := by decide

/-- The kind of a callback. -/
def AvCallback.kind : AvCallback → AvKind
  | .call .. => .call
  | .callState .. => .callState
  | .audioBitRate .. => .audioBitRate
  | .videoBitRate .. => .videoBitRate
  | .audioReceiveFrame .. => .audioReceiveFrame
  | .videoReceiveFrame .. => .videoReceiveFrame

section

variable {w : Wrappers} {S : Type} (listener : ToxAvEventListener w S)

/-- The listener call that the dispatch makes for an event. -/
def deliver (world : World S) : AvCallback → Except KotlinException (World S)
  | .call friendNumber audioEnabled videoEnabled =>
    .ok (listener.call (w.ToxFriendNumber.unsafeFrom friendNumber.toInt32) audioEnabled
      videoEnabled world)
  | .callState friendNumber state =>
    .ok (listener.callState (w.ToxFriendNumber.unsafeFrom friendNumber.toInt32)
      (presentStates state) world)
  | .audioBitRate friendNumber bitRate =>
    .ok (listener.audioBitRate (w.ToxFriendNumber.unsafeFrom friendNumber.toInt32)
      (w.BitRate.unsafeFrom bitRate.toInt32) world)
  | .videoBitRate friendNumber bitRate =>
    .ok (listener.videoBitRate (w.ToxFriendNumber.unsafeFrom friendNumber.toInt32)
      (w.BitRate.unsafeFrom bitRate.toInt32) world)
  | .audioReceiveFrame friendNumber pcm sampleCount channels samplingRate =>
    .ok (listener.audioReceiveFrame (w.ToxFriendNumber.unsafeFrom friendNumber.toInt32)
      (pcm.take (sampleCount * channels.toNat))
      (w.AudioChannels.unsafeFrom channels.toUInt32.toInt32)
      (w.SamplingRate.unsafeFrom samplingRate.toInt32) world)
  | .videoReceiveFrame friendNumber width height y u v yStride uStride vStride =>
    handleVideoReceiveFrame listener world
      { friendNumber, width := width.toUInt32, height := height.toUInt32,
        y := y.take (planeLength width.toNat yStride height.toNat),
        u := u.take (planeLength (width.toNat / 2) uStride (height.toNat / 2)),
        v := v.take (planeLength (width.toNat / 2) vStride (height.toNat / 2)),
        yStride, uStride, vStride }

/-- The dispatcher of a kind. -/
def dispatcherOf (events : AvEvents) : AvKind → World S → Except KotlinException (World S)
  | .call => dispatchCall listener events.call
  | .callState => dispatchCallState listener events.callState
  | .audioBitRate => dispatchAudioBitRate listener events.audioBitRate
  | .videoBitRate => dispatchVideoBitRate listener events.videoBitRate
  | .audioReceiveFrame => dispatchAudioReceiveFrame listener events.audioReceiveFrame
  | .videoReceiveFrame => dispatchVideoReceiveFrame listener events.videoReceiveFrame

/-- The dispatcher of its kind calls the listener once. -/
theorem dispatcherOf_own (cb : AvCallback) (world : World S) :
    dispatcherOf listener cb.message cb.kind world = deliver listener world cb := by
  cases cb with
  | callState friendNumber state =>
      obtain ⟨states, hstates, hset⟩ := convert_addCallStates state
      show (((addCallStates state).mapM fun n => convertCallState (CallState.forNumber n)) >>=
        (fun states => pure (listener.callState (w.ToxFriendNumber.unsafeFrom friendNumber.toInt32)
          states.toFinset world))) >>= pure = _
      rw [hstates, bind_pure]
      show Except.ok _ = Except.ok (listener.callState _ (presentStates state) world)
      rw [← hset]
  | audioReceiveFrame friendNumber pcm sampleCount channels samplingRate =>
      show Except.ok (listener.audioReceiveFrame _ (toShortArray (toBytes _)) _ _ world) = _
      rw [toShortArray_toBytes]
      rfl
  | videoReceiveFrame friendNumber width height y u v yStride uStride vStride =>
      show (handleVideoReceiveFrame listener world _ >>= pure) = _
      rw [bind_pure]
      rfl
  | _ => rfl

/-- The pipe of audio and video events to a listener. -/
def avPipe : EventPipe avQueue AvKind (World S) where
  kind := AvCallback.kind
  kinds := AvKind.all
  dispatcher := dispatcherOf listener
  deliver := deliver listener
  dispatcher_empty kind world := by
    cases kind <;> rfl
  dispatcher_append a b kind world := by
    cases kind <;> exact List.foldlM_append
  dispatcher_other cb kind h world := by
    cases cb <;> cases kind <;> first | rfl | exact absurd rfl h
  dispatcher_own := dispatcherOf_own listener

/-- The dispatch of a serialised message. -/
theorem dispatch_serialize (codec : Codec AvEvents) (events : AvEvents) (world : World S) :
    dispatch codec listener (some (codec.serializeToArray events)) world
      = (avPipe listener).dispatch events world := by
  unfold dispatch
  simp only [codec.parse_serialize]
  rfl

/-- What the dispatch makes of a sequence of callbacks. -/
theorem dispatch_encode (codec : Codec AvEvents) {cbs : List AvCallback} {events : AvEvents}
    (h : AvEvents.encode {} cbs = .ok events) (world : World S) :
    dispatch codec listener (some (codec.serializeToArray events)) world
      = (group AvCallback.kind AvKind.all cbs).foldlM (deliver listener) world := by
  rw [dispatch_serialize, avQueue.eq_encode_of_run h]
  exact (avPipe listener).dispatch_encode cbs world

/-! ### What should arrive -/

/-- The arrays that a listener should get for the planes of a frame. Arrays that it keeps have
the planes at their start and are unchanged otherwise. Without them, it gets new arrays with
the planes. No other array changes. -/
def Passes (kept : Option Arrays) (heap : Heap) (y u v : Bytes) (arrays : Arrays) (heap' : Heap) :
    Prop :=
  (∀ r, r ≠ arrays.y → r ≠ arrays.u → r ≠ arrays.v → heap'.contents r = heap.contents r) ∧
    match kept with
    | some kept =>
      arrays = kept ∧ heap'.next = heap.next ∧
        heap'.contents kept.y = overwrite y (heap.contents kept.y) ∧
        heap'.contents kept.u = overwrite u (heap.contents kept.u) ∧
        heap'.contents kept.v = overwrite v (heap.contents kept.v)
    | none =>
      (heap.next ≤ arrays.y ∧ heap.next ≤ arrays.u ∧ heap.next ≤ arrays.v) ∧
        (arrays.y ≠ arrays.u ∧ arrays.y ≠ arrays.v ∧ arrays.u ≠ arrays.v) ∧
        heap'.contents arrays.y = y ∧ heap'.contents arrays.u = u ∧ heap'.contents arrays.v = v

/-- The listener was called for the event with the arguments of the event. -/
def Delivered (world : World S) (world' : World S) : AvCallback → Prop
  | .call friendNumber audioEnabled videoEnabled =>
    world' = listener.call (w.ToxFriendNumber.unsafeFrom friendNumber.toInt32) audioEnabled
      videoEnabled world
  | .callState friendNumber state =>
    world' = listener.callState (w.ToxFriendNumber.unsafeFrom friendNumber.toInt32)
      (presentStates state) world
  | .audioBitRate friendNumber bitRate =>
    world' = listener.audioBitRate (w.ToxFriendNumber.unsafeFrom friendNumber.toInt32)
      (w.BitRate.unsafeFrom bitRate.toInt32) world
  | .videoBitRate friendNumber bitRate =>
    world' = listener.videoBitRate (w.ToxFriendNumber.unsafeFrom friendNumber.toInt32)
      (w.BitRate.unsafeFrom bitRate.toInt32) world
  | .audioReceiveFrame friendNumber pcm _ channels samplingRate =>
    world' = listener.audioReceiveFrame (w.ToxFriendNumber.unsafeFrom friendNumber.toInt32) pcm
      (w.AudioChannels.unsafeFrom channels.toUInt32.toInt32)
      (w.SamplingRate.unsafeFrom samplingRate.toInt32) world
  | .videoReceiveFrame friendNumber width height y u v yStride uStride vStride =>
    let kept := listener.videFrameCachedYUV (w.Height.unsafeFrom height.toUInt32.toInt32) yStride
      uStride vStride world.heap
    ∃ arrays heap', Passes kept.1 kept.2 y u v arrays heap' ∧
      world' = listener.videoReceiveFrame (w.ToxFriendNumber.unsafeFrom friendNumber.toInt32)
        (w.Width.unsafeFrom width.toUInt32.toInt32) (w.Height.unsafeFrom height.toUInt32.toInt32)
        arrays yStride uStride vStride ⟨world.state, heap'⟩

/-- The listener was called for one event after the other. -/
def Deliveries : List AvCallback → World S → World S → Prop
  | [], world, world' => world' = world
  | cb :: cbs, world, world' => ∃ mid, Delivered listener world mid cb ∧ Deliveries cbs mid world'

/-- What is known of the arrays that a listener keeps for the planes of a frame. -/
abbrev KeptArrays := Arrays → Heap → (y u v : Bytes) → Prop

/-- The arrays are as long as the planes at least. -/
def LongEnough : KeptArrays := fun kept heap y u v =>
  y.length ≤ (heap.contents kept.y).length ∧ u.length ≤ (heap.contents kept.u).length ∧
    v.length ≤ (heap.contents kept.v).length

/-- The arrays are three different ones. -/
def Separate : KeptArrays := fun kept _ _ _ _ =>
  kept.y ≠ kept.u ∧ kept.y ≠ kept.v ∧ kept.u ≠ kept.v

/-- The arrays that the listener supplies for a frame have the property. -/
def Supplies (property : KeptArrays) (world : World S) : AvCallback → Prop
  | .videoReceiveFrame _ _ height y u v yStride uStride vStride =>
    ∀ kept heap, listener.videFrameCachedYUV (w.Height.unsafeFrom height.toUInt32.toInt32) yStride
        uStride vStride world.heap = (some kept, heap) →
      property kept heap y u v
  | _ => True

/-- The arrays that the listener supplies have the property, for each of the events in turn. -/
def AlwaysSupplies (property : KeptArrays) : List AvCallback → World S → Prop
  | [], _ => True
  | cb :: cbs, world => Supplies listener property world cb ∧
      ∀ mid, Delivered listener world mid cb → AlwaysSupplies property cbs mid

end

/-- The callbacks return, and each event arrives once, at the method of its kind and with its
own arguments, while the arrays that a listener supplies have the property. -/
def Faithful (property : KeptArrays) (codec : Codec AvEvents) (w : Wrappers)
    (cbs : List AvCallback) : Prop :=
  ∃ events, AvEvents.encode {} cbs = .ok events ∧ ∃ order : List AvCallback, order.Perm cbs ∧
    ∀ (S : Type) (listener : ToxAvEventListener w S) (world : World S),
      AlwaysSupplies listener property order world →
        ∃ world', Deliveries listener order world world' ∧
          dispatch codec listener (some (codec.serializeToArray events)) world = .ok world'

/-! ### What arrives -/

section

variable {w : Wrappers} {S : Type} {listener : ToxAvEventListener w S}

/-- A copy of bytes into an array that is long enough succeeds. What is behind them stays. -/
theorem Heap.copyTo_fits {heap : Heap} {bytes old : Bytes} {target : ByteArrayRef}
    (hold : heap.contents target = old) (h : bytes.length ≤ old.length) :
    heap.copyTo bytes target
      = .ok ⟨heap.next, Function.update heap.contents target (overwrite bytes old)⟩ := by
  subst hold
  exact if_pos h

/-- Three different arrays that are long enough get the planes. -/
theorem convertPlanes_kept {kept : Arrays} {heap : Heap} {y u v : Bytes}
    (hlong : LongEnough kept heap y u v) (hseparate : Separate kept heap y u v) :
    ∃ heap', convertPlanes (some kept) y u v heap = .ok (kept, heap') ∧
      Passes (some kept) heap y u v kept heap' := by
  obtain ⟨hy, hu, hv⟩ := hlong
  obtain ⟨hyu, hyv, huv⟩ := hseparate
  let afterY := Function.update heap.contents kept.y (overwrite y (heap.contents kept.y))
  let afterU := Function.update afterY kept.u (overwrite u (heap.contents kept.u))
  let afterV := Function.update afterU kept.v (overwrite v (heap.contents kept.v))
  -- Each copy leaves the arrays of the next ones as they were.
  have hcopyY : heap.copyTo y kept.y = .ok ⟨heap.next, afterY⟩ := Heap.copyTo_fits rfl hy
  have hcopyU : Heap.copyTo ⟨heap.next, afterY⟩ u kept.u = .ok ⟨heap.next, afterU⟩ :=
    Heap.copyTo_fits (Function.update_of_ne hyu.symm ..) hu
  have holdV : afterU kept.v = heap.contents kept.v :=
    (Function.update_of_ne huv.symm ..).trans (Function.update_of_ne hyv.symm ..)
  have hcopyV : Heap.copyTo ⟨heap.next, afterU⟩ v kept.v = .ok ⟨heap.next, afterV⟩ :=
    Heap.copyTo_fits holdV hv
  refine ⟨⟨heap.next, afterV⟩, ?_, ?_, rfl, rfl, ?_, ?_, ?_⟩
  · simp only [convertPlanes, hcopyY, bind, Except.bind, hcopyU, hcopyV]
    rfl
  · intro r hry hru hrv
    exact (Function.update_of_ne hrv ..).trans
      ((Function.update_of_ne hru ..).trans (Function.update_of_ne hry ..))
  · exact (Function.update_of_ne hyv ..).trans
      ((Function.update_of_ne hyu ..).trans (Function.update_self ..))
  · exact (Function.update_of_ne huv ..).trans (Function.update_self ..)
  · exact Function.update_self ..

/-- Without arrays the planes are in new ones. -/
theorem convertPlanes_new (heap : Heap) (y u v : Bytes) :
    ∃ arrays heap', convertPlanes none y u v heap = .ok (arrays, heap') ∧
      Passes none heap y u v arrays heap' := by
  have hrefs : ∀ n : Nat, (n ≤ n ∧ n ≤ n + 1 ∧ n ≤ n + 1 + 1) ∧
      (n ≠ n + 1 ∧ n ≠ n + 1 + 1 ∧ n + 1 ≠ n + 1 + 1) := by omega
  obtain ⟨hle, hyu, hyv, huv⟩ := hrefs heap.next
  refine ⟨_, _, rfl, ?_, hle, ⟨hyu, hyv, huv⟩, ?_, ?_, Function.update_self ..⟩
  · intro r hry hru hrv
    show Function.update (Function.update (Function.update _ _ _) _ _) _ _ r = _
    rw [Function.update_of_ne hrv, Function.update_of_ne hru, Function.update_of_ne hry]
  · show Function.update (Function.update (Function.update _ heap.next _) _ _) _ _ heap.next = _
    rw [Function.update_of_ne hyv, Function.update_of_ne hyu, Function.update_self]
  · show Function.update (Function.update _ (heap.next + 1) _) _ _ (heap.next + 1) = _
    rw [Function.update_of_ne huv, Function.update_self]

/-- The dispatch delivers a valid event with its own arguments. -/
theorem deliver_delivered {cb : AvCallback} (hvalid : cb.Valid) {world : World S}
    (hlong : Supplies listener LongEnough world cb)
    (hseparate : Supplies listener Separate world cb) :
    ∃ world', deliver listener world cb = .ok world' ∧ Delivered listener world world' cb := by
  cases cb with
  | audioReceiveFrame friendNumber pcm sampleCount channels samplingRate =>
      refine ⟨_, rfl, ?_⟩
      obtain ⟨-, hlength⟩ := hvalid
      show listener.audioReceiveFrame _ (pcm.take (sampleCount * channels.toNat)) _ _ world = _
      rw [← hlength, List.take_length]
  | videoReceiveFrame friendNumber width height y u v yStride uStride vStride =>
      obtain ⟨hy, hu, hv, -⟩ := hvalid
      have hplanes : ∃ arrays heap', convertPlanes
            (listener.videFrameCachedYUV (w.Height.unsafeFrom height.toUInt32.toInt32) yStride
              uStride vStride world.heap).1 y u v
            (listener.videFrameCachedYUV (w.Height.unsafeFrom height.toUInt32.toInt32) yStride
              uStride vStride world.heap).2 = .ok (arrays, heap') ∧
          Passes (listener.videFrameCachedYUV (w.Height.unsafeFrom height.toUInt32.toInt32) yStride
              uStride vStride world.heap).1
            (listener.videFrameCachedYUV (w.Height.unsafeFrom height.toUInt32.toInt32) yStride
              uStride vStride world.heap).2 y u v arrays heap' := by
        cases hkept : listener.videFrameCachedYUV (w.Height.unsafeFrom height.toUInt32.toInt32)
          yStride uStride vStride world.heap with
        | mk kept heap =>
            cases kept with
            | none => exact convertPlanes_new heap y u v
            | some kept =>
                obtain ⟨heap', hconvert, hpasses⟩ :=
                  convertPlanes_kept (hlong kept heap hkept) (hseparate kept heap hkept)
                exact ⟨kept, heap', hconvert, hpasses⟩
      obtain ⟨arrays, heap', hconvert, hpasses⟩ := hplanes
      refine ⟨_, ?_, arrays, heap', hpasses, rfl⟩
      show handleVideoReceiveFrame listener world _ = _
      unfold handleVideoReceiveFrame
      simp only [← hy, ← hu, ← hv, List.take_length, hconvert, bind, Except.bind, pure, Except.pure]
  | _ => exact ⟨_, rfl, rfl⟩

/-- The dispatch delivers one valid event after the other. -/
theorem foldlM_deliver {cbs : List AvCallback} (hvalid : ∀ cb ∈ cbs, cb.Valid) {world : World S}
    (h : AlwaysSupplies listener
      (fun kept heap y u v => LongEnough kept heap y u v ∧ Separate kept heap y u v) cbs world) :
    ∃ world', Deliveries listener cbs world world' ∧
      cbs.foldlM (deliver listener) world = .ok world' := by
  induction cbs generalizing world with
  | nil => exact ⟨world, rfl, rfl⟩
  | cons cb cbs ih =>
      obtain ⟨hsupplies, hrest⟩ := h
      have hlong : Supplies listener LongEnough world cb := by
        cases cb with
        | videoReceiveFrame => exact fun kept heap hkept => (hsupplies kept heap hkept).1
        | _ => trivial
      have hseparate : Supplies listener Separate world cb := by
        cases cb with
        | videoReceiveFrame => exact fun kept heap hkept => (hsupplies kept heap hkept).2
        | _ => trivial
      obtain ⟨mid, hdeliver, hmid⟩ :=
        deliver_delivered (hvalid cb List.mem_cons_self) hlong hseparate
      obtain ⟨world', hall, hfold⟩ :=
        ih (fun cb' hcb' => hvalid cb' (List.mem_cons_of_mem cb hcb')) (hrest mid hmid)
      exact ⟨world', ⟨mid, hmid, hall⟩, by rw [List.foldlM_cons, hdeliver]; exact hfold⟩

end

/-- Events arrive unchanged while a listener supplies three different arrays that are long
enough, or none. -/
theorem faithful_of_separate (codec : Codec AvEvents) (w : Wrappers) {cbs : List AvCallback}
    (hvalid : ∀ cb ∈ cbs, cb.Valid) :
    Faithful (fun kept heap y u v => LongEnough kept heap y u v ∧ Separate kept heap y u v)
      codec w cbs := by
  obtain ⟨events, hevents⟩ : ∃ events, AvEvents.encode {} cbs = .ok events :=
    AvEvents.encode_valid hvalid
  have hperm : (group AvCallback.kind AvKind.all cbs).Perm cbs :=
    group_perm AvKind.nodup_all fun cb _ => AvKind.mem_all cb.kind
  refine ⟨events, hevents, _, hperm, ?_⟩
  intro S listener world hsupplies
  obtain ⟨world', hall, hfold⟩ :=
    foldlM_deliver (fun cb hcb => hvalid cb (hperm.mem_iff.mp hcb)) hsupplies
  exact ⟨world', hall, by rw [dispatch_encode listener codec hevents]; exact hfold⟩

/-! ### Two frames -/

/-- Wrapper types that add nothing. -/
def plainWrappers : Wrappers where
  ToxFriendNumber := .plain Int32
  BitRate := .plain Int32
  AudioChannels := .plain Int32
  SamplingRate := .plain Int32
  Width := .plain Int32
  Height := .plain Int32

/-- A frame of two lines with two points each. -/
def exampleFrame : AvCallback := .videoReceiveFrame 1 2 2 [1, 2, 3, 4] [5] [6] 2 1 1

/-- The frame of the example has planes of the right sizes. -/
theorem exampleFrame_valid : exampleFrame.Valid :=
  ⟨rfl, rfl, rfl, by decide, .inl (by decide)⟩

/-- A frame and two samples, one of them negative. -/
theorem faithful_exampleFrame :
    Faithful (fun kept heap y u v => LongEnough kept heap y u v ∧ Separate kept heap y u v)
      avCodec plainWrappers [exampleFrame, .audioReceiveFrame 1 [-300, 7] 2 1 48000] :=
  faithful_of_separate avCodec plainWrappers (by
    intro cb hcb
    cases List.mem_cons.mp hcb with
    | inl h => exact h ▸ exampleFrame_valid
    | inr h => exact List.mem_singleton.mp h ▸ ⟨by decide, rfl⟩)

/-- A listener that keeps one array, for all planes. -/
def oneArrayListener : ToxAvEventListener plainWrappers Unit where
  call _ _ _ world := world
  callState _ _ world := world
  audioBitRate _ _ world := world
  videoBitRate _ _ world := world
  audioReceiveFrame _ _ _ _ world := world
  videFrameCachedYUV _ _ _ _ heap := (some ⟨0, 0, 0⟩, heap)
  videoReceiveFrame _ _ _ _ _ _ _ world := world

/-- The array is as long as the longest plane, and has the last plane at its start. -/
theorem not_faithful_oneArray : ¬ Faithful LongEnough avCodec plainWrappers [exampleFrame] := by
  intro h
  obtain ⟨events, -, order, horder, hall⟩ := h
  obtain rfl : order = [exampleFrame] := List.perm_singleton.mp horder
  have hsupplies : AlwaysSupplies oneArrayListener LongEnough [exampleFrame]
      ⟨(), ⟨1, fun _ => [0, 0, 0, 0]⟩⟩ := by
    refine ⟨?_, fun _ _ => trivial⟩
    intro kept heap hkept
    obtain ⟨hsome, rfl⟩ := Prod.mk.inj hkept
    obtain rfl := Option.some.inj hsome
    exact ⟨by decide, by decide, by decide⟩
  obtain ⟨world', ⟨mid, hdelivered, -⟩, -⟩ := hall Unit oneArrayListener _ hsupplies
  obtain ⟨arrays, heap', ⟨-, -, -, hy, hu, -⟩, -⟩ := hdelivered
  -- The array would have two different first bytes.
  have hsame : overwrite [1, 2, 3, 4] [0, 0, 0, 0] = overwrite [5] [0, 0, 0, 0] := hy.symm.trans hu
  exact absurd hsame (by decide)

end Tox4j.Events.Av
