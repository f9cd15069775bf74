import Tox4j.Events.Pipe

/-!
# `Tox4j.Events.Av`: the events of an audio and video instance

The messages of `Av.proto`, and the callbacks `tox4j_*_cb` of `ToxAv/lifecycle.cpp`, which
append one message to `AvEvents`. `AvCallback` has one constructor for each kind of callback
with its arguments. The data behind a pointer is a list, and a callback reads from its start
as much as it copies.

Samples are written by `to_bytes` with the high byte first. `toShortArray_toBytes` says that
Kotlin reads them back, also the negative ones.
-/

set_option autoImplicit false

namespace Tox4j.Events.Av

open Tox4j.Native (Fatal tox4jAssert)

/-! ### Messages -/

/-- `CallState.Kind`, with the enumerator that Java adds for other numbers. -/
inductive CallState.Kind
  | ERROR
  | FINISHED
  | SENDING_A
  | SENDING_V
  | ACCEPTING_A
  | ACCEPTING_V
  | UNRECOGNIZED
  deriving DecidableEq, Repr

/-- The numbers of `CallState.Kind`. -/
def CallState.error : Int32 := 0
def CallState.finished : Int32 := 1
def CallState.sendingA : Int32 := 2
def CallState.sendingV : Int32 := 3
def CallState.acceptingA : Int32 := 4
def CallState.acceptingV : Int32 := 5

/-- The enumerator of a number. -/
def CallState.forNumber (n : Int32) : CallState.Kind :=
  if n = CallState.error then .ERROR
  else if n = CallState.finished then .FINISHED
  else if n = CallState.sendingA then .SENDING_A
  else if n = CallState.sendingV then .SENDING_V
  else if n = CallState.acceptingA then .ACCEPTING_A
  else if n = CallState.acceptingV then .ACCEPTING_V
  else .UNRECOGNIZED

/-- The friend number is an `int32` here. -/
structure Call where
  friendNumber : Int32 := 0
  audioEnabled : Bool := false
  videoEnabled : Bool := false
  deriving DecidableEq, Repr

/-- The state of a call has changed. The states are the flags of the callback that are set. -/
structure CallState where
  friendNumber : UInt32 := 0
  callState : List Int32 := []
  deriving DecidableEq, Repr

/-- The network suggests another bit rate for audio. -/
structure AudioBitRate where
  friendNumber : UInt32 := 0
  audioBitRate : UInt32 := 0
  deriving DecidableEq, Repr

/-- The network suggests another bit rate for video. -/
structure VideoBitRate where
  friendNumber : UInt32 := 0
  videoBitRate : UInt32 := 0
  deriving DecidableEq, Repr

/-- A frame of audio has arrived. The samples are bytes here, two for each. -/
structure AudioReceiveFrame where
  friendNumber : UInt32 := 0
  pcm : Bytes := []
  channels : UInt32 := 0
  samplingRate : UInt32 := 0
  deriving DecidableEq, Repr

/-- A frame of video has arrived, as three planes with their strides. -/
structure VideoReceiveFrame where
  friendNumber : UInt32 := 0
  width : UInt32 := 0
  height : UInt32 := 0
  y : Bytes := []
  u : Bytes := []
  v : Bytes := []
  yStride : Int32 := 0
  uStride : Int32 := 0
  vStride : Int32 := 0
  deriving DecidableEq, Repr

/-- The events of one kind are in one field, in the order in which they were raised. -/
structure AvEvents where
  call : List Call := []
  callState : List CallState := []
  audioBitRate : List AudioBitRate := []
  videoBitRate : List VideoBitRate := []
  audioReceiveFrame : List AudioReceiveFrame := []
  videoReceiveFrame : List VideoReceiveFrame := []
  deriving DecidableEq, Repr

/-! ### Samples -/

/-- `to_bytes` for a sample. The shift is that of an `int`. -/
def toBytesSample (value : Int16) : Bytes :=
  [(value.toInt32 >>> 8 &&& 0xff).toUInt32.toUInt8, (value.toInt32 &&& 0xff).toUInt32.toUInt8]

/-- `to_bytes` for a sequence of samples. -/
def toBytes (samples : List Int16) : Bytes := samples.flatMap toBytesSample

/-- `ByteString.toShortArray`. The order of a new buffer is big endian, and a byte without a
second one is not in the buffer of shorts. -/
def toShortArray : Bytes → List Int16
  | high :: low :: rest =>
    (high.toUInt16 <<< 8 ||| low.toUInt16).toInt16 :: toShortArray rest
  | _ => []

/-- The mask of the lowest byte and the conversion to a byte do the same. -/
theorem setWidth_and_ff (x : BitVec 32) : (x &&& 255#32).setWidth 8 = x.setWidth 8 := by
  ext i hi
  have hff : ∀ i : Fin 8, (255#32).getLsbD i.1 = true := by decide
  rw [BitVec.getElem_setWidth, BitVec.getElem_setWidth, BitVec.getLsbD_and, hff ⟨i, hi⟩,
    Bool.and_true]

/-- The two bytes of a sample are its high bits and its low bits. -/
theorem toShortArray_toBytesSample (value : Int16) (rest : Bytes) :
    toShortArray (toBytesSample value ++ rest) = value :: toShortArray rest := by
  show _ :: _ = _ :: _
  congr 1
  apply Int16.toBitVec_inj.1
  show (((value.toBitVec.signExtend 32).sshiftRight 8 &&& 255#32).setWidth 8).setWidth 16 <<< 8 |||
    ((value.toBitVec.signExtend 32 &&& 255#32).setWidth 8).setWidth 16 = value.toBitVec
  rw [setWidth_and_ff, setWidth_and_ff]
  ext i hi
  by_cases hlow : i < 8
  · have hlt : i < 32 := by omega
    simp [hlow, BitVec.getElem_signExtend, hi, hlt]
  · have hhigh : i - 8 < 8 := by omega
    have hlt : i < 32 := by omega
    have hsum : 8 + (i - 8) = i := by omega
    have hwidth : ¬ 32 ≤ i - 8 := by omega
    simp [hlow, hi, hhigh, hlt, hsum, hwidth, BitVec.getElem_signExtend,
      BitVec.getLsbD_sshiftRight]

/-- Kotlin reads the samples that the callback wrote. -/
theorem toShortArray_toBytes (samples : List Int16) : toShortArray (toBytes samples) = samples := by
  induction samples with
  | nil => rfl
  | cons value samples ih =>
      show toShortArray (toBytesSample value ++ toBytes samples) = _
      rw [toShortArray_toBytesSample, ih]

/-! ### Callbacks -/

/-- A callback with its arguments. -/
inductive AvCallback
  | call (friendNumber : UInt32) (audioEnabled videoEnabled : Bool)
  | callState (friendNumber state : UInt32)
  | audioBitRate (friendNumber audioBitRate : UInt32)
  | videoBitRate (friendNumber videoBitRate : UInt32)
  | audioReceiveFrame (friendNumber : UInt32) (pcm : List Int16) (sampleCount : Nat)
      (channels : UInt8) (samplingRate : UInt32)
  | videoReceiveFrame (friendNumber : UInt32) (width height : UInt16) (y u v : Bytes)
      (yStride uStride vStride : Int32)
  deriving DecidableEq, Repr

/-- `TOXAV_FRIEND_CALL_STATE_*`, each with the enumerator that stands for it in the message. -/
def callStateCases : List (UInt32 × Int32) :=
  [(1, CallState.error), (2, CallState.finished), (4, CallState.sendingA),
    (8, CallState.sendingV), (16, CallState.acceptingA), (32, CallState.acceptingV)]

/-- `call_state_case` for all flags. -/
def addCallStates (state : UInt32) : List Int32 :=
  callStateCases.filterMap fun (flag, number) => if state &&& flag ≠ 0 then some number else none

/-- The length of a plane. -/
def planeLength (width : Nat) (stride : Int32) (height : Nat) : Nat :=
  max width stride.toInt.natAbs * height

/-- `tox4j_call_cb`. -/
def tox4jCallCb (friendNumber : UInt32) (audioEnabled videoEnabled : Bool) (events : AvEvents) :
    AvEvents :=
  { events with call := events.call ++
      [{ friendNumber := friendNumber.toInt32, audioEnabled, videoEnabled }] }

/-- `tox4j_call_state_cb`. -/
def tox4jCallStateCb (friendNumber state : UInt32) (events : AvEvents) : AvEvents :=
  { events with callState := events.callState ++
      [{ friendNumber, callState := addCallStates state }] }

/-- `tox4j_audio_bit_rate_cb`. -/
def tox4jAudioBitRateCb (friendNumber audioBitRate : UInt32) (events : AvEvents) : AvEvents :=
  { events with audioBitRate := events.audioBitRate ++ [{ friendNumber, audioBitRate }] }

/-- `tox4j_video_bit_rate_cb`. -/
def tox4jVideoBitRateCb (friendNumber videoBitRate : UInt32) (events : AvEvents) : AvEvents :=
  { events with videoBitRate := events.videoBitRate ++ [{ friendNumber, videoBitRate }] }

/-- `tox4j_audio_receive_frame_cb`. -/
def tox4jAudioReceiveFrameCb (friendNumber : UInt32) (pcm : List Int16) (sampleCount : Nat)
    (channels : UInt8) (samplingRate : UInt32) (events : AvEvents) : AvEvents :=
  { events with audioReceiveFrame := events.audioReceiveFrame ++
      [{ friendNumber, pcm := toBytes (pcm.take (sampleCount * channels.toNat)),
         channels := channels.toUInt32, samplingRate }] }

/-- `tox4j_video_receive_frame_cb`, after its assertions. -/
def addVideoReceiveFrame (friendNumber : UInt32) (width height : UInt16) (y u v : Bytes)
    (yStride uStride vStride : Int32) (events : AvEvents) : AvEvents :=
  { events with videoReceiveFrame := events.videoReceiveFrame ++
      [{ friendNumber, width := width.toUInt32, height := height.toUInt32,
         y := y.take (planeLength width.toNat yStride height.toNat),
         u := u.take (planeLength (width.toNat / 2) uStride (height.toNat / 2)),
         v := v.take (planeLength (width.toNat / 2) vStride (height.toNat / 2)),
         yStride, uStride, vStride }] }

/-- `tox4j_video_receive_frame_cb`. -/
def tox4jVideoReceiveFrameCb (friendNumber : UInt32) (width height : UInt16) (y u v : Bytes)
    (yStride uStride vStride : Int32) (events : AvEvents) : Except Fatal AvEvents := do
  tox4jAssert (decide (yStride < 0) == decide (uStride < 0)) "ystride < 0 == ustride < 0"
  tox4jAssert (decide (yStride < 0) == decide (vStride < 0)) "ystride < 0 == vstride < 0"
  return addVideoReceiveFrame friendNumber width height y u v yStride uStride vStride events

namespace AvCallback

/-- Run the callback. -/
def run (events : AvEvents) : AvCallback → Except Fatal AvEvents
  | .call friendNumber audioEnabled videoEnabled =>
    .ok (tox4jCallCb friendNumber audioEnabled videoEnabled events)
  | .callState friendNumber state => .ok (tox4jCallStateCb friendNumber state events)
  | .audioBitRate friendNumber bitRate => .ok (tox4jAudioBitRateCb friendNumber bitRate events)
  | .videoBitRate friendNumber bitRate => .ok (tox4jVideoBitRateCb friendNumber bitRate events)
  | .audioReceiveFrame friendNumber pcm sampleCount channels samplingRate =>
    .ok (tox4jAudioReceiveFrameCb friendNumber pcm sampleCount channels samplingRate events)
  | .videoReceiveFrame friendNumber width height y u v yStride uStride vStride =>
    tox4jVideoReceiveFrameCb friendNumber width height y u v yStride uStride vStride events

/-- What the callbacks promise about their arguments: there are as many samples as are
announced, the planes have the lengths that the callback computes, and the strides have an
absolute value and are of one sign. -/
def Valid : AvCallback → Prop
  | .audioReceiveFrame _ pcm sampleCount channels _ =>
    1 ≤ channels ∧ pcm.length = sampleCount * channels.toNat
  | .videoReceiveFrame _ width height y u v yStride uStride vStride =>
    y.length = planeLength width.toNat yStride height.toNat ∧
      u.length = planeLength (width.toNat / 2) uStride (height.toNat / 2) ∧
      v.length = planeLength (width.toNat / 2) vStride (height.toNat / 2) ∧
      (-2 ^ 31 < yStride.toInt ∧ -2 ^ 31 < uStride.toInt ∧ -2 ^ 31 < vStride.toInt) ∧
      (0 ≤ yStride ∧ 0 ≤ uStride ∧ 0 ≤ vStride ∨ yStride < 0 ∧ uStride < 0 ∧ vStride < 0)
  | _ => True

/-- What the callback appends when its assertions hold. -/
def message : AvCallback → AvEvents
  | .call friendNumber audioEnabled videoEnabled =>
    tox4jCallCb friendNumber audioEnabled videoEnabled {}
  | .callState friendNumber state => tox4jCallStateCb friendNumber state {}
  | .audioBitRate friendNumber bitRate => tox4jAudioBitRateCb friendNumber bitRate {}
  | .videoBitRate friendNumber bitRate => tox4jVideoBitRateCb friendNumber bitRate {}
  | .audioReceiveFrame friendNumber pcm sampleCount channels samplingRate =>
    tox4jAudioReceiveFrameCb friendNumber pcm sampleCount channels samplingRate {}
  | .videoReceiveFrame friendNumber width height y u v yStride uStride vStride =>
    addVideoReceiveFrame friendNumber width height y u v yStride uStride vStride {}

end AvCallback

namespace AvEvents

/-- Two messages, field by field. -/
def append (a b : AvEvents) : AvEvents where
  call := a.call ++ b.call
  callState := a.callState ++ b.callState
  audioBitRate := a.audioBitRate ++ b.audioBitRate
  videoBitRate := a.videoBitRate ++ b.videoBitRate
  audioReceiveFrame := a.audioReceiveFrame ++ b.audioReceiveFrame
  videoReceiveFrame := a.videoReceiveFrame ++ b.videoReceiveFrame

/-- A sequence of callbacks. -/
def encode (events : AvEvents) (cbs : List AvCallback) : Except Fatal AvEvents :=
  cbs.foldlM AvCallback.run events

/-- A callback that returns has appended its message, whatever was there before. -/
theorem eq_append_of_run {events events' : AvEvents} {cb : AvCallback}
    (h : cb.run events = .ok events') : events' = events.append cb.message := by
  cases cb with
  | videoReceiveFrame friendNumber width height y u v yStride uStride vStride =>
      simp only [AvCallback.run, tox4jVideoReceiveFrameCb, tox4jAssert] at h
      split at h
      · split at h
        · rw [← Except.ok.inj h]
          simp [AvCallback.message, addVideoReceiveFrame, append]
        · exact nomatch h
      · exact nomatch h
  | _ =>
      rw [← Except.ok.inj h]
      simp [AvCallback.message, append, tox4jCallCb, tox4jCallStateCb, tox4jAudioBitRateCb,
        tox4jVideoBitRateCb, tox4jAudioReceiveFrameCb]

/-- A valid callback returns. -/
theorem run_valid (events : AvEvents) {cb : AvCallback} (h : cb.Valid) :
    cb.run events = .ok (events.append cb.message) := by
  have hreturns : ∃ events', cb.run events = .ok events' := by
    cases cb with
    | videoReceiveFrame friendNumber width height y u v yStride uStride vStride =>
        obtain ⟨-, -, -, -, hsigns⟩ := h
        have hu : decide (yStride < 0) = decide (uStride < 0) := by
          rw [decide_eq_decide, Int32.lt_iff_toInt_lt, Int32.lt_iff_toInt_lt]
          simp only [Int32.le_iff_toInt_le, Int32.lt_iff_toInt_lt] at hsigns
          omega
        have hv : decide (yStride < 0) = decide (vStride < 0) := by
          rw [decide_eq_decide, Int32.lt_iff_toInt_lt, Int32.lt_iff_toInt_lt]
          simp only [Int32.le_iff_toInt_le, Int32.lt_iff_toInt_lt] at hsigns
          omega
        refine ⟨addVideoReceiveFrame friendNumber width height y u v yStride uStride vStride events,
          ?_⟩
        show tox4jVideoReceiveFrameCb .. = _
        unfold tox4jVideoReceiveFrameCb
        rw [← hu, ← hv, beq_self_eq_true]
        rfl
    | _ => exact ⟨_, rfl⟩
  obtain ⟨events', hrun⟩ := hreturns
  rw [hrun, eq_append_of_run hrun]

/-- A sequence of valid callbacks returns. -/
theorem encode_valid {events : AvEvents} {cbs : List AvCallback} (h : ∀ cb ∈ cbs, cb.Valid) :
    ∃ events', events.encode cbs = .ok events' := by
  induction cbs generalizing events with
  | nil => exact ⟨events, rfl⟩
  | cons cb cbs ih =>
      unfold encode
      rw [List.foldlM_cons, run_valid events (h cb List.mem_cons_self)]
      exact ih fun cb' hcb' => h cb' (List.mem_cons_of_mem cb hcb')

/-- The number of elements of all fields. -/
def elements (events : AvEvents) : Nat :=
  events.call.length + events.callState.length + events.audioBitRate.length +
    events.videoBitRate.length + events.audioReceiveFrame.length +
    events.videoReceiveFrame.length

end AvEvents

/-- The queue of an audio and video instance. -/
def avQueue : EventQueue AvEvents AvCallback where
  empty := {}
  run := AvCallback.run
  append := AvEvents.append
  message := AvCallback.message
  elements := AvEvents.elements
  eq_append_of_run _ _ _ := AvEvents.eq_append_of_run
  elements_empty := rfl
  elements_append a b := by
    simp only [AvEvents.elements, AvEvents.append, List.length_append]
    omega
  elements_message cb := by
    cases cb <;> rfl

end Tox4j.Events.Av
