import Tox4j.Events.Av
import Tox4j.Lib.Proto3

/-!
# `Tox4j.Events.AvWire`: audio and video events in the proto3 wire format

The schemas of `Av.proto`, with the numbers of the fields, and the generated code for `AvEvents`
made from them. The repeated enumeration of `CallState` is packed.
-/

set_option autoImplicit false

namespace Tox4j.Events.Av

open Tox4j.Lib.Proto3

/-- The fields of `Call`. -/
def Call.schema : Schema Call where
  fields :=
    [int32Field 1 { get := Call.friendNumber, set := fun v m => { m with friendNumber := v } },
      boolField 2 { get := Call.audioEnabled, set := fun v m => { m with audioEnabled := v } },
      boolField 3 { get := Call.videoEnabled, set := fun v m => { m with videoEnabled := v } }]
  empty := {}
  pos := by decide
  nodup := by decide
  restores _ := ⟨rfl, rfl, rfl, rfl⟩

/-- The fields of `CallState`. The states are packed. -/
def CallState.schema : Schema CallState where
  fields :=
    [uint32Field 1
        { get := CallState.friendNumber,
          set := fun v m => { m with friendNumber := v } },
      packedField 2 { get := CallState.callState, set := fun v m => { m with callState := v } }
        int32ToWire int32OfWire int32OfWire_int32ToWire]
  empty := {}
  pos := by decide
  nodup := by decide
  restores _ := ⟨rfl, rfl, rfl⟩

/-- The fields of `AudioBitRate`. -/
def AudioBitRate.schema : Schema AudioBitRate where
  fields :=
    [uint32Field 1
        { get := AudioBitRate.friendNumber,
          set := fun v m => { m with friendNumber := v } },
      uint32Field 2
        { get := AudioBitRate.audioBitRate,
          set := fun v m => { m with audioBitRate := v } }]
  empty := {}
  pos := by decide
  nodup := by decide
  restores _ := ⟨rfl, rfl, rfl⟩

/-- The fields of `VideoBitRate`. -/
def VideoBitRate.schema : Schema VideoBitRate where
  fields :=
    [uint32Field 1
        { get := VideoBitRate.friendNumber,
          set := fun v m => { m with friendNumber := v } },
      uint32Field 2
        { get := VideoBitRate.videoBitRate,
          set := fun v m => { m with videoBitRate := v } }]
  empty := {}
  pos := by decide
  nodup := by decide
  restores _ := ⟨rfl, rfl, rfl⟩

/-- The fields of `AudioReceiveFrame`. -/
def AudioReceiveFrame.schema : Schema AudioReceiveFrame where
  fields :=
    [uint32Field 1
        { get := AudioReceiveFrame.friendNumber,
          set := fun v m => { m with friendNumber := v } },
      bytesField 2 { get := AudioReceiveFrame.pcm, set := fun v m => { m with pcm := v } },
      uint32Field 3
        { get := AudioReceiveFrame.channels,
          set := fun v m => { m with channels := v } },
      uint32Field 4
        { get := AudioReceiveFrame.samplingRate,
          set := fun v m => { m with samplingRate := v } }]
  empty := {}
  pos := by decide
  nodup := by decide
  restores _ := ⟨rfl, rfl, rfl, rfl, rfl⟩

/-- The fields of `VideoReceiveFrame`. -/
def VideoReceiveFrame.schema : Schema VideoReceiveFrame where
  fields :=
    [uint32Field 1
        { get := VideoReceiveFrame.friendNumber,
          set := fun v m => { m with friendNumber := v } },
      uint32Field 2 { get := VideoReceiveFrame.width, set := fun v m => { m with width := v } },
      uint32Field 3
        { get := VideoReceiveFrame.height,
          set := fun v m => { m with height := v } },
      bytesField 4 { get := VideoReceiveFrame.y, set := fun v m => { m with y := v } },
      bytesField 5 { get := VideoReceiveFrame.u, set := fun v m => { m with u := v } },
      bytesField 6 { get := VideoReceiveFrame.v, set := fun v m => { m with v := v } },
      int32Field 7
        { get := VideoReceiveFrame.yStride,
          set := fun v m => { m with yStride := v } },
      int32Field 8
        { get := VideoReceiveFrame.uStride,
          set := fun v m => { m with uStride := v } },
      int32Field 9
        { get := VideoReceiveFrame.vStride,
          set := fun v m => { m with vStride := v } }]
  empty := {}
  pos := by decide
  nodup := by decide
  restores m := by
    -- Each step is computed before the next one: the fields are many.
    simp only [Restores, uint32Field, int32Field, bytesField, scalarField, and_self]

/-- The fields of `AvEvents`. Each one is a repeated message. -/
def AvEvents.schema : Schema AvEvents where
  fields :=
    [messageField 1
        { get := AvEvents.call, set := fun v m => { m with call := v } }
        Call.schema,
      messageField 2
        { get := AvEvents.callState, set := fun v m => { m with callState := v } }
        CallState.schema,
      messageField 3
        { get := AvEvents.audioBitRate, set := fun v m => { m with audioBitRate := v } }
        AudioBitRate.schema,
      messageField 4
        { get := AvEvents.videoBitRate, set := fun v m => { m with videoBitRate := v } }
        VideoBitRate.schema,
      messageField 5
        { get := AvEvents.audioReceiveFrame, set := fun v m => { m with audioReceiveFrame := v } }
        AudioReceiveFrame.schema,
      messageField 6
        { get := AvEvents.videoReceiveFrame, set := fun v m => { m with videoReceiveFrame := v } }
        VideoReceiveFrame.schema]
  empty := {}
  pos := by decide
  nodup := by decide
  restores _ := ⟨rfl, rfl, rfl, rfl, rfl, rfl, rfl⟩

/-- The generated code. -/
def avCodec : Codec AvEvents where
  byteSizeLong m := (AvEvents.schema.serialize m).length
  serializeToArray := AvEvents.schema.serialize
  parseFrom := AvEvents.schema.parse
  parse_serialize := AvEvents.schema.parse_serialize

end Tox4j.Events.Av
