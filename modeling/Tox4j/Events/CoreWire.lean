import Tox4j.Events.Core
import Tox4j.Lib.Proto3

/-!
# `Tox4j.Events.CoreWire`: core events in the proto3 wire format

The schemas of `Core.proto`, with the numbers of the fields, and the generated code for
`CoreEvents` made from them. It is one instance of a `Codec`.
-/

set_option autoImplicit false

namespace Tox4j.Events.Core

open Tox4j.Lib.Proto3

/-- The fields of `SelfConnectionStatus`. -/
def SelfConnectionStatus.schema : Schema SelfConnectionStatus where
  fields :=
    [int32Field 1
        { get := SelfConnectionStatus.connectionStatus,
          set := fun v m => { m with connectionStatus := v } }]
  empty := {}
  pos := by decide
  nodup := by decide
  restores _ := ⟨rfl, rfl⟩

/-- The fields of `FriendName`. -/
def FriendName.schema : Schema FriendName where
  fields :=
    [uint32Field 1
        { get := FriendName.friendNumber,
          set := fun v m => { m with friendNumber := v } },
      bytesField 2 { get := FriendName.name, set := fun v m => { m with name := v } }]
  empty := {}
  pos := by decide
  nodup := by decide
  restores _ := ⟨rfl, rfl, rfl⟩

/-- The fields of `FriendStatusMessage`. -/
def FriendStatusMessage.schema : Schema FriendStatusMessage where
  fields :=
    [uint32Field 1
        { get := FriendStatusMessage.friendNumber,
          set := fun v m => { m with friendNumber := v } },
      bytesField 2
        { get := FriendStatusMessage.message,
          set := fun v m => { m with message := v } }]
  empty := {}
  pos := by decide
  nodup := by decide
  restores _ := ⟨rfl, rfl, rfl⟩

/-- The fields of `FriendStatus`. -/
def FriendStatus.schema : Schema FriendStatus where
  fields :=
    [uint32Field 1
        { get := FriendStatus.friendNumber,
          set := fun v m => { m with friendNumber := v } },
      int32Field 2 { get := FriendStatus.status, set := fun v m => { m with status := v } }]
  empty := {}
  pos := by decide
  nodup := by decide
  restores _ := ⟨rfl, rfl, rfl⟩

/-- The fields of `FriendConnectionStatus`. -/
def FriendConnectionStatus.schema : Schema FriendConnectionStatus where
  fields :=
    [uint32Field 1
        { get := FriendConnectionStatus.friendNumber,
          set := fun v m => { m with friendNumber := v } },
      int32Field 2
        { get := FriendConnectionStatus.connectionStatus,
          set := fun v m => { m with connectionStatus := v } }]
  empty := {}
  pos := by decide
  nodup := by decide
  restores _ := ⟨rfl, rfl, rfl⟩

/-- The fields of `FriendTyping`. -/
def FriendTyping.schema : Schema FriendTyping where
  fields :=
    [uint32Field 1
        { get := FriendTyping.friendNumber,
          set := fun v m => { m with friendNumber := v } },
      boolField 2 { get := FriendTyping.isTyping, set := fun v m => { m with isTyping := v } }]
  empty := {}
  pos := by decide
  nodup := by decide
  restores _ := ⟨rfl, rfl, rfl⟩

/-- The fields of `FriendReadReceipt`. -/
def FriendReadReceipt.schema : Schema FriendReadReceipt where
  fields :=
    [uint32Field 1
        { get := FriendReadReceipt.friendNumber,
          set := fun v m => { m with friendNumber := v } },
      uint32Field 2
        { get := FriendReadReceipt.messageId,
          set := fun v m => { m with messageId := v } }]
  empty := {}
  pos := by decide
  nodup := by decide
  restores _ := ⟨rfl, rfl, rfl⟩

/-- The fields of `FriendRequest`. -/
def FriendRequest.schema : Schema FriendRequest where
  fields :=
    [bytesField 1
        { get := FriendRequest.publicKey,
          set := fun v m => { m with publicKey := v } },
      uint32Field 2
        { get := FriendRequest.timeDelta,
          set := fun v m => { m with timeDelta := v } },
      bytesField 3 { get := FriendRequest.message, set := fun v m => { m with message := v } }]
  empty := {}
  pos := by decide
  nodup := by decide
  restores _ := ⟨rfl, rfl, rfl, rfl⟩

/-- The fields of `FriendMessage`. -/
def FriendMessage.schema : Schema FriendMessage where
  fields :=
    [uint32Field 1
        { get := FriendMessage.friendNumber,
          set := fun v m => { m with friendNumber := v } },
      int32Field 2 { get := FriendMessage.type, set := fun v m => { m with type := v } },
      uint32Field 3
        { get := FriendMessage.timeDelta,
          set := fun v m => { m with timeDelta := v } },
      bytesField 4 { get := FriendMessage.message, set := fun v m => { m with message := v } }]
  empty := {}
  pos := by decide
  nodup := by decide
  restores _ := ⟨rfl, rfl, rfl, rfl, rfl⟩

/-- The fields of `FileRecvControl`. -/
def FileRecvControl.schema : Schema FileRecvControl where
  fields :=
    [uint32Field 1
        { get := FileRecvControl.friendNumber,
          set := fun v m => { m with friendNumber := v } },
      uint32Field 2
        { get := FileRecvControl.fileNumber,
          set := fun v m => { m with fileNumber := v } },
      int32Field 3 { get := FileRecvControl.control, set := fun v m => { m with control := v } }]
  empty := {}
  pos := by decide
  nodup := by decide
  restores _ := ⟨rfl, rfl, rfl, rfl⟩

/-- The fields of `FileChunkRequest`. -/
def FileChunkRequest.schema : Schema FileChunkRequest where
  fields :=
    [uint32Field 1
        { get := FileChunkRequest.friendNumber,
          set := fun v m => { m with friendNumber := v } },
      uint32Field 2
        { get := FileChunkRequest.fileNumber,
          set := fun v m => { m with fileNumber := v } },
      uint64Field 3
        { get := FileChunkRequest.position,
          set := fun v m => { m with position := v } },
      uint32Field 4 { get := FileChunkRequest.length, set := fun v m => { m with length := v } }]
  empty := {}
  pos := by decide
  nodup := by decide
  restores _ := ⟨rfl, rfl, rfl, rfl, rfl⟩

/-- The fields of `FileRecv`. -/
def FileRecv.schema : Schema FileRecv where
  fields :=
    [uint32Field 1
        { get := FileRecv.friendNumber,
          set := fun v m => { m with friendNumber := v } },
      uint32Field 2 { get := FileRecv.fileNumber, set := fun v m => { m with fileNumber := v } },
      uint32Field 3 { get := FileRecv.kind, set := fun v m => { m with kind := v } },
      uint64Field 4 { get := FileRecv.fileSize, set := fun v m => { m with fileSize := v } },
      bytesField 5 { get := FileRecv.filename, set := fun v m => { m with filename := v } }]
  empty := {}
  pos := by decide
  nodup := by decide
  restores _ := ⟨rfl, rfl, rfl, rfl, rfl, rfl⟩

/-- The fields of `FileRecvChunk`. -/
def FileRecvChunk.schema : Schema FileRecvChunk where
  fields :=
    [uint32Field 1
        { get := FileRecvChunk.friendNumber,
          set := fun v m => { m with friendNumber := v } },
      uint32Field 2
        { get := FileRecvChunk.fileNumber,
          set := fun v m => { m with fileNumber := v } },
      uint64Field 3
        { get := FileRecvChunk.position,
          set := fun v m => { m with position := v } },
      bytesField 4 { get := FileRecvChunk.data, set := fun v m => { m with data := v } }]
  empty := {}
  pos := by decide
  nodup := by decide
  restores _ := ⟨rfl, rfl, rfl, rfl, rfl⟩

/-- The fields of `FriendLossyPacket`. -/
def FriendLossyPacket.schema : Schema FriendLossyPacket where
  fields :=
    [uint32Field 1
        { get := FriendLossyPacket.friendNumber,
          set := fun v m => { m with friendNumber := v } },
      bytesField 2 { get := FriendLossyPacket.data, set := fun v m => { m with data := v } }]
  empty := {}
  pos := by decide
  nodup := by decide
  restores _ := ⟨rfl, rfl, rfl⟩

/-- The fields of `FriendLosslessPacket`. -/
def FriendLosslessPacket.schema : Schema FriendLosslessPacket where
  fields :=
    [uint32Field 1
        { get := FriendLosslessPacket.friendNumber,
          set := fun v m => { m with friendNumber := v } },
      bytesField 2 { get := FriendLosslessPacket.data, set := fun v m => { m with data := v } }]
  empty := {}
  pos := by decide
  nodup := by decide
  restores _ := ⟨rfl, rfl, rfl⟩

/-- The fields of `CoreEvents`. Each one is a repeated message. -/
def CoreEvents.schema : Schema CoreEvents where
  fields :=
    [messageField 1
        { get := CoreEvents.selfConnectionStatus,
          set := fun v m => { m with selfConnectionStatus := v } }
        SelfConnectionStatus.schema,
      messageField 2
        { get := CoreEvents.friendName,
          set := fun v m => { m with friendName := v } }
        FriendName.schema,
      messageField 3
        { get := CoreEvents.friendStatusMessage,
          set := fun v m => { m with friendStatusMessage := v } }
        FriendStatusMessage.schema,
      messageField 4
        { get := CoreEvents.friendStatus,
          set := fun v m => { m with friendStatus := v } }
        FriendStatus.schema,
      messageField 5
        { get := CoreEvents.friendConnectionStatus,
          set := fun v m => { m with friendConnectionStatus := v } }
        FriendConnectionStatus.schema,
      messageField 6
        { get := CoreEvents.friendTyping,
          set := fun v m => { m with friendTyping := v } }
        FriendTyping.schema,
      messageField 7
        { get := CoreEvents.friendReadReceipt,
          set := fun v m => { m with friendReadReceipt := v } }
        FriendReadReceipt.schema,
      messageField 8
        { get := CoreEvents.friendRequest,
          set := fun v m => { m with friendRequest := v } }
        FriendRequest.schema,
      messageField 9
        { get := CoreEvents.friendMessage,
          set := fun v m => { m with friendMessage := v } }
        FriendMessage.schema,
      messageField 10
        { get := CoreEvents.fileRecvControl,
          set := fun v m => { m with fileRecvControl := v } }
        FileRecvControl.schema,
      messageField 11
        { get := CoreEvents.fileChunkRequest,
          set := fun v m => { m with fileChunkRequest := v } }
        FileChunkRequest.schema,
      messageField 12
        { get := CoreEvents.fileRecv,
          set := fun v m => { m with fileRecv := v } }
        FileRecv.schema,
      messageField 13
        { get := CoreEvents.fileRecvChunk,
          set := fun v m => { m with fileRecvChunk := v } }
        FileRecvChunk.schema,
      messageField 14
        { get := CoreEvents.friendLossyPacket,
          set := fun v m => { m with friendLossyPacket := v } }
        FriendLossyPacket.schema,
      messageField 15
        { get := CoreEvents.friendLosslessPacket,
          set := fun v m => { m with friendLosslessPacket := v } }
        FriendLosslessPacket.schema]
  empty := {}
  pos := by decide
  nodup := by decide
  restores m := by
    -- Each step is computed before the next one: the fields are many.
    simp only [Restores, messageField, repeatedField, List.nil_append, and_self]

/-- The generated code. -/
def coreCodec : Codec CoreEvents where
  byteSizeLong m := (CoreEvents.schema.serialize m).length
  serializeToArray := CoreEvents.schema.serialize
  parseFrom := CoreEvents.schema.parse
  parse_serialize := CoreEvents.schema.parse_serialize

/-- Each event in a core message takes two bytes at least, so only the empty message has no bytes.
-/
theorem coreCodec_wireSize : WireSize coreQueue coreCodec where
  elements m := by
    have hfields : (toFields CoreEvents.schema.fields m).length = m.elements := by
      simp [toFields, CoreEvents.schema, messageField, repeatedField, CoreEvents.elements,
        Nat.add_assoc]
    have hlength := length_serialize CoreEvents.schema.fields m
    rw [hfields] at hlength
    exact hlength
  empty := rfl

end Tox4j.Events.Core
