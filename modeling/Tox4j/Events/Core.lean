import Tox4j.Events.Pipe

/-!
# `Tox4j.Events.Core`: the events of a core instance

The messages of `Core.proto`, and the callbacks `tox4j_*_cb` of `ToxCore/lifecycle.cpp`, which
append one message to `CoreEvents`. `CoreCallback` has one constructor for each kind of
callback with its arguments, and `encode` is a sequence of callbacks.

A message has the types of its schema. An enumeration is a number there.
-/

set_option autoImplicit false

namespace Tox4j.Events.Core

/-- `TOX_CONNECTION`. -/
inductive TOX_CONNECTION
  | NONE
  | TCP
  | UDP
  deriving DecidableEq, Repr

/-- `TOX_USER_STATUS`. -/
inductive TOX_USER_STATUS
  | NONE
  | AWAY
  | BUSY
  deriving DecidableEq, Repr

/-- `TOX_MESSAGE_TYPE`. -/
inductive TOX_MESSAGE_TYPE
  | NORMAL
  | ACTION
  deriving DecidableEq, Repr

/-- `TOX_FILE_CONTROL`. -/
inductive TOX_FILE_CONTROL
  | RESUME
  | PAUSE
  | CANCEL
  deriving DecidableEq, Repr

/-- `TOX_PUBLIC_KEY_SIZE`. -/
def toxPublicKeySize : Nat := 32

/-! ### Messages -/

/-- `Connection.Type`, with the enumerator that Java adds for other numbers. -/
inductive Connection.Kind
  | NONE
  | TCP
  | UDP
  | UNRECOGNIZED
  deriving DecidableEq, Repr

/-- The numbers of `Connection.Type`. -/
def Connection.none : Int32 := 0
def Connection.tcp : Int32 := 1
def Connection.udp : Int32 := 2

/-- The enumerator of a number. -/
def Connection.forNumber (n : Int32) : Connection.Kind :=
  if n = Connection.none then .NONE
  else if n = Connection.tcp then .TCP
  else if n = Connection.udp then .UDP
  else .UNRECOGNIZED

/-- `UserStatus.Type`. -/
inductive UserStatus.Kind
  | NONE
  | AWAY
  | BUSY
  | UNRECOGNIZED
  deriving DecidableEq, Repr

/-- The numbers of `UserStatus.Type`. -/
def UserStatus.none : Int32 := 0
def UserStatus.away : Int32 := 1
def UserStatus.busy : Int32 := 2

/-- The enumerator of a number. -/
def UserStatus.forNumber (n : Int32) : UserStatus.Kind :=
  if n = UserStatus.none then .NONE
  else if n = UserStatus.away then .AWAY
  else if n = UserStatus.busy then .BUSY
  else .UNRECOGNIZED

/-- `MessageType.Type`. -/
inductive MessageType.Kind
  | NORMAL
  | ACTION
  | UNRECOGNIZED
  deriving DecidableEq, Repr

/-- The numbers of `MessageType.Type`. -/
def MessageType.normal : Int32 := 0
def MessageType.action : Int32 := 1

/-- The enumerator of a number. -/
def MessageType.forNumber (n : Int32) : MessageType.Kind :=
  if n = MessageType.normal then .NORMAL
  else if n = MessageType.action then .ACTION
  else .UNRECOGNIZED

/-- `FileControl.Type`. -/
inductive FileControl.Kind
  | RESUME
  | PAUSE
  | CANCEL
  | UNRECOGNIZED
  deriving DecidableEq, Repr

/-- The numbers of `FileControl.Type`. -/
def FileControl.resume : Int32 := 0
def FileControl.pause : Int32 := 1
def FileControl.cancel : Int32 := 2

/-- The enumerator of a number. -/
def FileControl.forNumber (n : Int32) : FileControl.Kind :=
  if n = FileControl.resume then .RESUME
  else if n = FileControl.pause then .PAUSE
  else if n = FileControl.cancel then .CANCEL
  else .UNRECOGNIZED

/-- The own connection to the network has changed. -/
structure SelfConnectionStatus where
  connectionStatus : Int32 := 0
  deriving DecidableEq, Repr

/-- A friend has a new name. -/
structure FriendName where
  friendNumber : UInt32 := 0
  name : Bytes := []
  deriving DecidableEq, Repr

/-- A friend has a new status message. -/
structure FriendStatusMessage where
  friendNumber : UInt32 := 0
  message : Bytes := []
  deriving DecidableEq, Repr

/-- A friend has a new status. The field is an `int32` with the number of the enumerator. -/
structure FriendStatus where
  friendNumber : UInt32 := 0
  status : Int32 := 0
  deriving DecidableEq, Repr

/-- The connection to a friend has changed. -/
structure FriendConnectionStatus where
  friendNumber : UInt32 := 0
  connectionStatus : Int32 := 0
  deriving DecidableEq, Repr

/-- A friend is typing, or is not typing any more. -/
structure FriendTyping where
  friendNumber : UInt32 := 0
  isTyping : Bool := false
  deriving DecidableEq, Repr

/-- A friend has received a message. -/
structure FriendReadReceipt where
  friendNumber : UInt32 := 0
  messageId : UInt32 := 0
  deriving DecidableEq, Repr

/-- Somebody with this public key asks to become a friend. -/
structure FriendRequest where
  publicKey : Bytes := []
  timeDelta : UInt32 := 0
  message : Bytes := []
  deriving DecidableEq, Repr

/-- A friend has sent a message. -/
structure FriendMessage where
  friendNumber : UInt32 := 0
  type : Int32 := 0
  timeDelta : UInt32 := 0
  message : Bytes := []
  deriving DecidableEq, Repr

/-- A friend has resumed, paused or cancelled a file transfer. -/
structure FileRecvControl where
  friendNumber : UInt32 := 0
  fileNumber : UInt32 := 0
  control : Int32 := 0
  deriving DecidableEq, Repr

/-- A friend is ready for the next chunk of a file. -/
structure FileChunkRequest where
  friendNumber : UInt32 := 0
  fileNumber : UInt32 := 0
  position : UInt64 := 0
  length : UInt32 := 0
  deriving DecidableEq, Repr

/-- A friend offers a file. -/
structure FileRecv where
  friendNumber : UInt32 := 0
  fileNumber : UInt32 := 0
  kind : UInt32 := 0
  fileSize : UInt64 := 0
  filename : Bytes := []
  deriving DecidableEq, Repr

/-- A chunk of a file has arrived. -/
structure FileRecvChunk where
  friendNumber : UInt32 := 0
  fileNumber : UInt32 := 0
  position : UInt64 := 0
  data : Bytes := []
  deriving DecidableEq, Repr

/-- A friend has sent a lossy packet. -/
structure FriendLossyPacket where
  friendNumber : UInt32 := 0
  data : Bytes := []
  deriving DecidableEq, Repr

/-- A friend has sent a lossless packet. -/
structure FriendLosslessPacket where
  friendNumber : UInt32 := 0
  data : Bytes := []
  deriving DecidableEq, Repr

/-- The events of one kind are in one field, in the order in which they were raised. -/
structure CoreEvents where
  selfConnectionStatus : List SelfConnectionStatus := []
  friendName : List FriendName := []
  friendStatusMessage : List FriendStatusMessage := []
  friendStatus : List FriendStatus := []
  friendConnectionStatus : List FriendConnectionStatus := []
  friendTyping : List FriendTyping := []
  friendReadReceipt : List FriendReadReceipt := []
  friendRequest : List FriendRequest := []
  friendMessage : List FriendMessage := []
  fileRecvControl : List FileRecvControl := []
  fileChunkRequest : List FileChunkRequest := []
  fileRecv : List FileRecv := []
  fileRecvChunk : List FileRecvChunk := []
  friendLossyPacket : List FriendLossyPacket := []
  friendLosslessPacket : List FriendLosslessPacket := []
  deriving DecidableEq, Repr

/-! ### Callbacks -/

/-- A callback with its arguments. The length of a byte string is that of the list. -/
inductive CoreCallback
  | selfConnectionStatus (connectionStatus : TOX_CONNECTION)
  | friendName (friendNumber : UInt32) (name : Bytes)
  | friendStatusMessage (friendNumber : UInt32) (message : Bytes)
  | friendStatus (friendNumber : UInt32) (status : TOX_USER_STATUS)
  | friendConnectionStatus (friendNumber : UInt32) (connectionStatus : TOX_CONNECTION)
  | friendTyping (friendNumber : UInt32) (isTyping : Bool)
  | friendReadReceipt (friendNumber messageId : UInt32)
  /-- The key is behind a pointer to at least `TOX_PUBLIC_KEY_SIZE` bytes. -/
  | friendRequest (publicKey message : Bytes)
  | friendMessage (friendNumber : UInt32) (type : TOX_MESSAGE_TYPE) (message : Bytes)
  | fileRecvControl (friendNumber fileNumber : UInt32) (control : TOX_FILE_CONTROL)
  | fileChunkRequest (friendNumber fileNumber : UInt32) (position length : UInt64)
  | fileRecv (friendNumber fileNumber kind : UInt32) (fileSize : UInt64) (filename : Bytes)
  | fileRecvChunk (friendNumber fileNumber : UInt32) (position : UInt64) (data : Bytes)
  | friendLossyPacket (friendNumber : UInt32) (data : Bytes)
  | friendLosslessPacket (friendNumber : UInt32) (data : Bytes)
  deriving DecidableEq, Repr

/-- `set_connection_status`. -/
def connectionNumber : TOX_CONNECTION → Int32
  | .NONE => Connection.none
  | .TCP => Connection.tcp
  | .UDP => Connection.udp

/-- The `switch` of `tox4j_friend_status_cb`. -/
def userStatusNumber : TOX_USER_STATUS → Int32
  | .NONE => UserStatus.none
  | .AWAY => UserStatus.away
  | .BUSY => UserStatus.busy

/-- The `switch` of `tox4j_friend_message_cb`. -/
def messageTypeNumber : TOX_MESSAGE_TYPE → Int32
  | .NORMAL => MessageType.normal
  | .ACTION => MessageType.action

/-- The `switch` of `tox4j_file_recv_control_cb`. -/
def fileControlNumber : TOX_FILE_CONTROL → Int32
  | .RESUME => FileControl.resume
  | .PAUSE => FileControl.pause
  | .CANCEL => FileControl.cancel

/-- `tox4j_self_connection_status_cb`. -/
def tox4jSelfConnectionStatusCb (connectionStatus : TOX_CONNECTION) (events : CoreEvents) :
    CoreEvents :=
  { events with selfConnectionStatus := events.selfConnectionStatus ++
      [{ connectionStatus := connectionNumber connectionStatus }] }

/-- `tox4j_friend_name_cb`. -/
def tox4jFriendNameCb (friendNumber : UInt32) (name : Bytes) (events : CoreEvents) : CoreEvents :=
  { events with friendName := events.friendName ++ [{ friendNumber, name }] }

/-- `tox4j_friend_status_message_cb`. -/
def tox4jFriendStatusMessageCb (friendNumber : UInt32) (message : Bytes) (events : CoreEvents) :
    CoreEvents :=
  { events with friendStatusMessage := events.friendStatusMessage ++ [{ friendNumber, message }] }

/-- `tox4j_friend_status_cb`. -/
def tox4jFriendStatusCb (friendNumber : UInt32) (status : TOX_USER_STATUS) (events : CoreEvents) :
    CoreEvents :=
  { events with friendStatus := events.friendStatus ++
      [{ friendNumber, status := userStatusNumber status }] }

/-- `tox4j_friend_connection_status_cb`. -/
def tox4jFriendConnectionStatusCb (friendNumber : UInt32) (connectionStatus : TOX_CONNECTION)
    (events : CoreEvents) : CoreEvents :=
  { events with friendConnectionStatus := events.friendConnectionStatus ++
      [{ friendNumber, connectionStatus := connectionNumber connectionStatus }] }

/-- `tox4j_friend_typing_cb`. -/
def tox4jFriendTypingCb (friendNumber : UInt32) (isTyping : Bool) (events : CoreEvents) :
    CoreEvents :=
  { events with friendTyping := events.friendTyping ++ [{ friendNumber, isTyping }] }

/-- `tox4j_friend_read_receipt_cb`. -/
def tox4jFriendReadReceiptCb (friendNumber messageId : UInt32) (events : CoreEvents) :
    CoreEvents :=
  { events with friendReadReceipt := events.friendReadReceipt ++ [{ friendNumber, messageId }] }

/-- `tox4j_friend_request_cb`. -/
def tox4jFriendRequestCb (publicKey message : Bytes) (events : CoreEvents) : CoreEvents :=
  { events with friendRequest := events.friendRequest ++
      [{ publicKey := publicKey.take toxPublicKeySize, timeDelta := 0, message }] }

/-- `tox4j_friend_message_cb`. -/
def tox4jFriendMessageCb (friendNumber : UInt32) (type : TOX_MESSAGE_TYPE) (message : Bytes)
    (events : CoreEvents) : CoreEvents :=
  { events with friendMessage := events.friendMessage ++
      [{ friendNumber, type := messageTypeNumber type, timeDelta := 0, message }] }

/-- `tox4j_file_recv_control_cb`. -/
def tox4jFileRecvControlCb (friendNumber fileNumber : UInt32) (control : TOX_FILE_CONTROL)
    (events : CoreEvents) : CoreEvents :=
  { events with fileRecvControl := events.fileRecvControl ++
      [{ friendNumber, fileNumber, control := fileControlNumber control }] }

/-- `tox4j_file_chunk_request_cb`. The length is a `size_t` that becomes a `uint32`. -/
def tox4jFileChunkRequestCb (friendNumber fileNumber : UInt32) (position length : UInt64)
    (events : CoreEvents) : CoreEvents :=
  { events with fileChunkRequest := events.fileChunkRequest ++
      [{ friendNumber, fileNumber, position, length := length.toUInt32 }] }

/-- `tox4j_file_recv_cb`. -/
def tox4jFileRecvCb (friendNumber fileNumber kind : UInt32) (fileSize : UInt64) (filename : Bytes)
    (events : CoreEvents) : CoreEvents :=
  { events with fileRecv := events.fileRecv ++
      [{ friendNumber, fileNumber, kind, fileSize, filename }] }

/-- `tox4j_file_recv_chunk_cb`. -/
def tox4jFileRecvChunkCb (friendNumber fileNumber : UInt32) (position : UInt64) (data : Bytes)
    (events : CoreEvents) : CoreEvents :=
  { events with fileRecvChunk := events.fileRecvChunk ++
      [{ friendNumber, fileNumber, position, data }] }

/-- `tox4j_friend_lossy_packet_cb`. -/
def tox4jFriendLossyPacketCb (friendNumber : UInt32) (data : Bytes) (events : CoreEvents) :
    CoreEvents :=
  { events with friendLossyPacket := events.friendLossyPacket ++ [{ friendNumber, data }] }

/-- `tox4j_friend_lossless_packet_cb`. -/
def tox4jFriendLosslessPacketCb (friendNumber : UInt32) (data : Bytes) (events : CoreEvents) :
    CoreEvents :=
  { events with friendLosslessPacket := events.friendLosslessPacket ++ [{ friendNumber, data }] }

namespace CoreCallback

/-- Run the callback. -/
def run (events : CoreEvents) : CoreCallback → CoreEvents
  | .selfConnectionStatus connectionStatus => tox4jSelfConnectionStatusCb connectionStatus events
  | .friendName friendNumber name => tox4jFriendNameCb friendNumber name events
  | .friendStatusMessage friendNumber message =>
    tox4jFriendStatusMessageCb friendNumber message events
  | .friendStatus friendNumber status => tox4jFriendStatusCb friendNumber status events
  | .friendConnectionStatus friendNumber connectionStatus =>
    tox4jFriendConnectionStatusCb friendNumber connectionStatus events
  | .friendTyping friendNumber isTyping => tox4jFriendTypingCb friendNumber isTyping events
  | .friendReadReceipt friendNumber messageId =>
    tox4jFriendReadReceiptCb friendNumber messageId events
  | .friendRequest publicKey message => tox4jFriendRequestCb publicKey message events
  | .friendMessage friendNumber type message =>
    tox4jFriendMessageCb friendNumber type message events
  | .fileRecvControl friendNumber fileNumber control =>
    tox4jFileRecvControlCb friendNumber fileNumber control events
  | .fileChunkRequest friendNumber fileNumber position length =>
    tox4jFileChunkRequestCb friendNumber fileNumber position length events
  | .fileRecv friendNumber fileNumber kind fileSize filename =>
    tox4jFileRecvCb friendNumber fileNumber kind fileSize filename events
  | .fileRecvChunk friendNumber fileNumber position data =>
    tox4jFileRecvChunkCb friendNumber fileNumber position data events
  | .friendLossyPacket friendNumber data => tox4jFriendLossyPacketCb friendNumber data events
  | .friendLosslessPacket friendNumber data =>
    tox4jFriendLosslessPacketCb friendNumber data events

end CoreCallback

namespace CoreEvents

/-- Two messages, field by field. -/
def append (a b : CoreEvents) : CoreEvents where
  selfConnectionStatus := a.selfConnectionStatus ++ b.selfConnectionStatus
  friendName := a.friendName ++ b.friendName
  friendStatusMessage := a.friendStatusMessage ++ b.friendStatusMessage
  friendStatus := a.friendStatus ++ b.friendStatus
  friendConnectionStatus := a.friendConnectionStatus ++ b.friendConnectionStatus
  friendTyping := a.friendTyping ++ b.friendTyping
  friendReadReceipt := a.friendReadReceipt ++ b.friendReadReceipt
  friendRequest := a.friendRequest ++ b.friendRequest
  friendMessage := a.friendMessage ++ b.friendMessage
  fileRecvControl := a.fileRecvControl ++ b.fileRecvControl
  fileChunkRequest := a.fileChunkRequest ++ b.fileChunkRequest
  fileRecv := a.fileRecv ++ b.fileRecv
  fileRecvChunk := a.fileRecvChunk ++ b.fileRecvChunk
  friendLossyPacket := a.friendLossyPacket ++ b.friendLossyPacket
  friendLosslessPacket := a.friendLosslessPacket ++ b.friendLosslessPacket

/-- A sequence of callbacks. -/
def encode (events : CoreEvents) (cbs : List CoreCallback) : CoreEvents :=
  cbs.foldl CoreCallback.run events

/-- Each callback appends to the fields, whatever they had before. -/
theorem run_eq_append (events : CoreEvents) (cb : CoreCallback) :
    cb.run events = events.append (cb.run {}) := by
  cases cb <;> simp [CoreCallback.run, append, tox4jSelfConnectionStatusCb, tox4jFriendNameCb,
    tox4jFriendStatusMessageCb, tox4jFriendStatusCb, tox4jFriendConnectionStatusCb,
    tox4jFriendTypingCb, tox4jFriendReadReceiptCb, tox4jFriendRequestCb, tox4jFriendMessageCb,
    tox4jFileRecvControlCb, tox4jFileChunkRequestCb, tox4jFileRecvCb, tox4jFileRecvChunkCb,
    tox4jFriendLossyPacketCb, tox4jFriendLosslessPacketCb]

/-- The number of elements of all fields. -/
def elements (events : CoreEvents) : Nat :=
  events.selfConnectionStatus.length + events.friendName.length +
    events.friendStatusMessage.length + events.friendStatus.length +
    events.friendConnectionStatus.length + events.friendTyping.length +
    events.friendReadReceipt.length + events.friendRequest.length + events.friendMessage.length +
    events.fileRecvControl.length + events.fileChunkRequest.length + events.fileRecv.length +
    events.fileRecvChunk.length + events.friendLossyPacket.length +
    events.friendLosslessPacket.length

end CoreEvents

/-- The queue of a core instance. -/
def coreQueue : EventQueue CoreEvents CoreCallback where
  empty := {}
  run events cb := .ok (cb.run events)
  append := CoreEvents.append
  message cb := cb.run {}
  elements := CoreEvents.elements
  eq_append_of_run events cb events' h := by
    rw [← Except.ok.inj h]
    exact CoreEvents.run_eq_append events cb
  elements_empty := rfl
  elements_append a b := by
    simp only [CoreEvents.elements, CoreEvents.append, List.length_append]
    omega
  elements_message cb := by
    cases cb <;> rfl

end Tox4j.Events.Core
