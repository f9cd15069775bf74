import Tox4j.Events.CoreWire

/-!
# `Tox4j.Events.CoreDispatch`: the dispatch of core events

`ToxCoreEventDispatch` and `ToxCoreProtoConverter`. A listener has one method for each kind of
event, which takes the state and returns the next one. `dispatch` calls the methods for the
events in a serialised message, one kind after the other.

`dispatch_encode` says what arrives of a sequence of callbacks: each of them once, grouped by
kind, in the order of the callbacks within each kind. `faithful_iff` is the condition under
which each arrives with its own arguments. `dispatchFileRecvChunk` passes the file number for
the friend number, so it is that these two are equal in every received chunk.
-/

set_option autoImplicit false

namespace Tox4j.Events.Core

/-! ### The types of the API -/

/-- `ToxConnection`. -/
inductive ToxConnection
  | NONE
  | TCP
  | UDP
  deriving DecidableEq, Repr

/-- `ToxUserStatus`. -/
inductive ToxUserStatus
  | NONE
  | AWAY
  | BUSY
  deriving DecidableEq, Repr

/-- `ToxFileControl`. -/
inductive ToxFileControl
  | RESUME
  | PAUSE
  | CANCEL
  deriving DecidableEq, Repr

/-- `ToxMessageType`. -/
inductive ToxMessageType
  | NORMAL
  | ACTION
  deriving DecidableEq, Repr

/-- The wrapper types of `im.tox.tox4j.core.data`. -/
structure Wrappers where
  ToxFriendNumber : Wrapper Int32
  ToxNickname : Wrapper Bytes
  ToxStatusMessage : Wrapper Bytes
  ToxPublicKey : Wrapper Bytes
  ToxFriendRequestMessage : Wrapper Bytes
  ToxFriendMessage : Wrapper Bytes
  ToxFileName : Wrapper Bytes
  ToxLossyPacket : Wrapper Bytes
  ToxLosslessPacket : Wrapper Bytes

/-- `ToxCoreEventListener`. A Java `int` or `long` has the bits of the unsigned number. -/
structure ToxCoreEventListener (w : Wrappers) (S : Type) where
  selfConnectionStatus (connectionStatus : ToxConnection) (state : S) : S
  friendName (friendNumber : w.ToxFriendNumber.Wrapped) (name : w.ToxNickname.Wrapped)
    (state : S) : S
  friendStatusMessage (friendNumber : w.ToxFriendNumber.Wrapped)
    (message : w.ToxStatusMessage.Wrapped) (state : S) : S
  friendStatus (friendNumber : w.ToxFriendNumber.Wrapped) (status : ToxUserStatus)
    (state : S) : S
  friendConnectionStatus (friendNumber : w.ToxFriendNumber.Wrapped)
    (connectionStatus : ToxConnection) (state : S) : S
  friendTyping (friendNumber : w.ToxFriendNumber.Wrapped) (isTyping : Bool) (state : S) : S
  friendReadReceipt (friendNumber : w.ToxFriendNumber.Wrapped) (messageId : Int32)
    (state : S) : S
  friendRequest (publicKey : w.ToxPublicKey.Wrapped) (timeDelta : Int32)
    (message : w.ToxFriendRequestMessage.Wrapped) (state : S) : S
  friendMessage (friendNumber : w.ToxFriendNumber.Wrapped) (messageType : ToxMessageType)
    (timeDelta : Int32) (message : w.ToxFriendMessage.Wrapped) (state : S) : S
  fileRecvControl (friendNumber : w.ToxFriendNumber.Wrapped) (fileNumber : Int32)
    (control : ToxFileControl) (state : S) : S
  fileChunkRequest (friendNumber : w.ToxFriendNumber.Wrapped) (fileNumber : Int32)
    (position : Int64) (length : Int32) (state : S) : S
  fileRecv (friendNumber : w.ToxFriendNumber.Wrapped) (fileNumber kind : Int32)
    (fileSize : Int64) (filename : w.ToxFileName.Wrapped) (state : S) : S
  fileRecvChunk (friendNumber : w.ToxFriendNumber.Wrapped) (fileNumber : Int32)
    (position : Int64) (data : Bytes) (state : S) : S
  friendLossyPacket (friendNumber : w.ToxFriendNumber.Wrapped)
    (data : w.ToxLossyPacket.Wrapped) (state : S) : S
  friendLosslessPacket (friendNumber : w.ToxFriendNumber.Wrapped)
    (data : w.ToxLosslessPacket.Wrapped) (state : S) : S

/-! ### `ToxCoreProtoConverter` -/

/-- `convert` for a connection type. -/
def convertConnection : Connection.Kind → Except KotlinException ToxConnection
  | .NONE => .ok .NONE
  | .TCP => .ok .TCP
  | .UDP => .ok .UDP
  | .UNRECOGNIZED => .error (.illegalArgument "Unrecognized connection type")

/-- `convert` for a user status. -/
def convertUserStatus : UserStatus.Kind → Except KotlinException ToxUserStatus
  | .NONE => .ok .NONE
  | .AWAY => .ok .AWAY
  | .BUSY => .ok .BUSY
  | .UNRECOGNIZED => .error (.illegalArgument "Unrecognized user status type")

/-- `convert` for a file control. -/
def convertFileControl : FileControl.Kind → Except KotlinException ToxFileControl
  | .RESUME => .ok .RESUME
  | .PAUSE => .ok .PAUSE
  | .CANCEL => .ok .CANCEL
  | .UNRECOGNIZED => .error (.illegalArgument "Unrecognized file control type")

/-- `convert` for a message type. -/
def convertMessageType : MessageType.Kind → Except KotlinException ToxMessageType
  | .NORMAL => .ok .NORMAL
  | .ACTION => .ok .ACTION
  | .UNRECOGNIZED => .error (.illegalArgument "Unrecognized message type")

/-- `convert` for a file kind. -/
def convertFileKind (fileKind : Int32) : Int32 := fileKind

/-! ### `ToxCoreEventDispatch` -/

section

variable {w : Wrappers} {S : Type}

/-- `dispatchSelfConnectionStatus`. -/
def dispatchSelfConnectionStatus (callback : ToxCoreEventListener w S)
    (selfConnectionStatusList : List SelfConnectionStatus) (state : S) :
    Except KotlinException S :=
  selfConnectionStatusList.foldlM
    (fun state selfConnectionStatus => do
      let connectionStatus ← convertConnection
        (Connection.forNumber selfConnectionStatus.connectionStatus)
      return callback.selfConnectionStatus connectionStatus state)
    state

/-- `dispatchFriendName`. -/
def dispatchFriendName (callback : ToxCoreEventListener w S) (friendNameList : List FriendName)
    (state : S) : Except KotlinException S :=
  friendNameList.foldlM
    (fun state friendName =>
      return callback.friendName
        (w.ToxFriendNumber.unsafeFrom friendName.friendNumber.toInt32)
        (w.ToxNickname.unsafeFrom friendName.name) state)
    state

/-- `dispatchFriendStatusMessage`. -/
def dispatchFriendStatusMessage (callback : ToxCoreEventListener w S)
    (friendStatusMessageList : List FriendStatusMessage) (state : S) :
    Except KotlinException S :=
  friendStatusMessageList.foldlM
    (fun state friendStatusMessage =>
      return callback.friendStatusMessage
        (w.ToxFriendNumber.unsafeFrom friendStatusMessage.friendNumber.toInt32)
        (w.ToxStatusMessage.unsafeFrom friendStatusMessage.message) state)
    state

/-- `dispatchFriendStatus`. -/
def dispatchFriendStatus (callback : ToxCoreEventListener w S)
    (friendStatusList : List FriendStatus) (state : S) : Except KotlinException S :=
  friendStatusList.foldlM
    (fun state friendStatus => do
      let status ← convertUserStatus (UserStatus.forNumber friendStatus.status)
      return callback.friendStatus
        (w.ToxFriendNumber.unsafeFrom friendStatus.friendNumber.toInt32) status state)
    state

/-- `dispatchFriendConnectionStatus`. -/
def dispatchFriendConnectionStatus (callback : ToxCoreEventListener w S)
    (friendConnectionStatusList : List FriendConnectionStatus) (state : S) :
    Except KotlinException S :=
  friendConnectionStatusList.foldlM
    (fun state friendConnectionStatus => do
      let connectionStatus ← convertConnection
        (Connection.forNumber friendConnectionStatus.connectionStatus)
      return callback.friendConnectionStatus
        (w.ToxFriendNumber.unsafeFrom friendConnectionStatus.friendNumber.toInt32)
        connectionStatus state)
    state

/-- `dispatchFriendTyping`. -/
def dispatchFriendTyping (callback : ToxCoreEventListener w S)
    (friendTypingList : List FriendTyping) (state : S) : Except KotlinException S :=
  friendTypingList.foldlM
    (fun state friendTyping =>
      return callback.friendTyping
        (w.ToxFriendNumber.unsafeFrom friendTyping.friendNumber.toInt32)
        friendTyping.isTyping state)
    state

/-- `dispatchFriendReadReceipt`. -/
def dispatchFriendReadReceipt (callback : ToxCoreEventListener w S)
    (friendReadReceiptList : List FriendReadReceipt) (state : S) : Except KotlinException S :=
  friendReadReceiptList.foldlM
    (fun state friendReadReceipt =>
      return callback.friendReadReceipt
        (w.ToxFriendNumber.unsafeFrom friendReadReceipt.friendNumber.toInt32)
        friendReadReceipt.messageId.toInt32 state)
    state

/-- `dispatchFriendRequest`. -/
def dispatchFriendRequest (callback : ToxCoreEventListener w S)
    (friendRequestList : List FriendRequest) (state : S) : Except KotlinException S :=
  friendRequestList.foldlM
    (fun state friendRequest =>
      return callback.friendRequest
        (w.ToxPublicKey.unsafeFrom friendRequest.publicKey)
        friendRequest.timeDelta.toInt32
        (w.ToxFriendRequestMessage.unsafeFrom friendRequest.message) state)
    state

/-- `dispatchFriendMessage`. -/
def dispatchFriendMessage (callback : ToxCoreEventListener w S)
    (friendMessageList : List FriendMessage) (state : S) : Except KotlinException S :=
  friendMessageList.foldlM
    (fun state friendMessage => do
      let messageType ← convertMessageType (MessageType.forNumber friendMessage.type)
      return callback.friendMessage
        (w.ToxFriendNumber.unsafeFrom friendMessage.friendNumber.toInt32)
        messageType friendMessage.timeDelta.toInt32
        (w.ToxFriendMessage.unsafeFrom friendMessage.message) state)
    state

/-- `dispatchFileRecvControl`. -/
def dispatchFileRecvControl (callback : ToxCoreEventListener w S)
    (fileRecvControlList : List FileRecvControl) (state : S) : Except KotlinException S :=
  fileRecvControlList.foldlM
    (fun state fileRecvControl => do
      let control ← convertFileControl (FileControl.forNumber fileRecvControl.control)
      return callback.fileRecvControl
        (w.ToxFriendNumber.unsafeFrom fileRecvControl.friendNumber.toInt32)
        fileRecvControl.fileNumber.toInt32 control state)
    state

/-- `dispatchFileChunkRequest`. -/
def dispatchFileChunkRequest (callback : ToxCoreEventListener w S)
    (fileChunkRequestList : List FileChunkRequest) (state : S) : Except KotlinException S :=
  fileChunkRequestList.foldlM
    (fun state fileChunkRequest =>
      return callback.fileChunkRequest
        (w.ToxFriendNumber.unsafeFrom fileChunkRequest.friendNumber.toInt32)
        fileChunkRequest.fileNumber.toInt32 fileChunkRequest.position.toInt64
        fileChunkRequest.length.toInt32 state)
    state

/-- `dispatchFileRecv`. -/
def dispatchFileRecv (callback : ToxCoreEventListener w S) (fileRectList : List FileRecv)
    (state : S) : Except KotlinException S :=
  fileRectList.foldlM
    (fun state fileRecv =>
      return callback.fileRecv
        (w.ToxFriendNumber.unsafeFrom fileRecv.friendNumber.toInt32)
        fileRecv.fileNumber.toInt32 (convertFileKind fileRecv.kind.toInt32)
        fileRecv.fileSize.toInt64 (w.ToxFileName.unsafeFrom fileRecv.filename) state)
    state

/-- `dispatchFileRecvChunk`. The friend number is made from the file number. -/
def dispatchFileRecvChunk (callback : ToxCoreEventListener w S)
    (fileRecvChunkList : List FileRecvChunk) (state : S) : Except KotlinException S :=
  fileRecvChunkList.foldlM
    (fun state fileRecvChunk =>
      return callback.fileRecvChunk
        (w.ToxFriendNumber.unsafeFrom fileRecvChunk.fileNumber.toInt32)
        fileRecvChunk.fileNumber.toInt32 fileRecvChunk.position.toInt64
        fileRecvChunk.data state)
    state

/-- `dispatchFriendLossyPacket`. -/
def dispatchFriendLossyPacket (callback : ToxCoreEventListener w S)
    (friendLossyPacketList : List FriendLossyPacket) (state : S) : Except KotlinException S :=
  friendLossyPacketList.foldlM
    (fun state friendLossyPacket =>
      return callback.friendLossyPacket
        (w.ToxFriendNumber.unsafeFrom friendLossyPacket.friendNumber.toInt32)
        (w.ToxLossyPacket.unsafeFrom friendLossyPacket.data) state)
    state

/-- `dispatchFriendLosslessPacket`. -/
def dispatchFriendLosslessPacket (callback : ToxCoreEventListener w S)
    (friendLosslessPacketList : List FriendLosslessPacket) (state : S) :
    Except KotlinException S :=
  friendLosslessPacketList.foldlM
    (fun state friendLosslessPacket =>
      return callback.friendLosslessPacket
        (w.ToxFriendNumber.unsafeFrom friendLosslessPacket.friendNumber.toInt32)
        (w.ToxLosslessPacket.unsafeFrom friendLosslessPacket.data) state)
    state

/-- The sequence of dispatchers in `dispatch`. -/
def dispatchers (eventListener : ToxCoreEventListener w S) (events : CoreEvents) :
    List (S → Except KotlinException S) :=
  [dispatchSelfConnectionStatus eventListener events.selfConnectionStatus,
    dispatchFriendName eventListener events.friendName,
    dispatchFriendStatusMessage eventListener events.friendStatusMessage,
    dispatchFriendStatus eventListener events.friendStatus,
    dispatchFriendConnectionStatus eventListener events.friendConnectionStatus,
    dispatchFriendTyping eventListener events.friendTyping,
    dispatchFriendReadReceipt eventListener events.friendReadReceipt,
    dispatchFriendRequest eventListener events.friendRequest,
    dispatchFriendMessage eventListener events.friendMessage,
    dispatchFileRecvControl eventListener events.fileRecvControl,
    dispatchFileChunkRequest eventListener events.fileChunkRequest,
    dispatchFileRecv eventListener events.fileRecv,
    dispatchFileRecvChunk eventListener events.fileRecvChunk,
    dispatchFriendLossyPacket eventListener events.friendLossyPacket,
    dispatchFriendLosslessPacket eventListener events.friendLosslessPacket]

/-- `dispatch`. -/
def dispatch (codec : Codec CoreEvents) (eventListener : ToxCoreEventListener w S)
    (eventData : Option Bytes) (state : S) : Except KotlinException S :=
  match eventData with
  | none => .ok state
  | some eventData =>
    match codec.parseFrom eventData with
    | none => .error .invalidProtocolBuffer
    | some events =>
      (dispatchers eventListener events).foldlM (fun state dispatcher => dispatcher state) state

end

/-! ### What should arrive -/

/-- The enumerator of the same name. -/
def TOX_CONNECTION.namesake : TOX_CONNECTION → ToxConnection
  | .NONE => .NONE
  | .TCP => .TCP
  | .UDP => .UDP

/-- The enumerator of the same name. -/
def TOX_USER_STATUS.namesake : TOX_USER_STATUS → ToxUserStatus
  | .NONE => .NONE
  | .AWAY => .AWAY
  | .BUSY => .BUSY

/-- The enumerator of the same name. -/
def TOX_MESSAGE_TYPE.namesake : TOX_MESSAGE_TYPE → ToxMessageType
  | .NORMAL => .NORMAL
  | .ACTION => .ACTION

/-- The enumerator of the same name. -/
def TOX_FILE_CONTROL.namesake : TOX_FILE_CONTROL → ToxFileControl
  | .RESUME => .RESUME
  | .PAUSE => .PAUSE
  | .CANCEL => .CANCEL

/-- The kinds of callbacks. -/
inductive CoreKind
  | selfConnectionStatus
  | friendName
  | friendStatusMessage
  | friendStatus
  | friendConnectionStatus
  | friendTyping
  | friendReadReceipt
  | friendRequest
  | friendMessage
  | fileRecvControl
  | fileChunkRequest
  | fileRecv
  | fileRecvChunk
  | friendLossyPacket
  | friendLosslessPacket
  deriving DecidableEq, Repr

/-- All kinds, in the order of `dispatch`. -/
def CoreKind.all : List CoreKind :=
  [.selfConnectionStatus, .friendName, .friendStatusMessage, .friendStatus,
    .friendConnectionStatus, .friendTyping, .friendReadReceipt, .friendRequest, .friendMessage,
    .fileRecvControl, .fileChunkRequest, .fileRecv, .fileRecvChunk, .friendLossyPacket,
    .friendLosslessPacket]

/-- `CoreKind.all` has all kinds of events. -/
theorem CoreKind.mem_all (kind : CoreKind) : kind ∈ CoreKind.all := by
  cases kind <;> decide

/-- `CoreKind.all` has each kind once. -/
theorem CoreKind.nodup_all : CoreKind.all.Nodup := by decide

namespace CoreCallback

/-- The kind of a callback. -/
def kind : CoreCallback → CoreKind
  | .selfConnectionStatus .. => .selfConnectionStatus
  | .friendName .. => .friendName
  | .friendStatusMessage .. => .friendStatusMessage
  | .friendStatus .. => .friendStatus
  | .friendConnectionStatus .. => .friendConnectionStatus
  | .friendTyping .. => .friendTyping
  | .friendReadReceipt .. => .friendReadReceipt
  | .friendRequest .. => .friendRequest
  | .friendMessage .. => .friendMessage
  | .fileRecvControl .. => .fileRecvControl
  | .fileChunkRequest .. => .fileChunkRequest
  | .fileRecv .. => .fileRecv
  | .fileRecvChunk .. => .fileRecvChunk
  | .friendLossyPacket .. => .friendLossyPacket
  | .friendLosslessPacket .. => .friendLosslessPacket

/-- What toxcore promises about the arguments: a key has its size, and the length of a chunk
fits in 32 bits. -/
def Valid : CoreCallback → Prop
  | .friendRequest publicKey _ => publicKey.length = toxPublicKeySize
  | .fileChunkRequest _ _ _ length => length.toNat < 2 ^ 32
  | _ => True

/-- What the listener gets. -/
def received : CoreCallback → CoreCallback
  | .friendRequest publicKey message => .friendRequest (publicKey.take toxPublicKeySize) message
  | .fileRecvChunk _ fileNumber position data => .fileRecvChunk fileNumber fileNumber position data
  | cb => cb

end CoreCallback

section

variable {w : Wrappers} {S : Type}

/-- The call of the listener with the arguments of the event. -/
def deliver (listener : ToxCoreEventListener w S) (state : S) : CoreCallback → S
  | .selfConnectionStatus connectionStatus =>
    listener.selfConnectionStatus connectionStatus.namesake state
  | .friendName friendNumber name =>
    listener.friendName (w.ToxFriendNumber.unsafeFrom friendNumber.toInt32)
      (w.ToxNickname.unsafeFrom name) state
  | .friendStatusMessage friendNumber message =>
    listener.friendStatusMessage (w.ToxFriendNumber.unsafeFrom friendNumber.toInt32)
      (w.ToxStatusMessage.unsafeFrom message) state
  | .friendStatus friendNumber status =>
    listener.friendStatus (w.ToxFriendNumber.unsafeFrom friendNumber.toInt32) status.namesake state
  | .friendConnectionStatus friendNumber connectionStatus =>
    listener.friendConnectionStatus (w.ToxFriendNumber.unsafeFrom friendNumber.toInt32)
      connectionStatus.namesake state
  | .friendTyping friendNumber isTyping =>
    listener.friendTyping (w.ToxFriendNumber.unsafeFrom friendNumber.toInt32) isTyping state
  | .friendReadReceipt friendNumber messageId =>
    listener.friendReadReceipt (w.ToxFriendNumber.unsafeFrom friendNumber.toInt32)
      messageId.toInt32 state
  | .friendRequest publicKey message =>
    listener.friendRequest (w.ToxPublicKey.unsafeFrom publicKey) 0
      (w.ToxFriendRequestMessage.unsafeFrom message) state
  | .friendMessage friendNumber type message =>
    listener.friendMessage (w.ToxFriendNumber.unsafeFrom friendNumber.toInt32) type.namesake 0
      (w.ToxFriendMessage.unsafeFrom message) state
  | .fileRecvControl friendNumber fileNumber control =>
    listener.fileRecvControl (w.ToxFriendNumber.unsafeFrom friendNumber.toInt32)
      fileNumber.toInt32 control.namesake state
  | .fileChunkRequest friendNumber fileNumber position length =>
    listener.fileChunkRequest (w.ToxFriendNumber.unsafeFrom friendNumber.toInt32)
      fileNumber.toInt32 position.toInt64 length.toUInt32.toInt32 state
  | .fileRecv friendNumber fileNumber kind fileSize filename =>
    listener.fileRecv (w.ToxFriendNumber.unsafeFrom friendNumber.toInt32) fileNumber.toInt32
      kind.toInt32 fileSize.toInt64 (w.ToxFileName.unsafeFrom filename) state
  | .fileRecvChunk friendNumber fileNumber position data =>
    listener.fileRecvChunk (w.ToxFriendNumber.unsafeFrom friendNumber.toInt32)
      fileNumber.toInt32 position.toInt64 data state
  | .friendLossyPacket friendNumber data =>
    listener.friendLossyPacket (w.ToxFriendNumber.unsafeFrom friendNumber.toInt32)
      (w.ToxLossyPacket.unsafeFrom data) state
  | .friendLosslessPacket friendNumber data =>
    listener.friendLosslessPacket (w.ToxFriendNumber.unsafeFrom friendNumber.toInt32)
      (w.ToxLosslessPacket.unsafeFrom data) state

/-! ### What arrives -/

/-- A connection status arrives as itself. -/
@[simp] theorem convertConnection_number (connectionStatus : TOX_CONNECTION) :
    convertConnection (Connection.forNumber (connectionNumber connectionStatus))
      = .ok connectionStatus.namesake := by
  cases connectionStatus <;> rfl

/-- A user status arrives as itself. -/
@[simp] theorem convertUserStatus_number (status : TOX_USER_STATUS) :
    convertUserStatus (UserStatus.forNumber (userStatusNumber status)) = .ok status.namesake := by
  cases status <;> rfl

/-- A message type arrives as itself. -/
@[simp] theorem convertMessageType_number (type : TOX_MESSAGE_TYPE) :
    convertMessageType (MessageType.forNumber (messageTypeNumber type)) = .ok type.namesake := by
  cases type <;> rfl

/-- A file control arrives as itself. -/
@[simp] theorem convertFileControl_number (control : TOX_FILE_CONTROL) :
    convertFileControl (FileControl.forNumber (fileControlNumber control))
      = .ok control.namesake := by
  cases control <;> rfl

/-- The dispatcher of a kind. -/
def dispatcherOf (listener : ToxCoreEventListener w S) (events : CoreEvents) :
    CoreKind → S → Except KotlinException S
  | .selfConnectionStatus => dispatchSelfConnectionStatus listener events.selfConnectionStatus
  | .friendName => dispatchFriendName listener events.friendName
  | .friendStatusMessage => dispatchFriendStatusMessage listener events.friendStatusMessage
  | .friendStatus => dispatchFriendStatus listener events.friendStatus
  | .friendConnectionStatus =>
    dispatchFriendConnectionStatus listener events.friendConnectionStatus
  | .friendTyping => dispatchFriendTyping listener events.friendTyping
  | .friendReadReceipt => dispatchFriendReadReceipt listener events.friendReadReceipt
  | .friendRequest => dispatchFriendRequest listener events.friendRequest
  | .friendMessage => dispatchFriendMessage listener events.friendMessage
  | .fileRecvControl => dispatchFileRecvControl listener events.fileRecvControl
  | .fileChunkRequest => dispatchFileChunkRequest listener events.fileChunkRequest
  | .fileRecv => dispatchFileRecv listener events.fileRecv
  | .fileRecvChunk => dispatchFileRecvChunk listener events.fileRecvChunk
  | .friendLossyPacket => dispatchFriendLossyPacket listener events.friendLossyPacket
  | .friendLosslessPacket => dispatchFriendLosslessPacket listener events.friendLosslessPacket

section

variable (listener : ToxCoreEventListener w S) (kind : CoreKind) (s : S)

/-- Two messages are dispatched one after the other. -/
theorem dispatcherOf_append (a b : CoreEvents) :
    dispatcherOf listener (a.append b) kind s
      = dispatcherOf listener a kind s >>= dispatcherOf listener b kind := by
  cases kind <;> exact List.foldlM_append

/-- A message without events calls no method of the listener. -/
theorem dispatcherOf_empty : dispatcherOf listener {} kind s = .ok s := by
  cases kind <;> rfl

/-- A callback is not seen by the dispatcher of another kind. -/
theorem dispatcherOf_other {cb : CoreCallback} (h : cb.kind ≠ kind) :
    dispatcherOf listener (cb.run {}) kind s = .ok s := by
  cases cb <;> cases kind <;> first | rfl | exact absurd rfl h

/-- The dispatcher of its kind calls the listener once. -/
theorem dispatcherOf_own (cb : CoreCallback) :
    dispatcherOf listener (cb.run {}) cb.kind s = .ok (deliver listener s cb.received) := by
  cases cb with
  | selfConnectionStatus connectionStatus => cases connectionStatus <;> rfl
  | friendStatus _ status => cases status <;> rfl
  | friendConnectionStatus _ connectionStatus => cases connectionStatus <;> rfl
  | friendMessage _ type _ => cases type <;> rfl
  | fileRecvControl _ _ control => cases control <;> rfl
  | _ => rfl

/-- The pipe of core events to a listener. -/
def corePipe : EventPipe coreQueue CoreKind S where
  kind := CoreCallback.kind
  kinds := CoreKind.all
  dispatcher := dispatcherOf listener
  deliver s cb := .ok (deliver listener s cb.received)
  dispatcher_empty := dispatcherOf_empty listener
  dispatcher_append a b kind s := dispatcherOf_append listener kind s a b
  dispatcher_other _ kind h s := dispatcherOf_other listener kind s h
  dispatcher_own cb s := dispatcherOf_own listener s cb

/-- The queue of the model encodes events as the callbacks of the source do. -/
theorem coreQueue_encode (events : CoreEvents) (cbs : List CoreCallback) :
    coreQueue.encode events cbs = events.encode cbs := by
  unfold EventQueue.encode CoreEvents.encode
  congr 1
  funext events cb
  exact (CoreEvents.run_eq_append events cb).symm

/-- The dispatch of a serialised message. -/
theorem dispatch_serialize (codec : Codec CoreEvents) (events : CoreEvents) :
    dispatch codec listener (some (codec.serializeToArray events)) s
      = (corePipe listener).dispatch events s := by
  unfold dispatch
  simp only [codec.parse_serialize]
  rfl

/-- What arrives of a sequence of callbacks. -/
theorem dispatch_encode (codec : Codec CoreEvents) (cbs : List CoreCallback) :
    dispatch codec listener (some (codec.serializeToArray (CoreEvents.encode {} cbs))) s
      = .ok ((group CoreCallback.kind CoreKind.all cbs).foldl
          (fun s cb => deliver listener s cb.received) s) := by
  rw [dispatch_serialize, ← coreQueue_encode]
  refine ((corePipe listener).dispatch_encode cbs s).trans ?_
  exact List.foldlM_pure

end

/-- Each event arrives once, at the method of its kind and with its own arguments. -/
def Faithful (codec : Codec CoreEvents) (w : Wrappers) (cbs : List CoreCallback) : Prop :=
  ∃ order : List CoreCallback, order.Perm cbs ∧
    ∀ (S : Type) (listener : ToxCoreEventListener w S) (s : S),
      dispatch codec listener (some (codec.serializeToArray (CoreEvents.encode {} cbs))) s
        = .ok (order.foldl (deliver listener) s)

/-- A listener that writes down the friend number and the file number of each chunk. -/
def chunkListener (w : Wrappers) : ToxCoreEventListener w (List (Int32 × Int32)) where
  selfConnectionStatus _ s := s
  friendName _ _ s := s
  friendStatusMessage _ _ s := s
  friendStatus _ _ s := s
  friendConnectionStatus _ _ s := s
  friendTyping _ _ s := s
  friendReadReceipt _ _ s := s
  friendRequest _ _ _ s := s
  friendMessage _ _ _ _ s := s
  fileRecvControl _ _ _ s := s
  fileChunkRequest _ _ _ _ s := s
  fileRecv _ _ _ _ _ s := s
  fileRecvChunk friendNumber fileNumber _ _ s :=
    s ++ [(w.ToxFriendNumber.value friendNumber, fileNumber)]
  friendLossyPacket _ _ s := s
  friendLosslessPacket _ _ s := s

/-- What the listener writes down for a callback. -/
def CoreCallback.chunk : CoreCallback → List (Int32 × Int32)
  | .fileRecvChunk friendNumber fileNumber _ _ => [(friendNumber.toInt32, fileNumber.toInt32)]
  | _ => []

/-- After some callbacks the listener has the numbers of each chunk, in their order. -/
theorem foldl_chunkListener (cbs : List CoreCallback) (s : List (Int32 × Int32)) :
    cbs.foldl (deliver (chunkListener w)) s = s ++ cbs.flatMap CoreCallback.chunk := by
  refine foldl_append_flatMap id ?_ cbs s
  intro s cb
  cases cb with
  | fileRecvChunk friendNumber fileNumber position data =>
      show s ++ [(w.ToxFriendNumber.value _, _)] = s ++ [_]
      rw [w.ToxFriendNumber.value_unsafeFrom]
  | _ => exact (List.append_nil s).symm

/-- A valid callback arrives as it is when it is no chunk with different numbers. -/
theorem received_eq_self {cb : CoreCallback} (hvalid : cb.Valid)
    (h : ∀ friendNumber fileNumber position data,
      cb = .fileRecvChunk friendNumber fileNumber position data → friendNumber = fileNumber) :
    cb.received = cb := by
  cases cb with
  | friendRequest publicKey message =>
      have hlength : publicKey.length = toxPublicKeySize := hvalid
      show CoreCallback.friendRequest (publicKey.take toxPublicKeySize) message = _
      rw [← hlength, List.take_length]
  | fileRecvChunk friendNumber fileNumber position data =>
      show CoreCallback.fileRecvChunk fileNumber fileNumber position data = _
      rw [h friendNumber fileNumber position data rfl]
  | _ => rfl

/-- Events arrive unchanged when in every received chunk the friend number is the file number,
and only then. -/
theorem faithful_iff (codec : Codec CoreEvents) (w : Wrappers) {cbs : List CoreCallback}
    (hvalid : ∀ cb ∈ cbs, cb.Valid) :
    Faithful codec w cbs ↔
      ∀ friendNumber fileNumber position data,
        CoreCallback.fileRecvChunk friendNumber fileNumber position data ∈ cbs →
          friendNumber = fileNumber := by
  have hperm : (group CoreCallback.kind CoreKind.all cbs).Perm cbs :=
    group_perm CoreKind.nodup_all fun cb _ => CoreKind.mem_all cb.kind
  constructor
  · intro h friendNumber fileNumber position data hmem
    obtain ⟨order, horder, hdispatch⟩ := h
    have hsame := hdispatch _ (chunkListener w) []
    rw [dispatch_encode] at hsame
    have hlists := Except.ok.inj hsame
    rw [← List.foldl_map, foldl_chunkListener, foldl_chunkListener, List.nil_append,
      List.nil_append] at hlists
    -- What should be written down is found in what is written down.
    have hshould : (friendNumber.toInt32, fileNumber.toInt32) ∈ order.flatMap CoreCallback.chunk :=
      List.mem_flatMap.mpr ⟨_, horder.mem_iff.mpr hmem, List.mem_singleton.mpr rfl⟩
    rw [← hlists] at hshould
    obtain ⟨cb, hcb, hpair⟩ := List.mem_flatMap.mp hshould
    obtain ⟨cb, -, rfl⟩ := List.mem_map.mp hcb
    cases cb with
    | fileRecvChunk friendNumber' fileNumber' position' data' =>
        have hpair := Prod.mk.inj (List.mem_singleton.mp hpair)
        exact congrArg Int32.toUInt32 (hpair.1.trans hpair.2.symm)
    | _ => exact absurd hpair List.not_mem_nil
  · intro h
    refine ⟨_, hperm, ?_⟩
    intro S listener s
    rw [dispatch_encode, ← List.foldl_map]
    have hsame : (group CoreCallback.kind CoreKind.all cbs).map CoreCallback.received
        = group CoreCallback.kind CoreKind.all cbs := by
      refine (List.map_congr_left ?_).trans (List.map_id _)
      intro cb hcb
      have hmem := hperm.mem_iff.mp hcb
      refine received_eq_self (hvalid cb hmem) ?_
      intro friendNumber fileNumber position data heq
      exact h friendNumber fileNumber position data (heq ▸ hmem)
    rw [hsame]

end

/-- Wrapper types that add nothing. -/
def plainWrappers : Wrappers where
  ToxFriendNumber := .plain Int32
  ToxNickname := .plain Bytes
  ToxStatusMessage := .plain Bytes
  ToxPublicKey := .plain Bytes
  ToxFriendRequestMessage := .plain Bytes
  ToxFriendMessage := .plain Bytes
  ToxFileName := .plain Bytes
  ToxLossyPacket := .plain Bytes
  ToxLosslessPacket := .plain Bytes

/-- A chunk of the file 3 of the friend 3. -/
theorem faithful_chunk :
    Faithful coreCodec plainWrappers [.friendTyping 1 true, .fileRecvChunk 3 3 0 [7]] ↔
      ∀ friendNumber fileNumber position data,
        CoreCallback.fileRecvChunk friendNumber fileNumber position data
            ∈ [.friendTyping 1 true, .fileRecvChunk 3 3 0 [7]] →
          friendNumber = fileNumber :=
  faithful_iff coreCodec plainWrappers (by
    intro cb hcb
    cases List.mem_cons.mp hcb with
    | inl h => exact h ▸ trivial
    | inr h => exact List.mem_singleton.mp h ▸ trivial)

/-- A chunk of the file 2 of the friend 1 arrives as one of the friend 2. -/
theorem not_faithful_chunk : ¬ Faithful coreCodec plainWrappers [.fileRecvChunk 1 2 0 [7]] := by
  intro h
  obtain ⟨order, horder, hdispatch⟩ := h
  have hsame := hdispatch _ (chunkListener plainWrappers) []
  obtain rfl : order = [.fileRecvChunk 1 2 0 [7]] := List.perm_singleton.mp horder
  rw [dispatch_encode] at hsame
  exact absurd (Except.ok.inj hsame) (by decide)

end Tox4j.Events.Core
