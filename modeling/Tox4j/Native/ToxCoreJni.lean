import Tox4j.Native.ToxApi

/-!
# `Tox4j.Native.ToxCoreJni`: the entry points of a core instance

Every native method of `ToxCoreJni`: those of `ToxCore/clientinfo.cpp`, `connection.cpp`,
`custom.cpp`, `filetransfer.cpp`, `friendlist.cpp`, `interaction.cpp`, `lifecycle.cpp` and
`generated/impls.h`, in this order. `toxNew`, `toxKill` and `toxFinalize` act on the manager of
the instances: `toxOptions` is the part of `toxNew` before that, and the rest is in
`Tox4j.Native.Sessions`. All others are an `InstanceCall`, after checks of their arguments that
can end the process.

`Request` is a call from Java of one of the methods, and `InstanceRequest.call` the call that it
makes on an instance.
-/

set_option autoImplicit false

namespace Tox4j.Native

open Tox4j.Events (Bytes Codec)
open Tox4j.Events.Core (CoreCallback CoreEvents coreQueue)

namespace ToxCoreJni

open ToxInstances

variable {T : Type} (api : ToxApi T)

/-! ### `clientinfo.cpp` -/

/-- `toxSelfGetPublicKey`. -/
def toxSelfGetPublicKey (instanceNumber : Jint) : InstanceCall T Pointer :=
  withInstanceNoerr instanceNumber
    (getVector (constantSize publicKeySize) api.selfGetPublicKey id)

/-- `toxSelfGetSecretKey`. -/
def toxSelfGetSecretKey (instanceNumber : Jint) : InstanceCall T Pointer :=
  withInstanceNoerr instanceNumber
    (getVector (constantSize secretKeySize) api.selfGetSecretKey id)

/-- `toxSelfGetAddress`. -/
def toxSelfGetAddress (instanceNumber : Jint) : InstanceCall T Pointer :=
  withInstanceNoerr instanceNumber (getVector (constantSize addressSize) api.selfGetAddress id)

/-- `toxSelfSetName`. -/
def toxSelfSetName (instanceNumber : Jint) (name : ArrayFromJava UInt8) : InstanceCall T Unit :=
  withInstanceIgn instanceNumber (api.selfSetName name.data name.size)

/-- `toxSelfGetName`. -/
def toxSelfGetName (instanceNumber : Jint) : InstanceCall T Pointer :=
  withInstanceNoerr instanceNumber (getVector api.selfGetNameSize api.selfGetName id)

/-- `toxSelfSetStatusMessage`. -/
def toxSelfSetStatusMessage (instanceNumber : Jint) (statusMessage : ArrayFromJava UInt8) :
    InstanceCall T Unit :=
  withInstanceIgn instanceNumber
    (api.selfSetStatusMessage statusMessage.data statusMessage.size)

/-- `toxSelfGetStatusMessage`. -/
def toxSelfGetStatusMessage (instanceNumber : Jint) : InstanceCall T Pointer :=
  withInstanceNoerr instanceNumber
    (getVector api.selfGetStatusMessageSize api.selfGetStatusMessage id)

/-- `toxSelfSetStatus`. -/
def toxSelfSetStatus (instanceNumber status : Jint) : Except Fatal (InstanceCall T Unit) := do
  let status ← userStatusOf status
  return withInstanceNoerr instanceNumber (toJava id (api.selfSetStatus status))

/-! ### `connection.cpp` -/

/-- `toxBootstrapLike`. -/
def toxBootstrapLike
    (function : Option String → UInt16 → Pointer → T → (Bool × ErrorCode Native.bootstrap) × T)
    (instanceNumber : Jint) (address : Option String) (port : Jint)
    (publicKey : ArrayFromJava UInt8) : Except Fatal (InstanceCall T Unit) := do
  tox4jAssert (0 ≤ port) "port >= 0"
  tox4jAssert (port ≤ 65535) "port <= 65535"
  assertSize publicKey publicKeySize "!publicKey || public_key.size () == TOX_PUBLIC_KEY_SIZE"
  return withInstanceIgn instanceNumber (function address port.toUInt32.toUInt16 publicKey.data)

/-- `toxBootstrap`. -/
def toxBootstrap (instanceNumber : Jint) (address : Option String) (port : Jint)
    (publicKey : ArrayFromJava UInt8) : Except Fatal (InstanceCall T Unit) :=
  toxBootstrapLike api.bootstrap instanceNumber address port publicKey

/-- `toxAddTcpRelay`. -/
def toxAddTcpRelay (instanceNumber : Jint) (address : Option String) (port : Jint)
    (publicKey : ArrayFromJava UInt8) : Except Fatal (InstanceCall T Unit) :=
  toxBootstrapLike api.addTcpRelay instanceNumber address port publicKey

/-- `toxSelfGetUdpPort`. -/
def toxSelfGetUdpPort (instanceNumber : Jint) : InstanceCall T Jint :=
  withInstanceErr instanceNumber (fun port => port.toUInt32.toInt32) api.selfGetUdpPort

/-- `toxSelfGetTcpPort`. -/
def toxSelfGetTcpPort (instanceNumber : Jint) : InstanceCall T Jint :=
  withInstanceErr instanceNumber (fun port => port.toUInt32.toInt32) api.selfGetTcpPort

/-- `toxSelfGetDhtId`. -/
def toxSelfGetDhtId (instanceNumber : Jint) : InstanceCall T Pointer :=
  withInstanceNoerr instanceNumber (getVector (constantSize publicKeySize) api.selfGetDhtId id)

/-- `toxIterate`: toxcore makes its callbacks, and the queue is serialised and emptied. The message
goes to Java through a vector, whose size both conversions cut. -/
def toxIterate (codec : Codec CoreEvents) (instanceNumber : Jint) : InstanceCall T Pointer :=
  withInstance instanceNumber fun env session => do
    let (cbs, tox) := api.iterate session.tox
    let (data, events) ← Events.Core.toxIterate codec cbs session.events
    let array ← data.mapM fun message => toJavaArray (serializedBuffer message)
    return (array, env, ⟨tox, events⟩)

/-! ### `custom.cpp` -/

/-- `toxFriendSendLossyPacket`. -/
def toxFriendSendLossyPacket (instanceNumber friendNumber : Jint)
    (packet : ArrayFromJava UInt8) : InstanceCall T Unit :=
  withInstanceIgn instanceNumber
    (api.friendSendLossyPacket friendNumber.toUInt32 packet.data packet.size)

/-- `toxFriendSendLosslessPacket`. -/
def toxFriendSendLosslessPacket (instanceNumber friendNumber : Jint)
    (packet : ArrayFromJava UInt8) : InstanceCall T Unit :=
  withInstanceIgn instanceNumber
    (api.friendSendLosslessPacket friendNumber.toUInt32 packet.data packet.size)

/-! ### `filetransfer.cpp` -/

/-- `toxFileControl`. -/
def toxFileControl (instanceNumber friendNumber fileNumber control : Jint) :
    Except Fatal (InstanceCall T Unit) := do
  let control ← fileControlOf control
  return withInstanceIgn instanceNumber
    (api.fileControl friendNumber.toUInt32 fileNumber.toUInt32 control)

/-- `toxFileSeek`. -/
def toxFileSeek (instanceNumber friendNumber fileNumber : Jint) (position : Int64) :
    InstanceCall T Unit :=
  withInstanceIgn instanceNumber
    (api.fileSeek friendNumber.toUInt32 fileNumber.toUInt32 position.toUInt64)

/-- A read of `size` bytes through a pointer, which must not go past the end of the array. -/
def readBytes (pointer : List UInt8) (size : Nat) : Except Fatal Bytes :=
  if size ≤ pointer.length then .ok pointer else .error .outOfRange

/-- `toxFileSend`. A negative file size is a stream. The file id is passed without its length,
and `tox_file_send` reads `TOX_FILE_ID_LENGTH` bytes of it unless it is null. -/
def toxFileSend (instanceNumber friendNumber kind : Jint) (fileSize : Int64)
    (fileId filename : ArrayFromJava UInt8) : InstanceCall T Jint :=
  let fileSize := if fileSize < 0 then -1 else fileSize
  withInstance instanceNumber fun env session => do
    let fileId ← fileId.data.mapM fun bytes => readBytes bytes fileIdLength
    (withInstanceErr instanceNumber UInt32.toInt32
      (api.fileSend friendNumber.toUInt32 kind.toUInt32 fileSize.toUInt64 fileId filename.data
        filename.size)).func env session

/-- `toxFileSendChunk`. -/
def toxFileSendChunk (instanceNumber friendNumber fileNumber : Jint) (position : Int64)
    (chunk : ArrayFromJava UInt8) : InstanceCall T Unit :=
  withInstanceIgn instanceNumber
    (api.fileSendChunk friendNumber.toUInt32 fileNumber.toUInt32 position.toUInt64 chunk.data
      chunk.size)

/-- `toxFileGetFileId`. -/
def toxFileGetFileId (instanceNumber friendNumber fileNumber : Jint) : InstanceCall T Pointer :=
  withInstanceErr instanceNumber (fun fileId => some fileId.toList)
    (api.fileGetFileId friendNumber.toUInt32 fileNumber.toUInt32)

/-! ### `friendlist.cpp` -/

/-- `toxFriendAdd`. -/
def toxFriendAdd (instanceNumber : Jint) (address message : ArrayFromJava UInt8) :
    Except Fatal (InstanceCall T Jint) := do
  assertSize address addressSize "!address || addressData.size () == TOX_ADDRESS_SIZE"
  return withInstanceErr instanceNumber UInt32.toInt32
    (api.friendAdd address.data message.data message.size)

/-- `toxFriendAddNorequest`. -/
def toxFriendAddNorequest (instanceNumber : Jint) (publicKey : ArrayFromJava UInt8) :
    Except Fatal (InstanceCall T Jint) := do
  assertSize publicKey publicKeySize "!publicKey || public_key.size () == TOX_PUBLIC_KEY_SIZE"
  return withInstanceErr instanceNumber UInt32.toInt32 (api.friendAddNorequest publicKey.data)

/-- `toxFriendDelete`. -/
def toxFriendDelete (instanceNumber friendNumber : Jint) : InstanceCall T Unit :=
  withInstanceIgn instanceNumber (api.friendDelete friendNumber.toUInt32)

/-- `toxFriendByPublicKey`. -/
def toxFriendByPublicKey (instanceNumber : Jint) (publicKey : ArrayFromJava UInt8) :
    Except Fatal (InstanceCall T Jint) := do
  assertSize publicKey publicKeySize "!publicKey || public_key.size () == TOX_PUBLIC_KEY_SIZE"
  return withInstanceErr instanceNumber UInt32.toInt32 (api.friendByPublicKey publicKey.data)

/-- `toxFriendGetPublicKey`. -/
def toxFriendGetPublicKey (instanceNumber friendNumber : Jint) : InstanceCall T Pointer :=
  withInstanceErr instanceNumber (fun publicKey => some publicKey.toList)
    (api.friendGetPublicKey friendNumber.toUInt32)

/-- `toxSelfGetFriendList`. -/
def toxSelfGetFriendList (instanceNumber : Jint) : InstanceCall T (Option (List Jint)) :=
  withInstanceNoerr instanceNumber
    (getVector api.selfGetFriendListSize api.selfGetFriendList UInt32.toInt32)

/-! ### `interaction.cpp` -/

/-- `toxSelfSetTyping`. -/
def toxSelfSetTyping (instanceNumber friendNumber : Jint) (isTyping : Bool) :
    InstanceCall T Unit :=
  withInstanceIgn instanceNumber (api.selfSetTyping friendNumber.toUInt32 isTyping)

/-- `toxFriendSendMessage`. `timeDelta` is not used. -/
def toxFriendSendMessage (instanceNumber friendNumber messageType _timeDelta : Jint)
    (message : ArrayFromJava UInt8) : Except Fatal (InstanceCall T Jint) := do
  let messageType ← messageTypeOf messageType
  return withInstanceErr instanceNumber UInt32.toInt32
    (api.friendSendMessage friendNumber.toUInt32 messageType message.data message.size)

/-! ### `lifecycle.cpp` -/

/-- `assert_valid_uint16`. -/
def assertValidUint16 (port : Jint) : Except Fatal Unit := do
  tox4jAssert (0 ≤ port) "port >= 0"
  tox4jAssert (port ≤ 65535) "port <= 65535"

/-- The arguments of `toxNew`. -/
structure NewArguments where
  ipv6Enabled : Bool
  udpEnabled : Bool
  localDiscoveryEnabled : Bool
  proxyType : Jint
  proxyHost : Option String
  proxyPort : Jint
  startPort : Jint
  endPort : Jint
  tcpPort : Jint
  saveDataType : Jint
  saveData : ArrayFromJava UInt8

/-- The options that `toxNew` sets. The proxy port is not checked when there is no proxy. -/
def toxOptions (arguments : NewArguments) : Except Fatal ToxOptions := do
  let proxyType ← proxyTypeOf arguments.proxyType
  (if proxyType ≠ .NONE then assertValidUint16 arguments.proxyPort else .ok ())
  assertValidUint16 arguments.startPort
  assertValidUint16 arguments.endPort
  assertValidUint16 arguments.tcpPort
  let savedataType ← savedataTypeOf arguments.saveDataType
  return {
    ipv6Enabled := arguments.ipv6Enabled
    udpEnabled := arguments.udpEnabled
    localDiscoveryEnabled := arguments.localDiscoveryEnabled
    proxyType
    proxyHost := arguments.proxyHost
    proxyPort := arguments.proxyPort.toUInt32.toUInt16
    startPort := arguments.startPort.toUInt32.toUInt16
    endPort := arguments.endPort.toUInt32.toUInt16
    tcpPort := arguments.tcpPort.toUInt32.toUInt16
    savedataType
    savedataData := arguments.saveData.data
    savedataLength := arguments.saveData.size }

/-- `toxGetSavedata`. -/
def toxGetSavedata (instanceNumber : Jint) : InstanceCall T Pointer :=
  withInstanceNoerr instanceNumber (getVector api.getSavedataSize api.getSavedata id)

/-- What all `invoke` methods do: inside `with_instance` they read their arguments, and run the
callback that toxcore would run. -/
def invoke (instanceNumber : Jint) (callback : Except Fatal CoreCallback) : InstanceCall T Unit :=
  withInstance instanceNumber fun env session => do
    let events ← coreQueue.run session.events (← callback)
    return ((), env, { session with events })

/-- The bytes of an array that is passed with its length. -/
def bytesOf (array : ArrayFromJava UInt8) : Bytes := array.data.getD []

/-- `invokeSelfConnectionStatus`. -/
def invokeSelfConnectionStatus (instanceNumber connectionStatus : Jint) : InstanceCall T Unit :=
  invoke instanceNumber do return .selfConnectionStatus (← connectionOf connectionStatus)

/-- `invokeFileRecvControl`. -/
def invokeFileRecvControl (instanceNumber friendNumber fileNumber control : Jint) :
    InstanceCall T Unit :=
  invoke instanceNumber do
    return .fileRecvControl friendNumber.toUInt32 fileNumber.toUInt32 (← fileControlOf control)

/-- `invokeFileRecv`. -/
def invokeFileRecv (instanceNumber friendNumber fileNumber kind : Jint) (fileSize : Int64)
    (filename : ArrayFromJava UInt8) : InstanceCall T Unit :=
  invoke instanceNumber do
    return .fileRecv friendNumber.toUInt32 fileNumber.toUInt32 kind.toUInt32 fileSize.toUInt64
      (bytesOf filename)

/-- `invokeFileRecvChunk`. -/
def invokeFileRecvChunk (instanceNumber friendNumber fileNumber : Jint) (position : Int64)
    (data : ArrayFromJava UInt8) : InstanceCall T Unit :=
  invoke instanceNumber do
    return .fileRecvChunk friendNumber.toUInt32 fileNumber.toUInt32 position.toUInt64
      (bytesOf data)

/-- `invokeFileChunkRequest`. -/
def invokeFileChunkRequest (instanceNumber friendNumber fileNumber : Jint) (position : Int64)
    (length : Jint) : InstanceCall T Unit :=
  invoke instanceNumber do
    return .fileChunkRequest friendNumber.toUInt32 fileNumber.toUInt32 position.toUInt64
      (sizeT length)

/-- `invokeFriendConnectionStatus`. -/
def invokeFriendConnectionStatus (instanceNumber friendNumber connectionStatus : Jint) :
    InstanceCall T Unit :=
  invoke instanceNumber do
    return .friendConnectionStatus friendNumber.toUInt32 (← connectionOf connectionStatus)

/-- `invokeFriendLosslessPacket`. -/
def invokeFriendLosslessPacket (instanceNumber friendNumber : Jint) (data : ArrayFromJava UInt8) :
    InstanceCall T Unit :=
  invoke instanceNumber do return .friendLosslessPacket friendNumber.toUInt32 (bytesOf data)

/-- `invokeFriendLossyPacket`. -/
def invokeFriendLossyPacket (instanceNumber friendNumber : Jint) (data : ArrayFromJava UInt8) :
    InstanceCall T Unit :=
  invoke instanceNumber do return .friendLossyPacket friendNumber.toUInt32 (bytesOf data)

/-- `invokeFriendMessage`. `timeDelta` is not used. -/
def invokeFriendMessage (instanceNumber friendNumber type _timeDelta : Jint)
    (message : ArrayFromJava UInt8) : InstanceCall T Unit :=
  invoke instanceNumber do
    return .friendMessage friendNumber.toUInt32 (← messageTypeOf type) (bytesOf message)

/-- `invokeFriendName`. -/
def invokeFriendName (instanceNumber friendNumber : Jint) (name : ArrayFromJava UInt8) :
    InstanceCall T Unit :=
  invoke instanceNumber do return .friendName friendNumber.toUInt32 (bytesOf name)

/-- `invokeFriendRequest`. `timeDelta` is not used. The key is passed without its length, and the
callback reads `TOX_PUBLIC_KEY_SIZE` bytes of it. A null array has none. -/
def invokeFriendRequest (instanceNumber : Jint) (publicKey : ArrayFromJava UInt8)
    (_timeDelta : Jint) (message : ArrayFromJava UInt8) : InstanceCall T Unit :=
  invoke instanceNumber do
    return .friendRequest (← readBytes (bytesOf publicKey) publicKeySize) (bytesOf message)

/-- `invokeFriendStatus`. -/
def invokeFriendStatus (instanceNumber friendNumber status : Jint) : InstanceCall T Unit :=
  invoke instanceNumber do return .friendStatus friendNumber.toUInt32 (← userStatusOf status)

/-- `invokeFriendStatusMessage`. -/
def invokeFriendStatusMessage (instanceNumber friendNumber : Jint)
    (message : ArrayFromJava UInt8) : InstanceCall T Unit :=
  invoke instanceNumber do return .friendStatusMessage friendNumber.toUInt32 (bytesOf message)

/-- `invokeFriendTyping`. -/
def invokeFriendTyping (instanceNumber friendNumber : Jint) (isTyping : Bool) :
    InstanceCall T Unit :=
  invoke instanceNumber do return .friendTyping friendNumber.toUInt32 isTyping

/-- `invokeFriendReadReceipt`. -/
def invokeFriendReadReceipt (instanceNumber friendNumber messageId : Jint) :
    InstanceCall T Unit :=
  invoke instanceNumber do return .friendReadReceipt friendNumber.toUInt32 messageId.toUInt32

/-! ### `generated/impls.h` -/

/-- `toxIterationInterval`. -/
def toxIterationInterval (instanceNumber : Jint) : InstanceCall T Jint :=
  withInstanceNoerr instanceNumber (toJava UInt32.toInt32 api.iterationInterval)

/-- `toxSelfGetStatus`. -/
def toxSelfGetStatus (instanceNumber : Jint) : InstanceCall T Jint :=
  withInstanceNoerr instanceNumber (toJava id api.selfGetStatus)

/-- `toxSelfSetNospam`. -/
def toxSelfSetNospam (instanceNumber nospam : Jint) : InstanceCall T Unit :=
  withInstanceNoerr instanceNumber (toJava id (api.selfSetNospam nospam.toUInt32))

/-- `toxFriendExists`. -/
def toxFriendExists (instanceNumber friendNumber : Jint) : InstanceCall T Bool :=
  withInstanceNoerr instanceNumber (toJava id (api.friendExists friendNumber.toUInt32))

/-- `toxSelfGetNospam`. -/
def toxSelfGetNospam (instanceNumber : Jint) : InstanceCall T Jint :=
  withInstanceNoerr instanceNumber (toJava UInt32.toInt32 api.selfGetNospam)

end ToxCoreJni

/-! ### Requests -/

/-- A value that a native method returns to Java. -/
inductive JavaValue
  | void
  | int (value : Jint)
  | boolean (value : Bool)
  | byteArray (value : Pointer)
  | intArray (value : Option (List Jint))
  deriving DecidableEq, Repr

/-- The types that the methods return. -/
class JavaType (R : Type) where
  toJavaValue : R → JavaValue

instance : JavaType Unit := ⟨fun _ => .void⟩
instance : JavaType Jint := ⟨.int⟩
instance : JavaType Bool := ⟨.boolean⟩
instance : JavaType Pointer := ⟨.byteArray⟩
instance : JavaType (Option (List Jint)) := ⟨.intArray⟩

/-- The call with its result as a value of Java. -/
def InstanceCall.toJavaValue {T R : Type} [JavaType R] (c : InstanceCall T R) :
    InstanceCall T JavaValue :=
  c.map JavaType.toJavaValue

/-- A call from Java of a method that accesses an instance. -/
inductive InstanceRequest
  | toxSelfGetPublicKey (instanceNumber : Jint)
  | toxSelfGetSecretKey (instanceNumber : Jint)
  | toxSelfGetAddress (instanceNumber : Jint)
  | toxSelfSetName (instanceNumber : Jint) (name : ArrayFromJava UInt8)
  | toxSelfGetName (instanceNumber : Jint)
  | toxSelfSetStatusMessage (instanceNumber : Jint) (statusMessage : ArrayFromJava UInt8)
  | toxSelfGetStatusMessage (instanceNumber : Jint)
  | toxSelfSetStatus (instanceNumber status : Jint)
  | toxBootstrap (instanceNumber : Jint) (address : Option String) (port : Jint)
      (publicKey : ArrayFromJava UInt8)
  | toxAddTcpRelay (instanceNumber : Jint) (address : Option String) (port : Jint)
      (publicKey : ArrayFromJava UInt8)
  | toxSelfGetUdpPort (instanceNumber : Jint)
  | toxSelfGetTcpPort (instanceNumber : Jint)
  | toxSelfGetDhtId (instanceNumber : Jint)
  | toxIterate (instanceNumber : Jint)
  | toxFriendSendLossyPacket (instanceNumber friendNumber : Jint) (packet : ArrayFromJava UInt8)
  | toxFriendSendLosslessPacket (instanceNumber friendNumber : Jint)
      (packet : ArrayFromJava UInt8)
  | toxFileControl (instanceNumber friendNumber fileNumber control : Jint)
  | toxFileSeek (instanceNumber friendNumber fileNumber : Jint) (position : Int64)
  | toxFileSend (instanceNumber friendNumber kind : Jint) (fileSize : Int64)
      (fileId filename : ArrayFromJava UInt8)
  | toxFileSendChunk (instanceNumber friendNumber fileNumber : Jint) (position : Int64)
      (chunk : ArrayFromJava UInt8)
  | toxFileGetFileId (instanceNumber friendNumber fileNumber : Jint)
  | toxFriendAdd (instanceNumber : Jint) (address message : ArrayFromJava UInt8)
  | toxFriendAddNorequest (instanceNumber : Jint) (publicKey : ArrayFromJava UInt8)
  | toxFriendDelete (instanceNumber friendNumber : Jint)
  | toxFriendByPublicKey (instanceNumber : Jint) (publicKey : ArrayFromJava UInt8)
  | toxFriendGetPublicKey (instanceNumber friendNumber : Jint)
  | toxSelfGetFriendList (instanceNumber : Jint)
  | toxSelfSetTyping (instanceNumber friendNumber : Jint) (isTyping : Bool)
  | toxFriendSendMessage (instanceNumber friendNumber messageType timeDelta : Jint)
      (message : ArrayFromJava UInt8)
  | toxGetSavedata (instanceNumber : Jint)
  | invokeSelfConnectionStatus (instanceNumber connectionStatus : Jint)
  | invokeFileRecvControl (instanceNumber friendNumber fileNumber control : Jint)
  | invokeFileRecv (instanceNumber friendNumber fileNumber kind : Jint) (fileSize : Int64)
      (filename : ArrayFromJava UInt8)
  | invokeFileRecvChunk (instanceNumber friendNumber fileNumber : Jint) (position : Int64)
      (data : ArrayFromJava UInt8)
  | invokeFileChunkRequest (instanceNumber friendNumber fileNumber : Jint) (position : Int64)
      (length : Jint)
  | invokeFriendConnectionStatus (instanceNumber friendNumber connectionStatus : Jint)
  | invokeFriendLosslessPacket (instanceNumber friendNumber : Jint) (data : ArrayFromJava UInt8)
  | invokeFriendLossyPacket (instanceNumber friendNumber : Jint) (data : ArrayFromJava UInt8)
  | invokeFriendMessage (instanceNumber friendNumber type timeDelta : Jint)
      (message : ArrayFromJava UInt8)
  | invokeFriendName (instanceNumber friendNumber : Jint) (name : ArrayFromJava UInt8)
  | invokeFriendRequest (instanceNumber : Jint) (publicKey : ArrayFromJava UInt8)
      (timeDelta : Jint) (message : ArrayFromJava UInt8)
  | invokeFriendStatus (instanceNumber friendNumber status : Jint)
  | invokeFriendStatusMessage (instanceNumber friendNumber : Jint) (message : ArrayFromJava UInt8)
  | invokeFriendTyping (instanceNumber friendNumber : Jint) (isTyping : Bool)
  | invokeFriendReadReceipt (instanceNumber friendNumber messageId : Jint)
  | toxIterationInterval (instanceNumber : Jint)
  | toxSelfGetStatus (instanceNumber : Jint)
  | toxSelfSetNospam (instanceNumber nospam : Jint)
  | toxFriendExists (instanceNumber friendNumber : Jint)
  | toxSelfGetNospam (instanceNumber : Jint)

namespace InstanceRequest

variable {T : Type} (codec : Codec CoreEvents) (api : ToxApi T)

/-- The call that the method makes on an instance, after the checks of its arguments. -/
def call : InstanceRequest → Except Fatal (InstanceCall T JavaValue)
  | toxSelfGetPublicKey n => .ok (ToxCoreJni.toxSelfGetPublicKey api n).toJavaValue
  | toxSelfGetSecretKey n => .ok (ToxCoreJni.toxSelfGetSecretKey api n).toJavaValue
  | toxSelfGetAddress n => .ok (ToxCoreJni.toxSelfGetAddress api n).toJavaValue
  | toxSelfSetName n name => .ok (ToxCoreJni.toxSelfSetName api n name).toJavaValue
  | toxSelfGetName n => .ok (ToxCoreJni.toxSelfGetName api n).toJavaValue
  | toxSelfSetStatusMessage n statusMessage =>
    .ok (ToxCoreJni.toxSelfSetStatusMessage api n statusMessage).toJavaValue
  | toxSelfGetStatusMessage n => .ok (ToxCoreJni.toxSelfGetStatusMessage api n).toJavaValue
  | toxSelfSetStatus n status => do return (← ToxCoreJni.toxSelfSetStatus api n status).toJavaValue
  | toxBootstrap n address port publicKey =>
    do return (← ToxCoreJni.toxBootstrap api n address port publicKey).toJavaValue
  | toxAddTcpRelay n address port publicKey =>
    do return (← ToxCoreJni.toxAddTcpRelay api n address port publicKey).toJavaValue
  | toxSelfGetUdpPort n => .ok (ToxCoreJni.toxSelfGetUdpPort api n).toJavaValue
  | toxSelfGetTcpPort n => .ok (ToxCoreJni.toxSelfGetTcpPort api n).toJavaValue
  | toxSelfGetDhtId n => .ok (ToxCoreJni.toxSelfGetDhtId api n).toJavaValue
  | toxIterate n => .ok (ToxCoreJni.toxIterate api codec n).toJavaValue
  | toxFriendSendLossyPacket n friendNumber packet =>
    .ok (ToxCoreJni.toxFriendSendLossyPacket api n friendNumber packet).toJavaValue
  | toxFriendSendLosslessPacket n friendNumber packet =>
    .ok (ToxCoreJni.toxFriendSendLosslessPacket api n friendNumber packet).toJavaValue
  | toxFileControl n friendNumber fileNumber control =>
    do return (← ToxCoreJni.toxFileControl api n friendNumber fileNumber control).toJavaValue
  | toxFileSeek n friendNumber fileNumber position =>
    .ok (ToxCoreJni.toxFileSeek api n friendNumber fileNumber position).toJavaValue
  | toxFileSend n friendNumber kind fileSize fileId filename =>
    .ok (ToxCoreJni.toxFileSend api n friendNumber kind fileSize fileId filename).toJavaValue
  | toxFileSendChunk n friendNumber fileNumber position chunk =>
    .ok (ToxCoreJni.toxFileSendChunk api n friendNumber fileNumber position chunk).toJavaValue
  | toxFileGetFileId n friendNumber fileNumber =>
    .ok (ToxCoreJni.toxFileGetFileId api n friendNumber fileNumber).toJavaValue
  | toxFriendAdd n address message =>
    do return (← ToxCoreJni.toxFriendAdd api n address message).toJavaValue
  | toxFriendAddNorequest n publicKey =>
    do return (← ToxCoreJni.toxFriendAddNorequest api n publicKey).toJavaValue
  | toxFriendDelete n friendNumber =>
    .ok (ToxCoreJni.toxFriendDelete api n friendNumber).toJavaValue
  | toxFriendByPublicKey n publicKey =>
    do return (← ToxCoreJni.toxFriendByPublicKey api n publicKey).toJavaValue
  | toxFriendGetPublicKey n friendNumber =>
    .ok (ToxCoreJni.toxFriendGetPublicKey api n friendNumber).toJavaValue
  | toxSelfGetFriendList n => .ok (ToxCoreJni.toxSelfGetFriendList api n).toJavaValue
  | toxSelfSetTyping n friendNumber isTyping =>
    .ok (ToxCoreJni.toxSelfSetTyping api n friendNumber isTyping).toJavaValue
  | toxFriendSendMessage n friendNumber type timeDelta message =>
    do
      let call ← ToxCoreJni.toxFriendSendMessage api n friendNumber type timeDelta message
      return call.toJavaValue
  | toxGetSavedata n => .ok (ToxCoreJni.toxGetSavedata api n).toJavaValue
  | invokeSelfConnectionStatus n connectionStatus =>
    .ok (ToxCoreJni.invokeSelfConnectionStatus n connectionStatus).toJavaValue
  | invokeFileRecvControl n friendNumber fileNumber control =>
    .ok (ToxCoreJni.invokeFileRecvControl n friendNumber fileNumber control).toJavaValue
  | invokeFileRecv n friendNumber fileNumber kind fileSize filename =>
    .ok (ToxCoreJni.invokeFileRecv n friendNumber fileNumber kind fileSize filename).toJavaValue
  | invokeFileRecvChunk n friendNumber fileNumber position data =>
    .ok (ToxCoreJni.invokeFileRecvChunk n friendNumber fileNumber position data).toJavaValue
  | invokeFileChunkRequest n friendNumber fileNumber position length =>
    .ok (ToxCoreJni.invokeFileChunkRequest n friendNumber fileNumber position length).toJavaValue
  | invokeFriendConnectionStatus n friendNumber connectionStatus =>
    .ok (ToxCoreJni.invokeFriendConnectionStatus n friendNumber connectionStatus).toJavaValue
  | invokeFriendLosslessPacket n friendNumber data =>
    .ok (ToxCoreJni.invokeFriendLosslessPacket n friendNumber data).toJavaValue
  | invokeFriendLossyPacket n friendNumber data =>
    .ok (ToxCoreJni.invokeFriendLossyPacket n friendNumber data).toJavaValue
  | invokeFriendMessage n friendNumber type timeDelta message =>
    .ok (ToxCoreJni.invokeFriendMessage n friendNumber type timeDelta message).toJavaValue
  | invokeFriendName n friendNumber name =>
    .ok (ToxCoreJni.invokeFriendName n friendNumber name).toJavaValue
  | invokeFriendRequest n publicKey timeDelta message =>
    .ok (ToxCoreJni.invokeFriendRequest n publicKey timeDelta message).toJavaValue
  | invokeFriendStatus n friendNumber status =>
    .ok (ToxCoreJni.invokeFriendStatus n friendNumber status).toJavaValue
  | invokeFriendStatusMessage n friendNumber message =>
    .ok (ToxCoreJni.invokeFriendStatusMessage n friendNumber message).toJavaValue
  | invokeFriendTyping n friendNumber isTyping =>
    .ok (ToxCoreJni.invokeFriendTyping n friendNumber isTyping).toJavaValue
  | invokeFriendReadReceipt n friendNumber messageId =>
    .ok (ToxCoreJni.invokeFriendReadReceipt n friendNumber messageId).toJavaValue
  | toxIterationInterval n => .ok (ToxCoreJni.toxIterationInterval api n).toJavaValue
  | toxSelfGetStatus n => .ok (ToxCoreJni.toxSelfGetStatus api n).toJavaValue
  | toxSelfSetNospam n nospam => .ok (ToxCoreJni.toxSelfSetNospam api n nospam).toJavaValue
  | toxFriendExists n friendNumber =>
    .ok (ToxCoreJni.toxFriendExists api n friendNumber).toJavaValue
  | toxSelfGetNospam n => .ok (ToxCoreJni.toxSelfGetNospam api n).toJavaValue

end InstanceRequest

/-- A call from Java of a native method of `ToxCoreJni`. -/
inductive CoreRequest
  | toxNew (arguments : ToxCoreJni.NewArguments)
  | toxKill (instanceNumber : Jint)
  | toxFinalize (instanceNumber : Jint)
  | onInstance (request : InstanceRequest)

end Tox4j.Native
