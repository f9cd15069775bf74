import Tox4j.Events.Iterate
import Tox4j.Native.ArrayGuards
import Tox4j.Native.Lifecycle

/-!
# `Tox4j.Native.ToxApi`: the functions of toxcore, and calls on one instance

`ToxApi T` is a structure of functions: what each function of toxcore does that the entry
points of `ToxCoreJni` call. `T` is the state of a `Tox`. toxcore is not part of the repository,
and what its functions do depends on the network and on the time. So a statement about a
sequence of calls takes a `ToxApi` for each call.

`Session` is what an instance number stands for: the `Tox` and the events that wait for the next
`toxIterate`. `InstanceCall` is a call of `with_instance`: the number, and the functor that runs
on the session. `withInstanceErr`, `withInstanceIgn` and `withInstanceNoerr` are the functions of
`tox4j/ToxInstances.h` that build the functor from a function of toxcore, and `getVector` is
`get_vector` of `ToxCore/ToxCore.h`. The log entries are in `Tox4j.Log`.

A getter of toxcore says how many elements it will write, and that number goes through three types:
the `size_t` of toxcore, the size of a vector, and the `jsize` of Java. `getVector` has all three.
-/

set_option autoImplicit false

namespace Tox4j.Native

open Tox4j.Events (Bytes)
open Tox4j.Events.Core (CoreCallback CoreEvents TOX_CONNECTION TOX_FILE_CONTROL TOX_MESSAGE_TYPE
  TOX_USER_STATUS)

/-! ### Error types, from `ToxCore/generated/errors.cpp` -/

/-- `HANDLE ("FileControl", FILE_CONTROL)`. -/
def fileControl : ErrorType :=
  ⟨"core", "", "FileControl", ["ALREADY_PAUSED", "DENIED", "FRIEND_NOT_CONNECTED",
    "FRIEND_NOT_FOUND", "NOT_FOUND", "NOT_PAUSED", "SENDQ"]⟩

/-- `HANDLE ("FileGet", FILE_GET)`. -/
def fileGet : ErrorType := ⟨"core", "", "FileGet", ["FRIEND_NOT_FOUND", "NOT_FOUND", "NULL"]⟩

/-- `HANDLE ("FileSeek", FILE_SEEK)`. -/
def fileSeek : ErrorType :=
  ⟨"core", "", "FileSeek", ["DENIED", "FRIEND_NOT_CONNECTED", "FRIEND_NOT_FOUND",
    "INVALID_POSITION", "NOT_FOUND", "SENDQ"]⟩

/-- `HANDLE ("FileSendChunk", FILE_SEND_CHUNK)`. -/
def fileSendChunk : ErrorType :=
  ⟨"core", "", "FileSendChunk", ["FRIEND_NOT_CONNECTED", "FRIEND_NOT_FOUND", "INVALID_LENGTH",
    "NOT_FOUND", "NOT_TRANSFERRING", "NULL", "SENDQ", "WRONG_POSITION"]⟩

/-- `HANDLE ("FriendCustomPacket", FRIEND_CUSTOM_PACKET)`. -/
def friendCustomPacket : ErrorType :=
  ⟨"core", "", "FriendCustomPacket", ["EMPTY", "FRIEND_NOT_CONNECTED", "FRIEND_NOT_FOUND",
    "INVALID", "NULL", "SENDQ", "TOO_LONG"]⟩

/-- `HANDLE ("FriendDelete", FRIEND_DELETE)`. -/
def friendDelete : ErrorType := ⟨"core", "", "FriendDelete", ["FRIEND_NOT_FOUND"]⟩

/-- `HANDLE ("FriendGetPublicKey", FRIEND_GET_PUBLIC_KEY)`. -/
def friendGetPublicKey : ErrorType := ⟨"core", "", "FriendGetPublicKey", ["FRIEND_NOT_FOUND"]⟩

/-- `HANDLE ("FriendSendMessage", FRIEND_SEND_MESSAGE)`. -/
def friendSendMessage : ErrorType :=
  ⟨"core", "", "FriendSendMessage", ["EMPTY", "FRIEND_NOT_CONNECTED", "FRIEND_NOT_FOUND", "NULL",
    "SENDQ", "TOO_LONG"]⟩

/-- `HANDLE ("GetPort", GET_PORT)`. -/
def getPort : ErrorType := ⟨"core", "", "GetPort", ["NOT_BOUND"]⟩

/-- `HANDLE ("SetInfo", SET_INFO)`. -/
def setInfo : ErrorType := ⟨"core", "", "SetInfo", ["NULL", "TOO_LONG"]⟩

/-- `HANDLE ("SetTyping", SET_TYPING)`. -/
def setTyping : ErrorType := ⟨"core", "", "SetTyping", ["FRIEND_NOT_FOUND"]⟩

/-! ### Enumerations, from `ToxCore/generated/enums.cpp` -/

/-- `TOX_PROXY_TYPE`. -/
inductive TOX_PROXY_TYPE
  | NONE
  | HTTP
  | SOCKS5
  deriving DecidableEq, Repr

/-- `TOX_SAVEDATA_TYPE`. -/
inductive TOX_SAVEDATA_TYPE
  | NONE
  | TOX_SAVE
  | SECRET_KEY
  deriving DecidableEq, Repr

/-- `Enum::valueOf`, for an enumeration with these enumerators in the order of Java. -/
def Enum.valueOf {E : Type} (enumerators : List E) (ordinal : Jint) : Except Fatal E :=
  match if 0 ≤ ordinal then enumerators[ordinal.toInt.toNat]? else none with
  | some enumerator => .ok enumerator
  | none => .error (.assertion "Invalid enumerator from Java")

/-- `Enum::valueOf<TOX_CONNECTION>`. -/
def connectionOf : Jint → Except Fatal TOX_CONNECTION := Enum.valueOf [.NONE, .TCP, .UDP]

/-- `Enum::valueOf<TOX_FILE_CONTROL>`. -/
def fileControlOf : Jint → Except Fatal TOX_FILE_CONTROL :=
  Enum.valueOf [.RESUME, .PAUSE, .CANCEL]

/-- `Enum::valueOf<TOX_MESSAGE_TYPE>`. -/
def messageTypeOf : Jint → Except Fatal TOX_MESSAGE_TYPE := Enum.valueOf [.NORMAL, .ACTION]

/-- `Enum::valueOf<TOX_PROXY_TYPE>`. -/
def proxyTypeOf : Jint → Except Fatal TOX_PROXY_TYPE := Enum.valueOf [.NONE, .HTTP, .SOCKS5]

/-- `Enum::valueOf<TOX_SAVEDATA_TYPE>`. -/
def savedataTypeOf : Jint → Except Fatal TOX_SAVEDATA_TYPE :=
  Enum.valueOf [.NONE, .TOX_SAVE, .SECRET_KEY]

/-- `Enum::valueOf<TOX_USER_STATUS>`. -/
def userStatusOf : Jint → Except Fatal TOX_USER_STATUS := Enum.valueOf [.NONE, .AWAY, .BUSY]

/-! ### The functions of toxcore -/

/-- `TOX_SECRET_KEY_SIZE`. -/
def secretKeySize : Nat := 32

/-- `Tox_Options`, as far as `toxNew` sets it. -/
structure ToxOptions where
  ipv6Enabled : Bool
  udpEnabled : Bool
  localDiscoveryEnabled : Bool
  proxyType : TOX_PROXY_TYPE
  proxyHost : Option String
  proxyPort : UInt16
  startPort : UInt16
  endPort : UInt16
  tcpPort : UInt16
  savedataType : TOX_SAVEDATA_TYPE
  savedataData : Pointer
  savedataLength : UInt64
  deriving DecidableEq, Repr

/-- What the functions of toxcore do in one call from Java. A function of an instance takes its
state, and returns its value, its error code and the new state. A function that fills a buffer of
the caller returns what the buffer holds after it. A function that `get_vector` calls has the
instance as a `Tox const *`, and returns what it writes. -/
structure ToxApi (T : Type) where
  /-- `tox_options_new` did not return null. -/
  optionsNew : Bool
  new : ToxOptions → Option T × ToxErrNew
  /-- The callbacks that `tox_iterate` makes, in their order. -/
  iterate : T → List CoreCallback × T
  iterationInterval : T → UInt32 × T
  getSavedataSize : T → UInt64
  getSavedata : T → Bytes
  bootstrap : Option String → UInt16 → Pointer → T → (Bool × ErrorCode Native.bootstrap) × T
  addTcpRelay : Option String → UInt16 → Pointer → T → (Bool × ErrorCode Native.bootstrap) × T
  selfGetUdpPort : T → (UInt16 × ErrorCode getPort) × T
  selfGetTcpPort : T → (UInt16 × ErrorCode getPort) × T
  selfGetDhtId : T → Bytes
  selfGetPublicKey : T → Bytes
  selfGetSecretKey : T → Bytes
  selfGetAddress : T → Bytes
  selfSetName : Pointer → UInt64 → T → (Bool × ErrorCode setInfo) × T
  selfGetNameSize : T → UInt64
  selfGetName : T → Bytes
  selfSetStatusMessage : Pointer → UInt64 → T → (Bool × ErrorCode setInfo) × T
  selfGetStatusMessageSize : T → UInt64
  selfGetStatusMessage : T → Bytes
  selfSetStatus : TOX_USER_STATUS → T → Unit × T
  /-- The number of the enumerator. -/
  selfGetStatus : T → Jint × T
  selfSetNospam : UInt32 → T → Unit × T
  selfGetNospam : T → UInt32 × T
  selfSetTyping : UInt32 → Bool → T → (Bool × ErrorCode setTyping) × T
  selfGetFriendListSize : T → UInt64
  selfGetFriendList : T → List UInt32
  friendAdd : Pointer → Pointer → UInt64 → T → (UInt32 × ErrorCode Native.friendAdd) × T
  friendAddNorequest : Pointer → T → (UInt32 × ErrorCode Native.friendAdd) × T
  friendDelete : UInt32 → T → (Bool × ErrorCode Native.friendDelete) × T
  friendByPublicKey : Pointer → T → (UInt32 × ErrorCode Native.friendByPublicKey) × T
  friendExists : UInt32 → T → Bool × T
  friendGetPublicKey : UInt32 → T →
    (Vector UInt8 publicKeySize × ErrorCode Native.friendGetPublicKey) × T
  friendSendMessage : UInt32 → TOX_MESSAGE_TYPE → Pointer → UInt64 → T →
    (UInt32 × ErrorCode Native.friendSendMessage) × T
  friendSendLossyPacket : UInt32 → Pointer → UInt64 → T →
    (Bool × ErrorCode friendCustomPacket) × T
  friendSendLosslessPacket : UInt32 → Pointer → UInt64 → T →
    (Bool × ErrorCode friendCustomPacket) × T
  fileControl : UInt32 → UInt32 → TOX_FILE_CONTROL → T → (Bool × ErrorCode Native.fileControl) × T
  fileSeek : UInt32 → UInt32 → UInt64 → T → (Bool × ErrorCode Native.fileSeek) × T
  fileSend : UInt32 → UInt32 → UInt64 → Pointer → Pointer → UInt64 → T →
    (UInt32 × ErrorCode Native.fileSend) × T
  fileSendChunk : UInt32 → UInt32 → UInt64 → Pointer → UInt64 → T →
    (Bool × ErrorCode Native.fileSendChunk) × T
  fileGetFileId : UInt32 → UInt32 → T → (Vector UInt8 fileIdLength × ErrorCode fileGet) × T

/-! ### Calls on an instance -/

/-- What an instance number stands for: the state of the `Tox`, and the `Events` object. -/
structure Session (T : Type) where
  tox : T
  events : CoreEvents
  deriving DecidableEq, Repr

/-- A call of `with_instance`: the functor runs on the session of the number. Without a live
instance the call returns `refused`, the default value of the return type. -/
structure InstanceCall (T R : Type) where
  instanceNumber : Jint
  refused : R
  func : JNIEnv → Session T → Except Fatal (R × JNIEnv × Session T)

namespace InstanceCall

variable {T R R' : Type}

/-- The same call, with its result as a value of another type. -/
def map (f : R → R') (c : InstanceCall T R) : InstanceCall T R' where
  instanceNumber := c.instanceNumber
  refused := f c.refused
  func env session := do
    let (value, env, session) ← c.func env session
    return (f value, env, session)

end InstanceCall

namespace ToxInstances

variable {T R Value : Type} {t : ErrorType} [Inhabited R]

/-- `with_instance`. -/
def withInstance (instanceNumber : Jint)
    (func : JNIEnv → Session T → Except Fatal (R × JNIEnv × Session T)) : InstanceCall T R :=
  ⟨instanceNumber, default, func⟩

/-- `with_instance_err`. -/
def withInstanceErr (instanceNumber : Jint) (successFunc : Value → R)
    (toxFunc : T → (Value × ErrorCode t) × T) : InstanceCall T R :=
  withInstance instanceNumber fun env session => do
    let (value, env, tox) ← t.withErrorHandling env successFunc toxFunc session.tox
    return (value, env, { session with tox })

/-- `with_instance_ign`: the boolean result is ignored. -/
def withInstanceIgn (instanceNumber : Jint) (toxFunc : T → (Bool × ErrorCode t) × T) :
    InstanceCall T Unit :=
  withInstanceErr instanceNumber (fun _ => ()) toxFunc

/-- `with_instance_noerr`. -/
def withInstanceNoerr (instanceNumber : Jint) (toxFunc : T → Except Fatal (R × T)) :
    InstanceCall T R :=
  withInstance instanceNumber fun env session => do
    let (value, tox) ← toxFunc session.tox
    return (value, env, { session with tox })

end ToxInstances

/-- The C types that a vector of `get_vector` can have, with their `sizeof`. -/
class CType (α : Type) where
  size : Nat

instance : CType UInt8 := ⟨1⟩
instance : CType UInt32 := ⟨4⟩

/-- `std::vector<T>::max_size`: the elements have to fit in `PTRDIFF_MAX` bytes. -/
def maxSize (α : Type) [CType α] : Nat := (2 ^ 63 - 1) / CType.size α

section

variable {T R Value α β : Type} [Zero α] [CType α]

/-- `conversions::to_java`, for a value that is converted by itself. -/
def toJava (convert : Value → R) (toxFunc : T → Value × T) (tox : T) : Except Fatal (R × T) :=
  let (value, tox) := toxFunc tox
  .ok (convert value, tox)

/-- The constructor of a vector with this size. Its elements are zeros. -/
def vector (size : Nat) : Except Fatal (List α) :=
  if size ≤ maxSize α then .ok (List.replicate size 0) else .error .lengthError

/-- `get_vector::make`, and the array of its elements after `convert`. toxcore writes its elements
from the front of the vector, and has to stay inside it. -/
def getVector (size : T → UInt64) (data : T → List α) (convert : α → β) (tox : T) :
    Except Fatal (Option (List β) × T) := do
  let zeros ← vector (size tox).toNat
  if (data tox).length ≤ zeros.length then
    let array ← toJavaArray ((data tox ++ zeros.drop (data tox).length).map convert)
    return (some array, tox)
  else
    .error .outOfRange

/-- `constant_size<N>::make`. -/
def constantSize (n : Nat) (_ : T) : UInt64 := UInt64.ofNat n

end

end Tox4j.Native
