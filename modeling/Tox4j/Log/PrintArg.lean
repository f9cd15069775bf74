import Tox4j.Log.JniLog

/-!
# `Tox4j.Log.PrintArg`: the arguments and results that are logged

`print_arg` of `util/debug_log.cpp` for the C++ and JNI types, and the specialisations of
`ToxCore/debug.cpp`, `ToxAv/debug.cpp`, `ToxCrypto/debug.cpp` and of the two
`generated/enums.cpp` for the types of toxcore. The ones for enumerations differ in their names
only, so they are one function.

A C string is bytes. Those that come from Java are what `GetStringUTFChars` makes of a `jstring`:
modified UTF-8, in which U+0000 has two bytes and each surrogate three. So they are not always
valid UTF-8.

`Arg.Shows` says how an argument is recognised in the log, without the functions that write it, and
`shows_printArg` that `print_arg` writes it so.
-/

set_option autoImplicit false

namespace Tox4j.Log

open Tox4j.Lib.Proto3 (Bytes utf8)
open Tox4j.Native (Jint)

/-- The C enumerations that have a `print_arg`. -/
inductive ToxEnum
  | connection
  | fileControl
  | fileKind
  | messageType
  | proxyType
  | savedataType
  | userStatus
  | callControl
  | friendCallState
  deriving DecidableEq, Repr

namespace ToxEnum

/-- The name of the type. -/
def typeName : ToxEnum → String
  | connection => "TOX_CONNECTION"
  | fileControl => "TOX_FILE_CONTROL"
  | fileKind => "TOX_FILE_KIND"
  | messageType => "TOX_MESSAGE_TYPE"
  | proxyType => "TOX_PROXY_TYPE"
  | savedataType => "TOX_SAVEDATA_TYPE"
  | userStatus => "TOX_USER_STATUS"
  | callControl => "TOXAV_CALL_CONTROL"
  | friendCallState => "TOXAV_FRIEND_CALL_STATE"

/-- The names of its enumerators. -/
def enumerators : ToxEnum → List String
  | connection => ["TOX_CONNECTION_NONE", "TOX_CONNECTION_TCP", "TOX_CONNECTION_UDP"]
  | fileControl => ["TOX_FILE_CONTROL_RESUME", "TOX_FILE_CONTROL_PAUSE", "TOX_FILE_CONTROL_CANCEL"]
  | fileKind => ["TOX_FILE_KIND_DATA", "TOX_FILE_KIND_AVATAR"]
  | messageType => ["TOX_MESSAGE_TYPE_NORMAL", "TOX_MESSAGE_TYPE_ACTION"]
  | proxyType => ["TOX_PROXY_TYPE_NONE", "TOX_PROXY_TYPE_HTTP", "TOX_PROXY_TYPE_SOCKS5"]
  | savedataType =>
    ["TOX_SAVEDATA_TYPE_NONE", "TOX_SAVEDATA_TYPE_TOX_SAVE", "TOX_SAVEDATA_TYPE_SECRET_KEY"]
  | userStatus => ["TOX_USER_STATUS_NONE", "TOX_USER_STATUS_AWAY", "TOX_USER_STATUS_BUSY"]
  | callControl =>
    ["TOXAV_CALL_CONTROL_RESUME", "TOXAV_CALL_CONTROL_PAUSE", "TOXAV_CALL_CONTROL_CANCEL",
      "TOXAV_CALL_CONTROL_MUTE_AUDIO", "TOXAV_CALL_CONTROL_UNMUTE_AUDIO",
      "TOXAV_CALL_CONTROL_HIDE_VIDEO", "TOXAV_CALL_CONTROL_SHOW_VIDEO"]
  | friendCallState =>
    ["TOXAV_FRIEND_CALL_STATE_ERROR", "TOXAV_FRIEND_CALL_STATE_FINISHED",
      "TOXAV_FRIEND_CALL_STATE_SENDING_A", "TOXAV_FRIEND_CALL_STATE_SENDING_V",
      "TOXAV_FRIEND_CALL_STATE_ACCEPTING_A", "TOXAV_FRIEND_CALL_STATE_ACCEPTING_V"]

end ToxEnum

/-- A C value of an enumeration: one of its enumerators, or a number that has no name. -/
inductive EnumValue (type : ToxEnum)
  | enumerator (i : Fin type.enumerators.length)
  | other (value : Int)

/-- `Tox_Options`, as the printer reads it. `none` is a null pointer. -/
structure ToxOptions where
  ipv6Enabled : Bool
  udpEnabled : Bool
  proxyType : EnumValue .proxyType
  proxyHost : Option Bytes
  startPort : UInt16
  endPort : UInt16
  tcpPort : UInt16
  savedataType : EnumValue .savedataType
  savedata : Option Bytes

/-- The C++ values with a `print_arg` of their own. `none` is a null pointer. -/
inductive ToxArg
  /-- A `Tox` or a `ToxAV`, which is the pointer with this index in `ids`. -/
  | instancePointer (index : Nat)
  | options (options : Option ToxOptions)
  | coreEvents (byteSizeLong : Option Nat)
  | avEvents (byteSizeLong : Option Nat)
  | enumeration (type : ToxEnum) (value : EnumValue type)
  /-- An `int16_t const *` without its length. -/
  | audioSamples (isNull : Bool)
  | passKey

/-- `MAX_DATA_LOG_LENGTH`. -/
def maxDataLogLength : Nat := 128

/-- The C++ values that `print_arg` prints. `none` is a null pointer. -/
inductive Arg
  /-- Any integer type, and `bool`. -/
  | int (arg : Int64)
  /-- A `char const *`: the bytes before its terminator. -/
  | cString (data : Option Bytes)
  /-- A `uint8_t const *` without its length. -/
  | bytePointer (isNull : Bool)
  | bytes (data : Option Bytes)
  | shorts (data : Option (List Int16))
  /-- A vector of `jint`. -/
  | ints (data : List Jint)
  /-- `wrapped_value<void>`. -/
  | void
  | tox (arg : ToxArg)

/-! ### Printing -/

/-- `set_v_string`, with a text that the printer makes. -/
def Value.text (v : String) : Value Bytes := ⟨0, .vString (utf8 v)⟩

/-- `print_arg` for an integer. -/
def printInt (arg : Int64) : Value Bytes := ⟨0, .vSint64 arg⟩

/-- `print_arg<char const *>`. -/
def printCString : Option Bytes → Value Bytes
  | none => .text "<null>"
  | some data => ⟨0, .vString data⟩

/-- `print_arg` for bytes with their length. -/
def printBytes : Option Bytes → Value Bytes
  | none => .text "<null>"
  | some data =>
    ⟨if data.length > maxDataLogLength then UInt32.ofNat data.length else 0,
      .vBytes (data.take maxDataLogLength)⟩

/-- `print_arg` for an enumeration. -/
def printEnum (type : ToxEnum) : EnumValue type → Value Bytes
  | .enumerator i => .text (type.enumerators.get i)
  | .other value => .text ("(" ++ type.typeName ++ ")" ++ toString value)

/-- `print_arg<Tox_Options *>`. -/
def printOptions : Option ToxOptions → Value Bytes
  | none => .text "<null>"
  | some options => ⟨0, .vObject
      [("ipv6_enabled", printInt options.ipv6Enabled.toInt64),
        ("udp_enabled", printInt options.udpEnabled.toInt64),
        ("proxy_type", printEnum .proxyType options.proxyType),
        ("proxy_host", printCString options.proxyHost),
        ("start_port", printInt options.startPort.toUInt64.toInt64),
        ("end_port", printInt options.endPort.toUInt64.toInt64),
        ("tcp_port", printInt options.tcpPort.toUInt64.toInt64),
        ("savedata_type", printEnum .savedataType options.savedataType),
        ("savedata", printBytes options.savedata)]⟩

/-- `print_arg` for the queue of events, with the name of its type. -/
def printEvents (name : String) : Option Nat → Value Bytes
  | none => .text "<null>"
  | some byteSizeLong => .text ("<" ++ name ++ "[" ++ toString byteSizeLong ++ "]>")

/-- `print_arg`, for the types of toxcore. -/
def printToxArg : ToxArg → Value Bytes
  | .instancePointer index => .text ("@" ++ toString (index + 1))
  | .options options => printOptions options
  | .coreEvents byteSizeLong => printEvents "core::Events" byteSizeLong
  | .avEvents byteSizeLong => printEvents "av::Events" byteSizeLong
  | .enumeration type value => printEnum type value
  | .audioSamples true => .text "<null>"
  | .audioSamples false => .text "<audio samples>"
  | .passKey => .text "pass_key"

/-- `print_arg`, on a new `Value`. -/
def printArg : Arg → Value Bytes
  | .int arg => printInt arg
  | .cString data => printCString data
  | .bytePointer true => .text "<null>"
  | .bytePointer false => .text "byte[]"
  | .bytes data => printBytes data
  | .shorts none => .text "<null>"
  | .shorts (some data) => .text ("short[" ++ toString data.length ++ "]")
  | .ints data => .text ("int[" ++ toString data.length ++ "]")
  | .void => ⟨0, .notSet⟩
  | .tox arg => printToxArg arg

/-! ### What the log shows of an argument -/

/-- The argument is a null pointer. -/
def Arg.isNull : Arg → Bool
  | cString none | bytePointer true | bytes none | shorts none => true
  | tox (.options none) | tox (.coreEvents none) | tox (.avEvents none) => true
  | tox (.audioSamples true) => true
  | _ => false

/-- The options, each as an argument of its own, with the name of the member it is shown as. -/
def ToxOptions.fields (options : ToxOptions) : List (String × Arg) :=
  [("ipv6_enabled", .int options.ipv6Enabled.toInt64),
    ("udp_enabled", .int options.udpEnabled.toInt64),
    ("proxy_type", .tox (.enumeration .proxyType options.proxyType)),
    ("proxy_host", .cString options.proxyHost),
    ("start_port", .int options.startPort.toUInt64.toInt64),
    ("end_port", .int options.endPort.toUInt64.toInt64),
    ("tcp_port", .int options.tcpPort.toUInt64.toInt64),
    ("savedata_type", .tox (.enumeration .savedataType options.savedataType)),
    ("savedata", .bytes options.savedata)]

/-- The value shows the argument. Numbers and C strings are shown as they are, byte arrays up to
their first 128 bytes with their length, and of all other arrays and objects the type and the size.
-/
inductive Arg.ShowsPlain : Arg → Value Bytes → Prop
  | null {arg : Arg} (h : arg.isNull = true) : ShowsPlain arg (.text "<null>")
  | int (arg : Int64) : ShowsPlain (.int arg) ⟨0, .vSint64 arg⟩
  | cString (data : Bytes) : ShowsPlain (.cString (some data)) ⟨0, .vString data⟩
  | bytePointer : ShowsPlain (.bytePointer false) (.text "byte[]")
  | bytes {data : Bytes} (h : data.length ≤ 128) :
      ShowsPlain (.bytes (some data)) ⟨0, .vBytes data⟩
  | truncated {data shown hidden : Bytes} (hdata : data = shown ++ hidden)
      (hshown : shown.length = 128) (hhidden : hidden ≠ []) :
      ShowsPlain (.bytes (some data)) ⟨UInt32.ofNat data.length, .vBytes shown⟩
  | shorts (data : List Int16) :
      ShowsPlain (.shorts (some data)) (.text ("short[" ++ toString data.length ++ "]"))
  | ints (data : List Jint) :
      ShowsPlain (.ints data) (.text ("int[" ++ toString data.length ++ "]"))
  | void : ShowsPlain .void ⟨0, .notSet⟩
  | instancePointer (index : Nat) :
      ShowsPlain (.tox (.instancePointer index)) (.text ("@" ++ toString (index + 1)))
  | coreEvents (size : Nat) : ShowsPlain (.tox (.coreEvents (some size)))
      (.text ("<core::Events[" ++ toString size ++ "]>"))
  | avEvents (size : Nat) : ShowsPlain (.tox (.avEvents (some size)))
      (.text ("<av::Events[" ++ toString size ++ "]>"))
  | enumerator (type : ToxEnum) (i : Fin type.enumerators.length) :
      ShowsPlain (.tox (.enumeration type (.enumerator i))) (.text (type.enumerators.get i))
  | unnamed (type : ToxEnum) (value : Int) :
      ShowsPlain (.tox (.enumeration type (.other value)))
        (.text ("(" ++ type.typeName ++ ")" ++ toString value))
  | audioSamples : ShowsPlain (.tox (.audioSamples false)) (.text "<audio samples>")
  | passKey : ShowsPlain (.tox .passKey) (.text "pass_key")

/-- The value shows the argument. Options are shown as an object, which has a member for each of
them. -/
inductive Arg.Shows : Arg → Value Bytes → Prop
  | plain {arg : Arg} {value : Value Bytes} (h : arg.ShowsPlain value) : Shows arg value
  | options {options : ToxOptions} {members : List (String × Value Bytes)}
      (h : List.Forall₂ (fun field member => field.1 = member.1 ∧ field.2.ShowsPlain member.2)
        options.fields members) : Shows (.tox (.options (some options))) ⟨0, .vObject members⟩

/-- An enumerator is shown by its name, and a number without a name with the type. -/
theorem showsPlain_printEnum (type : ToxEnum) (value : EnumValue type) :
    (Arg.tox (.enumeration type value)).ShowsPlain (printEnum type value) := by
  cases value with
  | enumerator i => exact .enumerator type i
  | other value => exact .unnamed type value

/-- A C string is shown with all its bytes, whether these are valid UTF-8 or not. -/
theorem showsPlain_printCString (data : Option Bytes) :
    (Arg.cString data).ShowsPlain (printCString data) := by
  cases data with
  | none => exact .null rfl
  | some data => exact .cString data

/-- A byte array is shown as a whole, or by its first bytes and its length. -/
theorem showsPlain_printBytes (data : Option Bytes) :
    (Arg.bytes data).ShowsPlain (printBytes data) := by
  cases data with
  | none => exact .null rfl
  | some data =>
      rw [printBytes, show maxDataLogLength = 128 from rfl]
      split
      · rename_i hlong
        refine .truncated (List.take_append_drop 128 data).symm ?_ ?_
        · rw [List.length_take]
          omega
        · intro hnil
          have hlength := congrArg List.length hnil
          rw [List.length_drop, List.length_nil] at hlength
          omega
      · rename_i hshort
        rw [List.take_of_length_le (Nat.le_of_not_gt hshort)]
        exact .bytes (Nat.le_of_not_gt hshort)

/-- `print_arg` writes a value that shows its argument, for every type that the bridge logs. -/
theorem shows_printArg (arg : Arg) : arg.Shows (printArg arg) := by
  cases arg with
  | int arg => exact .plain (.int arg)
  | cString data => exact .plain (showsPlain_printCString data)
  | bytePointer isNull =>
      cases isNull with
      | true => exact .plain (.null rfl)
      | false => exact .plain .bytePointer
  | bytes data => exact .plain (showsPlain_printBytes data)
  | shorts data =>
      cases data with
      | none => exact .plain (.null rfl)
      | some data => exact .plain (.shorts data)
  | ints data => exact .plain (.ints data)
  | void => exact .plain .void
  | tox arg =>
      cases arg with
      | instancePointer index => exact .plain (.instancePointer index)
      | coreEvents size =>
          cases size with
          | none => exact .plain (.null rfl)
          | some size => exact .plain (.coreEvents size)
      | avEvents size =>
          cases size with
          | none => exact .plain (.null rfl)
          | some size => exact .plain (.avEvents size)
      | enumeration type value => exact .plain (showsPlain_printEnum type value)
      | audioSamples isNull =>
          cases isNull with
          | true => exact .plain (.null rfl)
          | false => exact .plain .audioSamples
      | passKey => exact .plain .passKey
      | options options =>
          cases options with
          | none => exact .plain (.null rfl)
          | some options =>
              refine .options ?_
              refine .cons ⟨rfl, .int _⟩ (.cons ⟨rfl, .int _⟩ (.cons ⟨rfl, ?_⟩ (.cons ⟨rfl, ?_⟩
                (.cons ⟨rfl, .int _⟩ (.cons ⟨rfl, .int _⟩ (.cons ⟨rfl, .int _⟩ (.cons ⟨rfl, ?_⟩
                (.cons ⟨rfl, ?_⟩ .nil))))))))
              · exact showsPlain_printEnum _ _
              · exact showsPlain_printCString _
              · exact showsPlain_printEnum _ _
              · exact showsPlain_printBytes _

end Tox4j.Log
