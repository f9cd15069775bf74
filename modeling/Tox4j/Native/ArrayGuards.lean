import Tox4j.Native.EntryPoint

/-!
# `Tox4j.Native.ArrayGuards`: arrays that are passed without their length

Some toxcore functions read a fixed number of bytes through a pointer: a public key, an
address, a file id, a salt, a pass key, or the header of encrypted data. The JNI entry
points that call them get the pointer from a Java array of any length. They are in
`ToxCore/connection.cpp`, `friendlist.cpp`, `filetransfer.cpp` and `lifecycle.cpp`, and in
`ToxCrypto/encryptsave.cpp`.

`NativeCall` is a call with such a pointer and its other arguments, and `Request` is a call
of one of the entry points. `Request.Guarded` is what the checks in the entry points are
for: no read goes past the end of the array, because a call with an array that is too short
is refused before. `guarded_iff` proves it of every request but those of `Unguarded`.
-/

set_option autoImplicit false

namespace Tox4j.Native

open InstanceManager (calls)

/-! ### Sizes, from `ToxCore/generated/constants.h` and `ToxCrypto/generated/constants.h` -/

/-- `TOX_PUBLIC_KEY_SIZE`. -/
def publicKeySize : Nat := 32

/-- `TOX_ADDRESS_SIZE`. -/
def addressSize : Nat := 38

/-- `TOX_FILE_ID_LENGTH`. -/
def fileIdLength : Nat := 32

/-- `TOX_PASS_SALT_LENGTH`. -/
def passSaltLength : Nat := 32

/-- `TOX_PASS_KEY_LENGTH`. -/
def passKeyLength : Nat := 32

/-- `TOX_PASS_ENCRYPTION_EXTRA_LENGTH`. -/
def passEncryptionExtraLength : Nat := 80

/-! ### Error types, from the two `generated/errors.cpp` -/

/-- `HANDLE ("Bootstrap", BOOTSTRAP)`. -/
def bootstrap : ErrorType := ⟨"core", "", "Bootstrap", ["BAD_HOST", "BAD_PORT", "NULL"]⟩

/-- `HANDLE ("FriendAdd", FRIEND_ADD)`. -/
def friendAdd : ErrorType :=
  ⟨"core", "", "FriendAdd", ["ALREADY_SENT", "BAD_CHECKSUM", "MALLOC", "NO_MESSAGE", "NULL",
    "OWN_KEY", "SET_NEW_NOSPAM", "TOO_LONG"]⟩

/-- `HANDLE ("FriendByPublicKey", FRIEND_BY_PUBLIC_KEY)`. -/
def friendByPublicKey : ErrorType := ⟨"core", "", "FriendByPublicKey", ["NOT_FOUND", "NULL"]⟩

/-- `HANDLE ("FileSend", FILE_SEND)`. -/
def fileSend : ErrorType :=
  ⟨"core", "", "FileSend", ["FRIEND_NOT_CONNECTED", "FRIEND_NOT_FOUND", "NAME_TOO_LONG", "NULL",
    "TOO_MANY"]⟩

/-- `HANDLE ("GetSalt", GET_SALT)`. -/
def getSalt : ErrorType := ⟨"crypto", "", "GetSalt", ["BAD_FORMAT", "NULL"]⟩

/-- `HANDLE ("KeyDerivation", KEY_DERIVATION)`. -/
def keyDerivation : ErrorType := ⟨"crypto", "", "KeyDerivation", ["FAILED", "NULL"]⟩

/-- `HANDLE ("Encryption", ENCRYPTION)`. -/
def encryption : ErrorType :=
  ⟨"crypto", "", "Encryption", ["FAILED", "KEY_DERIVATION_FAILED", "NULL"]⟩

/-- `HANDLE ("Decryption", DECRYPTION)`. -/
def decryption : ErrorType :=
  ⟨"crypto", "", "Decryption", ["BAD_FORMAT", "FAILED", "INVALID_LENGTH", "KEY_DERIVATION_FAILED",
    "NULL"]⟩

/-! ### Calls of the functions that read a fixed number of bytes -/

/-- `uint8_t const *`: null, or what can be read. -/
abbrev Pointer := Option (List UInt8)

/-- A call of a function that reads a fixed number of bytes. Output buffers, and the error
code, are left out. `friendRequestCb` is `tox4j_friend_request_cb`, which writes an event. -/
inductive NativeCall (Tox : Type)
  | toxBootstrap (tox : Tox) (host : Option String) (port : UInt16) (publicKey : Pointer)
  | toxAddTcpRelay (tox : Tox) (host : Option String) (port : UInt16) (publicKey : Pointer)
  | toxFriendAdd (tox : Tox) (address message : Pointer) (length : UInt64)
  | toxFriendAddNorequest (tox : Tox) (publicKey : Pointer)
  | toxFriendByPublicKey (tox : Tox) (publicKey : Pointer)
  | toxFileSend (tox : Tox) (friendNumber kind : UInt32) (fileSize : UInt64)
      (fileId filename : Pointer) (filenameLength : UInt64)
  | friendRequestCb (publicKey message : Pointer) (length : UInt64)
  | toxGetSalt (data : Pointer)
  | toxIsDataEncrypted (data : Pointer)
  | toxPassKeyDeriveWithSalt (passphrase : Pointer) (length : UInt64) (salt : Pointer)
  | toxPassKeyDecrypt (passKey data : Pointer) (length : UInt64)
  | toxPassKeyEncrypt (passKey data : Pointer) (length : UInt64)
  deriving DecidableEq, Repr

/-- The pointer that comes without a length, and the number of bytes that are read through
it unless it is null. -/
def NativeCall.fixedRead {Tox : Type} : NativeCall Tox → Pointer × Nat
  | .toxBootstrap _ _ _ publicKey => (publicKey, publicKeySize)
  | .toxAddTcpRelay _ _ _ publicKey => (publicKey, publicKeySize)
  | .toxFriendAdd _ address _ _ => (address, addressSize)
  | .toxFriendAddNorequest _ publicKey => (publicKey, publicKeySize)
  | .toxFriendByPublicKey _ publicKey => (publicKey, publicKeySize)
  | .toxFileSend _ _ _ _ fileId _ _ => (fileId, fileIdLength)
  | .friendRequestCb publicKey _ _ => (publicKey, publicKeySize)
  | .toxGetSalt data => (data, passEncryptionExtraLength)
  | .toxIsDataEncrypted data => (data, passEncryptionExtraLength)
  | .toxPassKeyDeriveWithSalt _ _ salt => (salt, passSaltLength)
  | .toxPassKeyDecrypt passKey _ _ => (passKey, passSaltLength + passKeyLength)
  | .toxPassKeyEncrypt passKey _ _ => (passKey, passSaltLength + passKeyLength)

/-- The pointer is null, or `size` bytes can be read through it. -/
def Readable (pointer : Pointer) (size : Nat) : Prop :=
  ∀ bytes, pointer = some bytes → size ≤ bytes.length

/-- The read stays inside the array. -/
def NativeCall.InBounds {Tox : Type} (c : NativeCall Tox) : Prop :=
  Readable c.fixedRead.1 c.fixedRead.2

/-- The functions of toxcore, by what they answer. A function that fills an output buffer
answers with its contents. -/
structure Toxcore (Tox : Type) where
  bootstrap : NativeCall Tox → Bool × ErrorCode bootstrap
  friendAdd : NativeCall Tox → UInt32 × ErrorCode friendAdd
  friendByPublicKey : NativeCall Tox → UInt32 × ErrorCode friendByPublicKey
  fileSend : NativeCall Tox → UInt32 × ErrorCode fileSend
  getSalt : NativeCall Tox → List UInt8 × ErrorCode getSalt
  isDataEncrypted : NativeCall Tox → Bool
  passKeyDeriveWithSalt : NativeCall Tox → List UInt8 × ErrorCode keyDerivation
  passKeyDecrypt : NativeCall Tox → List UInt8 × ErrorCode decryption
  passKeyEncrypt : NativeCall Tox → List UInt8 × ErrorCode encryption

/-! ### The entry points -/

section

variable {Tox Events : Type}

/-- What an entry point does: it returns a value, leaves an environment, and makes calls. -/
abbrev Answer (Tox R : Type) := R × JNIEnv × List (NativeCall Tox)

/-- `tox4j_assert (!array || array.size () == size)`. -/
def assertSize (array : ArrayFromJava UInt8) (size : Nat) (condition : String) :
    Except Fatal Unit :=
  tox4jAssert (array.isNone || array.size == UInt64.ofNat size) condition

variable (toxcore : Toxcore Tox) (instances : InstanceManager Tox Events) (env : JNIEnv)

/-- `toxBootstrapLike`. -/
def toxBootstrapLike (function : Tox → Option String → UInt16 → Pointer → NativeCall Tox)
    (instanceNumber : Jint) (address : Option String) (port : Jint)
    (publicKey : ArrayFromJava UInt8) : Except Fatal (Answer Tox Unit) := do
  tox4jAssert (0 ≤ port) "port >= 0"
  tox4jAssert (port ≤ 65535) "port <= 65535"
  assertSize publicKey publicKeySize "!publicKey || public_key.size () == TOX_PUBLIC_KEY_SIZE"
  instances.withInstanceIgn env instanceNumber
    (fun tox => recorded toxcore.bootstrap
      (function tox address port.toUInt32.toUInt16 publicKey.data)) []

/-- `toxBootstrap`. -/
def toxBootstrap (instanceNumber : Jint) (address : Option String) (port : Jint)
    (publicKey : ArrayFromJava UInt8) : Except Fatal (Answer Tox Unit) :=
  toxBootstrapLike toxcore instances env .toxBootstrap instanceNumber address port publicKey

/-- `toxAddTcpRelay`. -/
def toxAddTcpRelay (instanceNumber : Jint) (address : Option String) (port : Jint)
    (publicKey : ArrayFromJava UInt8) : Except Fatal (Answer Tox Unit) :=
  toxBootstrapLike toxcore instances env .toxAddTcpRelay instanceNumber address port publicKey

/-- `toxFriendAdd`. -/
def toxFriendAdd (instanceNumber : Jint) (address message : ArrayFromJava UInt8) :
    Except Fatal (Answer Tox Jint) := do
  assertSize address addressSize "!address || addressData.size () == TOX_ADDRESS_SIZE"
  instances.withInstanceErr env instanceNumber UInt32.toInt32
    (fun tox => recorded toxcore.friendAdd
      (.toxFriendAdd tox address.data message.data message.size)) []

/-- `toxFriendAddNorequest`. -/
def toxFriendAddNorequest (instanceNumber : Jint) (publicKey : ArrayFromJava UInt8) :
    Except Fatal (Answer Tox Jint) := do
  assertSize publicKey publicKeySize "!publicKey || public_key.size () == TOX_PUBLIC_KEY_SIZE"
  instances.withInstanceErr env instanceNumber UInt32.toInt32
    (fun tox => recorded toxcore.friendAdd (.toxFriendAddNorequest tox publicKey.data)) []

/-- `toxFriendByPublicKey`. -/
def toxFriendByPublicKey (instanceNumber : Jint) (publicKey : ArrayFromJava UInt8) :
    Except Fatal (Answer Tox Jint) := do
  assertSize publicKey publicKeySize "!publicKey || public_key.size () == TOX_PUBLIC_KEY_SIZE"
  instances.withInstanceErr env instanceNumber UInt32.toInt32
    (fun tox => recorded toxcore.friendByPublicKey (.toxFriendByPublicKey tox publicKey.data)) []

/-- `toxFileSend`. A negative file size is a stream. -/
def toxFileSend (instanceNumber friendNumber kind : Jint) (fileSize : Int64)
    (fileId filename : ArrayFromJava UInt8) : Except Fatal (Answer Tox Jint) :=
  let fileSize := if fileSize < 0 then -1 else fileSize
  instances.withInstanceErr env instanceNumber UInt32.toInt32
    (fun tox => recorded toxcore.fileSend
      (.toxFileSend tox friendNumber.toUInt32 kind.toUInt32 fileSize.toUInt64 fileId.data
        filename.data filename.size)) []

/-- `invokeFriendRequest`. The object that `with_instance` passes is never null. -/
def invokeFriendRequest (instanceNumber : Jint) (publicKey message : ArrayFromJava UInt8) :
    Except Fatal (Answer Tox Unit) :=
  instances.withInstance env instanceNumber
    (fun _ _ env calls =>
      .ok ((), env, calls ++ [.friendRequestCb publicKey.data message.data message.size])) []

/-- `toxGetSalt`. -/
def toxGetSalt (data : ArrayFromJava UInt8) : Except Fatal (Answer Tox Pointer) :=
  getSalt.withErrorHandling env some (recorded toxcore.getSalt (.toxGetSalt data.data)) []

/-- `toxIsDataEncrypted`. -/
def toxIsDataEncrypted (data : ArrayFromJava UInt8) : Except Fatal (Answer Tox Bool) :=
  if data.size < UInt64.ofNat passEncryptionExtraLength then
    .ok (false, env, [])
  else
    .ok (toxcore.isDataEncrypted (.toxIsDataEncrypted data.data), env,
      [.toxIsDataEncrypted data.data])

/-- `toxPassKeyDeriveWithSalt`. -/
def toxPassKeyDeriveWithSalt (passphrase salt : ArrayFromJava UInt8) :
    Except Fatal (Answer Tox Pointer) :=
  if salt.size ≠ UInt64.ofNat passSaltLength then
    .ok (none, keyDerivation.throwNamed env "INVALID_LENGTH", [])
  else
    keyDerivation.withErrorHandling env some
      (recorded toxcore.passKeyDeriveWithSalt
        (.toxPassKeyDeriveWithSalt passphrase.data passphrase.size salt.data)) []

/-- `pass_key_from_java`: a copy of the array. -/
def passKeyFromJava (passKey : ArrayFromJava UInt8) : Except Fatal Pointer := do
  tox4jAssert (passKey.size == UInt64.ofNat (passSaltLength + passKeyLength))
    "passKey.size () == TOX_PASS_SALT_LENGTH + TOX_PASS_KEY_LENGTH"
  return passKey.data

/-- `toxPassKeyDecrypt`. -/
def toxPassKeyDecrypt (data passKeyArray : ArrayFromJava UInt8) :
    Except Fatal (Answer Tox Pointer) := do
  let passKey ← passKeyFromJava passKeyArray
  decryption.withErrorHandling env some
    (recorded toxcore.passKeyDecrypt (.toxPassKeyDecrypt passKey data.data data.size)) []

/-- `toxPassKeyEncrypt`. -/
def toxPassKeyEncrypt (data passKeyArray : ArrayFromJava UInt8) :
    Except Fatal (Answer Tox Pointer) := do
  let passKey ← passKeyFromJava passKeyArray
  encryption.withErrorHandling env some
    (recorded toxcore.passKeyEncrypt (.toxPassKeyEncrypt passKey data.data data.size)) []

end

/-! ### Requests -/

/-- A value that an entry point returns to Java. -/
inductive Returned
  | void
  | int (value : Jint)
  | boolean (value : Bool)
  | byteArray (value : Pointer)
  deriving DecidableEq, Repr

/-- A call from Java of an entry point that passes an array without its length. -/
inductive Request
  | toxBootstrap (instanceNumber : Jint) (address : Option String) (port : Jint)
      (publicKey : ArrayFromJava UInt8)
  | toxAddTcpRelay (instanceNumber : Jint) (address : Option String) (port : Jint)
      (publicKey : ArrayFromJava UInt8)
  | toxFriendAdd (instanceNumber : Jint) (address message : ArrayFromJava UInt8)
  | toxFriendAddNorequest (instanceNumber : Jint) (publicKey : ArrayFromJava UInt8)
  | toxFriendByPublicKey (instanceNumber : Jint) (publicKey : ArrayFromJava UInt8)
  | toxFileSend (instanceNumber friendNumber kind : Jint) (fileSize : Int64)
      (fileId filename : ArrayFromJava UInt8)
  | invokeFriendRequest (instanceNumber : Jint) (publicKey message : ArrayFromJava UInt8)
  | toxGetSalt (data : ArrayFromJava UInt8)
  | toxIsDataEncrypted (data : ArrayFromJava UInt8)
  | toxPassKeyDeriveWithSalt (passphrase salt : ArrayFromJava UInt8)
  | toxPassKeyDecrypt (data passKey : ArrayFromJava UInt8)
  | toxPassKeyEncrypt (data passKey : ArrayFromJava UInt8)

namespace Request

variable {Tox Events : Type}

/-- The array that is passed without its length, and the number of bytes that are read. -/
def unsized : Request → ArrayFromJava UInt8 × Nat
  | toxBootstrap _ _ _ publicKey => (publicKey, publicKeySize)
  | toxAddTcpRelay _ _ _ publicKey => (publicKey, publicKeySize)
  | toxFriendAdd _ address _ => (address, addressSize)
  | toxFriendAddNorequest _ publicKey => (publicKey, publicKeySize)
  | toxFriendByPublicKey _ publicKey => (publicKey, publicKeySize)
  | toxFileSend _ _ _ _ fileId _ => (fileId, fileIdLength)
  | invokeFriendRequest _ publicKey _ => (publicKey, publicKeySize)
  | toxGetSalt data => (data, passEncryptionExtraLength)
  | toxIsDataEncrypted data => (data, passEncryptionExtraLength)
  | toxPassKeyDeriveWithSalt _ salt => (salt, passSaltLength)
  | toxPassKeyDecrypt _ passKey => (passKey, passSaltLength + passKeyLength)
  | toxPassKeyEncrypt _ passKey => (passKey, passSaltLength + passKeyLength)

/-- What the entry point does, with no exception pending on entry. -/
def run (toxcore : Toxcore Tox) (instances : InstanceManager Tox Events) :
    Request → Except Fatal (Answer Tox Returned)
  | toxBootstrap n address port publicKey =>
    (Native.toxBootstrap toxcore instances ⟨[]⟩ n address port publicKey).map
      (Prod.map (fun _ => .void) id)
  | toxAddTcpRelay n address port publicKey =>
    (Native.toxAddTcpRelay toxcore instances ⟨[]⟩ n address port publicKey).map
      (Prod.map (fun _ => .void) id)
  | toxFriendAdd n address message =>
    (Native.toxFriendAdd toxcore instances ⟨[]⟩ n address message).map (Prod.map .int id)
  | toxFriendAddNorequest n publicKey =>
    (Native.toxFriendAddNorequest toxcore instances ⟨[]⟩ n publicKey).map (Prod.map .int id)
  | toxFriendByPublicKey n publicKey =>
    (Native.toxFriendByPublicKey toxcore instances ⟨[]⟩ n publicKey).map (Prod.map .int id)
  | toxFileSend n friendNumber kind fileSize fileId filename =>
    (Native.toxFileSend toxcore instances ⟨[]⟩ n friendNumber kind fileSize fileId filename).map
      (Prod.map .int id)
  | invokeFriendRequest n publicKey message =>
    (Native.invokeFriendRequest instances ⟨[]⟩ n publicKey message).map
      (Prod.map (fun _ => .void) id)
  | toxGetSalt data => (Native.toxGetSalt toxcore ⟨[]⟩ data).map (Prod.map .byteArray id)
  | toxIsDataEncrypted data =>
    (Native.toxIsDataEncrypted toxcore ⟨[]⟩ data).map (Prod.map .boolean id)
  | toxPassKeyDeriveWithSalt passphrase salt =>
    (Native.toxPassKeyDeriveWithSalt toxcore ⟨[]⟩ passphrase salt).map (Prod.map .byteArray id)
  | toxPassKeyDecrypt data passKey =>
    (Native.toxPassKeyDecrypt toxcore ⟨[]⟩ data passKey).map (Prod.map .byteArray id)
  | toxPassKeyEncrypt data passKey =>
    (Native.toxPassKeyEncrypt toxcore ⟨[]⟩ data passKey).map (Prod.map .byteArray id)

end Request

/-! ### Guards -/

section

variable {Tox Events R : Type}

/-- Every call that was made reads inside its array. -/
def ReadsInBounds (result : Except Fatal (Answer Tox R)) : Prop :=
  ∀ answer, result = .ok answer → ∀ c ∈ answer.2.2, c.InBounds

/-- No call was made: a `tox4j_assert` failed, an exception was thrown, or the result is false. -/
def Refused (result : Except Fatal (Answer Tox Returned)) : Prop :=
  match result with
  | .error (.assertion _) => True
  | .error _ => False
  | .ok (returned, env, calls) =>
    calls = [] ∧ (env.exceptionCheck = true ∨ returned = .boolean false)

/-- What the checks of an entry point are for. -/
def Request.Guarded (toxcore : Toxcore Tox) (instances : InstanceManager Tox Events)
    (r : Request) : Prop :=
  ReadsInBounds (r.run toxcore instances) ∧
    (¬ Readable r.unsized.1.data r.unsized.2 → Refused (r.run toxcore instances))

/-- A short array, not null, of a request whose entry point does not look at the length. -/
def Request.Unguarded (instances : InstanceManager Tox Events) : Request → Prop
  | toxFileSend n _ _ _ fileId _ =>
    (∃ p, instances.status n = .live p) ∧ ¬ Readable fileId.data fileIdLength
  | invokeFriendRequest n publicKey _ =>
    (∃ p, instances.status n = .live p) ∧ ¬ Readable publicKey.data publicKeySize
  | toxGetSalt data => ¬ Readable data.data passEncryptionExtraLength
  | _ => False

/-! ### One lemma for each kind of guard -/

/-- What can be read of a Java array, by its length. -/
theorem readable_data_iff {a : ArrayFromJava UInt8} {size : Nat} :
    Readable a.data size ↔ a = none ∨ size ≤ a.length := by
  cases a with
  | none => simp [Readable, ArrayFromJava.data]
  | some array => simp [Readable, ArrayFromJava.data, ArrayFromJava.length]

/-- What the guards give before the result is converted for Java. -/
def Guards (a : ArrayFromJava UInt8) (size : Nat) (result : Except Fatal (Answer Tox R)) : Prop :=
  ReadsInBounds result ∧ (¬ Readable a.data size →
    (∃ condition, result = .error (.assertion condition)) ∨
    ∃ value env, env.exceptionCheck = true ∧ result = .ok (value, env, []))

/-- An entry point that returned, by the calls that it made. -/
theorem readsInBounds_ok {value : R} {env : JNIEnv} {cs : List (NativeCall Tox)}
    (h : ∀ c ∈ cs, c.InBounds) :
    ReadsInBounds (.ok (value, env, cs) : Except Fatal (Answer Tox R)) := by
  intro answer hanswer
  cases hanswer
  exact h

/-- An entry point that ended the process made no call of toxcore before. -/
theorem readsInBounds_error (e : Fatal) :
    ReadsInBounds (.error e : Except Fatal (Answer Tox R)) := by
  intro answer hanswer
  exact nomatch hanswer

/-- The conversion of the value changes none of the calls. -/
theorem readsInBounds_map {result : Except Fatal (Answer Tox R)} (h : ReadsInBounds result)
    (f : R → Returned) : ReadsInBounds (result.map (Prod.map f id)) := by
  cases result with
  | error e => exact readsInBounds_error e
  | ok answer => exact readsInBounds_ok (h answer rfl)

/-- The guards of an entry point, after its value was converted for Java. -/
theorem Guards.map {a : ArrayFromJava UInt8} {size : Nat}
    {result : Except Fatal (Answer Tox R)} (h : Guards a size result) (f : R → Returned) :
    ReadsInBounds (result.map (Prod.map f id)) ∧
      (¬ Readable a.data size → Refused (result.map (Prod.map f id))) := by
  refine ⟨readsInBounds_map h.1 f, ?_⟩
  intro hshort
  cases h.2 hshort with
  | inl herror =>
      obtain ⟨condition, rfl⟩ := herror
      exact trivial
  | inr hthrown =>
      obtain ⟨value, env, henv, rfl⟩ := hthrown
      exact ⟨rfl, .inl henv⟩

/-- An assertion about other arguments comes first. -/
theorem Guards.assert {a : ArrayFromJava UInt8} {size : Nat}
    {result : Except Fatal (Answer Tox R)} (h : Guards a size result) (holds : Bool)
    (condition : String) : Guards a size (do tox4jAssert holds condition; result) := by
  cases holds with
  | true => exact h
  | false => exact ⟨readsInBounds_error _, fun _ => .inl ⟨condition, rfl⟩⟩

/-- The assertion `!array || array.size () == size` fails, or the array is long enough. -/
theorem assertSize_cases (a : ArrayFromJava UInt8) {size : Nat} (hsize : size < 2 ^ 64)
    (condition : String) :
    assertSize a size condition = .error (.assertion condition) ∨
      assertSize a size condition = .ok () ∧ Readable a.data size := by
  unfold assertSize
  cases hcond : (a.isNone || a.size == UInt64.ofNat size) with
  | false => exact .inl rfl
  | true =>
      refine .inr ⟨rfl, ?_⟩
      rw [readable_data_iff]
      simp only [Bool.or_eq_true, Option.isNone_iff_eq_none, beq_iff_eq,
        a.size_eq_ofNat_iff hsize] at hcond
      cases hcond with
      | inl hnull => exact .inl hnull
      | inr hlen => exact .inr (Nat.le_of_eq hlen.symm)

/-- The assertion comes before everything that needs the array. -/
theorem guards_assertSize {a : ArrayFromJava UInt8} {size : Nat} (hsize : size < 2 ^ 64)
    {result : Except Fatal (Answer Tox R)} (h : Readable a.data size → ReadsInBounds result)
    (condition : String) : Guards a size (do assertSize a size condition; result) := by
  cases assertSize_cases a hsize condition with
  | inl hfails =>
      rw [hfails]
      exact ⟨readsInBounds_error _, fun _ => .inl ⟨condition, rfl⟩⟩
  | inr hholds =>
      obtain ⟨hok, hread⟩ := hholds
      rw [hok]
      exact ⟨h hread, fun hshort => absurd hread hshort⟩

/-- The assertion of `pass_key_from_java`. -/
theorem guards_passKeyFromJava {passKey : ArrayFromJava UInt8}
    {rest : Pointer → Except Fatal (Answer Tox R)}
    (h : Readable passKey.data (passSaltLength + passKeyLength) →
      ReadsInBounds (rest passKey.data)) :
    Guards passKey (passSaltLength + passKeyLength) (passKeyFromJava passKey >>= rest) := by
  unfold passKeyFromJava
  cases hcond : (passKey.size == UInt64.ofNat (passSaltLength + passKeyLength)) with
  | false =>
      exact ⟨readsInBounds_error _, fun _ => .inl ⟨_, rfl⟩⟩
  | true =>
      have hread : Readable passKey.data (passSaltLength + passKeyLength) := by
        rw [readable_data_iff]
        rw [beq_iff_eq, passKey.size_eq_ofNat_iff (by decide)] at hcond
        right
        omega
      exact ⟨h hread, fun hshort => absurd hread hshort⟩

/-- A call through `with_error_handling`. -/
theorem readsInBounds_withErrorHandling [Inhabited R] {t : ErrorType} {Value : Type}
    {c : NativeCall Tox} (hc : c.InBounds) (env : JNIEnv) (successFunc : Value → R)
    (answer : NativeCall Tox → Value × ErrorCode t) :
    ReadsInBounds (t.withErrorHandling env successFunc (recorded answer c) []) := by
  obtain ⟨value, h⟩ := t.withErrorHandling_eq env successFunc (recorded answer c) []
  rw [h]
  apply readsInBounds_ok
  intro c' hc'
  rw [List.mem_singleton.mp hc']
  exact hc

variable {instances : InstanceManager Tox Events}

/-- A call through `with_instance_err`. -/
theorem readsInBounds_withInstanceErr [Inhabited R] {t : ErrorType} {Value : Type}
    (hm : calls.Reachable instances) {n : Jint} {args : Tox → NativeCall Tox}
    (hargs : ∀ tox, (args tox).InBounds) (successFunc : Value → R)
    (answer : NativeCall Tox → Value × ErrorCode t) :
    ReadsInBounds (instances.withInstanceErr ⟨[]⟩ n successFunc
      (fun tox => recorded answer (args tox)) []) := by
  cases InstanceManager.withInstanceErr_recorded hm n successFunc answer args with
  | inl hlive =>
      obtain ⟨tox, _, _, value, env, h⟩ := hlive
      rw [h]
      apply readsInBounds_ok
      intro c hc
      rw [List.mem_singleton.mp hc]
      exact hargs tox
  | inr hdead =>
      obtain ⟨_, env, _, h⟩ := hdead
      rw [h]
      exact readsInBounds_ok (fun c hc => nomatch hc)

/-- A call that is made on a live instance whatever the array is. On another number it is
refused, so the guard is missing exactly for a short array and a live instance. -/
theorem unguarded_iff {a : ArrayFromJava UInt8} {size : Nat} {n : Jint}
    {result : Except Fatal (Answer Tox Returned)}
    (h : (∃ p, instances.status n = .live p ∧ ∃ value env c,
        result = .ok (value, env, [c]) ∧ (c.InBounds ↔ Readable a.data size)) ∨
      ((∀ p, instances.status n ≠ .live p) ∧ ∃ value env, env.exceptionCheck = true ∧
        result = .ok (value, env, []))) :
    (ReadsInBounds result ∧ (¬ Readable a.data size → Refused result)) ↔
      ¬ ((∃ p, instances.status n = .live p) ∧ ¬ Readable a.data size) := by
  cases h with
  | inl hlive =>
      obtain ⟨p, hp, value, env, c, rfl, hc⟩ := hlive
      constructor
      · intro hguarded hshort
        exact hshort.2 (hc.mp (hguarded.1 _ rfl c (List.mem_singleton.mpr rfl)))
      · intro hcond
        have hread : Readable a.data size := by
          by_contra hshort
          exact hcond ⟨⟨p, hp⟩, hshort⟩
        refine ⟨readsInBounds_ok ?_, fun hshort => absurd hread hshort⟩
        intro c' hc'
        rw [List.mem_singleton.mp hc']
        exact hc.mpr hread
  | inr hdead =>
      obtain ⟨hp, value, env, henv, rfl⟩ := hdead
      constructor
      · intro _ hcond
        obtain ⟨⟨p, hlive⟩, -⟩ := hcond
        exact hp p hlive
      · intro _
        exact ⟨readsInBounds_ok (fun c hc => nomatch hc), fun _ => ⟨rfl, .inl henv⟩⟩

/-! ### The entry points with a guard -/

/-- The assertion on the size comes after those on the port, and before the call. It works for both
functions that `toxBootstrapLike` is used with. -/
theorem guards_toxBootstrapLike (toxcore : Toxcore Tox) (hm : calls.Reachable instances)
    {function : Tox → Option String → UInt16 → Pointer → NativeCall Tox}
    (hfunction : ∀ tox host port publicKey,
      (function tox host port publicKey).fixedRead = (publicKey, publicKeySize))
    (n : Jint) (address : Option String) (port : Jint) (publicKey : ArrayFromJava UInt8) :
    Guards publicKey publicKeySize
      (toxBootstrapLike toxcore instances ⟨[]⟩ function n address port publicKey) := by
  unfold toxBootstrapLike
  apply Guards.assert
  apply Guards.assert
  apply guards_assertSize (by decide)
  intro hread
  apply readsInBounds_withInstanceErr hm
  intro tox
  show Readable _ _
  rw [hfunction]
  exact hread

/-- The address has all its bytes when `tox_friend_add` reads it. -/
theorem guards_toxFriendAdd (toxcore : Toxcore Tox) (hm : calls.Reachable instances) (n : Jint)
    (address message : ArrayFromJava UInt8) :
    Guards address addressSize (toxFriendAdd toxcore instances ⟨[]⟩ n address message) := by
  unfold toxFriendAdd
  apply guards_assertSize (by decide)
  intro hread
  apply readsInBounds_withInstanceErr hm
  intro tox
  exact hread

/-- The public key has all its bytes when `tox_friend_add_norequest` reads it. -/
theorem guards_toxFriendAddNorequest (toxcore : Toxcore Tox) (hm : calls.Reachable instances)
    (n : Jint) (publicKey : ArrayFromJava UInt8) :
    Guards publicKey publicKeySize
      (toxFriendAddNorequest toxcore instances ⟨[]⟩ n publicKey) := by
  unfold toxFriendAddNorequest
  apply guards_assertSize (by decide)
  intro hread
  apply readsInBounds_withInstanceErr hm
  intro tox
  exact hread

/-- The public key has all its bytes when `tox_friend_by_public_key` reads it. -/
theorem guards_toxFriendByPublicKey (toxcore : Toxcore Tox) (hm : calls.Reachable instances)
    (n : Jint) (publicKey : ArrayFromJava UInt8) :
    Guards publicKey publicKeySize
      (toxFriendByPublicKey toxcore instances ⟨[]⟩ n publicKey) := by
  unfold toxFriendByPublicKey
  apply guards_assertSize (by decide)
  intro hread
  apply readsInBounds_withInstanceErr hm
  intro tox
  exact hread

/-- A salt of another size is refused with an exception, not with an assertion. -/
theorem guards_toxPassKeyDeriveWithSalt (toxcore : Toxcore Tox)
    (passphrase salt : ArrayFromJava UInt8) :
    Guards salt passSaltLength (toxPassKeyDeriveWithSalt toxcore ⟨[]⟩ passphrase salt) := by
  unfold toxPassKeyDeriveWithSalt
  by_cases hsize : salt.size = UInt64.ofNat passSaltLength
  · have hlen : salt.length = passSaltLength := (salt.size_eq_ofNat_iff (by decide)).mp hsize
    have hread : Readable salt.data passSaltLength :=
      readable_data_iff.mpr (.inr (Nat.le_of_eq hlen.symm))
    rw [if_neg (not_not.mpr hsize)]
    refine ⟨?_, fun hshort => absurd hread hshort⟩
    apply readsInBounds_withErrorHandling
    exact hread
  · rw [if_pos hsize]
    exact ⟨readsInBounds_ok (fun c hc => nomatch hc), fun _ => .inr ⟨_, _, rfl, rfl⟩⟩

/-- The pass key is copied, with an assertion on its size, before anything is decrypted. -/
theorem guards_toxPassKeyDecrypt (toxcore : Toxcore Tox) (data passKey : ArrayFromJava UInt8) :
    Guards passKey (passSaltLength + passKeyLength)
      (toxPassKeyDecrypt toxcore ⟨[]⟩ data passKey) := by
  apply guards_passKeyFromJava
  intro hread
  apply readsInBounds_withErrorHandling
  exact hread

/-- The pass key is copied, with an assertion on its size, before anything is encrypted. -/
theorem guards_toxPassKeyEncrypt (toxcore : Toxcore Tox) (data passKey : ArrayFromJava UInt8) :
    Guards passKey (passSaltLength + passKeyLength)
      (toxPassKeyEncrypt toxcore ⟨[]⟩ data passKey) := by
  apply guards_passKeyFromJava
  intro hread
  apply readsInBounds_withErrorHandling
  exact hread

/-- A short array, or a null one, is not encrypted data. -/
theorem guarded_toxIsDataEncrypted (toxcore : Toxcore Tox) (data : ArrayFromJava UInt8) :
    (Request.toxIsDataEncrypted data).Guarded toxcore instances := by
  simp only [Request.Guarded, Request.run, toxIsDataEncrypted]
  by_cases hsize : data.size < UInt64.ofNat passEncryptionExtraLength
  · rw [if_pos hsize]
    exact ⟨readsInBounds_ok (fun c hc => nomatch hc), fun _ => ⟨rfl, .inr rfl⟩⟩
  · have hlen : ¬ data.length < passEncryptionExtraLength := by
      rwa [data.size_lt_ofNat_iff (by decide)] at hsize
    have hread : Readable data.data passEncryptionExtraLength :=
      readable_data_iff.mpr (.inr (Nat.le_of_not_lt hlen))
    rw [if_neg hsize]
    refine ⟨readsInBounds_ok ?_, fun hshort => absurd hread hshort⟩
    intro c hc
    rw [List.mem_singleton.mp hc]
    exact hread

/-! ### The entry points without a guard -/

/-- `toxFileSend` has no guard of its own. The reads stay inside the file id exactly when it is long
enough, or when there is no live instance and so no call. -/
theorem guarded_toxFileSend_iff (toxcore : Toxcore Tox) (hm : calls.Reachable instances)
    (n friendNumber kind : Jint) (fileSize : Int64) (fileId filename : ArrayFromJava UInt8) :
    (Request.toxFileSend n friendNumber kind fileSize fileId filename).Guarded toxcore instances ↔
      ¬ ((∃ p, instances.status n = .live p) ∧ ¬ Readable fileId.data fileIdLength) := by
  apply unguarded_iff
  show _ ∨ _
  unfold Request.run toxFileSend
  cases InstanceManager.withInstanceErr_recorded hm n UInt32.toInt32 toxcore.fileSend
    (fun tox => .toxFileSend tox friendNumber.toUInt32 kind.toUInt32
      (if fileSize < 0 then -1 else fileSize).toUInt64 fileId.data filename.data filename.size) with
  | inl hlive =>
      obtain ⟨tox, events, hp, value, env, h⟩ := hlive
      left
      exact ⟨(tox, events), hp, .int value, env, _, congrArg (Except.map _) h, Iff.rfl⟩
  | inr hdead =>
      obtain ⟨hp, env, henv, h⟩ := hdead
      right
      exact ⟨hp, .int default, env, henv, congrArg (Except.map _) h⟩

/-- `invokeFriendRequest` has no guard of its own either. -/
theorem guarded_invokeFriendRequest_iff (toxcore : Toxcore Tox) (hm : calls.Reachable instances)
    (n : Jint) (publicKey message : ArrayFromJava UInt8) :
    (Request.invokeFriendRequest n publicKey message).Guarded toxcore instances ↔
      ¬ ((∃ p, instances.status n = .live p) ∧ ¬ Readable publicKey.data publicKeySize) := by
  apply unguarded_iff
  show _ ∨ _
  unfold Request.run invokeFriendRequest
  cases InstanceManager.withInstance_cases hm n
    (fun _ _ env (cs : List (NativeCall Tox)) => .ok ((), env,
      cs ++ [.friendRequestCb publicKey.data message.data message.size])) [] with
  | inl hlive =>
      obtain ⟨tox, events, hp, h⟩ := hlive
      left
      exact ⟨(tox, events), hp, .void, _, _, congrArg (Except.map _) h, Iff.rfl⟩
  | inr hdead =>
      obtain ⟨hp, env, henv, h⟩ := hdead
      right
      exact ⟨hp, .void, env, henv, congrArg (Except.map _) h⟩

/-- `toxGetSalt` needs no instance, so it is safe exactly for data that is long enough. -/
theorem guarded_toxGetSalt_iff (toxcore : Toxcore Tox) (data : ArrayFromJava UInt8) :
    (Request.toxGetSalt data).Guarded toxcore instances ↔
      Readable data.data passEncryptionExtraLength := by
  simp only [Request.Guarded, Request.run, toxGetSalt]
  constructor
  · intro hguarded
    obtain ⟨value, h⟩ := getSalt.withErrorHandling_eq ⟨[]⟩ some
      (recorded toxcore.getSalt (.toxGetSalt data.data)) []
    rw [h] at hguarded
    exact hguarded.1 _ rfl (.toxGetSalt data.data) (List.mem_singleton.mpr rfl)
  · intro hread
    refine ⟨?_, fun hshort => absurd hread hshort⟩
    apply readsInBounds_map
    apply readsInBounds_withErrorHandling
    exact hread

/-- Every request is guarded, but for a short file id or public key that `toxFileSend` or
`invokeFriendRequest` passes on to a live instance, and short data in `toxGetSalt`. -/
theorem guarded_iff (toxcore : Toxcore Tox) (hm : calls.Reachable instances) (r : Request) :
    r.Guarded toxcore instances ↔ ¬ r.Unguarded instances := by
  cases r with
  | toxBootstrap n address port publicKey =>
      exact iff_of_true ((guards_toxBootstrapLike toxcore hm (fun _ _ _ _ => rfl) n address port
        publicKey).map _) id
  | toxAddTcpRelay n address port publicKey =>
      exact iff_of_true ((guards_toxBootstrapLike toxcore hm (fun _ _ _ _ => rfl) n address port
        publicKey).map _) id
  | toxFriendAdd n address message =>
      exact iff_of_true ((guards_toxFriendAdd toxcore hm n address message).map _) id
  | toxFriendAddNorequest n publicKey =>
      exact iff_of_true ((guards_toxFriendAddNorequest toxcore hm n publicKey).map _) id
  | toxFriendByPublicKey n publicKey =>
      exact iff_of_true ((guards_toxFriendByPublicKey toxcore hm n publicKey).map _) id
  | toxFileSend n friendNumber kind fileSize fileId filename =>
      exact guarded_toxFileSend_iff toxcore hm n friendNumber kind fileSize fileId filename
  | invokeFriendRequest n publicKey message =>
      exact guarded_invokeFriendRequest_iff toxcore hm n publicKey message
  | toxGetSalt data => exact (guarded_toxGetSalt_iff toxcore data).trans not_not.symm
  | toxIsDataEncrypted data => exact iff_of_true (guarded_toxIsDataEncrypted toxcore data) id
  | toxPassKeyDeriveWithSalt passphrase salt =>
      exact iff_of_true ((guards_toxPassKeyDeriveWithSalt toxcore passphrase salt).map _) id
  | toxPassKeyDecrypt data passKey =>
      exact iff_of_true ((guards_toxPassKeyDecrypt toxcore data passKey).map _) id
  | toxPassKeyEncrypt data passKey =>
      exact iff_of_true ((guards_toxPassKeyEncrypt toxcore data passKey).map _) id

end

/-- A toxcore that reports success. -/
def succeeds : Toxcore Nat where
  bootstrap _ := (true, .ok 0)
  friendAdd _ := (0, .ok 0)
  friendByPublicKey _ := (0, .ok 0)
  fileSend _ := (0, .ok 0)
  getSalt _ := ([], .ok 0)
  isDataEncrypted _ := true
  passKeyDeriveWithSalt _ := ([], .ok 0)
  passKeyDecrypt _ := ([], .ok 0)
  passKeyEncrypt _ := ([], .ok 0)

/-- Nothing can be read of an empty array. -/
theorem not_readable_emptyArray {size : Nat} (hsize : 0 < size) :
    ¬ Readable (emptyArray : ArrayFromJava UInt8).data size := by
  intro hread
  have hle : size ≤ 0 := hread [] rfl
  omega

/-- An empty public key, which is not null, on a live instance: the assertion stops the call. -/
theorem guarded_shortKey :
    ¬ Readable (emptyArray : ArrayFromJava UInt8).data publicKeySize ∧
      (∃ p, oneInstance.status 1 = .live p) ∧
      (Request.toxFriendByPublicKey 1 emptyArray).Guarded succeeds oneInstance :=
  ⟨not_readable_emptyArray (by decide), ⟨_, oneInstance_live⟩,
    (guarded_iff succeeds oneInstance_reachable (.toxFriendByPublicKey 1 emptyArray)).mpr id⟩

/-- Empty arrays reach `tox_get_salt`, `tox_file_send` and `tox4j_friend_request_cb`. -/
theorem not_guarded :
    ¬ (Request.toxGetSalt emptyArray).Guarded succeeds oneInstance ∧
    ¬ (Request.toxFileSend 1 0 0 123 emptyArray emptyArray).Guarded succeeds oneInstance ∧
    ¬ (Request.invokeFriendRequest 1 emptyArray emptyArray).Guarded succeeds oneInstance := by
  rw [guarded_toxGetSalt_iff, guarded_toxFileSend_iff succeeds oneInstance_reachable,
    guarded_invokeFriendRequest_iff succeeds oneInstance_reachable, not_not, not_not]
  exact ⟨not_readable_emptyArray (by decide),
    ⟨⟨_, oneInstance_live⟩, not_readable_emptyArray (by decide)⟩,
    ⟨_, oneInstance_live⟩, not_readable_emptyArray (by decide)⟩

end Tox4j.Native
