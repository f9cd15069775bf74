import Mathlib

/-!
# `Tox4j.Native.Jni`: what the native layer sees of Java

The JNI types and calls that the native code uses, from `jni.h`, `util/exceptions.h` and
`util/exceptions.cpp`. A `jint` is a 32-bit signed integer. An exception has a class and a
message: `throw_exception` appends the instance number to the message (`fullMessage`).

`JNIEnv` keeps every exception that was thrown through it, oldest first, so a statement
can say how many there were. `ExceptionCheck` asks whether there is one.

A failing `tox4j_assert` ends the process (`FatalError`, then `abort`). An access past the
end of a vector, or through a pointer to an object that is gone, has no defined behaviour.
Each of them is a `Fatal`, and a computation that can end in one returns `Except Fatal`.

`toJavaArray` and `serializedBuffer` are the ways from C++ to a Java array. The sizes of both are
narrower than those of a vector, so they are where a result that is too large goes wrong. An
allocation that C++ or Java can make at all is taken to succeed.
-/

set_option autoImplicit false

namespace Tox4j.Native

/-- `jint`. -/
abbrev Jint := Int32

/-- The Java exception classes that the modelled code throws. -/
inductive JavaClass
  /-- `im/tox/tox4j/exceptions/ToxKilledException`. -/
  | toxKilledException
  /-- `java/lang/IllegalStateException`. -/
  | illegalStateException
  /-- `im/tox/tox4j/<module>/exceptions/Tox<prefix><method>Exception`. -/
  | toxException (moduleName exnPrefix methodName : String)
  /-- `java/util/ConcurrentModificationException`. -/
  | concurrentModificationException
  /-- `java/util/NoSuchElementException`. -/
  | noSuchElementException
  /-- `java/lang/IndexOutOfBoundsException`. -/
  | indexOutOfBoundsException
  deriving DecidableEq, Repr

/-- A Java exception: its class and its message. -/
structure JavaException where
  className : JavaClass
  message : String
  deriving DecidableEq, Repr

/-- The exceptions thrown since the native method was entered, oldest first. -/
structure JNIEnv where
  thrown : List JavaException
  deriving DecidableEq, Repr

/-- `ExceptionCheck`: an exception is pending. -/
def JNIEnv.exceptionCheck (env : JNIEnv) : Bool := !env.thrown.isEmpty

/-- `fullMessage`: the message and the instance number. -/
def fullMessage (instanceNumber : Jint) (message : String) : String :=
  message ++ ", instance_number = " ++ toString instanceNumber

/-- `throw_exception`. -/
def throwException (env : JNIEnv) (instanceNumber : Jint) (className : JavaClass)
    (message : String) : JNIEnv :=
  { env with thrown := env.thrown ++ [⟨className, fullMessage instanceNumber message⟩] }

/-- `throw_tox_killed_exception`. -/
def throwToxKilledException (env : JNIEnv) (instanceNumber : Jint) (message : String) : JNIEnv :=
  throwException env instanceNumber .toxKilledException message

/-- `throw_illegal_state_exception`. -/
def throwIllegalStateException (env : JNIEnv) (instanceNumber : Jint) (message : String) :
    JNIEnv :=
  throwException env instanceNumber .illegalStateException message

/-- `throw_tox_exception`: the message stands for the enumerator `code` of the exception. -/
def throwToxException (env : JNIEnv) (moduleName exnPrefix methodName code : String) : JNIEnv :=
  { env with thrown := env.thrown ++ [⟨.toxException moduleName exnPrefix methodName, code⟩] }

/-- The ways in which the native code does not return. -/
inductive Fatal
  /-- A `tox4j_assert` or an `assert` failed, with the text of its condition. -/
  | assertion (condition : String)
  /-- A vector was indexed past its end. -/
  | outOfRange
  /-- A pointer to an object that is gone was used. -/
  | danglingPointer
  /-- A vector was made with more elements than it can have. -/
  | lengthError
  /-- The elements of an array that Java did not make were set. -/
  | nullArray
  deriving DecidableEq, Repr

/-- `tox4j_assert`, and `assert` where the standard library's is used. -/
def tox4jAssert (holds : Bool) (condition : String) : Except Fatal Unit :=
  if holds then .ok () else .error (.assertion condition)

/-- An assertion that holds lets the computation go on, whatever the text of its condition is. The
proofs about a whole entry point remove its checks one by one with this lemma. -/
@[simp] theorem tox4jAssert_true (condition : String) : tox4jAssert true condition = .ok () :=
  rfl

/-! ### Arrays for Java -/

/-- `toJavaArray`: the size of the vector is converted to a `jsize`. For a negative one
`NewByteArray` throws and returns null, and `SetByteArrayRegion` writes to that. -/
def toJavaArray {α : Type} (data : List α) : Except Fatal (List α) :=
  let size := Int32.ofNat data.length
  if size < 0 then .error .nullArray else .ok (data.take size.toInt.toNat)

/-- `SerializeToArray`, into a vector of zeros that has the size of the message. A message of more
than `INT_MAX` bytes is not written. -/
def serializedBuffer (message : List UInt8) : List UInt8 :=
  if message.length < 2 ^ 31 then message else List.replicate message.length 0

section

variable {α : Type} {data : List α}

/-- The size that Java is told is the size of the vector modulo `2 ^ 32`, with a sign. -/
theorem toInt_jsize (n : Nat) : (Int32.ofNat n).toInt = (n : Int).bmod 4294967296 :=
  Int32.toInt_ofNat'

/-- The array has the first elements of the vector, as many as its size modulo `2 ^ 32`. When that
is no size of a Java array there is none, and the process ends. -/
theorem toJavaArray_eq_ite (data : List α) :
    toJavaArray data = if 2 ^ 31 ≤ data.length % 2 ^ 32 then .error .nullArray
      else .ok (data.take (data.length % 2 ^ 32)) := by
  have hsign : Int32.ofNat data.length < 0 ↔ 2 ^ 31 ≤ data.length % 2 ^ 32 := by
    rw [Int32.lt_iff_toInt_lt, toInt_jsize, Int.bmod_def]
    show _ < 0 ↔ _
    split <;> omega
  unfold toJavaArray
  by_cases hlarge : 2 ^ 31 ≤ data.length % 2 ^ 32
  · rw [if_pos (hsign.mpr hlarge), if_pos hlarge]
  · have hsize : (Int32.ofNat data.length).toInt.toNat = data.length % 2 ^ 32 := by
      rw [toInt_jsize, Int.bmod_def]
      split <;> omega
    rw [if_neg (hlarge ∘ hsign.mp), if_neg hlarge, hsize]

/-- Java makes the array exactly when the size that it is told is not negative. -/
theorem toJavaArray_completes_iff :
    (∃ array, toJavaArray data = .ok array) ↔ data.length % 2 ^ 32 < 2 ^ 31 := by
  rw [toJavaArray_eq_ite, ← Nat.not_le]
  split
  · rename_i hlarge
    refine iff_of_false ?_ (not_not.mpr hlarge)
    rintro ⟨array, h⟩
    cases h
  · rename_i hsmall
    exact iff_of_true ⟨_, rfl⟩ hsmall

/-- A vector with fewer than `2 ^ 31` elements becomes an array with the same elements. All results
of a size that Java can hold are of this kind. -/
theorem toJavaArray_eq (h : data.length < 2 ^ 31) : toJavaArray data = .ok data := by
  rw [toJavaArray_eq_ite, Nat.mod_eq_of_lt (by omega), if_neg (by omega), List.take_length]

/-- The buffer has the size of the message, whether the message was written or not. -/
theorem length_serializedBuffer (message : List UInt8) :
    (serializedBuffer message).length = message.length := by
  unfold serializedBuffer
  split
  · rfl
  · exact List.length_replicate

/-- A message of at most `INT_MAX` bytes is in the buffer as it is, and so in the array that Java
gets. -/
theorem serializedBuffer_eq {message : List UInt8} (h : message.length < 2 ^ 31) :
    serializedBuffer message = message :=
  if_pos h

end

end Tox4j.Native
