import Tox4j.Native.InstanceManager

/-!
# `Tox4j.Native.Lifecycle`: making and destroying native instances

The entry points `toxNew`, `toxKill` and `toxFinalize` of `ToxCore/lifecycle.cpp`, and
`toxavNew`, `toxavKill` and `toxavFinalize` of `ToxAv/lifecycle.cpp`, over the two global
instance managers `core::instances` and `av::instances`.

A native instance is named after the Kotlin object that it was made for: a `Tox` is a
`CoreRef`, and a `ToxAV` is a `NativeAv`, which also names the `Tox` that it was made on.
Each entry point has the calling object as its first argument. The argument decides
nothing: it is only written to `effects`, the list of what was allocated, destroyed and
put on a freelist, and by which caller.

toxcore and toxav are not part of the repository. What `tox_new` and `toxav_new` return is
the argument `error`. The option record of `toxNew` decides only that, and is left out.
-/

set_option autoImplicit false

namespace Tox4j.Native

/-- A reference to a `ToxCoreImpl` object. -/
abbrev CoreRef := Nat

/-- A reference to a `ToxAvImpl` object. -/
abbrev AvRef := Nat

/-- A native `ToxAV`: the object that it was made for, and the one whose `Tox` it is on. -/
structure NativeAv where
  owner : AvRef
  tox : CoreRef
  deriving DecidableEq, Repr

/-- What a native call allocated, destroyed or put on a freelist. -/
inductive Effect
  | allocatedCore (owner : CoreRef) (instanceNumber : Jint)
  | destroyedCore (caller : CoreRef) (tox : CoreRef)
  | freedCore (caller : CoreRef) (instanceNumber : Jint)
  | allocatedAv (owner : AvRef) (tox : CoreRef) (instanceNumber : Jint)
  | destroyedAv (caller : AvRef) (toxav : NativeAv)
  | freedAv (caller : AvRef) (instanceNumber : Jint)
  deriving DecidableEq, Repr

/-- The global state of the native layer. -/
structure Natives where
  coreInstances : InstanceManager CoreRef CoreRef
  avInstances : InstanceManager NativeAv AvRef
  effects : List Effect
  deriving DecidableEq, Repr

/-! ### Error codes -/

/-- `ErrorHandling`: the meaning of an error code. -/
inductive ErrorHandling
  | unhandled
  | success
  | failure (error : String)
  deriving DecidableEq, Repr

/-- `TOX_ERR_NEW`, with the codes that this version does not know. -/
inductive ToxErrNew
  | ok | loadBadFormat | loadEncrypted | malloc | null | portAlloc | proxyBadHost
  | proxyBadPort | proxyBadType | proxyNotFound
  | unknown (code : Jint)
  deriving DecidableEq, Repr

/-- `TOXAV_ERR_NEW`, with the codes that this version does not know. -/
inductive ToxavErrNew
  | ok | malloc | multiple | null
  | unknown (code : Jint)
  deriving DecidableEq, Repr

/-- `handle_error_enum<TOX_ERR_NEW>`. -/
def ToxErrNew.handle : ToxErrNew → ErrorHandling
  | .ok => .success
  | .loadBadFormat => .failure "LOAD_BAD_FORMAT"
  | .loadEncrypted => .failure "LOAD_ENCRYPTED"
  | .malloc => .failure "MALLOC"
  | .null => .failure "NULL"
  | .portAlloc => .failure "PORT_ALLOC"
  | .proxyBadHost => .failure "PROXY_BAD_HOST"
  | .proxyBadPort => .failure "PROXY_BAD_PORT"
  | .proxyBadType => .failure "PROXY_BAD_TYPE"
  | .proxyNotFound => .failure "PROXY_NOT_FOUND"
  | .unknown _ => .unhandled

/-- `handle_error_enum<TOXAV_ERR_NEW>`. -/
def ToxavErrNew.handle : ToxavErrNew → ErrorHandling
  | .ok => .success
  | .malloc => .failure "MALLOC"
  | .multiple => .failure "MULTIPLE"
  | .null => .failure "NULL"
  | .unknown _ => .unhandled

/-- The number of an error code, for the codes that are not known. -/
def ToxErrNew.code : ToxErrNew → Jint
  | .unknown code => code
  | _ => 0

/-- The number of an error code, for the codes that are not known. -/
def ToxavErrNew.code : ToxavErrNew → Jint
  | .unknown code => code
  | _ => 0

/-- `with_error_handling`, after the call of the tox function: its result goes to
`successFunc`, or its error code becomes an exception. The exception class is named by the
subsystem and by the method `New`. -/
def withErrorHandling {Value R σ : Type} [Inhabited R] (moduleName exnPrefix : String)
    (handled : ErrorHandling) (code : Jint) (value : Value) (env : JNIEnv)
    (successFunc : Value → JNIEnv → σ → Except Fatal (R × JNIEnv × σ)) (s : σ) :
    Except Fatal (R × JNIEnv × σ) :=
  match handled with
  | .success => successFunc value env s
  | .failure error => .ok (default, throwToxException env moduleName exnPrefix "New" error, s)
  | .unhandled =>
    .ok (default, throwIllegalStateException env code "Unknown error code", s)

/-! ### The entry points -/

namespace Natives

/-- `toxNew`: `tox_new` returned `error`, and a `Tox` when it is `ok`. -/
def toxNew (self : CoreRef) (error : ToxErrNew) (env : JNIEnv) (natives : Natives) :
    Except Fatal (Jint × JNIEnv × Natives) :=
  withErrorHandling "core" "" error.handle error.code (some self) env
    (fun tox env (natives : Natives) => do
      tox4jAssert tox.isSome "tox != nullptr"
      let (instances, instanceNumber) ← natives.coreInstances.add tox (some self)
      return (instanceNumber, env, { natives with
        coreInstances := instances
        effects := natives.effects ++ [.allocatedCore self instanceNumber] }))
    natives

/-- `toxKill`. -/
def toxKill (self : CoreRef) (instanceNumber : Jint) (env : JNIEnv) (natives : Natives) :
    Except Fatal (Unit × JNIEnv × Natives) := do
  let (instances, env, dying) ← natives.coreInstances.kill env instanceNumber
  return ((), env, { natives with
    coreInstances := instances
    effects := natives.effects ++ dying.objectP.toList.map (.destroyedCore self) })

/-- `toxFinalize`. -/
def toxFinalize (self : CoreRef) (instanceNumber : Jint) (env : JNIEnv) (natives : Natives) :
    Except Fatal (Unit × JNIEnv × Natives) := do
  let (instances, env) ← natives.coreInstances.finalize env instanceNumber
  let freed := instances.freelist.drop natives.coreInstances.freelist.length
  return ((), env, { natives with
    coreInstances := instances
    effects := natives.effects ++ freed.map (.freedCore self) })

/-- `toxavNew`: inside `with_instance` on the core, `toxav_new` returned `error`, and a
`ToxAV` on that core when it is `ok`. -/
def toxavNew (self : AvRef) (toxInstanceNumber : Jint) (error : ToxavErrNew) (env : JNIEnv)
    (natives : Natives) : Except Fatal (Jint × JNIEnv × Natives) :=
  natives.coreInstances.withInstance env toxInstanceNumber
    (fun tox _ env (natives : Natives) =>
      withErrorHandling "av" "av" error.handle error.code (some (⟨self, tox⟩ : NativeAv)) env
        (fun toxav env (natives : Natives) => do
          tox4jAssert toxav.isSome "toxav != nullptr"
          let (instances, instanceNumber) ← natives.avInstances.add toxav (some self)
          return (instanceNumber, env, { natives with
            avInstances := instances
            effects := natives.effects ++ [.allocatedAv self tox instanceNumber] }))
        natives)
    natives

/-- `toxavKill`. -/
def toxavKill (self : AvRef) (instanceNumber : Jint) (env : JNIEnv) (natives : Natives) :
    Except Fatal (Unit × JNIEnv × Natives) := do
  let (instances, env, dying) ← natives.avInstances.kill env instanceNumber
  return ((), env, { natives with
    avInstances := instances
    effects := natives.effects ++ dying.objectP.toList.map (.destroyedAv self) })

/-- `toxavFinalize`. -/
def toxavFinalize (self : AvRef) (instanceNumber : Jint) (env : JNIEnv) (natives : Natives) :
    Except Fatal (Unit × JNIEnv × Natives) := do
  let (instances, env) ← natives.avInstances.finalize env instanceNumber
  let freed := instances.freelist.drop natives.avInstances.freelist.length
  return ((), env, { natives with
    avInstances := instances
    effects := natives.effects ++ freed.map (.freedAv self) })

end Natives

end Tox4j.Native
