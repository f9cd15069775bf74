import Tox4j.Kotlin.Event
import Tox4j.Lib.Run
import Tox4j.Native.Lifecycle

/-!
# `Tox4j.Kotlin.Lifecycle`: the Kotlin objects over the native instances

The classes `ToxCoreImpl` and `ToxAvImpl`, as far as they make, close and finalise native
instances. A `World` has the heap of these objects, the native layer, and what the garbage
collector needs. The constructors, `close` and `finalize` are computations on the world
that may throw. A constructor that throws leaves its object on the heap: the object has the
instance number 0, and a `ToxAvImpl` stays registered with its core.

`System` `lifecycle` has the actions of a program on one thread and of the garbage
collector. The program uses only objects that it holds in `roots`: the fields that refer to
other objects are private. The collector finalises an object once, when it cannot be
reached from the roots.
-/

set_option autoImplicit false

namespace Tox4j.Kotlin

open Tox4j.Lib (System)
open Tox4j.Native

/-- The fields of a `ToxCoreImpl`. A callback is the bound reference `::close` of a
`ToxAvImpl`. -/
structure ToxCoreImpl where
  onCloseCallbacks : Event AvRef
  instanceNumber : Jint

/-- The fields of a `ToxAvImpl`. `onClose` is the index in its `Event.Id`. -/
structure ToxAvImpl where
  tox : CoreRef
  onClose : Int
  instanceNumber : Jint

/-- A reference to an object. -/
inductive Ref
  | core (c : CoreRef)
  | av (a : AvRef)
  deriving DecidableEq, Repr

/-- The state of the process. -/
structure World where
  /-- The number of `ToxCoreImpl` objects made so far. -/
  coreCount : Nat
  cores : CoreRef → ToxCoreImpl
  /-- The number of `ToxAvImpl` objects made so far. -/
  avCount : Nat
  avs : AvRef → ToxAvImpl
  natives : Natives
  /-- The objects that the program holds. -/
  roots : List Ref
  /-- The objects whose finalizer has run. -/
  finalized : List Ref
  /-- The exceptions that the finalizers caught and logged. -/
  logged : List JavaException

/-- A computation of the program. A throw keeps the state. -/
abbrev Java := EStateM Thrown World

namespace World

/-- The world at the start of the process. -/
def initial : World where
  coreCount := 0
  cores _ := ⟨.new, 0⟩
  avCount := 0
  avs _ := ⟨0, Event.invalidIndex, 0⟩
  natives := ⟨.empty, .empty, []⟩
  roots := []
  finalized := []
  logged := []

/-- Replace the callbacks of a core. -/
def setCallbacks (w : World) (c : CoreRef) (event : Event AvRef) : World :=
  { w with cores := Function.update w.cores c { w.cores c with onCloseCallbacks := event } }

/-- Replace the index in the id of an AV object. -/
def setOnClose (w : World) (a : AvRef) (index : Int) : World :=
  { w with avs := Function.update w.avs a { w.avs a with onClose := index } }

/-- Replace the instance number of a core. -/
def setCoreNumber (w : World) (c : CoreRef) (n : Jint) : World :=
  { w with cores := Function.update w.cores c { w.cores c with instanceNumber := n } }

/-- Replace the instance number of an AV object. -/
def setAvNumber (w : World) (a : AvRef) (n : Jint) : World :=
  { w with avs := Function.update w.avs a { w.avs a with instanceNumber := n } }

/-- A new `ToxCoreImpl` whose number is not yet assigned. -/
def allocCore (w : World) : World :=
  { w with
    coreCount := w.coreCount + 1
    cores := Function.update w.cores w.coreCount ⟨.new, 0⟩ }

/-- A new `ToxAvImpl` whose id and number are not yet assigned. -/
def allocAv (w : World) (tox : CoreRef) : World :=
  { w with
    avCount := w.avCount + 1
    avs := Function.update w.avs w.avCount ⟨tox, Event.invalidIndex, 0⟩ }

end World

/-- A call of a native method. Its pending exception is thrown when it returns. -/
def jni {α : Type} (native : JNIEnv → Natives → Except Fatal (α × JNIEnv × Natives)) : Java α :=
  fun w =>
    match native ⟨[]⟩ w.natives with
    | .error f => .error (.fatal f) w
    | .ok (a, env, natives) =>
      match env.thrown with
      | [] => .ok a { w with natives := natives }
      | e :: _ => .error (.exception e) { w with natives := natives }

/-- `try { body } catch (e: Throwable) { logger.error(..., e) }`. -/
def logThrowable (body : Java Unit) : Java Unit :=
  fun w =>
    match body w with
    | .error (.exception e) w => .ok () { w with logged := w.logged ++ [e] }
    | r => r

/-! ### `ToxCoreImpl` and `ToxAvImpl` -/

/-- `ToxCoreImpl.addOnCloseCallback`. -/
def ToxCoreImpl.addOnCloseCallback (c : CoreRef) (callback : AvRef) : Java Int := do
  let w ← get
  let (event, id) := (w.cores c).onCloseCallbacks.add callback
  set (w.setCallbacks c event)
  return id

/-- `ToxCoreImpl.removeOnCloseCallback`, with the id of the object `a`. -/
def ToxCoreImpl.removeOnCloseCallback (c : CoreRef) (a : AvRef) : Java Unit := do
  let w ← get
  let (index, result) := (w.cores c).onCloseCallbacks.remove (w.avs a).onClose
  let w := w.setOnClose a index
  match result with
  | .ok event => set (w.setCallbacks c event)
  | .error e =>
    set w
    throw (.exception e)

/-- `ToxAvImpl.close`. -/
def ToxAvImpl.close (a : AvRef) : Java Unit := do
  let w ← get
  ToxCoreImpl.removeOnCloseCallback (w.avs a).tox a
  jni (Natives.toxavKill a (w.avs a).instanceNumber)

/-- `ToxAvImpl.finalize`. -/
def ToxAvImpl.finalize (a : AvRef) : Java Unit := do
  let w ← get
  logThrowable (jni (Natives.toxavFinalize a (w.avs a).instanceNumber))

/-- `ToxCoreImpl.close`. -/
def ToxCoreImpl.close (c : CoreRef) : Java Unit := do
  Event.invoke (fun w : World => (w.cores c).onCloseCallbacks) ToxAvImpl.close
  let w ← get
  jni (Natives.toxKill c (w.cores c).instanceNumber)

/-- `ToxCoreImpl.finalize`. -/
def ToxCoreImpl.finalize (c : CoreRef) : Java Unit :=
  logThrowable do
    ToxCoreImpl.close c
    let w ← get
    jni (Natives.toxFinalize c (w.cores c).instanceNumber)

/-- The constructor of `ToxCoreImpl`. -/
def ToxCoreImpl.init (error : ToxErrNew) : Java CoreRef := do
  let w ← get
  let c := w.coreCount
  set w.allocCore
  let n ← jni (Natives.toxNew c error)
  modify (·.setCoreNumber c n)
  return c

/-- The constructor of `ToxAvImpl`. -/
def ToxAvImpl.init (tox : CoreRef) (error : ToxavErrNew) : Java AvRef := do
  let w ← get
  let a := w.avCount
  set (w.allocAv tox)
  let id ← ToxCoreImpl.addOnCloseCallback tox a
  modify (·.setOnClose a id)
  let n ← jni (Natives.toxavNew a (w.cores tox).instanceNumber error)
  modify (·.setAvNumber a n)
  return a

/-! ### The program and the garbage collector -/

/-- An action of the program or of the garbage collector. -/
inductive Action
  | newCore (error : ToxErrNew)
  | newAv (tox : CoreRef) (error : ToxavErrNew)
  | closeCore (c : CoreRef)
  | closeAv (a : AvRef)
  /-- The program forgets an object. -/
  | drop (x : Ref)
  | finalize (x : Ref)
  deriving DecidableEq, Repr

namespace World

/-- The object exists. -/
def Exists (w : World) : Ref → Prop
  | .core c => c < w.coreCount
  | .av a => a < w.avCount

/-- `x` can be reached from the roots. An AV object refers to its core, and a core to the AV
objects whose callbacks are registered. -/
inductive Reach (w : World) : Ref → Prop
  | root {x : Ref} (h : x ∈ w.roots) : Reach w x
  | tox {a : AvRef} (h : Reach w (.av a)) : Reach w (.core (w.avs a).tox)
  | callback {c : CoreRef} {i : Nat} {a : AvRef} (h : Reach w (.core c))
      (hslot : (w.cores c).onCloseCallbacks.slot i = some a) : Reach w (.av a)

/-- The program holds the object. -/
def hold (w : World) (x : Ref) : World := { w with roots := x :: w.roots }

/-- The finalizer of the object runs. -/
def runFinalizer : Ref → Java Unit
  | .core c => ToxCoreImpl.finalize c
  | .av a => ToxAvImpl.finalize a

/-- The computation of an action. -/
def perform : Action → Java Unit
  | .newCore error => do
    let c ← ToxCoreImpl.init error
    modify (·.hold (.core c))
  | .newAv tox error => do
    let a ← ToxAvImpl.init tox error
    modify (·.hold (.av a))
  | .closeCore c => ToxCoreImpl.close c
  | .closeAv a => ToxAvImpl.close a
  | .drop x => modify fun w => { w with roots := w.roots.filter (· ≠ x) }
  | .finalize x => do
    modify fun w => { w with finalized := x :: w.finalized }
    runFinalizer x

/-- When an action can happen. -/
def Enabled (w : World) : Action → Prop
  | .newCore _ => True
  | .newAv tox _ => .core tox ∈ w.roots
  | .closeCore c => .core c ∈ w.roots
  | .closeAv a => .av a ∈ w.roots
  | .drop _ => True
  | .finalize x => w.Exists x ∧ ¬ w.Reach x ∧ x ∉ w.finalized

/-- Both tables of native instances have fewer than `2 ^ 31` slots. -/
def Fits (w : World) : Prop :=
  w.natives.coreInstances.instances.length < 2 ^ 31 ∧
    w.natives.avInstances.instances.length < 2 ^ 31

instance (w : World) : Decidable w.Fits := inferInstanceAs (Decidable (_ ∧ _))

end World

/-- How an action ended. -/
inductive Ended
  | returned
  | threw (t : Thrown)
  deriving DecidableEq, Repr

/-- The world after a computation, and how it ended. -/
def outcome (r : EStateM.Result Thrown World Unit) : World × Ended :=
  match r with
  | .ok _ w => (w, .returned)
  | .error t w => (w, .threw t)

/-- The system of the program and the garbage collector, on one thread. A label is an action
and how it ended. -/
def lifecycle : System World (Action × Ended) where
  init w := w = World.initial
  step w l w' := w.Enabled l.1 ∧ outcome (World.perform l.1 w) = (w', l.2) ∧ w'.Fits

end Tox4j.Kotlin
