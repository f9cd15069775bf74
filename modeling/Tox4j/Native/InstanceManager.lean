import Tox4j.Lib.Run
import Tox4j.Native.Jni

/-!
# `Tox4j.Native.InstanceManager`: the table of native instances

The class template `instance_manager` of `util/instance_manager.h`. It keeps a vector of
`instance_pointers`, a deque of mutexes of the same length, and a vector `freelist` of the
instance numbers that `finalize` released. The number of an instance is its index plus one.

Each member function is a Lean function from the manager to the manager. Here a call takes
effect at once: `Tox4j.Native.Threads` splits the same functions into their locking steps.
`with_instance` runs its functor `func` on the caller's state `σ`.

`exec` is one call from outside, and `calls` is the system of all sequences of calls on a
manager that starts empty. Its labels are the calls with their results, so a run carries
the history of the manager.
-/

set_option autoImplicit false

namespace Tox4j.Native

open Tox4j.Lib (System)

/-- `std::mutex`. The functions of this module lock and unlock it before they return. -/
structure Mutex where
  locked : Bool
  deriving DecidableEq, Repr

/-- `instance_pointers`: the two owning pointers of a slot. `none` is the null pointer. -/
structure InstancePointers (Object Events : Type) where
  objectP : Option Object
  eventsP : Option Events
  deriving DecidableEq, Repr

/-- `instance_manager`. -/
structure InstanceManager (Object Events : Type) where
  instances : List (InstancePointers Object Events)
  locks : List Mutex
  /-- The numbers of finalised instances, the most recently finalised at the end. -/
  freelist : List Jint
  deriving DecidableEq, Repr

variable {Object Events : Type}

namespace InstancePointers

/-- A pair of null pointers: a new `instance_pointers`, and one that was moved from. -/
def null : InstancePointers Object Events := ⟨none, none⟩

/-- `operator bool`. The pointers come and go hand in hand. -/
def toBool (p : InstancePointers Object Events) : Except Fatal Bool := do
  tox4jAssert (p.objectP.isNone == p.eventsP.isNone) "!object_p == !events_p"
  return p.objectP.isSome

end InstancePointers

namespace InstanceManager

/-- The default constructor. -/
def empty : InstanceManager Object Events := ⟨[], [], []⟩

/-- The position `instanceNumber - 1` in the lists. The difference becomes a `size_t`, so a
number below 1 is a position past the end of any list. -/
def index? (instanceNumber : Jint) : Option Nat :=
  if 1 ≤ instanceNumber.toInt then some (instanceNumber.toInt - 1).toNat else none

/-- `instances[instanceNumber - 1]`, read. -/
def slot (m : InstanceManager Object Events) (instanceNumber : Jint) :
    Except Fatal (InstancePointers Object Events) :=
  match (index? instanceNumber).bind (m.instances[·]?) with
  | some p => .ok p
  | none => .error .outOfRange

/-- `instances[instanceNumber - 1] = p`. -/
def setSlot (m : InstanceManager Object Events) (instanceNumber : Jint)
    (p : InstancePointers Object Events) : InstanceManager Object Events :=
  match index? instanceNumber with
  | some i => { m with instances := m.instances.set i p }
  | none => m

/-- `check_instance_number`: whether to proceed with the number. An exception is thrown
unless the number is fine, or is 0 and `allowZero` is set. -/
def checkInstanceNumber (m : InstanceManager Object Events) (env : JNIEnv)
    (instanceNumber : Jint) (allowZero : Bool) : Bool × JNIEnv :=
  if instanceNumber < 0 then
    (false, throwIllegalStateException env instanceNumber "instance number out of range")
  else if instanceNumber = 0 then
    (false, if allowZero then env else
      throwIllegalStateException env instanceNumber "function called on null instance")
  else if instanceNumber.toInt.toNat > m.instances.length then
    (false, throwIllegalStateException env instanceNumber "function called on invalid instance")
  else if m.freelist.contains instanceNumber then
    (false, throwIllegalStateException env instanceNumber
      "accessed instance thought to be garbage collected")
  else
    (true, env)

/-- `add`. A number from the end of the freelist is used again. Otherwise the table grows. -/
def add (m : InstanceManager Object Events) (objectP : Option Object) (eventsP : Option Events) :
    Except Fatal (InstanceManager Object Events × Jint) := do
  tox4jAssert objectP.isSome "object_p"
  tox4jAssert eventsP.isSome "events_p"
  let instanceP : InstancePointers Object Events := ⟨objectP, eventsP⟩
  match m.freelist.getLast? with
  | some instanceNumber =>
    tox4jAssert (1 ≤ instanceNumber.toInt) "instanceNumber >= 1"
    let occupied ← (← m.slot instanceNumber).toBool
    tox4jAssert (!occupied) "!instances[instanceNumber - 1]"
    return ({ m with freelist := m.freelist.dropLast }.setSlot instanceNumber instanceP,
      instanceNumber)
  | none =>
    let m := { m with
      instances := m.instances ++ [instanceP]
      locks := m.locks ++ [⟨false⟩] }
    tox4jAssert (m.instances.length == m.locks.length) "instances.size () == locks.size ()"
    return (m, Int32.ofNat m.instances.length)

/-- `kill`. The pair that was moved out of the slot is destroyed. -/
def kill (m : InstanceManager Object Events) (env : JNIEnv) (instanceNumber : Jint) :
    Except Fatal (InstanceManager Object Events × JNIEnv × InstancePointers Object Events) :=
  match m.checkInstanceNumber env instanceNumber true with
  | (false, env) => .ok (m, env, .null)
  | (true, env) => do
    let dying ← m.slot instanceNumber
    return (m.setSlot instanceNumber .null, env, dying)

/-- `finalize`. -/
def finalize (m : InstanceManager Object Events) (env : JNIEnv) (instanceNumber : Jint) :
    Except Fatal (InstanceManager Object Events × JNIEnv) :=
  match m.checkInstanceNumber env instanceNumber true with
  | (false, env) => .ok (m, env)
  | (true, env) => do
    if ← (← m.slot instanceNumber).toBool then
      return (m, throwIllegalStateException env instanceNumber
        ("Leaked Tox instance #" ++ toString instanceNumber))
    tox4jAssert (instanceNumber != 0) "instanceNumber != 0"
    return ({ m with freelist := m.freelist ++ [instanceNumber] }, env)

/-- The pointers that `get` copies out of the slot, or null pointers when the number does
not pass the check. -/
def getLocked (m : InstanceManager Object Events) (env : JNIEnv) (instanceNumber : Jint) :
    Except Fatal (InstancePointers Object Events × JNIEnv) :=
  match m.checkInstanceNumber env instanceNumber false with
  | (false, env) => .ok (.null, env)
  | (true, env) => do return (← m.slot instanceNumber, env)

/-- `with_instance`. `func` acts on the state `σ` of its caller and may throw. Without a live
instance the result is the default value of the return type. -/
def withInstance {σ R : Type} [Inhabited R] (m : InstanceManager Object Events) (env : JNIEnv)
    (instanceNumber : Jint) (func : Object → Events → JNIEnv → σ → Except Fatal (R × JNIEnv × σ))
    (s : σ) : Except Fatal (R × JNIEnv × σ) := do
  let (locked, env) ← m.getLocked env instanceNumber
  tox4jAssert (locked.objectP.isNone == locked.eventsP.isNone) "!object == !events"
  match locked.objectP, locked.eventsP with
  | some object, some events => func object events env s
  | _, _ =>
    let env := if env.exceptionCheck then env else
      throwToxKilledException env instanceNumber "function called on killed tox instance"
    return (default, env, s)

/-! ### Calls from outside -/

/-- A call on the manager. `add` hands over two pointers that are not null. -/
inductive Call (Object Events : Type)
  | add (object : Object) (events : Events)
  | kill (instanceNumber : Jint)
  | finalize (instanceNumber : Jint)
  | withInstance (instanceNumber : Jint)
  deriving DecidableEq, Repr

/-- What a call did: the number that `add` returned, the exceptions thrown, the pairs that
`func` was run on, and the pair that was destroyed. -/
structure Result (Object Events : Type) where
  returned : Option Jint := none
  thrown : List JavaException := []
  ran : List (Object × Events) := []
  destroyed : InstancePointers Object Events := .null
  deriving DecidableEq, Repr

/-- A functor for `with_instance` that records the pair it is run on. -/
def recordRun (object : Object) (events : Events) (env : JNIEnv)
    (ran : List (Object × Events)) : Except Fatal (Unit × JNIEnv × List (Object × Events)) :=
  .ok ((), env, ran ++ [(object, events)])

/-- One call on the manager, with no exception pending on entry. -/
def exec (m : InstanceManager Object Events) :
    Call Object Events → Except Fatal (InstanceManager Object Events × Result Object Events)
  | .add object events => do
    let (m, n) ← m.add (some object) (some events)
    return (m, { returned := some n })
  | .kill n => do
    let (m, env, dying) ← m.kill ⟨[]⟩ n
    return (m, { thrown := env.thrown, destroyed := dying })
  | .finalize n => do
    let (m, env) ← m.finalize ⟨[]⟩ n
    return (m, { thrown := env.thrown })
  | .withInstance n => do
    let ((), env, ran) ← m.withInstance ⟨[]⟩ n recordRun []
    return (m, { thrown := env.thrown, ran := ran })

/-- The system of all sequences of calls on a manager that starts empty and stays below
`2 ^ 31` slots. -/
def calls : System (InstanceManager Object Events) (Call Object Events × Result Object Events) where
  init m := m = empty
  step m l m' := m.exec l.1 = .ok (m', l.2) ∧ m'.instances.length < 2 ^ 31

/-- The numbers of a table that grows, shrinks and grows again: the number that was freed
last is used first. -/
example :
    (do
      let (m, a) ← (empty : InstanceManager Nat Nat).add (some 10) (some 11)
      let (m, b) ← m.add (some 20) (some 21)
      let (m, _, _) ← m.kill ⟨[]⟩ a
      let (m, _, _) ← m.kill ⟨[]⟩ b
      let (m, _) ← m.finalize ⟨[]⟩ a
      let (m, _) ← m.finalize ⟨[]⟩ b
      let (m, c) ← m.add (some 30) (some 31)
      let (_, d) ← m.add (some 40) (some 41)
      return [a, b, c, d]) = (.ok [1, 2, 2, 1] : Except Fatal (List Jint)) :=
  rfl

end InstanceManager

end Tox4j.Native
