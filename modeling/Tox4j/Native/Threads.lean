import Tox4j.Lib.Run
import Tox4j.Native.InstanceManager

/-!
# `Tox4j.Native.Threads`: the instance manager under many threads

The member functions of `instance_manager` split into their steps on shared memory: each
acquire and release of a mutex, each read and write of a slot and of the freelist, the move
of each element when the vector grows, the start of each destructor, and the call of
`func`. `Frame` has one constructor for each point between two steps, and `advance` is the
step from each of them.

A thread has a stack of frames, the innermost last. While `func` runs, the thread may call
the manager again, on any number. A call on the slot that the thread holds itself would
lock a mutex twice, which the source does not do. Here such a call waits forever.

The objects and events pointers are named after the `add` that handed them over: `adds`
counts the calls of `add`. `destroyed` has the pairs of which a destructor has started.
-/

set_option autoImplicit false

namespace Tox4j.Native.Threads

open Tox4j.Lib (System)
open InstanceManager (Call)

/-- The `add` that handed over a pair. -/
abbrev AddId := Nat

/-- The pair of pointers in a slot. A pointer is named by the `add` that handed it over. -/
abbrev Pointers := InstancePointers AddId AddId

/-- The memory that the threads share. -/
structure Shared where
  manager : InstanceManager AddId AddId
  mutex : Mutex
  /-- The new buffer of the vector while it grows, with the elements moved so far. -/
  relocated : List Pointers
  adds : AddId
  destroyed : List AddId
  deriving DecidableEq, Repr

/-- A point in the code of a member function. The name says what is done next. -/
inductive Frame
  | addLock (id : AddId)
  | addChoose (id : AddId)
  | addTest (n : Jint) (id : AddId)
  | addObject (n : Jint) (id : AddId)
  | addEvents (n : Jint) (id : AddId)
  | addRelocate (id : AddId)
  | addEmplace
  | addUnlock
  | killLock (n : Jint)
  | killCheck (n : Jint)
  | killLockSlot (n : Jint)
  | killObject (n : Jint)
  | killEvents (n : Jint) (object : Option AddId)
  | killDestroyEvents (n : Jint) (object events : Option AddId)
  | killDestroyObject (n : Jint) (object : Option AddId)
  | killUnlockSlot (n : Jint)
  | killUnlock
  | finalizeLock (n : Jint)
  | finalizeCheck (n : Jint)
  | finalizeTest (n : Jint)
  | finalizePush (n : Jint)
  | finalizeUnlock
  | withLock (n : Jint)
  | withCheck (n : Jint)
  | withRefused
  | withLockSlot (n : Jint)
  | withObject (n : Jint)
  | withEvents (n : Jint) (object : Option AddId)
  | withUnlock (n : Jint) (object events : Option AddId)
  | withTest (n : Jint) (object events : Option AddId)
  /-- `func` runs on the pair. -/
  | withFunc (n : Jint) (object events : AddId)
  | withUnlockSlot (n : Jint)
  deriving DecidableEq, Repr

namespace Shared

/-- The shared memory at the start. -/
def initial : Shared := ⟨.empty, ⟨false⟩, [], 0, []⟩

/-- The elements of the vector. While it grows, the first of them are in the new buffer. -/
def contents (s : Shared) : List Pointers :=
  s.relocated ++ s.manager.instances.drop s.relocated.length

/-- Set the mutex of the manager. -/
def setMutex (s : Shared) (locked : Bool) : Shared := { s with mutex := ⟨locked⟩ }

/-- Set the mutex of the slot at the index `i`. -/
def setLock (s : Shared) (i : Nat) (locked : Bool) : Shared :=
  { s with manager := { s.manager with locks := s.manager.locks.set i ⟨locked⟩ } }

/-- Write a slot. -/
def setSlot (s : Shared) (n : Jint) (p : Pointers) : Shared :=
  { s with manager := s.manager.setSlot n p }

/-- Write the freelist. -/
def setFreelist (s : Shared) (freelist : List Jint) : Shared :=
  { s with manager := { s.manager with freelist := freelist } }

/-- The destructor of a pointer starts. A null pointer has none. -/
def destroy (s : Shared) (pointer : Option AddId) : Shared :=
  { s with destroyed := s.destroyed ++ pointer.toList }

/-- The steps of a thread: the memory after it, and the next point, or `none` when the
function returns. A thread that waits for a mutex has no step. -/
abbrev Steps := List (Shared × Option Frame)

/-- Acquire the mutex of the manager. -/
def lockManager (s : Shared) (f : Frame) : Steps :=
  if s.mutex.locked then [] else [(s.setMutex true, some f)]

/-- Acquire the mutex of a slot. -/
def lockSlot (s : Shared) (n : Jint) (f : Frame) : Steps :=
  match InstanceManager.index? n with
  | some i =>
    if s.manager.locks[i]? = some ⟨false⟩ then [(s.setLock i true, some f)] else []
  | none => []

/-- Release the mutex of a slot. -/
def unlockSlot (s : Shared) (n : Jint) (f : Option Frame) : Steps :=
  match InstanceManager.index? n with
  | some i => [(s.setLock i false, f)]
  | none => []

/-- Read a slot. -/
def readSlot (s : Shared) (n : Jint) (steps : Pointers → Steps) : Steps :=
  match s.manager.slot n with
  | .ok p => steps p
  | .error _ => []

/-- `check_instance_number`. -/
def check (s : Shared) (n : Jint) (allowZero : Bool) (proceed refused : Frame) : Steps :=
  [(s, some (if (s.manager.checkInstanceNumber ⟨[]⟩ n allowZero).1 then proceed else refused))]

/-- One step of each function. A failed assertion ends the process, so it has no step. -/
def advance (s : Shared) : Frame → Steps
  -- add
  | .addLock id => s.lockManager (.addChoose id)
  | .addChoose id =>
    match s.manager.freelist.getLast? with
    | some n => [(s.setFreelist s.manager.freelist.dropLast, some (.addTest n id))]
    | none =>
      -- `push_back` constructs the pair in place, or has to move the elements first.
      [({ s with manager := { s.manager with
          instances := s.manager.instances ++ [⟨some id, some id⟩] } }, some .addEmplace),
        (s, some (.addRelocate id))]
  | .addTest n id => s.readSlot n fun p =>
    match p.toBool with
    | .ok false => if 1 ≤ n.toInt then [(s, some (.addObject n id))] else []
    | _ => []
  | .addObject n id => s.readSlot n fun p =>
    [(s.setSlot n { p with objectP := some id }, some (.addEvents n id))]
  | .addEvents n id => s.readSlot n fun p =>
    [(s.setSlot n { p with eventsP := some id }, some .addUnlock)]
  | .addRelocate id =>
    match s.manager.instances[s.relocated.length]? with
    | some p =>
      [({ s with
          manager := { s.manager with
            instances := s.manager.instances.set s.relocated.length .null }
          relocated := s.relocated ++ [p] }, some (.addRelocate id))]
    | none =>
      [({ s with
          manager := { s.manager with instances := s.relocated ++ [⟨some id, some id⟩] }
          relocated := [] }, some .addEmplace)]
  | .addEmplace =>
    [({ s with manager := { s.manager with locks := s.manager.locks ++ [⟨false⟩] } },
      some .addUnlock)]
  | .addUnlock => [(s.setMutex false, none)]
  -- kill
  | .killLock n => s.lockManager (.killCheck n)
  | .killCheck n => s.check n true (.killLockSlot n) .killUnlock
  | .killLockSlot n => s.lockSlot n (.killObject n)
  | .killObject n => s.readSlot n fun p =>
    [(s.setSlot n { p with objectP := none }, some (.killEvents n p.objectP))]
  | .killEvents n object => s.readSlot n fun p =>
    [(s.setSlot n { p with eventsP := none }, some (.killDestroyEvents n object p.eventsP))]
  -- The members of the dying pair are destroyed in reverse order.
  | .killDestroyEvents n object events =>
    [(s.destroy events, some (.killDestroyObject n object))]
  | .killDestroyObject n object => [(s.destroy object, some (.killUnlockSlot n))]
  | .killUnlockSlot n => s.unlockSlot n (some .killUnlock)
  | .killUnlock => [(s.setMutex false, none)]
  -- finalize
  | .finalizeLock n => s.lockManager (.finalizeCheck n)
  | .finalizeCheck n => s.check n true (.finalizeTest n) .finalizeUnlock
  | .finalizeTest n => s.readSlot n fun p =>
    match p.toBool with
    | .ok true => [(s, some .finalizeUnlock)]
    | .ok false => [(s, some (.finalizePush n))]
    | .error _ => []
  | .finalizePush n =>
    [(s.setFreelist (s.manager.freelist ++ [n]), some .finalizeUnlock)]
  | .finalizeUnlock => [(s.setMutex false, none)]
  -- with_instance
  | .withLock n => s.lockManager (.withCheck n)
  | .withCheck n => s.check n false (.withLockSlot n) .withRefused
  | .withRefused => [(s.setMutex false, none)]
  | .withLockSlot n => s.lockSlot n (.withObject n)
  | .withObject n => s.readSlot n fun p => [(s, some (.withEvents n p.objectP))]
  | .withEvents n object => s.readSlot n fun p => [(s, some (.withUnlock n object p.eventsP))]
  | .withUnlock n object events => [(s.setMutex false, some (.withTest n object events))]
  | .withTest n object events =>
    match object, events with
    | some object, some events => [(s, some (.withFunc n object events))]
    | none, none => [(s, some (.withUnlockSlot n))]
    | _, _ => []
  | .withFunc n _ _ => [(s, some (.withUnlockSlot n))]
  | .withUnlockSlot n => s.unlockSlot n none

/-- The start of a call. Each `add` hands over a new pair. -/
def start (s : Shared) : Call Unit Unit → Shared × Frame
  | .add () () => ({ s with adds := s.adds + 1 }, .addLock s.adds)
  | .kill n => (s, .killLock n)
  | .finalize n => (s, .finalizeLock n)
  | .withInstance n => (s, .withLock n)

/-! ### What the steps do -/

variable {s s' : Shared} {f proceed refused : Frame} {r r' : Option Frame} {n : Jint}

/-- The mutex of the manager can be locked exactly when nobody holds it. -/
theorem mem_lockManager : (s', r) ∈ s.lockManager f ↔
    s.mutex.locked = false ∧ s' = s.setMutex true ∧ r = some f := by
  unfold lockManager
  cases s.mutex.locked <;> simp

/-- The mutex of a slot can be locked exactly when the slot exists and nobody holds it. -/
theorem mem_lockSlot : (s', r) ∈ s.lockSlot n f ↔
    ∃ i, InstanceManager.index? n = some i ∧ s.manager.locks[i]? = some ⟨false⟩ ∧
      s' = s.setLock i true ∧ r = some f := by
  unfold lockSlot
  cases InstanceManager.index? n with
  | some i => simp
  | none => simp

/-- The mutex of a slot that exists can be unlocked. -/
theorem mem_unlockSlot : (s', r) ∈ s.unlockSlot n r' ↔
    ∃ i, InstanceManager.index? n = some i ∧ s' = s.setLock i false ∧ r = r' := by
  unfold unlockSlot
  cases InstanceManager.index? n <;> simp

/-- A read of a slot goes on with what the slot holds, if there is one. -/
theorem mem_readSlot {steps : Pointers → Steps} : (s', r) ∈ s.readSlot n steps ↔
    ∃ p, s.manager.slot n = .ok p ∧ (s', r) ∈ steps p := by
  unfold readSlot
  cases s.manager.slot n <;> simp

/-- The check of the number changes nothing. It decides which frame comes next. -/
theorem mem_check {allowZero : Bool} : (s', r) ∈ s.check n allowZero proceed refused ↔
    s' = s ∧ r = some
      (if (s.manager.checkInstanceNumber ⟨[]⟩ n allowZero).1 then proceed else refused) := by
  simp [check]

end Shared

/-- The state of the process: the shared memory and the stack of each thread. -/
structure State (Tid : Type) where
  shared : Shared
  stack : Tid → List Frame

variable {Tid : Type} [DecidableEq Tid]

namespace State

/-- All threads are outside the manager. -/
def initial : State Tid := ⟨.initial, fun _ => []⟩

/-- The thread may call the manager: it is outside of it, or runs a `func`. -/
def MayCall (s : State Tid) (t : Tid) : Prop :=
  s.stack t = [] ∨ ∃ rest n object events, s.stack t = rest ++ [.withFunc n object events]

/-- The state after the thread `t` started a call. -/
def call (s : State Tid) (t : Tid) (c : Call Unit Unit) : State Tid :=
  ⟨(s.shared.start c).1, Function.update s.stack t (s.stack t ++ [(s.shared.start c).2])⟩

end State

/-- A step of a thread: it starts a call, or its innermost call advances. -/
inductive Step (s : State Tid) (t : Tid) : State Tid → Prop
  | call (c : Call Unit Unit) (h : s.MayCall t) : Step s t (s.call t c)
  | advance {rest : List Frame} {f : Frame} {shared : Shared} {r : Option Frame}
      (hstack : s.stack t = rest ++ [f]) (h : (shared, r) ∈ s.shared.advance f) :
      Step s t ⟨shared, Function.update s.stack t (rest ++ r.toList)⟩

/-- The system of all interleavings. A label is the thread that takes the step. -/
def interleavings : System (State Tid) Tid where
  init s := s = .initial
  step s t s' := Step s t s'

end Tox4j.Native.Threads
