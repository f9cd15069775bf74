import Tox4j.Lib.RecursiveMutex
import Tox4j.Lib.Waiting
import Tox4j.Native.ThreadLocks

/-!
# `Tox4j.Native.Calls`: the native calls as threads

The calls of the native layer with all the mutexes they take: the mutex of the manager of
the core instances and that of the AV instances, the mutex of each instance, and the
recursive mutex of the call log. The member functions of the two managers are those of
`Tox4j.Native.Threads`, point by point.

A `LogEntry` locks the mutex of the log in its constructor and keeps it for its lifetime.
The log is enabled and not full, so every entry is granted. The tox function runs within
the lifetime of its entry. It may run callbacks, each with an entry of its own: they lock
the mutex again, which is recursive. `toxNew` and `toxavNew` call `add` within the lifetime
of the entry of `tox_new` and `toxav_new`.

`Activity` has the points of the code that a thread can be at, and `Activity.next` the steps
from each. A thread that waits for a mutex has no step. `calls` is the system of all
interleavings.
-/

set_option autoImplicit false

namespace Tox4j.Native.Calls

open Tox4j.Lib (System RecursiveMutex)
open Threads (Shared Frame AddId)

/-- The two instance managers, `core::instances` and `av::instances`. -/
inductive Kind
  | core
  | av
  deriving DecidableEq, Repr

/-- The mutexes of the native layer. -/
inductive MutexId
  | log
  | manager (k : Kind)
  | slot (k : Kind) (i : Nat)
  deriving DecidableEq, Repr

/-- The memory that the threads share. `log` is the mutex of the log. -/
structure Memory (Tid : Type) where
  core : Shared
  av : Shared
  log : RecursiveMutex Tid
  deriving DecidableEq, Repr

namespace Memory

variable {Tid : Type}

/-- The memory at the start. -/
def initial : Memory Tid := ⟨.initial, .initial, .free⟩

/-- The memory of a manager. -/
def shared (m : Memory Tid) : Kind → Shared
  | .core => m.core
  | .av => m.av

/-- Write the memory of a manager. -/
def setShared (m : Memory Tid) (k : Kind) (s : Shared) : Memory Tid :=
  match k with
  | .core => { m with core := s }
  | .av => { m with av := s }

/-- A write to a manager leaves the mutex of the log. -/
@[simp] theorem setShared_log (m : Memory Tid) (k : Kind) (s : Shared) :
    (m.setShared k s).log = m.log := by
  cases k <;> rfl

/-- A read of the manager that was written. -/
@[simp] theorem shared_setShared_self (m : Memory Tid) (k : Kind) (s : Shared) :
    (m.setShared k s).shared k = s := by
  cases k <;> rfl

/-- A write to one manager leaves the other one. -/
theorem shared_setShared_of_ne (m : Memory Tid) {k k' : Kind} (s : Shared) (h : k' ≠ k) :
    (m.setShared k s).shared k' = m.shared k' := by
  cases k <;> cases k' <;> first | rfl | exact absurd rfl h

/-- Acquire the mutex of the log. -/
def lockLog [DecidableEq Tid] (m : Memory Tid) (t : Tid) : Option (Memory Tid) :=
  (m.log.lock t).map fun log => { m with log }

/-- Release the mutex of the log. -/
def unlockLog (m : Memory Tid) : Memory Tid := { m with log := m.log.unlock }

end Memory

/-- A function that is called with a `LogEntry`. -/
inductive Logged
  /-- A tox function that runs this many callbacks. -/
  | call (callbacks : Nat)
  /-- `tox_new` or `toxav_new`, that succeeds or not. -/
  | new (success : Bool)
  deriving DecidableEq, Repr

/-- A point in the lifetime of a `LogEntry`. -/
inductive Point
  /-- The constructor locks the mutex. -/
  | lock (f : Logged)
  /-- The function runs, with so many callbacks still to run. -/
  | run (f : Logged)
  /-- The entry of a callback locks the mutex again. -/
  | callbackLock (callbacks : Nat)
  /-- The callback runs. -/
  | callback (callbacks : Nat)
  /-- The destructor unlocks the mutex. -/
  | unlock
  deriving DecidableEq, Repr

/-- What follows on a step in the lifetime of a `LogEntry`. -/
inductive Point.Next
  | at (p : Point)
  /-- `success_func` calls `add`. -/
  | add
  | done
  deriving DecidableEq, Repr

/-- The steps in the lifetime of a `LogEntry`. -/
def Point.next {Tid : Type} [DecidableEq Tid] (m : Memory Tid) (t : Tid) :
    Point → List (Memory Tid × Point.Next)
  | .lock f => (m.lockLog t).toList.map (·, .at (.run f))
  | .run (.call 0) => [(m, .at .unlock)]
  | .run (.call (callbacks + 1)) => [(m, .at (.callbackLock callbacks))]
  | .run (.new false) => [(m, .at .unlock)]
  | .run (.new true) => [(m, .add)]
  | .callbackLock callbacks => (m.lockLog t).toList.map (·, .at (.callback callbacks))
  | .callback callbacks => [(m.unlockLog, .at (.run (.call callbacks)))]
  | .unlock => [(m.unlockLog, .done)]

/-- A point in the code of a native call. -/
inductive Activity
  | idle
  /-- `tox4jLastLog` and its like lock the mutex of the log, `more` times again after it. -/
  | logLock (more : Nat)
  | logUnlock (more : Nat)
  /-- `toxNew`, in the lifetime of its entry. -/
  | toxNew (p : Point)
  /-- `toxNew`, in `add`. -/
  | toxNewAdd (f : Frame)
  /-- A member function of a manager. If it runs `func`, these are the entries still to be
  made there, one after the other. -/
  | manager (k : Kind) (f : Frame) (entries : List Logged)
  /-- In `func`, in the lifetime of an entry. -/
  | func (k : Kind) (n : Jint) (object events : AddId) (p : Point) (entries : List Logged)
  /-- In the `func` of `toxavNew`, in `add`. -/
  | toxavNewAdd (n : Jint) (object events : AddId) (f : Frame)
  deriving DecidableEq, Repr

namespace Activity

variable {Tid : Type} [DecidableEq Tid]

/-- The steps from each point. -/
def next (m : Memory Tid) (t : Tid) : Activity → List (Memory Tid × Activity)
  | .idle => []
  | .logLock more => (m.lockLog t).toList.map (·, .logUnlock more)
  | .logUnlock 0 => [(m.unlockLog, .idle)]
  | .logUnlock (more + 1) => [(m.unlockLog, .logLock more)]
  | .toxNew p => (p.next m t).map fun
    | (m', .at p') => (m', .toxNew p')
    -- `add` hands over a new pair.
    | (m', .add) =>
      let (s, f) := (m'.shared .core).start (.add () ())
      (m'.setShared .core s, .toxNewAdd f)
    | (m', .done) => (m', .idle)
  | .toxNewAdd f => ((m.shared .core).advance f).map fun
    | (s, some f') => (m.setShared .core s, .toxNewAdd f')
    | (s, none) => (m.setShared .core s, .toxNew .unlock)
  | .manager k (.withFunc n object events) (entry :: entries) =>
    [(m, .func k n object events (.lock entry) entries)]
  | .manager k f entries => ((m.shared k).advance f).map fun
    | (s, some f') => (m.setShared k s, .manager k f' entries)
    | (s, none) => (m.setShared k s, .idle)
  | .func k n object events p entries => (p.next m t).map fun
    | (m', .at p') => (m', .func k n object events p' entries)
    -- Only the `func` of `toxavNew` gets here.
    | (m', .add) =>
      let (s, f) := (m'.shared .av).start (.add () ())
      (m'.setShared .av s, .toxavNewAdd n object events f)
    | (m', .done) => (m', .manager k (.withFunc n object events) entries)
  | .toxavNewAdd n object events f => ((m.shared .av).advance f).map fun
    | (s, some f') => (m.setShared .av s, .toxavNewAdd n object events f')
    | (s, none) => (m.setShared .av s, .func .core n object events .unlock [])

end Activity

/-- The native calls. -/
inductive NativeCall
  /-- `tox4jGetCurrentLogSize`, `tox4jSetLogFilter`, or `tox4jLastLog`, which locks the mutex
  for `empty` and again for `clear`. -/
  | log (more : Nat)
  | toxNew (success : Bool)
  | toxavNew (toxInstanceNumber : Jint) (success : Bool)
  | kill (k : Kind) (instanceNumber : Jint)
  | finalize (k : Kind) (instanceNumber : Jint)
  /-- Any other call on an instance. Each of the entries made by `func` runs so many
  callbacks. -/
  | withInstance (k : Kind) (instanceNumber : Jint) (callbacks : List Nat)
  deriving DecidableEq, Repr

/-- Where each call starts. -/
def NativeCall.start : NativeCall → Activity
  | .log more => .logLock more
  | .toxNew success => .toxNew (.lock (.new success))
  | .toxavNew n success => .manager .core (.withLock n) [.new success]
  | .kill k n => .manager k (.killLock n) []
  | .finalize k n => .manager k (.finalizeLock n) []
  | .withInstance k n callbacks => .manager k (.withLock n) (callbacks.map .call)

/-- The state of the process. -/
structure State (Tid : Type) where
  memory : Memory Tid
  activity : Tid → Activity

variable {Tid : Type} [DecidableEq Tid]

/-- No thread is in a call. -/
def State.initial : State Tid := ⟨.initial, fun _ => .idle⟩

/-- A step of a thread: it starts a call, or goes on with it. -/
inductive Step (s : State Tid) (t : Tid) : State Tid → Prop
  | call (c : NativeCall) (h : s.activity t = .idle) :
      Step s t ⟨s.memory, Function.update s.activity t c.start⟩
  | advance {m : Memory Tid} {a : Activity} (h : (m, a) ∈ (s.activity t).next s.memory t) :
      Step s t ⟨m, Function.update s.activity t a⟩

/-- The system of all interleavings. A label is the thread that takes the step. -/
def calls : System (State Tid) Tid where
  init s := s = .initial
  step s t s' := Step s t s'

end Tox4j.Native.Calls
