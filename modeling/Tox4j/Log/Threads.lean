import Tox4j.Lib.RecursiveMutex
import Tox4j.Lib.Run
import Tox4j.Log.PrintArg

/-!
# `Tox4j.Log.Threads`: the call log under many threads

The lifetime of a `LogEntry`, `tox4jLastLog` and `tox4jSetLogFilter`, split into their steps.
A thread has a stack of frames, the innermost last. While the function of a logged call runs,
it may run callbacks, and they are logged calls on the same thread, to any depth.

`logging maxSize` is the system of all interleavings. A label is the thread that takes the
step with what the history of the log records of it. Such an `Event` names no entry and no
address. `Tox4j.Log.Journal` reads the expected log off the events.

A failed assertion, or an access through a pointer to an entry that is gone, sets `fatal`.
-/

set_option autoImplicit false

namespace Tox4j.Log

open Tox4j.Lib
open Tox4j.Lib.Proto3 (Bytes)
open Tox4j.Native (Jint Fatal)

/-- A native call with a `LogEntry`, and what it will return and when. -/
structure Call where
  func : FuncPointer
  args : List Arg
  /-- The instance number of an `InstanceLogEntry`. -/
  instanceNumber : Option Jint
  result : Arg
  timestamp : Timestamp
  elapsedNanos : UInt32

/-- A point in the lifetime of a `LogEntry`. The name says what is done next. -/
inductive Point
  /-- `new_entry` reads `max_size`. -/
  | maxSize
  | lock
  | sizeCheck
  /-- The log is full. -/
  | unlockFull
  | printFunc (entry : Address)
  | printArgs (entry : Address)
  | setInstanceNumber (entry : Address)
  /-- The function of the call runs. -/
  | running (entry : Option Address)
  | printResult (entry : Address)
  | destroy (entry : Address)
  | unlock

/-- A point in the code of one call to the log. -/
inductive Frame
  | call (c : Call) (p : Point)
  /-- `tox4jLastLog`, in `size`. -/
  | sizeLock
  | size
  | sizeUnlock (empty : Bool)
  /-- `tox4jLastLog`, in `clear`. -/
  | clearLock
  | clear
  | clearUnlock
  /-- `tox4jSetLogFilter`. -/
  | filterLock (filters : List String)
  | filter (filters : List String)
  | filterUnlock

/-- What the history of the log records. -/
inductive Event
  /-- A function gets a name. -/
  | registered (func : FuncPointer) (name : String)
  /-- The filter is replaced. -/
  | filtered (filters : List String)
  /-- `new_entry` grants an entry to the call. -/
  | granted (c : Call)
  /-- The innermost call of the thread looks its name up. -/
  | named
  /-- The innermost call of the thread ends. -/
  | ended

/-- The memory that the threads share. `fetched` has the logs that `tox4jLastLog` returned,
oldest first. -/
structure Shared (Tid : Type) where
  data : LogData
  mutex : RecursiveMutex Tid
  names : FuncNames
  fetched : List (List (JniLogEntry Bytes))
  fatal : Option Fatal

namespace Shared

variable {Tid : Type}

/-- Write the data, unless the computation of it fails. -/
def update (s : Shared Tid) (r : Except Fatal LogData) : Shared Tid :=
  match r with
  | .ok data => { s with data := data }
  | .error e => { s with fatal := some e }

/-- `print_func`. -/
def printFunc (s : Shared Tid) (c : Call) (a : Address) : Shared Tid :=
  s.update (s.data.writeEntry a fun entry => { entry with name := getFuncName s.names c.func })

/-- `print_args`, which adds one argument after the other. -/
def printArgs (s : Shared Tid) (c : Call) (a : Address) : Shared Tid :=
  s.update (s.data.writeEntry a fun entry =>
    { entry with arguments := entry.arguments ++ c.args.map printArg })

/-- `set_instance_number`, in an `InstanceLogEntry`. -/
def setInstanceNumber (s : Shared Tid) (c : Call) (a : Address) : Shared Tid :=
  match c.instanceNumber with
  | some n => s.update (s.data.writeEntry a fun entry =>
      { entry with instanceNumber := n.toUInt32 })
  | none => s

/-- The end of `print_result`. -/
def printResult (s : Shared Tid) (c : Call) (a : Address) : Shared Tid :=
  s.update (s.data.writeEntry a fun entry =>
    { entry with
      timestamp := some c.timestamp
      elapsedNanos := c.elapsedNanos
      result := some (printArg c.result) })

/-- The body of `clear`. -/
def clear (s : Shared Tid) : Shared Tid :=
  match s.data.clear s.names with
  | .ok (data, entries) => { s with data := data, fetched := s.fetched ++ [entries] }
  | .error e => { s with fatal := some e }

end Shared

variable {Tid : Type} [DecidableEq Tid]

/-- A step of the thread `t` from each point: the memory after it, the next point, or `none`
when the call returns, and what is recorded of it. -/
inductive FrameStep (s : Shared Tid) (t : Tid) :
    Frame → Shared Tid → Option Frame → Option Event → Prop
  | disabled {c : Call} (h : s.data.maxSize = 0) :
      FrameStep s t (.call c .maxSize) s (some (.call c (.running none))) none
  | enabled {c : Call} (h : s.data.maxSize ≠ 0) :
      FrameStep s t (.call c .maxSize) s (some (.call c .lock)) none
  | lock {c : Call} {mutex : RecursiveMutex Tid} (h : s.mutex.lock t = some mutex) :
      FrameStep s t (.call c .lock) { s with mutex := mutex } (some (.call c .sizeCheck)) none
  | full {c : Call} (h : s.data.full = true) :
      FrameStep s t (.call c .sizeCheck) s (some (.call c .unlockFull)) none
  /-- The allocator may choose any address that is not in use. -/
  | grant {c : Call} {a : Address} (h : s.data.full = false)
      (hfree : a ∉ s.data.entries.map Cell.address) :
      FrameStep s t (.call c .sizeCheck) { s with data := s.data.addEntry a }
        (some (.call c (.printFunc a))) (some (.granted c))
  | unlockFull {c : Call} :
      FrameStep s t (.call c .unlockFull) { s with mutex := s.mutex.unlock }
        (some (.call c (.running none))) none
  | printFunc {c : Call} {a : Address} :
      FrameStep s t (.call c (.printFunc a)) (s.printFunc c a)
        (some (.call c (.printArgs a))) (some .named)
  | printArgs {c : Call} {a : Address} :
      FrameStep s t (.call c (.printArgs a)) (s.printArgs c a)
        (some (.call c (.setInstanceNumber a))) none
  | setInstanceNumber {c : Call} {a : Address} :
      FrameStep s t (.call c (.setInstanceNumber a)) (s.setInstanceNumber c a)
        (some (.call c (.running (some a)))) none
  | returned {c : Call} {a : Address} :
      FrameStep s t (.call c (.running (some a))) s (some (.call c (.printResult a))) none
  /-- Without an entry nothing is written, and nothing is left to do. -/
  | returnedRefused {c : Call} : FrameStep s t (.call c (.running none)) s none none
  | printResult {c : Call} {a : Address} :
      FrameStep s t (.call c (.printResult a)) (s.printResult c a)
        (some (.call c (.destroy a))) none
  | destroy {c : Call} {a : Address} :
      FrameStep s t (.call c (.destroy a)) (s.update (s.data.destroyEntry a))
        (some (.call c .unlock)) (some .ended)
  | unlock {c : Call} :
      FrameStep s t (.call c .unlock) { s with mutex := s.mutex.unlock } none none
  | sizeLock {mutex : RecursiveMutex Tid} (h : s.mutex.lock t = some mutex) :
      FrameStep s t .sizeLock { s with mutex := mutex } (some .size) none
  | size : FrameStep s t .size s (some (.sizeUnlock (s.data.entries.length == 0))) none
  /-- `tox4jLastLog` returns null when the log is empty. -/
  | sizeUnlockEmpty :
      FrameStep s t (.sizeUnlock true) { s with mutex := s.mutex.unlock } none none
  | sizeUnlock :
      FrameStep s t (.sizeUnlock false) { s with mutex := s.mutex.unlock } (some .clearLock) none
  | clearLock {mutex : RecursiveMutex Tid} (h : s.mutex.lock t = some mutex) :
      FrameStep s t .clearLock { s with mutex := mutex } (some .clear) none
  | clear : FrameStep s t .clear s.clear (some .clearUnlock) none
  | clearUnlock : FrameStep s t .clearUnlock { s with mutex := s.mutex.unlock } none none
  | filterLock {filters : List String} {mutex : RecursiveMutex Tid}
      (h : s.mutex.lock t = some mutex) :
      FrameStep s t (.filterLock filters) { s with mutex := mutex } (some (.filter filters)) none
  | filter {filters : List String} :
      FrameStep s t (.filter filters) { s with data := { s.data with filters := filters } }
        (some .filterUnlock) (some (.filtered filters))
  | filterUnlock : FrameStep s t .filterUnlock { s with mutex := s.mutex.unlock } none none

/-- The state of the process. -/
structure State (Tid : Type) extends Shared Tid where
  stack : Tid → List Frame

namespace State

/-- No call was made yet. -/
def initial (maxSize : Nat) : State Tid where
  data := ⟨maxSize, [], []⟩
  mutex := .free
  names := []
  fetched := []
  fatal := none
  stack _ := []

/-- The state after the thread `t` enters a frame. -/
def enter (s : State Tid) (t : Tid) (f : Frame) : State Tid :=
  { s with stack := Function.update s.stack t (s.stack t ++ [f]) }

/-- The state after the thread `t` moves its innermost frame. -/
def move (s : State Tid) (t : Tid) (shared : Shared Tid) (stack : List Frame) : State Tid :=
  { shared with stack := Function.update s.stack t stack }

end State

/-- A step of the thread `t`. -/
inductive Step (s : State Tid) (t : Tid) : Option Event → State Tid → Prop
  | call (c : Call)
      (h : s.stack t = [] ∨
        ∃ rest outer entry, s.stack t = rest ++ [.call outer (.running entry)]) :
      Step s t none (s.enter t (.call c .maxSize))
  | lastLog (h : s.stack t = []) : Step s t none (s.enter t .sizeLock)
  | setFilter (filters : List String) (h : s.stack t = []) :
      Step s t none (s.enter t (.filterLock filters))
  /-- `register_func`, which the initialisation of a library calls. -/
  | register (func : FuncPointer) (name : String) (hname : IsIdentifier name)
      (hnew : func ∉ s.names.map Prod.fst) :
      Step s t (some (.registered func name)) { s with names := s.names ++ [(func, name)] }
  | advance {rest : List Frame} {f : Frame} {shared : Shared Tid} {r : Option Frame}
      {e : Option Event} (hstack : s.stack t = rest ++ [f])
      (h : FrameStep s.toShared t f shared r e) :
      Step s t e (s.move t shared (rest ++ r.toList))

/-- The system of all interleavings. -/
def logging (maxSize : Nat) : System (State Tid) (Tid × Option Event) where
  init s := s = .initial maxSize
  step s l s' := Step s l.1 l.2 s'

end Tox4j.Log
