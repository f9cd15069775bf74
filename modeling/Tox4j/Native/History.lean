import Tox4j.Lib.Linearizable
import Tox4j.Native.ThreadSafety

/-!
# `Tox4j.Native.History`: the calls of the interleavings and their results

`interleavings` moves the frames of the threads. Here every call in progress also has the
result it has built up so far: the number that `add` returns, the exceptions thrown, the
pair that `func` runs on, and the pair that `kill` destroys. `Frame.observe` says what the
step from each point adds to it. A call that starts and a call that returns are written to
the history, with the arguments and the result.

The observation changes nothing: the states of `observed`, without what was observed, are
the states of `interleavings` (`reachable_of_observed` here, and `observed_of_reachable` in
`Tox4j.Native.Linearization`).
-/

set_option autoImplicit false

namespace Tox4j.Native.Threads

open Tox4j.Lib
open InstanceManager (Call Result)

/-- A call in progress: its number, its arguments, and its result so far. -/
structure Progress where
  op : Nat
  call : Call AddId AddId
  result : Result AddId AddId

/-- The call with the names of the pointers that it hands over. -/
def Shared.named (s : Shared) : Call Unit Unit → Call AddId AddId
  | .add () () => .add s.adds s.adds
  | .kill n => .kill n
  | .finalize n => .finalize n
  | .withInstance n => .withInstance n

/-- The result with the exceptions that `f` throws after those thrown before. -/
def throwing (result : Result AddId AddId) (f : JNIEnv → JNIEnv) : Result AddId AddId :=
  { result with thrown := (f ⟨result.thrown⟩).thrown }

/-- What `with_instance` does with the pointers that `get` read: it runs `func` on them, or
throws when they are null. -/
def told (n : Jint) (object events : Option AddId) (result : Result AddId AddId) :
    Result AddId AddId :=
  match object, events with
  | some object, some events => { result with ran := result.ran ++ [(object, events)] }
  | _, _ => throwing result fun env =>
    if env.exceptionCheck then env else
      throwToxKilledException env n "function called on killed tox instance"

/-- What the step from a point adds to the result of the call. The memory is `s` before the
step and `s'` after it. -/
def Frame.observe (s s' : Shared) (result : Result AddId AddId) : Frame → Result AddId AddId
  | .addEvents n _ => { result with returned := some n }
  | .addEmplace =>
    { result with returned := some (Int32.ofNat s'.manager.instances.length) }
  | .killCheck n | .finalizeCheck n =>
    throwing result fun env => (s.manager.checkInstanceNumber env n true).2
  | .killDestroyEvents _ _ events =>
    { result with destroyed := { result.destroyed with eventsP := events } }
  | .killDestroyObject _ object =>
    { result with destroyed := { result.destroyed with objectP := object } }
  | .finalizeTest n =>
    match s.manager.slot n with
    | .ok ⟨some _, _⟩ => throwing result fun env =>
      throwIllegalStateException env n ("Leaked Tox instance #" ++ toString n)
    | _ => result
  | .withCheck n =>
    throwing result fun env => (s.manager.checkInstanceNumber env n false).2
  | .withTest n object events => told n object events result
  | _ => result

/-- The threads, with the calls in progress at their places, and the history. -/
structure Observed (Tid : Type) where
  state : State Tid
  progress : Tid × Nat → Option Progress
  /-- The number of calls that have started. -/
  calls : Nat
  history : List (Action (Call AddId AddId) (Result AddId AddId))

variable {Tid : Type} [DecidableEq Tid]

namespace Observed

/-- Before the first call. -/
def initial : Observed Tid := ⟨.initial, fun _ => none, 0, []⟩

/-- The thread `t` starts a call. -/
def call (o : Observed Tid) (t : Tid) (c : Call Unit Unit) : Observed Tid where
  state := o.state.call t c
  progress := Function.update o.progress (t, (o.state.stack t).length)
    (some ⟨o.calls, o.state.shared.named c, {}⟩)
  calls := o.calls + 1
  history := o.history ++ [.invoke o.calls (o.state.shared.named c)]

/-- The innermost call of the thread `t`, above the frames `rest`, takes a step from the
point `f`, or returns. -/
def advance (o : Observed Tid) (t : Tid) (rest : List Frame) (f : Frame) (pr : Progress)
    (shared : Shared) (r : Option Frame) : Observed Tid :=
  let result := f.observe o.state.shared shared pr.result
  { state := ⟨shared, Function.update o.state.stack t (rest ++ r.toList)⟩
    progress := Function.update o.progress (t, rest.length)
      (r.map fun _ => { pr with result := result })
    calls := o.calls
    history := o.history ++ if r = none then [.respond pr.op result] else [] }

end Observed

/-- A step of a thread, observed. -/
inductive ObservedStep (o : Observed Tid) (t : Tid) : Observed Tid → Prop
  | call (c : Call Unit Unit) (h : o.state.MayCall t) : ObservedStep o t (o.call t c)
  | advance {rest : List Frame} {f : Frame} {pr : Progress} {shared : Shared}
      {r : Option Frame} (hstack : o.state.stack t = rest ++ [f])
      (hprogress : o.progress (t, rest.length) = some pr)
      (h : (shared, r) ∈ o.state.shared.advance f) :
      ObservedStep o t (o.advance t rest f pr shared r)

/-- The system of all interleavings, observed. A label is the thread that takes the step. -/
def observed : System (Observed Tid) Tid where
  init o := o = .initial
  step o t o' := ObservedStep o t o'

/-- An observed run is a run of the threads. -/
theorem reachable_of_observed {o : Observed Tid} (h : observed.Reachable o) :
    interleavings.Reachable o.state := by
  refine h.invariant (I := fun o => interleavings.Reachable o.state) ?_ ?_
  · rintro o rfl
    exact ⟨[], .init rfl⟩
  · rintro o t o' ⟨ls, run⟩ hstep
    cases hstep with
    | call c hcall => exact ⟨_, run.step (l := t) (.call c hcall)⟩
    | advance hstack _ hadv => exact ⟨_, run.step (l := t) (.advance hstack hadv)⟩

end Tox4j.Native.Threads
