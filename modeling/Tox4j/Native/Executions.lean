import Tox4j.Native.Isolation
import Tox4j.Native.Linearization

/-!
# `Tox4j.Native.Executions`: calls from Java on many threads

`Tox4j.Native.Sessions` runs the calls of `ToxCoreJni` one at a time. Here each thread of Java
makes its own calls, and the steps of all threads are interleaved. The steps on the manager are
those of `Tox4j.Native.Threads`. `func` is not one step: it reads the `Tox` and the events of the
instance (`fetch`), and writes them back later (`store`). Other threads run in between.

`toxNew` makes the `Tox` and the `Events` before it calls `add`, outside of every mutex. A request
that never reaches the manager shares nothing with other calls, so it is not a step here:
`managerCall?` is `none` for a `toxNew` that throws, and for a request that ends the process.
-/

set_option autoImplicit false

namespace Tox4j.Native

open Tox4j.Events (Codec)
open Tox4j.Events.Core (CoreEvents)
open Tox4j.Lib
open InstanceManager (Call Result)

/-- The call without the pointers that it hands over. -/
def InstanceManager.Call.unnamed {Object Events : Type} : Call Object Events → Call Unit Unit
  | .add _ _ => .add () ()
  | .kill n => .kill n
  | .finalize n => .finalize n
  | .withInstance n => .withInstance n

namespace CoreRequest

variable {T : Type} (codec : Codec CoreEvents) (api : ToxApi T)

/-- The `Tox` that the request makes. -/
def madeTox? : CoreRequest → Option T
  | .toxNew arguments => newTox? api arguments
  | _ => none

/-- The call of the manager that the request leads to. -/
def managerCall? : CoreRequest → Option (Call Unit Unit)
  | .toxNew arguments => (newTox? api arguments).map fun _ => .add () ()
  | .toxKill n => some (.kill n)
  | .toxFinalize n => some (.finalize n)
  | .onInstance request =>
    match request.call codec api with
    | .ok c => some (.withInstance c.instanceNumber)
    | .error _ => none

/-- What Java gets back, given what the manager did, when no `func` ran. -/
def answer {Object Events : Type} (result : Result Object Events) : CoreRequest → Reply
  | .toxNew _ => ⟨.int (result.returned.getD 0), result.thrown⟩
  | .toxKill _ | .toxFinalize _ => ⟨.void, result.thrown⟩
  | .onInstance request =>
    match request.call codec api with
    | .ok c => ⟨c.refused, result.thrown⟩
    | .error _ => ⟨.void, result.thrown⟩

end CoreRequest

namespace Threads

/-- A call from Java in progress. `reply` is what `func` returned and threw, once it ran. -/
structure Job (T : Type) where
  op : Nat
  toxcore : ToxApi T
  request : CoreRequest
  reply : Option Reply := none

/-- The threads, the objects that the pointers lead to, and the calls from Java. -/
structure Execution (Tid T : Type) where
  threads : Observed Tid
  toxes : AddId → Option T
  events : AddId → Option CoreEvents
  /-- The objects as the `func` of a thread has read them. -/
  copies : Tid → Option (Session T)
  jobs : Tid → Option (Job T)
  history : List (Action (ToxApi T × CoreRequest) Reply)

/-- What Java gets back from the call, given what the manager did. -/
def Job.answer {T : Type} (codec : Codec CoreEvents) (job : Job T) (result : Result AddId AddId) :
    Reply :=
  job.reply.getD (job.request.answer codec job.toxcore result)

variable {Tid T : Type} [DecidableEq Tid]

namespace Execution

/-- Before the first call. -/
def initial : Execution Tid T :=
  ⟨.initial, fun _ => none, fun _ => none, fun _ => none, fun _ => none, []⟩

/-- The thread `t` starts a call, which leads to the call `c` of the manager. -/
def call (x : Execution Tid T) (t : Tid) (toxcore : ToxApi T) (request : CoreRequest)
    (c : Call Unit Unit) : Execution Tid T :=
  let adds := x.threads.state.shared.adds
  { x with
    threads := x.threads.call t c
    toxes :=
      match request.madeTox? toxcore with
      | some tox => Function.update x.toxes adds (some tox)
      | none => x.toxes
    events :=
      match request.madeTox? toxcore with
      | some _ => Function.update x.events adds (some {})
      | none => x.events
    jobs := Function.update x.jobs t (some ⟨x.threads.calls, toxcore, request, none⟩)
    history := x.history ++ [.invoke x.threads.calls (toxcore, request)] }

/-- The call of the thread `t` takes a step in the manager, or returns. -/
def advance (codec : Codec CoreEvents) (x : Execution Tid T) (t : Tid) (f : Frame)
    (pr : Progress) (job : Job T) (shared : Shared) (r : Option Frame) : Execution Tid T :=
  let result := f.observe x.threads.state.shared shared pr.result
  { x with
    threads := x.threads.advance t [] f pr shared r
    jobs := Function.update x.jobs t (r.map fun _ => job)
    history := x.history ++ if r = none then [.respond job.op (job.answer codec result)] else [] }

/-- The `func` of the thread `t` reads its objects. -/
def fetch (x : Execution Tid T) (t : Tid) (session : Session T) : Execution Tid T :=
  { x with copies := Function.update x.copies t (some session) }

/-- The `func` of the thread `t` writes its objects, and returns. -/
def store (x : Execution Tid T) (t : Tid) (n : Jint) (object events : AddId) (pr : Progress)
    (job : Job T) (reply : Reply) (after : Session T) : Execution Tid T :=
  { x with
    threads := x.threads.advance t [] (.withFunc n object events) pr x.threads.state.shared
      (some (.withUnlockSlot n))
    toxes := Function.update x.toxes object (some after.tox)
    events := Function.update x.events events (some after.events)
    copies := Function.update x.copies t none
    jobs := Function.update x.jobs t (some { job with reply := some reply }) }

end Execution

/-- A step of a thread. -/
inductive ExecutionStep (codec : Codec CoreEvents) (x : Execution Tid T) (t : Tid) :
    Execution Tid T → Prop
  | call {c : Call Unit Unit} (toxcore : ToxApi T) (request : CoreRequest)
      (hidle : x.threads.state.stack t = [])
      (hcall : request.managerCall? codec toxcore = some c) :
      ExecutionStep codec x t (x.call t toxcore request c)
  | advance {f : Frame} {pr : Progress} {job : Job T} {shared : Shared} {r : Option Frame}
      (hstack : x.threads.state.stack t = [f])
      (hfunc : ∀ n object events, f ≠ .withFunc n object events)
      (hprogress : x.threads.progress (t, 0) = some pr) (hjob : x.jobs t = some job)
      (h : (shared, r) ∈ x.threads.state.shared.advance f) :
      ExecutionStep codec x t (x.advance codec t f pr job shared r)
  | fetch {n : Jint} {object events : AddId} {tox : T} {queue : CoreEvents}
      (hstack : x.threads.state.stack t = [.withFunc n object events])
      (hcopy : x.copies t = none) (htox : x.toxes object = some tox)
      (hevents : x.events events = some queue) :
      ExecutionStep codec x t (x.fetch t ⟨tox, queue⟩)
  | store {n : Jint} {object events : AddId} {pr : Progress} {job : Job T}
      {request : InstanceRequest} {c : InstanceCall T JavaValue} {session after : Session T}
      {value : JavaValue} {env : JNIEnv}
      (hstack : x.threads.state.stack t = [.withFunc n object events])
      (hprogress : x.threads.progress (t, 0) = some pr) (hjob : x.jobs t = some job)
      (hcopy : x.copies t = some session) (hrequest : job.request = .onInstance request)
      (hcall : request.call codec job.toxcore = .ok c)
      (hfunc : c.func ⟨[]⟩ session = .ok (value, env, after)) :
      ExecutionStep codec x t (x.store t n object events pr job ⟨value, env.thrown⟩ after)

/-- The system of all interleavings of calls from Java. A label is the thread that takes the
step. -/
def executions (T : Type) (codec : Codec CoreEvents) : System (Execution Tid T) Tid where
  init x := x = .initial
  step x t x' := ExecutionStep codec x t x'

/-- The threads of an execution are threads of the manager. -/
theorem observed_of_execution {codec : Codec CoreEvents} {x : Execution Tid T}
    (h : (executions T codec).Reachable x) : observed.Reachable x.threads := by
  refine h.invariant (I := fun x => observed.Reachable x.threads) ?_ ?_
  · rintro x rfl
    exact ⟨[], .init rfl⟩
  · rintro x t x' ⟨ts, run⟩ hstep
    cases hstep with
    | call toxcore request hidle hcall => exact ⟨_, run.step (l := t) (.call _ (.inl hidle))⟩
    | advance hstack hfunc hprogress hjob hadv =>
        exact ⟨_, run.step (l := t) (.advance hstack hprogress hadv)⟩
    | fetch hstack hcopy htox hevents => exact ⟨ts, run⟩
    | store hstack hprogress hjob hcopy hrequest hcall hfunc =>
        exact ⟨_, run.step (l := t)
          (.advance hstack hprogress (by simp [Shared.advance]))⟩

end Threads

end Tox4j.Native
