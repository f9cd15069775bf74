import Tox4j.Lib.HandleTable
import Tox4j.Native.ToxCoreJni

/-!
# `Tox4j.Native.Sessions`: all core instances of a process

The state of `core::instances` and of the objects that it owns. The manager keeps pointers, so
`Memory` is a heap for the `Tox` objects and one for the `Events` objects, and a `World` is a
manager with its heaps. `exec` is any call from Java of a native method of `ToxCoreJni`, one call
at a time. A pointer is followed only inside `with_instance`, and the pointers of a killed
instance are deleted. Both end the process when the object is gone.

The second part says what the numbers are for, without pointers. `sessionOf` goes through the
calls and keeps the session of one number: `toxNew` starts it, and only a call with this number
changes it. `Replies` is what a call returns and throws, given the sessions before it.
-/

set_option autoImplicit false

namespace Tox4j.Native

open Tox4j.Events (Codec)
open Tox4j.Events.Core (CoreEvents)
open Tox4j.Lib (Status System)

/-! ### Memory -/

/-- The address of an object. -/
abbrev Address := Nat

/-- The objects that the instances own, and the next address. -/
structure Memory (T : Type) where
  toxes : Address → Option T
  events : Address → Option CoreEvents
  next : Address

/-- `delete`, of a pointer that may be null. -/
def delete {α : Type} (heap : Address → Option α) :
    Option Address → Except Fatal (Address → Option α)
  | none => .ok heap
  | some a => if (heap a).isSome then .ok (Function.update heap a none) else .error .danglingPointer

namespace Memory

variable {T R : Type}

/-- Before the first call. -/
def empty : Memory T := ⟨fun _ => none, fun _ => none, 0⟩

/-- A new `Tox`. -/
def newTox (memory : Memory T) (tox : T) : Memory T × Address :=
  ({ memory with
    toxes := Function.update memory.toxes memory.next (some tox)
    next := memory.next + 1 }, memory.next)

/-- `make_unique<Events>`. -/
def newEvents (memory : Memory T) : Memory T × Address :=
  ({ memory with
    events := Function.update memory.events memory.next (some {})
    next := memory.next + 1 }, memory.next)

/-- The functor of `with_instance` uses the objects behind the two pointers. -/
def access (memory : Memory T) (tox events : Address)
    (func : Session T → Except Fatal (R × JNIEnv × Session T)) :
    Except Fatal (R × JNIEnv × Memory T) :=
  match memory.toxes tox, memory.events events with
  | some toxState, some queue => do
    let (value, env, session) ← func ⟨toxState, queue⟩
    return (value, env, { memory with
      toxes := Function.update memory.toxes tox (some session.tox)
      events := Function.update memory.events events (some session.events) })
  | _, _ => .error .danglingPointer

/-- The destructor of `instance_pointers`. -/
def destroy (memory : Memory T) (dying : InstancePointers Address Address) :
    Except Fatal (Memory T) := do
  let events ← delete memory.events dying.eventsP
  let toxes ← delete memory.toxes dying.objectP
  return { memory with toxes, events }

end Memory

/-! ### Calls from Java -/

/-- `core::instances` and the objects that it owns. -/
structure World (T : Type) where
  instances : InstanceManager Address Address
  memory : Memory T

/-- What Java gets back: the value, and the exceptions that were thrown. -/
structure Reply where
  value : JavaValue
  thrown : List JavaException := []
  deriving DecidableEq, Repr

namespace World

variable {T R : Type}

/-- Before the first call there is no instance and no object. -/
def empty : World T := ⟨.empty, .empty⟩

/-- `toxNew`. -/
def toxNew (api : ToxApi T) (arguments : ToxCoreJni.NewArguments) (env : JNIEnv) (w : World T) :
    Except Fatal (Jint × JNIEnv × World T) :=
  if api.optionsNew then do
    let options ← ToxCoreJni.toxOptions arguments
    let (tox, error) := api.new options
    withErrorHandling "core" "" error.handle error.code tox env
      (fun tox env (w : World T) =>
        match tox with
        | none => .error (.assertion "tox != nullptr")
        | some tox => do
          let (memory, toxP) := w.memory.newTox tox
          let (memory, eventsP) := memory.newEvents
          let (instances, instanceNumber) ← w.instances.add (some toxP) (some eventsP)
          return (instanceNumber, env, ⟨instances, memory⟩))
      w
  else
    .ok (0, throwToxException env "core" "" "New" "MALLOC", w)

/-- `toxKill`. -/
def toxKill (instanceNumber : Jint) (env : JNIEnv) (w : World T) :
    Except Fatal (Unit × JNIEnv × World T) := do
  let (instances, env, dying) ← w.instances.kill env instanceNumber
  let memory ← w.memory.destroy dying
  return ((), env, ⟨instances, memory⟩)

/-- `toxFinalize`. -/
def toxFinalize (instanceNumber : Jint) (env : JNIEnv) (w : World T) :
    Except Fatal (Unit × JNIEnv × World T) := do
  let (instances, env) ← w.instances.finalize env instanceNumber
  return ((), env, { w with instances })

/-- A call on an instance, through the pointers of the manager. -/
def onInstance (c : InstanceCall T R) (env : JNIEnv) (w : World T) :
    Except Fatal (R × JNIEnv × World T) :=
  letI : Inhabited R := ⟨c.refused⟩
  do
    let (value, env, memory) ← w.instances.withInstance env c.instanceNumber
      (fun tox events env (memory : Memory T) => memory.access tox events (c.func env)) w.memory
    return (value, env, { w with memory })

/-- A call from Java, with no exception pending on entry. -/
def exec (codec : Codec CoreEvents) (api : ToxApi T) (w : World T) :
    CoreRequest → Except Fatal (World T × Reply)
  | .toxNew arguments => do
    let (instanceNumber, env, w) ← w.toxNew api arguments ⟨[]⟩
    return (w, ⟨.int instanceNumber, env.thrown⟩)
  | .toxKill instanceNumber => do
    let ((), env, w) ← w.toxKill instanceNumber ⟨[]⟩
    return (w, ⟨.void, env.thrown⟩)
  | .toxFinalize instanceNumber => do
    let ((), env, w) ← w.toxFinalize instanceNumber ⟨[]⟩
    return (w, ⟨.void, env.thrown⟩)
  | .onInstance request => do
    let (value, env, w) ← w.onInstance (← request.call codec api) ⟨[]⟩
    return (w, ⟨value, env.thrown⟩)

end World

/-- A call from Java: what toxcore does in it, the call, and what Java gets back. -/
structure Turn (T : Type) where
  toxcore : ToxApi T
  request : CoreRequest
  reply : Reply

/-- All sequences of calls from Java, with fewer than `2 ^ 31` numbers in use. -/
def sessions {T : Type} (codec : Codec CoreEvents) : System (World T) (Turn T) where
  init w := w = .empty
  step w l w' := w.exec codec l.toxcore l.request = .ok (w', l.reply) ∧
    w'.instances.instances.length < 2 ^ 31

/-! ### Sessions without pointers -/

section

variable {T R : Type} (codec : Codec CoreEvents)

/-- The `Tox` that `toxNew` makes from these arguments, unless it throws or ends the process. -/
def newTox? (api : ToxApi T) (arguments : ToxCoreJni.NewArguments) : Option T :=
  match ToxCoreJni.toxOptions arguments with
  | .ok options =>
    if api.optionsNew ∧ (api.new options).2 = .ok then (api.new options).1 else none
  | .error _ => none

/-- The exception for an error code of `tox_new`. -/
def ToxErrNew.thrown (error : ToxErrNew) : List JavaException :=
  match error.handle with
  | .success => []
  | .failure name => (throwToxException ⟨[]⟩ "core" "" "New" name).thrown
  | .unhandled => (throwIllegalStateException ⟨[]⟩ error.code "Unknown error code").thrown

/-- What `toxNew` throws when it makes no `Tox`. -/
def newThrown (api : ToxApi T) (arguments : ToxCoreJni.NewArguments) : List JavaException :=
  match api.optionsNew, ToxCoreJni.toxOptions arguments with
  | true, .ok options => (api.new options).2.thrown
  | true, .error _ => []
  | false, _ => ToxErrNew.malloc.thrown

/-- A call on the session of its number. It leaves no session when the process ends. -/
def InstanceCall.after (c : InstanceCall T R) : Status (Session T) → Status (Session T)
  | .live session =>
    match c.func ⟨[]⟩ session with
    | .ok (_, _, session) => .live session
    | .error _ => .killed
  | status => status

/-- The session of the number `n` after a call. -/
def ownStep (n : Jint) (status : Status (Session T)) (l : Turn T) : Status (Session T) :=
  match l.request with
  | .toxNew arguments =>
    match newTox? l.toxcore arguments with
    | some tox => if l.reply.value = .int n then .live ⟨tox, {}⟩ else status
    | none => status
  | .toxKill k => if k = n then status.destroyed else status
  | .toxFinalize k => if k = n then status.released else status
  | .onInstance request =>
    match request.call codec l.toxcore with
    | .ok c => if c.instanceNumber = n then c.after status else status
    | .error _ => status

/-- The session of the number `n` after a sequence of calls. -/
def sessionOf (ls : List (Turn T)) (n : Jint) : Status (Session T) :=
  ls.foldl (ownStep codec n) .free

/-- What a call returns and throws, given the sessions of all numbers before it. -/
def Replies (before : Jint → Status (Session T)) (l : Turn T) : Prop :=
  match l.request with
  | .toxNew arguments =>
    match newTox? l.toxcore arguments with
    | some _ => ∃ n, l.reply = ⟨.int n, []⟩ ∧ n ≠ 0 ∧ before n = .free
    | none => l.reply = ⟨.int 0, newThrown l.toxcore arguments⟩
  | .toxKill n =>
    match before n with
    | .free =>
      ∃ message, l.reply =
        ⟨.void, if n = 0 then [] else (throwIllegalStateException ⟨[]⟩ n message).thrown⟩
    | _ => l.reply = ⟨.void, []⟩
  | .toxFinalize n =>
    match before n with
    | .live _ => l.reply = ⟨.void, (throwIllegalStateException ⟨[]⟩ n
        ("Leaked Tox instance #" ++ toString n)).thrown⟩
    | .killed => l.reply = ⟨.void, []⟩
    | .free =>
      ∃ message, l.reply =
        ⟨.void, if n = 0 then [] else (throwIllegalStateException ⟨[]⟩ n message).thrown⟩
  | .onInstance request =>
    ∃ c, request.call codec l.toxcore = .ok c ∧
      match before c.instanceNumber with
      | .live session =>
        ∃ env after, c.func ⟨[]⟩ session = .ok (l.reply.value, env, after) ∧
          l.reply.thrown = env.thrown
      | .killed => l.reply = ⟨c.refused, (throwToxKilledException ⟨[]⟩ c.instanceNumber
          "function called on killed tox instance").thrown⟩
      | .free =>
        ∃ message, l.reply =
          ⟨c.refused, (throwIllegalStateException ⟨[]⟩ c.instanceNumber message).thrown⟩

end

/-! ### A run for examples -/

/-- A toxcore whose instances keep only their nospam value. `tox_iterate` raises one event, about
the friend with that number. -/
def nospamOnly : ToxApi UInt32 where
  optionsNew := true
  new _ := (some 0, .ok)
  iterate tox := ([.friendTyping tox true], tox)
  iterationInterval tox := (50, tox)
  getSavedataSize _ := 0
  getSavedata _ := []
  bootstrap _ _ _ tox := ((true, .ok 0), tox)
  addTcpRelay _ _ _ tox := ((true, .ok 0), tox)
  selfGetUdpPort tox := ((33445, .ok 0), tox)
  selfGetTcpPort tox := ((0, .failure "NOT_BOUND" (by decide)), tox)
  selfGetDhtId _ := []
  selfGetPublicKey _ := []
  selfGetSecretKey _ := []
  selfGetAddress _ := []
  selfSetName _ _ tox := ((true, .ok 0), tox)
  selfGetNameSize _ := 0
  selfGetName _ := []
  selfSetStatusMessage _ _ tox := ((true, .ok 0), tox)
  selfGetStatusMessageSize _ := 0
  selfGetStatusMessage _ := []
  selfSetStatus _ tox := ((), tox)
  selfGetStatus tox := (0, tox)
  selfSetNospam nospam _ := ((), nospam)
  selfGetNospam tox := (tox, tox)
  selfSetTyping _ _ tox := ((true, .ok 0), tox)
  selfGetFriendListSize _ := 0
  selfGetFriendList _ := []
  friendAdd _ _ _ tox := ((0, .ok 0), tox)
  friendAddNorequest _ tox := ((0, .ok 0), tox)
  friendDelete _ tox := ((true, .ok 0), tox)
  friendByPublicKey _ tox := ((0, .ok 0), tox)
  friendExists _ tox := (false, tox)
  friendGetPublicKey _ tox := ((Vector.replicate _ 0, .ok 0), tox)
  friendSendMessage _ _ _ _ tox := ((0, .ok 0), tox)
  friendSendLossyPacket _ _ _ tox := ((true, .ok 0), tox)
  friendSendLosslessPacket _ _ _ tox := ((true, .ok 0), tox)
  fileControl _ _ _ tox := ((true, .ok 0), tox)
  fileSeek _ _ _ tox := ((true, .ok 0), tox)
  fileSend _ _ _ _ _ _ tox := ((0, .ok 0), tox)
  fileSendChunk _ _ _ _ _ tox := ((true, .ok 0), tox)
  fileGetFileId _ _ tox := ((Vector.replicate _ 0, .ok 0), tox)

/-- The arguments of `toxNew` for an instance without a proxy. -/
def plainArguments : ToxCoreJni.NewArguments where
  ipv6Enabled := true
  udpEnabled := true
  localDiscoveryEnabled := true
  proxyType := 0
  proxyHost := none
  proxyPort := 0
  startPort := 33445
  endPort := 33545
  tcpPort := 0
  saveDataType := 0
  saveData := none

/-- Two instances are made, and the number of the second one is used again. -/
def twoInstances : List (Turn UInt32) :=
  [⟨nospamOnly, .toxNew plainArguments, ⟨.int 1, []⟩⟩,
    ⟨nospamOnly, .toxNew plainArguments, ⟨.int 2, []⟩⟩,
    ⟨nospamOnly, .onInstance (.toxSelfSetNospam 1 7), ⟨.void, []⟩⟩,
    ⟨nospamOnly, .onInstance (.toxSelfSetNospam 2 9), ⟨.void, []⟩⟩,
    ⟨nospamOnly, .toxKill 2, ⟨.void, []⟩⟩,
    ⟨nospamOnly, .toxFinalize 2, ⟨.void, []⟩⟩,
    ⟨nospamOnly, .toxNew plainArguments, ⟨.int 2, []⟩⟩,
    ⟨nospamOnly, .onInstance (.toxSelfGetNospam 2), ⟨.int 0, []⟩⟩,
    ⟨nospamOnly, .onInstance (.toxSelfGetNospam 1), ⟨.int 7, []⟩⟩]

end Tox4j.Native
