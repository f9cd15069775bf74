import Tox4j.Native.Aborts

/-!
# `Tox4j.Native.Deliveries`: each instance delivers its own events

`Tox4j.Events.Iterate` is about the queue of one instance. Here all instances of a process share
one manager and one memory, and their numbers are used again. `eventCalls` reads from the calls of
Java what happened to the queue of one number since its `toxNew`: the events that Java asked for
with an `invoke` method, and the calls of `toxIterate` with the callbacks that toxcore made and the
array that Java got back.

`deliveries_of_run` proves that these are a run of one queue. So every event is in exactly one array
of its own instance, or waits in its queue. No event reaches another instance, nor a later instance
with the same number.

The law is about messages that Java can get (`ArraysFit`). A message of at least `2 ^ 31` bytes
mostly ends the process, but the size of a vector is cut to 32 bits on its way, so a message of
`2 ^ 32` bytes or more may become a shorter array without the events.
-/

set_option autoImplicit false

namespace Tox4j.Native

open Tox4j.Events (Bytes Codec ExactlyOnce Label WireSize history raised)
open Tox4j.Events.Core (CoreCallback CoreEvents CoreKind IteratePasses coreQueue)
open Tox4j.Lib

/-- The event that Java asks for. An enumerator that does not exist is no event. -/
def InstanceRequest.invoked : InstanceRequest → Option CoreCallback
  | invokeSelfConnectionStatus _ connectionStatus =>
    (connectionOf connectionStatus).toOption.map .selfConnectionStatus
  | invokeFileRecvControl _ friendNumber fileNumber control =>
    (fileControlOf control).toOption.map
      (.fileRecvControl friendNumber.toUInt32 fileNumber.toUInt32)
  | invokeFileRecv _ friendNumber fileNumber kind fileSize filename =>
    some (.fileRecv friendNumber.toUInt32 fileNumber.toUInt32 kind.toUInt32 fileSize.toUInt64
      (ToxCoreJni.bytesOf filename))
  | invokeFileRecvChunk _ friendNumber fileNumber position data =>
    some (.fileRecvChunk friendNumber.toUInt32 fileNumber.toUInt32 position.toUInt64
      (ToxCoreJni.bytesOf data))
  | invokeFileChunkRequest _ friendNumber fileNumber position length =>
    some (.fileChunkRequest friendNumber.toUInt32 fileNumber.toUInt32 position.toUInt64
      (sizeT length))
  | invokeFriendConnectionStatus _ friendNumber connectionStatus =>
    (connectionOf connectionStatus).toOption.map (.friendConnectionStatus friendNumber.toUInt32)
  | invokeFriendLosslessPacket _ friendNumber data =>
    some (.friendLosslessPacket friendNumber.toUInt32 (ToxCoreJni.bytesOf data))
  | invokeFriendLossyPacket _ friendNumber data =>
    some (.friendLossyPacket friendNumber.toUInt32 (ToxCoreJni.bytesOf data))
  | invokeFriendMessage _ friendNumber type _ message =>
    (messageTypeOf type).toOption.map
      (.friendMessage friendNumber.toUInt32 · (ToxCoreJni.bytesOf message))
  | invokeFriendName _ friendNumber name =>
    some (.friendName friendNumber.toUInt32 (ToxCoreJni.bytesOf name))
  | invokeFriendRequest _ publicKey _ message =>
    some (.friendRequest (ToxCoreJni.bytesOf publicKey) (ToxCoreJni.bytesOf message))
  | invokeFriendStatus _ friendNumber status =>
    (userStatusOf status).toOption.map (.friendStatus friendNumber.toUInt32)
  | invokeFriendStatusMessage _ friendNumber message =>
    some (.friendStatusMessage friendNumber.toUInt32 (ToxCoreJni.bytesOf message))
  | invokeFriendTyping _ friendNumber isTyping =>
    some (.friendTyping friendNumber.toUInt32 isTyping)
  | invokeFriendReadReceipt _ friendNumber messageId =>
    some (.friendReadReceipt friendNumber.toUInt32 messageId.toUInt32)
  | _ => none

section

variable {T : Type}

/-- What a call on an instance means for its queue. `tox` is the state before the call. -/
def eventCall (api : ToxApi T) (tox : T) (reply : Reply) :
    InstanceRequest → List (Label CoreCallback)
  | .toxIterate _ =>
    match reply.value with
    | .byteArray data => [.iterated (api.iterate tox).1 data]
    | _ => []
  | request => request.invoked.toList.map .invoked

/-- The session of the number `n`, and the calls on its queue, after one more call. -/
def eventStep (codec : Codec CoreEvents) (n : Jint)
    (own : Status (Session T) × List (Label CoreCallback)) (l : Turn T) :
    Status (Session T) × List (Label CoreCallback) :=
  (ownStep codec n own.1 l,
    match own.1, l.request with
    | .live session, .onInstance request =>
      match request.call codec l.toxcore with
      | .ok c =>
        if c.instanceNumber = n then own.2 ++ eventCall l.toxcore session.tox l.reply request
        else own.2
      | .error _ => own.2
    | .live _, _ => own.2
    | _, _ => [])

/-- The calls on the queue of the number `n` since its last `toxNew`. -/
def eventCalls (codec : Codec CoreEvents) (ls : List (Turn T)) (n : Jint) :
    List (Label CoreCallback) :=
  (ls.foldl (eventStep codec n) (.free, [])).2

/-- `eventStep` keeps the session that it needs to know, beside the events. -/
theorem fst_foldl_eventStep (codec : Codec CoreEvents) (ls : List (Turn T)) (n : Jint) :
    (ls.foldl (eventStep codec n) (.free, [])).1 = sessionOf codec ls n := by
  induction ls using List.reverseRecOn with
  | nil => rfl
  | append_singleton ls l ih =>
      rw [sessionOf, List.foldl_append, List.foldl_append]
      show ownStep codec n _ l = ownStep codec n _ l
      rw [ih]
      rfl

/-! ### One call -/

variable {R Value : Type} [Inhabited R] [JavaType R] {t : ErrorType} {env env' : JNIEnv}
  {s s' : Session T} {n : Jint} {value : JavaValue}

open ToxInstances

omit [Inhabited R] in
/-- The result of a call as a value of Java, and the session of the call. -/
theorem exists_of_toJavaValue {c : InstanceCall T R}
    (h : c.toJavaValue.func env s = .ok (value, env', s')) :
    ∃ r, c.func env s = .ok (r, env', s') ∧ JavaType.toJavaValue r = value := by
  cases hfunc : c.func env s with
  | error fatal =>
      simp [InstanceCall.toJavaValue, InstanceCall.map, hfunc, bind, Except.bind] at h
  | ok r =>
      obtain ⟨r, env₁, s₁⟩ := r
      simp only [InstanceCall.toJavaValue, InstanceCall.map, hfunc, bind, Except.bind, pure,
        Except.pure, Except.ok.injEq, Prod.mk.injEq] at h
      obtain ⟨hvalue, rfl, rfl⟩ := h
      exact ⟨r, rfl, hvalue⟩

omit [JavaType R] in
/-- A function of toxcore does not touch the queue. -/
theorem events_of_withInstanceErr {successFunc : Value → R}
    {toxFunc : T → (Value × ErrorCode t) × T} {r : R}
    (h : (withInstanceErr n successFunc toxFunc).func env s = .ok (r, env', s')) :
    s'.events = s.events := by
  obtain ⟨a, ha⟩ := t.withErrorHandling_eq env successFunc toxFunc s.tox
  simp only [withInstanceErr, withInstance, ha, bind, Except.bind, pure, Except.pure,
    Except.ok.injEq, Prod.mk.injEq] at h
  rw [← h.2.2]

/-- A call through `with_instance_err` does not touch the events. -/
theorem events_of_err {successFunc : Value → R} {toxFunc : T → (Value × ErrorCode t) × T}
    (h : (withInstanceErr n successFunc toxFunc).toJavaValue.func env s = .ok (value, env', s')) :
    s'.events = s.events := by
  obtain ⟨r, hfunc, -⟩ := exists_of_toJavaValue h
  exact events_of_withInstanceErr hfunc

/-- A call through `with_instance_noerr` does not touch the events. -/
theorem events_of_noerr {toxFunc : T → Except Fatal (R × T)}
    (h : (withInstanceNoerr n toxFunc).toJavaValue.func env s = .ok (value, env', s')) :
    s'.events = s.events := by
  obtain ⟨r, hfunc, -⟩ := exists_of_toJavaValue h
  cases htox : toxFunc s.tox with
  | error fatal => simp [withInstanceNoerr, withInstance, htox, bind, Except.bind] at hfunc
  | ok a =>
      simp only [withInstanceNoerr, withInstance, htox, bind, Except.bind, pure, Except.pure,
        Except.ok.injEq, Prod.mk.injEq] at hfunc
      rw [← hfunc.2.2]

/-- An `invoke` method runs its callback on the queue. -/
theorem events_of_invoke {callback : Except Fatal CoreCallback}
    (h : (ToxCoreJni.invoke n callback).toJavaValue.func env s = .ok (value, env', s')) :
    ∃ cb, callback = .ok cb ∧ coreQueue.run s.events cb = .ok s'.events := by
  obtain ⟨r, hfunc, -⟩ := exists_of_toJavaValue h
  cases callback with
  | error fatal => simp [ToxCoreJni.invoke, withInstance, bind, Except.bind] at hfunc
  | ok cb =>
      simp only [ToxCoreJni.invoke, withInstance, bind, Except.bind, pure, Except.pure, coreQueue,
        Except.ok.injEq, Prod.mk.injEq] at hfunc
      exact ⟨cb, rfl, by rw [← hfunc.2.2]; rfl⟩

/-- `toxIterate` runs the callbacks of toxcore, and returns the array that Java made of the message.
-/
theorem events_of_iterate {api : ToxApi T} {codec : Codec CoreEvents}
    (h : (ToxCoreJni.toxIterate api codec n).toJavaValue.func env s = .ok (value, env', s')) :
    ∃ data array,
      Events.Core.toxIterate codec (api.iterate s.tox).1 s.events = .ok (data, s'.events) ∧
      (data.mapM fun message => toJavaArray (serializedBuffer message)) = .ok array ∧
      value = .byteArray array := by
  obtain ⟨r, hfunc, hvalue⟩ := exists_of_toJavaValue h
  cases hiterate : Events.Core.toxIterate codec (api.iterate s.tox).1 s.events with
  | error fatal =>
      simp [ToxCoreJni.toxIterate, withInstance, hiterate, bind, Except.bind] at hfunc
  | ok a =>
      cases harray : a.1.mapM fun message => toJavaArray (serializedBuffer message) with
      | error fatal =>
          simp [ToxCoreJni.toxIterate, withInstance, hiterate, harray, bind, Except.bind] at hfunc
      | ok array =>
          simp only [ToxCoreJni.toxIterate, withInstance, hiterate, harray, bind, Except.bind, pure,
            Except.pure, Except.ok.injEq, Prod.mk.injEq] at hfunc
          obtain ⟨rfl, -, rfl⟩ := hfunc
          exact ⟨a.1, array, rfl, harray, hvalue.symm⟩

omit [Inhabited R] [JavaType R] in
/-- Java gets a message of fewer than `2 ^ 32` bytes as it is, or the process ends. -/
theorem eq_of_toJavaArray {data array : Option Bytes}
    (harray : (data.mapM fun message => toJavaArray (serializedBuffer message)) = .ok array)
    (hsize : ∀ message, data = some message → message.length < 2 ^ 32) : array = data := by
  cases data with
  | none => exact (Except.ok.inj harray).symm
  | some message =>
      have hlt := hsize message rfl
      have hmade : (serializedBuffer message).length % 2 ^ 32 < 2 ^ 31 := by
        refine toJavaArray_completes_iff.mp ?_
        cases hbuffer : toJavaArray (serializedBuffer message) with
        | error fatal => simp [Option.mapM, hbuffer] at harray
        | ok made => exact ⟨made, rfl⟩
      rw [length_serializedBuffer, Nat.mod_eq_of_lt hlt] at hmade
      have hsame : toJavaArray (serializedBuffer message) = .ok message := by
        rw [serializedBuffer_eq hmade]
        exact toJavaArray_eq hmade
      simp only [Option.mapM, hsame] at harray
      exact (Except.ok.inj harray).symm

/-- `toxFileSend` does not touch the events, although it has a read before the call. -/
theorem events_of_fileSend {api : ToxApi T} {friendNumber kind : Jint} {fileSize : Int64}
    {fileId filename : ArrayFromJava UInt8}
    (h : (ToxCoreJni.toxFileSend api n friendNumber kind fileSize fileId
      filename).toJavaValue.func env s = .ok (value, env', s')) : s'.events = s.events := by
  obtain ⟨r, hfunc, hvalue⟩ := exists_of_toJavaValue h
  -- After the read of the file id this is `with_instance_err`.
  cases hread : fileId.data.mapM fun bytes => ToxCoreJni.readBytes bytes fileIdLength with
  | error fatal =>
      simp [ToxCoreJni.toxFileSend, withInstance, hread, bind, Except.bind] at hfunc
  | ok file =>
      have herr : (withInstanceErr n UInt32.toInt32 (api.fileSend friendNumber.toUInt32
          kind.toUInt32 (if fileSize < 0 then -1 else fileSize).toUInt64 file filename.data
          filename.size)).func env s = .ok (r, env', s') := by
        simpa only [ToxCoreJni.toxFileSend, withInstance, hread, bind, Except.bind] using hfunc
      exact events_of_withInstanceErr herr

/-- No message that the calls of `toxIterate` serialise takes `2 ^ 32` bytes. -/
def ArraysFit (codec : Codec CoreEvents) (calls : List (Label CoreCallback)) : Prop :=
  ∀ batch ∈ (history calls).batches,
    (codec.serializeToArray (coreQueue.encode coreQueue.empty batch)).length < 2 ^ 32

omit [Inhabited R] [JavaType R] in
/-- A call has no batches before those of a longer sequence of calls. -/
theorem ArraysFit.of_append {codec : Codec CoreEvents} {ls ls' : List (Label CoreCallback)}
    (h : ArraysFit codec (ls ++ ls')) : ArraysFit codec ls := by
  intro batch hbatch
  refine h batch ?_
  induction ls' using List.reverseRecOn with
  | nil => rwa [List.append_nil]
  | append_singleton ls' l ih =>
      have hmem := ih fun batch hbatch => h batch ?_
      · rw [← List.append_assoc, Events.history_concat]
        cases l with
        | invoked e => exact hmem
        | iterated cbs data => exact List.mem_append_left _ hmem
      · rw [← List.append_assoc, Events.history_concat]
        cases l with
        | invoked e => exact hbatch
        | iterated cbs data => exact List.mem_append_left _ hbatch

omit [Inhabited R] [JavaType R] in
/-- The message of the next call of `toxIterate` is that of a batch, so it fits. -/
theorem length_of_iterate {codec : Codec CoreEvents} (hcodec : WireSize coreQueue codec)
    {events events' : CoreEvents} {ls : List (Label CoreCallback)} {cbs : List CoreCallback}
    {message : Bytes} {array : Option Bytes}
    (run : (Events.native coreQueue (Events.Core.toxIterate codec)).Run events ls)
    (hiterate : Events.Core.toxIterate codec cbs events = .ok (some message, events'))
    (hfits : ArraysFit codec (ls ++ [.iterated cbs array])) : message.length < 2 ^ 32 := by
  have hkept := (Events.balanced_of_run hcodec run).kept
  rw [hkept] at hiterate
  obtain ⟨hreturns, -⟩ := Events.iterate_encode hcodec hiterate
  rcases hreturns with ⟨-, hnone⟩ | ⟨-, hsome⟩
  · cases hnone
  · obtain rfl := Option.some.inj hsome
    refine hfits _ ?_
    rw [Events.history_concat]
    exact List.mem_append_right _ List.mem_cons_self

/-- The queue of an instance after a call. -/
theorem run_eventCall {api : ToxApi T} {codec : Codec CoreEvents}
    (hcodec : WireSize coreQueue codec) {request : InstanceRequest}
    {c : InstanceCall T JavaValue} (hcall : request.call codec api = .ok c)
    (hfunc : c.func env s = .ok (value, env', s')) (thrown : List JavaException)
    {ls : List (Label CoreCallback)}
    (run : (Events.native coreQueue (Events.Core.toxIterate codec)).Run s.events ls)
    (hfits : ArraysFit codec (ls ++ eventCall api s.tox ⟨value, thrown⟩ request)) :
    (Events.native coreQueue (Events.Core.toxIterate codec)).Run s'.events
      (ls ++ eventCall api s.tox ⟨value, thrown⟩ request) := by
  have hquiet (h : s'.events = s.events) :
      (Events.native coreQueue (Events.Core.toxIterate codec)).Run s'.events (ls ++ []) := by
    rw [h, List.append_nil]
    exact run
  have hinvoke {callback : Except Fatal CoreCallback} {n : Jint} {event : Option CoreCallback}
      (h : (ToxCoreJni.invoke n callback).toJavaValue.func env s = .ok (value, env', s'))
      (hevent : ∀ cb, callback = .ok cb → event = some cb) :
      (Events.native coreQueue (Events.Core.toxIterate codec)).Run s'.events
        (ls ++ event.toList.map .invoked) := by
    obtain ⟨cb, hcb, hrun⟩ := events_of_invoke h
    rw [hevent cb hcb]
    exact run.step hrun
  have henum {E : Type} {ordinal : Except Fatal E} {f : E → CoreCallback} (cb : CoreCallback)
      (h : (ordinal >>= fun e => pure (f e)) = .ok cb) : ordinal.toOption.map f = some cb := by
    cases ordinal with
    | error fatal => cases h
    | ok e =>
        cases h
        rfl
  cases request with
  -- the calls that leave the queue alone
  | toxSelfGetPublicKey | toxSelfGetSecretKey | toxSelfGetAddress | toxSelfGetDhtId
  | toxSelfGetName | toxSelfGetStatusMessage | toxSelfGetFriendList | toxGetSavedata
  | toxIterationInterval | toxSelfGetStatus | toxSelfSetNospam | toxFriendExists
  | toxSelfGetNospam =>
      cases hcall
      exact hquiet (events_of_noerr hfunc)
  | toxSelfSetName | toxSelfSetStatusMessage | toxSelfGetUdpPort | toxSelfGetTcpPort
  | toxFriendSendLossyPacket | toxFriendSendLosslessPacket | toxFileSeek | toxFileSendChunk
  | toxFileGetFileId | toxFriendDelete | toxFriendGetPublicKey | toxSelfSetTyping =>
      cases hcall
      exact hquiet (events_of_err hfunc)
  | toxFileControl | toxFriendAdd | toxFriendAddNorequest | toxFriendByPublicKey
  | toxFriendSendMessage =>
      obtain ⟨a, rfl⟩ := InstanceRequest.exists_of_checked hcall
      exact hquiet (events_of_err hfunc)
  | toxBootstrap | toxAddTcpRelay =>
      simp only [InstanceRequest.call, ToxCoreJni.toxBootstrap, ToxCoreJni.toxAddTcpRelay,
        ToxCoreJni.toxBootstrapLike_eq] at hcall
      obtain ⟨a, rfl⟩ := InstanceRequest.exists_of_checked hcall
      exact hquiet (events_of_err hfunc)
  | toxSelfSetStatus =>
      obtain ⟨a, rfl⟩ := InstanceRequest.exists_of_checked hcall
      exact hquiet (events_of_noerr hfunc)
  | toxFileSend =>
      cases hcall
      exact hquiet (events_of_fileSend hfunc)
  -- the call that empties it
  | toxIterate =>
      cases hcall
      obtain ⟨data, array, hiterate, harray, rfl⟩ := events_of_iterate hfunc
      obtain rfl : array = data := by
        refine eq_of_toJavaArray harray ?_
        rintro message rfl
        exact length_of_iterate hcodec run hiterate hfits
      exact run.step hiterate
  -- the calls that add an event
  | invokeSelfConnectionStatus | invokeFileRecvControl | invokeFriendConnectionStatus
  | invokeFriendMessage | invokeFriendStatus =>
      cases hcall
      exact hinvoke hfunc henum
  | invokeFriendRequest n publicKey timeDelta message =>
      cases hcall
      refine hinvoke hfunc fun cb hcb => ?_
      unfold ToxCoreJni.readBytes at hcb
      split at hcb
      · cases hcb
        rfl
      · cases hcb
  | _ =>
      cases hcall
      refine hinvoke hfunc fun cb hcb => ?_
      cases hcb
      rfl

end

/-! ### Any sequence of calls -/

section

variable {T : Type} {w : World T} {codec : Codec CoreEvents} {ls : List (Turn T)} {n : Jint}
  {s : Session T}

/-- The calls on the queue of a number, after one more call from Java. -/
theorem eventCalls_concat (l : Turn T) :
    eventCalls codec (ls ++ [l]) n
      = (eventStep codec n (sessionOf codec ls n, eventCalls codec ls n) l).2 := by
  rw [eventCalls, List.foldl_append, ← fst_foldl_eventStep]
  rfl

/-- The calls on a queue lead to the events of its session. -/
def Leads (codec : Codec CoreEvents) (own : Status (Session T) × List (Label CoreCallback)) :
    Prop :=
  ∀ s, own.1 = .live s → ArraysFit codec own.2 →
    (Events.native coreQueue (Events.Core.toxIterate codec)).Run s.events own.2

/-- One call, for the session of one number. -/
theorem leads_eventStep (hcodec : WireSize coreQueue codec) {before : Jint → Status (Session T)}
    {calls : List (Label CoreCallback)}
    {l : Turn T} (hreplies : Replies codec before l) (h : Leads codec (before n, calls)) :
    Leads codec (eventStep codec n (before n, calls) l) := by
  obtain ⟨api, request, reply⟩ := l
  intro s hlive hfits
  -- A call that leaves the session alone leaves its queue alone.
  have hsame {s₁ : Session T} (hn : before n = .live s₁) (hs : Status.live s₁ = .live s)
      (hfits : ArraysFit codec calls) :
      (Events.native coreQueue (Events.Core.toxIterate codec)).Run s.events calls := by
    obtain rfl := Status.live.inj hs
    exact h s₁ hn hfits
  cases request with
  | toxNew arguments =>
      cases hnew : newTox? api arguments with
      | none =>
          simp only [eventStep, ownStep, hnew] at hlive hfits ⊢
          rw [hlive] at hfits ⊢
          exact h s hlive hfits
      | some tox =>
          simp only [Replies, hnew] at hreplies
          obtain ⟨k, rfl, -, hfree⟩ := hreplies
          simp only [eventStep, ownStep, hnew] at hlive hfits ⊢
          by_cases hk : k = n
          · -- The queue of a new session is empty, also when the number was used before.
            subst hk
            rw [hfree] at hlive ⊢
            simp only [if_true, Status.live.injEq] at hlive
            subst hlive
            exact .init rfl
          · -- The new session has another number.
            have hne : JavaValue.int k ≠ .int n := fun hc => hk (JavaValue.int.inj hc)
            rw [if_neg hne] at hlive
            rw [hlive] at hfits ⊢
            exact h s hlive hfits
  | toxKill k =>
      simp only [eventStep, ownStep] at hlive hfits ⊢
      cases hn : before n with
      | live s₁ =>
          rw [hn] at hlive
          by_cases hk : k = n
          · simp [hk, Status.destroyed] at hlive
          · rw [if_neg hk] at hlive
            rw [hn] at hfits
            exact hsame hn hlive hfits
      | killed => simp [hn, Status.destroyed] at hlive
      | free => simp [hn, Status.destroyed] at hlive
  | toxFinalize k =>
      simp only [eventStep, ownStep] at hlive hfits ⊢
      cases hn : before n with
      | live s₁ =>
          rw [hn] at hlive
          have hs : Status.live s₁ = .live s := by
            by_cases hk : k = n
            · rwa [if_pos hk] at hlive
            · rwa [if_neg hk] at hlive
          rw [hn] at hfits
          exact hsame hn hs hfits
      | killed =>
          by_cases hk : k = n <;> simp [hn, hk, Status.released] at hlive
      | free =>
          by_cases hk : k = n <;> simp [hn, hk, Status.released] at hlive
  | onInstance request =>
      obtain ⟨c, hcall, hreply⟩ := hreplies
      simp only [eventStep, ownStep, hcall] at hlive hfits ⊢
      by_cases hk : c.instanceNumber = n
      · subst hk
        cases hn : before c.instanceNumber with
        | live s₁ =>
            rw [hn] at hreply hlive
            obtain ⟨env, after, hfunc, hthrown⟩ := hreply
            simp only [if_true, InstanceCall.after, hfunc, Status.live.injEq] at hlive
            subst hlive
            simp only [hn, hcall, if_true] at hfits ⊢
            exact run_eventCall hcodec hcall hfunc reply.thrown (h s₁ hn hfits.of_append) hfits
        | killed => simp [hn, InstanceCall.after] at hlive
        | free => simp [hn, InstanceCall.after] at hlive
      · rw [if_neg hk] at hlive
        rw [hlive] at hfits ⊢
        simp only [hcall, if_neg hk] at hfits ⊢
        exact h s hlive hfits

/-- The calls on the queue of a live number are a run of one queue, and lead to its events. -/
theorem run_eventCalls (hcodec : WireSize coreQueue codec) (run : (sessions codec).Run w ls)
    (n : Jint) :
    Leads codec (sessionOf codec ls n, eventCalls codec ls n) := by
  induction run with
  | init h =>
      intro s hlive
      cases hlive
  | @step w w' ls l run hstep ih =>
      obtain ⟨hsound, hview⟩ := sound_of_run run
      have hreplies := (hsound.step hstep).replies
      rw [hview] at hreplies
      have hleads := leads_eventStep hcodec hreplies ih
      rw [eventCalls_concat]
      have hsession : sessionOf codec (ls ++ [l]) n = ownStep codec n (sessionOf codec ls n) l := by
        rw [sessionOf, List.foldl_append]
        rfl
      rw [hsession]
      exact hleads

/-- Each live instance has delivered its own events once each, or keeps them in its queue. Its
messages are such that Java can make their arrays. -/
theorem deliveries_of_run (hcodec : WireSize coreQueue codec) (run : (sessions codec).Run w ls)
    {n : Jint} {s : Session T} (hn : w.view n = .live s)
    (hfits : ArraysFit codec (eventCalls codec ls n)) :
    ExactlyOnce CoreCallback.kind CoreKind.all (IteratePasses codec) (eventCalls codec ls n) ∧
      s.events = coreQueue.encode coreQueue.empty (history (eventCalls codec ls n)).pending := by
  rw [(sound_of_run run).2] at hn
  have hbalanced : Events.Balanced coreQueue codec s.events (history (eventCalls codec ls n))
      (raised (eventCalls codec ls n)) :=
    Events.balanced_of_run hcodec (run_eventCalls hcodec run n s hn hfits)
  have hkinds (cb : CoreCallback) : cb.kind ∈ CoreKind.all := CoreKind.mem_all cb.kind
  have hpasses (batch : List CoreCallback) (data : Option Bytes)
      (h : Events.Returns coreQueue codec batch data) : IteratePasses codec batch data :=
    Events.Core.iteratePasses_of_returns h
  exact ⟨Events.exactlyOnce_of_balanced CoreKind.nodup_all hkinds hpasses hbalanced,
    hbalanced.kept⟩

/-- Java asks for an event of the first instance while the second one is used. -/
theorem run_shared : ∃ (w : World UInt32) (ls : List (Turn UInt32)),
    (sessions Events.Core.coreCodec).Run w ls ∧ w.view 1 = .live ⟨0, {}⟩ ∧
    ls.map Turn.request =
      [.toxNew plainArguments, .toxNew plainArguments,
        .onInstance (.toxSelfSetNospam 2 9), .onInstance (.invokeFriendReadReceipt 1 5 6),
        .onInstance (.toxIterate 2), .onInstance (.toxIterate 1)] ∧
    (history (eventCalls Events.Core.coreCodec ls 1)).batches
      = [[.friendReadReceipt 5 6, .friendTyping 0 true]] := by
  have h₀ : (sessions Events.Core.coreCodec).Run (.empty : World UInt32) [] := .init rfl
  have h₁ := run_call h₀ nospamOnly (.toxNew plainArguments) rfl (by decide)
  have h₂ := run_call h₁ nospamOnly (.toxNew plainArguments) rfl (by decide)
  have h₃ := run_call h₂ nospamOnly (.onInstance (.toxSelfSetNospam 2 9)) rfl (by decide)
  have h₄ := run_call h₃ nospamOnly (.onInstance (.invokeFriendReadReceipt 1 5 6)) rfl (by decide)
  have h₅ := run_call h₄ nospamOnly (.onInstance (.toxIterate 2)) rfl (by decide)
  have h₆ := run_call h₅ nospamOnly (.onInstance (.toxIterate 1)) rfl (by decide)
  exact ⟨_, _, h₆, rfl, rfl, rfl⟩

/-- What toxcore raises in the second instance is not delivered by the first one. -/
theorem deliveries_shared : ∃ ls : List (Turn UInt32),
    ExactlyOnce CoreCallback.kind CoreKind.all (IteratePasses Events.Core.coreCodec)
      (eventCalls Events.Core.coreCodec ls 1) ∧
    (history (eventCalls Events.Core.coreCodec ls 1)).batches
      = [[.friendReadReceipt 5 6, .friendTyping 0 true]] := by
  obtain ⟨w, ls, run, hlive, -, hbatches⟩ := run_shared
  have hfits : ArraysFit Events.Core.coreCodec (eventCalls Events.Core.coreCodec ls 1) := by
    intro batch hbatch
    rw [hbatches] at hbatch
    obtain rfl := List.mem_singleton.mp hbatch
    decide
  exact ⟨ls, (deliveries_of_run Events.Core.coreCodec_wireSize run hlive hfits).1, hbatches⟩

end

end Tox4j.Native
