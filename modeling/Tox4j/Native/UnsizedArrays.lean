import Tox4j.Native.Isolation

/-!
# `Tox4j.Native.UnsizedArrays`: the guards of an entry point, and its effect on the session

Seven entry points of `ToxCoreJni` pass an array without its length. `Tox4j.Native.ArrayGuards` has
them as far as their guards go: they end with a list of calls of toxcore. `Tox4j.Native.ToxCoreJni`
has them as calls on a session. This module proves that these are the same functions.

`NativeCall.read` is what a call of the list does with the array: it reads a fixed number of bytes.
`exec_eq_run` says that Java gets the same back from both, where the first one makes the reads of
its calls at the end. The world does not matter, as long as no pointer of its manager dangles.
`exec_completes_iff` says what follows: such a call ends the process when a guard fails, or when it
passes the guards and a read then leaves the array.
-/

set_option autoImplicit false

namespace Tox4j.Native

open Tox4j.Events (Codec)
open Tox4j.Events.Core (CoreEvents coreQueue)
open Tox4j.Lib

/-! ### The same call in both modules -/

/-- The call, if it is one of an entry point that passes an array without its length. `timeDelta`
of `invokeFriendRequest` is not used. -/
def InstanceRequest.toRequest? : InstanceRequest → Option Request
  | toxBootstrap n address port publicKey => some (.toxBootstrap n address port publicKey)
  | toxAddTcpRelay n address port publicKey => some (.toxAddTcpRelay n address port publicKey)
  | toxFriendAdd n address message => some (.toxFriendAdd n address message)
  | toxFriendAddNorequest n publicKey => some (.toxFriendAddNorequest n publicKey)
  | toxFriendByPublicKey n publicKey => some (.toxFriendByPublicKey n publicKey)
  | toxFileSend n friendNumber kind fileSize fileId filename =>
    some (.toxFileSend n friendNumber kind fileSize fileId filename)
  | invokeFriendRequest n publicKey _ message => some (.invokeFriendRequest n publicKey message)
  | _ => none

/-- The value as one of `ToxCoreJni`. -/
def Returned.toJavaValue : Returned → JavaValue
  | void => .void
  | int value => .int value
  | boolean value => .boolean value
  | byteArray value => .byteArray value

/-- The call reads its bytes. toxcore does not read through a null pointer. The callback for friend
requests copies the key without a look at the pointer. -/
def NativeCall.read {Tox : Type} : NativeCall Tox → Except Fatal Unit
  | .friendRequestCb publicKey _ _ => do
    let _ ← ToxCoreJni.readBytes (publicKey.getD []) publicKeySize
  | c => do
    let _ ← c.fixedRead.1.mapM fun bytes => ToxCoreJni.readBytes bytes c.fixedRead.2

/-- What Java gets back from an entry point, after all reads of its calls. -/
def received {Tox : Type} (answer : Answer Tox Returned) : Except Fatal Reply := do
  answer.2.2.forM NativeCall.read
  return ⟨answer.1.toJavaValue, answer.2.1.thrown⟩

section

variable {T Value : Type} {t : ErrorType}

/-- The answer of a function for the object at an address, if there is one. -/
def answerAt (tox : Option T) (function : T → (Value × ErrorCode t) × T)
    (dangling : Value × ErrorCode t) : Value × ErrorCode t :=
  match tox with
  | some tox => (function tox).1
  | none => dangling

/-- The functions of an instance answer as `api` does on the object at the address. The other ones
are those of `toxcore`. -/
def ToxApi.answering (api : ToxApi T) (memory : Memory T) (toxcore : Toxcore Address) :
    Toxcore Address where
  bootstrap c :=
    match c with
    | .toxBootstrap tox host port publicKey =>
      answerAt (memory.toxes tox) (api.bootstrap host port publicKey) (toxcore.bootstrap c)
    | .toxAddTcpRelay tox host port publicKey =>
      answerAt (memory.toxes tox) (api.addTcpRelay host port publicKey) (toxcore.bootstrap c)
    | _ => toxcore.bootstrap c
  friendAdd c :=
    match c with
    | .toxFriendAdd tox address message length =>
      answerAt (memory.toxes tox) (api.friendAdd address message length) (toxcore.friendAdd c)
    | .toxFriendAddNorequest tox publicKey =>
      answerAt (memory.toxes tox) (api.friendAddNorequest publicKey) (toxcore.friendAdd c)
    | _ => toxcore.friendAdd c
  friendByPublicKey c :=
    match c with
    | .toxFriendByPublicKey tox publicKey =>
      answerAt (memory.toxes tox) (api.friendByPublicKey publicKey) (toxcore.friendByPublicKey c)
    | _ => toxcore.friendByPublicKey c
  fileSend c :=
    match c with
    | .toxFileSend tox friendNumber kind fileSize fileId filename length =>
      answerAt (memory.toxes tox)
        (api.fileSend friendNumber kind fileSize fileId filename length) (toxcore.fileSend c)
    | _ => toxcore.fileSend c
  getSalt := toxcore.getSalt
  isDataEncrypted := toxcore.isDataEncrypted
  passKeyDeriveWithSalt := toxcore.passKeyDeriveWithSalt
  passKeyDecrypt := toxcore.passKeyDecrypt
  passKeyEncrypt := toxcore.passKeyEncrypt

end

/-! ### `with_instance`, once with pointers and once with a session -/

/-- Two functors that lead to the same result on the pair of the number lead to the same result
through `with_instance`. -/
theorem InstanceManager.WellFormed.withInstance_bind_congr {Object Events σ₁ σ₂ R₁ R₂ X : Type}
    [Inhabited R₁] [Inhabited R₂] {m : InstanceManager Object Events} (hwf : m.WellFormed)
    {n : Jint} {func₁ : Object → Events → JNIEnv → σ₁ → Except Fatal (R₁ × JNIEnv × σ₁)} {s₁ : σ₁}
    {func₂ : Object → Events → JNIEnv → σ₂ → Except Fatal (R₂ × JNIEnv × σ₂)} {s₂ : σ₂}
    {after₁ : R₁ × JNIEnv × σ₁ → Except Fatal X} {after₂ : R₂ × JNIEnv × σ₂ → Except Fatal X}
    (hlive : ∀ object events, m.status n = .live (object, events) →
      (func₁ object events ⟨[]⟩ s₁ >>= after₁) = (func₂ object events ⟨[]⟩ s₂ >>= after₂))
    (hrefused : ∀ env, after₁ (default, env, s₁) = after₂ (default, env, s₂)) :
    (m.withInstance ⟨[]⟩ n func₁ s₁ >>= after₁) = (m.withInstance ⟨[]⟩ n func₂ s₂ >>= after₂) := by
  cases hst : m.status n with
  | free =>
      -- the message of the exception depends on the number and the manager only
      obtain ⟨message, hcheck⟩ :=
        checkInstanceNumber_refused ⟨[]⟩ false (hwf.status_free_iff.mp hst)
      have hrun {σ R : Type} [Inhabited R]
          (func : Object → Events → JNIEnv → σ → Except Fatal (R × JNIEnv × σ)) (s : σ) :
          m.withInstance ⟨[]⟩ n func s
            = .ok (default, throwIllegalStateException ⟨[]⟩ n message, s) := by
        simp [withInstance, getLocked, hcheck, InstancePointers.null, JNIEnv.exceptionCheck,
          throwIllegalStateException, throwException, bind, Except.bind, pure, Except.pure]
      rw [hrun, hrun]
      exact hrefused _
  | killed =>
      obtain ⟨hf, hs⟩ := hwf.status_killed_iff.mp hst
      rw [withInstance_null _ _ hf hs, withInstance_null _ _ hf hs]
      exact hrefused _
  | live p =>
      obtain ⟨hf, hs⟩ := hwf.status_live_iff.mp hst
      rw [withInstance_pair _ _ hf hs, withInstance_pair _ _ hf hs]
      exact hlive p.1 p.2 hst

/-- What `with_error_handling` returns and throws depends on the answer of the function only. -/
theorem ErrorType.withErrorHandling_bind_congr {σ₁ σ₂ Value R X : Type} [Inhabited R]
    (t : ErrorType) (env : JNIEnv) (successFunc : Value → R)
    {toxFunc₁ : σ₁ → (Value × ErrorCode t) × σ₁} {s₁ : σ₁}
    {toxFunc₂ : σ₂ → (Value × ErrorCode t) × σ₂} {s₂ : σ₂}
    {after₁ : R × JNIEnv × σ₁ → Except Fatal X} {after₂ : R × JNIEnv × σ₂ → Except Fatal X}
    (hanswer : (toxFunc₁ s₁).1 = (toxFunc₂ s₂).1)
    (hafter : ∀ value env, after₁ (value, env, (toxFunc₁ s₁).2)
      = after₂ (value, env, (toxFunc₂ s₂).2)) :
    (t.withErrorHandling env successFunc toxFunc₁ s₁ >>= after₁)
      = (t.withErrorHandling env successFunc toxFunc₂ s₂ >>= after₂) := by
  unfold withErrorHandling
  generalize toxFunc₁ s₁ = result₁ at hanswer hafter
  generalize toxFunc₂ s₂ = result₂ at hanswer hafter
  obtain ⟨⟨value, error⟩, next₁⟩ := result₁
  obtain ⟨⟨_, _⟩, next₂⟩ := result₂
  cases hanswer
  cases error with
  | ok number => exact hafter _ _
  | failure name h => exact hafter _ _
  | unknown number => exact hafter _ _

namespace World

variable {T R Value : Type} [Inhabited R] [JavaType R] {t : ErrorType} {w : World T} {n : Jint}
  {toReturned : R → Returned}

/-- What Java gets back from a call on an instance. -/
def replyOf {S : Type} (answer : R × JNIEnv × S) : Except Fatal Reply :=
  .ok ⟨JavaType.toJavaValue answer.1, answer.2.1.thrown⟩

/-- A call on an instance, by what its functor does on the session. -/
theorem Sound.onInstance_bind (h : w.Sound)
    (func : JNIEnv → Session T → Except Fatal (R × JNIEnv × Session T))
    {func' : Address → Address → JNIEnv → List (NativeCall Address) →
      Except Fatal (Answer Address R)}
    (htoReturned : ∀ value, (toReturned value).toJavaValue = JavaType.toJavaValue value)
    (hfunc : ∀ tox events s, w.memory.toxes tox = some s.tox →
      (func ⟨[]⟩ s >>= replyOf)
        = (func' tox events ⟨[]⟩ [] >>= fun answer => received (answer.map toReturned id))) :
    (w.onInstance (ToxInstances.withInstance n func).toJavaValue ⟨[]⟩ >>=
        fun answer => (.ok ⟨answer.1, answer.2.1.thrown⟩ : Except Fatal Reply))
      = (w.instances.withInstance ⟨[]⟩ n func' [] >>=
        fun answer => received (answer.map toReturned id)) := by
  let c : InstanceCall T JavaValue := (ToxInstances.withInstance n func).toJavaValue
  let _ : Inhabited JavaValue := ⟨c.refused⟩
  have honInstance :
      (w.onInstance c ⟨[]⟩ >>=
          fun answer => (.ok ⟨answer.1, answer.2.1.thrown⟩ : Except Fatal Reply))
        = (w.instances.withInstance ⟨[]⟩ n
            (fun tox events env (memory : Memory T) => memory.access tox events (c.func env))
            w.memory >>= fun answer => .ok ⟨answer.1, answer.2.1.thrown⟩) := by
    unfold onInstance
    show (w.instances.withInstance ⟨[]⟩ n _ _ >>= _) >>= _ = _
    rw [bind_assoc]
    rfl
  show (w.onInstance c ⟨[]⟩ >>= _) = _
  rw [honInstance]
  apply h.wellFormed.withInstance_bind_congr
  · intro tox events hst
    obtain ⟨toxState, htox⟩ := h.toxes.exists_object (n := n) (a := tox) (by simp [hst, toxPointer])
    obtain ⟨queue, hevents⟩ :=
      h.events.exists_object (n := n) (a := events) (by simp [hst, eventsPointer])
    rw [← hfunc tox events ⟨toxState, queue⟩ htox]
    simp only [Memory.access, htox, hevents]
    show ((func ⟨[]⟩ ⟨toxState, queue⟩ >>= _) >>= _) >>= _ = _
    cases func ⟨[]⟩ ⟨toxState, queue⟩ <;> rfl
  · intro env
    show _ = received (toReturned default, env, [])
    simp only [received, htoReturned]
    rfl

/-- The functor of `with_instance_err`, for a call whose read succeeds. -/
theorem withInstanceErr_func_bind
    (htoReturned : ∀ value, (toReturned value).toJavaValue = JavaType.toJavaValue value)
    (successFunc : Value → R) {toxFunc : T → (Value × ErrorCode t) × T} {s : Session T}
    {answer : NativeCall Address → Value × ErrorCode t} {c : NativeCall Address}
    (hanswer : answer c = (toxFunc s.tox).1) (hread : c.read = .ok ()) :
    ((ToxInstances.withInstanceErr n successFunc toxFunc).func ⟨[]⟩ s >>= replyOf)
      = (t.withErrorHandling ⟨[]⟩ successFunc (recorded answer c) [] >>=
          fun answer => received (answer.map toReturned id)) := by
  show (t.withErrorHandling ⟨[]⟩ successFunc toxFunc s.tox >>= _) >>= _ = _
  rw [bind_assoc]
  apply t.withErrorHandling_bind_congr
  · exact hanswer.symm
  · intro value env
    show (.ok _ : Except Fatal Reply) = received (toReturned value, env, [c])
    simp only [received, List.forM_eq_forM, List.forM_cons, hread, htoReturned]
    rfl

/-- A call through `with_instance_err`, of a function whose reads all succeed. -/
theorem Sound.withInstanceErr_bind (h : w.Sound)
    (htoReturned : ∀ value, (toReturned value).toJavaValue = JavaType.toJavaValue value)
    (successFunc : Value → R) (toxFunc : T → (Value × ErrorCode t) × T)
    {answer : NativeCall Address → Value × ErrorCode t} {args : Address → NativeCall Address}
    (hanswer : ∀ tox s, w.memory.toxes tox = some s → answer (args tox) = (toxFunc s).1)
    (hread : ∀ tox, (args tox).read = .ok ()) :
    (w.onInstance (ToxInstances.withInstanceErr n successFunc toxFunc).toJavaValue ⟨[]⟩ >>=
        fun answer => (.ok ⟨answer.1, answer.2.1.thrown⟩ : Except Fatal Reply))
      = (w.instances.withInstanceErr ⟨[]⟩ n successFunc
          (fun tox => recorded answer (args tox)) [] >>=
        fun answer => received (answer.map toReturned id)) := by
  apply h.onInstance_bind _ htoReturned
  intro tox events s htox
  exact withInstanceErr_func_bind (n := n) htoReturned successFunc (hanswer tox s.tox htox)
    (hread tox)

end World

/-! ### The reads -/

/-- The read returns what is behind the pointer, or it goes past the end. -/
theorem mapM_readBytes_cases (pointer : Pointer) (size : Nat) :
    (Readable pointer size ∧
      pointer.mapM (fun bytes => ToxCoreJni.readBytes bytes size) = .ok pointer) ∨
    (¬ Readable pointer size ∧
      pointer.mapM (fun bytes => ToxCoreJni.readBytes bytes size) = .error .outOfRange) := by
  cases pointer with
  | none => exact .inl ⟨fun bytes h => (nomatch h), rfl⟩
  | some bytes =>
      by_cases hsize : size ≤ bytes.length
      · have hread : ToxCoreJni.readBytes bytes size = .ok bytes := if_pos hsize
        refine .inl ⟨?_, by rw [Option.mapM_some, hread]; rfl⟩
        intro bytes' hbytes
        cases hbytes
        exact hsize
      · have hread : ToxCoreJni.readBytes bytes size = .error .outOfRange := if_neg hsize
        exact .inr ⟨fun hc => hsize (hc bytes rfl), by rw [Option.mapM_some, hread]; rfl⟩

/-- The read succeeds exactly when there is enough behind the pointer. -/
theorem mapM_readBytes_iff (pointer : Pointer) (size : Nat) :
    (do let _ ← pointer.mapM fun bytes => ToxCoreJni.readBytes bytes size : Except Fatal Unit)
      = .ok () ↔ Readable pointer size := by
  cases mapM_readBytes_cases pointer size with
  | inl hread =>
      rw [hread.2]
      exact iff_of_true rfl hread.1
  | inr hshort =>
      rw [hshort.2]
      exact iff_of_false (fun hc => (nomatch hc)) hshort.1

/-- The reads of a call succeed exactly when they stay inside the array. A null pointer has no
array, and only the callback for friend requests reads through it. -/
theorem NativeCall.read_eq_ok_iff {Tox : Type} (c : NativeCall Tox) :
    c.read = .ok () ↔ c.InBounds ∧ ∀ message length, c ≠ .friendRequestCb none message length := by
  cases c with
  | friendRequestCb publicKey message length =>
      cases publicKey with
      | none => exact iff_of_false (fun hc => (nomatch hc)) fun hc => hc.2 message length rfl
      | some bytes =>
          have hother : ∀ message' length',
              NativeCall.friendRequestCb (some bytes) message length
                ≠ (.friendRequestCb none message' length' : NativeCall Tox) := by simp
          rw [and_iff_left hother]
          refine Iff.trans ?_ (mapM_readBytes_iff (some bytes) publicKeySize)
          simp only [read, Option.getD_some, Option.mapM_some]
          cases ToxCoreJni.readBytes bytes publicKeySize with
          | error fatal => exact iff_of_false (fun hc => (nomatch hc)) (fun hc => (nomatch hc))
          | ok bytes => exact iff_of_true rfl rfl
  | _ =>
      simp only [ne_eq, reduceCtorEq, not_false_eq_true, implies_true, and_true]
      exact mapM_readBytes_iff _ _

/-- All reads return when each of them does. -/
theorem forM_read_iff {Tox : Type} (cs : List (NativeCall Tox)) :
    cs.forM NativeCall.read = .ok () ↔ ∀ c ∈ cs, c.read = .ok () := by
  induction cs with
  | nil => exact iff_of_true rfl fun c hc => absurd hc List.not_mem_nil
  | cons c cs ih =>
      rw [List.forall_mem_cons, ← ih]
      show (c.read >>= fun _ => cs.forM NativeCall.read) = .ok () ↔ _
      cases hread : c.read with
      | error fatal => exact iff_of_false (fun hc => (nomatch hc)) fun hc => (nomatch hc.1)
      | ok value => exact (and_iff_right rfl).symm

/-- Java gets something back when each call reads inside its array. -/
theorem received_completes_iff {Tox : Type} (answer : Answer Tox Returned) :
    (∃ reply, received answer = .ok reply) ↔ ∀ c ∈ answer.2.2, c.InBounds ∧
      ∀ message length, c ≠ .friendRequestCb none message length := by
  simp only [← NativeCall.read_eq_ok_iff]
  rw [← forM_read_iff]
  unfold received
  cases answer.2.2.forM NativeCall.read with
  | error fatal =>
      refine iff_of_false ?_ fun hc => (nomatch hc)
      rintro ⟨reply, hreply⟩
      exact nomatch hreply
  | ok value => exact iff_of_true ⟨_, rfl⟩ rfl

/-- After the assertion on the size the array can be read. -/
theorem assertSize_bind_congr {X : Type} {a : ArrayFromJava UInt8} {size : Nat}
    (hsize : size < 2 ^ 64) {x y : Except Fatal X} (h : Readable a.data size → x = y)
    (condition : String) :
    (do assertSize a size condition; x) = (do assertSize a size condition; y) := by
  cases assertSize_cases a hsize condition with
  | inl hfails =>
      rw [hfails]
      rfl
  | inr hholds =>
      rw [hholds.1, h hholds.2]

/-! ### The two embeddings agree -/

section

variable {T : Type} {codec : Codec CoreEvents} {api : ToxApi T} {w : World T}
  {toxcore : Toxcore Address}

/-- `exec` of a call on an instance, without the world after it. -/
theorem World.exec_onInstance (request : InstanceRequest) :
    (w.exec codec api (.onInstance request)).map Prod.snd
      = (request.call codec api >>= fun c => w.onInstance c ⟨[]⟩ >>=
          fun answer => .ok ⟨answer.1, answer.2.1.thrown⟩) := by
  unfold exec
  show (request.call codec api >>= fun c => w.onInstance c ⟨[]⟩ >>= _).map _ = _
  cases request.call codec api with
  | error fatal => rfl
  | ok c =>
      show (w.onInstance c ⟨[]⟩ >>= _).map _ = w.onInstance c ⟨[]⟩ >>= _
      cases w.onInstance c ⟨[]⟩ <;> rfl

/-- The value of an entry point is converted after the call. -/
theorem map_bind_received {R : Type} (result : Except Fatal (Answer Address R))
    (toReturned : R → Returned) :
    (result.map (Prod.map toReturned id) >>= received)
      = (result >>= fun answer => received (answer.map toReturned id)) := by
  cases result <;> rfl

/-- An entry point that asserts the size of the array, and calls a function of toxcore. -/
theorem World.Sound.assertSize_bind {R Value : Type} [Inhabited R] [JavaType R] {t : ErrorType}
    (h : w.Sound) {n : Jint} {toReturned : R → Returned}
    (htoReturned : ∀ value, (toReturned value).toJavaValue = JavaType.toJavaValue value)
    {array : ArrayFromJava UInt8} {size : Nat} (hsize : size < 2 ^ 64) (condition : String)
    (successFunc : Value → R) (toxFunc : T → (Value × ErrorCode t) × T)
    {answer : NativeCall Address → Value × ErrorCode t} {args : Address → NativeCall Address}
    (hanswer : ∀ tox s, w.memory.toxes tox = some s → answer (args tox) = (toxFunc s).1)
    (hread : ∀ tox, (args tox).read
      = (do let _ ← array.data.mapM fun bytes => ToxCoreJni.readBytes bytes size)) :
    (do
        assertSize array size condition
        let c := ToxInstances.withInstanceErr n successFunc toxFunc
        let answer ← w.onInstance c.toJavaValue ⟨[]⟩
        .ok ⟨answer.1, answer.2.1.thrown⟩ : Except Fatal Reply)
      = (do
        assertSize array size condition
        let answer ← w.instances.withInstanceErr ⟨[]⟩ n successFunc
          (fun tox => recorded answer (args tox)) []
        received (answer.map toReturned id)) := by
  apply assertSize_bind_congr hsize
  intro hreadable
  apply h.withInstanceErr_bind htoReturned _ _ hanswer
  intro tox
  rw [hread]
  exact (mapM_readBytes_iff _ _).mpr hreadable

/-- `toxBootstrapLike`, which asserts that the port is one before that. -/
theorem World.Sound.toxBootstrapLike_bind (h : w.Sound)
    {call : Address → Option String → UInt16 → Pointer → NativeCall Address}
    {function : Option String → UInt16 → Pointer → T → (Bool × ErrorCode bootstrap) × T}
    (hanswer : ∀ tox s host port publicKey, w.memory.toxes tox = some s →
      (api.answering w.memory toxcore).bootstrap (call tox host port publicKey)
        = (function host port publicKey s).1)
    (hread : ∀ tox host port publicKey, (call tox host port publicKey).read
      = (do let _ ← publicKey.mapM fun bytes => ToxCoreJni.readBytes bytes publicKeySize))
    (n : Jint) (address : Option String) (port : Jint) (publicKey : ArrayFromJava UInt8) :
    (ToxCoreJni.toxBootstrapLike function n address port publicKey >>= fun c =>
        w.onInstance c.toJavaValue ⟨[]⟩ >>= fun answer => .ok ⟨answer.1, answer.2.1.thrown⟩)
      = (toxBootstrapLike (api.answering w.memory toxcore) w.instances ⟨[]⟩ call n address port
          publicKey >>= fun answer => received (answer.map (fun _ => .void) id)) := by
  unfold ToxCoreJni.toxBootstrapLike toxBootstrapLike
  simp only [bind_assoc, pure_bind]
  congr 1
  funext _
  congr 1
  funext _
  apply h.assertSize_bind (fun _ => rfl) (by decide)
  · exact fun tox s htox => hanswer tox s _ _ _ htox
  · exact fun tox => hread tox _ _ _

/-- `toxFileSend`, which does not look at the size. -/
theorem World.Sound.toxFileSend_bind (h : w.Sound) (n friendNumber kind : Jint) (fileSize : Int64)
    (fileId filename : ArrayFromJava UInt8) :
    (w.onInstance (ToxCoreJni.toxFileSend api n friendNumber kind fileSize fileId
        filename).toJavaValue ⟨[]⟩ >>=
        fun answer => (.ok ⟨answer.1, answer.2.1.thrown⟩ : Except Fatal Reply))
      = (toxFileSend (api.answering w.memory toxcore) w.instances ⟨[]⟩ n friendNumber kind fileSize
          fileId filename >>= fun answer => received (answer.map .int id)) := by
  unfold ToxCoreJni.toxFileSend toxFileSend
  apply h.onInstance_bind _ fun _ => rfl
  intro tox events s htox
  cases mapM_readBytes_cases fileId.data fileIdLength with
  | inl hread =>
      rw [hread.2]
      apply withInstanceErr_func_bind (n := n) fun _ => rfl
      · simp only [ToxApi.answering, answerAt, htox]
      · exact (mapM_readBytes_iff _ _).mpr hread.1
  | inr hshort =>
      obtain ⟨value, hcall⟩ := fileSend.withErrorHandling_eq ⟨[]⟩ UInt32.toInt32
        (recorded (api.answering w.memory toxcore).fileSend (.toxFileSend tox
          friendNumber.toUInt32 kind.toUInt32 (if fileSize < 0 then -1 else fileSize).toUInt64
          fileId.data filename.data filename.size)) []
      rw [hshort.2, hcall]
      simp only [recorded, List.nil_append]
      show _ = received (Returned.int value, _, [NativeCall.toxFileSend ..])
      simp only [received, List.forM_eq_forM, List.forM_cons, NativeCall.read, NativeCall.fixedRead,
        hshort.2]
      rfl

/-- `invokeFriendRequest`, which does not look at the size either. -/
theorem World.Sound.invokeFriendRequest_bind (h : w.Sound) (n timeDelta : Jint)
    (publicKey message : ArrayFromJava UInt8) :
    (w.onInstance (ToxCoreJni.invokeFriendRequest n publicKey timeDelta message).toJavaValue
        ⟨[]⟩ >>= fun answer => (.ok ⟨answer.1, answer.2.1.thrown⟩ : Except Fatal Reply))
      = (invokeFriendRequest w.instances ⟨[]⟩ n publicKey message >>=
          fun answer => received (answer.map (fun _ => .void) id)) := by
  unfold ToxCoreJni.invokeFriendRequest ToxCoreJni.invoke invokeFriendRequest
  apply h.onInstance_bind _ fun _ => rfl
  intro tox events s htox
  show _ = received (Returned.void, ⟨[]⟩, [NativeCall.friendRequestCb ..])
  simp only [received, List.forM_eq_forM, List.forM_cons, NativeCall.read, ToxCoreJni.bytesOf]
  cases ToxCoreJni.readBytes (publicKey.data.getD []) publicKeySize <;> rfl

/-- The two embeddings of an entry point with an array that has no length agree. What Java gets
back from the call on the session is what it gets back from the guarded entry point, once the calls
that this one makes have read their bytes. -/
theorem World.Sound.exec_eq_run (h : w.Sound) {request : InstanceRequest} {r : Request}
    (hr : request.toRequest? = some r) :
    (w.exec codec api (.onInstance request)).map Prod.snd
      = (r.run (api.answering w.memory toxcore) w.instances >>= received) := by
  rw [World.exec_onInstance]
  cases request <;> cases hr
  -- the two of `toxBootstrapLike`
  case toxBootstrap n address port publicKey | toxAddTcpRelay n address port publicKey =>
    rw [Request.run, map_bind_received]
    simp only [InstanceRequest.call, bind_assoc, pure_bind]
    apply h.toxBootstrapLike_bind
    · intro tox s host port publicKey htox
      simp only [ToxApi.answering, answerAt, htox]
    · exact fun _ _ _ _ => rfl
  -- those that assert the size of a key or an address, and have no other check
  case toxFriendAdd n address message =>
    rw [Request.run, map_bind_received]
    simp only [InstanceRequest.call, ToxCoreJni.toxFriendAdd, toxFriendAdd, bind_assoc,
      pure_bind]
    apply h.assertSize_bind (fun _ => rfl) (by decide)
    · intro tox s htox
      simp only [ToxApi.answering, answerAt, htox]
    · exact fun _ => rfl
  case toxFriendAddNorequest n publicKey | toxFriendByPublicKey n publicKey =>
    rw [Request.run, map_bind_received]
    simp only [InstanceRequest.call, ToxCoreJni.toxFriendAddNorequest, toxFriendAddNorequest,
      ToxCoreJni.toxFriendByPublicKey, toxFriendByPublicKey, bind_assoc, pure_bind]
    apply h.assertSize_bind (fun _ => rfl) (by decide)
    · intro tox s htox
      simp only [ToxApi.answering, answerAt, htox]
    · exact fun _ => rfl
  -- those without a check
  case toxFileSend n friendNumber kind fileSize fileId filename =>
    rw [Request.run, map_bind_received]
    exact h.toxFileSend_bind n friendNumber kind fileSize fileId filename
  case invokeFriendRequest n publicKey timeDelta message =>
    rw [Request.run, map_bind_received]
    exact h.invokeFriendRequest_bind n timeDelta publicKey message

/-! ### Any sequence of calls -/

section

variable {w' : World T} {reply : Reply} {n : Jint}

/-- `toxNew` adds the addresses of its two objects, or leaves the manager as it is. -/
theorem World.Sound.instances_toxNew (h : w.Sound) {arguments : ToxCoreJni.NewArguments}
    (hexec : w.exec codec api (.toxNew arguments) = .ok (w', reply)) :
    w'.instances = w.instances ∨
      ∃ n, w.instances.add (some w.memory.next) (some (w.memory.next + 1))
        = .ok (w'.instances, n) := by
  cases hnew : newTox? api arguments with
  | none =>
      cases World.toxNew_none (w := w) hnew with
      | inl hfatal =>
          obtain ⟨fatal, hrun⟩ := hfatal
          simp [World.exec, hrun, bind, Except.bind] at hexec
      | inr hrun =>
          simp only [World.exec, hrun, bind, Except.bind, pure, Except.pure, Except.ok.injEq,
            Prod.mk.injEq] at hexec
          exact .inl (by rw [← hexec.1])
  | some tox =>
      obtain ⟨m, n, hadd, -⟩ := h.wellFormed.add_spec w.memory.next (w.memory.next + 1)
      simp only [World.exec, World.toxNew_of_add hnew hadd, bind, Except.bind, pure,
        Except.pure, Except.ok.injEq, Prod.mk.injEq] at hexec
      obtain ⟨rfl, -⟩ := hexec
      exact .inr ⟨n, hadd⟩

/-- `toxKill` leaves the manager that `kill` leaves. -/
theorem World.instances_toxKill (hexec : w.exec codec api (.toxKill n) = .ok (w', reply)) :
    ∃ env dying, w.instances.kill ⟨[]⟩ n = .ok (w'.instances, env, dying) := by
  cases hkill : w.instances.kill ⟨[]⟩ n with
  | error fatal => simp [World.exec, World.toxKill, hkill, bind, Except.bind] at hexec
  | ok result =>
      obtain ⟨m, env, dying⟩ := result
      refine ⟨env, dying, ?_⟩
      simp only [World.exec, World.toxKill, hkill, bind, Except.bind] at hexec
      cases hdestroy : w.memory.destroy dying with
      | error fatal => simp [hdestroy] at hexec
      | ok memory =>
          simp only [hdestroy, pure, Except.pure, Except.ok.injEq, Prod.mk.injEq] at hexec
          rw [← hexec.1]

/-- `toxFinalize` leaves the manager that `finalize` leaves. -/
theorem World.instances_toxFinalize
    (hexec : w.exec codec api (.toxFinalize n) = .ok (w', reply)) :
    ∃ env, w.instances.finalize ⟨[]⟩ n = .ok (w'.instances, env) := by
  cases hfinalize : w.instances.finalize ⟨[]⟩ n with
  | error fatal => simp [World.exec, World.toxFinalize, hfinalize, bind, Except.bind] at hexec
  | ok result =>
      obtain ⟨m, env⟩ := result
      simp only [World.exec, World.toxFinalize, hfinalize, bind, Except.bind, pure,
        Except.pure, Except.ok.injEq, Prod.mk.injEq] at hexec
      exact ⟨env, by rw [← hexec.1]⟩

/-- A call on an instance leaves the manager as it is. -/
theorem World.instances_onInstance {request : InstanceRequest}
    (hexec : w.exec codec api (.onInstance request) = .ok (w', reply)) :
    w'.instances = w.instances := by
  cases hcall : request.call codec api with
  | error fatal => simp [World.exec, hcall, bind, Except.bind] at hexec
  | ok c =>
      simp only [World.exec, hcall, World.onInstance, bind, Except.bind, pure,
        Except.pure] at hexec
      split at hexec
      · cases hexec
      · next heq =>
          split at heq
          · cases heq
          · cases heq
            cases hexec
            rfl

end

/-- A call on the manager of a world is a call on the manager, or does not change it. -/
theorem World.Sound.instances_step (h : w.Sound) {l : Turn T} {w' : World T}
    (hstep : (sessions codec).step w l w') :
    w'.instances = w.instances ∨
      ∃ call, InstanceManager.calls.step w.instances call w'.instances := by
  obtain ⟨api, request, reply⟩ := l
  obtain ⟨hexec, hsize⟩ := hstep
  cases request with
  | toxNew arguments =>
      cases h.instances_toxNew hexec with
      | inl hsame => exact .inl hsame
      | inr hadds =>
          obtain ⟨n, hadd⟩ := hadds
          refine .inr ⟨(.add w.memory.next (w.memory.next + 1), { returned := some n }), ?_, hsize⟩
          simp only [InstanceManager.exec, hadd]
          rfl
  | toxKill n =>
      obtain ⟨env, dying, hkill⟩ := World.instances_toxKill hexec
      refine .inr ⟨(.kill n, { thrown := env.thrown, destroyed := dying }), ?_, hsize⟩
      simp only [InstanceManager.exec, hkill]
      rfl
  | toxFinalize n =>
      obtain ⟨env, hfinalize⟩ := World.instances_toxFinalize hexec
      refine .inr ⟨(.finalize n, { thrown := env.thrown }), ?_, hsize⟩
      simp only [InstanceManager.exec, hfinalize]
      rfl
  | onInstance request => exact .inl (World.instances_onInstance hexec)

/-- The manager of a world was made by calls on the manager. -/
theorem reachable_of_run {ls : List (Turn T)} (run : (sessions codec).Run w ls) :
    InstanceManager.calls.Reachable w.instances := by
  induction run with
  | init hinit =>
      subst hinit
      exact ⟨[], .init rfl⟩
  | step run hstep ih =>
      cases (sound_of_run run).1.instances_step hstep with
      | inl hsame => rwa [hsame]
      | inr hcall =>
          obtain ⟨call, hcall⟩ := hcall
          obtain ⟨calls, hcalls⟩ := ih
          exact ⟨_, .step hcalls hcall⟩

/-- So the guards decide which of these calls return: those that pass them, and whose calls of
toxcore then read inside their arrays. -/
theorem World.Sound.exec_completes_iff (h : w.Sound) {request : InstanceRequest} {r : Request}
    (hr : request.toRequest? = some r) :
    (∃ result, w.exec codec api (.onInstance request) = .ok result) ↔
      ∃ answer, r.run (api.answering w.memory toxcore) w.instances = .ok answer ∧
        ∀ c ∈ answer.2.2, c.InBounds ∧
          ∀ message length, c ≠ .friendRequestCb none message length := by
  have hsame : (w.exec codec api (.onInstance request)).map Prod.snd
      = (r.run (api.answering w.memory toxcore) w.instances >>= received) := h.exec_eq_run hr
  have hmap : (∃ result, w.exec codec api (.onInstance request) = .ok result) ↔
      ∃ reply, (w.exec codec api (.onInstance request)).map Prod.snd = .ok reply := by
    cases w.exec codec api (.onInstance request) <;> simp [Except.map]
  rw [hmap, hsame]
  simp only [← received_completes_iff]
  cases r.run (api.answering w.memory toxcore) w.instances with
  | error fatal => simp [bind, Except.bind]
  | ok answer =>
      simp only [Except.ok.injEq, exists_eq_left']
      rfl

/-- In every world that calls from Java lead to, the entry points with guards and the calls on
sessions are the same functions, and the manager is one that the guards are proved for. -/
theorem exec_eq_run_of_run {ls : List (Turn T)} (run : (sessions codec).Run w ls)
    {request : InstanceRequest} {r : Request} (hr : request.toRequest? = some r) :
    InstanceManager.calls.Reachable w.instances ∧
      (w.exec codec api (.onInstance request)).map Prod.snd
        = (r.run (api.answering w.memory toxcore) w.instances >>= received) :=
  ⟨reachable_of_run run, (sound_of_run run).1.exec_eq_run hr⟩

end

end Tox4j.Native
