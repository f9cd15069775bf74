import Tox4j.Native.HandleSafety

/-!
# `Tox4j.Native.EntryPoint`: from a JNI call to the toxcore function

The parts that all JNI entry points share: the Java arrays of `util/jni/ArrayFromJava.h`,
and `with_error_handling`, `with_instance_err` and `with_instance_ign` of
`tox4j/ToxInstances.h`. The log entries that these functions also write are in
`Tox4j.Log.JniLog`.

A toxcore function is a parameter. It acts on the caller's state `σ` and returns its value
and an error code. `recorded` is a toxcore function that only appends its arguments to a
list, so the list says which calls reached toxcore.

The sizes of arrays are compared with products of `jint`s. `size_eq_iff` says what such a
comparison decides: the array length agrees with the product modulo `2 ^ 32`.
-/

set_option autoImplicit false

namespace Tox4j.Native

/-- A Java array. Its length is a `jsize`. -/
structure JavaArray (α : Type) where
  elements : List α
  length_lt : elements.length < 2 ^ 31

/-- `ArrayFromJava`: a reference to a Java array, which may be null. -/
abbrev ArrayFromJava (α : Type) := Option (JavaArray α)

/-- The conversion from `jint` to `size_t`. -/
def sizeT (x : Jint) : UInt64 := x.toInt64.toUInt64

namespace ArrayFromJava

variable {α : Type}

/-- `size`. The null array has size 0. -/
def size (a : ArrayFromJava α) : UInt64 :=
  match a with
  | some array => sizeT (Int32.ofNat array.elements.length)
  | none => 0

/-- `data`: what the pointer to the first element can be used to read. The pointer of the
null array is null. -/
def data (a : ArrayFromJava α) : Option (List α) := a.map JavaArray.elements

/-- The number of elements, for statements. -/
def length (a : ArrayFromJava α) : Nat := (a.data.getD []).length

end ArrayFromJava

/-! ### Error codes -/

/-- What `HANDLE` defines for an error type, with the two strings of its subsystem. -/
structure ErrorType where
  moduleName : String
  exnPrefix : String
  methodName : String
  /-- The enumerators with a `failure_case`. -/
  failures : List String
  deriving DecidableEq, Repr

/-- A value of an error type, sorted as `handle_error_enum` sorts it. A number without a
`success_case` or `failure_case` is `unknown`. -/
inductive ErrorCode (t : ErrorType)
  | ok (value : Jint)
  | failure (name : String) (h : name ∈ t.failures)
  | unknown (value : Jint)

variable {t : ErrorType}

/-- `throw_tox_exception` with the name of an enumerator. -/
def ErrorType.throwNamed (t : ErrorType) (env : JNIEnv) (error : String) : JNIEnv :=
  throwToxException env t.moduleName t.exnPrefix t.methodName error

/-- `throw_tox_exception` with an error code. -/
def throwErrorCode (env : JNIEnv) (error : ErrorCode t) : JNIEnv :=
  match error with
  | .failure name _ => t.throwNamed env name
  | .ok value => throwIllegalStateException env value "Throwing OK code"
  | .unknown value => throwIllegalStateException env value "Unknown error code"

variable {σ R Value Object Events Args : Type} [Inhabited R]

/-- `with_error_handling`, for any error type. `Tox4j.Native.Lifecycle` has the one for the
constructors, which keep what the function returned. -/
def ErrorType.withErrorHandling (t : ErrorType) (env : JNIEnv) (successFunc : Value → R)
    (toxFunc : σ → (Value × ErrorCode t) × σ) (s : σ) : Except Fatal (R × JNIEnv × σ) :=
  let ((value, error), s) := toxFunc s
  match error with
  | .ok _ => .ok (successFunc value, env, s)
  | .failure name _ => .ok (default, t.throwNamed env name, s)
  | .unknown number =>
    .ok (default, throwIllegalStateException env number "Unknown error code", s)

namespace InstanceManager

/-- `with_instance_err`. -/
def withInstanceErr (m : InstanceManager Object Events) (env : JNIEnv) (instanceNumber : Jint)
    (successFunc : Value → R) (toxFunc : Object → σ → (Value × ErrorCode t) × σ) (s : σ) :
    Except Fatal (R × JNIEnv × σ) :=
  m.withInstance env instanceNumber
    (fun tox _ env s => t.withErrorHandling env successFunc (toxFunc tox) s) s

/-- `with_instance_ign`: the boolean result is ignored. -/
def withInstanceIgn (m : InstanceManager Object Events) (env : JNIEnv) (instanceNumber : Jint)
    (toxFunc : Object → σ → (Bool × ErrorCode t) × σ) (s : σ) :
    Except Fatal (Unit × JNIEnv × σ) :=
  m.withInstanceErr env instanceNumber (fun _ => ()) toxFunc s

end InstanceManager

/-- A toxcore function that answers with `answer`. Each call is appended to the list. -/
def recorded (answer : Args → Value × ErrorCode t) (args : Args) (calls : List Args) :
    (Value × ErrorCode t) × List Args :=
  (answer args, calls ++ [args])

/-! ### Sizes -/

/-- The conversion to `size_t` keeps all `jint`s apart. -/
theorem sizeT_inj {x y : Jint} : sizeT x = sizeT y ↔ x = y := by
  constructor
  · intro h
    have h64 : x.toInt64 = y.toInt64 := congrArg UInt64.toInt64 h
    apply Int32.toInt_inj.mp
    rw [← Int32.toInt_toInt64 x, h64, Int32.toInt_toInt64]
  · intro h
    rw [h]

namespace ArrayFromJava

variable {α : Type}

/-- No Java array is longer than a `jsize` can say. -/
theorem length_lt (a : ArrayFromJava α) : a.length < 2 ^ 31 := by
  cases a with
  | none => show 0 < 2 ^ 31; omega
  | some array => exact array.length_lt

/-- `size` goes through a `jsize`. A null array has the size of an empty one. -/
theorem size_eq (a : ArrayFromJava α) : a.size = sizeT (Int32.ofNat a.length) := by
  cases a with
  | none => rfl
  | some array => rfl

/-- The length survives the conversions: it is not negative as a `jsize`, and the extension of the
sign adds nothing. -/
theorem toNat_size (a : ArrayFromJava α) : a.size.toNat = a.length := by
  have hlt := a.length_lt
  have hnat : (Int32.ofNat a.length).toInt = a.length := Int32.toInt_ofNat_of_lt hlt
  have hle : 0 ≤ (Int32.ofNat a.length).toInt64 := by
    rw [Int64.le_iff_toInt_le, Int32.toInt_toInt64, hnat]
    show (0 : Int) ≤ a.length
    omega
  rw [size_eq, sizeT, Int64.toNat_toUInt64_of_le hle, Int64.toNatClampNeg,
    Int32.toInt_toInt64, hnat]
  omega

/-- A comparison of the size with a constant. -/
theorem size_eq_ofNat_iff (a : ArrayFromJava α) {n : Nat} (hn : n < 2 ^ 64) :
    a.size = UInt64.ofNat n ↔ a.length = n := by
  rw [← UInt64.toNat_inj, toNat_size, UInt64.toNat_ofNat_of_lt' hn]

/-- A comparison of the size with a constant, as one of the length. -/
theorem size_lt_ofNat_iff (a : ArrayFromJava α) {n : Nat} (hn : n < 2 ^ 64) :
    a.size < UInt64.ofNat n ↔ a.length < n := by
  rw [UInt64.lt_iff_toNat_lt, toNat_size, UInt64.toNat_ofNat_of_lt' hn]

/-- A comparison of the size with a `jint` decides whether the length is that number. -/
theorem size_eq_sizeT_iff (a : ArrayFromJava α) {x : Jint} :
    a.size = sizeT x ↔ (a.length : Int) = x.toInt := by
  have hnat : (Int32.ofNat a.length).toInt = a.length := Int32.toInt_ofNat_of_lt a.length_lt
  rw [size_eq, sizeT_inj, ← Int32.toInt_inj, hnat]

/-- A comparison of the size with a product of `jint`s decides whether the length is that
product modulo `2 ^ 32`. -/
theorem size_eq_iff (a : ArrayFromJava α) {x y : Jint} :
    a.size = sizeT (x * y) ↔ (a.length : Int) ≡ x.toInt * y.toInt [ZMOD 2 ^ 32] := by
  have hlt := a.length_lt
  rw [size_eq_sizeT_iff, Int32.toInt_mul, Int.ModEq]
  show (a.length : Int) = (x.toInt * y.toInt).bmod (2 ^ 32) ↔ _
  generalize x.toInt * y.toInt = p
  rw [Int.bmod_def]
  split <;> omega

end ArrayFromJava

/-! ### What the entry points use -/

/-- The environment after an error code: an exception is thrown unless the code is OK. -/
def envAfter (env : JNIEnv) (error : ErrorCode t) : JNIEnv :=
  match error with
  | .ok _ => env
  | .failure name _ => t.throwNamed env name
  | .unknown number => throwIllegalStateException env number "Unknown error code"

/-- `with_error_handling` calls the function once. It returns in every case. -/
theorem ErrorType.withErrorHandling_eq (env : JNIEnv) (successFunc : Value → R)
    (toxFunc : σ → (Value × ErrorCode t) × σ) (s : σ) :
    ∃ r, t.withErrorHandling env successFunc toxFunc s
      = .ok (r, envAfter env (toxFunc s).1.2, (toxFunc s).2) := by
  unfold withErrorHandling
  rcases toxFunc s with ⟨⟨value, error⟩, s'⟩
  cases error with
  | ok number => exact ⟨successFunc value, rfl⟩
  | failure name h => exact ⟨default, rfl⟩
  | unknown number => exact ⟨default, rfl⟩

namespace InstanceManager

/-- On a live instance `with_instance_err` is `with_error_handling` on its object. -/
theorem withInstanceErr_live {m : InstanceManager Object Events} {n : Jint} {object : Object}
    {events : Events} (hm : calls.Reachable m) (hlive : m.status n = .live (object, events))
    (env : JNIEnv) (successFunc : Value → R)
    (toxFunc : Object → σ → (Value × ErrorCode t) × σ) (s : σ) :
    m.withInstanceErr env n successFunc toxFunc s
      = t.withErrorHandling env successFunc (toxFunc object) s := by
  obtain ⟨hist, run⟩ := hm
  have hwf : m.WellFormed := (status_eq_table run).1
  obtain ⟨hf, hs⟩ := hwf.status_live_iff.mp hlive
  exact withInstance_pair _ s hf hs

/-- `with_instance` runs `func` on a live instance. On another number it throws. -/
theorem withInstance_cases {m : InstanceManager Object Events} (hm : calls.Reachable m) (n : Jint)
    (func : Object → Events → JNIEnv → σ → Except Fatal (R × JNIEnv × σ)) (s : σ) :
    (∃ object events, m.status n = .live (object, events) ∧
      m.withInstance ⟨[]⟩ n func s = func object events ⟨[]⟩ s) ∨
    ((∀ p, m.status n ≠ .live p) ∧ ∃ env, env.exceptionCheck = true ∧
      m.withInstance ⟨[]⟩ n func s = .ok (default, env, s)) := by
  obtain ⟨hist, run⟩ := hm
  have hwf : m.WellFormed := (status_eq_table run).1
  cases hst : m.status n with
  | free =>
      right
      obtain ⟨message, h⟩ := withInstance_refused func s (hwf.status_free_iff.mp hst)
      exact ⟨fun _ hc => (nomatch hc), _, rfl, h⟩
  | killed =>
      right
      obtain ⟨hf, hs⟩ := hwf.status_killed_iff.mp hst
      exact ⟨fun _ hc => (nomatch hc), _, rfl, withInstance_null func s hf hs⟩
  | live p =>
      left
      obtain ⟨hf, hs⟩ := hwf.status_live_iff.mp hst
      exact ⟨p.1, p.2, rfl, withInstance_pair func s hf hs⟩

/-- A function that records its arguments is called once on a live instance, and not at all on
another number. -/
theorem withInstanceErr_recorded {m : InstanceManager Object Events} (hm : calls.Reachable m)
    (n : Jint) (successFunc : Value → R) (answer : Args → Value × ErrorCode t)
    (args : Object → Args) :
    (∃ object events, m.status n = .live (object, events) ∧ ∃ r env,
      m.withInstanceErr ⟨[]⟩ n successFunc (fun object => recorded answer (args object)) []
        = .ok (r, env, [args object])) ∨
    ((∀ p, m.status n ≠ .live p) ∧ ∃ env, env.exceptionCheck = true ∧
      m.withInstanceErr ⟨[]⟩ n successFunc (fun object => recorded answer (args object)) []
        = .ok (default, env, [])) := by
  unfold withInstanceErr
  cases withInstance_cases hm n (fun object _ env s =>
    t.withErrorHandling env successFunc (recorded answer (args object)) s) [] with
  | inl hlive =>
      left
      obtain ⟨object, events, hst, h⟩ := hlive
      obtain ⟨r, hr⟩ := t.withErrorHandling_eq ⟨[]⟩ successFunc (recorded answer (args object)) []
      exact ⟨object, events, hst, r, _, h.trans hr⟩
  | inr hdead => exact .inr hdead

end InstanceManager

/-! ### A manager and an array for examples -/

/-- A manager with one live instance, which has the number 1. -/
def oneInstance : InstanceManager Nat Nat := ⟨[⟨some 7, some 8⟩], [⟨false⟩], []⟩

/-- The manager for examples is made by one `add`. -/
theorem oneInstance_reachable : InstanceManager.calls.Reachable oneInstance :=
  ⟨_, .step (l := (.add 7 8, { returned := some 1 })) (.init rfl) ⟨rfl, by decide⟩⟩

/-- Its instance is live. -/
theorem oneInstance_live : oneInstance.status 1 = .live (7, 8) := by
  decide

/-- An array without elements, which is not null. -/
def emptyArray {α : Type} : ArrayFromJava α := some ⟨[], Nat.two_pow_pos 31⟩

end Tox4j.Native
