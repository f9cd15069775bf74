import Tox4j.Native.Jni

/-!
# `Tox4j.Events.Pipe`: what the two event pipes share

Events go from toxcore to the Kotlin listeners in a protobuf message. The generated protobuf
code is a `Codec`: the round trip is what the pipes rely on. The wrapper types of the API,
such as `ToxFriendNumber`, are a `Wrapper`: it gives back the value that it was made from.

The messages have one repeated field for each kind of event. An `EventQueue` says what a callback
appends, and an `EventPipe` what a dispatcher does with one field. `EventPipe.dispatch_encode` puts
them together: the events are delivered grouped by kind, which is a permutation of them
(`group_perm`).
-/

set_option autoImplicit false

namespace Tox4j.Events

open Tox4j.Native (Fatal)

/-- The bytes of an array or of a string. -/
abbrev Bytes := List UInt8

/-- The generated code of a message type. -/
structure Codec (Message : Type) where
  /-- `ByteSizeLong`. -/
  byteSizeLong : Message → Nat
  /-- `SerializeToArray`. -/
  serializeToArray : Message → Bytes
  /-- `parseFrom`. -/
  parseFrom : Bytes → Option Message
  parse_serialize : ∀ m, parseFrom (serializeToArray m) = some m

/-- A wrapper type with its functions `unsafeFromInt` or `unsafeFromValue`, and `value`. -/
structure Wrapper (Raw : Type) where
  Wrapped : Type
  unsafeFrom : Raw → Wrapped
  value : Wrapped → Raw
  value_unsafeFrom : ∀ raw, value (unsafeFrom raw) = raw

/-- A wrapper type that adds nothing. -/
def Wrapper.plain (Raw : Type) : Wrapper Raw := ⟨Raw, id, id, fun _ => rfl⟩

/-- What the dispatch can throw. -/
inductive KotlinException
  /-- `InvalidProtocolBufferException`. -/
  | invalidProtocolBuffer
  /-- `IllegalArgumentException`. -/
  | illegalArgument (message : String)
  /-- `IndexOutOfBoundsException`. -/
  | indexOutOfBounds
  deriving DecidableEq, Repr

variable {α β ε σ τ : Type}

/-- After a sequence of steps, a list has what each step appended to it. -/
theorem foldl_append_flatMap {step : σ → α → σ} (field : σ → List β) {added : α → List β}
    (hstep : ∀ s a, field (step s a) = field s ++ added a) (as : List α) (s : σ) :
    field (as.foldl step s) = field s ++ as.flatMap added := by
  induction as generalizing s with
  | nil => simp
  | cons a as ih => rw [List.foldl_cons, ih, hstep, List.append_assoc, List.flatMap_cons]

/-! ### Grouping -/

variable {κ : Type} [DecidableEq κ] {key : α → κ}

/-- The elements kind by kind, in the order of the kinds. -/
def group (key : α → κ) (kinds : List κ) (as : List α) : List α :=
  kinds.flatMap fun kind => as.filter fun a => key a = kind

/-- When each element has one of the kinds, grouping is a permutation. -/
theorem group_perm {kinds : List κ} (hnodup : kinds.Nodup) {as : List α}
    (hkey : ∀ a ∈ as, key a ∈ kinds) : (group key kinds as).Perm as := by
  induction kinds generalizing as with
  | nil =>
      have hnil : as = [] := List.eq_nil_iff_forall_not_mem.mpr fun a ha =>
        absurd (hkey a ha) List.not_mem_nil
      rw [hnil]
      rfl
  | cons kind kinds ih =>
      obtain ⟨hkind, hnodup⟩ := List.nodup_cons.mp hnodup
      -- The elements of the other kinds are grouped by the induction hypothesis.
      let others := as.filter fun a => !decide (key a = kind)
      have hothers : group key kinds as = group key kinds others := by
        unfold group
        refine congrArg List.flatten (List.map_congr_left ?_)
        intro kind' hkind'
        have hne : kind' ≠ kind := fun h => hkind (h ▸ hkind')
        rw [List.filter_filter]
        refine List.filter_congr ?_
        intro a _
        by_cases ha : key a = kind'
        · simp [ha, hne]
        · simp [ha]
      have hrest : (group key kinds others).Perm others := by
        refine ih hnodup ?_
        intro a ha
        obtain ⟨hmem, hne⟩ := List.mem_filter.mp ha
        cases List.mem_cons.mp (hkey a hmem) with
        | inl hsame => simp [hsame] at hne
        | inr hother => exact hother
      have hsplit : group key (kind :: kinds) as
          = (as.filter fun a => key a = kind) ++ group key kinds as := rfl
      rw [hsplit, hothers]
      exact (hrest.append_left _).trans (List.filter_append_perm _ as)

/-- The dispatchers of the kinds, one after the other, deliver the events kind by kind. -/
theorem foldlM_group {dispatcher : κ → σ → Except ε σ} {deliver : σ → α → Except ε σ}
    {as : List α}
    (h : ∀ kind s, dispatcher kind s = (as.filter fun a => key a = kind).foldlM deliver s)
    (kinds : List κ) (s : σ) :
    (kinds.map dispatcher).foldlM (fun s dispatch => dispatch s) s
      = (group key kinds as).foldlM deliver s := by
  induction kinds generalizing s with
  | nil => rfl
  | cons kind kinds ih =>
      have hsplit : group key (kind :: kinds) as
          = (as.filter fun a => key a = kind) ++ group key kinds as := rfl
      rw [List.map_cons, List.foldlM_cons, h, hsplit, List.foldlM_append]
      congr 1
      funext s
      exact ih s

/-! ### A pipe -/

/-- The native side of a pipe: a message that the callbacks append to. -/
structure EventQueue (Message Event : Type) where
  empty : Message
  /-- The callback of an event. It may fail an assertion. -/
  run : Message → Event → Except Fatal Message
  append : Message → Message → Message
  /-- What the callback appends. -/
  message : Event → Message
  /-- The number of elements of the repeated fields. -/
  elements : Message → Nat
  eq_append_of_run : ∀ m e m', run m e = .ok m' → m' = append m (message e)
  elements_empty : elements empty = 0
  elements_append : ∀ a b, elements (append a b) = elements a + elements b
  elements_message : ∀ e, elements (message e) = 1

/-- The other side of a pipe. `dispatcher` is the dispatch of the field of one kind, and `deliver`
the listener call for one event. -/
structure EventPipe {Message Event : Type} (queue : EventQueue Message Event)
    (Kind State : Type) where
  kind : Event → Kind
  /-- The order of the dispatch. -/
  kinds : List Kind
  dispatcher : Message → Kind → State → Except KotlinException State
  deliver : State → Event → Except KotlinException State
  dispatcher_empty : ∀ kind s, dispatcher queue.empty kind s = .ok s
  dispatcher_append : ∀ a b kind s,
    dispatcher (queue.append a b) kind s = dispatcher a kind s >>= dispatcher b kind
  dispatcher_other : ∀ e k, kind e ≠ k → ∀ s, dispatcher (queue.message e) k s = .ok s
  dispatcher_own : ∀ e s, dispatcher (queue.message e) (kind e) s = deliver s e

/-- The size of a message on the wire: an element of a repeated field takes its tag and its
length at least, and a message without elements takes nothing. -/
structure WireSize {Message Event : Type} (queue : EventQueue Message Event)
    (codec : Codec Message) : Prop where
  elements : ∀ m, 2 * queue.elements m ≤ codec.byteSizeLong m
  empty : codec.byteSizeLong queue.empty = 0

namespace EventQueue

variable {Message Event : Type} (queue : EventQueue Message Event)

/-- The queue after a sequence of callbacks. -/
def encode (m : Message) (es : List Event) : Message :=
  es.foldl (fun m e => queue.append m (queue.message e)) m

/-- What a sequence of callbacks has appended when it returns. -/
theorem eq_encode_of_run {m m' : Message} {es : List Event}
    (h : es.foldlM queue.run m = .ok m') : m' = queue.encode m es := by
  induction es generalizing m with
  | nil => exact (Except.ok.inj h).symm
  | cons e es ih =>
      rw [List.foldlM_cons] at h
      cases hrun : queue.run m e with
      | error fatal =>
          rw [hrun] at h
          exact nomatch h
      | ok next =>
          rw [hrun] at h
          show m' = queue.encode (queue.append m (queue.message e)) es
          rw [← queue.eq_append_of_run m e next hrun]
          exact ih h

/-- Each event is one element of the message. -/
theorem elements_encode (m : Message) (es : List Event) :
    queue.elements (queue.encode m es) = queue.elements m + es.length := by
  induction es generalizing m with
  | nil => rfl
  | cons e es ih =>
      show queue.elements (queue.encode (queue.append m (queue.message e)) es) = _
      rw [ih, queue.elements_append, queue.elements_message, List.length_cons]
      omega

end EventQueue

namespace EventPipe

variable {Message Event Kind State : Type} [DecidableEq Kind] {queue : EventQueue Message Event}
  (pipe : EventPipe queue Kind State)

/-- The dispatch of a message, one kind after the other. -/
def dispatch (m : Message) (s : State) : Except KotlinException State :=
  (pipe.kinds.map (pipe.dispatcher m)).foldlM (fun s dispatcher => dispatcher s) s

/-- A dispatcher delivers the events of its kind, in their order. -/
theorem dispatcher_encode (kind : Kind) (m : Message) (es : List Event) (s : State) :
    pipe.dispatcher (queue.encode m es) kind s
      = pipe.dispatcher m kind s >>=
          (es.filter fun e => pipe.kind e = kind).foldlM pipe.deliver := by
  induction es generalizing m with
  | nil =>
      show pipe.dispatcher m kind s = pipe.dispatcher m kind s >>= pure
      rw [bind_pure]
  | cons e es ih =>
      show pipe.dispatcher (queue.encode (queue.append m (queue.message e)) es) kind s = _
      rw [ih, pipe.dispatcher_append, bind_assoc]
      congr 1
      funext s
      by_cases hkind : pipe.kind e = kind
      · subst hkind
        rw [pipe.dispatcher_own, List.filter_cons_of_pos (by simp), List.foldlM_cons]
      · rw [pipe.dispatcher_other e kind hkind, List.filter_cons_of_neg (by simp [hkind])]
        rfl

/-- What arrives of a sequence of callbacks: each of them once, grouped by kind. -/
theorem dispatch_encode (es : List Event) (s : State) :
    pipe.dispatch (queue.encode queue.empty es) s
      = (group pipe.kind pipe.kinds es).foldlM pipe.deliver s := by
  refine foldlM_group ?_ pipe.kinds s
  intro kind s
  rw [dispatcher_encode, pipe.dispatcher_empty]
  rfl

end EventPipe

end Tox4j.Events
