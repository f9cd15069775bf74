import Tox4j.Kotlin.Event

/-!
# `Tox4j.Kotlin.Multiplexer`: what an event runs after any adds and removes

`Owned` is an event with the ids that it made. An id is an object with a mutable index, so
`remove` takes the number of the `add` that made it. An id can be removed again at any time.

`history` says what the calls mean: each `add` makes a handler, and a `remove` of its id, the
first or a later one, makes it unregistered. `Layout` relates the handlers and their ids to
the slots of the list. `Layout.add`, `Layout.remove` and `Layout.prune` are the three things
that happen to the list, and each is an induction over the layout.

`multiplexer_law` is the main result. After any calls, `invoke` runs the registered handlers,
each once and in the order of their adds.
-/

set_option autoImplicit false

namespace Tox4j.Kotlin

open Tox4j.Lib Tox4j.Native

variable {κ : Type}

/-- A call to an event. -/
inductive EventCall (κ : Type)
  | add (callback : κ)
  /-- `remove`, with the id that the `add` with this number returned. -/
  | remove (number : Nat)
  deriving DecidableEq, Repr

/-- An event, and the indices in the ids that its `add` calls returned. -/
structure Owned (κ : Type) where
  event : Event κ
  ids : List Int
  deriving DecidableEq, Repr

namespace Owned

/-- A new event. -/
def new : Owned κ := ⟨.new, []⟩

/-- Perform a call. An id that was never returned cannot be removed. -/
def perform (o : Owned κ) : EventCall κ → Except JavaException (Owned κ)
  | .add callback =>
    let (event, index) := o.event.add callback
    .ok ⟨event, o.ids ++ [index]⟩
  | .remove number =>
    match o.ids[number]? with
    | none => .ok o
    | some index =>
      let (index, result) := o.event.remove index
      result.map fun event => ⟨event, o.ids.set number index⟩

/-- Perform calls, one after the other. -/
def performAll (calls : List (EventCall κ)) : Except JavaException (Owned κ) :=
  calls.foldlM perform new

end Owned

/-! ### What the calls mean -/

/-- A callback that was added, and whether its id was removed since. -/
structure Handler (κ : Type) where
  callback : κ
  registered : Bool
  deriving DecidableEq, Repr

/-- What a call does to the handlers. -/
def record (hs : List (Handler κ)) : EventCall κ → List (Handler κ)
  | .add callback => hs ++ [⟨callback, true⟩]
  | .remove number => hs.modify number fun h => { h with registered := false }

/-- The handlers after some calls, in the order of their adds. -/
def history (calls : List (EventCall κ)) : List (Handler κ) := calls.foldl record []

/-- The callbacks that are still registered. -/
def registeredCallbacks (hs : List (Handler κ)) : List κ :=
  (hs.filter Handler.registered).map Handler.callback

/-- Removing the id of a handler makes it unregistered. -/
theorem record_remove {hs : List (Handler κ)} {k : Nat} {c : κ} {b : Bool}
    (hk : hs[k]? = some ⟨c, b⟩) : record hs (.remove k) = hs.set k ⟨c, false⟩ := by
  refine List.ext_getElem? fun j => ?_
  by_cases hj : k = j
  · subst hj
    obtain ⟨hlt, -⟩ := List.getElem?_eq_some_iff.mp hk
    rw [record, List.getElem?_modify_eq, hk, List.getElem?_set_self hlt]
    rfl
  · rw [record, List.getElem?_modify_ne _ _ hj, List.getElem?_set_ne hj]

/-- Removing the id of a handler that is not registered, or no id, records nothing. -/
theorem record_stale {hs : List (Handler κ)} {k : Nat} (hk : ∀ c, hs[k]? ≠ some ⟨c, true⟩) :
    record hs (.remove k) = hs := by
  cases hget : hs[k]? with
  | none => exact List.modify_eq_self (List.getElem?_eq_none_iff.mp hget)
  | some handler =>
      obtain ⟨c, live⟩ := handler
      cases live with
      | true => exact absurd hget (hk c)
      | false =>
          rw [record_remove hget]
          obtain ⟨hlt, hval⟩ := List.getElem?_eq_some_iff.mp hget
          rw [← hval]
          exact List.set_getElem_self hlt

/-! ### The layout of the list -/

/-- The slots from the index `n` on hold the registered handlers, in order and with gaps. The
id of a registered handler has the index of its slot, and that of another is reset. -/
inductive Layout : List (Handler κ) → List Int → Nat → List (Option κ) → Prop
  | nil {n : Nat} : Layout [] [] n []
  | gap {hs : List (Handler κ)} {ids : List Int} {n : Nat} {slots : List (Option κ)}
      (h : Layout hs ids (n + 1) slots) : Layout hs ids n (none :: slots)
  | unregistered {hs : List (Handler κ)} {ids : List Int} {n : Nat} {slots : List (Option κ)}
      {c : κ} (h : Layout hs ids n slots) :
      Layout (⟨c, false⟩ :: hs) (Event.invalidIndex :: ids) n slots
  | registered {hs : List (Handler κ)} {ids : List Int} {n : Nat} {slots : List (Option κ)}
      {c : κ} (h : Layout hs ids (n + 1) slots) :
      Layout (⟨c, true⟩ :: hs) ((n : Int) :: ids) n (some c :: slots)

namespace Layout

variable {hs : List (Handler κ)} {ids : List Int} {n : Nat} {slots : List (Option κ)} {c : κ}

/-- There is one id for each handler. -/
theorem length_ids (h : Layout hs ids n slots) : ids.length = hs.length := by
  induction h with
  | nil => rfl
  | gap _ ih => exact ih
  | unregistered _ ih => simp [ih]
  | registered _ ih => simp [ih]

/-- The slots hold the registered callbacks in order. -/
theorem reduceOption_slots (h : Layout hs ids n slots) :
    slots.reduceOption = registeredCallbacks hs := by
  induction h with
  | nil => rfl
  | gap _ ih => simpa using ih
  | unregistered _ ih => simpa [registeredCallbacks] using ih
  | registered _ ih => simpa [registeredCallbacks] using ih

/-- The id of a handler that is not registered is reset. -/
theorem ids_unregistered (h : Layout hs ids n slots) {k : Nat} (hk : hs[k]? = some ⟨c, false⟩) :
    ids[k]? = some Event.invalidIndex := by
  induction h generalizing k with
  | nil => exact nomatch hk
  | gap _ ih => exact ih hk
  | unregistered _ ih =>
      cases k with
      | zero => rfl
      | succ k => exact ih hk
  | registered _ ih =>
      cases k with
      | zero => exact nomatch hk
      | succ k => exact ih hk

/-- A new handler goes to a new slot at the end. -/
theorem add (h : Layout hs ids n slots) (c : κ) :
    Layout (hs ++ [⟨c, true⟩]) (ids ++ [((n + slots.length : Nat) : Int)]) n
      (slots ++ [some c]) := by
  -- The slot at the end is reached when the layout is used up.
  induction h with
  | nil => exact .registered .nil
  | @gap hs ids n slots _ ih =>
      have hnext : n + 1 + slots.length = n + (none :: slots).length := by
        rw [List.length_cons]
        omega
      exact .gap (hnext ▸ ih)
  | unregistered _ ih => exact .unregistered ih
  | @registered hs ids n slots c' _ ih =>
      have hnext : n + 1 + slots.length = n + (some c' :: slots).length := by
        rw [List.length_cons]
        omega
      exact .registered (hnext ▸ ih)

/-- The id of a registered handler has the index of a slot with its callback. When that slot is
emptied and the id reset, the handler is not registered any more. -/
theorem remove (h : Layout hs ids n slots) {k : Nat} (hk : hs[k]? = some ⟨c, true⟩) :
    ∃ i : Nat, ids[k]? = some ((n + i : Nat) : Int) ∧ slots[i]? = some (some c) ∧
      Layout (hs.set k ⟨c, false⟩) (ids.set k Event.invalidIndex) n (slots.set i none) := by
  induction h generalizing k with
  | nil => exact nomatch hk
  | @gap hs ids n slots _ ih =>
      obtain ⟨i, hid, hslot, hlayout⟩ := ih hk
      have hnext : n + 1 + i = n + (i + 1) := by omega
      exact ⟨i + 1, hnext ▸ hid, hslot, .gap hlayout⟩
  | unregistered _ ih =>
      cases k with
      | zero => exact nomatch hk
      | succ k =>
          obtain ⟨i, hid, hslot, hlayout⟩ := ih hk
          exact ⟨i, hid, hslot, .unregistered hlayout⟩
  | @registered hs ids n slots c' hrest ih =>
      cases k with
      | zero =>
          obtain rfl : c' = c := by simpa using hk
          -- The slot becomes a gap, and the handler stays on record.
          exact ⟨0, rfl, rfl, .unregistered (.gap hrest)⟩
      | succ k =>
          obtain ⟨i, hid, hslot, hlayout⟩ := ih hk
          have hnext : n + 1 + i = n + (i + 1) := by omega
          exact ⟨i + 1, hnext ▸ hid, hslot, .registered hlayout⟩

/-- Without slots the start index does not matter. -/
theorem of_nil (h : Layout hs ids n []) (m : Nat) : Layout hs ids m [] := by
  generalize hslots : ([] : List (Option κ)) = slots at h ⊢
  induction h with
  | nil => exact .nil
  | gap _ _ => exact nomatch hslots
  | unregistered _ ih => exact .unregistered (ih hslots)
  | registered _ _ => exact nomatch hslots

/-- A gap at the end can be taken off. -/
theorem dropGap (h : Layout hs ids n (slots ++ [none])) : Layout hs ids n slots := by
  generalize hslots : slots ++ [none] = all at h
  induction h generalizing slots with
  | nil => exact absurd hslots (by simp)
  | @gap hs ids n rest hrest ih =>
      cases slots with
      | nil =>
          -- The gap was the last slot. What is left has no slots.
          obtain rfl : rest = [] := by simpa using hslots.symm
          exact hrest.of_nil n
      | cons x slots =>
          obtain ⟨rfl, htail⟩ := List.cons.inj hslots
          exact .gap (ih htail)
  | unregistered _ ih => exact .unregistered (ih hslots)
  | registered _ ih =>
      cases slots with
      | nil => exact absurd hslots (by simp)
      | cons x slots =>
          obtain ⟨rfl, htail⟩ := List.cons.inj hslots
          exact .registered (ih htail)

/-- Pruning keeps the layout. -/
theorem prune {m : Nat} (h : Layout hs ids n (slots ++ List.replicate m none)) :
    Layout hs ids n slots := by
  induction m with
  | zero => simpa using h
  | succ m ih =>
      rw [List.replicate_succ', ← List.append_assoc] at h
      exact ih h.dropGap

end Layout

/-! ### Calls keep the layout -/

namespace Owned

variable {o : Owned κ} {hs : List (Handler κ)}

/-- What holds between the calls. -/
structure Tidy (o : Owned κ) (hs : List (Handler κ)) : Prop where
  layout : Layout hs o.ids 0 o.event.callbacks.elements
  pruned : o.event.Pruned

/-- A new event is tidy, and nothing was added to it. -/
theorem tidy_new : (new : Owned κ).Tidy [] where
  layout := .nil
  pruned := Event.pruned_new

/-- An id that was removed before, or never returned, removes nothing. -/
theorem Tidy.perform_stale (h : o.Tidy hs) {k : Nat}
    (hk : ∀ c, hs[k]? ≠ some ⟨c, true⟩) : o.perform (.remove k) = .ok o := by
  cases hget : hs[k]? with
  | none =>
      -- No add has returned this id yet.
      have hlen : o.ids[k]? = none := by
        rw [List.getElem?_eq_none_iff, h.layout.length_ids, ← List.getElem?_eq_none_iff]
        exact hget
      simp [perform, hlen]
  | some handler =>
      obtain ⟨c, live⟩ := handler
      cases live with
      | true => exact absurd hget (hk c)
      | false =>
          -- The id was reset by the first removal.
          have hid := h.layout.ids_unregistered hget
          obtain ⟨hlt, hval⟩ := List.getElem?_eq_some_iff.mp hid
          have hsame : o.ids.set k Event.invalidIndex = o.ids := by
            rw [← hval]
            exact List.set_getElem_self hlt
          simp [perform, hid, Event.remove_invalid, hsame, Except.map]

/-- Each call returns, and keeps the list tidy. -/
theorem Tidy.perform (h : o.Tidy hs) (call : EventCall κ) :
    ∃ o', o.perform call = .ok o' ∧ o'.Tidy (record hs call) := by
  cases call with
  | add c =>
      refine ⟨_, rfl, ?_, Event.pruned_add⟩
      have hadd := h.layout.add c
      show Layout _ (o.ids ++ [(o.event.add c).2]) 0 (o.event.callbacks.elements ++ [some c])
      rw [Event.index_add]
      simpa [ArrayList.size, record] using hadd
  | remove k =>
      by_cases hk : ∃ c, hs[k]? = some ⟨c, true⟩
      · obtain ⟨c, hc⟩ := hk
        obtain ⟨i, hid, hslot, hlayout⟩ := h.layout.remove hc
        have hremove := Event.remove_slot (Event.slot_eq_some_iff.mpr hslot)
        have hperform : o.perform (.remove k) =
            .ok ⟨o.event.removed i, o.ids.set k Event.invalidIndex⟩ := by
          rw [Nat.zero_add] at hid
          simp [Owned.perform, hid, hremove, Except.map]
        refine ⟨_, hperform, ?_, Event.pruned_removed⟩
        rw [record_remove hc]
        -- The slot is emptied, and then the gaps at the end are taken off.
        obtain ⟨m, helements, -, -⟩ := Event.pruneLoop_spec
          (ArrayList.size ⟨o.event.callbacks.elements.set i none, o.event.callbacks.modCount⟩)
          ⟨o.event.callbacks.elements.set i none, o.event.callbacks.modCount⟩
        have hsplit : o.event.callbacks.elements.set i none =
            (o.event.removed i).callbacks.elements ++ List.replicate m none := helements
        rw [hsplit] at hlayout
        exact hlayout.prune
      · have hnone : ∀ c, hs[k]? ≠ some ⟨c, true⟩ := fun c hc => hk ⟨c, hc⟩
        exact ⟨o, h.perform_stale hnone, (record_stale hnone).symm ▸ h⟩

/-- So do calls one after the other. -/
theorem tidy_performAll (calls : List (EventCall κ)) :
    ∃ o, performAll calls = .ok o ∧ o.Tidy (history calls) := by
  suffices hfold : ∀ (o : Owned κ) hs, o.Tidy hs →
      ∃ o', calls.foldlM Owned.perform o = .ok o' ∧ o'.Tidy (calls.foldl record hs) from
    hfold new [] tidy_new
  induction calls with
  | nil => exact fun o hs h => ⟨o, rfl, h⟩
  | cons call calls ih =>
      intro o hs h
      obtain ⟨o₁, hperform, htidy⟩ := h.perform call
      obtain ⟨o', hrest, htidy'⟩ := ih o₁ _ htidy
      refine ⟨o', ?_, htidy'⟩
      rw [List.foldlM_cons, hperform]
      exact hrest

end Owned

/-! ### Invoking -/

/-- `invoke`, with callbacks that do not modify the event, runs these callbacks. -/
def Event.RunsExactly (e : Event κ) (callbacks : List κ) : Prop :=
  ∀ (σ : Type) (event : σ → Event κ) (run : κ → EStateM Thrown σ Unit) (s : σ), event s = e →
    (∀ c s s', event s = e → run c s = .ok () s' → event s' = e) →
    Event.invoke event run s = callbacks.forM run s

/-- Running the slots is running the callbacks in them. -/
theorem forM_slots {σ : Type} (run : κ → EStateM Thrown σ Unit) (slots : List (Option κ)) :
    (slots.forM fun
      | some callback => run callback
      | none => pure ()) = slots.reduceOption.forM run := by
  induction slots with
  | nil => rfl
  | cons slot slots ih =>
      cases slot with
      | none =>
          rw [List.reduceOption_cons_of_none]
          exact ih
      | some c =>
          rw [List.reduceOption_cons_of_some]
          exact congrArg (fun rest => run c >>= fun _ => rest) ih

/-- `invoke` runs the callbacks of the slots in their order, when they do not change the list. -/
theorem Event.runsExactly_reduceOption (e : Event κ) :
    e.RunsExactly e.callbacks.elements.reduceOption := by
  intro σ event run s hs hkeep
  rw [← forM_slots]
  refine ArrayList.forEach_eq_forM (congrArg Event.callbacks hs) ?_
  intro slot s s' hs hrun
  cases slot with
  | none =>
      obtain rfl : s = s' := by simpa [pure, EStateM.pure] using hrun
      exact hs
  | some c => exact congrArg Event.callbacks (hkeep c s s' (congrArg Event.mk hs) hrun)

/-- Any calls return, so that every access to the list was in range. After them:
`invoke` runs the registered callbacks, each once and in the order of their adds; removing an
id again changes nothing; and the last element of the list is not a placeholder, so that the
list is empty when nothing is registered. -/
theorem multiplexer_law (calls : List (EventCall κ)) :
    ∃ o, Owned.performAll calls = .ok o ∧
      o.event.RunsExactly (registeredCallbacks (history calls)) ∧
      (∀ k c, (history calls)[k]? = some ⟨c, false⟩ → o.perform (.remove k) = .ok o) ∧
      o.event.Pruned ∧
      (registeredCallbacks (history calls) = [] → o.event.callbacks.size = 0) := by
  obtain ⟨o, hperform, htidy⟩ := Owned.tidy_performAll calls
  have hslots := htidy.layout.reduceOption_slots
  refine ⟨o, hperform, hslots ▸ o.event.runsExactly_reduceOption, ?_, htidy.pruned, ?_⟩
  · intro k c hk
    refine htidy.perform_stale fun c' hc' => ?_
    rw [hk] at hc'
    exact nomatch hc'
  · intro hnil
    rw [hnil] at hslots
    -- A slot with a callback would be a registered one.
    have helements := htidy.pruned.elements_eq_nil fun i => ?_
    · rw [ArrayList.size, helements]
      rfl
    · refine Option.eq_none_iff_forall_ne_some.mpr fun c hc => ?_
      have hmem := List.mem_of_getElem? (Event.slot_eq_some_iff.mp hc)
      rw [← List.reduceOption_mem_iff, hslots] at hmem
      exact absurd hmem List.not_mem_nil

end Tox4j.Kotlin
