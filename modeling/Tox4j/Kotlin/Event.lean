import Tox4j.Lib.ArrayList
import Tox4j.Native.Jni

/-!
# `Tox4j.Kotlin.Event`: the function multiplexer

The class `Event` of `internal/Event.kt`. It keeps the registered callbacks in an array
list. A callback of type `κ` is `some`, and `emptyCallback`, the placeholder of a removed
callback, is `none`. The mutable index of an `IdImpl` is an `Int` that its owner keeps:
`add` makes it, and `remove` takes it and gives back its new value.

`invoke` runs the callbacks in an iteration over the list (`Tox4j.Lib.ArrayList.forEach`).
The callbacks act on a state `σ` that contains the event.

The lemmas say what `remove` does to the list. A removed callback that is not the last one
becomes a placeholder, which is not a structural modification. The last one is taken off,
with every placeholder before it, and that is.
-/

set_option autoImplicit false

namespace Tox4j.Kotlin

open Tox4j.Lib Tox4j.Native

/-- What ends a computation: a Java exception, the end of the process, or an iteration that
used up its fuel. -/
inductive Thrown
  | exception (e : JavaException)
  | fatal (f : Fatal)
  | stuck
  deriving DecidableEq, Repr

/-- `Event`. -/
structure Event (κ : Type) where
  callbacks : ArrayList (Option κ)
  deriving DecidableEq, Repr

namespace Event

variable {κ : Type}

/-- `invalidIndex`. -/
def invalidIndex : Int := -1

/-- A new event. -/
def new : Event κ := ⟨.empty⟩

/-- `add`: the event and the index of the new id. -/
def add (e : Event κ) (callback : κ) : Event κ × Int :=
  let callbacks := e.callbacks.add (some callback)
  (⟨callbacks⟩, callbacks.size - 1)

/-- `pruneCallbacks`, with fuel for its recursion. -/
def pruneLoop : Nat → ArrayList (Option κ) → ArrayList (Option κ)
  | 0, l => l
  | fuel + 1, l =>
    match l.elements.getLast? with
    | some none => pruneLoop fuel l.removeLast
    | _ => l

/-- `pruneCallbacks`. Each call of it removes an element, so the size is enough fuel. -/
def pruneCallbacks (e : Event κ) : Event κ :=
  ⟨pruneLoop e.callbacks.size e.callbacks⟩

/-- `remove`: the new index of the id, and the event unless the index is out of bounds. -/
def remove (e : Event κ) (index : Int) : Int × Except JavaException (Event κ) :=
  if index != invalidIndex then
    match e.callbacks.set? index none with
    | some callbacks => (invalidIndex, .ok (pruneCallbacks ⟨callbacks⟩))
    | none => (invalidIndex, .error ⟨.indexOutOfBoundsException,
        s!"Index {index} out of bounds for length {e.callbacks.size}"⟩)
  else
    (index, .ok e)

/-- The Java exception for an error of an iteration. -/
def iterationException : ArrayList.IterationError → Thrown
  | .concurrentModification => .exception ⟨.concurrentModificationException, "null"⟩
  | .noSuchElement => .exception ⟨.noSuchElementException, "null"⟩

/-- `invoke`: run all callbacks of the event that `event` reads from the state. -/
def invoke {σ : Type} (event : σ → Event κ) (run : κ → EStateM Thrown σ Unit) :
    EStateM Thrown σ Unit :=
  ArrayList.forEach (fun s => (event s).callbacks) iterationException .stuck
    fun
      | some callback => run callback
      | none => pure ()

variable {e e' : Event κ} {c : κ} {i j : Nat}

/-! ### The registered callbacks -/

/-- The callback registered at the index `i`. -/
def slot (e : Event κ) (i : Nat) : Option κ := e.callbacks.elements[i]?.join

/-- The last element of the list is not a placeholder. -/
def Pruned (e : Event κ) : Prop := e.callbacks.elements.getLast? ≠ some none

/-- A callback in a slot is an element of the list. -/
theorem slot_eq_some_iff : e.slot i = some c ↔ e.callbacks.elements[i]? = some (some c) := by
  simp [slot, Option.join_eq_some_iff]

/-- A slot with a callback is inside the list. -/
theorem lt_size_of_slot (h : e.slot i = some c) : i < e.callbacks.size := by
  obtain ⟨hlt, -⟩ := List.getElem?_eq_some_iff.mp (slot_eq_some_iff.mp h)
  exact hlt

/-- A new event has no callback. -/
@[simp] theorem slot_new : (new : Event κ).slot i = none := by
  simp [slot, new, ArrayList.empty]

/-- The list of a new event is empty. -/
theorem pruned_new : Pruned (new : Event κ) := by
  simp [Pruned, new, ArrayList.empty]

/-- `add` puts the callback behind all others, and moves none. -/
theorem slot_add : (e.add c).1.slot i = if i = e.callbacks.size then some c else e.slot i := by
  unfold slot add ArrayList.add ArrayList.size
  by_cases h : i = e.callbacks.elements.length
  · simp [h]
  · rw [if_neg h]
    by_cases hlt : i < e.callbacks.elements.length
    · simp [List.getElem?_append_left hlt]
    · have hge : e.callbacks.elements.length + 1 ≤ i := by omega
      rw [List.getElem?_eq_none (by simpa using hge), List.getElem?_eq_none (by omega)]

/-- The id of a new callback is its position. -/
theorem index_add : (e.add c).2 = e.callbacks.size := by
  simp [add, ArrayList.add, ArrayList.size]

/-- After `add` the last element is a callback. -/
theorem pruned_add : Pruned (e.add c).1 := by
  simp [Pruned, add, ArrayList.add]

/-- A list without trailing placeholders and without registered callbacks is empty. -/
theorem Pruned.elements_eq_nil (h : Pruned e) (hslot : ∀ i, e.slot i = none) :
    e.callbacks.elements = [] := by
  cases hlast : e.callbacks.elements.getLast? with
  | none => exact List.getLast?_eq_none_iff.mp hlast
  | some x =>
      cases x with
      | none => exact absurd hlast h
      | some c =>
          rw [List.getLast?_eq_getElem?] at hlast
          have hsome := hslot (e.callbacks.elements.length - 1)
          rw [slot_eq_some_iff.mpr hlast] at hsome
          exact nomatch hsome

/-! ### Pruning and removing -/

/-- Pruning takes placeholders off the end, and the number of structural modifications tells
how many. -/
theorem pruneLoop_spec (fuel : Nat) (l : ArrayList (Option κ)) :
    ∃ n, l.elements = (pruneLoop fuel l).elements ++ List.replicate n none ∧
      (pruneLoop fuel l).modCount = l.modCount + n ∧
      (l.size ≤ fuel → (pruneLoop fuel l).elements.getLast? ≠ some none) := by
  induction fuel generalizing l with
  | zero =>
      refine ⟨0, by simp [pruneLoop], rfl, fun h => ?_⟩
      have hnil : l.elements = [] := List.eq_nil_of_length_eq_zero (Nat.le_zero.mp h)
      simp [pruneLoop, hnil]
  | succ fuel ih =>
      unfold pruneLoop
      split
      · -- One placeholder is taken off, and the induction hypothesis has the others.
        rename_i hlast
        obtain ⟨xs, hxs⟩ := List.getLast?_eq_some_iff.mp hlast
        have hremove : l.removeLast = ⟨xs, l.modCount + 1⟩ := by
          simp [ArrayList.removeLast, hxs]
        obtain ⟨n, helements, hmod, hpruned⟩ := ih l.removeLast
        rw [hremove] at helements hmod hpruned ⊢
        have hmod' : _ = l.modCount + 1 + n := hmod
        refine ⟨n + 1, ?_, by omega, fun h => hpruned ?_⟩
        · rw [hxs, List.replicate_succ', ← List.append_assoc]
          exact congrArg (· ++ [none]) helements
        · have hlen := congrArg List.length hxs
          simp only [List.length_append, List.length_singleton] at hlen
          unfold ArrayList.size at h
          show xs.length ≤ fuel
          omega
      · rename_i hlast
        exact ⟨0, by simp, rfl, fun _ h => hlast h⟩

/-- Placeholders at the end of a list are slots without a callback. -/
theorem slot_append_replicate (xs : List (Option κ)) (n : Nat) :
    ((xs ++ List.replicate n none)[i]?).join = xs[i]?.join := by
  by_cases hlt : i < xs.length
  · rw [List.getElem?_append_left hlt]
  · -- Behind the end both sides have no callback.
    have hnone : xs[i]? = none := List.getElem?_eq_none (by omega)
    rw [List.getElem?_append_right (by omega), hnone, List.getElem?_replicate]
    split <;> rfl

/-- `pruneCallbacks` takes away slots without a callback only. -/
@[simp] theorem slot_pruneCallbacks : (pruneCallbacks e).slot i = e.slot i := by
  obtain ⟨n, helements, -, -⟩ := pruneLoop_spec e.callbacks.size e.callbacks
  unfold slot pruneCallbacks
  conv_rhs => rw [helements]
  exact (slot_append_replicate _ n).symm

/-- After `pruneCallbacks` the last element is a callback, or the list is empty. -/
theorem pruned_pruneCallbacks : Pruned (pruneCallbacks e) := by
  obtain ⟨-, -, -, hpruned⟩ := pruneLoop_spec e.callbacks.size e.callbacks
  exact hpruned (Nat.le_refl _)

/-- The event after the callback at the index `i` was removed. -/
def removed (e : Event κ) (i : Nat) : Event κ :=
  pruneCallbacks ⟨{ e.callbacks with elements := e.callbacks.elements.set i none }⟩

/-- An id whose index was reset removes nothing. -/
theorem remove_invalid : e.remove invalidIndex = (invalidIndex, .ok e) := rfl

/-- An id with the index of a registered callback removes it. -/
theorem remove_slot (h : e.slot i = some c) :
    e.remove i = (invalidIndex, .ok (e.removed i)) := by
  have hlt := lt_size_of_slot h
  have hne : ((i : Int) != invalidIndex) = true := by
    simp only [invalidIndex, bne_iff_ne, ne_eq]
    omega
  simp [remove, hne, ArrayList.set?, hlt, removed]

/-- `remove` empties the slot of its id, and no other. -/
theorem slot_removed : (e.removed i).slot j = if j = i then none else e.slot j := by
  rw [removed, slot_pruneCallbacks]
  unfold slot
  by_cases h : j = i
  · subst h
    by_cases hlt : j < e.callbacks.elements.length
    · simp [hlt]
    · simp [hlt]
  · rw [if_neg h, List.getElem?_set_ne (Ne.symm h)]

/-- `remove` ends with `pruneCallbacks`, so the last element is a callback, or the list is empty. -/
theorem pruned_removed : Pruned (e.removed i) := pruned_pruneCallbacks

/-- Removing a callback before the last one modifies nothing structurally. -/
theorem removed_of_lt (h : Pruned e) (hi : i + 1 < e.callbacks.size) :
    (e.removed i).callbacks.size = e.callbacks.size ∧
      (e.removed i).callbacks.modCount = e.callbacks.modCount := by
  obtain ⟨n, helements, hmod, -⟩ := pruneLoop_spec
    (ArrayList.size ⟨e.callbacks.elements.set i none, e.callbacks.modCount⟩)
    ⟨e.callbacks.elements.set i none, e.callbacks.modCount⟩
  have hlast : (e.callbacks.elements.set i none).getLast? ≠ some none := by
    rw [List.getLast?_eq_getElem?, List.length_set, List.getElem?_set_ne ?_,
      ← List.getLast?_eq_getElem?]
    · exact h
    · unfold ArrayList.size at hi
      omega
  -- The last element is still a callback, so there is nothing to prune.
  have hn : n = 0 := by
    cases n with
    | zero => rfl
    | succ n =>
        have hsplit : e.callbacks.elements.set i none = _ ++ List.replicate (n + 1) none :=
          helements
        refine absurd ?_ hlast
        rw [hsplit, List.replicate_succ', ← List.append_assoc, List.getLast?_concat]
  subst hn
  have hlen : (e.callbacks.elements.set i none).length = _ := congrArg List.length helements
  refine ⟨?_, hmod⟩
  rw [List.length_set, List.replicate_zero, List.append_nil] at hlen
  exact hlen.symm

/-- A placeholder is not the last element. -/
theorem Pruned.lt_of_none (h : Pruned e) (hi : e.callbacks.elements[i]? = some none) :
    i + 1 < e.callbacks.size := by
  obtain ⟨hlt, -⟩ := List.getElem?_eq_some_iff.mp hi
  by_contra hge
  have hlast : i = e.callbacks.elements.length - 1 := by
    unfold ArrayList.size at hge
    omega
  refine h ?_
  rw [List.getLast?_eq_getElem?, ← hlast, hi]

/-- Removing the last callback is a structural modification. -/
theorem removed_of_last (hi : i + 1 = e.callbacks.size) :
    (e.removed i).callbacks.modCount ≠ e.callbacks.modCount := by
  obtain ⟨n, helements, hmod, hpruned⟩ := pruneLoop_spec
    (ArrayList.size ⟨e.callbacks.elements.set i none, e.callbacks.modCount⟩)
    ⟨e.callbacks.elements.set i none, e.callbacks.modCount⟩
  have hlast : (e.callbacks.elements.set i none).getLast? = some none := by
    unfold ArrayList.size at hi
    rw [List.getLast?_eq_getElem?, List.length_set, ← hi, Nat.add_sub_cancel,
      List.getElem?_set_self (by omega)]
  -- If nothing was pruned, the last element would still be the placeholder.
  intro hsame
  have hn : n = 0 := by
    have hmod' : (e.removed i).callbacks.modCount = e.callbacks.modCount + n := hmod
    omega
  subst hn
  have hsame : e.callbacks.elements.set i none = _ ++ List.replicate 0 none := helements
  rw [List.replicate_zero, List.append_nil] at hsame
  exact hpruned (Nat.le_refl _) (hsame ▸ hlast)

/-- Removing the last callback when no other is registered leaves the list empty. -/
theorem elements_removed_of_last (hi : i + 1 = e.callbacks.size)
    (hbefore : ∀ j < i, e.slot j = none) : (e.removed i).callbacks.elements = [] := by
  refine pruned_removed.elements_eq_nil fun j => ?_
  rw [slot_removed]
  split
  · rfl
  · rename_i hji
    by_cases hj : j < i
    · exact hbefore j hj
    · refine Option.eq_none_iff_forall_ne_some.mpr ?_
      intro c hc
      have hlt := lt_size_of_slot hc
      omega

/-! ### Invoking callbacks that remove themselves -/

section Invoke

variable {σ : Type} {event : σ → Event κ} {run : κ → EStateM Thrown σ Unit}

/-- Every registered callback returns, keeps `I`, and removes itself from the event. -/
def SelfRemoving (event : σ → Event κ) (run : κ → EStateM Thrown σ Unit) (I : σ → Prop) : Prop :=
  ∀ s i c, I s → (event s).slot i = some c →
    ∃ s', run c s = .ok () s' ∧ I s' ∧ event s' = (event s).removed i

/-- The rounds of `invoke` from the index `k` on, when all callbacks before `k` are removed.
The last callback takes the list down to nothing, so the iterator finds its cursor away from
the end and the list modified. -/
theorem invoke_loop {I : σ → Prop} (hself : SelfRemoving event run I)
    (fuel k modCount : Nat) (s : σ) (hI : I s) (hpruned : (event s).Pruned)
    (hmod : (event s).callbacks.modCount = modCount) (hk : k < (event s).callbacks.size)
    (hfuel : (event s).callbacks.size < k + fuel)
    (hbefore : ∀ j < k, (event s).slot j = none) :
    ∃ s', ArrayList.forEachLoop (fun s => (event s).callbacks) iterationException .stuck
        (fun
          | some callback => run callback
          | none => pure ())
        fuel ⟨k, modCount⟩ s
      = .error (iterationException .concurrentModification) s' ∧
      I s' ∧ (event s').callbacks.elements = [] := by
  induction fuel generalizing k s with
  | zero => omega
  | succ fuel ih =>
      obtain ⟨x, hx⟩ : ∃ x, (event s).callbacks.elements[k]? = some x :=
        ⟨_, List.getElem?_eq_getElem hk⟩
      rw [ArrayList.forEachLoop_next hmod hx]
      cases x with
      | none =>
          -- A placeholder is skipped, and there is a callback behind it.
          refine ih (k + 1) s hI hpruned hmod (hpruned.lt_of_none hx) (by omega) fun j hj => ?_
          by_cases hjk : j = k
          · simp [slot, hjk, hx]
          · exact hbefore j (by omega)
      | some c =>
          have hslot : (event s).slot k = some c := slot_eq_some_iff.mpr hx
          obtain ⟨s', hrun, hI', hevent⟩ := hself s k c hI hslot
          have hbefore' : ∀ j < k + 1, (event s').slot j = none := fun j hj => by
            rw [hevent, slot_removed]
            split
            · rfl
            · exact hbefore j (by omega)
          have hpruned' : (event s').Pruned := hevent ▸ pruned_removed
          show ∃ s'', (run c >>= fun _ => _) s = _ ∧ _
          simp only [bind, EStateM.bind, hrun]
          by_cases hend : k + 1 < (event s).callbacks.size
          · -- The list keeps its length, so the iterator does not notice the removal.
            obtain ⟨hsize, hmodc⟩ := removed_of_lt hpruned hend
            refine ih (k + 1) s' hI' hpruned' ?_ ?_ ?_ hbefore'
            · rw [hevent, hmodc, hmod]
            · rw [hevent, hsize]
              exact hend
            · rw [hevent, hsize]
              omega
          · -- The list is empty now, and the cursor is behind its end.
            have heq : k + 1 = (event s).callbacks.size := by omega
            have hnil : (event s').callbacks.elements = [] := by
              rw [hevent]
              exact elements_removed_of_last heq hbefore
            -- One more round is left, in which the iterator compares the counts.
            obtain ⟨fuel', rfl⟩ : ∃ fuel', fuel = fuel' + 1 := ⟨fuel - 1, by omega⟩
            refine ⟨s', ?_, hI', hnil⟩
            refine ArrayList.forEachLoop_modified ?_ ?_
            · simp [ArrayList.size, hnil]
            · show (event s').callbacks.modCount ≠ modCount
              rw [hevent, ← hmod]
              exact removed_of_last heq

/-- `invoke` on an event whose callbacks remove themselves: with no callback registered it
returns, and else it runs them and throws `ConcurrentModificationException`. -/
theorem invoke_selfRemoving {I : σ → Prop} (hself : SelfRemoving event run I) {s : σ}
    (hI : I s) (hpruned : (event s).Pruned) (hne : (event s).callbacks.elements ≠ []) :
    ∃ s', invoke event run s = .error (iterationException .concurrentModification) s' ∧
      I s' ∧ (event s').callbacks.elements = [] :=
  invoke_loop hself ((event s).callbacks.size + 1) 0 _ s hI hpruned rfl
    (List.length_pos_iff.mpr hne) (by omega) fun j hj => absurd hj (Nat.not_lt_zero j)

/-- `invoke` without callbacks returns at once. -/
theorem invoke_nil {s : σ} (h : (event s).callbacks.elements = []) :
    invoke event run s = .ok () s :=
  ArrayList.forEach_nil h

end Invoke

end Event

end Tox4j.Kotlin
