import Mathlib

/-!
# `Tox4j.Lib.ArrayList`: an array list with a fail-fast iterator

A list that counts its structural modifications. Adding and removing an element is
structural, and assigning one is not. An iterator has a cursor and the count at the time it
was made. It has a next element when its cursor is not the size of the list, and `next`
fails when the count has changed since.

`forEach` runs a body on the elements in order. The body acts on a state that contains the
list, so it can change the list while the iteration goes on. `EStateM` keeps the state of
the body when the body throws. `forEach` has fuel: `stuck` is thrown when it runs out.

`forEach_nil` and the `forEachLoop_*` equations unfold one round of the iteration.
`forEach_eq_forM` is the iteration of a body that leaves the list alone.
-/

set_option autoImplicit false

namespace Tox4j.Lib

/-- The elements, and the number of structural modifications so far. -/
structure ArrayList (α : Type) where
  elements : List α
  modCount : Nat
  deriving DecidableEq, Repr

namespace ArrayList

variable {α : Type}

/-- A new list. -/
def empty : ArrayList α := ⟨[], 0⟩

/-- The number of elements. -/
def size (l : ArrayList α) : Nat := l.elements.length

/-- Append an element. -/
def add (l : ArrayList α) (a : α) : ArrayList α :=
  ⟨l.elements ++ [a], l.modCount + 1⟩

/-- Assign an element. `none`: the index is out of bounds. -/
def set? (l : ArrayList α) (index : Int) (a : α) : Option (ArrayList α) :=
  if 0 ≤ index ∧ index.toNat < l.size then some { l with elements := l.elements.set index.toNat a }
  else none

/-- Remove the last element of a list that has one. -/
def removeLast (l : ArrayList α) : ArrayList α :=
  ⟨l.elements.dropLast, l.modCount + 1⟩

/-- A fail-fast iterator. -/
structure Iterator where
  cursor : Nat
  expectedModCount : Nat
  deriving DecidableEq, Repr

/-- A new iterator over the list. -/
def iterator (l : ArrayList α) : Iterator := ⟨0, l.modCount⟩

/-- The errors of an iteration. -/
inductive IterationError
  /-- The list was structurally modified since the iterator was made. -/
  | concurrentModification
  /-- The cursor is past the end. -/
  | noSuchElement
  deriving DecidableEq, Repr

/-- The cursor is not at the end. -/
def Iterator.hasNext (it : Iterator) (l : ArrayList α) : Bool :=
  it.cursor != l.size

/-- The element at the cursor, and the iterator behind it. -/
def Iterator.next (it : Iterator) (l : ArrayList α) : Except IterationError (α × Iterator) :=
  if l.modCount != it.expectedModCount then .error .concurrentModification
  else
    match l.elements[it.cursor]? with
    | some a => .ok (a, { it with cursor := it.cursor + 1 })
    | none => .error .noSuchElement

section ForEach

variable {σ ε : Type} (list : σ → ArrayList α) (raise : IterationError → ε) (stuck : ε)
  (body : α → EStateM ε σ Unit)

/-- The rounds of an iteration. -/
def forEachLoop : Nat → Iterator → EStateM ε σ Unit
  | 0, _ => throw stuck
  | fuel + 1, it => do
    let s ← get
    if it.hasNext (list s) then
      match it.next (list s) with
      | .error e => throw (raise e)
      | .ok (a, it) =>
        body a
        forEachLoop fuel it

/-- Run `body` on each element, with one round for each element and one for the end. -/
def forEach : EStateM ε σ Unit := do
  let s ← get
  forEachLoop list raise stuck body ((list s).size + 1) (list s).iterator

variable {list raise stuck body} {s : σ} {it : Iterator} {fuel : Nat}

/-- At the end of the list the iteration returns. -/
theorem forEachLoop_end (h : it.cursor = (list s).size) :
    forEachLoop list raise stuck body (fuel + 1) it s = .ok () s := by
  simp [forEachLoop, Iterator.hasNext, h, bind, EStateM.bind, get, getThe, MonadStateOf.get,
    EStateM.get, pure, EStateM.pure]

/-- After a structural modification the iteration throws, unless its cursor is at the end. -/
theorem forEachLoop_modified (h : it.cursor ≠ (list s).size)
    (hmod : (list s).modCount ≠ it.expectedModCount) :
    forEachLoop list raise stuck body (fuel + 1) it s
      = .error (raise .concurrentModification) s := by
  simp [forEachLoop, Iterator.hasNext, Iterator.next, h, hmod, bind, EStateM.bind, get, getThe,
    MonadStateOf.get, EStateM.get, throw, throwThe, MonadExceptOf.throw, EStateM.throw]

/-- Otherwise the body runs on the element at the cursor. -/
theorem forEachLoop_next {a : α} (hmod : (list s).modCount = it.expectedModCount)
    (ha : (list s).elements[it.cursor]? = some a) :
    forEachLoop list raise stuck body (fuel + 1) it s
      = (body a >>= fun _ => forEachLoop list raise stuck body fuel
          { it with cursor := it.cursor + 1 }) s := by
  obtain ⟨hlt, -⟩ := List.getElem?_eq_some_iff.mp ha
  have hne : it.cursor ≠ (list s).size := Nat.ne_of_lt hlt
  simp [forEachLoop, Iterator.hasNext, Iterator.next, hne, hmod, ha, bind, EStateM.bind, get,
    getThe, MonadStateOf.get, EStateM.get]

/-- An iteration over the empty list returns. -/
theorem forEach_nil (h : (list s).elements = []) :
    forEach list raise stuck body s = .ok () s := by
  have hsize : (list s).size = 0 := by simp [size, h]
  have hloop : forEachLoop list raise stuck body 1 (list s).iterator s = .ok () s :=
    forEachLoop_end (by simp [iterator, hsize])
  simpa [forEach, bind, EStateM.bind, get, getThe, MonadStateOf.get, EStateM.get, hsize]
    using hloop

/-- The rounds from the cursor `k` on, with a body that leaves the list alone. -/
theorem forEachLoop_eq_forM {l : ArrayList α}
    (hbody : ∀ a s s', list s = l → body a s = .ok () s' → list s' = l) (as : List α) (k : Nat)
    (hdrop : l.elements.drop k = as) (hfuel : as.length < fuel) (hk : k ≤ l.size)
    (s : σ) (hs : list s = l) :
    forEachLoop list raise stuck body fuel ⟨k, l.modCount⟩ s = as.forM body s := by
  induction as generalizing k fuel s with
  | nil =>
      have hend : k = l.size := Nat.le_antisymm hk (List.drop_eq_nil_iff.mp hdrop)
      obtain ⟨fuel, rfl⟩ : ∃ f, fuel = f + 1 := ⟨fuel - 1, by omega⟩
      exact forEachLoop_end (by rw [hs]; exact hend)
  | cons a as ih =>
      obtain ⟨fuel, rfl⟩ : ∃ f, fuel = f + 1 := ⟨fuel - 1, by omega⟩
      have ha : l.elements[k]? = some a := by
        rw [← List.head?_drop, hdrop, List.head?_cons]
      obtain ⟨hlt, -⟩ := List.getElem?_eq_some_iff.mp ha
      have hrest : l.elements.drop (k + 1) = as := by
        rw [← List.tail_drop, hdrop, List.tail_cons]
      rw [forEachLoop_next (congrArg modCount hs) (by rw [hs]; exact ha)]
      show (body a >>= fun _ => _) s = (body a >>= fun _ => as.forM body) s
      simp only [bind, EStateM.bind]
      cases hresult : body a s with
      | ok _ s' =>
          exact ih (k + 1) hrest (Nat.lt_of_succ_lt_succ hfuel) hlt s' (hbody a s s' hs hresult)
      | error _ _ => rfl

/-- An iteration whose body leaves the list alone runs the body on each element once. -/
theorem forEach_eq_forM {l : ArrayList α} (hs : list s = l)
    (hbody : ∀ a s s', list s = l → body a s = .ok () s' → list s' = l) :
    forEach list raise stuck body s = l.elements.forM body s := by
  have hloop : forEachLoop list raise stuck body (l.elements.length + 1) ⟨0, l.modCount⟩ s =
      l.elements.forM body s :=
    forEachLoop_eq_forM hbody l.elements 0 rfl (Nat.lt_succ_self _) (Nat.zero_le _) s hs
  simpa [forEach, bind, EStateM.bind, get, getThe, MonadStateOf.get, EStateM.get, hs, size,
    iterator] using hloop

end ForEach

end ArrayList

end Tox4j.Lib
