import Mathlib

/-!
# `Tox4j.Lib.OwnedHeap`: a heap whose objects have one owner each

A heap is a partial function from addresses to objects, and the owners are the indices of a table
of pointers. `Owned` says that every object has exactly one owner, and that no pointer dangles.
`contents` is the table without its pointers: the object of each owner.

Under `Owned`, an operation on the object of one owner is the same operation on `contents`. So
the objects of all other owners stay what they were: `contents_allocate`, `contents_write` and
`contents_free`.
-/

set_option autoImplicit false

namespace Tox4j.Lib

variable {ι Address α : Type} [DecidableEq ι] [DecidableEq Address]
  {heap : Address → Option α} {pointer : ι → Option Address} {n : ι} {a : Address} {x : α}

/-- Every object has exactly one owner, and every pointer is that of an object. -/
structure Owned (heap : Address → Option α) (pointer : ι → Option Address) : Prop where
  held : ∀ a, (heap a).isSome ↔ ∃ n, pointer n = some a
  unique : ∀ n k a, pointer n = some a → pointer k = some a → n = k

/-- The object of each owner. -/
def contents (heap : Address → Option α) (pointer : ι → Option Address) (n : ι) : Option α :=
  (pointer n).bind heap

namespace Owned

omit [DecidableEq ι] [DecidableEq Address] in
/-- In the empty heap nobody owns anything. -/
theorem empty : Owned (fun _ => none : Address → Option α) (fun _ => none : ι → Option Address)
    where
  held a := by simp
  unique n k a h := by simp at h

omit [DecidableEq ι] [DecidableEq Address] in
/-- A pointer leads to an object. -/
theorem exists_object (h : Owned heap pointer) (hn : pointer n = some a) :
    ∃ x, heap a = some x :=
  Option.isSome_iff_exists.mp ((h.held a).mpr ⟨n, hn⟩)

/-- A new object with a new owner. -/
theorem allocate (h : Owned heap pointer) (ha : heap a = none) (hn : pointer n = none) :
    Owned (Function.update heap a (some x)) (Function.update pointer n (some a)) where
  held b := by
    by_cases hb : b = a
    · subst hb
      rw [Function.update_self]
      exact ⟨fun _ => ⟨n, Function.update_self ..⟩, fun _ => rfl⟩
    · rw [Function.update_of_ne hb, h.held b]
      constructor
      · rintro ⟨k, hk⟩
        have hkn : k ≠ n := fun hkn => by simp [hkn, hn] at hk
        exact ⟨k, by rw [Function.update_of_ne hkn, hk]⟩
      · rintro ⟨k, hk⟩
        by_cases hkn : k = n
        · subst hkn
          rw [Function.update_self] at hk
          exact absurd (Option.some.inj hk).symm hb
        · exact ⟨k, by rwa [Function.update_of_ne hkn] at hk⟩
  unique k l b hk hl := by
    -- No earlier pointer has the new address, because nothing was there.
    have hother : ∀ i, i ≠ n → pointer i ≠ some a := fun i _ hi => by
      obtain ⟨y, hy⟩ := h.exists_object hi
      simp [ha] at hy
    by_cases hkn : k = n <;> by_cases hln : l = n
    · rw [hkn, hln]
    · subst hkn
      rw [Function.update_self] at hk
      rw [Function.update_of_ne hln, ← hk] at hl
      exact absurd hl (hother l hln)
    · subst hln
      rw [Function.update_self] at hl
      rw [Function.update_of_ne hkn, ← hl] at hk
      exact absurd hk (hother k hkn)
    · rw [Function.update_of_ne hkn] at hk
      rw [Function.update_of_ne hln] at hl
      exact h.unique k l b hk hl

/-- A new object, owned by `n`, is what `n` has then. All other owners have what they had. -/
theorem contents_allocate (h : Owned heap pointer) (ha : heap a = none) :
    contents (Function.update heap a (some x)) (Function.update pointer n (some a))
      = Function.update (contents heap pointer) n (some x) := by
  funext k
  by_cases hk : k = n
  · subst hk
    simp [contents]
  · rw [Function.update_of_ne hk, contents, contents, Function.update_of_ne hk]
    cases hp : pointer k with
    | none => rfl
    | some b =>
        have hb : b ≠ a := fun hb => by
          obtain ⟨y, hy⟩ := h.exists_object hp
          simp [hb, ha] at hy
        simp [Function.update_of_ne hb]

omit [DecidableEq ι] in
/-- An object is replaced where it is. -/
theorem write (h : Owned heap pointer) (hn : pointer n = some a) :
    Owned (Function.update heap a (some x)) pointer where
  held b := by
    by_cases hb : b = a
    · subst hb
      rw [Function.update_self]
      exact ⟨fun _ => ⟨n, hn⟩, fun _ => rfl⟩
    · rw [Function.update_of_ne hb]
      exact h.held b
  unique := h.unique

omit [DecidableEq ι] in
/-- The contents of the other owners, when one object changes. -/
theorem contents_of_ne (h : Owned heap pointer) (hn : pointer n = some a) {k : ι} (hk : k ≠ n)
    (y : Option α) : contents (Function.update heap a y) pointer k = contents heap pointer k := by
  unfold contents
  cases hp : pointer k with
  | none => rfl
  | some b =>
      have hb : b ≠ a := fun hb => hk (h.unique k n a (hb ▸ hp) hn)
      simp [Function.update_of_ne hb]

/-- A write through the pointer of `n` changes what `n` has, and nothing else. -/
theorem contents_write (h : Owned heap pointer) (hn : pointer n = some a) :
    contents (Function.update heap a (some x)) pointer
      = Function.update (contents heap pointer) n (some x) := by
  funext k
  by_cases hk : k = n
  · subst hk
    simp [contents, hn]
  · rw [Function.update_of_ne hk]
    exact h.contents_of_ne hn hk _

/-- An object is deleted together with its pointer. -/
theorem free (h : Owned heap pointer) (hn : pointer n = some a) :
    Owned (Function.update heap a none) (Function.update pointer n none) where
  held b := by
    by_cases hb : b = a
    · subst hb
      rw [Function.update_self]
      constructor
      · intro hnone
        simp at hnone
      · rintro ⟨k, hk⟩
        by_cases hkn : k = n
        · simp [hkn] at hk
        · rw [Function.update_of_ne hkn] at hk
          exact absurd (h.unique k n b hk hn) hkn
    · rw [Function.update_of_ne hb, h.held b]
      constructor
      · rintro ⟨k, hk⟩
        have hkn : k ≠ n := fun hkn => hb (Option.some.inj (hk.symm.trans (hkn ▸ hn)))
        exact ⟨k, by rw [Function.update_of_ne hkn, hk]⟩
      · rintro ⟨k, hk⟩
        by_cases hkn : k = n
        · simp [hkn] at hk
        · exact ⟨k, by rwa [Function.update_of_ne hkn] at hk⟩
  unique k l b hk hl := by
    have hne : ∀ {i : ι}, Function.update pointer n none i = some b → i ≠ n := fun hi hin => by
      simp [hin] at hi
    have hkn := hne hk
    have hln := hne hl
    rw [Function.update_of_ne hkn] at hk
    rw [Function.update_of_ne hln] at hl
    exact h.unique k l b hk hl

/-- When the object of `n` is freed, `n` has none. All other owners have what they had. -/
theorem contents_free (h : Owned heap pointer) (hn : pointer n = some a) :
    contents (Function.update heap a none) (Function.update pointer n none)
      = Function.update (contents heap pointer) n none := by
  funext k
  by_cases hk : k = n
  · subst hk
    simp [contents]
  · rw [Function.update_of_ne hk, contents, Function.update_of_ne hk]
    exact h.contents_of_ne hn hk none

end Owned

end Tox4j.Lib
