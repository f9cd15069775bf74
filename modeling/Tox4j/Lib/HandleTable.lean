import Mathlib

/-!
# `Tox4j.Lib.HandleTable`: handles that are allocated, destroyed and released

The abstract table behind a handle manager. A handle of type `ι` is free, is live with a
payload, or is killed: its payload is destroyed, but the handle is not yet free. Three
events change it. `allocate` makes a handle live, `destroy` takes a live handle to killed,
and `release` takes a killed handle to free. `destroy` and `release` on any other handle
change nothing.

`after es` is the table that the events `es` lead to, from the table where all handles are
free. `lastAllocated es n` is the payload of the most recent allocation of `n`. A live
handle has the payload of its most recent allocation (`lastAllocated_of_live`).
-/

set_option autoImplicit false

namespace Tox4j.Lib

/-- The state of a handle. -/
inductive Status (α : Type)
  | free
  | live (a : α)
  | killed
  deriving DecidableEq, Repr

/-- Destroying a handle in the state `s`. -/
def Status.destroyed {α : Type} : Status α → Status α
  | .live _ => .killed
  | s => s

/-- Releasing a handle in the state `s`. -/
def Status.released {α : Type} : Status α → Status α
  | .killed => .free
  | s => s

namespace HandleTable

/-- What can happen to a handle. -/
inductive Event (ι α : Type)
  | allocate (n : ι) (a : α)
  | destroy (n : ι)
  | release (n : ι)

variable {ι α : Type} [DecidableEq ι]

/-- One event on the table. -/
def apply (t : ι → Status α) : Event ι α → (ι → Status α)
  | .allocate n a => Function.update t n (.live a)
  | .destroy n => Function.update t n (Status.destroyed (t n))
  | .release n => Function.update t n (Status.released (t n))

/-- Destroying a handle that is not live changes nothing. -/
theorem apply_destroy_eq_self {t : ι → Status α} {n : ι} (h : ∀ a, t n ≠ .live a) :
    apply t (.destroy n) = t := by
  have hself : Status.destroyed (t n) = t n := by
    cases hn : t n with
    | live a => exact absurd hn (h a)
    | free => rfl
    | killed => rfl
  simp only [apply, hself, Function.update_eq_self]

/-- Releasing a handle that is not killed changes nothing. -/
theorem apply_release_eq_self {t : ι → Status α} {n : ι} (h : t n ≠ .killed) :
    apply t (.release n) = t := by
  have hself : Status.released (t n) = t n := by
    cases hn : t n with
    | killed => exact absurd hn h
    | free => rfl
    | live a => rfl
  simp only [apply, hself, Function.update_eq_self]

/-- The table after the events `es`, oldest first. -/
def after (es : List (Event ι α)) : ι → Status α :=
  es.foldl apply fun _ => .free

/-- Before the first event all handles are free. -/
@[simp] theorem after_nil : after ([] : List (Event ι α)) = fun _ => .free := rfl

/-- The table after one more event. -/
@[simp] theorem after_append_singleton (es : List (Event ι α)) (e : Event ι α) :
    after (es ++ [e]) = apply (after es) e := by
  simp [after]

/-- The payload that `n` has been allocated with, given its earlier payload `last`. -/
def allocatedBy (n : ι) (last : Option α) : Event ι α → Option α
  | .allocate k a => if k = n then some a else last
  | _ => last

/-- The payload of the most recent allocation of `n`. -/
def lastAllocated (es : List (Event ι α)) (n : ι) : Option α :=
  es.foldl (allocatedBy n) none

/-- A handle is live after an event when the event allocates it, or when it was live before
and the event does not allocate it. -/
theorem apply_eq_live {t : ι → Status α} {e : Event ι α} {n : ι} {a : α}
    (h : apply t e n = .live a) : e = .allocate n a ∨
      (t n = .live a ∧ ∀ b, e ≠ .allocate n b) := by
  cases e with
  | allocate k b =>
      by_cases hk : n = k
      · subst hk
        simp only [apply, Function.update_self, Status.live.injEq] at h
        exact Or.inl (by rw [h])
      · simp only [apply, Function.update_of_ne hk] at h
        exact Or.inr ⟨h, fun b hb => hk (by cases hb; rfl)⟩
  | destroy k =>
      refine Or.inr ⟨?_, fun b hb => nomatch hb⟩
      by_cases hk : n = k
      · subst hk
        cases ht : t n <;> simp [apply, Status.destroyed, ht] at h
      · simpa [apply, hk] using h
  | release k =>
      refine Or.inr ⟨?_, fun b hb => nomatch hb⟩
      by_cases hk : n = k
      · subst hk
        cases ht : t n <;> simp_all [apply, Status.released]
      · simpa [apply, hk] using h

/-- A live handle has the payload of its most recent allocation. -/
theorem lastAllocated_of_live (es : List (Event ι α)) {n : ι} {a : α}
    (h : after es n = .live a) : lastAllocated es n = some a := by
  induction es using List.reverseRecOn with
  | nil => simp at h
  | append_singleton es e ih =>
      rw [after_append_singleton] at h
      have hlast : lastAllocated (es ++ [e]) n = allocatedBy n (lastAllocated es n) e := by
        simp [lastAllocated]
      rw [hlast]
      rcases apply_eq_live h with rfl | ⟨hlive, hne⟩
      · simp [allocatedBy]
      · cases e with
        | allocate k b =>
            have hk : k ≠ n := fun hk => hne b (by rw [hk])
            simp [allocatedBy, hk, ih hlive]
        | destroy k => exact ih hlive
        | release k => exact ih hlive

/-- A live handle was allocated with its payload. -/
theorem mem_of_live (es : List (Event ι α)) {n : ι} {a : α} (h : after es n = .live a) :
    .allocate n a ∈ es := by
  induction es using List.reverseRecOn with
  | nil => simp at h
  | append_singleton es e ih =>
      rw [after_append_singleton] at h
      rcases apply_eq_live h with rfl | ⟨hlive, -⟩
      · exact List.mem_append_right _ (List.mem_singleton_self _)
      · exact List.mem_append_left _ (ih hlive)

/-- When no payload is allocated twice, no two handles are live with the same payload. -/
theorem live_unique (es : List (Event ι α))
    (hes : es.Pairwise fun e e' => ∀ n k a, e = .allocate n a → e' ≠ .allocate k a) {n k : ι}
    {a : α} (hn : after es n = .live a) (hk : after es k = .live a) : n = k := by
  induction es using List.reverseRecOn with
  | nil => simp at hn
  | append_singleton es e ih =>
      rw [after_append_singleton] at hn hk
      obtain ⟨hes, -, hlast⟩ := List.pairwise_append.mp hes
      -- An earlier allocation of the payload and this one would be two of them.
      have htwice : ∀ {i j : ι}, after es i = .live a → e ≠ .allocate j a := fun {i j} hi =>
        hlast _ (mem_of_live es hi) e (List.mem_singleton_self e) i j a rfl
      rcases apply_eq_live hn with hen | ⟨hn, -⟩ <;> rcases apply_eq_live hk with hek | ⟨hk, -⟩
      · rw [hen] at hek
        cases hek
        rfl
      · exact absurd hen (htwice hk)
      · exact absurd hek (htwice hn)
      · exact ih hes hn hk

end HandleTable

end Tox4j.Lib
