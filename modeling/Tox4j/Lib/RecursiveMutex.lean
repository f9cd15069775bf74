import Mathlib

/-!
# `Tox4j.Lib.RecursiveMutex`: a mutex that its owner may lock again

The state of a recursive mutex is its owner with the number of times that it locked it.
`HeldBy m depth` says that `depth` tells of every thread how often it holds the mutex `m`. So
the mutex has at most one holder (`HeldBy.one`). Every step of a thread keeps this account
(`Step.heldBy`).
-/

set_option autoImplicit false

namespace Tox4j.Lib

/-- `std::recursive_mutex`. -/
structure RecursiveMutex (Tid : Type) where
  owner : Option (Tid × Nat)
  deriving DecidableEq, Repr

namespace RecursiveMutex

variable {Tid : Type}

/-- Nobody holds it. -/
def free : RecursiveMutex Tid := ⟨none⟩

/-- Acquire the mutex. The thread waits when the result is `none`. -/
def lock [DecidableEq Tid] (m : RecursiveMutex Tid) (t : Tid) : Option (RecursiveMutex Tid) :=
  match m.owner with
  | none => some ⟨some (t, 1)⟩
  | some (owner, depth) => if owner = t then some ⟨some (t, depth + 1)⟩ else none

/-- Release the mutex once. -/
def unlock (m : RecursiveMutex Tid) : RecursiveMutex Tid :=
  match m.owner with
  | some (owner, depth + 2) => ⟨some (owner, depth + 1)⟩
  | _ => free

/-- The account of how often each thread holds the mutex. -/
def HeldBy (m : RecursiveMutex Tid) (depth : Tid → Nat) : Prop :=
  ∀ t n, m.owner = some (t, n) ↔ depth t = n ∧ n ≠ 0

variable {m m' : RecursiveMutex Tid} {depth : Tid → Nat} {t u : Tid} {n : Nat}

/-- A free mutex is held by nobody. -/
theorem heldBy_free : (free : RecursiveMutex Tid).HeldBy fun _ => 0 := by
  intro t n
  constructor
  · exact nofun
  · intro h
    exact absurd h.1.symm h.2

/-- A thread that holds the mutex is its owner, with its own count. -/
theorem HeldBy.owner (h : m.HeldBy depth) (ht : depth t ≠ 0) :
    m.owner = some (t, depth t) :=
  (h t (depth t)).mpr ⟨rfl, ht⟩

/-- At most one thread holds the mutex. -/
theorem HeldBy.one (h : m.HeldBy depth) (ht : depth t ≠ 0) (hu : depth u ≠ 0) : t = u :=
  congrArg Prod.fst (Option.some.inj ((h.owner ht).symm.trans (h.owner hu)))

variable [DecidableEq Tid]

/-- While another thread holds the mutex, a thread waits. -/
theorem HeldBy.lock_eq_none (h : m.HeldBy depth) (hu : depth u ≠ 0) (hne : u ≠ t) :
    m.lock t = none := by
  simp [lock, h.owner hu, hne]

/-- A lock adds one to the count of its thread. -/
theorem HeldBy.lock (h : m.HeldBy depth) (hlock : m.lock t = some m') :
    m'.HeldBy (Function.update depth t (depth t + 1)) := by
  unfold RecursiveMutex.lock at hlock
  intro u n
  split at hlock
  · rename_i hfree
    -- Nobody held the mutex.
    have hzero : ∀ v, depth v = 0 := by
      intro v
      by_contra hv
      exact nomatch hfree.symm.trans (h.owner hv)
    cases hlock
    by_cases hu : u = t
    · subst hu
      simp only [Function.update_self, Option.some.injEq, Prod.mk.injEq, true_and, hzero]
      omega
    · rw [Function.update_of_ne hu, hzero u]
      simp only [Option.some.injEq, Prod.mk.injEq, Ne.symm hu, false_and, false_iff]
      omega
  · rename_i owner owned howner
    split at hlock
    · rename_i heq
      subst heq
      cases hlock
      obtain ⟨hdepth, -⟩ := (h owner owned).mp howner
      by_cases hu : u = owner
      · subst hu
        simp only [Function.update_self, Option.some.injEq, Prod.mk.injEq, true_and, hdepth]
        omega
      · rw [Function.update_of_ne hu, ← h u n, howner]
        simp [Ne.symm hu]
    · exact nomatch hlock

/-- An unlock takes one from the count of its thread. -/
theorem HeldBy.unlock (h : m.HeldBy depth) (hdepth : depth t = n + 1) :
    m.unlock.HeldBy (Function.update depth t n) := by
  have howner : m.owner = some (t, n + 1) := (h t (n + 1)).mpr ⟨hdepth, Nat.succ_ne_zero n⟩
  intro u k
  by_cases hu : u = t
  · subst hu
    cases n with
    | zero =>
        simp only [RecursiveMutex.unlock, howner, free, Function.update_self, reduceCtorEq,
          false_iff]
        omega
    | succ n =>
        simp only [RecursiveMutex.unlock, howner, Function.update_self, Option.some.injEq,
          Prod.mk.injEq, true_and]
        omega
  · rw [Function.update_of_ne hu, ← h u k, howner]
    cases n <;> simp [RecursiveMutex.unlock, howner, free, Ne.symm hu]

/-- A step of the thread `t`, with how often it holds the mutex before and after. -/
inductive Step (t : Tid) : RecursiveMutex Tid → Nat → RecursiveMutex Tid → Nat → Prop
  | stay {m : RecursiveMutex Tid} {n : Nat} : Step t m n m n
  | lock {m m' : RecursiveMutex Tid} {n : Nat} (h : m.lock t = some m') : Step t m n m' (n + 1)
  | unlock {m : RecursiveMutex Tid} {n : Nat} : Step t m (n + 1) m.unlock n

/-- Outside of the step the thread holds the mutex `k` times more. -/
theorem Step.add {n' : Nat} (h : Step t m n m' n') (k : Nat) : Step t m (k + n) m' (k + n') := by
  cases h with
  | stay => exact .stay
  | lock hlock => exact .lock hlock
  | unlock => exact .unlock

/-- A step of a thread changes the count of this thread only. -/
theorem Step.heldBy (hstep : Step t m (depth t) m' n) (h : m.HeldBy depth) :
    m'.HeldBy (Function.update depth t n) := by
  generalize hd : depth t = d at hstep
  cases hstep with
  | stay =>
      rw [← hd, Function.update_eq_self]
      exact h
  | lock hlock => exact hd ▸ h.lock hlock
  | unlock => exact h.unlock hd

end RecursiveMutex

end Tox4j.Lib
