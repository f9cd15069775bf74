import Mathlib

/-!
# `Tox4j.Lib.Waiting`: who waits for whom

A snapshot of threads that share mutexes: `wants t` is the mutex that the thread `t` waits
for, and `holds t m` says that it holds the mutex `m`. A set of threads is deadlocked when
each of them waits for a mutex that another one of them holds. So none of them moves again.

`Deadlocked.follow` is the rule to reason about such a set: from a thread and the mutex it
waits for, it leads on to a holder of that mutex in the set, which waits as well.

A thread also waits for whom the holder waits for, and so on (`WaitsOn`).
`WaitsOn.last` is the end of such a chain: its last mutex, and who waits for it.
-/

set_option autoImplicit false

namespace Tox4j.Lib

/-- What each thread waits for and holds. -/
structure Waiting (Tid Mutex : Type) where
  wants : Tid → Option Mutex
  holds : Tid → Mutex → Prop

namespace Waiting

variable {Tid Mutex : Type} (w : Waiting Tid Mutex)

/-- The thread `t` waits for a mutex that the other thread `u` holds. -/
def WaitsFor (t u : Tid) : Prop :=
  u ≠ t ∧ ∃ m, w.wants t = some m ∧ w.holds u m

/-- The thread `t` waits for `u`, directly or through other threads that wait. -/
def WaitsOn : Tid → Tid → Prop := Relation.TransGen w.WaitsFor

/-- Every thread of the set waits for another one of the set. -/
def Deadlocked (threads : Set Tid) : Prop :=
  threads.Nonempty ∧ ∀ t ∈ threads, ∃ u ∈ threads, w.WaitsFor t u

variable {w} {threads : Set Tid} {t : Tid} {m : Mutex}

/-- Every thread of a deadlocked set waits. -/
theorem Deadlocked.wants (h : w.Deadlocked threads) (ht : t ∈ threads) :
    ∃ m, w.wants t = some m := by
  obtain ⟨u, -, -, m, hm, -⟩ := h.2 t ht
  exact ⟨m, hm⟩

/-- A mutex that a thread of a deadlocked set waits for is held by another thread of the
set. -/
theorem Deadlocked.follow (h : w.Deadlocked threads) (ht : t ∈ threads)
    (hm : w.wants t = some m) : ∃ u ∈ threads, u ≠ t ∧ w.holds u m := by
  obtain ⟨u, hu, hne, m', hm', hholds⟩ := h.2 t ht
  obtain rfl : m' = m := Option.some.inj (hm'.symm.trans hm)
  exact ⟨u, hu, hne, hholds⟩

/-- The last link of a chain. -/
theorem WaitsOn.last {u : Tid} (h : w.WaitsOn t u) :
    ∃ v m, (v = t ∨ w.WaitsOn t v) ∧ w.wants v = some m ∧ w.holds u m := by
  cases h with
  | single h =>
      obtain ⟨-, m, hm, hholds⟩ := h
      exact ⟨t, m, .inl rfl, hm, hholds⟩
  | tail hchain h =>
      rename_i v
      obtain ⟨-, m, hm, hholds⟩ := h
      exact ⟨v, m, .inr hchain, hm, hholds⟩

end Waiting

end Tox4j.Lib
