import Tox4j.Lib.Exclusive
import Tox4j.Native.ManagerSpec
import Tox4j.Native.Threads

/-!
# `Tox4j.Native.ThreadLocks`: who holds which mutex

`Frame.holdsManager` and `Frame.lock?` say which mutexes a thread holds at a point of its
code. `Locks` is the invariant that makes them mutexes: a mutex that is held is locked, and
it is held at one place only. `Locks.advance` says that every step keeps it.

A place is a thread and the depth of a call in its stack.
-/

set_option autoImplicit false

namespace Tox4j.Native.Threads

open Tox4j.Lib

/-- At this point the thread holds the mutex of the manager. -/
def Frame.holdsManager : Frame → Bool
  | .addChoose _ | .addTest _ _ | .addObject _ _ | .addEvents _ _ | .addRelocate _
  | .addEmplace | .addUnlock => true
  | .killCheck _ | .killLockSlot _ | .killObject _ | .killEvents _ _
  | .killDestroyEvents _ _ _ | .killDestroyObject _ _ | .killUnlockSlot _ | .killUnlock => true
  | .finalizeCheck _ | .finalizeTest _ | .finalizePush _ | .finalizeUnlock => true
  | .withCheck _ | .withRefused | .withLockSlot _ | .withObject _ | .withEvents _ _
  | .withUnlock _ _ _ => true
  | _ => false

/-- The index of the slot whose mutex the thread holds at this point. -/
def Frame.lock? : Frame → Option Nat
  | .killObject n | .killEvents n _ | .killDestroyEvents n _ _ | .killDestroyObject n _
  | .killUnlockSlot n => InstanceManager.index? n
  | .withObject n | .withEvents n _ | .withUnlock n _ _ | .withTest n _ _ | .withFunc n _ _
  | .withUnlockSlot n => InstanceManager.index? n
  | _ => none

variable {ι : Type} {s s' : Shared} {F : ι → Option Frame} {p q : ι} {f g : Frame}
  {r : Option Frame} {n : Jint} {i : Nat}

/-- A mutex that is held is locked, and is held at one place only. -/
structure Locks (s : Shared) (F : ι → Option Frame) : Prop where
  manager : Every F fun f => f.holdsManager = true → s.mutex.locked = true
  manager_one : Exclusive F fun f (_ : Unit) => f.holdsManager = true
  slot : Every F fun f => ∀ i, f.lock? = some i → s.manager.locks[i]? = some ⟨true⟩
  slot_one : Exclusive F fun f i => f.lock? = some i

/-- Without a thread in a call no mutex is held. -/
theorem locks_none : Locks s (fun _ : ι => none) :=
  ⟨every_none, exclusive_none, every_none, exclusive_none⟩

variable [DecidableEq ι]

namespace Locks

/-- A step that takes and releases no mutex. -/
theorem pass (h : Locks s F) (hp : F p = some f) (hmutex : s'.mutex = s.mutex)
    (hlocks : ∀ i : Nat, s.manager.locks[i]? = some (⟨true⟩ : Mutex) →
      s'.manager.locks[i]? = some (⟨true⟩ : Mutex))
    (hmanager : ∀ f', r = some f' → f'.holdsManager = true → f.holdsManager = true)
    (hslot : ∀ f', r = some f' → ∀ i, f'.lock? = some i → f.lock? = some i) :
    Locks s' (Function.update F p r) where
  manager := by
    refine h.manager.update ?_ ?_
    · intro f' hr hf'
      rw [hmutex]
      exact h.manager p f hp (hmanager f' hr hf')
    · intro q g _ _ hg hholds
      rw [hmutex]
      exact hg hholds
  manager_one := h.manager_one.update_of_imp hp fun f' _ hr hf' => hmanager f' hr hf'
  slot := by
    refine h.slot.update ?_ ?_
    · intro f' hr i hf'
      exact hlocks i (h.slot p f hp i (hslot f' hr i hf'))
    · intro q g _ _ hg i hi
      exact hlocks i (hg i hi)
  slot_one := h.slot_one.update_of_imp hp fun f' i hr hf' => hslot f' hr i hf'

/-- Acquiring the mutex of the manager. -/
theorem lockManager (h : Locks s F) (hp : F p = some f) (hfree : s.mutex.locked = false)
    (hslot : ∀ f', r = some f' → ∀ i, f'.lock? = some i → f.lock? = some i) :
    Locks (s.setMutex true) (Function.update F p r) where
  manager := h.manager.update (fun _ _ _ => rfl) fun _ _ _ _ _ _ => rfl
  manager_one := by
    refine h.manager_one.update ?_
    intro f' _ _ _ q g _ hq hg
    -- Nobody held the mutex, since it was not locked.
    exact absurd (h.manager q g hq hg) (by simp [hfree])
  slot := by
    refine h.slot.update ?_ fun _ _ _ _ hg => hg
    intro f' hr i hf'
    exact h.slot p f hp i (hslot f' hr i hf')
  slot_one := h.slot_one.update_of_imp hp fun f' i hr hf' => hslot f' hr i hf'

/-- Releasing the mutex of the manager. -/
theorem unlockManager (h : Locks s F) (hp : F p = some f) (hf : f.holdsManager = true)
    (hmanager : ∀ f', r = some f' → f'.holdsManager = false)
    (hslot : ∀ f', r = some f' → ∀ i, f'.lock? = some i → f.lock? = some i) :
    Locks (s.setMutex false) (Function.update F p r) where
  manager := by
    refine h.manager.update ?_ ?_
    · intro f' hr hf'
      exact absurd hf' (by simp [hmanager f' hr])
    · intro q g hne hq _ hg
      exact absurd hg (h.manager_one.not_other (a := ()) hp hf hne hq)
  manager_one := by
    refine h.manager_one.update_of_imp hp ?_
    intro f' _ hr hf'
    exact absurd hf' (by simp [hmanager f' hr])
  slot := by
    refine h.slot.update ?_ fun _ _ _ _ hg => hg
    intro f' hr i hf'
    exact h.slot p f hp i (hslot f' hr i hf')
  slot_one := h.slot_one.update_of_imp hp fun f' i hr hf' => hslot f' hr i hf'

/-- Acquiring the mutex of the slot `i`. -/
theorem lockSlot (h : Locks s F) (hp : F p = some f) (hfree : s.manager.locks[i]? = some ⟨false⟩)
    (hmanager : ∀ f', r = some f' → f'.holdsManager = true → f.holdsManager = true)
    (hslot : ∀ f', r = some f' → ∀ j, f'.lock? = some j → j = i) :
    Locks (s.setLock i true) (Function.update F p r) where
  manager := by
    refine h.manager.update ?_ fun _ _ _ _ hg => hg
    intro f' hr hf'
    exact h.manager p f hp (hmanager f' hr hf')
  manager_one := h.manager_one.update_of_imp hp fun f' _ hr hf' => hmanager f' hr hf'
  slot := by
    obtain ⟨hlt, -⟩ := List.getElem?_eq_some_iff.mp hfree
    refine h.slot.update ?_ ?_
    · intro f' hr j hf'
      obtain rfl := hslot f' hr j hf'
      exact List.getElem?_set_self hlt
    · intro q g _ _ hg j hj
      show (s.manager.locks.set i ⟨true⟩)[j]? = _
      by_cases hji : i = j
      · subst hji
        exact List.getElem?_set_self hlt
      · rw [List.getElem?_set_ne hji]
        exact hg j hj
  slot_one := by
    refine h.slot_one.update ?_
    intro f' j hr hf' q g _ hq hg
    obtain rfl := hslot f' hr j hf'
    have hlocked := h.slot q g hq j hg
    rw [hfree] at hlocked
    exact absurd hlocked (by decide)

/-- Releasing the mutex of the slot `i`. -/
theorem unlockSlot (h : Locks s F) (hp : F p = some f) (hf : f.lock? = some i)
    (hmanager : ∀ f', r = some f' → f'.holdsManager = true → f.holdsManager = true)
    (hslot : ∀ f', r = some f' → f'.lock? = none) :
    Locks (s.setLock i false) (Function.update F p r) where
  manager := by
    refine h.manager.update ?_ fun _ _ _ _ hg => hg
    intro f' hr hf'
    exact h.manager p f hp (hmanager f' hr hf')
  manager_one := h.manager_one.update_of_imp hp fun f' _ hr hf' => hmanager f' hr hf'
  slot := by
    refine h.slot.update ?_ ?_
    · intro f' hr j hf'
      rw [hslot f' hr] at hf'
      exact nomatch hf'
    · intro q g hne hq hg j hj
      have hji : i ≠ j := by
        rintro rfl
        exact h.slot_one.not_other hp hf hne hq hj
      show (s.manager.locks.set i ⟨false⟩)[j]? = _
      rw [List.getElem?_set_ne hji]
      exact hg j hj
  slot_one := by
    refine h.slot_one.update_of_imp hp ?_
    intro f' j hr hf'
    rw [hslot f' hr] at hf'
    exact nomatch hf'

/-- A new call holds no mutex. -/
theorem start (h : Locks s F) (hmutex : s'.mutex = s.mutex)
    (hlocks : s'.manager.locks = s.manager.locks)
    (hmanager : f.holdsManager = false) (hslot : f.lock? = none) :
    Locks s' (Function.update F p (some f)) where
  manager := by
    refine h.manager.update ?_ ?_
    · rintro f' ⟨⟩ hf'
      exact absurd hf' (by simp [hmanager])
    · intro q g _ _ hg hholds
      rw [hmutex]
      exact hg hholds
  manager_one := by
    refine h.manager_one.update ?_
    rintro f' _ ⟨⟩ hf'
    exact absurd hf' (by simp [hmanager])
  slot := by
    refine h.slot.update ?_ ?_
    · rintro f' ⟨⟩ i hf'
      rw [hslot] at hf'
      exact nomatch hf'
    · intro q g _ _ hg i hi
      rw [hlocks]
      exact hg i hi
  slot_one := by
    refine h.slot_one.update ?_
    rintro f' i ⟨⟩ hf'
    rw [hslot] at hf'
    exact nomatch hf'

/-- Every step keeps `Locks`. -/
theorem advance (h : Locks s F) (hp : F p = some f) (hadv : (s', r) ∈ s.advance f) :
    Locks s' (Function.update F p r) := by
  -- The points are sorted by what the step from them does to the mutexes.
  cases f with
  | addLock _ | killLock _ | finalizeLock _ | withLock _ =>
      obtain ⟨hfree, rfl, rfl⟩ := Shared.mem_lockManager.mp hadv
      exact h.lockManager hp hfree (by rintro f' ⟨⟩ i hf'; exact nomatch hf')
  | addUnlock | killUnlock | finalizeUnlock | withRefused =>
      simp only [Shared.advance, List.mem_singleton, Prod.mk.injEq] at hadv
      obtain ⟨rfl, rfl⟩ := hadv
      exact h.unlockManager hp rfl (by rintro f' ⟨⟩) (by rintro f' ⟨⟩)
  | withUnlock n object events =>
      simp only [Shared.advance, List.mem_singleton, Prod.mk.injEq] at hadv
      obtain ⟨rfl, rfl⟩ := hadv
      exact h.unlockManager hp rfl (by rintro f' ⟨⟩; rfl) (by rintro f' ⟨⟩ i hf'; exact hf')
  | killLockSlot n | withLockSlot n =>
      obtain ⟨i, hi, hfree, rfl, rfl⟩ := Shared.mem_lockSlot.mp hadv
      refine h.lockSlot hp hfree (by rintro f' ⟨⟩ _; rfl) ?_
      rintro f' ⟨⟩ j hf'
      exact Option.some.inj (hf'.symm.trans hi)
  | killUnlockSlot n =>
      obtain ⟨i, hi, rfl, rfl⟩ := Shared.mem_unlockSlot.mp hadv
      exact h.unlockSlot hp hi (by rintro f' ⟨⟩ _; rfl) (by rintro f' ⟨⟩; rfl)
  | withUnlockSlot n =>
      obtain ⟨i, hi, rfl, rfl⟩ := Shared.mem_unlockSlot.mp hadv
      exact h.unlockSlot hp hi (by rintro f' ⟨⟩) (by rintro f' ⟨⟩)
  | addEmplace =>
      simp only [Shared.advance, List.mem_singleton, Prod.mk.injEq] at hadv
      obtain ⟨rfl, rfl⟩ := hadv
      refine h.pass hp rfl ?_ (by rintro f' ⟨⟩ _; rfl) (by rintro f' ⟨⟩ i hf'; exact nomatch hf')
      intro i hi
      obtain ⟨hlt, -⟩ := List.getElem?_eq_some_iff.mp hi
      exact (List.getElem?_append_left hlt).trans hi
  | addChoose id =>
      simp only [Shared.advance] at hadv
      split at hadv
      · simp only [List.mem_singleton, Prod.mk.injEq] at hadv
        obtain ⟨rfl, rfl⟩ := hadv
        exact h.pass hp rfl (fun _ hi => hi) (by rintro f' ⟨⟩ _; rfl) (by rintro f' ⟨⟩ i ⟨⟩)
      · simp only [List.mem_cons, List.not_mem_nil, or_false, Prod.mk.injEq] at hadv
        rcases hadv with ⟨rfl, rfl⟩ | ⟨rfl, rfl⟩
        · exact h.pass hp rfl (fun _ hi => hi) (by rintro f' ⟨⟩ _; rfl) (by rintro f' ⟨⟩ i ⟨⟩)
        · exact h.pass hp rfl (fun _ hi => hi) (by rintro f' ⟨⟩ _; rfl) (by rintro f' ⟨⟩ i ⟨⟩)
  | _ =>
      -- The other steps neither take nor release a mutex.
      simp only [Shared.advance, Shared.readSlot, Shared.check] at hadv
      repeat' split at hadv
      all_goals
        simp only [List.mem_singleton, List.not_mem_nil, Prod.mk.injEq] at hadv
      all_goals
        obtain ⟨rfl, rfl⟩ := hadv
        refine h.pass hp rfl (by simp [Shared.setSlot, Shared.setFreelist, Shared.destroy]) ?_ ?_
      all_goals
        intro f' hr
        cases hr
        first | exact fun hf => hf | exact fun _ hf => hf

end Locks

end Tox4j.Native.Threads
