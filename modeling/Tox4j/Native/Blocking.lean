import Tox4j.Lib.Waiting
import Tox4j.Native.ThreadLocks

/-!
# `Tox4j.Native.Blocking`: who waits for a running `func`

`with_instance` releases the mutex of the manager before it runs `func`, so that calls on
other instances can go on. The steps of the member functions are those of
`Tox4j.Native.Threads`. Here a thread makes one call at a time, and `func` makes none: the
log is disabled, so it takes no mutex either (`new_entry` returns before it locks).

`Independent` says that no thread in a call of `with_instance` waits for a thread that runs
`func` on another instance, directly or through a chain of threads. This fails. Both
`with_instance` and `kill` lock the mutex of the instance while they hold the mutex of the
manager. When the instance is busy they wait for its `func`, and every other call waits for
them (`not_independent_iff`). A run in which no call on a busy instance passes its check
stays independent (`independent_of_avoids`).
-/

set_option autoImplicit false

namespace Tox4j.Native.Blocking

open Tox4j.Lib
open Threads (Shared Frame Locks)
open InstanceManager (Call index?)

/-- The state of the process: the shared memory, and where each thread is in its call. -/
structure State (Tid : Type) where
  shared : Shared
  frame : Tid → Option Frame

variable {Tid : Type}

/-! ### Steps -/

section

variable [DecidableEq Tid]

/-- All threads are outside the manager. -/
def State.initial : State Tid := ⟨.initial, fun _ => none⟩

/-- A step of a thread: it starts a call, or goes on with it. -/
inductive Step (s : State Tid) (t : Tid) : State Tid → Prop
  | call (c : Call Unit Unit) (h : s.frame t = none) :
      Step s t ⟨(s.shared.start c).1, Function.update s.frame t (some (s.shared.start c).2)⟩
  | advance {f : Frame} {shared : Shared} {r : Option Frame} (hf : s.frame t = some f)
      (h : (shared, r) ∈ s.shared.advance f) :
      Step s t ⟨shared, Function.update s.frame t r⟩

/-- The system of all interleavings. A label is the thread that takes the step. -/
def interleavings : System (State Tid) Tid where
  init s := s = .initial
  step s t s' := Step s t s'

end

/-! ### Waiting -/

/-- The mutexes of a manager: its own, and one for each slot. -/
inductive MutexId
  | manager
  | slot (i : Nat)
  deriving DecidableEq, Repr

/-- The mutex that is locked next. -/
def wants : Frame → Option MutexId
  | .addLock _ | .killLock _ | .finalizeLock _ | .withLock _ => some .manager
  | .killLockSlot n | .withLockSlot n => (index? n).map .slot
  | _ => none

/-- The mutexes that are held at a point. -/
def holds (f : Frame) : MutexId → Prop
  | .manager => f.holdsManager = true
  | .slot i => f.lock? = some i

/-- What each thread waits for and holds. -/
def State.waiting (s : State Tid) : Waiting Tid MutexId where
  wants t := (s.frame t).bind wants
  holds t m := ∃ f, s.frame t = some f ∧ holds f m

/-- The instance number of a call of `with_instance`, while the thread may wait. -/
def inWithInstance? : Frame → Option Jint
  | .withLock n | .withCheck n | .withLockSlot n | .withObject n | .withEvents n _
  | .withUnlock n _ _ | .withTest n _ _ | .withFunc n _ _ | .withUnlockSlot n => some n
  | _ => none

/-- The instance on which `func` runs. -/
def running? : Frame → Option Jint
  | .withFunc n _ _ => some n
  | _ => none

/-- Calls on different instances do not block each other. -/
def Independent (s : State Tid) : Prop :=
  ∀ t u f g i j, s.frame t = some f → inWithInstance? f = some j →
    s.frame u = some g → running? g = some i → i ≠ j → ¬ s.waiting.WaitsOn t u

/-- The check of `with_instance` or `kill`: its number, and whether it allows zero. -/
def checks? : Frame → Option (Jint × Bool)
  | .withCheck n => some (n, false)
  | .killCheck n => some (n, true)
  | _ => none

/-- The slot on whose pair the thread runs `func`, or is about to. -/
def funcOn? : Frame → Option Nat
  | .withTest n (some _) (some _) | .withFunc n _ _ => index? n
  | _ => none

/-- The step does not take a call past its check while another thread runs `func` on the
instance, or is about to. -/
def Avoids (s : State Tid) (t : Tid) : Prop :=
  ∀ f n allowZero i, s.frame t = some f → checks? f = some (n, allowZero) →
    (s.shared.manager.checkInstanceNumber ⟨[]⟩ n allowZero).1 = true → index? n = some i →
    ∀ u g, s.frame u = some g → funcOn? g ≠ some i

/-! ### What a point wants and holds -/

variable {f : Frame} {i : Nat}

/-- A thread waits for the mutex of a slot at two points only. It holds the mutex of the
manager there, and no other. -/
theorem wants_slot (h : wants f = some (.slot i)) :
    f.holdsManager = true ∧ f.lock? = none ∧
      ∃ n, index? n = some i ∧ (f = .withLockSlot n ∨ f = .killLockSlot n) := by
  cases f with
  | withLockSlot n | killLockSlot n =>
      refine ⟨rfl, rfl, n, ?_, by simp⟩
      simpa [wants] using h
  | _ => exact absurd h (by simp [wants])

/-- A thread that waits for the mutex of the manager holds none. -/
theorem wants_manager (h : wants f = some .manager) :
    f.holdsManager = false ∧ f.lock? = none := by
  cases f with
  | addLock _ | killLock _ | finalizeLock _ | withLock _ => exact ⟨rfl, rfl⟩
  | withLockSlot n | killLockSlot n => exact absurd h (by simp [wants])
  | _ => exact nomatch h

/-- Where `func` runs, the mutex of its slot is held, and no other. -/
theorem running_holds {n : Jint} {m : MutexId} (h : running? f = some n) (hm : holds f m) :
    ∃ i, index? n = some i ∧ m = .slot i := by
  cases f with
  | withFunc n' object events =>
      obtain rfl : n' = n := by simpa [running?] using h
      cases m with
      | manager => exact nomatch hm
      | slot i => exact ⟨i, hm, rfl⟩
  | _ => exact nomatch h

/-! ### Chains -/

section

variable {s : State Tid}

/-- Two numbers with the same position are the same. -/
theorem index?_inj {n n' : Jint} {k : Nat} (h : index? n = some k) (h' : index? n' = some k) :
    n = n' := by
  unfold InstanceManager.index? at h h'
  split at h
  · split at h'
    · apply Int32.toInt_inj.mp
      simp only [Option.some.injEq] at h h'
      omega
    · exact nomatch h'
  · exact nomatch h

/-- A call of `with_instance` waits for the manager, which another call holds. That one waits
for the `func` of a third call, on another instance. -/
structure Convoy (s : State Tid) (t v u : Tid) (i j : Jint) : Prop where
  waits : s.frame t = some (.withLock j)
  holds : s.frame v = some (.withLockSlot i) ∨ s.frame v = some (.killLockSlot i)
  runs : ∃ object events, s.frame u = some (.withFunc i object events)
  valid : ∃ k, index? i = some k
  other : i ≠ j

/-- What a thread holds follows from the point that it is at. -/
theorem holds_of_frame {t : Tid} {m : MutexId} (hf : s.frame t = some f)
    (h : s.waiting.holds t m) : holds f m := by
  obtain ⟨f', hf', hm⟩ := h
  obtain rfl : f' = f := Option.some.inj (hf'.symm.trans hf)
  exact hm

/-- Nobody waits for a thread that waits for the mutex of the manager. -/
theorem not_waitsOn_of_wants_manager {t w : Tid} (hf : s.frame w = some f)
    (h : wants f = some .manager) : ¬ s.waiting.WaitsOn t w := by
  intro hchain
  obtain ⟨-, m, -, -, hholds⟩ := hchain.last
  have hm := holds_of_frame hf hholds
  obtain ⟨hnot, hnone⟩ := wants_manager h
  cases m with
  | manager => exact Bool.false_ne_true (hnot.symm.trans hm)
  | slot i => exact Option.some_ne_none i (hm.symm.trans hnone)

/-- Who waits for a thread that waits for an instance waits for the mutex of the manager. -/
theorem wants_manager_of_waitsOn {t v : Tid} (hf : s.frame v = some f)
    (h : wants f = some (.slot i)) (hchain : s.waiting.WaitsOn t v) :
    ∃ g, s.frame t = some g ∧ wants g = some .manager := by
  obtain ⟨w, m, hw, hwants, hholds⟩ := hchain.last
  obtain ⟨fw, hfw, hwm⟩ := Option.bind_eq_some_iff.mp hwants
  have hm := holds_of_frame hf hholds
  have hmanager : m = .manager := by
    cases m with
    | manager => rfl
    | slot k => exact absurd (hm.symm.trans (wants_slot h).2.1) (Option.some_ne_none k)
  subst hmanager
  cases hw with
  | inl hwt =>
      subst hwt
      exact ⟨fw, hfw, hwm⟩
  | inr hlonger => exact absurd hlonger (not_waitsOn_of_wants_manager hfw hwm)

/-- In a call of `with_instance` the only wait for the manager is the first one. -/
theorem eq_withLock {j : Jint} (hj : inWithInstance? f = some j)
    (h : wants f = some .manager) : f = .withLock j := by
  cases f with
  | withLock n =>
      obtain rfl : n = j := Option.some.inj hj
      rfl
  | addLock _ | killLock _ | finalizeLock _ => exact nomatch hj
  | withLockSlot n | killLockSlot n => exact absurd h (by simp [wants])
  | _ => exact nomatch h

/-- A thread that runs `func` has a pair of pointers. -/
theorem eq_withFunc {n : Jint} (h : running? f = some n) :
    ∃ object events, f = .withFunc n object events := by
  cases f with
  | withFunc n' object events =>
      obtain rfl : n' = n := Option.some.inj h
      exact ⟨object, events, rfl⟩
  | _ => exact nomatch h

/-- A chain from a call of `with_instance` to a running `func` on another instance has two
links. -/
theorem convoy_of_waitsOn {t u : Tid} {f g : Frame} {i j : Jint} (hf : s.frame t = some f)
    (hj : inWithInstance? f = some j) (hg : s.frame u = some g) (hi : running? g = some i)
    (hne : i ≠ j) (h : s.waiting.WaitsOn t u) : ∃ v, Convoy s t v u i j := by
  -- The last link: `v` waits for the mutex of the instance.
  obtain ⟨v, m, hv, hwants, hholds⟩ := h.last
  obtain ⟨k, hk, rfl⟩ := running_holds hi (holds_of_frame hg hholds)
  obtain ⟨fv, hfv, hwv⟩ := Option.bind_eq_some_iff.mp hwants
  obtain ⟨-, -, n, hn, hpoint⟩ := wants_slot hwv
  obtain rfl : n = i := index?_inj hn hk
  cases hv with
  | inl hvt =>
      -- `t` itself does not: it is in a call on another instance.
      exfalso
      subst hvt
      obtain rfl : fv = f := Option.some.inj (hfv.symm.trans hf)
      rcases hpoint with rfl | rfl
      · exact hne (Option.some.inj hj)
      · exact nomatch hj
  | inr hchain =>
      -- The link before: `t` waits for the mutex of the manager, so it has just called.
      obtain ⟨f', hf', hwm⟩ := wants_manager_of_waitsOn hfv hwv hchain
      obtain rfl : f' = f := Option.some.inj (hf'.symm.trans hf)
      obtain rfl := eq_withLock hj hwm
      obtain ⟨object, events, rfl⟩ := eq_withFunc hi
      refine ⟨v, hf, ?_, ⟨object, events, hg⟩, ⟨k, hk⟩, hne⟩
      rcases hpoint with rfl | rfl
      · exact .inl hfv
      · exact .inr hfv

/-- In a convoy the first thread waits for the last one. The manager is the first link of the chain,
the instance is the second one. -/
theorem waitsOn_of_convoy {t v u : Tid} {i j : Jint} (h : Convoy s t v u i j) :
    s.waiting.WaitsOn t u := by
  obtain ⟨k, hk⟩ := h.valid
  obtain ⟨object, events, hu⟩ := h.runs
  have htv : s.waiting.WaitsFor t v := by
    refine ⟨?_, .manager, by simp [State.waiting, h.waits, wants], ?_⟩
    · intro heq
      rcases h.holds with hv | hv <;> rw [heq, h.waits] at hv <;> exact nomatch hv
    · rcases h.holds with hv | hv
      · exact ⟨_, hv, rfl⟩
      · exact ⟨_, hv, rfl⟩
  have hvu : s.waiting.WaitsFor v u := by
    refine ⟨?_, .slot k, ?_, ⟨_, hu, hk⟩⟩
    · intro heq
      rcases h.holds with hv | hv <;> rw [← heq, hu] at hv <;> exact nomatch hv
    · rcases h.holds with hv | hv
      · simp [State.waiting, hv, wants, hk]
      · simp [State.waiting, hv, wants, hk]
  exact .tail (.single htv) hvu

/-- In any state, a call is blocked by a `func` on another instance exactly when there is a
convoy. -/
theorem not_independent_iff : ¬ Independent s ↔ ∃ t v u i j, Convoy s t v u i j := by
  constructor
  · intro h
    unfold Independent at h
    push Not at h
    obtain ⟨t, u, f, g, i, j, hf, hj, hg, hi, hne, hchain⟩ := h
    obtain ⟨v, hconvoy⟩ := convoy_of_waitsOn hf hj hg hi hne hchain
    exact ⟨t, v, u, i, j, hconvoy⟩
  · intro h hindep
    obtain ⟨t, v, u, i, j, hconvoy⟩ := h
    obtain ⟨object, events, hu⟩ := hconvoy.runs
    exact hindep t u _ _ i j hconvoy.waits rfl hu rfl hconvoy.other (waitsOn_of_convoy hconvoy)

end

/-! ### Invariants of runs -/

section

variable {s s' : Shared} {f f' : Frame} {i : Nat}

/-- A thread gets to a point where it waits for the mutex of a slot from a check only. -/
theorem wants_advance (hadv : (s', some f') ∈ s.advance f) (h : wants f' = some (.slot i)) :
    s' = s ∧ ∃ n allowZero, checks? f = some (n, allowZero) ∧ index? n = some i ∧
      (s.manager.checkInstanceNumber ⟨[]⟩ n allowZero).1 = true := by
  obtain ⟨-, -, n', hn', hf'⟩ := wants_slot h
  cases f with
  | withCheck n | killCheck n =>
      obtain ⟨rfl, hnext⟩ := Shared.mem_check.mp hadv
      split at hnext
      · rename_i hpass
        have hn : n' = n := by
          rcases hf' with rfl | rfl <;> simp_all
        exact ⟨rfl, n, _, rfl, hn ▸ hn', hpass⟩
      · rcases hf' with rfl | rfl <;> cases hnext
  | _ =>
      -- The other steps lead to no such point.
      exfalso
      simp only [Shared.advance, Shared.lockManager, Shared.readSlot, Shared.check,
        Shared.lockSlot, Shared.unlockSlot] at hadv
      repeat' split at hadv
      all_goals
        rcases hf' with rfl | rfl <;> simp at hadv

/-- A thread gets to a point where it is about to run `func` when it releases the mutex of
the manager. -/
theorem funcOn_advance (hadv : (s', some f') ∈ s.advance f) (h : funcOn? f' = some i) :
    funcOn? f = some i ∨ f.holdsManager = true := by
  cases f with
  | withTest n object events =>
      left
      cases object with
      | some o =>
          cases events with
          | some e =>
              simp only [Shared.advance, List.mem_singleton, Prod.mk.injEq,
                Option.some.injEq] at hadv
              obtain ⟨-, rfl⟩ := hadv
              exact h
          | none => cases hadv
      | none =>
          cases events with
          | some e => cases hadv
          | none =>
              simp only [Shared.advance, List.mem_singleton, Prod.mk.injEq,
                Option.some.injEq] at hadv
              obtain ⟨-, rfl⟩ := hadv
              cases h
  | addLock _ | killLock _ | finalizeLock _ | withLock _ =>
      obtain ⟨-, -, hnext⟩ := Shared.mem_lockManager.mp hadv
      cases hnext
      cases h
  | withFunc n object events =>
      simp only [Shared.advance, List.mem_singleton, Prod.mk.injEq, Option.some.injEq] at hadv
      obtain ⟨-, rfl⟩ := hadv
      cases h
  | withUnlockSlot n =>
      obtain ⟨i, -, -, hnext⟩ := Shared.mem_unlockSlot.mp hadv
      cases hnext
  | _ => exact .inr rfl

end

section

variable [DecidableEq Tid] {s s' : State Tid} {t : Tid}

/-- Each step keeps `Locks`. -/
theorem locks_step (h : Locks s.shared s.frame) (hstep : Step s t s') :
    Locks s'.shared s'.frame := by
  cases hstep with
  | call c hnone => cases c <;> exact h.start rfl rfl rfl rfl
  | advance hf hadv => exact h.advance hf hadv

/-- No thread waits for the mutex of a slot while another one runs `func` on its pair, or is
about to. -/
def NobodyWaits (s : State Tid) : Prop :=
  ∀ t f i, s.frame t = some f → wants f = some (.slot i) →
    ∀ u g, s.frame u = some g → funcOn? g ≠ some i

/-- A thread that starts a call waits for the manager, and for no instance. -/
theorem nobodyWaits_call (h : NobodyWaits s) (c : Call Unit Unit) :
    NobodyWaits (⟨(s.shared.start c).1,
      Function.update s.frame t (some (s.shared.start c).2)⟩ : State Tid) := by
  have hwants : wants (s.shared.start c).2 = some .manager := by
    cases c <;> rfl
  have hfunc : funcOn? (s.shared.start c).2 = none := by
    cases c <;> rfl
  intro v f i hf hslot u g hg hon
  rcases update_eq_some hf with ⟨-, hnew⟩ | ⟨-, hf'⟩
  · obtain rfl := Option.some.inj hnew
    rw [hwants] at hslot
    exact nomatch hslot
  · rcases update_eq_some hg with ⟨-, hnew⟩ | ⟨-, hg'⟩
    · obtain rfl := Option.some.inj hnew
      rw [hfunc] at hon
      exact nomatch hon
    · exact h v f i hf' hslot u g hg' hon

/-- A step that avoids a busy instance keeps `NobodyWaits`. -/
theorem nobodyWaits_step (hl : Locks s.shared s.frame) (h : NobodyWaits s)
    (havoid : Avoids s t) (hstep : Step s t s') : NobodyWaits s' := by
  cases hstep with
  | call c hnone => exact nobodyWaits_call h c
  | advance hp hadv =>
      rename_i p shared r
      intro v f i hf hslot u g hg hon
      rcases update_eq_some hf with ⟨rfl, rfl⟩ | ⟨hne, hf'⟩
      · -- The step took the thread past its check.
        obtain ⟨rfl, n, allowZero, hcheck, hn, hpass⟩ := wants_advance hadv hslot
        rcases update_eq_some hg with ⟨-, hnew⟩ | ⟨-, hg'⟩
        · obtain rfl := Option.some.inj hnew
          obtain ⟨-, -, n', -, rfl | rfl⟩ := wants_slot hslot <;> exact nomatch hon
        · exact havoid p n allowZero i hp hcheck hpass hn u g hg' hon
      · rcases update_eq_some hg with ⟨-, rfl⟩ | ⟨-, hg'⟩
        · cases funcOn_advance hadv hon with
          | inl hbefore => exact h v f i hf' hslot t p hp hbefore
          | inr hmanager =>
              -- Both threads would hold the mutex of the manager.
              exact hl.manager_one.not_other (a := ()) hp hmanager hne hf' (wants_slot hslot).1
        · exact h v f i hf' hslot u g hg' hon

/-- Along a run that avoids busy instances nobody waits for one. -/
theorem nobodyWaits_of_avoids (h : (interleavings.restrict Avoids).Reachable s) :
    NobodyWaits s := by
  have hboth : Locks s.shared s.frame ∧ NobodyWaits s := by
    refine h.invariant (I := fun s => Locks s.shared s.frame ∧ NobodyWaits s) ?_ ?_
    · intro s hs
      rw [show s = .initial from hs]
      exact ⟨Threads.locks_none, fun t f i hf => nomatch hf⟩
    · intro s t s' hI hstep
      obtain ⟨hl, hwaits⟩ := hI
      obtain ⟨havoid, hstep⟩ := hstep
      exact ⟨locks_step hl hstep, nobodyWaits_step hl hwaits havoid hstep⟩
  exact hboth.2

/-- A run stays independent when no call of `with_instance` or `kill` passes its check while
another thread runs `func` on its instance, or is about to. -/
theorem independent_of_avoids (h : (interleavings.restrict Avoids).Reachable s) :
    Independent s := by
  have hwaits := nobodyWaits_of_avoids h
  by_contra hnot
  obtain ⟨t, v, u, i, j, hconvoy⟩ := not_independent_iff.mp hnot
  obtain ⟨k, hk⟩ := hconvoy.valid
  obtain ⟨object, events, hu⟩ := hconvoy.runs
  cases hconvoy.holds with
  | inl hv => exact hwaits v _ k hv (by simp [wants, hk]) u _ hu hk
  | inr hv => exact hwaits v _ k hv (by simp [wants, hk]) u _ hu hk

/-- Some thread takes a step. -/
def SomeStep (s s' : State Tid) : Prop := ∃ t, Step s t s'

/-- The thread that is about to run `func` on a slot can get there by itself. -/
theorem runs_of_funcOn {u : Tid} {g : Frame} {n : Jint} {i : Nat} (hg : s.frame u = some g)
    (hon : funcOn? g = some i) (hn : index? n = some i) :
    ∃ s' object events, Relation.ReflTransGen SomeStep s s' ∧
      s'.shared = s.shared ∧ s'.frame u = some (.withFunc n object events) ∧
      ∀ v, v ≠ u → s'.frame v = s.frame v := by
  cases g with
  | withFunc n' object events =>
      obtain rfl : n' = n := index?_inj hon hn
      exact ⟨s, object, events, .refl, rfl, hg, fun _ _ => rfl⟩
  | withTest n' object events =>
      cases object with
      | none => exact nomatch hon
      | some o =>
          cases events with
          | none => exact nomatch hon
          | some e =>
              obtain rfl : n' = n := index?_inj hon hn
              have hstep : Step s u
                  ⟨s.shared, Function.update s.frame u (some (.withFunc n' o e))⟩ :=
                .advance hg (List.mem_singleton.mpr rfl)
              refine ⟨_, o, e, .single ⟨u, hstep⟩, rfl, Function.update_self .., ?_⟩
              intro v hv
              exact Function.update_of_ne hv ..
  | _ => exact nomatch hon

/-- A call that passes its check goes on to lock the mutex of the slot. -/
theorem lockSlot_of_check {f : Frame} {n : Jint} {allowZero : Bool} (hf : s.frame t = some f)
    (hcheck : checks? f = some (n, allowZero))
    (hpass : (s.shared.manager.checkInstanceNumber ⟨[]⟩ n allowZero).1 = true) :
    ∃ f', (f' = .withLockSlot n ∨ f' = .killLockSlot n) ∧
      Step s t ⟨s.shared, Function.update s.frame t (some f')⟩ := by
  cases f with
  | withCheck n' =>
      obtain ⟨rfl, rfl⟩ : n' = n ∧ false = allowZero := by simpa [checks?] using hcheck
      refine ⟨_, .inl rfl, .advance hf ?_⟩
      simp [Shared.advance, Shared.check, hpass]
  | killCheck n' =>
      obtain ⟨rfl, rfl⟩ : n' = n ∧ true = allowZero := by simpa [checks?] using hcheck
      refine ⟨_, .inr rfl, .advance hf ?_⟩
      simp [Shared.advance, Shared.check, hpass]
  | _ => cases hcheck

/-- After a step that does not avoid a busy instance, the `with_instance` of any thread on any
other instance is blocked when it comes next. -/
theorem blocked_of_not_avoids (h : ¬ Avoids s t) {w : Tid} (hw : s.frame w = none) :
    ∃ n, ∀ j, n ≠ j → ∃ s', Relation.ReflTransGen SomeStep s s' ∧
      s'.frame w = some (.withLock j) ∧ ¬ Independent s' := by
  unfold Avoids at h
  push Not at h
  obtain ⟨f, n, allowZero, i, hf, hcheck, hpass, hn, u, g, hg, hon⟩ := h
  refine ⟨n, fun j hne => ?_⟩
  have htu : t ≠ u := by
    intro heq
    subst heq
    obtain rfl : f = g := Option.some.inj (hf.symm.trans hg)
    cases f with
    | withCheck _ | killCheck _ => simp [funcOn?] at hon
    | _ => exact nomatch hcheck
  have hwu : w ≠ u := by
    intro heq
    rw [heq, hg] at hw
    exact nomatch hw
  have hwt : w ≠ t := by
    intro heq
    rw [heq, hf] at hw
    exact nomatch hw
  -- `u` gets to its `func`, `t` passes its check, and `w` starts its call.
  obtain ⟨s₁, object, events, hsteps, hshared, hu, hother⟩ := runs_of_funcOn hg hon hn
  have hf₁ : s₁.frame t = some f := (hother t htu).trans hf
  rw [← hshared] at hpass
  obtain ⟨f', hf', hstep⟩ := lockSlot_of_check hf₁ hcheck hpass
  have hw₁ : Function.update s₁.frame t (some f') w = none := by
    rw [Function.update_of_ne hwt, hother w hwu, hw]
  have hcall : Step ⟨s₁.shared, Function.update s₁.frame t (some f')⟩ w _ :=
    .call (.withInstance j) hw₁
  refine ⟨_, (hsteps.tail ⟨t, hstep⟩).tail ⟨w, hcall⟩, Function.update_self .., ?_⟩
  apply not_independent_iff.mpr
  refine ⟨w, t, u, n, j, Function.update_self .., ?_, ⟨object, events, ?_⟩, ⟨i, hn⟩, hne⟩
  · show Function.update (Function.update s₁.frame t (some f')) w _ t = _ ∨ _
    rw [Function.update_of_ne (Ne.symm hwt), Function.update_self]
    rcases hf' with rfl | rfl
    · exact .inl rfl
    · right
      show Function.update (Function.update s₁.frame t (some (.killLockSlot n))) w _ t = _
      rw [Function.update_of_ne (Ne.symm hwt), Function.update_self]
  · show Function.update (Function.update s₁.frame t (some f')) w _ u = _
    rw [Function.update_of_ne (Ne.symm hwu), Function.update_of_ne (Ne.symm htu), hu]

end

/-- Runs whose steps avoid a busy instance are independent in every state. After any other
step, every thread that calls `with_instance` on another instance next is blocked. -/
theorem independence {Tid : Type} [DecidableEq Tid] :
    (∀ s : State Tid, (interleavings.restrict Avoids).Reachable s → Independent s) ∧
    (∀ (s : State Tid) (t w : Tid), ¬ Avoids s t → s.frame w = none →
      ∃ n, ∀ j, n ≠ j → ∃ s', Relation.ReflTransGen SomeStep s s' ∧
        s'.frame w = some (.withLock j) ∧ ¬ Independent s') :=
  ⟨fun _ h => independent_of_avoids h, fun _ _ _ h hw => blocked_of_not_avoids h hw⟩

/-! ### A convoy -/

/-- The first step that a call can take, if it can take one. -/
def State.next (s : State Nat) (t : Nat) : State Nat :=
  match s.frame t with
  | none => s
  | some f =>
    match (s.shared.advance f).head? with
    | none => s
    | some (shared, r) => ⟨shared, Function.update s.frame t r⟩

/-- The state after the thread `t` made the call `c` and took `steps` steps in it. -/
def State.go (s : State Nat) (t : Nat) (c : Call Unit Unit) (steps : Nat) : State Nat :=
  (List.replicate steps t).foldl State.next
    ⟨(s.shared.start c).1, Function.update s.frame t (some (s.shared.start c).2)⟩

/-- A call that starts and takes some steps leads to a state that can be reached. -/
theorem reachable_go {s : State Nat} (h : interleavings.Reachable s) (t : Nat)
    (hidle : s.frame t = none) (c : Call Unit Unit) (steps : Nat) :
    interleavings.Reachable (s.go t c steps) := by
  have hnext (s : State Nat) (hs : interleavings.Reachable s) :
      interleavings.Reachable (s.next t) := by
    unfold State.next
    split
    · exact hs
    · rename_i f hf
      split
      · exact hs
      · rename_i shared r hhead
        obtain ⟨ls, run⟩ := hs
        exact ⟨_, run.step (l := t) (.advance hf (List.mem_of_head? hhead))⟩
  obtain ⟨ls, run⟩ := h
  have hcall : interleavings.Reachable
      (⟨(s.shared.start c).1, Function.update s.frame t (some (s.shared.start c).2)⟩ :
        State Nat) :=
    ⟨_, run.step (l := t) (.call c hidle)⟩
  unfold State.go
  clear run
  generalize State.mk _ _ = s₁ at hcall
  induction steps generalizing s₁ with
  | zero => exact hcall
  | succ steps ih => exact ih _ (hnext s₁ hcall)

/-- The thread 0 runs `func` on the instance 1. The thread 1 waits for it in `with_instance`,
and the thread 2, in `with_instance` on the instance 2, waits for the thread 1. -/
def convoy : State Nat :=
  ((((State.initial.go 0 (.add () ()) 4).go 0 (.add () ()) 4).go 0 (.withInstance 1) 7).go
    1 (.withInstance 1) 2).go 2 (.withInstance 2) 0

/-- The convoy of the example is reached by calls of three threads. -/
theorem reachable_convoy : interleavings.Reachable convoy := by
  have h : interleavings.Reachable (State.initial : State Nat) := ⟨[], .init rfl⟩
  have h := reachable_go h 0 rfl (.add () ()) 4
  have h := reachable_go h 0 rfl (.add () ()) 4
  have h := reachable_go h 0 rfl (.withInstance 1) 7
  have h := reachable_go h 1 rfl (.withInstance 1) 2
  exact reachable_go h 2 rfl (.withInstance 2) 0

/-- A call on one instance is blocked by a `func` on another one. -/
theorem not_independent_convoy : interleavings.Reachable convoy ∧ ¬ Independent convoy :=
  ⟨reachable_convoy,
    not_independent_iff.mpr
      ⟨2, 1, 0, 1, 2, rfl, .inl rfl, ⟨0, 0, rfl⟩, ⟨0, rfl⟩, by decide⟩⟩

end Tox4j.Native.Blocking
