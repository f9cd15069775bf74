import Tox4j.Native.CallLocks

/-!
# `Tox4j.Native.Deadlock`: when the native calls deadlock

`toxNew` and `toxavNew` call `add` within the lifetime of a `LogEntry`, so a thread waits for
the mutex of a manager while it holds that of the log. Elsewhere the order is the other one.
`kill` and `with_instance` hold the mutex of the manager while they wait for an instance. The
`func` that runs on the instance waits for the mutex of the log. So three threads can form a
circle (`State.Circle`), and `not_deadlockFree` has a run of three threads that does.

This is the only way to a deadlock (`circle_of_deadlocked`). `Avoids` is the condition on a
step that it does not complete a circle. `deadlockFree_of_avoids` is the main result: a run
whose steps meet the condition has no deadlock. The condition excludes no more than needed:
a step that does not meet it completes a circle (`circle_of_not_avoids`), and no later step
opens it again (`Circle.step`).
-/

set_option autoImplicit false

namespace Tox4j.Native.Calls

open Tox4j.Lib
open Threads (Shared Frame AddId Locks)

/-! ### The circle -/

namespace Activity

/-- The thread holds the mutex of the log, and waits in `add` for that of the manager `k`. -/
def atAdd (k : Kind) : Activity → Prop
  | .toxNewAdd (.addLock _) => k = .core
  | .toxavNewAdd _ _ _ (.addLock _) => k = .av
  | _ => False

/-- The thread holds the mutex of the manager `k`, and waits for the instance at `i`. -/
def atSlot (k : Kind) (i : Nat) : Activity → Prop
  | .manager k' (.killLockSlot n) _ | .manager k' (.withLockSlot n) _ =>
    k' = k ∧ InstanceManager.index? n = some i
  | _ => False

/-- The thread has the instance at `i` to itself, and has an entry still to make there. -/
def entryAhead (k : Kind) (i : Nat) : Activity → Prop
  | .manager k' (.withTest n (some _) (some _)) entries
  | .manager k' (.withFunc n _ _) entries =>
    k' = k ∧ InstanceManager.index? n = some i ∧ entries ≠ []
  | .func k' n _ _ p entries =>
    k' = k ∧ InstanceManager.index? n = some i ∧ ((∃ f, p = .lock f) ∨ entries ≠ [])
  | _ => False

/-- The next step goes on to `add` of the manager `k`. -/
def entersAdd (k : Kind) : Activity → Prop
  | .toxNew (.run (.new true)) => k = .core
  | .func .core _ _ _ (.run (.new true)) _ => k = .av
  | _ => False

/-- The next step finds the number valid, and goes on to the mutex of the instance. -/
def entersSlot {Tid : Type} (m : Memory Tid) (k : Kind) (i : Nat) : Activity → Prop
  | .manager k' (.killCheck n) _ => k' = k ∧ InstanceManager.index? n = some i ∧
    ((m.shared k).manager.checkInstanceNumber ⟨[]⟩ n true).1 = true
  | .manager k' (.withCheck n) _ => k' = k ∧ InstanceManager.index? n = some i ∧
    ((m.shared k).manager.checkInstanceNumber ⟨[]⟩ n false).1 = true
  | _ => False

end Activity

namespace State

variable {Tid : Type}

/-- A thread with the mutex of the log waits for a manager. A thread with the mutex of that
manager waits for an instance. A thread with that instance has an entry to make. -/
def Circle (s : State Tid) : Prop :=
  ∃ k i b c d, (s.activity b).atAdd k ∧ (s.activity c).atSlot k i ∧
    (s.activity d).entryAhead k i

end State

/-- The step of the thread `t` does not complete a circle. -/
structure Avoids {Tid : Type} (s : State Tid) (t : Tid) : Prop where
  /-- `add` is not entered while a call waits for an instance whose user has an entry to
  make. -/
  add : ∀ k, (s.activity t).entersAdd k → ∀ i c d, d ≠ t →
    ¬ ((s.activity c).atSlot k i ∧ (s.activity d).entryAhead k i)
  /-- No call goes on to wait for such an instance while a thread waits in `add`. -/
  slot : ∀ k i, (s.activity t).entersSlot s.memory k i → ∀ b d,
    ¬ ((s.activity b).atAdd k ∧ (s.activity d).entryAhead k i)

variable {Tid : Type} {k : Kind} {i : Nat} {a a' : Activity}

/-- A thread that waits in `add` does not wait for an instance. -/
theorem not_atSlot_of_atAdd (h : a.atAdd k) : ¬ a.atSlot k i := by
  intro hslot
  unfold Activity.atAdd at h
  split at h <;> first | exact hslot | exact h

/-- A thread that waits in `add` has no instance to itself. -/
theorem not_entryAhead_of_atAdd (h : a.atAdd k) : ¬ a.entryAhead k i := by
  intro hahead
  unfold Activity.atAdd at h
  split at h <;> first | exact hahead | exact h

/-- A thread that waits for an instance does not have it. -/
theorem not_entryAhead_of_atSlot (h : a.atSlot k i) : ¬ a.entryAhead k i := by
  intro hahead
  unfold Activity.atSlot at h
  split at h <;> first | exact hahead | exact h

/-- A thread at the mutex of an instance holds that of the manager. -/
theorem frame_of_atSlot (h : a.atSlot k i) :
    ∃ f, a.frame k = some f ∧ f.holdsManager = true := by
  unfold Activity.atSlot at h
  split at h
  · obtain ⟨rfl, -⟩ := h
    exact ⟨_, if_pos rfl, rfl⟩
  · obtain ⟨rfl, -⟩ := h
    exact ⟨_, if_pos rfl, rfl⟩
  · exact h.elim

/-! ### A deadlock needs a circle -/

/-- The only mutex that `add` waits for is that of its manager, at the start. -/
theorem wants_of_isAdd {f : Frame} {m : MutexId} (hadd : f.isAdd = true)
    (hwants : f.wants k = some m) : (∃ id, f = .addLock id) ∧ m = .manager k := by
  cases f with
  | addLock id => exact ⟨⟨id, rfl⟩, (Option.some.inj hwants).symm⟩
  | addChoose _ | addTest _ _ | addObject _ _ | addEvents _ _ | addRelocate _ | addEmplace
  | addUnlock => exact nomatch hwants
  | _ => exact nomatch hadd

/-- No point holds the mutex of a manager and waits for one, except at that of an
instance. -/
theorem wants_of_holdsManager {f : Frame} {m : MutexId} (hmanager : f.holdsManager = true)
    (hwants : f.wants k = some m) :
    ∃ n i, (f = .killLockSlot n ∨ f = .withLockSlot n) ∧
      InstanceManager.index? n = some i ∧ m = .slot k i := by
  cases f with
  | killLockSlot n =>
      obtain ⟨i, hi, hm⟩ := Option.map_eq_some_iff.mp hwants
      exact ⟨n, i, .inl rfl, hi, hm.symm⟩
  | withLockSlot n =>
      obtain ⟨i, hi, hm⟩ := Option.map_eq_some_iff.mp hwants
      exact ⟨n, i, .inr rfl, hi, hm.symm⟩
  | addLock _ | killLock _ | finalizeLock _ | withLock _ => exact nomatch hmanager
  | _ => exact nomatch hwants

/-- No point in a manager waits while it holds the mutex of an instance. -/
theorem lock?_of_wants {f : Frame} {m : MutexId} (hwants : f.wants k = some m) :
    f.lock? = none := by
  cases f with
  | addLock _ | killLock _ | finalizeLock _ | withLock _ | killLockSlot _
  | withLockSlot _ => rfl
  | _ => exact nomatch hwants

/-- `add` locks no slot. -/
theorem lock?_of_isAdd {f : Frame} (hadd : f.isAdd = true) : f.lock? = none := by
  cases f with
  | addLock _ | addChoose _ | addTest _ _ | addObject _ _ | addEvents _ _ | addRelocate _
  | addEmplace | addUnlock => rfl
  | _ => exact nomatch hadd

/-- A thread that waits and holds the mutex of the log is in `add`, or about to run a
callback. -/
theorem wants_of_log {m : MutexId} (hfits : a.Fits) (hwants : a.wants = some m)
    (hholds : a.depth ≠ 0) : m = .log ∨ ∃ k, a.atAdd k ∧ m = .manager k := by
  cases a with
  | idle => exact absurd rfl hholds
  | logLock _ | manager _ _ _ => exact absurd rfl hholds
  | logUnlock _ => exact nomatch hwants
  | toxNew p | func _ _ _ _ p _ =>
      cases p with
      | callbackLock _ | lock _ => exact .inl (Option.some.inj hwants).symm
      | _ => exact nomatch hwants
  | toxNewAdd f =>
      obtain ⟨⟨id, rfl⟩, hm⟩ := wants_of_isAdd hfits hwants
      exact .inr ⟨.core, rfl, hm⟩
  | toxavNewAdd n object events f =>
      obtain ⟨⟨id, rfl⟩, hm⟩ := wants_of_isAdd hfits hwants
      exact .inr ⟨.av, rfl, hm⟩

/-- A thread that waits and holds the mutex of a manager is at that of an instance. -/
theorem wants_of_manager {m : MutexId} (hfits : a.Fits) (hwants : a.wants = some m)
    (hholds : a.holds (.manager k)) : ∃ i, a.atSlot k i ∧ m = .slot k i := by
  obtain ⟨f, hf, hmanager⟩ := hholds
  cases a with
  | idle | logLock _ | logUnlock _ | toxNew _ => cases hf
  | toxNewAdd g =>
      -- In `add` only the first point waits, and it does not hold the mutex yet.
      obtain ⟨rfl, rfl⟩ : k = .core ∧ g = f := by simpa [Activity.frame] using hf
      obtain ⟨⟨id, rfl⟩, -⟩ := wants_of_isAdd hfits hwants
      cases hmanager
  | manager k' g entries =>
      obtain ⟨rfl, rfl⟩ : k = k' ∧ g = f := by simpa [Activity.frame] using hf
      obtain ⟨n, i, rfl | rfl, hi, rfl⟩ := wants_of_holdsManager hmanager hwants
      · exact ⟨i, ⟨rfl, hi⟩, rfl⟩
      · exact ⟨i, ⟨rfl, hi⟩, rfl⟩
  | func k' n object events p entries =>
      obtain ⟨-, rfl⟩ : k = k' ∧ Frame.withFunc n object events = f := by
        simpa [Activity.frame] using hf
      cases hmanager
  | toxavNewAdd n object events g =>
      cases k with
      | core =>
          cases hf
          cases hmanager
      | av =>
          cases hf
          obtain ⟨⟨id, rfl⟩, -⟩ := wants_of_isAdd hfits hwants
          cases hmanager

/-- A thread that waits and has an instance has an entry to make, or is within one. -/
theorem wants_of_slot {m : MutexId} (hfits : a.Fits) (hwants : a.wants = some m)
    (hholds : a.holds (.slot k i)) :
    (a.entryAhead k i ∧ m = .log) ∨ (a.depth ≠ 0 ∧ ∀ k', a.atAdd k' → k' ≠ k) := by
  obtain ⟨f, hf, hslot⟩ := hholds
  cases a with
  | idle | logLock _ | logUnlock _ | toxNew _ => cases hf
  | toxNewAdd g =>
      obtain ⟨rfl, rfl⟩ : k = .core ∧ g = f := by simpa [Activity.frame] using hf
      cases (lock?_of_isAdd hfits).symm.trans hslot
  | manager k' g entries =>
      obtain ⟨rfl, rfl⟩ : k = k' ∧ g = f := by simpa [Activity.frame] using hf
      cases (lock?_of_wants hwants).symm.trans hslot
  | func k' n object events p entries =>
      obtain ⟨rfl, rfl⟩ : k = k' ∧ Frame.withFunc n object events = f := by
        simpa [Activity.frame] using hf
      cases p with
      | lock g => exact .inl ⟨⟨rfl, hslot, .inl ⟨g, rfl⟩⟩, (Option.some.inj hwants).symm⟩
      | callbackLock _ =>
          refine .inr ⟨Nat.succ_ne_zero _, ?_⟩
          intro k' hadd
          cases hadd
      | _ => cases hwants
  | toxavNewAdd n object events g =>
      cases k with
      | core =>
          refine .inr ⟨Nat.succ_ne_zero _, ?_⟩
          intro k' hadd hk'
          obtain ⟨⟨id, rfl⟩, -⟩ := wants_of_isAdd hfits hwants
          cases (show Kind.av = .core from (show k' = .av from hadd) ▸ hk')
      | av =>
          cases hf
          cases (lock?_of_isAdd hfits).symm.trans hslot

section Deadlocked

variable {s : State Tid} {threads : Set Tid}

/-- In a deadlocked set, the owner of the mutex of the log is in `add`. -/
theorem atAdd_of_deadlocked (hi : Inv s) (h : s.waiting.Deadlocked threads) {b : Tid}
    (hb : b ∈ threads) (hlog : (s.activity b).depth ≠ 0) :
    ∃ k, (s.activity b).atAdd k ∧ (s.activity b).wants = some (.manager k) := by
  obtain ⟨m, hm⟩ := h.wants hb
  rcases wants_of_log (hi.fits b) hm hlog with rfl | ⟨k, hadd, rfl⟩
  · -- It would wait for another owner.
    obtain ⟨u, -, hne, hu⟩ := h.follow hb hm
    exact absurd (hi.log.one hu hlog) hne
  · exact ⟨k, hadd, hm⟩

/-- In a deadlocked set, a thread that has an instance leads to the owner of the mutex of the
log. -/
theorem log_of_slot (hi : Inv s) (h : s.waiting.Deadlocked threads) {d : Tid}
    (hd : d ∈ threads) {k : Kind} {i : Nat} (hslot : (s.activity d).holds (.slot k i)) :
    ∃ b ∈ threads, (s.activity b).depth ≠ 0 := by
  obtain ⟨m, hm⟩ := h.wants hd
  rcases wants_of_slot (hi.fits d) hm hslot with ⟨-, rfl⟩ | ⟨hlog, -⟩
  · obtain ⟨b, hb, -, hlog⟩ := h.follow hd hm
    exact ⟨b, hb, hlog⟩
  · exact ⟨d, hd, hlog⟩

/-- In a deadlocked set, a thread that waits for the mutex of a manager waits for one that
waits for an instance. -/
theorem atSlot_of_deadlocked (hi : Inv s) (h : s.waiting.Deadlocked threads) {t : Tid}
    (ht : t ∈ threads) {k : Kind} (hwants : (s.activity t).wants = some (.manager k)) :
    ∃ c ∈ threads, ∃ i, (s.activity c).atSlot k i ∧
      (s.activity c).wants = some (.slot k i) := by
  obtain ⟨c, hc, -, hmanager⟩ := h.follow ht hwants
  obtain ⟨m, hm⟩ := h.wants hc
  obtain ⟨i, hslot, rfl⟩ := wants_of_manager (hi.fits c) hm hmanager
  exact ⟨c, hc, i, hslot, hm⟩

/-- In a deadlocked set, some thread owns the mutex of the log. -/
theorem log_of_deadlocked (hi : Inv s) (h : s.waiting.Deadlocked threads) :
    ∃ b ∈ threads, (s.activity b).depth ≠ 0 := by
  obtain ⟨t, ht⟩ := h.1
  obtain ⟨m, hm⟩ := h.wants ht
  cases m with
  | log =>
      obtain ⟨b, hb, -, hlog⟩ := h.follow ht hm
      exact ⟨b, hb, hlog⟩
  | manager k =>
      obtain ⟨c, hc, i, -, hslot⟩ := atSlot_of_deadlocked hi h ht hm
      obtain ⟨d, hd, -, hholds⟩ := h.follow hc hslot
      exact log_of_slot hi h hd hholds
  | slot k i =>
      obtain ⟨d, hd, -, hholds⟩ := h.follow ht hm
      exact log_of_slot hi h hd hholds

/-- A deadlock has a circle. -/
theorem circle_of_deadlocked (hi : Inv s) (h : s.waiting.Deadlocked threads) : s.Circle := by
  obtain ⟨b, hb, hlog⟩ := log_of_deadlocked hi h
  obtain ⟨k, hadd, hmanager⟩ := atAdd_of_deadlocked hi h hb hlog
  obtain ⟨c, hc, i, hslot, hwants⟩ := atSlot_of_deadlocked hi h hb hmanager
  obtain ⟨d, hd, -, hholds⟩ := h.follow hc hwants
  obtain ⟨m, hm⟩ := h.wants hd
  rcases wants_of_slot (hi.fits d) hm hholds with ⟨hahead, -⟩ | ⟨hdlog, hother⟩
  · exact ⟨k, i, b, c, d, hadd, hslot, hahead⟩
  · -- The user of the instance would be the thread in `add` of the same manager.
    obtain rfl : b = d := hi.log.one hlog hdlog
    exact absurd rfl (hother k hadd)

end Deadlocked

/-! ### No step completes a circle -/

section Step

variable [DecidableEq Tid] {m m' : Memory Tid} {s s' : State Tid} {t : Tid}

/-- The lifetime of an entry leads to `add` only in the function of a constructor. -/
theorem next_add {p : Point} (h : (m', .add) ∈ p.next m t) : p = .run (.new true) := by
  cases p with
  | lock _ | callbackLock _ =>
      simp only [Point.next, List.mem_map, Prod.mk.injEq, reduceCtorEq, and_false,
        exists_false] at h
  | run f =>
      rcases f with (_ | _) | (_ | _)
      · simp [Point.next] at h
      · simp [Point.next] at h
      · simp [Point.next] at h
      · rfl
  | callback _ | unlock => simp [Point.next] at h

/-- No step leads back to the constructor of an entry. -/
theorem ne_lock_of_next {p p' : Point} (h : (m', .at p') ∈ p.next m t) (f : Logged) :
    p' ≠ .lock f := by
  rintro rfl
  cases p with
  | lock _ | callbackLock _ | callback _ | unlock => simp [Point.next] at h
  | run g => rcases g with (_ | _) | (_ | _) <;> simp [Point.next] at h

/-- A thread comes to wait in `add` by the step of `entersAdd` only. -/
theorem atAdd_of_move (h : Move m t a m' a') (ha : a.Fits) (hadd : a'.atAdd k) :
    a.entersAdd k := by
  cases h with
  | newAdd hp =>
      cases next_add hp
      exact hadd
  | @funcAdd _ k₀ _ _ _ _ _ hp =>
      cases next_add hp
      cases k₀ with
      | core => exact hadd
      | av => exact nomatch (ha rfl).1
  | @newAdvance f f' S hadv | @avAdvance _ _ _ f f' S hadv =>
      have hbefore := Threads.before_of_advance hadv
      cases f' with
      | addLock id => exact hbefore.elim
      | _ => exact hadd.elim
  | _ => exact hadd.elim

/-- A thread comes to wait for an instance by the step of `entersSlot` only. -/
theorem atSlot_of_move (h : Move m t a m' a') (hslot : a'.atSlot k i) :
    a.entersSlot m k i := by
  cases h with
  | @managerAdvance k₀ f f' entries S hadv _ =>
      have hbefore := Threads.before_of_advance hadv
      cases f' with
      | killLockSlot n | withLockSlot n =>
          obtain ⟨rfl, hi⟩ := hslot
          obtain ⟨rfl, hcheck⟩ := hbefore
          exact ⟨rfl, hi, hcheck⟩
      | _ => exact hslot.elim
  | _ => exact hslot.elim

/-- Only a thread that holds the mutex of the manager gets an instance to itself. -/
theorem entryAhead_of_move (h : Move m t a m' a') (hahead : a'.entryAhead k i) :
    a.entryAhead k i ∨ ∃ f, a.frame k = some f ∧ f.holdsManager = true := by
  cases h with
  | entry =>
      obtain ⟨rfl, hi, -⟩ := hahead
      exact .inl ⟨rfl, hi, List.cons_ne_nil _ _⟩
  | funcAt hp =>
      obtain ⟨rfl, hi, ⟨f, rfl⟩ | hentries⟩ := hahead
      · exact absurd rfl (ne_lock_of_next hp f)
      · exact .inl ⟨rfl, hi, .inr hentries⟩
  | funcDone _ =>
      obtain ⟨rfl, hi, hentries⟩ := hahead
      exact .inl ⟨rfl, hi, .inr hentries⟩
  | avReturn _ =>
      obtain ⟨-, -, ⟨f, hf⟩ | hentries⟩ := hahead
      · exact nomatch hf
      · exact absurd rfl hentries
  | @managerAdvance k₀ f f' entries S hadv _ =>
      have hbefore := Threads.before_of_advance hadv
      cases f' with
      | withTest n object events =>
          obtain rfl : f = .withUnlock n object events := hbefore
          right
          cases object with
          | none => exact hahead.elim
          | some object =>
              cases events with
              | none => exact hahead.elim
              | some events =>
                  obtain ⟨rfl, -, -⟩ := hahead
                  exact ⟨_, if_pos rfl, rfl⟩
      | withFunc n object events =>
          obtain rfl : f = .withTest n (some object) (some events) := hbefore
          exact .inl hahead
      | _ => exact hahead.elim
  | _ => exact hahead.elim

/-- A thread with a property that the changed thread does not have is another one, and had it
before. -/
theorem of_update {P : Activity → Prop} {u : Tid} (h : P (Function.update s.activity t a u))
    (ha : ¬ P a) : P (s.activity u) := by
  by_cases hu : u = t
  · subst hu
    rw [Function.update_self] at h
    exact absurd h ha
  · rwa [Function.update_of_ne hu] at h

/-- A call that starts does not wait in `add`. -/
theorem not_atAdd_start (c : NativeCall) : ¬ c.start.atAdd k := by
  cases c <;> exact id

/-- A call that starts does not wait for an instance. -/
theorem not_atSlot_start (c : NativeCall) : ¬ c.start.atSlot k i := by
  cases c <;> exact id

/-- A call that starts has no instance. -/
theorem not_entryAhead_start (c : NativeCall) : ¬ c.start.entryAhead k i := by
  cases c <;> exact id

/-- A step that meets the condition completes no circle. -/
theorem not_circle_step (hi : Inv s) (hs : ¬ s.Circle) (hcond : Avoids s t)
    (h : Step s t s') : ¬ s'.Circle := by
  rintro ⟨k, i, b, c, d, hb, hc, hd⟩
  cases h with
  | call c₀ hidle =>
      exact hs ⟨k, i, b, c, d, of_update hb (not_atAdd_start c₀),
        of_update hc (not_atSlot_start c₀), of_update hd (not_entryAhead_start c₀)⟩
  | @advance m a h =>
      have hmove := move_of_next h
      replace hb : (Function.update s.activity t a b).atAdd k := hb
      replace hc : (Function.update s.activity t a c).atSlot k i := hc
      replace hd : (Function.update s.activity t a d).entryAhead k i := hd
      -- The step is one of the three threads, or the circle was there before.
      by_cases hbt : b = t
      · subst hbt
        have hcb : c ≠ b := by
          rintro rfl
          exact not_atSlot_of_atAdd hb hc
        have hdb : d ≠ b := by
          rintro rfl
          exact not_entryAhead_of_atAdd hb hd
        rw [Function.update_self] at hb
        rw [Function.update_of_ne hcb] at hc
        rw [Function.update_of_ne hdb] at hd
        exact hcond.add k (atAdd_of_move hmove (hi.fits b) hb) i c d hdb ⟨hc, hd⟩
      · rw [Function.update_of_ne hbt] at hb
        by_cases hct : c = t
        · subst hct
          have hdc : d ≠ c := by
            rintro rfl
            exact not_entryAhead_of_atSlot hc hd
          rw [Function.update_self] at hc
          rw [Function.update_of_ne hdc] at hd
          exact hcond.slot k i (atSlot_of_move hmove hc) b d ⟨hb, hd⟩
        · rw [Function.update_of_ne hct] at hc
          by_cases hdt : d = t
          · subst hdt
            rw [Function.update_self] at hd
            rcases entryAhead_of_move hmove hd with hd | ⟨f, hf, hmanager⟩
            · exact hs ⟨k, i, b, c, d, hb, hc, hd⟩
            · -- The mutex of the manager would have two owners.
              obtain ⟨g, hg, hholds⟩ := frame_of_atSlot hc
              exact hct ((hi.locks k).manager_one c d g f () hg hf hholds hmanager)
          · rw [Function.update_of_ne hdt] at hd
            exact hs ⟨k, i, b, c, d, hb, hc, hd⟩

/-- In every run whose steps complete no circle, no set of threads is ever deadlocked. -/
theorem deadlockFree_of_avoids (h : (calls.restrict Avoids).Reachable s) (threads : Set Tid) :
    ¬ s.waiting.Deadlocked threads := by
  have hboth : Inv s ∧ ¬ s.Circle := by
    refine h.invariant (I := fun s => Inv s ∧ ¬ s.Circle) ?_ ?_
    · intro s hs
      obtain rfl : s = .initial := hs
      refine ⟨inv_initial, ?_⟩
      rintro ⟨k, i, b, c, d, hb, -⟩
      exact hb
    · intro s t s' hs hstep
      exact ⟨hs.1.step hstep.2, not_circle_step hs.1 hs.2 hstep.1 hstep.2⟩
  intro hdead
  exact hboth.2 (circle_of_deadlocked hboth.1 hdead)

/-! ### A circle is never opened again -/

/-- A thread that goes on to `add` waits there after the step. -/
theorem atAdd_of_entersAdd (h : (m', a') ∈ a.next m t) (henter : a.entersAdd k) :
    a'.atAdd k := by
  unfold Activity.entersAdd at henter
  split at henter
  · simp only [Activity.next, Point.next, List.map_cons, List.map_nil, List.mem_singleton,
      Prod.mk.injEq] at h
    rw [h.2]
    exact henter
  · simp only [Activity.next, Point.next, List.map_cons, List.map_nil, List.mem_singleton,
      Prod.mk.injEq] at h
    rw [h.2]
    exact henter
  · exact henter.elim

/-- A thread that finds its number valid waits for the instance after the step. -/
theorem atSlot_of_entersSlot (h : (m', a') ∈ a.next m t) (henter : a.entersSlot m k i) :
    a'.atSlot k i := by
  unfold Activity.entersSlot at henter
  split at henter
  · obtain ⟨rfl, hi, hcheck⟩ := henter
    simp only [Activity.next, Shared.advance, Shared.check, hcheck, if_true, List.map_cons,
      List.map_nil, List.mem_singleton, Prod.mk.injEq] at h
    rw [h.2]
    exact ⟨rfl, hi⟩
  · obtain ⟨rfl, hi, hcheck⟩ := henter
    simp only [Activity.next, Shared.advance, Shared.check, hcheck, if_true, List.map_cons,
      List.map_nil, List.mem_singleton, Prod.mk.injEq] at h
    rw [h.2]
    exact ⟨rfl, hi⟩
  · exact henter.elim

/-- A thread that goes on to `add` waits for no instance of either manager. -/
theorem not_atSlot_of_entersAdd (h : a.entersAdd k) {k' : Kind} : ¬ a.atSlot k' i := by
  intro hslot
  unfold Activity.entersAdd at h
  split at h <;> first | exact hslot | exact h

omit [DecidableEq Tid] in
/-- A thread that goes on to an instance is at no other place of the circle. -/
theorem not_part_of_entersSlot (h : a.entersSlot m k i) :
    ¬ a.atAdd k ∧ ¬ a.entryAhead k i := by
  unfold Activity.entersSlot at h
  split at h <;> first | exact ⟨id, id⟩ | exact h.elim

/-- A step that does not meet the condition completes a circle. -/
theorem circle_of_not_avoids (hcond : ¬ Avoids s t) (h : Step s t s') : s'.Circle := by
  by_contra hnot
  refine hcond ⟨?_, ?_⟩
  · -- The thread would get to the manager mutex, with the other two parts in their places.
    rintro k henter i c d hdt ⟨hc, hd⟩
    have hct : c ≠ t := by
      rintro rfl
      exact not_atSlot_of_entersAdd henter hc
    cases h with
    | call c₀ hidle =>
        rw [hidle] at henter
        exact henter
    | @advance m a hnext =>
        refine hnot ⟨k, i, t, c, d, ?_, ?_, ?_⟩
        · show (Function.update s.activity t a t).atAdd k
          rw [Function.update_self]
          exact atAdd_of_entersAdd hnext henter
        · show (Function.update s.activity t a c).atSlot k i
          rwa [Function.update_of_ne hct]
        · show (Function.update s.activity t a d).entryAhead k i
          rwa [Function.update_of_ne hdt]
  · -- The thread would get to the mutex of the instance, with the other two parts in their places.
    rintro k i henter b d ⟨hb, hd⟩
    have hbt : b ≠ t := by
      rintro rfl
      exact (not_part_of_entersSlot henter).1 hb
    have hdt : d ≠ t := by
      rintro rfl
      exact (not_part_of_entersSlot henter).2 hd
    cases h with
    | call c₀ hidle =>
        rw [hidle] at henter
        exact henter
    | @advance m a hnext =>
        refine hnot ⟨k, i, b, t, d, ?_, ?_, ?_⟩
        · show (Function.update s.activity t a b).atAdd k
          rwa [Function.update_of_ne hbt]
        · show (Function.update s.activity t a t).atSlot k i
          rw [Function.update_self]
          exact atSlot_of_entersSlot hnext henter
        · show (Function.update s.activity t a d).entryAhead k i
          rwa [Function.update_of_ne hdt]

/-- A thread in `add` has no step while the mutex of the manager is locked. -/
theorem next_of_atAdd (hadd : a.atAdd k) (hlocked : (m.shared k).mutex.locked = true) :
    a.next m t = [] := by
  unfold Activity.atAdd at hadd
  split at hadd
  · subst hadd
    simp [Activity.next, Shared.advance, Shared.lockManager, hlocked]
  · subst hadd
    simp [Activity.next, Shared.advance, Shared.lockManager, hlocked]
  · exact hadd.elim

/-- A thread at an instance has no step while its mutex is locked. -/
theorem next_of_atSlot (hslot : a.atSlot k i)
    (hlocked : (m.shared k).manager.locks[i]? = some ⟨true⟩) : a.next m t = [] := by
  unfold Activity.atSlot at hslot
  split at hslot
  · obtain ⟨rfl, hi⟩ := hslot
    simp [Activity.next, Shared.advance, Shared.lockSlot, hi, hlocked]
  · obtain ⟨rfl, hi⟩ := hslot
    simp [Activity.next, Shared.advance, Shared.lockSlot, hi, hlocked]
  · exact hslot.elim

/-- While another thread owns the mutex of the log, the constructor of an entry waits. -/
theorem next_of_depth_zero {p : Point} (hdepth : p.depth = 0)
    (hlog : m.log.lock t = none) : p.next m t = [] := by
  cases p with
  | lock f => simp [Point.next, Memory.lockLog, hlog]
  | _ => cases hdepth

/-- While another thread owns the mutex of the log, an entry ahead stays ahead. -/
theorem entryAhead_of_next (h : Move m t a m' a') (hahead : a.entryAhead k i)
    (hdepth : a.depth = 0) (hlog : m.log.lock t = none) : a'.entryAhead k i := by
  cases h with
  | entry =>
      obtain ⟨rfl, hi, -⟩ := hahead
      exact ⟨rfl, hi, .inl ⟨_, rfl⟩⟩
  | @managerAdvance k₀ f f' entries S hadv hentries =>
      cases f with
      | withTest n object events =>
          cases object with
          | none => exact hahead.elim
          | some object =>
              cases events with
              | none => exact hahead.elim
              | some events =>
                  simp only [Shared.advance, List.mem_singleton, Prod.mk.injEq,
                    Option.some.injEq] at hadv
                  rw [hadv.2]
                  exact hahead
      | withFunc n object events =>
          exact absurd (hentries n object events rfl) hahead.2.2
      | _ => exact hahead.elim
  | @managerReturn k₀ f entries S hadv =>
      cases f with
      | withTest n object events =>
          cases object with
          | none => exact hahead.elim
          | some object =>
              cases events with
              | none => exact hahead.elim
              | some events => simp [Shared.advance] at hadv
      | withFunc n object events => simp [Shared.advance] at hadv
      | _ => exact hahead.elim
  | funcAt hp | funcAdd hp | funcDone hp =>
      rw [next_of_depth_zero hdepth hlog] at hp
      cases hp
  | _ => exact hahead.elim

/-- A thread with an entry to make holds the mutex of its instance. -/
theorem frame_of_entryAhead (h : a.entryAhead k i) :
    ∃ f, a.frame k = some f ∧ f.lock? = some i := by
  unfold Activity.entryAhead at h
  split at h
  · obtain ⟨rfl, hi, -⟩ := h
    exact ⟨_, if_pos rfl, hi⟩
  · obtain ⟨rfl, hi, -⟩ := h
    exact ⟨_, if_pos rfl, hi⟩
  · obtain ⟨rfl, hi, -⟩ := h
    exact ⟨_, if_pos rfl, hi⟩
  · exact h.elim

/-- A thread that waits in `add` holds the mutex of the log. -/
theorem depth_of_atAdd (h : a.atAdd k) : a.depth ≠ 0 := by
  unfold Activity.atAdd at h
  split at h
  · exact Nat.one_ne_zero
  · exact Nat.one_ne_zero
  · exact h.elim

/-- The threads of a circle never get out of it. -/
theorem Circle.step (hi : Inv s) (hs : s.Circle) (h : Step s t s') : s'.Circle := by
  obtain ⟨k, i, b, c, d, hb, hc, hd⟩ := hs
  have hlog : (s.activity b).depth ≠ 0 := depth_of_atAdd hb
  cases h with
  | call c₀ hidle =>
      have hne : ∀ {u : Tid} {P : Activity → Prop}, P (s.activity u) → ¬ P .idle → u ≠ t := by
        rintro u P hu hnot rfl
        exact hnot (hidle ▸ hu)
      refine ⟨k, i, b, c, d, ?_, ?_, ?_⟩
      · show (Function.update s.activity t c₀.start b).atAdd k
        rwa [Function.update_of_ne (hne (P := fun a => a.atAdd k) hb id)]
      · show (Function.update s.activity t c₀.start c).atSlot k i
        rwa [Function.update_of_ne (hne (P := fun a => a.atSlot k i) hc id)]
      · show (Function.update s.activity t c₀.start d).entryAhead k i
        rwa [Function.update_of_ne (hne (P := fun a => a.entryAhead k i) hd id)]
  | @advance m a hnext =>
      -- The first two threads have no step, and the third one keeps its entry ahead.
      have hbt : b ≠ t := by
        rintro rfl
        obtain ⟨f, hf, hmanager⟩ := frame_of_atSlot hc
        have hlocked := (hi.locks k).manager c f hf hmanager
        rw [next_of_atAdd hb hlocked] at hnext
        exact nomatch hnext
      have hct : c ≠ t := by
        rintro rfl
        obtain ⟨f, hf, hslot⟩ := frame_of_entryAhead hd
        have hlocked := (hi.locks k).slot d f hf i hslot
        rw [next_of_atSlot hc hlocked] at hnext
        exact nomatch hnext
      refine ⟨k, i, b, c, d, ?_, ?_, ?_⟩
      · show (Function.update s.activity t a b).atAdd k
        rwa [Function.update_of_ne hbt]
      · show (Function.update s.activity t a c).atSlot k i
        rwa [Function.update_of_ne hct]
      · show (Function.update s.activity t a d).entryAhead k i
        by_cases hdt : d = t
        · subst hdt
          rw [Function.update_self]
          have hdepth : (s.activity d).depth = 0 := by
            by_contra hne
            exact hbt (hi.log.one hlog hne)
          exact entryAhead_of_next (move_of_next hnext) hd hdepth (hi.log.lock_eq_none hlog hbt)
        · rwa [Function.update_of_ne hdt]

end Step

/-! ### Three threads in a deadlock -/

section Example

/-- The first step that a thread in a call can take, if it can take one. -/
def State.next (s : State Nat) (t : Nat) : State Nat :=
  match ((s.activity t).next s.memory t).head? with
  | none => s
  | some (m, a) => ⟨m, Function.update s.activity t a⟩

/-- A thread starts a call, if it is in none. -/
def State.call (s : State Nat) (t : Nat) (c : NativeCall) : State Nat :=
  if s.activity t = .idle then ⟨s.memory, Function.update s.activity t c.start⟩ else s

/-- A thread starts a call and takes this many steps in it. -/
def State.enter (s : State Nat) (t : Nat) (c : NativeCall) (steps : Nat) : State Nat :=
  (List.replicate steps t).foldl State.next (s.call t c)

/-- There is an instance. -/
def oneInstance : State Nat := State.initial.enter 0 (.toxNew true) 7

/-- The thread 1 has the instance. The thread 0 creates another one and has its entry. The
thread 2 has the mutex of the manager. -/
def threeThreads : State Nat :=
  ((oneInstance.enter 1 (.withInstance .core 1 [0]) 8).enter 0 (.toxNew true) 2).enter 2
    (.kill .core 1) 2

variable {s : State Nat} {t u v : Nat} {P : State Nat → Nat → Prop}

/-- A step of a thread leads to a state that can be reached. -/
theorem reachable_next (h : (calls.restrict P).Reachable s) (hP : P s t) :
    (calls.restrict P).Reachable (s.next t) := by
  unfold State.next
  split
  · exact h
  · rename_i m a hhead
    obtain ⟨ls, run⟩ := h
    exact ⟨_, run.step (l := t) ⟨hP, .advance (List.mem_of_head? hhead)⟩⟩

/-- A step of a thread changes what this thread is in, and no other. -/
theorem activity_next_of_ne (h : v ≠ t) : (s.next t).activity v = s.activity v := by
  unfold State.next
  split
  · rfl
  · exact Function.update_of_ne h _ _

/-- A call that a thread starts leads to a state that can be reached. -/
theorem reachable_call (h : (calls.restrict P).Reachable s) (hP : P s t) (c : NativeCall) :
    (calls.restrict P).Reachable (s.call t c) := by
  unfold State.call
  split
  · rename_i hidle
    obtain ⟨ls, run⟩ := h
    exact ⟨_, run.step (l := t) ⟨hP, .call c hidle⟩⟩
  · exact h

/-- A call changes what its thread is in, and no other. -/
theorem activity_call_of_ne (h : v ≠ t) (c : NativeCall) :
    (s.call t c).activity v = s.activity v := by
  unfold State.call
  split
  · exact Function.update_of_ne h _ _
  · rfl

/-- Some steps of a thread change what this thread is in, and no other. -/
theorem activity_enter_of_ne (h : v ≠ t) (c : NativeCall) (steps : Nat) :
    (s.enter t c steps).activity v = s.activity v := by
  have hsteps : ∀ s₁ : State Nat,
      ((List.replicate steps t).foldl State.next s₁).activity v = s₁.activity v := by
    induction steps with
    | zero => exact fun _ => rfl
    | succ steps ih => exact fun s₁ => (ih (s₁.next t)).trans (activity_next_of_ne h)
  exact (hsteps _).trans (activity_call_of_ne h c)

/-- A run goes on with a call, when the condition holds whatever the thread does. -/
theorem reachable_enter (h : (calls.restrict P).Reachable s) (c : NativeCall) (steps : Nat)
    (hP : ∀ s', (∀ v, v ≠ t → s'.activity v = s.activity v) → P s' t) :
    (calls.restrict P).Reachable (s.enter t c steps) := by
  have hsteps : ∀ s₁, (calls.restrict P).Reachable s₁ →
      (∀ v, v ≠ t → s₁.activity v = s.activity v) →
      (calls.restrict P).Reachable ((List.replicate steps t).foldl State.next s₁) := by
    induction steps with
    | zero => exact fun _ h₁ _ => h₁
    | succ steps ih =>
        intro s₁ h₁ hother
        refine ih (s₁.next t) (reachable_next h₁ (hP s₁ hother)) ?_
        intro v hv
        rw [activity_next_of_ne hv, hother v hv]
  exact hsteps _ (reachable_call h (hP s fun _ _ => rfl) c) fun v hv => activity_call_of_ne hv c

/-- The initial state is reached by no step. -/
theorem reachable_initial : (calls.restrict P).Reachable State.initial :=
  ⟨[], .init rfl⟩

/-- Some runs of three threads end in a deadlock. -/
theorem not_deadlockFree :
    ¬ ∀ s : State Nat, calls.Reachable s → ∀ threads, ¬ s.waiting.Deadlocked threads := by
  intro h
  have hreach : (calls.restrict fun _ _ => True).Reachable threeThreads :=
    reachable_enter (reachable_enter (reachable_enter (reachable_enter reachable_initial _ _
      fun _ _ => trivial) _ _ fun _ _ => trivial) _ _ fun _ _ => trivial) _ _
      fun _ _ => trivial
  refine h threeThreads hreach.of_restrict {0, 1, 2} ⟨⟨0, .inl rfl⟩, ?_⟩
  rintro t (rfl | rfl | rfl)
  · -- `add` waits for the mutex of the manager, which `kill` has.
    exact ⟨2, .inr (.inr rfl), by decide, .manager .core, rfl, _, rfl, rfl⟩
  · -- The entry waits for the mutex of the log, which `toxNew` has.
    exact ⟨0, .inl rfl, by decide, .log, rfl, Nat.one_ne_zero⟩
  · -- `kill` waits for the instance.
    exact ⟨1, .inr (.inl rfl), by decide, .slot .core 0, rfl, _, rfl, rfl⟩

/-- A thread in a call is the one that is not idle. -/
theorem eq_of_idle {Q : Activity → Prop} (hidle : ∀ v, v ≠ t → v ≠ u → s.activity v = .idle)
    (hv : v ≠ t) (h : Q (s.activity v)) (hQ : ¬ Q .idle) : v = u := by
  by_contra hu
  rw [hidle v hv hu] at h
  exact hQ h

/-- Two threads alone never complete a circle. -/
theorem avoids_of_two (hidle : ∀ v, v ≠ t → v ≠ u → s.activity v = .idle) : Avoids s t where
  add k henter i c d hdt := by
    rintro ⟨hc, hd⟩
    have hct : c ≠ t := by
      rintro rfl
      exact not_atSlot_of_entersAdd henter hc
    have hcu : c = u := eq_of_idle (Q := fun a => a.atSlot k i) hidle hct hc id
    have hdu : d = u := eq_of_idle (Q := fun a => a.entryAhead k i) hidle hdt hd id
    rw [hcu] at hc
    rw [hdu] at hd
    exact not_entryAhead_of_atSlot hc hd
  slot k i henter b d := by
    rintro ⟨hb, hd⟩
    have hbt : b ≠ t := by
      rintro rfl
      exact (not_part_of_entersSlot henter).1 hb
    have hdt : d ≠ t := by
      rintro rfl
      exact (not_part_of_entersSlot henter).2 hd
    have hbu : b = u := eq_of_idle (Q := fun a => a.atAdd k) hidle hbt hb id
    have hdu : d = u := eq_of_idle (Q := fun a => a.entryAhead k i) hidle hdt hd id
    rw [hbu] at hb
    rw [hdu] at hd
    exact not_entryAhead_of_atAdd hb hd

/-- One thread runs `func` and has an entry, and another one waits in `kill`. -/
def twoThreads : State Nat :=
  (oneInstance.enter 1 (.withInstance .core 1 [0]) 10).enter 2 (.kill .core 1) 2

/-- The state of the example is reached by steps that avoid the circle. -/
theorem reachable_twoThreads : (calls.restrict Avoids).Reachable twoThreads := by
  -- In each part one thread moves, and at most one other thread is in a call.
  have h₁ : (calls.restrict Avoids).Reachable oneInstance := by
    refine reachable_enter reachable_initial _ _ ?_
    intro s' hother
    exact avoids_of_two (u := 0) fun v hv _ => hother v hv
  have hidle : ∀ v, oneInstance.activity v = .idle := by
    intro v
    by_cases hv : v = 0
    · subst hv
      rfl
    · exact activity_enter_of_ne hv _ _
  have h₂ := reachable_enter (t := 1) h₁ (.withInstance .core 1 [0]) 10 (by
    intro s' hother
    exact avoids_of_two (u := 1) fun v hv _ => (hother v hv).trans (hidle v))
  refine reachable_enter h₂ _ _ ?_
  intro s' hother
  refine avoids_of_two (u := 1) fun v hv hv₁ => ?_
  rw [hother v hv, activity_enter_of_ne hv₁, hidle]

/-- The second thread waits for the first one, and the first one goes on. -/
theorem deadlockFree_twoThreads :
    (twoThreads.activity 1).depth = 1 ∧
      (twoThreads.activity 2).wants = some (.slot .core 0) ∧
      ¬ twoThreads.waiting.Deadlocked {1, 2} :=
  ⟨rfl, rfl, deadlockFree_of_avoids reachable_twoThreads _⟩

end Example

end Tox4j.Native.Calls
