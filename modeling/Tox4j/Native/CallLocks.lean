import Tox4j.Native.Calls

/-!
# `Tox4j.Native.CallLocks`: which mutexes a call holds and waits for

`Activity.wants` is the mutex that a thread waits for at a point of its code, and
`Activity.holds` says which mutexes it holds there. `State.waiting` is the snapshot of all
threads. `Inv` ties it to the memory: a mutex that is held is locked, and by one thread
only. Every step keeps `Inv` (`inv_of_reachable`).
-/

set_option autoImplicit false

namespace Tox4j.Native.Threads

/-- The mutex of the manager `k`, or of a slot of it, that the thread waits for. -/
def Frame.wants (k : Calls.Kind) : Frame → Option Calls.MutexId
  | .addLock _ | .killLock _ | .finalizeLock _ | .withLock _ => some (.manager k)
  | .killLockSlot n | .withLockSlot n => (InstanceManager.index? n).map (.slot k)
  | _ => none

/-- The point is in `add`. -/
def Frame.isAdd : Frame → Bool
  | .addLock _ | .addChoose _ | .addTest _ _ | .addObject _ _ | .addEvents _ _
  | .addRelocate _ | .addEmplace | .addUnlock => true
  | _ => false

/-- An `add` stays an `add` until it returns. -/
theorem Frame.isAdd_advance {s s' : Shared} {f g : Frame} (h : f.isAdd = true)
    (hadv : (s', some g) ∈ s.advance f) : g.isAdd = true := by
  cases f with
  | addLock id =>
      obtain ⟨-, -, hg⟩ := Shared.mem_lockManager.mp hadv
      cases hg
      rfl
  | addChoose id =>
      simp only [Shared.advance] at hadv
      split at hadv
      · simp only [List.mem_singleton, Prod.mk.injEq, Option.some.injEq] at hadv
        rw [hadv.2]
        rfl
      · simp only [List.mem_cons, List.not_mem_nil, or_false, Prod.mk.injEq,
          Option.some.injEq] at hadv
        rcases hadv with hadv | hadv
        · rw [hadv.2]
          rfl
        · rw [hadv.2]
          rfl
  | addTest n id | addObject n id | addEvents n id | addRelocate id | addEmplace | addUnlock =>
      simp only [Shared.advance, Shared.readSlot] at hadv
      repeat' split at hadv
      all_goals
        simp only [List.mem_singleton, List.not_mem_nil, Prod.mk.injEq, Option.some.injEq,
          reduceCtorEq, and_false] at hadv
      all_goals
        rw [hadv.2]
        rfl
  | _ => cases h

/-- What the points that matter for a deadlock tell about the point before. -/
def Shared.Before (s : Shared) (f : Frame) : Frame → Prop
  | .addLock _ => False
  | .killLockSlot n =>
    f = .killCheck n ∧ (s.manager.checkInstanceNumber ⟨[]⟩ n true).1 = true
  | .withLockSlot n =>
    f = .withCheck n ∧ (s.manager.checkInstanceNumber ⟨[]⟩ n false).1 = true
  | .withTest n object events => f = .withUnlock n object events
  | .withFunc n object events => f = .withTest n (some object) (some events)
  | _ => True

/-- Each step goes on from the point that `Before` names. -/
theorem before_of_advance {s s' : Shared} {f g : Frame} (hadv : (s', some g) ∈ s.advance f) :
    s.Before f g := by
  cases f with
  | addChoose id =>
      simp only [Shared.advance] at hadv
      split at hadv
      · simp only [List.mem_singleton, Prod.mk.injEq, Option.some.injEq] at hadv
        rw [hadv.2]
        trivial
      · simp only [List.mem_cons, List.not_mem_nil, or_false, Prod.mk.injEq,
          Option.some.injEq] at hadv
        rcases hadv with hadv | hadv
        · rw [hadv.2]
          trivial
        · rw [hadv.2]
          trivial
  | killCheck n | withCheck n =>
      obtain ⟨-, hg⟩ := Shared.mem_check.mp hadv
      split at hg
      · rename_i hcheck
        cases hg
        exact ⟨rfl, hcheck⟩
      · cases hg
        trivial
  | finalizeCheck n =>
      obtain ⟨-, hg⟩ := Shared.mem_check.mp hadv
      split at hg <;> cases hg <;> trivial
  | _ =>
      simp only [Shared.advance, Shared.lockManager, Shared.lockSlot, Shared.unlockSlot,
        Shared.readSlot] at hadv
      repeat' split at hadv
      all_goals
        simp only [List.mem_singleton, List.not_mem_nil, Prod.mk.injEq, Option.some.injEq,
          reduceCtorEq, and_false] at hadv
      all_goals
        rw [hadv.2]
        trivial

end Tox4j.Native.Threads

namespace Tox4j.Native.Calls

open Tox4j.Lib
open Threads (Shared Frame AddId Locks)

/-- How often the thread holds the mutex of the log. -/
def Point.depth : Point → Nat
  | .lock _ => 0
  | .run _ | .callbackLock _ | .unlock => 1
  | .callback _ => 2

/-- The thread waits for the mutex of the log. -/
def Point.wants : Point → Option MutexId
  | .lock _ | .callbackLock _ => some .log
  | _ => none

/-- The function creates no instance. -/
def Logged.isCall : Logged → Bool
  | .call _ => true
  | .new _ => false

/-- The function of the entry creates no instance. -/
def Point.isCall : Point → Bool
  | .lock f | .run f => f.isCall
  | _ => true

namespace Activity

/-- How often the thread holds the mutex of the log. -/
def depth : Activity → Nat
  | .idle | .logLock _ | .manager _ _ _ => 0
  | .logUnlock _ | .toxNewAdd _ | .toxavNewAdd _ _ _ _ => 1
  | .toxNew p | .func _ _ _ _ p _ => p.depth

/-- The point in the member function of the manager `k` that the thread is in. -/
def frame (k : Kind) : Activity → Option Frame
  | .idle | .logLock _ | .logUnlock _ | .toxNew _ => none
  | .toxNewAdd f => if k = .core then some f else none
  | .manager k' f _ => if k = k' then some f else none
  | .func k' n object events _ _ => if k = k' then some (.withFunc n object events) else none
  | .toxavNewAdd n object events f =>
    match k with
    | .core => some (.withFunc n object events)
    | .av => some f

/-- The mutex that the thread waits for. -/
def wants : Activity → Option MutexId
  | .idle | .logUnlock _ => none
  | .logLock _ => some .log
  | .toxNew p | .func _ _ _ _ p _ => p.wants
  | .toxNewAdd f => f.wants .core
  | .manager k f _ => f.wants k
  | .toxavNewAdd _ _ _ f => f.wants .av

/-- The thread holds the mutex. -/
def holds (a : Activity) : MutexId → Prop
  | .log => a.depth ≠ 0
  | .manager k => ∃ f, a.frame k = some f ∧ f.holdsManager = true
  | .slot k i => ∃ f, a.frame k = some f ∧ f.lock? = some i

/-- A thread that creates an instance is in `add`, and none creates one on an AV instance. -/
def Fits : Activity → Prop
  | .toxNewAdd f | .toxavNewAdd _ _ _ f => f.isAdd = true
  | .manager k _ entries => k = .av → ∀ entry ∈ entries, entry.isCall = true
  | .func k _ _ _ p entries =>
    k = .av → p.isCall = true ∧ ∀ entry ∈ entries, entry.isCall = true
  | _ => True

end Activity

namespace State

variable {Tid : Type}

/-- Who waits for which mutex, and who holds it. -/
def waiting (s : State Tid) : Waiting Tid MutexId :=
  ⟨fun t => (s.activity t).wants, fun t => (s.activity t).holds⟩

/-- Where the threads are in the member functions of the manager `k`. -/
def frame (s : State Tid) (k : Kind) (t : Tid) : Option Frame :=
  (s.activity t).frame k

end State

/-- The mutexes in the memory are those that the threads hold. -/
structure Inv {Tid : Type} (s : State Tid) : Prop where
  locks : ∀ k, Locks (s.memory.shared k) (s.frame k)
  log : s.memory.log.HeldBy fun t => (s.activity t).depth
  fits : ∀ t, (s.activity t).Fits

/-! ### What a step does -/

/-- What a step does in the member functions of one manager. -/
inductive FrameStep (s s' : Shared) : Option Frame → Option Frame → Prop
  | stay {r : Option Frame} (h : s' = s) : FrameStep s s' r r
  | enter {f : Frame} (hmutex : s'.mutex = s.mutex)
      (hlocks : s'.manager.locks = s.manager.locks) (hmanager : f.holdsManager = false)
      (hslot : f.lock? = none) : FrameStep s s' none (some f)
  | advance {f : Frame} {r : Option Frame} (h : (s', r) ∈ s.advance f) :
      FrameStep s s' (some f) r

variable {Tid : Type} {m m' : Memory Tid} {t : Tid} {a a' : Activity}

/-- The mutex of the log is not part of a manager. -/
@[simp] theorem shared_unlockLog (k : Kind) : m.unlockLog.shared k = m.shared k := by
  cases k <;> rfl

/-- A step in one manager is a step in each of the two: in the other one nothing happens. -/
theorem frameStep_setShared {k₀ k : Kind} {s : Shared} {r r' : Option Frame}
    (h₀ : k₀ = k → FrameStep (m.shared k) s r r') (h : k₀ ≠ k → r' = r) :
    FrameStep (m.shared k) ((m.setShared k₀ s).shared k) r r' := by
  by_cases hk : k₀ = k
  · subst hk
    rw [Memory.shared_setShared_self]
    exact h₀ rfl
  · rw [Memory.shared_setShared_of_ne _ _ (Ne.symm hk), h hk]
    exact .stay rfl

/-- `add` starts with a new frame. -/
theorem frameStep_add (s : Shared) :
    FrameStep s (s.start (.add () ())).1 none (some (.addLock s.adds)) :=
  .enter rfl rfl rfl rfl

variable [DecidableEq Tid]

/-- A thread that locks the log changes no manager. -/
theorem shared_lockLog (h : m.lockLog t = some m') (k : Kind) : m'.shared k = m.shared k := by
  obtain ⟨log, -, rfl⟩ := Option.map_eq_some_iff.mp h
  cases k <;> rfl

/-- A thread that locks the log holds it once more. -/
theorem logStep_lockLog (h : m.lockLog t = some m') (depth : Nat) :
    RecursiveMutex.Step t m.log depth m'.log (depth + 1) := by
  obtain ⟨log, hlock, rfl⟩ := Option.map_eq_some_iff.mp h
  exact .lock hlock

/-- A step in the lifetime of an entry stays out of the managers. -/
theorem Point.next_shared {p : Point} {r : Point.Next} (h : (m', r) ∈ p.next m t) (k : Kind) :
    m'.shared k = m.shared k := by
  cases p with
  | lock f | callbackLock callbacks =>
      simp only [Point.next, List.mem_map, Option.mem_toList, Prod.mk.injEq] at h
      obtain ⟨_, hlock, rfl, -⟩ := h
      exact shared_lockLog hlock k
  | run f =>
      rcases f with (_ | _) | (_ | _) <;>
        · simp only [Point.next, List.mem_singleton, Prod.mk.injEq] at h
          rw [h.1]
  | callback callbacks | unlock =>
      simp only [Point.next, List.mem_singleton, Prod.mk.injEq] at h
      rw [h.1]
      exact shared_unlockLog k

/-- How often the thread holds the mutex after a step in the lifetime of an entry. -/
def Point.Next.depth : Point.Next → Nat
  | .at p => p.depth
  | .add => 1
  | .done => 0

/-- A step in the lifetime of an entry locks the mutex of the log once more, unlocks it once, or
leaves it. -/
theorem Point.next_log {p : Point} {r : Point.Next} (h : (m', r) ∈ p.next m t) :
    RecursiveMutex.Step t m.log p.depth m'.log r.depth := by
  cases p with
  | lock f | callbackLock callbacks =>
      simp only [Point.next, List.mem_map, Option.mem_toList, Prod.mk.injEq] at h
      obtain ⟨_, hlock, rfl, rfl⟩ := h
      exact logStep_lockLog hlock _
  | run f =>
      rcases f with (_ | _) | (_ | _) <;>
        · simp only [Point.next, List.mem_singleton, Prod.mk.injEq] at h
          obtain ⟨rfl, rfl⟩ := h
          exact .stay
  | callback callbacks | unlock =>
      simp only [Point.next, List.mem_singleton, Prod.mk.injEq] at h
      obtain ⟨rfl, rfl⟩ := h
      exact .unlock

/-- A point of a function that creates no instance does not lead to `add`. -/
theorem Point.Next.isCall_at {p : Point} (hp : p.isCall = true) :
    Point.Next.at p ≠ .add ∧ ∀ p', Point.Next.at p = .at p' → p'.isCall = true := by
  refine ⟨by simp, ?_⟩
  intro p' hp'
  cases hp'
  exact hp

/-- The lifetime of an entry whose function creates no instance does not lead to `add`. -/
theorem Point.isCall_next {p : Point} {r : Point.Next} (hp : p.isCall = true)
    (h : (m', r) ∈ p.next m t) : r ≠ .add ∧ ∀ p', r = .at p' → p'.isCall = true := by
  cases p with
  | lock f | callbackLock callbacks =>
      simp only [Point.next, List.mem_map, Prod.mk.injEq] at h
      obtain ⟨_, -, -, rfl⟩ := h
      exact Point.Next.isCall_at hp
  | run f =>
      cases f with
      | call callbacks =>
          cases callbacks <;>
            · simp only [Point.next, List.mem_singleton, Prod.mk.injEq] at h
              obtain ⟨-, rfl⟩ := h
              exact Point.Next.isCall_at rfl
      | new success => exact nomatch hp
  | callback callbacks =>
      simp only [Point.next, List.mem_singleton, Prod.mk.injEq] at h
      obtain ⟨-, rfl⟩ := h
      exact Point.Next.isCall_at rfl
  | unlock =>
      simp only [Point.next, List.mem_singleton, Prod.mk.injEq] at h
      obtain ⟨-, rfl⟩ := h
      exact ⟨by simp, nofun⟩

/-- The steps of a thread: what it is in, the memory after it, and what it is in then. -/
inductive Move (m : Memory Tid) (t : Tid) : Activity → Memory Tid → Activity → Prop
  | logLock {m' : Memory Tid} {more : Nat} (h : m.lockLog t = some m') :
      Move m t (.logLock more) m' (.logUnlock more)
  | logLast : Move m t (.logUnlock 0) m.unlockLog .idle
  | logMore {more : Nat} : Move m t (.logUnlock (more + 1)) m.unlockLog (.logLock more)
  | newAt {m' : Memory Tid} {p p' : Point} (h : (m', .at p') ∈ p.next m t) :
      Move m t (.toxNew p) m' (.toxNew p')
  | newAdd {m' : Memory Tid} {p : Point} (h : (m', .add) ∈ p.next m t) :
      Move m t (.toxNew p) (m'.setShared .core ((m'.shared .core).start (.add () ())).1)
        (.toxNewAdd (.addLock (m'.shared .core).adds))
  | newDone {m' : Memory Tid} {p : Point} (h : (m', .done) ∈ p.next m t) :
      Move m t (.toxNew p) m' .idle
  | newAdvance {f f' : Frame} {s : Shared} (h : (s, some f') ∈ (m.shared .core).advance f) :
      Move m t (.toxNewAdd f) (m.setShared .core s) (.toxNewAdd f')
  | newReturn {f : Frame} {s : Shared} (h : (s, none) ∈ (m.shared .core).advance f) :
      Move m t (.toxNewAdd f) (m.setShared .core s) (.toxNew .unlock)
  | entry {k : Kind} {n : Jint} {object events : AddId} {entry : Logged}
      {entries : List Logged} :
      Move m t (.manager k (.withFunc n object events) (entry :: entries)) m
        (.func k n object events (.lock entry) entries)
  | managerAdvance {k : Kind} {f f' : Frame} {entries : List Logged} {s : Shared}
      (h : (s, some f') ∈ (m.shared k).advance f)
      (hentries : ∀ n object events, f = .withFunc n object events → entries = []) :
      Move m t (.manager k f entries) (m.setShared k s) (.manager k f' entries)
  | managerReturn {k : Kind} {f : Frame} {entries : List Logged} {s : Shared}
      (h : (s, none) ∈ (m.shared k).advance f) :
      Move m t (.manager k f entries) (m.setShared k s) .idle
  | funcAt {m' : Memory Tid} {k : Kind} {n : Jint} {object events : AddId} {p p' : Point}
      {entries : List Logged} (h : (m', .at p') ∈ p.next m t) :
      Move m t (.func k n object events p entries) m' (.func k n object events p' entries)
  | funcAdd {m' : Memory Tid} {k : Kind} {n : Jint} {object events : AddId} {p : Point}
      {entries : List Logged} (h : (m', .add) ∈ p.next m t) :
      Move m t (.func k n object events p entries)
        (m'.setShared .av ((m'.shared .av).start (.add () ())).1)
        (.toxavNewAdd n object events (.addLock (m'.shared .av).adds))
  | funcDone {m' : Memory Tid} {k : Kind} {n : Jint} {object events : AddId} {p : Point}
      {entries : List Logged} (h : (m', .done) ∈ p.next m t) :
      Move m t (.func k n object events p entries) m'
        (.manager k (.withFunc n object events) entries)
  | avAdvance {n : Jint} {object events : AddId} {f f' : Frame} {s : Shared}
      (h : (s, some f') ∈ (m.shared .av).advance f) :
      Move m t (.toxavNewAdd n object events f) (m.setShared .av s)
        (.toxavNewAdd n object events f')
  | avReturn {n : Jint} {object events : AddId} {f : Frame} {s : Shared}
      (h : (s, none) ∈ (m.shared .av).advance f) :
      Move m t (.toxavNewAdd n object events f) (m.setShared .av s)
        (.func .core n object events .unlock [])

/-- `Move` has all the steps of `Activity.next`. -/
theorem move_of_next (h : (m', a') ∈ a.next m t) : Move m t a m' a' := by
  cases a with
  | idle => exact nomatch h
  | logLock more =>
      simp only [Activity.next, List.mem_map, Option.mem_toList, Prod.mk.injEq] at h
      obtain ⟨_, hlock, rfl, rfl⟩ := h
      exact .logLock hlock
  | logUnlock more =>
      cases more <;>
        · simp only [Activity.next, List.mem_singleton, Prod.mk.injEq] at h
          obtain ⟨rfl, rfl⟩ := h
          constructor
  | toxNew p =>
      obtain ⟨⟨m₁, r⟩, hr, heq⟩ := List.mem_map.mp h
      cases r <;>
        · cases heq
          constructor
          exact hr
  | toxNewAdd f =>
      obtain ⟨⟨s, r⟩, hr, heq⟩ := List.mem_map.mp h
      cases r <;>
        · cases heq
          constructor
          exact hr
  | manager k f entries =>
      by_cases hentry : ∃ n object events entry rest,
          f = .withFunc n object events ∧ entries = entry :: rest
      · obtain ⟨n, object, events, entry, rest, rfl, rfl⟩ := hentry
        cases List.mem_singleton.mp h
        exact .entry
      · -- The call advances in the member function of the manager.
        have hentries : ∀ n object events, f = .withFunc n object events → entries = [] := by
          intro n object events hf
          cases entries with
          | nil => rfl
          | cons entry rest => exact absurd ⟨n, object, events, entry, rest, hf, rfl⟩ hentry
        rw [Activity.next] at h
        · obtain ⟨⟨s, r⟩, hr, heq⟩ := List.mem_map.mp h
          cases r with
          | none =>
              cases heq
              exact .managerReturn hr
          | some f' =>
              cases heq
              exact .managerAdvance hr hentries
        · intro n object events entry rest hf hrest
          exact hentry ⟨n, object, events, entry, rest, hf, hrest⟩
  | func k n object events p entries =>
      obtain ⟨⟨m₁, r⟩, hr, heq⟩ := List.mem_map.mp h
      cases r <;>
        · cases heq
          constructor
          exact hr
  | toxavNewAdd n object events f =>
      obtain ⟨⟨s, r⟩, hr, heq⟩ := List.mem_map.mp h
      cases r <;>
        · cases heq
          constructor
          exact hr

/-! ### What a step does to the mutexes -/

/-- What a step of a thread does in the member functions of the manager `k`. -/
theorem Move.frameStep (h : Move m t a m' a') (ha : a.Fits) (k : Kind) :
    FrameStep (m.shared k) (m'.shared k) (a.frame k) (a'.frame k) := by
  cases h with
  | logLock hlock => exact .stay (shared_lockLog hlock k)
  | logLast | logMore => exact .stay (shared_unlockLog k)
  | newAt hp | newDone hp | funcAt hp | funcDone hp => exact .stay (Point.next_shared hp k)
  | newAdd hp =>
      rw [← Point.next_shared hp k]
      refine frameStep_setShared ?_ ?_
      · intro hk
        subst hk
        exact frameStep_add _
      · intro hk
        simp [Activity.frame, Ne.symm hk]
  | @funcAdd _ k₀ _ _ _ _ _ hp =>
      -- It is a core instance, so the thread is outside of the AV manager.
      have hcore : k₀ = .core := by
        cases k₀ with
        | core => rfl
        | av => exact absurd rfl (Point.isCall_next (ha rfl).1 hp).1
      subst hcore
      rw [← Point.next_shared hp k]
      refine frameStep_setShared ?_ ?_
      · intro hk
        subst hk
        exact frameStep_add _
      · intro hk
        cases k with
        | core => rfl
        | av => exact absurd rfl hk
  | newAdvance hadv | newReturn hadv =>
      refine frameStep_setShared ?_ ?_
      · intro hk
        subst hk
        exact .advance hadv
      · intro hk
        simp [Activity.frame, Ne.symm hk]
  | entry => exact .stay rfl
  | @managerAdvance k₀ _ _ _ _ hadv _ | @managerReturn k₀ _ _ _ hadv =>
      refine frameStep_setShared ?_ ?_
      · intro hk
        subst hk
        simpa [Activity.frame] using FrameStep.advance hadv
      · intro hk
        simp [Activity.frame, Ne.symm hk]
  | avAdvance hadv | avReturn hadv =>
      refine frameStep_setShared ?_ ?_
      · intro hk
        subst hk
        exact .advance hadv
      · intro hk
        cases k with
        | core => rfl
        | av => exact absurd rfl hk

/-- What a step of a thread does with the mutex of the log. -/
theorem Move.logStep (h : Move m t a m' a') :
    RecursiveMutex.Step t m.log a.depth m'.log a'.depth := by
  cases h with
  | logLock hlock => exact logStep_lockLog hlock 0
  | logLast | logMore => exact .unlock
  | newAt hp | newDone hp | funcAt hp | funcDone hp => exact Point.next_log hp
  | newAdd hp | funcAdd hp =>
      rw [Memory.setShared_log]
      exact Point.next_log hp
  | newAdvance _ | newReturn _ | managerAdvance _ _ | managerReturn _ | avAdvance _
  | avReturn _ =>
      rw [Memory.setShared_log]
      exact .stay
  | entry => exact .stay

/-- A thread that creates an instance stays in `add`, and it never creates one on an AV instance. -/
theorem Move.fits (h : Move m t a m' a') (ha : a.Fits) : a'.Fits := by
  cases h with
  | newAdd _ | funcAdd _ => rfl
  | newAdvance hadv | avAdvance hadv => exact Frame.isAdd_advance ha hadv
  | entry =>
      intro hk
      exact List.forall_mem_cons.mp (ha hk)
  | managerAdvance _ _ => exact ha
  | funcAt hp =>
      intro hk
      exact ⟨(Point.isCall_next (ha hk).1 hp).2 _ rfl, (ha hk).2⟩
  | funcDone _ =>
      intro hk
      exact (ha hk).2
  | avReturn _ => exact nofun
  | _ => trivial

/-! ### The invariant -/

section Invariant

variable {s s' : State Tid}

/-- A step of one manager keeps its `Locks`. -/
theorem FrameStep.locks {S S' : Shared} {F : Tid → Option Frame} {r : Option Frame}
    (h : FrameStep S S' (F t) r) (hl : Locks S F) : Locks S' (Function.update F t r) := by
  generalize hF : F t = r₀ at h
  cases h with
  | stay hS =>
      rw [hS, ← hF, Function.update_eq_self]
      exact hl
  | enter hmutex hlocks hmanager hslot => exact hl.start hmutex hlocks hmanager hslot
  | advance hadv => exact hl.advance hF hadv

omit [DecidableEq Tid] in
/-- Before the first call no mutex is held. -/
theorem inv_initial : Inv (State.initial : State Tid) where
  locks k := by
    have hframe : (State.initial : State Tid).frame k = fun _ => none := rfl
    rw [hframe]
    exact Threads.locks_none
  log := RecursiveMutex.heldBy_free
  fits _ := trivial

/-- The point of each thread in a manager, after one thread went on. -/
theorem frame_update (s : State Tid) (m : Memory Tid) (t : Tid) (a : Activity) (k : Kind) :
    (⟨m, Function.update s.activity t a⟩ : State Tid).frame k =
      Function.update (s.frame k) t (a.frame k) :=
  Function.comp_update (Activity.frame k) s.activity t a

/-- How often each thread holds the log, after one thread went on. -/
theorem depth_update (s : State Tid) (t : Tid) (a : Activity) :
    (fun u => (Function.update s.activity t a u).depth) =
      Function.update (fun u => (s.activity u).depth) t a.depth :=
  Function.comp_update Activity.depth s.activity t a

/-- A thread goes from one point to another one. -/
theorem Inv.update (hi : Inv s)
    (hframe : ∀ k, FrameStep (s.memory.shared k) (m'.shared k) (s.frame k t) (a'.frame k))
    (hlog : RecursiveMutex.Step t s.memory.log (s.activity t).depth m'.log a'.depth)
    (hfits : a'.Fits) : Inv ⟨m', Function.update s.activity t a'⟩ where
  locks k := by
    rw [frame_update]
    exact (hframe k).locks (hi.locks k)
  log := by
    show m'.log.HeldBy fun u => (Function.update s.activity t a' u).depth
    rw [depth_update]
    exact hlog.heldBy hi.log
  fits := by
    refine (Function.forall_update_iff s.activity fun _ => Activity.Fits).mpr ⟨hfits, ?_⟩
    intro u _
    exact hi.fits u

/-- A call that starts enters at most one member function, and has changed no manager yet. -/
theorem NativeCall.frameStep_start (c : NativeCall) (S : Shared) (k : Kind) :
    FrameStep S S none (c.start.frame k) := by
  cases c with
  | log _ | toxNew _ => exact .stay rfl
  | toxavNew n _ =>
      cases k with
      | core => exact .enter rfl rfl rfl rfl
      | av => exact .stay rfl
  | kill k' n | finalize k' n | withInstance k' n _ =>
      by_cases hk : k = k'
      · rw [NativeCall.start, Activity.frame, if_pos hk]
        exact .enter rfl rfl rfl rfl
      · rw [NativeCall.start, Activity.frame, if_neg hk]
        exact .stay rfl

/-- A call that starts does not hold the log. -/
theorem NativeCall.depth_start (c : NativeCall) : c.start.depth = 0 := by
  cases c <;> rfl

/-- A call that starts creates no instance yet. -/
theorem NativeCall.fits_start (c : NativeCall) : c.start.Fits := by
  cases c with
  | log _ | toxNew _ => trivial
  | toxavNew _ _ => exact nofun
  | kill _ _ | finalize _ _ => exact fun _ => nofun
  | withInstance _ _ callbacks =>
      intro _ entry hentry
      obtain ⟨_, -, rfl⟩ := List.mem_map.mp hentry
      rfl

/-- Each step keeps the invariant: the steps in both managers keep `Locks`, and those at the log
keep the count of its mutex. -/
theorem Inv.step (hi : Inv s) (h : Step s t s') : Inv s' := by
  cases h with
  | call c hidle =>
      refine hi.update ?_ ?_ ?_
      · intro k
        rw [State.frame, hidle]
        exact c.frameStep_start _ k
      · rw [hidle, c.depth_start]
        exact .stay
      · exact c.fits_start
  | advance h =>
      have hmove := move_of_next h
      exact hi.update (hmove.frameStep (hi.fits t)) hmove.logStep (hmove.fits (hi.fits t))

/-- In every state the mutexes are held by those threads whose points say so. -/
theorem inv_of_reachable (h : calls.Reachable s) : Inv s :=
  h.invariant (fun _ hs => hs ▸ inv_initial) fun _ _ _ => Inv.step

end Invariant

end Tox4j.Native.Calls
