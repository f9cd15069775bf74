import Tox4j.Native.HandleSafety
import Tox4j.Native.History

/-!
# `Tox4j.Native.Simulation`: the steps of a call and the sequential manager

Each member function of `instance_manager` takes effect at one of its steps: `add` when the
pair and its mutex are stored, `kill` when the second pointer is moved out, `finalize` when
the number is on the freelist, `with_instance` when the second pointer is read, and each of
them when its check refuses the number. `Frame.outcome` is the result that a call will
return, from that step on.

`Frame.Agrees` relates the memory at a point to the manager `m` that the calls that took
effect have led to. It differs from the memory only by the stores that the holder of the
manager mutex has made so far. `simulates_advance` is the simulation: a step changes `m` by
nothing, or by the call that takes effect (`InstanceManager.exec`).
-/

set_option autoImplicit false

namespace Tox4j.Native

/-! ### The calls of the sequential manager -/

namespace InstanceManager

variable {Object Events : Type} {m : InstanceManager Object Events} {n : Jint}
  {x y : InstancePointers Object Events} {object : Object} {events : Events} {env : JNIEnv}
  {allowZero : Bool}

/-- The manager with another freelist. -/
def withFreelist (m : InstanceManager Object Events) (freelist : List Jint) :
    InstanceManager Object Events :=
  { m with freelist := freelist }

/-- The freelist of a manager that was given one. -/
@[simp] theorem freelist_withFreelist (freelist : List Jint) :
    (m.withFreelist freelist).freelist = freelist := rfl

/-- A manager does not change when it gets its own freelist. -/
@[simp] theorem withFreelist_self : m.withFreelist m.freelist = m := rfl

/-- Of two freelists the last one stays. -/
@[simp] theorem withFreelist_withFreelist (freelist freelist' : List Jint) :
    (m.withFreelist freelist).withFreelist freelist' = m.withFreelist freelist' := rfl

/-- A write to a slot and a new freelist do not get in each other's way. -/
@[simp] theorem setSlot_withFreelist (freelist : List Jint) :
    (m.withFreelist freelist).setSlot n x = (m.setSlot n x).withFreelist freelist := by
  unfold setSlot
  cases index? n <;> rfl

/-- After a write to a slot the freelist is the one from before. -/
@[simp] theorem setSlot_withFreelist_self :
    (m.setSlot n x).withFreelist m.freelist = m.setSlot n x := by
  unfold setSlot
  cases index? n <;> rfl

/-- Of two writes to a slot the last one stays. -/
@[simp] theorem setSlot_setSlot : (m.setSlot n x).setSlot n y = m.setSlot n y := by
  unfold setSlot
  cases index? n <;> simp

/-- A manager does not change when a slot gets what it holds. -/
theorem setSlot_eq_self (hs : m.slot n = .ok x) : m.setSlot n x = m := by
  obtain ⟨xs, ys, hm, hset⟩ := instances_split hs
  have hinstances : (m.setSlot n x).instances = m.instances := (hset x).trans hm.symm
  unfold setSlot at hinstances ⊢
  cases hn : index? n with
  | none => rfl
  | some i =>
      simp only [hn] at hinstances
      simp only [hinstances]

/-- A number that passes the check is in range and not on the freelist, and nothing is
thrown. -/
theorem check_passed (h : (m.checkInstanceNumber env n allowZero).1 = true) :
    n ∉ m.freelist ∧ m.checkInstanceNumber env n allowZero = (true, env) := by
  by_cases hfree : ¬ m.InRange n ∨ n ∈ m.freelist
  · obtain ⟨message, hrefused⟩ := checkInstanceNumber_refused env allowZero hfree
    simp [hrefused] at h
  · obtain ⟨hr, hf⟩ := not_or.mp hfree
    exact ⟨hf, checkInstanceNumber_ok (not_not.mp hr) hf⟩

/-- A `kill` that is refused at once, by the check that the step for step model makes first. -/
theorem exec_kill_of_refused (h : (m.checkInstanceNumber ⟨[]⟩ n true).1 = false) :
    m.exec (.kill n) = .ok (m, { thrown := (m.checkInstanceNumber ⟨[]⟩ n true).2.thrown }) := by
  have hkill : m.kill ⟨[]⟩ n = .ok (m, (m.checkInstanceNumber ⟨[]⟩ n true).2, .null) := by
    unfold kill
    split <;> simp_all
  simp [exec, hkill, bind, Except.bind, pure, Except.pure]

/-- A `finalize` that is refused at once, by the check that the step for step model makes first. -/
theorem exec_finalize_of_refused (h : (m.checkInstanceNumber ⟨[]⟩ n true).1 = false) :
    m.exec (.finalize n) = .ok (m, { thrown := (m.checkInstanceNumber ⟨[]⟩ n true).2.thrown }) := by
  have hfinalize : m.finalize ⟨[]⟩ n = .ok (m, (m.checkInstanceNumber ⟨[]⟩ n true).2) := by
    unfold finalize
    split <;> simp_all
  simp [exec, hfinalize, bind, Except.bind, pure, Except.pure]

/-- A `with_instance` that is refused at once, by the check that the step for step model makes
first. -/
theorem exec_withInstance_of_refused (h : (m.checkInstanceNumber ⟨[]⟩ n false).1 = false) :
    m.exec (.withInstance n)
      = .ok (m, { thrown := (m.checkInstanceNumber ⟨[]⟩ n false).2.thrown }) := by
  have hfree : ¬ m.InRange n ∨ n ∈ m.freelist := by
    by_contra hc
    obtain ⟨hr, hf⟩ := not_or.mp hc
    simp [checkInstanceNumber_ok (not_not.mp hr) hf] at h
  obtain ⟨message, hrefused⟩ := checkInstanceNumber_refused ⟨[]⟩ false hfree
  -- The exception of the check is pending, so there is no second one.
  simp [exec, withInstance, getLocked, hrefused, InstancePointers.null, JNIEnv.exceptionCheck,
    throwIllegalStateException, throwException, bind, Except.bind, pure, Except.pure]

/-- A `kill` that takes effect at once: the pair of the slot is destroyed. -/
theorem exec_kill_of_slot (hf : n ∉ m.freelist) (hs : m.slot n = .ok x) :
    m.exec (.kill n) = .ok (m.setSlot n .null, { destroyed := x }) := by
  simp [exec, kill_ok hf hs, bind, Except.bind, pure, Except.pure]

/-- A `finalize` of a live number at once: it throws, and changes nothing. -/
theorem exec_finalize_of_pair (hf : n ∉ m.freelist)
    (hs : m.slot n = .ok ⟨some object, some events⟩) :
    m.exec (.finalize n) = .ok (m, { thrown := (throwIllegalStateException ⟨[]⟩ n
      ("Leaked Tox instance #" ++ toString n)).thrown }) := by
  simp [exec, finalize_pair hf hs, bind, Except.bind, pure, Except.pure]

/-- A `finalize` of a killed number at once: the number goes to the freelist. -/
theorem exec_finalize_of_null (hf : n ∉ m.freelist) (hs : m.slot n = .ok .null) :
    m.exec (.finalize n) = .ok (m.withFreelist (m.freelist ++ [n]), {}) := by
  simp [exec, finalize_null hf hs, withFreelist, bind, Except.bind, pure, Except.pure]

/-- A `with_instance` on a live number at once: `func` runs on its pair. -/
theorem exec_withInstance_of_pair (hf : n ∉ m.freelist)
    (hs : m.slot n = .ok ⟨some object, some events⟩) :
    m.exec (.withInstance n) = .ok (m, { ran := [(object, events)] }) := by
  simp [exec, withInstance_pair recordRun [] hf hs, recordRun, bind, Except.bind, pure,
    Except.pure]

/-- A `with_instance` on a killed number at once: it throws. -/
theorem exec_withInstance_of_null (hf : n ∉ m.freelist) (hs : m.slot n = .ok .null) :
    m.exec (.withInstance n) = .ok (m, { thrown := (throwToxKilledException ⟨[]⟩ n
      "function called on killed tox instance").thrown }) := by
  simp [exec, withInstance_null recordRun [] hf hs, bind, Except.bind, pure, Except.pure]

/-- An `add` at once, with a number from the freelist. -/
theorem exec_add_of_freelist (h : m.WellFormed) (hn : m.freelist.getLast? = some n) :
    m.exec (.add object events) = .ok ((m.withFreelist m.freelist.dropLast).setSlot n
      ⟨some object, some events⟩, { returned := some n }) := by
  simp only [exec, add_reuse h hn, bind, Except.bind, pure, Except.pure]
  rfl

/-- An `add` at once, with a new slot. -/
theorem exec_add_of_nil (h : m.WellFormed) (hn : m.freelist = []) :
    m.exec (.add object events) = .ok (m.grown object events,
      { returned := some (Int32.ofNat (m.instances.length + 1)) }) := by
  simp only [exec, add_grow h hn, bind, Except.bind, pure, Except.pure]
  rfl

end InstanceManager

namespace Threads

open Tox4j.Lib
open InstanceManager (Call Result index?)

/-- The manager without its mutexes, as between two calls. -/
def Shared.settled (s : Shared) : InstanceManager AddId AddId :=
  ⟨s.contents, List.replicate s.manager.locks.length ⟨false⟩, s.manager.freelist⟩

namespace Frame

/-- The result that the call will return, once it has taken effect. `result` is the result
that it has built up so far. -/
def outcome (result : Result AddId AddId) : Frame → Option (Result AddId AddId)
  | .addUnlock | .killUnlockSlot _ | .killUnlock | .finalizeUnlock | .withRefused
  | .withFunc _ _ _ | .withUnlockSlot _ => some result
  | .killDestroyEvents _ object events => some { result with destroyed := ⟨object, events⟩ }
  | .killDestroyObject _ object =>
    some { result with destroyed := { result.destroyed with objectP := object } }
  | .withUnlock n object events | .withTest n object events => some (told n object events result)
  | _ => none

/-- What is known at a point of the call `c` about the manager `m` that the calls that took
effect have led to. `base` is the memory. -/
def Agrees (m base : InstanceManager AddId AddId) (c : Call AddId AddId) : Frame → Prop
  | .addLock id => c = .add id id
  | .addChoose id => c = .add id id ∧ m = base
  -- The number is off the freelist, and its slot is written in two steps.
  | .addTest n id | .addObject n id =>
    c = .add id id ∧ m = base.withFreelist (base.freelist ++ [n])
  | .addEvents n id =>
    c = .add id id ∧ m = (base.withFreelist (base.freelist ++ [n])).setSlot n .null
  | .addRelocate id => c = .add id id ∧ m = base ∧ m.freelist = []
  -- The pair has its slot, but not yet its mutex.
  | .addEmplace => ∃ id, c = .add id id ∧ m.freelist = [] ∧
    base = { m with instances := m.instances ++ [⟨some id, some id⟩] }
  | .killLock n => c = .kill n
  | .killCheck n => c = .kill n ∧ m = base
  | .killLockSlot n | .killObject n => c = .kill n ∧ m = base ∧ n ∉ m.freelist
  -- The object pointer is moved out of the slot, and the events pointer is not.
  | .killEvents n object => c = .kill n ∧ m = base.setSlot n ⟨object, object⟩ ∧ n ∉ m.freelist
  | .finalizeLock n => c = .finalize n
  | .finalizeCheck n => c = .finalize n ∧ m = base
  | .finalizeTest n => c = .finalize n ∧ m = base ∧ n ∉ m.freelist
  | .finalizePush n => c = .finalize n ∧ m = base ∧ n ∉ m.freelist ∧ m.slot n = .ok .null
  | .withLock n => c = .withInstance n
  | .withCheck n => c = .withInstance n ∧ m = base
  | .withLockSlot n | .withObject n | .withEvents n _ =>
    c = .withInstance n ∧ m = base ∧ n ∉ m.freelist
  | .addUnlock | .killDestroyEvents _ _ _ | .killDestroyObject _ _ | .killUnlockSlot _
  | .killUnlock | .finalizeUnlock | .withRefused | .withUnlock _ _ _ => m = base
  | .withTest _ _ _ | .withFunc _ _ _ | .withUnlockSlot _ => True

variable {f : Frame} {m m' base base' : InstanceManager AddId AddId} {c : Call AddId AddId}

/-- Only the holder of the manager mutex knows something about the manager. -/
theorem Agrees.congr (h : f.Agrees m base c) (hf : f.holdsManager = false) :
    f.Agrees m' base' c := by
  cases f <;> first | exact h | cases hf

end Frame

/-- A step of a call, seen from outside: `m` and `m'` are the managers before and after it,
`result` and `result'` the results that the call has built up, and `base'` is the memory after
it. -/
inductive Moves (m m' base' : InstanceManager AddId AddId) (c : Call AddId AddId) (f : Frame)
    (result result' : Result AddId AddId) (r : Option Frame) : Prop
  /-- The call has not taken effect yet. -/
  | waits {g : Frame} (hr : r = some g) (hf : f.outcome result = none)
      (hg : g.outcome result' = none) (hm : m' = m) (hresult : result' = result)
  /-- The call takes effect. -/
  | commits {g : Frame} {res : Result AddId AddId} (hr : r = some g)
      (hf : f.outcome result = none) (hexec : m.exec c = .ok (m', res))
      (hg : g.outcome result' = some res) (hm : m' = base')
  /-- The call took effect before. -/
  | goes {g : Frame} {res : Result AddId AddId} (hr : r = some g)
      (hf : f.outcome result = some res) (hg : g.outcome result' = some res) (hm : m' = m)
  | returns {res : Result AddId AddId} (hr : r = none) (hf : f.outcome result = some res)
      (hresult : result' = res) (hm : m' = m)

variable {ι : Type} {s s' : Shared} {F : ι → Option Frame} {p : ι} {f : Frame}
  {r : Option Frame} {n : Jint} {id : AddId} {x y : Pointers} {c : Call AddId AddId}
  {m : InstanceManager AddId AddId} {result : Result AddId AddId}

/-! ### The memory between two calls -/

namespace Shared

/-- The mutex of the manager is not part of the settled manager. -/
@[simp] theorem settled_setMutex (locked : Bool) : (s.setMutex locked).settled = s.settled := rfl

/-- Objects that are deleted are not part of the settled manager. -/
@[simp] theorem settled_destroy (pointer : Option AddId) :
    (s.destroy pointer).settled = s.settled := rfl

/-- The mutexes of the slots are not part of the settled manager. -/
@[simp] theorem settled_setLock (i : Nat) (locked : Bool) :
    (s.setLock i locked).settled = s.settled := by
  simp [settled, setLock, contents]

/-- A call that starts has not touched the manager yet. -/
@[simp] theorem settled_start (c : Call Unit Unit) : (s.start c).1.settled = s.settled := by
  cases c <;> rfl

/-- The freelist is never moved, so the settled manager has the one of the state. -/
@[simp] theorem freelist_settled : s.settled.freelist = s.manager.freelist := rfl

/-- A write to the freelist, seen in the settled manager. -/
@[simp] theorem settled_setFreelist (freelist : List Jint) :
    (s.setFreelist freelist).settled = s.settled.withFreelist freelist := rfl

/-- While no vector is being moved, the slots of the settled manager are those of the state. -/
theorem slot_settled (h : s.relocated = []) : s.settled.slot n = s.manager.slot n :=
  InstanceManager.slot_congr (Pairs.contents_of_nil h)

/-- A write to a slot, seen in the settled manager, while no vector is being moved. -/
theorem settled_setSlot (h : s.relocated = []) :
    (s.setSlot n y).settled = s.settled.setSlot n y := by
  unfold settled InstanceManager.setSlot
  cases hn : index? n with
  | none => simp [setSlot, InstanceManager.setSlot, hn, contents]
  | some i =>
      rw [Pairs.contents_setSlot h hn]
      simp [setSlot, InstanceManager.setSlot, hn]

/-- `check_instance_number` reads the size of the vector and the freelist. -/
theorem check_settled (h : s.relocated = []) (env : JNIEnv) (allowZero : Bool) :
    s.manager.checkInstanceNumber env n allowZero
      = s.settled.checkInstanceNumber env n allowZero := by
  simp [InstanceManager.checkInstanceNumber, settled, Pairs.contents_of_nil h]

end Shared

/-! ### One step of one call -/

/-- The step from `s` to `s'` of the call `c` from the point `f` is simulated by the managers
`m` and `m'`. -/
structure Simulates (s s' : Shared) (m m' : InstanceManager AddId AddId)
    (c : Call AddId AddId) (f : Frame) (result : Result AddId AddId) (r : Option Frame) :
    Prop where
  moves : Moves m m' s'.settled c f result (f.observe s s' result) r
  agrees : ∀ g, r = some g → g.Agrees m' s'.settled c
  idle : s'.mutex.locked = false → m' = s'.settled
  /-- Only the holder of the manager mutex changes something. -/
  frame : f.holdsManager = true ∨ s'.settled = s.settled ∧ m' = m

section Step

variable {g : Frame} {res : Result AddId AddId} {m' : InstanceManager AddId AddId}

/-- A step of a call that has not taken effect, in the critical section. -/
theorem Simulates.waits (hl : Locks s F) (hp : F p = some f) (hf : f.holdsManager = true)
    (hmutex : s'.mutex = s.mutex) (hout : f.outcome result = none)
    (hobs : f.observe s s' result = result) (hg : g.outcome result = none)
    (hagrees : g.Agrees m s'.settled c) : Simulates s s' m m c f result (some g) where
  moves := .waits rfl hout (by rw [hobs]; exact hg) rfl hobs
  agrees _ hr := Option.some.inj hr ▸ hagrees
  idle hfree := by
    have hlocked := hl.manager p f hp hf
    rw [hmutex, hlocked] at hfree
    cases hfree
  frame := .inl hf

/-- The step at which a call takes effect, in the critical section. -/
theorem Simulates.commits (hl : Locks s F) (hp : F p = some f) (hf : f.holdsManager = true)
    (hmutex : s'.mutex = s.mutex) (hout : f.outcome result = none)
    (hexec : m.exec c = .ok (m', res)) (hg : g.outcome (f.observe s s' result) = some res)
    (hm : m' = s'.settled) (hagrees : m' = s'.settled → g.Agrees m' s'.settled c) :
    Simulates s s' m m' c f result (some g) where
  moves := .commits rfl hout hexec hg hm
  agrees _ hr := Option.some.inj hr ▸ hagrees hm
  idle hfree := by
    have hlocked := hl.manager p f hp hf
    rw [hmutex, hlocked] at hfree
    cases hfree
  frame := .inl hf

/-- A step of a call that took effect before, and that leaves the memory as it is. -/
theorem Simulates.goes (hsettled : s'.settled = s.settled) (hout : f.outcome result = some res)
    (hg : g.outcome (f.observe s s' result) = some res) (hagrees : g.Agrees m s'.settled c)
    (hidle : s'.mutex.locked = false → m = s.settled) :
    Simulates s s' m m c f result (some g) where
  moves := .goes rfl hout hg rfl
  agrees _ hr := Option.some.inj hr ▸ hagrees
  idle hfree := hsettled ▸ hidle hfree
  frame := .inr ⟨hsettled, rfl⟩

/-- A step with which a call returns. -/
theorem Simulates.returns (hsettled : s'.settled = s.settled)
    (hout : f.outcome result = some (f.observe s s' result))
    (hidle : s'.mutex.locked = false → m = s.settled) :
    Simulates s s' m m c f result none where
  moves := .returns rfl hout rfl rfl
  agrees _ hg := by cases hg
  idle hfree := hsettled ▸ hidle hfree
  frame := .inr ⟨hsettled, rfl⟩

/-- The step of a call that takes the manager mutex. -/
theorem Simulates.locks (hfree : s.mutex.locked = false)
    (hidle : s.mutex.locked = false → m = s.settled)
    (hout : f.outcome result = none) (hobs : f.observe s (s.setMutex true) result = result)
    (hg : g.outcome result = none) (hagrees : m = s.settled → g.Agrees m s.settled c) :
    Simulates s (s.setMutex true) m m c f result (some g) where
  moves := .waits rfl hout (by rw [hobs]; exact hg) rfl hobs
  agrees _ hr := Option.some.inj hr ▸ hagrees (hidle hfree)
  idle hlocked := by cases hlocked
  frame := .inr ⟨rfl, rfl⟩

end Step

section Add

/-- `add` takes a number off the freelist, or grows the vector. -/
theorem simulates_addChoose (hpairs : Pairs s F) (hl : Locks s F)
    (hp : F p = some (.addChoose id)) (hagrees : (Frame.addChoose id).Agrees m s.settled c)
    (hadv : (s', r) ∈ s.advance (.addChoose id)) :
    Simulates s s' m m c (.addChoose id) result r := by
  obtain ⟨rfl, rfl⟩ := hagrees
  have hnil := hpairs.relocated_eq_nil hl hp rfl rfl
  simp only [Shared.advance] at hadv
  cases hlast : s.manager.freelist.getLast? with
  | some n =>
      simp only [hlast, List.mem_singleton, Prod.mk.injEq] at hadv
      obtain ⟨rfl, rfl⟩ := hadv
      obtain ⟨before, hfreelist⟩ := List.getLast?_eq_some_iff.mp hlast
      refine .waits hl hp rfl rfl rfl rfl rfl ⟨rfl, ?_⟩
      show s.settled = s.settled.withFreelist (s.manager.freelist.dropLast ++ [n])
      rw [hfreelist, List.dropLast_concat, ← hfreelist]
      rfl
  | none =>
      have hempty : s.settled.freelist = [] := List.getLast?_eq_none_iff.mp hlast
      simp only [hlast, List.mem_cons, List.not_mem_nil, or_false, Prod.mk.injEq] at hadv
      rcases hadv with ⟨rfl, rfl⟩ | ⟨rfl, rfl⟩
      · refine .waits hl hp rfl rfl rfl rfl rfl ⟨id, rfl, hempty, ?_⟩
        simp [Shared.settled, Shared.contents, hnil]
      · exact .waits hl hp rfl rfl rfl rfl rfl ⟨rfl, rfl, hempty⟩

/-- `add` tests that the slot of its recycled number is empty. The number is on the freelist, so it
is, and the step changes nothing. -/
theorem simulates_addTest (hl : Locks s F) (hp : F p = some (.addTest n id))
    (hagrees : (Frame.addTest n id).Agrees m s.settled c)
    (hadv : (s', r) ∈ s.advance (.addTest n id)) :
    Simulates s s' m m c (.addTest n id) result r := by
  obtain ⟨x, -, hadv⟩ := Shared.mem_readSlot.mp hadv
  split at hadv
  · split at hadv
    · simp only [List.mem_singleton, Prod.mk.injEq] at hadv
      obtain ⟨rfl, rfl⟩ := hadv
      exact .waits hl hp rfl rfl rfl rfl rfl hagrees
    · cases hadv
  · cases hadv

/-- The first store of `add` to a slot whose number was on the freelist. -/
theorem simulates_addObject (hpairs : Pairs s F) (hl : Locks s F)
    (hp : F p = some (.addObject n id)) (hwf : m.WellFormed)
    (hagrees : (Frame.addObject n id).Agrees m s.settled c)
    (hadv : (s', r) ∈ s.advance (.addObject n id)) :
    Simulates s s' m m c (.addObject n id) result r := by
  have hnil := hpairs.relocated_eq_nil hl hp rfl rfl
  obtain ⟨x, -, hadv⟩ := Shared.mem_readSlot.mp hadv
  simp only [List.mem_singleton, Prod.mk.injEq] at hadv
  obtain ⟨rfl, rfl⟩ := hadv
  obtain ⟨rfl, hm⟩ := hagrees
  -- For the sequential manager the number is still on the freelist, so the slot is empty.
  have hempty : m.slot n = .ok .null := hwf.free_empty n (by simp [hm])
  refine .waits hl hp rfl rfl rfl rfl rfl ⟨rfl, ?_⟩
  rw [Shared.settled_setSlot hnil]
  calc m = m.setSlot n .null := (InstanceManager.setSlot_eq_self hempty).symm
    _ = _ := by simp [hm]

/-- With the second store `add` takes effect. -/
theorem simulates_addEvents (hpairs : Pairs s F) (hl : Locks s F)
    (hp : F p = some (.addEvents n id)) (hwf : m.WellFormed)
    (hagrees : (Frame.addEvents n id).Agrees m s.settled c) (hresult : result = {})
    (hadv : (s', r) ∈ s.advance (.addEvents n id)) :
    ∃ m', Simulates s s' m m' c (.addEvents n id) result r := by
  have hnil := hpairs.relocated_eq_nil hl hp rfl rfl
  obtain ⟨i, x, hn, hi, hadv⟩ := hpairs.reads hl hp rfl rfl hadv
  simp only [List.mem_singleton, Prod.mk.injEq] at hadv
  obtain ⟨rfl, rfl⟩ := hadv
  have hhalf : x = ⟨some id, none⟩ :=
    Option.some.inj (hi.symm.trans (hpairs.knows p _ hp i hn))
  subst hhalf
  obtain ⟨rfl, hm⟩ := hagrees
  subst hresult
  have hlast : m.freelist.getLast? = some n := by simp [hm]
  refine ⟨_, .commits hl hp rfl rfl rfl (InstanceManager.exec_add_of_freelist hwf hlast) rfl ?_
    fun hm => hm⟩
  show _ = (s.setSlot n _).settled
  have hkept := InstanceManager.setSlot_withFreelist_self (m := s.settled) (n := n)
    (x := ⟨some id, some id⟩)
  simpa [Shared.settled_setSlot hnil, hm] using hkept

/-- `add` moves one pair of pointers to the new vector. The settled manager does not see where a
pair is, so nothing changes. -/
theorem simulates_addRelocate (hl : Locks s F) (hp : F p = some (.addRelocate id))
    (hagrees : (Frame.addRelocate id).Agrees m s.settled c)
    (hadv : (s', r) ∈ s.advance (.addRelocate id)) :
    Simulates s s' m m c (.addRelocate id) result r := by
  obtain ⟨rfl, rfl, hempty⟩ := hagrees
  simp only [Shared.advance] at hadv
  split at hadv
  · rename_i x hx
    simp only [List.mem_singleton, Prod.mk.injEq] at hadv
    obtain ⟨rfl, rfl⟩ := hadv
    refine .waits hl hp rfl rfl rfl rfl rfl ⟨rfl, ?_, hempty⟩
    -- An element that is in the new buffer is still an element.
    simp [Shared.settled, Pairs.contents_relocate hx]
  · rename_i hx
    simp only [List.mem_singleton, Prod.mk.injEq] at hadv
    obtain ⟨rfl, rfl⟩ := hadv
    have hlen : s.manager.instances.length ≤ s.relocated.length :=
      List.getElem?_eq_none_iff.mp hx
    refine .waits hl hp rfl rfl rfl rfl rfl ⟨id, rfl, hempty, ?_⟩
    simp [Shared.settled, Shared.contents, List.drop_eq_nil_of_le hlen]

/-- With the mutex of the new slot `add` takes effect. -/
theorem simulates_addEmplace (hpairs : Pairs s F) (hl : Locks s F) (hp : F p = some .addEmplace)
    (hwf : m.WellFormed) (hagrees : Frame.addEmplace.Agrees m s.settled c) (hresult : result = {})
    (hadv : (s', r) ∈ s.advance .addEmplace) :
    ∃ m', Simulates s s' m m' c .addEmplace result r := by
  have hnil := hpairs.relocated_eq_nil hl hp rfl rfl
  simp only [Shared.advance, List.mem_singleton, Prod.mk.injEq] at hadv
  obtain ⟨rfl, rfl⟩ := hadv
  obtain ⟨id, rfl, hempty, hbase⟩ := hagrees
  subst hresult
  have hinstances : s.manager.instances = m.instances ++ [⟨some id, some id⟩] := by
    rw [← Pairs.contents_of_nil hnil]
    show s.settled.instances = _
    rw [hbase]
  have hexec : m.exec (.add id id) = .ok (m.grown id id,
      { returned := some (Int32.ofNat (m.instances.length + 1)) }) :=
    InstanceManager.exec_add_of_nil hwf hempty
  have hg : Frame.addUnlock.outcome (Frame.addEmplace.observe s
      { s with manager := { s.manager with locks := s.manager.locks ++ [⟨false⟩] } } {})
      = some { returned := some (Int32.ofNat (m.instances.length + 1)) } := by
    show some ({ returned := some (Int32.ofNat s.manager.instances.length) } :
      Result AddId AddId) = _
    rw [hinstances, List.length_append, List.length_singleton]
  refine ⟨m.grown id id, Simulates.commits hl hp rfl rfl rfl hexec hg ?_ fun hm => hm⟩
  -- The mutex that is new in the memory is the one that the call adds.
  have hgrown : (⟨s.contents, List.replicate (s.manager.locks.length + 1) ⟨false⟩,
      s.manager.freelist⟩ : InstanceManager AddId AddId)
      = { s.settled with locks := s.settled.locks ++ [⟨false⟩] } := by
    rw [List.replicate_succ']
    rfl
  show m.grown id id = Shared.settled _
  unfold Shared.settled
  rw [List.length_append, List.length_singleton]
  exact (hgrown.trans (by rw [hbase]; rfl)).symm

end Add

section Kill

/-- The check of `kill` and `finalize`: the number is refused, and the call takes effect, or
it goes on to `g`. -/
theorem simulates_check {g : Frame} (hpairs : Pairs s F) (hl : Locks s F) (hp : F p = some f)
    (hf : f.holdsManager = true) (hrel : f.relocating = false) {allowZero : Bool}
    {refused : Frame} (hadv : (s', r) ∈ s.check n allowZero g refused)
    (hagrees : m = s.settled) (hresult : result = {})
    (hout : f.outcome result = none)
    (hobs : f.observe s s result = throwing result fun env =>
      (s.manager.checkInstanceNumber env n allowZero).2)
    (hg : g.outcome {} = none) (hgAgrees : n ∉ m.freelist → g.Agrees m s.settled c)
    (hexec : (m.checkInstanceNumber ⟨[]⟩ n allowZero).1 = false →
      m.exec c = .ok (m, { thrown := (m.checkInstanceNumber ⟨[]⟩ n allowZero).2.thrown }))
    (hrefused : ∀ res, refused.outcome res = some res)
    (hrAgrees : refused.Agrees m s.settled c) : Simulates s s' m m c f result r := by
  have hnil := hpairs.relocated_eq_nil hl hp hf hrel
  have hcheck := Shared.check_settled (n := n) hnil ⟨[]⟩ allowZero
  obtain ⟨rfl, rfl⟩ := Shared.mem_check.mp hadv
  subst hresult
  subst hagrees
  rw [hcheck]
  cases hpass : (s'.settled.checkInstanceNumber ⟨[]⟩ n allowZero).1 with
  | true =>
      obtain ⟨hn, henv⟩ := InstanceManager.check_passed hpass
      refine .waits hl hp hf rfl hout ?_ hg (hgAgrees hn)
      rw [hobs, throwing]
      show ({ thrown := (s'.manager.checkInstanceNumber ⟨[]⟩ n allowZero).2.thrown } :
        Result AddId AddId) = {}
      rw [hcheck, henv]
  | false =>
      refine .commits hl hp hf rfl hout (hexec hpass) ?_ rfl fun _ => hrAgrees
      show refused.outcome _ = _
      rw [hobs, hrefused, throwing]
      show some ({ thrown := (s'.manager.checkInstanceNumber ⟨[]⟩ n allowZero).2.thrown } :
        Result AddId AddId) = _
      rw [hcheck]

/-- The first store of `kill`. The sequential manager still has the pair. -/
theorem simulates_killObject (hpairs : Pairs s F) (hl : Locks s F)
    (hp : F p = some (.killObject n)) (hagrees : (Frame.killObject n).Agrees m s.settled c)
    (hadv : (s', r) ∈ s.advance (.killObject n)) :
    Simulates s s' m m c (.killObject n) result r := by
  have hnil := hpairs.relocated_eq_nil hl hp rfl rfl
  obtain ⟨x, hx, hadv⟩ := Shared.mem_readSlot.mp hadv
  obtain ⟨i, -, hi⟩ := Pairs.contents_of_slot hnil hx
  have hpaired := hpairs.paired_of_holder hl hp rfl (by simp [Frame.writing?]) hi
  simp only [List.mem_singleton, Prod.mk.injEq] at hadv
  obtain ⟨rfl, rfl⟩ := hadv
  obtain ⟨rfl, rfl, hn⟩ := hagrees
  refine .waits hl hp rfl rfl rfl rfl rfl ⟨rfl, ?_, hn⟩
  have hsame : (⟨x.objectP, x.objectP⟩ : Pointers) = x := by
    cases x
    simp_all
  rw [Shared.settled_setSlot hnil, InstanceManager.setSlot_setSlot, hsame]
  exact (InstanceManager.setSlot_eq_self ((Shared.slot_settled hnil).trans hx)).symm

/-- With the second store `kill` takes effect. -/
theorem simulates_killEvents {object : Option AddId} (hpairs : Pairs s F) (hl : Locks s F)
    (hp : F p = some (.killEvents n object))
    (hagrees : (Frame.killEvents n object).Agrees m s.settled c) (hresult : result = {})
    (hadv : (s', r) ∈ s.advance (.killEvents n object)) :
    ∃ m', Simulates s s' m m' c (.killEvents n object) result r := by
  have hnil := hpairs.relocated_eq_nil hl hp rfl rfl
  obtain ⟨x, hslot, hadv⟩ := Shared.mem_readSlot.mp hadv
  obtain ⟨i, hn, hi⟩ := Pairs.contents_of_slot hnil hslot
  have hhalf : x = ⟨none, object⟩ :=
    Option.some.inj (hi.symm.trans (hpairs.knows p _ hp i hn))
  simp only [List.mem_singleton, Prod.mk.injEq] at hadv
  obtain ⟨rfl, rfl⟩ := hadv
  obtain ⟨rfl, hm, hfree⟩ := hagrees
  subst hresult
  subst hhalf
  have hrange : s.settled.InRange n :=
    InstanceManager.inRange_of_slot ((Shared.slot_settled hnil).trans hslot)
  have hpair : m.slot n = .ok ⟨object, object⟩ := by
    rw [hm, InstanceManager.slot_setSlot hrange, if_pos rfl]
  refine ⟨_, .commits hl hp rfl rfl rfl (InstanceManager.exec_kill_of_slot hfree hpair) rfl ?_
    fun hm => hm⟩
  show m.setSlot n .null = (s.setSlot n _).settled
  rw [Shared.settled_setSlot hnil, hm, InstanceManager.setSlot_setSlot]
  rfl

end Kill

section Finalize

/-- `finalize` reads the slot. On a live number it takes effect here: it throws. On a killed one it
goes on to the freelist. -/
theorem simulates_finalizeTest (hpairs : Pairs s F) (hl : Locks s F)
    (hp : F p = some (.finalizeTest n)) (hagrees : (Frame.finalizeTest n).Agrees m s.settled c)
    (hresult : result = {}) (hadv : (s', r) ∈ s.advance (.finalizeTest n)) :
    Simulates s s' m m c (.finalizeTest n) result r := by
  have hnil := hpairs.relocated_eq_nil hl hp rfl rfl
  obtain ⟨x, hslot, hadv⟩ := Shared.mem_readSlot.mp hadv
  have hsettled : s.settled.slot n = .ok x := (Shared.slot_settled hnil).trans hslot
  obtain ⟨rfl, rfl, hfree⟩ := hagrees
  subst hresult
  -- The assertion of `operator bool`: the pointers are both null or both not.
  cases x with
  | mk object events =>
      cases object with
      | some object =>
          cases events with
          | some events =>
              have hadv : (s', r) ∈ [(s, some Frame.finalizeUnlock)] := hadv
              simp only [List.mem_singleton, Prod.mk.injEq] at hadv
              obtain ⟨rfl, rfl⟩ := hadv
              have hexec := InstanceManager.exec_finalize_of_pair hfree hsettled
              refine .commits hl hp rfl rfl rfl hexec ?_ rfl fun hm => hm
              simp only [Frame.observe, hslot]
              rfl
          | none => cases hadv
      | none =>
          cases events with
          | some events => cases hadv
          | none =>
              have hadv : (s', r) ∈ [(s, some (Frame.finalizePush n))] := hadv
              simp only [List.mem_singleton, Prod.mk.injEq] at hadv
              obtain ⟨rfl, rfl⟩ := hadv
              refine .waits hl hp rfl rfl rfl ?_ rfl ⟨rfl, rfl, hfree, hsettled⟩
              simp only [Frame.observe, hslot]

/-- `finalize` puts its number on the freelist. It takes effect here. -/
theorem simulates_finalizePush (hl : Locks s F) (hp : F p = some (.finalizePush n))
    (hagrees : (Frame.finalizePush n).Agrees m s.settled c) (hresult : result = {})
    (hadv : (s', r) ∈ s.advance (.finalizePush n)) :
    ∃ m', Simulates s s' m m' c (.finalizePush n) result r := by
  simp only [Shared.advance, List.mem_singleton, Prod.mk.injEq] at hadv
  obtain ⟨rfl, rfl⟩ := hadv
  obtain ⟨rfl, rfl, hfree, hnull⟩ := hagrees
  subst hresult
  have hexec := InstanceManager.exec_finalize_of_null hfree hnull
  exact ⟨_, .commits hl hp rfl rfl rfl hexec rfl rfl fun hm => hm⟩

end Finalize

section WithInstance

variable {object events : Option AddId}

/-- When it reads the second pointer `with_instance` takes effect. -/
theorem simulates_withEvents (hpairs : Pairs s F) (hl : Locks s F)
    (hp : F p = some (.withEvents n object))
    (hagrees : (Frame.withEvents n object).Agrees m s.settled c) (hresult : result = {})
    (hadv : (s', r) ∈ s.advance (.withEvents n object)) :
    Simulates s s' m m c (.withEvents n object) result r := by
  have hnil := hpairs.relocated_eq_nil hl hp rfl rfl
  obtain ⟨x, hslot, hadv⟩ := Shared.mem_readSlot.mp hadv
  obtain ⟨i, hn, hi⟩ := Pairs.contents_of_slot hnil hslot
  obtain ⟨j, hj, hseen⟩ := hpairs.knows p _ hp
  cases hn.symm.trans hj
  have hsame : x = ⟨object, object⟩ := Option.some.inj (hi.symm.trans hseen)
  have hsettled : s.settled.slot n = .ok x := (Shared.slot_settled hnil).trans hslot
  simp only [List.mem_singleton, Prod.mk.injEq] at hadv
  obtain ⟨rfl, rfl⟩ := hadv
  obtain ⟨rfl, rfl, hfree⟩ := hagrees
  subst hresult
  subst hsame
  cases object with
  | some id =>
      exact .commits hl hp rfl rfl rfl
        (InstanceManager.exec_withInstance_of_pair hfree hsettled) rfl rfl fun hm => hm
  | none =>
      exact .commits hl hp rfl rfl rfl
        (InstanceManager.exec_withInstance_of_null hfree hsettled) rfl rfl fun hm => hm

/-- `with_instance` tests the two pointers that it copied. It took effect before, when it read the
second one. -/
theorem simulates_withTest (hidle : s.mutex.locked = false → m = s.settled)
    (hadv : (s', r) ∈ s.advance (.withTest n object events)) :
    Simulates s s' m m c (.withTest n object events) result r := by
  cases object with
  | some object =>
      cases events with
      | some events =>
          simp only [Shared.advance, List.mem_singleton, Prod.mk.injEq] at hadv
          obtain ⟨rfl, rfl⟩ := hadv
          exact .goes rfl rfl rfl trivial hidle
      | none => cases hadv
  | none =>
      cases events with
      | some events => cases hadv
      | none =>
          simp only [Shared.advance, List.mem_singleton, Prod.mk.injEq] at hadv
          obtain ⟨rfl, rfl⟩ := hadv
          exact .goes rfl rfl rfl trivial hidle

end WithInstance

/-- Every step of a call is simulated. -/
theorem simulates_advance (hpairs : Pairs s F) (hl : Locks s F) (hp : F p = some f)
    (hwf : m.WellFormed) (hagrees : f.Agrees m s.settled c)
    (hidle : s.mutex.locked = false → m = s.settled)
    (hresult : f.outcome result = none → result = {}) (hadv : (s', r) ∈ s.advance f) :
    ∃ m', Simulates s s' m m' c f result r := by
  cases f with
  -- the steps that read or write a slot or the freelist
  | addChoose id => exact ⟨m, simulates_addChoose hpairs hl hp hagrees hadv⟩
  | addTest n id => exact ⟨m, simulates_addTest hl hp hagrees hadv⟩
  | addObject n id => exact ⟨m, simulates_addObject hpairs hl hp hwf hagrees hadv⟩
  | addEvents n id => exact simulates_addEvents hpairs hl hp hwf hagrees (hresult rfl) hadv
  | addRelocate id => exact ⟨m, simulates_addRelocate hl hp hagrees hadv⟩
  | addEmplace => exact simulates_addEmplace hpairs hl hp hwf hagrees (hresult rfl) hadv
  | killObject n => exact ⟨m, simulates_killObject hpairs hl hp hagrees hadv⟩
  | killEvents n object => exact simulates_killEvents hpairs hl hp hagrees (hresult rfl) hadv
  | finalizeTest n => exact ⟨m, simulates_finalizeTest hpairs hl hp hagrees (hresult rfl) hadv⟩
  | finalizePush n => exact simulates_finalizePush hl hp hagrees (hresult rfl) hadv
  | withEvents n object =>
      exact ⟨m, simulates_withEvents hpairs hl hp hagrees (hresult rfl) hadv⟩
  | withTest n object events => exact ⟨m, simulates_withTest hidle hadv⟩
  -- the steps that lock the manager: with this the thread knows the memory
  | addLock id | withLock n | killLock n | finalizeLock n =>
      obtain ⟨hfree, rfl, rfl⟩ := Shared.mem_lockManager.mp hadv
      exact ⟨m, .locks hfree hidle rfl rfl rfl fun hm => ⟨hagrees, hm⟩⟩
  -- a number that the check refuses makes the call take effect
  | killCheck n =>
      obtain ⟨rfl, hm⟩ := hagrees
      exact ⟨m, simulates_check hpairs hl hp rfl rfl hadv hm (hresult rfl) rfl rfl rfl
        (fun hn => ⟨rfl, hm, hn⟩) InstanceManager.exec_kill_of_refused (fun _ => rfl) hm⟩
  | finalizeCheck n =>
      obtain ⟨rfl, hm⟩ := hagrees
      exact ⟨m, simulates_check hpairs hl hp rfl rfl hadv hm (hresult rfl) rfl rfl rfl
        (fun hn => ⟨rfl, hm, hn⟩) InstanceManager.exec_finalize_of_refused (fun _ => rfl) hm⟩
  | withCheck n =>
      obtain ⟨rfl, hm⟩ := hagrees
      exact ⟨m, simulates_check hpairs hl hp rfl rfl hadv hm (hresult rfl) rfl rfl rfl
        (fun hn => ⟨rfl, hm, hn⟩) InstanceManager.exec_withInstance_of_refused (fun _ => rfl) hm⟩
  -- the steps that leave the slots and the freelist alone
  | killLockSlot n | withLockSlot n =>
      obtain ⟨i, -, -, rfl, rfl⟩ := Shared.mem_lockSlot.mp hadv
      obtain ⟨rfl, hm, hn⟩ := hagrees
      exact ⟨m, .waits hl hp rfl rfl rfl rfl rfl ⟨rfl, by simpa using hm, hn⟩⟩
  | withObject n =>
      obtain ⟨x, -, hadv⟩ := Shared.mem_readSlot.mp hadv
      simp only [List.mem_singleton, Prod.mk.injEq] at hadv
      obtain ⟨rfl, rfl⟩ := hadv
      exact ⟨m, .waits hl hp rfl rfl rfl rfl rfl hagrees⟩
  | killDestroyEvents n object events | killDestroyObject n object =>
      simp only [Shared.advance, List.mem_singleton, Prod.mk.injEq] at hadv
      obtain ⟨rfl, rfl⟩ := hadv
      exact ⟨m, .goes rfl rfl rfl hagrees hidle⟩
  | killUnlockSlot n =>
      obtain ⟨i, -, rfl, rfl⟩ := Shared.mem_unlockSlot.mp hadv
      have hm : m = s.settled := hagrees
      exact ⟨m, .goes (Shared.settled_setLock i false) rfl rfl (by simpa [Frame.Agrees] using hm)
        fun _ => hm⟩
  | withUnlock n object events =>
      simp only [Shared.advance, List.mem_singleton, Prod.mk.injEq] at hadv
      obtain ⟨rfl, rfl⟩ := hadv
      exact ⟨m, .goes rfl rfl rfl trivial fun _ => hagrees⟩
  | withFunc n object events =>
      simp only [Shared.advance, List.mem_singleton, Prod.mk.injEq] at hadv
      obtain ⟨rfl, rfl⟩ := hadv
      exact ⟨m, .goes rfl rfl rfl trivial hidle⟩
  -- the last step of a call
  | addUnlock | killUnlock | finalizeUnlock | withRefused =>
      simp only [Shared.advance, List.mem_singleton, Prod.mk.injEq] at hadv
      obtain ⟨rfl, rfl⟩ := hadv
      exact ⟨m, .returns rfl rfl fun _ => hagrees⟩
  | withUnlockSlot n =>
      obtain ⟨i, -, rfl, rfl⟩ := Shared.mem_unlockSlot.mp hadv
      exact ⟨m, .returns (Shared.settled_setLock i false) rfl hidle⟩

end Threads

end Tox4j.Native
