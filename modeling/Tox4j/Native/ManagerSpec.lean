import Tox4j.Lib.HandleTable
import Tox4j.Native.InstanceManager

/-!
# `Tox4j.Native.ManagerSpec`: what each operation of the instance manager does

`WellFormed` is the class invariant of `instance_manager`. `status` reads a manager as a
table of handles (`Tox4j.Lib.HandleTable`): each number is free, live with its pair of
pointers, or killed. `status_free_iff`, `status_live_iff` and `status_killed_iff` say what
each state is in the lists of the manager.

Then one equation for each operation and each state of its number. They say what the
operation returns, throws and stores, so a proof about the callers of the manager does not
unfold it. No equation ends in a `Fatal`: under the invariant no assertion of these
functions fails.
-/

set_option autoImplicit false

namespace Tox4j.Native

open Tox4j.Lib

namespace InstanceManager

variable {Object Events : Type} {m m' : InstanceManager Object Events} {n k : Jint}
  {env : JNIEnv} {p q : InstancePointers Object Events}

/-! ### Numbers and slots -/

/-- `n` is a number of the table: it is in `1..instances.size()`. -/
def InRange (m : InstanceManager Object Events) (n : Jint) : Prop :=
  1 ≤ n.toInt ∧ n.toInt.toNat ≤ m.instances.length

/-- A positive number has the position before it. -/
theorem index?_of_pos (h : 1 ≤ n.toInt) : index? n = some (n.toInt - 1).toNat :=
  if_pos h

/-- The number 0 and the negative numbers have no position. In the source the difference becomes a
`size_t` past the end of any vector. -/
theorem index?_of_not_pos (h : ¬ 1 ≤ n.toInt) : index? n = none :=
  if_neg h

/-- The slot of a number in range is an element of the vector. -/
theorem slot_of_inRange (h : m.InRange n) : ∃ p ∈ m.instances, m.slot n = .ok p := by
  obtain ⟨h1, h2⟩ := h
  have hi : (n.toInt - 1).toNat < m.instances.length := by omega
  refine ⟨m.instances[(n.toInt - 1).toNat], List.getElem_mem hi, ?_⟩
  simp only [slot, index?_of_pos h1, Option.bind_some, List.getElem?_eq_getElem hi]

/-- Only a number in range has a slot. -/
theorem inRange_of_slot (h : m.slot n = .ok p) : m.InRange n := by
  by_cases h1 : 1 ≤ n.toInt
  · refine ⟨h1, ?_⟩
    by_contra hlt
    have hnone : m.instances[(n.toInt - 1).toNat]? = none :=
      List.getElem?_eq_none (by omega)
    simp only [slot, index?_of_pos h1, Option.bind_some, hnone] at h
    exact nomatch h
  · simp only [slot, index?_of_not_pos h1, Option.bind_none] at h
    exact nomatch h

/-- Two numbers in range with the same position are the same number. -/
theorem eq_of_toNat_eq (h1 : 1 ≤ n.toInt) (h2 : 1 ≤ k.toInt)
    (h : (n.toInt - 1).toNat = (k.toInt - 1).toNat) : n = k :=
  Int32.toInt_inj.mp (by omega)

/-- A store to one slot is seen by a load from it and by no other load. -/
theorem slot_setSlot (h : m.InRange n) :
    (m.setSlot n p).slot k = if k = n then .ok p else m.slot k := by
  obtain ⟨h1, h2⟩ := h
  have hi : (n.toInt - 1).toNat < m.instances.length := by omega
  by_cases hk : k = n
  · subst hk
    simp only [slot, setSlot, index?_of_pos h1, Option.bind_some, List.getElem?_set_self hi,
      if_true]
  · rw [if_neg hk]
    by_cases hk1 : 1 ≤ k.toInt
    · have hne : (n.toInt - 1).toNat ≠ (k.toInt - 1).toNat := fun h =>
        hk (eq_of_toNat_eq hk1 h1 h.symm)
      simp only [slot, setSlot, index?_of_pos h1, index?_of_pos hk1, Option.bind_some,
        List.getElem?_set_ne hne]
    · simp only [slot, index?_of_not_pos hk1, Option.bind_none]

/-- A store replaces the element of its slot and no other. -/
theorem instances_split (h : m.slot n = .ok q) :
    ∃ xs ys, m.instances = xs ++ q :: ys ∧
      ∀ p, (m.setSlot n p).instances = xs ++ p :: ys := by
  obtain ⟨h1, h2⟩ := inRange_of_slot h
  have hi : (n.toInt - 1).toNat < m.instances.length := by omega
  simp only [slot, index?_of_pos h1, Option.bind_some, List.getElem?_eq_getElem hi,
    Except.ok.injEq] at h
  refine ⟨m.instances.take (n.toInt - 1).toNat, m.instances.drop ((n.toInt - 1).toNat + 1),
    ?_, fun p => ?_⟩
  · rw [← h, ← List.drop_eq_getElem_cons hi, List.take_append_drop]
  · simp only [setSlot, index?_of_pos h1]
    rw [List.set_eq_take_append_cons_drop, if_pos hi]

/-- A write to a slot does not touch the freelist. -/
@[simp] theorem freelist_setSlot : (m.setSlot n p).freelist = m.freelist := by
  unfold setSlot
  split <;> rfl

/-- A write to a slot does not touch the mutexes. -/
@[simp] theorem locks_setSlot : (m.setSlot n p).locks = m.locks := by
  unfold setSlot
  split <;> rfl

/-- A write to a slot does not change the number of slots. -/
@[simp] theorem length_instances_setSlot :
    (m.setSlot n p).instances.length = m.instances.length := by
  unfold setSlot
  split <;> simp

/-- `slot` reads the vector of instances and nothing else. -/
theorem slot_congr (h : m.instances = m'.instances) : m.slot n = m'.slot n := by
  simp [slot, h]

/-- A store puts the new pair into the vector and keeps or drops every other element. -/
theorem mem_instances_setSlot (h : q ∈ (m.setSlot n p).instances) :
    q = p ∨ q ∈ m.instances := by
  unfold setSlot at h
  split at h
  · exact (List.mem_or_eq_of_mem_set h).symm
  · exact Or.inr h

/-! ### The class invariant -/

/-- The class invariant. The two lists are equal in size, the pointers of a slot come and go
hand in hand, and the freelist names distinct slots of the table that are empty. -/
structure WellFormed (m : InstanceManager Object Events) : Prop where
  locks_length : m.instances.length = m.locks.length
  together : ∀ p ∈ m.instances, p.objectP.isNone = p.eventsP.isNone
  nodup : m.freelist.Nodup
  free_inRange : ∀ n ∈ m.freelist, m.InRange n
  free_empty : ∀ n ∈ m.freelist, m.slot n = .ok .null
  size_lt : m.instances.length < 2 ^ 31

/-- The manager that the constructor makes is well formed. -/
theorem wellFormed_empty : WellFormed (empty : InstanceManager Object Events) := by
  constructor <;> simp [empty]

/-- The slot of a number in range is empty, or holds an object together with its events. -/
theorem WellFormed.slot_cases (h : m.WellFormed) (hn : m.InRange n) :
    m.slot n = .ok .null ∨ ∃ object events, m.slot n = .ok ⟨some object, some events⟩ := by
  obtain ⟨⟨o, e⟩, hp, hslot⟩ := slot_of_inRange hn
  have htogether := h.together _ hp
  cases o <;> cases e <;> simp_all [InstancePointers.null]

/-- The numbers of a table with fewer than `2 ^ 31` slots are exactly `1..size`. -/
theorem toInt_ofNat_size (h : m.instances.length + 1 < 2 ^ 31) :
    (Int32.ofNat (m.instances.length + 1)).toInt = m.instances.length + 1 := by
  rw [Int32.toInt_ofNat_of_lt h]
  rfl

/-! ### The table that a manager stands for -/

/-- The state of the number `n`: free when it is not in range or on the freelist, live when
its slot holds a pair, and killed when its slot is empty. -/
def status (m : InstanceManager Object Events) (n : Jint) : Status (Object × Events) :=
  if n ∈ m.freelist then .free
  else
    match m.slot n with
    | .ok ⟨some object, some events⟩ => .live (object, events)
    | .ok _ => .killed
    | .error _ => .free

/-- In the empty manager every number is free. -/
theorem status_empty : status (empty : InstanceManager Object Events) = fun _ => .free := by
  funext n
  have h : (empty : InstanceManager Object Events).slot n = .error .outOfRange := by
    simp [slot, empty]
  simp [status, h]

/-- A number on the freelist is free, whatever its slot holds. -/
theorem status_of_mem (h : n ∈ m.freelist) : m.status n = .free := by
  simp [status, h]

/-- A number without a slot is free. -/
theorem status_of_not_inRange (h : ¬ m.InRange n) : m.status n = .free := by
  unfold status
  split
  · rfl
  · cases hs : m.slot n with
    | ok p => exact absurd (inRange_of_slot hs) h
    | error f => rfl

/-- A number whose slot has two pointers is live, with these pointers as its object. -/
theorem status_of_pair {object : Object} {events : Events} (hf : n ∉ m.freelist)
    (hs : m.slot n = .ok ⟨some object, some events⟩) : m.status n = .live (object, events) := by
  simp [status, hf, hs]

/-- A number whose slot is empty, and that was not released yet, is killed. -/
theorem status_of_null (hf : n ∉ m.freelist) (hs : m.slot n = .ok .null) :
    m.status n = .killed := by
  simp [status, hf, hs, InstancePointers.null]

/-- A number is free exactly when it is not a number of the table or is on the freelist. -/
theorem WellFormed.status_free_iff (h : m.WellFormed) :
    m.status n = .free ↔ ¬ m.InRange n ∨ n ∈ m.freelist := by
  constructor
  · intro hfree
    by_contra hc
    obtain ⟨hr, hf⟩ := not_or.mp hc
    rcases h.slot_cases (not_not.mp hr) with hs | ⟨o, e, hs⟩
    · rw [status_of_null hf hs] at hfree
      exact nomatch hfree
    · rw [status_of_pair hf hs] at hfree
      exact nomatch hfree
  · rintro (hr | hf)
    · exact status_of_not_inRange hr
    · exact status_of_mem hf

/-- A number is live exactly when it is not on the freelist and its slot holds the pair. -/
theorem WellFormed.status_live_iff (h : m.WellFormed) {object : Object} {events : Events} :
    m.status n = .live (object, events) ↔
      n ∉ m.freelist ∧ m.slot n = .ok ⟨some object, some events⟩ := by
  constructor
  · intro hlive
    have hnf : ¬ (¬ m.InRange n ∨ n ∈ m.freelist) := fun hc => by
      rw [h.status_free_iff.mpr hc] at hlive
      exact nomatch hlive
    obtain ⟨hr, hf⟩ := not_or.mp hnf
    rcases h.slot_cases (not_not.mp hr) with hs | ⟨o, e, hs⟩
    · rw [status_of_null hf hs] at hlive
      exact nomatch hlive
    · rw [status_of_pair hf hs] at hlive
      cases hlive
      exact ⟨hf, hs⟩
  · rintro ⟨hf, hs⟩
    exact status_of_pair hf hs

/-- A number is killed exactly when it is not on the freelist and its slot is empty. -/
theorem WellFormed.status_killed_iff (h : m.WellFormed) :
    m.status n = .killed ↔ n ∉ m.freelist ∧ m.slot n = .ok .null := by
  constructor
  · intro hkilled
    have hnf : ¬ (¬ m.InRange n ∨ n ∈ m.freelist) := fun hc => by
      rw [h.status_free_iff.mpr hc] at hkilled
      exact nomatch hkilled
    obtain ⟨hr, hf⟩ := not_or.mp hnf
    rcases h.slot_cases (not_not.mp hr) with hs | ⟨o, e, hs⟩
    · exact ⟨hf, hs⟩
    · rw [status_of_pair hf hs] at hkilled
      exact nomatch hkilled
  · rintro ⟨hf, hs⟩
    exact status_of_null hf hs

/-! ### The check -/

/-- The comparison of `jint`s with 0 is the comparison of integers. -/
theorem toInt_neg (h : n < 0) : n.toInt < 0 := by
  simpa [Int32.lt_iff_toInt_lt] using h

/-- A number that is in range and not on the freelist passes the check. -/
theorem checkInstanceNumber_ok {allowZero : Bool} (hr : m.InRange n) (hf : n ∉ m.freelist) :
    m.checkInstanceNumber env n allowZero = (true, env) := by
  obtain ⟨h1, h2⟩ := hr
  have hneg : ¬ n < 0 := fun h => by
    have := toInt_neg h
    omega
  have hzero : n ≠ 0 := fun h => by
    subst h
    exact absurd h1 (by decide)
  have hsize : ¬ n.toInt.toNat > m.instances.length := by omega
  have hmem : ¬ m.freelist.contains n = true := by simpa using hf
  unfold checkInstanceNumber
  rw [if_neg hneg, if_neg hzero, if_neg hsize, if_neg hmem]

/-- Any other number is refused, with an exception unless it is an allowed 0. -/
theorem checkInstanceNumber_refused (env : JNIEnv) (allowZero : Bool)
    (h : ¬ m.InRange n ∨ n ∈ m.freelist) :
    ∃ message, m.checkInstanceNumber env n allowZero
      = (false, if n = 0 ∧ allowZero then env else
          throwIllegalStateException env n message) := by
  unfold checkInstanceNumber
  by_cases hneg : n < 0
  · have hzero : n ≠ 0 := fun h => by
      subst h
      exact absurd hneg (by decide)
    exact ⟨_, by rw [if_pos hneg, if_neg (fun hc => hzero hc.1)]⟩
  rw [if_neg hneg]
  by_cases hzero : n = 0
  · refine ⟨"function called on null instance", ?_⟩
    rw [if_pos hzero]
    cases allowZero <;> simp [hzero]
  rw [if_neg hzero]
  have hno : ¬ (n = 0 ∧ allowZero = true) := fun hc => hzero hc.1
  by_cases hsize : n.toInt.toNat > m.instances.length
  · exact ⟨_, by rw [if_pos hsize, if_neg hno]⟩
  rw [if_neg hsize]
  have hpos : 1 ≤ n.toInt := by
    have h0 : ¬ n.toInt < 0 := fun hc => hneg (by simpa [Int32.lt_iff_toInt_lt] using hc)
    have h1 : n.toInt ≠ 0 := fun hc => hzero (Int32.toInt_inj.mp (by simpa using hc))
    omega
  have hmem : m.freelist.contains n = true := by
    rcases h with hr | hf
    · exact absurd ⟨hpos, by omega⟩ hr
    · simpa using hf
  exact ⟨_, by rw [if_pos hmem, if_neg hno]⟩

/-! ### The operations -/

/-- A write to a slot keeps the invariant when it writes both pointers or none, and writes none to
the slot of a released number. -/
theorem WellFormed.setSlot (h : m.WellFormed) (hp : p.objectP.isNone = p.eventsP.isNone)
    (hfree : n ∈ m.freelist → p = .null) (hn : m.InRange n) : (m.setSlot n p).WellFormed where
  locks_length := by simpa using h.locks_length
  together q hq := by
    rcases mem_instances_setSlot hq with rfl | hq
    · exact hp
    · exact h.together q hq
  nodup := by simpa using h.nodup
  free_inRange k hk := by simpa [InRange] using h.free_inRange k (by simpa using hk)
  free_empty k hk := by
    rw [freelist_setSlot] at hk
    rw [slot_setSlot hn]
    split
    · rename_i hkn
      rw [hfree (hkn ▸ hk)]
    · exact h.free_empty k hk
  size_lt := by simpa using h.size_lt

/-- The status of a number depends on its slot and on whether it is on the freelist. -/
theorem status_congr (hf : k ∈ m'.freelist ↔ k ∈ m.freelist) (hs : m'.slot k = m.slot k) :
    m'.status k = m.status k := by
  simp [status, hf, hs]

/-- `add` with a number on the freelist takes the last one and fills its slot. -/
theorem add_reuse (h : m.WellFormed) (hn : m.freelist.getLast? = some n) (object : Object)
    (events : Events) :
    m.add (some object) (some events)
      = .ok ({ m with freelist := m.freelist.dropLast }.setSlot n ⟨some object, some events⟩,
          n) := by
  have hmem : n ∈ m.freelist := List.mem_of_getLast? hn
  have h1 : 1 ≤ n.toInt := (h.free_inRange n hmem).1
  simp [add, hn, h1, h.free_empty n hmem, InstancePointers.toBool, InstancePointers.null,
    bind, Except.bind, pure, Except.pure]

/-- `add` with an empty freelist appends a slot. -/
theorem add_grow (h : m.WellFormed) (hn : m.freelist = []) (object : Object)
    (events : Events) :
    m.add (some object) (some events)
      = .ok ({ m with
          instances := m.instances ++ [⟨some object, some events⟩]
          locks := m.locks ++ [⟨false⟩] }, Int32.ofNat (m.instances.length + 1)) := by
  simp [add, hn, h.locks_length, bind, Except.bind, pure, Except.pure]

/-- A number off the freelist and in range passes the check, so `kill` empties its slot. -/
theorem kill_ok (hf : n ∉ m.freelist) (hs : m.slot n = .ok p) :
    m.kill env n = .ok (m.setSlot n .null, env, p) := by
  simp [kill, checkInstanceNumber_ok (inRange_of_slot hs) hf, hs, bind, Except.bind, pure,
    Except.pure]

/-- `kill` of a number that is not allocated changes nothing. It throws, but not for the number 0.
-/
theorem kill_refused (env : JNIEnv) (h : ¬ m.InRange n ∨ n ∈ m.freelist) :
    ∃ message, m.kill env n
      = .ok (m, if n = 0 then env else throwIllegalStateException env n message, .null) := by
  obtain ⟨message, hc⟩ := checkInstanceNumber_refused env true h
  exact ⟨message, by simp [kill, hc]⟩

/-- `finalize` puts the number of an empty slot on the freelist. -/
theorem finalize_null (hf : n ∉ m.freelist) (hs : m.slot n = .ok .null) :
    m.finalize env n = .ok ({ m with freelist := m.freelist ++ [n] }, env) := by
  have hzero : n ≠ 0 := fun h => by
    have h1 := (inRange_of_slot hs).1
    subst h
    exact absurd h1 (by decide)
  have hbne : (n != 0) = true := by simpa using hzero
  simp [finalize, checkInstanceNumber_ok (inRange_of_slot hs) hf, hs, hbne,
    InstancePointers.toBool, InstancePointers.null, bind, Except.bind, pure, Except.pure]

/-- `finalize` reports a slot that was not killed. -/
theorem finalize_pair {object : Object} {events : Events} (hf : n ∉ m.freelist)
    (hs : m.slot n = .ok ⟨some object, some events⟩) :
    m.finalize env n = .ok (m, throwIllegalStateException env n
      ("Leaked Tox instance #" ++ toString n)) := by
  simp [finalize, checkInstanceNumber_ok (inRange_of_slot hs) hf, hs,
    InstancePointers.toBool, bind, Except.bind, pure, Except.pure]

/-- `finalize` of a number that is not allocated changes nothing. It throws, but not for the number
0. -/
theorem finalize_refused (env : JNIEnv) (h : ¬ m.InRange n ∨ n ∈ m.freelist) :
    ∃ message, m.finalize env n
      = .ok (m, if n = 0 then env else throwIllegalStateException env n message) := by
  obtain ⟨message, hc⟩ := checkInstanceNumber_refused env true h
  exact ⟨message, by simp [finalize, hc]⟩

/-- `finalize` does not touch the slots. -/
theorem instances_finalize {env' : JNIEnv} (h : m.finalize env n = .ok (m', env')) :
    m'.instances = m.instances := by
  unfold finalize at h
  split at h
  · cases h
    rfl
  · cases hs : m.slot n with
    | error f => simp [hs, bind, Except.bind] at h
    | ok p =>
        cases hb : p.toBool with
        | error f => simp [hs, hb, bind, Except.bind] at h
        | ok b =>
            cases b with
            | true =>
                simp only [hs, hb, bind, Except.bind, pure, Except.pure, if_true,
                  Except.ok.injEq, Prod.mk.injEq] at h
                rw [← h.1]
            | false =>
                cases ha : tox4jAssert (n != 0) "instanceNumber != 0" with
                | error f => simp [hs, hb, ha, bind, Except.bind] at h
                | ok _ =>
                    simp only [hs, hb, ha, bind, Except.bind, pure, Except.pure,
                      Bool.false_eq_true, if_false, Except.ok.injEq, Prod.mk.injEq] at h
                    rw [← h.1]

/-! ### The manager after an operation -/

/-- A table that keeps its slots and takes the number off the freelist stays well formed. -/
theorem WellFormed.pop (h : m.WellFormed) :
    WellFormed { m with freelist := m.freelist.dropLast } where
  locks_length := h.locks_length
  together := h.together
  nodup := h.nodup.sublist (List.dropLast_sublist _)
  free_inRange k hk := h.free_inRange k (List.mem_of_mem_dropLast hk)
  free_empty k hk := h.free_empty k (List.mem_of_mem_dropLast hk)
  size_lt := h.size_lt

/-- The last number of the freelist is not on it once it is taken off. -/
theorem WellFormed.notMem_dropLast (h : m.WellFormed) (hn : m.freelist.getLast? = some n) :
    n ∉ m.freelist.dropLast := by
  obtain ⟨ns, hns⟩ := List.getLast?_eq_some_iff.mp hn
  have hnodup := h.nodup
  rw [hns] at hnodup ⊢
  rw [List.dropLast_concat]
  exact fun hmem => (List.nodup_append.mp hnodup).2.2 n hmem n (by simp) rfl

/-- The numbers on the freelist are its last number and the others. -/
theorem mem_freelist_iff (hn : m.freelist.getLast? = some n) :
    k ∈ m.freelist ↔ k ∈ m.freelist.dropLast ∨ k = n := by
  obtain ⟨ns, hns⟩ := List.getLast?_eq_some_iff.mp hn
  simp [hns]

/-- `add` keeps the invariant when it takes the last number of the freelist. -/
theorem WellFormed.reuse (h : m.WellFormed) (hn : m.freelist.getLast? = some n)
    (object : Object) (events : Events) :
    WellFormed ({ m with freelist := m.freelist.dropLast }.setSlot n
      ⟨some object, some events⟩) :=
  h.pop.setSlot rfl (fun hmem => absurd hmem (h.notMem_dropLast hn))
    (h.free_inRange n (List.mem_of_getLast? hn))

/-- When `add` takes the last number of the freelist, that number becomes live and no other number
changes. The number stands on the list once, so it is not free any more. -/
theorem WellFormed.status_reuse (h : m.WellFormed) (hn : m.freelist.getLast? = some n)
    (object : Object) (events : Events) :
    ({ m with freelist := m.freelist.dropLast }.setSlot n ⟨some object, some events⟩).status
      = Function.update m.status n (.live (object, events)) := by
  have hr : InRange { m with freelist := m.freelist.dropLast } n :=
    h.free_inRange n (List.mem_of_getLast? hn)
  funext k
  by_cases hk : k = n
  · subst hk
    rw [Function.update_self]
    exact status_of_pair (by simpa using h.notMem_dropLast hn) (by rw [slot_setSlot hr, if_pos rfl])
  · rw [Function.update_of_ne hk]
    refine status_congr ?_ ?_
    · simp [mem_freelist_iff hn, hk]
    · rw [slot_setSlot hr, if_neg hk]
      exact slot_congr rfl

section Grow

variable (object : Object) (events : Events)

/-- The manager after a push at the back. -/
def grown (m : InstanceManager Object Events) (object : Object) (events : Events) :
    InstanceManager Object Events :=
  { m with
    instances := m.instances ++ [⟨some object, some events⟩]
    locks := m.locks ++ [⟨false⟩] }

/-- The slots that the table had are still there after it has grown. -/
theorem slot_grown_of_inRange (h : m.InRange k) : (m.grown object events).slot k = m.slot k := by
  obtain ⟨h1, h2⟩ := h
  have hi : (k.toInt - 1).toNat < m.instances.length := by omega
  simp only [slot, grown, index?_of_pos h1, Option.bind_some, List.getElem?_append_left hi]

/-- The slot at the end of the table that has grown holds the new pair. -/
theorem slot_grown_new (h : m.instances.length + 1 < 2 ^ 31) :
    (m.grown object events).slot (Int32.ofNat (m.instances.length + 1))
      = .ok ⟨some object, some events⟩ := by
  have hn := toInt_ofNat_size h
  have h1 : 1 ≤ (Int32.ofNat (m.instances.length + 1)).toInt := by omega
  have hi : ((Int32.ofNat (m.instances.length + 1)).toInt - 1).toNat = m.instances.length := by
    omega
  simp only [slot, grown, index?_of_pos h1, Option.bind_some, hi, List.getElem?_concat_length]

/-- A table that has grown has one number more. -/
theorem inRange_grown_iff (h : m.instances.length + 1 < 2 ^ 31) :
    (m.grown object events).InRange k
      ↔ m.InRange k ∨ k = Int32.ofNat (m.instances.length + 1) := by
  have hn := toInt_ofNat_size h
  have hlen : (m.grown object events).instances.length = m.instances.length + 1 := by
    simp [grown]
  unfold InRange
  rw [hlen]
  constructor
  · rintro ⟨h1, h2⟩
    by_cases hk : k.toInt.toNat ≤ m.instances.length
    · exact Or.inl ⟨h1, hk⟩
    · exact Or.inr (Int32.toInt_inj.mp (by omega))
  · rintro (⟨h1, h2⟩ | rfl)
    · exact ⟨h1, by omega⟩
    · exact ⟨by omega, by omega⟩

/-- The number of the new slot had no slot before. -/
theorem WellFormed.not_inRange_new (h : m.instances.length + 1 < 2 ^ 31) :
    ¬ m.InRange (Int32.ofNat (m.instances.length + 1)) := by
  have hn := toInt_ofNat_size h
  rintro ⟨-, h2⟩
  omega

/-- `add` keeps the invariant when it grows the table. -/
theorem WellFormed.grown (h : m.WellFormed) (hn : m.freelist = [])
    (hsize : m.instances.length + 1 < 2 ^ 31) : (m.grown object events).WellFormed where
  locks_length := by simp [InstanceManager.grown, h.locks_length]
  together p hp := by
    rcases List.mem_append.mp hp with hp | hp
    · exact h.together p hp
    · rw [List.mem_singleton.mp hp]
      rfl
  nodup := h.nodup
  free_inRange k hk := by simp [InstanceManager.grown, hn] at hk
  free_empty k hk := by simp [InstanceManager.grown, hn] at hk
  size_lt := by simpa [InstanceManager.grown] using hsize

/-- When `add` grows the table, the new number becomes live and no other number changes. -/
theorem WellFormed.status_grown (hn : m.freelist = [])
    (hsize : m.instances.length + 1 < 2 ^ 31) :
    (m.grown object events).status
      = Function.update m.status (Int32.ofNat (m.instances.length + 1))
          (.live (object, events)) := by
  funext k
  by_cases hk : k = Int32.ofNat (m.instances.length + 1)
  · subst hk
    rw [Function.update_self]
    exact status_of_pair (by simp [InstanceManager.grown, hn])
      (slot_grown_new object events hsize)
  · rw [Function.update_of_ne hk]
    by_cases hr : m.InRange k
    · exact status_congr Iff.rfl (slot_grown_of_inRange object events hr)
    · have hr' : ¬ (m.grown object events).InRange k := fun hc =>
        ((inRange_grown_iff object events hsize).mp hc).elim hr hk
      rw [status_of_not_inRange hr, status_of_not_inRange hr']

end Grow

/-- `kill` keeps the invariant. -/
theorem WellFormed.emptied (h : m.WellFormed) (hs : m.slot n = .ok p) :
    (m.setSlot n .null).WellFormed :=
  h.setSlot rfl (fun _ => rfl) (inRange_of_slot hs)

/-- `kill` makes its number killed, and changes no other number. -/
theorem status_emptied (hf : n ∉ m.freelist) (hs : m.slot n = .ok p) :
    (m.setSlot n .null).status = Function.update m.status n .killed := by
  have hr := inRange_of_slot hs
  funext k
  by_cases hk : k = n
  · subst hk
    rw [Function.update_self]
    exact status_of_null (by simpa using hf) (by rw [slot_setSlot hr, if_pos rfl])
  · rw [Function.update_of_ne hk]
    exact status_congr (by simp) (by rw [slot_setSlot hr, if_neg hk])

/-- `finalize` keeps the invariant: the number was not on the freelist and its slot is empty. -/
theorem WellFormed.released (h : m.WellFormed) (hf : n ∉ m.freelist)
    (hs : m.slot n = .ok .null) :
    WellFormed { m with freelist := m.freelist ++ [n] } where
  locks_length := h.locks_length
  together := h.together
  nodup := by
    refine List.nodup_append.mpr ⟨h.nodup, List.nodup_singleton n, ?_⟩
    intro a ha b hb hab
    rw [List.mem_singleton.mp hb] at hab
    exact hf (hab ▸ ha)
  free_inRange k hk := by
    rcases List.mem_append.mp hk with hk | hk
    · exact h.free_inRange k hk
    · rw [List.mem_singleton.mp hk]
      exact inRange_of_slot hs
  free_empty k hk := by
    rcases List.mem_append.mp hk with hk | hk
    · exact h.free_empty k hk
    · rw [List.mem_singleton.mp hk]
      exact hs
  size_lt := h.size_lt

/-- `finalize` makes its number free, and changes no other number. -/
theorem status_released :
    status { m with freelist := m.freelist ++ [n] } = Function.update m.status n .free := by
  funext k
  by_cases hk : k = n
  · subst hk
    rw [Function.update_self]
    exact status_of_mem (by simp)
  · rw [Function.update_of_ne hk]
    exact status_congr (by simp [hk]) (slot_congr rfl)

section WithInstance

variable {σ R : Type} [Inhabited R]
  (func : Object → Events → JNIEnv → σ → Except Fatal (R × JNIEnv × σ)) (s : σ)

/-- `with_instance` on a live number is `func` on its pair. -/
theorem withInstance_pair {object : Object} {events : Events} (hf : n ∉ m.freelist)
    (hs : m.slot n = .ok ⟨some object, some events⟩) :
    m.withInstance env n func s = func object events env s := by
  simp [withInstance, getLocked, checkInstanceNumber_ok (inRange_of_slot hs) hf, hs, bind,
    Except.bind, pure, Except.pure]

/-- `with_instance` on a killed number throws `ToxKilledException`. -/
theorem withInstance_null (hf : n ∉ m.freelist) (hs : m.slot n = .ok .null) :
    m.withInstance ⟨[]⟩ n func s
      = .ok (default, throwToxKilledException ⟨[]⟩ n "function called on killed tox instance",
          s) := by
  simp [withInstance, getLocked, checkInstanceNumber_ok (inRange_of_slot hs) hf, hs,
    InstancePointers.null, JNIEnv.exceptionCheck, bind, Except.bind, pure, Except.pure]

/-- `with_instance` on a number that is not allocated throws `IllegalStateException`. The
exception is pending when the null pointers are seen, so there is no second one. -/
theorem withInstance_refused (h : ¬ m.InRange n ∨ n ∈ m.freelist) :
    ∃ message, m.withInstance ⟨[]⟩ n func s
      = .ok (default, throwIllegalStateException ⟨[]⟩ n message, s) := by
  obtain ⟨message, hc⟩ := checkInstanceNumber_refused ⟨[]⟩ false h
  refine ⟨message, ?_⟩
  simp [withInstance, getLocked, hc, InstancePointers.null, JNIEnv.exceptionCheck,
    throwIllegalStateException, throwException, bind, Except.bind, pure, Except.pure]

end WithInstance

end InstanceManager

end Tox4j.Native
