import Tox4j.Log.Journal

/-!
# `Tox4j.Log.Nested`: logged calls on one thread

`Calls` is a run of logged calls on one thread. A call has the calls that its callbacks make
nested in it. `runCalls` performs the calls with the parts of the log that
`Tox4j.Log.Threads` has. One thread never waits for the lock of the log, so the lock is left
out; `steps_runCalls` says that `runCalls` is what the steps of the thread do.

The calls are numbered in the order they start, and the run remembers to which call an entry
was granted. `kept` is the list of the calls whose entries stay, and it is computed from the
names of the calls and the number of entries only. `runCalls_spec` says that these entries, and
no others, are in the log.
-/

set_option autoImplicit false

namespace Tox4j.Log

open Tox4j.Lib
open Tox4j.Lib.Proto3 (Bytes)
open Tox4j.Native (Fatal)

/-- Calls one after the other. -/
inductive Calls
  | done
  | call (c : Call) (nested rest : Calls)

/-- How many calls there are, with the nested ones. -/
def Calls.count : Calls → Nat
  | .done => 0
  | .call _ nested rest => 1 + nested.count + rest.count

/-- The memory of the log, with what is remembered of the run. -/
structure Traced (Tid : Type) extends Shared Tid where
  /-- The number of calls that have started. -/
  started : Nat
  /-- The number of the call that was granted the entry at an address. -/
  owner : Address → Nat

/-- The allocator. It may choose any address that is not in use. -/
structure Allocator where
  choose : Nat → AddressedList (JniLogEntry Bytes) → Address
  fresh : ∀ n entries, choose n entries ∉ entries.map Cell.address

variable {Tid : Type}

namespace Traced

/-- The log is off or full: a call starts without an entry. -/
def refuse (s : Traced Tid) : Traced Tid := { s with started := s.started + 1 }

/-- A call starts with an entry at the address `a`. -/
def grant (s : Traced Tid) (c : Call) (a : Address) : Traced Tid where
  toShared :=
    ((({ s.toShared with data := s.data.addEntry a } : Shared Tid).printFunc c a).printArgs c
      a).setInstanceNumber c a
  started := s.started + 1
  owner := Function.update s.owner a s.started

/-- A call with an entry at the address `a` ends. -/
def finish (s : Traced Tid) (c : Call) (a : Address) : Traced Tid :=
  let shared := s.toShared.printResult c a
  { s with toShared := shared.update (shared.data.destroyEntry a) }

end Traced

/-- Perform the calls. -/
def runCalls (alloc : Allocator) : Calls → Traced Tid → Traced Tid
  | .done, s => s
  | .call c nested rest, s =>
    if s.data.maxSize = 0 ∨ s.data.full = true then
      runCalls alloc rest (runCalls alloc nested s.refuse)
    else
      let a := alloc.choose s.started s.data.entries
      runCalls alloc rest ((runCalls alloc nested (s.grant c a)).finish c a)

/-! ### The calls whose entries stay -/

/-- The name under which the call is logged is in the filter. -/
def hidden (names : FuncNames) (filters : List String) (c : Call) : Bool :=
  filters.contains (getFuncName names c.func)

/-- The entry of a call. -/
def Call.entry (names : FuncNames) (c : Call) : JniLogEntry Bytes :=
  (⟨(), c, getFuncName names c.func, false⟩ : Record Unit).entry

/-- The calls whose entries stay, with their numbers: the next number is `i`, and the log has
`size` entries. -/
def kept (names : FuncNames) (filters : List String) (maxSize : Nat) :
    Nat → Nat → Calls → List (Nat × Call)
  | _, _, .done => []
  | i, size, .call c nested rest =>
    if maxSize ≤ size then
      let inner := kept names filters maxSize (i + 1) size nested
      inner ++ kept names filters maxSize (i + 1 + nested.count) (size + inner.length) rest
    else
      let inner := kept names filters maxSize (i + 1) (size + 1) nested
      let own := if hidden names filters c then [] else [(i, c)]
      own ++ inner ++ kept names filters maxSize (i + 1 + nested.count)
        (size + (own ++ inner).length) rest

variable {s s' s'' : Traced Tid} {c : Call} {a : Address} {n m : Nat}
  {calls calls' : List (Nat × Call)}

/-! ### One call -/

/-- The entry of a call that runs. -/
def Call.opened (names : FuncNames) (c : Call) : JniLogEntry Bytes :=
  { name := getFuncName names c.func
    instanceNumber := match c.instanceNumber with
      | some n => n.toUInt32
      | none => 0
    arguments := c.args.map printArg }

/-- The state with more entries, after `n` more calls. -/
def Traced.add (s : Traced Tid) (entries : AddressedList (JniLogEntry Bytes)) (n : Nat)
    (owner : Address → Nat) : Traced Tid :=
  { s with
    data := { s.data with entries := s.data.entries ++ entries }
    started := s.started + n
    owner := owner }

/-- More entries, and more again. -/
theorem Traced.add_add (s : Traced Tid) (added added' : AddressedList (JniLogEntry Bytes))
    (n m : Nat) (owner owner' : Address → Nat) :
    (s.add added n owner).add added' m owner' = s.add (added ++ added') (n + m) owner' := by
  simp only [Traced.add, List.append_assoc, Nat.add_assoc]

/-- Calls that leave no entry only count. -/
theorem Traced.add_nil (s : Traced Tid) (n : Nat) :
    s.add [] n s.owner = { s with started := s.started + n } := by
  simp only [Traced.add, List.append_nil]

/-- A call that starts with an entry has it at the end of the log. -/
theorem Traced.grant_eq (hdistinct : AddressedList.Distinct s.data.entries)
    (ha : a ∉ s.data.entries.map Cell.address) :
    s.grant c a = s.add [⟨a, c.opened s.names⟩] 1 (Function.update s.owner a s.started) := by
  have hread : ∀ x : JniLogEntry Bytes,
      AddressedList.read? (s.data.entries ++ [⟨a, x⟩]) a = some x :=
    fun x => AddressedList.read?_middle (hdistinct.concat ha)
  have hwrite : ∀ (x : JniLogEntry Bytes) f, AddressedList.write (s.data.entries ++ [⟨a, x⟩]) a f =
      s.data.entries ++ [⟨a, f x⟩] :=
    fun x f => AddressedList.write_middle (hdistinct.concat ha) f
  cases hnumber : c.instanceNumber <;>
    simp [Traced.grant, Traced.add, Shared.printFunc, Shared.printArgs, Shared.setInstanceNumber,
      Shared.update, LogData.writeEntry, LogData.addEntry, hread, hwrite, Call.opened, hnumber]

/-- A call that starts with an entry leaves the rest alone. -/
theorem Traced.grant_unchanged (hdistinct : AddressedList.Distinct s.data.entries)
    (ha : a ∉ s.data.entries.map Cell.address) :
    AddressedList.Distinct (s.grant c a).data.entries ∧
      (s.grant c a).names = s.names ∧ (s.grant c a).data.filters = s.data.filters ∧
      (s.grant c a).data.maxSize = s.data.maxSize ∧ (s.grant c a).started = s.started + 1 ∧
      (s.grant c a).data.entries.length = s.data.entries.length + 1 := by
  rw [grant_eq hdistinct ha]
  exact ⟨hdistinct.concat ha, rfl, rfl, rfl, rfl, List.length_append⟩

/-- What stays of the entry of a call that ends. -/
def Call.left (names : FuncNames) (filters : List String) (a : Address) (c : Call) :
    AddressedList (JniLogEntry Bytes) :=
  if hidden names filters c then [] else [⟨a, c.entry names⟩]

/-- A call that ends completes its entry, and takes it out when its name is in the filter. -/
theorem Traced.finish_add {added : AddressedList (JniLogEntry Bytes)} {owner : Address → Nat}
    (hdistinct : AddressedList.Distinct (s.data.entries ++ ⟨a, c.opened s.names⟩ :: added)) :
    (s.add (⟨a, c.opened s.names⟩ :: added) n owner).finish c a =
      s.add (c.left s.names s.data.filters a ++ added) n owner := by
  have hdone : AddressedList.Distinct (s.data.entries ++ ⟨a, c.entry s.names⟩ :: added) := by
    simpa [AddressedList.Distinct] using hdistinct
  have hresult : (s.add (⟨a, c.opened s.names⟩ :: added) n owner).toShared.printResult c a =
      (s.add (⟨a, c.entry s.names⟩ :: added) n owner).toShared := by
    simp only [Shared.printResult, Shared.update, LogData.writeEntry, Traced.add,
      AddressedList.read?_middle hdistinct, AddressedList.write_middle hdistinct]
    rfl
  rw [Traced.finish, hresult]
  cases hhidden : hidden s.names s.data.filters c with
  | false =>
      have hcontains : s.data.filters.contains (c.entry s.names).name = false := hhidden
      simp only [LogData.destroyEntry, Traced.add, AddressedList.read?_middle hdone, hcontains,
        Bool.false_eq_true, if_false, Shared.update, Call.left, hhidden]
      rfl
  | true =>
      have hcontains : s.data.filters.contains (c.entry s.names).name = true := hhidden
      simp only [LogData.destroyEntry, Traced.add, AddressedList.read?_middle hdone, hcontains,
        if_true, AddressedList.searchBack_middle hdone, AddressedList.eraseIdx_middle,
        Shared.update, Call.left, hhidden, List.nil_append]

/-! ### What a run adds to the log -/

/-- `n` calls lead from `s` to `s'`, and they add the entries of `calls` to the log. -/
def Logs (s : Traced Tid) (n : Nat) (calls : List (Nat × Call)) (s' : Traced Tid) : Prop :=
  ∃ added owner, s' = s.add added n owner ∧
    AddressedList.Distinct (s.data.entries ++ added) ∧
    (∀ cell ∈ s.data.entries, owner cell.address = s.owner cell.address) ∧
    added.map (fun cell => (owner cell.address, cell.value)) =
      calls.map fun p => (p.1, p.2.entry s.names)

/-- Calls that leave no entry. -/
theorem Logs.nothing (h : AddressedList.Distinct s.data.entries) (n : Nat) :
    Logs s n [] { s with started := s.started + n } := by
  refine ⟨[], s.owner, (s.add_nil n).symm, ?_, fun _ _ => rfl, rfl⟩
  rw [List.append_nil]
  exact h

/-- Calls after other calls add their entries behind those of the other ones. -/
theorem Logs.trans (h : Logs s n calls s') (h' : Logs s' m calls' s'') :
    Logs s (n + m) (calls ++ calls') s'' := by
  obtain ⟨added, owner, rfl, -, howner, hadded⟩ := h
  obtain ⟨added', owner', rfl, hdistinct', howner', hadded'⟩ := h'
  refine ⟨added ++ added', owner', s.add_add .., ?_, ?_, ?_⟩
  · rw [← List.append_assoc]
    exact hdistinct'
  · intro cell hcell
    exact (howner' cell (List.mem_append_left _ hcell)).trans (howner cell hcell)
  · have hkept : added.map (fun cell => (owner' cell.address, cell.value)) =
        added.map fun cell => (owner cell.address, cell.value) := by
      refine List.map_congr_left ?_
      intro cell hcell
      rw [howner' cell (List.mem_append_right _ hcell)]
      rfl
    rw [List.map_append, List.map_append, hkept, hadded]
    exact congrArg _ hadded'

/-- A call with an entry, when `s'` is reached by the calls nested in it. -/
theorem Logs.granted (hdistinct : AddressedList.Distinct s.data.entries)
    (ha : a ∉ s.data.entries.map Cell.address) (h : Logs (s.grant c a) n calls s') :
    Logs s (1 + n)
      ((if hidden s.names s.data.filters c then [] else [(s.started, c)]) ++ calls)
      (s'.finish c a) := by
  rw [Traced.grant_eq hdistinct ha] at h
  obtain ⟨added, owner, rfl, hall, howner, hadded⟩ := h
  have hall : AddressedList.Distinct (s.data.entries ++ ⟨a, c.opened s.names⟩ :: added) := by
    rw [List.append_cons]
    exact hall
  have hown : owner a = s.started := by
    rw [howner ⟨a, c.opened s.names⟩ (List.mem_append_right _ (List.mem_singleton_self _))]
    exact Function.update_self ..
  have hold : ∀ cell ∈ s.data.entries, owner cell.address = s.owner cell.address := by
    intro cell hcell
    rw [howner cell (List.mem_append_left _ hcell)]
    refine Function.update_of_ne ?_ ..
    intro heq
    exact ha (heq ▸ List.mem_map_of_mem hcell)
  rw [Traced.add_add, List.singleton_append, Traced.finish_add hall]
  refine ⟨_, owner, rfl, ?_, hold, ?_⟩
  · -- What is left of the list has the addresses that it had.
    unfold AddressedList.Distinct Call.left at *
    rw [List.map_append, List.map_cons] at hall
    cases hidden s.names s.data.filters c with
    | true =>
        show (List.map _ (s.data.entries ++ ([] ++ added))).Nodup
        rw [List.nil_append, List.map_append]
        exact hall.sublist (List.Sublist.append_left (List.sublist_cons_self ..) _)
    | false =>
        rw [List.map_append]
        exact hall
  · rw [List.map_append, List.map_append, hadded, Call.left]
    cases hidden s.names s.data.filters c with
    | true => rfl
    | false =>
        show [(owner a, c.entry s.names)] ++ _ = _
        rw [hown]
        rfl

/-- The addresses in the log are distinct afterwards. -/
theorem Logs.distinct (h : Logs s n calls s') : AddressedList.Distinct s'.data.entries := by
  obtain ⟨added, owner, rfl, hdistinct, -⟩ := h
  exact hdistinct

/-- What calls leave alone, and how the log grows. -/
theorem Logs.unchanged (h : Logs s n calls s') :
    s'.names = s.names ∧ s'.data.filters = s.data.filters ∧
      s'.data.maxSize = s.data.maxSize ∧ s'.started = s.started + n ∧
      s'.data.entries.length = s.data.entries.length + calls.length := by
  obtain ⟨added, owner, rfl, -, -, hadded⟩ := h
  have hlength : added.length = calls.length := by simpa using congrArg List.length hadded
  refine ⟨rfl, rfl, rfl, rfl, ?_⟩
  show (s.data.entries ++ added).length = _
  rw [List.length_append, hlength]

/-- The entries of the calls that `kept` has are added to the log. -/
theorem runCalls_spec (alloc : Allocator) (cs : Calls) (s : Traced Tid)
    (h : AddressedList.Distinct s.data.entries) :
    Logs s cs.count
      (kept s.names s.data.filters s.data.maxSize s.started s.data.entries.length cs)
      (runCalls alloc cs s) := by
  -- The nested calls start from the log with the entry of the outer call, and the calls after
  -- it from the log without it, if its name is in the filter.
  induction cs generalizing s with
  | done => exact .nothing h 0
  | call c nested rest ihnested ihrest =>
      have hfull : s.data.full = true ↔ s.data.maxSize ≤ s.data.entries.length := by
        simp [LogData.full]
      rw [runCalls, kept]
      by_cases hsize : s.data.maxSize ≤ s.data.entries.length
      · rw [if_pos hsize, if_pos (Or.inr (hfull.mpr hsize))]
        have hnested := (Logs.nothing h 1).trans (ihnested { s with started := s.started + 1 } h)
        obtain ⟨hnames, hfilters, hmax, hstarted, hlength⟩ := hnested.unchanged
        have hrest := hnested.trans (ihrest _ hnested.distinct)
        rw [hnames, hfilters, hmax, hstarted, hlength] at hrest
        simpa only [Calls.count, Traced.refuse, List.nil_append, Nat.add_assoc] using hrest
      · have hnot : ¬ (s.data.maxSize = 0 ∨ s.data.full = true) := by
          rw [hfull]
          omega
        rw [if_neg hnot, if_neg hsize]
        have ha := alloc.fresh s.started s.data.entries
        obtain ⟨hopened, hnames, hfilters, hmax, hstarted, hlength⟩ :=
          Traced.grant_unchanged (c := c) h ha
        have hnested := ihnested _ hopened
        rw [hnames, hfilters, hmax, hstarted, hlength] at hnested
        have hcall := hnested.granted h ha
        obtain ⟨hnames, hfilters, hmax, hstarted, hlength⟩ := hcall.unchanged
        have hrest := hcall.trans (ihrest _ hcall.distinct)
        rw [hnames, hfilters, hmax, hstarted, hlength] at hrest
        simpa only [Calls.count, Nat.add_assoc] using hrest

/-! ### The steps of the thread -/

variable [DecidableEq Tid] {t : Tid} {w : State Tid} {sh sh' : Shared Tid}
  {mutex : RecursiveMutex Tid} {stack : List Frame} {f : Frame} {r : Option Frame}
  {e : Option Event}

/-- Steps of the thread `t`. -/
def Steps (t : Tid) : State Tid → State Tid → Prop :=
  Relation.ReflTransGen fun w w' => ∃ e, Step w t e w'

/-- The state in which the thread `t` has another stack. -/
def State.at (w : State Tid) (t : Tid) (sh : Shared Tid) (stack : List Frame) : State Tid :=
  { sh with stack := Function.update w.stack t stack }

/-- Of two stacks for one thread the last one stays. -/
theorem State.at_at (sh sh' : Shared Tid) (stack stack' : List Frame) :
    (w.at t sh stack).at t sh' stack' = w.at t sh' stack' := by
  simp [State.at]

/-- A state does not change when a thread gets its own stack. -/
theorem State.at_self (w : State Tid) (t : Tid) : w.at t w.toShared (w.stack t) = w := by
  simp [State.at]

/-- The stack of the thread is the one it got. -/
theorem State.stack_at : (w.at t sh stack).stack t = stack := Function.update_self ..

/-- A step of the innermost frame is a step of the thread. -/
theorem FrameStep.steps (h : FrameStep sh t f sh' r e) :
    Steps t (w.at t sh (stack ++ [f])) (w.at t sh' (stack ++ r.toList)) := by
  refine .single ⟨e, ?_⟩
  have hstep := Step.advance (s := w.at t sh (stack ++ [f])) State.stack_at h
  rw [State.move, State.at, Function.update_idem] at hstep
  exact hstep

/-- The memory with another state of the mutex. -/
def Shared.withMutex (sh : Shared Tid) (mutex : RecursiveMutex Tid) : Shared Tid :=
  { sh with mutex := mutex }

omit [DecidableEq Tid] in
/-- A write to the log and a change of the mutex do not get in each other's way. -/
theorem Shared.update_withMutex (sh : Shared Tid) (mutex : RecursiveMutex Tid)
    (result : Except Fatal LogData) :
    (sh.withMutex mutex).update result = (sh.update result).withMutex mutex := by
  cases result <;> rfl

omit [DecidableEq Tid] in
/-- A write of the instance number and a change of the mutex do not get in each other's way. -/
theorem Shared.setInstanceNumber_withMutex (sh : Shared Tid) (mutex : RecursiveMutex Tid)
    (c : Call) (a : Address) : (sh.withMutex mutex).setInstanceNumber c a =
      (sh.setInstanceNumber c a).withMutex mutex := by
  unfold Shared.setInstanceNumber
  split
  · exact sh.update_withMutex ..
  · rfl

/-- The thread may lock the mutex. -/
def Free (mutex : RecursiveMutex Tid) (t : Tid) : Prop :=
  mutex.owner = none ∨ ∃ depth, mutex.owner = some (t, depth + 1)

/-- A thread can lock a mutex that nobody else holds, and the unlock leads back. -/
theorem Free.lock (h : Free mutex t) :
    ∃ mutex', mutex.lock t = some mutex' ∧ mutex'.unlock = mutex ∧ Free mutex' t := by
  obtain ⟨owner⟩ := mutex
  rcases h with rfl | ⟨depth, rfl⟩
  · exact ⟨⟨some (t, 1)⟩, rfl, rfl, .inr ⟨0, rfl⟩⟩
  · exact ⟨⟨some (t, depth + 2)⟩, by simp [RecursiveMutex.lock], rfl, .inr ⟨depth + 1, rfl⟩⟩

/-- The thread may make a logged call. -/
def MayCall (w : State Tid) (t : Tid) : Prop :=
  w.stack t = [] ∨ ∃ rest outer entry, w.stack t = rest ++ [.call outer (.running entry)]

/-- A step to another point of the innermost call. -/
theorem FrameStep.goes {f' : Frame} (h : FrameStep sh t f sh' (some f') e) :
    Steps t (w.at t sh (stack ++ [f])) (w.at t sh' (stack ++ [f'])) :=
  h.steps

/-- A step in which the innermost call returns. -/
theorem FrameStep.returns (h : FrameStep sh t f sh' none e) :
    Steps t (w.at t sh (stack ++ [f])) (w.at t sh' stack) := by
  have hsteps : Steps t (w.at t sh (stack ++ [f]))
      (w.at t sh' (stack ++ (none : Option Frame).toList)) := h.steps
  rw [Option.toList_none, List.append_nil] at hsteps
  exact hsteps

/-- The thread starts a call. -/
theorem steps_call (c : Call) (hcall : MayCall w t) :
    Steps t w (w.at t w.toShared (w.stack t ++ [.call c .maxSize])) :=
  .single ⟨none, .call c hcall⟩

/-- When the log is on, the call locks the mutex. -/
theorem steps_locked {mutex' : RecursiveMutex Tid} (hzero : ¬ sh.data.maxSize = 0)
    (hlock : mutex.lock t = some mutex') :
    Steps t (w.at t (sh.withMutex mutex) (stack ++ [.call c .maxSize]))
      (w.at t (sh.withMutex mutex') (stack ++ [.call c .sizeCheck])) := by
  have henabled := FrameStep.enabled (s := sh.withMutex mutex) (t := t) (c := c) hzero
  have hlocking := FrameStep.lock (s := sh.withMutex mutex) (c := c) hlock
  exact henabled.goes.trans hlocking.goes

/-- When the log is off or full, the call runs without an entry and without the lock. -/
theorem steps_refused (hfree : Free mutex t)
    (hrefused : sh.data.maxSize = 0 ∨ sh.data.full = true) :
    Steps t (w.at t (sh.withMutex mutex) (stack ++ [.call c .maxSize]))
      (w.at t (sh.withMutex mutex) (stack ++ [.call c (.running none)])) := by
  by_cases hzero : sh.data.maxSize = 0
  · exact (FrameStep.disabled (s := sh.withMutex mutex) hzero).goes
  · obtain ⟨mutex', hlock, hunlock, -⟩ := hfree.lock
    have hfull := hrefused.resolve_left hzero
    have hrefusal := FrameStep.full (s := sh.withMutex mutex') (t := t) (c := c) hfull
    have hback : Steps t (w.at t (sh.withMutex mutex') (stack ++ [.call c .unlockFull]))
        (w.at t (sh.withMutex mutex'.unlock) (stack ++ [.call c (.running none)])) :=
      (FrameStep.unlockFull (s := sh.withMutex mutex')).goes
    rw [hunlock] at hback
    exact (steps_locked hzero hlock).trans (hrefusal.goes.trans hback)

/-- When the log is on and not full, the call gets an entry, and runs with the lock. -/
theorem steps_granted {mutex' : RecursiveMutex Tid} (hlock : mutex.lock t = some mutex')
    (hgranted : ¬ (s.data.maxSize = 0 ∨ s.data.full = true))
    (ha : a ∉ s.data.entries.map Cell.address) :
    Steps t (w.at t (s.toShared.withMutex mutex) (stack ++ [.call c .maxSize]))
      (w.at t ((s.grant c a).toShared.withMutex mutex')
        (stack ++ [.call c (.running (some a))])) := by
  obtain ⟨hzero, hfull⟩ := not_or.mp hgranted
  have hgrant := FrameStep.grant (s := s.toShared.withMutex mutex') (t := t) (c := c)
    (Bool.eq_false_iff.mpr hfull) ha
  -- The entry is filled in with the name, the arguments and the number of the instance.
  have hname := FrameStep.printFunc (t := t) (c := c) (a := a)
    (s := ({ s.toShared with data := s.data.addEntry a } : Shared Tid).withMutex mutex')
  rw [Shared.printFunc, Shared.update_withMutex] at hname
  have hargs := FrameStep.printArgs (t := t) (c := c) (a := a)
    (s := (({ s.toShared with data := s.data.addEntry a } : Shared Tid).printFunc c
      a).withMutex mutex')
  rw [Shared.printArgs, Shared.update_withMutex] at hargs
  have hnumber := FrameStep.setInstanceNumber (t := t) (c := c) (a := a)
    (s := ((({ s.toShared with data := s.data.addEntry a } : Shared Tid).printFunc c
      a).printArgs c a).withMutex mutex')
  rw [Shared.setInstanceNumber_withMutex] at hnumber
  exact (steps_locked hzero hlock).trans (hgrant.goes.trans (hname.goes.trans
    (hargs.goes.trans hnumber.goes)))

/-- A call with an entry completes it and returns the lock. -/
theorem steps_finish {mutex' : RecursiveMutex Tid} (hunlock : mutex'.unlock = mutex) :
    Steps t (w.at t (s.toShared.withMutex mutex') (stack ++ [.call c (.running (some a))]))
      (w.at t ((s.finish c a).toShared.withMutex mutex) stack) := by
  have hreturned := FrameStep.returned (t := t) (c := c) (a := a)
    (s := s.toShared.withMutex mutex')
  have hresult := FrameStep.printResult (t := t) (c := c) (a := a)
    (s := s.toShared.withMutex mutex')
  rw [Shared.printResult, Shared.update_withMutex] at hresult
  have hdestroy := FrameStep.destroy (t := t) (c := c) (a := a)
    (s := (s.toShared.printResult c a).withMutex mutex')
  rw [Shared.update_withMutex] at hdestroy
  have hback : Steps t
      (w.at t ((s.finish c a).toShared.withMutex mutex') (stack ++ [.call c .unlock]))
      (w.at t ((s.finish c a).toShared.withMutex mutex'.unlock) stack) :=
    (FrameStep.unlock (s := (s.finish c a).toShared.withMutex mutex')).returns
  rw [hunlock] at hback
  exact hreturned.goes.trans (hresult.goes.trans (hdestroy.goes.trans hback))

/-- Steps of the thread `t` perform the calls, and leave its stack and the mutex as they were. -/
theorem steps_runCalls (alloc : Allocator) (cs : Calls) (w : State Tid) (s : Traced Tid)
    (hshared : w.toShared = s.toShared.withMutex w.mutex) (hfree : Free w.mutex t)
    (hcall : MayCall w t) :
    Steps t w
      (w.at t ((runCalls alloc cs s).toShared.withMutex w.mutex) (w.stack t)) := by
  induction cs generalizing w s with
  | done =>
      show Steps t w (w.at t (s.toShared.withMutex w.mutex) (w.stack t))
      rw [← hshared, State.at_self]
      exact .refl
  | call c nested rest ihnested ihrest =>
      -- The calls nested in this one, once it runs, and those after it, once it has returned.
      have hnested : ∀ (mutex : RecursiveMutex Tid) (s' : Traced Tid) (entry : Option Address),
          Free mutex t → Steps t
            (w.at t (s'.toShared.withMutex mutex) (w.stack t ++ [.call c (.running entry)]))
            (w.at t ((runCalls alloc nested s').toShared.withMutex mutex)
              (w.stack t ++ [.call c (.running entry)])) := by
        intro mutex s' entry hmutex
        have hsteps := ihnested
          (w.at t (s'.toShared.withMutex mutex) (w.stack t ++ [.call c (.running entry)])) s' rfl
          hmutex (.inr ⟨_, c, entry, State.stack_at⟩)
        rw [State.at_at, State.stack_at] at hsteps
        exact hsteps
      have hrest : ∀ s' : Traced Tid, Steps t
          (w.at t (s'.toShared.withMutex w.mutex) (w.stack t))
          (w.at t ((runCalls alloc rest s').toShared.withMutex w.mutex) (w.stack t)) := by
        intro s'
        have hsteps := ihrest (w.at t (s'.toShared.withMutex w.mutex) (w.stack t)) s' rfl hfree
          (by rw [MayCall, State.stack_at]; exact hcall)
        rw [State.at_at, State.stack_at] at hsteps
        exact hsteps
      have henter := steps_call c hcall
      rw [hshared] at henter
      by_cases hrefused : s.data.maxSize = 0 ∨ s.data.full = true
      · rw [runCalls, if_pos hrefused]
        have hran := henter.trans ((steps_refused hfree hrefused).trans
          (hnested w.mutex s.refuse none hfree))
        exact hran.trans (FrameStep.returnedRefused.returns.trans (hrest _))
      · rw [runCalls, if_neg hrefused]
        obtain ⟨mutex, hlock, hunlock, hlocked⟩ := hfree.lock
        have ha := alloc.fresh s.started s.data.entries
        have hran := henter.trans ((steps_granted hlock hrefused ha).trans
          (hnested mutex (s.grant c _) _ hlocked))
        exact hran.trans ((steps_finish hunlock).trans (hrest _))

end Tox4j.Log
