import Tox4j.Native.ManagerSpec

/-!
# `Tox4j.Native.HandleSafety`: handle safety over whole runs of the instance manager

The history of a manager is the list of its calls with their results. `table h` is the
table of handles (`Tox4j.Lib.HandleTable`) that the history `h` leads to: `add` allocates
the number that it returned, `kill` destroys, and `finalize` releases. `table` does not look
into the manager.

`Answers` says what a call does, given the table before it. `exec_answers` proves it for
one call, and that the call moves the manager from the table before it to the table after
it. So over a run the manager stands for the table of its history (`status_eq_table`).
`handleSafe_of_run` collects what holds after every run.

`handedOver`, `destroyed` and `held` are the pairs that were given to `add`, the pairs that
`kill` destroyed, and the pairs in the slots. Over a run the first list is the other two
(`pairs_conserved`): no pair is lost and none is destroyed twice.
-/

set_option autoImplicit false

namespace Tox4j.Native

open Tox4j.Lib
open scoped List

namespace InstanceManager

variable {Object Events : Type} {m m' : InstanceManager Object Events} {n k : Jint}

/-- What a call does to the table of handles. -/
def event : Call Object Events × Result Object Events →
    Option (HandleTable.Event Jint (Object × Events))
  | (.add object events, r) => r.returned.map (.allocate · (object, events))
  | (.kill n, _) => some (.destroy n)
  | (.finalize n, _) => some (.release n)
  | (.withInstance _, _) => none

/-- The table of handles after the calls of a history. -/
def table (h : List (Call Object Events × Result Object Events)) :
    Jint → Status (Object × Events) :=
  HandleTable.after (h.filterMap event)

/-- One exception, of the class `className`. -/
def ThrowsOne (className : JavaClass) (thrown : List JavaException) : Prop :=
  ∃ e, thrown = [e] ∧ e.className = className

/-- What a call does when the table before it is `t`. -/
def Answers (t : Jint → Status (Object × Events)) :
    Call Object Events → Result Object Events → Prop
  | .add _ _, r =>
    (∃ n, r.returned = some n ∧ t n = .free) ∧ r.thrown = [] ∧ r.ran = [] ∧
      r.destroyed = .null
  | .kill n, r =>
    r.returned = none ∧ r.ran = [] ∧
      match t n with
      | .live (object, events) =>
        r.thrown = [] ∧ r.destroyed = ⟨some object, some events⟩
      | .killed => r.thrown = [] ∧ r.destroyed = .null
      | .free =>
        (if n = 0 then r.thrown = [] else ThrowsOne .illegalStateException r.thrown) ∧
          r.destroyed = .null
  | .finalize n, r =>
    r.returned = none ∧ r.ran = [] ∧ r.destroyed = .null ∧
      match t n with
      | .live _ => ThrowsOne .illegalStateException r.thrown
      | .killed => r.thrown = []
      | .free => if n = 0 then r.thrown = [] else ThrowsOne .illegalStateException r.thrown
  | .withInstance n, r =>
    r.returned = none ∧ r.destroyed = .null ∧
      match t n with
      | .live pair => r.ran = [pair] ∧ r.thrown = []
      | .killed => r.ran = [] ∧ ThrowsOne .toxKilledException r.thrown
      | .free => r.ran = [] ∧ ThrowsOne .illegalStateException r.thrown

/-- The call does not push a slot onto a table that has no room for its number. -/
def HasRoom (m : InstanceManager Object Events) : Call Object Events → Prop
  | .add _ _ => m.freelist = [] → m.instances.length + 1 < 2 ^ 31
  | _ => True

/-- The call `c` takes `m` to `m'` with the result `r`: the invariant is kept, the tables of
`m` and `m'` differ by the event of the call, the call answers by the table of `m`, the table of
slots grows only under an `add` with an empty freelist, and a call that throws changes
nothing. -/
structure Does (m : InstanceManager Object Events) (c : Call Object Events)
    (m' : InstanceManager Object Events) (r : Result Object Events) : Prop where
  exec : m.exec c = .ok (m', r)
  wellFormed : m'.WellFormed
  status : m'.status = ((event (c, r)).map (HandleTable.apply m.status)).getD m.status
  answers : Answers m.status c r
  grows : m'.instances.length = m.instances.length ∨
    m'.instances.length = m.instances.length + 1 ∧ m.freelist = []
  throws : r.thrown ≠ [] → m' = m

/-! ### One call -/

section OneCall

variable (h : m.WellFormed)
include h

/-- `add` of two pointers returns a number, and makes it live. No assertion fails, as long as there
is room for a slot. -/
theorem exec_add (object : Object) (events : Events) (hroom : m.HasRoom (.add object events)) :
    ∃ m' r, Does m (.add object events) m' r := by
  cases hfl : m.freelist.getLast? with
  | some n =>
      have hadd := add_reuse h hfl object events
      refine ⟨_, { returned := some n }, ?_, h.reuse hfl object events, ?_, ?_, Or.inl ?_,
        fun hne => absurd rfl hne⟩
      · simp [exec, hadd, bind, Except.bind, pure, Except.pure]
      · exact h.status_reuse hfl object events
      · exact ⟨⟨n, rfl, status_of_mem (List.mem_of_getLast? hfl)⟩, rfl, rfl, rfl⟩
      · simp
  | none =>
      have hnil : m.freelist = [] := List.getLast?_eq_none_iff.mp hfl
      have hsize := hroom hnil
      have hadd := add_grow h hnil object events
      refine ⟨m.grown object events, { returned := some (Int32.ofNat (m.instances.length + 1)) },
        ?_, h.grown object events hnil hsize, ?_, ?_, Or.inr ⟨?_, hnil⟩,
        fun hne => absurd rfl hne⟩
      · simp [exec, hadd, grown, bind, Except.bind, pure, Except.pure]
      · exact WellFormed.status_grown object events hnil hsize
      · exact ⟨⟨_, rfl, status_of_not_inRange (WellFormed.not_inRange_new hsize)⟩, rfl, rfl, rfl⟩
      · simp [grown]

/-- `kill` of any number returns. It destroys the pair of a live number, and the number is killed
then. -/
theorem exec_kill (n : Jint) : ∃ m' r, Does m (.kill n) m' r := by
  cases hst : m.status n with
  | free =>
      obtain ⟨message, hkill⟩ := kill_refused ⟨[]⟩ (h.status_free_iff.mp hst)
      refine ⟨m, { thrown := (if n = 0 then (⟨[]⟩ : JNIEnv) else
        throwIllegalStateException ⟨[]⟩ n message).thrown }, ?_, h, ?_, ?_, Or.inl rfl,
        fun _ => rfl⟩
      · simp [exec, hkill, bind, Except.bind, pure, Except.pure]
      · simp [event, HandleTable.apply_destroy_eq_self, hst]
      · refine ⟨rfl, rfl, ?_⟩
        rw [hst]
        refine ⟨?_, rfl⟩
        by_cases hn : n = 0
        · simp [hn]
        · simp [hn, ThrowsOne, throwIllegalStateException, throwException]
  | live pair =>
      obtain ⟨object, events⟩ := pair
      obtain ⟨hf, hs⟩ := h.status_live_iff.mp hst
      refine ⟨m.setSlot n .null, { destroyed := ⟨some object, some events⟩ }, ?_,
        h.emptied hs, ?_, ?_, Or.inl (by simp),
        fun hne => absurd rfl hne⟩
      · simp [exec, kill_ok hf hs, bind, Except.bind, pure, Except.pure]
      · simp [event, HandleTable.apply, hst, Status.destroyed, status_emptied hf hs]
      · refine ⟨rfl, rfl, ?_⟩
        rw [hst]
        exact ⟨rfl, rfl⟩
  | killed =>
      obtain ⟨hf, hs⟩ := h.status_killed_iff.mp hst
      refine ⟨m.setSlot n .null, {}, ?_, h.emptied hs, ?_, ?_, Or.inl (by simp),
        fun hne => absurd rfl hne⟩
      · simp [exec, kill_ok hf hs, bind, Except.bind, pure, Except.pure]
      · simp [event, HandleTable.apply, hst, Status.destroyed, status_emptied hf hs]
      · refine ⟨rfl, rfl, ?_⟩
        rw [hst]
        exact ⟨rfl, rfl⟩

/-- `finalize` of any number returns. It frees a killed number. -/
theorem exec_finalize (n : Jint) : ∃ m' r, Does m (.finalize n) m' r := by
  cases hst : m.status n with
  | free =>
      obtain ⟨message, hfin⟩ := finalize_refused ⟨[]⟩ (h.status_free_iff.mp hst)
      refine ⟨m, { thrown := (if n = 0 then (⟨[]⟩ : JNIEnv) else
        throwIllegalStateException ⟨[]⟩ n message).thrown }, ?_, h, ?_, ?_, Or.inl rfl,
        fun _ => rfl⟩
      · simp [exec, hfin, bind, Except.bind, pure, Except.pure]
      · simp [event, HandleTable.apply_release_eq_self, hst]
      · refine ⟨rfl, rfl, rfl, ?_⟩
        rw [hst]
        by_cases hn : n = 0
        · simp [hn]
        · simp [hn, ThrowsOne, throwIllegalStateException, throwException]
  | live pair =>
      obtain ⟨object, events⟩ := pair
      obtain ⟨hf, hs⟩ := h.status_live_iff.mp hst
      refine ⟨m, { thrown := (throwIllegalStateException ⟨[]⟩ n
        ("Leaked Tox instance #" ++ toString n)).thrown }, ?_, h, ?_, ?_, Or.inl rfl, fun _ => rfl⟩
      · simp [exec, finalize_pair hf hs, bind, Except.bind, pure, Except.pure]
      · simp [event, HandleTable.apply_release_eq_self, hst]
      · refine ⟨rfl, rfl, rfl, ?_⟩
        rw [hst]
        simp [ThrowsOne, throwIllegalStateException, throwException]
  | killed =>
      obtain ⟨hf, hs⟩ := h.status_killed_iff.mp hst
      refine ⟨{ m with freelist := m.freelist ++ [n] }, {}, ?_, h.released hf hs, ?_, ?_,
        Or.inl rfl, fun hne => absurd rfl hne⟩
      · simp [exec, finalize_null hf hs, bind, Except.bind, pure, Except.pure]
      · simp [event, HandleTable.apply, hst, Status.released, status_released]
      · refine ⟨rfl, rfl, rfl, ?_⟩
        rw [hst]

/-- `with_instance` on any number returns. It runs `func` exactly on a live number. -/
theorem exec_withInstance (n : Jint) : ∃ m' r, Does m (.withInstance n) m' r := by
  cases hst : m.status n with
  | free =>
      obtain ⟨message, hwith⟩ := withInstance_refused recordRun [] (h.status_free_iff.mp hst)
      refine ⟨m, { thrown := (throwIllegalStateException ⟨[]⟩ n message).thrown }, ?_, h, rfl,
        ?_, Or.inl rfl, fun _ => rfl⟩
      · simp [exec, hwith, bind, Except.bind, pure, Except.pure]
      · refine ⟨rfl, rfl, ?_⟩
        rw [hst]
        simp [ThrowsOne, throwIllegalStateException, throwException]
  | live pair =>
      obtain ⟨object, events⟩ := pair
      obtain ⟨hf, hs⟩ := h.status_live_iff.mp hst
      refine ⟨m, { ran := [(object, events)] }, ?_, h, rfl, ?_, Or.inl rfl, fun _ => rfl⟩
      · simp [exec, withInstance_pair recordRun [] hf hs, recordRun, bind, Except.bind, pure,
          Except.pure]
      · refine ⟨rfl, rfl, ?_⟩
        rw [hst]
        exact ⟨rfl, rfl⟩
  | killed =>
      obtain ⟨hf, hs⟩ := h.status_killed_iff.mp hst
      refine ⟨m, { thrown := (throwToxKilledException ⟨[]⟩ n
        "function called on killed tox instance").thrown }, ?_, h, rfl, ?_, Or.inl rfl,
        fun _ => rfl⟩
      · simp [exec, withInstance_null recordRun [] hf hs, bind, Except.bind, pure, Except.pure]
      · refine ⟨rfl, rfl, ?_⟩
        rw [hst]
        simp [ThrowsOne, throwToxKilledException, throwException]

/-- Every call for which there is room returns, and does what the table says. -/
theorem exec_does (c : Call Object Events) (hroom : m.HasRoom c) : ∃ m' r, Does m c m' r := by
  cases c with
  | add object events => exact exec_add h object events hroom
  | kill n => exact exec_kill h n
  | finalize n => exact exec_finalize h n
  | withInstance n => exact exec_withInstance h n

end OneCall

/-! ### Runs -/

/-- The pushed slots are the only ones that need room, so a call that ended below `2 ^ 31`
slots had room. -/
theorem hasRoom_of_exec (h : m.WellFormed) {c : Call Object Events} {r : Result Object Events}
    (hexec : m.exec c = .ok (m', r)) (hsize : m'.instances.length < 2 ^ 31) : m.HasRoom c := by
  cases c with
  | add object events =>
      intro hnil
      have hgrow := add_grow h hnil object events
      simp only [exec, hgrow, bind, Except.bind, pure, Except.pure, Except.ok.injEq,
        Prod.mk.injEq] at hexec
      obtain ⟨rfl, -⟩ := hexec
      simpa using hsize
  | kill n => trivial
  | finalize n => trivial
  | withInstance n => trivial

/-- One step of a run does what the table says. -/
theorem does_of_step (h : m.WellFormed) {l : Call Object Events × Result Object Events}
    (hstep : calls.step m l m') : Does m l.1 m' l.2 := by
  obtain ⟨c, r⟩ := l
  obtain ⟨hexec, hsize⟩ := hstep
  obtain ⟨m'', r'', hdoes⟩ := exec_does h c (hasRoom_of_exec h hexec hsize)
  obtain ⟨rfl, rfl⟩ : m'' = m' ∧ r'' = r := by
    have := hdoes.exec.symm.trans hexec
    simpa using this
  exact hdoes

/-- The table after one more call is the table before with the event of this call. -/
theorem table_append (hist : List (Call Object Events × Result Object Events))
    (l : Call Object Events × Result Object Events) :
    table (hist ++ [l]) = ((event l).map (HandleTable.apply (table hist))).getD (table hist) := by
  cases he : event l with
  | none => simp [table, he]
  | some e => simp [table, he, HandleTable.after]

/-- After every run the invariant holds and the manager stands for the table of its history. -/
theorem status_eq_table {hist : List (Call Object Events × Result Object Events)}
    (run : calls.Run m hist) : m.WellFormed ∧ m.status = table hist := by
  refine run.invariant (I := fun m hist => m.WellFormed ∧ m.status = table hist) ?_ ?_
  · rintro m rfl
    exact ⟨wellFormed_empty, by simp [status_empty, table]⟩
  · rintro m hist l m' ⟨hwf, hst⟩ hstep
    have hdoes := does_of_step hwf hstep
    refine ⟨hdoes.wellFormed, ?_⟩
    rw [hdoes.status, hst, table_append]

/-! ### No pair is lost -/

/-- The two pointers of a slot that is not empty. -/
def pair (p : InstancePointers Object Events) : Option (Object × Events) :=
  match p with
  | ⟨some object, some events⟩ => some (object, events)
  | _ => none

/-- The pairs that were handed over to `add`. -/
def handedOver (hist : List (Call Object Events × Result Object Events)) :
    List (Object × Events) :=
  hist.filterMap fun l =>
    match l.1 with
    | .add object events => some (object, events)
    | _ => none

/-- The pairs that were destroyed. -/
def destroyed (hist : List (Call Object Events × Result Object Events)) :
    List (Object × Events) :=
  hist.filterMap fun l => pair l.2.destroyed

/-- The pairs in the slots. -/
def held (m : InstanceManager Object Events) : List (Object × Events) :=
  m.instances.filterMap pair

/-- An empty slot holds no pair. -/
@[simp] theorem pair_null : pair (.null : InstancePointers Object Events) = none := rfl

/-- A slot with two pointers holds this pair. -/
@[simp] theorem pair_some (object : Object) (events : Events) :
    pair ⟨some object, some events⟩ = some (object, events) := rfl

/-- What one call destroyed. -/
@[simp] theorem destroyed_singleton (l : Call Object Events × Result Object Events) :
    destroyed [l] = (pair l.2.destroyed).toList := by
  cases h : pair l.2.destroyed <;> simp [destroyed, h]

/-- The pairs of a list, with those of one element in front. -/
theorem filterMap_pair_middle (x : InstancePointers Object Events)
    (xs ys : List (InstancePointers Object Events)) :
    (xs ++ x :: ys).filterMap pair ~ (pair x).toList ++ (xs ++ ys).filterMap pair := by
  have hmid : xs ++ x :: ys ~ x :: (xs ++ ys) := List.perm_middle
  refine (hmid.filterMap pair).trans ?_
  cases hx : pair x <;> simp [hx]

/-- A store exchanges the pair of the slot for the new one. -/
theorem held_setSlot {q : InstancePointers Object Events} (hs : m.slot n = .ok q)
    (p : InstancePointers Object Events) :
    (pair q).toList ++ (m.setSlot n p).held ~ (pair p).toList ++ m.held := by
  obtain ⟨xs, ys, hm, hset⟩ := instances_split hs
  unfold held
  rw [hset, hm]
  have hp := (filterMap_pair_middle p xs ys).append_left (pair q).toList
  have hq := (filterMap_pair_middle q xs ys).append_left (pair p).toList
  have hswap : (pair q).toList ++ ((pair p).toList ++ (xs ++ ys).filterMap pair)
      ~ (pair p).toList ++ ((pair q).toList ++ (xs ++ ys).filterMap pair) := by
    rw [← List.append_assoc, ← List.append_assoc]
    exact List.perm_append_comm.append_right _
  exact hp.trans (hswap.trans hq.symm)

/-- `add` puts the pair that is handed over into a slot: an empty one, or a new one. -/
theorem held_add (h : m.WellFormed) {object : Object} {events : Events}
    {r : Result Object Events} (hexec : m.exec (.add object events) = .ok (m', r)) :
    m'.held ~ (object, events) :: m.held ∧ r.destroyed = .null := by
  cases hfl : m.freelist.getLast? with
  | some n =>
      have hadd := add_reuse h hfl object events
      have hempty := h.free_empty n (List.mem_of_getLast? hfl)
      simp only [exec, hadd, bind, Except.bind, pure, Except.pure, Except.ok.injEq,
        Prod.mk.injEq] at hexec
      obtain ⟨rfl, rfl⟩ := hexec
      have hslot : slot { m with freelist := m.freelist.dropLast } n = .ok .null :=
        (slot_congr rfl).trans hempty
      exact ⟨held_setSlot hslot ⟨some object, some events⟩, rfl⟩
  | none =>
      have hnil : m.freelist = [] := List.getLast?_eq_none_iff.mp hfl
      have hadd := add_grow h hnil object events
      simp only [exec, hadd, bind, Except.bind, pure, Except.pure, Except.ok.injEq,
        Prod.mk.injEq] at hexec
      obtain ⟨rfl, rfl⟩ := hexec
      refine ⟨?_, rfl⟩
      simp [held]

/-- `kill` takes the pair that it destroys out of its slot. -/
theorem held_kill {n : Jint} {r : Result Object Events}
    (hexec : m.exec (.kill n) = .ok (m', r)) :
    m.held ~ (pair r.destroyed).toList ++ m'.held := by
  by_cases hfree : ¬ m.InRange n ∨ n ∈ m.freelist
  · obtain ⟨message, hkill⟩ := kill_refused ⟨[]⟩ hfree
    simp only [exec, hkill, bind, Except.bind, pure, Except.pure, Except.ok.injEq,
      Prod.mk.injEq] at hexec
    obtain ⟨rfl, rfl⟩ := hexec
    exact .refl _
  · obtain ⟨hr, hf⟩ := not_or.mp hfree
    obtain ⟨p, -, hs⟩ := slot_of_inRange (not_not.mp hr)
    simp only [exec, kill_ok hf hs, bind, Except.bind, pure, Except.pure, Except.ok.injEq,
      Prod.mk.injEq] at hexec
    obtain ⟨rfl, rfl⟩ := hexec
    exact (held_setSlot hs .null).symm

/-- `finalize` keeps all pairs. -/
theorem held_finalize {n : Jint} {r : Result Object Events}
    (hexec : m.exec (.finalize n) = .ok (m', r)) : m'.held = m.held ∧ r.destroyed = .null := by
  unfold exec at hexec
  cases hfin : m.finalize ⟨[]⟩ n with
  | error f => simp [hfin, bind, Except.bind] at hexec
  | ok res =>
      obtain ⟨m1, env⟩ := res
      simp only [hfin, bind, Except.bind, pure, Except.pure, Except.ok.injEq,
        Prod.mk.injEq] at hexec
      obtain ⟨rfl, rfl⟩ := hexec
      exact ⟨by rw [held, held, instances_finalize hfin], rfl⟩

/-- `with_instance` keeps all pairs. -/
theorem held_withInstance {n : Jint} {r : Result Object Events}
    (hexec : m.exec (.withInstance n) = .ok (m', r)) : m' = m ∧ r.destroyed = .null := by
  unfold exec at hexec
  cases hwith : m.withInstance ⟨[]⟩ n recordRun [] with
  | error f => simp [hwith, bind, Except.bind] at hexec
  | ok res =>
      obtain ⟨⟨⟩, env, ran⟩ := res
      simp only [hwith, bind, Except.bind, pure, Except.pure, Except.ok.injEq,
        Prod.mk.injEq] at hexec
      obtain ⟨rfl, rfl⟩ := hexec
      exact ⟨rfl, rfl⟩

/-- One call hands over a pair that it puts into a slot, or destroys a pair that it takes out
of a slot, or leaves the pairs alone. -/
theorem held_step (h : m.WellFormed) {l : Call Object Events × Result Object Events}
    (hstep : calls.step m l m') :
    handedOver [l] ++ m.held ~ destroyed [l] ++ m'.held := by
  obtain ⟨c, r⟩ := l
  have hexec : m.exec c = .ok (m', r) := hstep.1
  cases c with
  | add object events =>
      obtain ⟨hheld, hnull⟩ := held_add h hexec
      simpa [handedOver, hnull] using hheld.symm
  | kill n => simpa [handedOver] using held_kill hexec
  | finalize n =>
      obtain ⟨hheld, hnull⟩ := held_finalize hexec
      simp [handedOver, hheld, hnull]
  | withInstance n =>
      obtain ⟨hsame, hnull⟩ := held_withInstance hexec
      simp [handedOver, hsame, hnull]

/-- Over a run, the pairs handed over are the pairs destroyed and the pairs in the slots. -/
theorem pairs_conserved {hist : List (Call Object Events × Result Object Events)}
    (run : calls.Run m hist) : handedOver hist ~ destroyed hist ++ m.held := by
  induction run with
  | init h =>
      have hm : _ = empty := h
      simp [hm, handedOver, destroyed, held, empty]
  | @step m m' hist l run hstep ih =>
      have hheld := held_step (status_eq_table run).1 hstep
      have hhand : handedOver (hist ++ [l]) = handedOver hist ++ handedOver [l] := by
        simp [handedOver, List.filterMap_append]
      have hdest : destroyed (hist ++ [l]) = destroyed hist ++ destroyed [l] := by
        simp [destroyed, List.filterMap_append]
      rw [hhand, hdest, List.append_assoc]
      calc handedOver hist ++ handedOver [l]
          ~ destroyed hist ++ m.held ++ handedOver [l] := ih.append_right _
        _ ~ destroyed hist ++ (handedOver [l] ++ m.held) := by
            rw [List.append_assoc]
            exact List.perm_append_comm.append_left _
        _ ~ destroyed hist ++ (destroyed [l] ++ m'.held) := hheld.append_left _

/-! ### Handle safety -/

/-- What holds of the manager `m` after the history `hist`. -/
structure HandleSafe (m : InstanceManager Object Events)
    (hist : List (Call Object Events × Result Object Events)) : Prop where
  /-- The lists are equal in size, and the freelist names distinct empty slots. -/
  wellFormed : m.WellFormed
  /-- A number is free when it is not in `1..size` or is on the freelist. -/
  free_iff : ∀ n, table hist n = .free ↔ ¬ m.InRange n ∨ n ∈ m.freelist
  /-- A number is live when its slot holds the pair of the most recent `add` that returned
  it. -/
  live_iff : ∀ n object events, table hist n = .live (object, events) ↔
    n ∉ m.freelist ∧ m.slot n = .ok ⟨some object, some events⟩
  most_recent : ∀ n pair, table hist n = .live pair →
    HandleTable.lastAllocated (hist.filterMap event) n = some pair
  /-- A number is killed when its slot is empty and it is not on the freelist. -/
  killed_iff : ∀ n, table hist n = .killed ↔ n ∉ m.freelist ∧ m.slot n = .ok .null
  /-- The next call, whatever it is, returns: no assertion fails. It answers by the table.
  It grows the vector only when no number is free, and it changes nothing when it throws. -/
  next : ∀ c, m.HasRoom c → ∃ m' r, m.exec c = .ok (m', r) ∧ Answers (table hist) c r ∧
    (m'.instances.length = m.instances.length ∨
      m'.instances.length = m.instances.length + 1 ∧
        ∀ n, m.InRange n → table hist n ≠ .free) ∧
    (r.thrown ≠ [] → m' = m)
  /-- Each pair handed over was destroyed once, or is in a slot and was not destroyed. -/
  conserved : handedOver hist ~ destroyed hist ++ m.held

/-- Handle safety holds after every run. -/
theorem handleSafe_of_run {hist : List (Call Object Events × Result Object Events)}
    (run : calls.Run m hist) : HandleSafe m hist := by
  obtain ⟨hwf, hst⟩ := status_eq_table run
  refine ⟨hwf, fun n => ?_, fun n object events => ?_, fun n pair hlive => ?_, fun n => ?_,
    fun c hroom => ?_, pairs_conserved run⟩
  · rw [← hst]
    exact hwf.status_free_iff
  · rw [← hst]
    exact hwf.status_live_iff
  · exact HandleTable.lastAllocated_of_live _ hlive
  · rw [← hst]
    exact hwf.status_killed_iff
  · obtain ⟨m', r, hdoes⟩ := exec_does hwf c hroom
    refine ⟨m', r, hdoes.exec, hst ▸ hdoes.answers, hdoes.grows.imp_right ?_, hdoes.throws⟩
    rintro ⟨hlen, hnil⟩
    refine ⟨hlen, fun n hr hfree => ?_⟩
    rw [← hst, hwf.status_free_iff, hnil] at hfree
    exact hfree.elim (absurd hr) (fun h => nomatch h)

/-- A run in which a number is allocated, killed, released and allocated again. -/
theorem handleSafe_of_recycled :
    HandleSafe (⟨[⟨some 7, some 8⟩], [⟨false⟩], []⟩ : InstanceManager Nat Nat)
      [(.add 5 6, { returned := some 1 }), (.kill 1, { destroyed := ⟨some 5, some 6⟩ }),
        (.finalize 1, {}), (.add 7 8, { returned := some 1 })] := by
  have r0 : calls.Run (empty : InstanceManager Nat Nat) [] := .init rfl
  have r1 := r0.step (l := (.add 5 6, { returned := some 1 })) ⟨rfl, by decide⟩
  have r2 := r1.step (l := (.kill 1, { destroyed := ⟨some 5, some 6⟩ })) ⟨rfl, by decide⟩
  have r3 := r2.step (l := (.finalize 1, {})) ⟨rfl, by decide⟩
  have r4 := r3.step (l := (.add 7 8, { returned := some 1 })) ⟨rfl, by decide⟩
  exact handleSafe_of_run r4

end InstanceManager

end Tox4j.Native
