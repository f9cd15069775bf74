import Tox4j.Native.Serial

/-!
# `Tox4j.Native.Using`: the instances that threads are using

From the moment that `with_instance` releases the manager mutex until `func` returns, a thread
uses the pair of its instance (`Frame.using?`). These lemmas say, about the threads of
`Tox4j.Native.Threads` and the sequential manager that they lead to:

* each pair is handed over by one call of `add` (`names_of_reachable`), so no two live numbers
  share a pair (`Linear.live_unique`),
* a step of another thread leaves a number in use as it is (`Linear.status_kept`),
* which steps begin and end a use.
-/

set_option autoImplicit false

namespace Tox4j.Native.Threads

open Tox4j.Lib
open InstanceManager (Call Result index?)

variable {Tid : Type} {t : Tid} {o : Observed Tid}
  {log : OpLog (Call AddId AddId) (Result AddId AddId)}
  {m m' : InstanceManager AddId AddId} {s s' : Shared} {f g : Frame} {r : Option Frame}
  {n k : Jint} {a b : AddId} {result : Result AddId AddId}

/-! ### The pairs of the calls of `add` -/

/-- No step of a call hands over a pair. -/
theorem adds_advance (hadv : (s', r) ∈ s.advance f) : s'.adds = s.adds := by
  cases f with
  | addChoose id =>
      simp only [Shared.advance] at hadv
      split at hadv
      · obtain ⟨rfl, -⟩ := Prod.mk.inj (List.mem_singleton.mp hadv)
        rfl
      · simp only [List.mem_cons, List.not_mem_nil, or_false, Prod.mk.injEq] at hadv
        rcases hadv with ⟨rfl, -⟩ | ⟨rfl, -⟩ <;> rfl
  | _ =>
      simp only [Shared.advance, Shared.readSlot, Shared.check, Shared.lockManager,
        Shared.lockSlot, Shared.unlockSlot] at hadv
      repeat' split at hadv
      all_goals
        simp only [List.mem_singleton, List.not_mem_nil, Prod.mk.injEq] at hadv
      all_goals
        obtain ⟨rfl, -⟩ := hadv
        rfl

/-- Each pair is that of one call of `add`. -/
structure Names (o : Observed Tid) : Prop where
  named : ∀ op a b, .invoke op (.add a b) ∈ o.history → b = a ∧ a < o.state.shared.adds
  once : ∀ op op' a b b', .invoke op (.add a b) ∈ o.history →
    .invoke op' (.add a b') ∈ o.history → op = op'

/-- The steps of a call start no call. -/
theorem invoke_mem_advance [DecidableEq Tid] {rest : List Frame} {pr : Progress} {op : Nat}
    {c : Call AddId AddId} :
    .invoke op c ∈ (o.advance t rest f pr s' r).history ↔ .invoke op c ∈ o.history := by
  unfold Observed.advance
  cases r <;> simp

/-- No pair of pointers is ever handed over twice, so it names the instance. -/
theorem names_of_reachable [DecidableEq Tid] (h : observed.Reachable o) : Names o := by
  refine h.invariant (I := Names) ?_ ?_
  · rintro o rfl
    exact ⟨fun _ _ _ hmem => absurd hmem List.not_mem_nil,
      fun _ _ _ _ _ hmem => absurd hmem List.not_mem_nil⟩
  · intro o t o' ih hstep
    cases hstep with
    | advance hstack hprogress hadv =>
        refine ⟨fun op a b hmem => ?_, fun op op' a b b' hmem hmem' => ?_⟩
        · rw [invoke_mem_advance] at hmem
          have hadds := adds_advance hadv
          exact ⟨(ih.named op a b hmem).1, hadds ▸ (ih.named op a b hmem).2⟩
        · rw [invoke_mem_advance] at hmem hmem'
          exact ih.once op op' a b b' hmem hmem'
    | call c hcall =>
        cases c with
        | add x y =>
            have hmem_iff {op : Nat} {a b : AddId} :
                .invoke op (.add a b) ∈ (o.call t (.add x y)).history ↔
                  .invoke op (.add a b) ∈ o.history ∨
                    op = o.calls ∧ a = o.state.shared.adds ∧ b = o.state.shared.adds := by
              simp [Observed.call, Shared.named]
            refine ⟨fun op a b hmem => ?_, fun op op' a b b' hmem hmem' => ?_⟩
            · show b = a ∧ a < o.state.shared.adds + 1
              rcases hmem_iff.mp hmem with hold | ⟨-, rfl, rfl⟩
              · obtain ⟨hba, hlt⟩ := ih.named op a b hold
                exact ⟨hba, Nat.lt_succ_of_lt hlt⟩
              · exact ⟨rfl, Nat.lt_succ_self _⟩
            · -- The new name is larger than the names before it.
              rcases hmem_iff.mp hmem with hold | ⟨rfl, ha, -⟩ <;>
                rcases hmem_iff.mp hmem' with hold' | ⟨rfl, ha', -⟩
              · exact ih.once op op' a b b' hold hold'
              · exact absurd (ha' ▸ (ih.named op a b hold).2) (Nat.lt_irrefl _)
              · exact absurd (ha ▸ (ih.named op' a b' hold').2) (Nat.lt_irrefl _)
              · rfl
        | _ =>
            refine ⟨fun op a b hmem => ?_, fun op op' a b b' hmem hmem' => ?_⟩
            · exact ih.named op a b (by simpa [Observed.call, Shared.named] using hmem)
            · exact ih.once op op' a b b' (by simpa [Observed.call, Shared.named] using hmem)
                (by simpa [Observed.call, Shared.named] using hmem')

/-- A live number was made by a call of `add` that took effect. -/
theorem Linear.live_added (h : Linear o log m) (hnames : Names o)
    (hn : m.status n = .live (a, b)) : b = a ∧ ∃ op res, (op, .add a a, res) ∈ log := by
  rw [(InstanceManager.status_eq_table h.run).2] at hn
  obtain ⟨⟨c, res⟩, hmem, hevent⟩ := List.mem_filterMap.mp (HandleTable.mem_of_live _ hn)
  obtain ⟨⟨op, c', res'⟩, hlog, heq⟩ := List.mem_map.mp hmem
  cases heq
  cases c with
  | add x y =>
      obtain ⟨i, -, hi⟩ := Option.map_eq_some_iff.mp hevent
      cases hi
      obtain ⟨rfl, -⟩ := hnames.named op a b (h.orders.invoked op _ _ hlog)
      exact ⟨rfl, op, res, hlog⟩
  | _ => cases hevent

/-- Two live numbers have no pointer in common. -/
theorem Linear.live_unique (h : Linear o log m) (hnames : Names o) {a' b' : AddId}
    (hn : m.status n = .live (a, b)) (hk : m.status k = .live (a', b')) (hne : k ≠ n) :
    a' ≠ a ∧ b' ≠ b := by
  obtain ⟨rfl, -⟩ := h.live_added hnames hn
  obtain ⟨rfl, -⟩ := h.live_added hnames hk
  have hdistinct : b' ≠ b := by
    rintro rfl
    rw [(InstanceManager.status_eq_table h.run).2] at hn hk
    refine hne (HandleTable.live_unique _ ?_ hk hn)
    have honce : log.Pairwise fun e e' => e.1 ≠ e'.1 := List.pairwise_map.mp h.orders.once
    rw [List.pairwise_filterMap, List.pairwise_map]
    refine honce.imp_of_mem ?_
    rintro ⟨op, c, res⟩ ⟨op', c', res'⟩ hmem hmem' hop e he e' he' i j pair rfl rfl
    cases c with
    | add x y =>
        cases c' with
        | add x' y' =>
            obtain ⟨i', -, hi⟩ := Option.map_eq_some_iff.mp he
            obtain ⟨j', -, hj⟩ := Option.map_eq_some_iff.mp he'
            cases hi
            cases hj
            exact hop (hnames.once op op' x y y (h.orders.invoked op _ _ hmem)
              (h.orders.invoked op' _ _ hmem'))
        | _ => cases he'
    | _ => cases he
  exact ⟨hdistinct, hdistinct⟩

/-! ### The pair that a thread uses -/

/-- The number and the pair that the thread uses, outside of the manager mutex or just before it
releases it. -/
def Frame.using? : Frame → Option (Jint × AddId × AddId)
  | .withUnlock n (some object) (some events) | .withTest n (some object) (some events)
  | .withFunc n object events => some (n, object, events)
  | _ => none

namespace Frame

variable {u : Jint × AddId × AddId} {res : Result AddId AddId} {c : Call AddId AddId}

/-- A thread that uses a number holds the mutex of its slot. -/
theorem lock?_of_using? (h : f.using? = some u) : f.lock? = index? u.1 := by
  cases f with
  | withUnlock n object events | withTest n object events =>
      cases object <;> cases events <;> cases h
      rfl
  | withFunc n object events =>
      cases h
      rfl
  | _ => cases h

/-- The call has taken effect in the manager. -/
theorem outcome_of_using? (h : f.using? = some u) : f.outcome result ≠ none := by
  cases f with
  | withUnlock n object events | withTest n object events =>
      cases object <;> cases events <;> cases h
      exact Option.some_ne_none _
  | withFunc n object events => exact Option.some_ne_none _
  | _ => cases h

/-- The use goes on until `func` returns. -/
theorem using?_advance (h : f.using? = some u) (hfunc : ∀ n a b, f ≠ .withFunc n a b)
    (hadv : (s', r) ∈ s.advance f) : ∃ g, r = some g ∧ g.using? = some u := by
  cases f with
  | withUnlock n object events | withTest n object events =>
      cases object <;> cases events <;> cases h
      simp only [Shared.advance, List.mem_singleton, Prod.mk.injEq] at hadv
      obtain ⟨-, rfl⟩ := hadv
      exact ⟨_, rfl, rfl⟩
  | withFunc n object events => exact absurd rfl (hfunc n object events)
  | _ => cases h

/-- A call that uses nothing after the step used nothing before it. -/
theorem using?_eq_none_of_advance (hfunc : ∀ n a b, f ≠ .withFunc n a b)
    (hadv : (s', r) ∈ s.advance f) (hafter : ∀ g, r = some g → g.using? = none) :
    f.using? = none := by
  by_contra hne
  obtain ⟨u, hu⟩ := Option.ne_none_iff_exists'.mp hne
  obtain ⟨g, hg, hsome⟩ := using?_advance hu hfunc hadv
  cases (hafter g hg).symm.trans hsome

/-- A step after the call took effect does not begin a use. -/
theorem using?_of_advance (hadv : (s', some g) ∈ s.advance f) (hg : g.using? = some u)
    (hf : f.outcome result ≠ none) : f.using? = some u := by
  cases f with
  | withUnlock n object events =>
      simp only [Shared.advance, List.mem_singleton, Prod.mk.injEq, Option.some.injEq] at hadv
      obtain ⟨-, rfl⟩ := hadv
      cases object <;> cases events <;> cases hg
      rfl
  | withTest n object events =>
      cases object <;> cases events
      all_goals
        simp only [Shared.advance, List.mem_singleton, List.not_mem_nil, Prod.mk.injEq,
          Option.some.injEq] at hadv
      · obtain ⟨-, rfl⟩ := hadv
        cases hg
      · obtain ⟨-, rfl⟩ := hadv
        cases hg
        rfl
  | withFunc n object events =>
      simp only [Shared.advance, List.mem_singleton, Prod.mk.injEq, Option.some.injEq] at hadv
      obtain ⟨-, rfl⟩ := hadv
      cases hg
  | killUnlockSlot n =>
      obtain ⟨i, -, -, hr⟩ := Shared.mem_unlockSlot.mp hadv
      cases hr
      cases hg
  | withUnlockSlot n =>
      obtain ⟨i, -, -, hr⟩ := Shared.mem_unlockSlot.mp hadv
      cases hr
  | killDestroyEvents n object events | killDestroyObject n object =>
      simp only [Shared.advance, List.mem_singleton, Prod.mk.injEq, Option.some.injEq] at hadv
      obtain ⟨-, rfl⟩ := hadv
      cases hg
  | addUnlock | killUnlock | finalizeUnlock | withRefused =>
      simp only [Shared.advance, List.mem_singleton, Prod.mk.injEq] at hadv
      cases hadv.2
  | _ => exact absurd rfl hf

end Frame

section

variable {c : Call AddId AddId} {base : InstanceManager AddId AddId} {res : Result AddId AddId}
  {u : Jint × AddId × AddId}

/-- A call of the manager runs `func` exactly when it is a `with_instance` on a live number. -/
theorem ran_cases (hdoes : InstanceManager.Does m c m' res) : res.ran = [] ∨
    ∃ n a b, c = .withInstance n ∧ m.status n = .live (a, b) ∧ res.ran = [(a, b)] ∧ m' = m := by
  have hanswers := hdoes.answers
  cases c with
  | add x y => exact .inl hanswers.2.2.1
  | kill n => exact .inl hanswers.2.1
  | finalize n => exact .inl hanswers.2.1
  | withInstance n =>
      have hsame : m' = m := by
        have hexec := hdoes.exec
        simp only [InstanceManager.exec] at hexec
        cases hwith : m.withInstance ⟨[]⟩ n InstanceManager.recordRun [] with
        | error fatal => simp [hwith, bind, Except.bind] at hexec
        | ok x =>
            simp only [hwith, bind, Except.bind, pure, Except.pure, Except.ok.injEq,
              Prod.mk.injEq] at hexec
            exact hexec.1.symm
      obtain ⟨-, -, hstatus⟩ := hanswers
      cases hn : m.status n with
      | free =>
          rw [hn] at hstatus
          exact .inl hstatus.1
      | killed =>
          rw [hn] at hstatus
          exact .inl hstatus.1
      | live pair =>
          rw [hn] at hstatus
          exact .inr ⟨n, pair.1, pair.2, rfl, hn, hstatus.1, hsame⟩

/-- A call that takes effect and will run `func` begins to use its number. -/
theorem begins_use (hagrees : f.Agrees m base c) (hdoes : InstanceManager.Does m c m' res)
    (hran : res.ran ≠ []) (hf : f.outcome {} = none)
    (hg : g.outcome (f.observe s s' {}) = some res) (hadv : (s', some g) ∈ s.advance f) :
    ∃ n a b, g.using? = some (n, a, b) ∧ c = .withInstance n ∧ m.status n = .live (a, b) ∧
      m' = m := by
  obtain ⟨n, a, b, rfl, hn, hpair, hsame⟩ := (ran_cases hdoes).resolve_left hran
  refine ⟨n, a, b, ?_, rfl, hn, hsame⟩
  -- Only the read of the second pointer can be the step. Before it the number is refused or there
  -- is no outcome yet, behind it the call has taken effect, and the other calls run no `func`.
  cases f with
  | withLock k =>
      obtain ⟨-, -, hr⟩ := Shared.mem_lockManager.mp hadv
      cases hr
      cases hg
  | withCheck k =>
      obtain ⟨-, hr⟩ := Shared.mem_check.mp hadv
      split at hr
      · cases hr
        cases hg
      · cases hr
        cases hg
        exact absurd rfl hran
  | withLockSlot k =>
      obtain ⟨i, -, -, -, hr⟩ := Shared.mem_lockSlot.mp hadv
      cases hr
      cases hg
  | withObject k =>
      obtain ⟨x, -, hadv⟩ := Shared.mem_readSlot.mp hadv
      simp only [List.mem_singleton, Prod.mk.injEq, Option.some.injEq] at hadv
      obtain ⟨-, rfl⟩ := hadv
      cases hg
  | withEvents k object =>
      obtain ⟨x, -, hadv⟩ := Shared.mem_readSlot.mp hadv
      simp only [List.mem_singleton, Prod.mk.injEq, Option.some.injEq] at hadv
      obtain ⟨-, rfl⟩ := hadv
      obtain ⟨hk, -, -⟩ := hagrees
      cases hk
      cases object with
      | none =>
          cases hg
          exact absurd rfl hran
      | some object =>
          cases hevents : x.eventsP with
          | none =>
              rw [hevents] at hg
              cases hg
              exact absurd rfl hran
          | some events =>
              rw [hevents] at hg
              cases hg
              have hpair : [(object, events)] = [(a, b)] := hpair
              simp only [List.cons.injEq, Prod.mk.injEq, and_true] at hpair
              obtain ⟨rfl, rfl⟩ := hpair
              rfl
  | addLock id => cases hagrees
  | addChoose id | addTest k id | addObject k id | addEvents k id | addRelocate id =>
      cases hagrees.1
  | addEmplace =>
      obtain ⟨id, hid, -⟩ := hagrees
      cases hid
  | killLock k | finalizeLock k => cases hagrees
  | killCheck k | killLockSlot k | killObject k | killEvents k object | finalizeCheck k
  | finalizeTest k | finalizePush k => cases hagrees.1
  | _ => cases hf

/-- A call that takes effect and will not run `func` does not begin to use a number. -/
theorem begins_no_use (hf : f.outcome result = none) (hg : g.using? = some u)
    (hadv : (s', some g) ∈ s.advance f) (hout : g.outcome (f.observe s s' result) = some res) :
    res.ran ≠ [] := by
  cases f with
  | withEvents n object =>
      obtain ⟨x, -, hadv⟩ := Shared.mem_readSlot.mp hadv
      simp only [List.mem_singleton, Prod.mk.injEq, Option.some.injEq] at hadv
      obtain ⟨-, rfl⟩ := hadv
      cases object with
      | none => cases hg
      | some object =>
          cases hevents : x.eventsP with
          | none =>
              rw [hevents] at hg
              cases hg
          | some events =>
              rw [hevents] at hout
              cases hout
              exact List.append_ne_nil_of_right_ne_nil _ (List.cons_ne_nil _ _)
  | addUnlock | killUnlockSlot | killUnlock | finalizeUnlock | withRefused | withFunc
  | withUnlockSlot | killDestroyEvents | killDestroyObject | withUnlock | withTest => cases hf
  | addChoose id =>
      simp only [Shared.advance] at hadv
      split at hadv
      · simp only [List.mem_singleton, Prod.mk.injEq, Option.some.injEq] at hadv
        obtain ⟨-, rfl⟩ := hadv
        cases hg
      · simp only [List.mem_cons, List.not_mem_nil, or_false, Prod.mk.injEq,
          Option.some.injEq] at hadv
        rcases hadv with ⟨-, rfl⟩ | ⟨-, rfl⟩ <;> cases hg
  | _ =>
      simp only [Shared.advance, Shared.readSlot, Shared.check, Shared.lockManager,
        Shared.lockSlot] at hadv
      repeat' split at hadv
      all_goals
        simp only [List.mem_singleton, List.not_mem_nil, Prod.mk.injEq, Option.some.injEq] at hadv
      all_goals
        obtain ⟨-, rfl⟩ := hadv
        cases hg

/-- A number that another thread uses keeps its pair: only the thread with the mutex of its slot
can kill it, and only a killed number becomes free. -/
theorem status_kept (hwf : m.WellFormed) (hagrees : f.Agrees m s.settled c)
    (hsim : Simulates s s' m m' c f result r) (hadv : (s', r) ∈ s.advance f)
    (hsize : s'.settled.instances.length < 2 ^ 31) (hn : m.status n = .live (a, b))
    (hlock : f.lock? ≠ index? n) : m'.status n = .live (a, b) := by
  cases hsim.moves with
  | waits hr hf hg hm hresult => rw [hm, hn]
  | goes hr hf hg hm => rw [hm, hn]
  | returns hr hf hresult hm => rw [hm, hn]
  | @commits g res hr hf hexec hg hm =>
      obtain ⟨m₁, res₁, hdoes⟩ := InstanceManager.exec_does hwf c
        (InstanceManager.hasRoom_of_exec hwf hexec (hm ▸ hsize))
      cases hdoes.exec.symm.trans hexec
      have hstatus := hdoes.status
      have hanswers := hdoes.answers
      cases c with
      | add x y =>
          obtain ⟨k, hk, hfree⟩ := hanswers.1
          have hne : n ≠ k := by
            rintro rfl
            rw [hn] at hfree
            cases hfree
          simp [hstatus, InstanceManager.event, hk, HandleTable.apply, hne, hn]
      | withInstance k => simp [hstatus, InstanceManager.event, hn]
      | finalize k =>
          by_cases hk : n = k
          · subst hk
            simp [hstatus, InstanceManager.event, HandleTable.apply, hn, Status.released]
          · simp [hstatus, InstanceManager.event, HandleTable.apply, hk, hn]
      | kill k =>
          by_cases hk : n = k
          · subst hk
            subst hr
            cases f with
            | killLock k =>
                obtain ⟨-, -, hr⟩ := Shared.mem_lockManager.mp hadv
                cases hr
                cases hg
            | killCheck k =>
                -- Only a refused number makes the step take effect, and then nothing changes.
                obtain ⟨rfl, -⟩ := Shared.mem_check.mp hadv
                rw [hm, ← hagrees.2, hn]
            | killLockSlot k =>
                obtain ⟨i, -, -, -, hr⟩ := Shared.mem_lockSlot.mp hadv
                cases hr
                cases hg
            | killObject k =>
                obtain ⟨x, -, hadv⟩ := Shared.mem_readSlot.mp hadv
                simp only [List.mem_singleton, Prod.mk.injEq, Option.some.injEq] at hadv
                obtain ⟨-, rfl⟩ := hadv
                cases hg
            | killEvents k object =>
                obtain ⟨hk, -⟩ := hagrees
                cases hk
                exact absurd rfl hlock
            | addLock id => cases hagrees
            | addChoose id | addTest k id | addObject k id | addEvents k id | addRelocate id =>
                cases hagrees.1
            | addEmplace =>
                obtain ⟨id, hid, -⟩ := hagrees
                cases hid
            | withLock k | finalizeLock k => cases hagrees
            | withCheck k | withLockSlot k | withObject k | withEvents k object | finalizeCheck k
            | finalizeTest k | finalizePush k => cases hagrees.1
            | _ => cases hf
          · simp [hstatus, InstanceManager.event, HandleTable.apply, hk, hn]

end

end Tox4j.Native.Threads
