import Tox4j.Native.Simulation

/-!
# `Tox4j.Native.Linearization`: the interleavings refine the sequential manager

`Linear o log m` is the invariant of the observed interleavings: the calls that took effect,
in the order in which they did (`log`), are a run of the sequential manager to `m`, and `m`
is the memory whenever no thread holds the manager mutex. `Linear.call` and `Linear.advance`
say that every step keeps it.

So every history of overlapping calls is a history of calls one after the other
(`linearizable_of_reachable`), and what is known of the sequential manager holds in it:
every result is the answer of the table of handles that the calls before it lead to, the memory is
what that table says, and no pair is lost (`answersInOrder_of_reachable`).
-/

set_option autoImplicit false

namespace Tox4j.Native.Threads

open Tox4j.Lib
open scoped List
open InstanceManager (Call Result)

variable {s s' : Shared} {f : Frame} {r : Option Frame}
variable {Tid : Type} {t : Tid} {o o' : Observed Tid}
  {log log' : OpLog (Call AddId AddId) (Result AddId AddId)}
  {history history' : List (Action (Call AddId AddId) (Result AddId AddId))}
  {m m' base base' : InstanceManager AddId AddId} {x : Frame × Progress}

/-- The calls in progress, with their points. -/
def Observed.inProgress (o : Observed Tid) (p : Tid × Nat) : Option (Frame × Progress) :=
  (o.state.frameAt p).bind fun f => (o.progress p).map fun pr => (f, pr)

/-- What is known of a call in progress. -/
structure Tracks (m base : InstanceManager AddId AddId)
    (log : OpLog (Call AddId AddId) (Result AddId AddId))
    (history : List (Action (Call AddId AddId) (Result AddId AddId))) (x : Frame × Progress) :
    Prop where
  agrees : x.1.Agrees m base x.2.call
  invoked : .invoke x.2.op x.2.call ∈ history
  pending : x.1.outcome x.2.result = none → x.2.result = {} ∧ x.2.op ∉ log.map Prod.fst
  committed : ∀ res, x.1.outcome x.2.result = some res → (x.2.op, x.2.call, res) ∈ log

/-- The calls that took effect, in the order in which they did, are a run of the sequential
manager to `m`. -/
structure Linear (o : Observed Tid) (log : OpLog (Call AddId AddId) (Result AddId AddId))
    (m : InstanceManager AddId AddId) : Prop where
  run : InstanceManager.calls.Run m (log.map Prod.snd)
  orders : Linearizes log o.history
  idle : o.state.shared.mutex.locked = false → m = o.state.shared.settled
  tracks : Every o.inProgress (Tracks m o.state.shared.settled log o.history)
  distinct : Exclusive o.inProgress fun x op => x.2.op = op
  fresh : ∀ op c, .invoke op c ∈ o.history → op < o.calls

/-- What is known of a call stays true, when the other threads only add to the log and to the
history. -/
theorem Tracks.mono (h : Tracks m base log history x) (hagrees : x.1.Agrees m' base' x.2.call)
    (hlog : ∀ e ∈ log, e ∈ log') (hhistory : ∀ a ∈ history, a ∈ history')
    (hnew : x.2.op ∉ log.map Prod.fst → x.2.op ∉ log'.map Prod.fst) :
    Tracks m' base' log' history' x where
  agrees := hagrees
  invoked := hhistory _ h.invoked
  pending hout := ⟨(h.pending hout).1, hnew (h.pending hout).2⟩
  committed res hout := hlog _ (h.committed res hout)

/-- Before the first call the order is empty. -/
theorem linear_initial : Linear (Observed.initial : Observed Tid) [] InstanceManager.empty where
  run := .init rfl
  orders := .nil
  idle _ := rfl
  tracks p x h := by cases h
  distinct p q x y a h := by cases h
  fresh op c h := absurd h List.not_mem_nil

/-- The number of a new call is not in the log. -/
theorem Linear.notMem_log (h : Linear o log m) : o.calls ∉ log.map Prod.fst := by
  intro hmem
  obtain ⟨⟨op, c, res⟩, hlog, hop⟩ := List.mem_map.mp hmem
  have hlt := h.fresh op c (h.orders.invoked op c res hlog)
  have hop : op = o.calls := hop
  omega

/-- The step of a call is simulated by the sequential manager. -/
theorem Linear.simulates {rest : List Frame} {pr : Progress} (h : Linear o log m)
    (hl : Locks o.state.shared o.state.frameAt) (hpairs : Pairs o.state.shared o.state.frameAt)
    (hstack : o.state.stack t = rest ++ [f]) (hprogress : o.progress (t, rest.length) = some pr)
    (hadv : (s', r) ∈ o.state.shared.advance f) :
    ∃ m', Simulates o.state.shared s' m m' pr.call f pr.result r := by
  have hplace : o.state.frameAt (t, rest.length) = some f := by
    simp [State.frameAt, hstack]
  have hx := h.tracks (t, rest.length) (f, pr) (by simp [Observed.inProgress, hplace, hprogress])
  have hwf := (InstanceManager.status_eq_table h.run).1
  exact simulates_advance hpairs hl hplace hwf hx.agrees h.idle
    (fun hout => (hx.pending hout).1) hadv

variable [DecidableEq Tid]

/-- The calls in progress after one more call: it is at its first point, with a number of its own.
-/
theorem inProgress_call (c : Call Unit Unit) : (o.call t c).inProgress
    = Function.update o.inProgress (t, (o.state.stack t).length)
        (some ((o.state.shared.start c).2, ⟨o.calls, o.state.shared.named c, {}⟩)) := by
  funext q
  show ((o.state.call t c).frameAt q).bind _ = _
  rw [frameAt_call]
  by_cases hq : q = (t, (o.state.stack t).length)
  · subst hq
    simp [Observed.call]
  · simp [Observed.call, Observed.inProgress, hq]

/-- The calls in progress after a step: one of them went on to the next point, or ended. -/
theorem inProgress_advance {rest : List Frame} {pr : Progress}
    (hstack : o.state.stack t = rest ++ [f]) : (o.advance t rest f pr s' r).inProgress
      = Function.update o.inProgress (t, rest.length)
          (r.map fun g => (g, { pr with result := f.observe o.state.shared s' pr.result })) := by
  funext q
  show (State.frameAt ⟨s', Function.update o.state.stack t (rest ++ r.toList)⟩ q).bind _ = _
  rw [frameAt_advance hstack]
  by_cases hq : q = (t, rest.length)
  · subst hq
    cases r <;> simp [Observed.advance]
  · simp [Observed.advance, Observed.inProgress, hq]

/-- The start of a call. -/
theorem Linear.call (h : Linear o log m) (c : Call Unit Unit) : Linear (o.call t c) log m where
  run := h.run
  orders := h.orders.invoke h.notMem_log
  idle hfree := by
    show m = (o.state.shared.start c).1.settled
    rw [Shared.settled_start]
    refine h.idle ?_
    cases c <;> exact hfree
  tracks := by
    rw [inProgress_call]
    show Every _ (Tracks m (o.state.shared.start c).1.settled log _)
    rw [Shared.settled_start]
    refine h.tracks.update_some ?_ ?_
    · exact
        { agrees := by cases c <;> rfl
          invoked := List.mem_append_right _ (List.mem_singleton_self _)
          pending := fun _ => ⟨rfl, h.notMem_log⟩
          committed := by
            intro res hout
            cases c <;> cases hout }
    · intro q x _ _ hx
      exact hx.mono hx.agrees (fun _ he => he) (fun _ ha => List.mem_append_left _ ha) id
  distinct := by
    rw [inProgress_call]
    refine h.distinct.update_some ?_
    intro op hop q x _ hq hx
    -- The number of the new call is larger than that of the others.
    have hlt := h.fresh _ _ (h.tracks q x hq).invoked
    have hop : o.calls = op := hop
    omega
  fresh op c' hmem := by
    show op < o.calls + 1
    rcases List.mem_append.mp hmem with hmem | hmem
    · exact Nat.lt_succ_of_lt (h.fresh op c' hmem)
    · obtain ⟨rfl, -⟩ := Action.invoke.inj (List.mem_singleton.mp hmem)
      exact Nat.lt_succ_self _

/-- The step of a call, with what it does to the log. -/
theorem Linear.step {rest : List Frame} {pr : Progress} (h : Linear o log m)
    (hl : Locks o.state.shared o.state.frameAt) (hstack : o.state.stack t = rest ++ [f])
    (hplace : o.state.frameAt (t, rest.length) = some f)
    (hin : o.inProgress (t, rest.length) = some (f, pr))
    (hsim : Simulates o.state.shared s' m m' pr.call f pr.result r)
    (hrun : InstanceManager.calls.Run m' (log'.map Prod.snd))
    (horders : Linearizes log' (o.advance t rest f pr s' r).history)
    (hlog : ∀ e ∈ log, e ∈ log')
    (hnew : ∀ op, op ≠ pr.op → op ∉ log.map Prod.fst → op ∉ log'.map Prod.fst)
    (hmine : ∀ g, r = some g → Tracks m' s'.settled log' o.history
      (g, { pr with result := f.observe o.state.shared s' pr.result })) :
    Linear (o.advance t rest f pr s' r) log' m' where
  run := hrun
  orders := horders
  idle hfree := hsim.idle hfree
  tracks := by
    have hhistory : ∀ a ∈ o.history, a ∈ (o.advance t rest f pr s' r).history :=
      fun a ha => List.mem_append_left _ ha
    rw [inProgress_advance hstack]
    refine h.tracks.update ?_ ?_
    · intro x hx
      obtain ⟨g, hg, rfl⟩ := Option.map_eq_some_iff.mp hx
      exact (hmine g hg).mono (hmine g hg).agrees (fun _ he => he) hhistory id
    · intro q y hq hy htracks
      refine htracks.mono ?_ hlog hhistory (hnew _ ?_)
      · -- What the others know is about their own steps, or nothing has changed.
        rcases hsim.frame with hf | ⟨hsettled, rfl⟩
        · refine htracks.agrees.congr ?_
          simp only [Observed.inProgress, Option.bind_eq_some_iff, Option.map_eq_some_iff] at hy
          obtain ⟨g, hg, pr', -, rfl⟩ := hy
          simpa using hl.manager_one.not_other (a := ()) hplace hf hq hg
        · show y.1.Agrees m' s'.settled y.2.call
          rw [hsettled]
          exact htracks.agrees
      · exact h.distinct.not_other hin rfl hq hy
  distinct := by
    rw [inProgress_advance hstack]
    refine h.distinct.update_of_imp hin ?_
    intro x op hx hop
    obtain ⟨g, -, rfl⟩ := Option.map_eq_some_iff.mp hx
    exact hop
  fresh op c hmem := by
    refine h.fresh op c ?_
    rcases List.mem_append.mp hmem with hmem | hmem
    · exact hmem
    · split at hmem
      · simp at hmem
      · cases hmem

/-- The step of a call: the log gets the call if it takes effect. -/
theorem Linear.advance {rest : List Frame} {pr : Progress} (h : Linear o log m)
    (hl : Locks o.state.shared o.state.frameAt)
    (hstack : o.state.stack t = rest ++ [f]) (hprogress : o.progress (t, rest.length) = some pr)
    (hsim : Simulates o.state.shared s' m m' pr.call f pr.result r)
    (hsize : s'.settled.instances.length < 2 ^ 31) :
    ∃ log', Linear (o.advance t rest f pr s' r) log' m' ∧
      (log' = log ∨ ∃ res, log' = log ++ [(pr.op, pr.call, res)]) := by
  have hplace : o.state.frameAt (t, rest.length) = some f := by
    simp [State.frameAt, hstack]
  have hin : o.inProgress (t, rest.length) = some (f, pr) := by
    simp [Observed.inProgress, hplace, hprogress]
  have hx := h.tracks _ _ hin
  -- A call that goes on writes nothing to the history.
  have hgoes : ∀ g, r = some g → (o.advance t rest f pr s' r).history = o.history := by
    rintro g rfl
    simp [Observed.advance]
  -- Only the step with which the call takes effect adds to the log.
  cases hsim.moves with
  | @waits g hr hf hg hm hresult =>
      subst hm
      obtain ⟨hempty, hnot⟩ := hx.pending hf
      refine ⟨log, h.step hl hstack hplace hin hsim h.run (hgoes g hr ▸ h.orders)
        (fun _ he => he) (fun _ _ hop => hop) ?_, .inl rfl⟩
      intro g' hr'
      cases hr.symm.trans hr'
      exact
        { agrees := hsim.agrees g hr
          invoked := hx.invoked
          pending := fun _ => ⟨hresult.trans hempty, hnot⟩
          committed := by
            intro res hout
            cases hg.symm.trans hout }
  | @commits g res hr hf hexec hg hm =>
      have hnot := (hx.pending hf).2
      have hrun : InstanceManager.calls.Run m'
          ((log ++ [(pr.op, pr.call, res)]).map Prod.snd) := by
        rw [List.map_append]
        exact h.run.step (l := (pr.call, res)) ⟨hexec, hm ▸ hsize⟩
      refine ⟨_, h.step hl hstack hplace hin hsim hrun
        (hgoes g hr ▸ h.orders.commit hnot hx.invoked) (fun _ he => List.mem_append_left _ he)
        (fun _ hop hold => notMem_ops_concat hop hold) ?_, .inr ⟨res, rfl⟩⟩
      intro g' hr'
      cases hr.symm.trans hr'
      exact
        { agrees := hsim.agrees g hr
          invoked := hx.invoked
          pending := by
            intro hout
            cases hg.symm.trans hout
          committed := by
            intro res' hout
            cases hg.symm.trans hout
            exact List.mem_append_right _ (List.mem_singleton_self _) }
  | @goes g res hr hf hg hm =>
      subst hm
      refine ⟨log, h.step hl hstack hplace hin hsim h.run (hgoes g hr ▸ h.orders)
        (fun _ he => he) (fun _ _ hop => hop) ?_, .inl rfl⟩
      intro g' hr'
      cases hr.symm.trans hr'
      exact
        { agrees := hsim.agrees g hr
          invoked := hx.invoked
          pending := by
            intro hout
            cases hg.symm.trans hout
          committed := by
            intro res' hout
            cases hg.symm.trans hout
            exact hx.committed _ hf }
  | @returns res hr hf hresult hm =>
      subst hm
      subst hr
      have hentry := hx.committed res hf
      refine ⟨log, h.step hl hstack hplace hin hsim h.run ?_ (fun _ he => he)
        (fun _ _ hop => hop) ?_, .inl rfl⟩
      · show Linearizes log (o.history ++ [.respond pr.op (f.observe o.state.shared s' pr.result)])
        rw [hresult]
        exact h.orders.respond hentry
      · intro g hg
        cases hg

/-- The vector never shrinks. -/
theorem length_contents_le (hadv : (s', r) ∈ s.advance f) :
    s.contents.length ≤ s'.contents.length := by
  cases f with
  | addRelocate id =>
      simp only [Shared.advance] at hadv
      split at hadv
      · rename_i x hx
        simp only [List.mem_singleton, Prod.mk.injEq] at hadv
        obtain ⟨rfl, rfl⟩ := hadv
        exact Nat.le_of_eq (congrArg List.length (Pairs.contents_relocate hx)).symm
      · rename_i hx
        simp only [List.mem_singleton, Prod.mk.injEq] at hadv
        obtain ⟨rfl, rfl⟩ := hadv
        have hlen := List.getElem?_eq_none_iff.mp hx
        simp only [Shared.contents, List.length_append, List.length_drop, List.length_nil,
          List.length_singleton]
        omega
  | addObject n id | addEvents n id | killObject n | killEvents n object =>
      obtain ⟨x, -, hadv⟩ := Shared.mem_readSlot.mp hadv
      simp only [List.mem_singleton, Prod.mk.injEq] at hadv
      obtain ⟨rfl, rfl⟩ := hadv
      simp [Shared.contents, Shared.setSlot]
  | addChoose id =>
      simp only [Shared.advance] at hadv
      split at hadv
      · simp only [List.mem_singleton, Prod.mk.injEq] at hadv
        obtain ⟨rfl, rfl⟩ := hadv
        exact Nat.le_refl _
      · simp only [List.mem_cons, List.not_mem_nil, or_false, Prod.mk.injEq] at hadv
        rcases hadv with ⟨rfl, rfl⟩ | ⟨rfl, rfl⟩
        · simp only [Shared.contents, List.length_append, List.length_drop, List.length_singleton]
          omega
        · exact Nat.le_refl _
  | _ =>
      simp only [Shared.advance, Shared.readSlot, Shared.check, Shared.lockManager,
        Shared.lockSlot, Shared.unlockSlot] at hadv
      repeat' split at hadv
      all_goals
        simp only [List.mem_singleton, List.not_mem_nil, Prod.mk.injEq] at hadv
      all_goals
        obtain ⟨rfl, rfl⟩ := hadv
        exact Nat.le_refl _

/-- In every reachable state some order of the calls is a run of the sequential manager. -/
theorem linear_of_reachable (h : observed.Reachable o)
    (hsize : o.state.shared.contents.length < 2 ^ 31) : ∃ log m, Linear o log m := by
  obtain ⟨ts, run⟩ := h
  induction run with
  | init h =>
      obtain rfl : _ = Observed.initial := h
      exact ⟨[], _, linear_initial⟩
  | @step o o' ts t run hstep ih =>
      have hreach : observed.Reachable o := ⟨ts, run⟩
      obtain ⟨hl, hpairs⟩ := inv_of_reachable (reachable_of_observed hreach)
      cases hstep with
      | call c hcall =>
          have hsame : (o.call t c).state.shared.contents = o.state.shared.contents := by
            cases c <;> rfl
          obtain ⟨log, m, h⟩ := ih (hsame ▸ hsize)
          exact ⟨log, m, h.call c⟩
      | @advance rest f pr s' r hstack hprogress hadv =>
          have hsize : s'.contents.length < 2 ^ 31 := hsize
          obtain ⟨log, m, h⟩ := ih (Nat.lt_of_le_of_lt (length_contents_le hadv) hsize)
          obtain ⟨m', hsim⟩ := h.simulates hl hpairs hstack hprogress hadv
          obtain ⟨log', hlinear, -⟩ := h.advance hl hstack hprogress hsim hsize
          exact ⟨log', m', hlinear⟩

/-- Every call in progress is observed. -/
theorem progress_of_reachable (h : observed.Reachable o) :
    ∀ p f, o.state.frameAt p = some f → ∃ pr, o.progress p = some pr := by
  refine h.invariant
    (I := fun o => ∀ p f, o.state.frameAt p = some f → ∃ pr, o.progress p = some pr) ?_ ?_
  · rintro o rfl p f hf
    cases hf
  · intro o t o' ih hstep p f hf
    cases hstep with
    | call c hcall =>
        have hf : (o.state.call t c).frameAt p = some f := hf
        rw [frameAt_call] at hf
        rcases update_eq_some hf with ⟨rfl, -⟩ | ⟨hne, hold⟩
        · exact ⟨_, Function.update_self ..⟩
        · obtain ⟨pr, hpr⟩ := ih p f hold
          exact ⟨pr, (Function.update_of_ne hne ..).trans hpr⟩
    | @advance rest g pr s' r hstack hprogress hadv =>
        have hf : State.frameAt ⟨s', Function.update o.state.stack t (rest ++ r.toList)⟩ p
          = some f := hf
        rw [frameAt_advance hstack] at hf
        rcases update_eq_some hf with ⟨rfl, rfl⟩ | ⟨hne, hold⟩
        · exact ⟨_, Function.update_self ..⟩
        · obtain ⟨pr', hpr'⟩ := ih p f hold
          exact ⟨pr', (Function.update_of_ne hne ..).trans hpr'⟩

/-- Every run of the threads can be observed. -/
theorem observed_of_reachable {s : State Tid} (h : interleavings.Reachable s) :
    ∃ o, observed.Reachable o ∧ o.state = s := by
  refine h.invariant (I := fun s => ∃ o, observed.Reachable o ∧ o.state = s) ?_ ?_
  · rintro s rfl
    exact ⟨.initial, ⟨[], .init rfl⟩, rfl⟩
  · rintro s t s' ⟨o, hreach, rfl⟩ hstep
    obtain ⟨ts, run⟩ := hreach
    cases hstep with
    | call c hcall => exact ⟨_, ⟨_, run.step (l := t) (.call c hcall)⟩, rfl⟩
    | @advance rest f shared r hstack hadv =>
        have hplace : o.state.frameAt (t, rest.length) = some f := by
          simp [State.frameAt, hstack]
        obtain ⟨pr, hpr⟩ := progress_of_reachable ⟨ts, run⟩ _ f hplace
        exact ⟨_, ⟨_, run.step (l := t) (.advance hstack hpr hadv)⟩, rfl⟩

/-! ### A run with overlapping calls -/

/-- The first step that the innermost call of a thread can take, if it can take one. -/
def Observed.next (o : Observed Tid) (t : Tid) : Observed Tid :=
  match (o.state.stack t).getLast?, o.progress (t, (o.state.stack t).dropLast.length) with
  | some f, some pr =>
    match (o.state.shared.advance f).head? with
    | some (shared, r) => o.advance t (o.state.stack t).dropLast f pr shared r
    | none => o
  | _, _ => o

/-- A step of a thread leads to a state that can be reached. -/
theorem observed_next (h : observed.Reachable o) (t : Tid) : observed.Reachable (o.next t) := by
  unfold Observed.next
  split
  · rename_i f pr hlast hprogress
    split
    · rename_i shared r hhead
      obtain ⟨rest, hstack⟩ := List.getLast?_eq_some_iff.mp hlast
      have hrest : (o.state.stack t).dropLast = rest := by simp [hstack]
      obtain ⟨ts, run⟩ := h
      rw [hrest] at hprogress ⊢
      exact ⟨_, run.step (l := t) (.advance hstack hprogress (List.mem_of_head? hhead))⟩
    · exact h
  · exact h

/-- Some steps of threads lead to a state that can be reached. -/
theorem observed_foldl (h : observed.Reachable o) (ts : List Tid) :
    observed.Reachable (ts.foldl Observed.next o) := by
  induction ts generalizing o with
  | nil => exact h
  | cons t ts ih => exact ih (observed_next h t)

/-- A call that a thread starts leads to a state that can be reached. -/
theorem observed_call (h : observed.Reachable o) (t : Tid) (c : Call Unit Unit)
    (hcall : o.state.MayCall t) : observed.Reachable (o.call t c) := by
  obtain ⟨ts, run⟩ := h
  exact ⟨_, run.step (l := t) (.call c hcall)⟩

/-- The thread 0 stores a pair and runs `func` on it. The `kill` of the thread 1 starts before
`func` returns, and takes effect after it. -/
def overlapping : Observed Nat :=
  let added := (List.replicate 4 0).foldl Observed.next (Observed.initial.call 0 (.add () ()))
  let inFunc := (List.replicate 7 0).foldl Observed.next (added.call 0 (.withInstance 1))
  let waiting := (List.replicate 2 1).foldl Observed.next (inFunc.call 1 (.kill 1))
  let killed := (List.replicate 2 0 ++ List.replicate 7 1).foldl Observed.next waiting
  (List.replicate 8 0).foldl Observed.next (killed.call 0 (.withInstance 1))

/-- The overlapping calls of the example are a run. -/
theorem reachable_overlapping : observed.Reachable overlapping := by
  have h0 : observed.Reachable (Observed.initial : Observed Nat) := ⟨[], .init rfl⟩
  have h1 := observed_foldl (observed_call h0 0 (.add () ()) (.inl rfl)) (List.replicate 4 0)
  have h2 := observed_foldl (observed_call h1 0 (.withInstance 1) (.inl rfl))
    (List.replicate 7 0)
  have h3 := observed_foldl (observed_call h2 1 (.kill 1) (.inl (by decide +kernel)))
    (List.replicate 2 1)
  have h4 := observed_foldl h3 (List.replicate 2 0 ++ List.replicate 7 1)
  exact observed_foldl (observed_call h4 0 (.withInstance 1) (.inl (by decide +kernel)))
    (List.replicate 8 0)

/-- Every history of overlapping calls is a history of the sequential manager: some order of
the calls explains all results, and keeps the order of calls that do not overlap. -/
theorem linearizable_of_reachable (h : observed.Reachable o)
    (hsize : o.state.shared.contents.length < 2 ^ 31) :
    Linearizable InstanceManager.calls o.history := by
  obtain ⟨log, m, hlinear⟩ := linear_of_reachable h hsize
  exact ⟨log, m, hlinear.orders, hlinear.run⟩

/-- The `kill` overlaps the first `with_instance`, and the second one starts after it. -/
theorem linearizable_overlapping :
    Linearizable InstanceManager.calls overlapping.history ∧ overlapping.history =
      [.invoke 0 (.add 0 0), .respond 0 { returned := some 1 }, .invoke 1 (.withInstance 1),
        .invoke 2 (.kill 1), .respond 1 { ran := [(0, 0)] },
        .respond 2 { destroyed := ⟨some 0, some 0⟩ }, .invoke 3 (.withInstance 1),
        .respond 3 { thrown := (throwToxKilledException ⟨[]⟩ 1
          "function called on killed tox instance").thrown }] :=
  ⟨linearizable_of_reachable reachable_overlapping (by decide +kernel), by decide +kernel⟩

/-- The calls of the history `o.history`, in the order of `log`. -/
structure AnswersInOrder (o : Observed Tid)
    (log : OpLog (Call AddId AddId) (Result AddId AddId)) : Prop where
  linearizes : Linearizes log o.history
  /-- Each call does what the table of handles says that the calls before it lead to. -/
  answers : ∀ before op c res after, log = before ++ (op, c, res) :: after →
    InstanceManager.Answers (InstanceManager.table (before.map Prod.snd)) c res
  /-- While no thread is in a critical section, the memory is what the table says. -/
  live_iff : o.state.shared.mutex.locked = false → ∀ n object events,
    InstanceManager.table (log.map Prod.snd) n = .live (object, events) ↔
      n ∉ o.state.shared.manager.freelist ∧
        o.state.shared.settled.slot n = .ok ⟨some object, some events⟩
  /-- A free number has no slot, or is on the freelist. -/
  free_iff : o.state.shared.mutex.locked = false → ∀ n,
    InstanceManager.table (log.map Prod.snd) n = .free ↔
      ¬ o.state.shared.settled.InRange n ∨ n ∈ o.state.shared.settled.freelist
  /-- A killed number has an empty slot, and is not on the freelist. -/
  killed_iff : o.state.shared.mutex.locked = false → ∀ n,
    InstanceManager.table (log.map Prod.snd) n = .killed ↔
      n ∉ o.state.shared.settled.freelist ∧ o.state.shared.settled.slot n = .ok .null
  /-- Then each pair handed over was destroyed once, or is in a slot. -/
  conserved : o.state.shared.mutex.locked = false →
    InstanceManager.handedOver (log.map Prod.snd)
      ~ InstanceManager.destroyed (log.map Prod.snd) ++ o.state.shared.settled.held

/-- In every interleaving the results are the answers of one table of handles, and no pair is
lost. -/
theorem answersInOrder_of_reachable (h : observed.Reachable o)
    (hsize : o.state.shared.contents.length < 2 ^ 31) : ∃ log, AnswersInOrder o log := by
  obtain ⟨log, m, hlinear⟩ := linear_of_reachable h hsize
  obtain ⟨hwf, hstatus⟩ := InstanceManager.status_eq_table hlinear.run
  refine ⟨log, hlinear.orders, ?_, ?_, ?_, ?_, ?_⟩
  · rintro before op c res after rfl
    have hrun := hlinear.run
    rw [List.map_append, List.map_cons] at hrun
    obtain ⟨m₁, m₂, hbefore, hstep⟩ := hrun.step_of_append
    obtain ⟨hwf₁, hstatus₁⟩ := InstanceManager.status_eq_table hbefore
    rw [← hstatus₁]
    exact (InstanceManager.does_of_step hwf₁ hstep).answers
  · intro hfree n object events
    have hm := hlinear.idle hfree
    rw [← hstatus, hwf.status_live_iff, hm]
    rfl
  · intro hfree n
    rw [← hlinear.idle hfree, ← hstatus]
    exact hwf.status_free_iff
  · intro hfree n
    rw [← hlinear.idle hfree, ← hstatus]
    exact hwf.status_killed_iff
  · intro hfree
    rw [← hlinear.idle hfree]
    exact InstanceManager.pairs_conserved hlinear.run

/-- The run goes on: another pair is stored while the first number is killed and not yet free. -/
def added : Observed Nat :=
  (List.replicate 9 1).foldl Observed.next (overlapping.call 1 (.add () ()))

/-- The calls of the example with one more `add` are a run. -/
theorem reachable_added : observed.Reachable added :=
  observed_foldl (observed_call reachable_overlapping 1 (.add () ()) (.inl (by decide +kernel)))
    (List.replicate 9 1)

/-- The table of the order has a killed number, a live one and a free one, as the memory has. -/
theorem answersInOrder_added : ∃ log, AnswersInOrder added log ∧
    added.state.shared.mutex.locked = false ∧
    InstanceManager.table (log.map Prod.snd) 1 = .killed ∧
    InstanceManager.table (log.map Prod.snd) 2 = .live (1, 1) ∧
    InstanceManager.table (log.map Prod.snd) 3 = .free := by
  have hunlocked : added.state.shared.mutex.locked = false := by decide +kernel
  obtain ⟨log, h⟩ := answersInOrder_of_reachable reachable_added (by decide +kernel)
  refine ⟨log, h, hunlocked, (h.killed_iff hunlocked 1).mpr ?_,
    (h.live_iff hunlocked 2 1 1).mpr ?_, (h.free_iff hunlocked 3).mpr ?_⟩
  · decide +kernel
  · decide +kernel
  · left
    unfold InstanceManager.InRange
    decide +kernel

end Tox4j.Native.Threads
