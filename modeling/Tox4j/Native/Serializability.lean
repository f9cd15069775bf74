import Tox4j.Native.Using

/-!
# `Tox4j.Native.Serializability`: calls from many threads are calls one after the other

`Serial` is the invariant of all executions. The calls from Java that took effect, in the order in
which they did, are a run of `sessions` to a world `w`, and `w` has the sessions that the memory
of the threads has. A call takes effect when it does in the manager, but for one whose `func` runs:
that one takes effect when `func` writes its objects.

So every execution is explained by calls one after the other (`serializable_of_reachable`). No
update of an object is lost, although `func` reads its objects and writes them back in two steps.
-/

set_option autoImplicit false

namespace Tox4j.Native.Threads

open Tox4j.Events (Codec)
open Tox4j.Events.Core (CoreEvents)
open Tox4j.Lib
open InstanceManager (Call Result index?)

variable {Tid T : Type}

/-- The calls from Java in the order in which they take effect. -/
abbrev JavaLog (T : Type) := OpLog (ToxApi T × CoreRequest) Reply

/-- A call from Java of the log. -/
def turn (e : Nat × (ToxApi T × CoreRequest) × Reply) : Turn T := ⟨e.2.1.1, e.2.1.2, e.2.2⟩

/-- What Java will get back from a call at the point `f`, once it has taken effect. -/
def Job.answer? (codec : Codec CoreEvents) (job : Job T) (f : Frame)
    (result : Result AddId AddId) : Option Reply :=
  (f.outcome result).bind fun res =>
    if res.ran = [] ∨ job.reply.isSome then some (job.answer codec res) else none

/-- A thread in a call, at its point. -/
structure Doing (T : Type) where
  frame : Frame
  progress : Progress
  job : Job T

/-- The call of each thread. -/
def Execution.doing (x : Execution Tid T) (t : Tid) : Option (Doing T) :=
  match x.threads.state.stack t, x.threads.progress (t, 0), x.jobs t with
  | [f], some pr, some job => some ⟨f, pr, job⟩
  | _, _, _ => none

/-- What is known of a call from Java in progress. -/
structure Follows (codec : Codec CoreEvents) (x : Execution Tid T)
    (m : InstanceManager AddId AddId) (log : JavaLog T) (y : Doing T) : Prop where
  op : y.job.op = y.progress.op
  call : y.job.request.managerCall? codec y.job.toxcore = some y.progress.call.unnamed
  /-- The objects that a `toxNew` has made wait for `add`. -/
  made : ∀ a b, y.progress.call = .add a b → y.frame.outcome y.progress.result = none →
    x.toxes a = y.job.request.madeTox? y.job.toxcore ∧ x.events b = some {}
  invoked : .invoke y.job.op (y.job.toxcore, y.job.request) ∈ x.history
  pending : y.job.answer? codec y.frame y.progress.result = none → y.job.op ∉ log.map Prod.fst
  committed : ∀ reply, y.job.answer? codec y.frame y.progress.result = some reply →
    (y.job.op, (y.job.toxcore, y.job.request), reply) ∈ log
  silent : y.job.reply.isSome → ∃ n, y.frame = .withUnlockSlot n
  spoken : ∀ res, y.frame.outcome y.progress.result = some res → y.frame.using? = none →
    res.ran = [] ∨ y.job.reply.isSome
  uses : ∀ n a b, y.frame.using? = some (n, a, b) → m.status n = .live (a, b) ∧
    y.progress.call = .withInstance n ∧
      ∀ res, y.frame.outcome y.progress.result = some res → res.ran ≠ []

/-- The calls from Java that took effect are a run of `sessions` to the world `w`. -/
structure Serial (codec : Codec CoreEvents) (x : Execution Tid T)
    (mlog : OpLog (Call AddId AddId) (Result AddId AddId)) (m : InstanceManager AddId AddId)
    (log : JavaLog T) (w : World T) : Prop where
  linear : Linear x.threads mlog m
  stands : Stands w m x.toxes x.events
  run : (sessions codec).Run w (log.map turn)
  orders : Linearizes log x.history
  follows : Every x.doing (Follows codec x m log)
  /-- What `func` has read is what the objects still are. -/
  copies : ∀ t s, x.copies t = some s → ∃ n a b pr job,
    x.doing t = some ⟨.withFunc n a b, pr, job⟩ ∧ x.toxes a = some s.tox ∧
      x.events b = some s.events
  fresh : ∀ op c, .invoke op c ∈ x.history → op < x.threads.calls

variable {codec : Codec CoreEvents} {x x' : Execution Tid T}
  {mlog mlog' : OpLog (Call AddId AddId) (Result AddId AddId)}
  {m m' : InstanceManager AddId AddId} {log log' : JavaLog T} {w w' : World T} {t q : Tid}
  {f g : Frame} {pr : Progress} {job : Job T} {y z : Doing T} {s' : Shared} {r : Option Frame}

/-! ### The calls of the threads -/

/-- A thread in a call from Java is in one member function of the manager, and has a job. -/
theorem doing_eq_some (h : x.doing t = some y) : x.threads.state.stack t = [y.frame] ∧
    x.threads.progress (t, 0) = some y.progress ∧ x.jobs t = some y.job := by
  unfold Execution.doing at h
  split at h
  · rename_i hstack hprogress hjob
    cases h
    exact ⟨hstack, hprogress, hjob⟩
  · cases h

/-- The three parts of what a thread does, put together. -/
theorem doing_of_stack (hstack : x.threads.state.stack t = [f])
    (hprogress : x.threads.progress (t, 0) = some pr) (hjob : x.jobs t = some job) :
    x.doing t = some ⟨f, pr, job⟩ := by
  simp [Execution.doing, hstack, hprogress, hjob]

/-- The point of a thread in the manager is the one of its call from Java. -/
theorem frameAt_of_doing (h : x.doing t = some y) :
    x.threads.state.frameAt (t, 0) = some y.frame := by
  simp [State.frameAt, (doing_eq_some h).1]

/-- A call from Java is a call of the manager in progress. -/
theorem inProgress_of_doing (h : x.doing t = some y) :
    x.threads.inProgress (t, 0) = some (y.frame, y.progress) := by
  simp [Observed.inProgress, frameAt_of_doing h, (doing_eq_some h).2.1]

/-- After its point of effect a call has an answer, unless its `func` has still to run. -/
theorem answer?_eq {result res : Result AddId AddId} (hout : f.outcome result = some res) :
    job.answer? codec f result
      = if res.ran = [] ∨ job.reply.isSome then some (job.answer codec res) else none := by
  rw [Job.answer?, hout]
  rfl

/-- Before its point of effect a call has no answer. -/
theorem answer?_of_none {result : Result AddId AddId} (hout : f.outcome result = none) :
    job.answer? codec f result = none := by
  rw [Job.answer?, hout]
  rfl

/-- What is known of a call stays true when another thread takes a step: the objects of the call are
left alone, and the log and the history only grow. -/
theorem Follows.mono (h : Follows codec x m log y)
    (hmade : ∀ a b, y.progress.call = .add a b → y.frame.outcome y.progress.result = none →
      x'.toxes a = x.toxes a ∧ x'.events b = x.events b)
    (hhistory : ∀ e ∈ x.history, e ∈ x'.history) (hlog : ∀ e ∈ log, e ∈ log')
    (hnew : y.job.op ∉ log.map Prod.fst → y.job.op ∉ log'.map Prod.fst)
    (huses : ∀ n a b, y.frame.using? = some (n, a, b) → m.status n = .live (a, b) →
      m'.status n = .live (a, b)) : Follows codec x' m' log' y where
  op := h.op
  call := h.call
  made a b hadd hout := by
    obtain ⟨htox, hevents⟩ := hmade a b hadd hout
    rw [htox, hevents]
    exact h.made a b hadd hout
  invoked := hhistory _ h.invoked
  pending hout := hnew (h.pending hout)
  committed reply hout := hlog _ (h.committed reply hout)
  silent := h.silent
  spoken := h.spoken
  uses n a b hu := by
    obtain ⟨hlive, hrest⟩ := h.uses n a b hu
    exact ⟨huses n a b hu hlive, hrest⟩

/-! ### What is known of a call after a step of its own -/

namespace Follows

variable {result' res : Result AddId AddId}

/-- Before its point of effect in the manager, no `func` of a call has run. -/
theorem reply_eq_none (h : Follows codec x m log ⟨f, pr, job⟩) (hf : f.outcome pr.result = none) :
    job.reply = none := by
  by_contra hsome
  obtain ⟨n, rfl⟩ := h.silent (Option.isSome_iff_ne_none.mpr hsome)
  cases hf

/-- A step before the call takes effect in the manager. -/
theorem waits (h : Follows codec x m log ⟨f, pr, job⟩) (htoxes : x'.toxes = x.toxes)
    (hevents : x'.events = x.events) (hhistory : x'.history = x.history)
    (hf : f.outcome pr.result = none) (hg : g.outcome result' = none) :
    Follows codec x' m log ⟨g, { pr with result := result' }, job⟩ where
  op := h.op
  call := h.call
  made a b hadd _ := by
    rw [htoxes, hevents]
    exact h.made a b hadd hf
  invoked := hhistory ▸ h.invoked
  pending _ := h.pending (answer?_of_none hf)
  committed := by
    rw [answer?_of_none hg]
    exact fun _ hout => by cases hout
  silent hsome := by
    rw [h.reply_eq_none hf] at hsome
    cases hsome
  spoken res hout := by cases hg.symm.trans hout
  uses n a b hu := absurd hg (Frame.outcome_of_using? hu)

/-- The step with which a call takes effect that will not run `func`. Its answer is in the log. -/
theorem commits (h : Follows codec x m log ⟨f, pr, job⟩) (hhistory : x'.history = x.history)
    (hf : f.outcome pr.result = none) (hg : g.outcome result' = some res) (hran : res.ran = [])
    (hu : g.using? = none)
    (hlog : (job.op, (job.toxcore, job.request), job.answer codec res) ∈ log') :
    Follows codec x' m' log' ⟨g, { pr with result := result' }, job⟩ where
  op := h.op
  call := h.call
  made _ _ _ hout := by cases hg.symm.trans hout
  invoked := hhistory ▸ h.invoked
  pending := by
    rw [answer?_eq hg, if_pos (.inl hran)]
    exact fun hout => absurd hout (Option.some_ne_none _)
  committed := by
    rw [answer?_eq hg, if_pos (.inl hran)]
    intro reply hout
    cases hout
    exact hlog
  silent hsome := by
    rw [h.reply_eq_none hf] at hsome
    cases hsome
  spoken res' hout _ := by
    cases hg.symm.trans hout
    exact .inl hran
  uses n a b hsome := by cases hu.symm.trans hsome

/-- The step with which a call begins to use its number. Its answer has to wait for `func`. -/
theorem begins (h : Follows codec x m log ⟨f, pr, job⟩) (hhistory : x'.history = x.history)
    (hf : f.outcome pr.result = none) (hg : g.outcome result' = some res) (hran : res.ran ≠ [])
    {n : Jint} {a b : AddId} (hu : g.using? = some (n, a, b)) (hcall : pr.call = .withInstance n)
    (hlive : m'.status n = .live (a, b)) :
    Follows codec x' m' log ⟨g, { pr with result := result' }, job⟩ where
  op := h.op
  call := h.call
  made _ _ _ hout := by cases hg.symm.trans hout
  invoked := hhistory ▸ h.invoked
  pending _ := h.pending (answer?_of_none hf)
  committed := by
    rw [answer?_eq hg, if_neg (by simp [hran, h.reply_eq_none hf])]
    exact fun _ hout => by cases hout
  silent hsome := by
    rw [h.reply_eq_none hf] at hsome
    cases hsome
  spoken res' _ hnone := by cases hu.symm.trans hnone
  uses n' a' b' hu' := by
    cases hu.symm.trans hu'
    refine ⟨hlive, hcall, fun res' hout => ?_⟩
    cases hg.symm.trans hout
    exact hran

/-- A step after the call took effect in the manager. What Java will get back is what it was. -/
theorem goes (h : Follows codec x m log ⟨f, pr, job⟩) (hhistory : x'.history = x.history)
    {s : Shared} (hf : f.outcome pr.result = some res) (hg : g.outcome result' = some res)
    (hfunc : ∀ n a b, f ≠ .withFunc n a b) (hadv : (s', some g) ∈ s.advance f) :
    Follows codec x' m log ⟨g, { pr with result := result' }, job⟩ := by
  have hsame : job.answer? codec g result' = job.answer? codec f pr.result := by
    rw [answer?_eq hg, answer?_eq hf]
  exact
    { op := h.op
      call := h.call
      made := fun _ _ _ hout => by cases hg.symm.trans hout
      invoked := hhistory ▸ h.invoked
      pending := fun hout => h.pending (hsame ▸ hout)
      committed := fun reply hout => h.committed reply (hsame ▸ hout)
      silent := by
        -- Once `func` has run, the next step is the last one.
        intro hsome
        obtain ⟨n, rfl⟩ := h.silent hsome
        obtain ⟨i, -, -, hnone⟩ := Shared.mem_unlockSlot.mp hadv
        cases hnone
      spoken := by
        intro res' hout hnone
        cases hg.symm.trans hout
        refine h.spoken res hf (Frame.using?_eq_none_of_advance hfunc hadv ?_)
        rintro g' ⟨⟩
        exact hnone
      uses := by
        intro n a b hu
        have hfu : f.using? = some (n, a, b) :=
          Frame.using?_of_advance hadv hu (hf ▸ Option.some_ne_none _)
        obtain ⟨hlive, hcall, hran⟩ := h.uses n a b hfu
        refine ⟨hlive, hcall, fun res' hout => ?_⟩
        cases hg.symm.trans hout
        exact hran res hf }

/-- The step with which `func` stores its result. This is the answer of the call. -/
theorem stores {n : Jint} {a b : AddId} {reply : Reply}
    (h : Follows codec x m log ⟨.withFunc n a b, pr, job⟩) (hhistory : x'.history = x.history)
    (hlog : (job.op, (job.toxcore, job.request), reply) ∈ log') :
    Follows codec x' m' log' ⟨.withUnlockSlot n, pr, { job with reply := some reply }⟩ where
  op := h.op
  call := h.call
  made _ _ _ hout := by cases hout
  invoked := hhistory ▸ h.invoked
  pending := by
    rw [answer?_eq rfl, if_pos (.inr rfl)]
    exact fun hout => absurd hout (Option.some_ne_none _)
  committed := by
    rw [answer?_eq rfl, if_pos (.inr rfl)]
    intro reply' hout
    cases hout
    exact hlog
  silent _ := ⟨n, rfl⟩
  spoken _ _ _ := .inr rfl
  uses _ _ _ hu := by cases hu

end Follows

namespace Serial

/-- Before the first call the serial order is empty. -/
theorem initial : Serial codec (.initial : Execution Tid T) [] .empty [] .empty where
  linear := linear_initial
  stands := .empty
  run := .init rfl
  orders := .nil
  follows t y h := by cases h
  copies t s h := by cases h
  fresh op c h := absurd h List.not_mem_nil

/-- The number of a new call is not in the log. -/
theorem notMem_log (h : Serial codec x mlog m log w) : x.threads.calls ∉ log.map Prod.fst := by
  intro hmem
  obtain ⟨⟨op, c, reply⟩, hlog, hop⟩ := List.mem_map.mp hmem
  have hlt := h.fresh op c (h.orders.invoked op c reply hlog)
  have hop : op = x.threads.calls := hop
  omega

/-- The calls of two threads have two numbers. -/
theorem op_ne (h : Serial codec x mlog m log w) (ht : x.doing t = some y) (hq : x.doing q = some z)
    (hne : q ≠ t) : z.job.op ≠ y.job.op := by
  rw [(h.follows t y ht).op, (h.follows q z hq).op]
  refine h.linear.distinct.not_other (inProgress_of_doing ht) rfl ?_ (inProgress_of_doing hq)
  exact fun heq => hne (congrArg Prod.fst heq)

/-- The names of the objects of a live number. -/
theorem lt_adds_of_live (h : Serial codec x mlog m log w) (hnames : Names x.threads) {n : Jint}
    {a b : AddId} (hn : m.status n = .live (a, b)) :
    a < x.threads.state.shared.adds ∧ b < x.threads.state.shared.adds := by
  obtain ⟨rfl, op, res, hlog⟩ := h.linear.live_added hnames hn
  have hlt := (hnames.named op b b (h.linear.orders.invoked op _ _ hlog)).2
  exact ⟨hlt, hlt⟩

/-- The objects that a `toxNew` has made and `add` has not stored yet are those of no live
number. -/
theorem made_ne_live (h : Serial codec x mlog m log w) (hnames : Names x.threads)
    (hq : x.doing q = some z) {a b a' b' : AddId} {n : Jint} (hadd : z.progress.call = .add a' b')
    (hout : z.frame.outcome z.progress.result = none) (hn : m.status n = .live (a, b)) :
    a' ≠ a ∧ b' ≠ b := by
  have htracks := h.linear.tracks _ _ (inProgress_of_doing hq)
  have hinvoked := htracks.invoked
  rw [hadd] at hinvoked
  obtain ⟨rfl, op, res, hlog⟩ := h.linear.live_added hnames hn
  obtain ⟨rfl, -⟩ := hnames.named _ _ _ hinvoked
  have hne : b' ≠ b := by
    rintro rfl
    -- The number is live, so the call took effect. It is still pending.
    have hop := hnames.once _ _ _ _ _ hinvoked (h.linear.orders.invoked op _ _ hlog)
    exact (htracks.pending hout).2 (hop ▸ List.mem_map_of_mem (f := Prod.fst) hlog)
  exact ⟨hne, hne⟩

/-- Two threads do not use the same number. -/
theorem use_ne (h : Serial codec x mlog m log w)
    (hl : Locks x.threads.state.shared x.threads.state.frameAt) {n k : Jint} {a b a' b' : AddId}
    (ht : x.doing t = some y) (hq : x.doing q = some z) (hne : q ≠ t)
    (hy : y.frame.using? = some (n, a, b)) (hz : z.frame.using? = some (k, a', b')) : k ≠ n := by
  rintro rfl
  obtain ⟨hlive, -⟩ := (h.follows t y ht).uses k a b hy
  obtain ⟨-, hs⟩ := h.stands.wellFormed.status_live_iff.mp hlive
  have hindex := InstanceManager.index?_of_pos (InstanceManager.inRange_of_slot hs).1
  refine hl.slot_one.not_other (frameAt_of_doing ht) ((Frame.lock?_of_using? hy).trans hindex) ?_
    (frameAt_of_doing hq) ((Frame.lock?_of_using? hz).trans hindex)
  exact fun heq => hne (congrArg Prod.fst heq)

end Serial

variable [DecidableEq Tid]

/-- What the threads do, after one of them made a call from Java. -/
theorem doing_call {toxcore : ToxApi T} {request : CoreRequest} {c : Call Unit Unit}
    (hidle : x.threads.state.stack t = []) : (x.call t toxcore request c).doing
      = Function.update x.doing t (some ⟨(x.threads.state.shared.start c).2,
          ⟨x.threads.calls, x.threads.state.shared.named c, {}⟩,
          ⟨x.threads.calls, toxcore, request, none⟩⟩) := by
  funext q
  by_cases hq : q = t
  · subst hq
    simp [Execution.doing, Execution.call, Observed.call, State.call, hidle]
  · have hplace : (q, 0) ≠ (t, 0) := fun heq => hq (congrArg Prod.fst heq)
    simp [Execution.doing, Execution.call, Observed.call, State.call, hidle, hq]

/-- What the threads do, after one of them took a step in the manager. -/
theorem doing_advance : (x.advance codec t f pr job s' r).doing
      = Function.update x.doing t (r.map fun g =>
          ⟨g, { pr with result := f.observe x.threads.state.shared s' pr.result }, job⟩) := by
  funext q
  by_cases hq : q = t
  · subst hq
    cases r <;> simp [Execution.doing, Execution.advance, Observed.advance]
  · simp [Execution.doing, Execution.advance, Observed.advance, hq]

/-- What the threads do, after the `func` of one of them stored its result. -/
theorem doing_store {n : Jint} {object events : AddId} {reply : Reply} {after : Session T} :
    (x.store t n object events pr job reply after).doing
      = Function.update x.doing t
          (some ⟨.withUnlockSlot n, pr, { job with reply := some reply }⟩) := by
  funext q
  by_cases hq : q = t
  · subst hq
    simp [Execution.doing, Execution.store, Observed.advance, Frame.observe]
  · simp [Execution.doing, Execution.store, Observed.advance, hq]

/-- A request that leads to `add` has made its `Tox`. -/
theorem madeTox?_of_add {toxcore : ToxApi T} {request : CoreRequest}
    (hcall : request.managerCall? codec toxcore = some (.add () ())) :
    ∃ tox, request.madeTox? toxcore = some tox := by
  cases request with
  | toxNew arguments =>
      obtain ⟨tox, htox, -⟩ := Option.map_eq_some_iff.mp hcall
      exact ⟨tox, htox⟩
  | onInstance request =>
      simp only [CoreRequest.managerCall?] at hcall
      split at hcall <;> cases hcall
  | _ => cases hcall

/-- A new call leaves all objects that are in use. -/
theorem objects_call {toxcore : ToxApi T} {request : CoreRequest} {c : Call Unit Unit}
    {a b : AddId} (ha : a ≠ x.threads.state.shared.adds) (hb : b ≠ x.threads.state.shared.adds) :
    (x.call t toxcore request c).toxes a = x.toxes a ∧
      (x.call t toxcore request c).events b = x.events b := by
  unfold Execution.call
  cases request.madeTox? toxcore with
  | none => exact ⟨rfl, rfl⟩
  | some tox => exact ⟨Function.update_of_ne ha .., Function.update_of_ne hb ..⟩

namespace Serial

/-- The start of a call. -/
theorem call (h : Serial codec x mlog m log w) (hnames : Names x.threads) {toxcore : ToxApi T}
    {request : CoreRequest} {c : Call Unit Unit} (hidle : x.threads.state.stack t = [])
    (hcall : request.managerCall? codec toxcore = some c) :
    Serial codec (x.call t toxcore request c) mlog m log w where
  linear := h.linear.call c
  stands := by
    refine h.stands.congr_objects fun n a b hn => ?_
    obtain ⟨ha, hb⟩ := h.lt_adds_of_live hnames hn
    exact objects_call (Nat.ne_of_lt ha) (Nat.ne_of_lt hb)
  run := h.run
  orders := h.orders.invoke h.notMem_log
  follows := by
    rw [doing_call hidle]
    refine h.follows.update_some ?_ ?_
    · exact
        { op := rfl
          call := by cases c <;> exact hcall
          made := by
            intro a b hadd _
            cases c with
            | add u v =>
                cases hadd
                obtain ⟨tox, htox⟩ := madeTox?_of_add hcall
                simp [Execution.call, htox]
            | _ => cases hadd
          invoked := List.mem_append_right _ (List.mem_singleton_self _)
          pending := fun _ => h.notMem_log
          committed := by
            intro reply hout
            cases c <;> cases hout
          silent := fun hsome => by cases hsome
          spoken := by
            intro res hout
            cases c <;> cases hout
          uses := by
            intro n a b hu
            cases c <;> cases hu }
    · intro q z hne hq hz
      refine hz.mono ?_ (fun _ he => List.mem_append_left _ he) (fun _ he => he) id
        fun _ _ _ _ hn => hn
      intro a b hadd _
      -- The new objects have new names.
      have hinvoked := (h.linear.tracks _ _ (inProgress_of_doing hq)).invoked
      rw [hadd] at hinvoked
      obtain ⟨rfl, hlt⟩ := hnames.named _ _ _ hinvoked
      exact objects_call (Nat.ne_of_lt hlt) (Nat.ne_of_lt hlt)
  copies := by
    intro q s hcopy
    obtain ⟨n, a, b, pr, job, hq, htox, hevents⟩ := h.copies q s hcopy
    have hne : q ≠ t := by
      rintro rfl
      rw [(doing_eq_some hq).1] at hidle
      cases hidle
    obtain ⟨hlive, -⟩ := (h.follows q _ hq).uses n a b rfl
    obtain ⟨ha, hb⟩ := h.lt_adds_of_live hnames hlive
    obtain ⟨htoxes, hqueues⟩ : (x.call t toxcore request c).toxes a = x.toxes a ∧
        (x.call t toxcore request c).events b = x.events b :=
      objects_call (Nat.ne_of_lt ha) (Nat.ne_of_lt hb)
    refine ⟨n, a, b, pr, job, ?_, htoxes.trans htox, hqueues.trans hevents⟩
    rw [doing_call hidle, Function.update_of_ne hne, hq]
  fresh := by
    intro op c' hmem
    show op < x.threads.calls + 1
    rcases List.mem_append.mp hmem with hmem | hmem
    · exact Nat.lt_succ_of_lt (h.fresh op c' hmem)
    · obtain ⟨rfl, -⟩ := Action.invoke.inj (List.mem_singleton.mp hmem)
      exact Nat.lt_succ_self _

/-- `func` reads its objects. -/
theorem fetch (h : Serial codec x mlog m log w) (hq : x.doing t = some y) {n : Jint}
    {a b : AddId} (hframe : y.frame = .withFunc n a b) {tox : T} {queue : CoreEvents}
    (htox : x.toxes a = some tox) (hevents : x.events b = some queue) :
    Serial codec (x.fetch t ⟨tox, queue⟩) mlog m log w where
  linear := h.linear
  stands := h.stands
  run := h.run
  orders := h.orders
  follows q z hz := (h.follows q z hz).mono (fun _ _ _ _ => ⟨rfl, rfl⟩) (fun _ he => he)
    (fun _ he => he) id fun _ _ _ _ hn => hn
  copies q s hcopy := by
    have hcopy : Function.update x.copies t (some ⟨tox, queue⟩) q = some s := hcopy
    rcases update_eq_some hcopy with ⟨rfl, hs⟩ | ⟨-, hold⟩
    · cases hs
      refine ⟨n, a, b, y.progress, y.job, ?_, htox, hevents⟩
      rw [← hframe]
      exact hq
    · exact h.copies q s hold
  fresh := h.fresh

/-- `func` writes its objects. With this step the call takes effect. -/
theorem store (h : Serial codec x mlog m log w) (hnames : Names x.threads)
    (hl : Locks x.threads.state.shared x.threads.state.frameAt)
    (hpairs : Pairs x.threads.state.shared x.threads.state.frameAt) {n : Jint} {a b : AddId}
    (hdoing : x.doing t = some ⟨.withFunc n a b, pr, job⟩) {request : InstanceRequest}
    {c : InstanceCall T JavaValue} {s s' : Session T} {value : JavaValue} {env : JNIEnv}
    (hcopy : x.copies t = some s) (hrequest : job.request = .onInstance request)
    (hcall : request.call codec job.toxcore = .ok c)
    (hfunc : c.func ⟨[]⟩ s = .ok (value, env, s'))
    (hsize : x.threads.state.shared.settled.instances.length < 2 ^ 31) :
    ∃ mlog' log' w',
      Serial codec (x.store t n a b pr job ⟨value, env.thrown⟩ s') mlog' m log' w' := by
  have hmine := h.follows t _ hdoing
  obtain ⟨hlive, hwith, hran⟩ := hmine.uses n a b rfl
  obtain ⟨hstack, hprogress, hjob⟩ := doing_eq_some hdoing
  -- The request is about the number that the thread uses, and its objects are those read.
  obtain rfl : c.instanceNumber = n := by
    have hmanager := hmine.call
    rw [hwith, hrequest] at hmanager
    simpa [CoreRequest.managerCall?, hcall, InstanceManager.Call.unnamed] using hmanager
  obtain ⟨htox, hevents⟩ : x.toxes a = some s.tox ∧ x.events b = some s.events := by
    obtain ⟨n', a', b', pr', job', hsame, hread⟩ := h.copies t s hcopy
    cases hdoing.symm.trans hsame
    exact hread
  obtain ⟨w', hstep, hstands⟩ := h.stands.run hcall hlive
    (fun k a' b' hk hlive' => h.linear.live_unique hnames hlive hlive' hk) htox hevents hfunc
    h.stands.wellFormed.size_lt
  -- In the manager nothing happens.
  have hadv : (x.threads.state.shared, some (Frame.withUnlockSlot c.instanceNumber)) ∈
      x.threads.state.shared.advance (.withFunc c.instanceNumber a b) := by
    simp [Shared.advance]
  have hplace : x.threads.state.stack t = [] ++ [.withFunc c.instanceNumber a b] := hstack
  obtain ⟨m₁, hsim⟩ := h.linear.simulates hl hpairs hplace hprogress hadv
  obtain rfl : m₁ = m := by
    cases hsim.moves with
    | goes hr hf hg hm => exact hm
    | waits hr hf hg hm hresult => exact hm
    | commits hr hf hexec hg hm => cases hf
    | returns hr hf hresult hm => exact hm
  obtain ⟨mlog', hlinear, -⟩ := h.linear.advance hl hplace hprogress hsim hsize
  have hsilent : job.reply = none := by
    by_contra hsome
    obtain ⟨k, hk⟩ := hmine.silent (Option.isSome_iff_ne_none.mpr hsome)
    cases hk
  have hnot : job.op ∉ log.map Prod.fst := by
    refine hmine.pending ?_
    have hne : pr.result.ran ≠ [] := hran pr.result rfl
    rw [answer?_eq rfl, if_neg]
    simp [hne, hsilent]
  refine ⟨mlog', log ++ [(job.op, (job.toxcore, job.request), ⟨value, env.thrown⟩)], w',
    hlinear, hstands, ?_, h.orders.commit hnot hmine.invoked, ?_, ?_, h.fresh⟩
  · rw [List.map_append]
    refine h.run.step (l := turn (job.op, (job.toxcore, job.request), ⟨value, env.thrown⟩)) ?_
    show (sessions codec).step w ⟨job.toxcore, job.request, _⟩ w'
    rw [hrequest]
    exact hstep
  · rw [doing_store]
    refine h.follows.update_some ?_ ?_
    · refine hmine.stores rfl ?_
      exact List.mem_append_right _ (List.mem_singleton_self _)
    · intro q z hne hq hz
      refine hz.mono ?_ (fun _ he => he) (fun _ he => List.mem_append_left _ he) ?_
        fun _ _ _ _ hn => hn
      · intro a' b' hadd hout
        obtain ⟨ha, hb⟩ := h.made_ne_live hnames hq hadd hout hlive
        exact ⟨Function.update_of_ne ha .., Function.update_of_ne hb ..⟩
      · exact notMem_ops_concat (h.op_ne hdoing hq hne)
  · intro q s₁ hcopy'
    have hcopy' : Function.update x.copies t none q = some s₁ := hcopy'
    rcases update_eq_some hcopy' with ⟨-, hs⟩ | ⟨hne, hold⟩
    · cases hs
    · obtain ⟨k, a', b', pr', job', hq, htox', hevents'⟩ := h.copies q s₁ hold
      have hk : k ≠ c.instanceNumber := h.use_ne hl hdoing hq hne rfl rfl
      obtain ⟨hlive', -⟩ := (h.follows q _ hq).uses k a' b' rfl
      obtain ⟨ha, hb⟩ := h.linear.live_unique hnames hlive hlive' hk
      refine ⟨k, a', b', pr', job', ?_, ?_, ?_⟩
      · rw [doing_store, Function.update_of_ne hne, hq]
      · exact (Function.update_of_ne ha ..).trans htox'
      · exact (Function.update_of_ne hb ..).trans hevents'

/-- The step of a thread in the manager, with what it does to the log. -/
theorem next (h : Serial codec x mlog m log w)
    (hl : Locks x.threads.state.shared x.threads.state.frameAt)
    (hdoing : x.doing t = some ⟨f, pr, job⟩) (hfunc : ∀ n a b, f ≠ .withFunc n a b)
    (hsim : Simulates x.threads.state.shared s' m m' pr.call f pr.result r)
    (hadv : (s', r) ∈ x.threads.state.shared.advance f)
    (hsize : s'.settled.instances.length < 2 ^ 31)
    (hlinear : Linear (x.threads.advance t [] f pr s' r) mlog' m')
    (hstands : Stands w' m' x.toxes x.events) (hrun : (sessions codec).Run w' (log'.map turn))
    (horders : Linearizes log' (x.advance codec t f pr job s' r).history)
    (hlog : ∀ e ∈ log, e ∈ log')
    (hnew : ∀ op, op ≠ job.op → op ∉ log.map Prod.fst → op ∉ log'.map Prod.fst)
    (hmine : ∀ g, r = some g → Follows codec (x.advance codec t f pr job s' r) m' log'
      ⟨g, { pr with result := f.observe x.threads.state.shared s' pr.result }, job⟩) :
    Serial codec (x.advance codec t f pr job s' r) mlog' m' log' w' where
  linear := hlinear
  stands := hstands
  run := hrun
  orders := horders
  follows := by
    rw [doing_advance]
    refine h.follows.update ?_ ?_
    · intro z hz
      obtain ⟨g, hg, rfl⟩ := Option.map_eq_some_iff.mp hz
      exact hmine g hg
    · intro q z hne hq hz
      refine hz.mono (fun _ _ _ _ => ⟨rfl, rfl⟩) (fun _ he => List.mem_append_left _ he) hlog
        (hnew _ (h.op_ne hdoing hq hne)) ?_
      intro n a b hu hlive
      -- The other thread holds the mutex of the slot.
      have hagrees := (h.linear.tracks _ _ (inProgress_of_doing hdoing)).agrees
      refine status_kept h.stands.wellFormed hagrees hsim hadv hsize hlive fun hlock => ?_
      obtain ⟨-, hs⟩ := h.stands.wellFormed.status_live_iff.mp hlive
      have hindex := InstanceManager.index?_of_pos (InstanceManager.inRange_of_slot hs).1
      refine hl.slot_one.not_other (frameAt_of_doing hdoing) (hlock.trans hindex) ?_
        (frameAt_of_doing hq) ((Frame.lock?_of_using? hu).trans hindex)
      exact fun heq => hne (congrArg Prod.fst heq)
  copies := by
    intro q s hcopy
    obtain ⟨n, a, b, pr', job', hq, hread⟩ := h.copies q s hcopy
    refine ⟨n, a, b, pr', job', ?_, hread⟩
    have hne : q ≠ t := by
      rintro rfl
      cases hdoing.symm.trans hq
      exact hfunc n a b rfl
    rw [doing_advance, Function.update_of_ne hne, hq]
  fresh := by
    intro op c hmem
    refine h.fresh op c ?_
    rcases List.mem_append.mp hmem with hmem | hmem
    · exact hmem
    · split at hmem
      · simp at hmem
      · cases hmem

/-- A step of a thread in the manager: the log gets the call if it takes effect. -/
theorem advance (h : Serial codec x mlog m log w)
    (hl : Locks x.threads.state.shared x.threads.state.frameAt)
    (hpairs : Pairs x.threads.state.shared x.threads.state.frameAt)
    (hdoing : x.doing t = some ⟨f, pr, job⟩) (hfunc : ∀ n a b, f ≠ .withFunc n a b)
    (hadv : (s', r) ∈ x.threads.state.shared.advance f)
    (hsize : s'.settled.instances.length < 2 ^ 31) :
    ∃ mlog' m' log' w', Serial codec (x.advance codec t f pr job s' r) mlog' m' log' w' := by
  have hmine := h.follows t _ hdoing
  obtain ⟨hstack, hprogress, hjob⟩ := doing_eq_some hdoing
  have hplace : x.threads.state.stack t = [] ++ [f] := hstack
  obtain ⟨m', hsim⟩ := h.linear.simulates hl hpairs hplace hprogress hadv
  obtain ⟨mlog', hlinear, -⟩ := h.linear.advance hl hplace hprogress hsim hsize
  have htracks := h.linear.tracks _ _ (inProgress_of_doing hdoing)
  -- A call that goes on writes nothing to the history.
  have hgoes : ∀ g, r = some g → (x.advance codec t f pr job s' r).history = x.history := by
    rintro g rfl
    simp [Execution.advance]
  cases hsim.moves with
  | @waits g hr hf hg hm hresult =>
      subst hm
      refine ⟨mlog', _, log, w, h.next hl hdoing hfunc hsim hadv hsize hlinear h.stands
        h.run (hgoes g hr ▸ h.orders) (fun _ he => he) (fun _ _ hop => hop) ?_⟩
      intro g' hr'
      cases hr.symm.trans hr'
      exact hmine.waits rfl rfl (hgoes g hr) hf hg
  | @commits g res hr hf hexec hg hm =>
      by_cases hran : res.ran = []
      · -- No `func` will run, so the call from Java takes effect too.
        obtain ⟨w', hstep, hstands⟩ := h.stands.commit hexec hran hmine.call
          (fun a b hadd => hmine.made a b hadd hf) (hm ▸ hsize)
        have hanswer : job.answer codec res = job.request.answer codec job.toxcore res := by
          rw [Job.answer, hmine.reply_eq_none hf]
          rfl
        refine ⟨mlog', m', log ++ [(job.op, (job.toxcore, job.request), job.answer codec res)], w',
          h.next hl hdoing hfunc hsim hadv hsize hlinear hstands ?_
            (hgoes g hr ▸ h.orders.commit (hmine.pending (answer?_of_none hf)) hmine.invoked)
            (fun _ he => List.mem_append_left _ he)
            (fun _ hop hold => notMem_ops_concat hop hold) ?_⟩
        · rw [List.map_append, hanswer]
          exact h.run.step hstep
        · intro g' hr'
          cases hr.symm.trans hr'
          have hunused : g.using? = none := by
            by_contra hne
            obtain ⟨u, hu⟩ := Option.ne_none_iff_exists'.mp hne
            subst hr
            exact begins_no_use hf hu hadv hg hran
          exact hmine.commits (hgoes g hr) hf hg hran hunused
            (List.mem_append_right _ (List.mem_singleton_self _))
      · -- The call will take effect when `func` writes its objects.
        subst hr
        have hempty : pr.result = {} := (htracks.pending hf).1
        obtain ⟨m₁, res₁, hdoes⟩ := InstanceManager.exec_does h.stands.wellFormed pr.call
          (InstanceManager.hasRoom_of_exec h.stands.wellFormed hexec (hm ▸ hsize))
        cases hdoes.exec.symm.trans hexec
        obtain ⟨n, a, b, hu, hcall, hlive, rfl⟩ :=
          begins_use htracks.agrees hdoes hran (hempty ▸ hf) (hempty ▸ hg) hadv
        refine ⟨mlog', _, log, w, h.next hl hdoing hfunc hsim hadv hsize hlinear h.stands
          h.run (hgoes g rfl ▸ h.orders) (fun _ he => he) (fun _ _ hop => hop) ?_⟩
        intro g' hr'
        cases hr'
        exact hmine.begins (hgoes g rfl) hf hg hran hu hcall hlive
  | @goes g res hr hf hg hm =>
      subst hm
      subst hr
      refine ⟨mlog', _, log, w, h.next hl hdoing hfunc hsim hadv hsize hlinear h.stands
        h.run (hgoes g rfl ▸ h.orders) (fun _ he => he) (fun _ _ hop => hop) ?_⟩
      intro g' hr'
      cases hr'
      exact hmine.goes (hgoes g rfl) hf hg hfunc hadv
  | @returns res hr hf hresult hm =>
      subst hm
      subst hr
      have hnone : f.using? = none :=
        Frame.using?_eq_none_of_advance hfunc hadv fun g hg => by cases hg
      have hanswer : job.answer? codec f pr.result = some (job.answer codec res) := by
        rw [answer?_eq hf, if_pos (hmine.spoken res hf hnone)]
      refine ⟨mlog', _, log, w, h.next hl hdoing hfunc hsim hadv hsize hlinear h.stands
        h.run ?_ (fun _ he => he) (fun _ _ hop => hop) fun g hg => by cases hg⟩
      show Linearizes log (x.history ++ [.respond job.op
        (job.answer codec (f.observe x.threads.state.shared s' pr.result))])
      rw [hresult]
      exact h.orders.respond (hmine.committed _ hanswer)

end Serial

/-- Every thread in a call has its call from Java. -/
theorem jobs_of_reachable (h : (executions T codec).Reachable x) :
    ∀ t, x.threads.state.stack t ≠ [] → ∃ job, x.jobs t = some job := by
  refine h.invariant
    (I := fun x => ∀ t, x.threads.state.stack t ≠ [] → ∃ job, x.jobs t = some job) ?_ ?_
  · rintro x rfl t hstack
    exact absurd rfl hstack
  · intro x t x' ih hstep q hstack
    by_cases hq : q = t
    · subst hq
      cases hstep with
      | call toxcore request hidle hcall => exact ⟨_, Function.update_self ..⟩
      | @advance f pr job s' r hold hfunc hprogress hjob hadv =>
          cases r with
          | none => simp [Execution.advance, Observed.advance] at hstack
          | some g => exact ⟨job, Function.update_self ..⟩
      | fetch hold hcopy htox hevents => exact ih q (hold ▸ List.cons_ne_nil _ _)
      | store => exact ⟨_, Function.update_self ..⟩
    · -- The other threads do nothing.
      cases hstep with
      | call toxcore request hidle hcall =>
          obtain ⟨job, hjob⟩ := ih q (by
            simpa [Execution.call, Observed.call, State.call, hq] using hstack)
          exact ⟨job, (Function.update_of_ne hq ..).trans hjob⟩
      | advance =>
          obtain ⟨job, hjob⟩ := ih q (by
            simpa [Execution.advance, Observed.advance, hq] using hstack)
          exact ⟨job, (Function.update_of_ne hq ..).trans hjob⟩
      | fetch => exact ih q hstack
      | store =>
          obtain ⟨job, hjob⟩ := ih q (by
            simpa [Execution.store, Observed.advance, hq] using hstack)
          exact ⟨job, (Function.update_of_ne hq ..).trans hjob⟩

/-- In every reachable state the calls that took effect are a run of `sessions`. -/
theorem serial_of_reachable (h : (executions T codec).Reachable x)
    (hsize : x.threads.state.shared.contents.length < 2 ^ 31) :
    ∃ mlog m log w, Serial codec x mlog m log w := by
  obtain ⟨ts, run⟩ := h
  induction run with
  | init h =>
      obtain rfl : _ = Execution.initial := h
      exact ⟨_, _, _, _, .initial⟩
  | @step x x' ts t run hstep ih =>
      have hobserved := observed_of_execution ⟨ts, run⟩
      have hnames := names_of_reachable hobserved
      obtain ⟨hl, hpairs⟩ := inv_of_reachable (reachable_of_observed hobserved)
      cases hstep with
      | @call c toxcore request hidle hcall =>
          have hsame : (x.call t toxcore request c).threads.state.shared.contents
              = x.threads.state.shared.contents := by
            cases c <;> rfl
          obtain ⟨mlog, m, log, w, h⟩ := ih (hsame ▸ hsize)
          exact ⟨mlog, m, log, w, h.call hnames hidle hcall⟩
      | advance hstack hfunc hprogress hjob hadv =>
          have hsize' := Nat.lt_of_le_of_lt (length_contents_le hadv) hsize
          obtain ⟨mlog, m, log, w, h⟩ := ih hsize'
          exact h.advance hl hpairs (doing_of_stack hstack hprogress hjob) hfunc hadv hsize
      | @fetch n a b tox queue hstack hcopy htox hevents =>
          obtain ⟨mlog, m, log, w, h⟩ := ih hsize
          obtain ⟨pr, hprogress⟩ := progress_of_reachable hobserved (t, 0) (.withFunc n a b)
            (by simp [State.frameAt, hstack])
          obtain ⟨job, hjob⟩ := jobs_of_reachable ⟨ts, run⟩ t (hstack ▸ List.cons_ne_nil _ _)
          exact ⟨mlog, m, log, w,
            h.fetch (doing_of_stack hstack hprogress hjob) rfl htox hevents⟩
      | store hstack hprogress hjob hcopy hrequest hcall hfunc =>
          obtain ⟨mlog, m, log, w, h⟩ := ih hsize
          obtain ⟨mlog', log', w', h'⟩ := h.store hnames hl hpairs
            (doing_of_stack hstack hprogress hjob) hcopy hrequest hcall hfunc hsize
          exact ⟨mlog', m, log', w', h'⟩

/-- The calls of an execution are those of `log`, one after the other. -/
structure Serializes (codec : Codec CoreEvents) (x : Execution Tid T) (log : JavaLog T)
    (w : World T) : Prop where
  linearizes : Linearizes log x.history
  run : (sessions codec).Run w (log.map turn)
  /-- While no thread is in a critical section of the manager, the sessions that the calls lead to
  are those in memory. -/
  memory : x.threads.state.shared.mutex.locked = false → ∀ n,
    w.view n = heldSession x.toxes x.events (x.threads.state.shared.settled.status n)

/-! ### A run with two threads -/

/-- The next step of the thread `t` in its call, if it can take one. -/
def Execution.next (codec : Codec CoreEvents) (x : Execution Tid T) (t : Tid) : Execution Tid T :=
  match x.doing t with
  | some ⟨.withFunc n object events, pr, job⟩ =>
    match x.copies t, x.toxes object, x.events events, job.request with
    | none, some tox, some queue, _ => x.fetch t ⟨tox, queue⟩
    | some session, _, _, .onInstance request =>
      match request.call codec job.toxcore with
      | .ok c =>
        match c.func ⟨[]⟩ session with
        | .ok (value, env, after) => x.store t n object events pr job ⟨value, env.thrown⟩ after
        | .error _ => x
      | .error _ => x
    | _, _, _, _ => x
  | some ⟨f, pr, job⟩ =>
    match (x.threads.state.shared.advance f).head? with
    | some (shared, r) => x.advance codec t f pr job shared r
    | none => x
  | none => x

/-- A step of a thread leads to an execution that can be reached. -/
theorem execution_next (h : (executions T codec).Reachable x) (t : Tid) :
    (executions T codec).Reachable (x.next codec t) := by
  obtain ⟨ts, run⟩ := h
  unfold Execution.next
  split
  · rename_i n object events pr job hdoing
    obtain ⟨hstack, hprogress, hjob⟩ := doing_eq_some hdoing
    split
    · rename_i tox queue hcopy htox hevents
      exact ⟨_, run.step (l := t) (.fetch hstack hcopy htox hevents)⟩
    · rename_i session request hcopy hrequest
      split
      · rename_i c hcall
        split
        · rename_i value env after hfunc
          exact ⟨_, run.step (l := t)
            (.store hstack hprogress hjob hcopy hrequest hcall hfunc)⟩
        · exact ⟨ts, run⟩
      · exact ⟨ts, run⟩
    · exact ⟨ts, run⟩
  · rename_i f pr job hfunc hdoing
    obtain ⟨hstack, hprogress, hjob⟩ := doing_eq_some hdoing
    split
    · rename_i shared r hhead
      refine ⟨_, run.step (l := t) (.advance hstack ?_ hprogress hjob (List.mem_of_head? hhead))⟩
      rintro n a b rfl
      exact hfunc n a b rfl
    · exact ⟨ts, run⟩
  · exact ⟨ts, run⟩

/-- Some steps of threads lead to an execution that can be reached. -/
theorem execution_foldl (h : (executions T codec).Reachable x) (ts : List Tid) :
    (executions T codec).Reachable (ts.foldl (Execution.next codec) x) := by
  induction ts generalizing x with
  | nil => exact h
  | cons t ts ih => exact ih (execution_next h t)

/-- A call from Java leads to an execution that can be reached. -/
theorem execution_call (h : (executions T codec).Reachable x) (t : Tid) (toxcore : ToxApi T)
    (request : CoreRequest) {c : Call Unit Unit} (hidle : x.threads.state.stack t = [])
    (hcall : request.managerCall? codec toxcore = some c) :
    (executions T codec).Reachable (x.call t toxcore request c) := by
  obtain ⟨ts, run⟩ := h
  exact ⟨_, run.step (l := t) (.call toxcore request hidle hcall)⟩

/-- The answers of the calls that have returned. -/
def answers (history : List (Action (ToxApi T × CoreRequest) Reply)) : List (Nat × Reply) :=
  history.filterMap fun a =>
    match a with
    | .respond op reply => some (op, reply)
    | .invoke _ _ => none

/-- The thread 0 makes an instance and sets its nospam value. Before it writes the object, the
thread 1 starts to read the value, and waits for the mutex of the slot. -/
def interleaved : Execution Nat UInt32 :=
  let next := Execution.next Events.Core.coreCodec
  let made := (List.replicate 4 0).foldl next
    (Execution.initial.call 0 nospamOnly (.toxNew plainArguments) (.add () ()))
  let fetched := (List.replicate 8 0).foldl next
    (made.call 0 nospamOnly (.onInstance (.toxSelfSetNospam 1 7)) (.withInstance 1))
  let waiting := (List.replicate 3 1).foldl next
    (fetched.call 1 nospamOnly (.onInstance (.toxSelfGetNospam 1)) (.withInstance 1))
  (List.replicate 2 0 ++ List.replicate 8 1).foldl next waiting

/-- The interleaved calls of the example are a run. -/
theorem reachable_interleaved :
    (executions UInt32 Events.Core.coreCodec).Reachable interleaved := by
  have h₀ : (executions UInt32 Events.Core.coreCodec).Reachable
      (Execution.initial : Execution Nat UInt32) := ⟨[], .init rfl⟩
  have h₁ := execution_foldl (execution_call h₀ 0 nospamOnly (.toxNew plainArguments) rfl rfl)
    (List.replicate 4 0)
  have h₂ := execution_foldl (execution_call h₁ 0 nospamOnly
    (.onInstance (.toxSelfSetNospam 1 7)) (by decide +kernel) rfl) (List.replicate 8 0)
  have h₃ := execution_foldl (execution_call h₂ 1 nospamOnly
    (.onInstance (.toxSelfGetNospam 1)) (by decide +kernel) rfl) (List.replicate 3 1)
  exact execution_foldl h₃ (List.replicate 2 0 ++ List.replicate 8 1)

/-- Every execution is explained by calls one after the other. They give the same answers, keep
the order of calls that do not overlap, and lead to the sessions that are in memory. -/
theorem serializable_of_reachable (h : (executions T codec).Reachable x)
    (hsize : x.threads.state.shared.contents.length < 2 ^ 31) :
    ∃ log w, Serializes codec x log w := by
  obtain ⟨mlog, m, log, w, hserial⟩ := serial_of_reachable h hsize
  refine ⟨log, w, hserial.orders, hserial.run, fun hfree n => ?_⟩
  rw [← hserial.linear.idle hfree]
  exact hserial.stands.view n

/-- The thread 1 reads the value that the thread 0 has written. -/
theorem serializable_interleaved :
    (∃ log w, Serializes Events.Core.coreCodec interleaved log w) ∧
      answers interleaved.history = [(0, ⟨.int 1, []⟩), (1, ⟨.void, []⟩), (2, ⟨.int 7, []⟩)] :=
  ⟨serializable_of_reachable reachable_interleaved (by decide +kernel), by decide +kernel⟩

end Tox4j.Native.Threads
