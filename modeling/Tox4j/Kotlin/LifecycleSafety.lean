import Tox4j.Kotlin.Construction

/-!
# `Tox4j.Kotlin.LifecycleSafety`: what holds of the lifecycle over whole runs

Four results about the system `lifecycle`.

`lifecycle_safe`: over every run, what an object destroys or frees was allocated to that
object, and a native core is destroyed after every native AV instance on it.

`closesAll_iff`: `close` of a core closes all its AV objects and the core exactly when no AV
object is registered with it. With one registered, `close` throws
`ConcurrentModificationException`, and the native core stays alive.

`recycled_iff`: after the finalizers of a core and of its AV objects have run, in any order,
all their native instances are destroyed and all their numbers are free exactly when no AV
object was registered with the core. With one registered, the finalizer of the core throws
before it frees the number.

`failedConstruction_registers`: the constructor of an AV object registers the object before the
call that can fail, so after a failure the core has one callback more.
-/

set_option autoImplicit false

namespace Tox4j.Kotlin

open Tox4j.Lib Tox4j.Native

namespace World

variable {w w' : World} {c d : CoreRef} {a : AvRef}

/-! ### Runs of fixed actions -/

/-- The world after an action. -/
def after (w : World) (action : Action) : World := (outcome (perform action w)).1

/-- The world after some actions. -/
def afterAll (w : World) (actions : List Action) : World := actions.foldl after w

/-- How an action ends. -/
def ends (w : World) (action : Action) : Ended := (outcome (perform action w)).2

/-- An action that is enabled leads to a state that can be reached. -/
theorem reachable_after (h : lifecycle.Reachable w) (action : Action)
    (henabled : w.Enabled action) (hfits : (w.after action).Fits) :
    lifecycle.Reachable (w.after action) := by
  obtain ⟨ls, run⟩ := h
  exact ⟨_, run.step (l := (action, w.ends action)) ⟨henabled, rfl, hfits⟩⟩

/-- The initial state is reached by no action. -/
theorem reachable_initial : lifecycle.Reachable initial := ⟨[], .init rfl⟩

/-- A core with one open AV object. -/
def oneOpen : World := (initial.after (.newCore .ok)).after (.newAv 0 .ok)

/-- The two constructors of the example return. -/
theorem reachable_oneOpen : lifecycle.Reachable oneOpen := by
  have hcore := reachable_after reachable_initial (.newCore .ok) trivial (by decide)
  exact reachable_after hcore (.newAv 0 .ok) (List.mem_singleton_self _) (by decide)

/-- A core whose only AV object was closed. -/
def oneClosed : World := oneOpen.after (.closeAv 0)

/-- The program closes the AV object, which it holds. -/
theorem reachable_oneClosed : lifecycle.Reachable oneClosed :=
  reachable_after reachable_oneOpen (.closeAv 0) (List.mem_cons_self ..) (by decide)

/-- Without roots nothing is reachable. -/
theorem not_reach_of_roots_nil (h : w.roots = []) (x : Ref) : ¬ w.Reach x := by
  intro hreach
  induction hreach with
  | root hmem => exact nomatch h ▸ hmem
  | tox _ ih => exact ih
  | callback _ _ ih => exact ih

/-- The constructor of the first core runs out of memory. A second core and an AV object on it are
made and closed, and the program forgets them. -/
def twoForgotten : World :=
  initial.afterAll [.newCore .malloc, .newCore .ok, .newAv 1 .ok, .closeAv 0, .closeCore 1,
    .drop (.av 0), .drop (.core 1)]

/-- The finalizers of the three objects run, and a third core is made. -/
def oneRecycled : World :=
  twoForgotten.afterAll [.finalize (.core 0), .finalize (.core 1), .finalize (.av 0),
    .newCore .ok, .newAv 2 .malloc, .newAv 2 .ok]

/-- The program holds each object that it uses, and forgets it at the end. -/
theorem reachable_twoForgotten : lifecycle.Reachable twoForgotten := by
  have hfailed := reachable_after reachable_initial (.newCore .malloc) trivial (by decide)
  have hcore := reachable_after hfailed (.newCore .ok) trivial (by decide)
  have hav := reachable_after hcore (.newAv 1 .ok) (List.mem_singleton_self _) (by decide)
  have hclosed := reachable_after hav (.closeAv 0) (List.mem_cons_self ..) (by decide)
  have hclosed' := reachable_after hclosed (.closeCore 1)
    (List.mem_cons_of_mem _ (List.mem_cons_self ..)) (by decide)
  have hdropped := reachable_after hclosed' (.drop (.av 0)) trivial (by decide)
  exact reachable_after hdropped (.drop (.core 1)) trivial (by decide)

/-- Nothing refers to the three objects any more, so that their finalizers can run in this order. -/
theorem reachable_oneRecycled : lifecycle.Reachable oneRecycled := by
  have hunheld {w : World} (hroots : w.roots = []) (x : Ref) := not_reach_of_roots_nil hroots x
  have hfailed := reachable_after reachable_twoForgotten (.finalize (.core 0))
    ⟨Nat.two_pos, hunheld rfl _, by decide⟩ (by decide)
  have hcore := reachable_after hfailed (.finalize (.core 1))
    ⟨Nat.one_lt_two, hunheld rfl _, by decide⟩ (by decide)
  have hav := reachable_after hcore (.finalize (.av 0))
    ⟨Nat.one_pos, hunheld rfl _, by decide⟩ (by decide)
  have hcore' := reachable_after hav (.newCore .ok) trivial (by decide)
  have hfailed' := reachable_after hcore' (.newAv 2 .malloc) (List.mem_singleton_self _) (by decide)
  exact reachable_after hfailed' (.newAv 2 .ok) (List.mem_singleton_self _) (by decide)

/-! ### Order and ownership -/

/-- Over every run, each effect is fine after those before it. -/
theorem lifecycle_safe (h : lifecycle.Reachable w) : Safe w.natives.effects :=
  (inv_of_reachable h).safe

/-- One core could not be made, another one was collected, and a third one has its number. On that
one an AV object could not be made, and the next one has the number of a collected one. -/
theorem lifecycle_safe_recycled : Safe
    [.allocatedCore 1 1, .allocatedAv 0 1 1, .destroyedAv 0 ⟨0, 1⟩, .destroyedCore 1 1,
      .freedCore 1 1, .freedAv 0 1, .allocatedCore 2 1, .allocatedAv 2 2 1] := by
  have heffects : oneRecycled.natives.effects =
    [.allocatedCore 1 1, .allocatedAv 0 1 1, .destroyedAv 0 ⟨0, 1⟩, .destroyedCore 1 1,
      .freedCore 1 1, .freedAv 0 1, .allocatedCore 2 1, .allocatedAv 2 2 1] := by
    decide +kernel
  rw [← heffects]
  exact lifecycle_safe reachable_oneRecycled

/-! ### Closing a core -/

/-- No AV object of the core is registered with it: each one made on it, with or without
success, has been closed. -/
def NoneRegistered (w : World) (c : CoreRef) : Prop :=
  ∀ a, a < w.avCount → (w.avs a).tox = c → ¬ w.Registered a

/-- The AV object was constructed on the core and is not closed yet. -/
def OpenOn (w : World) (c : CoreRef) (a : AvRef) : Prop :=
  w.Constructed (.av a) ∧ (w.avs a).tox = c ∧ w.Registered a

/-- `close` of the core returns. Then the native instance of each open AV object has been
destroyed exactly once, the native core has been destroyed after all of them, and the list
of callbacks is empty. -/
def ClosesAll (w : World) (c : CoreRef) : Prop :=
  ∃ w' before after, ToxCoreImpl.close c w = .ok () w' ∧
    w'.natives.effects = before ++ .destroyedCore c c :: after ∧
    (∀ a, w.OpenOn c a → before.count (.destroyedAv a ⟨a, c⟩) = 1 ∧
      after.count (.destroyedAv a ⟨a, c⟩) = 0) ∧
    (w'.callbacks c).callbacks.elements = []

/-- The list of a core is empty exactly when no AV object is registered with it. -/
theorem HeapInv.elements_eq_nil_iff (h : HeapInv w) :
    (w.callbacks c).callbacks.elements = [] ↔ w.NoneRegistered c := by
  constructor
  · rintro hnil a ha rfl hreg
    obtain ⟨i, -, hslot⟩ := h.registered a ha hreg
    rw [Event.slot, hnil] at hslot
    cases hslot
  · intro hnone
    refine (h.pruned c).elements_eq_nil fun i => Option.eq_none_iff_forall_ne_some.mpr ?_
    intro a hslot
    obtain ⟨ha, htox, -⟩ := h.slot c i a hslot
    exact hnone a ha htox (h.registered_of_slot hslot)

/-- A core that the program holds is closed with all its AV objects exactly when none of
them is open. -/
theorem closesAll_iff (h : lifecycle.Reachable w) (hroot : .core c ∈ w.roots) :
    w.ClosesAll c ↔ w.NoneRegistered c := by
  have hinv := inv_of_reachable h
  obtain ⟨⟨hc, hzero⟩, hfin⟩ := hinv.roots _ hroot
  rw [← hinv.elements_eq_nil_iff]
  constructor
  · rintro ⟨w', before, after, hclose, -⟩
    by_contra hne
    -- The iteration over the callbacks throws, so `close` does not return.
    obtain ⟨w'', hthrow, -⟩ := hinv.closeCore_throws hne
    exact nomatch hclose.symm.trans hthrow
  · intro hnil
    have hnone := hinv.elements_eq_nil_iff.mp hnil
    obtain ⟨natives, hclose, hk⟩ := hinv.closeCore_nil (hinv.core c hc hfin) hnil
    have hmem := (hk.killed.resolve_left hzero).2.2
    obtain ⟨before, after, heffects⟩ := List.append_of_mem hmem
    refine ⟨_, before, after, hclose, heffects, fun a hopen => ?_, hnil⟩
    exact absurd hopen.2.2 (hnone a hopen.1.1 hopen.2.1)

/-- A core whose AV object was closed before. -/
theorem closesAll_oneClosed : oneClosed.ClosesAll 0 := by
  refine (closesAll_iff reachable_oneClosed (List.mem_cons_of_mem _ (List.mem_cons_self ..))).mpr
    fun a ha _ => ?_
  have hzero : a = 0 := Nat.lt_one_iff.mp ha
  subst hzero
  exact fun hreg => hreg rfl

/-- A core with one open AV object: `close` throws. -/
theorem not_closesAll_oneOpen :
    ¬ ∀ w c, lifecycle.Reachable w → .core c ∈ w.roots → w.ClosesAll c := by
  intro hall
  have hroot : Ref.core 0 ∈ oneOpen.roots := List.mem_cons_of_mem _ (List.mem_cons_self ..)
  obtain ⟨w', before, after, hclose, -⟩ := hall oneOpen 0 reachable_oneOpen hroot
  exact nomatch hclose

/-! ### Garbage collection -/

/-- Finalizers run one after the other and take `w` to `w'`. Each comes with the exceptions
that it logged. -/
inductive Collect : World → List (Ref × List JavaException) → World → Prop
  | nil (w : World) : Collect w [] w
  | cons {w w₁ w' : World} {x : Ref} {es : List JavaException}
      {xs : List (Ref × List JavaException)}
      (hstep : lifecycle.step w (.finalize x, .returned) w₁) (hlogged : w₁.logged = w.logged ++ es)
      (rest : Collect w₁ xs w') : Collect w ((x, es) :: xs) w'

/-- The exception of `instance_manager::finalize` for a number that was not killed. -/
def IsLeak (e : JavaException) : Prop :=
  e.className = .illegalStateException ∧
    ∃ n, e.message = fullMessage n ("Leaked Tox instance #" ++ toString n)

/-- The object is the core, or an AV object that was made on it. -/
def Family (w : World) (c : CoreRef) (x : Ref) : Prop :=
  x = .core c ∨ ∃ a, x = .av a ∧ (w.avs a).tox = c

/-- After the finalizers `xs` the native instances of the core and of its AV objects are
destroyed, their numbers are on the freelist once, and none of their finalizers reported a
leak. -/
structure Recycled (w : World) (c : CoreRef) (xs : List (Ref × List JavaException))
    (w' : World) : Prop where
  coreDestroyed : .destroyedCore c c ∈ w'.natives.effects
  coreFree : w'.natives.coreInstances.freelist.count (w.coreNumber c) = 1
  avDestroyed : ∀ a, w.Constructed (.av a) → (w.avs a).tox = c →
    .destroyedAv a ⟨a, c⟩ ∈ w'.natives.effects
  avFree : ∀ a, w.Constructed (.av a) → (w.avs a).tox = c →
    w'.natives.avInstances.freelist.count (w.avNumber a) = 1
  noLeak : ∀ x es, (x, es) ∈ xs → w.Family c x → ∀ e ∈ es, ¬ IsLeak e

/-- The native instance that the object had in `w` is destroyed in `w'`, and its number is
free. -/
def Freed (w w' : World) : Ref → Prop
  | .core c => w.coreNumber c ≠ 0 →
    w.coreNumber c ∈ w'.natives.coreInstances.freelist ∧
      .destroyedCore c c ∈ w'.natives.effects
  | .av a => w.avNumber a ≠ 0 →
    w.avNumber a ∈ w'.natives.avInstances.freelist ∧
      .destroyedAv a (w.native a) ∈ w'.natives.effects

/-- What is freed stays free while only finalizers run. -/
theorem Freed.mono {w₁ : World} {x : Ref} (h : Freed w w₁ x) (hq : Quiet w₁ w') :
    Freed w w' x := by
  cases x with
  | core c =>
      intro hzero
      obtain ⟨hfree, hmem⟩ := h hzero
      exact ⟨hq.coreFree _ hfree, hq.effects _ hmem⟩
  | av a =>
      intro hzero
      obtain ⟨hfree, hmem⟩ := h hzero
      exact ⟨hq.avFree _ hfree, hq.effects _ hmem⟩

/-- Finalizers do not change the number or the core of an object. -/
theorem Freed.of_quiet {w₁ : World} {x : Ref} (hq : Quiet w w₁) (h : Freed w₁ w' x) :
    Freed w w' x := by
  cases x with
  | core c =>
      intro hzero
      have hnum := hq.coreNumber c
      exact hnum ▸ h (by rw [hnum]; exact hzero)
  | av a =>
      intro hzero
      obtain ⟨hfree, hmem⟩ := h (by rw [hq.avNumber a]; exact hzero)
      rw [hq.avNumber a] at hfree
      rw [native, hq.tox a] at hmem
      exact ⟨hfree, hmem⟩

/-- The AV objects of a core are the same after a `close` or a finalizer. -/
theorem Family.congr {w₁ : World} {x : Ref} (hq : Quiet w w₁) (h : w.Family c x) :
    w₁.Family c x := by
  rcases h with rfl | ⟨a, rfl, htox⟩
  · exact .inl rfl
  · exact .inr ⟨a, rfl, (hq.tox a).trans htox⟩

/-- The finalizer of an object marks that object and no other. -/
theorem Inv.finalized_step {x : Ref} {ended : Ended} (h : Inv w)
    (hstep : lifecycle.step w (.finalize x, ended) w') : w'.finalized = x :: w.finalized := by
  obtain ⟨⟨hexists, hreach, hfin⟩, hrun, -⟩ := hstep
  have hroot : x ∉ w.roots := fun hmem => hreach (.root hmem)
  cases x with
  | core d =>
      obtain ⟨w'', hperform, -, hdone⟩ := h.finalizeCore hexists hroot hfin
      simp only [hperform, outcome, Prod.mk.injEq] at hrun
      exact hrun.1 ▸ hdone.finalized
  | av a =>
      obtain ⟨w'', hperform, -, hdone⟩ := h.finalizeAv hexists hroot hfin
      simp only [hperform, outcome, Prod.mk.injEq] at hrun
      exact hrun.1 ▸ hdone.finalized

/-- An object whose finalizer runs was not finalised before. -/
theorem Collect.notMem_finalized {xs : List (Ref × List JavaException)} {x : Ref}
    {es : List JavaException} (run : Collect w xs w') (h : Inv w) (hmem : (x, es) ∈ xs) :
    x ∉ w.finalized := by
  induction run with
  | nil w => exact nomatch hmem
  | @cons w w₁ w' y ys zs hstep hlogged rest ih =>
      rcases List.mem_cons.mp hmem with heq | hmem
      · cases heq
        exact hstep.1.2.2
      · intro hfin
        refine ih (h.step hstep) hmem ?_
        rw [h.finalized_step hstep]
        exact List.mem_cons_of_mem _ hfin

/-- One finalizer, when no AV object of `c` is registered: the list of `c` stays empty, and
the finalizers of `c` and of its AV objects log nothing and free their numbers. -/
theorem Inv.finalize_clean {x : Ref} {ended : Ended} (h : Inv w)
    (hnil : (w.callbacks c).callbacks.elements = [])
    (hstep : lifecycle.step w (.finalize x, ended) w') :
    Quiet w w' ∧ (w'.callbacks c).callbacks.elements = [] ∧
      (w.Family c x → w'.logged = w.logged ∧ Freed w w' x) := by
  obtain ⟨⟨hexists, hreach, hfin⟩, hrun, -⟩ := hstep
  have hroot : x ∉ w.roots := fun hmem => hreach (.root hmem)
  cases x with
  | core d =>
      obtain ⟨w'', hperform, -, hdone⟩ := h.finalizeCore hexists hroot hfin
      simp only [hperform, outcome, Prod.mk.injEq] at hrun
      obtain ⟨rfl, -⟩ := hrun
      -- The finalizer of any core leaves the list of `c` empty.
      refine ⟨hdone.toQuiet, ?_, ?_⟩
      · by_cases hdc : c = d
        · exact hdc ▸ hdone.emptied
        · rw [hdone.callbacks c hdc]
          exact hnil
      · rintro (heq | ⟨a, heq, -⟩)
        · cases heq
          exact hdone.clean hnil
        · cases heq
  | av a =>
      obtain ⟨w'', hperform, -, hdone⟩ := h.finalizeAv hexists hroot hfin
      simp only [hperform, outcome, Prod.mk.injEq] at hrun
      obtain ⟨rfl, -⟩ := hrun
      refine ⟨hdone.toQuiet, ?_, ?_⟩
      · rw [hdone.callbacks c]
        exact hnil
      · rintro (heq | ⟨b, heq, htox⟩)
        · cases heq
        · cases heq
          exact hdone.clean (h.elements_eq_nil_iff.mp hnil a hexists htox)

/-- Any number of finalizers, when no AV object of `c` is registered. -/
theorem Collect.clean {xs : List (Ref × List JavaException)} (run : Collect w xs w')
    (h : Inv w) (hnil : (w.callbacks c).callbacks.elements = []) :
    Inv w' ∧ Quiet w w' ∧
      ∀ x es, (x, es) ∈ xs → w.Family c x → es = [] ∧ Freed w w' x := by
  induction run with
  | nil w => exact ⟨h, .refl w, fun x es hmem => nomatch hmem⟩
  | @cons w w₁ w' y ys zs hstep hlogged rest ih =>
      obtain ⟨hquiet, hnil₁, hfamily⟩ := h.finalize_clean hnil hstep
      obtain ⟨hinv, hquiet', hrest⟩ := ih (h.step hstep) hnil₁
      refine ⟨hinv, hquiet.trans hquiet', ?_⟩
      intro x es hmem hx
      rcases List.mem_cons.mp hmem with heq | hmem
      · -- This finalizer frees, and the later ones keep what is free.
        cases heq
        obtain ⟨hsame, hfreed⟩ := hfamily hx
        have hes : w.logged ++ ys = w.logged := hlogged.symm.trans hsame
        exact ⟨by simpa using hes, hfreed.mono hquiet'⟩
      · obtain ⟨hes, hfreed⟩ := hrest x es hmem (hx.congr hquiet)
        exact ⟨hes, hfreed.of_quiet hquiet⟩

/-- One finalizer, when an AV object of `c` is registered or the finalizer of `c` has run:
the number of `c` keeps its status. -/
theorem Inv.finalize_stuck {x : Ref} {ended : Ended} (h : Inv w)
    (hholder : coreHolder w.natives.effects (w.coreNumber c) = some c)
    (hstuck : (w.callbacks c).callbacks.elements ≠ [] ∨ .core c ∈ w.finalized)
    (hstep : lifecycle.step w (.finalize x, ended) w') :
    Quiet w w' ∧ ((w'.callbacks c).callbacks.elements ≠ [] ∨ .core c ∈ w'.finalized) ∧
      w'.coreStatus (w.coreNumber c) = w.coreStatus (w.coreNumber c) := by
  obtain ⟨⟨hexists, hreach, hfin⟩, hrun, -⟩ := hstep
  have hroot : x ∉ w.roots := fun hmem => hreach (.root hmem)
  cases x with
  | core d =>
      obtain ⟨w'', hperform, -, hdone⟩ := h.finalizeCore hexists hroot hfin
      simp only [hperform, outcome, Prod.mk.injEq] at hrun
      obtain ⟨rfl, -⟩ := hrun
      by_cases hdc : c = d
      · -- The callbacks throw before `toxKill` and `toxFinalize` are called.
        subst hdc
        have hne := hstuck.resolve_right hfin
        refine ⟨hdone.toQuiet, .inr ?_, ?_⟩
        · rw [hdone.finalized]
          exact List.mem_cons_self ..
        · exact congrArg (InstanceManager.status · _) (hdone.stuck hne)
      · -- The finalizer of another core frees another number.
        refine ⟨hdone.toQuiet, ?_, hdone.status _ ?_⟩
        · rw [hdone.callbacks c hdc, hdone.finalized]
          exact hstuck.imp_right (List.mem_cons_of_mem _)
        · rw [hholder]
          exact fun heq => hdc (Option.some.inj heq)
  | av a =>
      obtain ⟨w'', hperform, -, hdone⟩ := h.finalizeAv hexists hroot hfin
      simp only [hperform, outcome, Prod.mk.injEq] at hrun
      obtain ⟨rfl, -⟩ := hrun
      -- The finalizer of an AV object touches neither the list nor the cores.
      refine ⟨hdone.toQuiet, ?_, ?_⟩
      · rw [hdone.callbacks c, hdone.finalized]
        exact hstuck.imp_right (List.mem_cons_of_mem _)
      · exact congrArg (InstanceManager.status · _) hdone.coreInstances

/-- Any number of finalizers, when an AV object of `c` is registered. -/
theorem Collect.stuck {xs : List (Ref × List JavaException)} (run : Collect w xs w')
    (h : Inv w) (hholder : coreHolder w.natives.effects (w.coreNumber c) = some c)
    (hstuck : (w.callbacks c).callbacks.elements ≠ [] ∨ .core c ∈ w.finalized) :
    w'.coreStatus (w.coreNumber c) = w.coreStatus (w.coreNumber c) := by
  induction run with
  | nil w => rfl
  | @cons w w₁ w' y ys zs hstep hlogged rest ih =>
      obtain ⟨hquiet, hstuck₁, hsame⟩ := h.finalize_stuck hholder hstuck hstep
      have hnum := hquiet.coreNumber c
      have hih := ih (h.step hstep) (by rw [hquiet.coreHolder_eq, hnum, hholder]) hstuck₁
      rw [hnum] at hih
      exact hih.trans hsame

/-- After the finalizers of a core and of every AV object made on it, everything is recycled
exactly when no AV object was registered with the core before. -/
theorem recycled_iff {xs : List (Ref × List JavaException)} (h : lifecycle.Reachable w)
    (hcon : w.Constructed (.core c)) (run : Collect w xs w') (hcore : ∃ es, (.core c, es) ∈ xs)
    (hav : ∀ a, w.Constructed (.av a) → (w.avs a).tox = c → ∃ es, (.av a, es) ∈ xs) :
    Recycled w c xs w' ↔ w.NoneRegistered c := by
  have hinv := inv_of_reachable h
  obtain ⟨hc, hzero⟩ := hcon
  obtain ⟨es, hes⟩ := hcore
  have hfin := run.notMem_finalized hinv hes
  obtain ⟨hholder, hst⟩ := (hinv.core c hc hfin).resolve_left hzero
  rw [← hinv.elements_eq_nil_iff]
  constructor
  · intro hrecycled
    by_contra hne
    -- The number of the core is live or killed at the end, so it is not on the freelist.
    have hsame := run.stuck hinv hholder (.inl hne)
    have hmem : w.coreNumber c ∈ w'.natives.coreInstances.freelist :=
      List.count_pos_iff.mp (by rw [hrecycled.coreFree]; exact Nat.one_pos)
    have hfree : w'.coreStatus (w.coreNumber c) = .free := InstanceManager.status_of_mem hmem
    rw [hsame] at hfree
    rcases hst with hlive | ⟨hkilled, -⟩
    · cases hfree.symm.trans hlive
    · cases hfree.symm.trans hkilled
  · intro hnil
    -- Each finalizer of the family is in the list, and frees.
    obtain ⟨hinv', -, hall⟩ := run.clean hinv hnil
    have hfreed : ∀ a, w.Constructed (.av a) → (w.avs a).tox = c →
        w.avNumber a ∈ w'.natives.avInstances.freelist ∧
          .destroyedAv a (w.native a) ∈ w'.natives.effects := by
      intro a hcon htox
      obtain ⟨es, hmem⟩ := hav a hcon htox
      exact (hall _ es hmem (.inr ⟨a, rfl, htox⟩)).2 hcon.2
    obtain ⟨hcoreFree, hdestroyed⟩ := (hall _ es hes (.inl rfl)).2 hzero
    refine ⟨hdestroyed, hinv'.coreWF.count_freelist hcoreFree, ?_, ?_, ?_⟩
    · intro a hcon htox
      have hmem := (hfreed a hcon htox).2
      rw [native, htox] at hmem
      exact hmem
    · intro a hcon htox
      exact hinv'.avWF.count_freelist (hfreed a hcon htox).1
    · intro x es hmem hx e he
      rw [(hall x es hmem hx).1] at he
      cases he

/-- The program forgets a core and its AV object. -/
def forget (w : World) : World := (w.after (.drop (.av 0))).after (.drop (.core 0))

/-- The program can forget its objects at any time. -/
theorem reachable_forget (h : lifecycle.Reachable w) (hfits : w.Fits) :
    lifecycle.Reachable w.forget :=
  reachable_after (reachable_after h (.drop (.av 0)) trivial hfits) (.drop (.core 0)) trivial hfits

/-- The core and its closed AV object are collected, the core first. -/
theorem recycled_oneClosed :
    Recycled oneClosed.forget 0 [(.core 0, []), (.av 0, [])]
      ((oneClosed.forget.after (.finalize (.core 0))).after (.finalize (.av 0))) := by
  have hreachable := reachable_forget reachable_oneClosed (by decide)
  have hcollect : Collect oneClosed.forget [(.core 0, []), (.av 0, [])] _ :=
    .cons ⟨⟨Nat.one_pos, not_reach_of_roots_nil rfl _, by decide⟩, rfl, by decide⟩ rfl
      (.cons ⟨⟨Nat.one_pos, not_reach_of_roots_nil rfl _, by decide⟩, rfl, by decide⟩ rfl
        (.nil _))
  refine (recycled_iff hreachable ⟨Nat.one_pos, by decide⟩ hcollect ⟨[], by simp⟩ ?_).mpr ?_
  · intro a hcon _
    cases Nat.lt_one_iff.mp hcon.1
    exact ⟨[], by simp⟩
  · intro a ha _
    cases Nat.lt_one_iff.mp ha
    exact fun hreg => hreg rfl

/-- A core and its open AV object are collected, the core first: the finalizer of the core
throws, and its native core is never destroyed. -/
theorem not_recycled_oneOpen :
    ¬ ∀ w w' c xs, lifecycle.Reachable w → w.Constructed (.core c) → Collect w xs w' →
      (∃ es, (.core c, es) ∈ xs) →
      (∀ a, w.Constructed (.av a) → (w.avs a).tox = c → ∃ es, (.av a, es) ∈ xs) →
      Recycled w c xs w' := by
  intro hall
  have hreachable := reachable_forget reachable_oneOpen (by decide)
  have hcollect : Collect oneOpen.forget
      [(.core 0, [⟨.concurrentModificationException, "null"⟩]), (.av 0, [])]
      ((oneOpen.forget.after (.finalize (.core 0))).after (.finalize (.av 0))) :=
    .cons ⟨⟨Nat.one_pos, not_reach_of_roots_nil rfl _, by decide⟩, rfl, by decide⟩ rfl
      (.cons ⟨⟨Nat.one_pos, not_reach_of_roots_nil rfl _, by decide⟩, rfl, by decide⟩ rfl
        (.nil _))
  have hrecycled := hall _ _ 0 _ hreachable ⟨Nat.one_pos, by decide⟩ hcollect
    ⟨_, List.mem_cons_self ..⟩ ?_
  · exact absurd hrecycled.coreDestroyed (by decide)
  · intro a hcon _
    cases Nat.lt_one_iff.mp hcon.1
    exact ⟨[], by simp⟩

/-! ### A failed construction -/

/-- The core has the same callbacks in `w'`. -/
def SameCallbacks (w w' : World) (c : CoreRef) : Prop :=
  (w'.callbacks c).callbacks.elements = (w.callbacks c).callbacks.elements

/-- A constructor of an AV object that throws leaves the object registered. -/
theorem Inv.initAv_thrown {error : ToxavErrNew} {t : Thrown} (h : Inv w)
    (hroot : .core c ∈ w.roots) (hfail : ToxAvImpl.init c error w = .error t w') :
    w' = w.registerAv c := by
  obtain ⟨⟨hc, hzero⟩, hfin⟩ := h.roots _ hroot
  have hr := h.registerAv hc
  rw [initAv_eq] at hfail
  -- `toxavNew` throws after the object was registered, and changes nothing.
  have hthrown : (∃ e, (w.registerAv c).natives.toxavNew w.avCount (w.coreNumber c) error ⟨[]⟩
      = .ok (0, ⟨[e]⟩, (w.registerAv c).natives)) → w' = w.registerAv c := by
    rintro ⟨e, hthrow⟩
    simp only [bind, EStateM.bind, jni_thrown hthrow, EStateM.Result.error.injEq] at hfail
    exact hfail.2.symm
  obtain ⟨-, hlive | ⟨hkilled, -⟩⟩ := (h.core c hc hfin).resolve_left hzero
  · rcases Natives.toxavNew_live (a := w.avCount) hr.coreWF hr.avWF hlive error with
      ⟨m', n, hmade, -⟩ | hthrow
    · -- `toxavNew` returned, and then the constructor does.
      simp only [bind, EStateM.bind, jni_ok hmade, modify, modifyGet,
        MonadStateOf.modifyGet, EStateM.modifyGet, pure, EStateM.pure] at hfail
      cases hfail
    · exact hthrown hthrow
  · exact hthrown (Natives.toxavNew_killed hr.coreWF hkilled error)

/-- After a failed construction on a core that the program holds, the object is behind the other
callbacks of the core. So `close` of the core throws, also when it would have returned before. -/
theorem failedConstruction_registers {error : ToxavErrNew} {e : JavaException}
    (h : lifecycle.Reachable w) (hroot : .core c ∈ w.roots)
    (hfail : ToxAvImpl.init c error w = .error (.exception e) w') :
    ¬ w.SameCallbacks w' c ∧
      (w'.callbacks c).callbacks.elements
        = (w.callbacks c).callbacks.elements ++ [some w.avCount] ∧
      (∃ w₁, ToxCoreImpl.close c w'
        = .error (Event.iterationException .concurrentModification) w₁) ∧
      ((w.callbacks c).callbacks.elements = [] → ∃ w₁, ToxCoreImpl.close c w = .ok () w₁) := by
  have hinv := inv_of_reachable h
  obtain ⟨⟨hc, -⟩, hfin⟩ := hinv.roots _ hroot
  obtain rfl := hinv.initAv_thrown hroot hfail
  have hregistered : ((w.registerAv c).callbacks c).callbacks.elements
      = (w.callbacks c).callbacks.elements ++ [some w.avCount] := by
    rw [callbacks_registerAv, if_pos rfl]
    rfl
  refine ⟨?_, hregistered, ?_, ?_⟩
  · -- The list is longer by one.
    intro hsame
    rw [SameCallbacks, hregistered] at hsame
    simp at hsame
  · -- `close` runs into the callback of the object that was not constructed.
    have hne : ((w.registerAv c).callbacks c).callbacks.elements ≠ [] := by simp [hregistered]
    obtain ⟨w₁, hclose, -⟩ := (hinv.registerAv hc).closeCore_throws hne
    exact ⟨w₁, hclose⟩
  · intro hnil
    obtain ⟨natives, hclose, -⟩ := hinv.closeCore_nil (hinv.core c hc hfin) hnil
    exact ⟨_, hclose⟩

/-- A core without AV objects. -/
def oneCore : World := initial.after (.newCore .ok)

/-- The constructor of the core returns. -/
theorem reachable_oneCore : lifecycle.Reachable oneCore :=
  reachable_after reachable_initial (.newCore .ok) trivial (by decide)

/-- On it `toxav_new` runs out of memory. -/
theorem initAv_oneCore : ∃ e, ToxAvImpl.init 0 .malloc oneCore
    = .error (.exception e) (oneCore.after (.newAv 0 .malloc)) := ⟨_, rfl⟩

/-- The core of the example, before and after `toxav_new` ran out of memory. -/
theorem failedConstruction_registers_malloc :
    ¬ oneCore.SameCallbacks (oneCore.after (.newAv 0 .malloc)) 0 := by
  obtain ⟨e, hfail⟩ := initAv_oneCore
  exact (failedConstruction_registers reachable_oneCore (List.mem_singleton_self _) hfail).1

/-- The core has no callbacks before the construction fails, and one after it. -/
theorem not_sameCallbacks :
    ¬ ∀ w w' c error e, lifecycle.Reachable w → .core c ∈ w.roots →
      ToxAvImpl.init c error w = .error (.exception e) w' → w.SameCallbacks w' c := by
  intro hall
  obtain ⟨e, hfail⟩ := initAv_oneCore
  have hsame := hall _ _ 0 .malloc e reachable_oneCore (List.mem_singleton_self _) hfail
  have hlength := congrArg List.length hsame
  exact absurd hlength (by decide)

end World

end Tox4j.Kotlin
