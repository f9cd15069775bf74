import Tox4j.Native.Executions

/-!
# `Tox4j.Native.Serial`: a call of the manager is a call from Java

`Stands w m toxes events` relates a `World`, in which the calls from Java are made one after the
other, to a manager `m` with its own pointers and with the objects that they lead to. Both have
the same numbers and the same sessions. The addresses differ: `World` counts the objects, and the
threads count the calls of `add`.

`Stands.commit` is for a call whose `func` does not run, and `Stands.run` is for one whose `func`
runs. In both, the world makes the whole call from Java, with the same answer.
-/

set_option autoImplicit false

namespace Tox4j.Native

open Tox4j.Events (Codec)
open Tox4j.Events.Core (CoreEvents)
open Tox4j.Lib
open InstanceManager (Call Result Does)

/-! ### What an operation does to the size and the freelist -/

namespace InstanceManager

variable {Object Events : Type} {m m' : InstanceManager Object Events} {n : Jint}
  {env env' : JNIEnv}

/-- `check_instance_number` reads the size of the vector and the freelist. -/
theorem check_congr {Object' Events' : Type} {k : InstanceManager Object' Events'}
    (hfree : k.freelist = m.freelist) (hsize : k.instances.length = m.instances.length)
    (env : JNIEnv) (n : Jint) (allowZero : Bool) :
    k.checkInstanceNumber env n allowZero = m.checkInstanceNumber env n allowZero := by
  simp only [checkInstanceNumber, hfree, hsize]

/-- The number does not pass the check. -/
theorem check_refused (env : JNIEnv) (h : m.WellFormed) (hn : m.status n = .free)
    (allowZero : Bool) :
    (m.checkInstanceNumber env n allowZero).1 = false := by
  obtain ⟨message, hcheck⟩ := checkInstanceNumber_refused env allowZero (h.status_free_iff.mp hn)
  rw [hcheck]

/-- `kill` of a number that does not pass the check. -/
theorem kill_of_refused (h : (m.checkInstanceNumber env n true).1 = false) :
    m.kill env n = .ok (m, (m.checkInstanceNumber env n true).2, .null) := by
  unfold kill
  split <;> simp_all

/-- `finalize` of a number that does not pass the check. -/
theorem finalize_of_refused (h : (m.checkInstanceNumber env n true).1 = false) :
    m.finalize env n = .ok (m, (m.checkInstanceNumber env n true).2) := by
  unfold finalize
  split <;> simp_all

/-- `kill` keeps the numbers. -/
theorem kill_frame {dying : InstancePointers Object Events}
    (h : m.kill env n = .ok (m', env', dying)) :
    m'.freelist = m.freelist ∧ m'.instances.length = m.instances.length := by
  unfold kill at h
  split at h
  · cases h
    exact ⟨rfl, rfl⟩
  · cases hs : m.slot n with
    | error fatal => simp [hs, bind, Except.bind] at h
    | ok p =>
        simp only [hs, bind, Except.bind, pure, Except.pure, Except.ok.injEq, Prod.mk.injEq] at h
        obtain ⟨rfl, -, -⟩ := h
        exact ⟨freelist_setSlot, length_instances_setSlot⟩

end InstanceManager

/-- `add` gives the same number to managers of one size with one freelist. -/
theorem InstanceManager.add_congr {Object Events Object' Events' : Type}
    {m m' : InstanceManager Object Events} {k k' : InstanceManager Object' Events'}
    {object : Object} {events : Events} {object' : Object'} {events' : Events'} {n n' : Jint}
    (hm : m.WellFormed) (hk : k.WellFormed) (hfree : k.freelist = m.freelist)
    (hsize : k.instances.length = m.instances.length)
    (hadd : m.add (some object) (some events) = .ok (m', n))
    (hadd' : k.add (some object') (some events') = .ok (k', n')) :
    n' = n ∧ k'.freelist = m'.freelist ∧ k'.instances.length = m'.instances.length := by
  cases hlast : m.freelist.getLast? with
  | some i =>
      rw [add_reuse hm hlast] at hadd
      rw [add_reuse hk (hfree ▸ hlast)] at hadd'
      cases hadd
      cases hadd'
      simp [hfree, hsize]
  | none =>
      have hnil : m.freelist = [] := List.getLast?_eq_none_iff.mp hlast
      rw [add_grow hm hnil] at hadd
      rw [add_grow hk (hfree.trans hnil)] at hadd'
      cases hadd
      cases hadd'
      simp [hfree, hsize]

namespace World

variable {T R : Type} {w w' : World T} {n : Jint} {env env' : JNIEnv}

/-- What the manager does in a `toxNew` that makes a `Tox`. -/
theorem add_of_toxNew {api : ToxApi T} {arguments : ToxCoreJni.NewArguments} {tox : T}
    (hnew : newTox? api arguments = some tox)
    (hrun : w.toxNew api arguments ⟨[]⟩ = .ok (n, env, w')) :
    w.instances.add (some w.memory.next) (some (w.memory.next + 1)) = .ok (w'.instances, n) := by
  unfold newTox? at hnew
  cases hoptions : ToxCoreJni.toxOptions arguments with
  | error fatal => simp [hoptions] at hnew
  | ok options =>
      rw [hoptions] at hnew
      simp only [Option.ite_none_right_eq_some] at hnew
      obtain ⟨⟨hallocated, herror⟩, htox⟩ := hnew
      cases hadd : w.instances.add (some w.memory.next) (some (w.memory.next + 1)) with
      | error fatal =>
          simp [toxNew, hallocated, hoptions, htox, herror, withErrorHandling, ToxErrNew.handle,
            Memory.newTox, Memory.newEvents, hadd, bind, Except.bind] at hrun
      | ok r =>
          simp only [toxNew, hallocated, hoptions, htox, herror, withErrorHandling,
            ToxErrNew.handle, Memory.newTox, Memory.newEvents, hadd, bind, Except.bind, pure,
            Except.pure, if_true, Except.ok.injEq, Prod.mk.injEq] at hrun
          obtain ⟨rfl, -, rfl⟩ := hrun
          rfl

/-- What the manager does in `toxKill`. -/
theorem kill_of_toxKill (hrun : w.toxKill n env = .ok ((), env', w')) :
    ∃ dying, w.instances.kill env n = .ok (w'.instances, env', dying) := by
  unfold toxKill at hrun
  cases hkill : w.instances.kill env n with
  | error fatal => simp [hkill, bind, Except.bind] at hrun
  | ok r =>
      obtain ⟨instances, env₁, dying⟩ := r
      cases hdestroy : w.memory.destroy dying with
      | error fatal => simp [hkill, hdestroy, bind, Except.bind] at hrun
      | ok memory =>
          simp only [hkill, hdestroy, bind, Except.bind, pure, Except.pure, Except.ok.injEq,
            Prod.mk.injEq, true_and] at hrun
          obtain ⟨rfl, rfl⟩ := hrun
          exact ⟨dying, rfl⟩

/-- What the manager does in `toxFinalize`. -/
theorem finalize_of_toxFinalize (hrun : w.toxFinalize n env = .ok ((), env', w')) :
    w.instances.finalize env n = .ok (w'.instances, env') := by
  unfold toxFinalize at hrun
  cases hfinalize : w.instances.finalize env n with
  | error fatal => simp [hfinalize, bind, Except.bind] at hrun
  | ok r =>
      simp only [hfinalize, bind, Except.bind, pure, Except.pure, Except.ok.injEq, Prod.mk.injEq,
        true_and] at hrun
      obtain ⟨rfl, rfl⟩ := hrun
      rfl

/-- The calls with a number that does not pass the check. -/
theorem toxKill_of_refused (h : (w.instances.checkInstanceNumber env n true).1 = false) :
    w.toxKill n env = .ok ((), (w.instances.checkInstanceNumber env n true).2, w) := by
  simp [toxKill, InstanceManager.kill_of_refused h, Memory.destroy, delete, InstancePointers.null,
    bind, Except.bind, pure, Except.pure]

/-- `toxFinalize` of a number that does not pass the check of the manager. -/
theorem toxFinalize_of_refused (h : (w.instances.checkInstanceNumber env n true).1 = false) :
    w.toxFinalize n env = .ok ((), (w.instances.checkInstanceNumber env n true).2, w) := by
  simp [toxFinalize, InstanceManager.finalize_of_refused h, bind, Except.bind, pure, Except.pure]

/-- A call on an instance whose number does not pass the check: it throws, and `func` does not run.
-/
theorem onInstance_of_refused (c : InstanceCall T R)
    (h : (w.instances.checkInstanceNumber ⟨[]⟩ c.instanceNumber false).1 = false)
    (hthrown : (w.instances.checkInstanceNumber ⟨[]⟩ c.instanceNumber false).2.thrown ≠ []) :
    w.onInstance c ⟨[]⟩ = .ok (c.refused,
      (w.instances.checkInstanceNumber ⟨[]⟩ c.instanceNumber false).2, w) := by
  have hgot : w.instances.getLocked ⟨[]⟩ c.instanceNumber = .ok (.null,
      (w.instances.checkInstanceNumber ⟨[]⟩ c.instanceNumber false).2) := by
    unfold InstanceManager.getLocked
    split <;> simp_all
  have hpending : (w.instances.checkInstanceNumber ⟨[]⟩ c.instanceNumber false).2.exceptionCheck
      = true := by
    simpa [JNIEnv.exceptionCheck] using hthrown
  simp [onInstance, InstanceManager.withInstance, hgot, hpending, InstancePointers.null,
    tox4jAssert, bind, Except.bind, pure, Except.pure]

end World

/-! ### The same numbers and the same sessions -/

/-- The session of a number with this status, whose pointers lead to these objects. -/
def heldSession {T : Type} (toxes : Address → Option T) (events : Address → Option CoreEvents)
    (status : Status (Address × Address)) : Status (Session T) :=
  session status ((toxPointer status).bind toxes) ((eventsPointer status).bind events)

section

variable {T : Type} {toxes : Address → Option T} {events : Address → Option CoreEvents}

/-- A free number has no session. -/
@[simp] theorem heldSession_free : heldSession toxes events .free = .free := rfl

/-- A killed number has no session any more. -/
@[simp] theorem heldSession_killed : heldSession toxes events .killed = .killed := rfl

/-- The session of a live number is behind its two pointers. -/
theorem heldSession_live {a b : Address} {tox : T} {queue : CoreEvents}
    (htox : toxes a = some tox) (hqueue : events b = some queue) :
    heldSession toxes events (.live (a, b)) = .live ⟨tox, queue⟩ := by
  simp [heldSession, session, toxPointer, eventsPointer, htox, hqueue]

end

/-- The world `w` has the same numbers and sessions as the manager `m` with these objects. -/
structure Stands {T : Type} (w : World T) (m : InstanceManager Address Address)
    (toxes : Address → Option T) (events : Address → Option CoreEvents) : Prop where
  sound : w.Sound
  wellFormed : m.WellFormed
  freelist : w.instances.freelist = m.freelist
  size : w.instances.instances.length = m.instances.length
  objects : ∀ n a b, m.status n = .live (a, b) →
    ∃ tox queue, toxes a = some tox ∧ events b = some queue
  view : ∀ n, w.view n = heldSession toxes events (m.status n)

namespace Stands

variable {T : Type} {w w' : World T} {m m' : InstanceManager Address Address}
  {toxes : Address → Option T} {events : Address → Option CoreEvents} {n : Jint}
  {codec : Codec CoreEvents} {api : ToxApi T} {request : CoreRequest} {a b : Address}
  {res : Result Address Address}

/-- The empty world stands for the empty manager. -/
theorem empty : Stands (.empty : World T) .empty toxes events where
  sound := World.sound_empty
  wellFormed := InstanceManager.wellFormed_empty
  freelist := rfl
  size := rfl
  objects n a b h := by
    rw [InstanceManager.status_empty] at h
    cases h
  view n := by
    rw [World.view_empty, InstanceManager.status_empty]
    rfl

/-- A live number has its session in the world. -/
theorem view_live (h : Stands w m toxes events) (hn : m.status n = .live (a, b)) :
    ∃ tox queue, toxes a = some tox ∧ events b = some queue ∧
      w.view n = .live ⟨tox, queue⟩ := by
  obtain ⟨tox, queue, htox, hqueue⟩ := h.objects n a b hn
  exact ⟨tox, queue, htox, hqueue, by rw [h.view, hn, heldSession_live htox hqueue]⟩

/-- The check of a number has the same result in both: it looks at the size and at the freelist
only. -/
theorem check (h : Stands w m toxes events) (n : Jint) (allowZero : Bool) :
    w.instances.checkInstanceNumber ⟨[]⟩ n allowZero
      = m.checkInstanceNumber ⟨[]⟩ n allowZero :=
  InstanceManager.check_congr h.freelist h.size _ _ _

/-- Both managers change at one number. -/
theorem update (h : Stands w m toxes events) {status : Status (Address × Address)}
    {s : Status (Session T)} (hsound : w'.Sound) (hwf : m'.WellFormed)
    (hfree : w'.instances.freelist = m'.freelist)
    (hsize : w'.instances.instances.length = m'.instances.length)
    (hstatus : m'.status = Function.update m.status n status)
    (hview : w'.view = Function.update w.view n s)
    (hsession : s = heldSession toxes events status)
    (hobjects : ∀ a b, status = .live (a, b) →
      ∃ tox queue, toxes a = some tox ∧ events b = some queue) :
    Stands w' m' toxes events where
  sound := hsound
  wellFormed := hwf
  freelist := hfree
  size := hsize
  objects k a b hk := by
    rw [hstatus] at hk
    by_cases hkn : k = n
    · subst hkn
      rw [Function.update_self] at hk
      exact hobjects a b hk
    · rw [Function.update_of_ne hkn] at hk
      exact h.objects k a b hk
  view k := by
    rw [hview, hstatus]
    by_cases hkn : k = n
    · subst hkn
      rw [Function.update_self, Function.update_self, hsession]
    · rw [Function.update_of_ne hkn, Function.update_of_ne hkn]
      exact h.view k

/-! ### Calls whose `func` does not run -/

/-- `add` gives both managers the same number. -/
theorem toxNew (h : Stands w m toxes events) {arguments : ToxCoreJni.NewArguments} {tox : T}
    (hnew : newTox? api arguments = some tox) (hexec : m.exec (.add a b) = .ok (m', res))
    (htox : toxes a = some tox) (hevents : events b = some {})
    (hsize : m'.instances.length < 2 ^ 31) :
    ∃ n w', w.toxNew api arguments ⟨[]⟩ = .ok (n, ⟨[]⟩, w') ∧ res = { returned := some n } ∧
      Stands w' m' toxes events := by
  obtain ⟨w', n, hrun, hspec⟩ := h.sound.toxNew_some hnew
  obtain ⟨m₁, n₁, hadd, hspec₁⟩ := h.wellFormed.add_spec a b
  obtain ⟨rfl, rfl⟩ : m₁ = m' ∧ { returned := some n₁ } = res := by
    simpa [InstanceManager.exec, hadd, bind, Except.bind, pure, Except.pure] using hexec
  obtain ⟨rfl, hfree, hlength⟩ := InstanceManager.add_congr h.wellFormed h.sound.wellFormed
    h.freelist h.size hadd (World.add_of_toxNew hnew hrun)
  obtain ⟨hwf, -, -, hstatus⟩ := hspec₁ hsize
  obtain ⟨hsound, -, -, hview⟩ := hspec (hlength ▸ hsize)
  refine ⟨n, w', hrun, rfl, h.update hsound hwf hfree hlength hstatus hview ?_ ?_⟩
  · exact (heldSession_live htox hevents).symm
  · intro a' b' hlive
    cases hlive
    exact ⟨tox, {}, htox, hevents⟩

/-- `toxKill` in the world does what `kill` does in the manager. -/
theorem toxKill (h : Stands w m toxes events) (hexec : m.exec (.kill n) = .ok (m', res)) :
    ∃ env w', w.toxKill n ⟨[]⟩ = .ok ((), env, w') ∧ env.thrown = res.thrown ∧
      Stands w' m' toxes events := by
  have hview := h.view n
  cases hn : m.status n with
  | free =>
      have hrefused := InstanceManager.check_refused ⟨[]⟩ h.wellFormed hn true
      cases hexec.symm.trans (InstanceManager.exec_kill_of_refused hrefused)
      have hrun := World.toxKill_of_refused (w := w) (by rw [h.check]; exact hrefused)
      rw [h.check] at hrun
      exact ⟨_, w, hrun, rfl, h⟩
  | live pair =>
      obtain ⟨a, b⟩ := pair
      obtain ⟨hf, hs⟩ := h.wellFormed.status_live_iff.mp hn
      cases hexec.symm.trans (InstanceManager.exec_kill_of_slot hf hs)
      obtain ⟨tox, queue, -, -, hlive⟩ := h.view_live hn
      obtain ⟨w', hrun, hsound, hview'⟩ := h.sound.toxKill_live hlive
      obtain ⟨dying, hkill⟩ := World.kill_of_toxKill hrun
      obtain ⟨hfree, hlength⟩ := InstanceManager.kill_frame hkill
      refine ⟨⟨[]⟩, w', hrun, rfl, h.update hsound (h.wellFormed.emptied hs) ?_ ?_
        (InstanceManager.status_emptied hf hs) hview' rfl (fun _ _ hc => by cases hc)⟩
      · rw [hfree, h.freelist, InstanceManager.freelist_setSlot]
      · rw [hlength, h.size, InstanceManager.length_instances_setSlot]
  | killed =>
      obtain ⟨hf, hs⟩ := h.wellFormed.status_killed_iff.mp hn
      cases hexec.symm.trans (InstanceManager.exec_kill_of_slot hf hs)
      have hkilled : w.view n = .killed := by rw [hview, hn, heldSession_killed]
      obtain ⟨w', hrun, hsound, hview'⟩ := h.sound.toxKill_killed hkilled
      obtain ⟨dying, hkill⟩ := World.kill_of_toxKill hrun
      obtain ⟨hfree, hlength⟩ := InstanceManager.kill_frame hkill
      have hsame : w'.view = Function.update w.view n .killed := by
        rw [hview', ← hkilled, Function.update_eq_self]
      refine ⟨⟨[]⟩, w', hrun, rfl, h.update hsound (h.wellFormed.emptied hs) ?_ ?_
        (InstanceManager.status_emptied hf hs) hsame rfl (fun _ _ hc => by cases hc)⟩
      · rw [hfree, h.freelist, InstanceManager.freelist_setSlot]
      · rw [hlength, h.size, InstanceManager.length_instances_setSlot]

/-- `toxFinalize` in the world does what `finalize` does in the manager. -/
theorem toxFinalize (h : Stands w m toxes events) (hexec : m.exec (.finalize n) = .ok (m', res)) :
    ∃ env w', w.toxFinalize n ⟨[]⟩ = .ok ((), env, w') ∧ env.thrown = res.thrown ∧
      Stands w' m' toxes events := by
  cases hn : m.status n with
  | free =>
      have hrefused := InstanceManager.check_refused ⟨[]⟩ h.wellFormed hn true
      cases hexec.symm.trans (InstanceManager.exec_finalize_of_refused hrefused)
      have hrun := World.toxFinalize_of_refused (w := w) (by rw [h.check]; exact hrefused)
      rw [h.check] at hrun
      exact ⟨_, w, hrun, rfl, h⟩
  | live pair =>
      obtain ⟨a, b⟩ := pair
      obtain ⟨hf, hs⟩ := h.wellFormed.status_live_iff.mp hn
      cases hexec.symm.trans (InstanceManager.exec_finalize_of_pair hf hs)
      obtain ⟨tox, queue, -, -, hlive⟩ := h.view_live hn
      exact ⟨_, w, h.sound.toxFinalize_live hlive, rfl, h⟩
  | killed =>
      obtain ⟨hf, hs⟩ := h.wellFormed.status_killed_iff.mp hn
      cases hexec.symm.trans (InstanceManager.exec_finalize_of_null hf hs)
      have hkilled : w.view n = .killed := by rw [h.view, hn, heldSession_killed]
      obtain ⟨w', hrun, hsound, hview'⟩ := h.sound.toxFinalize_killed hkilled
      obtain ⟨k, hfinalize, hfree, -, -⟩ :=
        h.sound.wellFormed.finalize_killed ⟨[]⟩ (h.sound.status_of_view.2 hkilled)
      cases hfinalize.symm.trans (World.finalize_of_toxFinalize hrun)
      refine ⟨⟨[]⟩, w', hrun, rfl, h.update hsound (h.wellFormed.released hf hs) ?_ ?_
        InstanceManager.status_released hview' rfl (fun _ _ hc => by cases hc)⟩
      · rw [hfree, h.freelist]
        rfl
      · rw [InstanceManager.instances_finalize hfinalize, h.size]
        rfl

/-- A call on an instance that does not run its `func` in the manager throws the same in the world.
-/
theorem onInstance_refused (h : Stands w m toxes events) {R : Type} (c : InstanceCall T R)
    (hexec : m.exec (.withInstance c.instanceNumber) = .ok (m', res)) (hran : res.ran = []) :
    ∃ env, w.onInstance c ⟨[]⟩ = .ok (c.refused, env, w) ∧ env.thrown = res.thrown ∧
      Stands w m' toxes events := by
  cases hn : m.status c.instanceNumber with
  | free =>
      have hrefused := InstanceManager.check_refused ⟨[]⟩ h.wellFormed hn false
      cases hexec.symm.trans (InstanceManager.exec_withInstance_of_refused hrefused)
      obtain ⟨message, hcheck⟩ := InstanceManager.checkInstanceNumber_refused ⟨[]⟩ false
        (h.wellFormed.status_free_iff.mp hn)
      have hrun := World.onInstance_of_refused (w := w) c (by rw [h.check]; exact hrefused) (by
        rw [h.check, hcheck]
        simp [throwIllegalStateException, throwException])
      rw [h.check] at hrun
      exact ⟨_, hrun, rfl, h⟩
  | live pair =>
      obtain ⟨hf, hs⟩ := h.wellFormed.status_live_iff.mp hn
      cases hexec.symm.trans (InstanceManager.exec_withInstance_of_pair hf hs)
      cases hran
  | killed =>
      obtain ⟨hf, hs⟩ := h.wellFormed.status_killed_iff.mp hn
      cases hexec.symm.trans (InstanceManager.exec_withInstance_of_null hf hs)
      have hkilled : w.view c.instanceNumber = .killed := by rw [h.view, hn, heldSession_killed]
      exact ⟨_, h.sound.onInstance_killed c hkilled, rfl, h⟩

/-- When no `func` runs, the world makes the whole call, with the same answer. -/
theorem commit (h : Stands w m toxes events) {c : Call Address Address}
    (hexec : m.exec c = .ok (m', res)) (hran : res.ran = [])
    (hcall : request.managerCall? codec api = some c.unnamed)
    (hmade : ∀ a b, c = .add a b → toxes a = request.madeTox? api ∧ events b = some {})
    (hsize : m'.instances.length < 2 ^ 31) :
    ∃ w', (sessions codec).step w ⟨api, request, request.answer codec api res⟩ w' ∧
      Stands w' m' toxes events := by
  cases request with
  | toxNew arguments =>
      cases hnew : newTox? api arguments with
      | none => simp [CoreRequest.managerCall?, hnew] at hcall
      | some tox =>
          cases c with
          | add a b =>
              obtain ⟨htox, hevents⟩ := hmade a b rfl
              obtain ⟨n, w', hrun, rfl, hstands⟩ :=
                h.toxNew hnew hexec (htox.trans hnew) hevents hsize
              refine ⟨w', ⟨?_, hstands.size ▸ hsize⟩, hstands⟩
              simp [World.exec, hrun, CoreRequest.answer, bind, Except.bind, pure, Except.pure]
          | _ => simp [CoreRequest.managerCall?, hnew, InstanceManager.Call.unnamed] at hcall
  | toxKill n =>
      cases c with
      | kill k =>
          obtain rfl : n = k := by
            simpa [CoreRequest.managerCall?, InstanceManager.Call.unnamed] using hcall
          obtain ⟨env, w', hrun, hthrown, hstands⟩ := h.toxKill hexec
          refine ⟨w', ⟨?_, hstands.size ▸ hsize⟩, hstands⟩
          simp [World.exec, hrun, CoreRequest.answer, hthrown, bind, Except.bind, pure,
            Except.pure]
      | _ => simp [CoreRequest.managerCall?, InstanceManager.Call.unnamed] at hcall
  | toxFinalize n =>
      cases c with
      | finalize k =>
          obtain rfl : n = k := by
            simpa [CoreRequest.managerCall?, InstanceManager.Call.unnamed] using hcall
          obtain ⟨env, w', hrun, hthrown, hstands⟩ := h.toxFinalize hexec
          refine ⟨w', ⟨?_, hstands.size ▸ hsize⟩, hstands⟩
          simp [World.exec, hrun, CoreRequest.answer, hthrown, bind, Except.bind, pure,
            Except.pure]
      | _ => simp [CoreRequest.managerCall?, InstanceManager.Call.unnamed] at hcall
  | onInstance request =>
      cases hc : request.call codec api with
      | error fatal => simp [CoreRequest.managerCall?, hc] at hcall
      | ok call =>
          cases c with
          | withInstance k =>
              obtain rfl : call.instanceNumber = k := by
                simpa [CoreRequest.managerCall?, hc, InstanceManager.Call.unnamed] using hcall
              obtain ⟨env, hrun, hthrown, hstands⟩ := h.onInstance_refused call hexec hran
              refine ⟨w, ⟨?_, hstands.size ▸ hsize⟩, hstands⟩
              simp [World.exec, hc, hrun, CoreRequest.answer, hthrown, bind, Except.bind, pure,
                Except.pure]
          | _ => simp [CoreRequest.managerCall?, hc, InstanceManager.Call.unnamed] at hcall

/-! ### Calls whose `func` runs -/

/-- Objects that no live number leads to may change. -/
theorem congr_objects (h : Stands w m toxes events) {toxes' : Address → Option T}
    {events' : Address → Option CoreEvents}
    (hsame : ∀ n a b, m.status n = .live (a, b) → toxes' a = toxes a ∧ events' b = events b) :
    Stands w m toxes' events' where
  sound := h.sound
  wellFormed := h.wellFormed
  freelist := h.freelist
  size := h.size
  objects n a b hn := by
    obtain ⟨htox, hevents⟩ := hsame n a b hn
    rw [htox, hevents]
    exact h.objects n a b hn
  view n := by
    rw [h.view]
    cases hn : m.status n with
    | free => rfl
    | killed => rfl
    | live pair =>
        obtain ⟨htox, hevents⟩ := hsame n pair.1 pair.2 hn
        simp [heldSession, session, toxPointer, eventsPointer, htox, hevents]

/-- When `func` runs on the objects of a live number, the world makes the whole call, and the
objects of all other numbers are what they were. -/
theorem run (h : Stands w m toxes events) {request : InstanceRequest}
    {c : InstanceCall T JavaValue} (hcall : request.call codec api = .ok c)
    (hn : m.status c.instanceNumber = .live (a, b))
    (hother : ∀ k a' b', k ≠ c.instanceNumber → m.status k = .live (a', b') → a' ≠ a ∧ b' ≠ b)
    {s s' : Session T} (htox : toxes a = some s.tox) (hevents : events b = some s.events)
    {value : JavaValue} {env : JNIEnv} (hfunc : c.func ⟨[]⟩ s = .ok (value, env, s'))
    (hsize : m.instances.length < 2 ^ 31) :
    ∃ w', (sessions codec).step w ⟨api, .onInstance request, ⟨value, env.thrown⟩⟩ w' ∧
      Stands w' m (Function.update toxes a (some s'.tox))
        (Function.update events b (some s'.events)) := by
  have hlive : w.view c.instanceNumber = .live s := by
    rw [h.view, hn, heldSession_live htox hevents]
  have hspec := h.sound.onInstance_live c hlive
  rw [hfunc] at hspec
  obtain ⟨w', hrun, hsound, hview, hinstances⟩ := hspec
  refine ⟨w', ⟨?_, ?_⟩, ?_⟩
  · simp [World.exec, hcall, hrun, bind, Except.bind, pure, Except.pure]
  · rw [hinstances, h.size]
    exact hsize
  · -- The other numbers have other objects, and these are what they were.
    have hobjects : ∀ k a' b', m.status k = .live (a', b') → k ≠ c.instanceNumber →
        Function.update toxes a (some s'.tox) a' = toxes a' ∧
          Function.update events b (some s'.events) b' = events b' := by
      intro k a' b' hk hkn
      obtain ⟨hne, hne'⟩ := hother k a' b' hkn hk
      exact ⟨Function.update_of_ne hne .., Function.update_of_ne hne' ..⟩
    exact
      { sound := hsound
        wellFormed := h.wellFormed
        freelist := by rw [hinstances, h.freelist]
        size := by rw [hinstances, h.size]
        objects := by
          intro k a' b' hk
          by_cases hkn : k = c.instanceNumber
          · subst hkn
            cases hn.symm.trans hk
            exact ⟨s'.tox, s'.events, Function.update_self .., Function.update_self ..⟩
          · obtain ⟨htox', hevents'⟩ := hobjects k a' b' hk hkn
            rw [htox', hevents']
            exact h.objects k a' b' hk
        view := by
          intro k
          rw [hview]
          by_cases hkn : k = c.instanceNumber
          · subst hkn
            rw [Function.update_self, hn,
              heldSession_live (Function.update_self ..) (Function.update_self ..)]
          · rw [Function.update_of_ne hkn, h.view k]
            cases hk : m.status k with
            | free => rfl
            | killed => rfl
            | live pair =>
                obtain ⟨htox', hevents'⟩ := hobjects k pair.1 pair.2 hk hkn
                simp [heldSession, session, toxPointer, eventsPointer, htox', hevents'] }

end Stands

end Tox4j.Native
