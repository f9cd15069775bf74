import Tox4j.Events.CoreWire
import Tox4j.Lib.OwnedHeap
import Tox4j.Native.LifecycleSpec
import Tox4j.Native.Sessions

/-!
# `Tox4j.Native.Isolation`: every instance number is a session of its own

`World.Sound` is the invariant of all calls from Java. The manager is well formed, every `Tox` and
every `Events` object in memory is owned by one live number, and no pointer dangles
(`Tox4j.Lib.OwnedHeap`). `World.view` reads a world as a table of sessions.

One lemma for each entry point and each status of its number says what it returns and which session
it changes. `Sound.step` puts them together, and `isolated_of_run` is the result for any sequence of
calls: the session of a number is what the calls with this number made of it since its `toxNew`,
and each call returns what it would return if this session was the only one.
-/

set_option autoImplicit false

namespace Tox4j.Native

open Tox4j.Events (Codec)
open Tox4j.Events.Core (CoreEvents)
open Tox4j.Lib

/-! ### The table of sessions -/

/-- The pointer to the `Tox` of a live number. -/
def toxPointer : Status (Address × Address) → Option Address
  | .live p => some p.1
  | _ => none

/-- The pointer to the `Events` of a live number. -/
def eventsPointer : Status (Address × Address) → Option Address
  | .live p => some p.2
  | _ => none

/-- The session of a number with this status, whose pointers lead to these objects. -/
def session {T : Type} :
    Status (Address × Address) → Option T → Option CoreEvents → Status (Session T)
  | .live _, some tox, some events => .live ⟨tox, events⟩
  | .free, _, _ => .free
  | _, _, _ => .killed

namespace World

variable {T R : Type} {w w' : World T} {n : Jint}

/-- The `Tox` of each number. -/
def toxOf (w : World T) : Jint → Option T :=
  contents w.memory.toxes (toxPointer ∘ w.instances.status)

/-- The `Events` of each number. -/
def eventsOf (w : World T) : Jint → Option CoreEvents :=
  contents w.memory.events (eventsPointer ∘ w.instances.status)

/-- The sessions of all numbers. -/
def view (w : World T) (n : Jint) : Status (Session T) :=
  session (w.instances.status n) (w.toxOf n) (w.eventsOf n)

/-- The invariant of all calls. -/
structure Sound (w : World T) : Prop where
  wellFormed : w.instances.WellFormed
  toxes : Owned w.memory.toxes (toxPointer ∘ w.instances.status)
  events : Owned w.memory.events (eventsPointer ∘ w.instances.status)
  /-- No object is at an address that was not given out yet. -/
  fresh : ∀ a, w.memory.next ≤ a → w.memory.toxes a = none ∧ w.memory.events a = none

/-- The world before the first call satisfies the invariant. -/
theorem sound_empty : (empty : World T).Sound where
  wellFormed := InstanceManager.wellFormed_empty
  toxes := by
    show Owned _ (toxPointer ∘ InstanceManager.status InstanceManager.empty)
    rw [InstanceManager.status_empty]
    exact Owned.empty
  events := by
    show Owned _ (eventsPointer ∘ InstanceManager.status InstanceManager.empty)
    rw [InstanceManager.status_empty]
    exact Owned.empty
  fresh a _ := ⟨rfl, rfl⟩

/-- In the world before the first call all numbers are free. -/
theorem view_empty (n : Jint) : (empty : World T).view n = .free := by
  show session (InstanceManager.status InstanceManager.empty n) _ _ = _
  rw [InstanceManager.status_empty]
  rfl

/-- A number whose session is killed or free has that status in the manager. -/
theorem Sound.status_of_view (h : w.Sound) :
    (w.view n = .free → w.instances.status n = .free) ∧
    (w.view n = .killed → w.instances.status n = .killed) := by
  unfold view
  cases hst : w.instances.status n with
  | free => exact ⟨fun _ => rfl, fun hc => absurd hc (by simp [session])⟩
  | killed => exact ⟨fun hc => absurd hc (by simp [session]), fun _ => rfl⟩
  | live p =>
      obtain ⟨tox, htox⟩ := h.toxes.exists_object (n := n) (a := p.1) (by simp [hst, toxPointer])
      obtain ⟨events, hevents⟩ :=
        h.events.exists_object (n := n) (a := p.2) (by simp [hst, eventsPointer])
      have hview : session (.live p) (w.toxOf n) (w.eventsOf n) = .live ⟨tox, events⟩ := by
        simp [session, toxOf, eventsOf, contents, hst, toxPointer, eventsPointer, htox, hevents]
      rw [hview]
      exact ⟨fun hc => absurd hc (by simp), fun hc => absurd hc (by simp)⟩

/-- A live session is behind two pointers. -/
theorem live_of_view {s : Session T} (hn : w.view n = .live s) :
    ∃ tox events, w.instances.status n = .live (tox, events) ∧
      w.memory.toxes tox = some s.tox ∧ w.memory.events events = some s.events := by
  unfold view at hn
  cases hst : w.instances.status n with
  | free => simp [hst, session] at hn
  | killed => simp [hst, session] at hn
  | live p =>
      simp only [hst, toxOf, eventsOf, contents, Function.comp_apply, toxPointer, eventsPointer,
        Option.bind_some] at hn
      cases htox : w.memory.toxes p.1 with
      | none => simp [htox, session] at hn
      | some tox =>
          cases hevents : w.memory.events p.2 with
          | none => simp [htox, hevents, session] at hn
          | some events =>
              simp only [htox, hevents, session, Status.live.injEq] at hn
              exact ⟨p.1, p.2, rfl, by rw [htox, ← hn], by rw [hevents, ← hn]⟩

/-- A change at one number changes the session of that number and no other. -/
theorem view_update {st : Status (Address × Address)} {tox : Option T}
    {events : Option CoreEvents}
    (hstatus : w'.instances.status = Function.update w.instances.status n st)
    (htox : w'.toxOf = Function.update w.toxOf n tox)
    (hevents : w'.eventsOf = Function.update w.eventsOf n events) :
    w'.view = Function.update w.view n (session st tox events) := by
  funext k
  by_cases hk : k = n
  · subst hk
    simp [view, hstatus, htox, hevents]
  · simp [view, hstatus, htox, hevents, hk]

/-! ### Calls on an instance -/

/-- A call on a live number runs on its session. It changes that session, or ends the process. -/
theorem Sound.onInstance_live (h : w.Sound) (c : InstanceCall T R) {s : Session T}
    (hn : w.view c.instanceNumber = .live s) :
    match c.func ⟨[]⟩ s with
    | .ok (value, env, s') => ∃ w', w.onInstance c ⟨[]⟩ = .ok (value, env, w') ∧ w'.Sound ∧
        w'.view = Function.update w.view c.instanceNumber (.live s') ∧
        w'.instances = w.instances
    | .error fatal => w.onInstance c ⟨[]⟩ = .error fatal := by
  let _ : Inhabited R := ⟨c.refused⟩
  obtain ⟨tox, events, hst, htox, hevents⟩ := live_of_view hn
  obtain ⟨hf, hs⟩ := h.wellFormed.status_live_iff.mp hst
  have hrun : w.onInstance c ⟨[]⟩ =
      (w.memory.access tox events (c.func ⟨[]⟩)).map
        fun r => (r.1, r.2.1, { w with memory := r.2.2 }) := by
    unfold onInstance
    rw [InstanceManager.withInstance_pair _ _ hf hs]
    cases w.memory.access tox events (c.func ⟨[]⟩) <;> rfl
  -- Both pointers lead to objects, so the functor runs on the session of the number.
  have haccess : w.memory.access tox events (c.func ⟨[]⟩) = (c.func ⟨[]⟩ s).map fun r =>
      (r.1, r.2.1, { w.memory with
        toxes := Function.update w.memory.toxes tox (some r.2.2.tox)
        events := Function.update w.memory.events events (some r.2.2.events) }) := by
    simp only [Memory.access, htox, hevents]
    cases c.func ⟨[]⟩ s <;> rfl
  rw [haccess] at hrun
  cases hfunc : c.func ⟨[]⟩ s with
  | error fatal =>
      rw [hfunc] at hrun
      exact hrun
  | ok r =>
      obtain ⟨value, env, s'⟩ := r
      rw [hfunc] at hrun
      have hp : (toxPointer ∘ w.instances.status) c.instanceNumber = some tox := by
        simp [hst, toxPointer]
      have hq : (eventsPointer ∘ w.instances.status) c.instanceNumber = some events := by
        simp [hst, eventsPointer]
      let after : World T := { w with memory := { w.memory with
        toxes := Function.update w.memory.toxes tox (some s'.tox)
        events := Function.update w.memory.events events (some s'.events) } }
      have htoxOf : after.toxOf = Function.update w.toxOf c.instanceNumber (some s'.tox) :=
        h.toxes.contents_write hp
      have heventsOf :
          after.eventsOf = Function.update w.eventsOf c.instanceNumber (some s'.events) :=
        h.events.contents_write hq
      have hstatus : after.instances.status
          = Function.update w.instances.status c.instanceNumber (.live (tox, events)) := by
        rw [← hst, Function.update_eq_self]
      refine ⟨after, hrun, ⟨h.wellFormed, h.toxes.write hp, h.events.write hq, ?_⟩,
        view_update hstatus htoxOf heventsOf, rfl⟩
      · -- The objects that were written are no fresh ones.
        intro a ha
        obtain ⟨hnotox, hnoevents⟩ := h.fresh a ha
        have hne : a ≠ tox := fun hc => by simp [hc, htox] at hnotox
        have hne' : a ≠ events := fun hc => by simp [hc, hevents] at hnoevents
        exact ⟨(Function.update_of_ne hne ..).trans hnotox,
          (Function.update_of_ne hne' ..).trans hnoevents⟩

/-- A call on a killed number throws, and changes nothing. -/
theorem Sound.onInstance_killed (h : w.Sound) (c : InstanceCall T R)
    (hn : w.view c.instanceNumber = .killed) :
    w.onInstance c ⟨[]⟩ = .ok (c.refused, throwToxKilledException ⟨[]⟩ c.instanceNumber
      "function called on killed tox instance", w) := by
  let _ : Inhabited R := ⟨c.refused⟩
  obtain ⟨hf, hs⟩ := h.wellFormed.status_killed_iff.mp (h.status_of_view.2 hn)
  unfold onInstance
  rw [InstanceManager.withInstance_null _ _ hf hs]
  rfl

/-- A call on a free number throws, and changes nothing. -/
theorem Sound.onInstance_free (h : w.Sound) (c : InstanceCall T R)
    (hn : w.view c.instanceNumber = .free) :
    ∃ message, w.onInstance c ⟨[]⟩
      = .ok (c.refused, throwIllegalStateException ⟨[]⟩ c.instanceNumber message, w) := by
  let _ : Inhabited R := ⟨c.refused⟩
  obtain ⟨message, hrun⟩ := InstanceManager.withInstance_refused
    (fun tox events env (memory : Memory T) => memory.access tox events (c.func env)) w.memory
    (h.wellFormed.status_free_iff.mp (h.status_of_view.1 hn))
  refine ⟨message, ?_⟩
  unfold onInstance
  rw [hrun]
  rfl

/-! ### `toxKill` and `toxFinalize` -/

/-- `toxKill` of a live number deletes its objects. -/
theorem Sound.toxKill_live (h : w.Sound) {s : Session T} (hn : w.view n = .live s) :
    ∃ w', w.toxKill n ⟨[]⟩ = .ok ((), ⟨[]⟩, w') ∧ w'.Sound ∧
      w'.view = Function.update w.view n .killed := by
  obtain ⟨tox, events, hst, htox, hevents⟩ := live_of_view hn
  obtain ⟨m, hkill, -, hwf, hstatus⟩ := h.wellFormed.kill_live ⟨[]⟩ hst
  have hp : (toxPointer ∘ w.instances.status) n = some tox := by simp [hst, toxPointer]
  have hq : (eventsPointer ∘ w.instances.status) n = some events := by
    simp [hst, eventsPointer]
  -- The number loses both pointers, and `destroy` deletes what they point to.
  have hp' : toxPointer ∘ m.status
      = Function.update (toxPointer ∘ w.instances.status) n none := by
    rw [hstatus, Function.comp_update]
    rfl
  have hq' : eventsPointer ∘ m.status
      = Function.update (eventsPointer ∘ w.instances.status) n none := by
    rw [hstatus, Function.comp_update]
    rfl
  have hrun : w.toxKill n ⟨[]⟩ = .ok ((), ⟨[]⟩, ⟨m, { w.memory with
      toxes := Function.update w.memory.toxes tox none
      events := Function.update w.memory.events events none }⟩) := by
    simp [toxKill, hkill, Memory.destroy, delete, htox, hevents, bind, Except.bind, pure,
      Except.pure]
  let after : World T := ⟨m, { w.memory with
    toxes := Function.update w.memory.toxes tox none
    events := Function.update w.memory.events events none }⟩
  have htoxOf : after.toxOf = Function.update w.toxOf n none := by
    show contents _ (toxPointer ∘ m.status) = _
    rw [hp']
    exact h.toxes.contents_free hp
  have heventsOf : after.eventsOf = Function.update w.eventsOf n none := by
    show contents _ (eventsPointer ∘ m.status) = _
    rw [hq']
    exact h.events.contents_free hq
  have hview : after.view = Function.update w.view n (session .killed none none) :=
    view_update hstatus htoxOf heventsOf
  refine ⟨after, hrun, ⟨hwf, ?_, ?_, ?_⟩, hview⟩
  · show Owned _ (toxPointer ∘ m.status)
    rw [hp']
    exact h.toxes.free hp
  · show Owned _ (eventsPointer ∘ m.status)
    rw [hq']
    exact h.events.free hq
  · intro a ha
    obtain ⟨hnotox, hnoevents⟩ := h.fresh a ha
    constructor
    · show Function.update w.memory.toxes tox none a = none
      by_cases hat : a = tox
      · rw [hat, Function.update_self]
      · rw [Function.update_of_ne hat, hnotox]
    · show Function.update w.memory.events events none a = none
      by_cases hae : a = events
      · rw [hae, Function.update_self]
      · rw [Function.update_of_ne hae, hnoevents]

/-- A manager with the same statuses stands for the same sessions. -/
theorem Sound.congr (h : w.Sound) {m : InstanceManager Address Address} (hm : m.WellFormed)
    (hstatus : m.status = w.instances.status) :
    Sound { w with instances := m } ∧ view { w with instances := m } = w.view := by
  constructor
  · exact ⟨hm, by rw [hstatus]; exact h.toxes, by rw [hstatus]; exact h.events, h.fresh⟩
  · funext n
    simp only [view, toxOf, eventsOf, hstatus]

/-- `toxKill` of a killed number changes nothing. -/
theorem Sound.toxKill_killed (h : w.Sound) (hn : w.view n = .killed) :
    ∃ w', w.toxKill n ⟨[]⟩ = .ok ((), ⟨[]⟩, w') ∧ w'.Sound ∧ w'.view = w.view := by
  obtain ⟨m, hkill, -, hwf, hstatus⟩ := h.wellFormed.kill_killed ⟨[]⟩ (h.status_of_view.2 hn)
  obtain ⟨hsound, hview⟩ := h.congr hwf hstatus
  refine ⟨_, ?_, hsound, hview⟩
  simp [toxKill, hkill, Memory.destroy, delete, InstancePointers.null, bind, Except.bind, pure,
    Except.pure]

/-- `toxKill` of a free number throws unless the number is 0, and changes nothing. -/
theorem Sound.toxKill_free (h : w.Sound) (hn : w.view n = .free) :
    ∃ message, w.toxKill n ⟨[]⟩ = .ok ((),
      if n = 0 then ⟨[]⟩ else throwIllegalStateException ⟨[]⟩ n message, w) := by
  obtain ⟨message, hkill⟩ := InstanceManager.kill_refused ⟨[]⟩
    (h.wellFormed.status_free_iff.mp (h.status_of_view.1 hn))
  refine ⟨message, ?_⟩
  simp [toxKill, hkill, Memory.destroy, delete, InstancePointers.null, bind, Except.bind, pure,
    Except.pure]

/-- `toxFinalize` of a live number reports the leak, and changes nothing. -/
theorem Sound.toxFinalize_live (h : w.Sound) {s : Session T} (hn : w.view n = .live s) :
    w.toxFinalize n ⟨[]⟩ = .ok ((), throwIllegalStateException ⟨[]⟩ n
      ("Leaked Tox instance #" ++ toString n), w) := by
  obtain ⟨tox, events, hst, -, -⟩ := live_of_view hn
  simp [toxFinalize, h.wellFormed.finalize_live ⟨[]⟩ hst, bind, Except.bind, pure, Except.pure]

/-- `toxFinalize` of a killed number frees it. -/
theorem Sound.toxFinalize_killed (h : w.Sound) (hn : w.view n = .killed) :
    ∃ w', w.toxFinalize n ⟨[]⟩ = .ok ((), ⟨[]⟩, w') ∧ w'.Sound ∧
      w'.view = Function.update w.view n .free := by
  have hst := h.status_of_view.2 hn
  obtain ⟨m, hfinalize, -, hwf, hstatus⟩ := h.wellFormed.finalize_killed ⟨[]⟩ hst
  -- The number had no pointers, so the pointers of all numbers are what they were.
  have hp : toxPointer ∘ m.status = toxPointer ∘ w.instances.status := by
    have hnone : toxPointer (w.instances.status n) = none := by rw [hst]; rfl
    rw [hstatus, Function.comp_update]
    exact (congrArg _ hnone.symm).trans (Function.update_eq_self n _)
  have hq : eventsPointer ∘ m.status = eventsPointer ∘ w.instances.status := by
    have hnone : eventsPointer (w.instances.status n) = none := by rw [hst]; rfl
    rw [hstatus, Function.comp_update]
    exact (congrArg _ hnone.symm).trans (Function.update_eq_self n _)
  let after : World T := { w with instances := m }
  have htoxOf : after.toxOf = Function.update w.toxOf n (w.toxOf n) := by
    rw [Function.update_eq_self, toxOf, toxOf, hp]
  have heventsOf : after.eventsOf = Function.update w.eventsOf n (w.eventsOf n) := by
    rw [Function.update_eq_self, eventsOf, eventsOf, hq]
  have hrun : w.toxFinalize n ⟨[]⟩ = .ok ((), ⟨[]⟩, after) := by
    simp [toxFinalize, hfinalize, after, bind, Except.bind, pure, Except.pure]
  have hview : after.view
      = Function.update w.view n (session .free (w.toxOf n) (w.eventsOf n)) :=
    view_update hstatus htoxOf heventsOf
  exact ⟨after, hrun, ⟨hwf, hp ▸ h.toxes, hq ▸ h.events, h.fresh⟩, hview⟩

/-- `toxFinalize` of a free number throws unless the number is 0, and changes nothing. -/
theorem Sound.toxFinalize_free (h : w.Sound) (hn : w.view n = .free) :
    ∃ message, w.toxFinalize n ⟨[]⟩ = .ok ((),
      if n = 0 then ⟨[]⟩ else throwIllegalStateException ⟨[]⟩ n message, w) := by
  obtain ⟨message, hfinalize⟩ := InstanceManager.finalize_refused ⟨[]⟩
    (h.wellFormed.status_free_iff.mp (h.status_of_view.1 hn))
  exact ⟨message, by simp [toxFinalize, hfinalize, bind, Except.bind, pure, Except.pure]⟩

/-! ### `toxNew` -/

/-- `toxNew` puts the pointers to the new `Tox` and its new `Events` into the manager. -/
theorem toxNew_of_add {api : ToxApi T} {arguments : ToxCoreJni.NewArguments} {tox : T}
    (hnew : newTox? api arguments = some tox) {m : InstanceManager Address Address}
    (hadd : w.instances.add (some w.memory.next) (some (w.memory.next + 1)) = .ok (m, n)) :
    w.toxNew api arguments ⟨[]⟩ = .ok (n, ⟨[]⟩, ⟨m, (w.memory.newTox tox).1.newEvents.1⟩) := by
  unfold newTox? at hnew
  cases hoptions : ToxCoreJni.toxOptions arguments with
  | error fatal => simp [hoptions] at hnew
  | ok options =>
      rw [hoptions] at hnew
      simp only [Option.ite_none_right_eq_some] at hnew
      obtain ⟨⟨hallocated, herror⟩, htox⟩ := hnew
      simp [toxNew, hallocated, hoptions, htox, herror, withErrorHandling, ToxErrNew.handle,
        Memory.newTox, Memory.newEvents, hadd, bind, Except.bind, pure, Except.pure]

/-- `toxNew` makes a free number live, with a new `Tox` and an empty queue of events. -/
theorem Sound.toxNew_some (h : w.Sound) {api : ToxApi T} {arguments : ToxCoreJni.NewArguments}
    {tox : T} (hnew : newTox? api arguments = some tox) :
    ∃ w' n, w.toxNew api arguments ⟨[]⟩ = .ok (n, ⟨[]⟩, w') ∧
      (w'.instances.instances.length < 2 ^ 31 → w'.Sound ∧ n ≠ 0 ∧ w.view n = .free ∧
        w'.view = Function.update w.view n (.live ⟨tox, {}⟩)) := by
  -- The two new objects get the next two addresses, at which there is nothing yet.
  obtain ⟨hnotox, hnoevents⟩ := h.fresh w.memory.next le_rfl
  obtain ⟨-, hnoevents'⟩ := h.fresh (w.memory.next + 1) (Nat.le_succ _)
  obtain ⟨m, n, hadd, hspec⟩ := h.wellFormed.add_spec w.memory.next (w.memory.next + 1)
  have hrun := toxNew_of_add hnew hadd
  let after : World T := ⟨m, (w.memory.newTox tox).1.newEvents.1⟩
  refine ⟨after, n, hrun, fun hsize => ?_⟩
  obtain ⟨hwf, hzero, hfree, hstatus⟩ := hspec hsize
  have hp : (toxPointer ∘ w.instances.status) n = none := by simp [hfree, toxPointer]
  have hq : (eventsPointer ∘ w.instances.status) n = none := by simp [hfree, eventsPointer]
  have hp' : toxPointer ∘ m.status
      = Function.update (toxPointer ∘ w.instances.status) n (some w.memory.next) := by
    rw [hstatus, Function.comp_update]
    rfl
  have hq' : eventsPointer ∘ m.status
      = Function.update (eventsPointer ∘ w.instances.status) n (some (w.memory.next + 1)) := by
    rw [hstatus, Function.comp_update]
    rfl
  have htoxOf : after.toxOf = Function.update w.toxOf n (some tox) := by
    show contents _ (toxPointer ∘ m.status) = _
    rw [hp']
    exact h.toxes.contents_allocate hnotox
  have heventsOf : after.eventsOf = Function.update w.eventsOf n (some {}) := by
    show contents _ (eventsPointer ∘ m.status) = _
    rw [hq']
    exact h.events.contents_allocate hnoevents'
  have hview : after.view
      = Function.update w.view n (session (.live (w.memory.next, w.memory.next + 1)) (some tox)
        (some {})) :=
    view_update hstatus htoxOf heventsOf
  refine ⟨⟨hwf, ?_, ?_, ?_⟩, hzero, ?_, hview⟩
  · show Owned _ (toxPointer ∘ m.status)
    rw [hp']
    exact h.toxes.allocate hnotox hp
  · show Owned _ (eventsPointer ∘ m.status)
    rw [hq']
    exact h.events.allocate hnoevents' hq
  · intro a ha
    have hle : w.memory.next + 2 ≤ a := ha
    clear hsize
    obtain ⟨hnotox', hnoevents''⟩ := h.fresh a (Nat.le_of_add_right_le hle)
    have hne : a ≠ w.memory.next := (Nat.lt_of_lt_of_le (by simp) hle).ne'
    have hne' : a ≠ w.memory.next + 1 := (Nat.lt_of_lt_of_le (by simp) hle).ne'
    exact ⟨(Function.update_of_ne hne ..).trans hnotox',
      (Function.update_of_ne hne' ..).trans hnoevents''⟩
  · show session (w.instances.status n) _ _ = .free
    rw [hfree]
    rfl

/-- `with_error_handling` on a code other than OK throws, and changes nothing. -/
theorem withErrorHandling_failed {Value σ : Type} {error : ToxErrNew} (herror : error ≠ .ok)
    (value : Value) (successFunc : Value → JNIEnv → σ → Except Fatal (Jint × JNIEnv × σ)) (s : σ) :
    withErrorHandling "core" "" error.handle error.code value ⟨[]⟩ successFunc s
      = .ok (0, ⟨error.thrown⟩, s) := by
  cases error with
  | ok => exact absurd rfl herror
  | _ => rfl

/-- When `toxNew` makes no `Tox`, it throws and changes nothing, or the process ends. -/
theorem toxNew_none {api : ToxApi T} {arguments : ToxCoreJni.NewArguments}
    (hnew : newTox? api arguments = none) :
    (∃ fatal, w.toxNew api arguments ⟨[]⟩ = .error fatal) ∨
      w.toxNew api arguments ⟨[]⟩ = .ok (0, ⟨newThrown api arguments⟩, w) := by
  unfold toxNew newThrown
  cases hallocated : api.optionsNew with
  | false => exact .inr rfl
  | true =>
      unfold newTox? at hnew
      cases hoptions : ToxCoreJni.toxOptions arguments with
      | error fatal => exact .inl ⟨fatal, rfl⟩
      | ok options =>
          rw [hoptions] at hnew
          by_cases herror : (api.new options).2 = .ok
          · have hnone : (api.new options).1 = none := by simpa [hallocated, herror] using hnew
            left
            refine ⟨.assertion "tox != nullptr", ?_⟩
            simp [hnone, herror, withErrorHandling, ToxErrNew.handle, bind, Except.bind]
          · right
            simp only [if_true, bind, Except.bind]
            exact withErrorHandling_failed herror _ _ w

end World

/-! ### Any call -/

section

variable {T : Type} {w w' w₁ : World T} {codec : Codec CoreEvents} {api : ToxApi T} {n : Jint}
  {env : JNIEnv} {reply : Reply} {l : Turn T} {ls : List (Turn T)}

/-- What a call does: the sessions after it, and what Java gets back. -/
structure Steps (codec : Codec CoreEvents) (w : World T) (l : Turn T) (w' : World T) : Prop where
  sound : w'.Sound
  view : ∀ n, w'.view n = ownStep codec n (w.view n) l
  replies : Replies codec w.view l

/-- One session changes, and it is that of the number that the call is about. -/
theorem view_of_update {s : Status (Session T)} (hview : w'.view = Function.update w.view n s)
    (hself : ownStep codec n (w.view n) l = s)
    (hother : ∀ k, k ≠ n → ownStep codec k (w.view k) l = w.view k) (k : Jint) :
    w'.view k = ownStep codec k (w.view k) l := by
  rw [hview]
  by_cases hk : k = n
  · subst hk
    rw [Function.update_self, hself]
  · rw [Function.update_of_ne hk, hother k hk]

/-- `toxNew` with a `Tox` makes a free number live. Without one it returns 0, and nothing changes.
-/
theorem steps_toxNew (h : w.Sound) {arguments : ToxCoreJni.NewArguments}
    (hexec : w.exec codec api (.toxNew arguments) = .ok (w', reply))
    (hsize : w'.instances.instances.length < 2 ^ 31) :
    Steps codec w ⟨api, .toxNew arguments, reply⟩ w' := by
  have hresult {n : Jint} {env : JNIEnv} {w₁ : World T}
      (hrun : w.toxNew api arguments ⟨[]⟩ = .ok (n, env, w₁)) :
      w₁ = w' ∧ (⟨.int n, env.thrown⟩ : Reply) = reply := by
    simpa [World.exec, hrun, bind, Except.bind, pure, Except.pure] using hexec
  cases hnew : newTox? api arguments with
  | some tox =>
      obtain ⟨w₁, n, hrun, hspec⟩ := h.toxNew_some hnew
      obtain ⟨rfl, rfl⟩ := hresult hrun
      obtain ⟨hsound, hzero, hfree, hview⟩ := hspec hsize
      refine ⟨hsound, view_of_update hview ?_ ?_, ?_⟩
      · simp [ownStep, hnew]
      · intro k hk
        have hkn : n ≠ k := fun hc => hk hc.symm
        simp [ownStep, hnew, hkn]
      · simp only [Replies, hnew]
        exact ⟨n, rfl, hzero, hfree⟩
  | none =>
      cases World.toxNew_none (w := w) hnew with
      | inl hfatal =>
          obtain ⟨fatal, hrun⟩ := hfatal
          simp [World.exec, hrun, bind, Except.bind] at hexec
      | inr hrun =>
          obtain ⟨rfl, rfl⟩ := hresult hrun
          exact ⟨h, fun k => by simp [ownStep, hnew], by simp [Replies, hnew]⟩

/-- `toxKill` ends the session of a live number, and changes no other. -/
theorem steps_toxKill (h : w.Sound)
    (hexec : w.exec codec api (.toxKill n) = .ok (w', reply)) :
    Steps codec w ⟨api, .toxKill n, reply⟩ w' := by
  have hresult {env : JNIEnv} {w₁ : World T} (hrun : w.toxKill n ⟨[]⟩ = .ok ((), env, w₁)) :
      w₁ = w' ∧ (⟨.void, env.thrown⟩ : Reply) = reply := by
    simpa [World.exec, hrun, bind, Except.bind, pure, Except.pure] using hexec
  have hother : ∀ k, k ≠ n →
      ownStep codec k (w.view k) ⟨api, .toxKill n, reply⟩ = w.view k := fun k hk => by
    have hkn : n ≠ k := fun hc => hk hc.symm
    simp [ownStep, hkn]
  cases hn : w.view n with
  | live s =>
      obtain ⟨w₁, hrun, hsound, hview⟩ := h.toxKill_live hn
      obtain ⟨rfl, rfl⟩ := hresult hrun
      refine ⟨hsound, view_of_update hview ?_ hother, by simp [Replies, hn]⟩
      simp [ownStep, hn, Status.destroyed]
  | killed =>
      obtain ⟨w₁, hrun, hsound, hview⟩ := h.toxKill_killed hn
      obtain ⟨rfl, rfl⟩ := hresult hrun
      have hself : w₁.view = Function.update w.view n .killed := by
        rw [hview, ← hn, Function.update_eq_self]
      refine ⟨hsound, view_of_update hself ?_ hother, by simp [Replies, hn]⟩
      simp [ownStep, hn, Status.destroyed]
  | free =>
      obtain ⟨message, hrun⟩ := h.toxKill_free hn
      obtain ⟨rfl, rfl⟩ := hresult hrun
      have hself : w.view = Function.update w.view n .free := by
        rw [← hn, Function.update_eq_self]
      refine ⟨h, view_of_update hself ?_ hother, ?_⟩
      · simp [ownStep, hn, Status.destroyed]
      · simp only [Replies, hn]
        exact ⟨message, by split <;> rfl⟩

/-- `toxFinalize` frees a killed number. It throws for a live one, whose session goes on. -/
theorem steps_toxFinalize (h : w.Sound)
    (hexec : w.exec codec api (.toxFinalize n) = .ok (w', reply)) :
    Steps codec w ⟨api, .toxFinalize n, reply⟩ w' := by
  have hresult {env : JNIEnv} {w₁ : World T} (hrun : w.toxFinalize n ⟨[]⟩ = .ok ((), env, w₁)) :
      w₁ = w' ∧ (⟨.void, env.thrown⟩ : Reply) = reply := by
    simpa [World.exec, hrun, bind, Except.bind, pure, Except.pure] using hexec
  have hother : ∀ k, k ≠ n →
      ownStep codec k (w.view k) ⟨api, .toxFinalize n, reply⟩ = w.view k := fun k hk => by
    have hkn : n ≠ k := fun hc => hk hc.symm
    simp [ownStep, hkn]
  cases hn : w.view n with
  | live s =>
      obtain ⟨rfl, rfl⟩ := hresult (h.toxFinalize_live hn)
      have hself : w.view = Function.update w.view n (.live s) := by
        rw [← hn, Function.update_eq_self]
      refine ⟨h, view_of_update hself ?_ hother, by simp [Replies, hn]⟩
      simp [ownStep, hn, Status.released]
  | killed =>
      obtain ⟨w₁, hrun, hsound, hview⟩ := h.toxFinalize_killed hn
      obtain ⟨rfl, rfl⟩ := hresult hrun
      refine ⟨hsound, view_of_update hview ?_ hother, by simp [Replies, hn]⟩
      simp [ownStep, hn, Status.released]
  | free =>
      obtain ⟨message, hrun⟩ := h.toxFinalize_free hn
      obtain ⟨rfl, rfl⟩ := hresult hrun
      have hself : w.view = Function.update w.view n .free := by
        rw [← hn, Function.update_eq_self]
      refine ⟨h, view_of_update hself ?_ hother, ?_⟩
      · simp [ownStep, hn, Status.released]
      · simp only [Replies, hn]
        exact ⟨message, by split <;> rfl⟩

/-- A call on a number changes the session of this number, and no other. -/
theorem steps_onInstance (h : w.Sound) {request : InstanceRequest}
    (hexec : w.exec codec api (.onInstance request) = .ok (w', reply)) :
    Steps codec w ⟨api, .onInstance request, reply⟩ w' := by
  cases hcall : request.call codec api with
  | error fatal => simp [World.exec, hcall, bind, Except.bind] at hexec
  | ok c =>
      have hresult {value : JavaValue} {env : JNIEnv} {w₁ : World T}
          (hrun : w.onInstance c ⟨[]⟩ = .ok (value, env, w₁)) :
          w₁ = w' ∧ (⟨value, env.thrown⟩ : Reply) = reply := by
        simpa [World.exec, hcall, hrun, bind, Except.bind, pure, Except.pure] using hexec
      have hother : ∀ k, k ≠ c.instanceNumber →
          ownStep codec k (w.view k) ⟨api, .onInstance request, reply⟩ = w.view k := fun k hk => by
        have hkn : c.instanceNumber ≠ k := fun hc => hk hc.symm
        simp [ownStep, hcall, hkn]
      cases hn : w.view c.instanceNumber with
      | live s =>
          have hlive := h.onInstance_live c hn
          cases hfunc : c.func ⟨[]⟩ s with
          | error fatal =>
              rw [hfunc] at hlive
              simp [World.exec, hcall, hlive, bind, Except.bind] at hexec
          | ok r =>
              obtain ⟨value, env, s'⟩ := r
              rw [hfunc] at hlive
              obtain ⟨w₁, hrun, hsound, hview, -⟩ := hlive
              obtain ⟨rfl, rfl⟩ := hresult hrun
              refine ⟨hsound, view_of_update hview ?_ hother, ?_⟩
              · simp [ownStep, hcall, hn, InstanceCall.after, hfunc]
              · refine ⟨c, hcall, ?_⟩
                rw [hn]
                exact ⟨env, s', hfunc, rfl⟩
      | killed =>
          obtain ⟨rfl, rfl⟩ := hresult (h.onInstance_killed c hn)
          have hself : w.view = Function.update w.view c.instanceNumber .killed := by
            rw [← hn, Function.update_eq_self]
          refine ⟨h, view_of_update hself ?_ hother, ?_⟩
          · simp [ownStep, hcall, hn, InstanceCall.after]
          · refine ⟨c, hcall, ?_⟩
            rw [hn]
      | free =>
          obtain ⟨message, hrun⟩ := h.onInstance_free c hn
          obtain ⟨rfl, rfl⟩ := hresult hrun
          have hself : w.view = Function.update w.view c.instanceNumber .free := by
            rw [← hn, Function.update_eq_self]
          refine ⟨h, view_of_update hself ?_ hother, ?_⟩
          · simp [ownStep, hcall, hn, InstanceCall.after]
          · refine ⟨c, hcall, ?_⟩
            rw [hn]
            exact ⟨message, rfl⟩

/-- A call keeps the invariant and changes the sessions as it should. -/
theorem World.Sound.step (h : w.Sound) (hstep : (sessions codec).step w l w') :
    Steps codec w l w' := by
  obtain ⟨api, request, reply⟩ := l
  obtain ⟨hexec, hsize⟩ := hstep
  cases request with
  | toxNew arguments => exact steps_toxNew h hexec hsize
  | toxKill n => exact steps_toxKill h hexec
  | toxFinalize n => exact steps_toxFinalize h hexec
  | onInstance request => exact steps_onInstance h hexec

/-! ### Any sequence of calls -/

/-- The world is sound after any sequence of calls, and its sessions are those of the calls. -/
theorem sound_of_run (run : (sessions codec).Run w ls) :
    w.Sound ∧ w.view = sessionOf codec ls := by
  refine run.invariant (I := fun w ls => w.Sound ∧ w.view = sessionOf codec ls) ?_ ?_
  · rintro w rfl
    exact ⟨World.sound_empty, funext World.view_empty⟩
  · rintro w ls l w' ⟨hsound, hview⟩ hstep
    have hsteps := hsound.step hstep
    refine ⟨hsteps.sound, funext fun n => ?_⟩
    rw [hsteps.view n, hview, sessionOf, sessionOf, List.foldl_append]
    rfl

/-- Every number is a session of its own, and no object is lost or shared. -/
structure Isolated (codec : Codec CoreEvents) (w : World T) (ls : List (Turn T)) : Prop where
  /-- The session of a number is what the calls with this number made of it. -/
  view : ∀ n, w.view n = sessionOf codec ls n
  /-- Each call returns what the session of its number gives. -/
  replies : ∀ before l after, ls = before ++ l :: after → Replies codec (sessionOf codec before) l
  /-- Each object in memory is that of one live number. -/
  toxes : Owned w.memory.toxes (toxPointer ∘ w.instances.status)
  events : Owned w.memory.events (eventsPointer ∘ w.instances.status)

/-- After any sequence of calls from Java, every number is a session of its own. -/
theorem isolated_of_run (run : (sessions codec).Run w ls) : Isolated codec w ls := by
  obtain ⟨hsound, hview⟩ := sound_of_run run
  refine ⟨fun n => congrFun hview n, ?_, hsound.toxes, hsound.events⟩
  rintro before l after rfl
  obtain ⟨w₁, w₂, hbefore, hstep⟩ := run.step_of_append
  obtain ⟨hsound₁, hview₁⟩ := sound_of_run hbefore
  rw [← hview₁]
  exact (hsound₁.step hstep).replies

/-- A sequence of calls, with one more call. -/
theorem run_call (run : (sessions codec).Run w ls) (api : ToxApi T) (request : CoreRequest)
    (hexec : w.exec codec api request = .ok (w', reply))
    (hsize : w'.instances.instances.length < 2 ^ 31) :
    (sessions codec).Run w' (ls ++ [⟨api, request, reply⟩]) :=
  run.step ⟨hexec, hsize⟩

/-- The calls of the example are a run. -/
theorem run_twoInstances :
    ∃ w, (sessions Events.Core.coreCodec).Run w twoInstances := by
  have h₀ : (sessions Events.Core.coreCodec).Run (.empty : World UInt32) [] := .init rfl
  have h₁ := run_call h₀ nospamOnly (.toxNew plainArguments) rfl (by decide)
  have h₂ := run_call h₁ nospamOnly (.toxNew plainArguments) rfl (by decide)
  have h₃ := run_call h₂ nospamOnly (.onInstance (.toxSelfSetNospam 1 7)) rfl (by decide)
  have h₄ := run_call h₃ nospamOnly (.onInstance (.toxSelfSetNospam 2 9)) rfl (by decide)
  have h₅ := run_call h₄ nospamOnly (.toxKill 2) rfl (by decide)
  have h₆ := run_call h₅ nospamOnly (.toxFinalize 2) rfl (by decide)
  have h₇ := run_call h₆ nospamOnly (.toxNew plainArguments) rfl (by decide)
  have h₈ := run_call h₇ nospamOnly (.onInstance (.toxSelfGetNospam 2)) rfl (by decide)
  exact ⟨_, run_call h₈ nospamOnly (.onInstance (.toxSelfGetNospam 1)) rfl (by decide)⟩

/-- The number 2 was used before, and its new session starts anew. -/
theorem isolated_twoInstances : (∃ w, Isolated Events.Core.coreCodec w twoInstances) ∧
    sessionOf Events.Core.coreCodec twoInstances 1 = .live ⟨7, {}⟩ ∧
    sessionOf Events.Core.coreCodec twoInstances 2 = .live ⟨0, {}⟩ :=
  ⟨run_twoInstances.imp fun _ run => isolated_of_run run, rfl, rfl⟩

end

end Tox4j.Native
