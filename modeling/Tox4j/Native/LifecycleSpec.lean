import Tox4j.Native.Lifecycle
import Tox4j.Native.ManagerSpec

/-!
# `Tox4j.Native.LifecycleSpec`: what the lifecycle entry points do

First the operations of the instance manager once more, by the status of their number
alone. Then one lemma for each entry point and each case: what it returns, what it throws,
how it changes the status of the numbers, and which effects it appends.

`coreHolder` and `avHolder` read the effects: the object that a number was last allocated
to. `Safe` says of a list of effects that each caller destroyed and freed only what was
allocated to itself, and that a core was destroyed after every `ToxAV` on it.
-/

set_option autoImplicit false

namespace Tox4j.Native

open Tox4j.Lib

/-! ### The manager, by the status of a number -/

namespace InstanceManager

variable {Object Events : Type} {m : InstanceManager Object Events} {n : Jint} (env : JNIEnv)
  {object : Object} {events : Events}

/-- `add` returns a number that was free and makes it live. -/
theorem WellFormed.add_spec (h : m.WellFormed) (object : Object) (events : Events) :
    ∃ m' n, m.add (some object) (some events) = .ok (m', n) ∧
      (m'.instances.length < 2 ^ 31 → m'.WellFormed ∧ n ≠ 0 ∧ m.status n = .free ∧
        m'.status = Function.update m.status n (.live (object, events))) := by
  cases hfl : m.freelist.getLast? with
  | some n =>
      have hmem : n ∈ m.freelist := List.mem_of_getLast? hfl
      refine ⟨_, n, add_reuse h hfl object events, fun _ => ⟨h.reuse hfl object events, ?_,
        status_of_mem hmem, h.status_reuse hfl object events⟩⟩
      rintro rfl
      exact absurd (h.free_inRange 0 hmem).1 (by decide)
  | none =>
      have hnil : m.freelist = [] := List.getLast?_eq_none_iff.mp hfl
      refine ⟨m.grown object events, _, add_grow h hnil object events, fun hlt => ?_⟩
      have hlen : (m.grown object events).instances.length = m.instances.length + 1 := by
        simp [InstanceManager.grown]
      have hsize : m.instances.length + 1 < 2 ^ 31 := hlen ▸ hlt
      refine ⟨h.grown object events hnil hsize, fun hzero => ?_,
        status_of_not_inRange (WellFormed.not_inRange_new hsize),
        WellFormed.status_grown object events hnil hsize⟩
      have hint := toInt_ofNat_size hsize
      rw [hzero] at hint
      have hzero' : (0 : Jint).toInt = 0 := rfl
      omega

/-- `kill` on a live number destroys its pair. -/
theorem WellFormed.kill_live (h : m.WellFormed) (hn : m.status n = .live (object, events)) :
    ∃ m', m.kill env n = .ok (m', env, ⟨some object, some events⟩) ∧
      m'.freelist = m.freelist ∧ m'.WellFormed ∧
      m'.status = Function.update m.status n .killed := by
  obtain ⟨hf, hs⟩ := h.status_live_iff.mp hn
  exact ⟨_, kill_ok hf hs, freelist_setSlot, h.emptied hs, status_emptied hf hs⟩

/-- `kill` on a killed number destroys nothing. -/
theorem WellFormed.kill_killed (h : m.WellFormed) (hn : m.status n = .killed) :
    ∃ m', m.kill env n = .ok (m', env, .null) ∧ m'.freelist = m.freelist ∧ m'.WellFormed ∧
      m'.status = m.status := by
  obtain ⟨hf, hs⟩ := h.status_killed_iff.mp hn
  refine ⟨_, kill_ok hf hs, freelist_setSlot, h.emptied hs, ?_⟩
  rw [status_emptied hf hs, ← hn, Function.update_eq_self]

/-- The number 0 has no slot. -/
theorem not_inRange_zero : ¬ m.InRange 0 := fun h => absurd h.1 (by decide)

/-- `kill` on the number of a half-constructed object does nothing. -/
theorem kill_zero : m.kill env 0 = .ok (m, env, .null) := by
  obtain ⟨message, h⟩ := kill_refused env (.inl (not_inRange_zero (m := m)))
  simpa using h

/-- `finalize` on a live number reports a leak. -/
theorem WellFormed.finalize_live (h : m.WellFormed) (hn : m.status n = .live (object, events)) :
    m.finalize env n = .ok (m, throwIllegalStateException env n
      ("Leaked Tox instance #" ++ toString n)) := by
  obtain ⟨hf, hs⟩ := h.status_live_iff.mp hn
  exact finalize_pair hf hs

/-- `finalize` on a killed number frees it. -/
theorem WellFormed.finalize_killed (h : m.WellFormed) (hn : m.status n = .killed) :
    ∃ m', m.finalize env n = .ok (m', env) ∧ m'.freelist = m.freelist ++ [n] ∧ m'.WellFormed ∧
      m'.status = Function.update m.status n .free := by
  obtain ⟨hf, hs⟩ := h.status_killed_iff.mp hn
  exact ⟨_, finalize_null hf hs, rfl, h.released hf hs, status_released⟩

/-- `finalize` on the number of a half-constructed object does nothing. -/
theorem finalize_zero : m.finalize env 0 = .ok (m, env) := by
  obtain ⟨message, h⟩ := finalize_refused env (.inl (not_inRange_zero (m := m)))
  simpa using h

/-- A free number of the table is on the freelist exactly once. -/
theorem WellFormed.count_freelist (h : m.WellFormed) (hn : n ∈ m.freelist) :
    m.freelist.count n = 1 :=
  List.count_eq_one_of_mem h.nodup hn

end InstanceManager

/-! ### The history of the native layer -/

namespace Effect

/-- Who a number holds a `Tox` for, after one more effect. -/
def coreHold (holder : Jint → Option CoreRef) : Effect → Jint → Option CoreRef
  | .allocatedCore owner n => Function.update holder n (some owner)
  | _ => holder

/-- Who a number holds a `ToxAV` for, after one more effect. -/
def avHold (holder : Jint → Option AvRef) : Effect → Jint → Option AvRef
  | .allocatedAv owner _ n => Function.update holder n (some owner)
  | _ => holder

end Effect

/-- The object that the number of a `Tox` was last allocated to. -/
def coreHolder (effects : List Effect) : Jint → Option CoreRef :=
  effects.foldl Effect.coreHold fun _ => none

/-- The object that the number of a `ToxAV` was last allocated to. -/
def avHolder (effects : List Effect) : Jint → Option AvRef :=
  effects.foldl Effect.avHold fun _ => none

/-- The effect `e` is fine after the effects `before`. -/
def Effect.SafeAfter (before : List Effect) : Effect → Prop
  | .allocatedCore _ _ | .allocatedAv _ _ _ => True
  | .destroyedCore caller tox =>
    caller = tox ∧ ∀ a n, .allocatedAv a tox n ∈ before → .destroyedAv a ⟨a, tox⟩ ∈ before
  | .destroyedAv caller toxav => caller = toxav.owner
  | .freedCore caller n => coreHolder before n = some caller
  | .freedAv caller n => avHolder before n = some caller

/-- Every effect is fine after those before it. -/
def Safe (effects : List Effect) : Prop :=
  ∀ before e after, effects = before ++ e :: after → e.SafeAfter before

variable {effects : List Effect} {e : Effect}

/-- The holders of the core numbers, after one more effect. -/
@[simp] theorem coreHolder_concat :
    coreHolder (effects ++ [e]) = Effect.coreHold (coreHolder effects) e := by
  simp [coreHolder]

/-- The holders of the AV numbers, after one more effect. -/
@[simp] theorem avHolder_concat :
    avHolder (effects ++ [e]) = Effect.avHold (avHolder effects) e := by
  simp [avHolder]

/-- Without effects there is nothing to show. -/
theorem safe_nil : Safe [] := fun _ _ _ h => by simp at h

/-- One more effect is safe when it is fine after all others. What comes before an older effect
stays the same. -/
theorem Safe.concat (h : Safe effects) (he : e.SafeAfter effects) : Safe (effects ++ [e]) := by
  intro before e' after heq
  rcases List.eq_nil_or_concat after with rfl | ⟨after, x, rfl⟩
  · obtain ⟨hbefore, hlast⟩ := List.append_inj' heq rfl
    cases hlast
    exact hbefore ▸ he
  · have hsplit : effects ++ [e] = (before ++ e' :: after) ++ [x] := by simpa using heq
    exact h before e' after (List.append_inj' hsplit rfl).1

/-! ### The entry points -/

namespace Natives

open InstanceManager (WellFormed)

variable {natives : Natives} {n : Jint} (self : CoreRef) {a : AvRef} {nav : NativeAv}

/-- `toxNew` makes a `Tox`, or throws and changes nothing. -/
theorem toxNew_spec (h : natives.coreInstances.WellFormed) (error : ToxErrNew) :
    (∃ m' n, natives.toxNew self error ⟨[]⟩ = .ok (n, ⟨[]⟩, { natives with
        coreInstances := m', effects := natives.effects ++ [.allocatedCore self n] }) ∧
      (m'.instances.length < 2 ^ 31 → m'.WellFormed ∧ n ≠ 0 ∧
        natives.coreInstances.status n = .free ∧
        m'.status = Function.update natives.coreInstances.status n (.live (self, self)))) ∨
    ∃ e, toxNew self error ⟨[]⟩ natives = .ok (0, ⟨[e]⟩, natives) := by
  unfold toxNew withErrorHandling
  cases herr : error.handle with
  | success =>
      obtain ⟨m', n, hadd, hspec⟩ := h.add_spec self self
      exact .inl ⟨m', n, by simp [hadd, bind, Except.bind, pure, Except.pure], hspec⟩
  | failure text => exact .inr ⟨_, rfl⟩
  | unhandled => exact .inr ⟨_, rfl⟩

/-- `toxavNew` on a live core makes a `ToxAV` on its `Tox`, or throws and changes nothing. -/
theorem toxavNew_live {tox events : CoreRef} (hc : natives.coreInstances.WellFormed)
    (h : natives.avInstances.WellFormed)
    (hn : natives.coreInstances.status n = .live (tox, events)) (error : ToxavErrNew) :
    (∃ m' k, natives.toxavNew a n error ⟨[]⟩ = .ok (k, ⟨[]⟩, { natives with
        avInstances := m', effects := natives.effects ++ [.allocatedAv a tox k] }) ∧
      (m'.instances.length < 2 ^ 31 → m'.WellFormed ∧ k ≠ 0 ∧
        natives.avInstances.status k = .free ∧
        m'.status = Function.update natives.avInstances.status k (.live (⟨a, tox⟩, a)))) ∨
    ∃ e, toxavNew a n error ⟨[]⟩ natives = .ok (0, ⟨[e]⟩, natives) := by
  obtain ⟨hf, hs⟩ := hc.status_live_iff.mp hn
  unfold toxavNew
  rw [InstanceManager.withInstance_pair _ _ hf hs]
  unfold withErrorHandling
  cases herr : error.handle with
  | success =>
      obtain ⟨m', k, hadd, hspec⟩ := h.add_spec (⟨a, tox⟩ : NativeAv) a
      exact .inl ⟨m', k, by simp [hadd, bind, Except.bind, pure, Except.pure], hspec⟩
  | failure text => exact .inr ⟨_, rfl⟩
  | unhandled => exact .inr ⟨_, rfl⟩

/-- `toxavNew` on a killed core throws. -/
theorem toxavNew_killed (hc : natives.coreInstances.WellFormed)
    (hn : natives.coreInstances.status n = .killed) (error : ToxavErrNew) :
    ∃ e, toxavNew a n error ⟨[]⟩ natives = .ok (0, ⟨[e]⟩, natives) := by
  obtain ⟨hf, hs⟩ := hc.status_killed_iff.mp hn
  exact ⟨_, InstanceManager.withInstance_null _ _ hf hs⟩

/-- `toxKill` of a live number destroys its `Tox`. -/
theorem toxKill_live {tox events : CoreRef} (h : natives.coreInstances.WellFormed)
    (hn : natives.coreInstances.status n = .live (tox, events)) :
    ∃ m', natives.toxKill self n ⟨[]⟩ = .ok ((), ⟨[]⟩, { natives with
        coreInstances := m', effects := natives.effects ++ [.destroyedCore self tox] }) ∧
      m'.freelist = natives.coreInstances.freelist ∧ m'.WellFormed ∧
      m'.status = Function.update natives.coreInstances.status n .killed := by
  obtain ⟨m', hkill, hspec⟩ := h.kill_live ⟨[]⟩ hn
  exact ⟨m', by simp [toxKill, hkill, bind, Except.bind, pure, Except.pure], hspec⟩

/-- `toxKill` of a killed number destroys nothing. -/
theorem toxKill_killed (h : natives.coreInstances.WellFormed)
    (hn : natives.coreInstances.status n = .killed) :
    ∃ m', natives.toxKill self n ⟨[]⟩ = .ok ((), ⟨[]⟩, { natives with coreInstances := m' }) ∧
      m'.freelist = natives.coreInstances.freelist ∧ m'.WellFormed ∧
      m'.status = natives.coreInstances.status := by
  obtain ⟨m', hkill, hspec⟩ := h.kill_killed ⟨[]⟩ hn
  exact ⟨m', by simp [toxKill, hkill, InstancePointers.null, bind, Except.bind, pure,
    Except.pure], hspec⟩

/-- `toxKill` of the number 0 does nothing. -/
theorem toxKill_zero : natives.toxKill self 0 ⟨[]⟩ = .ok ((), ⟨[]⟩, natives) := by
  simp [toxKill, InstanceManager.kill_zero, InstancePointers.null, bind, Except.bind, pure,
    Except.pure]

/-- `toxavKill` of a live number destroys its `ToxAV`. -/
theorem toxavKill_live {ev : AvRef} (h : natives.avInstances.WellFormed)
    (hn : natives.avInstances.status n = .live (nav, ev)) :
    ∃ m', natives.toxavKill a n ⟨[]⟩ = .ok ((), ⟨[]⟩, { natives with
        avInstances := m', effects := natives.effects ++ [.destroyedAv a nav] }) ∧
      m'.freelist = natives.avInstances.freelist ∧ m'.WellFormed ∧
      m'.status = Function.update natives.avInstances.status n .killed := by
  obtain ⟨m', hkill, hspec⟩ := h.kill_live ⟨[]⟩ hn
  exact ⟨m', by simp [toxavKill, hkill, bind, Except.bind, pure, Except.pure], hspec⟩

/-- `toxavKill` of a killed number destroys nothing. -/
theorem toxavKill_killed (h : natives.avInstances.WellFormed)
    (hn : natives.avInstances.status n = .killed) :
    ∃ m', natives.toxavKill a n ⟨[]⟩ = .ok ((), ⟨[]⟩, { natives with avInstances := m' }) ∧
      m'.freelist = natives.avInstances.freelist ∧ m'.WellFormed ∧
      m'.status = natives.avInstances.status := by
  obtain ⟨m', hkill, hspec⟩ := h.kill_killed ⟨[]⟩ hn
  exact ⟨m', by simp [toxavKill, hkill, InstancePointers.null, bind, Except.bind, pure,
    Except.pure], hspec⟩

/-- `toxavKill` of the number 0 does nothing. -/
theorem toxavKill_zero : natives.toxavKill a 0 ⟨[]⟩ = .ok ((), ⟨[]⟩, natives) := by
  simp [toxavKill, InstanceManager.kill_zero, InstancePointers.null, bind, Except.bind, pure,
    Except.pure]

/-- `toxFinalize` of a killed number frees it. -/
theorem toxFinalize_killed (h : natives.coreInstances.WellFormed)
    (hn : natives.coreInstances.status n = .killed) :
    ∃ m', natives.toxFinalize self n ⟨[]⟩ = .ok ((), ⟨[]⟩, { natives with
        coreInstances := m', effects := natives.effects ++ [.freedCore self n] }) ∧
      m'.freelist = natives.coreInstances.freelist ++ [n] ∧ m'.WellFormed ∧
      m'.status = Function.update natives.coreInstances.status n .free := by
  obtain ⟨m', hfin, hfree, hspec⟩ := h.finalize_killed ⟨[]⟩ hn
  exact ⟨m', by simp [toxFinalize, hfin, hfree, bind, Except.bind, pure, Except.pure], hfree,
    hspec⟩

/-- `toxFinalize` of the number 0 does nothing. -/
theorem toxFinalize_zero : natives.toxFinalize self 0 ⟨[]⟩ = .ok ((), ⟨[]⟩, natives) := by
  simp [toxFinalize, InstanceManager.finalize_zero, bind, Except.bind, pure, Except.pure]

/-- `toxavFinalize` of a live number reports the leak and changes nothing. -/
theorem toxavFinalize_live {ev : AvRef} (h : natives.avInstances.WellFormed)
    (hn : natives.avInstances.status n = .live (nav, ev)) :
    natives.toxavFinalize a n ⟨[]⟩ = .ok ((), throwIllegalStateException ⟨[]⟩ n
      ("Leaked Tox instance #" ++ toString n), natives) := by
  simp [toxavFinalize, h.finalize_live ⟨[]⟩ hn, bind, Except.bind, pure, Except.pure]

/-- `toxavFinalize` of a killed number frees it. -/
theorem toxavFinalize_killed (h : natives.avInstances.WellFormed)
    (hn : natives.avInstances.status n = .killed) :
    ∃ m', natives.toxavFinalize a n ⟨[]⟩ = .ok ((), ⟨[]⟩, { natives with
        avInstances := m', effects := natives.effects ++ [.freedAv a n] }) ∧
      m'.freelist = natives.avInstances.freelist ++ [n] ∧ m'.WellFormed ∧
      m'.status = Function.update natives.avInstances.status n .free := by
  obtain ⟨m', hfin, hfree, hspec⟩ := h.finalize_killed ⟨[]⟩ hn
  exact ⟨m', by simp [toxavFinalize, hfin, hfree, bind, Except.bind, pure, Except.pure], hfree,
    hspec⟩

/-- `toxavFinalize` of the number 0 does nothing. -/
theorem toxavFinalize_zero : natives.toxavFinalize a 0 ⟨[]⟩ = .ok ((), ⟨[]⟩, natives) := by
  simp [toxavFinalize, InstanceManager.finalize_zero, bind, Except.bind, pure, Except.pure]

end Natives

end Tox4j.Native
