import Tox4j.Kotlin.Ownership

/-!
# `Tox4j.Kotlin.Closing`: what `close` and the finalizers do

`ToxAvImpl.close` of a registered object takes it off the list of its core and destroys its
`ToxAV` (`Inv.close_registered`). A second `close` changes nothing but the slot that is
empty already.

`ToxCoreImpl.close` depends on the list of the core. With an empty list it kills the core
(`Inv.closeCore_nil`). Otherwise it runs the callbacks, and the last of them ends the
iteration in `ConcurrentModificationException` before the core is killed
(`Inv.closeCore_throws`).

The finalizers always return, since they log what they catch. `FinalizedAv` and
`FinalizedCore` say what they do and what they leave alone.
-/

set_option autoImplicit false

namespace Tox4j.Kotlin

open Tox4j.Lib Tox4j.Native

variable {w w' : World} {c d : CoreRef} {a b : AvRef} {n : Jint}

/-! ### Calls of native methods -/

section Jni

variable {α : Type} {native : JNIEnv → Natives → Except Fatal (α × JNIEnv × Natives)} {r : α}
  {natives : Natives}

/-- A native method without a pending exception returns its value. -/
theorem jni_ok (h : native ⟨[]⟩ w.natives = .ok (r, ⟨[]⟩, natives)) :
    jni native w = .ok r { w with natives := natives } := by
  simp [jni, h]

/-- A native method with a pending exception throws it. -/
theorem jni_thrown {e : JavaException} (h : native ⟨[]⟩ w.natives = .ok (r, ⟨[e]⟩, natives)) :
    jni native w = .error (.exception e) { w with natives := natives } := by
  simp [jni, h]

end Jni

/-! ### Closing an AV object -/

/-- The heap after `removeOnCloseCallback` with the valid id `i` of `a`. -/
def World.unregister (w : World) (a : AvRef) (i : Nat) : World :=
  (w.setOnClose a Event.invalidIndex).setCallbacks (w.avs a).tox
    ((w.callbacks (w.avs a).tox).removed i)

/-- `close` of an AV object that is registered takes its callback out of the list of the core, and
kills its number. -/
theorem ToxAvImpl.close_registered {i : Nat} (hid : (w.avs a).onClose = i)
    (hslot : (w.callbacks (w.avs a).tox).slot i = some a) :
    ToxAvImpl.close a w = jni (Natives.toxavKill a (w.avNumber a)) (w.unregister a i) := by
  have hremove := Event.remove_slot hslot
  simp only [ToxAvImpl.close, ToxCoreImpl.removeOnCloseCallback, bind, EStateM.bind, get, getThe,
    MonadStateOf.get, EStateM.get, set, EStateM.set, hid, hremove]
  rfl

/-- `close` of an AV object that is not registered only kills its number. -/
theorem ToxAvImpl.close_unregistered (h : (w.avs a).onClose = Event.invalidIndex) :
    ToxAvImpl.close a w = jni (Natives.toxavKill a (w.avNumber a)) w := by
  have hw : (w.setOnClose a Event.invalidIndex).setCallbacks (w.avs a).tox
      (w.callbacks (w.avs a).tox) = w := by
    have havs : w.setOnClose a Event.invalidIndex = w := by
      rw [World.setOnClose, ← h]
      exact congrArg (fun f => { w with avs := f }) (Function.update_eq_self a w.avs)
    rw [havs]
    exact congrArg (fun f => { w with cores := f }) (Function.update_eq_self _ w.cores)
  simp only [ToxAvImpl.close, ToxCoreImpl.removeOnCloseCallback, bind, EStateM.bind, get, getThe,
    MonadStateOf.get, EStateM.get, set, EStateM.set, h, Event.remove_invalid]
  exact congrArg (jni (Natives.toxavKill a (w.avNumber a))) hw

namespace World

section Unregister

variable {i : Nat} {natives : Natives}

/-- An AV object keeps its core when one is taken out of a list. -/
@[simp] theorem tox_unregister : ((w.unregister a i).avs b).tox = (w.avs b).tox := by
  by_cases h : b = a
  · subst h
    simp [unregister, setOnClose, setCallbacks]
  · simp [unregister, setOnClose, setCallbacks, h]

/-- An AV object keeps its number when one is taken out of a list. -/
@[simp] theorem avNumber_unregister : (w.unregister a i).avNumber b = w.avNumber b := by
  by_cases h : b = a
  · subst h
    simp [avNumber, unregister, setOnClose, setCallbacks]
  · simp [avNumber, unregister, setOnClose, setCallbacks, h]

/-- A core keeps its number when an AV object is taken out of a list. -/
@[simp] theorem coreNumber_unregister : (w.unregister a i).coreNumber c = w.coreNumber c := by
  by_cases h : c = (w.avs a).tox
  · simp [coreNumber, unregister, setOnClose, setCallbacks, h]
  · simp [coreNumber, unregister, setOnClose, setCallbacks, h]

/-- The AV object that is taken out of the list loses its id, and no other does. -/
theorem onClose_unregister : ((w.unregister a i).avs b).onClose
    = if b = a then Event.invalidIndex else (w.avs b).onClose := by
  by_cases h : b = a
  · simp [unregister, setOnClose, setCallbacks, h]
  · simp [unregister, setOnClose, setCallbacks, h]

/-- The list of its core loses the callback, and no other list does. -/
theorem callbacks_unregister : (w.unregister a i).callbacks c
    = if c = (w.avs a).tox then (w.callbacks c).removed i else w.callbacks c := by
  by_cases h : c = (w.avs a).tox
  · simp [callbacks, unregister, setOnClose, setCallbacks, h]
  · simp [callbacks, unregister, setOnClose, setCallbacks, h]

/-- The AV object is not registered any more, and all others are as before. -/
theorem registered_unregister : (w.unregister a i).Registered b ↔ b ≠ a ∧ w.Registered b := by
  unfold Registered
  rw [onClose_unregister]
  by_cases h : b = a <;> simp [h]

/-- `a` leaves the list of its core, and every other registered object stays. -/
theorem slot_unregister (h : HeapInv w) (hslota : (w.callbacks (w.avs a).tox).slot i = some a)
    {j : Nat} : ((w.unregister a i).callbacks c).slot j = some b ↔
      b ≠ a ∧ (w.callbacks c).slot j = some b := by
  rw [callbacks_unregister]
  constructor
  · intro hslot
    have hold : (w.callbacks c).slot j = some b ∧ (c = (w.avs a).tox → j ≠ i) := by
      split at hslot
      · rw [Event.slot_removed] at hslot
        split at hslot
        · exact nomatch hslot
        · rename_i hji
          exact ⟨hslot, fun _ => hji⟩
      · rename_i hc
        exact ⟨hslot, fun hc' => absurd hc' hc⟩
    refine ⟨fun hba => ?_, hold.1⟩
    -- An object is registered at the index of its id only, and that slot is blank now.
    subst hba
    obtain ⟨-, htox, hid⟩ := h.slot c j b hold.1
    obtain ⟨-, -, hid'⟩ := h.slot _ i b hslota
    exact hold.2 htox.symm (by omega)
  · rintro ⟨hne, hslot⟩
    split
    · rename_i hc
      rw [Event.slot_removed, if_neg ?_]
      · exact hslot
      · rintro rfl
        rw [hc, hslota] at hslot
        exact hne (Option.some.inj hslot).symm
    · exact hslot

/-- The lists and the ids still agree after an AV object was taken out. -/
theorem HeapInv.unregister (h : HeapInv w)
    (hslota : (w.callbacks (w.avs a).tox).slot i = some a) : HeapInv (w.unregister a i) where
  pruned c := by
    rw [callbacks_unregister]
    split
    · exact Event.pruned_removed
    · exact h.pruned c
  slot c j b hb := by
    obtain ⟨hne, hold⟩ := (slot_unregister h hslota).mp hb
    obtain ⟨hlt, htox, hid⟩ := h.slot c j b hold
    exact ⟨hlt, tox_unregister.trans htox, by rw [onClose_unregister, if_neg hne, hid]⟩
  registered b hlt hreg := by
    obtain ⟨hne, hold⟩ := registered_unregister.mp hreg
    obtain ⟨j, hid, hslot⟩ := h.registered b hlt hold
    refine ⟨j, by rw [onClose_unregister, if_neg hne, hid], ?_⟩
    rw [tox_unregister]
    exact (slot_unregister h hslota).mpr ⟨hne, hslot⟩
  tox_lt b hlt := by
    rw [tox_unregister]
    exact h.tox_lt b hlt
  finalized x hx := by
    have hexists := h.finalized x hx
    cases x <;> exact hexists
  roots x hx := by
    obtain ⟨hcon, hfin⟩ := h.roots x hx
    refine ⟨?_, hfin⟩
    -- No number changes, so what the program holds is still constructed.
    cases x with
    | core c => exact ⟨hcon.1, by rw [coreNumber_unregister]; exact hcon.2⟩
    | av b => exact ⟨hcon.1, by rw [avNumber_unregister]; exact hcon.2⟩

end Unregister

/-! ### Killing a native AV instance -/

/-- The native layer after `toxavKill` with the number of the object `a`. -/
structure AvKilled (w : World) (a : AvRef) (natives : Natives) : Prop where
  core : natives.coreInstances = w.natives.coreInstances
  avWF : natives.avInstances.WellFormed
  coreHolder_eq : coreHolder natives.effects = coreHolder w.natives.effects
  avHolder_eq : avHolder natives.effects = avHolder w.natives.effects
  effects : ∀ e ∈ w.natives.effects, e ∈ natives.effects
  grown : ∀ e ∈ natives.effects, e ∈ w.natives.effects ∨ e = .destroyedAv a (w.native a)
  status : ∀ n, n ≠ w.avNumber a → natives.avInstances.status n = w.avStatus n
  closed : ClosedAv { w with natives := natives } a
  dead : ∀ p, natives.avInstances.status (w.avNumber a) ≠ .live p
  freelist : natives.avInstances.freelist = w.natives.avInstances.freelist
  safe : Safe natives.effects

/-- `toxavKill` returns on the number of an object that owns it. -/
theorem Inv.toxavKill (h : Inv w) (hown : w.OpenAv a ∨ w.ClosedAv a) :
    ∃ natives, w.natives.toxavKill a (w.avNumber a) ⟨[]⟩ = .ok ((), ⟨[]⟩, natives) ∧
      AvKilled w a natives := by
  by_cases hzero : w.avNumber a = 0
  · rw [hzero]
    refine ⟨w.natives, Natives.toxavKill_zero, ⟨rfl, h.avWF, rfl, rfl, fun _ he => he,
      fun _ he => .inl he, fun _ _ => rfl, .inl hzero, fun p => ?_, rfl, h.safe⟩⟩
    rw [hzero]
    exact fun hlive => nomatch (avStatus_zero w).symm.trans hlive
  -- A number that is not zero is live or killed, and it is this object that owns it.
  rcases hown with hopen | hclosed
  · obtain ⟨hholder, hlive⟩ := hopen.resolve_left hzero
    obtain ⟨m', hkill, hfree, hwf, hst⟩ := Natives.toxavKill_live (a := a) h.avWF hlive
    have hdead : m'.status (w.avNumber a) = .killed := by rw [hst, Function.update_self]
    refine ⟨_, hkill, ⟨rfl, hwf, by simp [Effect.coreHold], by simp [Effect.avHold],
      fun _ he => List.mem_append_left _ he,
      fun _ he => (List.mem_append.mp he).imp_right List.mem_singleton.mp,
      fun n hn => ?_, .inr ⟨?_, ?_, ?_⟩, fun p => ?_, hfree, h.safe.concat rfl⟩⟩
    · rw [hst, Function.update_of_ne hn]
    · simpa [Effect.avHold] using hholder
    · exact hdead
    · exact List.mem_append_right _ (List.mem_singleton_self _)
    · exact fun hlive' => nomatch hdead.symm.trans hlive'
  · obtain ⟨hholder, hkilled, hmem⟩ := hclosed.resolve_left hzero
    obtain ⟨m', hkill, hfree, hwf, hst⟩ := Natives.toxavKill_killed (a := a) h.avWF hkilled
    have hdead : m'.status (w.avNumber a) = .killed := by rw [hst]; exact hkilled
    exact ⟨_, hkill, ⟨rfl, hwf, rfl, rfl, fun _ he => he, fun _ he => .inl he,
      fun n _ => by rw [hst],
      .inr ⟨hholder, hdead, hmem⟩, fun _ hlive' => (nomatch hdead.symm.trans hlive'),
      hfree, h.safe⟩⟩

/-! ### `ToxAvImpl.close` -/

section Killed

variable {natives : Natives}

/-- After the native instance of `a` is killed, one that was live is live or destroyed. -/
theorem AvKilled.live_or_destroyed (hk : AvKilled w a natives)
    (hown : w.OpenAv a ∨ w.ClosedAv a) {k : Jint} {nav : NativeAv}
    (hlive : w.avStatus k = .live (nav, nav.owner)) :
    natives.avInstances.status k = .live (nav, nav.owner) ∨
      .destroyedAv nav.owner nav ∈ natives.effects := by
  by_cases hka : k = w.avNumber a
  · subst hka
    have hzero : w.avNumber a ≠ 0 := fun hzero => by
      rw [hzero, avStatus_zero] at hlive
      exact nomatch hlive
    rw [owner_eq hlive hown]
    exact .inr (hk.closed.resolve_left hzero).2.2
  · rw [hk.status k hka]
    exact .inl hlive

/-- Killing the native instance of `a` does not touch the numbers of other objects. -/
theorem AvKilled.status_other (hk : AvKilled w a natives) (hown : w.OpenAv a ∨ w.ClosedAv a)
    (hba : b ≠ a) (hzero : w.avNumber b ≠ 0)
    (hholder : avHolder w.natives.effects (w.avNumber b) = some b) :
    natives.avInstances.status (w.avNumber b) = w.avStatus (w.avNumber b) := by
  refine hk.status _ fun heq => ?_
  have hzero' : w.avNumber a ≠ 0 := heq ▸ hzero
  have hholder' : avHolder w.natives.effects (w.avNumber a) = some a := by
    rcases hown with hopen | hclosed
    · exact (hopen.resolve_left hzero').1
    · exact (hclosed.resolve_left hzero').1
  exact avNumber_ne hholder' hholder hba heq

/-- The invariant after a registered object was closed. -/
theorem Inv.unregister_killed {i : Nat} (h : Inv w) (ha : a < w.avCount)
    (hslot : (w.callbacks (w.avs a).tox).slot i = some a) (hk : AvKilled w a natives) :
    Inv { w.unregister a i with natives := natives } := by
  have hown : w.OpenAv a ∨ w.ClosedAv a := .inl (h.openAv a ha (h.registered_of_slot hslot))
  have hheap : HeapInv (w.unregister a i) := h.toHeapInv.unregister hslot
  refine { hheap with
    coreWF := hk.core ▸ h.coreWF, avWF := hk.avWF, core := fun c hc hfin => ?_,
    openAv := fun b hb hreg => ?_, closedAv := fun b hb hreg hfin => ?_,
    live := fun n nav ev hlive => ?_, allocated := fun b c n hmem => ?_, safe := hk.safe }
  · -- Nothing changes for the cores.
    refine (h.core c hc hfin).congr coreNumber_unregister (fun _ => by rw [hk.coreHolder_eq])
      (fun _ => ?_) hk.effects
    exact congrArg (InstanceManager.status · _) hk.core
  · -- The objects that stay registered have other numbers.
    obtain ⟨hba, hold⟩ := (registered_unregister (i := i)).mp hreg
    have hopen := h.openAv b hb hold
    refine hopen.congr (avNumber_unregister (i := i)) (tox_unregister (i := i)) ?_
      fun hzero => hk.status_other hown hba hzero (hopen.resolve_left hzero).1
    intro _
    rw [hk.avHolder_eq]
  · -- The object that leaves the list is closed now; the others were closed before.
    by_cases hba : b = a
    · subst hba
      exact hk.closed.congr (avNumber_unregister (i := i)) (tox_unregister (i := i))
        (fun _ => rfl) (fun _ => rfl) fun _ he => he
    · have hclosed := h.closedAv b hb (fun hold => hreg
        ((registered_unregister (i := i)).mpr ⟨hba, hold⟩)) hfin
      exact hclosed.congr (avNumber_unregister (i := i)) (tox_unregister (i := i))
        (fun _ => by rw [hk.avHolder_eq])
        (fun hzero => hk.status_other hown hba hzero (hclosed.resolve_left hzero).1) hk.effects
  · -- What is still live belongs to another object, which stays registered.
    have hna : n ≠ w.avNumber a := fun heq => hk.dead _ (heq ▸ hlive)
    obtain ⟨hlt, htox, hnum, hreg⟩ := h.live n nav ev ((hk.status n hna).symm.trans hlive)
    have hne : nav.owner ≠ a := fun heq => hna (heq ▸ hnum.symm)
    exact ⟨hlt, (tox_unregister (i := i)).trans htox, (avNumber_unregister (i := i)).trans hnum,
      (registered_unregister (i := i)).mpr ⟨hne, hreg⟩⟩
  · -- Killing allocates nothing.
    have hold := (hk.grown _ hmem).resolve_right fun heq => nomatch heq
    rcases h.allocated b c n hold with ⟨k, hlive⟩ | hdestroyed
    · exact (hk.live_or_destroyed hown hlive).imp_left fun hlive => ⟨k, hlive⟩
    · exact .inr (hk.effects _ hdestroyed)

/-- The invariant after the number of an object that is not registered was killed again. -/
theorem Inv.killed (h : Inv w) (ha : a < w.avCount) (hreg : ¬ w.Registered a)
    (hfin : .av a ∉ w.finalized) (hk : AvKilled w a natives) :
    Inv { w with natives := natives } := by
  have hown : w.OpenAv a ∨ w.ClosedAv a := .inr (h.closedAv a ha hreg hfin)
  refine { h.toHeapInv with
    coreWF := hk.core ▸ h.coreWF, avWF := hk.avWF, core := fun c hc hfin => ?_,
    openAv := fun b hb hregb => ?_, closedAv := fun b hb hregb hfin => ?_,
    live := fun n nav ev hlive => ?_, allocated := fun b c n hmem => ?_, safe := hk.safe }
  · refine (h.core c hc hfin).congr rfl (fun _ => by rw [hk.coreHolder_eq]) (fun _ => ?_)
      hk.effects
    exact congrArg (InstanceManager.status · _) hk.core
  · -- A registered object is not the one that is killed again.
    have hopen := h.openAv b hb hregb
    have hba : b ≠ a := fun heq => hreg (heq ▸ hregb)
    exact hopen.congr rfl rfl (fun _ => by rw [hk.avHolder_eq])
      fun hzero => hk.status_other hown hba hzero (hopen.resolve_left hzero).1
  · by_cases hba : b = a
    · subst hba
      exact hk.closed
    · have hclosed := h.closedAv b hb hregb hfin
      exact hclosed.congr rfl rfl (fun _ => by rw [hk.avHolder_eq])
        (fun hzero => hk.status_other hown hba hzero (hclosed.resolve_left hzero).1) hk.effects
  · have hna : n ≠ w.avNumber a := fun heq => hk.dead _ (heq ▸ hlive)
    exact h.live n nav ev ((hk.status n hna).symm.trans hlive)
  · -- Killing allocates nothing.
    have hold := (hk.grown _ hmem).resolve_right fun heq => nomatch heq
    rcases h.allocated b c n hold with ⟨k, hlive⟩ | hdestroyed
    · exact (hk.live_or_destroyed hown hlive).imp_left fun hlive => ⟨k, hlive⟩
    · exact .inr (hk.effects _ hdestroyed)

end Killed

/-- What closing AV objects of the core `c` keeps. -/
structure AvsClosed (w : World) (c : CoreRef) (w' : World) : Prop extends Quiet w w' where
  coreInstances : w'.natives.coreInstances = w.natives.coreInstances
  finalized : w'.finalized = w.finalized
  logged : w'.logged = w.logged
  callbacks : ∀ d, d ≠ c → w'.callbacks d = w.callbacks d

/-- Closing no AV object changes nothing. -/
theorem AvsClosed.refl (w : World) (c : CoreRef) : AvsClosed w c w :=
  { Quiet.refl w with
    coreInstances := rfl, finalized := rfl, logged := rfl, callbacks := fun _ _ => rfl }

/-- Closing some AV objects and then some others. -/
theorem AvsClosed.trans {w'' : World} (h : AvsClosed w c w') (h' : AvsClosed w' c w'') :
    AvsClosed w c w'' :=
  { h.toQuiet.trans h'.toQuiet with
    coreInstances := h'.coreInstances.trans h.coreInstances
    finalized := h'.finalized.trans h.finalized
    logged := h'.logged.trans h.logged
    callbacks := fun d hd => (h'.callbacks d hd).trans (h.callbacks d hd) }

/-- `close` of a registered object returns, and the object leaves the list of its core. -/
theorem Inv.close_registered (h : Inv w) {i : Nat} (hslot : (w.callbacks c).slot i = some a) :
    ∃ w', ToxAvImpl.close a w = .ok () w' ∧ Inv w' ∧ AvsClosed w c w' ∧
      w'.callbacks c = (w.callbacks c).removed i := by
  obtain ⟨ha, rfl, hid⟩ := h.slot c i a hslot
  -- `toxavKill` returns, since the object owns its number.
  obtain ⟨natives, hkill, hk⟩ := h.toxavKill (.inl (h.openAv a ha (h.registered_of_slot hslot)))
  refine ⟨{ w.unregister a i with natives := natives }, ?_, h.unregister_killed ha hslot hk,
    ?_, ?_⟩
  · rw [ToxAvImpl.close_registered hid hslot]
    exact jni_ok hkill
  · refine ⟨⟨rfl, rfl, rfl, fun c => coreNumber_unregister (i := i),
      fun b => avNumber_unregister (i := i), fun b => tox_unregister (i := i),
      hk.coreHolder_eq, hk.avHolder_eq, hk.effects, fun n hn => ?_, fun n hn => ?_⟩, hk.core,
      rfl, rfl, fun d hd => ?_⟩
    · exact hk.core.symm ▸ hn
    · exact hk.freelist.symm ▸ hn
    · exact callbacks_unregister.trans (if_neg hd)
  · exact callbacks_unregister.trans (if_pos rfl)

/-- `close` of an object whose id is not valid returns. -/
theorem Inv.close_unregistered (h : Inv w) (ha : a < w.avCount) (hreg : ¬ w.Registered a)
    (hfin : .av a ∉ w.finalized) : ∃ w', ToxAvImpl.close a w = .ok () w' ∧ Inv w' := by
  obtain ⟨natives, hkill, hk⟩ := h.toxavKill (.inr (h.closedAv a ha hreg hfin))
  refine ⟨_, ?_, h.killed ha hreg hfin hk⟩
  rw [ToxAvImpl.close_unregistered (not_not.mp hreg)]
  exact jni_ok hkill

/-! ### `ToxCoreImpl.close` -/

/-- Running the callbacks of a core: with a callback in the list, the last of them ends the
iteration in `ConcurrentModificationException`. -/
theorem Inv.invoke (h : Inv w) (c : CoreRef)
    (hne : (w.callbacks c).callbacks.elements ≠ []) :
    ∃ w', Event.invoke (fun w : World => (w.cores c).onCloseCallbacks) ToxAvImpl.close w
        = .error (Event.iterationException .concurrentModification) w' ∧
      Inv w' ∧ AvsClosed w c w' ∧ (w'.callbacks c).callbacks.elements = [] := by
  have hself : Event.SelfRemoving (fun w : World => (w.cores c).onCloseCallbacks)
      ToxAvImpl.close (fun s => Inv s ∧ AvsClosed w c s) := by
    rintro s i a ⟨hs, hclosed⟩ hslot
    obtain ⟨s', hrun, hs', hclosed', hevent⟩ := hs.close_registered hslot
    exact ⟨s', hrun, ⟨hs', hclosed.trans hclosed'⟩, hevent⟩
  obtain ⟨w', hrun, ⟨hinv, hclosed⟩, hnil⟩ :=
    Event.invoke_selfRemoving hself ⟨h, .refl w c⟩ (h.pruned c) hne
  exact ⟨w', hrun, hinv, hclosed, hnil⟩

/-- The native layer after `toxKill` with the number of the object `c`. -/
structure CoreKilled (w : World) (c : CoreRef) (natives : Natives) : Prop where
  av : natives.avInstances = w.natives.avInstances
  coreWF : natives.coreInstances.WellFormed
  coreHolder_eq : coreHolder natives.effects = coreHolder w.natives.effects
  avHolder_eq : avHolder natives.effects = avHolder w.natives.effects
  effects : ∀ e ∈ w.natives.effects, e ∈ natives.effects
  grown : ∀ e ∈ natives.effects, e ∈ w.natives.effects ∨ e = .destroyedCore c c
  status : ∀ n, n ≠ w.coreNumber c → natives.coreInstances.status n = w.coreStatus n
  killed : w.coreNumber c = 0 ∨ coreHolder natives.effects (w.coreNumber c) = some c ∧
    natives.coreInstances.status (w.coreNumber c) = .killed ∧ .destroyedCore c c ∈ natives.effects
  freelist : natives.coreInstances.freelist = w.natives.coreInstances.freelist
  safe : Safe natives.effects

/-- With no callback registered, every native AV instance on the core is destroyed. -/
theorem Inv.destroyed_of_nil (h : Inv w) (hnil : (w.callbacks c).callbacks.elements = []) {n : Jint}
    (hmem : .allocatedAv a c n ∈ w.natives.effects) :
    .destroyedAv a ⟨a, c⟩ ∈ w.natives.effects := by
  rcases h.allocated a c n hmem with ⟨k, hlive⟩ | hdestroyed
  · obtain ⟨ha, htox, -, hreg⟩ := h.live k _ _ hlive
    obtain ⟨i, -, hslot⟩ := h.registered a ha hreg
    have htox : (w.avs a).tox = c := htox
    rw [htox, Event.slot, hnil] at hslot
    cases hslot
  · exact hdestroyed

/-- `toxKill` returns on the number of a core that owns it and has no registered callback. -/
theorem Inv.toxKill (h : Inv w) (hown : w.CoreOwns c)
    (hnil : (w.callbacks c).callbacks.elements = []) :
    ∃ natives, w.natives.toxKill c (w.coreNumber c) ⟨[]⟩ = .ok ((), ⟨[]⟩, natives) ∧
      CoreKilled w c natives := by
  by_cases hzero : w.coreNumber c = 0
  · rw [hzero]
    exact ⟨w.natives, Natives.toxKill_zero c, ⟨rfl, h.coreWF, rfl, rfl, fun _ he => he,
      fun _ he => .inl he, fun _ _ => rfl, .inl hzero, rfl, h.safe⟩⟩
  obtain ⟨hholder, hlive | ⟨hkilled, hmem⟩⟩ := hown.resolve_left hzero
  · -- The effect is safe: every AV instance made on the core is destroyed.
    obtain ⟨m', hkill, hfree, hwf, hst⟩ := Natives.toxKill_live c h.coreWF hlive
    have hdead : m'.status (w.coreNumber c) = .killed := by rw [hst, Function.update_self]
    refine ⟨_, hkill, ⟨rfl, hwf, by simp [Effect.coreHold], by simp [Effect.avHold],
      fun _ he => List.mem_append_left _ he,
      fun _ he => (List.mem_append.mp he).imp_right List.mem_singleton.mp,
      fun n hn => ?_, .inr ⟨?_, hdead, ?_⟩, hfree,
      h.safe.concat ⟨rfl, fun a n hmem => h.destroyed_of_nil hnil hmem⟩⟩⟩
    · rw [hst, Function.update_of_ne hn]
    · simpa [Effect.coreHold] using hholder
    · exact List.mem_append_right _ (List.mem_singleton_self _)
  · -- The number is killed already, and `toxKill` does nothing.
    obtain ⟨m', hkill, hfree, hwf, hst⟩ := Natives.toxKill_killed c h.coreWF hkilled
    have hdead : m'.status (w.coreNumber c) = .killed := by rw [hst]; exact hkilled
    exact ⟨_, hkill, ⟨rfl, hwf, rfl, rfl, fun _ he => he, fun _ he => .inl he,
      fun n _ => by rw [hst], .inr ⟨hholder, hdead, hmem⟩, hfree, h.safe⟩⟩

/-- The invariant after the native core of `c` was killed. -/
theorem Inv.coreKilled {natives : Natives} (h : Inv w) (hown : w.CoreOwns c)
    (hk : CoreKilled w c natives) : Inv { w with natives := natives } := by
  refine h.core_step natives hk.av hk.coreWF hk.avHolder_eq hk.effects (fun a c' n hmem => ?_)
    (fun d hd hfin => ?_) hk.safe
  · exact (hk.grown _ hmem).resolve_right fun heq => nomatch heq
  -- The other cores have other numbers.
  by_cases hdc : d = c
  · subst hdc
    exact hk.killed.imp_right fun hkilled => ⟨hkilled.1, .inr hkilled.2⟩
  · have hd' := h.core d hd hfin
    refine hd'.congr rfl (fun _ => by rw [hk.coreHolder_eq]) (fun hzero => ?_) hk.effects
    refine hk.status _ fun heq => ?_
    have hzero' : w.coreNumber c ≠ 0 := heq ▸ hzero
    exact coreNumber_ne (hown.resolve_left hzero').1 (hd'.resolve_left hzero).1 hdc heq

/-- `close` of a core without registered callbacks returns, and kills its native core. -/
theorem Inv.closeCore_nil (h : Inv w) (hown : w.CoreOwns c)
    (hnil : (w.callbacks c).callbacks.elements = []) :
    ∃ natives, ToxCoreImpl.close c w = .ok () { w with natives := natives } ∧
      CoreKilled w c natives := by
  obtain ⟨natives, hkill, hk⟩ := h.toxKill hown hnil
  refine ⟨natives, ?_, hk⟩
  have hinvoke : Event.invoke (fun w : World => (w.cores c).onCloseCallbacks) ToxAvImpl.close w
      = .ok () w := Event.invoke_nil hnil
  simp only [ToxCoreImpl.close, bind, EStateM.bind, hinvoke, get, getThe, MonadStateOf.get,
    EStateM.get]
  exact jni_ok hkill

/-- `close` of a core with a registered callback throws, and leaves the list empty. -/
theorem Inv.closeCore_throws (h : Inv w) (hne : (w.callbacks c).callbacks.elements ≠ []) :
    ∃ w', ToxCoreImpl.close c w
        = .error (Event.iterationException .concurrentModification) w' ∧
      Inv w' ∧ AvsClosed w c w' ∧ (w'.callbacks c).callbacks.elements = [] := by
  obtain ⟨w', hinvoke, hspec⟩ := h.invoke c hne
  refine ⟨w', ?_, hspec⟩
  simp only [ToxCoreImpl.close, bind, EStateM.bind, hinvoke]

/-- The end of a native core allocates and registers nothing. -/
theorem CoreKilled.quiet {natives : Natives} (hk : CoreKilled w c natives) :
    Quiet w { w with natives := natives } where
  coreCount := rfl
  avCount := rfl
  roots := rfl
  coreNumber _ := rfl
  avNumber _ := rfl
  tox _ := rfl
  coreHolder_eq := hk.coreHolder_eq
  avHolder_eq := hk.avHolder_eq
  effects := hk.effects
  coreFree _ hn := hk.freelist.symm ▸ hn
  avFree _ hn := hk.av.symm ▸ hn

/-! ### The finalizers -/

/-- A number that is destroyed and whose owner was finalised may be freed. -/
theorem Inv.toxavFinalize (h : Inv w) (hreg : ¬ w.Registered a) (hclosed : w.ClosedAv a)
    (hfin : .av a ∈ w.finalized) :
    ∃ natives, w.natives.toxavFinalize a (w.avNumber a) ⟨[]⟩ = .ok ((), ⟨[]⟩, natives) ∧
      Inv { w with natives := natives } ∧ Quiet w { w with natives := natives } ∧
      natives.coreInstances = w.natives.coreInstances ∧
      (w.avNumber a ≠ 0 → w.avNumber a ∈ natives.avInstances.freelist) := by
  by_cases hzero : w.avNumber a = 0
  · rw [hzero]
    exact ⟨w.natives, Natives.toxavFinalize_zero, h, .refl w, rfl, fun hc => absurd rfl hc⟩
  obtain ⟨hholder, hkilled, -⟩ := hclosed.resolve_left hzero
  obtain ⟨m', hfinal, hfree, hwf, hst⟩ := Natives.toxavFinalize_killed (a := a) h.avWF hkilled
  -- The numbers of the other objects are other numbers, so they keep their status.
  have hother : ∀ b, b ≠ a → avHolder w.natives.effects (w.avNumber b) = some b →
      m'.status (w.avNumber b) = w.avStatus (w.avNumber b) := fun b hba hb => by
    rw [hst, Function.update_of_ne (avNumber_ne hholder hb hba)]
  have hlive : ∀ k p, m'.status k = .live p ↔ w.avStatus k = .live p := fun k p => by
    rw [hst]
    by_cases hk : k = w.avNumber a
    · subst hk
      rw [Function.update_self, hkilled]
      exact ⟨fun hc => (nomatch hc), fun hc => (nomatch hc)⟩
    · rw [Function.update_of_ne hk]
  refine ⟨_, hfinal, { h.toHeapInv with
    coreWF := h.coreWF, avWF := hwf, core := fun c hc hcfin => ?_,
    openAv := fun b hb hregb => ?_, closedAv := fun b hb hregb hbfin => ?_,
    live := fun n nav ev hn => h.live n nav ev ((hlive n _).mp hn),
    allocated := fun b c n hmem => ?_, safe := h.safe.concat hholder }, ?_, rfl, fun _ => ?_⟩
  · exact (h.core c hc hcfin).congr rfl (fun _ => by simp [Effect.coreHold]) (fun _ => rfl)
      fun _ he => List.mem_append_left _ he
  · -- The finalised object is not registered.
    have hopen := h.openAv b hb hregb
    exact hopen.congr rfl rfl (fun _ => by simp [Effect.avHold])
      fun hb0 => hother b (fun heq => hreg (heq ▸ hregb)) (hopen.resolve_left hb0).1
  · -- Nor is it among the closed objects that are not finalised.
    have hclosedb := h.closedAv b hb hregb hbfin
    exact hclosedb.congr rfl rfl (fun _ => by simp [Effect.avHold])
      (fun hb0 => hother b (fun heq => hbfin (heq ▸ hfin)) (hclosedb.resolve_left hb0).1)
      fun _ he => List.mem_append_left _ he
  · have hold := (List.mem_append.mp hmem).resolve_right (by simp)
    rcases h.allocated b c n hold with ⟨k, hk⟩ | hdestroyed
    · exact .inl ⟨k, (hlive k _).mpr hk⟩
    · exact .inr (List.mem_append_left _ hdestroyed)
  · -- The freelist only grows.
    refine ⟨rfl, rfl, rfl, fun _ => rfl, fun _ => rfl, fun _ => rfl, by simp [Effect.coreHold],
      by simp [Effect.avHold], fun _ he => List.mem_append_left _ he, fun _ hn => hn,
      fun n hn => ?_⟩
    show n ∈ m'.freelist
    rw [hfree]
    exact List.mem_append_left _ hn
  · rw [hfree]
    exact List.mem_append_right _ (List.mem_singleton_self _)

/-- The same for the number of a core. -/
theorem Inv.toxFinalize (h : Inv w)
    (hkilled : w.coreNumber c = 0 ∨ coreHolder w.natives.effects (w.coreNumber c) = some c ∧
      w.coreStatus (w.coreNumber c) = .killed)
    (hfin : .core c ∈ w.finalized) :
    ∃ natives, w.natives.toxFinalize c (w.coreNumber c) ⟨[]⟩ = .ok ((), ⟨[]⟩, natives) ∧
      Inv { w with natives := natives } ∧ Quiet w { w with natives := natives } ∧
      (∀ n, n ≠ w.coreNumber c → natives.coreInstances.status n = w.coreStatus n) ∧
      (w.coreNumber c ≠ 0 → w.coreNumber c ∈ natives.coreInstances.freelist) := by
  by_cases hzero : w.coreNumber c = 0
  · rw [hzero]
    exact ⟨w.natives, Natives.toxFinalize_zero c, h, .refl w, fun _ _ => rfl,
      fun hc => absurd rfl hc⟩
  obtain ⟨hholder, hkilled⟩ := hkilled.resolve_left hzero
  obtain ⟨m', hfinal, hfree, hwf, hst⟩ := Natives.toxFinalize_killed c h.coreWF hkilled
  refine ⟨_, hfinal, h.core_step _ rfl hwf (by simp [Effect.avHold])
    (fun _ he => List.mem_append_left _ he) (fun a c n hmem => ?_) (fun d hd hdfin => ?_)
    (h.safe.concat hholder), ?_, fun n hn => ?_, fun _ => ?_⟩
  · exact (List.mem_append.mp hmem).resolve_right (by simp)
  · -- A core that was not finalised has another number.
    have hd' := h.core d hd hdfin
    refine hd'.congr rfl (fun _ => by simp [Effect.coreHold]) (fun hzero' => ?_)
      fun _ he => List.mem_append_left _ he
    have hne := coreNumber_ne hholder (hd'.resolve_left hzero').1 fun heq => hdfin (heq ▸ hfin)
    show m'.status _ = _
    rw [hst, Function.update_of_ne hne]
  · -- The freelist only grows.
    refine ⟨rfl, rfl, rfl, fun _ => rfl, fun _ => rfl, fun _ => rfl, by simp [Effect.coreHold],
      by simp [Effect.avHold], fun _ he => List.mem_append_left _ he, fun n hn => ?_,
      fun _ hn => hn⟩
    show n ∈ m'.freelist
    rw [hfree]
    exact List.mem_append_left _ hn
  · rw [hst, Function.update_of_ne hn]
  · rw [hfree]
    exact List.mem_append_right _ (List.mem_singleton_self _)

/-- What a finalizer keeps of the callbacks and the native cores of other objects. -/
structure FinalizedCore (w : World) (c : CoreRef) (w' : World) : Prop extends Quiet w w' where
  finalized : w'.finalized = .core c :: w.finalized
  emptied : (w'.callbacks c).callbacks.elements = []
  callbacks : ∀ d, d ≠ c → w'.callbacks d = w.callbacks d
  status : ∀ n, coreHolder w.natives.effects n ≠ some c → w'.coreStatus n = w.coreStatus n
  /-- With no callback registered, the `Tox` is destroyed and its number is freed. -/
  clean : (w.callbacks c).callbacks.elements = [] → w'.logged = w.logged ∧
    (w.coreNumber c ≠ 0 → w.coreNumber c ∈ w'.natives.coreInstances.freelist ∧
      .destroyedCore c c ∈ w'.natives.effects)
  /-- With a callback registered, no native core changes. -/
  stuck : (w.callbacks c).callbacks.elements ≠ [] →
    w'.natives.coreInstances = w.natives.coreInstances

/-- What the finalizer of an AV object keeps, and does when its id is not valid. -/
structure FinalizedAv (w : World) (a : AvRef) (w' : World) : Prop extends Quiet w w' where
  finalized : w'.finalized = .av a :: w.finalized
  callbacks : ∀ d, w'.callbacks d = w.callbacks d
  coreInstances : w'.natives.coreInstances = w.natives.coreInstances
  /-- The `ToxAV` of a closed object is destroyed, and its number is freed. -/
  clean : ¬ w.Registered a → w'.logged = w.logged ∧
    (w.avNumber a ≠ 0 → w.avNumber a ∈ w'.natives.avInstances.freelist ∧
      .destroyedAv a (w.native a) ∈ w'.natives.effects)

/-- A body that returns logs nothing. -/
theorem logThrowable_ok {body : Java Unit} (h : body w = .ok () w') :
    logThrowable body w = .ok () w' := by
  simp [logThrowable, h]

/-- An exception of the body is logged, and does not get out of the finalizer. -/
theorem logThrowable_thrown {body : Java Unit} {e : JavaException}
    (h : body w = .error (.exception e) w') :
    logThrowable body w = .ok () { w' with logged := w'.logged ++ [e] } := by
  simp [logThrowable, h]

/-- The note that a finalizer ran allocates and registers nothing. -/
theorem quiet_markFinalized (x : Ref) : Quiet w (w.markFinalized x) :=
  ⟨rfl, rfl, rfl, fun _ => rfl, fun _ => rfl, fun _ => rfl, rfl, rfl, fun _ he => he,
    fun _ hn => hn, fun _ hn => hn⟩

/-- The garbage collector notes that the finalizer runs, and runs it. -/
theorem perform_finalize (x : Ref) :
    perform (.finalize x) w = runFinalizer x (w.markFinalized x) := rfl

/-- The finalizer of an AV object returns. -/
theorem Inv.finalizeAv (h : Inv w) (ha : a < w.avCount) (hroot : .av a ∉ w.roots)
    (hfin : .av a ∉ w.finalized) :
    ∃ w', perform (.finalize (.av a)) w = .ok () w' ∧ Inv w' ∧ FinalizedAv w a w' := by
  have hm : Inv (w.markFinalized (.av a)) := h.markFinalized ha hroot
  rw [perform_finalize]
  by_cases hreg : w.Registered a
  · -- A registered object has a live number, which `toxavFinalize` refuses, or none.
    by_cases hzero : w.avNumber a = 0
    · have hrun : jni (Natives.toxavFinalize a (w.avNumber a)) (w.markFinalized (.av a))
          = .ok () (w.markFinalized (.av a)) := by
        rw [hzero]
        exact jni_ok Natives.toxavFinalize_zero
      exact ⟨_, logThrowable_ok hrun, hm, quiet_markFinalized _, rfl, fun _ => rfl, rfl,
        fun hc => absurd hreg hc⟩
    · have hlive := ((h.openAv a ha hreg).resolve_left hzero).2
      have hrun := jni_thrown (w := w.markFinalized (.av a))
        (Natives.toxavFinalize_live (a := a) h.avWF hlive)
      exact ⟨_, logThrowable_thrown hrun, hm.setLogged _, { quiet_markFinalized (.av a) with },
        rfl, fun _ => rfl, rfl, fun hc => absurd hreg hc⟩
  · -- A closed object has a killed number, which is freed.
    have hclosed := h.closedAv a ha hreg hfin
    obtain ⟨natives, hrun, hinv, hquiet, hcore, hfree⟩ :=
      hm.toxavFinalize hreg hclosed (List.mem_cons_self ..)
    refine ⟨_, logThrowable_ok (jni_ok hrun), hinv, (quiet_markFinalized _).trans hquiet,
      rfl, fun _ => rfl, hcore, fun _ => ⟨rfl, fun hzero => ⟨hfree hzero, ?_⟩⟩⟩
    exact hquiet.effects _ (hclosed.resolve_left hzero).2.2

/-- The finalizer of a core returns. -/
theorem Inv.finalizeCore (h : Inv w) (hc : c < w.coreCount) (hroot : .core c ∉ w.roots)
    (hfin : .core c ∉ w.finalized) :
    ∃ w', perform (.finalize (.core c)) w = .ok () w' ∧ Inv w' ∧ FinalizedCore w c w' := by
  have hm : Inv (w.markFinalized (.core c)) := h.markFinalized hc hroot
  have hown : (w.markFinalized (.core c)).CoreOwns c := h.core c hc hfin
  rw [perform_finalize]
  by_cases hnil : (w.callbacks c).callbacks.elements = []
  · -- `close` kills the core, and `toxFinalize` frees its number.
    obtain ⟨natives, hclose, hk⟩ := hm.closeCore_nil hown hnil
    have hk' := hm.coreKilled hown hk
    obtain ⟨natives', hfinal, hinv, hquiet, hst, hfree⟩ := hk'.toxFinalize
      (hk.killed.imp_right fun hkilled => ⟨hkilled.1, hkilled.2.1⟩) (List.mem_cons_self ..)
    have hrun : (do
        ToxCoreImpl.close c
        let w ← get
        jni (Natives.toxFinalize c (w.cores c).instanceNumber) : Java Unit)
          (w.markFinalized (.core c))
        = .ok () { w.markFinalized (.core c) with natives := natives' } := by
      simp only [bind, EStateM.bind, hclose, get, getThe, MonadStateOf.get, EStateM.get]
      exact jni_ok hfinal
    refine ⟨_, logThrowable_ok hrun, hinv,
      ((quiet_markFinalized _).trans hk.quiet).trans hquiet, rfl, hnil, fun _ _ => rfl,
      fun n hn => ?_, fun _ => ⟨rfl, fun hzero => ⟨hfree hzero, ?_⟩⟩, fun hc => absurd hnil hc⟩
    · by_cases hnum : n = w.coreNumber c
      · subst hnum
        by_cases hzero : w.coreNumber c = 0
        · rw [hzero]
          exact (coreStatus_zero _).trans (coreStatus_zero w).symm
        · exact absurd (hown.resolve_left hzero).1 hn
      · exact (hst n hnum).trans (hk.status n hnum)
    · exact hquiet.effects _ (hk.killed.resolve_left hzero).2.2
  · -- `close` throws, so `toxFinalize` is not called.
    obtain ⟨w', hclose, hinv, hclosed, hempty⟩ := hm.closeCore_throws hnil
    have hrun : (do
        ToxCoreImpl.close c
        let w ← get
        jni (Natives.toxFinalize c (w.cores c).instanceNumber) : Java Unit)
          (w.markFinalized (.core c))
        = .error (Event.iterationException .concurrentModification) w' := by
      simp only [bind, EStateM.bind, hclose]
    refine ⟨_, logThrowable_thrown hrun, hinv.setLogged _,
      { (quiet_markFinalized (.core c)).trans hclosed.toQuiet with }, hclosed.finalized, hempty,
      hclosed.callbacks,
      fun n _ => ?_, fun hc => absurd hc hnil, fun _ => hclosed.coreInstances⟩
    exact congrArg (InstanceManager.status · n) hclosed.coreInstances

end World

end Tox4j.Kotlin
