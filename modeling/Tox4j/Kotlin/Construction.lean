import Tox4j.Kotlin.Closing

/-!
# `Tox4j.Kotlin.Construction`: the constructors, and whole runs

A constructor first makes an object with the number 0 and then calls the native method
that makes the native instance. `Inv.allocCore` and `Inv.registerAv` are the first half,
and `Inv.setCoreNumber` and `Inv.avMade` the second. When the native method throws, only
the first half has happened.

`Inv.step` says that each action keeps the invariant, so it holds in every reachable world
(`inv_of_reachable`).
-/

set_option autoImplicit false

namespace Tox4j.Kotlin

open Tox4j.Lib Tox4j.Native

variable {w w' : World} {c d : CoreRef} {a b : AvRef} {n : Jint}

namespace World

/-! ### The constructors -/

/-- A new core has no number. -/
theorem Inv.allocCore (h : Inv w) : Inv w.allocCore := by
  have hold : ∀ c, c ≠ w.coreCount → w.allocCore.cores c = w.cores c := fun c hc =>
    Function.update_of_ne hc ..
  have hnew : w.allocCore.cores w.coreCount = ⟨.new, 0⟩ := Function.update_self ..
  -- The list of the new core is empty, and those of the others are as before.
  have hslot : ∀ c i a, (w.allocCore.callbacks c).slot i = some a →
      c ≠ w.coreCount ∧ (w.callbacks c).slot i = some a := fun c i a hs => by
    by_cases hc : c = w.coreCount
    · rw [hc, callbacks, hnew, Event.slot_new] at hs
      exact nomatch hs
    · rw [callbacks, hold c hc] at hs
      exact ⟨hc, hs⟩
  refine { h with
    pruned := fun c => ?_, slot := fun c i a hs => h.slot c i a (hslot c i a hs).2,
    registered := fun a ha hreg => ?_,
    tox_lt := fun a ha => Nat.lt_succ_of_lt (h.tox_lt a ha),
    finalized := fun x hx => ?_, roots := fun x hx => ?_, core := fun c hc hfin => ?_ }
  · by_cases hc : c = w.coreCount
    · rw [hc, callbacks, hnew]
      exact Event.pruned_new
    · rw [callbacks, hold c hc]
      exact h.pruned c
  · obtain ⟨i, hid, hs⟩ := h.registered a ha hreg
    refine ⟨i, hid, ?_⟩
    show (w.allocCore.callbacks (w.avs a).tox).slot i = some a
    rw [callbacks, hold _ (Nat.ne_of_lt (h.tox_lt a ha))]
    exact hs
  · have hexists := h.finalized x hx
    cases x with
    | core c => exact Nat.lt_succ_of_lt hexists
    | av a => exact hexists
  · obtain ⟨hcon, hfin⟩ := h.roots x hx
    refine ⟨?_, hfin⟩
    cases x with
    | core c =>
        refine ⟨Nat.lt_succ_of_lt hcon.1, ?_⟩
        rw [coreNumber, hold c (Nat.ne_of_lt hcon.1)]
        exact hcon.2
    | av a => exact hcon
  · by_cases hc' : c = w.coreCount
    · exact .inl (by rw [hc', coreNumber, hnew])
    · have hlt : c < w.coreCount := Nat.lt_of_le_of_ne (Nat.le_of_lt_succ hc) hc'
      exact (h.core c hlt hfin).congr (by rw [coreNumber, hold c hc']) (fun _ => rfl)
        (fun _ => rfl) fun _ he => he

/-- A core may be given a number that it owns. -/
theorem Inv.setCoreNumber (h : Inv w) (hn : n ≠ 0)
    (hown : coreHolder w.natives.effects n = some c ∧ w.coreStatus n = .live (c, c)) :
    Inv (w.setCoreNumber c n) := by
  have hcallbacks : ∀ d, (w.setCoreNumber c n).callbacks d = w.callbacks d := fun d => by
    by_cases hd : d = c <;> simp [callbacks, World.setCoreNumber, hd]
  have hnumber : ∀ d, d ≠ c → (w.setCoreNumber c n).coreNumber d = w.coreNumber d := by
    intro d hd
    simp [coreNumber, World.setCoreNumber, hd]
  have hnew : (w.setCoreNumber c n).coreNumber c = n := by
    simp [coreNumber, World.setCoreNumber]
  -- Only the number of `c` changes, and `c` owns the new one.
  refine { h with
    pruned := fun d => ?_, slot := fun d i a hs => ?_, registered := fun a ha hreg => ?_,
    roots := fun x hx => ?_, core := fun d hd hfin => ?_ }
  · rw [hcallbacks]
    exact h.pruned d
  · rw [hcallbacks] at hs
    exact h.slot d i a hs
  · obtain ⟨i, hid, hs⟩ := h.registered a ha hreg
    exact ⟨i, hid, by rw [hcallbacks]; exact hs⟩
  · obtain ⟨hcon, hfin⟩ := h.roots x hx
    refine ⟨?_, hfin⟩
    cases x with
    | av a => exact hcon
    | core d =>
        by_cases hd : d = c
        · exact ⟨hcon.1, by rw [hd, hnew]; exact hn⟩
        · exact ⟨hcon.1, by rw [hnumber d hd]; exact hcon.2⟩
  · by_cases hdc : d = c
    · subst hdc
      exact .inr ⟨by rw [hnew]; exact hown.1, .inl (by rw [hnew]; exact hown.2)⟩
    · exact (h.core d hd hfin).congr (hnumber d hdc) (fun _ => rfl) (fun _ => rfl) fun _ he => he

/-- The constructor of a core keeps the invariant, and so does the program that holds its
result. -/
theorem Inv.newCore (h : Inv w) (error : ToxErrNew) {ended : Ended}
    (hrun : outcome (perform (.newCore error) w) = (w', ended)) (hfits : w'.Fits) : Inv w' := by
  have ha := h.allocCore
  -- `tox_new` succeeds, or the constructor throws after the first half.
  rcases Natives.toxNew_spec w.coreCount ha.coreWF error with
    ⟨m', n, hnew, hspec⟩ | ⟨e, hthrow⟩
  · have hjni := jni_ok hnew
    simp only [perform, ToxCoreImpl.init, bind, EStateM.bind, get, getThe, MonadStateOf.get,
      EStateM.get, set, EStateM.set, hjni, modify, modifyGet, MonadStateOf.modifyGet,
      EStateM.modifyGet, pure, EStateM.pure, outcome, Prod.mk.injEq] at hrun
    obtain ⟨rfl, -⟩ := hrun
    obtain ⟨hwf, hn, hfree, hst⟩ := hspec hfits.1
    have hmade := ha.core_step { w.allocCore.natives with
        coreInstances := m'
        effects := w.allocCore.natives.effects ++ [.allocatedCore w.coreCount n] }
      rfl hwf (by simp [Effect.avHold]) (fun _ he => List.mem_append_left _ he)
      (fun a c k hmem => (List.mem_append.mp hmem).resolve_right (by simp)) (fun d hd hfin => ?_)
      (ha.safe.concat trivial)
    · refine (hmade.setCoreNumber hn ⟨?_, ?_⟩).hold ⟨?_, ?_⟩ ?_
      · simp [Effect.coreHold]
      · exact (congrFun hst n).trans (Function.update_self ..)
      · exact Nat.lt_succ_self _
      · simpa [coreNumber, World.setCoreNumber] using hn
      · exact fun hfin => absurd (h.finalized _ hfin) (Nat.lt_irrefl _)
    · have hd' := ha.core d hd hfin
      -- The number was free, so no other core has it.
      have hne : w.allocCore.coreNumber d ≠ 0 → w.allocCore.coreNumber d ≠ n := by
        rintro hzero rfl
        obtain ⟨-, hlive | ⟨hkilled, -⟩⟩ := hd'.resolve_left hzero
        · cases hfree.symm.trans hlive
        · cases hfree.symm.trans hkilled
      refine hd'.congr rfl (fun hzero => ?_) (fun hzero => ?_)
        fun _ he => List.mem_append_left _ he
      · rw [coreHolder_concat, Effect.coreHold, Function.update_of_ne (hne hzero)]
      · exact (congrFun hst _).trans (Function.update_of_ne (hne hzero) ..)
  · have hjni := jni_thrown hthrow
    simp only [perform, ToxCoreImpl.init, bind, EStateM.bind, get, getThe, MonadStateOf.get,
      EStateM.get, set, EStateM.set, hjni, outcome, Prod.mk.injEq] at hrun
    obtain ⟨rfl, -⟩ := hrun
    exact ha

/-- The world in which a new `ToxAvImpl` is registered with its core and has no number. -/
def registerAv (w : World) (tox : CoreRef) : World :=
  ((w.allocAv tox).setCallbacks tox (((w.allocAv tox).callbacks tox).add w.avCount).1).setOnClose
    w.avCount (((w.allocAv tox).callbacks tox).add w.avCount).2

section RegisterAv

variable {tox : CoreRef}

/-- The other AV objects are as before. -/
theorem avs_registerAv (hb : b ≠ w.avCount) : (w.registerAv tox).avs b = w.avs b := by
  simp [registerAv, allocAv, setOnClose, setCallbacks, hb]

/-- The new AV object has its core and its id, and no number yet. -/
theorem avs_registerAv_new : (w.registerAv tox).avs w.avCount
    = ⟨tox, (w.callbacks tox).callbacks.size, 0⟩ := by
  simp [registerAv, allocAv, setOnClose, setCallbacks, callbacks, Event.index_add]

/-- The callback of the new AV object is at the end of the list of its core. -/
theorem callbacks_registerAv : (w.registerAv tox).callbacks c
    = if c = tox then ((w.callbacks c).add w.avCount).1 else w.callbacks c := by
  by_cases hc : c = tox
  · subst hc
    simp [registerAv, allocAv, setOnClose, setCallbacks, callbacks]
  · simp [registerAv, allocAv, setOnClose, setCallbacks, callbacks, hc]

/-- All cores keep their numbers. -/
theorem coreNumber_registerAv : (w.registerAv tox).coreNumber c = w.coreNumber c := by
  by_cases hc : c = tox
  · subst hc
    simp [registerAv, allocAv, setOnClose, setCallbacks, coreNumber]
  · simp [registerAv, allocAv, setOnClose, setCallbacks, coreNumber, hc]

/-- The new object is registered behind the others. -/
theorem slot_registerAv {i : Nat} : ((w.registerAv tox).callbacks c).slot i = some a ↔
    (c = tox ∧ i = (w.callbacks c).callbacks.size ∧ a = w.avCount) ∨
      (w.callbacks c).slot i = some a := by
  rw [callbacks_registerAv]
  by_cases hc : c = tox
  · subst hc
    rw [if_pos rfl, Event.slot_add]
    -- The index of the new slot is behind all that had a callback.
    by_cases hi : i = (w.callbacks c).callbacks.size
    · have hnone : (w.callbacks c).slot i ≠ some a := fun hs => by
        have := Event.lt_size_of_slot hs
        omega
      rw [if_pos hi]
      constructor
      · intro hs
        exact .inl ⟨rfl, hi, (Option.some.inj hs).symm⟩
      · rintro (⟨-, -, rfl⟩ | hs)
        · rfl
        · exact absurd hs hnone
    · rw [if_neg hi]
      exact ⟨.inr, fun hs => hs.resolve_left fun hc => hi hc.2.1⟩
  · rw [if_neg hc]
    exact ⟨.inr, fun hs => hs.resolve_left fun hc' => hc hc'.1⟩

/-- The lists and the ids agree after the registration of a new AV object. -/
theorem HeapInv.registerAv (h : HeapInv w) (htox : tox < w.coreCount) :
    HeapInv (w.registerAv tox) where
  pruned c := by
    rw [callbacks_registerAv]
    split
    · exact Event.pruned_add
    · exact h.pruned c
  slot c i a hs := by
    rcases slot_registerAv.mp hs with ⟨rfl, rfl, rfl⟩ | hold
    · -- The new object has the index of its slot as its id.
      rw [avs_registerAv_new]
      exact ⟨Nat.lt_succ_self _, rfl, rfl⟩
    · obtain ⟨hlt, htox, hid⟩ := h.slot c i a hold
      rw [avs_registerAv (Nat.ne_of_lt hlt)]
      exact ⟨Nat.lt_succ_of_lt hlt, htox, hid⟩
  registered a ha hreg := by
    by_cases hnew : a = w.avCount
    · subst hnew
      refine ⟨(w.callbacks tox).callbacks.size, by rw [avs_registerAv_new], ?_⟩
      rw [avs_registerAv_new]
      exact slot_registerAv.mpr (.inl ⟨rfl, rfl, rfl⟩)
    · rw [Registered, avs_registerAv hnew] at hreg
      obtain ⟨i, hid, hs⟩ := h.registered a
        (Nat.lt_of_le_of_ne (Nat.le_of_lt_succ ha) hnew) hreg
      rw [avs_registerAv hnew]
      exact ⟨i, hid, slot_registerAv.mpr (.inr hs)⟩
  tox_lt a ha := by
    by_cases hnew : a = w.avCount
    · subst hnew
      rw [avs_registerAv_new]
      exact htox
    · rw [avs_registerAv hnew]
      exact h.tox_lt a (Nat.lt_of_le_of_ne (Nat.le_of_lt_succ ha) hnew)
  finalized x hx := by
    have hexists := h.finalized x hx
    cases x with
    | core c => exact hexists
    | av a => exact Nat.lt_succ_of_lt hexists
  roots x hx := by
    obtain ⟨hcon, hfin⟩ := h.roots x hx
    refine ⟨?_, hfin⟩
    cases x with
    | core c => exact ⟨hcon.1, by rw [coreNumber_registerAv]; exact hcon.2⟩
    | av a =>
        refine ⟨Nat.lt_succ_of_lt hcon.1, ?_⟩
        rw [avNumber, avs_registerAv (Nat.ne_of_lt hcon.1)]
        exact hcon.2

/-- A new AV object without a number is registered. -/
theorem Inv.registerAv (h : Inv w) (htox : tox < w.coreCount) : Inv (w.registerAv tox) := by
  have hnumber : ∀ b, b ≠ w.avCount → (w.registerAv tox).avNumber b = w.avNumber b :=
    fun b hb => by rw [avNumber, avs_registerAv hb]
  have hnative : ∀ b, b ≠ w.avCount → ((w.registerAv tox).avs b).tox = (w.avs b).tox :=
    fun b hb => by rw [avs_registerAv hb]
  have hregistered : ∀ b, b ≠ w.avCount → ((w.registerAv tox).Registered b ↔ w.Registered b) :=
    fun b hb => by rw [Registered, avs_registerAv hb, Registered]
  have hlt : ∀ b, b < (w.registerAv tox).avCount → b ≠ w.avCount → b < w.avCount := fun b hb hne =>
    Nat.lt_of_le_of_ne (Nat.le_of_lt_succ hb) hne
  -- The new object has the number 0, so it counts as open and as closed.
  refine { h.toHeapInv.registerAv htox with
    coreWF := h.coreWF, avWF := h.avWF, core := fun c hc hfin => ?_,
    openAv := fun b hb hreg => ?_, closedAv := fun b hb hreg hfin => ?_,
    live := fun n nav ev hlive => ?_, allocated := h.allocated, safe := h.safe }
  · exact (h.core c hc hfin).congr coreNumber_registerAv (fun _ => rfl) (fun _ => rfl)
      fun _ he => he
  · by_cases hnew : b = w.avCount
    · exact .inl (by rw [hnew, avNumber, avs_registerAv_new])
    · exact (h.openAv b (hlt b hb hnew) ((hregistered b hnew).mp hreg)).congr (hnumber b hnew)
        (hnative b hnew) (fun _ => rfl) fun _ => rfl
  · by_cases hnew : b = w.avCount
    · exact .inl (by rw [hnew, avNumber, avs_registerAv_new])
    · exact (h.closedAv b (hlt b hb hnew) (fun hc => hreg ((hregistered b hnew).mpr hc))
        hfin).congr (hnumber b hnew) (hnative b hnew) (fun _ => rfl) (fun _ => rfl) fun _ he => he
  · obtain ⟨hb, htox, hnum, hreg⟩ := h.live n nav ev hlive
    have hne := Nat.ne_of_lt hb
    exact ⟨Nat.lt_succ_of_lt hb, (hnative _ hne).trans htox, (hnumber _ hne).trans hnum,
      (hregistered _ hne).mpr hreg⟩

end RegisterAv

/-- The world in which `toxav_new` made a `ToxAV` for the object `a`, with the number `n` in
the table `m'`. -/
def avMade (w : World) (a : AvRef) (n : Jint) (m' : InstanceManager NativeAv AvRef) : World :=
  { w with natives := { w.natives with
      avInstances := m'
      effects := w.natives.effects ++ [Effect.allocatedAv a (w.avs a).tox n] } }.setAvNumber a n

section AvMade

variable {m' : InstanceManager NativeAv AvRef}

/-- The other AV objects are as before. -/
theorem avs_avMade (hb : b ≠ a) : (w.avMade a n m').avs b = w.avs b := by
  simp [avMade, World.setAvNumber, hb]

/-- The new AV object has the number that `toxavNew` returned. -/
theorem avNumber_avMade : (w.avMade a n m').avNumber a = n := by
  simp [avMade, avNumber, World.setAvNumber]

/-- All AV objects keep their cores. -/
theorem tox_avMade : ((w.avMade a n m').avs b).tox = (w.avs b).tox := by
  by_cases hb : b = a <;> simp [avMade, World.setAvNumber, hb]

/-- All AV objects keep their ids. -/
theorem onClose_avMade : ((w.avMade a n m').avs b).onClose = (w.avs b).onClose := by
  by_cases hb : b = a <;> simp [avMade, World.setAvNumber, hb]

/-- All AV objects stay registered, or not registered. -/
theorem registered_avMade : (w.avMade a n m').Registered b ↔ w.Registered b := by
  rw [Registered, onClose_avMade, Registered]

/-- The other AV objects keep their numbers. -/
theorem avNumber_avMade_of_ne (hb : b ≠ a) : (w.avMade a n m').avNumber b = w.avNumber b := by
  rw [avNumber, avs_avMade hb]

/-- The core numbers were last allocated to the same objects as before. -/
theorem coreHolder_avMade : coreHolder (w.avMade a n m').natives.effects
    = coreHolder w.natives.effects := by
  show coreHolder (_ ++ [_]) = _
  simp [Effect.coreHold]

/-- The number was last allocated to the new AV object. -/
theorem avHolder_avMade : avHolder (w.avMade a n m').natives.effects
    = Function.update (avHolder w.natives.effects) n (some a) := by
  show avHolder (_ ++ [_]) = _
  rw [avHolder_concat, Effect.avHold]

/-- The other AV numbers were last allocated to the same objects as before. -/
theorem avHolder_avMade_of_ne {k : Jint} (hk : k ≠ n) :
    avHolder (w.avMade a n m').natives.effects k = avHolder w.natives.effects k := by
  rw [avHolder_avMade, Function.update_of_ne hk]

/-- The lists and the ids agree after the new AV object got its number. -/
theorem HeapInv.avMade (h : HeapInv w) (hn : n ≠ 0) : HeapInv (w.avMade a n m') where
  pruned := h.pruned
  slot c i b hs := by
    obtain ⟨hb, htox, hid⟩ := h.slot c i b hs
    exact ⟨hb, tox_avMade.trans htox, onClose_avMade.trans hid⟩
  registered b hb hreg := by
    obtain ⟨i, hid, hs⟩ := h.registered b hb (registered_avMade.mp hreg)
    refine ⟨i, onClose_avMade.trans hid, ?_⟩
    rw [tox_avMade]
    exact hs
  tox_lt b hb := by
    rw [tox_avMade]
    exact h.tox_lt b hb
  finalized x hx := by
    have hexists := h.finalized x hx
    cases x <;> exact hexists
  roots x hx := by
    obtain ⟨hcon, hfin⟩ := h.roots x hx
    refine ⟨?_, hfin⟩
    cases x with
    | core c => exact hcon
    | av b =>
        refine ⟨hcon.1, ?_⟩
        by_cases hb : b = a
        · rw [hb, avNumber_avMade]
          exact hn
        · rw [avNumber, avs_avMade hb]
          exact hcon.2

/-- A registered object may be given the number of a `ToxAV` that was just made for it. -/
theorem Inv.avMade (h : Inv w) (ha : a < w.avCount) (hreg : w.Registered a)
    (hzero : w.avNumber a = 0) (hwf : m'.WellFormed) (hn : n ≠ 0) (hfree : w.avStatus n = .free)
    (hst : m'.status = Function.update w.avStatus n (.live (w.native a, a))) :
    Inv (w.avMade a n m') := by
  have hself : m'.status n = .live (w.native a, a) := hst ▸ Function.update_self ..
  have hother : ∀ k, k ≠ n → m'.status k = w.avStatus k := fun k hk => by
    rw [hst, Function.update_of_ne hk]
  -- The number was free, so no object has it.
  have hne : ∀ b, w.avStatus (w.avNumber b) ≠ .free → w.avNumber b ≠ n := fun b hb heq =>
    hb (heq ▸ hfree)
  refine { h.toHeapInv.avMade hn with
    coreWF := h.coreWF, avWF := hwf, core := fun c hc hfin => ?_,
    openAv := fun b hb hregb => ?_, closedAv := fun b hb hregb hfinb => ?_,
    live := fun k nav ev hlive => ?_, allocated := fun b c k hmem => ?_,
    safe := h.safe.concat trivial }
  · exact (h.core c hc hfin).congr rfl (fun _ => congrFun coreHolder_avMade _) (fun _ => rfl)
      fun _ he => List.mem_append_left _ he
  · -- The object owns the new number. The other registered ones keep theirs.
    by_cases hba : b = a
    · subst hba
      refine .inr ⟨?_, ?_⟩
      · rw [avNumber_avMade, avHolder_avMade, Function.update_self]
      · rw [avNumber_avMade, native, tox_avMade]
        exact hself
    · have hopen := h.openAv b hb (registered_avMade.mp hregb)
      have hbn : w.avNumber b ≠ 0 → w.avNumber b ≠ n := fun hb0 =>
        hne b (by rw [(hopen.resolve_left hb0).2]; intro hc; cases hc)
      exact hopen.congr (avNumber_avMade_of_ne hba) tox_avMade
        (fun hb0 => avHolder_avMade_of_ne (hbn hb0)) fun hb0 => hother _ (hbn hb0)
  · -- A closed object is not this one, which is registered.
    have hregb' : ¬ w.Registered b := fun hc => hregb (registered_avMade.mpr hc)
    have hba : b ≠ a := fun heq => hregb' (heq ▸ hreg)
    have hclosed := h.closedAv b hb hregb' hfinb
    have hbn : w.avNumber b ≠ 0 → w.avNumber b ≠ n := fun hb0 =>
      hne b (by rw [(hclosed.resolve_left hb0).2.1]; intro hc; cases hc)
    exact hclosed.congr (avNumber_avMade_of_ne hba) tox_avMade
      (fun hb0 => avHolder_avMade_of_ne (hbn hb0)) (fun hb0 => hother _ (hbn hb0))
      fun _ he => List.mem_append_left _ he
  · -- What was live before belongs to another object, since this one had no number.
    by_cases hk : k = n
    · subst hk
      cases hself.symm.trans hlive
      exact ⟨ha, tox_avMade, avNumber_avMade, registered_avMade.mpr hreg⟩
    · obtain ⟨hb, htox, hnum, hregb⟩ := h.live k nav ev ((hother k hk).symm.trans hlive)
      have hk0 : k ≠ 0 := by
        rintro rfl
        cases (avStatus_zero w).symm.trans ((hother 0 hk).symm.trans hlive)
      have hba : nav.owner ≠ a := fun heq => hk0 (by rw [← hnum, heq, hzero])
      exact ⟨hb, tox_avMade.trans htox, (avNumber_avMade_of_ne hba).trans hnum,
        registered_avMade.mpr hregb⟩
  · -- What was allocated before is live as before, or destroyed.
    rcases List.mem_append.mp hmem with hold | hnew
    · rcases h.allocated b c k hold with ⟨k', hlive⟩ | hdestroyed
      · refine .inl ⟨k', (hother k' fun heq => ?_).trans hlive⟩
        rw [heq, hfree] at hlive
        cases hlive
      · exact .inr (List.mem_append_left _ hdestroyed)
    · cases List.mem_singleton.mp hnew
      exact .inl ⟨n, hself⟩

end AvMade

/-- The constructor of an AV object registers it, and then calls `toxavNew`. -/
theorem initAv_eq (w : World) (tox : CoreRef) (error : ToxavErrNew) :
    ToxAvImpl.init tox error w = (do
      let n ← jni (Natives.toxavNew w.avCount (w.coreNumber tox) error)
      modify (·.setAvNumber w.avCount n)
      return w.avCount : Java AvRef) (w.registerAv tox) := by
  simp only [ToxAvImpl.init, ToxCoreImpl.addOnCloseCallback, bind, EStateM.bind, get,
    getThe, MonadStateOf.get, EStateM.get, set, EStateM.set, modify, modifyGet,
    MonadStateOf.modifyGet, EStateM.modifyGet, pure, EStateM.pure]
  rfl

/-- The constructor of an AV object keeps the invariant, and so does the program that holds
its result. -/
theorem Inv.newAv {tox : CoreRef} (h : Inv w) (error : ToxavErrNew) {ended : Ended}
    (hroot : .core tox ∈ w.roots)
    (hrun : outcome (perform (.newAv tox error) w) = (w', ended)) (hfits : w'.Fits) : Inv w' := by
  obtain ⟨⟨htox, hn0⟩, hfin⟩ := h.roots _ hroot
  have hr := h.registerAv htox
  have hnew : w.avCount < (w.registerAv tox).avCount := Nat.lt_succ_self _
  have hcalls := initAv_eq w tox error
  have hperform : perform (.newAv tox error) w = (do
      let a ← ToxAvImpl.init tox error
      modify (·.hold (.av a)) : Java Unit) w := rfl
  -- When `toxavNew` throws, the object is registered and nothing else has happened.
  have hthrown : (∃ e, (w.registerAv tox).natives.toxavNew w.avCount (w.coreNumber tox) error ⟨[]⟩
      = .ok (0, ⟨[e]⟩, (w.registerAv tox).natives)) → Inv w' := by
    rintro ⟨e, hthrow⟩
    have hjni := jni_thrown hthrow
    simp only [hperform, bind, EStateM.bind, hcalls, hjni, outcome, Prod.mk.injEq] at hrun
    obtain ⟨rfl, -⟩ := hrun
    exact hr
  obtain ⟨-, hlive | ⟨hkilled, -⟩⟩ := (h.core tox htox hfin).resolve_left hn0
  · rcases Natives.toxavNew_live (a := w.avCount) hr.coreWF hr.avWF hlive error with
      ⟨m', n, hmade, hspec⟩ | hthrow
    · have hjni := jni_ok hmade
      simp only [hperform, bind, EStateM.bind, hcalls, hjni, modify, modifyGet,
        MonadStateOf.modifyGet, EStateM.modifyGet, pure, EStateM.pure, outcome,
        Prod.mk.injEq] at hrun
      obtain ⟨rfl, -⟩ := hrun
      obtain ⟨hwf, hn, hfree, hst⟩ := hspec hfits.2
      have hreg : (w.registerAv tox).Registered w.avCount := by
        rw [Registered, avs_registerAv_new]
        simp [Event.invalidIndex]
      have hav := hr.avMade hnew hreg (by rw [avNumber, avs_registerAv_new]) hwf hn hfree
        (by rw [hst, native, avs_registerAv_new])
      -- The program holds the result of the constructor.
      have htox' : ((w.registerAv tox).avs w.avCount).tox = tox := by rw [avs_registerAv_new]
      have hcon : ((w.registerAv tox).avMade w.avCount n m').Constructed (.av w.avCount) :=
        ⟨hnew, by rw [avNumber_avMade]; exact hn⟩
      have hfin' : Ref.av w.avCount ∉ w.finalized := fun hc =>
        absurd (h.finalized _ hc) (Nat.lt_irrefl _)
      have hheld := hav.hold hcon hfin'
      rw [World.avMade, htox'] at hheld
      exact hheld
    · exact hthrown hthrow
  · exact hthrown (Natives.toxavNew_killed hr.coreWF hkilled error)

/-! ### Whole runs -/

/-- Each action of the program or of the garbage collector keeps the invariant. -/
theorem Inv.step {l : Action × Ended} (h : Inv w) (hstep : lifecycle.step w l w') : Inv w' := by
  obtain ⟨henabled, hrun, hfits⟩ := hstep
  obtain ⟨action, ended⟩ := l
  have hof : ∀ {w'' : World}, perform action w = .ok () w'' → Inv w'' → Inv w' := by
    intro w'' heq hinv
    simp only [heq, outcome, Prod.mk.injEq] at hrun
    exact hrun.1 ▸ hinv
  cases action with
  | newCore error => exact h.newCore error hrun hfits
  | newAv tox error => exact h.newAv error henabled hrun hfits
  | closeCore c =>
      obtain ⟨⟨hc, -⟩, hfin⟩ := h.roots _ henabled
      -- `close` throws when a callback is registered.
      by_cases hnil : (w.callbacks c).callbacks.elements = []
      · obtain ⟨natives, hclose, hk⟩ := h.closeCore_nil (h.core c hc hfin) hnil
        exact hof hclose (h.coreKilled (h.core c hc hfin) hk)
      · obtain ⟨w'', hclose, hinv, -, -⟩ := h.closeCore_throws hnil
        simp only [perform, hclose, outcome, Prod.mk.injEq] at hrun
        exact hrun.1 ▸ hinv
  | closeAv a =>
      obtain ⟨⟨ha, -⟩, hfin⟩ := h.roots _ henabled
      by_cases hreg : w.Registered a
      · obtain ⟨i, -, hslot⟩ := h.registered a ha hreg
        obtain ⟨w'', hclose, hinv, -, -⟩ := h.close_registered hslot
        exact hof hclose hinv
      · obtain ⟨w'', hclose, hinv⟩ := h.close_unregistered ha hreg hfin
        exact hof hclose hinv
  | drop x => exact hof rfl (h.drop x)
  | finalize x =>
      obtain ⟨hexists, hreach, hfin⟩ := henabled
      -- An object that is not reachable is not held by the program.
      have hroot : x ∉ w.roots := fun hmem => hreach (.root hmem)
      cases x with
      | core c =>
          obtain ⟨w'', hrun', hinv, -⟩ := h.finalizeCore hexists hroot hfin
          exact hof hrun' hinv
      | av a =>
          obtain ⟨w'', hrun', hinv, -⟩ := h.finalizeAv hexists hroot hfin
          exact hof hrun' hinv

/-- The invariant holds in every reachable world. -/
theorem inv_of_reachable (h : lifecycle.Reachable w) : Inv w :=
  h.invariant (fun _ hinit => hinit ▸ inv_initial) fun _ _ _ hinv hstep => hinv.step hstep

end World

end Tox4j.Kotlin
