import Tox4j.Kotlin.Lifecycle
import Tox4j.Native.LifecycleSpec

/-!
# `Tox4j.Kotlin.Ownership`: which object owns which native instance

`Inv` is the invariant of the process. It relates the callback lists of the cores, the ids
of the AV objects, the numbers in both kinds of objects, the two tables of native instances
and the history of effects:

* An AV object is registered with its core exactly while its id is valid. Then its number
  is 0 or names a live `ToxAV` that is its own.
* An AV object that is not registered, and not finalised, has the number 0 or its own
  number, whose `ToxAV` is destroyed.
* A core that is not finalised has the number 0 or its own number.

`Quiet` says what `close` and `finalize` never do: they allocate nothing, and what was freed
stays free. The lemmas on `CoreOwns`, `OpenAv` and `ClosedAv` say that an object still owns
its number after a change of other numbers.
-/

set_option autoImplicit false

namespace Tox4j.Kotlin

open Tox4j.Lib Tox4j.Native

variable {w w' : World} {c d : CoreRef} {a b : AvRef} {n : Jint}

namespace World

/-- The callbacks of a core. -/
abbrev callbacks (w : World) (c : CoreRef) : Event AvRef := (w.cores c).onCloseCallbacks

/-- The id of an AV object is valid: the object is registered with its core. -/
def Registered (w : World) (a : AvRef) : Prop := (w.avs a).onClose ≠ Event.invalidIndex

/-- The number of a core. -/
abbrev coreNumber (w : World) (c : CoreRef) : Jint := (w.cores c).instanceNumber

/-- The number of an AV object. -/
abbrev avNumber (w : World) (a : AvRef) : Jint := (w.avs a).instanceNumber

/-- What the numbers of cores stand for. -/
abbrev coreStatus (w : World) : Jint → Status (CoreRef × CoreRef) := w.natives.coreInstances.status

/-- What the numbers of AV objects stand for. -/
abbrev avStatus (w : World) : Jint → Status (NativeAv × AvRef) := w.natives.avInstances.status

/-- The native instance that an AV object would own. -/
abbrev native (w : World) (a : AvRef) : NativeAv := ⟨a, (w.avs a).tox⟩

/-- The number of a core is its own, and its `Tox` is live or destroyed. -/
def CoreOwns (w : World) (c : CoreRef) : Prop :=
  w.coreNumber c = 0 ∨ coreHolder w.natives.effects (w.coreNumber c) = some c ∧
    (w.coreStatus (w.coreNumber c) = .live (c, c) ∨
      w.coreStatus (w.coreNumber c) = .killed ∧ .destroyedCore c c ∈ w.natives.effects)

/-- The number of an AV object is its own, and its `ToxAV` is live. -/
def OpenAv (w : World) (a : AvRef) : Prop :=
  w.avNumber a = 0 ∨ avHolder w.natives.effects (w.avNumber a) = some a ∧
    w.avStatus (w.avNumber a) = .live (w.native a, a)

/-- The number of an AV object is its own, and its `ToxAV` is destroyed. -/
def ClosedAv (w : World) (a : AvRef) : Prop :=
  w.avNumber a = 0 ∨ avHolder w.natives.effects (w.avNumber a) = some a ∧
    w.avStatus (w.avNumber a) = .killed ∧ .destroyedAv a (w.native a) ∈ w.natives.effects

/-- The object was constructed without an exception. -/
def Constructed (w : World) : Ref → Prop
  | .core c => c < w.coreCount ∧ w.coreNumber c ≠ 0
  | .av a => a < w.avCount ∧ w.avNumber a ≠ 0

/-- The registrations and the ids agree, and what is held or finalised exists. -/
structure HeapInv (w : World) : Prop where
  pruned : ∀ c, (w.callbacks c).Pruned
  slot : ∀ c i a, (w.callbacks c).slot i = some a →
    a < w.avCount ∧ (w.avs a).tox = c ∧ (w.avs a).onClose = i
  registered : ∀ a, a < w.avCount → w.Registered a →
    ∃ i : Nat, (w.avs a).onClose = i ∧ (w.callbacks (w.avs a).tox).slot i = some a
  tox_lt : ∀ a, a < w.avCount → (w.avs a).tox < w.coreCount
  finalized : ∀ x ∈ w.finalized, w.Exists x
  roots : ∀ x ∈ w.roots, w.Constructed x ∧ x ∉ w.finalized

/-- The invariant of the process. -/
structure Inv (w : World) : Prop extends HeapInv w where
  coreWF : w.natives.coreInstances.WellFormed
  avWF : w.natives.avInstances.WellFormed
  core : ∀ c, c < w.coreCount → .core c ∉ w.finalized → w.CoreOwns c
  openAv : ∀ a, a < w.avCount → w.Registered a → w.OpenAv a
  closedAv : ∀ a, a < w.avCount → ¬ w.Registered a → .av a ∉ w.finalized → w.ClosedAv a
  live : ∀ n nav ev, w.avStatus n = .live (nav, ev) → nav.owner < w.avCount ∧
    (w.avs nav.owner).tox = nav.tox ∧ w.avNumber nav.owner = n ∧ w.Registered nav.owner
  allocated : ∀ a c n, .allocatedAv a c n ∈ w.natives.effects →
    (∃ k, w.avStatus k = .live (⟨a, c⟩, a)) ∨ .destroyedAv a ⟨a, c⟩ ∈ w.natives.effects
  safe : Safe w.natives.effects

/-- The invariant holds before the first object is made. -/
theorem inv_initial : Inv initial where
  coreWF := InstanceManager.wellFormed_empty
  avWF := InstanceManager.wellFormed_empty
  pruned _ := Event.pruned_new
  slot c i a h := by
    have hnone : (Event.new : Event AvRef).slot i = some a := h
    simp at hnone
  registered a h := absurd h (Nat.not_lt_zero a)
  tox_lt a h := absurd h (Nat.not_lt_zero a)
  core c h := absurd h (Nat.not_lt_zero c)
  openAv a h := absurd h (Nat.not_lt_zero a)
  closedAv a h := absurd h (Nat.not_lt_zero a)
  live n nav ev h := by
    have hlive : InstanceManager.empty.status n = .live (nav, ev) := h
    rw [InstanceManager.status_empty] at hlive
    exact nomatch hlive
  allocated a c n h := nomatch h
  finalized x h := nomatch h
  roots x h := nomatch h
  safe := safe_nil

/-- What `close` and `finalize` keep: nothing is allocated, and nothing is registered. -/
structure Quiet (w w' : World) : Prop where
  coreCount : w'.coreCount = w.coreCount
  avCount : w'.avCount = w.avCount
  roots : w'.roots = w.roots
  coreNumber : ∀ c, w'.coreNumber c = w.coreNumber c
  avNumber : ∀ a, w'.avNumber a = w.avNumber a
  tox : ∀ a, (w'.avs a).tox = (w.avs a).tox
  coreHolder_eq : coreHolder w'.natives.effects = coreHolder w.natives.effects
  avHolder_eq : avHolder w'.natives.effects = avHolder w.natives.effects
  effects : ∀ e ∈ w.natives.effects, e ∈ w'.natives.effects
  coreFree : ∀ n ∈ w.natives.coreInstances.freelist, n ∈ w'.natives.coreInstances.freelist
  avFree : ∀ n ∈ w.natives.avInstances.freelist, n ∈ w'.natives.avInstances.freelist

/-- Nothing happens. -/
theorem Quiet.refl (w : World) : Quiet w w := by
  constructor <;> simp

/-- One thing happens after another, and neither allocates or registers anything. -/
theorem Quiet.trans {w'' : World} (h : Quiet w w') (h' : Quiet w' w'') : Quiet w w'' where
  coreCount := h'.coreCount.trans h.coreCount
  avCount := h'.avCount.trans h.avCount
  roots := h'.roots.trans h.roots
  coreNumber c := (h'.coreNumber c).trans (h.coreNumber c)
  avNumber a := (h'.avNumber a).trans (h.avNumber a)
  tox a := (h'.tox a).trans (h.tox a)
  coreHolder_eq := h'.coreHolder_eq.trans h.coreHolder_eq
  avHolder_eq := h'.avHolder_eq.trans h.avHolder_eq
  effects e he := h'.effects e (h.effects e he)
  coreFree n hn := h'.coreFree n (h.coreFree n hn)
  avFree n hn := h'.avFree n (h.avFree n hn)

/-- The number 0 of an AV object that was not made is no instance. -/
theorem avStatus_zero (w : World) : w.avStatus 0 = .free :=
  InstanceManager.status_of_not_inRange InstanceManager.not_inRange_zero

/-- The number 0 of a core that was not made is no instance. -/
theorem coreStatus_zero (w : World) : w.coreStatus 0 = .free :=
  InstanceManager.status_of_not_inRange InstanceManager.not_inRange_zero

/-- An AV object whose callback is in a list is registered. -/
theorem HeapInv.registered_of_slot (h : HeapInv w) {i : Nat}
    (hslot : (w.callbacks c).slot i = some a) : w.Registered a := by
  intro hid
  obtain ⟨-, -, hid'⟩ := h.slot _ i a hslot
  rw [hid] at hid'
  simp [Event.invalidIndex] at hid'

/-! ### What an object owns -/

/-- `CoreOwns` reads the entries of its own number. -/
theorem CoreOwns.congr (h : w.CoreOwns c) (hnum : w'.coreNumber c = w.coreNumber c)
    (hholder : w.coreNumber c ≠ 0 → coreHolder w'.natives.effects (w.coreNumber c)
      = coreHolder w.natives.effects (w.coreNumber c))
    (hst : w.coreNumber c ≠ 0 → w'.coreStatus (w.coreNumber c) = w.coreStatus (w.coreNumber c))
    (heff : ∀ e ∈ w.natives.effects, e ∈ w'.natives.effects) : w'.CoreOwns c := by
  by_cases hzero : w.coreNumber c = 0
  · exact .inl (hnum.trans hzero)
  obtain ⟨hown, hstatus⟩ := h.resolve_left hzero
  refine .inr ⟨by rw [hnum, hholder hzero, hown], ?_⟩
  rw [hnum, hst hzero]
  exact hstatus.imp_right fun hkilled => ⟨hkilled.1, heff _ hkilled.2⟩

/-- An AV object stays open when nothing changes at its number. -/
theorem OpenAv.congr (h : w.OpenAv b) (hnum : w'.avNumber b = w.avNumber b)
    (htox : (w'.avs b).tox = (w.avs b).tox)
    (hholder : w.avNumber b ≠ 0 → avHolder w'.natives.effects (w.avNumber b)
      = avHolder w.natives.effects (w.avNumber b))
    (hst : w.avNumber b ≠ 0 → w'.avStatus (w.avNumber b) = w.avStatus (w.avNumber b)) :
    w'.OpenAv b := by
  by_cases hzero : w.avNumber b = 0
  · exact .inl (hnum.trans hzero)
  obtain ⟨hown, hstatus⟩ := h.resolve_left hzero
  refine .inr ⟨by rw [hnum, hholder hzero, hown], ?_⟩
  rw [hnum, hst hzero, hstatus, native, native, htox]

/-- An AV object stays closed when nothing changes at its number, and no effect is forgotten. -/
theorem ClosedAv.congr (h : w.ClosedAv b) (hnum : w'.avNumber b = w.avNumber b)
    (htox : (w'.avs b).tox = (w.avs b).tox)
    (hholder : w.avNumber b ≠ 0 → avHolder w'.natives.effects (w.avNumber b)
      = avHolder w.natives.effects (w.avNumber b))
    (hst : w.avNumber b ≠ 0 → w'.avStatus (w.avNumber b) = w.avStatus (w.avNumber b))
    (heff : ∀ e ∈ w.natives.effects, e ∈ w'.natives.effects) : w'.ClosedAv b := by
  by_cases hzero : w.avNumber b = 0
  · exact .inl (hnum.trans hzero)
  obtain ⟨hown, hstatus, hmem⟩ := h.resolve_left hzero
  refine .inr ⟨by rw [hnum, hholder hzero, hown], by rw [hnum, hst hzero, hstatus], ?_⟩
  rw [native, htox]
  exact heff _ hmem

/-- Two objects do not own the same number. -/
theorem avNumber_ne {holder : Jint → Option AvRef} (ha : holder (w.avNumber a) = some a)
    (hb : holder (w.avNumber b) = some b) (hne : b ≠ a) : w.avNumber b ≠ w.avNumber a := by
  intro heq
  rw [heq, ha] at hb
  exact hne (Option.some.inj hb).symm

/-- Two cores do not own the same number. -/
theorem coreNumber_ne {holder : Jint → Option CoreRef} (hc : holder (w.coreNumber c) = some c)
    (hd : holder (w.coreNumber d) = some d) (hne : d ≠ c) : w.coreNumber d ≠ w.coreNumber c := by
  intro heq
  rw [heq, hc] at hd
  exact hne (Option.some.inj hd).symm

/-- The number of a live native AV instance names its owner. -/
theorem owner_eq {nav : NativeAv} {ev : AvRef}
    (hlive : w.avStatus (w.avNumber a) = .live (nav, ev)) (hown : w.OpenAv a ∨ w.ClosedAv a) :
    nav = w.native a := by
  by_cases hzero : w.avNumber a = 0
  · rw [hzero, avStatus_zero] at hlive
    exact nomatch hlive
  rcases hown with hopen | hclosed
  · have hlive' := (hopen.resolve_left hzero).2
    rw [hlive] at hlive'
    cases hlive'
    rfl
  · have hkilled := (hclosed.resolve_left hzero).2.1
    rw [hlive] at hkilled
    exact nomatch hkilled

/-! ### Changes that keep the invariant -/

/-- A change of the table of cores that leaves the table of AV instances alone keeps the
invariant when the cores still own their numbers. -/
theorem Inv.core_step (h : Inv w) (natives : Natives)
    (hav : natives.avInstances = w.natives.avInstances)
    (hwf : natives.coreInstances.WellFormed)
    (hholder : avHolder natives.effects = avHolder w.natives.effects)
    (heff : ∀ e ∈ w.natives.effects, e ∈ natives.effects)
    (hgrown : ∀ a c n, .allocatedAv a c n ∈ natives.effects →
      .allocatedAv a c n ∈ w.natives.effects)
    (hcore : ∀ d, d < w.coreCount → .core d ∉ w.finalized →
      CoreOwns { w with natives := natives } d)
    (hsafe : Safe natives.effects) : Inv { w with natives := natives } := by
  have hst : ∀ n, natives.avInstances.status n = w.avStatus n := fun n =>
    congrArg (InstanceManager.status · n) hav
  refine { h.toHeapInv with
    coreWF := hwf, avWF := hav ▸ h.avWF, core := hcore,
    openAv := fun b hb hreg => ?_, closedAv := fun b hb hreg hfin => ?_,
    live := fun n nav ev hlive => h.live n nav ev ((hst n).symm.trans hlive),
    allocated := fun a c n hmem => ?_, safe := hsafe }
  · -- The AV numbers have the owner and the status that they had.
    exact (h.openAv b hb hreg).congr rfl rfl (fun _ => by rw [hholder]) fun _ => hst _
  · exact (h.closedAv b hb hreg hfin).congr rfl rfl (fun _ => by rw [hholder]) (fun _ => hst _)
      heff
  · rcases h.allocated a c n (hgrown a c n hmem) with ⟨k, hlive⟩ | hdestroyed
    · exact .inl ⟨k, (hst k).trans hlive⟩
    · exact .inr (heff _ hdestroyed)

/-- A constructed object that is not finalised may be held. -/
theorem Inv.hold {x : Ref} (h : Inv w) (hcon : w.Constructed x) (hfin : x ∉ w.finalized) :
    Inv (w.hold x) :=
  { h with
    roots := fun y hy => by
      rcases List.mem_cons.mp hy with rfl | hy
      · exact ⟨hcon, hfin⟩
      · exact h.roots y hy }

/-- The program forgets an object. It holds less then, and all else is as before. -/
theorem Inv.drop (h : Inv w) (x : Ref) :
    Inv { w with roots := w.roots.filter (· ≠ x) } :=
  { h with roots := fun y hy => h.roots y (List.mem_filter.mp hy).1 }

/-- Logging does not matter to the invariant. -/
theorem Inv.setLogged (h : Inv w) (es : List JavaException) : Inv { w with logged := es } :=
  { h with }

/-- The finalizer of the object has started. -/
def markFinalized (w : World) (x : Ref) : World := { w with finalized := x :: w.finalized }

/-- An object that is not held may be marked as finalised. -/
theorem Inv.markFinalized {x : Ref} (h : Inv w) (hexists : w.Exists x) (hroot : x ∉ w.roots) :
    Inv (w.markFinalized x) :=
  { h with
    finalized := fun y hy => by
      rcases List.mem_cons.mp hy with rfl | hy
      · exact hexists
      · exact h.finalized y hy
    roots := fun y hy => by
      obtain ⟨hcon, hfin⟩ := h.roots y hy
      refine ⟨hcon, fun hc => ?_⟩
      rcases List.mem_cons.mp hc with rfl | hc
      · exact hroot hy
      · exact hfin hc
    -- What is not finalised now was not finalised before.
    core := fun c hc hfin => h.core c hc fun hmem => hfin (List.mem_cons_of_mem _ hmem)
    closedAv := fun a ha hreg hfin =>
      h.closedAv a ha hreg fun hmem => hfin (List.mem_cons_of_mem _ hmem) }

end World

end Tox4j.Kotlin
