import Tox4j.Native.ThreadLocks

/-!
# `Tox4j.Native.ThreadSafety`: no use after destruction

A thread is in the window of a pair from the moment that `get` has read the object pointer
until `func` returns (`Frame.window?`). `Pairs` is the invariant about where the pairs are:

* While a thread is in the window of a pair, the pair is in the slot whose mutex the thread
  holds. So `kill` cannot move it out, and `add` cannot overwrite it.
* A pair is in one place: it is still to be stored by an `add`, or is in one slot, or was
  moved out by a `kill`, or is destroyed.
* The two pointers of a slot are of the same pair, but for the slot that the holder of the
  manager mutex is writing.

`Pairs.advance` says that every step keeps it. `noUseAfterDestruction` is the result over
all interleavings.
-/

set_option autoImplicit false

namespace Tox4j.Native.Threads

open Tox4j.Lib
open InstanceManager (index?)

namespace Frame

/-- The slot and the pair that the thread is in the window of. -/
def window? : Frame → Option (Nat × AddId)
  | .withEvents n object | .withUnlock n object _ | .withTest n object _ =>
    (index? n).bind fun i => object.map fun id => (i, id)
  | .withFunc n object _ => (index? n).map fun i => (i, object)
  | _ => none

/-- The pairs that are in no slot because the thread has them. -/
def own : Frame → List AddId
  | .addLock id | .addChoose id | .addTest _ id | .addObject _ id | .addRelocate id => [id]
  | .killEvents _ object | .killDestroyEvents _ object _ | .killDestroyObject _ object =>
    object.toList
  | _ => []

/-- The pair that an `add` has not stored yet. -/
def adding? : Frame → Option AddId
  | .addLock id | .addChoose id | .addTest _ id | .addObject _ id | .addRelocate id => some id
  | _ => none

/-- The slot of which only one pointer is written so far. -/
def writing? : Frame → Option Nat
  | .addEvents n _ | .killEvents n _ => index? n
  | _ => none

/-- The thread is moving the elements of the vector. -/
def relocating : Frame → Bool
  | .addRelocate _ => true
  | _ => false

/-- What the thread knows at this point about the slots and about its pointers. -/
def Local (slots : List Pointers) : Frame → Prop
  | .addObject n _ => ∀ i, index? n = some i → slots[i]? = some (.null : Pointers)
  | .addEvents n id => ∀ i, index? n = some i → slots[i]? = some (⟨some id, none⟩ : Pointers)
  | .killEvents n object => ∀ i, index? n = some i → slots[i]? = some (⟨none, object⟩ : Pointers)
  | .killDestroyEvents _ object events => object = events
  | .withEvents n object =>
    ∃ i, index? n = some i ∧ slots[i]? = some (⟨object, object⟩ : Pointers)
  | .withUnlock n object events | .withTest n object events =>
    (index? n).isSome ∧ object = events
  | .withFunc n object events => (index? n).isSome ∧ object = events
  | _ => True

variable {f : Frame} {c c' : List Pointers} {i : Nat} {id : AddId}

/-- Only the holder of the manager mutex knows something about the slots. -/
theorem Local.congr (h : f.Local c) (hf : f.holdsManager = false) : f.Local c' := by
  cases f <;> first | exact h | exact nomatch hf

/-- In the window of a pair the thread holds the mutex of its slot. -/
theorem lock?_of_window? (h : f.window? = some (i, id)) : f.lock? = some i := by
  cases f with
  | withEvents n object | withUnlock n object _ | withTest n object _ =>
      simp only [window?, Option.bind_eq_some_iff, Option.map_eq_some_iff, Prod.mk.injEq] at h
      obtain ⟨j, hj, -, -, rfl, -⟩ := h
      exact hj
  | withFunc n object _ =>
      simp only [window?, Option.map_eq_some_iff, Prod.mk.injEq] at h
      obtain ⟨j, hj, rfl, -⟩ := h
      exact hj
  | _ => exact nomatch h

/-- An `add` that has not handed over its pointers owns them. -/
theorem mem_own_of_adding? (h : f.adding? = some id) : id ∈ f.own := by
  cases f <;> simp_all [adding?, own]

/-- A thread that writes one of the pointers of a slot holds the mutex of the manager. -/
theorem holdsManager_of_writing? (h : f.writing? = some i) : f.holdsManager = true := by
  cases f <;> first | rfl | exact nomatch h

/-- A thread that moves the pairs to a new vector holds the mutex of the manager. -/
theorem holdsManager_of_relocating (h : f.relocating = true) : f.holdsManager = true := by
  cases f <;> first | rfl | exact nomatch h

end Frame

variable {ι : Type} {s s' : Shared} {F : ι → Option Frame} {p q : ι} {f g : Frame}
  {r : Option Frame} {n : Jint} {i j : Nat} {id : AddId} {x y : Pointers}

/-- Where the pairs are. -/
structure Pairs (s : Shared) (F : ι → Option Frame) : Prop where
  knows : Every F (Frame.Local s.contents)
  window : Every F fun f => ∀ i id, f.window? = some (i, id) →
    s.contents[i]? = some (⟨some id, some id⟩ : Pointers)
  own : Every F fun f => ∀ id ∈ f.own, id < s.adds ∧
    ∀ x ∈ s.contents, x.objectP ≠ some id
  own_one : Exclusive F fun f id => id ∈ f.own
  adding : Every F fun f => ∀ id, f.adding? = some id → id ∉ s.destroyed
  unique : ∀ (i j : Nat) (x y : Pointers) (id : AddId), s.contents[i]? = some x →
    s.contents[j]? = some y → x.objectP = some id → y.objectP = some id → i = j
  stored : ∀ x ∈ s.contents, ∀ id, x.objectP = some id → id < s.adds
  destroyed : ∀ id ∈ s.destroyed, id < s.adds ∧ ∀ x ∈ s.contents, x.objectP ≠ some id
  paired : ∀ (i : Nat) (x : Pointers), s.contents[i]? = some x → x.objectP = x.eventsP ∨
    ∃ q g, F q = some g ∧ g.writing? = some i
  relocating : s.relocated ≠ [] → ∃ q g, F q = some g ∧ g.relocating = true

/-- The invariant holds before the first call. -/
theorem pairs_initial : Pairs Shared.initial (fun _ : ι => none) where
  knows := every_none
  window := every_none
  own := every_none
  own_one := exclusive_none
  adding := every_none
  unique i j x y id h := by simp [Shared.contents, Shared.initial, InstanceManager.empty] at h
  stored x h := by simp [Shared.contents, Shared.initial, InstanceManager.empty] at h
  destroyed id h := nomatch h
  paired i x h := by simp [Shared.contents, Shared.initial, InstanceManager.empty] at h
  relocating h := absurd rfl h

namespace Pairs

/-! ### What the holder of the manager mutex sees -/

/-- The holder sees the whole vector, unless it is moving the elements itself. -/
theorem relocated_eq_nil (h : Pairs s F) (hl : Locks s F) (hp : F p = some f)
    (hf : f.holdsManager = true) (hrel : f.relocating = false) : s.relocated = [] := by
  by_contra hne
  obtain ⟨q, g, hq, hg⟩ := h.relocating hne
  -- The thread that moves the elements holds the mutex as well, so it is this one.
  have hgf : g = f :=
    hl.manager_one.point_eq (a := ()) hp hf hq (Frame.holdsManager_of_relocating hg)
  subst hgf
  exact absurd hrel (by simp [hg])

/-- The holder sees two pointers of the same pair, unless it is writing the slot itself. -/
theorem paired_of_holder (h : Pairs s F) (hl : Locks s F) (hp : F p = some f)
    (hf : f.holdsManager = true) (hw : f.writing? ≠ some i) (hx : s.contents[i]? = some x) :
    x.objectP = x.eventsP := by
  refine (h.paired i x hx).resolve_right ?_
  rintro ⟨q, g, hq, hg⟩
  have hgf : g = f :=
    hl.manager_one.point_eq (a := ()) hp hf hq (Frame.holdsManager_of_writing? hg)
  subst hgf
  exact hw hg

/-- While no vector is being moved, the contents are those of the one vector. -/
theorem contents_of_nil (h : s.relocated = []) : s.contents = s.manager.instances := by
  simp [Shared.contents, h]

/-- A slot that is read is an element of the contents. -/
theorem contents_of_slot (h : s.relocated = []) (hx : s.manager.slot n = .ok x) :
    ∃ i, index? n = some i ∧ s.contents[i]? = some x := by
  rw [contents_of_nil h]
  unfold InstanceManager.slot at hx
  cases hn : index? n with
  | none => simp [hn] at hx
  | some i =>
      refine ⟨i, rfl, ?_⟩
      simp only [hn, Option.bind_some] at hx
      split at hx
      · rename_i y hy
        cases hx
        exact hy
      · exact nomatch hx

/-- What the holder reads from a slot is an element of the contents. -/
theorem reads (h : Pairs s F) (hl : Locks s F) (hp : F p = some f)
    (hf : f.holdsManager = true) (hrel : f.relocating = false) {steps : Pointers → Shared.Steps}
    (hadv : (s', r) ∈ s.readSlot n steps) :
    ∃ i x, index? n = some i ∧ s.contents[i]? = some x ∧ (s', r) ∈ steps x := by
  obtain ⟨x, hx, hadv⟩ := Shared.mem_readSlot.mp hadv
  obtain ⟨i, hn, hi⟩ := contents_of_slot (h.relocated_eq_nil hl hp hf hrel) hx
  exact ⟨i, x, hn, hi, hadv⟩

/-- A store to a slot. -/
theorem contents_setSlot (h : s.relocated = []) (hn : index? n = some i) :
    (s.setSlot n y).contents = s.contents.set i y := by
  rw [contents_of_nil (s := s.setSlot n y) h, contents_of_nil h]
  simp [Shared.setSlot, InstanceManager.setSlot, hn]

/-- Moving an element to the new buffer does not change the contents. -/
theorem contents_relocate (hx : s.manager.instances[s.relocated.length]? = some x) :
    Shared.contents { s with
      manager := { s.manager with
        instances := s.manager.instances.set s.relocated.length .null }
      relocated := s.relocated ++ [x] } = s.contents := by
  obtain ⟨hlt, hget⟩ := List.getElem?_eq_some_iff.mp hx
  unfold Shared.contents
  rw [List.drop_eq_getElem_cons hlt, hget]
  simp [List.drop_set_of_lt]

/-- A slot after a store is the one that was written, or is as before. -/
theorem getElem?_set_cases {ps : List Pointers} (hx : ps[i]? = some x) {z : Pointers}
    (hz : (ps.set i y)[j]? = some z) : (j = i ∧ z = y) ∨ (j ≠ i ∧ ps[j]? = some z) := by
  obtain ⟨hlt, -⟩ := List.getElem?_eq_some_iff.mp hx
  by_cases hji : j = i
  · subst hji
    rw [List.getElem?_set_self hlt] at hz
    exact .inl ⟨rfl, (Option.some.inj hz).symm⟩
  · rw [List.getElem?_set_ne (Ne.symm hji)] at hz
    exact .inr ⟨hji, hz⟩

/-- An element of a list after a write is the new one, or was there before at another position. -/
theorem mem_set_cases {ps : List Pointers} (hx : ps[i]? = some x) {z : Pointers}
    (hz : z ∈ ps.set i y) :
    z = y ∨ ∃ j, j ≠ i ∧ ps[j]? = some z := by
  obtain ⟨j, hj⟩ := List.mem_iff_getElem?.mp hz
  exact (getElem?_set_cases hx hj).imp And.right fun hkept => ⟨j, hkept⟩

/-- A slot after `push_back` is as before, or is the new last one. -/
theorem getElem?_push_cases {ps : List Pointers} {z : Pointers} (hz : (ps ++ [y])[j]? = some z) :
    ps[j]? = some z ∨ (j = ps.length ∧ z = y) := by
  rcases Nat.lt_trichotomy j ps.length with hlt | heq | hgt
  · rw [List.getElem?_append_left hlt] at hz
    exact .inl hz
  · subst heq
    rw [List.getElem?_concat_length] at hz
    exact .inr ⟨rfl, (Option.some.inj hz).symm⟩
  · rw [List.getElem?_eq_none (by simpa using hgt)] at hz
    cases hz

/-! ### What the holder of the mutex of a slot knows -/

/-- A thread in a window of the slot would hold the mutex of the slot. -/
theorem no_window_of_lock? (hl : Locks s F) (hp : F p = some f) (hf : f.lock? = some i) :
    ∀ q f' id, q ≠ p → F q = some f' → f'.window? ≠ some (i, id) := by
  intro q f' id hqp hq hw
  exact hl.slot_one.not_other hp hf hqp hq (Frame.lock?_of_window? hw)

/-! ### The kinds of steps -/

/-- A pair that the thread owns, or that is in the slot `i`, is in no other slot. -/
theorem not_in_other (h : Pairs s F) (hp : F p = some f) (hx : s.contents[i]? = some x)
    (hid : id ∈ f.own ∨ x.objectP = some id) (hji : j ≠ i) (hy : s.contents[j]? = some y) :
    y.objectP ≠ some id := by
  intro hyid
  cases hid with
  | inl hmine => exact (h.own p f hp id hmine).2 y (List.mem_of_getElem? hy) hyid
  | inr hold => exact hji (h.unique j i y x id hy hx hyid hold)

/-- A pair that the thread owns, or that is in a slot, has been handed over to `add`. -/
theorem lt_adds (h : Pairs s F) (hp : F p = some f) (hx : s.contents[i]? = some x)
    (hid : id ∈ f.own ∨ x.objectP = some id) : id < s.adds := by
  cases hid with
  | inl hmine => exact (h.own p f hp id hmine).1
  | inr hold => exact h.stored x (List.mem_of_getElem? hx) id hold

/-- No other thread owns a pair that the thread owns, or that is in a slot. -/
theorem not_owned_by_other (h : Pairs s F) (hp : F p = some f) (hx : s.contents[i]? = some x)
    (hid : id ∈ f.own ∨ x.objectP = some id) (hqp : q ≠ p) (hq : F q = some g) :
    id ∉ g.own := by
  intro hg
  cases hid with
  | inl hmine => exact h.own_one.not_other hp hmine hqp hq hg
  | inr hold => exact (h.own q g hq id hg).2 x (List.mem_of_getElem? hx) hold

variable [DecidableEq ι]

/-- A step that moves no pair. -/
theorem pass (h : Pairs s F) (hp : F p = some f) (hcontents : s'.contents = s.contents)
    (hadds : s'.adds = s.adds) (hdestroyed : s'.destroyed = s.destroyed)
    (hwriting : f.writing? = none)
    (hrel : (∃ f', r = some f' ∧ f'.relocating = true) ∨
      s'.relocated = s.relocated ∧ f.relocating = false)
    (hknows : ∀ f', r = some f' → f'.Local s.contents)
    (hwindow : ∀ f', r = some f' → ∀ i id, f'.window? = some (i, id) →
      s.contents[i]? = some (⟨some id, some id⟩ : Pointers))
    (hown : ∀ f', r = some f' → ∀ id ∈ f'.own, id ∈ f.own)
    (hadding : ∀ f', r = some f' → ∀ id, f'.adding? = some id → f.adding? = some id) :
    Pairs s' (Function.update F p r) where
  knows := by
    rw [hcontents]
    exact h.knows.update hknows fun _ _ _ _ hg => hg
  window := by
    rw [hcontents]
    exact h.window.update hwindow fun _ _ _ _ hg => hg
  own := by
    rw [hcontents, hadds]
    refine h.own.update ?_ fun _ _ _ _ hg => hg
    intro f' hr id hid
    exact h.own p f hp id (hown f' hr id hid)
  own_one := h.own_one.update_of_imp hp fun f' id hr => hown f' hr id
  adding := by
    rw [hdestroyed]
    refine h.adding.update ?_ fun _ _ _ _ hg => hg
    intro f' hr id hid
    exact h.adding p f hp id (hadding f' hr id hid)
  unique := hcontents ▸ h.unique
  stored := by
    rw [hcontents, hadds]
    exact h.stored
  destroyed := by
    rw [hcontents, hadds, hdestroyed]
    exact h.destroyed
  paired := by
    rw [hcontents]
    intro i x hx
    -- This thread was not between two stores, so the one that is stays there.
    refine (h.paired i x hx).imp_right fun hwriter => exists_update hwriter ?_
    intro f' hf' hw
    cases hp.symm.trans hf'
    exact Option.some_ne_none i (hw.symm.trans hwriting)
  relocating := by
    intro hne
    rcases hrel with ⟨f', hr, hf'⟩ | ⟨heq, hf⟩
    · exact ⟨p, f', by rw [Function.update_self, hr], hf'⟩
    · refine exists_update (h.relocating (heq ▸ hne)) ?_
      intro f' hf' hmoving
      cases hp.symm.trans hf'
      exact absurd hf (by simp [hmoving])

/-- A step of a call that goes on, and moves no pair. -/
theorem goes (h : Pairs s F) (hp : F p = some f) (hcontents : s'.contents = s.contents)
    (hadds : s'.adds = s.adds) (hdestroyed : s'.destroyed = s.destroyed)
    (hwriting : f.writing? = none)
    (hrel : g.relocating = true ∨ s'.relocated = s.relocated ∧ f.relocating = false)
    (hknows : g.Local s.contents)
    (hwindow : ∀ i id, g.window? = some (i, id) →
      s.contents[i]? = some (⟨some id, some id⟩ : Pointers))
    (hown : ∀ id ∈ g.own, id ∈ f.own)
    (hadding : ∀ id, g.adding? = some id → f.adding? = some id) :
    Pairs s' (Function.update F p (some g)) := by
  refine h.pass hp hcontents hadds hdestroyed hwriting ?_ ?_ ?_ ?_ ?_
  · exact hrel.imp_left fun hg => ⟨g, rfl, hg⟩
  · intro f' hf'
    exact Option.some.inj hf' ▸ hknows
  · intro f' hf'
    exact Option.some.inj hf' ▸ hwindow
  · intro f' hf'
    exact Option.some.inj hf' ▸ hown
  · intro f' hf'
    exact Option.some.inj hf' ▸ hadding

/-- A call returns, or goes on to a point that knows nothing and has no pair. -/
theorem pass_plain (h : Pairs s F) (hp : F p = some f) (hcontents : s'.contents = s.contents)
    (hadds : s'.adds = s.adds) (hdestroyed : s'.destroyed = s.destroyed)
    (hrelocated : s'.relocated = s.relocated) (hwriting : f.writing? = none)
    (hrel : f.relocating = false)
    (hr : ∀ f', r = some f' → (∀ c, f'.Local c) ∧ f'.window? = none ∧
      (∀ id ∈ f'.own, id ∈ f.own) ∧ ∀ id, f'.adding? = some id → f.adding? = some id) :
    Pairs s' (Function.update F p r) := by
  refine h.pass hp hcontents hadds hdestroyed hwriting (.inr ⟨hrelocated, hrel⟩) ?_ ?_ ?_ ?_
  · intro f' hf'
    exact (hr f' hf').1 _
  · intro f' hf' i id hw
    rw [(hr f' hf').2.1] at hw
    cases hw
  · intro f' hf'
    exact (hr f' hf').2.2.1
  · intro f' hf'
    exact (hr f' hf').2.2.2

/-- The holder of the manager mutex writes `y` to the slot `i`, which had `x`. -/
theorem write (h : Pairs s F) (hl : Locks s F) (hp : F p = some f)
    (hf : f.holdsManager = true) (hrel : f.relocating = false)
    (hn : index? n = some i) (hx : s.contents[i]? = some x)
    (hother : ∀ q f' id, q ≠ p → F q = some f' → f'.window? ≠ some (i, id))
    (hwriting : ∀ j, f.writing? = some j → j = i)
    (hknows : g.Local (s.contents.set i y)) (hwindow : g.window? = none)
    (hadding : g.adding? = none)
    (hstored : ∀ id, y.objectP = some id → id ∈ f.own ∨ x.objectP = some id)
    (hfresh : ∀ id, y.objectP = some id → id ∉ s.destroyed)
    (hown : ∀ id ∈ g.own, y.objectP ≠ some id ∧ (id ∈ f.own ∨ x.objectP = some id))
    (hpaired : y.objectP = y.eventsP ∨ g.writing? = some i) :
    Pairs (s.setSlot n y) (Function.update F p (some g)) := by
  have hnil := h.relocated_eq_nil hl hp hf hrel
  have hcontents := contents_setSlot (y := y) hnil hn
  exact
    { knows := by
        rw [hcontents]
        refine h.knows.update_some hknows ?_
        intro q f' hqp hq hf'
        -- What another thread knows does not depend on the slots: it lacks the mutex.
        exact hf'.congr (by simpa using hl.manager_one.not_other (a := ()) hp hf hqp hq)
      window := by
        rw [hcontents]
        refine h.window.update_some ?_ ?_
        · intro j id hw
          rw [hwindow] at hw
          cases hw
        · intro q f' hqp hq hf' j id hw
          have hji : j ≠ i := by
            intro hji
            subst hji
            exact hother q f' id hqp hq hw
          rw [List.getElem?_set_ne (Ne.symm hji)]
          exact hf' j id hw
      own := by
        rw [hcontents]
        refine h.own.update_some ?_ ?_
        · intro id hid
          obtain ⟨hy, hold⟩ := hown id hid
          refine ⟨h.lt_adds hp hx hold, ?_⟩
          intro z hz
          cases mem_set_cases hx hz with
          | inl hzy => exact hzy ▸ hy
          | inr hkept =>
              obtain ⟨j, hji, hj⟩ := hkept
              exact h.not_in_other hp hx hold hji hj
        · intro q f' hqp hq hf' id hid
          refine ⟨(hf' id hid).1, ?_⟩
          intro z hz hzid
          cases mem_set_cases hx hz with
          | inl hzy => exact h.not_owned_by_other hp hx (hstored id (hzy ▸ hzid)) hqp hq hid
          | inr hkept =>
              obtain ⟨j, -, hj⟩ := hkept
              exact (hf' id hid).2 z (List.mem_of_getElem? hj) hzid
      own_one := by
        refine h.own_one.update_some ?_
        intro id hid q f' hqp hq
        exact h.not_owned_by_other hp hx (hown id hid).2 hqp hq
      adding := by
        refine h.adding.update_some ?_ fun _ _ _ _ hf' => hf'
        intro id hid
        rw [hadding] at hid
        cases hid
      unique := by
        rw [hcontents]
        intro j k z z' id hj hk hzid hzid'
        rcases getElem?_set_cases hx hj with ⟨rfl, rfl⟩ | ⟨hji, hj'⟩ <;>
          rcases getElem?_set_cases hx hk with ⟨rfl, rfl⟩ | ⟨hki, hk'⟩
        · rfl
        · exact absurd hzid' (h.not_in_other hp hx (hstored id hzid) hki hk')
        · exact absurd hzid (h.not_in_other hp hx (hstored id hzid') hji hj')
        · exact h.unique j k z z' id hj' hk' hzid hzid'
      stored := by
        rw [hcontents]
        intro z hz id hzid
        cases mem_set_cases hx hz with
        | inl hzy => exact h.lt_adds hp hx (hstored id (hzy ▸ hzid))
        | inr hkept =>
            obtain ⟨j, -, hj⟩ := hkept
            exact h.stored z (List.mem_of_getElem? hj) id hzid
      destroyed := by
        rw [hcontents]
        intro id hid
        obtain ⟨hlt, hnone⟩ := h.destroyed id hid
        refine ⟨hlt, ?_⟩
        intro z hz hzid
        cases mem_set_cases hx hz with
        | inl hzy => exact hfresh id (hzy ▸ hzid) hid
        | inr hkept =>
            obtain ⟨j, -, hj⟩ := hkept
            exact hnone z (List.mem_of_getElem? hj) hzid
      paired := by
        rw [hcontents]
        intro j z hj
        rcases getElem?_set_cases hx hj with ⟨rfl, rfl⟩ | ⟨hji, hj⟩
        · exact hpaired.imp_right fun hg => ⟨p, g, Function.update_self .., hg⟩
        · refine .inl (h.paired_of_holder hl hp hf ?_ hj)
          intro hw
          exact hji (hwriting j hw)
      relocating := fun hc => absurd hnil hc }

/-- `add` stores its pair behind the others. -/
theorem push (h : Pairs s F) (hl : Locks s F) (hp : F p = some f) (hf : f.holdsManager = true)
    (hwriting : f.writing? = none) (hid : f.adding? = some id)
    (hcontents : s'.contents = s.contents ++ [⟨some id, some id⟩]) (hadds : s'.adds = s.adds)
    (hdestroyed : s'.destroyed = s.destroyed) (hrelocated : s'.relocated = []) :
    Pairs s' (Function.update F p (some .addEmplace)) := by
  -- The pair is that of the thread, so it is in no slot and no other thread has it.
  have hown := Frame.mem_own_of_adding? hid
  obtain ⟨hlt, hnew⟩ := h.own p f hp id hown
  have hmem : ∀ z ∈ s'.contents, z ∈ s.contents ∨ z = ⟨some id, some id⟩ := by
    intro z hz
    rw [hcontents] at hz
    exact (List.mem_append.mp hz).imp_right List.mem_singleton.mp
  exact
    { knows := by
        refine h.knows.update_some trivial ?_
        intro q f' hqp hq hf'
        exact hf'.congr (by simpa using hl.manager_one.not_other (a := ()) hp hf hqp hq)
      window := by
        refine h.window.update_some (fun i id hw => absurd hw (Option.some_ne_none _ ∘ Eq.symm)) ?_
        intro q f' _ _ hf' i id hw
        have hi := hf' i id hw
        obtain ⟨hilt, -⟩ := List.getElem?_eq_some_iff.mp hi
        rw [hcontents, List.getElem?_append_left hilt]
        exact hi
      own := by
        rw [hadds]
        refine h.own.update_some (fun id hid => absurd hid List.not_mem_nil) ?_
        intro q f' hqp hq hf' id' hid'
        refine ⟨(hf' id' hid').1, ?_⟩
        intro z hz hzid
        rcases hmem z hz with hz | rfl
        · exact (hf' id' hid').2 z hz hzid
        · cases hzid
          exact h.own_one.not_other hp hown hqp hq hid'
      own_one := h.own_one.update_some fun id hid => absurd hid List.not_mem_nil
      adding := by
        rw [hdestroyed]
        refine h.adding.update_some ?_ fun _ _ _ _ hf' => hf'
        intro id hid
        cases hid
      unique := by
        rw [hcontents]
        intro j k z z' id' hj hk hzid hzid'
        rcases getElem?_push_cases hj with hj | ⟨rfl, rfl⟩ <;>
          rcases getElem?_push_cases hk with hk | ⟨rfl, rfl⟩
        · exact h.unique j k z z' id' hj hk hzid hzid'
        · cases hzid'
          exact absurd hzid (hnew z (List.mem_of_getElem? hj))
        · cases hzid
          exact absurd hzid' (hnew z' (List.mem_of_getElem? hk))
        · rfl
      stored := by
        rw [hadds]
        intro z hz id' hzid
        rcases hmem z hz with hz | rfl
        · exact h.stored z hz id' hzid
        · cases hzid
          exact hlt
      destroyed := by
        rw [hadds, hdestroyed]
        intro id' hid'
        refine ⟨(h.destroyed id' hid').1, ?_⟩
        intro z hz hzid
        rcases hmem z hz with hz | rfl
        · exact (h.destroyed id' hid').2 z hz hzid
        · cases hzid
          exact h.adding p f hp id hid hid'
      paired := by
        rw [hcontents]
        intro j z hj
        rcases getElem?_push_cases hj with hj | ⟨-, rfl⟩
        · exact .inl (h.paired_of_holder hl hp hf (by simp [hwriting]) hj)
        · exact .inl rfl
      relocating := fun hc => absurd hrelocated hc }

/-- A destructor starts on a pair that the thread has moved out. -/
theorem destroy (h : Pairs s F) (hp : F p = some f) {pointer : Option AddId}
    (hpointer : ∀ id, pointer = some id → id ∈ f.own)
    (hwriting : f.writing? = none) (hrel : f.relocating = false)
    (hown : ∀ id ∈ g.own, id ∈ f.own) (hadding : g.adding? = none) (hwindow : g.window? = none)
    (hknows : g.Local s.contents) :
    Pairs (s.destroy pointer) (Function.update F p (some g)) := by
  have hnoWindow : ∀ i id, g.window? = some (i, id) →
      s.contents[i]? = some (⟨some id, some id⟩ : Pointers) := by
    intro i id hw
    rw [hwindow] at hw
    cases hw
  have hnotAdding : ∀ id, g.adding? ≠ some id := by
    intro id hid
    rw [hadding] at hid
    cases hid
  have hgoes := h.goes (g := g) hp (rfl : s.contents = _) rfl rfl hwriting (.inr ⟨rfl, hrel⟩)
    hknows hnoWindow hown fun id hid => absurd hid (hnotAdding id)
  refine { hgoes with adding := ?_, destroyed := ?_ }
  · refine h.adding.update_some (fun id hid => absurd hid (hnotAdding id)) ?_
    intro q f' hqp hq hf' id hid hmem
    rcases List.mem_append.mp hmem with hmem | hmem
    · exact hf' id hid hmem
    · -- The pair that is destroyed is the thread's own, so nobody is adding it.
      have hmine := hpointer id (Option.mem_toList.mp hmem)
      exact h.own_one.not_other hp hmine hqp hq (Frame.mem_own_of_adding? hid)
  · intro id hid
    rcases List.mem_append.mp hid with hid | hid
    · exact h.destroyed id hid
    · exact h.own p f hp id (hpointer id (Option.mem_toList.mp hid))

/-- The start of a call: a pair that is handed over is new. -/
theorem start (h : Pairs s F) (hp : F p = none) (c : InstanceManager.Call Unit Unit) :
    Pairs (s.start c).1 (Function.update F p (some (s.start c).2)) := by
  have hcontents : (s.start c).1.contents = s.contents := by cases c <;> rfl
  have hdestroyed : (s.start c).1.destroyed = s.destroyed := by cases c <;> rfl
  have hrelocated : (s.start c).1.relocated = s.relocated := by cases c <;> rfl
  have hadds : s.adds ≤ (s.start c).1.adds := by
    cases c <;> simp [Shared.start]
  have hown : ∀ id ∈ (s.start c).2.own, id = s.adds ∧ s.adds < (s.start c).1.adds := by
    cases c <;> simp [Shared.start, Frame.own]
  have hknows : (s.start c).2.Local s.contents := by cases c <;> trivial
  have hwindow : (s.start c).2.window? = none := by cases c <;> rfl
  -- The place of the new call was empty, so no thread loses its point.
  have hempty : ∀ {P : Frame → Prop} f', F p = some f' → ¬ P f' := by
    intro P f' hf'
    cases hp.symm.trans hf'
  exact
    { knows := by
        rw [hcontents]
        exact h.knows.update_some hknows fun _ _ _ _ hf' => hf'
      window := by
        rw [hcontents]
        refine h.window.update_some ?_ fun _ _ _ _ hf' => hf'
        intro i id hw
        rw [hwindow] at hw
        cases hw
      own := by
        rw [hcontents]
        refine h.own.update_some ?_ ?_
        · intro id hid
          obtain ⟨rfl, hlt⟩ := hown id hid
          exact ⟨hlt, fun x hx hxid => absurd (h.stored x hx _ hxid) (Nat.lt_irrefl _)⟩
        · intro q f' _ _ hf' id hid
          exact ⟨Nat.lt_of_lt_of_le (hf' id hid).1 hadds, (hf' id hid).2⟩
      own_one := by
        refine h.own_one.update_some ?_
        intro id hid q f' _ hq hf'
        obtain ⟨rfl, -⟩ := hown id hid
        exact Nat.lt_irrefl _ (h.own q f' hq _ hf').1
      adding := by
        rw [hdestroyed]
        refine h.adding.update_some ?_ fun _ _ _ _ hf' => hf'
        intro id hid hmem
        obtain ⟨rfl, -⟩ := hown id (Frame.mem_own_of_adding? hid)
        exact Nat.lt_irrefl _ (h.destroyed _ hmem).1
      unique := hcontents ▸ h.unique
      stored := by
        rw [hcontents]
        intro x hx id hid
        exact Nat.lt_of_lt_of_le (h.stored x hx id hid) hadds
      destroyed := by
        rw [hcontents, hdestroyed]
        intro id hid
        exact ⟨Nat.lt_of_lt_of_le (h.destroyed id hid).1 hadds, (h.destroyed id hid).2⟩
      paired := by
        rw [hcontents]
        intro i x hx
        exact (h.paired i x hx).imp_right fun hwriter => exists_update hwriter hempty
      relocating := by
        rw [hrelocated]
        intro hne
        exact exists_update (h.relocating hne) hempty }

/-! ### The steps of `add` -/

/-- `add` looks at the freelist. It writes nothing, so the invariant stays. -/
theorem advance_addChoose (h : Pairs s F) (hl : Locks s F) (hp : F p = some (.addChoose id))
    (hadv : (s', r) ∈ s.advance (.addChoose id)) : Pairs s' (Function.update F p r) := by
  have hnil := h.relocated_eq_nil hl hp rfl rfl
  simp only [Shared.advance] at hadv
  split at hadv
  · simp only [List.mem_singleton, Prod.mk.injEq] at hadv
    obtain ⟨rfl, rfl⟩ := hadv
    refine h.goes hp rfl rfl rfl rfl (.inr ⟨rfl, rfl⟩) trivial ?_ (fun _ hid => hid)
      fun _ hid => hid
    intro i id' hw
    cases hw
  · simp only [List.mem_cons, List.not_mem_nil, or_false, Prod.mk.injEq] at hadv
    rcases hadv with ⟨rfl, rfl⟩ | ⟨rfl, rfl⟩
    · refine h.push hl hp rfl rfl rfl ?_ rfl rfl hnil
      rw [contents_of_nil hnil]
      exact contents_of_nil hnil
    · refine h.goes hp rfl rfl rfl rfl (.inl rfl) trivial ?_ (fun _ hid => hid) fun _ hid => hid
      intro i id' hw
      cases hw

/-- `add` tests that its recycled slot is empty, and keeps what it knows about the slot. -/
theorem advance_addTest (h : Pairs s F) (hl : Locks s F) (hp : F p = some (.addTest n id))
    (hadv : (s', r) ∈ s.advance (.addTest n id)) : Pairs s' (Function.update F p r) := by
  obtain ⟨i, x, hn, hi, hadv⟩ := h.reads hl hp rfl rfl hadv
  split at hadv
  · rename_i hbool
    split at hadv
    · simp only [List.mem_singleton, Prod.mk.injEq] at hadv
      obtain ⟨rfl, rfl⟩ := hadv
      -- The assertion says that the slot is empty.
      have hnull : x = .null := by
        obtain ⟨o, e⟩ := x
        cases o <;> cases e <;>
          simp_all [InstancePointers.toBool, InstancePointers.null, tox4jAssert, bind,
            Except.bind, pure, Except.pure]
      refine h.goes hp rfl rfl rfl rfl (.inr ⟨rfl, rfl⟩) ?_ ?_ (fun _ hid => hid) fun _ hid => hid
      · intro j hj
        cases hn.symm.trans hj
        rw [hi, hnull]
      · intro j id' hw
        cases hw
    · cases hadv
  · cases hadv

/-- `add` writes the first pointer. From here until it writes the second one, the slot is the one
half written slot of the manager. -/
theorem advance_addObject (h : Pairs s F) (hl : Locks s F) (hp : F p = some (.addObject n id))
    (hadv : (s', r) ∈ s.advance (.addObject n id)) : Pairs s' (Function.update F p r) := by
  obtain ⟨i, x, hn, hi, hadv⟩ := h.reads hl hp rfl rfl hadv
  simp only [List.mem_singleton, Prod.mk.injEq] at hadv
  obtain ⟨rfl, rfl⟩ := hadv
  have hnull : x = .null := Option.some.inj (hi.symm.trans (h.knows p _ hp i hn))
  subst hnull
  refine h.write hl hp rfl rfl hn hi ?_ ?_ ?_ rfl rfl ?_ ?_ ?_ (.inr hn)
  · intro q f' id' _ hq hw
    -- A thread in a window would see a pair in the slot.
    have hseen := h.window q f' hq i id' hw
    rw [hi] at hseen
    cases hseen
  · intro j hw
    cases hw
  · intro j hj
    cases hn.symm.trans hj
    obtain ⟨hlt, -⟩ := List.getElem?_eq_some_iff.mp hi
    exact List.getElem?_set_self hlt
  · intro id' hid
    exact .inl (Option.some.inj hid ▸ List.mem_singleton_self _)
  · intro id' hid
    exact h.adding p _ hp id' hid
  · intro id' hid
    cases hid

/-- `add` writes the second pointer, so that the pair of the slot is complete. -/
theorem advance_addEvents (h : Pairs s F) (hl : Locks s F) (hp : F p = some (.addEvents n id))
    (hadv : (s', r) ∈ s.advance (.addEvents n id)) : Pairs s' (Function.update F p r) := by
  obtain ⟨i, x, hn, hi, hadv⟩ := h.reads hl hp rfl rfl hadv
  simp only [List.mem_singleton, Prod.mk.injEq] at hadv
  obtain ⟨rfl, rfl⟩ := hadv
  have hhalf : x = ⟨some id, none⟩ := Option.some.inj (hi.symm.trans (h.knows p _ hp i hn))
  subst hhalf
  refine h.write hl hp rfl rfl hn hi ?_ ?_ trivial rfl rfl (fun _ hid => .inr hid) ?_ ?_ (.inl rfl)
  · intro q f' id' _ hq hw
    -- Nor would it see a slot with one pointer only.
    have hseen := h.window q f' hq i id' hw
    rw [hi] at hseen
    simp at hseen
  · intro j hw
    exact Option.some.inj (hw.symm.trans hn)
  · intro id' hid hmem
    exact (h.destroyed id' hmem).2 _ (List.mem_of_getElem? hi) hid
  · intro id' hid
    cases hid

/-- `add` moves one pair of pointers. The vectors have the same pairs together as before. -/
theorem advance_addRelocate (h : Pairs s F) (hl : Locks s F) (hp : F p = some (.addRelocate id))
    (hadv : (s', r) ∈ s.advance (.addRelocate id)) : Pairs s' (Function.update F p r) := by
  simp only [Shared.advance] at hadv
  split at hadv
  · rename_i x hx
    simp only [List.mem_singleton, Prod.mk.injEq] at hadv
    obtain ⟨rfl, rfl⟩ := hadv
    refine h.goes hp (contents_relocate hx) rfl rfl rfl (.inl rfl) trivial ?_ (fun _ hid => hid)
      fun _ hid => hid
    intro i id' hw
    cases hw
  · rename_i hx
    simp only [List.mem_singleton, Prod.mk.injEq] at hadv
    obtain ⟨rfl, rfl⟩ := hadv
    refine h.push hl hp rfl rfl rfl ?_ rfl rfl rfl
    have hlen : s.manager.instances.length ≤ s.relocated.length :=
      List.getElem?_eq_none_iff.mp hx
    simp [Shared.contents, List.drop_eq_nil_of_le hlen]

/-! ### The steps of `kill` that move the pair out of its slot and destroy it -/

/-- `kill` takes the first pointer out of the slot, which is half written after that. -/
theorem advance_killObject (h : Pairs s F) (hl : Locks s F) (hp : F p = some (.killObject n))
    (hadv : (s', r) ∈ s.advance (.killObject n)) : Pairs s' (Function.update F p r) := by
  obtain ⟨i, x, hn, hi, hadv⟩ := h.reads hl hp rfl rfl hadv
  have hpaired := h.paired_of_holder hl hp rfl (by simp [Frame.writing?]) hi
  simp only [List.mem_singleton, Prod.mk.injEq] at hadv
  obtain ⟨rfl, rfl⟩ := hadv
  refine h.write hl hp rfl rfl hn hi (no_window_of_lock? hl hp hn) ?_ ?_ rfl rfl ?_ ?_ ?_ (.inr hn)
  · intro j hw
    cases hw
  · intro j hj
    cases hn.symm.trans hj
    obtain ⟨hlt, -⟩ := List.getElem?_eq_some_iff.mp hi
    rw [hpaired]
    exact List.getElem?_set_self hlt
  · intro id hid
    cases hid
  · intro id hid
    cases hid
  · intro id hid
    exact ⟨Option.some_ne_none id ∘ Eq.symm, .inr (Option.mem_toList.mp hid)⟩

/-- `kill` takes the second pointer out of the slot. The pair is its own then, and nobody else has a
pointer to it. -/
theorem advance_killEvents {o : Option AddId} (h : Pairs s F) (hl : Locks s F)
    (hp : F p = some (.killEvents n o)) (hadv : (s', r) ∈ s.advance (.killEvents n o)) :
    Pairs s' (Function.update F p r) := by
  obtain ⟨i, x, hn, hi, hadv⟩ := h.reads hl hp rfl rfl hadv
  simp only [List.mem_singleton, Prod.mk.injEq] at hadv
  obtain ⟨rfl, rfl⟩ := hadv
  have hhalf : x = ⟨none, o⟩ := Option.some.inj (hi.symm.trans (h.knows p _ hp i hn))
  subst hhalf
  refine h.write hl hp rfl rfl hn hi (no_window_of_lock? hl hp hn) ?_ rfl rfl rfl ?_ ?_ ?_
    (.inl rfl)
  · intro j hw
    exact Option.some.inj (hw.symm.trans hn)
  · intro id hid
    cases hid
  · intro id hid
    cases hid
  · intro id hid
    exact ⟨Option.some_ne_none id ∘ Eq.symm, .inl hid⟩

/-- `kill` destroys the `Events` object of its pair. -/
theorem advance_killDestroyEvents {o e : Option AddId} (h : Pairs s F)
    (hp : F p = some (.killDestroyEvents n o e))
    (hadv : (s', r) ∈ s.advance (.killDestroyEvents n o e)) :
    Pairs s' (Function.update F p r) := by
  simp only [Shared.advance, List.mem_singleton, Prod.mk.injEq] at hadv
  obtain ⟨rfl, rfl⟩ := hadv
  have hsame : o = e := h.knows p _ hp
  subst hsame
  exact h.destroy hp (fun id hid => Option.mem_toList.mpr hid) rfl rfl (fun id hid => hid) rfl
    rfl trivial

/-- `kill` destroys the object of its pair. -/
theorem advance_killDestroyObject {o : Option AddId} (h : Pairs s F)
    (hp : F p = some (.killDestroyObject n o))
    (hadv : (s', r) ∈ s.advance (.killDestroyObject n o)) :
    Pairs s' (Function.update F p r) := by
  simp only [Shared.advance, List.mem_singleton, Prod.mk.injEq] at hadv
  obtain ⟨rfl, rfl⟩ := hadv
  exact h.destroy hp (fun id hid => Option.mem_toList.mpr hid) rfl rfl
    (fun id hid => absurd hid List.not_mem_nil) rfl rfl trivial

/-! ### The steps of `with_instance` from the read of the pointers to the start of `func` -/

/-- A step inside a window. It moves no pair, and the thread stays in the windows it is in. -/
theorem looks (h : Pairs s F) (hp : F p = some f) (hcontents : s'.contents = s.contents)
    (hadds : s'.adds = s.adds) (hdestroyed : s'.destroyed = s.destroyed)
    (hrelocated : s'.relocated = s.relocated) (hwriting : f.writing? = none)
    (hrel : f.relocating = false) (hown : g.own = []) (hadding : g.adding? = none)
    (hknows : g.Local s.contents)
    (hwindow : ∀ i id, g.window? = some (i, id) →
      s.contents[i]? = some (⟨some id, some id⟩ : Pointers)) :
    Pairs s' (Function.update F p (some g)) := by
  refine h.goes hp hcontents hadds hdestroyed hwriting (.inr ⟨hrelocated, hrel⟩) hknows hwindow
    ?_ ?_
  · intro id hid
    rw [hown] at hid
    cases hid
  · intro id hid
    rw [hadding] at hid
    cases hid

/-- `with_instance` copies the first pointer of the slot. -/
theorem advance_withObject (h : Pairs s F) (hl : Locks s F) (hp : F p = some (.withObject n))
    (hadv : (s', r) ∈ s.advance (.withObject n)) : Pairs s' (Function.update F p r) := by
  obtain ⟨i, x, hn, hi, hadv⟩ := h.reads hl hp rfl rfl hadv
  have hpaired := h.paired_of_holder hl hp rfl (by simp [Frame.writing?]) hi
  simp only [List.mem_singleton, Prod.mk.injEq] at hadv
  obtain ⟨rfl, rfl⟩ := hadv
  have hx : x = ⟨x.objectP, x.objectP⟩ := by
    cases x
    simp_all
  refine h.looks hp rfl rfl rfl rfl rfl rfl rfl rfl ⟨i, hn, hx ▸ hi⟩ ?_
  intro j id hw
  simp only [Frame.window?, hn, Option.bind_some, Option.map_eq_some_iff, Prod.mk.injEq] at hw
  obtain ⟨id', hid, rfl, rfl⟩ := hw
  rw [hi, hx, hid]

/-- `with_instance` copies the second pointer. Both came from one slot under one lock, so they are a
pair. -/
theorem advance_withEvents {o : Option AddId} (h : Pairs s F) (hl : Locks s F)
    (hp : F p = some (.withEvents n o)) (hadv : (s', r) ∈ s.advance (.withEvents n o)) :
    Pairs s' (Function.update F p r) := by
  obtain ⟨i, x, hn, hi, hadv⟩ := h.reads hl hp rfl rfl hadv
  simp only [List.mem_singleton, Prod.mk.injEq] at hadv
  obtain ⟨rfl, rfl⟩ := hadv
  obtain ⟨j, hj, hseen⟩ := h.knows p _ hp
  cases hn.symm.trans hj
  have hsame : x = ⟨o, o⟩ := Option.some.inj (hi.symm.trans hseen)
  subst hsame
  exact h.looks hp rfl rfl rfl rfl rfl rfl rfl rfl ⟨by simp [hn], rfl⟩ fun j id hw =>
    h.window p _ hp j id hw

/-- `with_instance` unlocks the manager. It keeps the mutex of the slot, which protects the pair. -/
theorem advance_withUnlock {o e : Option AddId} (h : Pairs s F)
    (hp : F p = some (.withUnlock n o e)) (hadv : (s', r) ∈ s.advance (.withUnlock n o e)) :
    Pairs s' (Function.update F p r) := by
  simp only [Shared.advance, List.mem_singleton, Prod.mk.injEq] at hadv
  obtain ⟨rfl, rfl⟩ := hadv
  have hknown : (index? n).isSome ∧ o = e := h.knows p _ hp
  exact h.looks hp rfl rfl rfl rfl rfl rfl rfl rfl hknown fun j id hw => h.window p _ hp j id hw

/-- `with_instance` tests its copies, and runs `func` on them or throws. -/
theorem advance_withTest {o e : Option AddId} (h : Pairs s F)
    (hp : F p = some (.withTest n o e)) (hadv : (s', r) ∈ s.advance (.withTest n o e)) :
    Pairs s' (Function.update F p r) := by
  obtain ⟨hindex, hsame⟩ : (index? n).isSome ∧ o = e := h.knows p _ hp
  subst hsame
  cases o with
  | some id =>
      simp only [Shared.advance, List.mem_singleton, Prod.mk.injEq] at hadv
      obtain ⟨rfl, rfl⟩ := hadv
      refine h.looks hp rfl rfl rfl rfl rfl rfl rfl rfl ⟨hindex, rfl⟩ ?_
      intro j id' hw
      refine h.window p _ hp j id' ?_
      simp only [Frame.window?, Option.map_eq_some_iff] at hw
      obtain ⟨k, hk, heq⟩ := hw
      simp [Frame.window?, hk, heq]
  | none =>
      simp only [Shared.advance, List.mem_singleton, Prod.mk.injEq] at hadv
      obtain ⟨rfl, rfl⟩ := hadv
      refine h.looks hp rfl rfl rfl rfl rfl rfl rfl rfl trivial ?_
      intro j id' hw
      cases hw

/-! ### Every step -/

/-- Every step keeps `Pairs`. -/
theorem advance (h : Pairs s F) (hl : Locks s F) (hp : F p = some f)
    (hadv : (s', r) ∈ s.advance f) : Pairs s' (Function.update F p r) := by
  cases f with
  | addChoose _ => exact h.advance_addChoose hl hp hadv
  | addTest _ _ => exact h.advance_addTest hl hp hadv
  | addObject _ _ => exact h.advance_addObject hl hp hadv
  | addEvents _ _ => exact h.advance_addEvents hl hp hadv
  | addRelocate _ => exact h.advance_addRelocate hl hp hadv
  | killObject _ => exact h.advance_killObject hl hp hadv
  | killEvents _ _ => exact h.advance_killEvents hl hp hadv
  | killDestroyEvents _ _ _ => exact h.advance_killDestroyEvents hp hadv
  | killDestroyObject _ _ => exact h.advance_killDestroyObject hp hadv
  | withObject _ => exact h.advance_withObject hl hp hadv
  | withEvents _ _ => exact h.advance_withEvents hl hp hadv
  | withUnlock _ _ _ => exact h.advance_withUnlock hp hadv
  | withTest _ _ _ => exact h.advance_withTest hp hadv
  | _ =>
      -- The other steps move no pair and read no pointer.
      simp only [Shared.advance, Shared.readSlot, Shared.check, Shared.lockManager,
        Shared.lockSlot, Shared.unlockSlot] at hadv
      repeat' split at hadv
      all_goals
        simp only [List.mem_singleton, List.not_mem_nil, Prod.mk.injEq] at hadv
      all_goals
        obtain ⟨rfl, rfl⟩ := hadv
        refine h.pass_plain hp rfl rfl rfl rfl rfl rfl ?_
        rintro f' ⟨⟩
      all_goals
        exact ⟨fun _ => trivial, rfl, fun _ hid => hid, fun _ hid => hid⟩

end Pairs

/-! ### All interleavings -/

variable {Tid : Type} [DecidableEq Tid] {t : Tid}

/-- The innermost call of a thread is at the place of its depth. -/
def State.frameAt (s : State Tid) (p : Tid × Nat) : Option Frame := (s.stack p.1)[p.2]?

/-- Replacing or removing the innermost frame of a thread changes one place. -/
theorem frameAt_advance {s : State Tid} {rest : List Frame} (hstack : s.stack t = rest ++ [f])
    (shared : Shared) : State.frameAt ⟨shared, Function.update s.stack t (rest ++ r.toList)⟩
      = Function.update s.frameAt (t, rest.length) r := by
  funext ⟨u, k⟩
  unfold State.frameAt
  by_cases hu : u = t
  · subst hu
    simp only [Function.update_self]
    rcases Nat.lt_trichotomy k rest.length with hk | rfl | hk
    · rw [Function.update_of_ne (by simp [Nat.ne_of_lt hk]), List.getElem?_append_left hk]
      simp only [hstack, List.getElem?_append_left hk]
    · rw [Function.update_self, List.getElem?_append_right (Nat.le_refl _), Nat.sub_self]
      cases r <;> rfl
    · rw [Function.update_of_ne (by simp [Nat.ne_of_gt hk])]
      simp only [hstack]
      rw [List.getElem?_eq_none, List.getElem?_eq_none]
      · simp
        omega
      · cases r <;> simp <;> omega
  · rw [Function.update_of_ne (by simp [hu])]
    simp [hu]

/-- The start of a call fills one place. -/
theorem frameAt_call {s : State Tid} (c : InstanceManager.Call Unit Unit) :
    (s.call t c).frameAt
      = Function.update s.frameAt (t, (s.stack t).length) (some (s.shared.start c).2) := by
  funext ⟨u, k⟩
  unfold State.frameAt State.call
  by_cases hu : u = t
  · subst hu
    simp only [Function.update_self]
    rcases Nat.lt_trichotomy k (s.stack u).length with hk | rfl | hk
    · rw [Function.update_of_ne (by simp [Nat.ne_of_lt hk]), List.getElem?_append_left hk]
    · rw [Function.update_self, List.getElem?_append_right (Nat.le_refl _), Nat.sub_self]
      rfl
    · rw [Function.update_of_ne (by simp [Nat.ne_of_gt hk]), List.getElem?_eq_none,
        List.getElem?_eq_none] <;> simp <;> omega
  · rw [Function.update_of_ne (by simp [hu])]
    simp [hu]

/-- A step of a thread keeps the invariants. -/
theorem inv_step {s s' : State Tid} (hl : Locks s.shared s.frameAt)
    (h : Pairs s.shared s.frameAt) (hstep : Step s t s') :
    Locks s'.shared s'.frameAt ∧ Pairs s'.shared s'.frameAt := by
  cases hstep with
  | call c _ =>
      have hplace : s.frameAt (t, (s.stack t).length) = none :=
        List.getElem?_eq_none (Nat.le_refl _)
      rw [frameAt_call]
      refine ⟨hl.start ?_ ?_ ?_ ?_, h.start hplace c⟩ <;> cases c <;> rfl
  | @advance rest f shared r hstack hadv =>
      have hplace : s.frameAt (t, rest.length) = some f := by
        simp [State.frameAt, hstack]
      rw [frameAt_advance hstack]
      exact ⟨hl.advance hplace hadv, h.advance hl hplace hadv⟩

/-- Both invariants hold in every state that the threads can reach. -/
theorem inv_of_reachable {s : State Tid} (h : interleavings.Reachable s) :
    Locks s.shared s.frameAt ∧ Pairs s.shared s.frameAt := by
  refine h.invariant (I := fun s => Locks s.shared s.frameAt ∧ Pairs s.shared s.frameAt) ?_ ?_
  · rintro s rfl
    exact ⟨locks_none, pairs_initial⟩
  · intro s t s' hI hstep
    exact inv_step hI.1 hI.2 hstep

/-- The object pointer that a thread has read in `get` and `func` has not returned for. -/
def Frame.object? : Frame → Option AddId
  | .withEvents _ object | .withUnlock _ object _ | .withTest _ object _ => object
  | .withFunc _ object _ => some object
  | _ => none

/-- The object and events pointers that a thread has read in `get`. -/
def Frame.pointers? : Frame → Option Pointers
  | .withUnlock _ object events | .withTest _ object events => some ⟨object, events⟩
  | .withFunc _ object events => some ⟨some object, some events⟩
  | _ => none

/-- Exclusive access to live pairs. -/
structure NoUseAfterDestruction (s : State Tid) : Prop where
  /-- One call at most has the object pointer of a pair, over all threads and all calls in
  progress on a thread. -/
  one : ∀ (t t' : Tid) (k k' : Nat) (f g : Frame) (id : AddId),
    (s.stack t)[k]? = some f → (s.stack t')[k']? = some g →
    f.object? = some id → g.object? = some id → t = t' ∧ k = k'
  /-- No destructor has started on a pair whose object pointer a call has. -/
  alive : ∀ t, ∀ f ∈ s.stack t, ∀ id, f.object? = some id → id ∉ s.shared.destroyed
  /-- The two pointers that a call has are of the same pair. -/
  same : ∀ t, ∀ f ∈ s.stack t, ∀ x, f.pointers? = some x → x.objectP = x.eventsP

/-- A thread that has a pointer to an object in use is between the lock of a slot and its unlock,
and that slot is the one of the object. -/
theorem window?_of_object? {c : List Pointers} (hknows : f.Local c) (hid : f.object? = some id) :
    ∃ i, f.window? = some (i, id) := by
  cases f with
  | withEvents n object =>
      obtain ⟨i, hi, -⟩ := hknows
      have hid : object = some id := hid
      exact ⟨i, by simp [Frame.window?, hi, hid]⟩
  | withUnlock n object events | withTest n object events | withFunc n object events =>
      obtain ⟨i, hi⟩ := Option.isSome_iff_exists.mp hknows.1
      simp only [Frame.object?, Option.some.injEq] at hid
      exact ⟨i, by simp [Frame.window?, hi, hid]⟩
  | _ => exact nomatch hid

/-- In every reachable state of any number of threads, no call uses a pair after its
destruction, or at the same time as another call. -/
theorem noUseAfterDestruction {s : State Tid} (h : interleavings.Reachable s) :
    NoUseAfterDestruction s := by
  obtain ⟨hl, hpairs⟩ := inv_of_reachable h
  refine ⟨?_, ?_, ?_⟩
  · intro t t' k k' f g id hf hg hfid hgid
    have hf : s.frameAt (t, k) = some f := hf
    have hg : s.frameAt (t', k') = some g := hg
    obtain ⟨i, hfw⟩ := window?_of_object? (hpairs.knows _ f hf) hfid
    obtain ⟨j, hgw⟩ := window?_of_object? (hpairs.knows _ g hg) hgid
    -- Both windows see the pair in their slot, so it is the same slot and the same mutex.
    have hij : i = j := hpairs.unique i j _ _ id (hpairs.window _ f hf i id hfw)
      (hpairs.window _ g hg j id hgw) rfl rfl
    subst hij
    have hplace := hl.slot_one _ _ f g i hf hg (Frame.lock?_of_window? hfw)
      (Frame.lock?_of_window? hgw)
    exact ⟨congrArg Prod.fst hplace, congrArg Prod.snd hplace⟩
  · intro t f hmem id hid hdestroyed
    obtain ⟨k, hk⟩ := List.mem_iff_getElem?.mp hmem
    have hf : s.frameAt (t, k) = some f := hk
    obtain ⟨i, hw⟩ := window?_of_object? (hpairs.knows _ f hf) hid
    have hstored := hpairs.window _ f hf i id hw
    exact (hpairs.destroyed id hdestroyed).2 _ (List.mem_of_getElem? hstored) rfl
  · intro t f hmem x hx
    obtain ⟨k, hk⟩ := List.mem_iff_getElem?.mp hmem
    have hknows := hpairs.knows (t, k) f hk
    cases f with
    | withUnlock n o e | withTest n o e =>
        cases hx
        exact hknows.2
    | withFunc n o e =>
        cases hx
        exact congrArg some hknows.2
    | _ => exact nomatch hx

/-- The first step that the innermost call of a thread can take, if it can take one. -/
def State.next (s : State Tid) (t : Tid) : State Tid :=
  match (s.stack t).getLast? with
  | none => s
  | some f =>
    match (s.shared.advance f).head? with
    | none => s
    | some (shared, r) =>
      ⟨shared, Function.update s.stack t ((s.stack t).dropLast ++ r.toList)⟩

/-- A thread of a reachable state takes a step, if it can. -/
theorem reachable_next {s : State Tid} (h : interleavings.Reachable s) (t : Tid) :
    interleavings.Reachable (s.next t) := by
  unfold State.next
  split
  · exact h
  · rename_i f hlast
    split
    · exact h
    · rename_i shared r hhead
      obtain ⟨rest, hstack⟩ := List.getLast?_eq_some_iff.mp hlast
      obtain ⟨ls, run⟩ := h
      have hadv : (shared, r) ∈ s.shared.advance f := List.mem_of_head? hhead
      have hstep : interleavings.step s t _ := .advance hstack hadv
      refine ⟨_, run.step (l := t) ?_⟩
      rw [hstack, List.dropLast_concat]
      exact hstep

/-- One thread has stored a pair and runs `func` on it, and another one waits in `kill`. -/
def killWaits : State Nat :=
  let added := (List.replicate 4 0).foldl State.next (State.initial.call 0 (.add () ()))
  let inFunc := (List.replicate 7 0).foldl State.next (added.call 0 (.withInstance 1))
  (List.replicate 3 1).foldl State.next (inFunc.call 1 (.kill 1))

/-- Some threads take one step each, in the order of the list. -/
theorem reachable_foldl {s : State Tid} (h : interleavings.Reachable s) (ts : List Tid) :
    interleavings.Reachable (ts.foldl State.next s) := by
  induction ts generalizing s with
  | nil => exact h
  | cons t ts ih => exact ih (reachable_next h t)

/-- A thread that is not in a call starts one. -/
theorem reachable_call {s : State Tid} (h : interleavings.Reachable s) (t : Tid)
    (c : InstanceManager.Call Unit Unit) (hcall : s.MayCall t) :
    interleavings.Reachable (s.call t c) := by
  obtain ⟨ls, run⟩ := h
  exact ⟨_, run.step (l := t) (.call c hcall)⟩

/-- The state of the example is reached by steps of the two threads. -/
theorem reachable_killWaits : interleavings.Reachable killWaits := by
  have h0 : interleavings.Reachable (State.initial : State Nat) := ⟨[], .init rfl⟩
  have h1 := reachable_foldl (reachable_call h0 0 (.add () ()) (.inl rfl)) (List.replicate 4 0)
  have h2 := reachable_foldl (reachable_call h1 0 (.withInstance 1) (.inl rfl))
    (List.replicate 7 0)
  exact reachable_foldl (reachable_call h2 1 (.kill 1) (.inl rfl)) (List.replicate 3 1)

/-- While `func` runs on the pair, `kill` waits for the mutex of its slot. -/
theorem noUseAfterDestruction_killWaits :
    NoUseAfterDestruction killWaits ∧ killWaits.stack 0 = [.withFunc 1 0 0] ∧
      killWaits.stack 1 = [.killLockSlot 1] :=
  ⟨noUseAfterDestruction reachable_killWaits, rfl, rfl⟩

end Tox4j.Native.Threads
