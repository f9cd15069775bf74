import Mathlib

/-!
# `Tox4j.Lib.Exclusive`: claims of concurrent activities

Activities run side by side. An activity at the place `p` is at a point `F p = some f` of
its program, or the place is empty. A step moves one activity: `F` becomes
`Function.update F p r`, where `r` is `none` when the activity ends.

`Every F P` says that every activity is at a point with `P`. `Exclusive F claims` says that
a thing is claimed by the point of at most one activity. A lock that an activity holds, and
an object that it owns, are such claims. The rules say when a step keeps both.
-/

set_option autoImplicit false

namespace Tox4j.Lib

variable {ι φ α : Type}

/-- The point of every activity has the property `P`. -/
def Every (F : ι → Option φ) (P : φ → Prop) : Prop :=
  ∀ p f, F p = some f → P f

/-- No two activities claim the same thing. -/
def Exclusive (F : ι → Option φ) (claims : φ → α → Prop) : Prop :=
  ∀ p q f g a, F p = some f → F q = some g → claims f a → claims g a → p = q

variable {F : ι → Option φ} {p q : ι} {f g : φ} {r : Option φ} {a : α}
  {P Q : φ → Prop} {claims : φ → α → Prop}

/-- Without an index in use there is nothing to show. -/
theorem every_none : Every (fun _ : ι => (none : Option φ)) P := by
  intro p f h
  exact nomatch h

/-- Without an index in use no claim is made twice. -/
theorem exclusive_none : Exclusive (fun _ : ι => (none : Option φ)) claims := by
  intro p q f g a h
  exact nomatch h

/-- There is only one point that claims a thing. -/
theorem Exclusive.point_eq (h : Exclusive F claims) (hp : F p = some f) (hf : claims f a)
    (hq : F q = some g) (hg : claims g a) : g = f := by
  have hqp : q = p := h q p g f a hq hp hg hf
  subst hqp
  exact Option.some.inj (hq.symm.trans hp)

/-- What a point claims, no other activity claims. -/
theorem Exclusive.not_other (h : Exclusive F claims) (hp : F p = some f) (hf : claims f a)
    (hne : q ≠ p) (hq : F q = some g) : ¬ claims g a := by
  intro hg
  exact hne (h p q f g a hp hq hf hg).symm

variable [DecidableEq ι]

/-- What is in use after an update is the new value, or was in use before at another index. -/
theorem update_eq_some (h : Function.update F p r q = some g) :
    (q = p ∧ r = some g) ∨ (q ≠ p ∧ F q = some g) := by
  by_cases hq : q = p
  · subst hq
    rw [Function.update_self] at h
    exact .inl ⟨rfl, h⟩
  · rw [Function.update_of_ne hq] at h
    exact .inr ⟨hq, h⟩

/-- An activity whose point lacks a property steps: the one that has it stays where it is. -/
theorem exists_update (h : ∃ q g, F q = some g ∧ P g) (hp : ∀ f, F p = some f → ¬ P f) :
    ∃ q g, Function.update F p r q = some g ∧ P g := by
  obtain ⟨q, g, hq, hg⟩ := h
  have hne : q ≠ p := by
    intro hqp
    subst hqp
    exact hp g hq hg
  exact ⟨q, g, by rw [Function.update_of_ne hne, hq], hg⟩

/-- A step keeps `Every` when the new point has the property, and the points of the other
activities keep it. -/
theorem Every.update (h : Every F P) (hr : ∀ f, r = some f → Q f)
    (hother : ∀ q g, q ≠ p → F q = some g → P g → Q g) : Every (Function.update F p r) Q := by
  intro q g hq
  rcases update_eq_some hq with ⟨-, hg⟩ | ⟨hne, hg⟩
  · exact hr g hg
  · exact hother q g hne hg (h q g hg)

/-- The same for a step of an activity that goes on. -/
theorem Every.update_some (h : Every F P) (hg : Q g)
    (hother : ∀ q f, q ≠ p → F q = some f → P f → Q f) :
    Every (Function.update F p (some g)) Q := by
  refine h.update ?_ hother
  intro f hf
  exact Option.some.inj hf ▸ hg

/-- A step keeps `Exclusive` when no other activity claims what the new point claims. -/
theorem Exclusive.update (h : Exclusive F claims)
    (hr : ∀ f a, r = some f → claims f a → ∀ q g, q ≠ p → F q = some g → ¬ claims g a) :
    Exclusive (Function.update F p r) claims := by
  intro q₁ q₂ g₁ g₂ a h₁ h₂ hc₁ hc₂
  rcases update_eq_some h₁ with ⟨rfl, hg₁⟩ | ⟨hne₁, hg₁⟩ <;>
    rcases update_eq_some h₂ with ⟨rfl, hg₂⟩ | ⟨hne₂, hg₂⟩
  · rfl
  · exact absurd hc₂ (hr g₁ a hg₁ hc₁ q₂ g₂ hne₂ hg₂)
  · exact absurd hc₁ (hr g₂ a hg₂ hc₂ q₁ g₁ hne₁ hg₁)
  · exact h q₁ q₂ g₁ g₂ a hg₁ hg₂ hc₁ hc₂

/-- The same for a step of an activity that goes on. -/
theorem Exclusive.update_some (h : Exclusive F claims)
    (hg : ∀ a, claims g a → ∀ q f, q ≠ p → F q = some f → ¬ claims f a) :
    Exclusive (Function.update F p (some g)) claims := by
  refine h.update ?_
  intro f a hf hc
  exact hg a (Option.some.inj hf ▸ hc)

/-- A step to a point that claims no more than before. -/
theorem Exclusive.update_of_imp (h : Exclusive F claims) (hp : F p = some f)
    (hr : ∀ f' a, r = some f' → claims f' a → claims f a) :
    Exclusive (Function.update F p r) claims := by
  refine h.update ?_
  intro f' a hf' hc q g hne hq
  exact h.not_other hp (hr f' a hf' hc) hne hq

end Tox4j.Lib
