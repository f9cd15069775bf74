import Mathlib

/-!
# `Tox4j.Lib.Pointwise`: lists that are related element by element

`List.Forall₂ R` relates two lists when `R` relates their elements, in order. These are the rules
for taking such lists apart: a list on the right that was appended or flattened has parts on the
left that are related to its parts.

`mapM` in `Option` is such a relation (`mapM_eq_some_iff`): there is a result when there is one for
each element.
-/

set_option autoImplicit false

namespace Tox4j.Lib

variable {α β : Type} {R : α → β → Prop}

/-- The part of the left list that belongs to each of two appended lists. -/
theorem forall₂_append_right {l : List α} {l₁' l₂' : List β}
    (h : List.Forall₂ R l (l₁' ++ l₂')) :
    ∃ l₁ l₂, l = l₁ ++ l₂ ∧ List.Forall₂ R l₁ l₁' ∧ List.Forall₂ R l₂ l₂' :=
  ⟨_, _, (List.take_append_drop l₁'.length l).symm, List.forall₂_take_append l l₁' l₂' h,
    List.forall₂_drop_append l l₁' l₂' h⟩

/-- The part of the left list that belongs to each of many lists. The induction is on these. -/
theorem forall₂_flatten_right {l : List α} {ls' : List (List β)}
    (h : List.Forall₂ R l ls'.flatten) :
    ∃ ls : List (List α), ls.flatten = l ∧ List.Forall₂ (List.Forall₂ R) ls ls' := by
  induction ls' generalizing l with
  | nil => exact ⟨[], (List.forall₂_nil_right_iff.mp h).symm, .nil⟩
  | cons l' ls' ih =>
      rw [List.flatten_cons] at h
      obtain ⟨first, others, rfl, hfirst, hothers⟩ := forall₂_append_right h
      obtain ⟨ls, rfl, hall⟩ := ih hothers
      exact ⟨first :: ls, rfl, .cons hfirst hall⟩

/-- Each element on the right is related to one on the left. -/
theorem exists_of_forall₂ {l : List α} {l' : List β} (h : List.Forall₂ R l l') {b : β}
    (hb : b ∈ l') : ∃ a ∈ l, R a b := by
  induction h with
  | nil => exact absurd hb List.not_mem_nil
  | cons hr _ ih =>
      rcases List.mem_cons.mp hb with rfl | hb
      · exact ⟨_, List.mem_cons_self, hr⟩
      · obtain ⟨a, ha, hab⟩ := ih hb
        exact ⟨a, List.mem_cons_of_mem _ ha, hab⟩

/-- What holds of all elements on the left holds of those on the right, and the other way round,
when it does for related elements. -/
theorem forall_mem_iff_of_forall₂ {l : List α} {l' : List β} {P : α → Prop} {Q : β → Prop}
    (h : List.Forall₂ R l l') (hiff : ∀ a, ∀ b ∈ l', R a b → (P a ↔ Q b)) :
    (∀ a ∈ l, P a) ↔ ∀ b ∈ l', Q b := by
  induction h with
  | nil => simp
  | cons hr _ ih =>
      have hrest := ih fun a b hb => hiff a b (List.mem_cons_of_mem _ hb)
      rw [List.forall_mem_cons, List.forall_mem_cons, hiff _ _ List.mem_cons_self hr, hrest]

variable {f : α → Option β}

/-- The elements of the result of `mapM` are the results for the elements. -/
theorem mapM_eq_some_iff {l : List α} {l' : List β} :
    l.mapM f = some l' ↔ List.Forall₂ (fun a b => f a = some b) l l' := by
  induction l generalizing l' with
  | nil =>
      rw [List.mapM_nil, List.forall₂_nil_left_iff]
      exact ⟨fun h => (Option.some.inj h).symm, fun h => congrArg some h.symm⟩
  | cons a l ih =>
      rw [List.mapM_cons]
      constructor
      · intro h
        obtain ⟨b, hb, h⟩ := Option.bind_eq_some_iff.mp h
        obtain ⟨bs, hbs, h⟩ := Option.bind_eq_some_iff.mp h
        cases h
        exact .cons hb (ih.mp hbs)
      · intro h
        cases h with
        | cons hb hbs =>
            rw [hb, ih.mpr hbs]
            rfl

/-- `mapM` has a result whose elements all have `Q` exactly when there is such a result for each
element. -/
theorem exists_mapM_iff {l : List α} {Q : β → Prop} :
    (∃ l', l.mapM f = some l' ∧ ∀ b ∈ l', Q b) ↔ ∀ a ∈ l, ∃ b, f a = some b ∧ Q b := by
  induction l with
  | nil => simp
  | cons a l ih =>
      rw [List.forall_mem_cons, ← ih]
      simp only [mapM_eq_some_iff, List.forall₂_cons_left_iff]
      constructor
      · rintro ⟨_, ⟨b, bs, hb, hbs, rfl⟩, hQ⟩
        rw [List.forall_mem_cons] at hQ
        exact ⟨⟨b, hb, hQ.1⟩, bs, hbs, hQ.2⟩
      · rintro ⟨⟨b, hb, hQb⟩, bs, hbs, hQ⟩
        exact ⟨b :: bs, ⟨b, bs, hb, hbs, rfl⟩, List.forall_mem_cons.mpr ⟨hQb, hQ⟩⟩

end Tox4j.Lib
