import Mathlib

/-!
# `Tox4j.Lib.AddressedList`: a list whose elements keep their addresses

A list that others hold pointers into: appending and deleting moves no element to another
address. A pointer is an address. Writing through a pointer changes the element there, and a
pointer can be searched from the end of the list.

The rules are about a list `before ++ ⟨a, x⟩ :: after` with distinct addresses. They say what
a read, a write and a search at the address `a` do there. `replaceLast` changes the last
element with a property.
-/

set_option autoImplicit false

namespace Tox4j.Lib

/-- Where an element is. -/
abbrev Address := Nat

/-- An element with its address. -/
structure Cell (α : Type) where
  address : Address
  value : α
  deriving DecidableEq, Repr

/-- A list of elements that do not move. -/
abbrev AddressedList (α : Type) := List (Cell α)

variable {α : Type}

namespace AddressedList

/-- Read through a pointer. -/
def read? (l : AddressedList α) (a : Address) : Option α :=
  (l.find? (·.address = a)).map Cell.value

/-- Write through a pointer. -/
def write (l : AddressedList α) (a : Address) (f : α → α) : AddressedList α :=
  l.map fun c => if c.address = a then ⟨a, f c.value⟩ else c

/-- How far from the end of the list a pointer is found. -/
def searchBack (l : AddressedList α) (a : Address) : Option Nat :=
  l.reverse.findIdx? (·.address = a)

/-- An address above all that are in use. -/
def fresh (l : AddressedList α) : Address := (l.map Cell.address).foldr max 0 + 1

/-- The addresses are distinct. -/
def Distinct (l : AddressedList α) : Prop := (l.map Cell.address).Nodup

variable {before after : AddressedList α} {a : Address} {x : α} {c : Cell α}

/-- An allocator that goes upward never takes an address that is in use. -/
theorem fresh_notMem (l : AddressedList α) : fresh l ∉ l.map Cell.address := by
  have hle : ∀ addresses : List Address, ∀ b ∈ addresses, b ≤ addresses.foldr max 0 := by
    intro addresses
    induction addresses with
    | nil => exact fun b hb => absurd hb List.not_mem_nil
    | cons b addresses ih =>
        intro b' hb'
        rcases List.mem_cons.mp hb' with rfl | hb'
        · exact Nat.le_max_left ..
        · exact (ih b' hb').trans (Nat.le_max_right ..)
  intro hmem
  exact Nat.not_succ_le_self _ (hle _ _ hmem)

/-- The cells before another one have other addresses. -/
theorem Distinct.before_ne (h : Distinct (before ++ ⟨a, x⟩ :: after)) (hc : c ∈ before) :
    c.address ≠ a := by
  unfold Distinct at h
  rw [List.map_append, List.map_cons, List.nodup_append] at h
  exact h.2.2 _ (List.mem_map_of_mem hc) a List.mem_cons_self

/-- The cells after another one have other addresses. -/
theorem Distinct.after_ne (h : Distinct (before ++ ⟨a, x⟩ :: after)) (hc : c ∈ after) :
    c.address ≠ a := by
  unfold Distinct at h
  rw [List.map_append, List.map_cons, List.nodup_append, List.nodup_cons] at h
  intro heq
  have hmem : c.address ∈ after.map Cell.address := List.mem_map_of_mem hc
  rw [heq] at hmem
  exact h.2.1.1 hmem

/-- A new address may be appended. -/
theorem Distinct.concat {l : AddressedList α} (h : Distinct l) (ha : a ∉ l.map Cell.address) :
    Distinct (l ++ [⟨a, x⟩]) := by
  unfold Distinct at h ⊢
  rw [List.map_append, List.map_singleton]
  refine List.nodup_append.mpr ⟨h, by simp, ?_⟩
  intro b hb b' hb' heq
  obtain rfl := List.mem_singleton.mp hb'
  exact ha (heq ▸ hb)

/-- A read at the address of a cell finds its value, wherever the cell is. -/
theorem read?_middle (h : Distinct (before ++ ⟨a, x⟩ :: after)) :
    read? (before ++ ⟨a, x⟩ :: after) a = some x := by
  have hbefore : before.find? (·.address = a) = none := by
    rw [List.find?_eq_none]
    intro c hc
    simpa using h.before_ne hc
  rw [read?, List.find?_append, hbefore, Option.none_or,
    List.find?_cons_of_pos (by simp)]
  rfl

/-- A write at an address that no cell has changes nothing. -/
theorem write_of_ne {l : AddressedList α} (h : ∀ c ∈ l, c.address ≠ a) (f : α → α) :
    write l a f = l := by
  unfold write
  conv_rhs => rw [← List.map_id l]
  refine List.map_congr_left ?_
  intro c hc
  exact if_neg (h c hc)

/-- A write at the address of a cell changes this cell only. -/
theorem write_middle (h : Distinct (before ++ ⟨a, x⟩ :: after)) (f : α → α) :
    write (before ++ ⟨a, x⟩ :: after) a f = before ++ ⟨a, f x⟩ :: after := by
  have hbefore : write before a f = before := write_of_ne (fun c hc => h.before_ne hc) f
  have hafter : write after a f = after := write_of_ne (fun c hc => h.after_ne hc) f
  unfold write at hbefore hafter ⊢
  rw [List.map_append, List.map_cons, hbefore, hafter, if_pos rfl]

/-- The search from the end passes the elements after the one that it looks for. -/
theorem searchBack_middle (h : Distinct (before ++ ⟨a, x⟩ :: after)) :
    searchBack (before ++ ⟨a, x⟩ :: after) a = some after.length := by
  have hafter : after.reverse.findIdx? (·.address = a) = none := by
    rw [List.findIdx?_eq_none_iff]
    intro c hc
    simpa using h.after_ne (List.mem_reverse.mp hc)
  simp [searchBack, List.findIdx?_append, hafter, List.findIdx?_cons]

/-- The cell that has `after` behind it is erased by its position, counted from the end. -/
theorem eraseIdx_middle :
    (before ++ c :: after).eraseIdx ((before ++ c :: after).length - after.length - 1) =
      before ++ after := by
  have hindex : (before ++ c :: after).length - after.length - 1 = before.length := by
    simp only [List.length_append, List.length_cons]
    omega
  rw [hindex, List.eraseIdx_append_of_length_le (Nat.le_refl _), Nat.sub_self,
    List.eraseIdx_cons_zero]

end AddressedList

/-- Put the elements `f x` in the place of the last element `x` with `p`. -/
def replaceLast (p : α → Bool) (f : α → List α) : List α → List α
  | [] => []
  | x :: xs => if xs.any p then x :: replaceLast p f xs else if p x then f x ++ xs else x :: xs

/-- The last element with `p` is replaced, when none behind it has `p`. -/
theorem replaceLast_middle {p : α → Bool} {f : α → List α} {x : α} {after : List α}
    (hx : p x = true) (hafter : ∀ y ∈ after, p y = false) (before : List α) :
    replaceLast p f (before ++ x :: after) = before ++ f x ++ after := by
  induction before with
  | nil =>
      have hany : after.any p = false := List.any_eq_false.mpr fun y hy => by simp [hafter y hy]
      simp [replaceLast, hany, hx]
  | cons y before ih =>
      have hany : (before ++ x :: after).any p = true := by simp [hx]
      rw [List.cons_append, replaceLast, if_pos hany, ih]
      rfl

/-- Nothing changes when the last element is replaced by itself. -/
theorem replaceLast_self (p : α → Bool) (l : List α) : replaceLast p (fun x => [x]) l = l := by
  induction l with
  | nil => rfl
  | cons x l ih =>
      rw [replaceLast, ih]
      split
      · rfl
      · split <;> rfl

/-- The last element that a filter keeps is the last one of the list with the property. -/
theorem exists_last_of_filter {p : α → Bool} {l kept : List α} {x : α}
    (h : l.filter p = kept ++ [x]) : ∃ before after, l = before ++ x :: after ∧ p x = true ∧
      (∀ y ∈ after, p y = false) ∧ before.filter p = kept := by
  obtain ⟨l₁, l₂, rfl, hkept, hlast⟩ := List.filter_eq_append_iff.mp h
  obtain ⟨skipped, after, rfl, hskipped, hx, hafter⟩ := List.filter_eq_cons_iff.mp hlast
  refine ⟨l₁ ++ skipped, after, by simp, hx, ?_, ?_⟩
  · intro y hy
    simpa using List.filter_eq_nil_iff.mp hafter y hy
  · rw [List.filter_append, hkept, List.filter_eq_nil_iff.mpr hskipped, List.append_nil]

end Tox4j.Lib
