import Mathlib

/-!
# `Tox4j.Lib.Numeral`: decimal numerals and what they stand for

`read places` reads a decimal numeral with a sign, a point and exactly `places` digits after
the point. The result is the value in units of `10 ^ -places`. It is a function, so a text has
one value at most.

`read_point` is the value of an integer and a fraction that were printed side by side. The
sign of the integer counts for the fraction too, so a fraction that should be added to a
negative integer is subtracted.
-/

set_option autoImplicit false

namespace Tox4j.Lib.Numeral

/-- A numeral without a sign. -/
def readUnsigned (places : Nat) (cs : List Char) : Option Nat :=
  let whole := cs.takeWhile Char.isDigit
  match cs.dropWhile Char.isDigit with
  | '.' :: fraction =>
    if whole ≠ [] ∧ fraction.length = places ∧ fraction.all Char.isDigit = true then
      some (Nat.ofDigitChars 10 (whole ++ fraction) 0)
    else none
  | _ => none

/-- A numeral. -/
def read (places : Nat) (text : String) : Option Int :=
  match text.toList with
  | '-' :: cs => (readUnsigned places cs).map fun n : Nat => -(n : Int)
  | cs => (readUnsigned places cs).map fun n : Nat => (n : Int)

/-- All characters are digits. -/
def Digits (cs : List Char) : Prop := ∀ c ∈ cs, c.isDigit = true

variable {places n : Nat} {whole fraction : List Char}

/-- The decimal digits of a number are digits. -/
theorem digits_toDigits (n : Nat) : Digits (Nat.toDigits 10 n) := by
  intro c hc
  exact Nat.isDigit_of_mem_toDigits (by decide) (by decide) hc

/-- A number with zeros before it. -/
theorem digits_pad (zeros n : Nat) : Digits (List.replicate zeros '0' ++ Nat.toDigits 10 n) := by
  intro c hc
  cases List.mem_append.mp hc with
  | inl hzero =>
      rw [(List.mem_replicate.mp hzero).2]
      decide
  | inr hdigit => exact digits_toDigits n c hdigit

/-- Zeros in front do not change the value of a numeral. -/
@[simp] theorem value_pad (zeros n : Nat) :
    Nat.ofDigitChars 10 (List.replicate zeros '0' ++ Nat.toDigits 10 n) 0 = n := by
  rw [Nat.ofDigitChars_append, Nat.ofDigitChars_replicate_zero, Nat.mul_zero,
    Nat.ofDigitChars_ten_toDigits]

/-- A numeral with a point is read as its whole part and its fraction together, in units of the last
place. -/
theorem readUnsigned_point (hwhole : Digits whole) (hne : whole ≠ []) (hfraction : Digits fraction)
    (hlen : fraction.length = places) :
    readUnsigned places (whole ++ '.' :: fraction)
      = some (10 ^ places * Nat.ofDigitChars 10 whole 0 + Nat.ofDigitChars 10 fraction 0) := by
  have htake : (whole ++ '.' :: fraction).takeWhile Char.isDigit = whole := by
    rw [List.takeWhile_append_of_pos hwhole]
    show whole ++ [] = whole
    exact List.append_nil whole
  have hdrop : (whole ++ '.' :: fraction).dropWhile Char.isDigit = '.' :: fraction := by
    rw [List.dropWhile_append_of_pos hwhole]
    rfl
  have hall : fraction.all Char.isDigit = true := List.all_eq_true.mpr hfraction
  have hvalue : Nat.ofDigitChars 10 fraction (Nat.ofDigitChars 10 whole 0)
      = 10 ^ fraction.length * Nat.ofDigitChars 10 whole 0 + Nat.ofDigitChars 10 fraction 0 :=
    Nat.ofDigitChars_eq_ofDigitChars_zero
  simp only [readUnsigned, htake, hdrop, hne, hlen, hall, ne_eq, not_false_eq_true, and_self,
    if_true, Nat.ofDigitChars_append]
  rw [hvalue, hlen]

/-- The sign is looked at first, and a digit is no sign. -/
theorem read_of_digits {cs : List Char} (h : ∀ c ∈ cs.head?, c.isDigit = true) :
    read places (String.ofList cs) = (readUnsigned places cs).map fun n : Nat => (n : Int) := by
  unfold read
  rw [String.toList_ofList]
  split
  · have hminus := h '-' rfl
    exact absurd hminus (by decide)
  · rfl

/-- An integer, a point and digits. -/
theorem read_point (z : Int) (hfraction : Digits fraction) (hlen : fraction.length = places) :
    read places (toString z ++ "." ++ String.ofList fraction)
      = some (10 ^ places * z +
          (if z < 0 then -1 else 1) * (Nat.ofDigitChars 10 fraction 0 : Int)) := by
  have hunsigned (m : Nat) := readUnsigned_point (digits_toDigits m) Nat.toDigits_ne_nil hfraction
    hlen
  rw [Int.toString_eq_repr, Int.repr_eq_if]
  by_cases hz : 0 ≤ z
  · rw [if_pos hz, if_neg (by omega)]
    have htext : z.toNat.repr ++ "." ++ String.ofList fraction
        = String.ofList (Nat.toDigits 10 z.toNat ++ '.' :: fraction) := by
      apply String.toList_inj.mp
      simp
    rw [htext, read_of_digits, hunsigned, Nat.ofDigitChars_ten_toDigits]
    · rw [Option.map_some, Int.one_mul, Int.natCast_add, Int.natCast_mul, Int.natCast_pow,
        Int.toNat_of_nonneg hz]
      rfl
    · intro c hc
      -- The first character is a digit, and not the sign.
      have hne : Nat.toDigits 10 z.toNat ≠ [] := Nat.toDigits_ne_nil
      obtain ⟨d, ds, hds⟩ := List.exists_cons_of_ne_nil hne
      rw [hds] at hc
      obtain rfl : d = c := Option.some.inj hc
      exact digits_toDigits z.toNat d (hds ▸ List.mem_cons_self)
  · rw [if_neg hz, if_pos (by omega)]
    have htext : ("-" ++ (-z).toNat.repr ++ "." ++ String.ofList fraction).toList
        = '-' :: (Nat.toDigits 10 (-z).toNat ++ '.' :: fraction) := by
      simp
    unfold read
    rw [htext]
    show (readUnsigned places (Nat.toDigits 10 (-z).toNat ++ '.' :: fraction)).map _ = _
    rw [hunsigned, Nat.ofDigitChars_ten_toDigits, Option.map_some]
    have hcast : ((-z).toNat : Int) = -z := Int.toNat_of_nonneg (by omega)
    rw [Int.natCast_add, Int.natCast_mul, Int.natCast_pow, hcast, Int.mul_neg]
    show some (-(-(10 ^ places * z) + _)) = some _
    rw [Int.neg_add, Int.neg_neg, Int.neg_mul, Int.one_mul]

/-- Two integers with the same text are the same. -/
theorem toString_inj {z z' : Int} (h : toString z = toString z') : z = z' := by
  have hvalue (z : Int) : read 0 (toString z ++ "." ++ String.ofList []) = some z := by
    have hnone : Digits [] := fun _ hc => absurd hc List.not_mem_nil
    have hread : read 0 (toString z ++ "." ++ String.ofList []) = _ := read_point z hnone rfl
    rw [hread, Nat.ofDigitChars_nil]
    simp
  exact Option.some.inj (by rw [← hvalue z, h, hvalue z'])

end Tox4j.Lib.Numeral
