import Tox4j.Lib.Numeral
import Tox4j.Log.Print

/-!
# `Tox4j.Log.PrintTime`: which times are printed as they are

`print_result` measures a time in nanoseconds, and the printer shows it in microseconds.
`reportsElapsed_iff` says for which durations the text is the intended one: from a microsecond
on, the unit of a shorter one is printed twice, and below `2 ^ 31` nanoseconds, where the
field of the entry is no negative number for Kotlin.

The time offset of an entry is printed as its whole seconds, a point and the microseconds of
the nonnegative rest. `printsRounded_iff` says for which timestamps the numeral is the
difference, rounded down: for those that are not earlier than the first entry, and for those
where the rest has no microseconds. Any other numeral is no rounding of the difference at all.
-/

set_option autoImplicit false

namespace Tox4j.Log

open Tox4j.Lib

/-! ### Elapsed time -/

/-- The text that the elapsed time should have. -/
def expectedElapsed (d : Int64) : String :=
  if 1000 ≤ d then toString (d.toInt / 1000) ++ " µs" else toString d.toInt ++ " ns"

/-- The entry of a call that took `d` nanoseconds: `print_result` writes the start and the
elapsed time. -/
def timedEntry (entry : JniLogEntry String) (start d : Int64) : JniLogEntry String :=
  { entry with timestamp := some (.ofNanos start), elapsedNanos := elapsedField d }

/-- The entry of a call that took `d` nanoseconds is printed with that time. -/
def ReportsElapsed (first : Int64) (entry : JniLogEntry String) (start d : Int64) : Prop :=
  printEntry (.ofNanos first) (timedEntry entry start d)
    = printEntryWith (.ofNanos first) (timedEntry entry start d) (expectedElapsed d)

/-- The text of an entry shows the text of its elapsed time. -/
theorem printEntryWith_inj {startTime : Timestamp} {entry : JniLogEntry String} {x y : String}
    (hstart : InRange startTime) (hentry : InRange (entry.timestamp.getD .default)) :
    printEntryWith startTime entry x = printEntryWith startTime entry y ↔ x = y := by
  constructor
  · intro h
    unfold printEntryWith at h
    have hdiff : ∃ text, printFormattedTimeDiff (entry.timestamp.getD .default) startTime
        = .ok text := by
      unfold printFormattedTimeDiff
      rw [kotlinAssert_inRange hstart, kotlinAssert_inRange hentry]
      exact ⟨_, rfl⟩
    obtain ⟨text, htext⟩ := hdiff
    rw [htext] at h
    simp only [bind, Except.bind, pure, Except.pure, Except.ok.injEq] at h
    have hlists := congrArg String.toList h
    simp only [String.toList_append, List.append_cancel_right_eq,
      List.append_cancel_left_eq] at hlists
    exact String.toList_inj.mp hlists
  · intro h
    rw [h]

/-- Kotlin reads the field as the count modulo `2 ^ 32`, with a sign. -/
theorem toInt_elapsedField (d : Int64) :
    (elapsedField d).toInt32.toInt = d.toInt.bmod (2 ^ 32) := by
  have hfield : (elapsedField d).toInt32.toInt = (d.toBitVec.setWidth 32).toInt := rfl
  have hd : d.toInt = d.toBitVec.toInt := rfl
  have hlt : d.toBitVec.toNat < 2 ^ 64 := d.toBitVec.isLt
  rw [hfield, hd, BitVec.toInt_eq_toNat_cond, BitVec.toInt_eq_toNat_cond, BitVec.toNat_setWidth,
    Int.bmod_def]
  split <;> split <;> split <;> omega

/-- A text with the unit of nanoseconds is not one with that of microseconds: they end with another
character before the `s`. -/
theorem ns_ne_micros (x y : String) : x ++ " ns" ≠ y ++ " µs" := by
  intro h
  have hlists := congrArg String.toList h
  rw [String.toList_append, String.toList_append] at hlists
  have hunits := List.append_inj_right' hlists rfl
  exact absurd hunits (by decide)

/-- The unit is printed twice. -/
theorem printElapsed_short {d : Int64} (h : 0 ≤ d.toInt) (hd : d.toInt < 1000) :
    printElapsed (elapsedField d) ≠ toString d.toInt ++ " ns" := by
  have hn : d.toInt.bmod (2 ^ 32) = d.toInt := Int.bmod_eq_of_le (by omega) (by omega)
  have hmicros : d.toInt.tdiv 1000 = 0 := by
    rw [Int.tdiv_eq_ediv_of_nonneg h]
    omega
  simp only [printElapsed, toInt_elapsedField, hn, hmicros, if_true, durationToString]
  intro heq
  have hlists := congrArg String.toList heq
  by_cases hzero : d.toInt = 0
  · rw [if_pos hzero, hzero] at hlists
    exact absurd hlists (by decide)
  · rw [if_neg hzero] at hlists
    simp only [String.toList_append, List.append_assoc, List.append_cancel_left_eq] at hlists
    exact absurd hlists (by decide)

/-- The elapsed time is printed as it should be from a microsecond on and below `2 ^ 31`
nanoseconds. -/
theorem printElapsed_iff {d : Int64} (h : 0 ≤ d.toInt) :
    printElapsed (elapsedField d) = expectedElapsed d ↔
      1000 ≤ d.toInt ∧ d.toInt < 2 ^ 31 := by
  have hlt : d.toInt < 2 ^ 63 := d.toInt_lt
  have hle : (1000 ≤ d) ↔ 1000 ≤ d.toInt := Int64.le_iff_toInt_le
  by_cases hshort : d.toInt < 1000
  · constructor
    · intro heq
      rw [expectedElapsed, if_neg (by rw [hle]; omega)] at heq
      exact absurd heq (printElapsed_short h hshort)
    · intro hc
      omega
  · rw [expectedElapsed, if_pos (by rw [hle]; omega)]
    simp only [printElapsed, toInt_elapsedField]
    -- `n` is what Kotlin reads.
    have hn : d.toInt.bmod (2 ^ 32) = d.toInt ∧ d.toInt < 2 ^ 31 ∨
        d.toInt.bmod (2 ^ 32) < 2 ^ 31 ∧ -2 ^ 31 ≤ d.toInt.bmod (2 ^ 32) ∧ 2 ^ 31 ≤ d.toInt ∧
          (d.toInt < 2 ^ 32 → d.toInt.bmod (2 ^ 32) = d.toInt - 2 ^ 32) := by
      rw [Int.bmod_def]
      split <;> omega
    generalize d.toInt.bmod (2 ^ 32) = n at hn
    rcases hn with ⟨rfl, hsmall⟩ | ⟨hupper, hlower, hlarge, hwrap⟩
    · have hmicros : d.toInt.tdiv 1000 = d.toInt / 1000 := Int.tdiv_eq_ediv_of_nonneg h
      rw [hmicros, if_neg (by omega)]
      constructor
      · intro _
        omega
      · intro _
        rfl
    · constructor
      · intro heq
        exfalso
        split at heq
        · exact ns_ne_micros _ _ heq
        · have hlists := congrArg String.toList heq
          rw [String.toList_append, String.toList_append, List.append_cancel_right_eq] at hlists
          have hmicros := Numeral.toString_inj (String.toList_inj.mp hlists)
          have hsign : Int.sign 1000 = 1 := rfl
          rw [Int.tdiv_eq_ediv, hsign] at hmicros
          split at hmicros <;> omega
      · intro hc
        omega

/-- The text of the entry is right when the text of its elapsed time is. -/
theorem reportsElapsed_iff_text (first : Int64) (entry : JniLogEntry String) (start d : Int64) :
    ReportsElapsed first entry start d ↔
      printElapsed (elapsedField d) = expectedElapsed d :=
  printEntryWith_inj (inRange_ofNanos first) (inRange_ofNanos start)

/-- The time of a call is reported as it was measured from a microsecond on and below `2 ^ 31`
nanoseconds, and for no other duration. -/
theorem reportsElapsed_iff (first : Int64) (entry : JniLogEntry String) (start : Int64) {d : Int64}
    (h : 0 ≤ d.toInt) :
    ReportsElapsed first entry start d ↔ 1000 ≤ d.toInt ∧ d.toInt < 2 ^ 31 := by
  rw [reportsElapsed_iff_text, printElapsed_iff h]

/-- A call that took one and a half microseconds. -/
theorem reportsElapsed_micros :
    ReportsElapsed 0 {} 0 1500 ↔ 1000 ≤ (1500 : Int64).toInt ∧ (1500 : Int64).toInt < 2 ^ 31 :=
  reportsElapsed_iff 0 {} 0 (by decide)

/-- A call that took 123 nanoseconds is printed with `123ns ns`. -/
theorem not_reportsElapsed : ¬ ReportsElapsed 0 {} 0 123 := by
  rw [reportsElapsed_iff_text]
  exact printElapsed_short (by decide) (by decide)

/-! ### Time offsets -/

/-- The ways to round a number of nanoseconds to whole microseconds. -/
inductive Direction
  | down
  | up
  | towardsZero
  | awayFromZero
  deriving DecidableEq, Repr

/-- Round to whole microseconds. -/
def Direction.round (d : Direction) (nanos : Int) : Int :=
  match d with
  | .down => nanos / 1000
  | .up => -(-nanos / 1000)
  | .towardsZero => nanos.tdiv 1000
  | .awayFromZero => if 0 ≤ nanos then -(-nanos / 1000) else nanos / 1000

/-- A timestamp in nanoseconds. -/
def Timestamp.toNanos (t : Timestamp) : Int := t.seconds.toInt * 10 ^ 9 + t.nanos.toInt

/-- The text for two timestamps is a numeral with six digits after the point, which stands for
their difference, rounded. -/
def PrintsRounded (d : Direction) (a b : Timestamp) : Prop :=
  ∃ text, printFormattedTimeDiff a b = .ok text ∧
    Numeral.read 6 text = some (d.round (a.toNanos - b.toNanos))

/-- A timestamp whose nanoseconds are a part of a second. -/
def Timestamp.Normal (t : Timestamp) : Prop := 0 ≤ t.nanos.toInt ∧ t.nanos.toInt < 10 ^ 9

/-- Both directions of rounding give one of the two numbers next to the quotient. -/
theorem round_bounds (d : Direction) (nanos : Int) :
    nanos / 1000 ≤ d.round nanos ∧ d.round nanos ≤ nanos / 1000 + 1 := by
  cases d with
  | down => exact ⟨Int.le_refl _, by show nanos / 1000 ≤ _; omega⟩
  | up =>
      show nanos / 1000 ≤ -(-nanos / 1000) ∧ -(-nanos / 1000) ≤ nanos / 1000 + 1
      omega
  | towardsZero =>
      have hsign : Int.sign 1000 = 1 := rfl
      have htdiv := Int.tdiv_eq_ediv (a := nanos) (b := 1000)
      rw [hsign] at htdiv
      show nanos / 1000 ≤ nanos.tdiv 1000 ∧ nanos.tdiv 1000 ≤ nanos / 1000 + 1
      split at htdiv <;> omega
  | awayFromZero =>
      show nanos / 1000 ≤ (if 0 ≤ nanos then -(-nanos / 1000) else nanos / 1000) ∧
        (if 0 ≤ nanos then -(-nanos / 1000) else nanos / 1000) ≤ nanos / 1000 + 1
      split <;> omega

/-- The printed microseconds have six digits, and their value is the number. -/
theorem sixDigits_eq {n : Nat} (h : n < 1000000) :
    ∃ zeros, sixDigits n
        = String.ofList (List.replicate zeros '0' ++ Nat.toDigits 10 n) ∧
      (List.replicate zeros '0' ++ Nat.toDigits 10 n).length = 6 := by
  have hlen (k : Nat) (hk : 0 < k) : (Nat.toDigits 10 n).length ≤ k ↔ n < 10 ^ k :=
    Nat.length_toDigits_le_iff (by decide) hk
  have h1 := hlen 1 (by decide)
  have h2 := hlen 2 (by decide)
  have h3 := hlen 3 (by decide)
  have h4 := hlen 4 (by decide)
  have h5 := hlen 5 (by decide)
  have h6 := hlen 6 (by decide)
  have hpos : 0 < (Nat.toDigits 10 n).length := Nat.length_toDigits_pos
  have htext (pad : String) (zeros : Nat) (hpad : pad.toList = List.replicate zeros '0')
      (hzeros : zeros + (Nat.toDigits 10 n).length = 6) :
      ∃ zeros, pad ++ toString (n : Int)
          = String.ofList (List.replicate zeros '0' ++ Nat.toDigits 10 n) ∧
        (List.replicate zeros '0' ++ Nat.toDigits 10 n).length = 6 := by
    refine ⟨zeros, ?_, by rw [List.length_append, List.length_replicate, hzeros]⟩
    apply String.toList_inj.mp
    rw [String.toList_append, hpad, String.toList_ofList, Int.toString_eq_repr]
    show _ ++ n.repr.toList = _
    rw [Nat.toList_repr]
  -- One case for each number of digits.
  unfold sixDigits
  split
  · exact htext "00000" 5 rfl (by omega)
  split
  · exact htext "0000" 4 rfl (by omega)
  split
  · exact htext "000" 3 rfl (by omega)
  split
  · exact htext "00" 2 rfl (by omega)
  split
  · exact htext "0" 1 rfl (by omega)
  · exact htext "" 0 rfl (by omega)

/-- The numeral of an integer and six digits. -/
theorem read_sixDigits (z : Int) {n : Nat} (h : n < 1000000) :
    Numeral.read 6 (toString z ++ "." ++ sixDigits n)
      = some (1000000 * z + (if z < 0 then -1 else 1) * (n : Int)) := by
  obtain ⟨zeros, htext, hlen⟩ := sixDigits_eq h
  rw [htext, Numeral.read_point z (Numeral.digits_pad zeros n) hlen, Numeral.value_pad]
  rfl

/-- What `printFormattedTimeDiff` prints: the difference of the seconds and of the nanoseconds,
with one second moved when the nanoseconds are negative. -/
theorem printFormattedTimeDiff_eq {a b : Timestamp} (ha : a.Normal) (hb : b.Normal) :
    ∃ (z : Int) (n : Nat), n < 1000000 ∧
      printFormattedTimeDiff a b = .ok (toString z ++ "." ++ sixDigits n) ∧
      (if a.nanos.toInt < b.nanos.toInt then
        z = (a.seconds.toInt - b.seconds.toInt - 1).bmod (2 ^ 64) ∧
          (n : Int) = (a.nanos.toInt - b.nanos.toInt + 10 ^ 9) / 1000
      else
        z = (a.seconds.toInt - b.seconds.toInt).bmod (2 ^ 64) ∧
          (n : Int) = (a.nanos.toInt - b.nanos.toInt) / 1000) := by
  obtain ⟨ha0, ha9⟩ := ha
  obtain ⟨hb0, hb9⟩ := hb
  have hsecond : (1000000000 : Int32).toInt = 10 ^ 9 := by decide
  have hassert {t : Timestamp} (ht : t.nanos.toInt < 10 ^ 9) : InRange t := by
    show t.nanos < 1000000000
    rw [Int32.lt_iff_toInt_lt, hsecond]
    exact ht
  have hnanos : (a.nanos - b.nanos).toInt = a.nanos.toInt - b.nanos.toInt := by
    rw [Int32.toInt_sub, Int.bmod_eq_of_le (by omega) (by omega)]
  have hneg : a.nanos - b.nanos < 0 ↔ a.nanos.toInt < b.nanos.toInt := by
    rw [Int32.lt_iff_toInt_lt, hnanos]
    show _ < (0 : Int) ↔ _
    omega
  unfold printFormattedTimeDiff
  rw [kotlinAssert_inRange (hassert ha9), kotlinAssert_inRange (hassert hb9)]
  simp only [bind, Except.bind, pure, Except.pure, hneg]
  by_cases hborrow : a.nanos.toInt < b.nanos.toInt
  · -- A second is borrowed. The nanoseconds do not wrap, but the seconds may.
    have hsum : (a.nanos - b.nanos + 1000000000).toInt
        = a.nanos.toInt - b.nanos.toInt + 10 ^ 9 := by
      rw [Int32.toInt_add, hnanos, hsecond, Int.bmod_eq_of_le (by omega) (by omega)]
    have hone : (1 : Int64).toInt = 1 := by decide
    simp only [if_pos hborrow]
    rw [hsum, Int.tdiv_eq_ediv_of_nonneg (by omega)]
    refine ⟨(a.seconds - b.seconds - 1).toInt,
      ((a.nanos.toInt - b.nanos.toInt + 10 ^ 9) / 1000).toNat, by omega, ?_, ?_, ?_⟩
    · rw [Int.toNat_of_nonneg (by omega)]
    · rw [Int64.toInt_sub, Int64.toInt_sub, hone, Int.bmod_sub_bmod]
    · exact Int.toNat_of_nonneg (by omega)
  · simp only [if_neg hborrow]
    rw [hnanos, Int.tdiv_eq_ediv_of_nonneg (by omega)]
    refine ⟨(a.seconds - b.seconds).toInt,
      ((a.nanos.toInt - b.nanos.toInt) / 1000).toNat, by omega, ?_, ?_, ?_⟩
    · rw [Int.toNat_of_nonneg (by omega)]
    · exact Int64.toInt_sub ..
    · exact Int.toNat_of_nonneg (by omega)

/-- The numeral can be the difference: it is not negative, or the rest has no microseconds and
the seconds fit in a `Long` after a second was moved. -/
def PrintsDifference (a b : Timestamp) : Prop :=
  let nanos := a.toNanos - b.toNanos
  0 ≤ nanos ∨ nanos % 10 ^ 9 < 1000 ∧ -2 ^ 63 * 10 ^ 9 ≤ nanos

/-- The number that is printed: the seconds and the microseconds side by side, so that the
sign of the seconds counts for both. -/
def printedMicros (z : Int) (n : Nat) : Int := 1000000 * z + (if z < 0 then -1 else 1) * (n : Int)

/-- The text stands for the number that its two parts are, so it is right exactly when that number
is. -/
theorem printsRounded_iff_printedMicros {a b : Timestamp} {z : Int} {n : Nat}
    (hn : n < 1000000) (htext : printFormattedTimeDiff a b = .ok (toString z ++ "." ++ sixDigits n))
    (d : Direction) :
    PrintsRounded d a b ↔ printedMicros z n = d.round (a.toNanos - b.toNanos) := by
  have hread : Numeral.read 6 (toString z ++ "." ++ sixDigits n) = some (printedMicros z n) :=
    read_sixDigits z hn
  unfold PrintsRounded
  rw [htext]
  constructor
  · intro h
    obtain ⟨text, hsame, hvalue⟩ := h
    obtain rfl := Except.ok.inj hsame
    rw [hread] at hvalue
    exact Option.some.inj hvalue
  · intro h
    exact ⟨_, rfl, by rw [hread, h]⟩

/-- The difference of two timestamps in nanoseconds, by their seconds and nanoseconds. -/
theorem toNanos_sub (a b : Timestamp) :
    a.toNanos - b.toNanos = (a.seconds.toInt - b.seconds.toInt) * 10 ^ 9
      + (a.nanos.toInt - b.nanos.toInt) := by
  unfold Timestamp.toNanos
  omega

/-- The printed number is the difference, rounded down, or neither of its two neighbours. -/
theorem printedMicros_cases {a b : Timestamp} (ha : a.Normal) (hb : b.Normal)
    (hmin : -2 ^ 63 ≤ a.seconds.toInt - b.seconds.toInt)
    (hmax : a.seconds.toInt - b.seconds.toInt < 2 ^ 63) {z : Int} {n : Nat}
    (hcases : if a.nanos.toInt < b.nanos.toInt then
        z = (a.seconds.toInt - b.seconds.toInt - 1).bmod (2 ^ 64) ∧
          (n : Int) = (a.nanos.toInt - b.nanos.toInt + 10 ^ 9) / 1000
      else
        z = (a.seconds.toInt - b.seconds.toInt).bmod (2 ^ 64) ∧
          (n : Int) = (a.nanos.toInt - b.nanos.toInt) / 1000) :
    PrintsDifference a b ∧ printedMicros z n = (a.toNanos - b.toNanos) / 1000 ∨
      ¬ PrintsDifference a b ∧ printedMicros z n ≠ (a.toNanos - b.toNanos) / 1000 ∧
        printedMicros z n ≠ (a.toNanos - b.toNanos) / 1000 + 1 := by
  obtain ⟨ha0, ha9⟩ := ha
  obtain ⟨hb0, hb9⟩ := hb
  unfold PrintsDifference printedMicros
  rw [toNanos_sub]
  generalize a.seconds.toInt - b.seconds.toInt = seconds at hmin hmax hcases
  generalize a.nanos.toInt = nanosA at ha0 ha9 hcases
  generalize b.nanos.toInt = nanosB at hb0 hb9 hcases
  by_cases hborrow : nanosA < nanosB
  · -- A second is moved. If the seconds are then negative, the numeral is off.
    rw [if_pos hborrow] at hcases
    obtain ⟨hz, hmicros⟩ := hcases
    by_cases hwrap : seconds = -2 ^ 63
    · -- The seconds underflow, and the numeral is positive.
      have hmost : z = 2 ^ 63 - 1 := by
        rw [hz, hwrap]
        decide
      rw [if_neg (by omega)]
      omega
    · rw [Int.bmod_eq_of_le (by omega) (by omega)] at hz
      split <;> omega
  · rw [if_neg hborrow] at hcases
    obtain ⟨hz, hmicros⟩ := hcases
    rw [Int.bmod_eq_of_le (by omega) (by omega)] at hz
    split <;> omega

/-- A numeral for two timestamps is their difference, rounded down, when `PrintsDifference`
holds. Otherwise it is the difference in no way of rounding. -/
theorem printsRounded_iff {a b : Timestamp} (ha : a.Normal) (hb : b.Normal)
    (hmin : -2 ^ 63 ≤ a.seconds.toInt - b.seconds.toInt)
    (hmax : a.seconds.toInt - b.seconds.toInt < 2 ^ 63) :
    (PrintsRounded .down a b ↔ PrintsDifference a b) ∧
      ∀ d, PrintsRounded d a b → PrintsDifference a b := by
  obtain ⟨z, n, hn, htext, hcases⟩ := printFormattedTimeDiff_eq ha hb
  have hprints := printsRounded_iff_printedMicros hn htext
  cases printedMicros_cases ha hb hmin hmax hcases with
  | inl hsame =>
      obtain ⟨hcond, heq⟩ := hsame
      exact ⟨⟨fun _ => hcond, fun _ => (hprints .down).mpr heq⟩, fun _ _ => hcond⟩
  | inr hother =>
      obtain ⟨hcond, hlow, hhigh⟩ := hother
      -- Every way of rounding gives one of the two neighbours.
      have hnone (d : Direction) : ¬ PrintsRounded d a b := by
        intro h
        have hbounds := round_bounds d (a.toNanos - b.toNanos)
        have heq := (hprints d).mp h
        omega
      exact ⟨⟨fun h => absurd h (hnone .down), fun h => absurd h hcond⟩,
        fun d h => absurd h (hnone d)⟩

/-- An entry a second and twenty microseconds after the first one. -/
theorem printsRounded_later :
    (PrintsRounded .down ⟨8, 20300⟩ ⟨7, 0⟩ ↔ PrintsDifference ⟨8, 20300⟩ ⟨7, 0⟩) ∧
      ∀ d, PrintsRounded d ⟨8, 20300⟩ ⟨7, 0⟩ → PrintsDifference ⟨8, 20300⟩ ⟨7, 0⟩ :=
  printsRounded_iff ⟨by decide, by decide⟩ ⟨by decide, by decide⟩ (by decide) (by decide)

/-- An entry half a second before the first one is printed with the offset `-1.500000`. -/
theorem not_printsRounded_earlier : ¬ ∃ d, PrintsRounded d ⟨0, 500000000⟩ ⟨1, 0⟩ := by
  intro h
  obtain ⟨d, text, htext, hread⟩ := h
  have hprinted : printFormattedTimeDiff ⟨0, 500000000⟩ ⟨1, 0⟩ = .ok "-1.500000" := by
    decide +kernel
  rw [hprinted] at htext
  obtain rfl := Except.ok.inj htext
  have hvalue : Numeral.read 6 "-1.500000" = some (-1500000) := by decide +kernel
  rw [hvalue] at hread
  have hround : Direction.round d (-500000000) = -1500000 := by
    have hnanos : Timestamp.toNanos ⟨0, 500000000⟩ - Timestamp.toNanos ⟨1, 0⟩ = -500000000 := by
      decide +kernel
    rw [hnanos] at hread
    exact (Option.some.inj hread).symm
  cases d with
  | down => exact absurd hround (by decide)
  | up => exact absurd hround (by decide)
  | towardsZero => exact absurd hround (by decide)
  | awayFromZero => exact absurd hround (by decide)

end Tox4j.Log
