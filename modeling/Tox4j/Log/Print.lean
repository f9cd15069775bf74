import Tox4j.Log.JniLog

/-!
# `Tox4j.Log.Print`: the log as text

The printer of `ToxJniLog.kt`. Each `print` function returns the text that the Kotlin function
writes to its `PrintWriter`.

Kotlin reads the fields of type `uint32` as signed integers. A failing `assert` throws an
`AssertionError`. The printer gets a log that was parsed, so its texts are strings.
`Tox4j.Log.Wire` says which logs are parsed.

`elapsedField` and `Timestamp.ofNanos` are the two numbers that `LogEntry::print_result` of
`util/debug_log.h` writes from the clock.
-/

set_option autoImplicit false

namespace Tox4j.Log

/-- `java.lang.AssertionError`. -/
inductive AssertionError
  | mk
  deriving DecidableEq, Repr

/-- Kotlin's `assert`. -/
def kotlinAssert (value : Bool) : Except AssertionError Unit :=
  if value then .ok () else .error .mk

/-- The default instance of `Timestamp`. -/
def Timestamp.default : Timestamp := ⟨0, 0⟩

/-- The default instance of `Value`. -/
def Value.default {Text : Type} : Value Text := ⟨0, .notSet⟩

/-! ### What `print_result` writes -/

/-- The timestamp of a point in time, in nanoseconds since the epoch. -/
def Timestamp.ofNanos (count : Int64) : Timestamp :=
  ⟨count / 1000000000, (count % 1000000000).toInt32⟩

/-- `set_elapsed_nanos` with a count of nanoseconds. -/
def elapsedField (count : Int64) : UInt32 := count.toUInt64.toUInt32

/-! ### The printer -/

/-- `printDelimited`. -/
def printDelimited {A : Type} (list : List A) (separator : String) (print : A → String) : String :=
  match list with
  | [] => ""
  | first :: rest => rest.foldl (fun out item => out ++ separator ++ print item) (print first)

/-- The part of `printFormattedTimeDiff` that prints the microseconds, with zeros before them. -/
def sixDigits (micros : Int) : String :=
  (if micros < 10 then "00000"
    else if micros < 100 then "0000"
    else if micros < 1000 then "000"
    else if micros < 10000 then "00"
    else if micros < 100000 then "0"
    else "") ++ toString micros

/-- `printFormattedTimeDiff`. -/
def printFormattedTimeDiff (a b : Timestamp) : Except AssertionError String := do
  kotlinAssert (a.nanos < 1000000000)
  kotlinAssert (b.nanos < 1000000000)
  let seconds := a.seconds - b.seconds
  let nanos := a.nanos - b.nanos
  let timeDiff : Timestamp :=
    if nanos < 0 then ⟨seconds - 1, nanos + 1000000000⟩ else ⟨seconds, nanos⟩
  -- `inWholeMicroseconds` rounds towards zero.
  let micros := timeDiff.nanos.toInt.tdiv 1000
  return toString timeDiff.seconds.toInt ++ "." ++ sixDigits micros

/-- `Duration.toString`, for a duration of less than a microsecond. -/
def durationToString (nanos : Int) : String :=
  if nanos = 0 then "0s" else toString nanos ++ "ns"

/-- The part of `print` for an entry that prints the elapsed time. -/
def printElapsed (elapsedNanos : UInt32) : String :=
  let elapsedNanos := elapsedNanos.toInt32.toInt
  let elapsedMicros := elapsedNanos.tdiv 1000
  if elapsedMicros = 0 then durationToString elapsedNanos ++ " ns"
  else toString elapsedMicros ++ " µs"

/-- The part of `print` for an entry that prints the instance number. -/
def printInstance (instanceNumber : UInt32) : String :=
  if instanceNumber = 0 then "" else ", #" ++ toString instanceNumber.toInt32.toInt

mutual

/-- `print` for a value. -/
def printValue : Value String → String
  | ⟨truncated, v⟩ => printKind truncated v

/-- The branches of `print` for a value. -/
def printKind (truncated : UInt32) : ValueKind String (List (String × Value String)) → String
  | .vBytes v =>
    "byte[" ++
      (if truncated = 0 then toString v.length else toString truncated.toInt32.toInt) ++ "]"
  | .vObject members => "\x7b" ++ printMembers members ++ "\x7d"
  | .vSint64 v => toString v.toInt
  | .vString v => v
  | .notSet => "void"

/-- `printDelimited` for the members of an object. -/
def printMembers : List (String × Value String) → String
  | [] => ""
  | member :: rest => printMember member ++ printMoreMembers rest

/-- The loop of `printDelimited`. -/
def printMoreMembers : List (String × Value String) → String
  | [] => ""
  | member :: rest => "; " ++ printMember member ++ printMoreMembers rest

/-- `print` for a member. -/
def printMember : String × Value String → String
  | (name, value) => name ++ "=" ++ printValue value

end

/-- `print` for an entry, with the text of its elapsed time. -/
def printEntryWith (startTime : Timestamp) (entry : JniLogEntry String) (elapsed : String) :
    Except AssertionError String := do
  let timeDiff ← printFormattedTimeDiff (entry.timestamp.getD .default) startTime
  return "[" ++ timeDiff ++ "] " ++ entry.name ++ "(" ++
    printDelimited entry.arguments ", " printValue ++ ") = " ++
    printValue (entry.result.getD .default) ++ " [" ++ elapsed ++
    printInstance entry.instanceNumber ++ "]"

/-- `print` for an entry. -/
def printEntry (startTime : Timestamp) (entry : JniLogEntry String) :
    Except AssertionError String :=
  printEntryWith startTime entry (printElapsed entry.elapsedNanos)

/-- `print` for a log, and `toString`. The time offsets are from the first entry. -/
def printLog (log : List (JniLogEntry String)) : Except AssertionError String :=
  match log with
  | [] => .ok ""
  | first :: _ =>
    log.foldlM
      (fun out entry => do
        let text ← printEntry (first.timestamp.getD .default) entry
        return out ++ text ++ "\n")
      ""

example :
    printLog
        [{ name := "f", instanceNumber := 1, arguments := [⟨0, .vSint64 (-5)⟩, ⟨0, .vBytes [1]⟩],
           timestamp := some ⟨7, 0⟩, elapsedNanos := 1500 },
          { name := "g", timestamp := some ⟨8, 20300⟩, elapsedNanos := 70 }]
      = .ok "[0.000000] f(-5, byte[1]) = void [1 µs, #1]\n[1.000020] g() = void [70ns ns]\n" := by
  decide +kernel

/-! ### The asserts -/

/-- The assert of `printFormattedTimeDiff` holds. -/
def InRange (t : Timestamp) : Prop := t.nanos < 1000000000

/-- It holds for the timestamps that `print_result` writes. -/
theorem inRange_ofNanos (count : Int64) : InRange (.ofNanos count) := by
  show (count % 1000000000).toInt32 < 1000000000
  have hbounds : (count.toInt.tmod 1000000000).natAbs < 1000000000 := by
    rw [Int.natAbs_tmod]
    exact Nat.mod_lt _ (by decide)
  have hsecond : (1000000000 : Int64).toInt = 1000000000 := by decide
  have hsecond' : (1000000000 : Int32).toInt = 1000000000 := by decide
  rw [Int32.lt_iff_toInt_lt, Int64.toInt_toInt32, Int64.toInt_mod, hsecond, hsecond',
    Int.bmod_eq_of_le (by omega) (by omega)]
  omega

/-- A timestamp in range passes the assert. -/
theorem kotlinAssert_inRange {t : Timestamp} (h : InRange t) :
    kotlinAssert (t.nanos < 1000000000) = .ok () := by
  have hlt : t.nanos < 1000000000 := h
  simp [kotlinAssert, hlt]

end Tox4j.Log
