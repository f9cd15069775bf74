import Tox4j.Lib.AddressedList
import Tox4j.Lib.Proto3Message
import Tox4j.Native.Jni

/-!
# `Tox4j.Log.JniLog`: the data of the call log

The messages of `ProtoLog.proto`, and the parts of `util/debug_log.h` and
`util/debug_log.cpp` that read and write them: the registry of function names, and the bodies
of `new_entry`, `~Entry` and `clear` between their locking steps. `Tox4j.Log.PrintArg` has the
printing of arguments, and `Tox4j.Log.Threads` adds the locking.

A `string` field is not the same thing on both sides. In C++ it is a `std::string`, which holds
any bytes, and in Kotlin it is a `String`. So the messages have the type of their texts for a
parameter: `JniLogEntry Bytes` is what C++ writes, and `JniLogEntry String` what Kotlin reads. The
names of functions and members are literals of the source, so they are a `String` on both sides.

The repeated field of entries is a list whose elements keep their addresses, and a
`JniLog::Entry` is such an address. `clear` serialises the entries. The result here is the
list of messages itself.

`updateName_registered` and `updateName_address` are the two facts about the lookup in `clear`:
it keeps a registered name, and it turns the printed address of a function into a name of the
same function.
-/

set_option autoImplicit false

namespace Tox4j.Log

open Tox4j.Lib
open Tox4j.Lib.Proto3 (Bytes)
open Tox4j.Native (Jint Fatal)

/-- The oneof `v` of `Value`. -/
inductive ValueKind (Text Members : Type)
  | notSet
  | vSint64 (v : Int64)
  | vString (v : Text)
  | vBytes (v : Bytes)
  | vObject (members : Members)

/-- `Value`: a single argument or return value. The members of an object are values again. -/
inductive Value (Text : Type)
  | mk (truncated : UInt32) (v : ValueKind Text (List (String × Value Text)))

/-- `Timestamp`. -/
structure Timestamp where
  seconds : Int64
  nanos : Int32
  deriving DecidableEq

/-- `JniLogEntry`. The defaults are those of an entry that was just added. -/
structure JniLogEntry (Text : Type) where
  name : String := ""
  instanceNumber : UInt32 := 0
  arguments : List (Value Text) := []
  result : Option (Value Text) := none
  timestamp : Option Timestamp := none
  elapsedNanos : UInt32 := 0

/-! ### The registry of function names -/

/-- The address of a function, a `uintptr_t`. -/
abbrev FuncPointer := UInt64

/-- `func_names`. -/
abbrev FuncNames := List (FuncPointer × String)

/-- `std::to_string (func)`. -/
def printPointer (func : FuncPointer) : String := Nat.repr func.toNat

/-- `in >> pointer` on a string that starts with a digit. A number that is too large reads as
the largest value. -/
def readPointer (s : String) : FuncPointer :=
  UInt64.ofNat (min (Nat.ofDigitChars 10 (s.toList.takeWhile Char.isDigit) 0) (2 ^ 64 - 1))

/-- `get_func_name`. -/
def getFuncName (names : FuncNames) (func : FuncPointer) : String :=
  match names.lookup func with
  | some name => name
  | none => printPointer func

/-- A name of a function is an identifier, so it does not start with a digit. -/
def IsIdentifier (name : String) : Prop :=
  ∃ c cs, name.toList = c :: cs ∧ c.isDigit = false

/-! ### The log -/

/-- `JniLog::data`, less its mutex. -/
structure LogData where
  maxSize : Nat
  entries : AddressedList (JniLogEntry Bytes)
  filters : List String

/-- The update of one name in `clear`. -/
def updateName (names : FuncNames) (entry : JniLogEntry Bytes) :
    Except Fatal (JniLogEntry Bytes) :=
  match entry.name.toList with
  | [] => .error (.assertion "!entry.name ().empty ()")
  | c :: _ =>
    if c.isDigit then .ok { entry with name := getFuncName names (readPointer entry.name) }
    else .ok entry

namespace LogData

/-- The log is full. -/
def full (d : LogData) : Bool := d.maxSize ≤ d.entries.length

/-- `add_entries`, which puts the new entry at the address `a`. -/
def addEntry (d : LogData) (a : Address) : LogData :=
  { d with entries := d.entries ++ [⟨a, {}⟩] }

/-- Write to the entry at the address `a`. -/
def writeEntry (d : LogData) (a : Address) (f : JniLogEntry Bytes → JniLogEntry Bytes) :
    Except Fatal LogData :=
  match d.entries.read? a with
  | some _ => .ok { d with entries := d.entries.write a f }
  | none => .error .danglingPointer

/-- The body of `~Entry`, for the entry at the address `a`. -/
def destroyEntry (d : LogData) (a : Address) : Except Fatal LogData :=
  match d.entries.read? a with
  | some entry =>
    if d.filters.contains entry.name then
      match d.entries.searchBack a with
      | some found =>
        .ok { d with entries := d.entries.eraseIdx (d.entries.length - found - 1) }
      | none => .error (.assertion "found != entries->rend ()")
    else .ok d
  | none => .error .danglingPointer

/-- The body of `clear`, with the entries that it serialises. -/
def clear (d : LogData) (names : FuncNames) :
    Except Fatal (LogData × List (JniLogEntry Bytes)) := do
  let entries ← (d.entries.map Cell.value).mapM (updateName names)
  return ({ d with entries := [] }, entries)

end LogData

/-! ### Names -/

/-- `name` is printed for the function `func`: its address, or its registered name. -/
def NameOf (names : FuncNames) (func : FuncPointer) (name : String) : Prop :=
  name = printPointer func ∨ (func, name) ∈ names

variable {names : FuncNames} {func : FuncPointer} {name : String}

/-- A name stays one of the function when more functions have a name. -/
theorem NameOf.mono {names' : FuncNames} (h : NameOf names func name)
    (hsub : ∀ p ∈ names, p ∈ names') : NameOf names' func name :=
  h.imp_right (hsub _)

/-- What the log writes for a function is one of its names. -/
theorem nameOf_getFuncName (names : FuncNames) (func : FuncPointer) :
    NameOf names func (getFuncName names func) := by
  unfold getFuncName
  split
  · rename_i name hname
    obtain ⟨before, after, heq, -⟩ := List.lookup_eq_some_iff.mp hname
    exact .inr (heq ▸ by simp)
  · exact .inl rfl

/-- The name of an unknown function is its address as a decimal number. -/
theorem toList_printPointer (func : FuncPointer) :
    (printPointer func).toList = Nat.toDigits 10 func.toNat :=
  Nat.toList_repr

/-- The address can be read back, so two unknown functions have two names. -/
theorem readPointer_printPointer (func : FuncPointer) :
    readPointer (printPointer func) = func := by
  have hdigits : (Nat.toDigits 10 func.toNat).takeWhile Char.isDigit =
      Nat.toDigits 10 func.toNat := by
    rw [List.takeWhile_eq_self_iff]
    intro c hc
    exact Nat.isDigit_of_mem_toDigits (by decide) (by decide) hc
  have hlt : func.toNat < 2 ^ 64 := func.toNat_lt
  rw [readPointer, toList_printPointer, hdigits, Nat.ofDigitChars_ten_toDigits,
    Nat.min_eq_left (by omega), UInt64.ofNat_toNat]

/-- The lookup keeps a name that is an identifier. -/
theorem updateName_registered {entry : JniLogEntry Bytes} (h : IsIdentifier entry.name) :
    updateName names entry = .ok entry := by
  obtain ⟨c, cs, hname, hc⟩ := h
  simp [updateName, hname, hc]

/-- The lookup turns the address of a function into a name of that function. -/
theorem updateName_address {entry : JniLogEntry Bytes} (h : entry.name = printPointer func) :
    updateName names entry = .ok { entry with name := getFuncName names func } := by
  have hne : Nat.toDigits 10 func.toNat ≠ [] := Nat.toDigits_ne_nil
  obtain ⟨c, cs, hcs⟩ := List.exists_cons_of_ne_nil hne
  have hc : c.isDigit = true :=
    Nat.isDigit_of_mem_toDigits (b := 10) (by decide) (by decide) (hcs ▸ List.mem_cons_self)
  simp [updateName, h, toList_printPointer, hcs, hc, readPointer_printPointer]

end Tox4j.Log
