import Tox4j.Log.Print

/-!
# `Tox4j.Log.Newlines`: the newlines that the printer writes

The printer writes strings as they are, and everything else that it writes has no newline but the
one after each entry. `newlines_printLog` counts the newlines of a log: one for each entry, and
those of the strings in it.
-/

set_option autoImplicit false

namespace Tox4j.Log

/-! ### Newlines -/

/-- The number of newlines in a text. -/
def newlines (text : String) : Nat := text.toList.count '\n'

/-- The newlines of several texts. -/
def newlinesOf (texts : List String) : Nat := (texts.map newlines).sum

/-- The newlines of a text are those of its parts. -/
@[simp] theorem newlines_append (x y : String) : newlines (x ++ y) = newlines x + newlines y := by
  unfold newlines
  rw [String.toList_append, List.count_append]

/-- No texts have no newlines. -/
@[simp] theorem newlinesOf_nil : newlinesOf [] = 0 := rfl

/-- The newlines of the first text, and those of the others. -/
@[simp] theorem newlinesOf_cons (text : String) (texts : List String) :
    newlinesOf (text :: texts) = newlines text + newlinesOf texts := rfl

/-- The newlines of two lists of texts. -/
@[simp] theorem newlinesOf_append (xs ys : List String) :
    newlinesOf (xs ++ ys) = newlinesOf xs + newlinesOf ys := by
  unfold newlinesOf
  rw [List.map_append, List.sum_append]

/-- Texts have no newline exactly when none of them has one. -/
theorem newlinesOf_eq_zero {texts : List String} :
    newlinesOf texts = 0 ↔ ∀ text ∈ texts, newlines text = 0 := by
  unfold newlinesOf
  rw [List.sum_eq_zero_iff_forall_eq_nat]
  exact List.forall_mem_map

/-- A text without a newline does not have that character. -/
theorem newlines_eq_zero {text : String} : newlines text = 0 ↔ '\n' ∉ text.toList :=
  List.count_eq_zero

/-- A decimal number has no newline. -/
@[simp] theorem newlines_repr (n : Nat) : newlines n.repr = 0 := by
  rw [newlines_eq_zero, Nat.toList_repr]
  intro hmem
  have hdigit := Nat.isDigit_of_mem_toDigits (b := 10) (by decide) (by decide) hmem
  exact absurd hdigit (by decide)

/-- A natural number is printed without a newline. -/
@[simp] theorem newlines_toString_nat (n : Nat) : newlines (toString n) = 0 := newlines_repr n

/-- An integer is printed without a newline. Its sign is not one. -/
@[simp] theorem newlines_toString_int (z : Int) : newlines (toString z) = 0 := by
  rw [Int.toString_eq_repr, Int.repr_eq_if]
  split
  · exact newlines_repr _
  · rw [newlines_append, newlines_repr]
    rfl

/-! ### Values -/

mutual

/-- The strings in a value, with the names of members. -/
def Value.strings : Value String → List String
  | ⟨_, v⟩ => kindStrings v

/-- The strings in the oneof of a value. -/
def kindStrings : ValueKind String (List (String × Value String)) → List String
  | .vString v => [v]
  | .vObject members => memberStrings members
  | _ => []

/-- The strings in the members of an object. -/
def memberStrings : List (String × Value String) → List String
  | [] => []
  | member :: rest => memberString member ++ memberStrings rest

/-- The strings in a member. -/
def memberString : String × Value String → List String
  | (name, value) => name :: value.strings

end

mutual

/-- Only the strings of a value have newlines when it is printed. -/
theorem newlines_printValue : ∀ value, newlines (printValue value) = newlinesOf value.strings
  | ⟨truncated, v⟩ => by
      rw [printValue, Value.strings]
      exact newlines_printKind truncated v

/-- What is printed of a value has the newlines of the strings in it. A number, a boolean and the
bytes of an array have none. -/
theorem newlines_printKind (truncated : UInt32) :
    ∀ v, newlines (printKind truncated v) = newlinesOf (kindStrings v)
  | .notSet => by
      rw [printKind, kindStrings]
      · rfl
      · exact nofun
      · exact nofun
  | .vSint64 v => by
      rw [printKind, kindStrings]
      · exact newlines_toString_int _
      · exact nofun
      · exact nofun
  | .vString v => by
      rw [printKind, kindStrings]
      rfl
  | .vBytes v => by
      rw [printKind, kindStrings]
      · have hlength : newlines (if truncated = 0 then toString v.length
            else toString truncated.toInt32.toInt) = 0 := by
          split
          · exact newlines_toString_nat _
          · exact newlines_toString_int _
        rw [newlines_append, newlines_append, hlength]
        rfl
      · exact nofun
      · exact nofun
  | .vObject members => by
      rw [printKind, kindStrings, newlines_append, newlines_append, newlines_printMembers members]
      show 0 + newlinesOf (memberStrings members) + 0 = _
      omega

/-- The members of an object are printed with the newlines of their strings. -/
theorem newlines_printMembers :
    ∀ members, newlines (printMembers members) = newlinesOf (memberStrings members)
  | [] => by
      rw [printMembers, memberStrings]
      rfl
  | member :: rest => by
      rw [printMembers, memberStrings, newlines_append, newlinesOf_append,
        newlines_printMember member, newlines_printMoreMembers rest]

/-- The same for the members after the first one, with their commas. -/
theorem newlines_printMoreMembers :
    ∀ members, newlines (printMoreMembers members) = newlinesOf (memberStrings members)
  | [] => by
      rw [printMoreMembers, memberStrings]
      rfl
  | member :: rest => by
      rw [printMoreMembers, memberStrings, newlines_append, newlines_append, newlinesOf_append,
        newlines_printMember member, newlines_printMoreMembers rest]
      show 0 + _ + _ = _
      omega

/-- The same for one member. Its name is printed as it is. -/
theorem newlines_printMember :
    ∀ member, newlines (printMember member) = newlinesOf (memberString member)
  | (name, value) => by
      rw [printMember, memberString, newlines_append, newlines_append, newlinesOf_cons,
        newlines_printValue value]
      rfl

end

/-! ### Entries -/

/-- The strings in an entry. -/
def JniLogEntry.strings (entry : JniLogEntry String) : List String :=
  entry.name :: entry.arguments.flatMap Value.strings ++ (entry.result.getD .default).strings

/-- A list with a separator that has no newline has those of its elements. -/
theorem newlines_printDelimited {A : Type} {list : List A} {separator : String} {print : A → String}
    (hseparator : newlines separator = 0) :
    newlines (printDelimited list separator print)
      = (list.map fun item => newlines (print item)).sum := by
  cases list with
  | nil => rfl
  | cons first rest =>
      show newlines (rest.foldl (fun out item => out ++ separator ++ print item) (print first)) = _
      -- The induction is on the rest, for any text that was printed before it.
      have hrest (out : String) :
          newlines (rest.foldl (fun out item => out ++ separator ++ print item) out)
            = newlines out + (rest.map fun item => newlines (print item)).sum := by
        induction rest generalizing out with
        | nil => rfl
        | cons item rest ih =>
            rw [List.foldl_cons, ih, List.map_cons, List.sum_cons, newlines_append,
              newlines_append, hseparator]
            omega
      rw [hrest, List.map_cons, List.sum_cons]

/-- The arguments of a call are printed with the newlines of their strings. -/
theorem newlines_printArguments (arguments : List (Value String)) :
    newlines (printDelimited arguments ", " printValue)
      = newlinesOf (arguments.flatMap Value.strings) := by
  rw [newlines_printDelimited (by rfl)]
  induction arguments with
  | nil => rfl
  | cons value rest ih =>
      rw [List.map_cons, List.sum_cons, List.flatMap_cons, newlinesOf_append, ih,
        newlines_printValue]

/-- The microseconds are digits. -/
theorem newlines_sixDigits (micros : Int) : newlines (sixDigits micros) = 0 := by
  have hzeros : newlines "00000" = 0 ∧ newlines "0000" = 0 ∧ newlines "000" = 0 ∧
      newlines "00" = 0 ∧ newlines "0" = 0 ∧ newlines "" = 0 := by decide
  unfold sixDigits
  simp only [newlines_append, apply_ite newlines, hzeros, ite_self, newlines_toString_int]

/-- The time offset is printed, on one line. -/
theorem printFormattedTimeDiff_ok {a b : Timestamp} (ha : InRange a) (hb : InRange b) :
    ∃ text, printFormattedTimeDiff a b = .ok text ∧ newlines text = 0 := by
  unfold printFormattedTimeDiff
  rw [kotlinAssert_inRange ha, kotlinAssert_inRange hb]
  refine ⟨_, rfl, ?_⟩
  rw [newlines_append, newlines_append, newlines_toString_int, newlines_sixDigits]
  rfl

/-- The time that a call took is printed without a newline. -/
theorem newlines_printElapsed (elapsedNanos : UInt32) :
    newlines (printElapsed elapsedNanos) = 0 := by
  unfold printElapsed durationToString
  simp only
  split
  · split
    · rfl
    · rw [newlines_append, newlines_append, newlines_toString_int]
      rfl
  · rw [newlines_append, newlines_toString_int]
    rfl

/-- The number of an instance is printed without a newline. -/
theorem newlines_printInstance (instanceNumber : UInt32) :
    newlines (printInstance instanceNumber) = 0 := by
  unfold printInstance
  split
  · rfl
  · rw [newlines_append, newlines_toString_int]
    rfl

/-- Only the strings of an entry have newlines when it is printed. -/
theorem newlines_printEntry {startTime : Timestamp} {entry : JniLogEntry String}
    (hstart : InRange startTime) (hentry : InRange (entry.timestamp.getD .default)) :
    ∃ text, printEntry startTime entry = .ok text ∧ newlines text = newlinesOf entry.strings := by
  obtain ⟨timeDiff, hdiff, hnone⟩ := printFormattedTimeDiff_ok hentry hstart
  unfold printEntry printEntryWith
  rw [hdiff]
  refine ⟨_, rfl, ?_⟩
  simp only [newlines_append, hnone, newlines_printArguments, newlines_printValue,
    newlines_printElapsed, newlines_printInstance, JniLogEntry.strings, newlinesOf_append,
    newlinesOf_cons, List.cons_append]
  have hbracket : newlines "[" = 0 ∧ newlines "] " = 0 ∧ newlines "(" = 0 ∧
      newlines ") = " = 0 ∧ newlines " [" = 0 ∧ newlines "]" = 0 := by decide
  omega

/-- The text of a log has a newline for each entry, and those of the strings in it. -/
theorem newlines_printLog {log : List (JniLogEntry String)}
    (h : ∀ entry ∈ log, InRange (entry.timestamp.getD .default)) :
    ∃ text, printLog log = .ok text ∧
      newlines text = log.length + newlinesOf (log.flatMap JniLogEntry.strings) := by
  cases log with
  | nil => exact ⟨"", rfl, rfl⟩
  | cons first rest =>
      have hstart := h first List.mem_cons_self
      unfold printLog
      -- The induction is on the entries that are left, for any text before them.
      have hfold (entries : List (JniLogEntry String))
          (hentries : ∀ entry ∈ entries, InRange (entry.timestamp.getD .default)) (out : String) :
          ∃ text, entries.foldlM (fun out entry => do
                let text ← printEntry (first.timestamp.getD .default) entry
                return out ++ text ++ "\n") out = .ok text ∧
              newlines text = newlines out + entries.length
                + newlinesOf (entries.flatMap JniLogEntry.strings) := by
        induction entries generalizing out with
        | nil => exact ⟨out, rfl, rfl⟩
        | cons entry entries ih =>
            obtain ⟨line, hline, hcount⟩ :=
              newlines_printEntry hstart (hentries entry List.mem_cons_self)
            obtain ⟨text, htext, htotal⟩ :=
              ih (fun e he => hentries e (List.mem_cons_of_mem entry he)) (out ++ line ++ "\n")
            refine ⟨text, ?_, ?_⟩
            · rw [List.foldlM_cons, hline]
              exact htext
            · have hnewline : newlines "\n" = 1 := by decide
              rw [htotal, newlines_append, newlines_append, hcount, hnewline, List.flatMap_cons,
                newlinesOf_append, List.length_cons]
              omega
      obtain ⟨text, htext, htotal⟩ := hfold (first :: rest) h ""
      have hempty : newlines "" = 0 := rfl
      exact ⟨text, htext, by rw [htotal, hempty, Nat.zero_add]⟩

end Tox4j.Log
