import Tox4j.Log.Fetching

/-!
# `Tox4j.Log.Lines`: how many lines the log has as text

The printer writes strings as they are (`Tox4j.Log.Newlines`), so a text with a newline that a call
logs makes a line more. A text that is not UTF-8 makes Kotlin lose the whole log, and then there is
no line at all. `oneLinePerEntry_iff` says that there is nothing else: a log that was fetched is
printed with one line for each of its entries exactly when its bytes fit into an array and every
text that its calls log as it is is one line of UTF-8.
-/

set_option autoImplicit false

namespace Tox4j.Log

open Tox4j.Lib Tox4j.Lib.Proto3

/-- The text is one line of UTF-8. -/
def IsLine (text : Bytes) : Prop := ReadAs (fun s => newlines s = 0) text

/-- `toString` of what Kotlin gets of the log has as many newlines as the log has entries. -/
def OneLinePerEntry (limit : Nat) (log : List (JniLogEntry Bytes)) : Prop :=
  ∃ kotlin text, readLog limit log = .ok kotlin ∧ printLog kotlin = .ok text ∧
    newlines text = log.length

variable {Tid : Type} {names : FuncNames} {records : List (Record Tid)}
  {log : List (JniLogEntry Bytes)} {limit : Nat}

/-- Names that are printed on one line: an address is a number. -/
theorem newlines_name {r : Record Tid} {entry : JniLogEntry Bytes}
    (hnames : ∀ p ∈ names, newlines p.2 = 0) (h : Carries names r entry) :
    newlines entry.name = 0 := by
  have hrecorded : newlines r.name = 0 := by
    cases h.recorded with
    | inl haddress =>
        rw [haddress]
        exact newlines_repr _
    | inr hregistered => exact hnames _ hregistered
  cases h.name with
  | inl hsame => rw [hsame, hrecorded]
  | inr hfound => exact hnames _ hfound.2

/-- Decoding keeps the timestamps, so those of a run pass the assert of the printer. -/
theorem inRange_of_decodeLog {kotlin : List (JniLogEntry String)}
    (hkotlin : decodeLog log = some kotlin)
    (hstamps : ∀ r ∈ records, ∃ count, r.call.timestamp = .ofNanos count)
    (h : List.Forall₂ (Carries names) records log) :
    ∀ entry ∈ kotlin, InRange (entry.timestamp.getD .default) := by
  intro entry' hmem
  obtain ⟨entry, hentry, hdecode⟩ := exists_of_forall₂ (mapM_eq_some_iff.mp hkotlin) hmem
  obtain ⟨r, hr, hcarries⟩ := exists_of_forall₂ h hentry
  obtain ⟨arguments, -, hdecode⟩ := Option.bind_eq_some_iff.mp hdecode
  obtain ⟨result, -, hdecode⟩ := Option.bind_eq_some_iff.mp hdecode
  cases hdecode
  obtain ⟨count, hcount⟩ := hstamps r hr
  show InRange (entry.timestamp.getD .default)
  rw [hcarries.timestamp, hcount]
  exact inRange_ofNanos count

/-- A log that is lost has no line. -/
theorem not_oneLinePerEntry_of_lost (hlost : readLog limit log = .ok []) (hne : log ≠ []) :
    ¬ OneLinePerEntry limit log := by
  rintro ⟨kotlin, text, hread, htext, hcount⟩
  obtain rfl := Except.ok.inj (hlost.symm.trans hread)
  obtain rfl := Except.ok.inj htext
  exact hne (List.length_eq_zero_iff.mp hcount.symm)

/-- A log that Kotlin reads has one line for each entry when no string in it has a newline. -/
theorem oneLinePerEntry_of_read {kotlin : List (JniLogEntry String)}
    (hread : readLog limit log = .ok kotlin) (hlength : kotlin.length = log.length)
    (hrange : ∀ entry ∈ kotlin, InRange (entry.timestamp.getD .default)) :
    OneLinePerEntry limit log ↔ ∀ entry ∈ kotlin, ∀ s ∈ entry.strings, newlines s = 0 := by
  obtain ⟨text, htext, hcount⟩ := newlines_printLog hrange
  have hnone : newlinesOf (kotlin.flatMap JniLogEntry.strings) = 0 ↔
      ∀ entry ∈ kotlin, ∀ s ∈ entry.strings, newlines s = 0 := by
    rw [newlinesOf_eq_zero]
    simp only [List.mem_flatMap, forall_exists_index, and_imp]
    exact ⟨fun h entry hentry s => h s entry hentry, fun h s entry hentry => h entry hentry s⟩
  rw [← hnone]
  constructor
  · rintro ⟨kotlin', text', hread', htext', hcount'⟩
    obtain rfl := Except.ok.inj (hread.symm.trans hread')
    obtain rfl := Except.ok.inj (htext.symm.trans htext')
    omega
  · intro hzero
    exact ⟨kotlin, text, hread, htext, by omega⟩

/-- The log of some records has one line for each entry when its bytes fit into an array and each
text of its calls is a line, and only then. -/
theorem oneLinePerEntry_iff_records (hlimit : 5 ≤ limit) (hnames : ∀ p ∈ names, newlines p.2 = 0)
    (hstamps : ∀ r ∈ records, ∃ count, r.call.timestamp = .ofNanos count)
    (h : List.Forall₂ (Carries names) records log) :
    OneLinePerEntry limit log ↔ (serializeLog log).length < 2 ^ 31 ∧
      ∀ r ∈ records, ∀ text ∈ r.call.texts, IsLine text := by
  have hfetched := fetched_of_carries hlimit h
  by_cases hsize : (serializeLog log).length < 2 ^ 31
  · by_cases htexts : Readable records
    · -- Kotlin reads the log.
      obtain ⟨kotlin, hkotlin, hread⟩ := hfetched.read hsize htexts
      have hlength : kotlin.length = log.length := (mapM_eq_some_iff.mp hkotlin).length_eq.symm
      have hentryNames : ∀ entry ∈ log, newlines entry.name = 0 := by
        intro entry hentry
        obtain ⟨r, -, hcarries⟩ := exists_of_forall₂ h hentry
        exact newlines_name hnames hcarries
      have hlines := exists_decodeLog_iff (P := fun s => newlines s = 0) (fun _ hs => hs)
        hentryNames h
      rw [oneLinePerEntry_of_read hread hlength (inRange_of_decodeLog hkotlin hstamps h)]
      constructor
      · intro hstrings
        exact ⟨hsize, hlines.mp ⟨kotlin, hkotlin, hstrings⟩⟩
      · rintro ⟨-, hall⟩
        obtain ⟨kotlin', hkotlin', hstrings⟩ := hlines.mpr hall
        obtain rfl := Option.some.inj (hkotlin.symm.trans hkotlin')
        exact hstrings
    · -- Kotlin reads the empty log.
      have hne : log ≠ [] := by
        rintro rfl
        rw [List.forall₂_nil_right_iff.mp h] at htexts
        exact htexts fun r hr => absurd hr List.not_mem_nil
      refine iff_of_false (not_oneLinePerEntry_of_lost (hfetched.lost hsize htexts) hne) ?_
      rintro ⟨-, hall⟩
      refine htexts fun r hr text htext => ?_
      obtain ⟨s, hs, -⟩ := hall r hr text htext
      exact ⟨s, hs⟩
  · refine iff_of_false ?_ fun hc => hsize hc.1
    by_cases hends : 2 ^ 31 ≤ (serializeLog log).length % 2 ^ 32
    · -- The process ends.
      rintro ⟨kotlin, text, hread, -⟩
      exact absurd ((hfetched.ends hends).symm.trans hread) (by simp)
    · have hne : log ≠ [] := by
        rintro rfl
        exact hsize (by decide)
      exact not_oneLinePerEntry_of_lost (hfetched.tooLarge (by omega) (by omega)) hne

variable [DecidableEq Tid]

/-- In every run, the logs that were fetched have the entries of the first records of the journal,
log by log. A log is printed with one line for each entry when its bytes fit into an array and every
text that a call of its records logs as it is is one line of UTF-8, and only then. The names of
functions are tokens of the source, and `print_result` writes the timestamps. -/
theorem oneLinePerEntry_iff {maxSize : Nat} {s : State Tid} {ls : List (Tid × Option Event)}
    (run : (logging maxSize).Run s ls) (hlimit : 5 ≤ limit)
    (hnames : ∀ p ∈ s.names, newlines p.2 = 0)
    (hstamps : ∀ r ∈ (journal ls).records, ∃ count, r.call.timestamp = .ofNanos count) :
    ∃ logs : List (List (Record Tid)), logs.flatten <+: (journal ls).records ∧
      List.Forall₂
        (fun records log => List.Forall₂ (Carries s.names) records log ∧
          (OneLinePerEntry limit log ↔ (serializeLog log).length < 2 ^ 31 ∧
            ∀ r ∈ records, ∀ text ∈ r.call.texts, IsLine text))
        logs s.fetched := by
  obtain ⟨logs, hbegins, -, hall⟩ := records_of_fetched run
  refine ⟨logs, hbegins, ?_⟩
  rw [List.forall₂_iff_get] at hall ⊢
  obtain ⟨hlength, hall⟩ := hall
  refine ⟨hlength, fun i hi hi' => ⟨hall i hi hi', ?_⟩⟩
  refine oneLinePerEntry_iff_records hlimit hnames ?_ (hall i hi hi')
  intro r hr
  exact hstamps r (hbegins.subset (List.mem_flatten_of_mem (List.get_mem ..) hr))

/-! ### Fetched logs -/

section Example

/-- A bootstrap call with the address `tox.example` and a newline after it. -/
def newlineCall : Call where
  func := 18
  args := [.cString (some (utf8 "tox.example\n"))]
  instanceNumber := some 1
  result := .int 0
  timestamp := .ofNanos 7
  elapsedNanos := 9

/-- A call is logged, and the log is fetched. -/
def oneCall (c : Call) : List (Fin 1 × Action) :=
  (0, .call c) :: steps 0 10 ++ (0, .lastLog) :: steps 0 6

/-- Two fetched logs: that of a call with the address `localhost`, which is one line, and that of
the call with a newline, which is two. -/
theorem oneLinePerEntry_twoCalls :
    ∃ s ls, System.perform State.next (.initial 1) (oneCall bootstrapCall ++ oneCall newlineCall) =
        some (ls, s) ∧
      s.fetched.map (fun log => (readLog 100 log).map printLog) =
        [.ok (.ok "[0.000000] 7(localhost, 33445) = 1 [40ns ns, #2]\n"),
          .ok (.ok "[0.000000] 18(tox.example\n) = 0 [9ns ns, #1]\n")] ∧
      ∃ logs : List (List (Record (Fin 1))), logs.flatten <+: (journal ls).records ∧
        List.Forall₂
          (fun records log => List.Forall₂ (Carries s.names) records log ∧
            (OneLinePerEntry 100 log ↔ (serializeLog log).length < 2 ^ 31 ∧
              ∀ r ∈ records, ∀ text ∈ r.call.texts, IsLine text))
          logs s.fetched := by
  obtain ⟨⟨ls, s⟩, hrun⟩ := Option.isSome_iff_exists.mp
    (show (System.perform State.next (.initial 1)
      (oneCall bootstrapCall ++ oneCall newlineCall)).isSome = true by decide +kernel)
  have hfacts : ((System.perform State.next (.initial 1)
      (oneCall bootstrapCall ++ oneCall newlineCall)).map fun p =>
        (p.2.fetched.map fun log => (readLog 100 log).map printLog, p.2.names,
          (journal p.1).records.map fun r => r.call.timestamp)) =
      some ([.ok (.ok "[0.000000] 7(localhost, 33445) = 1 [40ns ns, #2]\n"),
        .ok (.ok "[0.000000] 18(tox.example\n) = 0 [9ns ns, #1]\n")], [],
        [.ofNanos 7000000500, .ofNanos 7]) := by
    decide +kernel
  rw [hrun, Option.map_some, Option.some.injEq, Prod.mk.injEq, Prod.mk.injEq] at hfacts
  obtain ⟨hprinted, hnames, hstamps⟩ := hfacts
  refine ⟨s, ls, hrun, hprinted, oneLinePerEntry_iff (run_perform hrun) (by decide) ?_ ?_⟩
  · intro p hp
    rw [hnames] at hp
    exact absurd hp List.not_mem_nil
  · intro r hr
    have hmem : r.call.timestamp ∈ (journal ls).records.map fun r => r.call.timestamp :=
      List.mem_map_of_mem hr
    rw [hstamps, List.mem_cons, List.mem_singleton] at hmem
    rcases hmem with hmem | hmem
    · exact ⟨7000000500, hmem⟩
    · exact ⟨7, hmem⟩

/-- In this run the log with one entry is printed on two lines. -/
theorem not_oneLinePerEntry :
    ¬ ∀ (s : State (Fin 1)) (ls : List (Fin 1 × Option Event)), (logging 1).Run s ls →
      (∀ p ∈ s.names, newlines p.2 = 0) →
      (∀ r ∈ (journal ls).records, ∃ count, r.call.timestamp = .ofNanos count) →
      ∀ log ∈ s.fetched, OneLinePerEntry 100 log := by
  intro hall
  obtain ⟨⟨ls, s⟩, hrun⟩ := Option.isSome_iff_exists.mp
    (show (System.perform State.next (.initial 1) (oneCall newlineCall)).isSome = true by
      decide +kernel)
  have hprinted : ((System.perform State.next (.initial 1) (oneCall newlineCall)).map fun p =>
      p.2.fetched.map fun log => (readLog 100 log).map printLog) =
      some [.ok (.ok "[0.000000] 18(tox.example\n) = 0 [9ns ns, #1]\n")] := by
    decide +kernel
  have hfacts : ((System.perform State.next (.initial 1) (oneCall newlineCall)).map fun p =>
      (p.2.fetched.map List.length, p.2.names,
        (journal p.1).records.map fun r => r.call.timestamp)) =
      some ([1], [], [.ofNanos 7]) := by
    decide +kernel
  rw [hrun, Option.map_some, Option.some.injEq] at hprinted
  rw [hrun, Option.map_some, Option.some.injEq, Prod.mk.injEq, Prod.mk.injEq] at hfacts
  obtain ⟨hlength, hnames, hstamps⟩ := hfacts
  obtain ⟨log, hlog, hprinted⟩ := List.map_eq_singleton_iff.mp hprinted
  rw [hlog, List.map_singleton, List.cons.injEq] at hlength
  have hline := hall s ls (run_perform hrun)
    (fun p hp => absurd (hnames ▸ hp) List.not_mem_nil)
    (fun r hr => ⟨7, List.mem_singleton.mp (hstamps ▸ List.mem_map_of_mem hr)⟩) log
    (by rw [hlog]; exact List.mem_singleton_self log)
  obtain ⟨kotlin, text, hread, htext, hcount⟩ := hline
  rw [hread] at hprinted
  obtain rfl : text = "[0.000000] 18(tox.example\n) = 0 [9ns ns, #1]\n" :=
    Except.ok.inj (htext.symm.trans (Except.ok.inj hprinted))
  rw [hlength.1] at hcount
  exact absurd hcount (by decide +kernel)

end Example

end Tox4j.Log
