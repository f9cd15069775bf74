import Tox4j.Log.Threads

/-!
# `Tox4j.Log.Journal`: what the log should hold

The journal is the log that the history asks for, without entries, addresses, locks and
threads that wait. It has one record for each call that was granted an entry, in the order of
the grants. A record is removed when its call ends and its name is in the filter. `journal`
reads it off the labels of a run.

`Carries` says that an entry has what a record asks for: it shows the arguments, the result, the
number of the instance and the times of the call, under the name of the record up to the lookup in
`clear`. It does not mention the functions that write an entry. `Written` is the entry that they
write, and `Written.carries` says that it is one that carries its record.
-/

set_option autoImplicit false

namespace Tox4j.Log

open Tox4j.Lib
open Tox4j.Lib.Proto3 (Bytes)

/-- A call that was granted an entry. -/
structure Record (Tid : Type) where
  thread : Tid
  call : Call
  name : String
  /-- The call is in progress. -/
  isOpen : Bool

/-- The entry that the code writes for the record. -/
def Record.entry {Tid : Type} (r : Record Tid) : JniLogEntry Bytes where
  name := r.name
  instanceNumber := match r.call.instanceNumber with
    | some n => n.toUInt32
    | none => 0
  arguments := r.call.args.map printArg
  result := some (printArg r.call.result)
  timestamp := some r.call.timestamp
  elapsedNanos := r.call.elapsedNanos

/-- The log of the calls that were granted an entry, with what the history says about names and
filters. -/
structure Journal (Tid : Type) where
  names : FuncNames
  filters : List String
  records : List (Record Tid)

/-- The name of an entry is that of its record. It may be another one when the record has the
address of its function for a name: the function got a name before the log was fetched. -/
def Record.Named {Tid : Type} (names : FuncNames) (r : Record Tid) (name : String) : Prop :=
  name = r.name ∨ r.name = printPointer r.call.func ∧ (r.call.func, name) ∈ names

/-- The entry carries what the call of the record was: its own name, arguments, result, instance
number and times. -/
structure Carries {Tid : Type} (names : FuncNames) (r : Record Tid) (entry : JniLogEntry Bytes) :
    Prop where
  recorded : NameOf names r.call.func r.name
  name : r.Named names entry.name
  arguments : List.Forall₂ Arg.Shows r.call.args entry.arguments
  result : ∃ value, entry.result = some value ∧ r.call.result.Shows value
  instanceNumber : entry.instanceNumber = r.call.instanceNumber.elim 0 Int32.toUInt32
  timestamp : entry.timestamp = some r.call.timestamp
  elapsedNanos : entry.elapsedNanos = r.call.elapsedNanos

/-- The entry is the one that the code writes for the record, under a name of the record. -/
def Written {Tid : Type} (names : FuncNames) (r : Record Tid) (entry : JniLogEntry Bytes) : Prop :=
  NameOf names r.call.func r.name ∧
    ∃ name, entry = { r.entry with name := name } ∧ r.Named names name

variable {Tid : Type}

/-- Functions that get a name later on take none away, so a written entry stays one. -/
theorem Written.mono {names names' : FuncNames} {r : Record Tid} {entry : JniLogEntry Bytes}
    (h : Written names r entry) (hsub : ∀ p ∈ names, p ∈ names') : Written names' r entry := by
  obtain ⟨hname, name, hentry, hlookup⟩ := h
  exact ⟨hname.mono hsub, name, hentry, hlookup.imp_right fun h => ⟨h.1, hsub _ h.2⟩⟩

/-- An entry that was written to the end is that of its record. -/
theorem written_entry {names : FuncNames} {r : Record Tid}
    (hname : NameOf names r.call.func r.name) : Written names r r.entry :=
  ⟨hname, r.name, rfl, .inl rfl⟩

/-- What the code writes carries the call. Each argument is shown, in the order of the call. -/
theorem Written.carries {names : FuncNames} {r : Record Tid} {entry : JniLogEntry Bytes}
    (h : Written names r entry) : Carries names r entry := by
  obtain ⟨hname, name, rfl, hlookup⟩ := h
  refine ⟨hname, hlookup, ?_, ⟨_, rfl, shows_printArg r.call.result⟩, ?_, rfl, rfl⟩
  · show List.Forall₂ Arg.Shows r.call.args (r.call.args.map printArg)
    rw [List.forall₂_map_right_iff, List.forall₂_same]
    exact fun arg _ => shows_printArg arg
  · show r.entry.instanceNumber = _
    unfold Record.entry
    cases r.call.instanceNumber <;> rfl

/-- The lookup in `clear` succeeds, and the entry remains that of its record. -/
theorem updateName_entry {names : FuncNames} {r : Record Tid}
    (hidentifiers : ∀ p ∈ names, IsIdentifier p.2) (hname : NameOf names r.call.func r.name) :
    ∃ entry, updateName names r.entry = .ok entry ∧ Written names r entry := by
  rcases hname with haddress | hregistered
  · refine ⟨_, updateName_address haddress, .inl haddress, _, rfl, ?_⟩
    rcases nameOf_getFuncName names r.call.func with hprinted | hfound
    · exact .inl (hprinted.trans haddress.symm)
    · exact .inr ⟨haddress, hfound⟩
  · exact ⟨r.entry, updateName_registered (hidentifiers _ hregistered),
      written_entry (.inr hregistered)⟩

/-- The lookup in `clear`, on all entries. -/
theorem mapM_updateName {names : FuncNames} (hidentifiers : ∀ p ∈ names, IsIdentifier p.2)
    {records : List (Record Tid)} (h : ∀ r ∈ records, NameOf names r.call.func r.name) :
    ∃ entries, (records.map Record.entry).mapM (updateName names) = .ok entries ∧
      List.Forall₂ (Written names) records entries := by
  induction records with
  | nil => exact ⟨[], rfl, .nil⟩
  | cons r records ih =>
      obtain ⟨entry, hentry, hwritten⟩ := updateName_entry hidentifiers (h r List.mem_cons_self)
      obtain ⟨entries, hentries, hall⟩ := ih fun r' hr' => h r' (List.mem_cons_of_mem r hr')
      refine ⟨entry :: entries, ?_, .cons hwritten hall⟩
      rw [List.map_cons, List.mapM_cons, hentry, hentries]
      rfl

variable [DecidableEq Tid]

/-- The record is of a call in progress on the thread `t`. -/
def Record.openOf (t : Tid) (r : Record Tid) : Bool := r.isOpen && r.thread == t

namespace Journal

/-- An event of the thread `t`. Its innermost call in progress is the one granted last. -/
def record (j : Journal Tid) (t : Tid) : Event → Journal Tid
  | .registered func name => { j with names := j.names ++ [(func, name)] }
  | .filtered filters => { j with filters := filters }
  | .granted c => { j with records := j.records ++ [⟨t, c, "", true⟩] }
  | .named => { j with
      records := replaceLast (Record.openOf t)
        (fun r => [{ r with name := getFuncName j.names r.call.func }]) j.records }
  | .ended => { j with
      records := replaceLast (Record.openOf t)
        (fun r => if j.filters.contains r.name then [] else [{ r with isOpen := false }])
        j.records }

/-- One label of a run. -/
def step (j : Journal Tid) (l : Tid × Option Event) : Journal Tid :=
  match l.2 with
  | some e => j.record l.1 e
  | none => j

end Journal

/-- The journal of a history. -/
def journal (ls : List (Tid × Option Event)) : Journal Tid :=
  ls.foldl Journal.step ⟨[], [], []⟩

/-- Before the first label nothing is logged. -/
@[simp] theorem journal_nil : journal ([] : List (Tid × Option Event)) = ⟨[], [], []⟩ := rfl

/-- The journal of a longer history, from that of the history before its last label. -/
theorem journal_concat (ls : List (Tid × Option Event)) (l : Tid × Option Event) :
    journal (ls ++ [l]) = (journal ls).step l := by
  simp [journal, List.foldl_append]

end Tox4j.Log
