import Tox4j.Lib.Pointwise
import Tox4j.Log.Journal

/-!
# `Tox4j.Log.Books`: the log agrees with the journal

`Books` is the invariant that ties the memory to the journal. The records of the journal are
those of the fetched entries, then one for each entry of the log (a `Row`). A record that is
closed has its entry written to the end. The open records of a thread are, in order, those of
its frames with an entry, and the entry has what the frame has written so far (`Matches`).

There is one lemma for each kind of step. `Books.move`: the innermost frame moves on without a
change of the log. `Books.grant`: it gets a row. `Books.write` and `Books.destroy`: its row
changes, or is removed. `Books.clear`: the log is fetched.
-/

set_option autoImplicit false

namespace Tox4j.Log

open Tox4j.Lib
open Tox4j.Lib.Proto3 (Bytes)

/-- The entry of a frame at this point. -/
def Point.entry? : Point → Option Address
  | .printFunc a | .printArgs a | .setInstanceNumber a | .printResult a | .destroy a => some a
  | .running entry => entry
  | _ => none

/-- The call of a frame that was granted an entry, with the point and the entry. -/
def Frame.granted? : Frame → Option (Call × Point × Address)
  | .call c p => p.entry?.map fun a => (c, p, a)
  | _ => none

/-- What the entry of the record has at this point. -/
def Point.written {Tid : Type} (r : Record Tid) : Point → JniLogEntry Bytes
  | .printArgs _ => { name := r.name }
  | .setInstanceNumber _ => { name := r.name, arguments := r.call.args.map printArg }
  | .running _ | .printResult _ =>
    { r.entry with result := none, timestamp := none, elapsedNanos := 0 }
  | .destroy _ => r.entry
  | _ => {}

/-- The entry has its name at this point. -/
def Point.isNamed : Point → Bool
  | .printFunc _ => false
  | _ => true

/-- A record and the entry in the log that belongs to it. -/
structure Row (Tid : Type) where
  record : Record Tid
  cell : Cell (JniLogEntry Bytes)

/-- The row is of a call in progress on the thread `t`. -/
def Row.openOf {Tid : Type} [DecidableEq Tid] (t : Tid) (row : Row Tid) : Bool :=
  row.record.openOf t

/-- The row is that of the frame. -/
structure Matches {Tid : Type} (names : FuncNames) (row : Row Tid) (g : Call × Point × Address) :
    Prop where
  call : row.record.call = g.1
  cell : row.cell = ⟨g.2.2, g.2.1.written row.record⟩
  named : g.2.1.isNamed = true → NameOf names row.record.call.func row.record.name

/-- The record is closed and its entry is complete. -/
structure Closed {Tid : Type} (names : FuncNames) (row : Row Tid) : Prop where
  value : row.cell.value = row.record.entry
  named : NameOf names row.record.call.func row.record.name

/-- The log agrees with the journal. `old` are the records of the fetched entries. -/
structure Books {Tid : Type} [DecidableEq Tid] (s : Shared Tid) (stack : Tid → List Frame)
    (j : Journal Tid) (old : List (Record Tid)) (rows : List (Row Tid)) : Prop where
  names : s.names = j.names
  filters : s.data.filters = j.filters
  records : j.records = old ++ rows.map Row.record
  entries : s.data.entries = rows.map Row.cell
  distinct : s.data.entries.Distinct
  fetched : List.Forall₂ (Written s.names) old s.fetched.flatten
  old_closed : ∀ r ∈ old, r.isOpen = false
  closed : ∀ row ∈ rows, row.record.isOpen = false → Closed s.names row
  frames : ∀ t, List.Forall₂ (Matches s.names) (rows.filter (Row.openOf t))
    ((stack t).filterMap Frame.granted?)

variable {Tid : Type}

/-- A row matches its frame also when more functions have a name. -/
theorem Matches.mono {names names' : FuncNames} {row : Row Tid} {g : Call × Point × Address}
    (h : Matches names row g) (hsub : ∀ p ∈ names, p ∈ names') : Matches names' row g :=
  ⟨h.call, h.cell, fun hnamed => (h.named hnamed).mono hsub⟩

/-- A complete entry stays complete when more functions have a name. -/
theorem Closed.mono {names names' : FuncNames} {row : Row Tid} (h : Closed names row)
    (hsub : ∀ p ∈ names, p ∈ names') : Closed names' row :=
  ⟨h.value, h.named.mono hsub⟩

/-- What the last element of a list adds, if there is a last element. -/
theorem filterMap_concat_option {α β : Type} (g : α → Option β) (rest : List α) (r : Option α) :
    (rest ++ r.toList).filterMap g = rest.filterMap g ++ (r.bind g).toList := by
  rw [List.filterMap_append]
  cases r with
  | none => rfl
  | some f => cases hf : g f <;> simp [hf]

section

variable [DecidableEq Tid] {s s' : Shared Tid} {stack : Tid → List Frame} {j j' : Journal Tid}
  {old : List (Record Tid)} {rows before after : List (Row Tid)} {row : Row Tid} {t u : Tid}
  {rest : List Frame} {f : Frame} {r : Option Frame} {g : Call × Point × Address}

/-- An open record of a thread is open. -/
theorem Record.isOpen_of_openOf {record : Record Tid} (h : record.openOf t = true) :
    record.isOpen = true := by
  simp only [Record.openOf, Bool.and_eq_true] at h
  exact h.1

/-- An open record of a thread is one of this thread. -/
theorem Record.thread_of_openOf {record : Record Tid} (h : record.openOf t = true) :
    record.thread = t := by
  simp only [Record.openOf, Bool.and_eq_true, beq_iff_eq] at h
  exact h.2

/-- An open record of a thread is not one of another thread. -/
theorem Record.openOf_eq_false {record : Record Tid} (h : record.thread = t) (hne : u ≠ t) :
    record.openOf u = false := by
  simp [Record.openOf, h, Ne.symm hne]

/-- The innermost frame of the thread moves on, and the log stays as it is. -/
theorem Books.move (h : Books s stack j old rows) (hstack : stack t = rest ++ [f])
    (hdata : s'.data = s.data) (hnames : s'.names = s.names) (hfetched : s'.fetched = s.fetched)
    (hframe : ∀ l : List (Row Tid), List.Forall₂ (Matches s.names) l f.granted?.toList →
      List.Forall₂ (Matches s.names) l (r.bind Frame.granted?).toList) :
    Books s' (Function.update stack t (rest ++ r.toList)) j old rows where
  names := hnames.trans h.names
  filters := hdata ▸ h.filters
  records := h.records
  entries := hdata ▸ h.entries
  distinct := hdata ▸ h.distinct
  fetched := by
    rw [hnames, hfetched]
    exact h.fetched
  old_closed := h.old_closed
  closed := hnames ▸ h.closed
  frames u := by
    rw [hnames]
    by_cases hu : u = t
    · subst hu
      have hframes := h.frames u
      have hconcat := filterMap_concat_option Frame.granted? rest (some f)
      rw [Option.toList_some] at hconcat
      rw [hstack, hconcat] at hframes
      obtain ⟨l₁, l₂, hl, hl₁, hl₂⟩ := forall₂_append_right hframes
      rw [Function.update_self, filterMap_concat_option, hl]
      exact List.rel_append hl₁ (hframe l₂ hl₂)
    · rw [Function.update_of_ne hu]
      exact h.frames u

/-- A row that is the last open one of its thread `t`, where the thread has the innermost frame
`g` with an entry, and the frames `rest` around it. -/
structure Innermost (names : FuncNames) (t : Tid) (rest : List Frame)
    (g : Call × Point × Address) (before : List (Row Tid)) (row : Row Tid)
    (after : List (Row Tid)) : Prop where
  isOpen : row.openOf t = true
  row : Matches names row g
  before : List.Forall₂ (Matches names) (before.filter (Row.openOf t))
    (rest.filterMap Frame.granted?)
  after : ∀ row ∈ after, row.openOf t = false

/-- The innermost frame of a thread, if it has an entry, is that of the last open record of the
thread. -/
theorem Books.innermost (h : Books s stack j old rows) (hstack : stack t = rest ++ [f])
    (hf : f.granted? = some g) :
    ∃ before row after, rows = before ++ row :: after ∧
      Innermost s.names t rest g before row after := by
  have hframes := h.frames t
  rw [hstack, List.filterMap_append, List.filterMap_cons_some hf, List.filterMap_nil] at hframes
  obtain ⟨kept, last, hfilter, hkept, hlast⟩ := forall₂_append_right hframes
  obtain ⟨row, rfl⟩ : ∃ row, last = [row] := List.length_eq_one_iff.mp hlast.length_eq
  obtain ⟨hrow, -⟩ := List.forall₂_cons.mp hlast
  obtain ⟨before, after, hrows, hopen, hafter, hbefore⟩ := exists_last_of_filter hfilter
  exact ⟨before, row, after, hrows, hopen, hrow, hbefore ▸ hkept, hafter⟩

/-- The row of the innermost frame is replaced. -/
theorem Books.replace (h : Books s stack j old (before ++ row :: after))
    (hi : Innermost s.names t rest g before row after) {new : List (Row Tid)}
    (hnames : s'.names = s.names) (hfetched : s'.fetched = s.fetched)
    (hfilters : s'.data.filters = s.data.filters)
    (hentries : s'.data.entries = (before ++ new ++ after).map Row.cell)
    (hjnames : j'.names = j.names) (hjfilters : j'.filters = j.filters)
    (hrecords : j'.records = old ++ (before ++ new ++ after).map Row.record)
    (haddress : (new.map fun row => row.cell.address).Sublist [row.cell.address])
    (hthread : ∀ row ∈ new, row.record.thread = t)
    (hclosed : ∀ row ∈ new, row.record.isOpen = false → Closed s.names row)
    (hframe : List.Forall₂ (Matches s.names) (new.filter (Row.openOf t))
      (r.bind Frame.granted?).toList) :
    Books s' (Function.update stack t (rest ++ r.toList)) j' old (before ++ new ++ after) where
  names := by rw [hnames, hjnames, h.names]
  filters := by rw [hfilters, hjfilters, h.filters]
  records := hrecords
  entries := hentries
  distinct := by
    have hold := h.distinct
    unfold AddressedList.Distinct at hold ⊢
    rw [h.entries, List.map_map] at hold
    rw [hentries, List.map_map]
    refine hold.sublist ?_
    simp only [List.map_append, List.map_cons, List.append_assoc]
    refine (List.Sublist.refl _).append ?_
    exact haddress.append (List.Sublist.refl _)
  fetched := by
    rw [hnames, hfetched]
    exact h.fetched
  old_closed := h.old_closed
  closed := by
    rw [hnames]
    intro row' hrow' hopen
    -- The rows around the replaced ones are as before.
    simp only [List.mem_append] at hrow'
    rcases hrow' with (hrow' | hrow') | hrow'
    · exact h.closed row' (by simp [hrow']) hopen
    · exact hclosed row' hrow' hopen
    · exact h.closed row' (by simp [hrow']) hopen
  frames u := by
    rw [hnames]
    by_cases hu : u = t
    · subst hu
      have hafter : (after.filter (Row.openOf u)) = [] :=
        List.filter_eq_nil_iff.mpr fun row' hrow' => by simp [hi.after row' hrow']
      rw [Function.update_self, filterMap_concat_option, List.filter_append, List.filter_append,
        hafter, List.append_nil]
      exact List.rel_append hi.before hframe
    · -- The rows of the other threads are not touched.
      have hnew : (new.filter (Row.openOf u)) = [] :=
        List.filter_eq_nil_iff.mpr fun row' hrow' => by
          simp [Row.openOf, Record.openOf_eq_false (hthread row' hrow') hu]
      have hrow : row.openOf u = false :=
        Record.openOf_eq_false (Record.thread_of_openOf hi.isOpen) hu
      have hframes := h.frames u
      rw [List.filter_append, List.filter_cons_of_neg (by simp [hrow])] at hframes
      rw [Function.update_of_ne hu, List.filter_append, List.filter_append, hnew, List.append_nil]
      exact hframes

/-- A change of the last open record of the thread, where the rows before and after it are known. -/
theorem split_records {F : Record Tid → List (Record Tid)}
    (hi : Innermost s.names t rest g before row after)
    (h : Books s stack j old (before ++ row :: after)) :
    replaceLast (Record.openOf t) F j.records =
      old ++ (before.map Row.record ++ F row.record ++ after.map Row.record) := by
  have hafter : ∀ r ∈ after.map Row.record, r.openOf t = false := by
    intro r hr
    obtain ⟨row', hrow', rfl⟩ := List.mem_map.mp hr
    exact hi.after row' hrow'
  have hopen : row.record.openOf t = true := hi.isOpen
  rw [h.records, List.map_append, List.map_cons, ← List.append_assoc,
    replaceLast_middle hopen hafter, List.append_assoc, List.append_assoc,
    List.append_assoc]

/-- The innermost frame writes to its entry. The record becomes `G record`. -/
theorem Books.write {c : Call} {p p' : Point} {a : Address}
    {F : JniLogEntry Bytes → JniLogEntry Bytes} {G : Record Tid → Record Tid}
    (h : Books s stack j old rows)
    (hstack : stack t = rest ++ [.call c p]) (hp : p.entry? = some a) (hp' : p'.entry? = some a)
    (hG : ∀ record, (G record).thread = record.thread ∧ (G record).call = record.call ∧
      (G record).isOpen = record.isOpen)
    (hF : ∀ record, record.call = c → F (p.written record) = p'.written (G record))
    (hnamed : ∀ record, record.call = c →
      (p.isNamed = true → NameOf s.names c.func record.name) →
        p'.isNamed = true → NameOf s.names c.func (G record).name)
    (hjnames : j'.names = j.names) (hjfilters : j'.filters = j.filters)
    (hrecords : j'.records = replaceLast (Record.openOf t) (fun record => [G record]) j.records) :
    ∃ d, s.data.writeEntry a F = .ok d ∧ d.maxSize = s.data.maxSize ∧
      d.entries.length = s.data.entries.length ∧
      ∃ rows', Books { s with data := d } (Function.update stack t (rest ++ [.call c p'])) j' old
        rows' := by
  have hgranted : (Frame.call c p).granted? = some (c, p, a) := by simp [Frame.granted?, hp]
  -- The entry that the frame writes to is that of its own row.
  obtain ⟨before, ⟨record, cell⟩, after, rfl, hi⟩ := h.innermost hstack hgranted
  obtain rfl : cell = ⟨a, p.written record⟩ := hi.row.cell
  obtain rfl : record.call = c := hi.row.call
  have hname : p.isNamed = true → NameOf s.names record.call.func record.name := hi.row.named
  -- No other entry has this address, so the write changes no other one.
  have hentries := h.entries
  rw [List.map_append, List.map_cons] at hentries
  have hdistinct := h.distinct
  rw [hentries] at hdistinct
  have hread := AddressedList.read?_middle hdistinct
  have hwrite := AddressedList.write_middle hdistinct F
  have hd : s.data.writeEntry a F = .ok { s.data with
      entries := before.map Row.cell ++ ⟨a, F (p.written record)⟩ :: after.map Row.cell } := by
    rw [← hentries] at hread hwrite
    rw [LogData.writeEntry, hread]
    simp only [hwrite]
  refine ⟨_, hd, rfl, by simp [hentries],
    before ++ [⟨G record, ⟨a, p'.written (G record)⟩⟩] ++ after, ?_⟩
  refine h.replace (r := some (.call record.call p')) hi rfl rfl rfl ?_ hjnames hjfilters ?_
    (List.Sublist.refl _) ?_ ?_ ?_
  · simp [hF record rfl]
  · rw [hrecords, split_records hi h]
    simp
  · intro row hrow
    obtain rfl := List.mem_singleton.mp hrow
    exact (hG record).1.trans (Record.thread_of_openOf hi.isOpen)
  · intro row hrow hopen
    obtain rfl := List.mem_singleton.mp hrow
    have hrecord := Record.isOpen_of_openOf hi.isOpen
    exact absurd (hrecord.symm.trans ((hG record).2.2.symm.trans hopen)) (by decide)
  · have hrecord : record.openOf t = true := hi.isOpen
    have hopen : Row.openOf t ⟨G record, ⟨a, p'.written (G record)⟩⟩ = true := by
      show (G record).openOf t = true
      rw [Record.openOf, (hG record).1, (hG record).2.2]
      exact hrecord
    rw [List.filter_cons_of_pos hopen]
    simp only [Option.bind_some, Frame.granted?, hp', Option.map_some, Option.toList_some]
    refine .cons ⟨(hG record).2.1, rfl, ?_⟩ .nil
    intro hp'named
    rw [(hG record).2.1]
    exact hnamed record rfl hname hp'named

/-- The innermost frame is granted an entry. -/
theorem Books.grant {c : Call} {p : Point} {a : Address} (h : Books s stack j old rows)
    (hstack : stack t = rest ++ [.call c p]) (hp : p.entry? = none)
    (hfree : a ∉ s.data.entries.map Cell.address) :
    ∃ rows', Books { s with data := s.data.addEntry a }
      (Function.update stack t (rest ++ [.call c (.printFunc a)]))
      (j.record t (.granted c)) old rows' := by
  refine ⟨rows ++ [⟨⟨t, c, "", true⟩, ⟨a, {}⟩⟩], ?_⟩
  refine ⟨h.names, h.filters, ?_, ?_, ?_, h.fetched, h.old_closed, ?_, ?_⟩
  · simp [Journal.record, h.records]
  · simp [LogData.addEntry, h.entries]
  · exact h.distinct.concat hfree
  · intro row hrow hopen
    rcases List.mem_append.mp hrow with hrow | hrow
    · exact h.closed row hrow hopen
    · obtain rfl := List.mem_singleton.mp hrow
      exact nomatch hopen
  · intro u
    have hframes := h.frames u
    rw [List.filter_append]
    by_cases hu : u = t
    · -- The new row is the last one of its thread, and the frame is its innermost one.
      subst hu
      rw [hstack, List.filterMap_append] at hframes
      rw [Function.update_self, List.filterMap_append]
      simp only [List.filterMap_cons, Frame.granted?, hp, Option.map_none, List.filterMap_nil,
        List.append_nil] at hframes
      refine List.rel_append hframes ?_
      have hopen : Row.openOf u ⟨⟨u, c, "", true⟩, ⟨a, {}⟩⟩ = true := by
        simp [Row.openOf, Record.openOf]
      rw [List.filter_cons_of_pos hopen]
      exact .cons ⟨rfl, rfl, nofun⟩ .nil
    · have hopen : Row.openOf u ⟨⟨t, c, "", true⟩, ⟨a, {}⟩⟩ = false :=
        Record.openOf_eq_false rfl hu
      rw [Function.update_of_ne hu, List.filter_cons_of_neg (by simp [hopen]), List.filter_nil,
        List.append_nil]
      exact hframes

/-- The destructor finds the entry at its address, and removes that one if its name is in the
filter. -/
theorem destroyEntry_middle {d : LogData} {a : Address} {x : JniLogEntry Bytes}
    {before after : AddressedList (JniLogEntry Bytes)}
    (hentries : d.entries = before ++ ⟨a, x⟩ :: after) (hdistinct : d.entries.Distinct) :
    d.destroyEntry a = .ok { d with
      entries := if d.filters.contains x.name then before ++ after else d.entries } := by
  rw [hentries] at hdistinct
  have hread := AddressedList.read?_middle hdistinct
  have hsearch := AddressedList.searchBack_middle hdistinct
  rw [← hentries] at hread hsearch
  have herase : d.entries.eraseIdx (d.entries.length - after.length - 1) = before ++ after := by
    rw [hentries]
    exact AddressedList.eraseIdx_middle
  rw [LogData.destroyEntry, hread]
  simp only [hsearch, herase]
  split <;> rfl

/-- The entry of the innermost frame is removed, when its name is in the filter. -/
theorem Books.remove {record : Record Tid} {a : Address} {c : Call}
    (h : Books s stack j old (before ++ ⟨record, ⟨a, record.entry⟩⟩ :: after))
    (hi : Innermost s.names t rest g before ⟨record, ⟨a, record.entry⟩⟩ after)
    (hfilter : s.data.filters.contains record.name = true) :
    Books { s with data := { s.data with entries := before.map Row.cell ++ after.map Row.cell } }
      (Function.update stack t (rest ++ [.call c .unlock])) (j.record t .ended) old
      (before ++ [] ++ after) := by
  have hrecords : (j.record t .ended).records = replaceLast (Record.openOf t)
      (fun r => if j.filters.contains r.name then [] else [{ r with isOpen := false }])
      j.records := rfl
  rw [split_records hi h, ← h.filters, if_pos hfilter] at hrecords
  refine h.replace (r := some (.call c .unlock)) hi rfl rfl rfl ?_ rfl rfl ?_
    (List.nil_sublist _) ?_ ?_ .nil
  · simp
  · simpa using hrecords
  · intro row hrow
    exact absurd hrow List.not_mem_nil
  · intro row hrow
    exact absurd hrow List.not_mem_nil

/-- The entry of the innermost frame stays, when its name is not in the filter. -/
theorem Books.complete {record : Record Tid} {a : Address} {c : Call}
    (h : Books s stack j old (before ++ ⟨record, ⟨a, record.entry⟩⟩ :: after))
    (hi : Innermost s.names t rest g before ⟨record, ⟨a, record.entry⟩⟩ after)
    (hname : NameOf s.names record.call.func record.name)
    (hfilter : ¬ s.data.filters.contains record.name = true) :
    Books s (Function.update stack t (rest ++ [.call c .unlock])) (j.record t .ended) old
      (before ++ [⟨{ record with isOpen := false }, ⟨a, record.entry⟩⟩] ++ after) := by
  have hrecords : (j.record t .ended).records = replaceLast (Record.openOf t)
      (fun r => if j.filters.contains r.name then [] else [{ r with isOpen := false }])
      j.records := rfl
  rw [split_records hi h, ← h.filters, if_neg hfilter] at hrecords
  refine h.replace (r := some (.call c .unlock)) hi rfl rfl rfl ?_ rfl rfl ?_
    (List.Sublist.refl _) ?_ ?_ .nil
  · simp [h.entries]
  · simpa using hrecords
  · intro row hrow
    cases List.mem_singleton.mp hrow
    have hopen : record.openOf t = true := hi.isOpen
    exact (Record.thread_of_openOf hopen : record.thread = t)
  · intro row hrow _
    cases List.mem_singleton.mp hrow
    exact ⟨rfl, hname⟩

/-- The destructor of the innermost frame handles the entry of its own call. -/
theorem Books.destroy {c : Call} {a : Address} (h : Books s stack j old rows)
    (hstack : stack t = rest ++ [.call c (.destroy a)]) :
    ∃ (before : AddressedList (JniLogEntry Bytes)) (record : Record Tid)
      (after : AddressedList (JniLogEntry Bytes)),
      s.data.entries = before ++ ⟨a, record.entry⟩ :: after ∧
      record ∈ j.records ∧ record.openOf t = true ∧ record.call = c ∧
      NameOf s.names c.func record.name ∧
      s.data.destroyEntry a = .ok { s.data with
        entries := if s.data.filters.contains record.name then before ++ after
          else s.data.entries } ∧
      ∃ rows', Books
        { s with data := { s.data with
          entries := if s.data.filters.contains record.name then before ++ after
            else s.data.entries } }
        (Function.update stack t (rest ++ [.call c .unlock])) (j.record t .ended) old rows' := by
  obtain ⟨before, ⟨record, cell⟩, after, rfl, hi⟩ :=
    h.innermost hstack (g := (c, .destroy a, a)) rfl
  obtain rfl : cell = ⟨a, record.entry⟩ := hi.row.cell
  obtain rfl : record.call = c := hi.row.call
  have hname : NameOf s.names record.call.func record.name := hi.row.named rfl
  have hentries := h.entries
  rw [List.map_append, List.map_cons] at hentries
  have hmem : record ∈ j.records := by simp [h.records]
  refine ⟨before.map Row.cell, record, after.map Row.cell, hentries, hmem, hi.isOpen, rfl, hname,
    destroyEntry_middle hentries h.distinct, ?_⟩
  by_cases hfilter : s.data.filters.contains record.name = true
  · simp only [if_pos hfilter]
    exact ⟨_, h.remove hi hfilter⟩
  · simp only [if_neg hfilter]
    exact ⟨_, h.complete hi hname hfilter⟩

/-- When no frame has an entry, every record is closed: an open one would be that of a frame. -/
theorem Books.closed_of_quiet (h : Books s stack j old rows)
    (hnone : ∀ u, (stack u).filterMap Frame.granted? = []) {row : Row Tid} (hrow : row ∈ rows) :
    row.record.isOpen = false := by
  by_contra hopen
  have hframes := h.frames row.record.thread
  rw [hnone, List.forall₂_nil_right_iff, List.filter_eq_nil_iff] at hframes
  exact hframes row hrow (by simpa [Row.openOf, Record.openOf] using hopen)

/-- When no frame has an entry, the log is fetched as the journal has it. -/
theorem Books.clear (h : Books s stack j old rows)
    (hidentifiers : ∀ p ∈ s.names, IsIdentifier p.2)
    (hnone : ∀ u, (stack u).filterMap Frame.granted? = []) :
    ∃ entries, s.data.clear s.names = .ok ({ s.data with entries := [] }, entries) ∧
      Books { s with
        data := { s.data with entries := [] }
        fetched := s.fetched ++ [entries] } stack j (old ++ rows.map Row.record) [] := by
  -- No call is in progress, so all entries are written to the end.
  have hclosed : ∀ row ∈ rows, row.record.isOpen = false := fun _ => h.closed_of_quiet hnone
  have hrecords : (rows.map Row.cell).map Cell.value = (rows.map Row.record).map Record.entry := by
    rw [List.map_map, List.map_map]
    refine List.map_congr_left ?_
    intro row hrow
    exact (h.closed row hrow (hclosed row hrow)).value
  have hnames : ∀ r ∈ rows.map Row.record, NameOf s.names r.call.func r.name := by
    intro r hr
    obtain ⟨row, hrow, rfl⟩ := List.mem_map.mp hr
    exact (h.closed row hrow (hclosed row hrow)).named
  obtain ⟨entries, hentries, hwritten⟩ := mapM_updateName hidentifiers hnames
  refine ⟨entries, ?_, ?_⟩
  · rw [LogData.clear, h.entries, hrecords, hentries]
    rfl
  · refine ⟨h.names, h.filters, ?_, rfl, List.nodup_nil, ?_, ?_, ?_, ?_⟩
    · rw [h.records, List.map_nil, List.append_nil]
    · rw [List.flatten_append, List.flatten_singleton]
      exact List.rel_append h.fetched hwritten
    · intro r hr
      rcases List.mem_append.mp hr with hr | hr
      · exact h.old_closed r hr
      · obtain ⟨row, hrow, rfl⟩ := List.mem_map.mp hr
        exact hclosed row hrow
    · intro row hrow
      exact absurd hrow List.not_mem_nil
    · intro u
      rw [hnone u]
      exact .nil

end

end Tox4j.Log
