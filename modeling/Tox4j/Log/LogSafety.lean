import Tox4j.Log.Books
import Tox4j.Log.Schedule

/-!
# `Tox4j.Log.LogSafety`: the log loses, repeats, mixes up and tears no entry

`Inv` adds to `Books` what the locking gives: the mutex of the log is held by the thread that
works on it (`Frame.depth`), so a thread that fetches the log finds no call in progress.
`Inv.step` says that every step keeps it, and `logFaithful_of_run` is the main result over all
runs of any number of threads.
-/

set_option autoImplicit false

namespace Tox4j.Log

open Tox4j.Lib
open Tox4j.Lib.Proto3 (Bytes)

/-- How often the thread holds the mutex at this point. -/
def Point.depth : Point → Nat
  | .maxSize | .lock | .running none => 0
  | _ => 1

/-- How often the thread holds the mutex in this frame. -/
def Frame.depth : Frame → Nat
  | .call _ p => p.depth
  | .sizeLock | .clearLock | .filterLock _ => 0
  | _ => 1

/-- How often the thread holds the mutex in all its frames. -/
def stackDepth (stack : List Frame) : Nat := (stack.map Frame.depth).sum

/-- The frames of a thread are logged calls in one another, or one other call. -/
def StackFits (stack : List Frame) : Prop :=
  (∃ f, stack = [f]) ∨ ∀ f ∈ stack, ∃ c p, f = .call c p

/-- The log is sound: it agrees with the journal, it is not too long, nothing failed. -/
structure Sound {Tid : Type} [DecidableEq Tid] (maxSize : Nat) (s : Shared Tid)
    (stack : Tid → List Frame) (j : Journal Tid) : Prop where
  books : ∃ old rows, Books s stack j old rows
  size : s.data.maxSize = maxSize
  bounded : s.data.entries.length ≤ maxSize
  identifiers : ∀ p ∈ s.names, IsIdentifier p.2
  fatal : s.fatal = none

/-- The invariant of the log under all threads. -/
structure Inv {Tid : Type} [DecidableEq Tid] (maxSize : Nat) (s : State Tid) (j : Journal Tid) :
    Prop where
  sound : Sound maxSize s.toShared s.stack j
  mutex : s.mutex.HeldBy fun t => stackDepth (s.stack t)
  fits : ∀ t, StackFits (s.stack t)

variable {Tid : Type} [DecidableEq Tid] {maxSize : Nat} {s s' : Shared Tid}
  {stack : Tid → List Frame} {j : Journal Tid} {t u : Tid} {rest : List Frame} {f : Frame}
  {r : Option Frame} {e : Option Event}

/-! ### The mutex -/

section
omit [DecidableEq Tid]

/-- A write to the log leaves the mutex. -/
@[simp] theorem update_mutex (x : Except Native.Fatal LogData) : (s.update x).mutex = s.mutex := by
  cases x <;> rfl

/-- A write of the instance number leaves the mutex. -/
@[simp] theorem setInstanceNumber_mutex (c : Call) (a : Address) :
    (s.setInstanceNumber c a).mutex = s.mutex := by
  unfold Shared.setInstanceNumber
  split
  · exact update_mutex _
  · rfl

/-- A fetch leaves the mutex. -/
@[simp] theorem clear_mutex : s.clear.mutex = s.mutex := by
  unfold Shared.clear
  split <;> rfl

end

/-- A step of a thread locks the mutex once, unlocks it once, or leaves it, as its frames say. -/
theorem FrameStep.mutex (h : FrameStep s t f s' r e) :
    RecursiveMutex.Step t s.mutex f.depth s'.mutex (stackDepth r.toList) := by
  cases h with
  | disabled _ | enabled _ | full _ | grant _ _ | returned | returnedRefused | size | filter =>
      exact .stay
  | lock hlock | sizeLock hlock | clearLock hlock | filterLock hlock => exact .lock hlock
  | unlockFull | unlock | sizeUnlockEmpty | sizeUnlock | clearUnlock | filterUnlock =>
      exact .unlock
  | printFunc | printArgs | printResult | destroy =>
      simp only [Shared.printFunc, Shared.printArgs, Shared.printResult, update_mutex]
      exact .stay
  | setInstanceNumber =>
      rw [setInstanceNumber_mutex]
      exact .stay
  | clear =>
      rw [clear_mutex]
      exact .stay

omit [DecidableEq Tid] in
/-- How often the frames of two stacks hold the mutex. -/
theorem stackDepth_append (l₁ l₂ : List Frame) :
    stackDepth (l₁ ++ l₂) = stackDepth l₁ + stackDepth l₂ := by
  simp [stackDepth]

/-- A frame with an entry holds the mutex. -/
theorem depth_of_granted {g : Call × Point × Address} (h : f.granted? = some g) :
    f.depth = 1 := by
  cases f with
  | call c p =>
      obtain ⟨a, ha, -⟩ := Option.map_eq_some_iff.mp h
      cases p with
      | running entry =>
          obtain rfl : entry = some a := ha
          rfl
      | maxSize | lock | sizeCheck | unlockFull | unlock => exact nomatch ha
      | _ => rfl
  | _ => exact nomatch h

/-- A thread with an entry holds the mutex. -/
theorem stackDepth_ne_zero {stack : List Frame} (h : stack.filterMap Frame.granted? ≠ []) :
    stackDepth stack ≠ 0 := by
  obtain ⟨g, hg⟩ := List.exists_mem_of_ne_nil _ h
  obtain ⟨f, hf, hgranted⟩ := List.mem_filterMap.mp hg
  obtain ⟨outer, inner, rfl⟩ := List.append_of_mem hf
  have hdepth := depth_of_granted hgranted
  simp only [stackDepth, List.map_append, List.map_cons, List.sum_append, List.sum_cons]
  omega

omit [DecidableEq Tid] in
/-- While a thread has the mutex in `clear`, no frame of any thread has an entry. -/
theorem granted_of_clear (hmutex : s.mutex.HeldBy fun t => stackDepth (stack t))
    (hfits : ∀ t, StackFits (stack t)) (hstack : stack t = rest ++ [.clear]) (u : Tid) :
    (stack u).filterMap Frame.granted? = [] := by
  -- The thread that fetches the log is in no call, and no other thread has the mutex.
  have hclear : stack t = [.clear] := by
    rcases hfits t with ⟨f, hf⟩ | hcalls
    · rw [hstack] at hf
      obtain ⟨rfl, -⟩ | h := List.append_eq_singleton_iff.mp hf
      · exact hstack
      · exact nomatch h.2
    · obtain ⟨c, p, hcp⟩ := hcalls .clear (by simp [hstack])
      exact nomatch hcp
  by_contra hne
  have hholds : stackDepth (stack t) ≠ 0 := by simp [hclear, stackDepth, Frame.depth]
  have hone := hmutex.one (stackDepth_ne_zero hne) hholds
  rw [hone, hclear] at hne
  exact hne rfl

/-! ### The steps -/

/-- The steps in which the innermost frame moves on and the log stays as it is. -/
theorem Sound.move (h : Sound maxSize s stack j) (hstack : stack t = rest ++ [f])
    (hdata : s'.data = s.data) (hnames : s'.names = s.names) (hfetched : s'.fetched = s.fetched)
    (hfatal : s'.fatal = s.fatal)
    (hframe : ∀ l : List (Row Tid), List.Forall₂ (Matches s.names) l f.granted?.toList →
      List.Forall₂ (Matches s.names) l (r.bind Frame.granted?).toList) :
    Sound maxSize s' (Function.update stack t (rest ++ r.toList)) j where
  books := by
    obtain ⟨old, rows, hbooks⟩ := h.books
    exact ⟨old, rows, hbooks.move hstack hdata hnames hfetched hframe⟩
  size := hdata ▸ h.size
  bounded := hdata ▸ h.bounded
  identifiers := hnames ▸ h.identifiers
  fatal := hfatal.trans h.fatal

/-- The steps in which the innermost frame writes to its entry. -/
theorem Sound.write {c : Call} {p p' : Point} {a : Address}
    {F : JniLogEntry Bytes → JniLogEntry Bytes} {G : Record Tid → Record Tid} {j' : Journal Tid}
    (h : Sound maxSize s stack j)
    (hstack : stack t = rest ++ [.call c p]) (hp : p.entry? = some a) (hp' : p'.entry? = some a)
    (hG : ∀ record, (G record).thread = record.thread ∧ (G record).call = record.call ∧
      (G record).isOpen = record.isOpen)
    (hF : ∀ record, record.call = c → F (p.written record) = p'.written (G record))
    (hnamed : ∀ record, record.call = c →
      (p.isNamed = true → NameOf s.names c.func record.name) →
        p'.isNamed = true → NameOf s.names c.func (G record).name)
    (hjnames : j'.names = j.names) (hjfilters : j'.filters = j.filters)
    (hrecords : j'.records = replaceLast (Record.openOf t) (fun record => [G record]) j.records) :
    Sound maxSize (s.update (s.data.writeEntry a F))
      (Function.update stack t (rest ++ [.call c p'])) j' := by
  obtain ⟨old, rows, hbooks⟩ := h.books
  obtain ⟨d, hd, hmax, hlength, rows', hbooks'⟩ :=
    hbooks.write hstack hp hp' hG hF hnamed hjnames hjfilters hrecords
  rw [hd]
  exact ⟨⟨old, rows', hbooks'⟩, hmax.trans h.size, hlength ▸ h.bounded, h.identifiers, h.fatal⟩

/-- The same for the steps that do not change the record. -/
theorem Sound.writeEntry {c : Call} {p p' : Point} {a : Address}
    {F : JniLogEntry Bytes → JniLogEntry Bytes} (h : Sound maxSize s stack j)
    (hstack : stack t = rest ++ [.call c p])
    (hp : p.entry? = some a) (hp' : p'.entry? = some a) (hnamed : p.isNamed = true)
    (hF : ∀ record : Record Tid, record.call = c → F (p.written record) = p'.written record) :
    Sound maxSize (s.update (s.data.writeEntry a F))
      (Function.update stack t (rest ++ [.call c p'])) j := by
  refine h.write hstack (G := id) hp hp' ?_ hF ?_ rfl rfl (replaceLast_self _ _).symm
  · exact fun record => ⟨rfl, rfl, rfl⟩
  · exact fun record _ hname _ => hname hnamed

omit [DecidableEq Tid] in
/-- A frame that goes on to a point with the same entry keeps its row. -/
theorem matches_point {names : FuncNames} {l : List (Row Tid)} {c : Call} {p p' : Point}
    {a : Address} (h : List.Forall₂ (Matches names) l [(c, p, a)])
    (hwritten : ∀ record : Record Tid, record.call = c → p.written record = p'.written record)
    (hnamed : p.isNamed = true) : List.Forall₂ (Matches names) l [(c, p', a)] := by
  cases h with
  | cons hrow hnil =>
      refine .cons ⟨hrow.call, ?_, fun _ => hrow.named hnamed⟩ hnil
      rw [hrow.cell, hwritten _ hrow.call]

/-- A call starts with an entry. -/
theorem Sound.grant {c : Call} {a : Address} (hsound : Sound maxSize s stack j)
    (hstack : stack t = rest ++ [.call c .sizeCheck]) (hfull : s.data.full = false)
    (hfree : a ∉ s.data.entries.map Cell.address) :
    Sound maxSize { s with data := s.data.addEntry a }
      (Function.update stack t (rest ++ [.call c (.printFunc a)])) (j.record t (.granted c)) := by
  obtain ⟨old, rows, hbooks⟩ := hsound.books
  obtain ⟨rows', hbooks'⟩ := hbooks.grant hstack rfl hfree
  refine ⟨⟨old, rows', hbooks'⟩, hsound.size, ?_, hsound.identifiers, hsound.fatal⟩
  have hroom : ¬ s.data.maxSize ≤ s.data.entries.length := of_decide_eq_false hfull
  have hsize := hsound.size
  show (s.data.entries ++ [_]).length ≤ maxSize
  rw [List.length_append, List.length_singleton]
  omega

/-- The entry gets its name. -/
theorem Sound.printFunc {c : Call} {a : Address} (hsound : Sound maxSize s stack j)
    (hstack : stack t = rest ++ [.call c (.printFunc a)]) :
    Sound maxSize (s.printFunc c a) (Function.update stack t (rest ++ [.call c (.printArgs a)]))
      (j.record t .named) := by
  obtain ⟨old, rows, hbooks⟩ := hsound.books
  refine hsound.write hstack (G := fun record =>
    { record with name := getFuncName j.names record.call.func }) rfl rfl ?_ ?_ ?_ rfl rfl rfl
  · exact fun record => ⟨rfl, rfl, rfl⟩
  · intro record hcall
    subst hcall
    rw [hbooks.names]
    rfl
  · intro record hcall _ _
    subst hcall
    rw [hbooks.names]
    exact nameOf_getFuncName _ _

/-- The entry gets the number of its instance, if its call has one. -/
theorem Sound.setInstanceNumber {c : Call} {a : Address} (hsound : Sound maxSize s stack j)
    (hstack : stack t = rest ++ [.call c (.setInstanceNumber a)]) :
    Sound maxSize (s.setInstanceNumber c a)
      (Function.update stack t (rest ++ [.call c (.running (some a))])) j := by
  cases hn : c.instanceNumber with
  | none =>
      -- Nothing is written: the entry has the number 0 already.
      have hs : s.setInstanceNumber c a = s := by rw [Shared.setInstanceNumber, hn]
      rw [hs]
      refine hsound.move hstack rfl rfl rfl rfl (r := some (.call c (.running (some a)))) ?_
      intro l hl
      refine matches_point hl ?_ rfl
      intro record hcall
      subst hcall
      simp [Point.written, Record.entry, hn]
  | some n =>
      have hs : s.setInstanceNumber c a = s.update (s.data.writeEntry a fun entry =>
          { entry with instanceNumber := n.toUInt32 }) := by
        rw [Shared.setInstanceNumber, hn]
      rw [hs]
      refine hsound.writeEntry hstack rfl rfl rfl ?_
      intro record hcall
      subst hcall
      simp [Point.written, Record.entry, hn]

/-- Fetching the log. -/
theorem Sound.clear (hsound : Sound maxSize s stack j) (hstack : stack t = rest ++ [.clear])
    (hclear : ∀ u, (stack u).filterMap Frame.granted? = []) :
    Sound maxSize s.clear (Function.update stack t (rest ++ [.clearUnlock])) j := by
  obtain ⟨old, rows, hbooks⟩ := hsound.books
  obtain ⟨entries, hentries, hfetched⟩ := hbooks.clear hsound.identifiers hclear
  have hs : s.clear = { s with
      data := { s.data with entries := [] }
      fetched := s.fetched ++ [entries] } := by
    rw [Shared.clear, hentries]
  rw [hs]
  refine ⟨⟨_, _, hfetched.move hstack rfl rfl rfl (r := some .clearUnlock) fun l hl => hl⟩,
    hsound.size, Nat.zero_le _, hsound.identifiers, hsound.fatal⟩

/-- The end of a call. -/
theorem Sound.destroy {c : Call} {a : Address} (hsound : Sound maxSize s stack j)
    (hstack : stack t = rest ++ [.call c (.destroy a)]) :
    Sound maxSize (s.update (s.data.destroyEntry a))
      (Function.update stack t (rest ++ [.call c .unlock])) (j.record t .ended) := by
  obtain ⟨old, rows, hbooks⟩ := hsound.books
  obtain ⟨before, record, after, hentries, -, -, -, -, hdestroy, rows', hbooks'⟩ :=
    hbooks.destroy hstack
  rw [hdestroy]
  refine ⟨⟨old, rows', hbooks'⟩, hsound.size, ?_, hsound.identifiers, hsound.fatal⟩
  have hbounded := hsound.bounded
  have hlength : s.data.entries.length = before.length + (after.length + 1) := by
    rw [hentries, List.length_append, List.length_cons]
  show (if _ then before ++ after else s.data.entries).length ≤ maxSize
  split
  · rw [List.length_append]
    omega
  · exact hbounded

/-- A new filter. -/
theorem Sound.filter {filters : List String} (hsound : Sound maxSize s stack j)
    (hstack : stack t = rest ++ [.filter filters]) :
    Sound maxSize { s with data := { s.data with filters := filters } }
      (Function.update stack t (rest ++ [.filterUnlock])) (j.record t (.filtered filters)) := by
  obtain ⟨old, rows, hbooks⟩ := hsound.books
  have hfiltered : Books { s with data := { s.data with filters := filters } } stack
      (j.record t (.filtered filters)) old rows :=
    ⟨hbooks.names, rfl, hbooks.records, hbooks.entries, hbooks.distinct, hbooks.fetched,
      hbooks.old_closed, hbooks.closed, hbooks.frames⟩
  exact ⟨⟨old, rows, hfiltered.move hstack rfl rfl rfl (r := some .filterUnlock) fun l hl => hl⟩,
    hsound.size, hsound.bounded, hsound.identifiers, hsound.fatal⟩

/-- A step from inside the log: what the journal makes of its event. -/
theorem FrameStep.sound (h : FrameStep s t f s' r e) (hsound : Sound maxSize s stack j)
    (hstack : stack t = rest ++ [f])
    (hclear : f = .clear → ∀ u, (stack u).filterMap Frame.granted? = []) :
    Sound maxSize s' (Function.update stack t (rest ++ r.toList)) (j.step (t, e)) := by
  cases h with
  | disabled _ | enabled _ | full _ | returnedRefused | size =>
      exact hsound.move hstack rfl rfl rfl rfl fun l hl => hl
  | lock _ | unlockFull | unlock | sizeLock _ | sizeUnlockEmpty | sizeUnlock | clearLock _
  | clearUnlock | filterLock _ | filterUnlock =>
      exact hsound.move hstack rfl rfl rfl rfl fun l hl => hl
  | grant hfull hfree => exact hsound.grant hstack hfull hfree
  | printFunc => exact hsound.printFunc hstack
  | printArgs | printResult =>
      refine hsound.writeEntry hstack rfl rfl rfl ?_
      intro record hcall
      subst hcall
      rfl
  | setInstanceNumber => exact hsound.setInstanceNumber hstack
  | returned =>
      refine hsound.move hstack rfl rfl rfl rfl ?_
      intro l hl
      exact matches_point hl (fun _ _ => rfl) rfl
  | destroy => exact hsound.destroy hstack
  | clear => exact hsound.clear hstack (hclear rfl)
  | filter => exact hsound.filter hstack

/-! ### The invariant -/

/-- A new frame has no entry. -/
theorem Sound.enter (hsound : Sound maxSize s stack j) (hf : f.granted? = none) :
    Sound maxSize s (Function.update stack t (stack t ++ [f])) j := by
  obtain ⟨old, rows, hbooks⟩ := hsound.books
  refine ⟨⟨old, rows, ⟨hbooks.names, hbooks.filters, hbooks.records, hbooks.entries,
    hbooks.distinct, hbooks.fetched, hbooks.old_closed, hbooks.closed, ?_⟩⟩, hsound.size,
    hsound.bounded, hsound.identifiers, hsound.fatal⟩
  intro u
  by_cases hu : u = t
  · subst hu
    rw [Function.update_self, List.filterMap_append, List.filterMap_cons_none hf,
      List.filterMap_nil, List.append_nil]
    exact hbooks.frames u
  · rw [Function.update_of_ne hu]
    exact hbooks.frames u

/-- A function gets a name. -/
theorem Sound.register {func : FuncPointer} {name : String} (hsound : Sound maxSize s stack j)
    (hname : IsIdentifier name) : Sound maxSize { s with names := s.names ++ [(func, name)] } stack
      (j.record t (.registered func name)) := by
  obtain ⟨old, rows, hbooks⟩ := hsound.books
  have hsub : ∀ p ∈ s.names, p ∈ s.names ++ [(func, name)] := fun _ => List.mem_append_left _
  refine ⟨⟨old, rows, ?_, hbooks.filters, hbooks.records, hbooks.entries, hbooks.distinct, ?_,
    hbooks.old_closed, ?_, ?_⟩, hsound.size, hsound.bounded, ?_, hsound.fatal⟩
  · show s.names ++ _ = j.names ++ _
    rw [hbooks.names]
  · exact hbooks.fetched.imp fun _ _ h => h.mono hsub
  · intro row hrow hopen
    exact (hbooks.closed row hrow hopen).mono hsub
  · intro u
    exact (hbooks.frames u).imp fun _ _ h => h.mono hsub
  · intro p hp
    rcases List.mem_append.mp hp with hp | hp
    · exact hsound.identifiers p hp
    · obtain rfl := List.mem_singleton.mp hp
      exact hname

/-- A logged call remains one. -/
theorem FrameStep.call_of_call (h : FrameStep s t f s' r e) {c : Call} {p : Point}
    (hf : f = .call c p) : ∀ f' ∈ r.toList, ∃ p', f' = .call c p' := by
  subst hf
  cases h with
  | returnedRefused | unlock => exact fun _ h => absurd h List.not_mem_nil
  | _ =>
      intro f' hf'
      obtain rfl := List.mem_singleton.mp hf'
      exact ⟨_, rfl⟩

omit [DecidableEq Tid] in
/-- A call that is made inside another one fits on the stack. -/
theorem stackFits_call {l : List Frame} {c c' : Call} {p p' : Point}
    (h : StackFits (l ++ [.call c p])) : StackFits (l ++ [.call c p] ++ [.call c' p']) := by
  right
  intro f hf
  rcases List.mem_append.mp hf with hf | hf
  · rcases h with ⟨g, hg⟩ | h
    · have hlast : Frame.call c p ∈ l ++ [Frame.call c p] := by simp
      rw [hg] at hf hlast
      exact ⟨c, p, (List.mem_singleton.mp hf).trans (List.mem_singleton.mp hlast).symm⟩
    · exact h f hf
  · obtain rfl := List.mem_singleton.mp hf
    exact ⟨c', p', rfl⟩

/-- A step of the innermost frame keeps the stack in order. -/
theorem FrameStep.stackFits (h : FrameStep s t f s' r e) (hfits : StackFits (rest ++ [f])) :
    StackFits (rest ++ r.toList) := by
  rcases hfits with ⟨g, hg⟩ | hcalls
  · obtain ⟨rfl, -⟩ | hlast := List.append_eq_singleton_iff.mp hg
    · cases r with
      | none => exact .inr fun _ h => absurd h List.not_mem_nil
      | some f' => exact .inl ⟨f', rfl⟩
    · exact nomatch hlast.2
  · right
    intro f' hf'
    rcases List.mem_append.mp hf' with hf' | hf'
    · exact hcalls f' (List.mem_append_left _ hf')
    · obtain ⟨c, p, hf⟩ := hcalls f (by simp)
      obtain ⟨p', hp'⟩ := h.call_of_call hf f' hf'
      exact ⟨c, p', hp'⟩

/-- How often each thread holds the mutex, after one stack has changed. -/
theorem stackDepth_update (stack : Tid → List Frame) (t : Tid) (l : List Frame) :
    (fun u => stackDepth (Function.update stack t l u)) =
      Function.update (fun u => stackDepth (stack u)) t (stackDepth l) :=
  Function.comp_update stackDepth stack t l

/-- All stacks are in order, after one has changed to one that is. -/
theorem stackFits_update {l : List Frame} (h : ∀ u, StackFits (stack u)) (hl : StackFits l)
    (u : Tid) : StackFits (Function.update stack t l u) :=
  (Function.forall_update_iff stack fun _ => StackFits).mpr ⟨hl, fun u _ => h u⟩ u

section

variable {S S' : State Tid}

/-- The invariant holds for the empty log and the empty journal. -/
theorem inv_initial : Inv maxSize (State.initial maxSize : State Tid) ⟨[], [], []⟩ where
  sound := by
    refine ⟨⟨[], [], rfl, rfl, rfl, rfl, List.nodup_nil, .nil, ?_, ?_, fun _ => .nil⟩, rfl,
      Nat.zero_le _, ?_, rfl⟩
    · exact fun _ h => absurd h List.not_mem_nil
    · exact fun _ h => absurd h List.not_mem_nil
    · exact fun _ h => absurd h List.not_mem_nil
  mutex := RecursiveMutex.heldBy_free
  fits _ := .inr fun _ h => absurd h List.not_mem_nil

/-- A thread enters a frame. -/
theorem Inv.enter (hi : Inv maxSize S j) (hf : f.granted? = none) (hdepth : f.depth = 0)
    (hfits : StackFits (S.stack t ++ [f])) : Inv maxSize (S.enter t f) j where
  sound := hi.sound.enter hf
  mutex := by
    show S.mutex.HeldBy fun u => stackDepth (Function.update S.stack t (S.stack t ++ [f]) u)
    have hsame : stackDepth (S.stack t ++ [f]) = stackDepth (S.stack t) := by
      simp [stackDepth, hdepth]
    rw [stackDepth_update, hsame, Function.update_eq_self]
    exact hi.mutex
  fits := stackFits_update hi.fits hfits

/-- Each step keeps the invariant, when the journal makes the same step. -/
theorem Inv.step (hi : Inv maxSize S j) (h : Step S t e S') : Inv maxSize S' (j.step (t, e)) := by
  cases h with
  | call c hmay =>
      refine hi.enter rfl rfl ?_
      rcases hmay with hnil | ⟨rest, outer, entry, hstack⟩
      · rw [hnil]
        exact .inl ⟨_, rfl⟩
      · have hfits := hi.fits t
        rw [hstack] at hfits ⊢
        exact stackFits_call hfits
  | lastLog hnil | setFilter _ hnil =>
      refine hi.enter rfl rfl ?_
      rw [hnil]
      exact .inl ⟨_, rfl⟩
  | register func name hname hnew => exact ⟨hi.sound.register (t := t) hname, hi.mutex, hi.fits⟩
  | @advance rest f shared r _ hstack hframe =>
      refine ⟨?_, ?_, ?_⟩
      · refine hframe.sound hi.sound hstack ?_
        rintro rfl
        exact granted_of_clear hi.mutex hi.fits hstack
      · show shared.mutex.HeldBy fun u =>
          stackDepth (Function.update S.stack t (rest ++ r.toList) u)
        have hstep := hframe.mutex.add (stackDepth rest)
        have hbefore : stackDepth rest + f.depth = stackDepth (S.stack t) := by
          rw [hstack, stackDepth_append]
          simp [stackDepth]
        rw [hbefore, ← stackDepth_append] at hstep
        rw [stackDepth_update]
        exact hstep.heldBy hi.mutex
      · have hfits := hi.fits t
        rw [hstack] at hfits
        exact stackFits_update hi.fits (hframe.stackFits hfits)

/-- The invariant holds after any run, for the journal of the run. -/
theorem inv_of_run {ls : List (Tid × Option Event)} (run : (logging maxSize).Run S ls) :
    Inv maxSize S (journal ls) := by
  refine run.invariant (I := fun S ls => Inv maxSize S (journal ls)) ?_ ?_
  · intro S hS
    obtain rfl : S = .initial maxSize := hS
    exact inv_initial
  · intro S ls l S' hi hstep
    rw [journal_concat]
    exact hi.step hstep

end

/-! ### The result -/

/-- The log is faithful to its journal. -/
structure LogFaithful (maxSize : Nat) (s : State Tid) (j : Journal Tid) : Prop where
  /-- No assertion failed, and no pointer was used after its entry was gone. -/
  fatal : s.fatal = none
  bounded : s.data.entries.length ≤ maxSize
  /-- While no logged call is in progress, what was fetched and the current log are the
  entries of the journal, one for each record and in that order. -/
  faithful : (∀ t c p, Frame.call c p ∉ s.stack t) →
    (∀ r ∈ j.records, r.isOpen = false) ∧
      List.Forall₂ (Carries s.names) j.records
        (s.fetched.flatten ++ s.data.entries.map Cell.value)
  /-- The entry that the end of a call finds is that of the call, and this one is removed if
  its name is in the filter. -/
  own : ∀ t rest c a, s.stack t = rest ++ [.call c (.destroy a)] →
    ∃ before record entry after, s.data.entries = before ++ ⟨a, entry⟩ :: after ∧
      record ∈ j.records ∧ record.openOf t = true ∧ record.call = c ∧
      Carries s.names record entry ∧ entry.name = record.name ∧
      s.data.destroyEntry a = .ok { s.data with
        entries := if s.data.filters.contains record.name then before ++ after
          else s.data.entries }

/-- In every run of any number of threads, the log is faithful to the journal of the run. -/
theorem logFaithful_of_run {s : State Tid} {ls : List (Tid × Option Event)}
    (run : (logging maxSize).Run s ls) : LogFaithful maxSize s (journal ls) := by
  have hi := inv_of_run run
  obtain ⟨old, rows, hbooks⟩ := hi.sound.books
  refine ⟨hi.sound.fatal, hi.sound.bounded, ?_, ?_⟩
  · intro hquiet
    -- Only logged calls have an entry, so no frame has one.
    have hnone : ∀ u, (s.stack u).filterMap Frame.granted? = [] := by
      intro u
      rw [List.filterMap_eq_nil_iff]
      intro f hf
      cases f with
      | call c p => exact absurd hf (hquiet _ c p)
      | _ => rfl
    have hclosed : ∀ row ∈ rows, row.record.isOpen = false := fun _ =>
      hbooks.closed_of_quiet hnone
    rw [hbooks.records]
    constructor
    · intro r hr
      rcases List.mem_append.mp hr with hr | hr
      · exact hbooks.old_closed r hr
      · obtain ⟨row, hrow, rfl⟩ := List.mem_map.mp hr
        exact hclosed row hrow
    · refine List.rel_append (hbooks.fetched.imp fun _ _ h => h.carries) ?_
      rw [hbooks.entries, List.map_map, List.forall₂_map_left_iff, List.forall₂_map_right_iff,
        List.forall₂_same]
      intro row hrow
      have hrow' := hbooks.closed row hrow (hclosed row hrow)
      show Carries s.names row.record row.cell.value
      rw [hrow'.value]
      exact (written_entry hrow'.named).carries
  · intro t rest c a hstack
    obtain ⟨before, record, after, hentries, hmem, hopen, hcall, hname, hdestroy, -⟩ :=
      hbooks.destroy hstack
    subst hcall
    exact ⟨before, record, record.entry, after, hentries, hmem, hopen, rfl,
      (written_entry hname).carries, rfl, hdestroy⟩

/-! ### A run -/

section Example

/-- `tox_iterate`, with the pointer to its instance. -/
def iterateCall : Call := ⟨1, [.tox (.instancePointer 0)], some 1, .void, ⟨7, 0⟩, 900⟩

/-- A callback for the new name of a friend. -/
def friendNameCall : Call := ⟨2, [.int 0, .bytes (some [65])], some 1, .void, ⟨7, 100⟩, 200⟩

/-- A bootstrap, of a function that has no name yet. The address of the node is `localhost`. -/
def bootstrapCall : Call where
  func := 7
  args := [.cString (some [108, 111, 99, 97, 108, 104, 111, 115, 116]), .int 33445]
  instanceNumber := some 2
  result := .int 1
  timestamp := ⟨7, 500⟩
  elapsedNanos := 40

/-- A call that is made after the log was fetched. -/
def laterCall : Call := ⟨9, [.bytes none], none, .bytePointer true, ⟨8, 0⟩, 10⟩

/-- A thread takes several steps. -/
def steps {n : Nat} (t : Fin n) (count : Nat) : List (Fin n × Action) :=
  List.replicate count (t, .advance)

/-- Thread 0 runs `tox_iterate`, which is in the filter, with a callback in it. Thread 1 waits for
the log with a call of its own, and goes on when thread 0 is done. Thread 2 fetches the log, after
the function of that call got a name. Then thread 1 calls again. -/
def exampleSchedule : List (Fin 3 × Action) :=
  [(0, .register 1 "tox_iterate"), (0, .register 2 "tox4j_friend_name_cb"),
    (0, .setFilter ["tox_iterate"])] ++ steps 0 3 ++
  (0, .call iterateCall) :: steps 0 6 ++ (1, .call bootstrapCall) :: steps 1 1 ++
  (0, .call friendNameCall) :: steps 0 10 ++ steps 0 4 ++ steps 1 9 ++
  (0, .register 7 "tox_bootstrap") :: (2, .lastLog) :: steps 2 6 ++
  (1, .call laterCall) :: steps 1 10

/-- In this run the entry of `tox_iterate` is removed from before that of its callback, and the
other three calls have their entries: two in the log that was fetched, one in the current log. -/
theorem logFaithful_exampleSchedule :
    ∃ s ls, System.perform State.next (.initial 3) exampleSchedule = some (ls, s) ∧
      (journal ls).records.map (fun r => (r.thread, r.name, r.isOpen)) =
        [(0, "tox4j_friend_name_cb", false), (1, "7", false), (1, "9", false)] ∧
      s.fetched.map (List.map JniLogEntry.name) = [["tox4j_friend_name_cb", "tox_bootstrap"]] ∧
      s.data.entries.map (fun cell => cell.value.name) = ["9"] ∧
      LogFaithful 3 s (journal ls) ∧
      List.Forall₂ (Carries s.names) (journal ls).records
        (s.fetched.flatten ++ s.data.entries.map Cell.value) := by
  obtain ⟨⟨ls, s⟩, hrun⟩ := Option.isSome_iff_exists.mp
    (show (System.perform State.next (.initial 3) exampleSchedule).isSome = true by
      decide +kernel)
  have hfacts : ((System.perform State.next (.initial 3) exampleSchedule).map fun p =>
      ((journal p.1).records.map fun r => (r.thread, r.name, r.isOpen),
        p.2.fetched.map (List.map JniLogEntry.name),
        p.2.data.entries.map fun cell => cell.value.name,
        decide (∀ t, (p.2.stack t).isEmpty = true))) =
      some ([(0, "tox4j_friend_name_cb", false), (1, "7", false), (1, "9", false)],
        [["tox4j_friend_name_cb", "tox_bootstrap"]], ["9"], true) := by
    decide +kernel
  rw [hrun, Option.map_some, Option.some.injEq, Prod.mk.injEq, Prod.mk.injEq, Prod.mk.injEq,
    decide_eq_true_iff] at hfacts
  obtain ⟨hrecords, hfetched, hcurrent, hquiet⟩ := hfacts
  have hfaithful := logFaithful_of_run (run_perform hrun)
  refine ⟨s, ls, hrun, hrecords, hfetched, hcurrent, hfaithful, (hfaithful.faithful ?_).2⟩
  intro t c p hmem
  rw [List.isEmpty_iff.mp (hquiet t)] at hmem
  exact absurd hmem List.not_mem_nil

end Example

end Tox4j.Log
