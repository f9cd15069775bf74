import Tox4j.Log.Nested

/-!
# `Tox4j.Log.Limit`: which calls a log with a limit has

A log with the limit `maxSize` should have the first `maxSize` of the calls whose names are not
in the filter. A call whose name is in the filter has an entry while it runs, and this entry
counts for the limit.

`prefixLogged_iff` says for which calls the log is as it should be. Take a call that is not in
the filter and comes after `n` such calls, with `n` below the limit. It runs inside of some
calls that are in the filter, and each of them has an entry. So there is room for its own entry
when `n` and their number are together below the limit, and else the call is dropped.

The proof compares `kept`, the calls whose entries stay, with `visible`, the calls that are not
in the filter (`kept_iff`).
-/

set_option autoImplicit false

namespace Tox4j.Log

open Tox4j.Lib

variable {names : FuncNames} {filters : List String} {maxSize : Nat}

/-- The calls that are not in the filter, with their numbers, in the order they start. The next
number is `i`. -/
def visible (names : FuncNames) (filters : List String) : Nat → Calls → List (Nat × Call)
  | _, .done => []
  | i, .call c nested rest =>
    (if hidden names filters c then [] else [(i, c)]) ++ visible names filters (i + 1) nested ++
      visible names filters (i + 1 + nested.count) rest

/-- For each call that is not in the filter, in the order they start, how many calls in the
filter it is nested in, when all of them are nested in `depth` ones. -/
def depths (names : FuncNames) (filters : List String) : Nat → Calls → List Nat
  | _, .done => []
  | depth, .call c nested rest =>
    if hidden names filters c then
      depths names filters (depth + 1) nested ++ depths names filters depth rest
    else
      depth :: depths names filters depth nested ++ depths names filters depth rest

/-- The log at first. -/
def Traced.empty (maxSize : Nat) (names : FuncNames) (filters : List String) : Traced Unit where
  data := ⟨maxSize, [], filters⟩
  mutex := .free
  names := names
  fetched := []
  fatal := none
  started := 0
  owner _ := 0

/-- After the calls, the log has the entries of the first `maxSize` calls that are not in the
filter, in order. -/
def PrefixLogged (alloc : Allocator) (maxSize : Nat) (names : FuncNames) (filters : List String)
    (cs : Calls) : Prop :=
  let s := runCalls alloc cs (.empty maxSize names filters)
  s.fatal = none ∧
    s.data.entries.map (fun cell => (s.owner cell.address, cell.value)) =
      ((visible names filters 0 cs).take maxSize).map fun p => (p.1, p.2.entry names)

/-! ### Numbers -/

/-- The calls of a block have the numbers from the first one up to the count of the block. -/
theorem visible_bounds {cs : Calls} {i : Nat} {p : Nat × Call}
    (h : p ∈ visible names filters i cs) : i ≤ p.1 ∧ p.1 < i + cs.count := by
  induction cs generalizing i with
  | done => exact absurd h List.not_mem_nil
  | call c nested rest ihnested ihrest =>
      rw [visible, List.mem_append, List.mem_append] at h
      rw [Calls.count]
      rcases h with (hown | hnested) | hrest
      · have hp : p = (i, c) := by
          split at hown
          · exact absurd hown List.not_mem_nil
          · exact List.mem_singleton.mp hown
        subst hp
        show i ≤ i ∧ i < _
        omega
      · have hbounds := ihnested hnested
        omega
      · have hbounds := ihrest hrest
        omega

/-- Only calls that are not in the filter are kept. -/
theorem kept_sublist (cs : Calls) (i size : Nat) :
    (kept names filters maxSize i size cs).Sublist (visible names filters i cs) := by
  induction cs generalizing i size with
  | done => exact .refl _
  | call c nested rest ihnested ihrest =>
      rw [kept, visible]
      split
      · exact ((ihnested ..).trans (List.sublist_append_right ..)).append (ihrest ..)
      · exact ((List.Sublist.refl _).append (ihnested ..)).append (ihrest ..)

/-- There is a depth for each call that is not in the filter. -/
theorem length_depths (cs : Calls) (depth i : Nat) :
    (depths names filters depth cs).length = (visible names filters i cs).length := by
  induction cs generalizing depth i with
  | done => rfl
  | call c nested rest ihnested ihrest =>
      rw [depths, visible]
      split
      · simp only [List.length_append, List.nil_append]
        rw [ihnested (depth + 1) (i + 1), ihrest depth (i + 1 + nested.count)]
      · simp only [List.length_append, List.length_cons, List.length_nil, List.cons_append]
        rw [ihnested depth (i + 1), ihrest depth (i + 1 + nested.count)]
        omega

/-- Calls in a block are nested in all the calls that the block is nested in. -/
theorem le_depths {cs : Calls} {depth d : Nat} (h : d ∈ depths names filters depth cs) :
    depth ≤ d := by
  induction cs generalizing depth with
  | done => exact absurd h List.not_mem_nil
  | call c nested rest ihnested ihrest =>
      rw [depths] at h
      split at h
      · rcases List.mem_append.mp h with hnested | hrest
        · have hle := ihnested hnested
          omega
        · exact ihrest hrest
      · rcases List.mem_append.mp h with hnested | hrest
        · rcases List.mem_cons.mp hnested with rfl | hnested
          · exact Nat.le_refl _
          · exact ihnested hnested
        · exact ihrest hrest

/-- Two lists with the numbers below `b` first are equal when their parts are. -/
theorem append_eq_append_iff_of_split {A B C D : List Nat} {b : Nat} (hA : ∀ x ∈ A, x < b)
    (hB : ∀ x ∈ B, b ≤ x) (hC : ∀ x ∈ C, x < b) (hD : ∀ x ∈ D, b ≤ x) :
    A ++ B = C ++ D ↔ A = C ∧ B = D := by
  have hlow : ∀ {l : List Nat}, (∀ x ∈ l, x < b) → l.filter (· < b) = l := by
    intro l hl
    refine List.filter_eq_self.mpr ?_
    intro x hx
    exact decide_eq_true (hl x hx)
  have hhigh : ∀ {l : List Nat}, (∀ x ∈ l, b ≤ x) → l.filter (· < b) = [] := by
    intro l hl
    refine List.filter_eq_nil_iff.mpr ?_
    intro x hx
    have hle := hl x hx
    simpa using hle
  constructor
  · intro h
    have hparts := congrArg (List.filter (· < b)) h
    rw [List.filter_append, List.filter_append, hlow hA, hhigh hB, hlow hC, hhigh hD,
      List.append_nil, List.append_nil] at hparts
    subst hparts
    exact ⟨rfl, List.append_cancel_left h⟩
  · rintro ⟨rfl, rfl⟩
    rfl

/-- The numbers of some calls. -/
def numbers (calls : List (Nat × Call)) : List Nat := calls.map Prod.fst

/-- The numbers of two lists of calls, one after the other. -/
theorem numbers_append (l l' : List (Nat × Call)) : numbers (l ++ l') = numbers l ++ numbers l' :=
  List.map_append

/-- The numbers of the calls of a block, in the same way. -/
theorem numbers_bounds {cs : Calls} {i x : Nat} (h : x ∈ numbers (visible names filters i cs)) :
    i ≤ x ∧ x < i + cs.count := by
  obtain ⟨p, hp, rfl⟩ := List.mem_map.mp h
  exact visible_bounds hp

/-- The calls have different numbers. -/
theorem nodup_numbers (cs : Calls) (i : Nat) : (numbers (visible names filters i cs)).Nodup := by
  induction cs generalizing i with
  | done => exact List.nodup_nil
  | call c nested rest ihnested ihrest =>
      have hown : (numbers (if hidden names filters c then [] else [(i, c)])).Sublist [i] := by
        split
        · exact List.nil_sublist _
        · exact List.Sublist.refl _
      rw [visible, numbers_append, numbers_append]
      -- The numbers of the call, of those nested in it and of those after it are apart.
      refine List.Nodup.append (List.Nodup.append ?_ (ihnested _) ?_) (ihrest _) ?_
      · exact hown.nodup (List.nodup_singleton i)
      · intro x hx hx'
        have hi := List.mem_singleton.mp (hown.subset hx)
        have hnested := numbers_bounds hx'
        omega
      · intro x hx hx'
        have hrest := numbers_bounds hx'
        cases List.mem_append.mp hx with
        | inl hx =>
            have hi := List.mem_singleton.mp (hown.subset hx)
            omega
        | inr hx =>
            have hnested := numbers_bounds hx
            omega

/-- Calls that are not in the filter are given by their numbers. -/
theorem eq_of_numbers {cs : Calls} {i : Nat} {l l' : List (Nat × Call)}
    (hl : ∀ p ∈ l, p ∈ visible names filters i cs)
    (hl' : ∀ p ∈ l', p ∈ visible names filters i cs) (h : numbers l = numbers l') : l = l' := by
  induction l generalizing l' with
  | nil => exact (List.map_eq_nil_iff.mp h.symm).symm
  | cons p l ih =>
      cases l' with
      | nil => exact absurd h (by simp [numbers])
      | cons q l' =>
          obtain ⟨hfirst, hrest⟩ := List.cons.inj h
          have hsame : p = q := List.inj_on_of_nodup_map (nodup_numbers cs i)
            (hl p List.mem_cons_self) (hl' q List.mem_cons_self) hfirst
          rw [hsame, ih (fun p hp => hl p (List.mem_cons_of_mem _ hp))
              (fun p hp => hl' p (List.mem_cons_of_mem _ hp)) hrest]

/-! ### Room for the entries -/

/-- The calls with these depths come after `n` calls that are not in the filter. Each that comes
before the limit has room for its entry. -/
def Roomy (maxSize n : Nat) (ds : List Nat) : Prop :=
  ∀ j d, ds[j]? = some d → n + j < maxSize → n + j + d < maxSize

variable {n : Nat}

/-- Without a call there is nothing to make room for. -/
theorem roomy_nil : Roomy maxSize n [] := fun j d h _ => absurd h (by simp)

/-- Room for the first call, and for all others after it. -/
theorem roomy_cons {d : Nat} {ds : List Nat} :
    Roomy maxSize n (d :: ds) ↔ (n < maxSize → n + d < maxSize) ∧ Roomy maxSize (n + 1) ds := by
  constructor
  · intro h
    refine ⟨h 0 d rfl, ?_⟩
    intro j d' hd' hlt
    have hroom := h (j + 1) d' hd'
    omega
  · rintro ⟨hfirst, hrest⟩ j d' hd' hlt
    cases j with
    | zero =>
        obtain rfl : d = d' := by simpa using hd'
        exact hfirst hlt
    | succ j =>
        have hroom := hrest j d' hd'
        omega

/-- Room for two lists of calls, one after the other. -/
theorem roomy_append {ds ds' : List Nat} :
    Roomy maxSize n (ds ++ ds') ↔ Roomy maxSize n ds ∧ Roomy maxSize (n + ds.length) ds' := by
  induction ds generalizing n with
  | nil => simp [roomy_nil]
  | cons d ds ih =>
      have hlength : n + 1 + ds.length = n + (d :: ds).length := by
        rw [List.length_cons]
        omega
      rw [List.cons_append, roomy_cons, roomy_cons, ih, hlength, and_assoc]

/-- When the log is full, nothing is kept. -/
theorem kept_full {cs : Calls} {i size : Nat} (h : maxSize ≤ size) :
    kept names filters maxSize i size cs = [] := by
  induction cs generalizing i with
  | done => rfl
  | call c nested rest ihnested ihrest =>
      rw [kept, if_pos h, ihnested]
      exact ihrest

/-- When the log is full, it is as it should be if no call is left that should be kept. -/
theorem full_iff (cs : Calls) {i n depth size : Nat} (hle : size ≤ n + depth)
    (hfull : maxSize ≤ size) :
    numbers (kept names filters maxSize i size cs) =
        numbers ((visible names filters i cs).take (maxSize - n)) ↔
      Roomy maxSize n (depths names filters depth cs) := by
  have hlength : (depths names filters depth cs).length = (visible names filters i cs).length :=
    length_depths cs depth i
  rw [kept_full hfull]
  constructor
  · intro h j d hd hlt
    -- Some call should be kept.
    obtain ⟨hj, -⟩ := List.getElem?_eq_some_iff.mp hd
    have hnone := congrArg List.length h
    simp only [numbers, List.map_nil, List.length_nil, List.length_map, List.length_take] at hnone
    omega
  · intro hroomy
    by_cases hn : maxSize ≤ n
    · rw [Nat.sub_eq_zero_of_le hn, List.take_zero]
    · cases hds : depths names filters depth cs with
      | nil =>
          have hnil : visible names filters i cs = [] := by
            rw [← List.length_eq_zero_iff, ← hlength, hds]
            rfl
          rw [hnil, List.take_nil]
      | cons d ds =>
          -- There is no room for the first call.
          have hdepth : depth ≤ d := by
            have hmem : d ∈ depths names filters depth cs := hds ▸ List.mem_cons_self
            exact le_depths hmem
          have hroom := hroomy 0 d (by rw [hds]; rfl) (by omega)
          omega

/-- What is kept of the calls nested in a call, and of those after it, can be told apart. -/
theorem numbers_append_iff (nested rest : Calls) (i size size' m m' : Nat) :
    numbers (kept names filters maxSize i size nested ++
        kept names filters maxSize (i + nested.count) size' rest) =
      numbers ((visible names filters i nested).take m ++
        (visible names filters (i + nested.count) rest).take m') ↔
    numbers (kept names filters maxSize i size nested) =
        numbers ((visible names filters i nested).take m) ∧
      numbers (kept names filters maxSize (i + nested.count) size' rest) =
        numbers ((visible names filters (i + nested.count) rest).take m') := by
  have hlow : ∀ l : List (Nat × Call), l.Sublist (visible names filters i nested) →
      ∀ x ∈ numbers l, x < i + nested.count := by
    intro l hl x hx
    obtain ⟨p, hp, rfl⟩ := List.mem_map.mp hx
    exact (visible_bounds (hl.subset hp)).2
  have hhigh : ∀ l : List (Nat × Call),
      l.Sublist (visible names filters (i + nested.count) rest) →
      ∀ x ∈ numbers l, i + nested.count ≤ x := by
    intro l hl x hx
    obtain ⟨p, hp, rfl⟩ := List.mem_map.mp hx
    exact (visible_bounds (hl.subset hp)).1
  rw [numbers_append, numbers_append]
  exact append_eq_append_iff_of_split (hlow _ (kept_sublist ..)) (hhigh _ (kept_sublist ..))
    (hlow _ (List.take_sublist ..)) (hhigh _ (List.take_sublist ..))

/-- There are `n` calls before, and the log has `size` entries: all calls before, as long as
there was room, and all calls in the filter that run. The kept calls are the first ones up to
the limit exactly when there is room for these. -/
theorem kept_iff (cs : Calls) (i n depth size : Nat) (hle : size ≤ n + depth)
    (hsize : size = n + depth ∨ maxSize ≤ size) :
    numbers (kept names filters maxSize i size cs) =
        numbers ((visible names filters i cs).take (maxSize - n)) ↔
      Roomy maxSize n (depths names filters depth cs) := by
  induction cs generalizing i n depth size with
  | done => simp [kept, visible, depths, roomy_nil, numbers]
  | call c nested rest ihnested ihrest =>
      by_cases hfull : maxSize ≤ size
      · exact full_iff (.call c nested rest) hle hfull
      · have hsize := hsize.resolve_right hfull
        have hlength (d : Nat) : (depths names filters d nested).length
            = (visible names filters (i + 1) nested).length := length_depths nested d (i + 1)
        have htake := fun (l : List (Nat × Call)) (m : Nat) => List.length_take (i := m) (l := l)
        rw [kept, if_neg hfull, visible, depths]
        cases hidden names filters c with
        | true =>
            -- The entry of the call is there while its nested calls run, and gone afterwards.
            simp only [if_true, List.nil_append]
            rw [List.take_append, numbers_append_iff, roomy_append, hlength,
              ← ihnested (i + 1) n (depth + 1) (size + 1) (by omega) (by omega)]
            refine and_congr_right ?_
            intro hinner
            -- The rest of the calls finds as many entries as the nested ones left.
            have hcount := congrArg List.length hinner
            simp only [numbers, List.length_map, htake] at hcount
            rw [Nat.sub_sub]
            exact ihrest (i + 1 + nested.count) _ depth _ (by omega) (by omega)
        | false =>
            -- The call itself is kept: the log is not full, so there was room for it.
            have hroom : n < maxSize → n + depth < maxSize := by omega
            obtain ⟨m, hm⟩ : ∃ m, maxSize - n = m + 1 := ⟨maxSize - n - 1, by omega⟩
            have hnext : m = maxSize - (n + 1) := by omega
            simp only [Bool.false_eq_true, if_false, List.cons_append, List.nil_append]
            rw [hm, List.take_succ_cons, numbers, numbers, List.map_cons, List.map_cons,
              List.cons_inj_right, hnext]
            show numbers _ = numbers _ ↔ _
            rw [List.take_append, numbers_append_iff, roomy_cons, roomy_append, hlength,
              ← ihnested (i + 1) (n + 1) depth (size + 1) (by omega) (by omega)]
            rw [and_iff_right hroom]
            refine and_congr_right ?_
            intro hinner
            have hcount := congrArg List.length hinner
            simp only [numbers, List.length_map, htake] at hcount
            rw [Nat.sub_sub]
            refine ihrest (i + 1 + nested.count) _ depth _ ?_ ?_
            · rw [List.length_cons]
              omega
            · rw [List.length_cons]
              omega

/-! ### The law -/

/-- The log is as it should be when the right calls are kept. -/
theorem prefixLogged_iff_kept (alloc : Allocator) (maxSize : Nat) (names : FuncNames)
    (filters : List String) (cs : Calls) :
    PrefixLogged alloc maxSize names filters cs ↔
      numbers (kept names filters maxSize 0 0 cs) =
        numbers ((visible names filters 0 cs).take maxSize) := by
  obtain ⟨added, owner, hrun, -, -, hadded⟩ :=
    runCalls_spec alloc cs (.empty maxSize names filters) List.nodup_nil
  have hfatal : (runCalls alloc cs (.empty maxSize names filters)).fatal = none := by
    rw [hrun]
    rfl
  have hentries : (runCalls alloc cs (.empty maxSize names filters)).data.entries.map
      (fun cell => ((runCalls alloc cs (.empty maxSize names filters)).owner cell.address,
        cell.value)) =
      (kept names filters maxSize 0 0 cs).map fun p => (p.1, p.2.entry names) := by
    rw [hrun]
    exact hadded
  rw [PrefixLogged]
  simp only [hfatal, true_and, hentries]
  constructor
  · intro h
    have hnumbers := congrArg (List.map Prod.fst) h
    rw [List.map_map, List.map_map] at hnumbers
    exact hnumbers
  · intro h
    rw [eq_of_numbers (fun p hp => (kept_sublist cs 0 0).subset hp)
      (fun p hp => List.take_subset _ _ hp) h]

/-- The log has the first calls that are not in the filter, up to the limit, exactly when each
of these calls has room for its entry: those before it and the calls in the filter that it is
nested in are together below the limit. -/
theorem prefixLogged_iff (alloc : Allocator) (maxSize : Nat) (names : FuncNames)
    (filters : List String) (cs : Calls) :
    PrefixLogged alloc maxSize names filters cs ↔
      ∀ n depth, (depths names filters 0 cs)[n]? = some depth → n < maxSize →
        n + depth < maxSize := by
  rw [prefixLogged_iff_kept]
  have hkept : numbers (kept names filters maxSize 0 0 cs) =
      numbers ((visible names filters 0 cs).take (maxSize - 0)) ↔
        Roomy maxSize 0 (depths names filters 0 cs) :=
    kept_iff cs 0 0 0 0 (Nat.le_refl 0) (.inl rfl)
  rw [Nat.sub_zero] at hkept
  rw [hkept, Roomy]
  simp only [Nat.zero_add]

/-- An allocator that never goes back. -/
def Allocator.upward : Allocator where
  choose _ entries := (entries.map Cell.address).foldr max 0 + 1
  fresh _ entries := AddressedList.fresh_notMem entries

/-- A call without arguments. -/
def callTo (func : FuncPointer) : Call := ⟨func, [], none, .void, ⟨0, 0⟩, 0⟩

/-- `tox_iterate` runs a callback. -/
def iterateWithCallback : Calls := .call (callTo 1) (.call (callTo 2) .done .done) .done

/-- With a limit of one entry, `tox_iterate` takes it, and the callback is dropped. -/
theorem not_prefixLogged :
    ¬ ∀ (alloc : Allocator) (maxSize : Nat) (names : FuncNames) (filters : List String)
      (cs : Calls), 0 < maxSize → PrefixLogged alloc maxSize names filters cs := by
  intro hall
  have hlogged := hall .upward 1 [(1, "tox_iterate"), (2, "tox4j_friend_name_cb")]
    ["tox_iterate"] iterateWithCallback Nat.one_pos
  rw [prefixLogged_iff_kept] at hlogged
  exact absurd hlogged (by decide)

end Tox4j.Log
