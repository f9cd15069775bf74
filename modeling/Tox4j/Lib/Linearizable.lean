import Tox4j.Lib.Run

/-!
# `Tox4j.Lib.Linearizable`: histories of overlapping operations

Operations on a shared object overlap. A history lists the starts and the ends of the
operations, oldest first. A history is linearizable to a system of calls that take effect
one after the other when there is an order of the operations (a `log`) such that:

* the log is a run of the system, with the results of the history,
* an operation that has ended is in the log, and one that has not may be in it,
* an operation that ended before another one started is before it in the log.

The rule is the one of linearization points. A log that grows at one step between the start
and the end of each operation linearizes the history: `Linearizes.invoke`,
`Linearizes.commit` and `Linearizes.respond` are the three kinds of steps.
-/

set_option autoImplicit false

namespace Tox4j.Lib

open scoped List

/-- The start or the end of the operation with the number `op`. -/
inductive Action (Call Ret : Type)
  | invoke (op : Nat) (c : Call)
  | respond (op : Nat) (r : Ret)
  deriving DecidableEq, Repr

variable {Call Ret State : Type}

/-- The operations in the order in which they take effect. -/
abbrev OpLog (Call Ret : Type) := List (Nat × Call × Ret)

/-- The order of the log is an order of the operations of the history. -/
structure Linearizes (log : OpLog Call Ret) (history : List (Action Call Ret)) : Prop where
  once : (log.map Prod.fst).Nodup
  invoked : ∀ op c r, (op, c, r) ∈ log → .invoke op c ∈ history
  responded : ∀ op r, .respond op r ∈ history →
    ∃ c, (op, c, r) ∈ log ∧ [.invoke op c, .respond op r] <+ history
  realTime : ∀ op r op' c', [.respond op r, .invoke op' c'] <+ history →
    op' ∈ log.map Prod.fst → [op, op'] <+ log.map Prod.fst

/-- The history is that of operations that take effect one after the other. -/
def Linearizable (sys : System State (Call × Ret)) (history : List (Action Call Ret)) : Prop :=
  ∃ log s, Linearizes log history ∧ sys.Run s (log.map Prod.snd)

variable {log : OpLog Call Ret} {history : List (Action Call Ret)} {op : Nat} {c : Call} {r : Ret}

/-- A pair of elements of a list that grew by one element is an old pair, or ends with the
new element. -/
theorem pair_sublist_concat {α : Type} {x y z : α} {xs : List α} (h : [x, y] <+ xs ++ [z]) :
    [x, y] <+ xs ∨ (x ∈ xs ∧ y = z) := by
  obtain ⟨l₁, l₂, heq, h₁, h₂⟩ := List.sublist_append_iff.mp h
  -- The last element takes none of the pair, or its second half, or has to take both.
  match l₁, l₂, heq with
  | [], [_, _], _ => exact absurd h₂.length_le (by simp)
  | [a], [b], heq =>
      simp only [List.cons_append, List.nil_append, List.cons.injEq, and_true] at heq
      obtain ⟨rfl, rfl⟩ := heq
      exact .inr ⟨List.singleton_sublist.mp h₁, by simpa using h₂⟩
  | [a, b], [], heq =>
      simp only [List.append_nil] at heq
      rw [heq]
      exact .inl h₁

/-- An operation is not in a longer log when it is not in the log, and not the one that was
added. -/
theorem notMem_ops_concat {e : Nat × Call × Ret} (hop : op ≠ e.1)
    (hold : op ∉ log.map Prod.fst) : op ∉ (log ++ [e]).map Prod.fst := by
  rw [List.map_append, List.mem_append, not_or]
  exact ⟨hold, fun hmem => hop (List.mem_singleton.mp hmem)⟩

namespace Linearizes

/-- The empty log explains the empty history. -/
theorem nil : Linearizes ([] : OpLog Call Ret) [] where
  once := List.nodup_nil
  invoked _ _ _ h := absurd h List.not_mem_nil
  responded _ _ h := absurd h List.not_mem_nil
  realTime _ _ _ _ h := absurd h.length_le (by simp)

/-- An operation starts. Its number is new. -/
theorem invoke (h : Linearizes log history) (hnew : op ∉ log.map Prod.fst) :
    Linearizes log (history ++ [.invoke op c]) where
  once := h.once
  invoked op' c' r' hmem := List.mem_append_left _ (h.invoked op' c' r' hmem)
  responded op' r' hmem := by
    have hmem : .respond op' r' ∈ history := by simpa using hmem
    obtain ⟨c', hlog, hsub⟩ := h.responded op' r' hmem
    exact ⟨c', hlog, hsub.trans (List.sublist_append_left ..)⟩
  realTime op₁ r₁ op₂ c₂ hsub hlog := by
    cases pair_sublist_concat hsub with
    | inl hold => exact h.realTime op₁ r₁ op₂ c₂ hold hlog
    | inr hlast =>
        -- The new operation is not in the log yet.
        obtain ⟨rfl, -⟩ := Action.invoke.inj hlast.2
        exact absurd hlog hnew

/-- An operation that has started takes effect. -/
theorem commit (h : Linearizes log history) (hnew : op ∉ log.map Prod.fst)
    (hinvoked : .invoke op c ∈ history) : Linearizes (log ++ [(op, c, r)]) history where
  once := by
    rw [List.map_append]
    show (log.map Prod.fst ++ [op]).Nodup
    rw [← List.concat_eq_append]
    exact List.Nodup.concat hnew h.once
  invoked op' c' r' hmem := by
    rcases List.mem_append.mp hmem with hmem | hmem
    · exact h.invoked op' c' r' hmem
    · obtain ⟨rfl, rfl, rfl⟩ : op' = op ∧ c' = c ∧ r' = r := by simpa using hmem
      exact hinvoked
  responded op' r' hmem := by
    obtain ⟨c', hlog, hsub⟩ := h.responded op' r' hmem
    exact ⟨c', List.mem_append_left _ hlog, hsub⟩
  realTime op₁ r₁ op₂ c₂ hsub hlog := by
    rw [List.map_append] at hlog ⊢
    rcases List.mem_append.mp hlog with hlog | hlog
    · exact (h.realTime op₁ r₁ op₂ c₂ hsub hlog).trans (List.sublist_append_left ..)
    · -- An operation that has ended is in the log already, so before the new one.
      obtain ⟨c₁, hlog₁, -⟩ :=
        h.responded op₁ r₁ (hsub.subset (List.mem_cons_self ..))
      have hfirst : [op₁] <+ log.map Prod.fst :=
        List.singleton_sublist.mpr (List.mem_map_of_mem (f := Prod.fst) hlog₁)
      exact hfirst.append (List.singleton_sublist.mpr hlog)

/-- An operation that took effect ends with the result that the log has for it. -/
theorem respond (h : Linearizes log history) (hlog : (op, c, r) ∈ log) :
    Linearizes log (history ++ [.respond op r]) where
  once := h.once
  invoked op' c' r' hmem := List.mem_append_left _ (h.invoked op' c' r' hmem)
  responded op' r' hmem := by
    rcases List.mem_append.mp hmem with hmem | hmem
    · obtain ⟨c', hlog', hsub⟩ := h.responded op' r' hmem
      exact ⟨c', hlog', hsub.trans (List.sublist_append_left ..)⟩
    · obtain ⟨rfl, rfl⟩ : op' = op ∧ r' = r := by simpa using hmem
      have hfirst : [.invoke op' c] <+ history :=
        List.singleton_sublist.mpr (h.invoked op' c r' hlog)
      exact ⟨c, hlog, hfirst.append (List.Sublist.refl _)⟩
  realTime op₁ r₁ op₂ c₂ hsub hmem := by
    cases pair_sublist_concat hsub with
    | inl hold => exact h.realTime op₁ r₁ op₂ c₂ hold hmem
    | inr hlast => cases hlast.2

end Linearizes

end Tox4j.Lib
