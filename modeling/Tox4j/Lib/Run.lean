import Mathlib

/-!
# `Tox4j.Lib.Run`: transition systems and their runs

A system is a set of initial states and a labelled step relation. `System.Run s ls` says
that `s` is reached from an initial state by steps with the labels `ls`, oldest first. So
a run carries its history, and a property of the history is stated about `ls`.

The rule is the induction every development over runs repeats: an invariant that each step
keeps holds in every state reached (`Run.invariant`, `Reachable.invariant`).
`System.restrict` keeps the steps that meet a condition, and reaches no other states
(`Reachable.of_restrict`).

A step relation cannot be evaluated. When a function computes some of the steps, `perform` takes
those that a schedule names, and `Run.perform` says that the result is a run.
-/

set_option autoImplicit false

namespace Tox4j.Lib

/-- Initial states and labelled steps. -/
structure System (State Label : Type) where
  init : State → Prop
  step : State → Label → State → Prop

namespace System

variable {State Label : Type}

/-- `Run sys s ls`: some initial state reaches `s` by steps labelled `ls`, oldest first. -/
inductive Run (sys : System State Label) : State → List Label → Prop
  | init {s : State} (h : sys.init s) : Run sys s []
  | step {s s' : State} {ls : List Label} {l : Label} (run : Run sys s ls)
      (h : sys.step s l s') : Run sys s' (ls ++ [l])

/-- `s` is reached by some run. -/
def Reachable (sys : System State Label) (s : State) : Prop :=
  ∃ ls, sys.Run s ls

variable {sys : System State Label}

/-- The invariant rule with history: `I` holds of every run when it holds initially and
each step keeps it. -/
theorem Run.invariant {I : State → List Label → Prop}
    (hinit : ∀ s, sys.init s → I s [])
    (hstep : ∀ s ls l s', I s ls → sys.step s l s' → I s' (ls ++ [l]))
    {s : State} {ls : List Label} (run : sys.Run s ls) : I s ls := by
  induction run with
  | init h => exact hinit _ h
  | step _ h ih => exact hstep _ _ _ _ ih h

/-- A label of a run is that of a step, from the state that the labels before it lead to. -/
theorem Run.step_of_append {s : State} {ls ls' : List Label} {l : Label}
    (run : sys.Run s (ls ++ l :: ls')) : ∃ s₁ s₂, sys.Run s₁ ls ∧ sys.step s₁ l s₂ := by
  generalize heq : ls ++ l :: ls' = whole at run
  induction run generalizing ls' with
  | init => simp at heq
  | @step s₁ s₂ before last run h ih =>
      cases ls' using List.reverseRecOn with
      | nil =>
          obtain ⟨rfl, hlast⟩ := List.append_inj' heq rfl
          cases hlast
          exact ⟨_, _, run, h⟩
      | append_singleton ls' k =>
          -- The label is before the last step, so it is one of the shorter run.
          have hshort : ls ++ l :: ls' = before := by
            have hends : (ls ++ l :: ls') ++ [k] = before ++ [last] := by simpa using heq
            exact (List.append_inj' hends rfl).1
          exact ih hshort

/-- The invariant rule for reachable states. -/
theorem Reachable.invariant {I : State → Prop}
    (hinit : ∀ s, sys.init s → I s)
    (hstep : ∀ s l s', I s → sys.step s l s' → I s')
    {s : State} (h : sys.Reachable s) : I s := by
  obtain ⟨ls, run⟩ := h
  exact run.invariant (I := fun s _ => I s) hinit fun s _ l s' hI => hstep s l s' hI

/-- The system that takes only the steps with `P`, a condition on the state before the step
and on its label. -/
def restrict (sys : System State Label) (P : State → Label → Prop) : System State Label where
  init := sys.init
  step s l s' := P s l ∧ sys.step s l s'

/-- A state that is reached by steps with `P` is reached by steps. -/
theorem Reachable.of_restrict {P : State → Label → Prop} {s : State}
    (h : (sys.restrict P).Reachable s) : sys.Reachable s := by
  obtain ⟨ls, run⟩ := h
  refine ⟨ls, ?_⟩
  induction run with
  | init h => exact .init h
  | step _ h ih => exact .step ih h.2

/-- Take the steps of a schedule, one after the other. `next` computes the label and the state
after a step, or `none` when the step cannot be taken. -/
def perform {Action : Type} (next : State → Action → Option (Label × State)) (s : State) :
    List Action → Option (List Label × State)
  | [] => some ([], s)
  | a :: schedule => do
    let (l, s') ← next s a
    let (ls, s'') ← perform next s' schedule
    return (l :: ls, s'')

/-- A schedule goes on from the end of a run. The computed steps have to be steps of the system; it
may have others, which no schedule takes. -/
theorem Run.perform {Action : Type} {next : State → Action → Option (Label × State)}
    (hnext : ∀ s a l s', next s a = some (l, s') → sys.step s l s') {schedule : List Action}
    {s s' : State} {ls ls' : List Label} (run : sys.Run s ls)
    (h : System.perform next s schedule = some (ls', s')) : sys.Run s' (ls ++ ls') := by
  induction schedule generalizing s ls ls' with
  | nil =>
      cases h
      rw [List.append_nil]
      exact run
  | cons a schedule ih =>
      obtain ⟨⟨l, s₁⟩, hstep, h⟩ := Option.bind_eq_some_iff.mp h
      obtain ⟨⟨ls₁, s₂⟩, hrest, h⟩ := Option.bind_eq_some_iff.mp h
      cases h
      have hrun := ih (run.step (hnext _ _ _ _ hstep)) hrest
      rw [List.append_assoc, List.singleton_append] at hrun
      exact hrun

end System

end Tox4j.Lib
