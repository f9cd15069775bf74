import Tox4j.Log.Threads

/-!
# `Tox4j.Log.Schedule`: performing the steps of the threads

`logging` is a relation: at each moment any thread may take its next step. `State.next` computes
the step of one thread, so that a schedule, which says whose turn it is, can be performed.
`run_perform` says that this gives a run. The allocator of a schedule goes upward.
-/

set_option autoImplicit false

namespace Tox4j.Log

open Tox4j.Lib

variable {Tid : Type} [DecidableEq Tid]

/-- What a frame does next: the memory after the step, the next point and what is recorded. `none`
when the thread waits for the mutex. -/
def Shared.next (s : Shared Tid) (t : Tid) :
    Frame → Option (Shared Tid × Option Frame × Option Event)
  | .call c .maxSize =>
    some (s, some (.call c (if s.data.maxSize = 0 then .running none else .lock)), none)
  | .call c .lock =>
    (s.mutex.lock t).map fun mutex => ({ s with mutex := mutex }, some (.call c .sizeCheck), none)
  | .call c .sizeCheck =>
    if s.data.full then some (s, some (.call c .unlockFull), none)
    else
      let a := s.data.entries.fresh
      some ({ s with data := s.data.addEntry a }, some (.call c (.printFunc a)), some (.granted c))
  | .call c .unlockFull =>
    some ({ s with mutex := s.mutex.unlock }, some (.call c (.running none)), none)
  | .call c (.printFunc a) => some (s.printFunc c a, some (.call c (.printArgs a)), some .named)
  | .call c (.printArgs a) =>
    some (s.printArgs c a, some (.call c (.setInstanceNumber a)), none)
  | .call c (.setInstanceNumber a) =>
    some (s.setInstanceNumber c a, some (.call c (.running (some a))), none)
  | .call c (.running (some a)) => some (s, some (.call c (.printResult a)), none)
  | .call _ (.running none) => some (s, none, none)
  | .call c (.printResult a) => some (s.printResult c a, some (.call c (.destroy a)), none)
  | .call c (.destroy a) =>
    some (s.update (s.data.destroyEntry a), some (.call c .unlock), some .ended)
  | .call _ .unlock => some ({ s with mutex := s.mutex.unlock }, none, none)
  | .sizeLock =>
    (s.mutex.lock t).map fun mutex => ({ s with mutex := mutex }, some .size, none)
  | .size => some (s, some (.sizeUnlock (s.data.entries.length == 0)), none)
  | .sizeUnlock true => some ({ s with mutex := s.mutex.unlock }, none, none)
  | .sizeUnlock false => some ({ s with mutex := s.mutex.unlock }, some .clearLock, none)
  | .clearLock =>
    (s.mutex.lock t).map fun mutex => ({ s with mutex := mutex }, some .clear, none)
  | .clear => some (s.clear, some .clearUnlock, none)
  | .clearUnlock => some ({ s with mutex := s.mutex.unlock }, none, none)
  | .filterLock filters =>
    (s.mutex.lock t).map fun mutex => ({ s with mutex := mutex }, some (.filter filters), none)
  | .filter filters =>
    some ({ s with data := { s.data with filters := filters } }, some .filterUnlock,
      some (.filtered filters))
  | .filterUnlock => some ({ s with mutex := s.mutex.unlock }, none, none)

/-- What a thread may be told to do. -/
inductive Action
  | call (c : Call)
  | lastLog
  | setFilter (filters : List String)
  | register (func : FuncPointer) (name : String)
  /-- Take the next step of its innermost frame. -/
  | advance

/-- The thread is in no call, or it runs the function of one. -/
def mayCall : List Frame → Bool
  | [] => true
  | stack => match stack.getLast? with
    | some (.call _ (.running _)) => true
    | _ => false

/-- A name of a function, that starts with a letter. -/
def isIdentifier (name : String) : Bool :=
  match name.toList with
  | [] => false
  | c :: _ => !c.isDigit

/-- The thread does what it is told, unless it has to wait or is elsewhere. -/
def State.next (s : State Tid) :
    Tid × Action → Option ((Tid × Option Event) × State Tid)
  | (t, .call c) =>
    if mayCall (s.stack t) then some ((t, none), s.enter t (.call c .maxSize)) else none
  | (t, .lastLog) =>
    if (s.stack t).isEmpty then some ((t, none), s.enter t .sizeLock) else none
  | (t, .setFilter filters) =>
    if (s.stack t).isEmpty then some ((t, none), s.enter t (.filterLock filters)) else none
  | (t, .register func name) =>
    if isIdentifier name ∧ func ∉ s.names.map Prod.fst then
      some ((t, some (.registered func name)), { s with names := s.names ++ [(func, name)] })
    else none
  | (t, .advance) => do
    let f ← (s.stack t).getLast?
    let (shared, r, e) ← s.toShared.next t f
    return ((t, e), s.move t shared ((s.stack t).dropLast ++ r.toList))

variable {s : Shared Tid} {t : Tid} {f : Frame}

/-- Taking the mutex is a step from each of the points that do. -/
theorem frameStep_of_lock {s' : Shared Tid} {f' : Frame} {r : Option Frame} {e : Option Event}
    (h : (s.mutex.lock t).map (fun mutex => ({ s with mutex := mutex }, some f', none)) =
      some (s', r, e))
    (hstep : ∀ mutex, s.mutex.lock t = some mutex →
      FrameStep s t f { s with mutex := mutex } (some f') none) : FrameStep s t f s' r e := by
  obtain ⟨mutex, hmutex, heq⟩ := Option.map_eq_some_iff.mp h
  cases heq
  exact hstep mutex hmutex

/-- What is computed for a point in a logged call is a step. -/
theorem frameStep_of_call {c : Call} {p : Point} {s' : Shared Tid} {r : Option Frame}
    {e : Option Event} (h : s.next t (.call c p) = some (s', r, e)) :
    FrameStep s t (.call c p) s' r e := by
  cases p with
  | maxSize =>
      rw [Shared.next] at h
      split at h
      · rename_i hzero
        cases h
        exact .disabled hzero
      · rename_i hzero
        cases h
        exact .enabled hzero
  | lock => exact frameStep_of_lock h fun _ => .lock
  | sizeCheck =>
      rw [Shared.next] at h
      split at h
      · rename_i hfull
        cases h
        exact .full hfull
      · rename_i hfull
        cases h
        exact .grant (Bool.eq_false_iff.mpr hfull) (AddressedList.fresh_notMem _)
  | running entry =>
      cases entry with
      | none =>
          cases h
          exact .returnedRefused
      | some a =>
          cases h
          exact .returned
  | unlockFull =>
      cases h
      exact .unlockFull
  | printFunc a =>
      cases h
      exact .printFunc
  | printArgs a =>
      cases h
      exact .printArgs
  | setInstanceNumber a =>
      cases h
      exact .setInstanceNumber
  | printResult a =>
      cases h
      exact .printResult
  | destroy a =>
      cases h
      exact .destroy
  | unlock =>
      cases h
      exact .unlock

/-- What is computed for a frame is a step of the thread, with one of the addresses that the
allocator may choose. -/
theorem frameStep_of_next {s' : Shared Tid} {r : Option Frame} {e : Option Event}
    (h : s.next t f = some (s', r, e)) : FrameStep s t f s' r e := by
  cases f with
  | call c p => exact frameStep_of_call h
  | sizeLock => exact frameStep_of_lock h fun _ => .sizeLock
  | clearLock => exact frameStep_of_lock h fun _ => .clearLock
  | filterLock filters => exact frameStep_of_lock h fun _ => .filterLock
  | sizeUnlock empty =>
      cases empty with
      | true =>
          cases h
          exact .sizeUnlockEmpty
      | false =>
          cases h
          exact .sizeUnlock
  | size =>
      cases h
      exact .size
  | clear =>
      cases h
      exact .clear
  | clearUnlock =>
      cases h
      exact .clearUnlock
  | filter filters =>
      cases h
      exact .filter
  | filterUnlock =>
      cases h
      exact .filterUnlock

omit [DecidableEq Tid] in
/-- A thread that may call is in no call, or its innermost frame runs a function. -/
theorem mayCall_spec {stack : List Frame} (h : mayCall stack = true) :
    stack = [] ∨ ∃ rest outer entry, stack = rest ++ [.call outer (.running entry)] := by
  cases stack using List.reverseRecOn with
  | nil => exact .inl rfl
  | append_singleton rest f =>
      right
      have hlast : (rest ++ [f]).getLast? = some f := List.getLast?_concat ..
      unfold mayCall at h
      split at h
      · rename_i hnil
        simp at hnil
      · rw [hlast] at h
        split at h
        · rename_i outer entry heq
          cases heq
          exact ⟨rest, outer, entry, rfl⟩
        · exact absurd h Bool.false_ne_true

/-- The test for an identifier, as a statement about its characters. -/
theorem isIdentifier_spec {name : String} (h : isIdentifier name = true) : IsIdentifier name := by
  unfold isIdentifier at h
  split at h
  · exact absurd h Bool.false_ne_true
  · rename_i c cs heq
    exact ⟨c, cs, heq, by simpa using h⟩

/-- What a thread does when it is told to is a step of the system. -/
theorem step_of_next {maxSize : Nat} {S S' : State Tid} {a : Tid × Action}
    {l : Tid × Option Event} (h : S.next a = some (l, S')) : (logging maxSize).step S l S' := by
  obtain ⟨t, action⟩ := a
  cases action with
  | call c =>
      obtain ⟨hmay, h⟩ := Option.ite_none_right_eq_some.mp h
      cases h
      exact .call c (mayCall_spec hmay)
  | lastLog =>
      obtain ⟨hempty, h⟩ := Option.ite_none_right_eq_some.mp h
      cases h
      exact .lastLog (List.isEmpty_iff.mp hempty)
  | setFilter filters =>
      obtain ⟨hempty, h⟩ := Option.ite_none_right_eq_some.mp h
      cases h
      exact .setFilter filters (List.isEmpty_iff.mp hempty)
  | register func name =>
      obtain ⟨⟨hname, hnew⟩, h⟩ := Option.ite_none_right_eq_some.mp h
      cases h
      exact .register func name (isIdentifier_spec hname) hnew
  | advance =>
      obtain ⟨f, hlast, h⟩ := Option.bind_eq_some_iff.mp h
      obtain ⟨⟨shared, r, e⟩, hnext, h⟩ := Option.bind_eq_some_iff.mp h
      cases h
      have hstack : S.stack t = (S.stack t).dropLast ++ [f] := by
        obtain ⟨rest, heq⟩ := List.getLast?_eq_some_iff.mp hlast
        rw [heq, List.dropLast_concat]
      exact .advance hstack (frameStep_of_next hnext)

/-- A schedule that was performed from the beginning is a run, with the labels of its steps. -/
theorem run_perform {maxSize : Nat} {schedule : List (Tid × Action)} {S : State Tid}
    {ls : List (Tid × Option Event)}
    (h : System.perform State.next (.initial maxSize) schedule = some (ls, S)) :
    (logging maxSize).Run S ls :=
  System.Run.perform (fun _ _ _ _ => step_of_next) (.init rfl) h

end Tox4j.Log
