import Mathlib.Data.List.Basic

/-!
# State machines

`StateMachine<S>` holds a pointer to its current state and runs the states'
hooks around every `setCurrentState()`. Programs over a machine are state
passing with exceptions; as in C++, a thrown exception keeps the state it was
thrown in. The `trace` of a machine is a ghost: what its hooks, its observer
and its owner's callbacks were called with, in the order the calls began.
-/

namespace ModernCommon

/-- Name reported for a machine without a current state. -/
def kUndefined : String := "UNDEFINED_STATE"

/-- A state machine over states `S`, compared by identity; `none` is the null
pointer. -/
structure StateMachine (S E : Type) where
  name : String
  currentState : Option S := none
  trace : List E := []
  deriving DecidableEq

/-- Programs over a machine that may throw an `ε`. -/
abbrev MachineM (S E ε α : Type) := EStateM ε (StateMachine S E) α

/-- The virtual members of the state classes of a machine, and its transition
observer. -/
structure Hooks (S E ε : Type) where
  getName : S → String
  onEntry : S → Option S → MachineM S E ε Unit := fun _ _ => pure ()
  onExit : S → Option S → MachineM S E ε Unit := fun _ _ => pure ()
  observer : Option (String → String → String → MachineM S E ε Unit) := none

/-- Name of a possibly null state. -/
def Hooks.stateName (hooks : Hooks S E ε) : Option S → String
  | some state => hooks.getName state
  | none => kUndefined

/-- `StateMachine<S>::setCurrentState`: the old state's `onExit`, the observer,
the swap, then the new state's `onEntry`. -/
def setCurrentState (hooks : Hooks S E ε) (state : Option S) :
    MachineM S E ε Unit := do
  let oldState := (← get).currentState
  let oldName := hooks.stateName oldState
  if let some current := oldState then
    hooks.onExit current state
  let newName := hooks.stateName state
  if let some observer := hooks.observer then
    observer (← get).name oldName newName
  modify fun machine => { machine with currentState := state }
  if let some current := state then
    hooks.onEntry current oldState

/-- Hooks whose states override nothing, on a machine without an observer. -/
def Hooks.plain (getName : S → String) : Hooks S E ε where
  getName := getName

/-- Without hooks and observer a transition is the bare pointer swap. -/
@[simp] theorem setCurrentState_plain
    (getName : S → String)
    (state : Option S)
    (machine : StateMachine S E) :
    (setCurrentState (Hooks.plain getName) state : MachineM S E ε Unit).run
        machine =
      .ok () { machine with currentState := state } := by
  cases oldState : machine.currentState <;> cases state <;>
    simp [setCurrentState, Hooks.plain, oldState]

/-- Append one call to the ghost trace. -/
def record (event : E) : MachineM S E ε Unit :=
  modify fun machine => { machine with trace := machine.trace ++ [event] }

@[simp] theorem record_run
    (event : E)
    (machine : StateMachine S E) :
    (record event : MachineM S E ε Unit).run machine =
      .ok () { machine with trace := machine.trace ++ [event] } := rfl

/-- Run a program and catch whatever it throws. -/
def caught (program : MachineM S E ε Unit) : MachineM S E ε Unit :=
  tryCatch program fun _ => pure ()

/-- A caught program goes on in the state it returned or threw in. -/
theorem caught_run
    {program : MachineM S E ε Unit}
    {before reached : StateMachine S E}
    (ends : program.run before = .ok () reached ∨
      ∃ thrown, program.run before = .error thrown reached) :
    (caught program).run before = .ok () reached := by
  rw [EStateM.run] at ends
  unfold caught
  rcases ends with returned | ⟨thrown, threw⟩
  · simp [tryCatch, tryCatchThe, MonadExceptOf.tryCatch, EStateM.tryCatch,
      EStateM.run, returned]
  · simp [tryCatch, tryCatchThe, MonadExceptOf.tryCatch, EStateM.tryCatch,
      EStateM.run, threw, EStateM.Backtrackable.restore, EStateM.dummyRestore,
      pure, EStateM.pure]

end ModernCommon
