import ModernCommon.StateMachine

/-!
# Nested transitions

An `onEntry` hook may itself change the current state, and so may the hooks this
runs. However deep such calls are nested, the hooks and the observer see the
transitions one after another: each starts in the state the one before it led
to, and its events stand next to each other.
-/

namespace ModernCommon

variable {S ε : Type}

/-- A call of a state's hook or of the observer. -/
inductive TransitionEvent (S : Type)
  | exit (state : S) (newState : Option S)
  | observed (machine oldName newName : String)
  | entry (state : S) (oldState : Option S)
  deriving DecidableEq

/-- A call of `setCurrentState`, with the calls the new state's `onEntry` makes;
a null state makes none. -/
inductive Request (S : Type)
  | to (state : Option S) (inEntry : List (Request S))

/-- States whose hooks are recorded and whose `onEntry` then runs a program of
theirs, and an observer that is recorded. -/
def recordingHooks
    (getName : S → String)
    (inEntry : S → Option S → MachineM S (TransitionEvent S) ε Unit) :
    Hooks S (TransitionEvent S) ε where
  getName := getName
  onExit state newState := record (.exit state newState)
  observer := some fun machine oldName newName =>
    record (.observed machine oldName newName)
  onEntry state oldState := do
    record (.entry state oldState)
    inEntry state oldState

mutual

/-- Make a call; what its target's `onEntry` requests happens inside. -/
def Request.perform (getName : S → String) :
    Request S → MachineM S (TransitionEvent S) ε Unit
  | .to state inEntry =>
      setCurrentState
        (recordingHooks getName fun _ _ => performAll getName inEntry) state

/-- Make calls one after another. -/
def performAll (getName : S → String) :
    List (Request S) → MachineM S (TransitionEvent S) ε Unit
  | [] => pure ()
  | request :: requests => do
      request.perform getName
      performAll getName requests

end

/-- A family of states that request calls from their `onEntry`: which ones may
depend on the states and on all that has happened, and the hooks of states
entered deeper than `depth` request none. -/
def nestingHooks
    (getName : S → String)
    (requests :
      S → Option S → List (TransitionEvent S) → List (Option S)) :
    Nat → Hooks S (TransitionEvent S) ε
  | 0 => recordingHooks getName fun _ _ => pure ()
  | depth + 1 => recordingHooks getName fun state oldState => do
      forM (requests state oldState (← get).trace)
        (setCurrentState (nestingHooks getName requests depth))

/-! ## Transitions one after another -/

/-- The events of one transition: the old state's `onExit`, the observer, the
new state's `onEntry`. -/
def transition
    (getName : S → String)
    (machine : String)
    (oldState newState : Option S) : List (TransitionEvent S) :=
  (oldState.map (.exit · newState)).toList ++
    [.observed machine ((oldState.map getName).getD kUndefined)
      ((newState.map getName).getD kUndefined)] ++
    (newState.map (.entry · oldState)).toList

/-- The events of transitions to some states in turn, each from the one
before. -/
def path
    (getName : S → String)
    (machine : String) :
    Option S → List (Option S) → List (TransitionEvent S)
  | _, [] => []
  | oldState, newState :: newStates =>
      transition getName machine oldState newState ++
        path getName machine newState newStates

mutual

/-- The states a call makes current, in order. -/
def Request.visited : Request S → List (Option S)
  | .to none _ => [none]
  | .to (some state) inEntry => some state :: visitedAll inEntry

/-- The states that the calls of a list make current, in order. -/
def visitedAll : List (Request S) → List (Option S)
  | [] => []
  | request :: requests => request.visited ++ visitedAll requests

end

theorem path_append
    (getName : S → String)
    (machine : String)
    (oldState : Option S)
    (earlier later : List (Option S)) :
    path getName machine oldState (earlier ++ later) =
      path getName machine oldState earlier ++
        path getName machine (earlier.getLastD oldState) later := by
  induction earlier generalizing oldState with
  | nil => rfl
  | cons newState earlier inductionHypothesis =>
      rw [List.cons_append, path, path, inductionHypothesis,
        List.getLastD_cons, List.append_assoc]

/-- A machine after transitions to some states in turn. -/
def StateMachine.visit
    (getName : S → String)
    (states : List (Option S))
    (machine : StateMachine S (TransitionEvent S)) :
    StateMachine S (TransitionEvent S) :=
  { machine with
    currentState := states.getLastD machine.currentState
    trace := machine.trace ++
      path getName machine.name machine.currentState states }

@[simp] theorem visit_nil
    (getName : S → String)
    (machine : StateMachine S (TransitionEvent S)) :
    machine.visit getName [] = machine := by
  simp [StateMachine.visit, path]

/-- Visits one after another are one visit. -/
theorem visit_append
    (getName : S → String)
    (earlier later : List (Option S))
    (machine : StateMachine S (TransitionEvent S)) :
    machine.visit getName (earlier ++ later) =
      (machine.visit getName earlier).visit getName later := by
  simp [StateMachine.visit, path_append]

/-- A visit is its first transition and a visit from there. -/
theorem visit_cons
    (getName : S → String)
    (first : S)
    (states : List (Option S))
    (machine : StateMachine S (TransitionEvent S)) :
    machine.visit getName (some first :: states) =
      (machine.visit getName [some first]).visit getName states :=
  visit_append getName [some first] states machine

/-! ## Nested calls -/

/-- A transition to null is over when the state is null. -/
theorem setCurrentState_none_run
    (getName : S → String)
    (inEntry : S → Option S → MachineM S (TransitionEvent S) ε Unit)
    (machine : StateMachine S (TransitionEvent S)) :
    (setCurrentState (recordingHooks getName inEntry) none).run machine =
      .ok () (machine.visit getName [none]) := by
  cases oldState : machine.currentState <;>
    simp [setCurrentState, recordingHooks, Hooks.stateName, oldState,
      StateMachine.visit, path, transition]

/-- A transition to a state goes on with the program of its `onEntry`, after
the three events of the transition. -/
theorem setCurrentState_some_run
    (getName : S → String)
    (inEntry : S → Option S → MachineM S (TransitionEvent S) ε Unit)
    (state : S)
    (machine : StateMachine S (TransitionEvent S)) :
    (setCurrentState (recordingHooks getName inEntry) (some state)).run
        machine =
      (inEntry state machine.currentState).run
        (machine.visit getName [some state]) := by
  cases oldState : machine.currentState <;>
    simp [setCurrentState, recordingHooks, Hooks.stateName, oldState,
      StateMachine.visit, path, transition]

mutual

theorem Request.perform_run
    (getName : S → String)
    (machine : StateMachine S (TransitionEvent S)) :
    ∀ request : Request S,
      (request.perform getName : MachineM S (TransitionEvent S) ε Unit).run
          machine =
        .ok () (machine.visit getName request.visited)
  | .to none inEntry => by
      rw [Request.perform, setCurrentState_none_run, Request.visited]
  | .to (some state) inEntry => by
      rw [Request.perform, setCurrentState_some_run,
        performAll_run getName _ inEntry, Request.visited,
        visit_cons getName state (visitedAll inEntry)]

/-- Calls, however deep they are nested, are the visits they make. -/
theorem performAll_run
    (getName : S → String)
    (machine : StateMachine S (TransitionEvent S)) :
    ∀ requests : List (Request S),
      (performAll getName requests :
          MachineM S (TransitionEvent S) ε Unit).run machine =
        .ok () (machine.visit getName (visitedAll requests))
  | [] => by
      rw [performAll, visitedAll, visit_nil, EStateM.run_pure]
  | request :: requests => by
      rw [performAll, EStateM.run_bind, request.perform_run getName machine]
      simp only [performAll_run getName _ requests, visitedAll, visit_append]

end

/-- Programs that visit states make visits when run in turn. -/
theorem forM_visits
    {getName : S → String}
    {program : Option S → MachineM S (TransitionEvent S) ε Unit}
    (visits : ∀ target machine, ∃ visited,
      (program target).run machine = .ok () (machine.visit getName visited))
    (targets : List (Option S))
    (machine : StateMachine S (TransitionEvent S)) :
    ∃ visited, (forM targets program).run machine =
      .ok () (machine.visit getName visited) := by
  induction targets generalizing machine with
  | nil => exact ⟨[], by rw [visit_nil, List.forM_nil, EStateM.run_pure]⟩
  | cons target targets inductionHypothesis =>
      obtain ⟨first, firstRan⟩ := visits target machine
      obtain ⟨rest, restRan⟩ :=
        inductionHypothesis (machine.visit getName first)
      refine ⟨first ++ rest, ?_⟩
      rw [List.forM_cons, EStateM.run_bind, firstRan, visit_append]
      exact restRan

/-- So do the states of a family, to any depth. -/
theorem nestingHooks_visits
    (getName : S → String)
    (requests :
      S → Option S → List (TransitionEvent S) → List (Option S))
    (depth : Nat)
    (target : Option S)
    (machine : StateMachine S (TransitionEvent S)) :
    ∃ visited,
      (setCurrentState (nestingHooks getName requests depth) target :
          MachineM S (TransitionEvent S) ε Unit).run machine =
        .ok () (machine.visit getName visited) := by
  induction depth generalizing target machine with
  | zero =>
      refine ⟨[target], ?_⟩
      cases target with
      | none => exact setCurrentState_none_run getName _ machine
      | some state => exact setCurrentState_some_run getName _ state machine
  | succ depth inductionHypothesis =>
      cases target with
      | none => exact ⟨[none], setCurrentState_none_run getName _ machine⟩
      | some state =>
          obtain ⟨visited, ran⟩ := forM_visits inductionHypothesis
            (requests state machine.currentState
              (machine.visit getName [some state]).trace)
            (machine.visit getName [some state])
          refine ⟨some state :: visited, ?_⟩
          rw [nestingHooks, setCurrentState_some_run, EStateM.run_bind,
            EStateM.run_get, visit_cons getName state visited]
          exact ran

/-- A machine whose hooks make nested calls logs the transitions of one path
from null and is left where the path ends: for any calls nested in each other,
and for any family of states whose hooks make them. -/
theorem trace_is_path
    (getName : S → String)
    (name : String) :
    (∀ requests : List (Request S),
      (performAll getName requests :
          MachineM S (TransitionEvent S) ε Unit).run { name } =
        .ok ()
          { name
            currentState := (visitedAll requests).getLastD none
            trace := path getName name none (visitedAll requests) }) ∧
      ∀ (requests :
          S → Option S → List (TransitionEvent S) → List (Option S))
        (depth : Nat)
        (targets : List (Option S)),
        ∃ visited,
          (forM targets (setCurrentState (nestingHooks getName requests depth)) :
              MachineM S (TransitionEvent S) ε Unit).run { name } =
            .ok ()
              { name
                currentState := visited.getLastD none
                trace := path getName name none visited } := by
  constructor
  · intro requests
    simpa [StateMachine.visit] using
      performAll_run (ε := ε) getName { name } requests
  · intro requests depth targets
    obtain ⟨visited, ran⟩ := forM_visits
      (nestingHooks_visits (ε := ε) getName requests depth) targets { name }
    exact ⟨visited, by simpa [StateMachine.visit] using ran⟩

end ModernCommon
