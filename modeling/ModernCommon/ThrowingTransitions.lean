import ModernCommon.Library.Keeps
import ModernCommon.NestedTransitions

/-!
# Transitions cut short

Hooks and observers may throw, and whoever asked for a transition may catch what
they throw and go on. What throws before the pointer is swapped leaves the
machine in its old state, and what throws after it in whatever state was entered
last: the log is always that of completed transitions, each from where the one
before it led, and between them the beginnings of transitions that were cut
short.
-/

namespace ModernCommon

open Library

variable {S ε : Type}

/-- States whose hooks, and an observer that, run a program of theirs after they
are recorded. -/
def throwingHooks
    (getName : S → String)
    (inExit inEntry : S → Option S → MachineM S (TransitionEvent S) ε Unit)
    (inObserver :
      String → String → String → MachineM S (TransitionEvent S) ε Unit) :
    Hooks S (TransitionEvent S) ε where
  getName := getName
  onExit state newState := do
    record (.exit state newState)
    inExit state newState
  observer := some fun machine oldName newName => do
    record (.observed machine oldName newName)
    inObserver machine oldName newName
  onEntry state oldState := do
    record (.entry state oldState)
    inEntry state oldState

/-- However the program ends, it leaves the machine alone. -/
def Stays (program : MachineM S E ε α) : Prop :=
  ∀ machine, finalState (program.run machine) = machine

/-- Programs that only make transitions: they look at the machine, set its
state, throw and catch, and what `onEntry` does is of that kind again. `onExit`
and the observer do not change the machine. -/
inductive Transitions (getName : S → String) :
    {α : Type} → MachineM S (TransitionEvent S) ε α → Prop
  | pure {α : Type} (answer : α) :
      Transitions getName (Pure.pure answer : MachineM S _ ε α)
  | throw {α : Type} (exception : ε) :
      Transitions getName (throw exception : MachineM S _ ε α)
  | get : Transitions getName (get : MachineM S _ ε (StateMachine S _))
  | bind {α β : Type}
      {first : MachineM S (TransitionEvent S) ε α}
      {next : α → MachineM S (TransitionEvent S) ε β} :
      Transitions getName first →
        (∀ answer, Transitions getName (next answer)) →
          Transitions getName (first >>= next)
  | tryCatch {α : Type}
      {program : MachineM S (TransitionEvent S) ε α}
      {handler : ε → MachineM S (TransitionEvent S) ε α} :
      Transitions getName program →
        (∀ exception, Transitions getName (handler exception)) →
          Transitions getName (tryCatch program handler)
  | setCurrentState
      {inExit inEntry : S → Option S → MachineM S (TransitionEvent S) ε Unit}
      {inObserver :
        String → String → String → MachineM S (TransitionEvent S) ε Unit}
      (target : Option S) :
      (∀ state newState, Stays (inExit state newState)) →
        (∀ machine oldName newName, Stays (inObserver machine oldName newName)) →
          (∀ state oldState, Transitions getName (inEntry state oldState)) →
            Transitions getName (ModernCommon.setCurrentState
              (throwingHooks getName inExit inEntry inObserver) target)

/-! ## The log -/

/-- The events of a transition before the pointer is swapped. -/
def leaving
    (getName : S → String)
    (machine : String)
    (oldState newState : Option S) : List (TransitionEvent S) :=
  (oldState.map (.exit · newState)).toList ++
    [.observed machine ((oldState.map getName).getD kUndefined)
      ((newState.map getName).getD kUndefined)]

/-- What is logged on the way from one state to another. -/
inductive Logs (getName : S → String) (machine : String) :
    Option S → List (TransitionEvent S) → Option S → Prop
  | nil (state) : Logs getName machine state [] state
  | completed {first events last} (next) :
      Logs getName machine first events last →
        Logs getName machine first
          (events ++ transition getName machine last next) next
  /-- A transition that was cut short before the swap. -/
  | cutShort {first events last} (next) {begun} :
      Logs getName machine first events last →
        begun <+: leaving getName machine last next →
          Logs getName machine first (events ++ begun) last

theorem Logs.append
    {getName : S → String}
    {machine : String}
    {first between last : Option S}
    {earlier later : List (TransitionEvent S)}
    (logsEarlier : Logs getName machine first earlier between)
    (logsLater : Logs getName machine between later last) :
    Logs getName machine first (earlier ++ later) last := by
  induction logsLater with
  | nil => rwa [List.append_nil]
  | completed next _ inductionHypothesis =>
      rw [← List.append_assoc]
      exact inductionHypothesis.completed next
  | cutShort next _ begins inductionHypothesis =>
      rw [← List.append_assoc]
      exact inductionHypothesis.cutShort next begins

/-- The later machine has logged since how it got where it is. -/
def Logged
    (getName : S → String)
    (before after : StateMachine S (TransitionEvent S)) : Prop :=
  ∃ state events, Logs getName before.name before.currentState events state ∧
    after =
      { before with currentState := state, trace := before.trace ++ events }

theorem Logged.refl
    (getName : S → String)
    (before : StateMachine S (TransitionEvent S)) :
    Logged getName before before :=
  ⟨before.currentState, [], .nil _, by simp⟩

theorem Logged.trans
    {getName : S → String}
    {before between after : StateMachine S (TransitionEvent S)}
    (first : Logged getName before between)
    (second : Logged getName between after) :
    Logged getName before after := by
  obtain ⟨_, earlier, logsEarlier, rfl⟩ := first
  obtain ⟨state, later, logsLater, rfl⟩ := second
  exact ⟨state, earlier ++ later, logsEarlier.append logsLater, by simp⟩

instance (getName : S → String) :
    IsPreorder (StateMachine S (TransitionEvent S)) (Logged getName) where
  refl := Logged.refl getName
  trans _ _ _ := Logged.trans

/-! ## One transition -/

theorem visit_logged
    (getName : S → String)
    (target : Option S)
    (before : StateMachine S (TransitionEvent S)) :
    Logged getName before (before.visit getName [target]) :=
  ⟨target, _, (Logs.nil _).completed target, by simp [StateMachine.visit, path]⟩

/-- A program that leaves the machine alone returns or throws there. -/
theorem Stays.run_eq
    {program : MachineM S E ε α}
    (stays : Stays program)
    (machine : StateMachine S E) :
    (∃ answer, program.run machine = .ok answer machine) ∨
      ∃ exception, program.run machine = .error exception machine := by
  have final := stays machine
  cases ran : program.run machine with
  | ok answer reached =>
      rw [ran] at final
      exact .inl ⟨answer, congrArg _ final⟩
  | error exception reached =>
      rw [ran] at final
      exact .inr ⟨exception, congrArg _ final⟩

section SetCurrentState

variable
  {getName : S → String}
  {inExit inEntry : S → Option S → MachineM S (TransitionEvent S) ε Unit}
  {inObserver :
    String → String → String → MachineM S (TransitionEvent S) ε Unit}

/-- What comes after `onExit`: the observer, the swap and `onEntry`. -/
def leave
    (hooks : Hooks S E ε)
    (oldState state : Option S) : MachineM S E ε Unit := do
  if let some observer := hooks.observer then
    observer (← get).name (hooks.stateName oldState) (hooks.stateName state)
  modify fun machine => { machine with currentState := state }
  if let some current := state then
    hooks.onEntry current oldState

theorem setCurrentState_eq_leave
    (hooks : Hooks S E ε)
    (target : Option S)
    (machine : StateMachine S E) :
    (setCurrentState hooks target).run machine =
      (match machine.currentState with
      | none => leave hooks none target
      | some current => do
          hooks.onExit current target
          leave hooks (some current) target).run machine := by
  cases oldState : machine.currentState <;>
    cases observed : hooks.observer <;>
      cases target <;> simp [setCurrentState, leave, oldState, observed]

variable
  (exitStays : ∀ state newState, Stays (inExit state newState))
  (observerStays : ∀ machine oldName newName,
    Stays (inObserver machine oldName newName))
  (entryLogged : ∀ state oldState,
    Keeps (Logged getName) (inEntry state oldState))

include observerStays entryLogged in
/-- Once the old state is exited, the transition is completed or cut short. -/
theorem leave_logged
    (inExit : S → Option S → MachineM S (TransitionEvent S) ε Unit)
    (target : Option S)
    (before : StateMachine S (TransitionEvent S)) :
    Logged getName before
      (finalState ((leave (throwingHooks getName inExit inEntry inObserver)
        before.currentState target).run
          { before with
            trace := before.trace ++
              (before.currentState.map (.exit · target)).toList })) := by
  obtain ⟨name, oldState, trace⟩ := before
  let seen : StateMachine S (TransitionEvent S) :=
    { name
      currentState := oldState
      trace := trace ++ leaving getName name oldState target }
  rcases (observerStays name ((oldState.map getName).getD kUndefined)
    ((target.map getName).getD kUndefined)).run_eq seen with
    ⟨_, ran⟩ | ⟨exception, ran⟩
  · have completed :=
      visit_logged getName target (⟨name, oldState, trace⟩ : StateMachine S _)
    cases target with
    | none =>
        have ended : (leave (throwingHooks getName inExit inEntry inObserver)
            oldState none).run ⟨name, oldState,
              trace ++ (oldState.map (.exit · none)).toList⟩ =
            .ok () (StateMachine.visit getName [none]
              ⟨name, oldState, trace⟩) := by
          cases oldState <;>
            simp_all [leave, throwingHooks, Hooks.stateName, leaving, seen,
              StateMachine.visit, path, transition]
        simp only [ended]
        exact completed
    | some state =>
        have entered : (leave (throwingHooks getName inExit inEntry inObserver)
            oldState (some state)).run ⟨name, oldState,
              trace ++ (oldState.map (.exit · (some state))).toList⟩ =
            (inEntry state oldState).run (StateMachine.visit getName
              [some state] ⟨name, oldState, trace⟩) := by
          cases oldState <;>
            simp_all [leave, throwingHooks, Hooks.stateName, leaving, seen,
              StateMachine.visit, path, transition]
        simp only [entered]
        exact completed.trans (entryLogged state oldState _)
  · refine ⟨oldState, _, (Logs.nil oldState).cutShort target List.prefix_rfl, ?_⟩
    have threw : (leave (throwingHooks getName inExit inEntry inObserver)
        oldState target).run ⟨name, oldState,
          trace ++ (oldState.map (.exit · target)).toList⟩ =
        .error exception seen := by
      cases oldState <;> cases target <;>
        simp_all [leave, throwingHooks, Hooks.stateName, leaving, seen]
    simp only [threw]
    simp [seen]

include exitStays observerStays entryLogged in
theorem setCurrentState_logged (target : Option S) :
    Keeps (Logged getName) (setCurrentState
      (throwingHooks getName inExit inEntry inObserver) target) := by
  rintro ⟨name, oldState, trace⟩
  have left := leave_logged observerStays entryLogged inExit target
    ⟨name, oldState, trace⟩
  rw [setCurrentState_eq_leave]
  cases oldState with
  | none => simpa using left
  | some state =>
      simp only [Option.map_some, Option.toList_some] at left ⊢
      have begins : (throwingHooks getName inExit inEntry inObserver).onExit
          state target = (do
            record (.exit state target)
            inExit state target) := rfl
      rw [EStateM.run_bind, begins, EStateM.run_bind, record_run]
      simp only
      rcases (exitStays state target).run_eq
          ⟨name, some state, trace ++ [.exit state target]⟩ with
        ⟨_, ran⟩ | ⟨exception, ran⟩
      · rw [ran]
        exact left
      · rw [ran]
        have begun : [.exit state target] <+:
            leaving getName name (some state) target := by
          simp [leaving]
        exact ⟨some state, _, (Logs.nil (some state)).cutShort target begun, rfl⟩

end SetCurrentState

/-- Whatever a program of transitions does, and however it ends, the machine has
logged how it got where it is. -/
theorem Transitions.logged
    {getName : S → String}
    {program : MachineM S (TransitionEvent S) ε α}
    (transitions : Transitions getName program) :
    Keeps (Logged getName) program := by
  induction transitions with
  | pure answer => exact keeps_pure answer
  | throw exception => exact keeps_throw exception
  | get => exact Logged.refl getName
  | bind _ _ first next => exact keeps_bind first next
  | tryCatch _ _ program handler => exact keeps_tryCatch program handler
  | setCurrentState target exitStays observerStays _ entryLogged =>
      exact setCurrentState_logged exitStays observerStays entryLogged target

end ModernCommon
