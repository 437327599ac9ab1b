import Mathlib.Logic.Function.Basic
import ModernCommon.Library.Refinement
import ModernCommon.Library.Routine
import ModernCommon.Library.System

/-!
# Monitors

Threads work on one shared state. An operation takes a mutex, accesses the state
any number of times, deciding after each access how to go on, and gives the mutex
back with an answer. Between any two accesses any other thread may be scheduled.
There may also be calls that access the state without taking the mutex.

Whatever the schedule, as long as no such call is made while a thread is inside,
the operations answer as if each were carried out at once, in the order in which
the mutex was taken, and each thread's operations keep their order.
-/

namespace ModernCommon
namespace Library

/-! ## The monitor -/

/-- Operations `ι` with their routines, and calls `κ` made outside the mutex. -/
structure Monitor (σ ι κ ω : Type) where
  routine : ι → Routine σ ω
  intrusion : κ → σ → σ

/-- What happened, in the order of its effects. -/
inductive Monitor.Entry (ThreadId ι κ ω : Type)
  | answered (thread : ThreadId) (operation : ι) (answer : ω)
  | intruded (call : κ)

namespace Monitor

variable {σ ι κ ω ThreadId : Type}

/-- The shared state, what each thread has still to do, the thread inside with
its operation and what is left of its routine, and what happened so far. -/
structure State (σ ι κ ω ThreadId : Type) where
  shared : σ
  todo : ThreadId → List ι
  inside : Option (ThreadId × ι × Routine σ ω) := none
  history : List (Entry ThreadId ι κ ω) := []

/-- One step of a schedule. -/
inductive Event (ThreadId κ : Type)
  /-- A thread takes the mutex for its next operation. -/
  | enter (thread : ThreadId)
  /-- The thread inside makes its next access. -/
  | proceed
  /-- The thread inside gives the mutex back. -/
  | leave
  /-- A call is made without the mutex. -/
  | intrude (call : κ)

variable [DecidableEq ThreadId]

/-- One step of a schedule, if the thread it concerns can take it. -/
def step
    (monitor : Monitor σ ι κ ω)
    (state : State σ ι κ ω ThreadId) :
    Event ThreadId κ → Option (State σ ι κ ω ThreadId)
  | .enter thread =>
      match state.inside, state.todo thread with
      | none, operation :: later =>
          some { state with
            todo := Function.update state.todo thread later
            inside := some (thread, operation, monitor.routine operation) }
      | _, _ => none
  | .proceed =>
      match state.inside with
      | some (thread, operation, .access change next) =>
          some { state with
            shared := change state.shared
            inside := some (thread, operation, next state.shared) }
      | _ => none
  | .leave =>
      match state.inside with
      | some (thread, operation, .done answer) =>
          some { state with
            inside := none
            history := state.history ++ [.answered thread operation answer] }
      | _ => none
  | .intrude call =>
      some { state with
        shared := monitor.intrusion call state.shared
        history := state.history ++ [.intruded call] }

/-- The schedules of a program for each thread. -/
def system
    (monitor : Monitor σ ι κ ω)
    (shared : σ)
    (todo : ThreadId → List ι) :
    System (State σ ι κ ω ThreadId) (Event ThreadId κ) where
  initial := { shared, todo }
  step := monitor.step

/-- No call intrudes on a thread inside. -/
def Undisturbed
    (state : State σ ι κ ω ThreadId) : Event ThreadId κ → Prop
  | .intrude _ => state.inside.isNone
  | _ => True

instance
    (state : State σ ι κ ω ThreadId)
    (event : Event ThreadId κ) :
    Decidable (Undisturbed state event) :=
  match event with
  | .intrude _ => inferInstanceAs (Decidable (state.inside.isNone = true))
  | .enter _ | .proceed | .leave => .isTrue trivial

/-! ## One operation after another -/

/-- The history is that of operations carried out at once, one after another,
from one state to another. -/
inductive Sequential (monitor : Monitor σ ι κ ω) (start : σ) :
    List (Entry ThreadId ι κ ω) → σ → Prop
  | nil : Sequential monitor start [] start
  | answered {history before} (thread operation) :
      Sequential monitor start history before →
      Sequential monitor start
        (history ++ [.answered thread operation
          ((monitor.routine operation).run before).1])
        ((monitor.routine operation).run before).2
  | intruded {history before} (call) :
      Sequential monitor start history before →
      Sequential monitor start (history ++ [.intruded call])
        (monitor.intrusion call before)

omit [DecidableEq ThreadId] in
/-- An operation answers on the state that the operations before it led to. -/
theorem Sequential.answered_of_split
    {monitor : Monitor σ ι κ ω}
    {start final : σ}
    {history : List (Entry ThreadId ι κ ω)}
    (sequential : monitor.Sequential start history final)
    {before after : List (Entry ThreadId ι κ ω)}
    {thread : ThreadId}
    {operation : ι}
    {answer : ω}
    (split : history = before ++ .answered thread operation answer :: after) :
    ∃ middle, monitor.Sequential start before middle ∧
      answer = ((monitor.routine operation).run middle).1 := by
  induction sequential generalizing after with
  | nil => simp at split
  | answered last lastOperation earlier inductionHypothesis =>
      rcases List.eq_nil_or_concat after with rfl | ⟨between, entry, rfl⟩
      · obtain ⟨rfl, same⟩ := List.append_inj' split rfl
        cases same
        exact ⟨_, earlier, rfl⟩
      · rw [List.concat_eq_append, ← List.cons_append,
          ← List.append_assoc] at split
        exact inductionHypothesis (List.append_inj' split rfl).1
  | intruded call earlier inductionHypothesis =>
      rcases List.eq_nil_or_concat after with rfl | ⟨between, entry, rfl⟩
      · cases (List.append_inj' split rfl).2
      · rw [List.concat_eq_append, ← List.cons_append,
          ← List.append_assoc] at split
        exact inductionHypothesis (List.append_inj' split rfl).1

/-- The operations of a thread that were answered, in order. -/
def operationsOf
    (thread : ThreadId) :
    List (Entry ThreadId ι κ ω) → List ι
  | [] => []
  | .answered other operation _ :: history =>
      if other = thread then operation :: operationsOf thread history
      else operationsOf thread history
  | .intruded _ :: history => operationsOf thread history

/-- The operation a thread is in. -/
def operationIn (thread : ThreadId) : Option (ThreadId × ι × Routine σ ω) → List ι
  | some (other, operation, _) => if other = thread then [operation] else []
  | none => []

/-- What is left of the operation inside answers what all of it would have
answered when the mutex was taken. -/
structure Linear
    (monitor : Monitor σ ι κ ω)
    (start : σ)
    (todo : ThreadId → List ι)
    (state : State σ ι κ ω ThreadId) : Prop where
  atomic : ∃ before, monitor.Sequential start state.history before ∧
    match state.inside with
    | none => state.shared = before
    | some (_, operation, rest) =>
        rest.run state.shared = (monitor.routine operation).run before
  ordered : ∀ thread,
    operationsOf thread state.history ++ operationIn thread state.inside ++
      state.todo thread = todo thread

theorem operationsOf_append
    (thread : ThreadId)
    (before after : List (Entry ThreadId ι κ ω)) :
    operationsOf thread (before ++ after) =
      operationsOf thread before ++ operationsOf thread after := by
  induction before with
  | nil => rfl
  | cons entry history inductionHypothesis =>
      cases entry with
      | answered other operation answer =>
          rw [List.cons_append, operationsOf, operationsOf]
          by_cases same : other = thread
          · rw [if_pos same, if_pos same, inductionHypothesis, List.cons_append]
          · rw [if_neg same, if_neg same, inductionHypothesis]
      | intruded call => exact inductionHypothesis

theorem Linear.initial
    (monitor : Monitor σ ι κ ω)
    (shared : σ)
    (todo : ThreadId → List ι) :
    monitor.Linear shared todo (monitor.system shared todo).initial where
  atomic := ⟨shared, .nil, rfl⟩
  ordered _ := rfl

/-- One undisturbed step keeps the operations atomic. -/
theorem Linear.step
    {monitor : Monitor σ ι κ ω}
    {start : σ}
    {todo : ThreadId → List ι}
    (state : State σ ι κ ω ThreadId)
    (event : Event ThreadId κ)
    (next : State σ ι κ ω ThreadId)
    (linear : monitor.Linear start todo state)
    (undisturbed : Undisturbed state event)
    (stepped : monitor.step state event = some next) :
    monitor.Linear start todo next := by
  obtain ⟨shared, rest, inside, history⟩ := state
  obtain ⟨⟨before, sequential, atomic⟩, ordered⟩ := linear
  cases event with
  | enter thread =>
      cases inside with
      | some held => simp [Monitor.step] at stepped
      | none =>
          cases upcoming : rest thread with
          | nil => simp [Monitor.step, upcoming] at stepped
          | cons operation later =>
              simp only [Monitor.step, upcoming, Option.some.injEq] at stepped
              subst stepped
              refine ⟨⟨before, sequential, ?_⟩, ?_⟩
              · exact congrArg _ atomic
              · intro other
                have program := ordered other
                by_cases same : thread = other
                · subst same
                  simpa [operationIn, upcoming] using program
                · simpa [operationIn, same, Function.update_of_ne (Ne.symm same)]
                    using program
  | proceed =>
      match inside, stepped with
      | some (thread, operation, .access change further), stepped =>
          simp only [Monitor.step, Option.some.injEq] at stepped
          subst stepped
          exact ⟨⟨before, sequential, atomic⟩, ordered⟩
  | leave =>
      match inside, stepped with
      | some (thread, operation, .done answer), stepped =>
          simp only [Monitor.step, Option.some.injEq] at stepped
          subst stepped
          have ends : (answer, shared) = (monitor.routine operation).run before :=
            atomic
          refine ⟨⟨shared, ?_, rfl⟩, ?_⟩
          · have answered := sequential.answered thread operation
            rw [← ends] at answered
            exact answered
          · intro other
            have program := ordered other
            rw [operationsOf_append]
            by_cases same : thread = other <;>
              simpa [operationsOf, operationIn, same] using program
  | intrude call =>
      obtain rfl : inside = none := Option.isNone_iff_eq_none.mp undisturbed
      simp only [Monitor.step, Option.some.injEq] at stepped
      subst stepped
      refine ⟨⟨_, sequential.intruded call, congrArg _ atomic⟩, ?_⟩
      intro thread
      have program := ordered thread
      simpa [operationsOf_append, operationsOf] using program

/-- Monitor rule. In every undisturbed run the operations answered so far were
carried out one after another, each thread's in its order. -/
theorem linear_of_run
    (monitor : Monitor σ ι κ ω)
    {start : σ}
    {todo : ThreadId → List ι}
    {events : List (Event ThreadId κ)}
    {state : State σ ι κ ω ThreadId}
    (undisturbed : (monitor.system start todo).Allows Undisturbed
      (monitor.system start todo).initial events)
    (ran : (monitor.system start todo).run (monitor.system start todo).initial
      events = some state) :
    monitor.Linear start todo state :=
  (monitor.system start todo).invariant_of_run_of_allows Undisturbed
    (monitor.Linear start todo) Linear.step
    (Linear.initial monitor start todo) undisturbed ran

/-- While a thread is inside it can go on, and while none is, any thread with
something to do can enter. -/
theorem progress
    (monitor : Monitor σ ι κ ω)
    (state : State σ ι κ ω ThreadId)
    (thread : ThreadId)
    (waits : state.todo thread ≠ [] ∨ state.inside.isSome) :
    ∃ event next, monitor.step state event = some next ∧
      (event = .enter thread ∨ event = .proceed ∨ event = .leave) := by
  obtain ⟨shared, todo, inside, history⟩ := state
  cases inside with
  | none =>
      cases upcoming : todo thread with
      | nil => simp [upcoming] at waits
      | cons operation later =>
          refine ⟨.enter thread, ?_⟩
          simp [Monitor.step, upcoming]
  | some held =>
      obtain ⟨holder, operation, rest⟩ := held
      cases rest with
      | done answer =>
          refine ⟨.leave, ?_⟩
          simp [Monitor.step]
      | access change further =>
          refine ⟨.proceed, ?_⟩
          simp [Monitor.step]

/-- The thread inside, scheduled until it leaves, answers what is left of its
routine. -/
theorem finish
    (monitor : Monitor σ ι κ ω)
    (start : σ)
    (begun todo : ThreadId → List ι)
    (thread : ThreadId)
    (operation : ι)
    (rest : Routine σ ω)
    (shared : σ)
    (history : List (Entry ThreadId ι κ ω)) :
    ∃ events, (monitor.system start begun).run
      ⟨shared, todo, some (thread, operation, rest), history⟩ events =
        some ⟨(rest.run shared).2, todo, none,
          history ++ [.answered thread operation (rest.run shared).1]⟩ := by
  induction rest generalizing shared with
  | done answer => exact ⟨[.leave], rfl⟩
  | access change next inductionHypothesis =>
      obtain ⟨events, ran⟩ := inductionHypothesis shared (change shared)
      exact ⟨.proceed :: events, ran⟩

/-- A thread that finds the mutex free begins the routine of its next
operation. -/
theorem run_enter
    (monitor : Monitor σ ι κ ω)
    (start : σ)
    (todo : ThreadId → List ι)
    {state : State σ ι κ ω ThreadId}
    {thread : ThreadId}
    {operation : ι}
    {later : List ι}
    (outside : state.inside = none)
    (isNext : state.todo thread = operation :: later)
    (events : List (Event ThreadId κ)) :
    (monitor.system start todo).run state (.enter thread :: events) =
      (monitor.system start todo).run
        { state with
          todo := Function.update state.todo thread later
          inside := some (thread, operation, monitor.routine operation) }
        events := by
  simp only [System.run, system, Monitor.step, outside, isNext, Option.bind_some]

/-! ## Sessions -/

/-- What was asked for. -/
def Entry.request : Entry ThreadId ι κ ω → ι ⊕ κ
  | .answered _ operation _ => .inl operation
  | .intruded call => .inr call

/-- What was answered. -/
def Entry.answer : Entry ThreadId ι κ ω → Option ω
  | .answered _ _ answer => some answer
  | .intruded _ => none

/-- Carry out an operation or a call at once. -/
def carryOut
    (monitor : Monitor σ ι κ ω) : ι ⊕ κ → σ → Option ω × σ
  | .inl operation, state =>
      let ended := (monitor.routine operation).run state
      (some ended.1, ended.2)
  | .inr call, state => (none, monitor.intrusion call state)

omit [DecidableEq ThreadId] in
/-- A sequential history is a session. -/
theorem Sequential.session_eq
    {monitor : Monitor σ ι κ ω}
    {start final : σ}
    {history : List (Entry ThreadId ι κ ω)}
    (sequential : monitor.Sequential start history final) :
    Specification.session monitor.carryOut (history.map Entry.request) start =
      (history.map Entry.answer, final) := by
  induction sequential with
  | nil => rfl
  | answered thread operation _ inductionHypothesis =>
      rw [List.map_append, Specification.session_append, inductionHypothesis,
        List.map_append]
      rfl
  | intruded call _ inductionHypothesis =>
      rw [List.map_append, Specification.session_append, inductionHypothesis,
        List.map_append]
      rfl

/-- In every undisturbed run, the answers so far are those of a session of
everything that was asked, in the order of the history. -/
theorem session_of_run
    (monitor : Monitor σ ι κ ω)
    {start : σ}
    {todo : ThreadId → List ι}
    {events : List (Event ThreadId κ)}
    {state : State σ ι κ ω ThreadId}
    (undisturbed : (monitor.system start todo).Allows Undisturbed
      (monitor.system start todo).initial events)
    (ran : (monitor.system start todo).run (monitor.system start todo).initial
      events = some state) :
    ∃ final,
      Specification.session monitor.carryOut (state.history.map Entry.request)
          start = (state.history.map Entry.answer, final) ∧
      (state.inside = none → state.shared = final) ∧
      ∀ thread,
        operationsOf thread state.history ++ operationIn thread state.inside ++
          state.todo thread = todo thread := by
  obtain ⟨⟨final, sequential, atomic⟩, ordered⟩ :=
    monitor.linear_of_run undisturbed ran
  refine ⟨final, sequential.session_eq, ?_, ordered⟩
  intro outside
  rw [outside] at atomic
  exact atomic

/-! ## Refinement -/

/-- The operation that was answered. -/
def Entry.operation : Entry ThreadId ι κ ω → Option ι
  | .answered _ operation _ => some operation
  | .intruded _ => none

omit [DecidableEq ThreadId] in
/-- Without calls to intrude, a sequential history is a session of its
operations. -/
theorem Sequential.session_operations
    [IsEmpty κ]
    {monitor : Monitor σ ι κ ω}
    {start final : σ}
    {history : List (Entry ThreadId ι κ ω)}
    (sequential : monitor.Sequential start history final) :
    Specification.session (fun operation => (monitor.routine operation).run)
        (history.filterMap Entry.operation) start =
      (history.filterMap Entry.answer, final) := by
  induction sequential with
  | nil => rfl
  | answered thread operation _ inductionHypothesis =>
      rw [List.filterMap_append, Specification.session_append,
        inductionHypothesis, List.filterMap_append]
      rfl
  | intruded call _ _ => exact isEmptyElim call

theorem mem_operationsOf
    {history : List (Entry ThreadId ι κ ω)}
    {operation : ι}
    (answered : operation ∈ history.filterMap Entry.operation) :
    ∃ thread, operation ∈ operationsOf thread history := by
  obtain ⟨entry, present, isOperation⟩ := List.mem_filterMap.mp answered
  obtain ⟨before, after, rfl⟩ := List.append_of_mem present
  cases entry with
  | intruded call => cases isOperation
  | answered thread other answer =>
      obtain rfl : other = operation := Option.some.inj isOperation
      refine ⟨thread, ?_⟩
      rw [operationsOf_append, operationsOf, if_pos rfl]
      exact List.mem_append_right _ List.mem_cons_self

theorem allows_undisturbed
    [IsEmpty κ]
    (monitor : Monitor σ ι κ ω)
    (start : σ)
    (todo : ThreadId → List ι)
    (state : State σ ι κ ω ThreadId)
    (events : List (Event ThreadId κ)) :
    (monitor.system start todo).Allows Undisturbed state events := by
  induction events generalizing state with
  | nil => trivial
  | cons event events inductionHypothesis =>
      refine ⟨?_, fun next _ => inductionHypothesis next⟩
      cases event with
      | enter _ | proceed | leave => trivial
      | intrude call => exact isEmptyElim call

/-- Refinement rule for monitors. If every operation, carried out at once,
answers as a specification allows, then in every run of every program the
operations answered so far are explained by the specification, one after
another. -/
theorem explains_of_run
    [IsEmpty κ]
    (monitor : Monitor σ ι κ ω)
    {α : Type*}
    {allows : Specification α ι ω}
    {admitted : ι → Prop}
    {relation : σ → α → Prop}
    (refines : ∀ operation concrete abstract,
      admitted operation → relation concrete abstract →
      ∃ next,
        allows operation abstract
          ((monitor.routine operation).run concrete).1 next ∧
        relation ((monitor.routine operation).run concrete).2 next)
    {start : σ}
    {todo : ThreadId → List ι}
    (admits : ∀ thread, ∀ operation ∈ todo thread, admitted operation)
    {abstract : α}
    (related : relation start abstract)
    {events : List (Event ThreadId κ)}
    {state : State σ ι κ ω ThreadId}
    (ran : (monitor.system start todo).run (monitor.system start todo).initial
      events = some state) :
    (∃ final,
      Specification.Explains allows abstract
        (state.history.filterMap Entry.operation)
        (state.history.filterMap Entry.answer) final ∧
      (state.inside = none → relation state.shared final)) ∧
    ∀ thread,
      operationsOf thread state.history ++ operationIn thread state.inside ++
        state.todo thread = todo thread := by
  obtain ⟨⟨before, sequential, atomic⟩, ordered⟩ := monitor.linear_of_run
    (monitor.allows_undisturbed start todo _ events) ran
  have admitsAnswered : ∀ operation ∈ state.history.filterMap Entry.operation,
      admitted operation := by
    intro operation answered
    obtain ⟨thread, present⟩ := mem_operationsOf answered
    apply admits thread
    rw [← ordered thread, List.append_assoc]
    exact List.mem_append_left _ present
  obtain ⟨final, explained, finallyRelated⟩ :=
    Specification.explains_session refines admitsAnswered related
  rw [sequential.session_operations] at explained finallyRelated
  refine ⟨⟨final, explained, ?_⟩, ordered⟩
  intro outside
  rw [outside] at atomic
  exact atomic ▸ finallyRelated

end Monitor
end Library
end ModernCommon
