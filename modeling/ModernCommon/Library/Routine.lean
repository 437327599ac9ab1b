import ModernCommon.Library.Keeps

/-!
# Routines

A routine is a program over a shared state, access by access: what it does next
depends on what it read, and between two accesses the state may be changed by
others. Run on its own it is an ordinary stateful program; a routine performs such
a program when it comes to the same, and the ways programs are put together keep
that.
-/

namespace ModernCommon
namespace Library

/-- A program over a shared state, access by access. -/
inductive Routine (σ ω : Type)
  | done (answer : ω)
  /-- Read the state and change it in one access. -/
  | access (change : σ → σ) (next : σ → Routine σ ω)

namespace Routine

variable {σ ε ω α β : Type}

/-- Go on with the answer of a routine. -/
def bind : Routine σ α → (α → Routine σ β) → Routine σ β
  | .done answer, next => next answer
  | .access change rest, next => .access change fun state => (rest state).bind next

instance : Monad (Routine σ) where
  pure := .done
  bind := bind

/-- A routine on its own: its answer and the state it leaves. -/
def run : Routine σ ω → σ → ω × σ
  | .done answer, state => (answer, state)
  | .access change next, state => (next state).run (change state)

/-- A call that answers and changes the state in one access. -/
def call (function : σ → α × σ) : Routine σ α :=
  .access (fun state => (function state).2) fun state => .done (function state).1

/-- Read in one access. -/
def read (function : σ → α) : Routine σ α :=
  .access id fun state => .done (function state)

theorem run_pure (answer : α) (state : σ) :
    (pure answer : Routine σ α).run state = (answer, state) := rfl

theorem run_call (function : σ → α × σ) (state : σ) :
    (call function).run state = function state := rfl

theorem run_read (function : σ → α) (state : σ) :
    (read function).run state = (function state, state) := rfl

theorem run_bind
    (first : Routine σ α)
    (next : α → Routine σ β)
    (state : σ) :
    (first >>= next).run state =
      (next (first.run state).1).run (first.run state).2 := by
  change (first.bind next).run state = _
  induction first generalizing state with
  | done answer => rfl
  | access change rest inductionHypothesis =>
      exact inductionHypothesis state (change state)

/-! ## Routines that throw -/

/-- How a program ended, and the state it left. -/
def ending : EStateM.Result ε σ α → Except ε α × σ
  | .ok answer state => (.ok answer, state)
  | .error thrown state => (.error thrown, state)

/-- A program carried out in one access. -/
def atomically (program : EStateM ε σ α) : ExceptT ε (Routine σ) α :=
  call fun state => ending (program.run state)

/-- On its own, the routine does what the program does. -/
def Performs
    (routine : ExceptT ε (Routine σ) α)
    (program : EStateM ε σ α) : Prop :=
  ∀ state, routine.run.run state = ending (program.run state)

theorem performs_atomically (program : EStateM ε σ α) :
    Performs (atomically program) program := fun _ => rfl

theorem performs_pure (answer : α) :
    Performs (pure answer : ExceptT ε (Routine σ) α) (pure answer) := fun _ => rfl

theorem performs_throw (exception : ε) :
    Performs (throw exception : ExceptT ε (Routine σ) α) (throw exception) :=
  fun _ => rfl

theorem performs_bind
    {first : ExceptT ε (Routine σ) α}
    {firstProgram : EStateM ε σ α}
    {next : α → ExceptT ε (Routine σ) β}
    {nextProgram : α → EStateM ε σ β}
    (performsFirst : Performs first firstProgram)
    (performsNext : ∀ answer, Performs (next answer) (nextProgram answer)) :
    Performs (first >>= next) (firstProgram >>= nextProgram) := by
  intro state
  have before := performsFirst state
  rw [EStateM.run_bind, ExceptT.run_bind, run_bind, before]
  cases firstProgram.run state with
  | ok answer between => exact performsNext answer between
  | error exception between => rfl

theorem performs_ite
    {condition : Prop}
    [Decidable condition]
    {first second : ExceptT ε (Routine σ) α}
    {firstProgram secondProgram : EStateM ε σ α}
    (performsFirst : Performs first firstProgram)
    (performsSecond : Performs second secondProgram) :
    Performs (if condition then first else second)
      (if condition then firstProgram else secondProgram) := by
  by_cases holds : condition
  · rw [if_pos holds, if_pos holds]
    exact performsFirst
  · rw [if_neg holds, if_neg holds]
    exact performsSecond

end Routine
end Library
end ModernCommon
