import Mathlib.Order.Defs.Unbundled

/-!
# What programs keep

A program with a state and exceptions keeps a relation when the state it began
in and the one it ends in are related, whether it returns or throws. A relation
that is a preorder is kept by a program whose parts keep it, so a statement
about every path through a program is one about its basic steps.
-/

namespace ModernCommon
namespace Library

universe u

variable {ε σ α β : Type u}

/-- The state a program ends in, whether it returns or throws. -/
def finalState : EStateM.Result ε σ α → σ
  | .ok _ state => state
  | .error _ state => state

/-- What a program throws, if it throws. -/
def thrown : EStateM.Result ε σ α → Option ε
  | .ok _ _ => none
  | .error exception _ => some exception

@[simp] theorem finalState_ok (result : α) (state : σ) :
    finalState (.ok result state : EStateM.Result ε σ α) = state := rfl

@[simp] theorem finalState_error (exception : ε) (state : σ) :
    finalState (.error exception state : EStateM.Result ε σ α) = state := rfl

@[simp] theorem thrown_ok (result : α) (state : σ) :
    thrown (.ok result state : EStateM.Result ε σ α) = none := rfl

@[simp] theorem thrown_error (exception : ε) (state : σ) :
    thrown (.error exception state : EStateM.Result ε σ α) = some exception := rfl

/-- The relation holds between where the program begins and where it ends. -/
def Keeps (relation : σ → σ → Prop) (program : EStateM ε σ α) : Prop :=
  ∀ state, relation state (finalState (program.run state))

/-- Mapping the result of a program changes nothing else. -/
theorem map_run
    (f : α → β)
    (program : EStateM ε σ α)
    (state : σ) :
    (f <$> program).run state =
      match program.run state with
      | .ok result reached => .ok (f result) reached
      | .error exception reached => .error exception reached := rfl

/-- A program that returns normally runs no handler. -/
theorem tryCatch_run_ok
    {program : EStateM ε σ α}
    {handler : ε → EStateM ε σ α}
    {result : α}
    {state reached : σ}
    (ran : program.run state = .ok result reached) :
    (tryCatch program handler).run state = .ok result reached := by
  change EStateM.tryCatch program handler state = _
  rw [EStateM.run] at ran
  delta EStateM.tryCatch
  simp only [ran]

/-- What a handler does, it does from where the exception was thrown. -/
theorem tryCatch_run_error
    {program : EStateM ε σ α}
    {handler : ε → EStateM ε σ α}
    {exception : ε}
    {state reached : σ}
    (ran : program.run state = .error exception reached) :
    (tryCatch program handler).run state = (handler exception).run reached := by
  change EStateM.tryCatch program handler state = _
  rw [EStateM.run] at ran
  delta EStateM.tryCatch
  simp only [ran]
  rfl

/-- How a program ends, as a value. -/
def outcomeOf (program : EStateM ε σ α) : EStateM ε σ (Except ε α) :=
  tryCatch (Except.ok <$> program) fun exception => return .error exception

theorem outcomeOf_run
    (program : EStateM ε σ α)
    (state : σ) :
    (outcomeOf program).run state =
      match program.run state with
      | .ok result reached => .ok (.ok result) reached
      | .error exception reached => .ok (.error exception) reached := by
  unfold outcomeOf
  have mapped := map_run (Except.ok : α → Except ε α) program state
  cases ran : program.run state with
  | ok result reached =>
      rw [ran] at mapped
      rw [tryCatch_run_ok mapped]
  | error exception reached =>
      rw [ran] at mapped
      rw [tryCatch_run_error mapped]
      rfl

section Rules

variable {relation : σ → σ → Prop} [IsPreorder σ relation]

theorem keeps_pure (result : α) :
    Keeps relation (pure result : EStateM ε σ α) := fun state =>
  refl_of relation state

theorem keeps_throw (exception : ε) :
    Keeps relation (throw exception : EStateM ε σ α) := fun state =>
  refl_of relation state

omit [IsPreorder σ relation] in
/-- A modification keeps what it keeps of every state. -/
theorem keeps_modify
    {change : σ → σ}
    (kept : ∀ state, relation state (change state)) :
    Keeps relation (modify change : EStateM ε σ PUnit) :=
  kept

/-- What comes first keeps the relation, and so does whatever follows it. -/
theorem keeps_bind
    {first : EStateM ε σ α}
    {next : α → EStateM ε σ β}
    (keepsFirst : Keeps relation first)
    (keepsNext : ∀ result, Keeps relation (next result)) :
    Keeps relation (first >>= next) := by
  intro state
  have before := keepsFirst state
  rw [EStateM.run_bind]
  cases ran : first.run state with
  | ok result between =>
      rw [ran] at before
      exact trans_of relation before (keepsNext result between)
  | error exception between =>
      rw [ran] at before
      exact before

/-- An exception handler goes on where the exception was thrown. -/
theorem keeps_tryCatch
    {program : EStateM ε σ α}
    {handler : ε → EStateM ε σ α}
    (keepsProgram : Keeps relation program)
    (keepsHandler : ∀ exception, Keeps relation (handler exception)) :
    Keeps relation (tryCatch program handler) := by
  intro state
  have before := keepsProgram state
  cases ran : program.run state with
  | ok result between =>
      rw [ran] at before
      rw [tryCatch_run_ok ran]
      exact before
  | error exception between =>
      rw [ran] at before
      rw [tryCatch_run_error ran]
      exact trans_of relation before (keepsHandler exception between)

/-- Waiting for the outcome of a program adds nothing to it. -/
theorem keeps_outcomeOf
    {program : EStateM ε σ α}
    (kept : Keeps relation program) :
    Keeps relation (outcomeOf program) := by
  apply keeps_tryCatch
  · rw [map_eq_pure_bind]
    exact keeps_bind kept fun result => keeps_pure _
  · intro exception
    exact keeps_pure _

end Rules

end Library
end ModernCommon
