import Mathlib.Data.List.Basic

/-!
# Deterministic machines with output

A Mealy machine consumes one input at a time, moves to its next state and emits
a finite list of outputs. Runs are over input lists of any length. The two
rules below carry a property from one step to a whole run: an invariant tying
the state to the output history, and the agreement of two machines.
-/

namespace ModernCommon
namespace Library

/-- A deterministic machine over states `σ`, inputs `ι` and outputs `ω`. -/
structure Mealy (σ ι ω : Type*) where
  /-- The state before any input. -/
  initial : σ
  /-- The next state and the outputs emitted on the way to it. -/
  step : σ → ι → σ × List ω

namespace Mealy

variable {σ ι ω : Type*}

/-- Consume a list of inputs from a given state, concatenating the outputs. -/
def run (machine : Mealy σ ι ω) : σ → List ι → σ × List ω
  | state, [] => (state, [])
  | state, input :: inputs =>
      let moved := machine.step state input
      let rest := machine.run moved.1 inputs
      (rest.1, moved.2 ++ rest.2)

@[simp] theorem run_nil
    (machine : Mealy σ ι ω)
    (state : σ) :
    machine.run state [] = (state, []) := rfl

@[simp] theorem run_cons
    (machine : Mealy σ ι ω)
    (state : σ)
    (input : ι)
    (inputs : List ι) :
    machine.run state (input :: inputs) =
      ((machine.run (machine.step state input).1 inputs).1,
        (machine.step state input).2 ++
          (machine.run (machine.step state input).1 inputs).2) := rfl

/-- Consuming a concatenation is consuming its two parts in turn. -/
theorem run_append
    (machine : Mealy σ ι ω)
    (state : σ)
    (before after : List ι) :
    machine.run state (before ++ after) =
      ((machine.run (machine.run state before).1 after).1,
        (machine.run state before).2 ++
          (machine.run (machine.run state before).1 after).2) := by
  induction before generalizing state with
  | nil => simp
  | cons input inputs inductionHypothesis =>
      simp [inductionHypothesis, List.append_assoc]

/-- A state on which every input of a list is ignored is left as it is, with
no output. -/
theorem run_eq_self_of_step
    {machine : Mealy σ ι ω}
    {state : σ}
    {inputs : List ι}
    (ignored : ∀ input ∈ inputs, machine.step state input = (state, [])) :
    machine.run state inputs = (state, []) := by
  induction inputs with
  | nil => rfl
  | cons input inputs inductionHypothesis =>
      have head := ignored input (by simp)
      have tail := inductionHypothesis fun other present =>
        ignored other (by simp [present])
      simp [head, tail]

/-- Invariant rule. A property of the state and of everything emitted so far
that one step preserves holds after every run. -/
theorem run_invariant
    {machine : Mealy σ ι ω}
    (holds : σ → List ω → Prop)
    (preserved : ∀ state history input, holds state history →
      holds (machine.step state input).1
        (history ++ (machine.step state input).2))
    {state : σ}
    {history : List ω}
    (start : holds state history)
    (inputs : List ι) :
    holds (machine.run state inputs).1
      (history ++ (machine.run state inputs).2) := by
  induction inputs generalizing state history with
  | nil => simpa using start
  | cons input inputs inductionHypothesis =>
      have moved := inductionHypothesis (preserved state history input start)
      simpa [List.append_assoc] using moved

/-- Agreement rule. Two machines over the same states that take the same step
at every state the first one visits run alike. -/
theorem run_eq_of_agree
    {left right : Mealy σ ι ω}
    {state : σ}
    {inputs : List ι}
    (agree : ∀ before input after, inputs = before ++ input :: after →
      left.step (left.run state before).1 input =
        right.step (left.run state before).1 input) :
    left.run state inputs = right.run state inputs := by
  induction inputs generalizing state with
  | nil => rfl
  | cons input inputs inductionHypothesis =>
      have sameStep : left.step state input = right.step state input :=
        agree [] input inputs rfl
      have sameRest : left.run (left.step state input).1 inputs =
          right.run (left.step state input).1 inputs :=
        inductionHypothesis fun before other after split => by
          simpa using agree (input :: before) other after (by simp [split])
      rw [run_cons, run_cons, sameRest, sameStep]

end Mealy
end Library
end ModernCommon
