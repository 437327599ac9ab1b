import Mathlib.Data.List.Basic
import Mathlib.Data.List.Induction

/-!
# Systems with named operations

A system moves from state to state by operations; an operation that makes no
sense in a state has no successor there. Three rules carry an invariant from
one step to every run: for all runs, for the runs whose every step is taken
under a condition on the state before it, and for an invariant that ties the
state to the operations that led to it. The last sections are about what held
at some or at every instant of a run, and about how high a measure rose in it.
-/

namespace ModernCommon
namespace Library

/-- A system over states `σ` and operations `ι`. -/
structure System (σ ι : Type*) where
  /-- The state before any operation. -/
  initial : σ
  /-- The state an operation leads to, if it makes sense. -/
  step : σ → ι → Option σ

namespace System

variable {σ ι : Type*}

/-- The state a list of operations leads to. -/
def run (system : System σ ι) : σ → List ι → Option σ
  | state, [] => some state
  | state, operation :: operations =>
      (system.step state operation).bind fun next => system.run next operations

/-- Every operation of a run is issued in a state that allows it. -/
def Allows
    (system : System σ ι)
    (condition : σ → ι → Prop) :
    σ → List ι → Prop
  | _, [] => True
  | state, operation :: operations =>
      condition state operation ∧
        ∀ next, system.step state operation = some next →
          system.Allows condition next operations

/-- Whether a run is allowed can be tested by running it. -/
instance decidableAllows
    (system : System σ ι)
    (condition : σ → ι → Prop)
    [decidableCondition : ∀ state operation, Decidable (condition state operation)] :
    ∀ state operations, Decidable (system.Allows condition state operations)
  | _, [] => .isTrue trivial
  | state, operation :: operations =>
      match stepped : system.step state operation with
      | none =>
          decidable_of_iff (condition state operation)
            ⟨fun holds => ⟨holds, by simp [stepped]⟩, And.left⟩
      | some next =>
          have := decidableAllows system condition next operations
          decidable_of_iff
            (condition state operation ∧ system.Allows condition next operations)
            (by simp [Allows, stepped])

/-- A run of at least one operation is its first step and the run after it. -/
theorem run_cons_eq_some
    (system : System σ ι)
    (state final : σ)
    (operation : ι)
    (operations : List ι) :
    system.run state (operation :: operations) = some final ↔
      ∃ next, system.step state operation = some next ∧
        system.run next operations = some final := by
  simp [run, Option.bind_eq_some_iff]

/-- An invariant kept by the allowed steps holds at the end of every run of
allowed operations. -/
theorem invariant_of_run_of_allows
    (system : System σ ι)
    (condition : σ → ι → Prop)
    (invariant : σ → Prop)
    (kept : ∀ state operation next,
      invariant state → condition state operation →
        system.step state operation = some next → invariant next)
    {state final : σ}
    {operations : List ι}
    (holds : invariant state)
    (allowed : system.Allows condition state operations)
    (ran : system.run state operations = some final) :
    invariant final := by
  induction operations generalizing state with
  | nil =>
      cases ran
      exact holds
  | cons operation operations inductionHypothesis =>
      obtain ⟨next, stepped, rest⟩ :=
        (run_cons_eq_some system state final operation operations).mp ran
      exact inductionHypothesis
        (kept state operation next holds allowed.1 stepped)
        (allowed.2 next stepped) rest

/-- Every run is allowed when nothing is asked of its steps. -/
theorem allows_true
    (system : System σ ι)
    (state : σ)
    (operations : List ι) :
    system.Allows (fun _ _ => True) state operations := by
  induction operations generalizing state with
  | nil => trivial
  | cons operation operations inductionHypothesis =>
      exact ⟨trivial, fun next _ => inductionHypothesis next⟩

/-- Conditions that agree wherever an invariant holds allow the same runs. -/
theorem allows_congr
    (system : System σ ι)
    {condition other : σ → ι → Prop}
    (invariant : σ → Prop)
    (kept : ∀ state operation next,
      invariant state → system.step state operation = some next →
        invariant next)
    (agree : ∀ state operation,
      invariant state → (condition state operation ↔ other state operation))
    {state : σ}
    (holds : invariant state)
    (operations : List ι) :
    system.Allows condition state operations ↔
      system.Allows other state operations := by
  induction operations generalizing state with
  | nil => exact Iff.rfl
  | cons operation operations inductionHypothesis =>
      refine and_congr (agree state operation holds) ?_
      exact forall₂_congr fun next stepped =>
        inductionHypothesis (kept state operation next holds stepped)

/-- An invariant kept by every step holds at the end of every run. -/
theorem invariant_of_run
    (system : System σ ι)
    (invariant : σ → Prop)
    (kept : ∀ state operation next,
      invariant state → system.step state operation = some next →
        invariant next)
    {state final : σ}
    {operations : List ι}
    (holds : invariant state)
    (ran : system.run state operations = some final) :
    invariant final :=
  system.invariant_of_run_of_allows (fun _ _ => True) invariant
    (fun state operation next before _ => kept state operation next before)
    holds (system.allows_true state operations) ran

/-- A run of a concatenation is a run of its first part and, from where that
ends, of its second. -/
theorem run_append_eq_some
    (system : System σ ι)
    (state final : σ)
    (before after : List ι) :
    system.run state (before ++ after) = some final ↔
      ∃ between, system.run state before = some between ∧
        system.run between after = some final := by
  induction before generalizing state with
  | nil => simp [run]
  | cons operation operations inductionHypothesis =>
      simp only [List.cons_append, run_cons_eq_some, inductionHypothesis]
      constructor
      · rintro ⟨next, stepped, between, ran, rest⟩
        exact ⟨between, ⟨next, stepped, ran⟩, rest⟩
      · rintro ⟨between, ⟨next, stepped, ran⟩, rest⟩
        exact ⟨next, stepped, between, ran, rest⟩

/-- The last step of a run is taken in the state the others lead to. -/
theorem run_append_singleton_eq_some
    (system : System σ ι)
    (state final : σ)
    (operations : List ι)
    (operation : ι) :
    system.run state (operations ++ [operation]) = some final ↔
      ∃ last, system.run state operations = some last ∧
        system.step last operation = some final := by
  simp [run_append_eq_some, run]

/-- A relation between the operations so far and the state they led to holds at
the end of every run if every further step keeps it. -/
theorem history_of_run
    (system : System σ ι)
    (invariant : List ι → σ → Prop)
    {start final : σ}
    {operations : List ι}
    (initially : invariant [] start)
    (kept : ∀ history state operation next,
      system.run start history = some state → invariant history state →
        system.step state operation = some next →
          invariant (history ++ [operation]) next)
    (ran : system.run start operations = some final) :
    invariant operations final := by
  induction operations using List.reverseRecOn generalizing final with
  | nil =>
      cases ran
      exact initially
  | append_singleton history operation inductionHypothesis =>
      obtain ⟨last, before, stepped⟩ :=
        (run_append_singleton_eq_some system start final history operation).mp
          ran
      exact kept history last operation final before
        (inductionHypothesis before) stepped

/-- Simulation rule. If a specification can follow every step of a system that is
taken by an allowed operation, it can follow every run of such operations. -/
theorem simulated_of_run
    {τ : Type*}
    (system : System σ ι)
    (specification : System τ ι)
    (related : σ → τ → Prop)
    (allowed : ι → Prop)
    (simulates : ∀ state follower operation next,
      allowed operation → related state follower →
        system.step state operation = some next →
          ∃ after, specification.step follower operation = some after ∧
            related next after)
    {start final : σ}
    {follower : τ}
    {operations : List ι}
    (initially : related start follower)
    (each : ∀ operation ∈ operations, allowed operation)
    (ran : system.run start operations = some final) :
    ∃ after, specification.run follower operations = some after ∧
      related final after := by
  induction operations generalizing start follower with
  | nil =>
      cases ran
      exact ⟨follower, rfl, initially⟩
  | cons operation operations inductionHypothesis =>
      obtain ⟨next, stepped, rest⟩ :=
        (run_cons_eq_some system start final operation operations).mp ran
      obtain ⟨between, followed, stillRelated⟩ := simulates start follower
        operation next (each operation List.mem_cons_self) initially stepped
      obtain ⟨after, ranAfter, atEnd⟩ := inductionHypothesis stillRelated
        (fun other present => each other (List.mem_cons_of_mem _ present)) rest
      refine ⟨after, ?_, atEnd⟩
      rw [run_cons_eq_some]
      exact ⟨between, followed, ranAfter⟩

/-! ## Instants of a run -/

/-- At some instant of `later`, which happened after `earlier`, the state was as
`condition` says. -/
def During
    (system : System σ ι)
    (start : σ)
    (earlier later : List ι)
    (condition : σ → Prop) : Prop :=
  ∃ instant rest seen,
    instant ++ rest = later ∧
      system.run start (earlier ++ instant) = some seen ∧
      condition seen

/-- An instant of a time is one of a longer time. -/
theorem During.extend
    {system : System σ ι}
    {start : σ}
    {earlier later : List ι}
    {condition : σ → Prop}
    (during : system.During start earlier later condition)
    (more : List ι) :
    system.During start earlier (later ++ more) condition := by
  obtain ⟨instant, rest, seen, split, ran, holds⟩ := during
  refine ⟨instant, rest ++ more, seen, ?_, ran, holds⟩
  rw [← List.append_assoc, split]

/-- The end of a time is one of its instants. -/
theorem During.now
    {system : System σ ι}
    {start seen : σ}
    {earlier later : List ι}
    {condition : σ → Prop}
    (ran : system.run start (earlier ++ later) = some seen)
    (holds : condition seen) :
    system.During start earlier later condition :=
  ⟨later, [], seen, List.append_nil later, ran, holds⟩

/-- At every instant of `later`, which happened after `earlier`, the state was as
`condition` says. -/
def Throughout
    (system : System σ ι)
    (start : σ)
    (earlier later : List ι)
    (condition : σ → Prop) : Prop :=
  ∀ instant rest seen,
    instant ++ rest = later →
      system.run start (earlier ++ instant) = some seen →
        condition seen

/-- A time that has just begun has one instant. -/
theorem throughout_nil
    {system : System σ ι}
    {start now : σ}
    {earlier : List ι}
    {condition : σ → Prop}
    (ran : system.run start earlier = some now)
    (holds : condition now) :
    system.Throughout start earlier [] condition := by
  intro instant rest seen split reached
  obtain ⟨rfl, -⟩ := List.append_eq_nil_iff.mp split
  rw [List.append_nil, ran] at reached
  cases reached
  exact holds

/-- One more operation adds one instant. -/
theorem Throughout.extend
    {system : System σ ι}
    {start now : σ}
    {earlier later : List ι}
    {operation : ι}
    {condition : σ → Prop}
    (throughout : system.Throughout start earlier later condition)
    (ran : system.run start (earlier ++ (later ++ [operation])) = some now)
    (holds : condition now) :
    system.Throughout start earlier (later ++ [operation]) condition := by
  intro instant rest seen split reached
  rcases List.eq_nil_or_concat rest with rfl | ⟨kept, last, rfl⟩
  · rw [List.append_nil] at split
    rw [split, ran] at reached
    cases reached
    exact holds
  · rw [List.concat_eq_append, ← List.append_assoc] at split
    exact throughout instant kept seen (List.append_inj' split rfl).1 reached

/-! ## High-water marks -/

/-- The largest value of a measure over the states of a run. -/
def peak (system : System σ ι) (measure : σ → Nat) : σ → List ι → Nat
  | state, [] => measure state
  | state, operation :: operations =>
      max (measure state)
        (match system.step state operation with
        | none => 0
        | some next => system.peak measure next operations)

/-- The last state of a run counts. -/
theorem measure_le_peak
    (system : System σ ι)
    (measure : σ → Nat)
    {state final : σ}
    {operations : List ι}
    (ran : system.run state operations = some final) :
    measure final ≤ system.peak measure state operations := by
  induction operations generalizing state with
  | nil =>
      cases ran
      exact Nat.le_refl (measure final)
  | cons operation operations inductionHypothesis =>
      obtain ⟨next, stepped, rest⟩ :=
        (run_cons_eq_some system state final operation operations).mp ran
      rw [peak, stepped]
      exact Nat.le_trans (inductionHypothesis rest) (Nat.le_max_right _ _)

/-- One more step can only raise the mark, to the state it leads to. -/
theorem peak_append_singleton
    (system : System σ ι)
    (measure : σ → Nat)
    {state last next : σ}
    {operations : List ι}
    {operation : ι}
    (ran : system.run state operations = some last)
    (stepped : system.step last operation = some next) :
    system.peak measure state (operations ++ [operation]) =
      max (system.peak measure state operations) (measure next) := by
  induction operations generalizing state with
  | nil =>
      cases ran
      simp [peak, stepped]
  | cons earlier operations inductionHypothesis =>
      obtain ⟨between, first, rest⟩ :=
        (run_cons_eq_some system state last earlier operations).mp ran
      rw [List.cons_append, peak, peak, first]
      simp only
      rw [inductionHypothesis rest, Nat.max_assoc]

end System
end Library
end ModernCommon
