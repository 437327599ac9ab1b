import ModernCommon.Attention.PlainFormula

/-!
# Shapes without entries

The shape checks compare dimensions and admit every dimension that is zero. With
no inner dimension the scores are divided by `sqrt(0)`; with queries but no keys
the maximum of an empty row is asked for. On all other accepted shapes every
operation is defined: either there is no row to normalise, or each row has a
greatest entry, and its sum is at least one.
-/

namespace ModernCommon
namespace Attention

open Library

variable {nq nk dk dv : Nat}

/-- The operation has a value: the divisor is not zero, the row not empty. -/
def Operation.Defined : Operation ℝ → Prop
  | .scale divisor => divisor ≠ 0
  | .maxCoeff size => size ≠ 0
  | .exp _ => True
  | .normalise divisor => divisor ≠ 0

theorem Operation.Stable.defined
    {n : Nat}
    {operation : Operation ℝ}
    (stable : operation.Stable n) :
    operation.Defined := by
  cases operation with
  | scale divisor => exact stable
  | maxCoeff size => exact stable.ne'
  | exp argument => trivial
  | normalise divisor =>
      have positive : 0 < divisor := by linarith [stable.1]
      exact positive.ne'

section Run

variable
  (storage : Matrix (Fin nq) (Fin nk) ℝ)
  (Q : Matrix (Fin nq) (Fin dk) ℝ)
  (K : Matrix (Fin nk) (Fin dk) ℝ)
  (V : Matrix (Fin nk) (Fin dv) ℝ)

/-- The operations of the run on accepted matrices, up to the first that is
undefined. -/
noncomputable def operationsOf : List (Operation ℝ) :=
  finalState ((scaledDotProductAttention storage Q K V).run [])

/-- Without queries the scores are divided and nothing else happens. -/
theorem operationsOf_noQueries
    (noQueries : nq = 0)
    (inner : 0 < dk) :
    operationsOf storage Q K V = [.scale (Elementary.sqrt (dk : ℝ))] := by
  subst noQueries
  rw [operationsOf, scaledDotProductAttention_accepted, EStateM.run_bind,
    dividing_run_of_ne_zero (sqrt_inner_ne_zero inner)]
  rfl

/-- Without an inner dimension the scores are divided by zero. -/
theorem operationsOf_noInner (noInner : dk = 0) :
    operationsOf storage Q K V = [.scale 0] := by
  subst noInner
  have divisorZero : (Elementary.sqrt ((0 : Nat) : ℝ) : ℝ) = 0 := by
    rw [Nat.cast_zero]
    exact Real.sqrt_zero
  rw [operationsOf, scaledDotProductAttention_accepted, divisorZero,
    EStateM.run_bind, dividing_run_zero]
  rfl

/-- Without keys the first query asks for the maximum of an empty row. -/
theorem operationsOf_noKeys
    (queries : 0 < nq)
    (noKeys : nk = 0)
    (inner : 0 < dk) :
    operationsOf storage Q K V =
      [.scale (Elementary.sqrt (dk : ℝ)), .maxCoeff 0] := by
  subst noKeys
  obtain ⟨others, rfl⟩ := Nat.exists_eq_succ_of_ne_zero queries.ne'
  rw [operationsOf, scaledDotProductAttention_accepted, EStateM.run_bind,
    dividing_run_of_ne_zero (sqrt_inner_ne_zero inner)]
  simp only [EStateM.run_bind, softmaxRows, List.finRange_succ, List.foldlM_cons,
    softmaxRow, maxCoeff_run_empty]
  rfl

/-- On accepted matrices the divisor of the scores is not zero, no empty row is
reduced and no row sum that is divided by is zero exactly if there is an inner
dimension, and a key unless there is no query. -/
theorem operationsOf_defined_iff :
    (∀ operation ∈ operationsOf storage Q K V, operation.Defined) ↔
      0 < dk ∧ (nq = 0 ∨ 0 < nk) := by
  constructor
  · intro defined
    have inner : 0 < dk := by
      apply Nat.pos_of_ne_zero
      intro noInner
      rw [operationsOf_noInner storage Q K V noInner] at defined
      exact defined (.scale 0) List.mem_cons_self rfl
    refine ⟨inner, ?_⟩
    by_contra degenerate
    obtain ⟨someQuery, noKeys⟩ := not_or.mp degenerate
    rw [operationsOf_noKeys storage Q K V (Nat.pos_of_ne_zero someQuery)
      (Nat.eq_zero_of_not_pos noKeys) inner] at defined
    exact defined (.maxCoeff 0) (by simp) rfl
  · rintro ⟨inner, noQueries | keys⟩ operation carriedOut
    · rw [operationsOf_noQueries storage Q K V noQueries inner] at carriedOut
      rw [List.mem_singleton.mp carriedOut]
      exact sqrt_inner_ne_zero inner
    · obtain ⟨operations, stable, ran⟩ :=
        scaledDotProductAttention_run keys inner storage Q K V []
      rw [operationsOf, ran] at carriedOut
      exact (stable operation carriedOut).defined

end Run

/-- A query and a key of no components are accepted, and so are a query and no
key at all; the first divides by zero and the second reduces an empty row. -/
theorem operationsOf_notDefined :
    (¬ ∀ operation ∈ operationsOf 0
        (0 : Matrix (Fin 1) (Fin 0) ℝ)
        (0 : Matrix (Fin 1) (Fin 0) ℝ)
        (0 : Matrix (Fin 1) (Fin 1) ℝ), operation.Defined) ∧
      ¬ ∀ operation ∈ operationsOf 0
        (0 : Matrix (Fin 1) (Fin 1) ℝ)
        (0 : Matrix (Fin 0) (Fin 1) ℝ)
        (0 : Matrix (Fin 0) (Fin 1) ℝ), operation.Defined := by
  constructor
  · intro defined
    rw [operationsOf_noInner _ _ _ _ rfl] at defined
    exact defined (.scale 0) List.mem_cons_self rfl
  · intro defined
    rw [operationsOf_noKeys _ _ _ _ (by decide) rfl (by decide)] at defined
    exact defined (.maxCoeff 0) (by simp) rfl

end Attention
end ModernCommon
