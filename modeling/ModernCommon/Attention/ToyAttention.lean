import Mathlib.Analysis.Complex.Exponential
import Mathlib.Analysis.Real.Sqrt
import Mathlib.LinearAlgebra.Matrix.RowCol
import ModernCommon.Library.Keeps

/-!
# Single-head scaled dot-product attention

`softmaxRows` and `scaledDotProductAttention` over the numbers of an ordered
field that has an exponential and a square root: the code's formulas read in
exact arithmetic. The dimensions of a matrix are part of its type, and the
shape checks compare them as the code does.

Maxima, exponentials and divisions are not defined, or not harmless, for every
argument. A run therefore writes down each that it carries out, in order, and
ends at the first that is undefined: the maximum of an empty row, which the
matrix library asserts against, and a division by zero, which has no value in
exact arithmetic.
-/

namespace ModernCommon
namespace Attention

open Library

/-- The functions of `<cmath>` the code calls. -/
class Elementary (R : Type*) where
  exp : R → R
  sqrt : R → R

noncomputable instance : Elementary ℝ where
  exp := Real.exp
  sqrt := Real.sqrt

/-- Why a run ends without a result. -/
inductive Fault
  /-- `std::invalid_argument` with its text. -/
  | invalidArgument (what : String)
  /-- `maxCoeff()` of an empty row. -/
  | emptyReduction
  | divisionByZero
deriving DecidableEq, Repr

/-- What a run carries out on the way. -/
inductive Operation (R : Type*)
  /-- The division of all scores by `sqrt(d_k)`. -/
  | scale (divisor : R)
  /-- `maxCoeff()` of a row of that many entries. -/
  | maxCoeff (size : Nat)
  | exp (argument : R)
  /-- The division of a row by its sum. -/
  | normalise (divisor : R)
deriving DecidableEq, Repr

/-- A computation that writes down what it carries out. -/
abbrev Run (R : Type) := EStateM Fault (List (Operation R))

variable {R : Type}
variable {m n nq nk nv dq dk dv : Nat}

/-- Note operations as carried out. -/
def record (operations : List (Operation R)) : Run R PUnit :=
  modify fun carriedOut => carriedOut ++ operations

@[simp] theorem record_run
    (operations log : List (Operation R)) :
    (record operations).run log = .ok ⟨⟩ (log ++ operations) := rfl

/-! ## One operation -/

section MaxCoeff

variable [LinearOrder R]

/-- `row.maxCoeff()` -/
def maxCoeff (row : Fin n → R) : Run R R := do
  record [.maxCoeff n]
  match (List.ofFn row).max? with
  | some value => pure value
  | none => throw .emptyReduction

/-- The maximum of a row is one of its entries, and none is greater. -/
theorem maxCoeff_run
    (row : Fin n → R)
    (nonempty : 0 < n)
    (log : List (Operation R)) :
    ∃ top, (∀ j, row j ≤ row top) ∧
      (maxCoeff row).run log = .ok (row top) (log ++ [.maxCoeff n]) := by
  cases found : (List.ofFn row).max? with
  | none =>
      have empty : List.ofFn row = [] := List.max?_eq_none_iff.mp found
      have length := congrArg List.length empty
      rw [List.length_ofFn, List.length_nil] at length
      omega
  | some value =>
      obtain ⟨member, greatest⟩ := List.max?_eq_some_iff.mp found
      obtain ⟨top, rfl⟩ := (List.mem_ofFn' row value).mp member
      refine ⟨top, fun j => greatest _ ?_, ?_⟩
      · exact (List.mem_ofFn' row _).mpr ⟨j, rfl⟩
      · rw [maxCoeff, EStateM.run_bind, record_run]
        simp only [found, EStateM.run_pure]

theorem maxCoeff_run_empty
    (row : Fin 0 → R)
    (log : List (Operation R)) :
    (maxCoeff row).run log = .error .emptyReduction (log ++ [.maxCoeff 0]) := rfl

end MaxCoeff

section Exp

variable [Elementary R]

/-- `row.array().exp()` -/
def expRow (row : Fin n → R) : Run R (Fin n → R) := do
  record (List.ofFn fun j => .exp (row j))
  pure fun j => Elementary.exp (row j)

@[simp] theorem expRow_run
    (row : Fin n → R)
    (log : List (Operation R)) :
    (expRow row).run log =
      .ok (fun j => Elementary.exp (row j))
        (log ++ List.ofFn fun j => .exp (row j)) := rfl

end Exp

section Dividing

variable [Zero R] [DecidableEq R] {operation : R → Operation R}

/-- A division that is about to be carried out. -/
def dividing (operation : R → Operation R) (divisor : R) : Run R PUnit := do
  record [operation divisor]
  if divisor = 0 then throw .divisionByZero

theorem dividing_run_of_ne_zero
    {divisor : R}
    (nonzero : divisor ≠ 0)
    (log : List (Operation R)) :
    (dividing operation divisor).run log = .ok ⟨⟩ (log ++ [operation divisor]) := by
  rw [dividing, EStateM.run_bind, record_run, if_neg nonzero]
  rfl

theorem dividing_run_zero (log : List (Operation R)) :
    (dividing operation 0).run log =
      .error .divisionByZero (log ++ [operation 0]) := by
  rw [dividing, EStateM.run_bind, record_run, if_pos rfl]
  rfl

end Dividing

/-! ## The two functions -/

variable [Field R] [LinearOrder R] [Elementary R]

/-- One pass of the loop of `softmaxRows`: the row `i` of the result is
assigned. -/
def softmaxRow
    (scores : Matrix (Fin m) (Fin n) R)
    (result : Matrix (Fin m) (Fin n) R)
    (i : Fin m) :
    Run R (Matrix (Fin m) (Fin n) R) := do
  let maxVal ← maxCoeff (scores i)
  let exponentials ← expRow fun j => scores i j - maxVal
  let sum := ∑ j, exponentials j
  dividing .normalise sum
  pure (Matrix.updateRow result i fun j => exponentials j / sum)

/-- `softmaxRows`. The result is allocated without being initialised, so it
begins as whatever `storage` holds. -/
def softmaxRows
    (storage : Matrix (Fin m) (Fin n) R)
    (scores : Matrix (Fin m) (Fin n) R) :
    Run R (Matrix (Fin m) (Fin n) R) :=
  (List.finRange m).foldlM (softmaxRow scores) storage

/-- `scaledDotProductAttention`. The checks compare `Q.cols()` with `K.cols()`
and `K.rows()` with `V.rows()`; what follows them reads `Q` and `V` at the
dimensions of `K`. -/
def scaledDotProductAttention
    (storage : Matrix (Fin nq) (Fin nk) R)
    (Q : Matrix (Fin nq) (Fin dq) R)
    (K : Matrix (Fin nk) (Fin dk) R)
    (V : Matrix (Fin nv) (Fin dv) R) :
    Run R (Matrix (Fin nq) (Fin dv) R) :=
  if innerEqual : dq = dk then
    if rowsEqual : nk = nv then do
      let divisor : R := Elementary.sqrt (dk : R)
      dividing .scale divisor
      let scores :=
        (Q.submatrix id (Fin.cast innerEqual.symm) * K.transpose).map (· / divisor)
      let weights ← softmaxRows storage scores
      pure (weights * V.submatrix (Fin.cast rowsEqual) id)
    else
      throw (.invalidArgument
        "scaledDotProductAttention: K and V must have the same number of rows (n_k)")
  else
    throw (.invalidArgument
      "scaledDotProductAttention: Q and K must share the same inner dimension (d_k)")

/-! ## The shape checks -/

/-- Inner dimensions that differ are refused before anything is computed. -/
theorem scaledDotProductAttention_innerDiffer
    (innerDiffer : dq ≠ dk)
    (storage : Matrix (Fin nq) (Fin nk) R)
    (Q : Matrix (Fin nq) (Fin dq) R)
    (K : Matrix (Fin nk) (Fin dk) R)
    (V : Matrix (Fin nv) (Fin dv) R)
    (log : List (Operation R)) :
    (scaledDotProductAttention storage Q K V).run log =
      .error (.invalidArgument
        "scaledDotProductAttention: Q and K must share the same inner dimension (d_k)")
        log := by
  rw [scaledDotProductAttention, dif_neg innerDiffer]
  rfl

/-- So are numbers of keys and values that differ. -/
theorem scaledDotProductAttention_rowsDiffer
    (rowsDiffer : nk ≠ nv)
    (storage : Matrix (Fin nq) (Fin nk) R)
    (Q : Matrix (Fin nq) (Fin dk) R)
    (K : Matrix (Fin nk) (Fin dk) R)
    (V : Matrix (Fin nv) (Fin dv) R)
    (log : List (Operation R)) :
    (scaledDotProductAttention storage Q K V).run log =
      .error (.invalidArgument
        "scaledDotProductAttention: K and V must have the same number of rows (n_k)")
        log := by
  rw [scaledDotProductAttention, dif_pos rfl, dif_neg rowsDiffer]
  rfl

/-- The scores of accepted matrices. -/
def scoresOf
    (Q : Matrix (Fin nq) (Fin dk) R)
    (K : Matrix (Fin nk) (Fin dk) R) :
    Matrix (Fin nq) (Fin nk) R :=
  (Q * K.transpose).map (· / Elementary.sqrt (dk : R))

/-- Matrices of matching dimensions are accepted. -/
theorem scaledDotProductAttention_accepted
    (storage : Matrix (Fin nq) (Fin nk) R)
    (Q : Matrix (Fin nq) (Fin dk) R)
    (K : Matrix (Fin nk) (Fin dk) R)
    (V : Matrix (Fin nk) (Fin dv) R) :
    scaledDotProductAttention storage Q K V = (do
      dividing .scale (Elementary.sqrt (dk : R))
      let weights ← softmaxRows storage (scoresOf Q K)
      pure (weights * V)) := by
  rw [scaledDotProductAttention, dif_pos rfl, dif_pos rfl]
  rfl

end Attention
end ModernCommon
