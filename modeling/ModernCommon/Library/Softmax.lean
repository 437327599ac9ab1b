import Mathlib.Algebra.BigOperators.Field
import Mathlib.Analysis.Complex.Exponential
import Mathlib.Analysis.Convex.Combination

/-!
# Normalised exponentials

The softmax of finitely many scores is the family of their exponentials over the
sum of these. It depends on the differences of the scores only, so a common
amount may be taken off all of them first; with the greatest score taken off,
the exponentials are at most one and their sum is at least one. The softmax is a
probability distribution, and a mean weighted by it stays between the bounds of
what is averaged.
-/

namespace ModernCommon
namespace Library

open scoped BigOperators

variable {ι κ : Type*} [Fintype ι] [Fintype κ]

/-- The exponential of each score over the sum of the exponentials. -/
noncomputable def softmax (scores : ι → ℝ) (i : ι) : ℝ :=
  Real.exp (scores i) / ∑ j, Real.exp (scores j)

/-- The sum of the exponentials with the score of `top` taken off each score. -/
noncomputable def stabilisedSum (scores : ι → ℝ) (top : ι) : ℝ :=
  ∑ j, Real.exp (scores j - scores top)

/-- A sum of exponentials over a nonempty index is positive. -/
theorem sum_exp_pos
    [Nonempty ι]
    (scores : ι → ℝ) :
    0 < ∑ j, Real.exp (scores j) :=
  Finset.sum_pos (fun _ _ => Real.exp_pos _) Finset.univ_nonempty

/-! ## A probability distribution -/

theorem softmax_pos
    [Nonempty ι]
    (scores : ι → ℝ)
    (i : ι) :
    0 < softmax scores i :=
  div_pos (Real.exp_pos _) (sum_exp_pos scores)

theorem sum_softmax
    [Nonempty ι]
    (scores : ι → ℝ) :
    ∑ i, softmax scores i = 1 := by
  unfold softmax
  rw [← Finset.sum_div]
  exact div_self (sum_exp_pos scores).ne'

theorem softmax_le_one
    [Nonempty ι]
    (scores : ι → ℝ)
    (i : ι) :
    softmax scores i ≤ 1 := by
  rw [← sum_softmax scores]
  apply Finset.single_le_sum
  · intro j _
    exact (softmax_pos scores j).le
  · exact Finset.mem_univ i

/-- Equal scores share the weight equally. -/
theorem softmax_const
    (score : ℝ)
    (i : ι) :
    softmax (fun _ : ι => score) i = (Fintype.card ι : ℝ)⁻¹ := by
  have nonzero : Real.exp score ≠ 0 := Real.exp_ne_zero score
  simp only [softmax, Finset.sum_const, Finset.card_univ, nsmul_eq_mul]
  field_simp

/-! ## Shifted and renamed scores -/

/-- A common amount taken off all scores cancels. -/
theorem softmax_sub
    (scores : ι → ℝ)
    (shift : ℝ)
    (i : ι) :
    Real.exp (scores i - shift) / ∑ j, Real.exp (scores j - shift) =
      softmax scores i := by
  have nonzero : Real.exp shift ≠ 0 := Real.exp_ne_zero shift
  unfold softmax
  simp only [Real.exp_sub]
  rw [← Finset.sum_div]
  exact div_div_div_cancel_right₀ nonzero _ _

/-- Renaming the indices renames the weights. -/
theorem softmax_comp_equiv
    (scores : ι → ℝ)
    (names : κ ≃ ι)
    (k : κ) :
    softmax (scores ∘ names) k = softmax scores (names k) := by
  unfold softmax
  congr 1
  exact Equiv.sum_comp names fun j => Real.exp (scores j)

/-! ## The greatest score taken off -/

section Stabilised

variable {scores : ι → ℝ} {top : ι}

/-- The greatest score itself contributes one. -/
theorem one_le_stabilisedSum : 1 ≤ stabilisedSum scores top := by
  calc
    (1 : ℝ) = Real.exp (scores top - scores top) := by simp
    _ ≤ stabilisedSum scores top := by
      apply Finset.single_le_sum (f := fun j => Real.exp (scores j - scores top))
      · intro j _
        exact (Real.exp_pos _).le
      · exact Finset.mem_univ top

theorem stabilisedSum_le_card
    (greatest : ∀ j, scores j ≤ scores top) :
    stabilisedSum scores top ≤ Fintype.card ι := by
  calc
    stabilisedSum scores top ≤ ∑ _j : ι, (1 : ℝ) := by
      apply Finset.sum_le_sum
      intro j _
      rw [Real.exp_le_one_iff]
      exact sub_nonpos.mpr (greatest j)
    _ = Fintype.card ι := by simp

end Stabilised

/-! ## A score ahead of the others -/

/-- A weight is small when any score is far above its own. -/
theorem softmax_le_exp_sub
    (scores : ι → ℝ)
    (i j : ι) :
    softmax scores j ≤ Real.exp (scores j - scores i) := by
  have one : Real.exp (scores i) ≤ ∑ l, Real.exp (scores l) := by
    apply Finset.single_le_sum (f := fun l => Real.exp (scores l))
    · intro l _
      exact (Real.exp_pos _).le
    · exact Finset.mem_univ i
  rw [Real.exp_sub]
  exact div_le_div_of_nonneg_left (Real.exp_pos _).le (Real.exp_pos _) one

/-- The others share what is exponentially small in the gap. -/
theorem sum_softmax_erase_le
    [DecidableEq ι]
    {scores : ι → ℝ}
    {top : ι}
    {gap : ℝ}
    (ahead : ∀ j, j ≠ top → scores j + gap ≤ scores top) :
    ∑ j ∈ Finset.univ.erase top, softmax scores j ≤
      (Fintype.card ι - 1) * Real.exp (-gap) := by
  calc
    ∑ j ∈ Finset.univ.erase top, softmax scores j ≤
        ∑ _j ∈ Finset.univ.erase top, Real.exp (-gap) := by
      apply Finset.sum_le_sum
      intro j present
      refine (softmax_le_exp_sub scores top j).trans ?_
      rw [Real.exp_le_exp]
      linarith only [ahead j (Finset.ne_of_mem_erase present)]
    _ = (Fintype.card ι - 1) * Real.exp (-gap) := by
      have atLeastOne : 1 ≤ Fintype.card ι := Fintype.card_pos_iff.mpr ⟨top⟩
      rw [Finset.sum_const, Finset.card_erase_of_mem (Finset.mem_univ top),
        Finset.card_univ, nsmul_eq_mul, Nat.cast_sub atLeastOne, Nat.cast_one]

/-! ## Weighted means -/

/-- A weighted mean is as far from one of the values as the others draw it. -/
theorem abs_weightedMean_sub_le
    [DecidableEq ι]
    {weights values : ι → ℝ}
    {top : ι}
    {spread : ℝ}
    (nonnegative : ∀ i, 0 ≤ weights i)
    (total : ∑ i, weights i = 1)
    (near : ∀ i, |values i - values top| ≤ spread) :
    |∑ i, weights i * values i - values top| ≤
      (∑ i ∈ Finset.univ.erase top, weights i) * spread := by
  have difference : ∑ i, weights i * values i - values top =
      ∑ i ∈ Finset.univ.erase top, weights i * (values i - values top) := by
    calc
      ∑ i, weights i * values i - values top =
          ∑ i, weights i * (values i - values top) := by
        simp only [mul_sub, Finset.sum_sub_distrib, ← Finset.sum_mul, total,
          one_mul]
      _ = ∑ i ∈ Finset.univ.erase top, weights i * (values i - values top) := by
        rw [← Finset.add_sum_erase Finset.univ _ (Finset.mem_univ top),
          sub_self, mul_zero, zero_add]
  rw [difference, Finset.sum_mul]
  refine (Finset.abs_sum_le_sum_abs _ _).trans (Finset.sum_le_sum ?_)
  intro i _
  rw [abs_mul, abs_of_nonneg (nonnegative i)]
  exact mul_le_mul_of_nonneg_left (near i) (nonnegative i)

/-- A mean with weights that sum to one stays between the bounds of what is
averaged. -/
theorem weightedMean_mem_Icc
    {weights values : ι → ℝ}
    {low high : ℝ}
    (nonnegative : ∀ i, 0 ≤ weights i)
    (total : ∑ i, weights i = 1)
    (lower : ∀ i, low ≤ values i)
    (upper : ∀ i, values i ≤ high) :
    ∑ i, weights i * values i ∈ Set.Icc low high := by
  have inside :=
    (convex_Icc low high).sum_mem
      (fun i _ => nonnegative i) total fun i _ => ⟨lower i, upper i⟩
  simpa only [smul_eq_mul] using inside

end Library
end ModernCommon
