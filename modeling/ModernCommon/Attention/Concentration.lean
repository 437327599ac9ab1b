import Mathlib.Analysis.Complex.ExponentialBounds
import Mathlib.Analysis.SpecialFunctions.Exp
import ModernCommon.Attention.PlainFormula

/-!
# Matching keys

A query that matches one key better than all others draws its result to the value
of that key: how close is exponential in the gap between the scores, and scaling
the query widens the gap. Apart from that the queries and keys matter only by
their dot products, up to an amount of each query's own, and the values enter
linearly.
-/

namespace ModernCommon
namespace Attention

open Library Filter Topology

variable {nq nk dk dv : Nat}

/-- The dot product of a query and a key. -/
def dot
    (Q : Matrix (Fin nq) (Fin dk) ℝ)
    (K : Matrix (Fin nk) (Fin dk) ℝ)
    (i : Fin nq)
    (j : Fin nk) : ℝ :=
  ∑ c, Q i c * K j c

theorem score_eq_dot
    (Q : Matrix (Fin nq) (Fin dk) ℝ)
    (K : Matrix (Fin nk) (Fin dk) ℝ)
    (i : Fin nq)
    (j : Fin nk) :
    score Q K i j = dot Q K i j / √dk := rfl

theorem dot_smul
    (t : ℝ)
    (Q : Matrix (Fin nq) (Fin dk) ℝ)
    (K : Matrix (Fin nk) (Fin dk) ℝ)
    (i : Fin nq)
    (j : Fin nk) :
    dot (t • Q) K i j = t * dot Q K i j := by
  simp only [dot, Matrix.smul_apply, smul_eq_mul, mul_assoc, Finset.mul_sum]

/-! ## One key ahead -/

/-- Scaling the queries scales a lead in the scores. -/
theorem score_ahead
    (inner : 0 < dk)
    {Q : Matrix (Fin nq) (Fin dk) ℝ}
    {K : Matrix (Fin nk) (Fin dk) ℝ}
    {i : Fin nq}
    {top j : Fin nk}
    {gap : ℝ}
    (ahead : dot Q K i j + gap * √dk ≤ dot Q K i top)
    {t : ℝ}
    (nonnegative : 0 ≤ t) :
    score (t • Q) K i j + t * gap ≤ score (t • Q) K i top := by
  have positive : 0 < √(dk : ℝ) := Real.sqrt_pos.mpr (by exact_mod_cast inner)
  rw [score_eq_dot, score_eq_dot, dot_smul, dot_smul, le_div_iff₀ positive,
    add_mul, div_mul_cancel₀ _ positive.ne']
  calc
    t * dot Q K i j + t * gap * √dk = t * (dot Q K i j + gap * √dk) := by ring
    _ ≤ t * dot Q K i top := mul_le_mul_of_nonneg_left ahead nonnegative

/-- The result is as far from the value of the matching key as the weights of
the other keys allow. -/
theorem abs_plainAttention_sub_le
    {Q : Matrix (Fin nq) (Fin dk) ℝ}
    {K : Matrix (Fin nk) (Fin dk) ℝ}
    {V : Matrix (Fin nk) (Fin dv) ℝ}
    {i : Fin nq}
    {top : Fin nk}
    {gap : ℝ}
    (ahead : ∀ j, j ≠ top → score Q K i j + gap ≤ score Q K i top)
    {c : Fin dv}
    {spread : ℝ}
    (near : ∀ j, |V j c - V top c| ≤ spread) :
    |plainAttention Q K V i c - V top c| ≤
      (nk - 1) * Real.exp (-gap) * spread := by
  have keys : 0 < nk := top.pos
  obtain ⟨unitInterval, total⟩ := weight_distribution keys Q K i
  have spreadNonneg : 0 ≤ spread := (abs_nonneg _).trans (near top)
  have others := sum_softmax_erase_le ahead
  rw [Fintype.card_fin] at others
  refine (abs_weightedMean_sub_le (fun j => (unitInterval j).1.le) total near).trans ?_
  exact mul_le_mul_of_nonneg_right others spreadNonneg

/-- A column that is drawn to a value exponentially fast tends to it. -/
theorem tendsto_of_abs_sub_le
    {f : ℝ → ℝ}
    {value gap : ℝ}
    (bound : ℝ)
    (positive : 0 < gap)
    (near : ∀ t, 0 ≤ t → |f t - value| ≤ bound * Real.exp (-(t * gap))) :
    Tendsto f atTop (𝓝 value) := by
  have grows : Tendsto (fun t : ℝ => t * gap) atTop atTop :=
    tendsto_id.atTop_mul_const positive
  have decays : Tendsto (fun t => bound * Real.exp (-(t * gap))) atTop (𝓝 0) := by
    have vanishes :=
      (Real.tendsto_exp_neg_atTop_nhds_zero.comp grows).const_mul bound
    rwa [mul_zero] at vanishes
  rw [tendsto_iff_dist_tendsto_zero]
  exact squeeze_zero' (Eventually.of_forall fun t => dist_nonneg)
    ((eventually_ge_atTop 0).mono near) decays

/-- Where one key's dot product with a query is ahead of all others by a gap, in
units of `sqrt(d_k)`, the result for `t` times the queries differs from that
key's value by at most `(n_k - 1) exp(-t gap)` times the spread of the values;
so it tends to the value as the queries are scaled up. -/
theorem scaledDotProductAttention_concentrates
    (inner : 0 < dk)
    (storage : Matrix (Fin nq) (Fin nk) ℝ)
    {Q : Matrix (Fin nq) (Fin dk) ℝ}
    {K : Matrix (Fin nk) (Fin dk) ℝ}
    (V : Matrix (Fin nk) (Fin dv) ℝ)
    {i : Fin nq}
    {top : Fin nk}
    {gap : ℝ}
    (ahead : ∀ j, j ≠ top → dot Q K i j + gap * √dk ≤ dot Q K i top) :
    ∃ out : ℝ → Matrix (Fin nq) (Fin dv) ℝ,
      (∀ t, Returns storage (t • Q) K V (out t)) ∧
      (∀ t, 0 ≤ t → ∀ c spread, (∀ j, |V j c - V top c| ≤ spread) →
        |out t i c - V top c| ≤ (nk - 1) * Real.exp (-(t * gap)) * spread) ∧
      (0 < gap → ∀ c, Tendsto (fun t => out t i c) atTop (𝓝 (V top c))) := by
  have bounded : ∀ t, 0 ≤ t → ∀ c spread,
      (∀ j, |V j c - V top c| ≤ spread) →
      |plainAttention (t • Q) K V i c - V top c| ≤
        (nk - 1) * Real.exp (-(t * gap)) * spread := by
    intro t nonnegative c spread near
    exact abs_plainAttention_sub_le
      (fun j other => score_ahead inner (ahead j other) nonnegative) near
  refine ⟨fun t => plainAttention (t • Q) K V,
    fun t => returns_plainAttention top.pos inner storage (t • Q) K V, bounded, ?_⟩
  intro positive c
  have : Nonempty (Fin nk) := ⟨top⟩
  obtain ⟨furthest, greatest⟩ := Finite.exists_max fun j => |V j c - V top c|
  refine tendsto_of_abs_sub_le ((nk - 1) * |V furthest c - V top c|) positive
    fun t nonnegative => ?_
  rw [mul_right_comm]
  exact bounded t nonnegative c _ greatest

/-! A query of length ten along the first of three keys, with the values 100, 200
and 300 on the diagonal. -/

/-- A query that points along the first key. -/
def matchingQuery : Matrix (Fin 1) (Fin 3) ℝ := !![10, 0, 0]

/-- Three keys at right angles. -/
def unitKeys : Matrix (Fin 3) (Fin 3) ℝ := !![1, 0, 0; 0, 1, 0; 0, 0, 1]

/-- Three values that share no column. -/
def diagonalValues : Matrix (Fin 3) (Fin 3) ℝ :=
  !![100, 0, 0; 0, 200, 0; 0, 0, 300]

theorem matchingQuery_ahead
    (j : Fin 3)
    (other : j ≠ 0) :
    dot matchingQuery unitKeys 0 j + 10 / √(3 : ℕ) * √(3 : ℕ) ≤
      dot matchingQuery unitKeys 0 0 := by
  have nonzero : √((3 : ℕ) : ℝ) ≠ 0 := by simp
  rw [div_mul_cancel₀ _ nonzero]
  fin_cases j
  · exact absurd rfl other
  · simp [dot, matchingQuery, unitKeys, Fin.sum_univ_three]
  · simp [dot, matchingQuery, unitKeys, Fin.sum_univ_three]

theorem exp_neg_gap_le : Real.exp (-(1 * (10 / √(3 : ℕ)))) ≤ 1 / 125 := by
  have atMostTwo : √((3 : ℕ) : ℝ) ≤ 2 := by
    rw [Real.sqrt_le_left (by norm_num)]
    norm_num
  have positive : 0 < √((3 : ℕ) : ℝ) := by simp
  have five : (5 : ℝ) ≤ 1 * (10 / √((3 : ℕ) : ℝ)) := by
    rw [one_mul, le_div_iff₀ positive]
    linarith only [atMostTwo]
  have large : (125 : ℝ) ≤ Real.exp 5 := by
    have power : Real.exp 5 = Real.exp 1 ^ 5 := by
      rw [← Real.exp_nat_mul]
      norm_num
    have least : (2.7 : ℝ) ≤ Real.exp 1 := by
      linarith only [Real.exp_one_gt_d9]
    rw [power]
    calc
      (125 : ℝ) ≤ 2.7 ^ 5 := by norm_num
      _ ≤ Real.exp 1 ^ 5 := pow_le_pow_left₀ (by norm_num) least 5
  rw [Real.exp_neg, ← one_div]
  exact one_div_le_one_div_of_le (by norm_num)
    (large.trans (Real.exp_le_exp.mpr five))

theorem scaledDotProductAttention_concentrates_matching :
    ∃ out, Returns 0 matchingQuery unitKeys diagonalValues out ∧
      95 < out 0 0 ∧ out 0 1 < 5 ∧ out 0 2 < 5 := by
  obtain ⟨out, returns, near, -⟩ := scaledDotProductAttention_concentrates
    (by decide) 0 diagonalValues matchingQuery_ahead
  have small := exp_neg_gap_le
  have first := near 1 zero_le_one 0 100 (by
    intro j
    fin_cases j <;> simp [diagonalValues])
  have second := near 1 zero_le_one 1 200 (by
    intro j
    fin_cases j <;> simp [diagonalValues])
  have third := near 1 zero_le_one 2 300 (by
    intro j
    fin_cases j <;> simp [diagonalValues])
  have ran := returns 1
  rw [one_smul] at ran
  refine ⟨out 1, ran, ?_⟩
  change |out 1 0 0 - 100| ≤ _ at first
  change |out 1 0 1 - 0| ≤ _ at second
  change |out 1 0 2 - 0| ≤ _ at third
  rw [abs_le] at first second third
  norm_num at first second third small
  refine ⟨?_, ?_, ?_⟩ <;> linarith

/-! ## What the queries, keys and values matter by -/

/-- Scores that differ by an amount of each query's own have the same
weights. -/
theorem weight_shifted
    {Q Q' : Matrix (Fin nq) (Fin dk) ℝ}
    {K K' : Matrix (Fin nk) (Fin dk) ℝ}
    {shift : Fin nq → ℝ}
    (sameDots : ∀ i j, dot Q' K' i j = dot Q K i j + shift i) :
    weight Q' K' = weight Q K := by
  funext i
  have shifted : score Q K i = fun j => score Q' K' i j - shift i / √dk := by
    funext j
    rw [score_eq_dot, score_eq_dot, sameDots]
    ring
  funext j
  rw [weight_eq_softmax, weight_eq_softmax, ← softmax_sub _ (shift i / √dk) j,
    shifted]
  rfl

theorem plainAttention_linear
    (Q : Matrix (Fin nq) (Fin dk) ℝ)
    (K : Matrix (Fin nk) (Fin dk) ℝ)
    (V V' : Matrix (Fin nk) (Fin dv) ℝ)
    (a : ℝ) :
    plainAttention Q K (a • V + V') =
      a • plainAttention Q K V + plainAttention Q K V' := by
  ext i c
  simp only [plainAttention, Matrix.add_apply, Matrix.smul_apply, smul_eq_mul,
    Finset.mul_sum, ← Finset.sum_add_distrib]
  refine Finset.sum_congr rfl fun j _ => ?_
  ring

/-- Queries and keys with the same dot products, up to an amount of each query's
own (as when one vector is added to every key, or both are turned), have the
same result; and the result is linear in the values. -/
theorem scaledDotProductAttention_byDots
    (keys : 0 < nk)
    (inner : 0 < dk)
    (storage storage' : Matrix (Fin nq) (Fin nk) ℝ)
    {Q Q' : Matrix (Fin nq) (Fin dk) ℝ}
    {K K' : Matrix (Fin nk) (Fin dk) ℝ}
    {shift : Fin nq → ℝ}
    (sameDots : ∀ i j, dot Q' K' i j = dot Q K i j + shift i)
    (V V' : Matrix (Fin nk) (Fin dv) ℝ)
    (a : ℝ) :
    ∃ out out', Returns storage Q K V out ∧ Returns storage Q K V' out' ∧
      Returns storage' Q' K' (a • V + V') (a • out + out') := by
  refine ⟨plainAttention Q K V, plainAttention Q K V',
    returns_plainAttention keys inner storage Q K V,
    returns_plainAttention keys inner storage Q K V', ?_⟩
  have same : plainAttention Q' K' (a • V + V') =
      plainAttention Q K (a • V + V') := by
    ext i c
    simp only [plainAttention, weight_shifted sameDots]
  rw [← plainAttention_linear, ← same]
  exact returns_plainAttention keys inner storage' Q' K' (a • V + V')

/-- The vector `(5)` added to both keys. -/
theorem scaledDotProductAttention_byDots_shift :
    ∃ out out', Returns 0 !![2] !![3; 4] !![5; 6] out ∧
      Returns 0 !![2] !![3; 4] !![7; 8] out' ∧
      Returns 0 !![2] !![8; 9]
        ((3 : ℝ) • !![5; 6] + !![7; 8] : Matrix (Fin 2) (Fin 1) ℝ)
        ((3 : ℝ) • out + out') := by
  have sameDots : ∀ i j, dot !![2] (!![8; 9] : Matrix (Fin 2) (Fin 1) ℝ) i j =
      dot !![2] (!![3; 4] : Matrix (Fin 2) (Fin 1) ℝ) i j +
        (fun _ : Fin 1 => (10 : ℝ)) i := by
    intro i j
    fin_cases i
    fin_cases j <;> norm_num [dot]
  exact scaledDotProductAttention_byDots (by decide) (by decide) 0 0 sameDots
    !![5; 6] !![7; 8] 3

end Attention
end ModernCommon
