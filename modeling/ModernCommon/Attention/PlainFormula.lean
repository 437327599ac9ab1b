import Mathlib.Data.Fintype.Lattice
import Mathlib.LinearAlgebra.Matrix.Notation
import ModernCommon.Attention.ToyAttention
import ModernCommon.Library.Softmax

/-!
# The plain formula

Over the real numbers the attention is the matrix of the weighted means
`∑ j, w i j * V j c`, where `w i` is the softmax of the scaled scores of the
query `i`. The code takes the greatest score of a row off before it
exponentiates; this changes neither the weights nor the result, and it keeps
every exponential at most one and every row sum between one and the number of
keys.
-/

namespace ModernCommon
namespace Attention

open Library

variable {m n nq nk dk dv : Nat}

/-- The score `q_i · k_j / sqrt(d_k)`. -/
noncomputable def score
    (Q : Matrix (Fin nq) (Fin dk) ℝ)
    (K : Matrix (Fin nk) (Fin dk) ℝ)
    (i : Fin nq)
    (j : Fin nk) : ℝ :=
  (∑ c, Q i c * K j c) / √dk

/-- The weight of the key `j` for the query `i`. -/
noncomputable def weight
    (Q : Matrix (Fin nq) (Fin dk) ℝ)
    (K : Matrix (Fin nk) (Fin dk) ℝ)
    (i : Fin nq)
    (j : Fin nk) : ℝ :=
  Real.exp (score Q K i j) / ∑ l, Real.exp (score Q K i l)

/-- The weighted means of the rows of `V`. -/
noncomputable def plainAttention
    (Q : Matrix (Fin nq) (Fin dk) ℝ)
    (K : Matrix (Fin nk) (Fin dk) ℝ)
    (V : Matrix (Fin nk) (Fin dv) ℝ) :
    Matrix (Fin nq) (Fin dv) ℝ :=
  fun i c => ∑ j, weight Q K i j * V j c

theorem weight_eq_softmax
    (Q : Matrix (Fin nq) (Fin dk) ℝ)
    (K : Matrix (Fin nk) (Fin dk) ℝ)
    (i : Fin nq) :
    weight Q K i = softmax (score Q K i) := rfl

theorem scoresOf_eq_score
    (Q : Matrix (Fin nq) (Fin dk) ℝ)
    (K : Matrix (Fin nk) (Fin dk) ℝ) :
    scoresOf Q K = score Q K := by
  ext i j
  rw [scoresOf, Matrix.map_apply, Matrix.mul_apply]
  rfl

/-! ## The row loop -/

/-- The operations that rows of `n` entries are normalised with: nothing
undefined, no exponential above one, no divisor outside `[1, n]`. -/
def Operation.Stable (n : Nat) : Operation ℝ → Prop
  | .scale divisor => divisor ≠ 0
  | .maxCoeff size => 0 < size
  | .exp argument => argument ≤ 0
  | .normalise divisor => 1 ≤ divisor ∧ divisor ≤ n

/-- One pass stores the softmax of its row. -/
theorem softmaxRow_run
    (nonempty : 0 < n)
    (scores result : Matrix (Fin m) (Fin n) ℝ)
    (i : Fin m)
    (log : List (Operation ℝ)) :
    ∃ operations, (∀ operation ∈ operations, operation.Stable n) ∧
      (softmaxRow scores result i).run log =
        .ok (Matrix.updateRow result i (softmax (scores i))) (log ++ operations) := by
  obtain ⟨top, greatest, maxRan⟩ := maxCoeff_run (scores i) nonempty log
  have sumAtLeastOne : 1 ≤ stabilisedSum (scores i) top := one_le_stabilisedSum
  have sumAtMostCard : stabilisedSum (scores i) top ≤ n := by
    have atMost := stabilisedSum_le_card greatest
    rwa [Fintype.card_fin] at atMost
  have sumNonzero : stabilisedSum (scores i) top ≠ 0 := by linarith
  have shiftCancels :
      (fun j => Real.exp (scores i j - scores i top) / stabilisedSum (scores i) top) =
        softmax (scores i) := by
    funext j
    exact softmax_sub (scores i) (scores i top) j
  refine ⟨.maxCoeff n ::
    (List.ofFn fun j => .exp (scores i j - scores i top)) ++
      [.normalise (stabilisedSum (scores i) top)], ?_, ?_⟩
  · intro operation carriedOut
    simp only [List.cons_append, List.mem_cons, List.mem_append, List.mem_ofFn',
      Set.mem_range, List.not_mem_nil, or_false] at carriedOut
    rcases carriedOut with rfl | ⟨j, rfl⟩ | rfl
    · exact nonempty
    · exact sub_nonpos.mpr (greatest j)
    · exact ⟨sumAtLeastOne, sumAtMostCard⟩
  · rw [softmaxRow, EStateM.run_bind, maxRan]
    simp only [EStateM.run_bind, expRow_run]
    rw [show (∑ j, Elementary.exp (scores i j - scores i top)) =
      stabilisedSum (scores i) top from rfl]
    rw [dividing_run_of_ne_zero sumNonzero, ← shiftCancels]
    simp only [EStateM.run_pure, List.append_assoc, List.cons_append, List.nil_append]
    rfl

/-- The passes over some rows store the softmax of each of these and leave the
others as they were. -/
theorem foldlM_softmaxRow_run
    (nonempty : 0 < n)
    (scores : Matrix (Fin m) (Fin n) ℝ)
    (rows : List (Fin m))
    (result : Matrix (Fin m) (Fin n) ℝ)
    (log : List (Operation ℝ)) :
    ∃ operations, (∀ operation ∈ operations, operation.Stable n) ∧
      (rows.foldlM (softmaxRow scores) result).run log =
        .ok (fun i => if i ∈ rows then softmax (scores i) else result i)
          (log ++ operations) := by
  induction rows generalizing result log with
  | nil =>
      refine ⟨[], by simp, ?_⟩
      simp [EStateM.run_pure]
  | cons row rows ih =>
      obtain ⟨first, firstStable, firstRan⟩ :=
        softmaxRow_run nonempty scores result row log
      obtain ⟨others, othersStable, othersRan⟩ :=
        ih (Matrix.updateRow result row (softmax (scores row))) (log ++ first)
      refine ⟨first ++ others, ?_, ?_⟩
      · intro operation carriedOut
        rcases List.mem_append.mp carriedOut with inFirst | inOthers
        · exact firstStable operation inFirst
        · exact othersStable operation inOthers
      · rw [List.foldlM_cons, EStateM.run_bind, firstRan]
        simp only [othersRan, List.append_assoc]
        congr 1
        funext i
        by_cases isRow : i = row
        · subst isRow
          simp [Matrix.updateRow_self]
        · simp [isRow, Matrix.updateRow_ne]

/-- `softmaxRows` stores the softmax of every row, whatever was in the storage. -/
theorem softmaxRows_run
    (nonempty : 0 < n)
    (storage scores : Matrix (Fin m) (Fin n) ℝ)
    (log : List (Operation ℝ)) :
    ∃ operations, (∀ operation ∈ operations, operation.Stable n) ∧
      (softmaxRows storage scores).run log =
        .ok (fun i => softmax (scores i)) (log ++ operations) := by
  obtain ⟨operations, stable, ran⟩ :=
    foldlM_softmaxRow_run nonempty scores (List.finRange m) storage log
  refine ⟨operations, stable, ?_⟩
  rw [softmaxRows, ran]
  simp only [List.mem_finRange, if_true]

/-- The scores are divided by something if there is an inner dimension. -/
theorem sqrt_inner_ne_zero (inner : 0 < dk) :
    (Elementary.sqrt (dk : ℝ) : ℝ) ≠ 0 := by
  have positive : (0 : ℝ) < √dk := Real.sqrt_pos.mpr (by exact_mod_cast inner)
  exact positive.ne'

/-- Accepted matrices with a key and an inner dimension are attended to by the
plain formula, with stable operations only. -/
theorem scaledDotProductAttention_run
    (keys : 0 < nk)
    (inner : 0 < dk)
    (storage : Matrix (Fin nq) (Fin nk) ℝ)
    (Q : Matrix (Fin nq) (Fin dk) ℝ)
    (K : Matrix (Fin nk) (Fin dk) ℝ)
    (V : Matrix (Fin nk) (Fin dv) ℝ)
    (log : List (Operation ℝ)) :
    ∃ operations, (∀ operation ∈ operations, operation.Stable nk) ∧
      (scaledDotProductAttention storage Q K V).run log =
        .ok (plainAttention Q K V) (log ++ operations) := by
  have divisorNonzero := sqrt_inner_ne_zero inner
  obtain ⟨operations, stable, ran⟩ :=
    softmaxRows_run keys storage (scoresOf Q K)
      (log ++ [.scale (Elementary.sqrt (dk : ℝ))])
  refine ⟨.scale (Elementary.sqrt (dk : ℝ)) :: operations, ?_, ?_⟩
  · intro operation carriedOut
    rcases List.mem_cons.mp carriedOut with rfl | inRows
    · exact divisorNonzero
    · exact stable operation inRows
  · rw [scaledDotProductAttention_accepted, EStateM.run_bind,
      dividing_run_of_ne_zero divisorNonzero]
    simp only [EStateM.run_bind, ran]
    simp only [EStateM.run_pure, List.append_assoc, List.singleton_append]
    rw [scoresOf_eq_score]
    rfl

/-! ## The range of the result -/

/-- The weights of a query form a probability distribution. -/
theorem weight_distribution
    (keys : 0 < nk)
    (Q : Matrix (Fin nq) (Fin dk) ℝ)
    (K : Matrix (Fin nk) (Fin dk) ℝ)
    (i : Fin nq) :
    (∀ j, weight Q K i j ∈ Set.Ioc 0 1) ∧ ∑ j, weight Q K i j = 1 := by
  have : Nonempty (Fin nk) := ⟨⟨0, keys⟩⟩
  rw [weight_eq_softmax]
  refine ⟨fun j => ?_, sum_softmax _⟩
  exact ⟨softmax_pos _ j, softmax_le_one _ j⟩

/-- Bounds of a column of `V` bound that column of the result. -/
theorem plainAttention_mem_Icc
    (keys : 0 < nk)
    (Q : Matrix (Fin nq) (Fin dk) ℝ)
    (K : Matrix (Fin nk) (Fin dk) ℝ)
    {V : Matrix (Fin nk) (Fin dv) ℝ}
    (i : Fin nq)
    {c : Fin dv}
    {low high : ℝ}
    (lower : ∀ j, low ≤ V j c)
    (upper : ∀ j, V j c ≤ high) :
    plainAttention Q K V i c ∈ Set.Icc low high := by
  obtain ⟨unitInterval, total⟩ := weight_distribution keys Q K i
  apply weightedMean_mem_Icc _ total lower upper
  intro j
  exact (unitInterval j).1.le

/-- A zero query weighs all keys alike. -/
theorem weight_zeroQuery
    {Q : Matrix (Fin nq) (Fin dk) ℝ}
    {i : Fin nq}
    (zeroQuery : ∀ c, Q i c = 0)
    (K : Matrix (Fin nk) (Fin dk) ℝ)
    (j : Fin nk) :
    weight Q K i j = (nk : ℝ)⁻¹ := by
  have equalScores : score Q K i = fun _ => 0 := by
    funext l
    simp [score, zeroQuery]
  rw [weight_eq_softmax, equalScores, softmax_const, Fintype.card_fin]

theorem plainAttention_zeroQuery
    {Q : Matrix (Fin nq) (Fin dk) ℝ}
    {i : Fin nq}
    (zeroQuery : ∀ c, Q i c = 0)
    (K : Matrix (Fin nk) (Fin dk) ℝ)
    (V : Matrix (Fin nk) (Fin dv) ℝ)
    (c : Fin dv) :
    plainAttention Q K V i c = (∑ j, V j c) / nk := by
  simp only [plainAttention, weight_zeroQuery zeroQuery]
  rw [← Finset.mul_sum, mul_comm, div_eq_mul_inv]

/-- The stabilised attention computes the plain formula, exponentiates nothing
positive and divides rows by numbers of `[1, n_k]` only; its weights are
probability distributions, so the result stays within the range of each column
of `V`, and a zero query yields the mean of the rows of `V`. -/
theorem scaledDotProductAttention_computes
    (keys : 0 < nk)
    (inner : 0 < dk)
    (storage : Matrix (Fin nq) (Fin nk) ℝ)
    (Q : Matrix (Fin nq) (Fin dk) ℝ)
    (K : Matrix (Fin nk) (Fin dk) ℝ)
    (V : Matrix (Fin nk) (Fin dv) ℝ) :
    ∃ out operations,
      (scaledDotProductAttention storage Q K V).run [] = .ok out operations ∧
      (∀ i c, out i c = ∑ j, weight Q K i j * V j c) ∧
      (∀ argument : ℝ, .exp argument ∈ operations → argument ≤ 0) ∧
      (∀ divisor : ℝ, .normalise divisor ∈ operations → 1 ≤ divisor ∧ divisor ≤ nk) ∧
      (∀ i j, 0 < weight Q K i j ∧ weight Q K i j ≤ 1) ∧
      (∀ i, ∑ j, weight Q K i j = 1) ∧
      (∀ i c, ∃ low high,
        IsLeast (Set.range fun j => V j c) low ∧
        IsGreatest (Set.range fun j => V j c) high ∧
        low ≤ out i c ∧ out i c ≤ high) ∧
      ∀ i, (∀ c, Q i c = 0) → ∀ c, out i c = (∑ j, V j c) / nk := by
  have : Nonempty (Fin nk) := ⟨⟨0, keys⟩⟩
  obtain ⟨operations, stable, ran⟩ :=
    scaledDotProductAttention_run keys inner storage Q K V []
  refine ⟨plainAttention Q K V, operations, ran, fun i c => rfl, ?_, ?_, ?_, ?_, ?_, ?_⟩
  · intro argument carriedOut
    exact stable _ carriedOut
  · intro divisor carriedOut
    exact stable _ carriedOut
  · intro i j
    exact (weight_distribution keys Q K i).1 j
  · intro i
    exact (weight_distribution keys Q K i).2
  · intro i c
    obtain ⟨lowest, least⟩ := Finite.exists_min fun j => V j c
    obtain ⟨highest, greatest⟩ := Finite.exists_max fun j => V j c
    refine ⟨V lowest c, V highest c, ⟨⟨lowest, rfl⟩, ?_⟩, ⟨⟨highest, rfl⟩, ?_⟩, ?_⟩
    · rintro _ ⟨j, rfl⟩
      exact least j
    · rintro _ ⟨j, rfl⟩
      exact greatest j
    · exact plainAttention_mem_Icc keys Q K i least greatest
  · intro i zeroQuery c
    exact plainAttention_zeroQuery zeroQuery K V c

/-- A zero query over three keys yields the mean of the three values. -/
theorem scaledDotProductAttention_computes_mean :
    ∃ out operations,
      (scaledDotProductAttention 0 !![0, 0] !![1, 2; 3, 4; 5, 6]
        (!![1, 0; 0, 1; 1, 1] : Matrix (Fin 3) (Fin 2) ℝ)).run [] =
        .ok out operations ∧
      out 0 0 = 2 / 3 := by
  obtain ⟨out, operations, ran, -, -, -, -, -, -, mean⟩ :=
    scaledDotProductAttention_computes (by decide) (by decide) 0
      !![(0 : ℝ), 0] !![1, 2; 3, 4; 5, 6] !![1, 0; 0, 1; 1, 1]
  refine ⟨out, operations, ran, ?_⟩
  have zeroQuery : ∀ c, !![(0 : ℝ), 0] 0 c = 0 := by
    intro c
    fin_cases c <;> rfl
  rw [mean 0 zeroQuery 0, Fin.sum_univ_three]
  simp
  norm_num

/-! ## Order and independence -/

section Order

variable
  (Q : Matrix (Fin nq) (Fin dk) ℝ)
  (K : Matrix (Fin nk) (Fin dk) ℝ)
  (V : Matrix (Fin nk) (Fin dv) ℝ)

/-- Reordered keys are weighed as they were. -/
theorem weight_permutedKeys
    (p : Equiv.Perm (Fin nk))
    (i : Fin nq)
    (j : Fin nk) :
    weight Q (K.submatrix p id) i j = weight Q K i (p j) := by
  have permutedScores : score Q (K.submatrix p id) i = score Q K i ∘ p := rfl
  rw [weight_eq_softmax, permutedScores, softmax_comp_equiv]
  rfl

/-- Keys reordered together with their values leave the result as it is. -/
theorem plainAttention_permutedKeys (p : Equiv.Perm (Fin nk)) :
    plainAttention Q (K.submatrix p id) (V.submatrix p id) =
      plainAttention Q K V := by
  funext i c
  simp only [plainAttention, weight_permutedKeys, Matrix.submatrix_apply, id_eq]
  exact Equiv.sum_comp p fun j => weight Q K i j * V j c

/-- A row of the result is determined by that row of the queries. -/
theorem plainAttention_row
    {nq' : Nat}
    {Q' : Matrix (Fin nq') (Fin dk) ℝ}
    {i : Fin nq}
    {i' : Fin nq'}
    (sameQuery : Q' i' = Q i) :
    plainAttention Q' K V i' = plainAttention Q K V i := by
  have sameScores : score Q' K i' = score Q K i := by
    funext j
    simp only [score, sameQuery]
  funext c
  simp only [plainAttention, weight_eq_softmax, sameScores]

end Order

/-- The run on accepted matrices returns this result. -/
def Returns
    (storage : Matrix (Fin nq) (Fin nk) ℝ)
    (Q : Matrix (Fin nq) (Fin dk) ℝ)
    (K : Matrix (Fin nk) (Fin dk) ℝ)
    (V : Matrix (Fin nk) (Fin dv) ℝ)
    (out : Matrix (Fin nq) (Fin dv) ℝ) : Prop :=
  ∃ operations, (scaledDotProductAttention storage Q K V).run [] = .ok out operations

theorem returns_plainAttention
    (keys : 0 < nk)
    (inner : 0 < dk)
    (storage : Matrix (Fin nq) (Fin nk) ℝ)
    (Q : Matrix (Fin nq) (Fin dk) ℝ)
    (K : Matrix (Fin nk) (Fin dk) ℝ)
    (V : Matrix (Fin nk) (Fin dv) ℝ) :
    Returns storage Q K V (plainAttention Q K V) := by
  obtain ⟨operations, -, ran⟩ :=
    scaledDotProductAttention_run keys inner storage Q K V []
  exact ⟨operations, ran⟩

/-- The result does not depend on the order of the keys with their values; it
follows the order of the queries, and each of its rows depends on its own query
only. -/
theorem scaledDotProductAttention_order
    (keys : 0 < nk)
    (inner : 0 < dk)
    (storage : Matrix (Fin nq) (Fin nk) ℝ)
    (Q : Matrix (Fin nq) (Fin dk) ℝ)
    (K : Matrix (Fin nk) (Fin dk) ℝ)
    (V : Matrix (Fin nk) (Fin dv) ℝ) :
    ∃ out, Returns storage Q K V out ∧
      (∀ p : Equiv.Perm (Fin nk),
        Returns storage Q (K.submatrix p id) (V.submatrix p id) out) ∧
      (∀ p : Equiv.Perm (Fin nq),
        Returns storage (Q.submatrix p id) K V (out.submatrix p id)) ∧
      ∀ (nq' : Nat) (storage' : Matrix (Fin nq') (Fin nk) ℝ)
        (Q' : Matrix (Fin nq') (Fin dk) ℝ),
        ∃ out', Returns storage' Q' K V out' ∧
          ∀ i i', Q' i' = Q i → out' i' = out i := by
  refine ⟨plainAttention Q K V,
    returns_plainAttention keys inner storage Q K V, ?_, ?_, ?_⟩
  · intro p
    rw [← plainAttention_permutedKeys Q K V p]
    exact returns_plainAttention keys inner storage Q _ _
  · intro p
    exact returns_plainAttention keys inner storage (Q.submatrix p id) K V
  · intro nq' storage' Q'
    refine ⟨plainAttention Q' K V,
      returns_plainAttention keys inner storage' Q' K V, ?_⟩
    intro i i' sameQuery
    exact plainAttention_row Q K V sameQuery

/-- Two keys exchanged together with their values. -/
theorem scaledDotProductAttention_order_swap :
    ∃ out, Returns 0 !![1] !![2; 3] (!![4; 5] : Matrix (Fin 2) (Fin 1) ℝ) out ∧
      Returns 0 !![1] ((!![2; 3] : Matrix (Fin 2) (Fin 1) ℝ).submatrix (Equiv.swap 0 1) id)
        ((!![4; 5] : Matrix (Fin 2) (Fin 1) ℝ).submatrix (Equiv.swap 0 1) id) out := by
  obtain ⟨out, returns, permutedKeys, -⟩ :=
    scaledDotProductAttention_order (by decide) (by decide) 0
      !![(1 : ℝ)] !![2; 3] !![4; 5]
  exact ⟨out, returns, permutedKeys (Equiv.swap 0 1)⟩

end Attention
end ModernCommon
