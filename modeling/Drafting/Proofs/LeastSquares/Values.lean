import Mathlib.Analysis.Real.Sqrt
import Drafting.Proofs.LinearSystems

/-!
# Singular values and the cutoff

A singular value is the length of what the matrix makes of its axis. So bounds on what the matrix makes
of all directions are bounds on the singular values, and they tell when none of these is cut off.
-/

namespace Drafting

open Matrix

section Largest

variable {α : Type} [LinearOrder α]

theorem larger_eq_max (a b : α) : larger a b = max a b := by
  rw [larger, max_def_lt]

private theorem foldl_larger_isGreatest (xs : List α) (start : α) :
    IsGreatest (insert start {x | x ∈ xs}) (xs.foldl larger start) := by
  induction xs generalizing start with
  | nil => simp
  | cons x rest ih =>
      obtain ⟨attained, bounds⟩ := ih (larger start x)
      rw [larger_eq_max] at attained bounds
      rw [List.foldl_cons, larger_eq_max]
      constructor
      · rcases attained with isStart | later
        · rw [isStart]
          rcases max_choice start x with first | second
          · rw [first]
            exact .inl rfl
          · rw [second]
            exact .inr List.mem_cons_self
        · exact .inr (List.mem_cons_of_mem x later)
      · have atMost := bounds (.inl rfl)
        rintro y (isStart | listed)
        · rw [isStart]
          exact le_trans (le_max_left _ _) atMost
        · rcases List.mem_cons.mp listed with here | later
          · rw [here]
            exact le_trans (le_max_right _ _) atMost
          · exact bounds (.inr later)

/-- The largest of some numbers is zero or one of them, and none of these is larger. -/
theorem isGreatest_largest [Zero α] (xs : List α) :
    IsGreatest (insert 0 {x | x ∈ xs}) (largest xs) :=
  foldl_larger_isGreatest xs 0

end Largest

namespace SingularValues

variable {m n : Nat} {s : SingularValues m n ℝ} {matrix : DenseMatrix m n ℝ}

theorem toList_values (s : SingularValues m n ℝ) :
    s.values.toList = (List.finRange (min m n)).map s.values.get := by
  apply List.ext_getElem
  · simp
  · intro i _ _
    simp [Vector.get]

theorem largest_values_cases (s : SingularValues m n ℝ) :
    largest s.values.toList = 0 ∨ ∃ k, largest s.values.toList = s.values.get k := by
  rcases (isGreatest_largest s.values.toList).1 with isZero | listed
  · exact .inl isZero
  · rw [toList_values] at listed ⊢
    obtain ⟨k, _, same⟩ := List.mem_map.mp listed
    exact .inr ⟨k, same.symm⟩

theorem cutoff_nonneg (s : SingularValues m n ℝ) : 0 ≤ s.cutoff := by
  have nonneg : 0 ≤ largest s.values.toList := (isGreatest_largest _).2 (.inl rfl)
  have epsilon : (0 : ℝ) ≤ Precision.epsilon := by norm_num [Precision.epsilon]
  unfold cutoff
  positivity

/-- The matrix takes each axis to its singular value times the other factor's axis, and its transpose
takes that back. -/
theorem Factors.mulVec_rightAxis (factors : s.Factors matrix) (k : Fin (min m n)) :
    matrix.toMatrix *ᵥ s.rightAxes.col k = s.values.get k • s.leftAxes.col k := by
  rw [← factors.product, ← mulVec_single_one s.rightAxes, ← mulVec_mulVec, ← mulVec_mulVec,
    orthonormal_cancel factors.toOrthonormal.rightAxes, diagonal_mulVec_single, mul_one,
    mulVec_single]
  funext i
  exact mul_comm _ _

theorem Factors.transpose_mulVec_leftAxis (factors : s.Factors matrix) (k : Fin (min m n)) :
    matrix.toMatrixᵀ *ᵥ s.leftAxes.col k = s.values.get k • s.rightAxes.col k := by
  rw [← factors.product, transpose_mul, transpose_mul, transpose_transpose, diagonal_transpose,
    ← mulVec_single_one s.leftAxes, ← mulVec_mulVec, ← mulVec_mulVec,
    orthonormal_cancel factors.toOrthonormal.leftAxes, diagonal_mulVec_single, mul_one,
    mulVec_single]
  funext i
  exact mul_comm _ _

theorem Orthonormal.rightAxis_self (orthonormal : s.Orthonormal) (k : Fin (min m n)) :
    s.rightAxes.col k ⬝ᵥ s.rightAxes.col k = 1 := by
  rw [← one_apply_eq k, ← orthonormal.rightAxes]
  rfl

theorem Orthonormal.leftAxis_self (orthonormal : s.Orthonormal) (k : Fin (min m n)) :
    s.leftAxes.col k ⬝ᵥ s.leftAxes.col k = 1 := by
  rw [← one_apply_eq k, ← orthonormal.leftAxes]
  rfl

theorem Factors.value_sq (factors : s.Factors matrix) (k : Fin (min m n)) :
    s.values.get k ^ 2 =
      (matrix.toMatrix *ᵥ s.rightAxes.col k) ⬝ᵥ (matrix.toMatrix *ᵥ s.rightAxes.col k) := by
  rw [factors.mulVec_rightAxis, smul_dotProduct, dotProduct_smul,
    factors.toOrthonormal.leftAxis_self, smul_eq_mul, smul_eq_mul, mul_one, sq]

/-- If the matrix changes no length much more than any other, no singular value is cut off. -/
theorem Factors.cutoff_lt (factors : s.Factors matrix) {low high : ℝ}
    (grows : ∀ v : Fin n → ℝ, low * (v ⬝ᵥ v) ≤ (matrix.toMatrix *ᵥ v) ⬝ᵥ (matrix.toMatrix *ᵥ v))
    (bounded : ∀ v : Fin n → ℝ,
      (matrix.toMatrix *ᵥ v) ⬝ᵥ (matrix.toMatrix *ᵥ v) ≤ high * (v ⬝ᵥ v))
    (apart : (1 / 2 ^ 52 * (max m n : Nat)) ^ 2 * high < low) (k : Fin (min m n)) :
    s.cutoff < s.values.get k := by
  have atLeast (k : Fin (min m n)) : low ≤ s.values.get k ^ 2 := by
    have grown := grows (s.rightAxes.col k)
    rwa [← factors.value_sq, factors.toOrthonormal.rightAxis_self, mul_one] at grown
  have atMost (k : Fin (min m n)) : s.values.get k ^ 2 ≤ high := by
    have bound := bounded (s.rightAxes.col k)
    rwa [← factors.value_sq, factors.toOrthonormal.rightAxis_self, mul_one] at bound
  have largestAtMost : largest s.values.toList ^ 2 ≤ high := by
    rcases s.largest_values_cases with isZero | ⟨l, attained⟩
    · rw [isZero, sq, zero_mul]
      exact (sq_nonneg _).trans (atMost k)
    · rw [attained]
      exact atMost l
  apply lt_of_pow_lt_pow_left₀ 2 (factors.nonnegative k)
  have cut : s.cutoff ^ 2 = (1 / 2 ^ 52 * (max m n : Nat)) ^ 2 * largest s.values.toList ^ 2 := by
    rw [cutoff, mul_pow]
    rfl
  rw [cut]
  refine lt_of_le_of_lt ?_ (apart.trans_le (atLeast k))
  exact mul_le_mul_of_nonneg_left largestAtMost (sq_nonneg _)

/-- A matrix that keeps the lengths of the directions that it sees has no singular values but zero and
one. -/
theorem Factors.value_of_isometry (factors : s.Factors matrix)
    (isometry : matrix.toMatrix * matrix.toMatrixᵀ * matrix.toMatrix = matrix.toMatrix)
    (k : Fin (min m n)) : s.values.get k = 0 ∨ s.values.get k = 1 := by
  have again := congrArg (· *ᵥ s.rightAxes.col k) isometry
  simp only [← mulVec_mulVec, factors.mulVec_rightAxis, mulVec_smul,
    factors.transpose_mulVec_leftAxis] at again
  have lengths := congrArg (s.leftAxes.col k ⬝ᵥ ·) again
  simp only [dotProduct_smul, factors.toOrthonormal.leftAxis_self, smul_eq_mul, mul_one] at lengths
  rcases eq_or_ne (s.values.get k) 0 with zero | nonzero
  · exact .inl zero
  · have square := mul_left_cancel₀ nonzero (lengths.trans (mul_one _).symm)
    exact .inr ((mul_self_eq_one_iff.mp square).resolve_right fun negative => by
      linarith [factors.nonnegative k])

theorem Factors.onlyZero_of_isometry (factors : s.Factors matrix)
    (isometry : matrix.toMatrix * matrix.toMatrixᵀ * matrix.toMatrix = matrix.toMatrix)
    (small : max m n < 2 ^ 52) (k : Fin (min m n)) (below : s.values.get k ≤ s.cutoff) :
    s.values.get k = 0 := by
  have fewer : ((max m n : Nat) : ℝ) < 2 ^ 52 := by exact_mod_cast small
  have largestAtMost : largest s.values.toList ≤ 1 := by
    rcases s.largest_values_cases with isZero | ⟨l, attained⟩
    · rw [isZero]
      exact zero_le_one
    · rw [attained]
      rcases factors.value_of_isometry isometry l with zero | one
      · rw [zero]
        exact zero_le_one
      · exact one.le
  have cutBelowOne : s.cutoff < 1 := by
    have scale : (0 : ℝ) ≤ 1 / 2 ^ 52 * (max m n : Nat) := by positivity
    calc s.cutoff ≤ 1 / 2 ^ 52 * (max m n : Nat) * 1 :=
          mul_le_mul_of_nonneg_left largestAtMost scale
      _ < 1 := by
        rw [mul_one, one_div_mul_eq_div]
        exact (div_lt_one (by positivity)).mpr fewer
  refine (factors.value_of_isometry isometry k).resolve_right fun one => ?_
  rw [one] at below
  exact absurd cutBelowOne (not_lt.mpr below)

end SingularValues

end Drafting
