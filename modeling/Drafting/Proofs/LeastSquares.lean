import Mathlib.Algebra.BigOperators.Fin
import Mathlib.LinearAlgebra.Matrix.DotProduct
import Drafting.Linear.SingularValues

/-!
# Shortest least-squares steps

In exact arithmetic a step leaves the smallest residual if what it leaves is orthogonal to the
columns of the matrix, and it is the shortest of these steps if it lies in the span of the rows. The
step from orthonormal factors does both, for the matrix that the factors make when singular values up
to the cutoff are replaced by zero.
-/

namespace Drafting

open Matrix

variable {α : Type} {m n : Nat}

def DenseMatrix.toMatrix (matrix : DenseMatrix m n α) : Matrix (Fin m) (Fin n) α :=
  of matrix.entry

theorem DenseMatrix.toMatrix_ofFn (matrix : Matrix (Fin m) (Fin n) α) :
    (DenseMatrix.ofFn matrix).toMatrix = matrix := by
  ext i j
  exact DenseMatrix.entry_ofFn matrix i j

section Steps

variable [Field α]

def remainder (matrix : Matrix (Fin m) (Fin n) α) (residual : Fin m → α) (step : Fin n → α) :
    Fin m → α :=
  matrix *ᵥ step + residual

theorem remainder_add (matrix : Matrix (Fin m) (Fin n) α) (residual : Fin m → α)
    (step further : Fin n → α) :
    remainder matrix residual (step + further) =
      remainder matrix residual step + matrix *ᵥ further := by
  rw [remainder, remainder, mulVec_add, add_right_comm]

theorem dotProduct_self_add {ι : Type} [Fintype ι] {v w : ι → α} (orthogonal : v ⬝ᵥ w = 0) :
    (v + w) ⬝ᵥ (v + w) = v ⬝ᵥ v + w ⬝ᵥ w := by
  rw [add_dotProduct, dotProduct_add, dotProduct_add, dotProduct_comm w v, orthogonal, add_zero,
    zero_add]

variable {matrix : Matrix (Fin m) (Fin n) α} {residual : Fin m → α} {step : Fin n → α}

theorem remainder_self_add (normal : matrixᵀ *ᵥ remainder matrix residual step = 0)
    (further : Fin n → α) :
    remainder matrix residual (step + further) ⬝ᵥ remainder matrix residual (step + further) =
      remainder matrix residual step ⬝ᵥ remainder matrix residual step +
        (matrix *ᵥ further) ⬝ᵥ (matrix *ᵥ further) := by
  rw [remainder_add]
  apply dotProduct_self_add
  rw [dotProduct_mulVec, ← mulVec_transpose, normal, zero_dotProduct]

variable [LinearOrder α] [IsStrictOrderedRing α]

/-- No step leaves less of the residual, and those that leave as little are no shorter. -/
structure IsShortestLeastSquares (matrix : Matrix (Fin m) (Fin n) α) (residual : Fin m → α)
    (step : Fin n → α) : Prop where
  least : ∀ other, remainder matrix residual step ⬝ᵥ remainder matrix residual step ≤
    remainder matrix residual other ⬝ᵥ remainder matrix residual other
  shortest : ∀ other, remainder matrix residual other ⬝ᵥ remainder matrix residual other ≤
      remainder matrix residual step ⬝ᵥ remainder matrix residual step →
    step ⬝ᵥ step ≤ other ⬝ᵥ other

theorem dotProduct_self_nonneg {ι : Type} [Fintype ι] (v : ι → α) : 0 ≤ v ⬝ᵥ v :=
  Finset.sum_nonneg fun i _ => mul_self_nonneg (v i)

theorem remainder_le_of_normal (normal : matrixᵀ *ᵥ remainder matrix residual step = 0)
    (other : Fin n → α) :
    remainder matrix residual step ⬝ᵥ remainder matrix residual step ≤
      remainder matrix residual other ⬝ᵥ remainder matrix residual other := by
  obtain ⟨further, same⟩ : ∃ further, step + further = other := ⟨other - step, add_sub_cancel _ _⟩
  rw [← same, remainder_self_add normal]
  exact le_add_of_nonneg_right (dotProduct_self_nonneg _)

/-- A step that leaves no more than one for which the normal equations hold differs from it by what the
matrix does not see. -/
theorem unseen_of_remainder_le (normal : matrixᵀ *ᵥ remainder matrix residual step = 0)
    {further : Fin n → α}
    (asSmall : remainder matrix residual (step + further) ⬝ᵥ
        remainder matrix residual (step + further) ≤
      remainder matrix residual step ⬝ᵥ remainder matrix residual step) :
    matrix *ᵥ further = 0 := by
  rw [remainder_self_add normal, add_le_iff_nonpos_right] at asSmall
  exact dotProduct_self_eq_zero.mp (le_antisymm asSmall (dotProduct_self_nonneg _))

omit [LinearOrder α] [IsStrictOrderedRing α] in
/-- What the matrix does not see is orthogonal to the span of the rows. -/
theorem orthogonal_of_unseen {combination : Fin m → α} (inRows : step = matrixᵀ *ᵥ combination)
    {further : Fin n → α} (unseen : matrix *ᵥ further = 0) : step ⬝ᵥ further = 0 := by
  rw [inRows, mulVec_transpose, ← dotProduct_mulVec, unseen, dotProduct_zero]

/-- The normal equations make a step a least-squares step, and one in the span of the rows is the
shortest. -/
theorem IsShortestLeastSquares.of_normal (normal : matrixᵀ *ᵥ remainder matrix residual step = 0)
    (combination : Fin m → α) (inRows : step = matrixᵀ *ᵥ combination) :
    IsShortestLeastSquares matrix residual step := by
  constructor
  · exact remainder_le_of_normal normal
  · intro other asSmall
    obtain ⟨further, same⟩ : ∃ further, step + further = other := ⟨other - step, add_sub_cancel _ _⟩
    rw [← same] at asSmall ⊢
    have orthogonal := orthogonal_of_unseen inRows (unseen_of_remainder_le normal asSmall)
    rw [dotProduct_self_add orthogonal]
    exact le_add_of_nonneg_right (dotProduct_self_nonneg _)

/-- If the residual can be brought to zero, a least-squares step does so. -/
theorem IsShortestLeastSquares.remainder_eq_zero
    (shortest : IsShortestLeastSquares matrix residual step)
    {other : Fin n → α} (solves : remainder matrix residual other = 0) :
    remainder matrix residual step = 0 := by
  have small := shortest.least other
  rw [solves, dotProduct_zero] at small
  exact dotProduct_self_eq_zero.mp (le_antisymm small (dotProduct_self_nonneg _))

theorem IsShortestLeastSquares.le_of_solves (shortest : IsShortestLeastSquares matrix residual step)
    {other : Fin n → α} (solves : remainder matrix residual other = 0) :
    step ⬝ᵥ step ≤ other ⬝ᵥ other := by
  apply shortest.shortest other
  rw [solves, dotProduct_zero]
  exact dotProduct_self_nonneg _

end Steps

theorem orthonormal_submatrix [Field α] {k : Nat} {matrix : Matrix (Fin n) (Fin n) α}
    (orthonormal : matrixᵀ * matrix = 1) {column : Fin k → Fin n}
    (injective : Function.Injective column) :
    (matrix.submatrix id column)ᵀ * matrix.submatrix id column = 1 := by
  rw [transpose_submatrix, ← submatrix_mul _ _ _ id _ Function.bijective_id, orthonormal,
    submatrix_one _ injective]

theorem orthonormal_cancel [Field α] {k : Nat} {axes : Matrix (Fin n) (Fin k) α}
    (orthonormal : axesᵀ * axes = 1) (coordinates : Fin k → α) :
    axesᵀ *ᵥ (axes *ᵥ coordinates) = coordinates := by
  rw [mulVec_mulVec, orthonormal, one_mulVec]

namespace SingularValues

variable [Field α]

/-- The left factor's columns that belong to a singular value. -/
def leftAxes (s : SingularValues m n α) : Matrix (Fin m) (Fin (min m n)) α :=
  s.left.toMatrix.submatrix id leftIndex

def rightAxes (s : SingularValues m n α) : Matrix (Fin n) (Fin (min m n)) α :=
  s.right.toMatrix.submatrix id rightIndex

structure Orthonormal (s : SingularValues m n α) : Prop where
  left : s.left.toMatrixᵀ * s.left.toMatrix = 1
  right : s.right.toMatrixᵀ * s.right.toMatrix = 1

theorem Orthonormal.leftAxes {s : SingularValues m n α} (orthonormal : s.Orthonormal) :
    s.leftAxesᵀ * s.leftAxes = 1 :=
  orthonormal_submatrix orthonormal.left fun _ _ same => Fin.ext (Fin.mk.inj same)

theorem Orthonormal.rightAxes {s : SingularValues m n α} (orthonormal : s.Orthonormal) :
    s.rightAxesᵀ * s.rightAxes = 1 :=
  orthonormal_submatrix orthonormal.right fun _ _ same => Fin.ext (Fin.mk.inj same)

structure Factors (s : SingularValues m n α) [LE α] (matrix : DenseMatrix m n α) : Prop
    extends s.Orthonormal where
  nonnegative : ∀ k, 0 ≤ s.values.get k
  product : s.leftAxes * diagonal s.values.get * s.rightAxesᵀ = matrix.toMatrix

theorem projection_eq (s : SingularValues m n α) (residual : Vector α m) (k : Fin (min m n)) :
    s.projection residual k = (s.leftAxesᵀ *ᵥ -residual.get) k := by
  rw [projection, mulVec, dotProduct, Fin.sum_univ_def, List.sum_eq_foldl, List.foldl_map]
  rfl

/-- An entry of the product of the factors. -/
theorem entry_product (s : SingularValues m n α) (i : Fin m) (j : Fin n) :
    (s.leftAxes * diagonal s.values.get * s.rightAxesᵀ) i j =
      ∑ k, s.left.entry i (leftIndex k) * s.values.get k * s.right.entry j (rightIndex k) := by
  rw [mul_apply]
  apply Finset.sum_congr rfl
  intro k _
  rw [mul_diagonal]
  rfl

variable [LinearOrder α] [Precision α]

/-- The singular values that the step inverts, and zero for the others. -/
def kept (s : SingularValues m n α) (k : Fin (min m n)) : α :=
  if s.values.get k ≤ s.cutoff then 0 else s.values.get k

/-- The product of the factors when singular values up to the cutoff are replaced by zero. -/
def keptMatrix (s : SingularValues m n α) : Matrix (Fin m) (Fin n) α :=
  s.leftAxes * diagonal s.kept * s.rightAxesᵀ

theorem keptMatrix_eq {s : SingularValues m n α} {matrix : DenseMatrix m n α}
    (factors : s.Factors matrix)
    (onlyZero : ∀ k, s.values.get k ≤ s.cutoff → s.values.get k = 0) :
    s.keptMatrix = matrix.toMatrix := by
  have all : s.kept = s.values.get := by
    funext k
    unfold kept
    split
    · rename_i small
      exact (onlyZero k small).symm
    · rfl
  rw [keptMatrix, all, factors.product]

/-- One round of the step adds what one kept singular value contributes. -/
theorem get_round (s : SingularValues m n α) (residual : Vector α m) (step : Vector α n)
    (k : Fin (min m n)) (j : Fin n) :
    (if s.values.get k ≤ s.cutoff then step
      else Vector.ofFn fun col =>
        step.get col + s.projection residual k / s.values.get k *
          s.right.entry col (rightIndex k)).get j =
      step.get j + s.rightAxes j k * ((s.kept k)⁻¹ * s.projection residual k) := by
  unfold kept
  split
  · rw [GroupWithZero.inv_zero, zero_mul, mul_zero, add_zero]
  · rw [get_ofFn, div_eq_inv_mul, mul_comm (s.rightAxes j k)]
    rfl

theorem get_leastSquaresStep (s : SingularValues m n α) (residual : Vector α m) :
    (s.leastSquaresStep residual).get =
      s.rightAxes *ᵥ fun k => (s.kept k)⁻¹ * (s.leftAxesᵀ *ᵥ -residual.get) k := by
  funext j
  simp only [← projection_eq]
  rw [mulVec, dotProduct, Fin.sum_univ_def]
  have rounds (ks : List (Fin (min m n))) (step : Vector α n) :
      (ks.foldl (fun step k => if s.values.get k ≤ s.cutoff then step
          else Vector.ofFn fun col =>
            step.get col + s.projection residual k / s.values.get k *
              s.right.entry col (rightIndex k)) step).get j =
        step.get j +
          (ks.map fun k => s.rightAxes j k * ((s.kept k)⁻¹ * s.projection residual k)).sum := by
    induction ks generalizing step with
    | nil => simp
    | cons k rest ih =>
        rw [List.foldl_cons, ih, get_round, List.map_cons, List.sum_cons, add_assoc]
  have start : (Vector.replicate n (0 : α)).get j = 0 := by simp [Vector.get]
  refine (rounds _ _).trans ?_
  rw [start, zero_add]

theorem keptMatrix_mulVec (s : SingularValues m n α) (v : Fin n → α) :
    s.keptMatrix *ᵥ v = s.leftAxes *ᵥ fun k => s.kept k * (s.rightAxesᵀ *ᵥ v) k := by
  rw [keptMatrix, ← mulVec_mulVec, ← mulVec_mulVec]
  congr 1
  funext k
  exact mulVec_diagonal _ _ k

theorem keptMatrix_transpose_mulVec (s : SingularValues m n α) (w : Fin m → α) :
    s.keptMatrixᵀ *ᵥ w = s.rightAxes *ᵥ fun k => s.kept k * (s.leftAxesᵀ *ᵥ w) k := by
  rw [keptMatrix, transpose_mul, transpose_mul, transpose_transpose, diagonal_transpose,
    ← mulVec_mulVec, ← mulVec_mulVec]
  congr 1
  funext k
  exact mulVec_diagonal _ _ k

/-- Along each kept axis nothing is left, and the other axes are not among the rows. -/
theorem leastSquaresStep_normal {s : SingularValues m n α} (orthonormal : s.Orthonormal)
    (residual : Vector α m) :
    s.keptMatrixᵀ *ᵥ remainder s.keptMatrix residual.get (s.leastSquaresStep residual).get = 0 := by
  rw [get_leastSquaresStep]
  generalize projected : s.leftAxesᵀ *ᵥ -residual.get = along
  have residualAlong : s.leftAxesᵀ *ᵥ residual.get = -along := by
    rw [← projected, mulVec_neg, neg_neg]
  rw [keptMatrix_transpose_mulVec, remainder, mulVec_add, keptMatrix_mulVec,
    orthonormal_cancel orthonormal.leftAxes, orthonormal_cancel orthonormal.rightAxes,
    residualAlong]
  convert mulVec_zero s.rightAxes using 2
  funext k
  rw [Pi.add_apply, Pi.neg_apply]
  by_cases cut : s.kept k = 0
  · rw [cut, zero_mul, Pi.zero_apply]
  · rw [mul_inv_cancel_left₀ cut, add_neg_cancel, mul_zero, Pi.zero_apply]

theorem leastSquaresStep_inRows {s : SingularValues m n α} (orthonormal : s.Orthonormal)
    (residual : Vector α m) :
    ∃ combination, (s.leastSquaresStep residual).get = s.keptMatrixᵀ *ᵥ combination := by
  rw [get_leastSquaresStep]
  generalize s.leftAxesᵀ *ᵥ -residual.get = along
  refine ⟨s.leftAxes *ᵥ fun k => (s.kept k)⁻¹ * ((s.kept k)⁻¹ * along k), ?_⟩
  rw [keptMatrix_transpose_mulVec, orthonormal_cancel orthonormal.leftAxes]
  congr 1
  funext k
  by_cases cut : s.kept k = 0
  · rw [cut, GroupWithZero.inv_zero, zero_mul, zero_mul]
  · rw [mul_inv_cancel_left₀ cut]

/-- The step from orthonormal factors is the shortest least-squares step for the product of what is
kept of them. -/
theorem leastSquaresStep_isShortest [IsStrictOrderedRing α] {s : SingularValues m n α}
    (orthonormal : s.Orthonormal) (residual : Vector α m) :
    IsShortestLeastSquares s.keptMatrix residual.get (s.leastSquaresStep residual).get := by
  obtain ⟨combination, inRows⟩ := leastSquaresStep_inRows orthonormal residual
  exact IsShortestLeastSquares.of_normal (leastSquaresStep_normal orthonormal residual) combination
    inRows

end SingularValues

section Decompositions

variable [Field α] [LinearOrder α] [IsStrictOrderedRing α] [Precision α]

/-- The step against a residual is found, and it is the shortest least-squares step. -/
def StepsExactly (decompose : Decomposition α) (matrix : DenseMatrix m n α)
    (residual : Vector α m) : Prop :=
  ∃ step, pseudoInverseStep? decompose matrix residual = some step ∧
    IsShortestLeastSquares matrix.toMatrix residual.get step.get

/-- Exact factors give the exact step if no singular value is cut off but zero. -/
theorem stepsExactly_of_factors {decompose : Decomposition α} {matrix : DenseMatrix m n α}
    {s : SingularValues m n α} (someRow : m ≠ 0) (someColumn : n ≠ 0)
    (found : decompose m n matrix = some s) (factors : s.Factors matrix)
    (onlyZero : ∀ k, s.values.get k ≤ s.cutoff → s.values.get k = 0) (residual : Vector α m) :
    StepsExactly decompose matrix residual := by
  refine ⟨s.leastSquaresStep residual, ?_, ?_⟩
  · rw [pseudoInverseStep?, if_neg (not_or.mpr ⟨someRow, someColumn⟩), found, Option.map_some]
  · rw [← SingularValues.keptMatrix_eq factors onlyZero]
    exact SingularValues.leastSquaresStep_isShortest factors.toOrthonormal residual

end Decompositions

end Drafting
