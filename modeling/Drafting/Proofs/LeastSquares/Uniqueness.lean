import Drafting.Proofs.LinearSystems

/-!
# The one shortest least-squares step

The normal equations and the orthogonality to everything that the matrix does not see leave only one
step. So the step is the same for all exact factors of a matrix from which the same is kept, and every
other step leaves more of the residual or is longer.
-/

namespace Drafting

open Matrix

variable {α : Type} {m n : Nat}

theorem vector_eq_of_get {v w : Vector α n} (same : v.get = w.get) : v = w := by
  apply Vector.ext
  intro i bound
  exact congrFun same ⟨i, bound⟩

theorem get_replicate (x : α) (i : Fin n) : (Vector.replicate n x).get i = x := by
  simp [Vector.get]

variable [Field α]

/-- The normal equations hold for a step, and it is orthogonal to everything that the matrix does not
see. -/
structure IsNormalStep (matrix : Matrix (Fin m) (Fin n) α) (residual : Fin m → α)
    (step : Fin n → α) : Prop where
  normal : matrixᵀ *ᵥ remainder matrix residual step = 0
  orthogonal : ∀ unseen, matrix *ᵥ unseen = 0 → step ⬝ᵥ unseen = 0

variable [LinearOrder α] [IsStrictOrderedRing α]

namespace IsNormalStep

variable {matrix : Matrix (Fin m) (Fin n) α} {residual : Fin m → α} {step other : Fin n → α}

/-- Any other step that leaves as little is longer, by its way from the normal one. -/
theorem lt_of_remainder_le (isNormal : IsNormalStep matrix residual step) (different : other ≠ step)
    (asSmall : remainder matrix residual other ⬝ᵥ remainder matrix residual other ≤
      remainder matrix residual step ⬝ᵥ remainder matrix residual step) :
    step ⬝ᵥ step < other ⬝ᵥ other := by
  obtain ⟨further, same⟩ : ∃ further, step + further = other := ⟨other - step, add_sub_cancel _ _⟩
  rw [← same] at asSmall different ⊢
  have unseen := unseen_of_remainder_le isNormal.normal asSmall
  rw [dotProduct_self_add (isNormal.orthogonal further unseen)]
  apply lt_add_of_pos_right
  apply lt_of_le_of_ne (dotProduct_self_nonneg _)
  intro noWay
  have stays := dotProduct_self_eq_zero.mp noWay.symm
  rw [stays, add_zero] at different
  exact different rfl

theorem unique (isNormal : IsNormalStep matrix residual step)
    (otherIsNormal : IsNormalStep matrix residual other) : other = step := by
  by_contra different
  have shorter := isNormal.lt_of_remainder_le different
    (remainder_le_of_normal otherIsNormal.normal step)
  have longer := otherIsNormal.lt_of_remainder_le (Ne.symm different)
    (remainder_le_of_normal isNormal.normal other)
  exact lt_asymm shorter longer

/-- No step is the only one that is normal to a matrix that sees nothing. -/
theorem eq_zero_of_unseeing (isNormal : IsNormalStep matrix residual step) (nothing : matrix = 0) :
    step = 0 := by
  apply dotProduct_self_eq_zero.mp
  apply isNormal.orthogonal
  rw [nothing, zero_mulVec]

end IsNormalStep

section Factors

variable [Precision α] {matrix : DenseMatrix m n α} {s : SingularValues m n α}

omit [IsStrictOrderedRing α] in
theorem SingularValues.leastSquaresStep_isNormal (orthonormal : s.Orthonormal)
    (residual : Vector α m) :
    IsNormalStep s.keptMatrix residual.get (s.leastSquaresStep residual).get := by
  obtain ⟨combination, inRows⟩ := SingularValues.leastSquaresStep_inRows orthonormal residual
  constructor
  · exact SingularValues.leastSquaresStep_normal orthonormal residual
  · intro unseen zero
    exact orthogonal_of_unseen inRows zero

omit [LinearOrder α] [IsStrictOrderedRing α] [Precision α] in
/-- The stretch is what the rotations leave of the product. -/
theorem SingularValues.Orthonormal.diagonal_eq (orthonormal : s.Orthonormal) :
    diagonal s.values.get =
      s.leftAxesᵀ * (s.leftAxes * diagonal s.values.get * s.rightAxesᵀ) * s.rightAxes := by
  rw [← Matrix.mul_assoc, ← Matrix.mul_assoc, orthonormal.leftAxes, Matrix.one_mul,
    Matrix.mul_assoc, orthonormal.rightAxes, Matrix.mul_one]

omit [IsStrictOrderedRing α] in
/-- Nothing is kept of a matrix without entries but zero. -/
theorem SingularValues.Factors.keptMatrix_eq_zero (factors : s.Factors matrix)
    (zero : matrix.toMatrix = 0) : s.keptMatrix = 0 := by
  have stretch := factors.toOrthonormal.diagonal_eq
  rw [factors.product, zero, Matrix.mul_zero, Matrix.zero_mul, diagonal_eq_zero] at stretch
  have nothing : s.kept = fun _ => 0 := by
    funext k
    rw [SingularValues.kept, stretch, Pi.zero_apply, ite_self]
  rw [SingularValues.keptMatrix, nothing, diagonal_zero, Matrix.mul_zero, Matrix.zero_mul]

omit [IsStrictOrderedRing α] in
/-- Without rows or columns there are no singular values, and the step from any factors is no step. -/
theorem pseudoInverseStep?_eq_some {decompose : Decomposition α}
    (found : m ≠ 0 → n ≠ 0 → decompose m n matrix = some s) (residual : Vector α m) :
    pseudoInverseStep? decompose matrix residual = some (s.leastSquaresStep residual) := by
  unfold pseudoInverseStep?
  by_cases trivial : m = 0 ∨ n = 0
  · rw [if_pos trivial, Option.some.injEq]
    have noValue : IsEmpty (Fin (min m n)) := ⟨fun k => absurd k.isLt (by omega)⟩
    apply vector_eq_of_get
    rw [SingularValues.get_leastSquaresStep]
    funext i
    rw [get_replicate, mulVec, dotProduct, Finset.univ_eq_empty, Finset.sum_empty]
  · obtain ⟨someRow, someColumn⟩ := not_or.mp trivial
    rw [if_neg trivial, found someRow someColumn, Option.map_some]

end Factors

/-- From exact factors of a matrix, the step is the one for which the normal equations of what is kept
of the matrix hold and which is orthogonal to all that this does not see. So it leaves no more of the
residual than any other step, and each other step that leaves as little is longer. It is no step for a
matrix without rows, columns or entries other than zero, and other factors of which the same is kept
give the same. -/
theorem step_is_unique_shortest [Precision α] (decompose : Decomposition α)
    (matrix : DenseMatrix m n α) (residual : Vector α m) :
    (m = 0 ∨ n = 0 →
      pseudoInverseStep? decompose matrix residual = some (Vector.replicate n 0)) ∧
    ∀ s : SingularValues m n α, s.Factors matrix →
      (m ≠ 0 → n ≠ 0 → decompose m n matrix = some s) →
      ∃ step, pseudoInverseStep? decompose matrix residual = some step ∧
        (∀ d, s.keptMatrixᵀ *ᵥ remainder s.keptMatrix residual.get d = 0 ∧
            (∀ unseen, s.keptMatrix *ᵥ unseen = 0 → d ⬝ᵥ unseen = 0) ↔ d = step.get) ∧
        (∀ other, remainder s.keptMatrix residual.get step.get ⬝ᵥ
              remainder s.keptMatrix residual.get step.get ≤
            remainder s.keptMatrix residual.get other ⬝ᵥ
              remainder s.keptMatrix residual.get other) ∧
        (∀ other ≠ step.get, remainder s.keptMatrix residual.get other ⬝ᵥ
              remainder s.keptMatrix residual.get other ≤
            remainder s.keptMatrix residual.get step.get ⬝ᵥ
              remainder s.keptMatrix residual.get step.get →
          step.get ⬝ᵥ step.get < other ⬝ᵥ other) ∧
        (matrix.toMatrix = 0 → step = Vector.replicate n 0) ∧
        ∀ (decompose' : Decomposition α) (s' : SingularValues m n α), s'.Factors matrix →
          (m ≠ 0 → n ≠ 0 → decompose' m n matrix = some s') → s'.keptMatrix = s.keptMatrix →
            pseudoInverseStep? decompose' matrix residual = some step := by
  constructor
  · intro trivial
    exact if_pos trivial
  · intro s factors found
    have isNormal := SingularValues.leastSquaresStep_isNormal factors.toOrthonormal residual
    refine ⟨s.leastSquaresStep residual, pseudoInverseStep?_eq_some found residual, ?_,
      remainder_le_of_normal isNormal.normal, fun _ => isNormal.lt_of_remainder_le, ?_, ?_⟩
    · intro d
      constructor
      · rintro ⟨normal, orthogonal⟩
        exact isNormal.unique ⟨normal, orthogonal⟩
      · intro same
        rw [same]
        exact ⟨isNormal.normal, isNormal.orthogonal⟩
    · intro zero
      apply vector_eq_of_get
      rw [isNormal.eq_zero_of_unseeing (factors.keptMatrix_eq_zero zero)]
      exact funext fun i => (get_replicate 0 i).symm
    · intro decompose' s' factors' found' sameKept
      have isNormal' := SingularValues.leastSquaresStep_isNormal factors'.toOrthonormal residual
      rw [sameKept] at isNormal'
      rw [pseudoInverseStep?_eq_some found' residual, vector_eq_of_get (isNormal.unique isNormal')]

section Flat

variable {c s length : ℝ}

def flatMatrix (c s length : ℝ) : DenseMatrix 2 2 ℝ :=
  DenseMatrix.ofFn !![length * c, length * s; 0, 0]

def flatFactors (c s length : ℝ) : SingularValues 2 2 ℝ where
  left := DenseMatrix.ofFn !![1, 0; 0, 1]
  values := #v[length, 0]
  right := DenseMatrix.ofFn !![c, -s; s, c]

theorem flatFactors_factors (unit : c ^ 2 + s ^ 2 = 1) (nonnegative : 0 ≤ length) :
    (flatFactors c s length).Factors (flatMatrix c s length) := by
  constructor
  · constructor
    · rw [flatFactors, DenseMatrix.toMatrix_ofFn]
      ext i j
      fin_cases i <;> fin_cases j <;> simp [mul_apply, Fin.sum_univ_two]
    · rw [flatFactors, DenseMatrix.toMatrix_ofFn]
      ext i j
      fin_cases i <;> fin_cases j <;> simp [mul_apply, Fin.sum_univ_two] <;> linarith
  · change ∀ k : Fin 2, 0 ≤ (#v[length, 0] : Vector ℝ 2).get k
    intro k
    fin_cases k
    · exact nonnegative
    · exact le_refl 0
  · have product : (!![1, 0; 0, 1] : Matrix (Fin 2) (Fin 2) ℝ) *
        diagonal (#v[length, 0] : Vector ℝ 2).get *
          (!![c, -s; s, c] : Matrix (Fin 2) (Fin 2) ℝ)ᵀ =
            !![length * c, length * s; 0, 0] := by
      ext i j
      rw [mul_apply, Fin.sum_univ_two, mul_diagonal, mul_diagonal]
      fin_cases i <;> fin_cases j <;> simp [Vector.get]
    rw [SingularValues.leftAxes, SingularValues.rightAxes, flatFactors, flatMatrix,
      DenseMatrix.toMatrix_ofFn, DenseMatrix.toMatrix_ofFn, DenseMatrix.toMatrix_ofFn]
    exact product

theorem keptMatrix_flatFactors :
    (flatFactors (3 / 5) (4 / 5) 5).keptMatrix = !![3, 4; 0, 0] := by
  have onlyZero : ∀ k, (flatFactors (3 / 5) (4 / 5) 5).values.get k ≤
      (flatFactors (3 / 5) (4 / 5) 5).cutoff →
        (flatFactors (3 / 5) (4 / 5) 5).values.get k = 0 := by
    change ∀ k : Fin 2, (#v[5, 0] : Vector ℝ 2).get k ≤ (flatFactors (3 / 5) (4 / 5) 5).cutoff →
      (#v[5, 0] : Vector ℝ 2).get k = 0
    intro k
    fin_cases k <;>
      norm_num [SingularValues.cutoff, flatFactors, largest, larger, Precision.epsilon, Vector.get]
  have factors : (flatFactors (3 / 5) (4 / 5) 5).Factors (flatMatrix (3 / 5) (4 / 5) 5) :=
    flatFactors_factors (by norm_num) (by norm_num)
  rw [SingularValues.keptMatrix_eq factors onlyZero, flatMatrix, DenseMatrix.toMatrix_ofFn]
  norm_num

end Flat

/-- The first row is met exactly, and the second one cannot be met at all. -/
theorem flat_step_is_unique_shortest :
    (flatFactors (3 / 5) (4 / 5) 5).Factors (flatMatrix (3 / 5) (4 / 5) 5) ∧
      ∃ step, pseudoInverseStep? (fun m n _ => match m, n with
          | 2, 2 => some (flatFactors (3 / 5) (4 / 5) 5)
          | _, _ => none) (flatMatrix (3 / 5) (4 / 5) 5) (Vector.ofFn ![-25, 7]) = some step ∧
        step.get = ![3, 4] := by
  have factors : (flatFactors (3 / 5) (4 / 5) 5).Factors (flatMatrix (3 / 5) (4 / 5) 5) :=
    flatFactors_factors (by norm_num) (by norm_num)
  obtain ⟨_, steps⟩ := step_is_unique_shortest (fun m n _ => match m, n with
        | 2, 2 => some (flatFactors (3 / 5) (4 / 5) 5)
        | _, _ => none) (flatMatrix (3 / 5) (4 / 5) 5) (Vector.ofFn ![-25, 7])
  obtain ⟨step, found, only, _⟩ := steps (flatFactors (3 / 5) (4 / 5) 5) factors fun _ _ => rfl
  rw [keptMatrix_flatFactors] at only
  refine ⟨factors, step, found, ((only ![3, 4]).mp ⟨?_, ?_⟩).symm⟩
  · have residual : (Vector.ofFn ![(-25 : ℝ), 7]).get = ![-25, 7] := funext fun i => get_ofFn _ i
    rw [remainder, residual]
    ext i
    fin_cases i <;> norm_num [mulVec, dotProduct, Fin.sum_univ_two]
  · intro unseen zero
    have first := congrFun zero 0
    simpa [mulVec, dotProduct, Fin.sum_univ_two] using first

end Drafting
