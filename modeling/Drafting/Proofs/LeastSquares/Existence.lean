import Mathlib.Analysis.InnerProductSpace.SingularValues
import Drafting.Proofs.LeastSquares

/-!
# Every real matrix has exact factors

A matrix has orthonormal directions with orthogonal images. Their lengths are the singular values, and
the images that are not zero can be completed to an orthonormal basis. So it can be assumed of a
decomposition routine that it finds exact factors.
-/

namespace Drafting

open Matrix Module

variable {m n : Nat}

def SingularValues.Descending {α : Type} [LE α] (s : SingularValues m n α) : Prop :=
  ∀ k l, k ≤ l → s.values.get l ≤ s.values.get k

/-- What the routine finds are exact factors, with singular values that do not increase. -/
structure Decomposition.IsExact (decompose : Decomposition ℝ) : Prop where
  factors : ∀ {m n : Nat} {matrix : DenseMatrix m n ℝ} {s : SingularValues m n ℝ},
    decompose m n matrix = some s → s.Factors matrix
  descending : ∀ {m n : Nat} {matrix : DenseMatrix m n ℝ} {s : SingularValues m n ℝ},
    decompose m n matrix = some s → s.Descending

section Directions

open scoped InnerProductSpace

variable (T : EuclideanSpace ℝ (Fin n) →ₗ[ℝ] EuclideanSpace ℝ (Fin m))

/-- Orthonormal directions whose images are orthogonal, in the order of the singular values. -/
noncomputable def singularDirections : OrthonormalBasis (Fin n) ℝ (EuclideanSpace ℝ (Fin n)) :=
  T.isSymmetric_adjoint_comp_self.eigenvectorBasis finrank_euclideanSpace_fin

theorem inner_image_singularDirections (k l : Fin n) :
    ⟪T (singularDirections T k), T (singularDirections T l)⟫_ℝ =
      if k = l then T.singularValues k ^ 2 else 0 := by
  have eigen := T.isSymmetric_adjoint_comp_self.apply_eigenvectorBasis
    finrank_euclideanSpace_fin k
  rw [← LinearMap.adjoint_inner_left, ← LinearMap.comp_apply]
  rw [singularDirections, eigen, inner_smul_left, OrthonormalBasis.inner_eq_ite,
    T.sq_singularValues_fin finrank_euclideanSpace_fin]
  split <;> simp

theorem image_singularDirections_eq_zero {k : Fin n} (zero : T.singularValues k = 0) :
    T (singularDirections T k) = 0 := by
  apply inner_self_eq_zero (𝕜 := ℝ).mp
  rw [inner_image_singularDirections, if_pos rfl, zero, sq, zero_mul]

theorem singularValues_eq_zero_of_le {k : Nat} (beyond : min m n ≤ k) : T.singularValues k = 0 := by
  rcases min_le_iff.mp beyond with rows | columns
  · apply T.singularValues_eq_zero_iff_le_finrank_range.mpr
    refine le_trans (Submodule.finrank_le _) ?_
    rwa [finrank_euclideanSpace_fin]
  · apply T.singularValues_of_finrank_le
    rwa [finrank_euclideanSpace_fin]

/-- The image of a direction, scaled to length one where that can be done. -/
noncomputable def scaledImage (i : Fin m) : EuclideanSpace ℝ (Fin m) :=
  if bound : i.val < n then (T.singularValues i)⁻¹ • T (singularDirections T ⟨i, bound⟩) else 0

theorem scaledImage_of_ne_zero {i : Fin m} (nonzero : T.singularValues i ≠ 0) :
    ∃ bound : i.val < n,
      scaledImage T i = (T.singularValues i)⁻¹ • T (singularDirections T ⟨i, bound⟩) := by
  have bound : i.val < n := by
    by_contra beyond
    exact nonzero (singularValues_eq_zero_of_le T (by omega))
  exact ⟨bound, dif_pos bound⟩

theorem orthonormal_scaledImage :
    Orthonormal ℝ ({i : Fin m | T.singularValues i ≠ 0}.domRestrict (scaledImage T)) := by
  rw [orthonormal_iff_ite]
  rintro ⟨i, nonzero⟩ ⟨j, otherNonzero⟩
  obtain ⟨bound, image⟩ := scaledImage_of_ne_zero T nonzero
  obtain ⟨otherBound, otherImage⟩ := scaledImage_of_ne_zero T otherNonzero
  have length : T.singularValues i ≠ 0 := nonzero
  simp only [Set.domRestrict_apply, image, otherImage, inner_smul_left, inner_smul_right,
    inner_image_singularDirections, Fin.mk.injEq, Fin.val_inj, Subtype.mk.injEq]
  by_cases same : i = j
  · subst same
    simp [sq, length]
  · simp [same]

/-- The images of the directions are multiples of the members of another orthonormal basis. -/
theorem exists_images : ∃ b : OrthonormalBasis (Fin m) ℝ (EuclideanSpace ℝ (Fin m)),
    ∀ k : Fin (min m n), T (singularDirections T (SingularValues.rightIndex k)) =
      T.singularValues k • b (SingularValues.leftIndex k) := by
  obtain ⟨b, agrees⟩ :=
    (orthonormal_scaledImage T).exists_orthonormalBasis_extension_of_card_eq (by simp)
  refine ⟨b, fun k => ?_⟩
  by_cases zero : T.singularValues k = 0
  · rw [zero, zero_smul]
    exact image_singularDirections_eq_zero T zero
  · obtain ⟨_, image⟩ := scaledImage_of_ne_zero T (i := SingularValues.leftIndex k) zero
    rw [agrees _ zero, image]
    exact (smul_inv_smul₀ zero _).symm

noncomputable def columnsOf (b : OrthonormalBasis (Fin n) ℝ (EuclideanSpace ℝ (Fin n))) :
    Matrix (Fin n) (Fin n) ℝ :=
  of fun i k => b k i

theorem columnsOf_orthonormal (b : OrthonormalBasis (Fin n) ℝ (EuclideanSpace ℝ (Fin n))) :
    (columnsOf b)ᵀ * columnsOf b = 1 := by
  ext k l
  have inner := b.inner_eq_ite k l
  rw [PiLp.inner_apply] at inner
  rw [mul_apply, one_apply, ← inner]
  apply Finset.sum_congr rfl
  intro i _
  exact mul_comm _ _

noncomputable def factorsOfBases (b : OrthonormalBasis (Fin m) ℝ (EuclideanSpace ℝ (Fin m))) :
    SingularValues m n ℝ where
  left := DenseMatrix.ofFn (columnsOf b)
  values := Vector.ofFn fun k => T.singularValues k
  right := DenseMatrix.ofFn (columnsOf (singularDirections T))

variable (b : OrthonormalBasis (Fin m) ℝ (EuclideanSpace ℝ (Fin m)))

theorem entry_left_factorsOfBases (i k : Fin m) : (factorsOfBases T b).left.entry i k = b k i :=
  DenseMatrix.entry_ofFn _ i k

theorem entry_right_factorsOfBases (j k : Fin n) :
    (factorsOfBases T b).right.entry j k = singularDirections T k j :=
  DenseMatrix.entry_ofFn _ j k

theorem get_values_factorsOfBases (k : Fin (min m n)) :
    (factorsOfBases T b).values.get k = T.singularValues k :=
  get_ofFn _ k

theorem descending_factorsOfBases : (factorsOfBases T b).Descending := by
  intro k l ordered
  rw [get_values_factorsOfBases, get_values_factorsOfBases]
  exact T.singularValues_antitone ordered

theorem orthonormal_factorsOfBases : (factorsOfBases T b).Orthonormal := by
  constructor
  · rw [factorsOfBases, DenseMatrix.toMatrix_ofFn]
    exact columnsOf_orthonormal b
  · rw [factorsOfBases, DenseMatrix.toMatrix_ofFn]
    exact columnsOf_orthonormal _

end Directions

/-- The matrix is the sum of what it makes of each direction, and only the first of the directions have
an image other than zero. -/
theorem product_factorsOfBases {matrix : Matrix (Fin m) (Fin n) ℝ}
    {b : OrthonormalBasis (Fin m) ℝ (EuclideanSpace ℝ (Fin m))}
    (images : ∀ k : Fin (min m n), toEuclideanLin matrix
        (singularDirections (toEuclideanLin matrix) (SingularValues.rightIndex k)) =
      (toEuclideanLin matrix).singularValues k • b (SingularValues.leftIndex k)) :
    (factorsOfBases (toEuclideanLin matrix) b).leftAxes *
        diagonal (factorsOfBases (toEuclideanLin matrix) b).values.get *
        (factorsOfBases (toEuclideanLin matrix) b).rightAxesᵀ = matrix := by
  generalize isMap : toEuclideanLin matrix = T at images
  have complete : columnsOf (singularDirections T) * (columnsOf (singularDirections T))ᵀ = 1 :=
    mul_eq_one_comm.mp (columnsOf_orthonormal _)
  have image (i : Fin m) (k : Fin n) :
      (matrix * columnsOf (singularDirections T)) i k = T (singularDirections T k) i := by
    subst isMap
    rfl
  rw [← Matrix.mul_one matrix, ← complete, ← Matrix.mul_assoc]
  ext i j
  rw [SingularValues.entry_product, mul_apply]
  apply Fintype.sum_of_injective SingularValues.rightIndex
  · intro k l same
    exact Fin.ext (Fin.mk.inj same)
  · intro k outside
    have beyond : min m n ≤ k.val := by
      by_contra below
      exact outside ⟨⟨k.val, not_le.mp below⟩, rfl⟩
    rw [image, image_singularDirections_eq_zero T (singularValues_eq_zero_of_le T beyond)]
    exact zero_mul _
  · intro k
    rw [image, images, get_values_factorsOfBases, entry_left_factorsOfBases,
      entry_right_factorsOfBases, PiLp.smul_apply, smul_eq_mul, mul_comm (T.singularValues k)]
    rfl

/-- Every real matrix has exact factors, with singular values that do not increase. -/
theorem exists_factors (matrix : DenseMatrix m n ℝ) :
    ∃ s : SingularValues m n ℝ, s.Factors matrix ∧ s.Descending := by
  obtain ⟨b, images⟩ := exists_images (toEuclideanLin matrix.toMatrix)
  refine ⟨factorsOfBases (toEuclideanLin matrix.toMatrix) b, ⟨?_, ?_, ?_⟩, ?_⟩
  · exact orthonormal_factorsOfBases _ b
  · intro k
    rw [get_values_factorsOfBases]
    exact LinearMap.singularValues_nonneg _ k
  · exact product_factorsOfBases images
  · exact descending_factorsOfBases _ b

noncomputable def exactFactors : Decomposition ℝ := fun _ _ matrix =>
  some (exists_factors matrix).choose

theorem exists_exactFactors (matrix : DenseMatrix m n ℝ) :
    ∃ s, exactFactors m n matrix = some s ∧ s.Factors matrix ∧ s.Descending :=
  ⟨_, rfl, (exists_factors matrix).choose_spec⟩

theorem exactFactors_isExact : exactFactors.IsExact := by
  constructor
  · intro m n matrix s found
    obtain ⟨t, decomposed, factors, _⟩ := exists_exactFactors matrix
    rwa [Option.some.inj (found.symm.trans decomposed)]
  · intro m n matrix s found
    obtain ⟨t, decomposed, _, descending⟩ := exists_exactFactors matrix
    rwa [Option.some.inj (found.symm.trans decomposed)]

end Drafting
