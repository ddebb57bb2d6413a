import Drafting.Proofs.Derivatives.Expansion
import Drafting.Proofs.Freedom
import Drafting.Proofs.LeastSquares.Existence
import Drafting.Proofs.LeastSquares.Values

/-!
# Directions in which nothing is felt

The right factor's columns from the rank on span what the matrix does not see once the singular values
up to the cutoff are replaced by zero. The squares of all participations add up to the number of these
columns. So one unknown at least has an even share of a column, which neither the thousandth of the
largest participation nor rounding exceeds.
-/

namespace Drafting

open Matrix

namespace SingularValues

variable {m n : Nat} (s : SingularValues m n ℝ)

theorem rank_eq_card : s.rank = (Finset.univ.filter fun k => s.cutoff < s.values.get k).card := by
  rw [rank, toList_values, List.countP_map, List.countP_eq_length_filter]
  rfl

variable {s}

/-- As the singular values do not increase, the first ones are above the cutoff. -/
theorem Descending.lt_rank_iff (descending : s.Descending) (k : Fin (min m n)) :
    k.val < s.rank ↔ s.cutoff < s.values.get k := by
  rw [rank_eq_card]
  by_cases above : s.cutoff < s.values.get k
  · have all : Finset.Iic k ⊆ Finset.univ.filter fun l => s.cutoff < s.values.get l := by
      intro l before
      rw [Finset.mem_filter]
      exact ⟨Finset.mem_univ l, lt_of_lt_of_le above (descending l k (Finset.mem_Iic.mp before))⟩
    have count := Finset.card_le_card all
    rw [Fin.card_Iic] at count
    exact iff_of_true count above
  · have all : (Finset.univ.filter fun l => s.cutoff < s.values.get l) ⊆ Finset.Iio k := by
      intro l member
      rw [Finset.mem_Iio]
      by_contra after
      have aboveHere := (Finset.mem_filter.mp member).2
      exact above (lt_of_lt_of_le aboveHere (descending k l (not_lt.mp after)))
    have count := Finset.card_le_card all
    rw [Fin.card_Iio] at count
    exact iff_of_false (not_lt.mpr count) above

theorem kept_eq_zero_iff (descending : s.Descending) (k : Fin (min m n)) :
    s.kept k = 0 ↔ s.rank ≤ k.val := by
  rw [← not_lt, descending.lt_rank_iff, kept]
  split
  · rename_i below
    exact iff_of_true rfl (not_lt.mpr below)
  · rename_i above
    have positive : 0 < s.values.get k := lt_of_le_of_lt s.cutoff_nonneg (not_le.mp above)
    exact iff_of_false positive.ne' (not_not.mpr (not_le.mp above))

def axis (s : SingularValues m n ℝ) (k : Fin n) (j : Fin n) : ℝ := s.right.entry j k

theorem Orthonormal.axis_dotProduct (orthonormal : s.Orthonormal) (k l : Fin n) :
    s.axis k ⬝ᵥ s.axis l = if k = l then 1 else 0 := by
  rw [← one_apply, ← orthonormal.right]
  rfl

/-- A direction is the sum of its parts along the axes. -/
theorem Orthonormal.sum_axes (orthonormal : s.Orthonormal) (v : Fin n → ℝ) :
    ∑ k, (s.axis k ⬝ᵥ v) • s.axis k = v := by
  have complete : s.right.toMatrix * s.right.toMatrixᵀ = 1 := mul_eq_one_comm.mp orthonormal.right
  have parts : s.right.toMatrix *ᵥ (s.right.toMatrixᵀ *ᵥ v) = v := by
    rw [mulVec_mulVec, complete, one_mulVec]
  funext j
  rw [Finset.sum_apply]
  refine Eq.trans ?_ (congrFun parts j)
  apply Finset.sum_congr rfl
  intro k _
  exact mul_comm _ _

/-- The matrix that is kept does not see a direction without part along the first axes. -/
theorem keptMatrix_mulVec_eq_zero_iff (orthonormal : s.Orthonormal) (descending : s.Descending)
    (v : Fin n → ℝ) :
    s.keptMatrix *ᵥ v = 0 ↔ ∀ k : Fin n, k.val < s.rank → s.axis k ⬝ᵥ v = 0 := by
  have seen : s.keptMatrix *ᵥ v = 0 ↔ ∀ k, s.kept k * (s.axis (rightIndex k) ⬝ᵥ v) = 0 := by
    rw [keptMatrix_mulVec]
    constructor
    · intro zero k
      have back := orthonormal_cancel orthonormal.leftAxes fun k =>
        s.kept k * (s.rightAxesᵀ *ᵥ v) k
      rw [zero, mulVec_zero] at back
      exact (congrFun back k).symm
    · intro zero
      have nothing : (fun k => s.kept k * (s.rightAxesᵀ *ᵥ v) k) = 0 := funext zero
      rw [nothing, mulVec_zero]
  rw [seen]
  constructor
  · intro zero k inRank
    have bound := lt_of_lt_of_le inRank s.rank_le
    have isKept : s.kept ⟨k, bound⟩ ≠ 0 :=
      mt (kept_eq_zero_iff descending _).mp (not_le.mpr inRank)
    exact (mul_eq_zero.mp (zero ⟨k, bound⟩)).resolve_left isKept
  · intro zero k
    by_cases inRank : k.val < s.rank
    · rw [zero (rightIndex k) inRank, mul_zero]
    · rw [(kept_eq_zero_iff descending k).mpr (not_lt.mp inRank), zero_mul]

/-- The axes from the rank on span what the kept matrix does not see. -/
theorem span_axes (orthonormal : s.Orthonormal) (descending : s.Descending) :
    Submodule.span ℝ {v | ∃ k : Fin n, s.rank ≤ k.val ∧ v = s.axis k} =
      LinearMap.ker s.keptMatrix.mulVecLin := by
  apply le_antisymm
  · apply Submodule.span_le.mpr
    rintro v ⟨k, outside, same⟩
    rw [same]
    apply (keptMatrix_mulVec_eq_zero_iff orthonormal descending _).mpr
    intro l inRank
    have different : l ≠ k := by
      intro isSame
      rw [isSame] at inRank
      exact absurd inRank (not_lt.mpr outside)
    rw [orthonormal.axis_dotProduct, if_neg different]
  · intro v unseen
    have orthogonal := (keptMatrix_mulVec_eq_zero_iff orthonormal descending v).mp unseen
    rw [← orthonormal.sum_axes v]
    apply Submodule.sum_mem
    intro k _
    by_cases inRank : k.val < s.rank
    · rw [orthogonal k inRank, zero_smul]
      exact Submodule.zero_mem _
    · exact Submodule.smul_mem _ _ (Submodule.subset_span ⟨k, not_lt.mp inRank, rfl⟩)

section Participation

theorem sum_drop_finRange (r : Nat) (f : Fin n → ℝ) :
    (((List.finRange n).drop r).map f).sum =
      ∑ k ∈ Finset.univ.filter (fun k : Fin n => r ≤ k.val), f k := by
  have distinct : ((List.finRange n).drop r).Nodup :=
    (List.nodup_finRange n).sublist (List.drop_sublist r _)
  rw [← List.sum_toFinset f distinct]
  congr 1
  ext k
  rw [List.mem_toFinset, List.mem_drop_iff_getElem, Finset.mem_filter]
  simp only [List.getElem_finRange, List.length_finRange, Finset.mem_univ, true_and]
  constructor
  · rintro ⟨i, bound, same⟩
    rw [← same]
    simp
  · intro atLeast
    refine ⟨k.val - r, by omega, ?_⟩
    apply Fin.ext
    simp
    omega

theorem participation_eq (s : SingularValues m n ℝ) (j : Fin n) :
    s.participation j =
      Real.sqrt (∑ k ∈ Finset.univ.filter (fun k : Fin n => s.rank ≤ k.val), s.axis k j ^ 2) := by
  rw [← sum_drop_finRange, participation, List.sum_eq_foldl, List.foldl_map]
  simp only [sq]
  rfl

theorem participation_nonneg (s : SingularValues m n ℝ) (j : Fin n) : 0 ≤ s.participation j := by
  rw [participation_eq]
  exact Real.sqrt_nonneg _

theorem participation_sq (s : SingularValues m n ℝ) (j : Fin n) :
    s.participation j ^ 2 =
      ∑ k ∈ Finset.univ.filter (fun k : Fin n => s.rank ≤ k.val), s.axis k j ^ 2 := by
  rw [participation_eq, Real.sq_sqrt]
  exact Finset.sum_nonneg fun k _ => sq_nonneg _

/-- The squares of all participations add up to the number of axes from the rank on. -/
theorem Orthonormal.sum_participation_sq (orthonormal : s.Orthonormal) :
    ∑ j, s.participation j ^ 2 =
      ((Finset.univ.filter fun k : Fin n => s.rank ≤ k.val).card : ℝ) := by
  have unit (k : Fin n) : ∑ j, s.axis k j ^ 2 = 1 := by
    have length := orthonormal.axis_dotProduct k k
    rw [if_pos rfl, dotProduct] at length
    simpa only [sq] using length
  simp only [participation_sq]
  rw [Finset.sum_comm, Finset.sum_congr rfl fun k _ => unit k, Finset.sum_const, nsmul_eq_mul,
    mul_one]

theorem noise_lt_iff (s : SingularValues m n ℝ) (x : ℝ) :
    s.noise < x ↔ 10 * Real.sqrt n * (1 / 2 ^ 52) < x ∧
      1 / 1000 * largest ((List.finRange n).map s.participation) < x := by
  rw [noise, larger_eq_max, max_lt_iff]
  norm_num [Precision.epsilon, Precision.sqrt]

theorem mem_movableColumns {j : Fin n} : j ∈ s.movableColumns ↔ s.noise < s.participation j := by
  rw [movableColumns, List.mem_filter, decide_eq_true_iff]
  exact and_iff_right (List.mem_finRange j)

theorem participation_pos_of_movable {j : Fin n} (moves : j ∈ s.movableColumns) :
    0 < s.participation j := by
  have aboveRounding := ((noise_lt_iff s _).mp (mem_movableColumns.mp moves)).1
  refine lt_of_le_of_lt ?_ aboveRounding
  positivity

/-- An unknown that is found movable takes part in an axis from the rank on. -/
theorem exists_axis_of_movable {j : Fin n} (moves : j ∈ s.movableColumns) :
    ∃ k : Fin n, s.rank ≤ k.val ∧ s.axis k j ≠ 0 := by
  by_contra none
  push Not at none
  have nothing : s.participation j = 0 := by
    rw [participation_eq, Finset.sum_eq_zero, Real.sqrt_zero]
    intro k member
    rw [none k (Finset.mem_filter.mp member).2, sq, zero_mul]
  exact (participation_pos_of_movable moves).ne' nothing

/-- The largest participation is at least what an even share of one axis would be. -/
theorem Orthonormal.exists_largest_participation (orthonormal : s.Orthonormal)
    (free : s.rank < n) :
    ∃ j, largest ((List.finRange n).map s.participation) = s.participation j ∧
      1 / (n : ℝ) ≤ s.participation j ^ 2 := by
  have some : 0 < n := Nat.zero_lt_of_lt free
  have total : ∑ _j : Fin n, 1 / (n : ℝ) ≤ ∑ j, s.participation j ^ 2 := by
    have member : (⟨s.rank, free⟩ : Fin n) ∈
        Finset.univ.filter fun k : Fin n => s.rank ≤ k.val :=
      Finset.mem_filter.mpr ⟨Finset.mem_univ _, le_rfl⟩
    have one : (1 : ℝ) ≤ ((Finset.univ.filter fun k : Fin n => s.rank ≤ k.val).card : ℝ) :=
      Nat.one_le_cast.mpr (Finset.card_pos.mpr ⟨_, member⟩)
    rw [orthonormal.sum_participation_sq, Finset.sum_const, Finset.card_univ, Fintype.card_fin,
      nsmul_eq_mul, mul_one_div_cancel (Nat.cast_ne_zero.mpr some.ne')]
    exact one
  obtain ⟨j, _, share⟩ :=
    Finset.exists_le_of_sum_le (Finset.univ_nonempty_iff.mpr ⟨⟨0, some⟩⟩) total
  have positive : 0 < s.participation j := by
    have square : 0 < s.participation j ^ 2 :=
      lt_of_lt_of_le (one_div_pos.mpr (Nat.cast_pos.mpr some)) share
    exact lt_of_le_of_ne (s.participation_nonneg j) fun zero => by simp [← zero] at square
  obtain ⟨attained, bounds⟩ := isGreatest_largest ((List.finRange n).map s.participation)
  have atLeast := bounds (.inr (List.mem_map_of_mem (List.mem_finRange j)))
  rcases attained with isZero | listed
  · rw [isZero] at atLeast
    exact absurd atLeast (not_le.mpr positive)
  · obtain ⟨i, _, same⟩ := List.mem_map.mp listed
    rw [← same] at atLeast
    exact ⟨i, same.symm, share.trans (pow_le_pow_left₀ positive.le atLeast 2)⟩

/-- Rounding stays below an even share of one axis, as long as there are not too many unknowns. -/
theorem rounding_lt {x : ℝ} (some : 0 < n) (small : n < 10 ^ 14) (nonneg : 0 ≤ x)
    (share : 1 / (n : ℝ) ≤ x ^ 2) : 10 * Real.sqrt n * (1 / 2 ^ 52) < x := by
  have count : (0 : ℝ) < n := Nat.cast_pos.mpr some
  have fewer : (n : ℝ) < 10 ^ 14 := by exact_mod_cast small
  apply lt_of_pow_lt_pow_left₀ 2 nonneg
  refine lt_of_lt_of_le ?_ share
  rw [mul_pow, mul_pow, Real.sq_sqrt count.le, lt_div_iff₀ count]
  calc 10 ^ 2 * (n : ℝ) * (1 / 2 ^ 52) ^ 2 * n = (10 / 2 ^ 52 * n) ^ 2 := by ring
    _ < 1 := by
      apply pow_lt_one₀ (by positivity) _ two_ne_zero
      norm_num
      linarith

theorem Orthonormal.movableColumns_ne_nil_iff (orthonormal : s.Orthonormal) (small : n < 10 ^ 14) :
    s.movableColumns ≠ [] ↔ s.rank < n := by
  constructor
  · intro someMoves
    obtain ⟨j, moves⟩ := List.exists_mem_of_ne_nil _ someMoves
    obtain ⟨k, outside, _⟩ := exists_axis_of_movable moves
    exact lt_of_le_of_lt outside k.isLt
  · intro free
    obtain ⟨j, isLargest, share⟩ := orthonormal.exists_largest_participation free
    have some : 0 < n := Nat.zero_lt_of_lt free
    have aboveRounding := rounding_lt some small (s.participation_nonneg j) share
    have moves : j ∈ s.movableColumns := by
      rw [mem_movableColumns, noise_lt_iff, isLargest]
      refine ⟨aboveRounding, ?_⟩
      have positive : 0 < s.participation j := lt_of_le_of_lt (by positivity) aboveRounding
      linarith
    exact List.ne_nil_of_mem moves

end Participation

end SingularValues

end Drafting
