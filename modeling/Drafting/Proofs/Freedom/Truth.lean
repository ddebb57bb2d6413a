import Drafting.CommandLine.Report
import Drafting.Proofs.Freedom.Directions
import Drafting.Proofs.Guarded.Drawing

/-!
# The analysis tells the truth

With exact factors, the rank in an analysis counts the singular values that a step would invert, and the
columns from the rank on span what the rest of the matrix does not see. An unknown that is listed as
movable moves along one of them, and an unknown is listed exactly when there is a degree of freedom. A
fixed unknown is never listed when nothing but zero is cut off.
-/

namespace Drafting

open Matrix

section Pinned

variable {α : Type}

theorem ComponentSystem.fixed_unseen [CommRing α] {system : ComponentSystem α}
    {assignment : Vector α system.width} {v : Fin system.width → α}
    (unseen : (system.jacobian assignment).toMatrix *ᵥ v = 0) {column : Fin system.width}
    {value : α} (fixed : .fixed column value ∈ system.equations) : v column = 0 := by
  obtain ⟨i, same⟩ := List.get_of_mem fixed
  have row := congrFun unseen i
  rw [jacobian_mulVec, same, Constraint.gradient, along_singleton, one_mul] at row
  exact row

theorem ComponentSystem.exists_column_of_fixed {constraints : List (Constraint UnknownId α)}
    {id : UnknownId} {value : α} (fixed : .fixed id value ∈ constraints) :
    ∃ column, (ofConstraints constraints).columns.get column = id ∧
      .fixed column value ∈ (ofConstraints constraints).equations := by
  rw [← equations_map_columns constraints] at fixed
  obtain ⟨c, member, same⟩ := List.mem_map.mp fixed
  cases c <;> cases same
  exact ⟨_, rfl, member⟩

end Pinned

/-- What an analysis says is true of factors of the component's matrix. -/
structure ComponentFreedom.IsTrueOf (freedom : ComponentFreedom)
    (constraints : List (Constraint UnknownId ℝ))
    (s : SingularValues (ComponentSystem.ofConstraints constraints).height
      (ComponentSystem.ofConstraints constraints).width ℝ) : Prop where
  unknowns_eq : freedom.unknowns = (ComponentSystem.ofConstraints constraints).width
  rank_eq : freedom.rank = (Finset.univ.filter fun k => ¬s.values.get k ≤ s.cutoff).card
  span_eq : Submodule.span ℝ
      {v | ∃ k : Fin (ComponentSystem.ofConstraints constraints).width,
        freedom.rank ≤ k.val ∧ v = s.axis k} =
    LinearMap.ker s.keptMatrix.mulVecLin
  moves : ∀ id ∈ freedom.movable, ∃ j v,
    (ComponentSystem.ofConstraints constraints).columns.get j = id ∧
      s.keptMatrix *ᵥ v = 0 ∧ v j ≠ 0
  movable_ne_nil_iff : freedom.movable ≠ [] ↔ 0 < freedom.degrees
  fixed : (∀ k, s.values.get k ≤ s.cutoff → s.values.get k = 0) →
    ∀ id value, .fixed id value ∈ constraints → id ∉ freedom.movable

namespace ComponentSystem

variable {decompose : Decomposition ℝ}

theorem freedom?_eq_some {constraints : List (Constraint UnknownId ℝ)}
    {assignment : Vector ℝ (ofConstraints constraints).width}
    {s : SingularValues (ofConstraints constraints).height (ofConstraints constraints).width ℝ}
    (found : decompose _ _ ((ofConstraints constraints).jacobian assignment) = some s) :
    (ofConstraints constraints).freedom? decompose assignment =
      some ⟨(ofConstraints constraints).width, s.rank,
        s.movableColumns.map (ofConstraints constraints).columns.get⟩ := by
  unfold freedom?
  by_cases trivial : (ofConstraints constraints).height = 0 ∨ (ofConstraints constraints).width = 0
  · have noColumn : (ofConstraints constraints).columns = [] := by
      rcases trivial with noRow | noColumn
      · rw [height_ofConstraints, List.length_eq_zero_iff] at noRow
        rw [noRow]
        rfl
      · exact List.eq_nil_of_length_eq_zero noColumn
    have narrow : (ofConstraints constraints).width = 0 := congrArg List.length noColumn
    have noRank : s.rank = 0 := Nat.le_zero.mp ((s.rank_le.trans (min_le_right _ _)).trans_eq narrow)
    have noneMoves : s.movableColumns.map (ofConstraints constraints).columns.get = [] :=
      List.eq_nil_of_length_eq_zero
        (Nat.le_zero.mp (s.movable_sublist.length_le.trans_eq narrow))
    rw [if_pos trivial, noRank, noneMoves, noColumn]
  · rw [if_neg trivial, found, Option.map_some]

theorem movable_ne_nil_iff (exact : decompose.IsExact) {system : ComponentSystem ℝ}
    (small : system.width < 10 ^ 14) {assignment : Vector ℝ system.width}
    {freedom : ComponentFreedom} (found : system.freedom? decompose assignment = some freedom) :
    freedom.movable ≠ [] ↔ 0 < freedom.degrees := by
  obtain same | ⟨s, factors, same⟩ := freedom?_cases found
  · rw [same]
    exact List.length_pos_iff.symm
  · rw [same, ComponentFreedom.degrees, Nat.sub_pos_iff_lt, ne_eq, List.map_eq_nil_iff]
    exact (exact.factors factors).toOrthonormal.movableColumns_ne_nil_iff small

theorem exists_freedom_isTrueOf (exact : decompose.IsExact)
    {constraints : List (Constraint UnknownId ℝ)}
    (small : (ofConstraints constraints).width < 10 ^ 14)
    {assignment : Vector ℝ (ofConstraints constraints).width}
    {s : SingularValues (ofConstraints constraints).height (ofConstraints constraints).width ℝ}
    (found : decompose _ _ ((ofConstraints constraints).jacobian assignment) = some s) :
    ∃ freedom, (ofConstraints constraints).freedom? decompose assignment = some freedom ∧
      freedom.IsTrueOf constraints s := by
  have factors := exact.factors found
  have descending := exact.descending found
  have analysed := freedom?_eq_some found
  have unseen {k : Fin (ofConstraints constraints).width} (outside : s.rank ≤ k.val) :
      s.keptMatrix *ᵥ s.axis k = 0 := by
    have inSpan : s.axis k ∈ LinearMap.ker s.keptMatrix.mulVecLin :=
      SingularValues.span_axes factors.toOrthonormal descending ▸
        Submodule.subset_span ⟨k, outside, rfl⟩
    exact inSpan
  refine ⟨_, analysed, rfl, ?_, SingularValues.span_axes factors.toOrthonormal descending, ?_,
    movable_ne_nil_iff exact small analysed, ?_⟩
  · simp only [not_le]
    exact s.rank_eq_card
  · intro id listed
    obtain ⟨j, moves, same⟩ := List.mem_map.mp listed
    obtain ⟨k, outside, takesPart⟩ := SingularValues.exists_axis_of_movable moves
    exact ⟨j, s.axis k, same, unseen outside, takesPart⟩
  · intro onlyZero id value fixed listed
    obtain ⟨j, moves, same⟩ := List.mem_map.mp listed
    obtain ⟨k, outside, takesPart⟩ := SingularValues.exists_axis_of_movable moves
    obtain ⟨column, isColumn, inEquations⟩ := exists_column_of_fixed fixed
    have sameColumn : j = column := by
      apply Fin.ext
      exact (nodup_mentioned constraints).getElem_inj_iff.mp (same.trans isColumn.symm)
    have felt := unseen outside
    rw [SingularValues.keptMatrix_eq factors onlyZero] at felt
    rw [sameColumn] at takesPart
    exact takesPart (fixed_unseen felt inEquations)

end ComponentSystem

theorem total_eq_zero_iff {counts : List Nat} : total counts = 0 ↔ ∀ n ∈ counts, n = 0 := by
  induction counts with
  | nil => simp
  | cons n rest ih => rw [total_cons, Nat.add_eq_zero_iff, ih, List.forall_mem_cons]

/-- Some unknown can move in all exactly when there is a degree of freedom in all. -/
theorem Freedom.movable_ne_nil_iff {freedom : Freedom}
    (each : ∀ component ∈ freedom.components, component.movable ≠ [] ↔ 0 < component.degrees) :
    freedom.movable ≠ [] ↔ 0 < freedom.degrees := by
  rw [Nat.pos_iff_ne_zero]
  apply not_congr
  rw [movable, List.flatMap_eq_nil_iff, degrees, total_eq_zero_iff, List.forall_mem_map]
  apply forall₂_congr
  intro component member
  exact not_iff_not.mp ((each component member).trans Nat.pos_iff_ne_zero)

/-- If an unknown is listed exactly when there is a degree of freedom, the report lists unknowns exactly
when its count is not zero. -/
theorem CommandLine.freedomLines_eq {freedom : Freedom} {movable : List String}
    (agrees : movable ≠ [] ↔ 0 < freedom.degrees) (coloured : Bool) :
    freedomLines coloured freedom movable =
      (if movable = [] then ["Degrees of freedom: " ++ paint coloured .green "0"]
        else ["Degrees of freedom: " ++ paint coloured .yellow (toString freedom.degrees),
          "Free to move: " ++ ", ".intercalate movable]) ++
      (if freedom.unanalysed.isEmpty then []
        else [paint coloured .yellow
          ("Could not analyse components " ++ positionsText freedom.unanalysed)]) := by
  have same : freedom.degrees = 0 ↔ movable = [] :=
    (not_iff_not.mp (agrees.trans Nat.pos_iff_ne_zero)).symm
  unfold freedomLines
  by_cases nothing : freedom.degrees = 0
  · rw [if_pos (same.mp nothing)]
    dsimp only
    rw [if_pos nothing, nothing]
    rfl
  · rw [if_neg (mt same.mpr nothing)]
    dsimp only
    rw [if_neg nothing]

theorem Drawing.movable_ne_nil_iff {decompose : Decomposition ℝ} (exact : decompose.IsExact)
    {drawing : Drawing ℝ} {settings : Settings ℝ} {outcome : Outcome ℝ} {left : Arena ℝ}
    (solved : drawing.solveWithFreedom decompose settings = (.solved outcome, left))
    (small : ∀ block ∈ blocks drawing.constraints, block.unknowns.length < 10 ^ 14) :
    ∃ freedom, outcome.freedom = some freedom ∧
      (outcome.movable ≠ [] ↔ 0 < freedom.degrees) := by
  obtain ⟨report, freedom, whole, same⟩ := solveWithFreedom_eq_solved_iff.mp solved
  have accounts := solved_freedom_accounts whole
  rw [← same]
  refine ⟨freedom, rfl, ?_⟩
  rw [Drawing.outcome, ne_eq, List.map_eq_nil_iff]
  apply Freedom.movable_ne_nil_iff
  intro component member
  obtain ⟨i, _, block, _, atI, _, found, _⟩ := exists_related accounts.analysed.flip member
  obtain ⟨_, analysed⟩ := Block.freedomIn?_eq_some_iff.mp found
  exact ComponentSystem.movable_ne_nil_iff exact (small block (List.mem_of_getElem? atI)) analysed

/-- With exact factors, the analysis of a component with fewer than 10¹⁴ unknowns tells the truth at any
values. So the report on a solved drawing lists unknowns exactly when it counts a degree of freedom. -/
theorem analysis_tells_truth {decompose : Decomposition ℝ} (exact : decompose.IsExact) :
    (∀ (constraints : List (Constraint UnknownId ℝ))
        (assignment : Vector ℝ (ComponentSystem.ofConstraints constraints).width)
        (s : SingularValues _ _ ℝ),
      (ComponentSystem.ofConstraints constraints).width < 10 ^ 14 →
      decompose _ _ ((ComponentSystem.ofConstraints constraints).jacobian assignment) = some s →
        ∃ freedom, (ComponentSystem.ofConstraints constraints).freedom? decompose assignment =
            some freedom ∧ freedom.IsTrueOf constraints s) ∧
    ∀ (drawing : Drawing ℝ) (settings : Settings ℝ) (outcome : Outcome ℝ) (left : Arena ℝ),
      drawing.solveWithFreedom decompose settings = (.solved outcome, left) →
      (∀ block ∈ blocks drawing.constraints, block.unknowns.length < 10 ^ 14) →
        ∃ freedom, outcome.freedom = some freedom ∧
          (outcome.movable ≠ [] ↔ 0 < freedom.degrees) ∧
          ∀ coloured, CommandLine.freedomLines coloured freedom outcome.movable =
            (if outcome.movable = [] then
                ["Degrees of freedom: " ++ CommandLine.paint coloured .green "0"]
              else ["Degrees of freedom: " ++
                  CommandLine.paint coloured .yellow (toString freedom.degrees),
                "Free to move: " ++ ", ".intercalate outcome.movable]) ++
            (if freedom.unanalysed.isEmpty then []
              else [CommandLine.paint coloured .yellow
                ("Could not analyse components " ++ positionsText freedom.unanalysed)]) := by
  constructor
  · intro constraints assignment s small found
    exact ComponentSystem.exists_freedom_isTrueOf exact small found
  · intro drawing settings outcome left solved small
    obtain ⟨freedom, given, agrees⟩ := Drawing.movable_ne_nil_iff exact solved small
    exact ⟨freedom, given, agrees, CommandLine.freedomLines_eq agrees⟩

section Example

abbrev pinnedCoordinate : List (Constraint UnknownId ℝ) := [.fixed 0 0, .distance ⟨0, 1⟩ ⟨0, 1⟩ 2]

theorem jacobian_pinnedCoordinate :
    ((ComponentSystem.ofConstraints pinnedCoordinate).jacobian (Vector.replicate _ 0)).toMatrix =
      (!![1, 0, 0; 0, 0, 0] : Matrix (Fin 2) (Fin 3) ℝ) := by
  apply mulVec_injective
  funext v i
  rw [ComponentSystem.jacobian_mulVec]
  match i with
  | ⟨0, _⟩ =>
      have row (w : Fin 3 → ℝ) : ![1, 0, 0] ⬝ᵥ w = w 0 := by simp [vecHead]
      refine Eq.trans ?_ (row v).symm
      change along v [(⟨0, _⟩, 1)] = v ⟨0, _⟩
      rw [along_singleton, one_mul]
  | ⟨1, _⟩ =>
      have row (w : Fin 3 → ℝ) : ![0, 0, 0] ⬝ᵥ w = 0 := by simp
      refine Eq.trans ?_ (row v).symm
      change along v (Constraint.gradient _
        (.distance ⟨⟨0, _⟩, ⟨1, _⟩⟩ ⟨⟨0, _⟩, ⟨1, _⟩⟩ ⟨2, _⟩)) = 0
      rw [Constraint.gradient, along_append, along_distancePartials, along_singleton]
      simp [Point.toward, Displacement.dot, Vector.get]

theorem isometry_of_unit_row {matrix : Matrix (Fin 2) (Fin 3) ℝ}
    (entries : matrix = !![1, 0, 0; 0, 0, 0]) : matrix * matrixᵀ * matrix = matrix := by
  rw [entries]
  ext i j
  fin_cases i <;> fin_cases j <;> simp [mul_apply, vecMul, dotProduct, Fin.sum_univ_three]

end Example

/-- There are more unknowns than equations, so something can move, but not the fixed unknown. -/
theorem pinned_coordinate_is_not_movable :
    exactFactors.IsExact ∧ ∃ freedom,
      (ComponentSystem.ofConstraints pinnedCoordinate).freedom? exactFactors
          (Vector.replicate _ 0) = some freedom ∧
        freedom.movable ≠ [] ∧ 0 ∉ freedom.movable := by
  obtain ⟨truth, _⟩ := analysis_tells_truth exactFactors_isExact
  obtain ⟨s, found, factors, _⟩ := exists_exactFactors
    ((ComponentSystem.ofConstraints pinnedCoordinate).jacobian (Vector.replicate _ 0))
  obtain ⟨freedom, analysed, isTrue⟩ :=
    truth pinnedCoordinate (Vector.replicate _ 0) s (by decide) found
  refine ⟨exactFactors_isExact, freedom, analysed, ?_, ?_⟩
  · apply isTrue.movable_ne_nil_iff.mpr
    have narrow := ComponentSystem.rank_le_of_freedom? analysed
    have height : (ComponentSystem.ofConstraints pinnedCoordinate).height = 2 := rfl
    have width : (ComponentSystem.ofConstraints pinnedCoordinate).width = 3 := rfl
    rw [ComponentFreedom.degrees, isTrue.unknowns_eq]
    omega
  · apply isTrue.fixed _ 0 0 List.mem_cons_self
    exact factors.onlyZero_of_isometry (isometry_of_unit_row jacobian_pinnedCoordinate) (by decide)

end Drafting
