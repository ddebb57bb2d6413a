import Drafting.Proofs.Guarded.Equations
import Drafting.Proofs.Iteration.Endings
import Drafting.Proofs.LinearSystems

/-!
# Steps seen by the unknowns

The columns of a component only say where an unknown stands. So a step can be judged by the values of
the unknowns before and after it and by the constraints themselves, in any order.
-/

namespace Drafting

open Matrix

open Guarded (valueIn valueIn_eq)

section Values

variable {α : Type} [OfNat α 0] {columns : List UnknownId}

theorem valueIn_eq_zero (assignment : Vector α columns.length) {id : UnknownId}
    (absent : id ∉ columns) : valueIn columns assignment id = 0 := by
  have outside : columns.length ≤ columns.idxOf id := (List.idxOf_eq_length absent).ge
  rw [valueIn, Vector.getElem?_eq_none outside, Option.getD_none]

theorem valueIn_eq_reading {arena : Arena α} {assignment : Vector α columns.length}
    (holds : ∀ j, arena.value? (columns.get j) = some (assignment.get j)) {id : UnknownId}
    (member : id ∈ columns) : valueIn columns assignment id = arena.reading id := by
  have found := holds ⟨columns.idxOf id, List.idxOf_lt_length_iff.mpr member⟩
  rw [List.get_eq_getElem, List.getElem_idxOf] at found
  rw [valueIn_eq assignment member]
  exact (Arena.reading_eq found).symm

end Values

variable {α : Type} [Field α]

theorem along_map {ι κ : Type} (direction : κ → α) (column : ι → κ) (partials : List (ι × α)) :
    along direction (partials.map (Prod.map column id)) = along (direction ∘ column) partials := by
  rw [along, List.map_map]
  rfl

theorem valueIn_zipWith_add {columns : List UnknownId} (assignment step : Vector α columns.length) :
    valueIn columns (assignment.zipWith (· + ·) step) =
      valueIn columns assignment + valueIn columns step := by
  funext id
  rw [Pi.add_apply]
  by_cases member : id ∈ columns
  · rw [valueIn_eq _ member, valueIn_eq _ member, valueIn_eq _ member,
      ComponentSystem.get_zipWith_add]
    rfl
  · rw [valueIn_eq_zero _ member, valueIn_eq_zero _ member, valueIn_eq_zero _ member, add_zero]

namespace ComponentSystem

section Rows

variable {constraints : List (Constraint UnknownId α)}
  {assignment : Vector α (ofConstraints constraints).width}
  {v : Fin (ofConstraints constraints).width → α} {value direction : UnknownId → α}
  (agree : ∀ j, value ((ofConstraints constraints).columns.get j) = assignment.get j)
  (moves : ∀ j, direction ((ofConstraints constraints).columns.get j) = v j)

include agree moves

/-- The rows of a component say what its constraints say about the unknowns. -/
theorem map_rows {β : Type} (f : α → α → β) :
    constraints.map (fun c => f (along direction (c.gradient value)) (c.residual value)) =
      (List.finRange (ofConstraints constraints).height).map fun i =>
        f ((((ofConstraints constraints).jacobian assignment).toMatrix *ᵥ v) i)
          (((ofConstraints constraints).residual assignment).get i) := by
  have sameValue : value ∘ (ofConstraints constraints).columns.get = assignment.get := funext agree
  have sameStep : direction ∘ (ofConstraints constraints).columns.get = v := funext moves
  conv_lhs => rw [← equations_map_columns constraints, List.map_map]
  conv_lhs => rw [← List.map_get_finRange (ofConstraints constraints).equations, List.map_map]
  apply List.map_congr_left
  intro i _
  rw [jacobian_mulVec, get_residual, Function.comp_apply, Function.comp_apply,
    Constraint.gradient_map, Constraint.residual_map, along_map, sameValue, sameStep]

/-- A direction leaves nothing of the residual if it meets the constraints to first order. -/
theorem remainder_eq_zero_iff :
    remainder ((ofConstraints constraints).jacobian assignment).toMatrix
        ((ofConstraints constraints).residual assignment).get v = 0 ↔
      ∀ c ∈ constraints, along direction (c.gradient value) + c.residual value = 0 := by
  have rows := map_rows agree moves (· + ·)
  have all := List.forall_mem_map
    (l := constraints) (f := fun c => along direction (c.gradient value) + c.residual value)
    (P := (· = 0))
  rw [← all, rows, List.forall_mem_map, funext_iff]
  constructor
  · intro zero i _
    exact zero i
  · intro zero i
    exact zero i (List.mem_finRange i)

theorem jacobian_mulVec_self :
    (((ofConstraints constraints).jacobian assignment).toMatrix *ᵥ v) ⬝ᵥ
        (((ofConstraints constraints).jacobian assignment).toMatrix *ᵥ v) =
      (constraints.map fun c => along direction (c.gradient value) ^ 2).sum := by
  rw [map_rows agree moves fun change _ => change ^ 2, dotProduct, Fin.sum_univ_def]
  simp only [sq]

end Rows

variable [LinearOrder α] [IsStrictOrderedRing α] [Precision α]

structure StepsExactlyFrom (decompose : Decomposition α) (system : ComponentSystem α)
    (start : Vector α system.width) : Prop where
  shortest : ∀ i x step, system.iterate? decompose i start = some x →
    pseudoInverseStep? decompose (system.jacobian x) (system.residual x) = some step →
      IsShortestLeastSquares (system.jacobian x).toMatrix (system.residual x).get step.get

end ComponentSystem

section Solve

variable [LinearOrder α] [Precision α] {decompose : Decomposition α} {settings : Settings α}
  {constraints : List (Constraint UnknownId α)} {arena left : Arena α}

/-- After a solve, the unknowns of each block have the values that its search has found. -/
theorem exists_refine_of_solved {report : SolveReport α}
    (solved : solve decompose settings constraints arena = (.solved report, left)) {block : Block α}
    (listed : block ∈ blocks constraints) :
    ∃ (known : arena.Contains block.unknowns)
      (solution : Solution (ComponentSystem.ofConstraints block.constraints).width α),
      (ComponentSystem.ofConstraints block.constraints).refine decompose settings
          (arena.read block.unknowns known) = .ok solution ∧
        ∀ j, left.value? (block.unknowns.get j) = some (solution.assignment.get j) := by
  obtain ⟨complete, _, leaves⟩ := solve_eq_solved_iff.mp solved
  have walks := components_walksTo decompose settings constraints arena
  obtain ⟨found, member, solves⟩ := exists_related (walks.all_solved complete) listed
  obtain ⟨known, solution, refined, same⟩ := solveBlock_eq_ok_iff.mp solves
  subst same
  refine ⟨known, solution, refined, fun j => ?_⟩
  rw [← leaves]
  exact walks.value?_of_solved (separate_blocks constraints) member (nodup_mentioned _) known j

end Solve

end Drafting
