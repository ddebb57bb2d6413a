import Drafting.Proofs.Comparison.Binary64
import Drafting.Proofs.Walk

/-!
# What a solved system and a failed one leave behind

After success every constraint holds within the tolerance in the arena that is left. After a failure
those of the components before the failed one do, and everything else is as it was before.
-/

namespace Drafting

/-- The residual is within the tolerance, or it is NaN and the tolerance infinite. -/
def Constraint.HoldsIn (c : Constraint UnknownId Float) (arena : Arena Float) (tolerance : Float) :
    Prop :=
  ∃ r, c.residualIn? arena = some r ∧
    (magnitude r ≤ tolerance ∨ r.isNaN = true ∧ tolerance = Precision.infinity)

theorem Constraint.holdsIn_of_passesIn {c : Constraint UnknownId Float} {arena : Arena Float}
    {tolerance : Float} (passes : c.PassesIn arena tolerance) : c.HoldsIn arena tolerance := by
  obtain ⟨r, measured, small | ⟨notNumber, large⟩⟩ := passes
  · exact ⟨r, measured, Or.inl small⟩
  · refine ⟨r, measured, Or.inr ⟨?_, eq_infinity_of_infinity_le large⟩⟩
    rw [float_self_le_iff] at notNumber
    exact eq_true_of_ne_false notNumber

theorem Constraint.satisfiedIn?_of_holdsIn {c : Constraint UnknownId Float} {arena : Arena Float}
    {tolerance : Float} (holds : c.HoldsIn arena tolerance)
    (finite : tolerance ≠ Precision.infinity) : c.satisfiedIn? arena tolerance = some true := by
  obtain ⟨r, measured, small | ⟨_, infinite⟩⟩ := holds
  · rw [satisfiedIn?, measured, Option.map_some, decide_eq_true small]
  · exact absurd infinite finite

/-- Factors of every matrix as if it were a unit matrix, which it is if its only entry is 1. -/
def unitFactors {α : Type} [OfNat α 0] [OfNat α 1] : Decomposition α := fun m n _ =>
  some
    { left := DenseMatrix.ofFn fun i k => if i = k then 1 else 0
      values := Vector.replicate (min m n) 1
      right := DenseMatrix.ofFn fun j k => if j = k then 1 else 0 }

abbrev twoFixed : List (Constraint UnknownId Float) := [.fixed 0 3, .fixed 1 5]

theorem components_twoFixed :
    components twoFixed = [[⟨0, by decide⟩], [⟨1, by decide⟩]] := by
  rw [components_eq]
  cbv

theorem blocks_twoFixed :
    blocks twoFixed = [[(0, .fixed 0 3)], [(1, .fixed 1 5)]] := by
  rw [blocks, components_twoFixed]
  rfl

theorem solve_twoFixed :
    ∃ report, solve unitFactors ⟨100, 1e-10⟩ twoFixed (Arena.ofValues [1, 5]) =
      (.solved report, Arena.ofValues [3, 5]) := by
  rw [solve_solved_iff, blocks_twoFixed, ← Option.isNone_iff_eq_none]
  constructor
  · decide +kernel
  · decide +kernel

variable {decompose : Decomposition Float} {settings : Settings Float}
  {constraints : List (Constraint UnknownId Float)} {arena left : Arena Float}

private theorem holdsIn_of_halt_none
    (complete : (walk decompose settings (blocks constraints) arena).halt = none)
    {c : Constraint UnknownId Float} (member : c ∈ constraints) :
    c.HoldsIn (walk decompose settings (blocks constraints) arena).arena settings.tolerance :=
  Constraint.holdsIn_of_passesIn (passesIn_of_halt_none complete member)

/-- If a system is reported as solved, every constraint holds in the arena that is left. -/
theorem solved_constraints_hold
    (solved : (∃ report, solve decompose settings constraints arena = (.solved report, left)) ∨
      ∃ report, solveWithFreedom decompose settings constraints arena = (.solved report, left)) :
    (∀ c ∈ constraints, c.HoldsIn left settings.tolerance) ∧
      (settings.tolerance ≠ Precision.infinity →
        ∀ c ∈ constraints, c.satisfiedIn? left settings.tolerance = some true) := by
  obtain ⟨complete, leaves⟩ : (walk decompose settings (blocks constraints) arena).halt = none ∧
      (walk decompose settings (blocks constraints) arena).arena = left := by
    rcases solved with ends | ends
    · exact solve_solved_iff.mp ends
    · exact solveWithFreedom_solved_iff.mp ends
  have holds : ∀ c ∈ constraints, c.HoldsIn left settings.tolerance := by
    intro c member
    rw [← leaves]
    exact holdsIn_of_halt_none complete member
  refine ⟨holds, ?_⟩
  intro finite c member
  exact Constraint.satisfiedIn?_of_holdsIn (holds c member) finite

theorem two_fixed_unknowns_hold :
    (∃ report, solve unitFactors ⟨100, 1e-10⟩ twoFixed (Arena.ofValues [1, 5]) =
      (.solved report, Arena.ofValues [3, 5])) ∧
    (1e-10 : Float) ≠ Precision.infinity ∧
    (∀ c ∈ twoFixed, c.HoldsIn (Arena.ofValues [3, 5]) 1e-10) ∧
    ∀ c ∈ twoFixed, c.satisfiedIn? (Arena.ofValues [3, 5]) 1e-10 = some true := by
  have solves : ∃ report, solve unitFactors ⟨100, 1e-10⟩ twoFixed (Arena.ofValues [1, 5]) =
      (.solved report, Arena.ofValues [3, 5]) := by
    rw [solve_solved_iff, blocks_twoFixed, ← Option.isNone_iff_eq_none]
    constructor
    · decide +kernel
    · decide +kernel
  have finite : (1e-10 : Float) ≠ Precision.infinity := by decide +kernel
  obtain ⟨holds, satisfied⟩ := solved_constraints_hold (Or.inl solves)
  exact ⟨solves, finite, holds, satisfied finite⟩

/-- A failure leaves everything as it was but the components before the failed one, which are solved. -/
theorem failed_component_is_untouched {failure : SolveFailure Float}
    (failed : solve decompose settings constraints arena = (.failed failure, left) ∨
      solveWithFreedom decompose settings constraints arena = (.failed failure, left)) :
    failure.failedComponent < (components constraints).length ∧
    ((components constraints).map fun part => part.map Fin.val)[failure.failedComponent]? =
      some failure.failedPositions ∧
    failure.solved.length = failure.failedComponent ∧
    failure.solved.map ComponentReport.positions =
      ((components constraints).take failure.failedComponent).map (fun part => part.map Fin.val) ∧
    (∀ id, (∀ part ∈ (components constraints).take failure.failedComponent, ∀ i ∈ part,
      id ∉ (constraints.get i).unknowns) → left.value? id = arena.value? id) ∧
    (∀ part ∈ (components constraints).take failure.failedComponent, ∀ i ∈ part,
      (constraints.get i).HoldsIn left settings.tolerance) ∧
    failure.warnings = lint constraints ∧ left.names = arena.names ∧ left.size = arena.size := by
  have walks : WalksTo decompose settings (blocks constraints) arena
      (walk decompose settings (blocks constraints) arena) :=
    walk_walksTo (separate_blocks constraints) arena
  obtain ⟨ends, leaves⟩ :
      (walk decompose settings (blocks constraints) arena).result (lint constraints) id =
          .failed failure ∧
        (walk decompose settings (blocks constraints) arena).arena = left := by
    rcases failed with ends | ends
    · exact solve_failed_iff.mp ends
    · exact solveWithFreedom_failed_iff.mp ends
  obtain ⟨halts, index, reports, warnings⟩ := Walk.result_eq_failed_iff.mp ends
  generalize walk decompose settings (blocks constraints) arena = walked at *
  have stop := walks.ends
  rw [halts] at stop
  obtain ⟨block, atStop, blockFails⟩ := stop
  have inRange : failure.failedComponent < (components constraints).length := by
    rw [index, ← length_blocks constraints]
    exact (List.getElem?_eq_some_iff.mp atStop).1
  have taken : (blocks constraints).take walked.solved.length =
      ((components constraints).take failure.failedComponent).map (blockOf constraints) := by
    rw [blocks_eq_map, List.map_take, index]
  refine ⟨inRange, ?_, ?_, ?_, ?_, ?_, warnings, ?_, ?_⟩
  · rw [← positions_blocks, List.getElem?_map, index, atStop,
      positions_of_solveBlock_failed blockFails, Option.map_some]
  · rw [reports, List.length_map, index]
  · rw [List.map_take, ← positions_blocks, ← List.map_take, index, walks.positions_solved, reports,
      List.map_map]
    rfl
  · intro id unmentioned
    rw [← leaves]
    apply walks.value?_of_unsolved
    rw [taken]
    intro other member mentions
    obtain ⟨part, partMember, same⟩ := List.mem_map.mp member
    subst same
    obtain ⟨i, inPart, inUnknowns⟩ := (mem_unknowns_blockOf constraints).mp mentions
    exact unmentioned part partMember i inPart inUnknowns
  · intro part member i inPart
    rw [← leaves]
    apply Constraint.holdsIn_of_passesIn
    have inBlock : constraints.get i ∈ (blockOf constraints part).constraints := by
      rw [constraints_blockOf]
      exact List.mem_map_of_mem inPart
    refine walks.passesIn_of_solved (separate_blocks constraints) ?_ inBlock
    rw [taken]
    exact List.mem_map_of_mem member
  · rw [← leaves, walks.leaves, names_writeAll]
  · rw [← leaves, walks.leaves, size_writeAll]

/-- Two rounds are too few for the second unknown, as its first step is rounded. -/
theorem second_fixed_unknown_fails :
    ∃ failure, solve unitFactors ⟨2, 1e-10⟩ twoFixed (Arena.ofValues [1, 1e17]) =
        (.failed failure, Arena.ofValues [3, 1e17]) ∧
      failure.failedComponent = 1 ∧ failure.failedPositions = [1] ∧
      (Constraint.fixed 0 3).HoldsIn (Arena.ofValues [3, 1e17]) 1e-10 ∧
      (Arena.ofValues [3, 1e17]).value? 1 = (Arena.ofValues [1, (1e17 : Float)]).value? 1 := by
  have stops : (walk unitFactors ⟨2, 1e-10⟩ (blocks twoFixed)
      (Arena.ofValues [1, 1e17])).halt.isSome = true := by
    rw [blocks_twoFixed]
    decide +kernel
  have known : ∀ block ∈ blocks twoFixed,
      (Arena.ofValues [1, (1e17 : Float)]).Contains block.unknowns := by
    rw [blocks_twoFixed]
    decide
  have leaves : (walk unitFactors ⟨2, 1e-10⟩ (blocks twoFixed)
      (Arena.ofValues [1, 1e17])).arena = Arena.ofValues [3, 1e17] := by
    rw [blocks_twoFixed]
    decide +kernel
  have second : (walk unitFactors ⟨2, 1e-10⟩ (blocks twoFixed)
      (Arena.ofValues [1, 1e17])).solved.length = 1 := by
    rw [blocks_twoFixed]
    decide +kernel
  cases ends : (walk unitFactors ⟨2, 1e-10⟩ (blocks twoFixed) (Arena.ofValues [1, 1e17])).result
      (lint twoFixed) id with
  | solved _ =>
      rw [(Walk.result_eq_solved_iff.mp ends).1] at stops
      cases stops
  | outsideArena =>
      obtain ⟨_, block, listed, unknown, _⟩ :=
        exists_unknown_of_halt (Walk.result_eq_outsideArena_iff.mp ends)
      exact absurd (known block (List.mem_of_getElem? listed)) unknown
  | failed failure =>
      have fails := solve_failed_iff.mpr ⟨ends, leaves⟩
      have index := (Walk.result_eq_failed_iff.mp ends).2.1.trans second
      obtain ⟨_, listed, _, _, kept, solved, _⟩ := failed_component_is_untouched (Or.inl fails)
      rw [components_twoFixed, index] at listed kept solved
      refine ⟨failure, fails, index, ?_, ?_, ?_⟩
      · exact (Option.some.inj listed).symm
      · exact solved _ List.mem_cons_self _ List.mem_cons_self
      · apply kept
        decide

end Drafting
