import Drafting.Proofs.Repetition

/-!
# Systems that are satisfied already

A search measures all residuals of a component at once, and it takes no step if the largest one is
within the tolerance. Nothing is moved exactly if each constraint on its own is satisfied.
-/

namespace Drafting

section Walk

variable {α : Type} [Precision α] [NatCast α] [Add α] [Sub α] [Mul α] [Div α] [Neg α]
  [OfNat α 0] [OfNat α 1] [OfNat α 2] [LT α] [DecidableLT α] [LE α] [DecidableLE α]

/-- The arena knows the unknowns of a block, and at its values the block is within the tolerance. -/
def Block.IsWithin (block : Block α) (arena : Arena α) (tolerance : α) : Prop :=
  ∃ known : arena.Contains block.unknowns,
    (ComponentSystem.ofConstraints block.constraints).error (arena.read block.unknowns known) ≤
      tolerance

omit [NatCast α] [Div α] [OfNat α 1] [OfNat α 2] in
theorem Block.isWithin_iff [LawfulPrecision α] {block : Block α} {arena : Arena α} {tolerance : α}
    (known : arena.Contains block.unknowns) :
    block.IsWithin arena tolerance ↔
      0 ≤ tolerance ∧ ∀ c ∈ block.constraints, c.PassesIn arena tolerance := by
  rw [← ComponentSystem.error_le_iff_passesIn (Arena.get_read arena block.unknowns known)]
  constructor
  · intro within
    exact within.2
  · intro small
    exact ⟨known, small⟩

variable {decompose : Decomposition α} {settings : Settings α} {block : Block α}
  {blocks : List (Block α)} {arena : Arena α} {solved : SolvedBlock α}

theorem solveBlock_unmoved_iff (decompose : Decomposition α) (block : Block α) (arena : Arena α)
    (positive : 0 < settings.budget) :
    (∃ solved, solveBlock decompose settings block arena = .ok solved ∧
      solved.solution.steps = 0) ↔ block.IsWithin arena settings.tolerance := by
  constructor
  · intro unmoved
    obtain ⟨solved, solves, noStep⟩ := unmoved
    obtain ⟨known, solution, found, same⟩ := solveBlock_eq_ok_iff.mp solves
    subst same
    have small := ComponentSystem.error_le_of_refine found
    rw [ComponentSystem.assignment_eq_of_refine found noStep] at small
    exact ⟨known, small⟩
  · intro within
    obtain ⟨known, small⟩ := within
    have found := ComponentSystem.refine_eq_of_error_le decompose positive small
    exact ⟨_, solveBlock_eq_ok_iff.mpr ⟨known, _, found, rfl⟩, rfl⟩

theorem writeTo_of_unmoved (solves : solveBlock decompose settings block arena = .ok solved)
    (noStep : solved.solution.steps = 0) : solved.writeTo arena = arena := by
  obtain ⟨known, solution, found, same⟩ := solveBlock_eq_ok_iff.mp solves
  subst same
  have start := ComponentSystem.assignment_eq_of_refine found noStep
  apply Arena.write_eq_self
  intro j
  rw [start]
  exact Arena.get_read arena block.unknowns known j

/-- A walk takes no step exactly if every block is within the tolerance at the start. -/
theorem walk_unmoved_iff (decompose : Decomposition α) (positive : 0 < settings.budget) :
    ((walk decompose settings blocks arena).halt = none ∧
      ∀ solved ∈ (walk decompose settings blocks arena).solved, solved.solution.steps = 0) ↔
    ∀ block ∈ blocks, block.IsWithin arena settings.tolerance := by
  induction blocks with
  | nil => simp [walk]
  | cons block rest ih =>
      have here := solveBlock_unmoved_iff decompose block arena positive
      cases result : solveBlock decompose settings block arena with
      | error halt =>
          rw [walk_cons_error result]
          simp only [result, reduceCtorEq, false_and, exists_false, false_iff] at here
          simp [here]
      | ok solved =>
          rw [walk_cons_ok result]
          simp only [result, Except.ok.injEq, exists_eq_left'] at here
          rw [List.forall_mem_cons, List.forall_mem_cons, ← here]
          by_cases noStep : solved.solution.steps = 0
          · rw [writeTo_of_unmoved result noStep, ← ih, and_left_comm]
          · simp [noStep]

theorem walk_arena_of_unmoved
    (unmoved : ∀ solved ∈ (walk decompose settings blocks arena).solved,
      solved.solution.steps = 0) :
    (walk decompose settings blocks arena).arena = arena := by
  induction blocks with
  | nil => rfl
  | cons block rest ih =>
      cases result : solveBlock decompose settings block arena with
      | error halt => rw [walk_cons_error result]
      | ok solved =>
          rw [walk_cons_ok result] at unmoved ⊢
          obtain ⟨here, later⟩ := List.forall_mem_cons.mp unmoved
          rw [writeTo_of_unmoved result here] at later ⊢
          exact ih later

/-- A system whose constraints all pass is solved where it is. -/
theorem solve_of_passesIn [LawfulPrecision α] (decompose : Decomposition α) (settings : Settings α)
    {constraints : List (Constraint UnknownId α)} (positive : 0 < settings.budget)
    (tolerant : 0 ≤ settings.tolerance)
    (passes : ∀ c ∈ constraints, c.PassesIn arena settings.tolerance) :
    ∃ report, solve decompose settings constraints arena = (.solved report, arena) := by
  have known : ∀ c ∈ constraints, arena.Contains c.unknowns := by
    intro c member
    obtain ⟨r, measured, _⟩ := passes c member
    rw [Constraint.residualIn?_eq] at measured
    exact (Option.ite_none_right_eq_some.mp measured).1
  have within : ∀ block ∈ blocks constraints, block.IsWithin arena settings.tolerance := by
    intro block listed
    rw [Block.isWithin_iff (contains_of_mem_blocks constraints known listed)]
    exact ⟨tolerant, fun c inBlock => passes c (mem_of_mem_block constraints listed inBlock)⟩
  obtain ⟨complete, unmoved⟩ := (walk_unmoved_iff decompose positive).mpr within
  exact solve_solved_iff.mpr ⟨complete, walk_arena_of_unmoved unmoved⟩

end Walk

theorem Constraint.passesIn_iff_satisfiedIn? {c : Constraint UnknownId Float} {arena : Arena Float}
    {tolerance : Float} (finite : tolerance ≠ Precision.infinity) :
    c.PassesIn arena tolerance ↔ c.satisfiedIn? arena tolerance = some true := by
  constructor
  · intro passes
    exact satisfiedIn?_of_holdsIn (holdsIn_of_passesIn passes) finite
  · intro satisfied
    obtain ⟨r, measured, small⟩ := Option.map_eq_some_iff.mp satisfied
    exact ⟨r, measured, Or.inl (of_decide_eq_true small)⟩

/-- What is satisfied has a magnitude within the tolerance, so the tolerance is not negative. -/
theorem Constraint.zero_le_of_satisfiedIn? {c : Constraint UnknownId Float} {arena : Arena Float}
    {tolerance : Float} (satisfied : c.satisfiedIn? arena tolerance = some true) :
    0 ≤ tolerance := by
  obtain ⟨r, _, decided⟩ := Option.map_eq_some_iff.mp satisfied
  have small : magnitude r ≤ tolerance := of_decide_eq_true decided
  exact LawfulComparison.le_trans (float_zero_le_magnitude (self_le_of_magnitude_le small)) small

variable {constraints : List (Constraint UnknownId Float)} {arena : Arena Float}

theorem blocks_within_iff (known : ∀ c ∈ constraints, arena.Contains c.unknowns) {tolerance : Float}
    (finite : tolerance ≠ Precision.infinity) :
    (∀ block ∈ blocks constraints, block.IsWithin arena tolerance) ↔
      ∀ c ∈ constraints, c.satisfiedIn? arena tolerance = some true := by
  constructor
  · intro within c member
    obtain ⟨block, listed, inBlock⟩ := exists_block_of_mem constraints member
    have blockKnown := contains_of_mem_blocks constraints known listed
    obtain ⟨_, passes⟩ := (Block.isWithin_iff blockKnown).mp (within block listed)
    exact (Constraint.passesIn_iff_satisfiedIn? finite).mp (passes c inBlock)
  · intro satisfied block listed
    have blockKnown := contains_of_mem_blocks constraints known listed
    have inSystem {c : Constraint UnknownId Float} (inBlock : c ∈ block.constraints) :=
      satisfied c (mem_of_mem_block constraints listed inBlock)
    obtain ⟨first, inBlock⟩ := exists_mem_of_block constraints listed
    apply (Block.isWithin_iff blockKnown).mpr
    constructor
    · exact Constraint.zero_le_of_satisfiedIn? (inSystem inBlock)
    · intro c alsoInBlock
      exact (Constraint.passesIn_iff_satisfiedIn? finite).mpr (inSystem alsoInBlock)

/-- A system is solved without a step exactly if all its constraints are satisfied at the start, and
then the arena stays as it is. -/
theorem satisfied_iff_solved_without_steps (decompose : Decomposition Float)
    (settings : Settings Float) (known : ∀ c ∈ constraints, arena.Contains c.unknowns)
    (positive : 1 ≤ settings.budget) (finite : settings.tolerance ≠ Precision.infinity) :
    ((∀ c ∈ constraints, c.satisfiedIn? arena settings.tolerance = some true) ↔
      ∃ report left, solve decompose settings constraints arena = (.solved report, left) ∧
        ∀ component ∈ report.components, component.steps = 0) ∧
    ∀ report left, solve decompose settings constraints arena = (.solved report, left) →
      (∀ component ∈ report.components, component.steps = 0) → left = arena := by
  have unmoved := (walk_unmoved_iff decompose positive).trans (blocks_within_iff known finite)
  constructor
  · rw [← unmoved]
    constructor
    · intro ends
      obtain ⟨complete, noStep⟩ := ends
      exact ⟨_, _, solve_eq_solved_iff.mpr ⟨complete, rfl, rfl⟩, List.forall_mem_map.mpr noStep⟩
    · intro ends
      obtain ⟨report, left, solved, noStep⟩ := ends
      obtain ⟨complete, reports, _⟩ := solve_eq_solved_iff.mp solved
      rw [← reports] at noStep
      exact ⟨complete, List.forall_mem_map.mp noStep⟩
  · intro report left solved noStep
    obtain ⟨_, reports, leaves⟩ := solve_eq_solved_iff.mp solved
    rw [← reports] at noStep
    rw [← leaves]
    exact walk_arena_of_unmoved (List.forall_mem_map.mp noStep)

/-- An unknown that is infinite is not even equal to itself. -/
theorem satisfied_and_unsatisfied_start :
    (∃ report, solve unitFactors ⟨1, 1e-10⟩ twoFixed (Arena.ofValues [3, 5]) =
        (.solved report, Arena.ofValues [3, 5]) ∧
      ∀ component ∈ report.components, component.steps = 0) ∧
    ¬∃ report left, solve unitFactors ⟨1, 1e-10⟩ [.equal 0 0] (Arena.ofValues [1 / 0]) =
        (.solved report, left) ∧
      ∀ component ∈ report.components, component.steps = 0 := by
  have finite : (1e-10 : Float) ≠ Precision.infinity := by decide +kernel
  constructor
  · have known : ∀ c ∈ twoFixed, (Arena.ofValues [3, (5 : Float)]).Contains c.unknowns := by decide
    have satisfied : ∀ c ∈ twoFixed,
        c.satisfiedIn? (Arena.ofValues [3, 5]) 1e-10 = some true := by
      decide +kernel
    obtain ⟨unmoved, kept⟩ := satisfied_iff_solved_without_steps unitFactors ⟨1, 1e-10⟩ known
      Nat.one_pos finite
    obtain ⟨report, left, solved, noStep⟩ := unmoved.mp satisfied
    have same := kept report left solved noStep
    subst same
    exact ⟨report, solved, noStep⟩
  · have known : ∀ c ∈ ([.equal 0 0] : List (Constraint UnknownId Float)),
        (Arena.ofValues [(1 / 0 : Float)]).Contains c.unknowns := by decide
    have unsatisfied : ¬∀ c ∈ ([.equal 0 0] : List (Constraint UnknownId Float)),
        c.satisfiedIn? (Arena.ofValues [1 / 0]) 1e-10 = some true := by
      decide +kernel
    obtain ⟨unmoved, _⟩ := satisfied_iff_solved_without_steps unitFactors ⟨1, 1e-10⟩ known
      Nat.one_pos finite
    exact fun noStep => unsatisfied (unmoved.mpr noStep)

end Drafting
