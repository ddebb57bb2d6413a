import Drafting.Proofs.Solving

/-!
# Solving a solved system

A solved system can be solved again: every component is found to be within the tolerance before a
step is taken, and its values are written back as they are.
-/

namespace Drafting

variable {α : Type}

def SolvedBlock.withoutSteps (solved : SolvedBlock α) : SolvedBlock α :=
  { solved with solution := { solved.solution with steps := 0 } }

def ComponentReport.withoutSteps (report : ComponentReport) : ComponentReport :=
  { report with steps := 0 }

def SolveReport.withoutSteps (report : SolveReport α) : SolveReport α :=
  { report with components := report.components.map ComponentReport.withoutSteps }

def SolvedBlock.HeldBy (solved : SolvedBlock α) (arena : Arena α) : Prop :=
  ∀ j, arena.value? (solved.system.columns.get j) = some (solved.solution.assignment.get j)

theorem SolvedBlock.HeldBy.writeTo_eq {solved : SolvedBlock α} {arena : Arena α}
    (held : solved.HeldBy arena) : solved.withoutSteps.writeTo arena = arena :=
  Arena.write_eq_self solved.solution.assignment held

variable [Precision α] [NatCast α] [Add α] [Sub α] [Mul α] [Div α] [Neg α]
  [OfNat α 0] [OfNat α 1] [OfNat α 2] [LT α] [DecidableLT α] [LE α] [DecidableLE α]
variable {decompose : Decomposition α} {settings : Settings α}

theorem solveBlock_of_held {block : Block α} {solved : SolvedBlock α} {arena left : Arena α}
    (solves : solveBlock decompose settings block arena = .ok solved) (held : solved.HeldBy left) :
    solveBlock decompose settings block left = .ok solved.withoutSteps := by
  obtain ⟨_, solution, found, same⟩ := solveBlock_eq_ok_iff.mp solves
  subst same
  have known : left.Contains block.unknowns := Arena.contains_of_holds held
  have read : left.read block.unknowns known = solution.assignment :=
    Arena.read_eq_of_holds held known
  have positive : 0 < settings.budget := Nat.zero_lt_of_lt (ComponentSystem.steps_lt_of_refine found)
  refine solveBlock_eq_ok_iff.mpr ⟨known, ⟨0, solution.assignment⟩, ?_, rfl⟩
  rw [read]
  exact ComponentSystem.refine_eq_of_error_le decompose positive
    (ComponentSystem.error_le_of_refine found)

theorem walk_of_held {blocks : List (Block α)} {solved : List (SolvedBlock α)} {arena : Arena α}
    (solves : List.Forall₂ (fun block solved =>
      solveBlock decompose settings block arena = .ok solved.withoutSteps ∧ solved.HeldBy arena)
      blocks solved) :
    walk decompose settings blocks arena = ⟨solved.map SolvedBlock.withoutSteps, none, arena⟩ := by
  induction solves with
  | nil => rfl
  | cons head _ ih =>
      obtain ⟨found, held⟩ := head
      rw [walk_cons_ok found, held.writeTo_eq, ih]
      rfl

/-- A second walk finds the values of the first one and leaves them. -/
theorem walk_again {blocks : List (Block α)} {arena : Arena α} (separate : Separate blocks)
    (complete : (walk decompose settings blocks arena).halt = none) :
    walk decompose settings blocks (walk decompose settings blocks arena).arena =
      ⟨(walk decompose settings blocks arena).solved.map SolvedBlock.withoutSteps, none,
        (walk decompose settings blocks arena).arena⟩ := by
  have walks : WalksTo decompose settings blocks arena _ := walk_walksTo separate arena
  have solves := walks.all_solved complete
  refine walk_of_held
    (List.forall₂_iff_get.mpr ⟨solves.length_eq, fun i inBlocks inSolved => ?_⟩)
  have found := solves.get inBlocks inSolved
  have held : (((walk decompose settings blocks arena).solved.get ⟨i, inSolved⟩)).HeldBy
      (walk decompose settings blocks arena).arena := by
    obtain ⟨known, solution, _, same⟩ := solveBlock_eq_ok_iff.mp found
    have value := walks.value?_of_solved separate (List.get_mem _ ⟨i, inSolved⟩)
    rw [same] at value ⊢
    exact value (nodup_mentioned _) known
  exact ⟨solveBlock_of_held found held, held⟩

variable {constraints : List (Constraint UnknownId α)} {arena left : Arena α} {report : SolveReport α}

/-- Once a system is solved, solving it again with or without an analysis takes no step and changes
nothing. An analysis finds the same freedom again. -/
theorem solving_again_changes_nothing
    (solved : solve decompose settings constraints arena = (.solved report, left) ∨
      ∃ freedom, solveWithFreedom decompose settings constraints arena =
        (.solved (report, freedom), left)) :
    solve decompose settings constraints left = (.solved report.withoutSteps, left) ∧
    ∃ freedom, solveWithFreedom decompose settings constraints left =
        (.solved (report.withoutSteps, freedom), left) ∧
      ∀ earlier, solveWithFreedom decompose settings constraints arena =
        (.solved (report, earlier), left) → freedom = earlier := by
  obtain ⟨complete, reports, leaves⟩ :
      (walk decompose settings (blocks constraints) arena).halt = none ∧
        (⟨(walk decompose settings (blocks constraints) arena).solved.map SolvedBlock.report,
          lint constraints⟩ : SolveReport α) = report ∧
        (walk decompose settings (blocks constraints) arena).arena = left := by
    rcases solved with ends | ⟨freedom, ends⟩
    · exact solve_eq_solved_iff.mp ends
    · obtain ⟨complete, reports, _, leaves⟩ := solveWithFreedom_eq_solved_iff.mp ends
      exact ⟨complete, reports, leaves⟩
  have again := walk_again (separate_blocks constraints) complete
  rw [leaves] at again
  have reportsAgain :
      (⟨(walk decompose settings (blocks constraints) left).solved.map SolvedBlock.report,
        lint constraints⟩ : SolveReport α) = report.withoutSteps := by
    rw [again, ← reports, List.map_map, SolveReport.withoutSteps, List.map_map]
    rfl
  have stopsAgain : (walk decompose settings (blocks constraints) left).halt = none := by rw [again]
  have leavesAgain : (walk decompose settings (blocks constraints) left).arena = left := by rw [again]
  refine ⟨solve_eq_solved_iff.mpr ⟨stopsAgain, reportsAgain, leavesAgain⟩, _,
    solveWithFreedom_eq_solved_iff.mpr ⟨stopsAgain, reportsAgain, rfl, leavesAgain⟩, ?_⟩
  intro earlier analysed
  obtain ⟨_, _, same, _⟩ := solveWithFreedom_eq_solved_iff.mp analysed
  rw [again, ← same, List.map_map]
  rfl

theorem two_fixed_unknowns_again :
    ∃ report, solve unitFactors ⟨100, 1e-10⟩ twoFixed (Arena.ofValues [1, 5]) =
        (.solved report, Arena.ofValues [3, 5]) ∧
      solve unitFactors ⟨100, 1e-10⟩ twoFixed (Arena.ofValues [3, 5]) =
        (.solved report.withoutSteps, Arena.ofValues [3, 5]) ∧
      ∃ freedom, solveWithFreedom unitFactors ⟨100, 1e-10⟩ twoFixed (Arena.ofValues [3, 5]) =
        (.solved (report.withoutSteps, freedom), Arena.ofValues [3, 5]) := by
  obtain ⟨report, solved⟩ := solve_twoFixed
  obtain ⟨again, freedom, analysed, _⟩ := solving_again_changes_nothing (Or.inl solved)
  exact ⟨report, solved, again, freedom, analysed⟩

end Drafting
