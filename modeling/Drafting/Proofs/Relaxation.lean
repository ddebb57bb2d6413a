import Drafting.Proofs.Repetition

/-!
# Relaxed settings

A larger budget and a looser tolerance stop at an assignment that comes no later. With the same
tolerance a larger budget changes nothing for a search that was not ended by its budget.
-/

namespace Drafting

variable {α : Type} [Precision α] [NatCast α] [Add α] [Sub α] [Mul α] [Div α] [Neg α]
  [OfNat α 0] [OfNat α 1] [OfNat α 2] [LT α] [DecidableLT α] [LE α] [DecidableLE α]
variable {decompose : Decomposition α} {settings relaxed : Settings α}

/-- The budget is no smaller, and what is within the tolerance stays so. -/
structure Settings.RelaxedBy (settings relaxed : Settings α) : Prop where
  longer : settings.budget ≤ relaxed.budget
  looser : ∀ size, size ≤ settings.tolerance → size ≤ relaxed.tolerance

structure Settings.ProlongedBy (settings relaxed : Settings α) : Prop
    extends settings.RelaxedBy relaxed where
  tighter : ∀ size, size ≤ relaxed.tolerance → size ≤ settings.tolerance

namespace ComponentSystem

variable {system : ComponentSystem α} {tolerance tolerance' : α} {i : Nat}
  {start x : Vector α system.width}

theorem AcceptsAt.relax (looser : ∀ size, size ≤ tolerance → size ≤ tolerance')
    (accepts : system.AcceptsAt decompose tolerance i start x) :
    ∃ i' x', i' ≤ i ∧ system.AcceptsAt decompose tolerance' i' start x' := by
  induction i generalizing start with
  | zero =>
      obtain ⟨same, small⟩ := acceptsAt_zero_iff.mp accepts
      exact ⟨0, x, Nat.le_refl 0, acceptsAt_zero_iff.mpr ⟨same, looser _ small⟩⟩
  | succ i ih =>
      obtain ⟨_, y, next, later⟩ := acceptsAt_succ_iff.mp accepts
      by_cases small : system.error start ≤ tolerance'
      · exact ⟨0, start, Nat.zero_le _, acceptsAt_zero_iff.mpr ⟨rfl, small⟩⟩
      · obtain ⟨i', x', noLater, accepts'⟩ := ih later
        exact ⟨i' + 1, x', Nat.succ_le_succ noLater,
          acceptsAt_succ_iff.mpr ⟨small, y, next, accepts'⟩⟩

theorem RejectsFirst.tighten (tighter : ∀ size, size ≤ tolerance' → size ≤ tolerance)
    (rejects : system.RejectsFirst decompose tolerance i start) :
    system.RejectsFirst decompose tolerance' i start := by
  intro j early y reached small
  exact rejects j early y reached (tighter _ small)

variable {solution : Solution system.width α}

theorem refine_relaxed (relaxes : settings.RelaxedBy relaxed)
    (found : system.refine decompose settings start = .ok solution) :
    ∃ solution', system.refine decompose relaxed start = .ok solution' ∧
      solution'.steps ≤ solution.steps := by
  obtain ⟨inBudget, accepts⟩ := refine_eq_ok_iff.mp found
  obtain ⟨i, x, noLater, accepts'⟩ := accepts.relax relaxes.looser
  have inRelaxed : i < relaxed.budget :=
    Nat.lt_of_le_of_lt noLater (Nat.lt_of_lt_of_le inBudget relaxes.longer)
  exact ⟨⟨i, x⟩, refine_eq_ok_iff.mpr ⟨inRelaxed, accepts'⟩, noLater⟩

theorem refine_prolonged_of_ok (prolongs : settings.ProlongedBy relaxed)
    (found : system.refine decompose settings start = .ok solution) :
    system.refine decompose relaxed start = .ok solution := by
  obtain ⟨inBudget, accepts⟩ := refine_eq_ok_iff.mp found
  apply refine_eq_ok_iff.mpr
  exact ⟨Nat.lt_of_lt_of_le inBudget prolongs.longer, accepts.reached,
    prolongs.looser _ accepts.small, accepts.first.tighten prolongs.tighter⟩

theorem refine_prolonged_of_notDecomposed (prolongs : settings.ProlongedBy relaxed)
    (breaks : system.refine decompose settings start = .error .notDecomposed) :
    system.refine decompose relaxed start = .error .notDecomposed := by
  obtain ⟨i, inBudget, breaksAt⟩ := refine_eq_notDecomposed_iff.mp breaks
  apply refine_eq_notDecomposed_iff.mpr
  exact ⟨i, Nat.lt_of_lt_of_le inBudget prolongs.longer, breaksAt.stuck,
    breaksAt.first.tighten prolongs.tighter⟩

end ComponentSystem

section Walk

variable {block : Block α} {blocks : List (Block α)} {arena : Arena α} {solved : SolvedBlock α}

theorem solveBlock_relaxed (relaxes : settings.RelaxedBy relaxed)
    (solves : solveBlock decompose settings block arena = .ok solved) :
    ∃ solved', solveBlock decompose relaxed block arena = .ok solved' ∧
      solved'.report.withoutSteps = solved.report.withoutSteps ∧
      solved'.report.steps ≤ solved.report.steps := by
  obtain ⟨known, solution, found, same⟩ := solveBlock_eq_ok_iff.mp solves
  subst same
  obtain ⟨solution', found', noLater⟩ := ComponentSystem.refine_relaxed relaxes found
  exact ⟨_, solveBlock_eq_ok_iff.mpr ⟨known, solution', found', rfl⟩, rfl, noLater⟩

theorem solveBlock_prolonged_of_ok (prolongs : settings.ProlongedBy relaxed)
    (solves : solveBlock decompose settings block arena = .ok solved) :
    solveBlock decompose relaxed block arena = .ok solved := by
  obtain ⟨known, solution, found, same⟩ := solveBlock_eq_ok_iff.mp solves
  exact solveBlock_eq_ok_iff.mpr
    ⟨known, solution, ComponentSystem.refine_prolonged_of_ok prolongs found, same⟩

theorem solveBlock_prolonged_of_notDecomposed (prolongs : settings.ProlongedBy relaxed)
    {positions : List Nat}
    (breaks : solveBlock decompose settings block arena =
      .error (.failed positions .notDecomposed)) :
    solveBlock decompose relaxed block arena = .error (.failed positions .notDecomposed) := by
  obtain ⟨same, known, fails⟩ := solveBlock_eq_failed_iff.mp breaks
  exact solveBlock_eq_failed_iff.mpr
    ⟨same, known, ComponentSystem.refine_prolonged_of_notDecomposed prolongs fails⟩

/-- A walk that its budget does not end goes on in the same way with a larger one. -/
theorem walk_prolonged (prolongs : settings.ProlongedBy relaxed)
    (ends : ∀ halt ∈ (walk decompose settings blocks arena).halt,
      ∃ positions, halt = .failed positions .notDecomposed) :
    walk decompose relaxed blocks arena = walk decompose settings blocks arena := by
  induction blocks generalizing arena with
  | nil => rfl
  | cons block rest ih =>
      cases result : solveBlock decompose settings block arena with
      | error halt =>
          rw [walk_cons_error result] at ends ⊢
          obtain ⟨positions, same⟩ := ends halt rfl
          subst same
          rw [walk_cons_error (solveBlock_prolonged_of_notDecomposed prolongs result)]
      | ok solved =>
          rw [walk_cons_ok result] at ends ⊢
          rw [walk_cons_ok (solveBlock_prolonged_of_ok prolongs result), ih ends]

/-- With relaxed settings a completed walk is completed again, and no block takes more steps. -/
theorem walk_relaxed (relaxes : settings.RelaxedBy relaxed) (separate : Separate blocks)
    (complete : (walk decompose settings blocks arena).halt = none) :
    (walk decompose relaxed blocks arena).halt = none ∧
      List.Forall₂ (fun after before => after.report.withoutSteps = before.report.withoutSteps ∧
          after.report.steps ≤ before.report.steps)
        (walk decompose relaxed blocks arena).solved
        (walk decompose settings blocks arena).solved := by
  have walks : WalksTo decompose settings blocks arena _ := walk_walksTo separate arena
  have walks' : WalksTo decompose relaxed blocks arena _ := walk_walksTo separate arena
  have complete' : (walk decompose relaxed blocks arena).halt = none := by
    apply walks'.halt_eq_none_iff.mpr
    intro block member
    obtain ⟨solved, solves⟩ := walks.halt_eq_none_iff.mp complete block member
    obtain ⟨solved', solves', _⟩ := solveBlock_relaxed relaxes solves
    exact ⟨solved', solves'⟩
  refine ⟨complete', forall₂_of_common (walks'.all_solved complete') (walks.all_solved complete) ?_⟩
  intro block after before solves' solves
  obtain ⟨solved', alsoSolves', noLater⟩ := solveBlock_relaxed relaxes solves
  cases solves'.symm.trans alsoSolves'
  exact noLater

end Walk

section Solve

variable {constraints : List (Constraint UnknownId α)} {arena left : Arena α}

theorem solve_prolonged_of_solved (prolongs : settings.ProlongedBy relaxed)
    {report : SolveReport α}
    (solved : solve decompose settings constraints arena = (.solved report, left)) :
    solve decompose relaxed constraints arena = (.solved report, left) := by
  obtain ⟨complete, _, _⟩ := solve_eq_solved_iff.mp solved
  have same : walk decompose relaxed (blocks constraints) arena =
      walk decompose settings (blocks constraints) arena := by
    apply walk_prolonged prolongs
    rw [complete]
    intro halt member
    cases member
  rw [← solved, solve, solve, same]

theorem solve_prolonged_of_notDecomposed (prolongs : settings.ProlongedBy relaxed)
    {failure : SolveFailure α}
    (failed : solve decompose settings constraints arena = (.failed failure, left))
    (breaks : failure.error = .notDecomposed) :
    solve decompose relaxed constraints arena = (.failed failure, left) := by
  obtain ⟨ends, _⟩ := solve_failed_iff.mp failed
  obtain ⟨halts, _⟩ := Walk.result_eq_failed_iff.mp ends
  have same : walk decompose relaxed (blocks constraints) arena =
      walk decompose settings (blocks constraints) arena := by
    apply walk_prolonged prolongs
    rw [halts, breaks]
    intro halt member
    exact ⟨failure.failedPositions, (Option.mem_some.mp member).symm⟩
  rw [← failed, solve, solve, same]

end Solve

/-- If a system is solved, it is solved with a larger budget and a looser tolerance too, in no more
steps for any component. With the same tolerance the result is the same, and a larger budget does not
help where a matrix cannot be decomposed. -/
theorem relaxed_settings_solve_too [LawfulComparison α] (decompose : Decomposition α)
    {settings relaxed : Settings α} (longer : settings.budget ≤ relaxed.budget)
    (constraints : List (Constraint UnknownId α)) (arena : Arena α) :
    (settings.tolerance ≤ relaxed.tolerance →
      ∀ report left, solve decompose settings constraints arena = (.solved report, left) →
        ∃ report' left', solve decompose relaxed constraints arena = (.solved report', left') ∧
          report'.warnings = report.warnings ∧
          List.Forall₂ (fun after before => after.withoutSteps = before.withoutSteps ∧
            after.steps ≤ before.steps) report'.components report.components ∧
          (relaxed.tolerance ≤ settings.tolerance → report' = report ∧ left' = left)) ∧
    (relaxed.tolerance = settings.tolerance →
      (∀ report left, solve decompose settings constraints arena = (.solved report, left) →
        solve decompose relaxed constraints arena = (.solved report, left)) ∧
      ∀ failure left, solve decompose settings constraints arena = (.failed failure, left) →
        failure.error = .notDecomposed →
        solve decompose relaxed constraints arena = (.failed failure, left)) := by
  constructor
  · intro looser report left solved
    have relaxes : settings.RelaxedBy relaxed :=
      ⟨longer, fun size within => LawfulComparison.le_trans within looser⟩
    obtain ⟨complete, reports, _⟩ := solve_eq_solved_iff.mp solved
    obtain ⟨complete', noLater⟩ := walk_relaxed relaxes (separate_blocks constraints) complete
    have solved' := solve_eq_solved_iff.mpr ⟨complete', rfl, rfl⟩
    refine ⟨_, _, solved', ?_, ?_, ?_⟩
    · rw [← reports]
    · rw [← reports]
      exact List.forall₂_map_left_iff.mpr (List.forall₂_map_right_iff.mpr noLater)
    · intro tighter
      have prolongs : settings.ProlongedBy relaxed :=
        ⟨relaxes, fun size within => LawfulComparison.le_trans within tighter⟩
      have same := solved'.symm.trans (solve_prolonged_of_solved prolongs solved)
      exact ⟨SolveResult.solved.inj (Prod.mk.inj same).1, (Prod.mk.inj same).2⟩
  · intro sameTolerance
    have prolongs : settings.ProlongedBy relaxed := by
      refine ⟨⟨longer, ?_⟩, ?_⟩
      · rw [sameTolerance]
        exact fun size within => within
      · rw [sameTolerance]
        exact fun size within => within
    constructor
    · intro report left solved
      exact solve_prolonged_of_solved prolongs solved
    · intro failure left failed breaks
      exact solve_prolonged_of_notDecomposed prolongs failed breaks

def noFactors : Decomposition α := fun _ _ _ => none

theorem two_fixed_unknowns_relaxed :
    (∃ report report' left',
      solve unitFactors ⟨100, 1e-10⟩ twoFixed (Arena.ofValues [1, 5]) =
        (.solved report, Arena.ofValues [3, 5]) ∧
      solve unitFactors ⟨200, 2⟩ twoFixed (Arena.ofValues [1, 5]) = (.solved report', left') ∧
      List.Forall₂ (fun after before => after.withoutSteps = before.withoutSteps ∧
        after.steps ≤ before.steps) report'.components report.components) ∧
    ∃ failure, failure.failedComponent = 1 ∧ failure.error = .notDecomposed ∧
      solve noFactors ⟨1, 1e-10⟩ twoFixed (Arena.ofValues [3, 1]) =
        (.failed failure, Arena.ofValues [3, 1]) ∧
      solve noFactors ⟨100, 1e-10⟩ twoFixed (Arena.ofValues [3, 1]) =
        (.failed failure, Arena.ofValues [3, 1]) := by
  constructor
  · obtain ⟨report, solved⟩ := solve_twoFixed
    have longer : (⟨100, 1e-10⟩ : Settings Float).budget ≤ (⟨200, 2⟩ : Settings Float).budget := by
      decide
    have looser : (1e-10 : Float) ≤ 2 := by decide +kernel
    obtain ⟨relaxes, _⟩ :=
      relaxed_settings_solve_too unitFactors longer twoFixed (Arena.ofValues [1, 5])
    obtain ⟨report', left', solved', _, noLater, _⟩ := relaxes looser report _ solved
    exact ⟨report, report', left', solved, solved', noLater⟩
  · have longer : (⟨1, 1e-10⟩ : Settings Float).budget ≤ (⟨100, 1e-10⟩ : Settings Float).budget := by
      decide
    have halts : (walk noFactors ⟨1, 1e-10⟩ (blocks twoFixed) (Arena.ofValues [3, 1])).halt =
        some (.failed [1] .notDecomposed) := by
      rw [blocks_twoFixed]
      rfl
    have leaves : (walk noFactors ⟨1, 1e-10⟩ (blocks twoFixed) (Arena.ofValues [3, 1])).arena =
        Arena.ofValues [3, 1] := by
      rw [blocks_twoFixed]
      rfl
    have first : (walk noFactors ⟨1, 1e-10⟩ (blocks twoFixed)
        (Arena.ofValues [3, 1])).solved.length = 1 := by
      rw [blocks_twoFixed]
      rfl
    cases ends : (walk noFactors ⟨1, 1e-10⟩ (blocks twoFixed) (Arena.ofValues [3, 1])).result
        (lint twoFixed) id with
    | solved _ => cases halts.symm.trans (Walk.result_eq_solved_iff.mp ends).1
    | outsideArena => cases halts.symm.trans (Walk.result_eq_outsideArena_iff.mp ends)
    | failed failure =>
        obtain ⟨stops, index, _, _⟩ := Walk.result_eq_failed_iff.mp ends
        have breaks : failure.error = .notDecomposed :=
          (Halt.failed.inj (Option.some.inj (halts.symm.trans stops))).2.symm
        have failed := solve_failed_iff.mpr ⟨ends, leaves⟩
        obtain ⟨_, prolongs⟩ :=
          relaxed_settings_solve_too noFactors longer twoFixed (Arena.ofValues [3, 1])
        exact ⟨failure, index.trans first, breaks, failed,
          (prolongs rfl).2 failure _ failed breaks⟩

end Drafting
