import Drafting.CommandLine.Attempt
import Drafting.Proofs.Guarded.Solving
import Drafting.Proofs.Relaxation

/-!
# The analysis only observes

Solving with the analysis ends as solving without it, with the same report and the same arena. The
analysis of a solved system accounts for each component: it has been analysed at the values that were
found for it, or it is noted as one whose matrix could not be decomposed.
-/

namespace Drafting

variable {α : Type}

section Results

variable {β γ : Type}

theorem SolveResult.map_eq_solved_iff {f : β → γ} {result : SolveResult α β} {answer : γ} :
    result.map f = .solved answer ↔ ∃ before, result = .solved before ∧ f before = answer := by
  cases result with
  | solved before => simp [SolveResult.map]
  | failed failure => simp [SolveResult.map]
  | outsideArena => simp [SolveResult.map]

theorem SolveResult.map_eq_outsideArena_iff {f : β → γ} {result : SolveResult α β} :
    result.map f = .outsideArena ↔ result = .outsideArena := by
  cases result <;> simp [SolveResult.map]

theorem Walk.map_result (walked : Walk α) (warnings : List (Warning α))
    (finish : List (SolvedBlock α) → β) (f : β → γ) :
    (walked.result warnings finish).map f =
      walked.result warnings fun solved => f (finish solved) := by
  unfold Walk.result
  cases walked.halt with
  | none => rfl
  | some halt => cases halt <;> rfl

theorem Guarded.outcome_map (f : β → γ) (result : SolveResult α β) :
    outcome (result.map f) = (outcome result).map (Except.map f) := by
  cases result <;> rfl

end Results

variable [Precision α] [NatCast α] [Add α] [Sub α] [Mul α] [Div α] [Neg α]
  [OfNat α 0] [OfNat α 1] [OfNat α 2] [LT α] [DecidableLT α]

/-- How free a block is at the values of an arena, if the arena knows its unknowns and its matrix can
be decomposed. -/
def Block.freedomIn? (decompose : Decomposition α) (block : Block α) (arena : Arena α) :
    Option ComponentFreedom :=
  if known : arena.Contains block.unknowns then
    (ComponentSystem.ofConstraints block.constraints).freedom? decompose
      (arena.read block.unknowns known)
  else none

/-- At the values of an arena the partial derivatives of a block cannot be decomposed. -/
def Block.ResistsAnalysis (decompose : Decomposition α) (block : Block α) (arena : Arena α) : Prop :=
  ∃ known : arena.Contains block.unknowns,
    decompose _ _ ((ComponentSystem.ofConstraints block.constraints).jacobian
      (arena.read block.unknowns known)) = none

structure ComponentFreedom.Fits (freedom : ComponentFreedom) (report : ComponentReport)
    (columns : List UnknownId) : Prop where
  unknowns_eq : freedom.unknowns = report.unknowns
  rank_le : freedom.rank ≤ min report.unknowns report.equations
  movable_sublist : freedom.movable.Sublist columns
  movable_nodup : freedom.movable.Nodup

structure ComponentReport.Measures (report : ComponentReport) (block : Block α) : Prop where
  unknowns_eq : report.unknowns = block.unknowns.length
  equations_eq : report.equations = block.constraints.length

def AnalysedAs (decompose : Decomposition α) (constraints : List (Constraint UnknownId α))
    (arena : Arena α) (reports : List ComponentReport) (i : Nat) (freedom : ComponentFreedom) :
    Prop :=
  ∃ block report, (blocks constraints)[i]? = some block ∧ reports[i]? = some report ∧
    block.freedomIn? decompose arena = some freedom ∧ freedom.Fits report block.unknowns

/-- The analysis of a system in an arena accounts for each reported component. -/
structure Freedom.Accounts (decompose : Decomposition α)
    (constraints : List (Constraint UnknownId α)) (arena : Arena α)
    (reports : List ComponentReport) (freedom : Freedom) : Prop where
  length_eq : reports.length = (Drafting.components constraints).length
  ascending : freedom.unanalysed.Pairwise (· < ·)
  in_range : ∀ i ∈ freedom.unanalysed, i < reports.length
  mem_unanalysed_iff : ∀ i, i ∈ freedom.unanalysed ↔
    ∃ block, (blocks constraints)[i]? = some block ∧ block.ResistsAnalysis decompose arena
  length_add : freedom.components.length + freedom.unanalysed.length = reports.length
  analysed : List.Forall₂ (AnalysedAs decompose constraints arena reports)
    ((List.range reports.length).filter fun i => i ∉ freedom.unanalysed) freedom.components
  movable_nodup : freedom.movable.Nodup

section Blocks

variable {decompose : Decomposition α} {block : Block α} {arena : Arena α}
  {freedom : ComponentFreedom}

theorem Block.freedomIn?_eq_some_iff :
    block.freedomIn? decompose arena = some freedom ↔
      ∃ known : arena.Contains block.unknowns,
        (ComponentSystem.ofConstraints block.constraints).freedom? decompose
          (arena.read block.unknowns known) = some freedom := by
  unfold freedomIn?
  by_cases known : arena.Contains block.unknowns
  · rw [dif_pos known]
    constructor
    · intro found
      exact ⟨known, found⟩
    · intro found
      exact found.2
  · rw [dif_neg known]
    constructor
    · intro impossible
      cases impossible
    · intro found
      exact absurd found.1 known

theorem Block.movable_sublist_of_freedomIn?
    (found : block.freedomIn? decompose arena = some freedom) :
    freedom.movable.Sublist block.unknowns := by
  obtain ⟨known, analysed⟩ := freedomIn?_eq_some_iff.mp found
  exact ComponentSystem.movable_sublist_of_freedom? analysed

theorem Block.freedomIn?_eq_none_iff {constraints : List (Constraint UnknownId α)}
    (member : block ∈ blocks constraints) (known : arena.Contains block.unknowns) :
    block.freedomIn? decompose arena = none ↔ block.ResistsAnalysis decompose arena := by
  obtain ⟨c, inBlock⟩ := exists_mem_of_block constraints member
  have someRow : (ComponentSystem.ofConstraints block.constraints).height ≠ 0 := by
    rw [ComponentSystem.height_ofConstraints]
    exact mt List.eq_nil_of_length_eq_zero (List.ne_nil_of_mem inBlock)
  have someColumn : (ComponentSystem.ofConstraints block.constraints).width ≠ 0 :=
    mt List.eq_nil_of_length_eq_zero (unknowns_ne_nil_of_block constraints member)
  rw [freedomIn?, dif_pos known]
  refine ComponentSystem.freedom?_eq_none_iff.trans ?_
  constructor
  · intro fails
    exact ⟨known, fails.2.2⟩
  · intro resists
    exact ⟨someRow, someColumn, resists.2⟩

theorem Block.fits_of_freedomIn? {report : ComponentReport} (measures : report.Measures block)
    (found : block.freedomIn? decompose arena = some freedom) :
    freedom.Fits report block.unknowns := by
  have inOrder := movable_sublist_of_freedomIn? found
  obtain ⟨known, analysed⟩ := freedomIn?_eq_some_iff.mp found
  have unknowns := ComponentSystem.unknowns_of_freedom? analysed
  have rank := ComponentSystem.rank_le_of_freedom? analysed
  constructor
  · exact unknowns.trans measures.unknowns_eq.symm
  · rw [measures.unknowns_eq, measures.equations_eq, Nat.min_comm]
    rwa [ComponentSystem.height_ofConstraints] at rank
  · exact inOrder
  · exact inOrder.nodup (nodup_mentioned _)

/-- Blocks that share no unknown have no movable one in common. -/
theorem movable_nodup_of_separate {blocks : List (Block α)} (separate : Separate blocks) :
    (Freedom.ofResults
      (blocks.map fun block => block.freedomIn? decompose arena)).movable.Nodup := by
  have analysed : (Freedom.ofResults
      (blocks.map fun block => block.freedomIn? decompose arena)).components =
        blocks.filterMap fun block => block.freedomIn? decompose arena :=
    List.filterMap_map
  rw [Freedom.movable, analysed, List.nodup_flatMap]
  constructor
  · intro freedom listed
    obtain ⟨block, _, found⟩ := List.mem_filterMap.mp listed
    exact (Block.movable_sublist_of_freedomIn? found).nodup (nodup_mentioned _)
  · apply separate.filterMap
    intro block other apart freedom found otherFreedom otherFound id moves movesToo
    apply apart id
    · exact (Block.movable_sublist_of_freedomIn? found).subset moves
    · exact (Block.movable_sublist_of_freedomIn? otherFound).subset movesToo

variable {constraints : List (Constraint UnknownId α)}

theorem mem_unanalysed_iff_resists (decompose : Decomposition α)
    (known : ∀ block ∈ blocks constraints, arena.Contains block.unknowns) (i : Nat) :
    i ∈ (Freedom.ofResults ((blocks constraints).map fun block =>
        block.freedomIn? decompose arena)).unanalysed ↔
      ∃ block, (blocks constraints)[i]? = some block ∧ block.ResistsAnalysis decompose arena := by
  rw [Freedom.mem_unanalysed_iff, List.getElem?_map, Option.map_eq_some_iff]
  apply exists_congr
  intro block
  apply and_congr_right
  intro atI
  have member := List.mem_of_getElem? atI
  exact Block.freedomIn?_eq_none_iff member (known block member)

/-- The analyses of all blocks account for reports on these blocks. -/
theorem accounts_of_measures {reports : List ComponentReport}
    (known : ∀ block ∈ blocks constraints, arena.Contains block.unknowns)
    (measures : List.Forall₂ (fun block report => report.Measures block)
      (blocks constraints) reports) :
    (Freedom.ofResults ((blocks constraints).map fun block =>
      block.freedomIn? decompose arena)).Accounts decompose constraints arena reports := by
  have noted := mem_unanalysed_iff_resists decompose known
  have length : reports.length =
      ((blocks constraints).map fun block => block.freedomIn? decompose arena).length := by
    rw [List.length_map, measures.length_eq]
  constructor
  · rw [← length_blocks, measures.length_eq]
  · exact Freedom.unanalysed_ascending _
  · intro i member
    obtain ⟨block, atI, _⟩ := (noted i).mp member
    rw [← measures.length_eq]
    exact (List.getElem?_eq_some_iff.mp atI).1
  · exact noted
  · rw [length]
    exact Freedom.length_components_add _
  · rw [length]
    apply (Freedom.forall₂_analysed _).imp
    intro i freedom atI
    rw [List.getElem?_map, Option.map_eq_some_iff] at atI
    obtain ⟨block, isBlock, found⟩ := atI
    obtain ⟨inBlocks, here⟩ := List.getElem?_eq_some_iff.mp isBlock
    have inReports : i < reports.length := measures.length_eq ▸ inBlocks
    have measured := measures.get inBlocks inReports
    simp only [List.get_eq_getElem, here] at measured
    exact ⟨block, reports[i], isBlock, List.getElem?_eq_getElem inReports, found,
      Block.fits_of_freedomIn? measured found⟩
  · exact movable_nodup_of_separate (separate_blocks constraints)

end Blocks

variable [LE α] [DecidableLE α] {decompose : Decomposition α} {settings : Settings α}

namespace WalksTo

variable {blocks : List (Block α)} {arena : Arena α} {walked : Walk α}

/-- A block was analysed at the values that the arena which is left holds for it. -/
theorem freedomIn?_of_solved (walks : WalksTo decompose settings blocks arena walked)
    (separate : Separate blocks) {solved : SolvedBlock α} (member : solved ∈ walked.solved)
    {block : Block α} (solves : solveBlock decompose settings block arena = .ok solved) :
    block.freedomIn? decompose walked.arena = solved.freedom? decompose := by
  obtain ⟨known, solution, _, same⟩ := solveBlock_eq_ok_iff.mp solves
  subst same
  have holds := walks.value?_of_solved separate member (nodup_mentioned _) known
  have stillKnown : walked.arena.Contains block.unknowns := Arena.contains_of_holds holds
  rw [Block.freedomIn?, dif_pos stillKnown]
  exact congrArg _ (Arena.read_eq_of_holds holds stillKnown)

theorem map_freedomIn? (walks : WalksTo decompose settings blocks arena walked)
    (separate : Separate blocks) (complete : walked.halt = none) :
    blocks.map (fun block => block.freedomIn? decompose walked.arena) =
      walked.solved.map (SolvedBlock.freedom? decompose) := by
  have mapped : List.Forall₂ (· = ·)
      (blocks.map fun block => block.freedomIn? decompose walked.arena)
      (walked.solved.map (SolvedBlock.freedom? decompose)) := by
    rw [List.forall₂_map_left_iff, List.forall₂_map_right_iff]
    apply walks.forall₂_solved complete
    intro block _ solved member solves
    exact walks.freedomIn?_of_solved separate member solves
  rwa [List.forall₂_eq_eq_eq] at mapped

theorem reports_measure (walks : WalksTo decompose settings blocks arena walked)
    (complete : walked.halt = none) :
    List.Forall₂ (fun block report => report.Measures block)
      blocks (walked.solved.map SolvedBlock.report) := by
  rw [List.forall₂_map_right_iff]
  apply (walks.all_solved complete).imp
  intro block solved solves
  obtain ⟨_, _, _, same⟩ := solveBlock_eq_ok_iff.mp solves
  rw [same]
  exact ⟨rfl, ComponentSystem.height_ofConstraints _⟩

end WalksTo

section Answers

variable {constraints : List (Constraint UnknownId α)} {arena left : Arena α}

theorem solved_freedom_accounts {report : SolveReport α} {freedom : Freedom}
    (solved : solveWithFreedom decompose settings constraints arena =
      (.solved (report, freedom), left)) :
    freedom.Accounts decompose constraints left report.components := by
  have walks := components_walksTo decompose settings constraints arena
  obtain ⟨complete, reports, analyses, leaves⟩ := solveWithFreedom_eq_solved_iff.mp solved
  have known := contains_of_halt_none complete
  generalize walk decompose settings (blocks constraints) arena = walked at *
  subst leaves reports
  rw [← walks.map_freedomIn? (separate_blocks constraints) complete] at analyses
  rw [← analyses]
  apply accounts_of_measures _ (walks.reports_measure complete)
  intro block member id mentions
  rw [walks.leaves, size_writeAll]
  exact known block member id mentions

variable (decompose settings constraints arena)

/-- Leaving out the analysis changes nothing but the answer, which lacks it. -/
theorem solve_eq_solveWithFreedom :
    solve decompose settings constraints arena =
      ((solveWithFreedom decompose settings constraints arena).1.map Prod.fst,
        (solveWithFreedom decompose settings constraints arena).2) := by
  unfold solve solveWithFreedom
  dsimp only
  rw [Walk.map_result]

theorem Guarded.solve_eq_solveWithFreedom :
    Guarded.solve decompose settings constraints arena =
      ((Guarded.solveWithFreedom decompose settings constraints arena).1.map
          (Except.map Prod.fst),
        (Guarded.solveWithFreedom decompose settings constraints arena).2) := by
  rw [Guarded.solve_eq, Guarded.solveWithFreedom_eq, ← Guarded.outcome_map,
    Drafting.solve_eq_solveWithFreedom]

end Answers

section Attempts

variable {decompose : Decomposition Float} {settings : Settings Float} {drawing : Drawing Float}

theorem Drawing.solve_of_solveWithFreedom {outcome : Outcome Float}
    (solved : (drawing.solveWithFreedom decompose settings).1 = .solved outcome) :
    ∃ outcome', (drawing.solve decompose settings).1 = .solved outcome' := by
  obtain ⟨answer, found, _⟩ := SolveResult.map_eq_solved_iff.mp solved
  have plain : (Drafting.solve decompose settings drawing.constraints drawing.arena).1 =
      .solved answer.1 := by
    rw [solve_eq_solveWithFreedom]
    exact congrArg (SolveResult.map Prod.fst) found
  exact ⟨_, SolveResult.map_eq_solved_iff.mpr ⟨answer.1, plain, rfl⟩⟩

namespace CommandLine

theorem laterFailure?_eq_none {outcome : Outcome Float}
    (solved : (drawing.solve decompose .default).1 = .solved outcome) (runs : Nat) :
    laterFailure? decompose drawing runs = none := by
  induction runs with
  | zero => rfl
  | succ runs ih => rw [laterFailure?, solved, ih]

theorem laterFailure?_of_first {outcome : Outcome Float} {analysis : Bool}
    (solved : (if analysis then (drawing.solveWithFreedom decompose .default).1
      else (drawing.solve decompose .default).1) = .solved outcome) (runs : Nat) :
    laterFailure? decompose drawing runs = none := by
  cases analysis with
  | false => exact laterFailure?_eq_none solved runs
  | true =>
      obtain ⟨outcome', plain⟩ := Drawing.solve_of_solveWithFreedom solved
      exact laterFailure?_eq_none plain runs

/-- If a drawing was solved at first, it is solved each time again. -/
theorem attempt_ne_endedLater (decompose : Decomposition Float) (runs : Nat) (analysis : Bool)
    (text : String) (later : SolveResult Float (Outcome Float)) :
    attempt decompose runs analysis text ≠ .endedLater later := by
  unfold attempt
  cases Drawing.ofText text with
  | error error => exact Attempt.noConfusion
  | ok drawing =>
      dsimp only
      split
      · rename_i outcome solved
        rw [laterFailure?_of_first solved runs]
        exact Attempt.noConfusion
      · exact Attempt.noConfusion

end CommandLine

end Attempts

/-- Solving with the analysis ends as solving without it. The analysis of a solved system accounts
for each component, whether or not its matrix can be decomposed. So a drawing that was solved, with the
analysis or without it, is solved again each time. -/
theorem analysis_only_observes (decompose : Decomposition Float) (settings : Settings Float)
    (constraints : List (Constraint UnknownId Float)) (arena : Arena Float) :
    solve decompose settings constraints arena =
        ((solveWithFreedom decompose settings constraints arena).1.map Prod.fst,
          (solveWithFreedom decompose settings constraints arena).2) ∧
      Guarded.solve decompose settings constraints arena =
        ((Guarded.solveWithFreedom decompose settings constraints arena).1.map
            (Except.map Prod.fst),
          (Guarded.solveWithFreedom decompose settings constraints arena).2) ∧
      (∀ report freedom left, solveWithFreedom decompose settings constraints arena =
          (.solved (report, freedom), left) →
        freedom.Accounts decompose constraints left report.components) ∧
      ∀ runs analysis text later,
        CommandLine.attempt decompose runs analysis text ≠ .endedLater later := by
  refine ⟨solve_eq_solveWithFreedom decompose settings constraints arena,
    Guarded.solve_eq_solveWithFreedom decompose settings constraints arena, ?_,
    CommandLine.attempt_ne_endedLater decompose⟩
  intro report freedom left solved
  exact solved_freedom_accounts solved

/-- Where nothing has to be moved, nothing needs to be decomposed either, except for the analysis. -/
theorem two_fixed_unknowns_unanalysed :
    ∃ report freedom,
      solveWithFreedom noFactors ⟨1, 1e-10⟩ twoFixed (Arena.ofValues [3, 5]) =
        (.solved (report, freedom), Arena.ofValues [3, 5]) ∧
      solve noFactors ⟨1, 1e-10⟩ twoFixed (Arena.ofValues [3, 5]) =
        (.solved report, Arena.ofValues [3, 5]) ∧
      freedom.Accounts noFactors twoFixed (Arena.ofValues [3, 5]) report.components ∧
      1 ∈ freedom.unanalysed := by
  have solves : ∃ answer, solveWithFreedom noFactors ⟨1, 1e-10⟩ twoFixed
      (Arena.ofValues [3, 5]) = (.solved answer, Arena.ofValues [3, 5]) := by
    rw [solveWithFreedom_solved_iff, blocks_twoFixed, ← Option.isNone_iff_eq_none]
    constructor
    · decide +kernel
    · decide +kernel
  obtain ⟨answer, solved⟩ := solves
  obtain ⟨plain, _, accounts, _⟩ :=
    analysis_only_observes noFactors ⟨1, 1e-10⟩ twoFixed (Arena.ofValues [3, 5])
  have accounted := accounts answer.1 answer.2 _ solved
  refine ⟨answer.1, answer.2, solved, ?_, accounted, ?_⟩
  · rw [plain, solved]
    rfl
  · apply (accounted.mem_unanalysed_iff 1).mpr
    rw [blocks_twoFixed]
    exact ⟨[(1, .fixed 1 5)], rfl, by decide, rfl⟩

end Drafting
