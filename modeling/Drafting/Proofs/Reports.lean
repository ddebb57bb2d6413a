import Mathlib.Data.Finset.Card
import Drafting.Proofs.Observation

/-!
# What the reports on a solved system add up to

Each component has one report, in the order of the components. It counts the unknowns of its component
once each, and as no unknown is in two components, the counts add up to the unknowns of the system.
The constraints that are reported are all constraints.
-/

namespace Drafting

variable {α : Type}

section Definitions

def mentionedSet (constraints : List (Constraint UnknownId α)) : Finset UnknownId :=
  (constraints.flatMap Constraint.unknowns).toFinset

structure ComponentReport.Counts (constraints : List (Constraint UnknownId α))
    (part : List (Fin constraints.length)) (report : ComponentReport) : Prop where
  positions_eq : report.positions = part.map Fin.val
  unknowns_eq : report.unknowns = (mentionedSet (part.map constraints.get)).card
  equations_eq : report.equations = total ((part.map constraints.get).map Constraint.dimension)

structure SolveReport.AccountsFor (constraints : List (Constraint UnknownId α))
    (settings : Settings α) (report : SolveReport α) : Prop where
  parts : List.Forall₂ (fun part report => report.Counts constraints part)
    (Drafting.components constraints) report.components
  positions_perm : (report.components.flatMap ComponentReport.positions).Perm
    (List.range constraints.length)
  total_unknowns : total (report.components.map ComponentReport.unknowns) =
    (mentionedSet constraints).card
  total_equations : total (report.components.map ComponentReport.equations) =
    total (constraints.map Constraint.dimension)
  steps_lt : ∀ component ∈ report.components, component.steps < settings.budget
  steps_le_mostSteps : ∀ component ∈ report.components, component.steps ≤ report.mostSteps
  mostSteps_attained : (report.components = [] ∧ report.mostSteps = 0) ∨
    ∃ component ∈ report.components, component.steps = report.mostSteps
  mostSteps_le_steps : report.mostSteps ≤ report.steps
  steps_le_mul : report.steps ≤ report.components.length * report.mostSteps

end Definitions

section Totals

variable {β : Type}

theorem total_map_length (items : List β) (f : β → List α) :
    total (items.map fun b => (f b).length) = (items.flatMap f).length := by
  induction items with
  | nil => rfl
  | cons b rest ih => rw [List.map_cons, total_cons, ih, List.flatMap_cons, List.length_append]

theorem le_total_of_mem {n : Nat} {counts : List Nat} (member : n ∈ counts) : n ≤ total counts := by
  induction counts with
  | nil => cases member
  | cons first rest ih =>
      rw [total_cons]
      rcases List.mem_cons.mp member with same | later
      · rw [same]
        exact Nat.le_add_right _ _
      · exact (ih later).trans (Nat.le_add_left _ _)

theorem total_le_mul {bound : Nat} {counts : List Nat} (bounded : ∀ n ∈ counts, n ≤ bound) :
    total counts ≤ counts.length * bound := by
  induction counts with
  | nil => exact Nat.zero_le _
  | cons first rest ih =>
      obtain ⟨here, later⟩ := List.forall_mem_cons.mp bounded
      rw [total_cons, List.length_cons, Nat.succ_mul, Nat.add_comm]
      exact Nat.add_le_add (ih later) here

end Totals

section Most

variable {report : SolveReport α}

namespace SolveReport

theorem mostSteps_eq_max? :
    report.mostSteps = (report.components.map ComponentReport.steps).max?.getD 0 := by
  rw [mostSteps, List.foldl_max, Nat.zero_max]

/-- The most steps are those of a component that took no fewer than any other. -/
theorem mostSteps_cases (report : SolveReport α) :
    (report.components = [] ∧ report.mostSteps = 0) ∨
      (∃ component ∈ report.components, component.steps = report.mostSteps) ∧
        ∀ component ∈ report.components, component.steps ≤ report.mostSteps := by
  rw [mostSteps_eq_max?]
  cases most : (report.components.map ComponentReport.steps).max? with
  | none => exact Or.inl ⟨List.map_eq_nil_iff.mp (List.max?_eq_none_iff.mp most), rfl⟩
  | some n =>
      obtain ⟨attained, bounds⟩ := List.max?_eq_some_iff.mp most
      rw [Option.getD_some]
      refine Or.inr ⟨List.mem_map.mp attained, ?_⟩
      exact fun component member => bounds _ (List.mem_map_of_mem member)

theorem steps_le_mostSteps {component : ComponentReport} (member : component ∈ report.components) :
    component.steps ≤ report.mostSteps := by
  rcases report.mostSteps_cases with ⟨none, _⟩ | ⟨_, bounds⟩
  · rw [none] at member
    cases member
  · exact bounds component member

theorem mostSteps_le_steps (report : SolveReport α) : report.mostSteps ≤ report.steps := by
  rcases report.mostSteps_cases with ⟨_, zero⟩ | ⟨⟨component, member, same⟩, _⟩
  · rw [zero]
    exact Nat.zero_le _
  · rw [← same]
    exact le_total_of_mem (List.mem_map_of_mem member)

theorem steps_le_mul (report : SolveReport α) :
    report.steps ≤ report.components.length * report.mostSteps := by
  have bounded : ∀ n ∈ report.components.map ComponentReport.steps, n ≤ report.mostSteps :=
    List.forall_mem_map.mpr fun _ => steps_le_mostSteps
  exact (total_le_mul bounded).trans_eq (congrArg (· * _) (List.length_map _))

end SolveReport

end Most

section Unknowns

theorem mem_mentionedSet {constraints : List (Constraint UnknownId α)} {id : UnknownId} :
    id ∈ mentionedSet constraints ↔ ∃ c ∈ constraints, id ∈ c.unknowns := by
  rw [mentionedSet, List.mem_toFinset, List.mem_flatMap]

/-- The columns of some constraints are as many as the unknowns that they mention. -/
theorem length_mentioned (constraints : List (Constraint UnknownId α)) :
    (mentioned constraints).length = (mentionedSet constraints).card := by
  rw [← List.toFinset_card_of_nodup (nodup_mentioned constraints)]
  congr 1
  ext id
  rw [List.mem_toFinset, mem_mentioned, mem_mentionedSet]

variable (constraints : List (Constraint UnknownId α))

theorem mem_flatMap_unknowns {id : UnknownId} :
    id ∈ (blocks constraints).flatMap Block.unknowns ↔ id ∈ mentionedSet constraints := by
  rw [List.mem_flatMap, mem_mentionedSet]
  constructor
  · rintro ⟨block, member, mentions⟩
    obtain ⟨c, inBlock, inUnknowns⟩ := mem_mentioned.mp mentions
    exact ⟨c, mem_of_mem_block constraints member inBlock, inUnknowns⟩
  · rintro ⟨c, member, mentions⟩
    obtain ⟨block, listed, inBlock⟩ := exists_block_of_mem constraints member
    exact ⟨block, listed, mem_mentioned.mpr ⟨c, inBlock, mentions⟩⟩

/-- No unknown is counted for two blocks. -/
theorem total_unknowns_blocks :
    total ((blocks constraints).map fun block => block.unknowns.length) =
      (mentionedSet constraints).card := by
  have distinct : ((blocks constraints).flatMap Block.unknowns).Nodup := by
    rw [List.nodup_flatMap]
    refine ⟨fun block _ => nodup_mentioned block.constraints, ?_⟩
    exact (separate_blocks constraints).imp fun apart id member otherMember =>
      apart id member otherMember
  rw [total_map_length, ← List.toFinset_card_of_nodup distinct]
  congr 1
  ext id
  rw [List.mem_toFinset, mem_flatMap_unknowns]

theorem total_equations_components :
    total ((components constraints).map fun part =>
        total ((part.map constraints.get).map Constraint.dimension)) =
      total (constraints.map Constraint.dimension) := by
  have each : (components constraints).map (fun part =>
      total ((part.map constraints.get).map Constraint.dimension)) =
        (components constraints).map List.length := by
    apply List.map_congr_left
    intro part _
    exact (total_map_one _).trans (List.length_map _)
  have all := (components_flatten_perm constraints).length_eq
  rw [← List.flatMap_id, List.length_finRange] at all
  rw [each]
  exact (total_map_length _ id).trans (all.trans (total_map_one constraints).symm)

theorem positions_components_perm :
    ((components constraints).flatMap fun part => part.map Fin.val).Perm
      (List.range constraints.length) := by
  have all := (components_flatten_perm constraints).map Fin.val
  rwa [List.map_flatten, ← List.flatMap_def, List.map_coe_finRange_eq_range] at all

end Unknowns

variable [Precision α] [NatCast α] [Add α] [Sub α] [Mul α] [Div α] [Neg α]
  [OfNat α 0] [OfNat α 1] [OfNat α 2] [LT α] [DecidableLT α] [LE α] [DecidableLE α]
variable {decompose : Decomposition α} {settings : Settings α}
  {constraints : List (Constraint UnknownId α)} {arena left : Arena α}

section Reports

theorem counts_of_solveBlock {part : List (Fin constraints.length)} {solved : SolvedBlock α}
    (solves : solveBlock decompose settings (blockOf constraints part) arena = .ok solved) :
    solved.report.Counts constraints part ∧ solved.report.steps < settings.budget := by
  obtain ⟨_, solution, found, same⟩ := solveBlock_eq_ok_iff.mp solves
  rw [same]
  refine ⟨⟨positions_blockOf constraints part, ?_, ?_⟩, ComponentSystem.steps_lt_of_refine found⟩
  · rw [← constraints_blockOf]
    exact length_mentioned _
  · rw [← constraints_blockOf, Guarded.total_dimension]
    rfl

theorem counts_of_solved {report : SolveReport α}
    (solved : solve decompose settings constraints arena = (.solved report, left)) :
    List.Forall₂ (fun part report => report.Counts constraints part ∧ report.steps < settings.budget)
      (components constraints) report.components := by
  obtain ⟨complete, same, _⟩ := solve_eq_solved_iff.mp solved
  have all := (components_walksTo decompose settings constraints arena).all_solved complete
  rw [blocks_eq_map, List.forall₂_map_left_iff] at all
  rw [← same, List.forall₂_map_right_iff, blocks_eq_map]
  exact all.imp fun part block => counts_of_solveBlock

theorem accountsFor_of_solved {report : SolveReport α}
    (solved : solve decompose settings constraints arena = (.solved report, left)) :
    report.AccountsFor constraints settings := by
  have counts := counts_of_solved solved
  have parts := counts.imp fun part report both => both.1
  have positions : (components constraints).map (fun part => part.map Fin.val) =
      report.components.map ComponentReport.positions :=
    map_eq_of_related parts fun part report counted => counted.positions_eq.symm
  have unknowns : (blocks constraints).map (fun block => block.unknowns.length) =
      report.components.map ComponentReport.unknowns := by
    rw [blocks_eq_map, List.map_map]
    apply map_eq_of_related parts
    intro part report counted
    rw [counted.unknowns_eq, ← length_mentioned, Function.comp_apply, Block.unknowns,
      constraints_blockOf]
  have equations : (components constraints).map (fun part =>
      total ((part.map constraints.get).map Constraint.dimension)) =
        report.components.map ComponentReport.equations :=
    map_eq_of_related parts fun part report counted => counted.equations_eq.symm
  constructor
  · exact parts
  · rw [List.flatMap_def, ← positions, ← List.flatMap_def]
    exact positions_components_perm constraints
  · rw [← unknowns, total_unknowns_blocks]
  · rw [← equations, total_equations_components]
  · intro component member
    obtain ⟨part, _, counted⟩ := exists_related counts.flip member
    exact counted.2
  · exact fun component => SolveReport.steps_le_mostSteps
  · exact report.mostSteps_cases.imp_right And.left
  · exact report.mostSteps_le_steps
  · exact report.steps_le_mul

end Reports

/-- If a system is solved, its reports account for all of it, and no value has changed but those of
unknowns that some constraint mentions. -/
theorem solved_report_accounts_for_system {report : SolveReport α}
    (solved : solve decompose settings constraints arena = (.solved report, left)) :
    report.AccountsFor constraints settings ∧
      (∀ id ∉ mentionedSet constraints, left.value? id = arena.value? id) ∧
      left.names = arena.names := by
  have walks := components_walksTo decompose settings constraints arena
  obtain ⟨_, _, leaves⟩ := solve_eq_solved_iff.mp solved
  refine ⟨accountsFor_of_solved solved, ?_, ?_⟩
  · intro id unmentioned
    rw [← leaves]
    apply walks.value?_of_unsolved
    intro block member mentions
    apply unmentioned
    apply (mem_flatMap_unknowns constraints).mp
    exact List.mem_flatMap.mpr ⟨block, List.mem_of_mem_take member, mentions⟩
  · rw [← leaves, walks.leaves, names_writeAll]

/-- The second unknown has its value already, and the third is not mentioned. -/
theorem two_fixed_unknowns_are_reported :
    ∃ report, solve unitFactors ⟨100, 1e-10⟩ twoFixed (Arena.ofValues [1, 5, 7]) =
        (.solved report, Arena.ofValues [3, 5, 7]) ∧
      report.components = [⟨[0], 1, 1, 1⟩, ⟨[1], 1, 1, 0⟩] ∧
      report.AccountsFor twoFixed ⟨100, 1e-10⟩ ∧
      (Arena.ofValues [3, 5, 7]).value? 2 = (Arena.ofValues [1, 5, (7 : Float)]).value? 2 := by
  have complete : (walk unitFactors ⟨100, 1e-10⟩ (blocks twoFixed)
      (Arena.ofValues [1, 5, 7])).halt = none := by
    rw [blocks_twoFixed, ← Option.isNone_iff_eq_none]
    decide +kernel
  have leaves : (walk unitFactors ⟨100, 1e-10⟩ (blocks twoFixed)
      (Arena.ofValues [1, 5, 7])).arena = Arena.ofValues [3, 5, 7] := by
    rw [blocks_twoFixed]
    decide +kernel
  have reports : (walk unitFactors ⟨100, 1e-10⟩ (blocks twoFixed)
      (Arena.ofValues [1, 5, 7])).solved.map SolvedBlock.report =
        [⟨[0], 1, 1, 1⟩, ⟨[1], 1, 1, 0⟩] := by
    rw [blocks_twoFixed]
    decide +kernel
  have solved := solve_eq_solved_iff.mpr ⟨complete, rfl, leaves⟩
  obtain ⟨accounts, unchanged, _⟩ := solved_report_accounts_for_system solved
  exact ⟨_, solved, reports, accounts, unchanged 2 (by decide)⟩

end Drafting
