import Drafting.Proofs.Connectivity.Embedding
import Drafting.Proofs.Lint
import Drafting.Proofs.Renaming.Columns
import Drafting.Proofs.Solving

/-!
# Systems with other names for their unknowns

What solving does depends on which constraints mention the same unknown, and on values, but not on
the ids themselves. So an injective renaming of the unknowns changes the names in the result and
nothing else, if the arena has the same values under the new names.
-/

namespace Drafting

variable {α : Type}

section Results

def SolvedBlock.rename (rename : UnknownId → UnknownId) (solved : SolvedBlock α) : SolvedBlock α :=
  ⟨solved.positions, solved.system.rename rename,
    solved.solution.cast (solved.system.width_rename rename)⟩

def Freedom.rename (rename : UnknownId → UnknownId) (freedom : Freedom) : Freedom :=
  { freedom with components := freedom.components.map (ComponentFreedom.rename rename) }

def SolveReport.rename (rename : UnknownId → UnknownId) (report : SolveReport α) : SolveReport α :=
  { report with warnings := report.warnings.map (Warning.relabel rename 0) }

def SolveFailure.rename (rename : UnknownId → UnknownId) (failure : SolveFailure α) :
    SolveFailure α :=
  { failure with warnings := failure.warnings.map (Warning.relabel rename 0) }

/-- Other names for the unknowns in a result. Nothing but warnings and freedom mentions unknowns. -/
def SolveResult.rename (rename : UnknownId → UnknownId) :
    SolveResult α (SolveReport α × Freedom) → SolveResult α (SolveReport α × Freedom)
  | .solved (report, freedom) => .solved (report.rename rename, freedom.rename rename)
  | .failed failure => .failed (failure.rename rename)
  | .outsideArena => .outsideArena

variable (rename : UnknownId → UnknownId)

@[simp] theorem SolvedBlock.report_rename (solved : SolvedBlock α) :
    (solved.rename rename).report = solved.report := by
  unfold report
  congr 1
  · exact (solved.system.width_rename rename).symm
  · exact (solved.system.height_rename rename).symm

theorem SolvedBlock.map_report_rename (solved : List (SolvedBlock α)) :
    (solved.map (SolvedBlock.rename rename)).map SolvedBlock.report =
      solved.map SolvedBlock.report := by
  rw [List.map_map]
  exact List.map_congr_left fun block _ => block.report_rename rename

theorem Walk.result_rename {rename : UnknownId → UnknownId} {walked renamed : Walk α}
    {warnings : List (Warning α)} {finish finish' : List (SolvedBlock α) → SolveReport α × Freedom}
    (solved : renamed.solved = walked.solved.map (SolvedBlock.rename rename))
    (halt : renamed.halt = walked.halt)
    (finishes : finish' (walked.solved.map (SolvedBlock.rename rename)) =
      ((finish walked.solved).1.rename rename, (finish walked.solved).2.rename rename)) :
    renamed.result (warnings.map (Warning.relabel rename 0)) finish' =
      (walked.result warnings finish).rename rename := by
  unfold result
  rw [halt, solved]
  cases walked.halt with
  | none => exact congrArg SolveResult.solved finishes
  | some halt =>
      cases halt with
      | failed positions error =>
          dsimp only
          rw [SolvedBlock.map_report_rename, List.length_map]
          rfl
      | outsideArena => rfl

theorem Freedom.ofResults_rename (results : List (Option ComponentFreedom)) :
    Freedom.ofResults (results.map (Option.map (ComponentFreedom.rename rename))) =
      (Freedom.ofResults results).rename rename := by
  unfold ofResults Freedom.rename
  congr 1
  · simp only [List.filterMap_map, List.map_filterMap, Function.comp_def, id_eq]
  · simp only [List.zipIdx_map, List.filterMap_map, Function.comp_def, Prod.map_fst, Prod.map_snd,
      Option.isNone_map, id_eq]

end Results

variable {rename : UnknownId → UnknownId}

section Components

variable (constraints : List (Constraint UnknownId α))

theorem embeds_map (injective : Function.Injective rename) :
    Embeds rename constraints (constraints.map (Constraint.map rename))
      (Fin.cast (List.length_map (Constraint.map rename)).symm) where
  rename_injective := injective
  place_injective := Fin.cast_injective _
  renames := fun _ => List.getElem_map _
  closed := fun _ j _ => ⟨Fin.cast (List.length_map _) j, rfl⟩
  ordered := fun _ _ _ before => before

theorem firsts_map (injective : Function.Injective rename) :
    firsts (constraints.map (Constraint.map rename)) =
      (firsts constraints).map (Fin.cast (List.length_map (Constraint.map rename)).symm) := by
  refine (firsts_ascending _).eq_of_mem_iff
    (List.pairwise_map.mpr (firsts_ascending constraints)) fun j => ?_
  obtain ⟨i, same⟩ : ∃ i, Fin.cast (List.length_map (Constraint.map rename)).symm i = j :=
    ⟨Fin.cast (List.length_map _) j, rfl⟩
  subst same
  rw [(embeds_map constraints injective).mem_firsts_iff,
    List.mem_map_of_injective (Fin.cast_injective _)]

/-- The components are found in the same places. -/
theorem blocks_map (injective : Function.Injective rename) :
    blocks (constraints.map (Constraint.map rename)) =
      (blocks constraints).map (Block.rename rename) := by
  simp only [blocks_eq_map_blockFrom, firsts_map constraints injective, List.map_map]
  refine List.map_congr_left fun i _ => ?_
  have found := (embeds_map constraints injective).blockFrom_eq id (fun _ => rfl) i
  rwa [Block.reposition_id] at found

theorem positions_components_map (injective : Function.Injective rename) :
    (components (constraints.map (Constraint.map rename))).map (fun part => part.map Fin.val) =
      (components constraints).map fun part => part.map Fin.val := by
  rw [← positions_blocks, ← positions_blocks, blocks_map constraints injective, List.map_map]
  exact List.map_congr_left fun block _ => block.positions_rename rename

end Components

section Values

variable {arena arena' : Arena α}

theorem Arena.contains_map_iff {ids : List UnknownId}
    (same : ∀ id ∈ ids, Arena.Corresponds rename arena arena' id) :
    arena'.Contains (ids.map rename) ↔ arena.Contains ids := by
  unfold Arena.Contains
  rw [List.forall_mem_map]
  refine forall₂_congr fun id member => ?_
  rw [← not_iff_not, Nat.not_lt, Nat.not_lt, ← value?_eq_none_iff, ← value?_eq_none_iff,
    same id member]

theorem Arena.read_map {ids : List UnknownId}
    (same : ∀ id ∈ ids, Arena.Corresponds rename arena arena' id) (known : arena.Contains ids)
    (known' : arena'.Contains (ids.map rename)) :
    arena'.read (ids.map rename) known' =
      (arena.read ids known).cast (List.length_map rename).symm := by
  refine eq_cast_of_get fun i => ?_
  have read := get_read arena' (ids.map rename) known' (Fin.cast (List.length_map rename).symm i)
  rw [List.get_eq_getElem, List.getElem_map] at read
  have value := (same _ (List.get_mem ids i)).trans (get_read arena ids known i)
  exact Option.some.inj (read.symm.trans value)

theorem SolvedBlock.writeTo_rename (injective : Function.Injective rename) (solved : SolvedBlock α)
    {id : UnknownId} (same : Arena.Corresponds rename arena arena' id) :
    Arena.Corresponds rename (solved.writeTo arena) ((solved.rename rename).writeTo arena') id := by
  have values : (solved.rename rename).solution.assignment.toList =
      solved.solution.assignment.toList :=
    Vector.toList_cast (solved.system.width_rename rename)
  unfold writeTo
  rw [values]
  exact same.write injective solved.system.columns solved.solution.assignment.toList

end Values

variable [Precision α] [NatCast α] [Add α] [Sub α] [Mul α] [Div α] [Neg α]
  [OfNat α 0] [OfNat α 1] [OfNat α 2] [LT α] [DecidableLT α] [LE α] [DecidableLE α]
variable (decompose : Decomposition α) (settings : Settings α) {arena arena' : Arena α}

theorem solveBlock_rename (injective : Function.Injective rename) {block : Block α}
    (same : ∀ id ∈ block.unknowns, Arena.Corresponds rename arena arena' id) :
    solveBlock decompose settings (block.rename rename) arena' =
      (solveBlock decompose settings block arena).map (SolvedBlock.rename rename) := by
  have same : ∀ id ∈ (ComponentSystem.ofConstraints block.constraints).columns,
      Arena.Corresponds rename arena arena' id := same
  unfold solveBlock
  rw [Block.constraints_rename, Block.positions_rename,
    ComponentSystem.ofConstraints_map injective]
  dsimp only
  generalize ComponentSystem.ofConstraints block.constraints = system at same ⊢
  have known : arena'.Contains (system.rename rename).columns ↔ arena.Contains system.columns :=
    Arena.contains_map_iff same
  by_cases here : arena.Contains system.columns
  · have read : arena'.read (system.rename rename).columns (known.mpr here) =
        (arena.read system.columns here).cast (system.width_rename rename) :=
      Arena.read_map same here (known.mpr here)
    have refined := (system.measuresAlike_rename rename).refine_eq decompose settings
      (arena.read system.columns here)
    rw [← read] at refined
    rw [dif_pos here, dif_pos (known.mpr here), refined]
    cases system.refine decompose settings (arena.read system.columns here) with
    | ok solution => rfl
    | error error => rfl
  · rw [dif_neg here, dif_neg (known.not.mpr here)]
    rfl

theorem walk_rename (injective : Function.Injective rename) {blocks : List (Block α)}
    (same : ∀ block ∈ blocks, ∀ id ∈ block.unknowns, Arena.Corresponds rename arena arena' id) :
    (walk decompose settings (blocks.map (Block.rename rename)) arena').solved =
        (walk decompose settings blocks arena).solved.map (SolvedBlock.rename rename) ∧
      (walk decompose settings (blocks.map (Block.rename rename)) arena').halt =
        (walk decompose settings blocks arena).halt ∧
      ∀ id, Arena.Corresponds rename arena arena' id →
        Arena.Corresponds rename (walk decompose settings blocks arena).arena
          (walk decompose settings (blocks.map (Block.rename rename)) arena').arena id := by
  induction blocks generalizing arena arena' with
  | nil => exact ⟨rfl, rfl, fun _ stays => stays⟩
  | cons block rest ih =>
      obtain ⟨here, later⟩ := List.forall_mem_cons.mp same
      have renamed := solveBlock_rename decompose settings injective here
      cases result : solveBlock decompose settings block arena with
      | error halt =>
          rw [result] at renamed
          rw [List.map_cons, walk_cons_error renamed, walk_cons_error result]
          exact ⟨rfl, rfl, fun _ stays => stays⟩
      | ok solved =>
          rw [result] at renamed
          have stays (id : UnknownId) (before : Arena.Corresponds rename arena arena' id) :=
            solved.writeTo_rename injective before
          obtain ⟨solvedLater, haltLater, arenaLater⟩ :=
            ih fun other member id mentions => stays id (later other member id mentions)
          rw [List.map_cons, walk_cons_ok renamed, walk_cons_ok result]
          refine ⟨?_, haltLater, fun id before => arenaLater id (stays id before)⟩
          rw [solvedLater, List.map_cons]

omit [LE α] [DecidableLE α] in
theorem SolvedBlock.map_freedom?_rename (rename : UnknownId → UnknownId)
    (solved : List (SolvedBlock α)) :
    (solved.map (SolvedBlock.rename rename)).map (SolvedBlock.freedom? decompose) =
      (solved.map (SolvedBlock.freedom? decompose)).map
        (Option.map (ComponentFreedom.rename rename)) := by
  rw [List.map_map, List.map_map]
  refine List.map_congr_left fun block _ => ?_
  exact (block.system.measuresAlike_rename rename).freedom?_eq rfl decompose
    block.solution.assignment

/-- Injectively renamed, a system has the same components and is solved in the same way, and the
result differs in names only. Unknowns with the same value before still have the same value. -/
theorem renamed_system_solves_alike (injective : Function.Injective rename)
    {constraints : List (Constraint UnknownId α)}
    (same : ∀ c ∈ constraints, ∀ id ∈ c.unknowns, arena'.value? (rename id) = arena.value? id) :
    (components (constraints.map (Constraint.map rename))).map (fun part => part.map Fin.val) =
        (components constraints).map (fun part => part.map Fin.val) ∧
      (solveWithFreedom decompose settings (constraints.map (Constraint.map rename)) arena').1 =
        (solveWithFreedom decompose settings constraints arena).1.rename rename ∧
      ∀ id, arena'.value? (rename id) = arena.value? id →
        (solveWithFreedom decompose settings
            (constraints.map (Constraint.map rename)) arena').2.value? (rename id) =
          (solveWithFreedom decompose settings constraints arena).2.value? id := by
  have sameInBlocks : ∀ block ∈ blocks constraints, ∀ id ∈ block.unknowns,
      Arena.Corresponds rename arena arena' id := by
    intro block member id mentions
    obtain ⟨part, _, isBlock⟩ := List.mem_map.mp member
    subst isBlock
    obtain ⟨i, _, inUnknowns⟩ := (mem_unknowns_blockOf constraints).mp mentions
    exact same _ (List.get_mem constraints i) id inUnknowns
  obtain ⟨solved, halt, left⟩ := walk_rename decompose settings injective sameInBlocks
  rw [← blocks_map constraints injective] at solved halt left
  refine ⟨positions_components_map constraints injective, ?_, left⟩
  unfold solveWithFreedom
  dsimp only
  rw [lint_map injective]
  refine Walk.result_rename solved halt ?_
  have freedom := SolvedBlock.map_freedom?_rename decompose rename
    (walk decompose settings (blocks constraints) arena).solved
  unfold SolvedBlock.freedom? at freedom
  rw [SolvedBlock.map_report_rename, freedom, Freedom.ofResults_rename]
  rfl

theorem swapped_unknowns_solve_alike :
    (∀ c ∈ twoFixed, ∀ id ∈ c.unknowns,
      (Arena.ofValues [5, (1 : Float)]).value? (Equiv.swap 0 1 id) =
        (Arena.ofValues [1, 5]).value? id) ∧
    ∃ report freedom, solveWithFreedom unitFactors ⟨100, 1e-10⟩ twoFixed (Arena.ofValues [1, 5]) =
        (.solved (report, freedom), Arena.ofValues [3, 5]) ∧
      ∃ left, solveWithFreedom unitFactors ⟨100, 1e-10⟩ [.fixed 1 3, .fixed 0 5]
          (Arena.ofValues [5, 1]) =
        (.solved (report.rename (Equiv.swap 0 1), freedom.rename (Equiv.swap 0 1)), left) ∧
      left.value? 1 = some 3 ∧ left.value? 0 = some 5 := by
  have same : ∀ c ∈ twoFixed, ∀ id ∈ c.unknowns,
      (Arena.ofValues [5, (1 : Float)]).value? (Equiv.swap 0 1 id) =
        (Arena.ofValues [1, 5]).value? id := by
    decide +kernel
  obtain ⟨_, result, values⟩ := renamed_system_solves_alike unitFactors ⟨100, 1e-10⟩
    (Equiv.swap 0 1).injective same
  obtain ⟨⟨report, freedom⟩, solved⟩ :=
    solveWithFreedom_solved_iff.mpr (solve_solved_iff.mp solve_twoFixed)
  rw [solved] at result values
  refine ⟨same, report, freedom, solved, _, Prod.ext result rfl, ?_, ?_⟩
  · exact values 0 (by decide +kernel)
  · exact values 1 (by decide +kernel)

end Drafting
