import Mathlib.Data.List.Forall2
import Drafting.Solve
import Drafting.Proofs.Blocks
import Drafting.Proofs.ComponentColumns
import Drafting.Proofs.Iteration

/-!
# The walk over separate blocks

Blocks that share no unknown do not see what is written for one another. So a walk over them solves
each block as if it were the only one, up to the first that does not work out, and what it writes
for one block is still there in the end.
-/

namespace Drafting

variable {α : Type}

theorem exists_related {β γ : Type} {related : β → γ → Prop} {left : List β} {right : List γ}
    (all : List.Forall₂ related left right) {b : β} (member : b ∈ left) :
    ∃ c ∈ right, related b c := by
  induction all with
  | nil => cases member
  | cons head _ ih =>
      rcases List.mem_cons.mp member with same | later
      · subst same
        exact ⟨_, List.mem_cons_self, head⟩
      · obtain ⟨c, inRight, holds⟩ := ih later
        exact ⟨c, List.mem_cons_of_mem _ inRight, holds⟩

theorem map_eq_of_related {β γ δ : Type} {related : β → γ → Prop} {left : List β} {right : List γ}
    (all : List.Forall₂ related left right) {f : β → δ} {g : γ → δ}
    (same : ∀ b c, related b c → f b = g c) : left.map f = right.map g := by
  induction all with
  | nil => rfl
  | cons head _ ih => rw [List.map_cons, List.map_cons, same _ _ head, ih]

theorem forall₂_of_common {β γ δ : Type} {left : β → γ → Prop} {right : β → δ → Prop}
    {related : γ → δ → Prop} {bs : List β} {cs : List γ} {ds : List δ}
    (toLeft : List.Forall₂ left bs cs) (toRight : List.Forall₂ right bs ds)
    (all : ∀ b c d, left b c → right b d → related c d) : List.Forall₂ related cs ds := by
  induction toLeft generalizing ds with
  | nil =>
      cases toRight
      exact List.Forall₂.nil
  | cons head _ ih =>
      cases toRight with
      | cons otherHead others => exact List.Forall₂.cons (all _ _ _ head otherHead) (ih others)

theorem filterMap_toOption {β γ ε : Type} {f : β → Except ε γ} {left : List β} {right : List γ}
    (all : List.Forall₂ (fun b c => f b = .ok c) left right) :
    left.filterMap (fun b => (f b).toOption) = right := by
  induction all with
  | nil => rfl
  | cons head _ ih => rw [List.filterMap_cons_some (by rw [head]; rfl), ih]

section Writes

def writeAll (arena : Arena α) (solved : List (SolvedBlock α)) : Arena α :=
  solved.foldl (fun arena block => block.writeTo arena) arena

private theorem contains_writeTo_iff {solved : SolvedBlock α} {arena : Arena α}
    {ids : List UnknownId} : (solved.writeTo arena).Contains ids ↔ arena.Contains ids := by
  unfold Arena.Contains SolvedBlock.writeTo
  rw [Arena.size_write]

@[simp] theorem size_writeAll (arena : Arena α) (solved : List (SolvedBlock α)) :
    (writeAll arena solved).size = arena.size := by
  induction solved generalizing arena with
  | nil => rfl
  | cons block rest ih => exact (ih (block.writeTo arena)).trans (Arena.size_write ..)

@[simp] theorem names_writeAll (arena : Arena α) (solved : List (SolvedBlock α)) :
    (writeAll arena solved).names = arena.names := by
  induction solved generalizing arena with
  | nil => rfl
  | cons block rest ih => exact (ih (block.writeTo arena)).trans (Arena.names_write ..)

theorem value?_writeAll_of_untouched (arena : Arena α) {solved : List (SolvedBlock α)}
    {id : UnknownId} (untouched : ∀ block ∈ solved, id ∉ block.system.columns) :
    (writeAll arena solved).value? id = arena.value? id := by
  induction solved generalizing arena with
  | nil => rfl
  | cons block rest ih =>
      obtain ⟨here, later⟩ := List.forall_mem_cons.mp untouched
      exact (ih (block.writeTo arena) later).trans (Arena.value?_write_of_not_mem arena here _)

theorem value?_writeAll_of_mem {arena : Arena α} {solved : List (SolvedBlock α)}
    (separate : solved.Pairwise fun block other =>
      ∀ id ∈ block.system.columns, id ∉ other.system.columns)
    {block : SolvedBlock α} (member : block ∈ solved) (distinct : block.system.columns.Nodup)
    (known : arena.Contains block.system.columns) (j : Fin block.system.width) :
    (writeAll arena solved).value? (block.system.columns.get j) =
      some (block.solution.assignment.get j) := by
  induction solved generalizing arena with
  | nil => cases member
  | cons first rest ih =>
      obtain ⟨apart, restSeparate⟩ := List.pairwise_cons.mp separate
      rcases List.mem_cons.mp member with same | later
      · subst same
        have written := Arena.value?_write_get distinct known block.solution.assignment j
        refine Eq.trans (value?_writeAll_of_untouched (block.writeTo arena) ?_) written
        intro other isLater
        exact apart other isLater _ (List.get_mem block.system.columns j)
      · apply ih restSeparate later
        intro id inColumns
        exact (known id inColumns).trans_eq (Arena.size_write ..).symm

end Writes

section Result

variable {β : Type} {walked : Walk α} {warnings : List (Warning α)}
  {finish : List (SolvedBlock α) → β}

namespace Walk

theorem result_eq_solved_iff {answer : β} :
    walked.result warnings finish = .solved answer ↔
      walked.halt = none ∧ finish walked.solved = answer := by
  unfold result
  cases ends : walked.halt with
  | none => simp
  | some halt => cases halt <;> simp

theorem exists_result_eq_solved_iff :
    (∃ answer, walked.result warnings finish = .solved answer) ↔ walked.halt = none := by
  simp only [result_eq_solved_iff, exists_and_left, exists_eq', and_true]

theorem result_eq_failed_iff {failure : SolveFailure α} :
    walked.result warnings finish = .failed failure ↔
      walked.halt = some (.failed failure.failedPositions failure.error) ∧
        failure.failedComponent = walked.solved.length ∧
        failure.solved = walked.solved.map SolvedBlock.report ∧ failure.warnings = warnings := by
  unfold result
  cases ends : walked.halt with
  | none => simp
  | some halt =>
      cases halt with
      | outsideArena => simp
      | failed positions error =>
          cases failure
          constructor
          · intro same
            cases same
            exact ⟨rfl, rfl, rfl, rfl⟩
          · rintro ⟨same, index, reports, warned⟩
            cases same
            cases index
            cases reports
            cases warned
            rfl

theorem result_eq_outsideArena_iff :
    walked.result warnings finish = .outsideArena ↔ walked.halt = some .outsideArena := by
  unfold result
  cases ends : walked.halt with
  | none => simp
  | some halt => cases halt <;> simp

end Walk

end Result

variable [Precision α] [NatCast α] [Add α] [Sub α] [Mul α] [Div α] [Neg α]
  [OfNat α 0] [OfNat α 1] [OfNat α 2] [LT α] [DecidableLT α] [LE α] [DecidableLE α]
variable {decompose : Decomposition α} {settings : Settings α}

section Block

variable {block : Block α} {arena other : Arena α}

theorem solveBlock_cases (decompose : Decomposition α) (settings : Settings α)
    (block : Block α) (arena : Arena α) :
    (∃ (known : arena.Contains block.unknowns) (solution : Solution _ α),
      (ComponentSystem.ofConstraints block.constraints).refine decompose settings
          (arena.read block.unknowns known) = .ok solution ∧
        solveBlock decompose settings block arena =
          .ok ⟨block.positions, ComponentSystem.ofConstraints block.constraints, solution⟩) ∨
    (∃ (known : arena.Contains block.unknowns) (error : SolveError α),
      (ComponentSystem.ofConstraints block.constraints).refine decompose settings
          (arena.read block.unknowns known) = .error error ∧
        solveBlock decompose settings block arena = .error (.failed block.positions error)) ∨
    ¬arena.Contains block.unknowns ∧
      solveBlock decompose settings block arena = .error .outsideArena := by
  unfold solveBlock
  dsimp only
  split
  · rename_i known
    split
    · rename_i solution found
      exact Or.inl ⟨known, solution, found, rfl⟩
    · rename_i error found
      exact Or.inr (Or.inl ⟨known, error, found, rfl⟩)
  · rename_i unknown
    exact Or.inr (Or.inr ⟨unknown, rfl⟩)

theorem solveBlock_eq_ok_iff {solved : SolvedBlock α} :
    solveBlock decompose settings block arena = .ok solved ↔
      ∃ (known : arena.Contains block.unknowns)
        (solution : Solution (ComponentSystem.ofConstraints block.constraints).width α),
        (ComponentSystem.ofConstraints block.constraints).refine decompose settings
            (arena.read block.unknowns known) = .ok solution ∧
          solved = ⟨block.positions, ComponentSystem.ofConstraints block.constraints, solution⟩ := by
  rcases solveBlock_cases decompose settings block arena with
    ⟨known, solution, found, result⟩ | ⟨known, error, found, result⟩ | ⟨unknown, result⟩
  · rw [result]
    constructor
    · intro solves
      exact ⟨known, solution, found, (Except.ok.inj solves).symm⟩
    · rintro ⟨_, other, alsoFound, same⟩
      rw [Except.ok.inj (found.symm.trans alsoFound), same]
  · rw [result]
    constructor
    · intro impossible
      cases impossible
    · rintro ⟨_, other, alsoFound, _⟩
      cases found.symm.trans alsoFound
  · rw [result]
    constructor
    · intro impossible
      cases impossible
    · rintro ⟨known, _⟩
      exact absurd known unknown

theorem solveBlock_outsideArena_iff :
    solveBlock decompose settings block arena = .error .outsideArena ↔
      ¬arena.Contains block.unknowns := by
  rcases solveBlock_cases decompose settings block arena with
    ⟨known, solution, _, result⟩ | ⟨known, error, _, result⟩ | ⟨unknown, result⟩
  · simp [result, known]
  · simp [result, known]
  · simp [result, unknown]

theorem solveBlock_eq_failed_iff {positions : List Nat} {error : SolveError α} :
    solveBlock decompose settings block arena = .error (.failed positions error) ↔
      positions = block.positions ∧
        ∃ known : arena.Contains block.unknowns,
          (ComponentSystem.ofConstraints block.constraints).refine decompose settings
            (arena.read block.unknowns known) = .error error := by
  rcases solveBlock_cases decompose settings block arena with
    ⟨known, solution, found, result⟩ | ⟨known, other, found, result⟩ | ⟨unknown, result⟩
  · rw [result]
    constructor
    · intro impossible
      cases impossible
    · rintro ⟨_, _, alsoFound⟩
      cases found.symm.trans alsoFound
  · rw [result]
    constructor
    · intro failed
      cases failed
      exact ⟨rfl, known, found⟩
    · rintro ⟨same, _, alsoFound⟩
      cases found.symm.trans alsoFound
      rw [same]
  · rw [result]
    constructor
    · intro impossible
      cases impossible
    · rintro ⟨_, known, _⟩
      exact absurd known unknown

theorem positions_of_solveBlock_failed {positions : List Nat} {error : SolveError α}
    (failed : solveBlock decompose settings block arena = .error (.failed positions error)) :
    positions = block.positions :=
  (solveBlock_eq_failed_iff.mp failed).1

/-- Only the values of a block's own unknowns matter. -/
theorem solveBlock_congr (agree : Arena.AgreeOn block.unknowns arena other) :
    solveBlock decompose settings block arena = solveBlock decompose settings block other := by
  have agreeColumns :
      Arena.AgreeOn (ComponentSystem.ofConstraints block.constraints).columns arena other := agree
  unfold solveBlock
  dsimp only
  by_cases known : arena.Contains (ComponentSystem.ofConstraints block.constraints).columns
  · have otherKnown := agreeColumns.contains_iff.mp known
    rw [dif_pos known, dif_pos otherKnown, agreeColumns.read_eq known otherKnown]
  · rw [dif_neg known, dif_neg (agreeColumns.contains_iff.not.mp known)]

theorem walk_cons_ok {rest : List (Block α)} {solved : SolvedBlock α}
    (solves : solveBlock decompose settings block arena = .ok solved) :
    walk decompose settings (block :: rest) arena =
      { walk decompose settings rest (solved.writeTo arena) with
        solved := solved :: (walk decompose settings rest (solved.writeTo arena)).solved } := by
  rw [walk, solves]

theorem walk_cons_error {rest : List (Block α)} {halt : Halt α}
    (halts : solveBlock decompose settings block arena = .error halt) :
    walk decompose settings (block :: rest) arena = ⟨[], some halt, arena⟩ := by
  rw [walk, halts]

end Block

/-- What a walk over separate blocks does, in terms of the arena that it starts from. -/
structure WalksTo (decompose : Decomposition α) (settings : Settings α) (blocks : List (Block α))
    (arena : Arena α) (walked : Walk α) : Prop where
  solves : List.Forall₂ (fun block solved => solveBlock decompose settings block arena = .ok solved)
    (blocks.take walked.solved.length) walked.solved
  ends : match walked.halt with
    | none => walked.solved.length = blocks.length
    | some halt => ∃ block, blocks[walked.solved.length]? = some block ∧
        solveBlock decompose settings block arena = .error halt
  leaves : walked.arena = writeAll arena walked.solved

theorem walk_walksTo {blocks : List (Block α)} (separate : Separate blocks) (arena : Arena α) :
    WalksTo decompose settings blocks arena (walk decompose settings blocks arena) := by
  induction blocks generalizing arena with
  | nil => exact ⟨List.Forall₂.nil, rfl, rfl⟩
  | cons block rest ih =>
      obtain ⟨apart, restSeparate⟩ := List.pairwise_cons.mp separate
      cases result : solveBlock decompose settings block arena with
      | error halt =>
          rw [walk_cons_error result]
          exact ⟨List.Forall₂.nil, ⟨block, rfl, result⟩, rfl⟩
      | ok solved =>
          have later := ih restSeparate (solved.writeTo arena)
          -- Later blocks share no unknown with this one, so they do not see what it wrote.
          have unseen (other : Block α) (member : other ∈ rest) :
              solveBlock decompose settings other (solved.writeTo arena) =
                solveBlock decompose settings other arena := by
            obtain ⟨known, solution, _, same⟩ := solveBlock_eq_ok_iff.mp result
            subst same
            apply solveBlock_congr
            intro id inOther
            apply Arena.value?_write_of_not_mem
            intro inBlock
            exact apart other member id inBlock inOther
          rw [walk_cons_ok result]
          refine ⟨?_, ?_, later.leaves⟩
          · refine List.Forall₂.cons result ?_
            refine ((List.forall₂_and_left _ _).mpr
              ⟨fun other member => unseen other (List.mem_of_mem_take member), later.solves⟩).imp ?_
            rintro other otherSolved ⟨same, solves⟩
            exact same.symm.trans solves
          · have ends := later.ends
            dsimp only
            split at ends
            · exact congrArg Nat.succ ends
            · obtain ⟨other, atEnd, halts⟩ := ends
              have member := List.mem_of_getElem? atEnd
              exact ⟨other, atEnd, (unseen other member).symm.trans halts⟩

/-- The components of a system are separate, so a walk over them is such a walk. -/
theorem components_walksTo (decompose : Decomposition α) (settings : Settings α)
    (constraints : List (Constraint UnknownId α)) (arena : Arena α) :
    WalksTo decompose settings (blocks constraints) arena
      (walk decompose settings (blocks constraints) arena) :=
  walk_walksTo (separate_blocks constraints) arena

section Stops

variable {blocks : List (Block α)} {arena : Arena α}

theorem contains_of_halt_none (complete : (walk decompose settings blocks arena).halt = none) :
    ∀ block ∈ blocks, arena.Contains block.unknowns := by
  induction blocks generalizing arena with
  | nil =>
      intro block member
      cases member
  | cons first rest ih =>
      cases result : solveBlock decompose settings first arena with
      | error halt =>
          rw [walk_cons_error result] at complete
          cases complete
      | ok solved =>
          rw [walk_cons_ok result] at complete
          obtain ⟨known, _⟩ := solveBlock_eq_ok_iff.mp result
          refine List.forall_mem_cons.mpr ⟨known, ?_⟩
          intro block member
          exact contains_writeTo_iff.mp (ih complete block member)

/-- If the blocks before one with an unknown outside the arena are all solved, the walk ends there
with what they left. -/
theorem walk_eq_of_unknown {k : Nat} {block : Block α} (atK : blocks[k]? = some block)
    (unknown : ¬arena.Contains block.unknowns)
    (complete : (walk decompose settings (blocks.take k) arena).halt = none) :
    walk decompose settings blocks arena =
      { walk decompose settings (blocks.take k) arena with halt := some .outsideArena } := by
  induction blocks generalizing arena k with
  | nil => cases atK
  | cons first rest ih =>
      cases k with
      | zero =>
          cases atK
          rw [walk_cons_error (solveBlock_outsideArena_iff.mpr unknown), List.take_zero, walk]
      | succ k =>
          rw [List.take_succ_cons] at complete ⊢
          cases result : solveBlock decompose settings first arena with
          | error halt =>
              rw [walk_cons_error result] at complete
              cases complete
          | ok solved =>
              rw [walk_cons_ok result] at complete
              rw [walk_cons_ok result, walk_cons_ok result,
                ih atK (contains_writeTo_iff.not.mpr unknown) complete]

theorem exists_unknown_of_halt
    (halts : (walk decompose settings blocks arena).halt = some .outsideArena) :
    ∃ k block, blocks[k]? = some block ∧ ¬arena.Contains block.unknowns ∧
      (walk decompose settings (blocks.take k) arena).halt = none := by
  induction blocks generalizing arena with
  | nil => cases halts
  | cons first rest ih =>
      cases result : solveBlock decompose settings first arena with
      | error halt =>
          rw [walk_cons_error result] at halts
          cases halts
          exact ⟨0, first, rfl, solveBlock_outsideArena_iff.mp result, rfl⟩
      | ok solved =>
          rw [walk_cons_ok result] at halts
          obtain ⟨k, block, atK, unknown, complete⟩ := ih halts
          refine ⟨k + 1, block, atK, contains_writeTo_iff.not.mp unknown, ?_⟩
          rw [List.take_succ_cons, walk_cons_ok result]
          exact complete

end Stops

def Constraint.PassesIn (c : Constraint UnknownId α) (arena : Arena α) (tolerance : α) : Prop :=
  ∃ r, c.residualIn? arena = some r ∧ Passes tolerance r

omit [NatCast α] [Div α] [OfNat α 1] [OfNat α 2] in
/-- Measured at values that an arena holds, a component is within the tolerance if its constraints are
so in the arena. -/
theorem ComponentSystem.error_le_iff_passesIn [LawfulPrecision α]
    {constraints : List (Constraint UnknownId α)} {arena : Arena α} {tolerance : α}
    {assignment : Vector α (ofConstraints constraints).width}
    (holds : ∀ j, arena.value? ((ofConstraints constraints).columns.get j) =
      some (assignment.get j)) :
    (ofConstraints constraints).error assignment ≤ tolerance ↔
      0 ≤ tolerance ∧ ∀ c ∈ constraints, c.PassesIn arena tolerance := by
  have residuals := residual_ofConstraints constraints assignment arena.reading
    (fun j => Arena.reading_eq (holds j))
  have measured {c : Constraint UnknownId α} (member : c ∈ constraints) :
      c.residualIn? arena = some (c.residual arena.reading) := by
    have contained : arena.Contains c.unknowns := by
      intro id mentions
      exact Arena.contains_of_holds holds id (mem_mentioned.mpr ⟨c, member, mentions⟩)
    rw [Constraint.residualIn?_eq, if_pos contained]
  rw [error_le_iff, residuals, List.forall_mem_map]
  apply and_congr_right
  intro _
  apply forall₂_congr
  intro c member
  rw [Constraint.PassesIn, measured member]
  simp only [Option.some.injEq, exists_eq_left']

namespace WalksTo

variable {blocks : List (Block α)} {arena : Arena α} {walked : Walk α}

theorem map_solved {β : Type} (walks : WalksTo decompose settings blocks arena walked)
    {f : Block α → β} {g : SolvedBlock α → β}
    (same : ∀ (block : Block α) (solution : Solution _ α),
      f block = g ⟨block.positions, ComponentSystem.ofConstraints block.constraints, solution⟩) :
    (blocks.take walked.solved.length).map f = walked.solved.map g := by
  apply map_eq_of_related walks.solves
  intro block solved solves
  obtain ⟨_, solution, _, isSolved⟩ := solveBlock_eq_ok_iff.mp solves
  rw [isSolved]
  exact same block solution

theorem columns_solved (walks : WalksTo decompose settings blocks arena walked) :
    (blocks.take walked.solved.length).map Block.unknowns =
      walked.solved.map fun solved => solved.system.columns :=
  walks.map_solved fun _ _ => rfl

theorem positions_solved (walks : WalksTo decompose settings blocks arena walked) :
    (blocks.take walked.solved.length).map Block.positions =
      walked.solved.map fun solved => solved.positions :=
  walks.map_solved fun _ _ => rfl

theorem value?_of_unsolved (walks : WalksTo decompose settings blocks arena walked)
    {id : UnknownId} (unsolved : ∀ block ∈ blocks.take walked.solved.length, id ∉ block.unknowns) :
    walked.arena.value? id = arena.value? id := by
  rw [walks.leaves]
  apply value?_writeAll_of_untouched
  intro solved member inColumns
  have listed : solved.system.columns ∈ (blocks.take walked.solved.length).map Block.unknowns := by
    rw [walks.columns_solved]
    exact List.mem_map_of_mem member
  obtain ⟨block, blockMember, same⟩ := List.mem_map.mp listed
  rw [← same] at inColumns
  exact unsolved block blockMember inColumns

theorem separate_solved (walks : WalksTo decompose settings blocks arena walked)
    (separate : Separate blocks) :
    walked.solved.Pairwise fun solved other =>
      ∀ id ∈ solved.system.columns, id ∉ other.system.columns := by
  have taken := separate.sublist (List.take_sublist walked.solved.length blocks)
  have mapped : ((blocks.take walked.solved.length).map Block.unknowns).Pairwise
      fun ids others => ∀ id ∈ ids, id ∉ others := List.pairwise_map.mpr taken
  rw [walks.columns_solved, List.pairwise_map] at mapped
  exact mapped

theorem value?_of_solved (walks : WalksTo decompose settings blocks arena walked)
    (separate : Separate blocks) {solved : SolvedBlock α} (member : solved ∈ walked.solved)
    (distinct : solved.system.columns.Nodup) (known : arena.Contains solved.system.columns)
    (j : Fin solved.system.width) :
    walked.arena.value? (solved.system.columns.get j) = some (solved.solution.assignment.get j) := by
  rw [walks.leaves]
  exact value?_writeAll_of_mem (walks.separate_solved separate) member distinct known j

theorem length_solved (walks : WalksTo decompose settings blocks arena walked)
    (complete : walked.halt = none) : walked.solved.length = blocks.length := by
  have ends := walks.ends
  rwa [complete] at ends

/-- A completed walk has solved every block, in order. -/
theorem all_solved (walks : WalksTo decompose settings blocks arena walked)
    (complete : walked.halt = none) :
    List.Forall₂ (fun block solved => solveBlock decompose settings block arena = .ok solved)
      blocks walked.solved := by
  have solves := walks.solves
  rwa [walks.length_solved complete, List.take_length] at solves

theorem forall₂_solved (walks : WalksTo decompose settings blocks arena walked)
    (complete : walked.halt = none) {related : Block α → SolvedBlock α → Prop}
    (each : ∀ block ∈ blocks, ∀ solved ∈ walked.solved,
      solveBlock decompose settings block arena = .ok solved → related block solved) :
    List.Forall₂ related blocks walked.solved := by
  have all := walks.all_solved complete
  have relates : ∀ block ∈ blocks, ∀ solved,
      solveBlock decompose settings block arena = .ok solved → related block solved := by
    intro block listed solved solves
    obtain ⟨found, member, alsoSolves⟩ := exists_related all listed
    cases alsoSolves.symm.trans solves
    exact each block listed solved member solves
  apply ((List.forall₂_and_left _ _).mpr ⟨relates, all⟩).imp
  intro block solved pair
  exact pair.1 solved pair.2

theorem halt_eq_none_iff (walks : WalksTo decompose settings blocks arena walked) :
    walked.halt = none ↔
      ∀ block ∈ blocks, ∃ solved, solveBlock decompose settings block arena = .ok solved := by
  constructor
  · intro complete block member
    obtain ⟨solved, _, found⟩ := exists_related (walks.all_solved complete) member
    exact ⟨solved, found⟩
  · intro all
    cases halts : walked.halt with
    | none => rfl
    | some halt =>
        have ends := walks.ends
        rw [halts] at ends
        obtain ⟨block, atStop, fails⟩ := ends
        obtain ⟨solved, solves⟩ := all block (List.mem_of_getElem? atStop)
        cases solves.symm.trans fails

theorem solved_eq_filterMap (walks : WalksTo decompose settings blocks arena walked)
    (complete : walked.halt = none) :
    walked.solved =
      blocks.filterMap fun block => (solveBlock decompose settings block arena).toOption :=
  (filterMap_toOption (walks.all_solved complete)).symm

/-- Every constraint of a solved block passes the tolerance in the arena that is left. -/
theorem passesIn_of_solved [LawfulPrecision α]
    (walks : WalksTo decompose settings blocks arena walked) (separate : Separate blocks)
    {block : Block α} (member : block ∈ blocks.take walked.solved.length)
    {c : Constraint UnknownId α} (inBlock : c ∈ block.constraints) :
    c.PassesIn walked.arena settings.tolerance := by
  obtain ⟨solved, solvedMember, solves⟩ := exists_related walks.solves member
  obtain ⟨known, solution, found, same⟩ := solveBlock_eq_ok_iff.mp solves
  subst same
  -- The search measured over columns. The arena that is left gives them the same values.
  have values := walks.value?_of_solved separate solvedMember (nodup_mentioned _) known
  have small := ComponentSystem.error_le_of_refine found
  exact ((ComponentSystem.error_le_iff_passesIn values).mp small).2 c inBlock

end WalksTo

def SolvedBlock.freedom? (decompose : Decomposition α) (solved : SolvedBlock α) :
    Option ComponentFreedom :=
  solved.system.freedom? decompose solved.solution.assignment

section Calls

variable {constraints : List (Constraint UnknownId α)} {arena left : Arena α}

theorem solve_solved_iff :
    (∃ report, solve decompose settings constraints arena = (.solved report, left)) ↔
      (walk decompose settings (blocks constraints) arena).halt = none ∧
        (walk decompose settings (blocks constraints) arena).arena = left := by
  simp only [solve, Prod.mk.injEq, exists_and_right, Walk.exists_result_eq_solved_iff]

theorem solve_eq_solved_iff {report : SolveReport α} :
    solve decompose settings constraints arena = (.solved report, left) ↔
      (walk decompose settings (blocks constraints) arena).halt = none ∧
        (⟨(walk decompose settings (blocks constraints) arena).solved.map SolvedBlock.report,
          lint constraints⟩ : SolveReport α) = report ∧
        (walk decompose settings (blocks constraints) arena).arena = left := by
  simp only [solve, Prod.mk.injEq, Walk.result_eq_solved_iff, and_assoc]

/-- Every constraint of a solved system passes the tolerance in the arena that is left. -/
theorem passesIn_of_halt_none [LawfulPrecision α]
    (complete : (walk decompose settings (blocks constraints) arena).halt = none)
    {c : Constraint UnknownId α} (member : c ∈ constraints) :
    c.PassesIn (walk decompose settings (blocks constraints) arena).arena settings.tolerance := by
  have walks := components_walksTo decompose settings constraints arena
  obtain ⟨block, blockMember, inBlock⟩ := exists_block_of_mem constraints member
  refine walks.passesIn_of_solved (separate_blocks constraints) ?_ inBlock
  rwa [walks.length_solved complete, List.take_length]

theorem solveWithFreedom_solved_iff :
    (∃ report, solveWithFreedom decompose settings constraints arena = (.solved report, left)) ↔
      (walk decompose settings (blocks constraints) arena).halt = none ∧
        (walk decompose settings (blocks constraints) arena).arena = left := by
  simp only [solveWithFreedom, Prod.mk.injEq, exists_and_right, Walk.exists_result_eq_solved_iff]

theorem solveWithFreedom_eq_solved_iff {report : SolveReport α} {freedom : Freedom} :
    solveWithFreedom decompose settings constraints arena = (.solved (report, freedom), left) ↔
      (walk decompose settings (blocks constraints) arena).halt = none ∧
        (⟨(walk decompose settings (blocks constraints) arena).solved.map SolvedBlock.report,
          lint constraints⟩ : SolveReport α) = report ∧
        Freedom.ofResults ((walk decompose settings (blocks constraints) arena).solved.map
          (SolvedBlock.freedom? decompose)) = freedom ∧
        (walk decompose settings (blocks constraints) arena).arena = left := by
  simp only [solveWithFreedom, Prod.mk.injEq, Walk.result_eq_solved_iff, and_assoc]
  rfl

variable {failure : SolveFailure α}

theorem solve_failed_iff :
    solve decompose settings constraints arena = (.failed failure, left) ↔
      (walk decompose settings (blocks constraints) arena).result (lint constraints) id =
          .failed failure ∧
        (walk decompose settings (blocks constraints) arena).arena = left := by
  simp only [solve, Prod.mk.injEq, Walk.result_eq_failed_iff]

theorem solveWithFreedom_failed_iff :
    solveWithFreedom decompose settings constraints arena = (.failed failure, left) ↔
      (walk decompose settings (blocks constraints) arena).result (lint constraints) id =
          .failed failure ∧
        (walk decompose settings (blocks constraints) arena).arena = left := by
  simp only [solveWithFreedom, Prod.mk.injEq, Walk.result_eq_failed_iff]

end Calls

end Drafting
