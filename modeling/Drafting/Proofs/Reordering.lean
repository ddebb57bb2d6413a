import Drafting.Proofs.Solving
import Drafting.Proofs.Walk.Sequence

/-!
# Systems in another order

The constraints of different components may be given in any order. As long as those of one component
keep theirs, the same components are solved from the same values, and only the order in which they are
listed changes.
-/

namespace Drafting

variable {α : Type}

/-- The same constraints in other places, those of one component still in their order. -/
structure Reordering (constraints reordered : List (Constraint UnknownId α)) where
  place : Fin constraints.length ≃ Fin reordered.length
  moved : ∀ i, reordered.get (place i) = constraints.get i
  ordered : ∀ i j, Connected constraints i j → i < j → place i < place j

namespace Reordering

variable {constraints reordered : List (Constraint UnknownId α)}

def position (reordering : Reordering constraints reordered) (i : Nat) : Nat :=
  if known : i < constraints.length then (reordering.place ⟨i, known⟩).val else i

theorem position_val (reordering : Reordering constraints reordered) (i : Fin constraints.length) :
    reordering.position i.val = (reordering.place i).val :=
  dif_pos i.isLt

theorem embeds (reordering : Reordering constraints reordered) :
    Embeds id constraints reordered reordering.place where
  rename_injective := Function.injective_id
  place_injective := reordering.place.injective
  renames := fun i => (reordering.moved i).trans (Constraint.map_id _).symm
  closed := fun _ j _ => reordering.place.surjective j
  ordered := reordering.ordered

theorem firsts_perm (reordering : Reordering constraints reordered) :
    (firsts reordered).Perm ((firsts constraints).map reordering.place) := by
  have distinct := (nodup_firsts constraints).map reordering.place.injective
  refine (List.perm_ext_iff_of_nodup (nodup_firsts reordered) distinct).mpr fun j => ?_
  obtain ⟨i, same⟩ := reordering.place.surjective j
  subst same
  rw [reordering.embeds.mem_firsts_iff, List.mem_map_of_injective reordering.place.injective]

theorem blocks_perm (reordering : Reordering constraints reordered) :
    (blocks reordered).Perm
      ((blocks constraints).map (Block.reposition reordering.position)) := by
  have moved : (firsts constraints).map (blockFrom reordered ∘ reordering.place) =
      (firsts constraints).map
        (Block.reposition reordering.position ∘ blockFrom constraints) := by
    refine List.map_congr_left fun i _ => ?_
    have found := reordering.embeds.blockFrom_eq reordering.position
      (fun i => (reordering.position_val i).symm) i
    rwa [Block.rename_id] at found
  rw [blocks_eq_map_blockFrom, blocks_eq_map_blockFrom, List.map_map, ← moved, ← List.map_map]
  exact reordering.firsts_perm.map (blockFrom reordered)

end Reordering

theorem writeAll_perm {solved others : List (SolvedBlock α)} (perm : solved.Perm others)
    (separate : solved.Pairwise fun block other =>
      ∀ id ∈ block.system.columns, id ∉ other.system.columns) (arena : Arena α) :
    writeAll arena solved = writeAll arena others := by
  have commute : solved.Pairwise fun block other =>
      ∀ arena, other.writeTo (block.writeTo arena) = block.writeTo (other.writeTo arena) :=
    separate.imp fun apart arena => Arena.write_comm arena apart _ _
  have : Std.Symm fun block other : SolvedBlock α =>
      ∀ arena, other.writeTo (block.writeTo arena) = block.writeTo (other.writeTo arena) :=
    ⟨fun _ _ commutes arena => (commutes arena).symm⟩
  refine perm.foldl_eq' (fun block member other otherMember => ?_) arena
  exact commute.forall_of_forall (fun _ _ _ => rfl) member otherMember

@[simp] theorem writeAll_reposition (place : Nat → Nat) (solved : List (SolvedBlock α))
    (arena : Arena α) :
    writeAll arena (solved.map (SolvedBlock.reposition place)) = writeAll arena solved := by
  rw [writeAll, List.foldl_map]
  rfl

variable [Precision α] [NatCast α] [Add α] [Sub α] [Mul α] [Div α] [Neg α]
  [OfNat α 0] [OfNat α 1] [OfNat α 2] [LT α] [DecidableLT α] [LE α] [DecidableLE α]
variable {constraints reordered : List (Constraint UnknownId α)} {decompose : Decomposition α}
  {settings : Settings α} {arena : Arena α}

namespace Reordering

theorem complete_iff (reordering : Reordering constraints reordered) :
    (walk decompose settings (blocks reordered) arena).halt = none ↔
      (walk decompose settings (blocks constraints) arena).halt = none := by
  have walks := components_walksTo decompose settings constraints arena
  have walks' := components_walksTo decompose settings reordered arena
  rw [walks'.halt_eq_none_iff, walks.halt_eq_none_iff]
  simp only [reordering.blocks_perm.mem_iff, List.forall_mem_map, solveBlock_reposition]
  refine forall₂_congr fun block _ => ?_
  cases solveBlock decompose settings block arena with
  | ok solved => simp [Except.map, Except.mapError]
  | error halt => simp [Except.map, Except.mapError]

theorem solved_perm (reordering : Reordering constraints reordered)
    (complete : (walk decompose settings (blocks constraints) arena).halt = none) :
    (walk decompose settings (blocks reordered) arena).solved.Perm
      ((walk decompose settings (blocks constraints) arena).solved.map
        (SolvedBlock.reposition reordering.position)) := by
  have walks := components_walksTo decompose settings constraints arena
  have walks' := components_walksTo decompose settings reordered arena
  have moved (block : Block α) :
      (solveBlock decompose settings (block.reposition reordering.position) arena).toOption =
        (solveBlock decompose settings block arena).toOption.map
          (SolvedBlock.reposition reordering.position) := by
    rw [solveBlock_reposition]
    cases solveBlock decompose settings block arena with
    | ok solved => rfl
    | error halt => rfl
  rw [walks.solved_eq_filterMap complete,
    walks'.solved_eq_filterMap (reordering.complete_iff.mpr complete), List.map_filterMap]
  refine (reordering.blocks_perm.filterMap _).trans ?_
  rw [List.filterMap_map]
  exact List.Perm.of_eq (List.filterMap_congr fun block _ => moved block)

theorem arena_eq (reordering : Reordering constraints reordered)
    (complete : (walk decompose settings (blocks constraints) arena).halt = none) :
    (walk decompose settings (blocks reordered) arena).arena =
      (walk decompose settings (blocks constraints) arena).arena := by
  have walks' := components_walksTo decompose settings reordered arena
  rw [walks'.leaves, (components_walksTo decompose settings constraints arena).leaves,
    writeAll_perm (reordering.solved_perm complete)
      (walks'.separate_solved (separate_blocks reordered)),
    writeAll_reposition]

end Reordering

theorem reports_ordered (complete : (walk decompose settings (blocks constraints) arena).halt = none) :
    ((walk decompose settings (blocks constraints) arena).solved.map SolvedBlock.report).Pairwise
      fun report other =>
        ∀ i ∈ report.positions.head?, ∀ j ∈ other.positions.head?, i < j := by
  have walks := components_walksTo decompose settings constraints arena
  have positions := walks.positions_solved
  rw [walks.length_solved complete, List.take_length, positions_blocks] at positions
  have ordered : ((components constraints).map fun part => part.map Fin.val).Pairwise
      fun positions others => ∀ i ∈ positions.head?, ∀ j ∈ others.head?, i < j := by
    rw [List.pairwise_map]
    refine (components_ordered constraints).imp fun precedes i isFirst j isStart => ?_
    rw [List.head?_map] at isFirst isStart
    obtain ⟨first, inPart, same⟩ := Option.mem_map.mp isFirst
    obtain ⟨start, inOther, same'⟩ := Option.mem_map.mp isStart
    subst same same'
    exact precedes first inPart start inOther
  rw [positions, List.pairwise_map] at ordered
  exact List.pairwise_map.mpr ordered

/-- Constraints of different components may be given in any order: the same arena is left, and the
components are reported in the order of their first constraints. -/
theorem reordered_system_solves_alike (reordering : Reordering constraints reordered)
    (decompose : Decomposition α) (settings : Settings α) (arena : Arena α) :
    (∀ report left, solve decompose settings constraints arena = (.solved report, left) →
      ∃ report', solve decompose settings reordered arena = (.solved report', left) ∧
        report'.components.Perm
          (report.components.map (ComponentReport.reposition reordering.position)) ∧
        report'.components.Pairwise fun report other =>
          ∀ i ∈ report.positions.head?, ∀ j ∈ other.positions.head?, i < j) ∧
    ∀ report' left, solve decompose settings reordered arena = (.solved report', left) →
      ∃ report, solve decompose settings constraints arena = (.solved report, left) := by
  constructor
  · intro report left solved
    obtain ⟨complete, reports, leaves⟩ := solve_eq_solved_iff.mp solved
    have complete' := reordering.complete_iff.mpr complete
    refine ⟨_, solve_eq_solved_iff.mpr
      ⟨complete', rfl, (reordering.arena_eq complete).trans leaves⟩, ?_, reports_ordered complete'⟩
    rw [← reports, ← SolvedBlock.map_report_reposition]
    exact (reordering.solved_perm complete).map SolvedBlock.report
  · intro report' left solved
    obtain ⟨complete', leaves⟩ := solve_solved_iff.mp ⟨report', solved⟩
    have complete := reordering.complete_iff.mp complete'
    exact solve_solved_iff.mpr ⟨complete, (reordering.arena_eq complete).symm.trans leaves⟩

abbrev linkedAndApart : List (Constraint UnknownId Float) := [.fixed 0 3, .fixed 1 5, .equal 0 2]

abbrev apartAndLinked : List (Constraint UnknownId Float) := [.fixed 1 5, .fixed 0 3, .equal 0 2]

theorem components_linkedAndApart :
    components linkedAndApart = [[⟨0, by decide⟩, ⟨2, by decide⟩], [⟨1, by decide⟩]] := by
  rw [components_eq]
  cbv

def swapFirstTwo : Reordering linkedAndApart apartAndLinked where
  place := Equiv.swap (0 : Fin 3) 1
  moved := by decide +kernel
  ordered := by
    have listed : ∀ part ∈ ([[0, 2], [1]] : List (List (Fin 3))), ∀ i ∈ part, ∀ j ∈ part,
        i < j → Equiv.swap 0 1 i < Equiv.swap 0 1 j := by
      decide
    intro i j path before
    obtain ⟨part, member, inPart, alsoInPart⟩ := (same_component_iff linkedAndApart i j).mpr path
    rw [components_linkedAndApart] at member
    exact listed part member i inPart j alsoInPart before

theorem swapped_constraints_solve_alike :
    ∃ report report', solve unitFactors ⟨100, 1e-10⟩ linkedAndApart (Arena.ofValues [3, 1, 3]) =
        (.solved report, Arena.ofValues [3, 5, 3]) ∧
      solve unitFactors ⟨100, 1e-10⟩ apartAndLinked (Arena.ofValues [3, 1, 3]) =
        (.solved report', Arena.ofValues [3, 5, 3]) ∧
      report'.components.Perm
        (report.components.map (ComponentReport.reposition swapFirstTwo.position)) := by
  have blocksFound : blocks linkedAndApart =
      [[(0, .fixed 0 3), (2, .equal 0 2)], [(1, .fixed 1 5)]] := by
    rw [blocks, components_linkedAndApart]
    rfl
  have solves : ∃ report, solve unitFactors ⟨100, 1e-10⟩ linkedAndApart
      (Arena.ofValues [3, 1, 3]) = (.solved report, Arena.ofValues [3, 5, 3]) := by
    rw [solve_solved_iff, blocksFound, ← Option.isNone_iff_eq_none]
    constructor
    · decide +kernel
    · decide +kernel
  obtain ⟨report, solved⟩ := solves
  obtain ⟨forward, _⟩ := reordered_system_solves_alike swapFirstTwo unitFactors ⟨100, 1e-10⟩
    (Arena.ofValues [3, 1, 3])
  obtain ⟨report', solved', perm, _⟩ := forward report _ solved
  exact ⟨report, report', solved, solved', perm⟩

end Drafting
