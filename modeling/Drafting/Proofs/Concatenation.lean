import Drafting.Proofs.Lint
import Drafting.Proofs.Solving
import Drafting.Proofs.Walk.Sequence

/-!
# Solving two systems together

Two systems without a common unknown can be solved as one. The components of the one come before
those of the other, and the result is the same as that of solving the first and then, if that works
out, the second.
-/

namespace Drafting

variable {α : Type}

def Unrelated (first second : List (Constraint UnknownId α)) : Prop :=
  ∀ c ∈ first, ∀ d ∈ second, ∀ id ∈ c.unknowns, id ∉ d.unknowns

section Components

variable {first second : List (Constraint UnknownId α)}

def leftPlace (i : Fin first.length) : Fin (first ++ second).length :=
  ⟨i.val, by rw [List.length_append]; omega⟩

def rightPlace (i : Fin second.length) : Fin (first ++ second).length :=
  ⟨i.val + first.length, by rw [List.length_append]; omega⟩

theorem leftPlace_injective :
    Function.Injective (leftPlace : Fin first.length → Fin (first ++ second).length) := by
  intro i j same
  exact Fin.ext (Fin.mk.inj same)

theorem rightPlace_injective :
    Function.Injective (rightPlace : Fin second.length → Fin (first ++ second).length) := by
  intro i j same
  exact Fin.ext (Nat.add_right_cancel (Fin.mk.inj same))

theorem get_leftPlace (i : Fin first.length) :
    (first ++ second).get (leftPlace i) = first.get i :=
  List.getElem_append_left i.isLt

theorem get_rightPlace (i : Fin second.length) :
    (first ++ second).get (rightPlace i) = second.get i := by
  simp [rightPlace]

theorem exists_place (j : Fin (first ++ second).length) :
    (∃ i : Fin first.length, leftPlace i = j) ∨ ∃ i : Fin second.length, rightPlace i = j := by
  by_cases inFirst : j.val < first.length
  · exact Or.inl ⟨⟨j.val, inFirst⟩, rfl⟩
  · have bound : j.val < first.length + second.length :=
      j.isLt.trans_eq List.length_append
    exact Or.inr ⟨⟨j.val - first.length, by omega⟩,
      Fin.ext (Nat.sub_add_cancel (Nat.le_of_not_lt inFirst))⟩

theorem not_sharesUnknown_of_unrelated (unrelated : Unrelated first second) (i : Fin first.length)
    (j : Fin second.length) :
    ¬SharesUnknown (first ++ second) (leftPlace i) (rightPlace j) := by
  rintro ⟨id, left, right⟩
  rw [get_leftPlace] at left
  rw [get_rightPlace] at right
  exact unrelated _ (List.get_mem first i) _ (List.get_mem second j) id left right

theorem embeds_left (unrelated : Unrelated first second) :
    Embeds id first (first ++ second) leftPlace where
  rename_injective := Function.injective_id
  place_injective := leftPlace_injective
  renames := fun i => (get_leftPlace i).trans (Constraint.map_id _).symm
  closed := by
    intro i j shared
    rcases exists_place j with inFirst | ⟨k, same⟩
    · exact inFirst
    · subst same
      exact absurd shared (not_sharesUnknown_of_unrelated unrelated i k)
  ordered := fun _ _ _ before => before

theorem embeds_right (unrelated : Unrelated first second) :
    Embeds id second (first ++ second) rightPlace where
  rename_injective := Function.injective_id
  place_injective := rightPlace_injective
  renames := fun i => (get_rightPlace i).trans (Constraint.map_id _).symm
  closed := by
    intro i j shared
    rcases exists_place j with ⟨k, same⟩ | inSecond
    · subst same
      exact absurd shared.symm (not_sharesUnknown_of_unrelated unrelated k i)
    · exact inSecond
  ordered := fun _ _ _ before => Nat.add_lt_add_right before _

theorem firsts_append (unrelated : Unrelated first second) :
    firsts (first ++ second) =
      (firsts first).map leftPlace ++ (firsts second).map rightPlace := by
  have ascending : ((firsts first).map leftPlace ++
      (firsts second).map rightPlace : List (Fin (first ++ second).length)).Pairwise (· < ·) := by
    refine List.pairwise_append.mpr ⟨?_, ?_, ?_⟩
    · exact List.pairwise_map.mpr (firsts_ascending first)
    · refine List.pairwise_map.mpr ((firsts_ascending second).imp fun before => ?_)
      exact Nat.add_lt_add_right before _
    · intro i inLeft j inRight
      obtain ⟨i, _, same⟩ := List.mem_map.mp inLeft
      obtain ⟨j, _, same'⟩ := List.mem_map.mp inRight
      subst same same'
      exact Nat.lt_of_lt_of_le i.isLt (Nat.le_add_left _ _)
  refine (firsts_ascending _).eq_of_mem_iff ascending fun j => ?_
  rw [List.mem_append, List.mem_map, List.mem_map]
  constructor
  · intro leads
    rcases exists_place j with ⟨i, same⟩ | ⟨i, same⟩
    · subst same
      exact Or.inl ⟨i, (embeds_left unrelated).mem_firsts_iff.mp leads, rfl⟩
    · subst same
      exact Or.inr ⟨i, (embeds_right unrelated).mem_firsts_iff.mp leads, rfl⟩
  · rintro (⟨i, leads, same⟩ | ⟨i, leads, same⟩)
    · subst same
      exact (embeds_left unrelated).mem_firsts_iff.mpr leads
    · subst same
      exact (embeds_right unrelated).mem_firsts_iff.mpr leads

theorem blocks_append (unrelated : Unrelated first second) :
    blocks (first ++ second) =
      blocks first ++ (blocks second).map (Block.reposition (· + first.length)) := by
  simp only [blocks_eq_map_blockFrom, firsts_append unrelated, List.map_append, List.map_map]
  congr 1
  · refine List.map_congr_left fun i _ => ?_
    have found := (embeds_left unrelated).blockFrom_eq id (fun _ => rfl) i
    rwa [Block.rename_id, Block.reposition_id] at found
  · refine List.map_congr_left fun i _ => ?_
    have found := (embeds_right unrelated).blockFrom_eq (· + first.length) (fun _ => rfl) i
    rwa [Block.rename_id] at found

end Components

variable [Precision α] [NatCast α] [Add α] [Sub α] [Mul α] [Div α] [Neg α]
  [OfNat α 0] [OfNat α 1] [OfNat α 2] [LT α] [DecidableLT α] [LE α] [DecidableLE α]

/-- Solve one system and, if that works out, another one from the arena that is left. Constraints are
counted through, and the warnings are those of both systems. -/
def solveInTurn (decompose : Decomposition α) (settings : Settings α)
    (first second : List (Constraint UnknownId α)) (arena : Arena α) :
    SolveResult α (SolveReport α) × Arena α :=
  let warnings := lint first ++ (lint second).map (Warning.relabel id first.length)
  let countedOn (reports : List ComponentReport) : List ComponentReport :=
    reports.map (ComponentReport.reposition (· + first.length))
  match solve decompose settings first arena with
  | (.outsideArena, left) => (.outsideArena, left)
  | (.failed failure, left) => (.failed { failure with warnings := warnings }, left)
  | (.solved report, middle) =>
      match solve decompose settings second middle with
      | (.outsideArena, left) => (.outsideArena, left)
      | (.failed failure, left) =>
          (.failed
            { error := failure.error
              failedComponent := (components first).length + failure.failedComponent
              failedPositions := failure.failedPositions.map (· + first.length)
              solved := report.components ++ countedOn failure.solved
              warnings := warnings }, left)
      | (.solved rest, left) =>
          (.solved ⟨report.components ++ countedOn rest.components, warnings⟩, left)

variable {decompose : Decomposition α} {settings : Settings α} {arena : Arena α}

theorem length_solved_of_complete {constraints : List (Constraint UnknownId α)}
    (complete : (walk decompose settings (blocks constraints) arena).halt = none) :
    (walk decompose settings (blocks constraints) arena).solved.length =
      (components constraints).length := by
  have walks := components_walksTo decompose settings constraints arena
  rw [walks.length_solved complete, length_blocks]

/-- Solving two systems without a common unknown together has the effect of solving one after the
other. -/
theorem solve_append (decompose : Decomposition α) (settings : Settings α)
    {first second : List (Constraint UnknownId α)} (unrelated : Unrelated first second)
    (arena : Arena α) :
    solve decompose settings (first ++ second) arena =
        solveInTurn decompose settings first second arena ∧
      lint (first ++ second) =
        lint first ++ (lint second).map (Warning.relabel id first.length) := by
  have warned := lint_append unrelated
  refine ⟨?_, warned⟩
  unfold solveInTurn solve
  rw [warned, blocks_append unrelated]
  dsimp only
  cases ends : (walk decompose settings (blocks first) arena).halt with
  | some halt =>
      rw [walk_append_of_halt ends]
      cases halt with
      | failed positions error => simp only [Walk.result, ends]
      | outsideArena => simp only [Walk.result, ends]
  | none =>
      rw [walk_append_of_complete ends, walk_reposition]
      have counted := length_solved_of_complete ends
      simp only [Walk.result, ends]
      generalize walk decompose settings (blocks first) arena = walked at *
      generalize walk decompose settings (blocks second) walked.arena = later
      obtain ⟨solved, halt, left⟩ := later
      cases halt with
      | none =>
          simp only [Walk.reposition, Option.map_none, List.map_append,
            SolvedBlock.map_report_reposition]
      | some halt =>
          cases halt with
          | failed positions error =>
              simp only [Walk.reposition, Option.map_some, Halt.reposition, List.map_append,
                SolvedBlock.map_report_reposition, List.length_append, List.length_map, counted]
          | outsideArena => simp only [Walk.reposition, Option.map_some, Halt.reposition]

theorem two_fixed_unknowns_in_turn :
    Unrelated [.fixed 0 (3 : Float)] [.fixed 1 5] ∧
    (∃ report, solveInTurn unitFactors ⟨100, 1e-10⟩ [.fixed 0 3] [.fixed 1 5]
      (Arena.ofValues [1, 5]) = (.solved report, Arena.ofValues [3, (5 : Float)])) ∧
    lint [.fixed 0 3, .fixed 1 5] =
      lint [.fixed 0 3] ++ (lint [.fixed 1 (5 : Float)]).map (Warning.relabel id 1) := by
  have unrelated : Unrelated [.fixed 0 (3 : Float)] [.fixed 1 5] := by
    unfold Unrelated
    decide
  obtain ⟨same, warned⟩ :=
    solve_append unitFactors ⟨100, 1e-10⟩ unrelated (Arena.ofValues [1, 5])
  refine ⟨unrelated, ?_, warned⟩
  rw [← same]
  exact solve_twoFixed

end Drafting
