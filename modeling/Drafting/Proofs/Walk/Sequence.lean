import Drafting.Proofs.Connectivity.Embedding
import Drafting.Proofs.Walk

/-!
# Walks over sequences of blocks

A walk over two sequences of blocks is a walk over the first and then, if that was completed, one over
the second from the arena that it left. The positions of the constraints are only passed on.
-/

namespace Drafting

variable {α : Type}

section Reposition

variable (place : Nat → Nat)

def SolvedBlock.reposition (solved : SolvedBlock α) : SolvedBlock α :=
  { solved with positions := solved.positions.map place }

def ComponentReport.reposition (report : ComponentReport) : ComponentReport :=
  { report with positions := report.positions.map place }

def Halt.reposition : Halt α → Halt α
  | .failed positions error => .failed (positions.map place) error
  | .outsideArena => .outsideArena

def Walk.reposition (walk : Walk α) : Walk α where
  solved := walk.solved.map (SolvedBlock.reposition place)
  halt := walk.halt.map (Halt.reposition place)
  arena := walk.arena

@[simp] theorem SolvedBlock.writeTo_reposition (solved : SolvedBlock α) (arena : Arena α) :
    (solved.reposition place).writeTo arena = solved.writeTo arena := rfl

theorem SolvedBlock.map_report_reposition (solved : List (SolvedBlock α)) :
    (solved.map (SolvedBlock.reposition place)).map SolvedBlock.report =
      (solved.map SolvedBlock.report).map (ComponentReport.reposition place) := by
  rw [List.map_map, List.map_map]
  rfl

end Reposition

variable [Precision α] [NatCast α] [Add α] [Sub α] [Mul α] [Div α] [Neg α]
  [OfNat α 0] [OfNat α 1] [OfNat α 2] [LT α] [DecidableLT α] [LE α] [DecidableLE α]
variable (decompose : Decomposition α) (settings : Settings α)

theorem solveBlock_reposition (place : Nat → Nat) (block : Block α) (arena : Arena α) :
    solveBlock decompose settings (block.reposition place) arena =
      ((solveBlock decompose settings block arena).map (SolvedBlock.reposition place)).mapError
        (Halt.reposition place) := by
  unfold solveBlock
  rw [Block.constraints_reposition, Block.positions_reposition]
  dsimp only
  split
  · split
    · rfl
    · rfl
  · rfl

theorem walk_reposition (place : Nat → Nat) (blocks : List (Block α)) (arena : Arena α) :
    walk decompose settings (blocks.map (Block.reposition place)) arena =
      (walk decompose settings blocks arena).reposition place := by
  induction blocks generalizing arena with
  | nil => rfl
  | cons block rest ih =>
      have moved := solveBlock_reposition decompose settings place block arena
      rw [List.map_cons]
      cases result : solveBlock decompose settings block arena with
      | error halt =>
          rw [result] at moved
          rw [walk_cons_error moved, walk_cons_error result]
          rfl
      | ok solved =>
          rw [result] at moved
          rw [walk_cons_ok moved, walk_cons_ok result, SolvedBlock.writeTo_reposition, ih]
          rfl

variable {decompose settings} {first second : List (Block α)} {arena : Arena α}

theorem walk_append_of_halt {halt : Halt α}
    (halts : (walk decompose settings first arena).halt = some halt) :
    walk decompose settings (first ++ second) arena = walk decompose settings first arena := by
  induction first generalizing arena with
  | nil => cases halts
  | cons block rest ih =>
      rw [List.cons_append]
      cases result : solveBlock decompose settings block arena with
      | error halt => rw [walk_cons_error result, walk_cons_error result]
      | ok solved =>
          rw [walk_cons_ok result] at halts
          rw [walk_cons_ok result, walk_cons_ok result, ih halts]

theorem walk_append_of_complete (complete : (walk decompose settings first arena).halt = none) :
    walk decompose settings (first ++ second) arena =
      let later := walk decompose settings second (walk decompose settings first arena).arena
      { later with solved := (walk decompose settings first arena).solved ++ later.solved } := by
  induction first generalizing arena with
  | nil => rfl
  | cons block rest ih =>
      rw [List.cons_append]
      cases result : solveBlock decompose settings block arena with
      | error halt =>
          rw [walk_cons_error result] at complete
          cases complete
      | ok solved =>
          rw [walk_cons_ok result] at complete
          rw [walk_cons_ok result, walk_cons_ok result, ih complete]
          rfl

end Drafting
