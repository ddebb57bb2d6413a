import Drafting.Components
import Drafting.Freedom
import Drafting.GaussNewton
import Drafting.Lint

/-!
# Solving a system

The components of a system are solved one after the other, each from the present values of its
unknowns, and the values of a solved component are written back before the next one is read. The
first component that fails ends the walk: what was solved before it stays, and it and all later
components keep their values. The walk also ends at a component with an unknown that the arena does
not know.
-/

namespace Drafting

variable {α : Type}

structure SolvedBlock (α : Type) where
  positions : List Nat
  system : ComponentSystem α
  solution : Solution system.width α

structure ComponentReport where
  /-- Positions of its constraints, in the order in which they were solved. -/
  positions : List Nat
  unknowns : Nat
  equations : Nat
  steps : Nat
  deriving DecidableEq, Repr

def SolvedBlock.report (block : SolvedBlock α) : ComponentReport :=
  ⟨block.positions, block.system.width, block.system.height, block.solution.steps⟩

inductive Halt (α : Type) where
  | failed (positions : List Nat) (error : SolveError α)
  | outsideArena

/-- The walk over some components: what it solved, why it ended early if it did, and the arena that
it left. -/
structure Walk (α : Type) where
  solved : List (SolvedBlock α)
  halt : Option (Halt α)
  arena : Arena α

variable [Precision α] [NatCast α] [Add α] [Sub α] [Mul α] [Div α] [Neg α]
  [OfNat α 0] [OfNat α 1] [OfNat α 2] [LT α] [DecidableLT α] [LE α] [DecidableLE α]

def solveBlock (decompose : Decomposition α) (settings : Settings α) (block : Block α)
    (arena : Arena α) : Except (Halt α) (SolvedBlock α) :=
  let system := ComponentSystem.ofConstraints block.constraints
  if known : arena.Contains system.columns then
    match system.refine decompose settings (arena.read system.columns known) with
    | .ok solution => .ok ⟨block.positions, system, solution⟩
    | .error error => .error (.failed block.positions error)
  else .error .outsideArena

def SolvedBlock.writeTo (block : SolvedBlock α) (arena : Arena α) : Arena α :=
  arena.write block.system.columns block.solution.assignment.toList

def walk (decompose : Decomposition α) (settings : Settings α) :
    List (Block α) → Arena α → Walk α
  | [], arena => ⟨[], none, arena⟩
  | block :: rest, arena =>
      match solveBlock decompose settings block arena with
      | .error halt => ⟨[], some halt, arena⟩
      | .ok solved =>
          let later := walk decompose settings rest (solved.writeTo arena)
          { later with solved := solved :: later.solved }

structure SolveReport (α : Type) where
  components : List ComponentReport
  warnings : List (Warning α)
  deriving Repr

namespace SolveReport

def steps (report : SolveReport α) : Nat := total (report.components.map ComponentReport.steps)

def mostSteps (report : SolveReport α) : Nat :=
  (report.components.map ComponentReport.steps).foldl max 0

end SolveReport

structure SolveFailure (α : Type) where
  error : SolveError α
  failedComponent : Nat
  failedPositions : List Nat
  solved : List ComponentReport
  warnings : List (Warning α)
  deriving Repr

/-- How a call ends that answers with `β` if everything was solved. -/
inductive SolveResult (α β : Type) where
  | solved (answer : β)
  | failed (failure : SolveFailure α)
  /-- The constraints mention an unknown outside the arena, and no component before it failed. -/
  | outsideArena

def SolveResult.map {β γ : Type} (f : β → γ) : SolveResult α β → SolveResult α γ
  | .solved answer => .solved (f answer)
  | .failed failure => .failed failure
  | .outsideArena => .outsideArena

def Walk.result {β : Type} (walk : Walk α) (warnings : List (Warning α))
    (finish : List (SolvedBlock α) → β) : SolveResult α β :=
  match walk.halt with
  | none => .solved (finish walk.solved)
  | some .outsideArena => .outsideArena
  | some (.failed positions error) =>
      .failed ⟨error, walk.solved.length, positions, walk.solved.map SolvedBlock.report, warnings⟩

/-- Solve a system from the present values. Gives the report and the arena that is left. -/
def solve (decompose : Decomposition α) (settings : Settings α)
    (constraints : List (Constraint UnknownId α)) (arena : Arena α) :
    SolveResult α (SolveReport α) × Arena α :=
  let warnings := lint constraints
  let walked := walk decompose settings (blocks constraints) arena
  (walked.result warnings fun solved => ⟨solved.map SolvedBlock.report, warnings⟩, walked.arena)

/-- Solve a system and analyse how free its components are afterwards. A component that cannot be
analysed is solved all the same. -/
def solveWithFreedom (decompose : Decomposition α) (settings : Settings α)
    (constraints : List (Constraint UnknownId α)) (arena : Arena α) :
    SolveResult α (SolveReport α × Freedom) × Arena α :=
  let warnings := lint constraints
  let walked := walk decompose settings (blocks constraints) arena
  let freedom (block : SolvedBlock α) : Option ComponentFreedom :=
    block.system.freedom? decompose block.solution.assignment
  (walked.result warnings fun solved =>
    (⟨solved.map SolvedBlock.report, warnings⟩, Freedom.ofResults (solved.map freedom)),
    walked.arena)

end Drafting
