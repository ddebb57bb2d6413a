import Drafting.Drawing
import Drafting.Solve

/-!
# Solved drawings

Solving a drawing solves its constraints from the guesses and gathers the values that were found by
label.
-/

namespace Drafting

open Text (Label)

structure Outcome (α : Type) where
  steps : Nat
  components : Nat
  warnings : List (Warning α)
  points : List (Label × Point α)
  scalars : List (Label × α)
  freedom : Option Freedom
  movable : List String
  unknowns : Nat
  equations : Nat
  deriving Repr

namespace Outcome

variable {α : Type}

def point? (outcome : Outcome α) (label : Label) : Option (Point α) := outcome.points.lookup label

def scalar? (outcome : Outcome α) (label : Label) : Option α := outcome.scalars.lookup label

end Outcome

/-- The name of an unknown; one without a name is shown by its id. -/
def Arena.shownName {α : Type} (arena : Arena α) (id : UnknownId) : String :=
  ((arena.get? id).bind Unknown.name).getD s!"#{id}"

namespace Drawing

variable {α : Type}

def outcome (drawing : Drawing α) (report : SolveReport α) (freedom : Option Freedom)
    (arena : Arena α) : Outcome α where
  steps := report.steps
  components := report.components.length
  warnings := report.warnings
  points := drawing.points.filterMap fun (label, p) => (arena.place? p).map (label, ·)
  scalars := drawing.scalars.filterMap fun (label, id) => (arena.value? id).map (label, ·)
  freedom := freedom
  movable := ((freedom.map Freedom.movable).getD []).map arena.shownName
  unknowns := arena.size
  equations := total (drawing.constraints.map Constraint.dimension)

variable [Precision α] [NatCast α] [Add α] [Sub α] [Mul α] [Div α] [Neg α]
  [OfNat α 0] [OfNat α 1] [OfNat α 2] [LT α] [DecidableLT α] [LE α] [DecidableLE α]

def solve (decompose : Decomposition α) (settings : Settings α) (drawing : Drawing α) :
    SolveResult α (Outcome α) × Arena α :=
  let (result, arena) := Drafting.solve decompose settings drawing.constraints drawing.arena
  (result.map fun report => drawing.outcome report none arena, arena)

def solveWithFreedom (decompose : Decomposition α) (settings : Settings α) (drawing : Drawing α) :
    SolveResult α (Outcome α) × Arena α :=
  let (result, arena) :=
    Drafting.solveWithFreedom decompose settings drawing.constraints drawing.arena
  (result.map fun (report, freedom) => drawing.outcome report (some freedom) arena, arena)

end Drawing

end Drafting
