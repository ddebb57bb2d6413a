import Drafting.Arena
import Drafting.Constraint
import Drafting.Text.Document

/-!
# From a problem to a drawing

A drawing gives every declared label its unknowns and states every other instruction as a
constraint on them. `Drawing.ofProblem` first checks that no label is guessed twice, then declares
the labels in order, then checks that no guess is left over, and then states the constraints; the
first thing that is wrong is the error. A label may be used before it is declared.
-/

namespace Drafting

open Text (Label Instruction Ends Problem)

inductive EntityKind where
  | point
  | scalar
  deriving DecidableEq, Repr

inductive Entity where
  | point (p : Point UnknownId)
  | scalar (id : UnknownId)
  deriving DecidableEq, Repr

inductive BuildError where
  | duplicateGuess (label : Label)
  | duplicateDeclaration (label : Label)
  | missingGuess (label : Label)
  | unusedGuesses (labels : List Label)
  | undefined (label : Label)
  | wrongKind (label : Label) (expected : EntityKind)
  deriving DecidableEq, Repr

/-- Declared labels and the constraints between their unknowns. -/
structure Drawing (α : Type) where
  arena : Arena α
  entities : List (Label × Entity)
  constraints : List (Constraint UnknownId α)
  deriving Repr

variable {α : Type}

def firstRepeated? (seen : List Label) : List Label → Option Label
  | [] => none
  | label :: rest => if label ∈ seen then some label else firstRepeated? (label :: seen) rest

namespace Drawing

def empty : Drawing α := ⟨.empty, [], []⟩

def points (drawing : Drawing α) : List (Label × Point UnknownId) :=
  drawing.entities.filterMap fun
    | (label, .point p) => some (label, p)
    | _ => none

def scalars (drawing : Drawing α) : List (Label × UnknownId) :=
  drawing.entities.filterMap fun
    | (label, .scalar id) => some (label, id)
    | _ => none

def entity? (drawing : Drawing α) (label : Label) : Option Entity := drawing.entities.lookup label

/-- The error for a label without a guess of its own kind: it may have one of the other kind. -/
def guessError (others : List Label) (label : Label) (expected : EntityKind) : BuildError :=
  if label ∈ others then .wrongKind label expected else .missingGuess label

def declarePoint (problem : Problem α) (drawing : Drawing α) (label : Label) :
    Except BuildError (Drawing α) :=
  if (drawing.entity? label).isSome then .error (.duplicateDeclaration label)
  else
    match problem.pointGuesses.lookup label with
    | none => .error (guessError (problem.scalarGuesses.map Prod.fst) label .point)
    | some place =>
        let (p, arena) := drawing.arena.pushPoint place (some label)
        .ok { drawing with
          arena := arena
          entities := drawing.entities ++ [(label, .point p)] }

def declareScalar (problem : Problem α) (drawing : Drawing α) (label : Label) :
    Except BuildError (Drawing α) :=
  if (drawing.entity? label).isSome then .error (.duplicateDeclaration label)
  else
    match problem.scalarGuesses.lookup label with
    | none => .error (guessError (problem.pointGuesses.map Prod.fst) label .scalar)
    | some value =>
        let (id, arena) := drawing.arena.push value (some label)
        .ok { drawing with
          arena := arena
          entities := drawing.entities ++ [(label, .scalar id)] }

def declareAll (problem : Problem α) (drawing : Drawing α) :
    List (Instruction α) → Except BuildError (Drawing α)
  | [] => .ok drawing
  | .declarePoint label :: rest => do declareAll problem (← drawing.declarePoint problem label) rest
  | .declareScalar label :: rest => do declareAll problem (← drawing.declareScalar problem label) rest
  | _ :: rest => declareAll problem drawing rest

def point (drawing : Drawing α) (label : Label) : Except BuildError (Point UnknownId) :=
  match drawing.entity? label with
  | some (.point p) => .ok p
  | some (.scalar _) => .error (.wrongKind label .point)
  | none => .error (.undefined label)

def scalar (drawing : Drawing α) (label : Label) : Except BuildError UnknownId :=
  match drawing.entity? label with
  | some (.scalar id) => .ok id
  | some (.point _) => .error (.wrongKind label .scalar)
  | none => .error (.undefined label)

def segment (drawing : Drawing α) (ends : Ends) : Except BuildError (Segment UnknownId) := do
  let start ← drawing.point ends.start
  let finish ← drawing.point ends.finish
  return ⟨start, finish⟩

/-- The constraint that an instruction states, if it is not a declaration. Labels are looked up in
reading order. -/
def constraint? (drawing : Drawing α) :
    Instruction α → Except BuildError (Option (Constraint UnknownId α))
  | .declarePoint _ | .declareScalar _ => return none
  | .fixCoordinate label axis value => do
      let p ← drawing.point label
      return some (.fixed (p.coordinate axis) value)
  | .fixScalar label value => do
      let id ← drawing.scalar label
      return some (.fixed id value)
  | .vertical ends => do
      let s ← drawing.segment ends
      return some (.vertical s.start s.finish)
  | .horizontal ends => do
      let s ← drawing.segment ends
      return some (.horizontal s.start s.finish)
  | .distance ends value => do
      let s ← drawing.segment ends
      return some (.fixedDistance s.start s.finish value)
  | .distanceScalar ends label => do
      let s ← drawing.segment ends
      let length ← drawing.scalar label
      return some (.distance s.start s.finish length)
  | .congruent first second => do
      return some (.congruent (← drawing.segment first) (← drawing.segment second))
  | .parallel first second => do
      return some (.parallel (← drawing.segment first) (← drawing.segment second))
  | .perpendicular first second => do
      return some (.perpendicular (← drawing.segment first) (← drawing.segment second))

def stateAll (drawing : Drawing α) :
    List (Instruction α) → Except BuildError (List (Constraint UnknownId α))
  | [] => .ok []
  | instruction :: rest => do
      let constraint ← drawing.constraint? instruction
      let later ← drawing.stateAll rest
      return constraint.toList ++ later

def ofProblem (problem : Problem α) : Except BuildError (Drawing α) := do
  let guessed := problem.pointGuesses.map Prod.fst ++ problem.scalarGuesses.map Prod.fst
  if let some label := firstRepeated? [] guessed then
    throw (.duplicateGuess label)
  let drawing ← declareAll problem empty problem.instructions
  let unused := guessed.filter fun label => (drawing.entity? label).isNone
  if unused ≠ [] then
    throw (.unusedGuesses (unused.mergeSort fun a b => decide (a ≤ b)))
  let constraints ← drawing.stateAll problem.instructions
  return { drawing with constraints := constraints }

end Drawing

end Drafting
