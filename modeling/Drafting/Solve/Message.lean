import Drafting.Number.Written
import Drafting.Solve

/-!
# The wording of failures, and of unknowns
-/

namespace Drafting

/-- Does the error speak against the constraints? They may contradict each other, or have no solution
near by; a computation that broke down says nothing about them. -/
def SolveError.isContradiction {α : Type} : SolveError α → Bool
  | .notConverged .. => true
  | .notDecomposed => false

def SolveError.message : SolveError Float → String
  | .notConverged budget size =>
      s!"Could not find a solution in {budget} iterations (largest residual was " ++
        Number.scientific size ++ ")"
  | .notDecomposed => "Something went wrong doing SVD in faer"

def positionsText (positions : List Nat) : String :=
  "[" ++ ", ".intercalate (positions.map toString) ++ "]"

def SolveFailure.message (failure : SolveFailure Float) : String :=
  s!"component {failure.failedComponent} (constraints " ++ positionsText failure.failedPositions ++
    ") failed: " ++ failure.error.message

def Unknown.text (unknown : Unknown Float) : String :=
  match unknown.name with
  | some name => name ++ " = " ++ Number.plain unknown.value
  | none => Number.plain unknown.value

end Drafting
