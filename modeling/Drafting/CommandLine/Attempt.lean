import Drafting.Drawing.Message
import Drafting.Drawing.Outcome
import Drafting.Solve.Message

/-!
# Attempts at a problem

An attempt reads a problem and solves it with the default settings. To time it, the same drawing is
solved again a number of times, always from its guesses and without the analysis.
-/

namespace Drafting.CommandLine

inductive Attempt where
  | refused (error : ProblemError)
  | ended (result : SolveResult Float (Outcome Float))
  /-- The drawing was solved at first, but not when it was solved again. -/
  | endedLater (result : SolveResult Float (Outcome Float))

def laterFailure? (decompose : Decomposition Float) (drawing : Drawing Float) :
    Nat → Option (SolveResult Float (Outcome Float))
  | 0 => none
  | runs + 1 =>
      match (drawing.solve decompose .default).1 with
      | .solved _ => laterFailure? decompose drawing runs
      | result => some result

def attempt (decompose : Decomposition Float) (runs : Nat) (analysis : Bool) (text : String) :
    Attempt :=
  match Drawing.ofText text with
  | .error error => .refused error
  | .ok drawing =>
      let result :=
        if analysis then (drawing.solveWithFreedom decompose .default).1
        else (drawing.solve decompose .default).1
      match result with
      | .solved outcome =>
          match laterFailure? decompose drawing runs with
          | none => .ended (.solved outcome)
          | some later => .endedLater later
      | result => .ended result

end Drafting.CommandLine
