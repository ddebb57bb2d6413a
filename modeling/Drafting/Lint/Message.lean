import Drafting.Lint
import Drafting.Number.Written

/-!
# The wording of warnings
-/

namespace Drafting

def Concern.message : Concern Float → String
  | .negativeDistance d =>
      "Distance " ++ Number.plain d ++ " is negative, it will be treated as " ++ Number.plain d.abs
  | .conflictingFixed unknown firstConstraint first second =>
      s!"Variable {unknown} is fixed to " ++ Number.plain second ++
        s!" here, but constraint {firstConstraint} already fixed it to " ++ Number.plain first ++
        ". This can't be solved."
  | .degenerateLine =>
      "This line starts and ends at the same point, so it has no direction. " ++
        "You probably meant to use two different points."

def Warning.message (warning : Warning Float) : String :=
  match warning.about with
  | some i => s!"constraint {i}: " ++ warning.concern.message
  | none => warning.concern.message

end Drafting
