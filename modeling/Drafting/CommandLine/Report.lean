import Drafting.CommandLine.Attempt
import Drafting.Lint.Message

/-!
# The report of the command

What the command writes and how it exits after an attempt at a problem. Nothing is read or written
here.
-/

namespace Drafting.CommandLine

open Text (Label)

structure Report where
  status : Nat
  output : List String
  errors : List String
  deriving DecidableEq, Repr

inductive Colour where
  | red
  | green
  | yellow
  deriving DecidableEq, Repr

def Colour.code : Colour → Nat
  | .red => 31
  | .green => 32
  | .yellow => 33

def paint (coloured : Bool) (colour : Colour) (text : String) : String :=
  if coloured then s!"\x1b[{colour.code}m" ++ text ++ "\x1b[0m" else text

def warningLines (coloured : Bool) (warnings : List (Warning Float)) : List String :=
  if warnings.isEmpty then []
  else "Warnings:" :: warnings.map fun warning => "\t" ++ paint coloured .yellow warning.message

def sizeLine (coloured : Bool) (outcome : Outcome Float) : String :=
  let size := s!"{outcome.equations} rows, {outcome.unknowns} vars"
  "Problem size: " ++
    (if outcome.unknowns = outcome.equations then size else paint coloured .yellow size)

def freedomLines (coloured : Bool) (freedom : Freedom) (movable : List String) : List String :=
  let degrees := toString freedom.degrees
  (if freedom.degrees = 0 then ["Degrees of freedom: " ++ paint coloured .green degrees]
    else ["Degrees of freedom: " ++ paint coloured .yellow degrees,
      "Free to move: " ++ ", ".intercalate movable]) ++
  (if freedom.unanalysed.isEmpty then []
    else [paint coloured .yellow
      ("Could not analyse components " ++ positionsText freedom.unanalysed)])

def pointLine (label : Label) (p : Point Float) : String :=
  "\t" ++ label ++ ": (" ++ Number.fixed 2 p.x ++ ", " ++ Number.fixed 2 p.y ++ ")"

def scalarLine (label : Label) (value : Float) : String :=
  "\t" ++ label ++ ": " ++ Number.fixed 2 value

def placeLines (outcome : Outcome Float) : List String :=
  let points := outcome.points.map fun (label, p) => pointLine label p
  let scalars := outcome.scalars.map fun (label, value) => scalarLine label value
  "Points:" :: points ++ (if scalars.isEmpty then [] else "Scalars:" :: scalars)

/-- How long solving took on average over `runs` more times, in microseconds. -/
structure Timing where
  runs : Nat
  microseconds : Nat
  deriving DecidableEq, Repr

def timingLines (coloured : Bool) (timing : Timing) : List String :=
  let perSecond := 1000000 / max timing.microseconds 1
  let shown := toString perSecond
  [s!"Solved in {timing.microseconds}μs (mean over {timing.runs} iterations)",
    "i.e. " ++ (if perSecond ≤ 60 then paint coloured .red shown else shown) ++
      " solves per second"]

def solvedReport (coloured showPoints : Bool) (timing : Option Timing) (outcome : Outcome Float) :
    Report where
  status := 0
  output := warningLines coloured outcome.warnings ++
    [sizeLine coloured outcome, s!"Components: {outcome.components}",
      s!"Iterations needed: {outcome.steps}"] ++
    (timing.map (timingLines coloured)).getD [] ++
    (outcome.freedom.map fun freedom => freedomLines coloured freedom outcome.movable).getD [] ++
    (if showPoints then placeLines outcome else [])
  errors := []

def failedReport (coloured : Bool) (failure : SolveFailure Float) : Report where
  status := 1
  output := warningLines coloured failure.warnings ++
    (if failure.solved.isEmpty then []
      else [s!"Solved {failure.solved.length} component(s) before failing"])
  errors := [paint coloured .red "Could not solve system" ++ ": " ++ failure.message,
    "You might have contradictory constraints."]

def errorReport (message : String) : Report := ⟨1, [], ("Error: " ++ message).splitOn "\n"⟩

def unreadablePath (path reason : String) : String :=
  "could not read " ++ (if path = "-" then "stdin" else path) ++ ": " ++ reason

def outsideArenaMessage : String := "a constraint mentions an unknown that does not exist"

def laterMessage : SolveResult Float (Outcome Float) → String
  | .failed failure => failure.message ++ ": " ++ failure.error.message
  | _ => outsideArenaMessage

def Attempt.report (coloured showPoints : Bool) (timing : Option Timing) : Attempt → Report
  | .refused error => errorReport error.message
  | .ended (.solved outcome) => solvedReport coloured showPoints timing outcome
  | .ended (.failed failure) => failedReport coloured failure
  | .ended .outsideArena => errorReport outsideArenaMessage
  | .endedLater result =>
      errorReport ("solve succeeded once but failed on a later run: " ++ laterMessage result)

def versionLine : String := "gnsketch 0.1.0"

def usageLines : List String := [
  "Usage: gnsketch [OPTIONS] --filepath <FILEPATH>",
  "",
  "Options:",
  "  -f, --filepath <FILEPATH>  Path to the problem file. Use '-' for stdin",
  "      --show-points          Show the final values assigned to each point and scalar",
  "      --analysis             Report which variables the constraints leave free to move",
  "  -v, --verbose...           Log solver progress to stderr. Repeat for more detail",
  "  -h, --help                 Print help",
  "  -V, --version              Print version"]

end Drafting.CommandLine
