import Drafting.CommandLine.Arguments
import Drafting.CommandLine.Report

/-!
# The command

`run` is the whole command as a function of its arguments. What it needs of the world around it is
given by an `Environment`, so a program reads files and takes the time, and a test reads what it is
given.
-/

namespace Drafting.CommandLine

/-- What the command needs of the world around it. -/
structure Environment (m : Type → Type) where
  coloured : Bool
  readPath : String → m (Except String String)
  /-- How often a solved drawing is solved again to time it. -/
  runs : Nat
  timed : (Unit → Attempt) → m (Attempt × Option Nat)

def run {m : Type → Type} [Monad m] (decompose : Decomposition Float) (environment : Environment m)
    (arguments : List String) : m Report :=
  match read arguments with
  | .usageError => return ⟨2, [], usageLines⟩
  | .showHelp => return ⟨0, usageLines, []⟩
  | .showVersion => return ⟨0, [versionLine], []⟩
  | .run options => do
      match ← environment.readPath options.path with
      | .error reason => return errorReport (unreadablePath options.path reason)
      | .ok text =>
          let (attempt, lasted) ← environment.timed fun _ =>
            attempt decompose environment.runs options.analysis text
          let timing := lasted.map fun microseconds =>
            Timing.mk environment.runs (microseconds / (environment.runs + 1))
          return attempt.report environment.coloured options.showPoints timing

end Drafting.CommandLine
