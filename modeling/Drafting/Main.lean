import Drafting.CommandLine
import Drafting.Linear.Jacobi

/-!
# The program

Reads the problem from a file or from standard input, takes the time, and writes the report.
-/

namespace Drafting.Main

open CommandLine (Attempt Environment)

def reason : IO.Error → String
  | .noFileOrDirectory .. => "No such file or directory (os error 2)"
  | .permissionDenied .. => "Permission denied (os error 13)"
  | .inappropriateType _ 21 _ => "Is a directory (os error 21)"
  | .inappropriateType .. => "Not a directory (os error 20)"
  | error => toString error

def readPath (path : String) : IO (Except String String) := do
  try
    let bytes ←
      if path = "-" then (← IO.getStdin).readBinToEnd
      else IO.FS.readBinFile path
    match String.fromUTF8? bytes with
    | some text => return .ok text
    | none => return .error "stream did not contain valid UTF-8"
  catch error => return .error (reason error)

/-- A variable that is set, and whether it is on. -/
def switch? (name : String) : IO (Option Bool) := do
  return (← IO.getEnv name).map (· ≠ "0")

/-- Colours that are forced cannot be turned off. Otherwise they are for a terminal only. -/
def wantsColour : IO Bool := do
  if (← switch? "CLICOLOR_FORCE") = some true then return true
  else if (← switch? "NO_COLOR").isSome then return false
  else return (← switch? "CLICOLOR").getD true && (← (← IO.getStdout).isTty)

def timed (attempt : Unit → Attempt) : IO (Attempt × Option Nat) := do
  let start ← IO.monoNanosNow
  let ended ← IO.lazyPure attempt
  let stop ← IO.monoNanosNow
  return (ended, some ((stop - start) / 1000))

/-- The microseconds between two looks at the clock. -/
def clock : IO (Option Nat) := do
  let start ← IO.monoNanosNow
  let stop ← IO.monoNanosNow
  return some ((stop - start) / 1000)

/-- An attempt has no effects of its own, so timing it is looking at the clock around it. -/
theorem timed_eq (attempt : Unit → Attempt) :
    timed attempt = (fun lasted => (attempt (), lasted)) <$> clock := rfl

end Drafting.Main

def main (arguments : List String) : IO UInt32 := do
  let environment : Drafting.CommandLine.Environment IO := {
    coloured := ← Drafting.Main.wantsColour
    readPath := Drafting.Main.readPath
    runs := 100
    timed := Drafting.Main.timed }
  let report ← Drafting.CommandLine.run Drafting.Jacobi.decompose environment arguments
  for line in report.output do
    IO.println line
  for line in report.errors do
    IO.eprintln line
  return report.status.toUInt32
