import Drafting.Drawing
import Drafting.Text.Quoted

/-!
# The wording of errors in a problem
-/

namespace Drafting

open Text (Problem ParseError)

def EntityKind.text : EntityKind → String
  | .point => "point"
  | .scalar => "scalar"

def BuildError.message : BuildError → String
  | .duplicateGuess label => "You gave more than one guess for " ++ label
  | .duplicateDeclaration label => label ++ " was declared more than once"
  | .missingGuess label => "No guess was given for " ++ label
  | .unusedGuesses labels =>
      "You gave a guess for labels which weren't defined: " ++ Text.quotedList labels
  | .undefined label => "You referred to " ++ label ++ " but it was never defined"
  | .wrongKind label expected => label ++ " is not a " ++ expected.text

inductive ProblemError where
  | unreadable (error : ParseError)
  | unbuildable (error : BuildError)
  deriving DecidableEq, Repr

def ProblemError.message : ProblemError → String
  | .unreadable error => error.message
  | .unbuildable error => error.message

def Drawing.ofText (text : String) : Except ProblemError (Drawing Float) :=
  match Problem.read text with
  | .error error => .error (.unreadable error)
  | .ok problem => (Drawing.ofProblem problem).mapError .unbuildable

end Drafting
