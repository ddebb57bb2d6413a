import Drafting.Plane
import Drafting.Text.Label
import Drafting.Total

/-!
# The lines of a problem

A problem is written as lines that declare points and scalars, constrain them, or guess where they
are. Here is what one line can say, and the readers for it. No word is reserved: a line that starts
with the name of an instruction but does not go on like one may still fix a scalar of that name.
-/

namespace Drafting.Text

structure Ends where
  start : Label
  finish : Label
  deriving DecidableEq, Repr

inductive Instruction (α : Type) where
  | declarePoint (label : Label)
  | declareScalar (label : Label)
  | fixCoordinate (point : Label) (axis : Axis) (value : α)
  | fixScalar (scalar : Label) (value : α)
  | vertical (ends : Ends)
  | horizontal (ends : Ends)
  | distance (ends : Ends) (value : α)
  | distanceScalar (ends : Ends) (scalar : Label)
  | congruent (s t : Ends)
  | parallel (s t : Ends)
  | perpendicular (s t : Ends)
  deriving DecidableEq, Repr

inductive Guess (α : Type) where
  | point (label : Label) (place : Point α)
  | scalar (label : Label) (value : α)
  deriving DecidableEq, Repr

namespace Reader

variable {β : Type}

def call (name : String) (arguments : Reader β) : Reader β := do
  word name
  let _ ← spaces
  let _ ← char '('
  let _ ← spaces
  let value ← arguments
  let _ ← spaces
  let _ ← char ')'
  return value

def ends : Reader Ends := do
  let start ← label
  comma
  let finish ← label
  return ⟨start, finish⟩

def twoEnds : Reader (Ends × Ends) := do
  let s ← ends
  comma
  let t ← ends
  return (s, t)

def declaration (keyword : String) : Reader Label := do
  word keyword
  spaces1
  label

def axis : Reader Axis :=
  orElse (do let _ ← char 'x'; return .x) (do let _ ← char 'y'; return .y)

def fixCoordinate : Reader (Instruction Float) := do
  let point ← label
  let _ ← char '.'
  let axis ← axis
  spaced '='
  let value ← number
  return .fixCoordinate point axis value

def fixScalar : Reader (Instruction Float) := do
  let scalar ← label
  spaced '='
  let value ← number
  return .fixScalar scalar value

/-- Two labels and a length. What can be read as a label is one. -/
def distanceArguments : Reader (Instruction Float) := do
  let ends ← ends
  comma
  orElse (do let scalar ← label; return .distanceScalar ends scalar)
    (do let value ← number; return .distance ends value)

def instruction : Reader (Instruction Float) :=
  firstOf fixScalar [
    do let label ← declaration "point"; return .declarePoint label,
    do let label ← declaration "scalar"; return .declareScalar label,
    fixCoordinate,
    do let ends ← call "vertical" ends; return .vertical ends,
    do let ends ← call "horizontal" ends; return .horizontal ends,
    call "distance" distanceArguments,
    do let (s, t) ← call "congruent" twoEnds; return .congruent s t,
    do let (s, t) ← call "parallel" twoEnds; return .parallel s t,
    do let (s, t) ← call "perpendicular" twoEnds; return .perpendicular s t]

def place : Reader (Point Float) := do
  let _ ← char '('
  let _ ← spaces
  let x ← number
  comma
  let y ← number
  let _ ← spaces
  let _ ← char ')'
  return ⟨x, y⟩

def guess : Reader (Guess Float) := do
  let label ← label
  spaces1
  word "roughly"
  let _ ← spaces
  orElse (do let place ← place; return .point label place)
    (do let value ← number; return .scalar label value)

end Reader

def byteLength (text : List Char) : Nat := total (text.map Char.utf8Size)

/-- Read a whole line, up to spaces and a comment at its end. A failure gives the number of bytes
before the place where reading stopped. -/
def readLine {β : Type} (reader : Reader β) (line : List Char) : Except Nat β :=
  let whole : Reader β := do
    let value ← reader
    Reader.endOfLine
    return value
  match whole line with
  | .ok (value, _) => .ok value
  | .error stop => .error (byteLength line - byteLength stop)

end Drafting.Text
