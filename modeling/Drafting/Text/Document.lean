import Drafting.Text.Instruction

/-!
# Problems as text

A text is read line by line. Blank lines and comments are skipped. The header of the constraints
section comes first and the header of the guesses section after it; each may be left out at the end,
and nothing but comments may stand before the first. The first line that fits nowhere is the error.
-/

namespace Drafting.Text

structure Contents (α : Type) where
  instructions : List (Instruction α)
  pointGuesses : List (Label × Point α)
  scalarGuesses : List (Label × α)
  deriving Repr

/-- A problem keeps the labels that it declares beside its contents. -/
structure Problem (α : Type) extends Contents α where
  points : List Label
  scalars : List Label
  deriving Repr

section

variable {α : Type}

namespace Contents

def empty : Contents α := ⟨[], [], []⟩

def withInstruction (instruction : Instruction α) (contents : Contents α) : Contents α :=
  { contents with instructions := instruction :: contents.instructions }

def withGuess (guess : Guess α) (contents : Contents α) : Contents α :=
  match guess with
  | .point label place => { contents with pointGuesses := (label, place) :: contents.pointGuesses }
  | .scalar label value => { contents with scalarGuesses := (label, value) :: contents.scalarGuesses }

end Contents

def declaredLabels : List (Instruction α) → List Label × List Label
  | [] => ([], [])
  | .declarePoint label :: rest =>
      let (points, scalars) := declaredLabels rest
      (label :: points, scalars)
  | .declareScalar label :: rest =>
      let (points, scalars) := declaredLabels rest
      (points, label :: scalars)
  | _ :: rest => declaredLabels rest

def Problem.ofContents (contents : Contents α) : Problem α :=
  let (points, scalars) := declaredLabels contents.instructions
  { contents with points := points, scalars := scalars }

end

inductive Section where
  | preamble
  | constraints
  | guesses
  deriving DecidableEq, Repr

inductive LineError where
  | unexpectedHeader (title : List Char)
  | missingHeader
  /-- A line that does not have the form its section asks for, from so many bytes on. -/
  | malformed (line : List Char) (offset : Nat)
  deriving DecidableEq, Repr

inductive Line (α : Type) where
  | skipped
  | comment (next : Section)
  | instruction (instruction : Instruction α)
  | guess (guess : Guess α)
  deriving Repr

/-- The part that goes on after a comment with this title. A header opens the next part if it comes in
its place. -/
def readComment (part : Section) (title : List Char) : Except LineError Section :=
  if title = "constraints".toList then
    if part = .preamble then .ok .constraints else .error (.unexpectedHeader title)
  else if title = "guesses".toList then
    if part = .constraints then .ok .guesses else .error (.unexpectedHeader title)
  else .ok part

def readLineIn (part : Section) : List Char → Except LineError (Line Float)
  | [] => .ok .skipped
  | '#' :: title => (readComment part (trimmed title)).map .comment
  | line =>
      match part with
      | .preamble => .error .missingHeader
      | .constraints =>
          match readLine Reader.instruction line with
          | .ok instruction => .ok (.instruction instruction)
          | .error offset => .error (.malformed line offset)
      | .guesses =>
          match readLine Reader.guess line with
          | .ok guess => .ok (.guess guess)
          | .error offset => .error (.malformed line offset)

/-- The pieces of a text between line feeds, without an empty piece at the end. -/
def splitLines (text : List Char) : List (List Char) :=
  text.foldr (fun c lines =>
    if c = '\n' then [] :: lines
    else
      match lines with
      | [] => [[c]]
      | line :: more => (c :: line) :: more) []

structure ParseError where
  line : Nat
  cause : LineError
  deriving DecidableEq, Repr

/-- Read lines from one with this number on, in a section. A carriage return at the end of a line is
a blank. -/
def readLinesFrom (part : Section) (number : Nat) :
    List (List Char) → Except ParseError (Contents Float)
  | [] => .ok .empty
  | line :: rest =>
      match readLineIn part (trimmed line) with
      | .error cause => .error ⟨number, cause⟩
      | .ok .skipped => readLinesFrom part (number + 1) rest
      | .ok (.comment next) => readLinesFrom next (number + 1) rest
      | .ok (.instruction instruction) =>
          (readLinesFrom part (number + 1) rest).map (Contents.withInstruction instruction)
      | .ok (.guess guess) =>
          (readLinesFrom part (number + 1) rest).map (Contents.withGuess guess)

def Problem.read (text : String) : Except ParseError (Problem Float) :=
  (readLinesFrom .preamble 1 (splitLines text.toList)).map .ofContents

def LineError.message : LineError → String
  | .unexpectedHeader title => "unexpected '# " ++ String.ofList title ++ "' header"
  | .missingHeader => "expected a '# constraints' header"
  | .malformed line offset =>
      String.ofList line ++ "\n" ++ String.ofList (List.replicate offset ' ') ++ "^\n"

def lineMessage (line : Nat) (reason : String) : String :=
  s!"Could not parse line {line}: " ++ reason

def ParseError.message (error : ParseError) : String := lineMessage error.line error.cause.message

end Drafting.Text
