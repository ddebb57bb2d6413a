import Drafting.Text.Blank

/-!
# Reading from the front of a text

A reader takes something from the front of a text and gives it with the rest. When it fails it gives
the text that was left where it stopped, so that the place can be shown. Choices are ordered: a later
alternative is tried only if the earlier ones fail, and if all fail the place is where the last one
stopped.
-/

namespace Drafting.Text

/-- Reads a value from the front of a text, or says what was left where it stopped. -/
def Reader (β : Type) : Type := List Char → Except (List Char) (β × List Char)

namespace Reader

variable {β γ : Type}

instance : Monad Reader where
  pure value := fun text => .ok (value, text)
  bind reader next := fun text =>
    match reader text with
    | .ok (value, rest) => next value rest
    | .error stop => .error stop

def orElse (first second : Reader β) : Reader β := fun text =>
  match first text with
  | .ok result => .ok result
  | .error _ => second text

def firstOf (last : Reader β) (readers : List (Reader β)) : Reader β :=
  readers.foldr orElse last

def one (accepts : Char → Bool) : Reader Char
  | [] => .error []
  | c :: rest => if accepts c then .ok (c, rest) else .error (c :: rest)

def many (accepts : Char → Bool) : Reader (List Char) := fun text =>
  .ok (text.takeWhile accepts, text.dropWhile accepts)

def char (expected : Char) : Reader Char := one (· == expected)

def word (expected : String) : Reader Unit := fun text =>
  if expected.toList.isPrefixOf text then .ok ((), text.drop expected.length) else .error text

/-- A space or a tab, the only blanks inside a line. -/
def isSpace (c : Char) : Bool := c == ' ' || c == '\t'

def spaces : Reader (List Char) := many isSpace

def spaces1 : Reader Unit := do
  let _ ← one isSpace
  let _ ← spaces
  return ()

def spaced (mark : Char) : Reader Unit := do
  let _ ← spaces
  let _ ← char mark
  let _ ← spaces
  return ()

def comma : Reader Unit := spaced ','

def endOfLine : Reader Unit := fun text =>
  match text.dropWhile isSpace with
  | [] => .ok ((), [])
  | '#' :: _ => .ok ((), [])
  | stop => .error stop

end Reader

end Drafting.Text
