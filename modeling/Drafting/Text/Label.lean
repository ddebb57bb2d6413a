import Drafting.Number.Numeral
import Drafting.Text.Alphabetic
import Drafting.Text.Numeric
import Drafting.Text.Reader

/-!
# Labels and numbers in a line
-/

namespace Drafting.Text

abbrev Label := String

def isLabelStart (c : Char) : Bool := isAlphabetic c || c == '_'

def isLabelPart (c : Char) : Bool := isAlphabetic c || isNumeric c || c == '_'

namespace Reader

def label : Reader Label := do
  let first ← one isLabelStart
  let rest ← many isLabelPart
  return String.ofList (first :: rest)

def number : Reader Float := fun text =>
  match Number.Numeral.readPrefix? text with
  | some (numeral, rest) => .ok (numeral.toFloat, rest)
  | none => .error text

end Reader

end Drafting.Text
