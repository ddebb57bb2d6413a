/-!
# Sets of characters

A set of characters is given by the code points at which membership changes, in ascending order. The
first one begins the set, the next one is the first character after that run, and so on.
-/

namespace Drafting.Text

/-- The code points at which membership changes. -/
abbrev CharacterSet := List Nat

/-- A character is in the set if an odd number of changes come at or before it. -/
def CharacterSet.contains (bounds : CharacterSet) (c : Char) : Bool :=
  (bounds.takeWhile fun bound => bound ≤ c.toNat).length % 2 == 1

end Drafting.Text
