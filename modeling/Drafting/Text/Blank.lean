import Drafting.Text.CharacterSet

/-!
# Blank characters

The characters with the Unicode property `White_Space`, and `trimmed`, which removes them at both
ends of a text.
-/

namespace Drafting.Text

/-- Where the property `White_Space` changes. -/
def blankSet : CharacterSet :=
  [9, 14, 32, 33, 133, 134, 160, 161, 5760, 5761, 8192, 8203, 8232, 8234, 8239, 8240, 8287, 8288,
    12288, 12289]

def isBlank (c : Char) : Bool := blankSet.contains c

def trimmed (text : List Char) : List Char :=
  ((text.dropWhile isBlank).reverse.dropWhile isBlank).reverse

end Drafting.Text
