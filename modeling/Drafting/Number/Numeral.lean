import Drafting.Number.Digits

/-!
# Numerals

A numeral is what a text says a number is: a decimal fraction, infinity, or not a number.
`readPrefix?` reads the numeral at the front of a text, and `toFloat` rounds it to the nearest
double-precision number.
-/

namespace Drafting.Number

inductive Numeral where
  | notANumber
  | infinity (negative : Bool)
  | decimal (negative : Bool) (magnitude : Decimal)
  deriving DecidableEq, Repr

namespace Numeral

/-- With the point this many places to the right of the first digit a number is too large to be
finite, and with the point as far to the left it is too small to be more than zero. -/
def extremeMagnitude : Int := 400

/-- The nearest double-precision number. Magnitudes out of range are told from their place alone, so
that no great power of ten is formed. -/
def toFloat : Numeral → Float
  | .notANumber => 0.0 / 0.0
  | .infinity negative => if negative then -1.0 / 0.0 else 1.0 / 0.0
  | .decimal negative magnitude =>
      let place := magnitude.exponent + digitCount magnitude.significand
      let absolute :=
        if magnitude.significand = 0 ∨ place < -extremeMagnitude then 0.0
        else if extremeMagnitude < place then 1.0 / 0.0
        else Float.ofScientific magnitude.significand (decide (magnitude.exponent < 0))
          magnitude.exponent.natAbs
      if negative then -absolute else absolute

def digitsValue (digits : List Char) : Nat :=
  digits.foldl (fun value c => 10 * value + (c.toNat - '0'.toNat)) 0

def afterWord? : List Char → List Char → Option (List Char)
  | [], text => some text
  | c :: word, d :: text => if d.toLower = c then afterWord? word text else none
  | _ :: _, [] => none

/-- The exponent at the front of a text: a letter, perhaps a sign, and digits. Without the letter it
is zero; a letter that no digits follow is no exponent. -/
def exponent? (text : List Char) : Option (Int × List Char) :=
  let signed (negative : Bool) (digits : List Char) : Option (Int × List Char) :=
    match digits.takeWhile Char.isDigit with
    | [] => none
    | shown =>
        let value : Int := digitsValue shown
        some (if negative then -value else value, digits.dropWhile Char.isDigit)
  match text with
  | e :: rest =>
      if e = 'e' ∨ e = 'E' then
        match rest with
        | '-' :: digits => signed true digits
        | '+' :: digits => signed false digits
        | digits => signed false digits
      else some (0, text)
  | [] => some (0, [])

def fraction? (negative : Bool) (whole part rest : List Char) : Option (Numeral × List Char) :=
  (exponent? rest).map fun (power, rest) =>
    (.decimal negative ⟨digitsValue (whole ++ part), power - part.length⟩, rest)

/-- A numeral after its sign. A point needs a digit on one of its sides. -/
def readUnsigned? (negative : Bool) (text : List Char) : Option (Numeral × List Char) :=
  match afterWord? ['i', 'n', 'f'] text with
  | some rest =>
      some (.infinity negative, (afterWord? ['i', 'n', 'i', 't', 'y'] rest).getD rest)
  | none =>
      let whole := text.takeWhile Char.isDigit
      match whole, text.dropWhile Char.isDigit with
      | [], '.' :: rest =>
          match rest.takeWhile Char.isDigit with
          | [] => none
          | part => fraction? negative [] part (rest.dropWhile Char.isDigit)
      | [], _ => none
      | _, '.' :: rest =>
          fraction? negative whole (rest.takeWhile Char.isDigit) (rest.dropWhile Char.isDigit)
      | _, rest => fraction? negative whole [] rest

/-- A numeral with its sign. Only a numeral without sign can say that it is not a number. -/
def readSigned? (text : List Char) : Option (Numeral × List Char) :=
  match text with
  | '-' :: rest => readUnsigned? true rest
  | '+' :: rest => readUnsigned? false rest
  | _ =>
      match afterWord? ['n', 'a', 'n'] text with
      | some rest => some (.notANumber, rest)
      | none => readUnsigned? false text

def readWhole? (text : List Char) : Option (Numeral × List Char) :=
  match text.takeWhile Char.isDigit with
  | [] => none
  | whole => some (.decimal false ⟨digitsValue whole, 0⟩, text.dropWhile Char.isDigit)

/-- The numeral at the front of a text, with the rest. Where an exponent is left unfinished only the
digits at the very front are read: `1` of `1.5e`, and nothing of `-1e` or `.5e`. -/
def readPrefix? (text : List Char) : Option (Numeral × List Char) :=
  (readSigned? text).or (readWhole? text)

def ofText? (text : String) : Option Float :=
  match readPrefix? text.toList with
  | some (numeral, []) => some numeral.toFloat
  | _ => none

end Numeral

end Drafting.Number
