import Drafting.Number.Digits

/-!
# Numbers as text

The written forms of a number: `plain` never uses an exponent and `scientific` always does, both
with the fewest digits that read back; `scientificTo` and `fixed` show a given number of places of
the exact value. The forms share the texts for infinity and for what is not a number.
-/

namespace Drafting.Number

def paddedDigits (n width : Nat) : List Char :=
  let digits := Nat.toDigits 10 n
  List.replicate (width - digits.length) '0' ++ digits

def withPoint (digits : List Char) (places : Nat) : List Char :=
  if places = 0 then digits
  else digits.take (digits.length - places) ++ '.' :: digits.drop (digits.length - places)

namespace Decimal

def positional (d : Decimal) : List Char :=
  if 0 ≤ d.exponent then
    Nat.toDigits 10 d.significand ++ List.replicate d.exponent.toNat '0'
  else
    let places := (-d.exponent).toNat
    withPoint (paddedDigits d.significand (places + 1)) places

/-- One digit before the point, `width` digits in all if the significand has fewer, and a power of
ten without plus sign or padding. -/
def exponential (d : Decimal) (width : Nat) : List Char :=
  let digits := paddedDigits d.significand width
  withPoint digits (digits.length - 1) ++
    'e' :: (toString (d.exponent + (digits.length - 1 : Nat))).toList

end Decimal

def written (rule : Dyadic → List Char) (x : Float) : String :=
  let signed (negative : Bool) (text : List Char) : String :=
    String.ofList (if negative then '-' :: text else text)
  match unpack x with
  | .notANumber => "NaN"
  | .infinite negative => signed negative ['i', 'n', 'f']
  | .finite negative magnitude => signed negative (rule magnitude)

/-- Positional notation with the fewest digits that read back: `1000`, `0.0000001`, `-0`. -/
def plain (x : Float) : String :=
  written (fun m => m.shortest.positional) x

/-- Exponent notation with the fewest digits that read back: `1e3`, `1.5e-7`, `-0e0`. -/
def scientific (x : Float) : String :=
  written (fun m => m.shortest.exponential 1) x

def scientificTo (places : Nat) (x : Float) : String :=
  written (fun m => (m.roundedTo (places + 1)).exponential (places + 1)) x

def fixed (places : Nat) (x : Float) : String :=
  written (fun m => (m.roundedAt (-places)).positional) x

end Drafting.Number
