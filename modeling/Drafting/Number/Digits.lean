import Drafting.Number.Binary64

/-!
# Choosing decimal digits

Two ways to write a binary fraction in decimal. `shortest` finds the fewest digits that still read
back as the same double-precision number, and of those the nearest to it, an exact tie going up.
`roundedTo` and `roundedAt` keep a given number of digits or of places of the exact value, an exact
tie going to the even neighbour. All of it is arithmetic on whole numbers.
-/

namespace Drafting.Number

/-- The decimal number `significand * 10 ^ exponent`. -/
structure Decimal where
  significand : Nat
  exponent : Int
  deriving DecidableEq, Repr

def tenTo (n : Nat) : Nat := Nat.pow 10 n

/-- How many decimal digits a whole number has; zero has one. -/
def digitCount (n : Nat) : Nat := (Nat.toDigits 10 n).length

/-- The nearest whole number to a quotient, a tie going to the even one. -/
def nearestEven (numerator denominator : Nat) : Nat :=
  let quotient := numerator / denominator
  let twice := 2 * (numerator % denominator)
  if twice < denominator ∨ (twice = denominator ∧ quotient % 2 = 0) then quotient
  else quotient + 1

namespace Dyadic

/-- The place of the decimal point: a positive `x` is below `10 ^ magnitude` and not below a tenth
of that. -/
def magnitude (x : Dyadic) : Int :=
  if x.denominator ≤ x.numerator then digitCount (x.numerator / x.denominator)
  else 1 - digitCount (x.denominator / x.numerator)

def roundedAt (x : Dyadic) (place : Int) : Decimal :=
  ⟨nearestEven (x.numerator * tenTo (-place).toNat) (x.denominator * tenTo place.toNat), place⟩

/-- The value rounded to `count` significant digits; zero keeps as many zeros. -/
def roundedTo (x : Dyadic) (count : Nat) : Decimal :=
  if x.mantissa = 0 then ⟨0, 1 - count⟩
  else
    let rounded := x.roundedAt (x.magnitude - count)
    if rounded.significand = tenTo count then ⟨tenTo (count - 1), rounded.exponent + 1⟩ else rounded

/-- The quarter steps down to the edge of the numbers that round to `x`. Below a power of two the
neighbour is only half as far away. -/
def stepDown (x : Dyadic) : Nat :=
  if x.mantissa = normalMantissa ∧ leastExponent < x.exponent then 1 else 2

/-- The better of the two neighbours of `x` among the multiples of `10 ^ place`, if one of them
reads back as `x`. The edges read back exactly when the mantissa is even. Everything is measured in
one unit small enough for both grids. -/
def candidate? (x : Dyadic) (place : Int) : Option Nat :=
  let grid := tenTo place.toNat * twoTo (2 - x.exponent).toNat
  let quarter := twoTo (x.exponent - 2).toNat * tenTo (-place).toNat
  let value := 4 * x.mantissa * quarter
  let low := (4 * x.mantissa - x.stepDown) * quarter
  let high := (4 * x.mantissa + 2) * quarter
  let readsBack (c : Nat) : Bool :=
    if x.mantissa % 2 = 0 then low ≤ c * grid && c * grid ≤ high
    else low < c * grid && c * grid < high
  let below := value / grid
  match readsBack below, readsBack (below + 1) with
  | true, true =>
      some (if value - below * grid < (below + 1) * grid - value then below else below + 1)
  | true, false => some below
  | false, true => some (below + 1)
  | false, false => none

/-- Seventeen digits always tell two double-precision numbers apart. -/
def enoughDigits : Nat := 17

def shortest (x : Dyadic) : Decimal :=
  if x.mantissa = 0 then ⟨0, 0⟩
  else
    let found := (List.range enoughDigits).findSome? fun extra =>
      let place := x.magnitude - (extra + 1 : Nat)
      (x.candidate? place).map fun c =>
        if c = tenTo (extra + 1) then Decimal.mk 1 x.magnitude else ⟨c, place⟩
    found.getD (x.roundedTo enoughDigits)

end Dyadic

end Drafting.Number
