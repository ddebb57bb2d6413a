/-!
# Binary numbers taken apart

A double-precision number is a sign and a whole mantissa scaled by a power of two, unless it is
infinite or not a number. Everything that writes a number in decimal starts from this view, so
that digits are chosen by exact integer arithmetic.
-/

namespace Drafting.Number

def twoTo (n : Nat) : Nat := Nat.pow 2 n

theorem twoTo_pos (n : Nat) : 0 < twoTo n := Nat.two_pow_pos n

/-- A positive or zero binary fraction `mantissa * 2 ^ exponent`. -/
structure Dyadic where
  mantissa : Nat
  exponent : Int
  deriving DecidableEq, Repr

inductive Unpacked where
  | notANumber
  | infinite (negative : Bool)
  | finite (negative : Bool) (magnitude : Dyadic)
  deriving DecidableEq, Repr

/-- Mantissas of normal numbers start here; the spacing of the numbers below it is halved. -/
def normalMantissa : Nat := twoTo 52

/-- The exponent of the subnormal numbers and of the smallest normal ones. -/
def leastExponent : Int := -1074

def unpack (x : Float) : Unpacked :=
  let bits := x.toBits.toNat
  let negative := decide (twoTo 63 ≤ bits)
  let biased := bits / twoTo 52 % twoTo 11
  let fraction := bits % twoTo 52
  if biased = twoTo 11 - 1 then
    if fraction = 0 then .infinite negative else .notANumber
  else if biased = 0 then
    .finite negative ⟨fraction, leastExponent⟩
  else
    .finite negative ⟨normalMantissa + fraction, leastExponent + (biased - 1 : Nat)⟩

namespace Dyadic

def numerator (x : Dyadic) : Nat := x.mantissa * twoTo x.exponent.toNat

def denominator (x : Dyadic) : Nat := twoTo (-x.exponent).toNat

theorem denominator_pos (x : Dyadic) : 0 < x.denominator :=
  twoTo_pos _

end Dyadic

end Drafting.Number
