import Mathlib

/-!
# Negating both factors

A product stays the same if both factors change their signs. This is so for double-precision numbers
too: the sign of a product does not depend on the rest, and the rest not on the signs.
-/

namespace Drafting

class LawfulNegation (α : Type) [Mul α] [Neg α] : Prop where
  neg_mul_neg : ∀ a b : α, -a * -b = a * b

instance {α : Type} [Mul α] [HasDistribNeg α] : LawfulNegation α where
  neg_mul_neg := neg_mul_neg

namespace Binary64

open Float.Model (Format UnpackedFloat)
open Float.Model.UnpackedFloat

def flipped (bits : BitVec Format.binary64.numBits) : BitVec Format.binary64.numBits :=
  packComponents Format.binary64 (-Sign.ofBitVec (unpackSign bits)) (unpackExponent bits)
    (unpackMantissa bits)

theorem unpack_flipped (bits : BitVec Format.binary64.numBits) :
    unpack Format.binary64 (flipped bits) = (unpack Format.binary64 bits).neg := by
  unfold flipped unpack
  simp only [unpackExponent_packComponents, unpackMantissa_packComponents, unpackSign_packComponents,
    Sign.ofBitVec_toBitVec]
  split
  · split
    · rfl
    · rfl
  · split
    · split
      · rfl
      · rfl
    · rfl

/-- All that packing forgets is which pattern stood for something that is not a number. -/
theorem unpack_pack_unpack (bits : BitVec Format.binary64.numBits) :
    unpack Format.binary64 (pack Format.binary64 (unpack Format.binary64 bits)) =
      unpack Format.binary64 bits := by
  rw [pack_unpack]
  split
  · rename_i notNumber
    obtain ⟨special, nonempty⟩ := of_decide_eq_true notNumber
    rw [unpack_packedNaN, unpack, if_pos special, if_neg nonempty]
  · rfl

theorem neg_mul_neg (a b : UnpackedFloat) :
    UnpackedFloat.mul Format.binary64 a.neg b.neg = UnpackedFloat.mul Format.binary64 a b := by
  have signs (s t : Sign) : -s * -t = s * t := by cases s <;> cases t <;> rfl
  cases a with
  | notANumber => rfl
  | infinity s | zero s | finite s m e positive =>
      cases b with
      | notANumber => rfl
      | infinity t | zero t | finite t n f alsoPositive =>
          simp only [UnpackedFloat.neg, UnpackedFloat.mul, signs]

end Binary64

theorem float_unpack_neg (x : Float) : (-x).toModel.unpack = x.toModel.unpack.neg := by
  have packed : (-x).toModel = Float.Model.pack x.toModel.unpack.neg := rfl
  have negated := Binary64.unpack_flipped x.toModel.toBits.toBitVec
  have kept := Binary64.unpack_pack_unpack (Binary64.flipped x.toModel.toBits.toBitVec)
  rw [negated] at kept
  rw [packed]
  exact kept

instance : LawfulNegation Float where
  neg_mul_neg a b := by
    have packed (x y : Float) : (x * y).toModel = Float.Model.pack
        (Float.Model.UnpackedFloat.mul .binary64 x.toModel.unpack y.toModel.unpack) := rfl
    have product : (-a * -b).toModel = (a * b).toModel := by
      rw [packed, packed, float_unpack_neg, float_unpack_neg, Binary64.neg_mul_neg]
    cases left : -a * -b
    cases right : a * b
    rw [left, right] at product
    cases product
    rfl

end Drafting
