import Mathlib
import Drafting.Proofs.Comparison

/-!
# How double-precision numbers compare

Numbers other than NaN are ordered by a key of integers: the sort of the number with its sign, then
exponent and mantissa, both negated for negative numbers.
-/

namespace Drafting.Binary64

open Float.Model (Format UnpackedFloat)
open Float.Model.UnpackedFloat

/-- Where an unpacked number stands: its sort, its exponent and its mantissa. -/
def key : UnpackedFloat → Int × Int × Int
  | .notANumber => (0, 0, 0)
  | .infinity .negative => (-2, 0, 0)
  | .finite .negative mantissa exponent _ => (-1, -exponent, -mantissa)
  | .zero _ => (0, 0, 0)
  | .finite .positive mantissa exponent _ => (1, exponent, mantissa)
  | .infinity .positive => (2, 0, 0)

def compareKeys (k l : Int × Int × Int) : Ordering :=
  (compare k.1 l.1).then ((compare k.2.1 l.2.1).then (compare k.2.2 l.2.2))

def Below (k l : Int × Int × Int) : Prop :=
  k.1 < l.1 ∨ k.1 = l.1 ∧ (k.2.1 < l.2.1 ∨ k.2.1 = l.2.1 ∧ k.2.2 < l.2.2)

theorem compareKeys_eq_lt_iff (k l : Int × Int × Int) : compareKeys k l = .lt ↔ Below k l := by
  simp only [compareKeys, Below, Ordering.then_eq_lt, Int.compare_eq_lt, Int.compare_eq_eq]

theorem compareKeys_eq_gt_iff (k l : Int × Int × Int) : compareKeys k l = .gt ↔ Below l k := by
  simp only [compareKeys, Below, Ordering.then_eq_gt, Int.compare_eq_gt, Int.compare_eq_eq,
    eq_comm (a := k.1), eq_comm (a := k.2.1)]

private theorem compare_neg (m n : Int) : compare (-m) (-n) = (compare m n).swap := by
  rw [Int.compare_swap]
  cases reverse : compare n m with
  | lt =>
      rw [Int.compare_eq_lt] at reverse ⊢
      omega
  | eq =>
      rw [Int.compare_eq_eq] at reverse ⊢
      omega
  | gt =>
      rw [Int.compare_eq_gt] at reverse ⊢
      omega

private theorem compare_natCast (m n : Nat) : compare (m : Int) (n : Int) = compare m n := by
  cases natural : compare m n with
  | lt =>
      rw [Nat.compare_eq_lt] at natural
      rw [Int.compare_eq_lt]
      omega
  | eq =>
      rw [Nat.compare_eq_eq] at natural
      rw [Int.compare_eq_eq]
      omega
  | gt =>
      rw [Nat.compare_eq_gt] at natural
      rw [Int.compare_eq_gt]
      omega

theorem compare_eq_compareKeys {a b : UnpackedFloat} (left : a.isNaN = false)
    (right : b.isNaN = false) : a.compare b = some (compareKeys (key a) (key b)) := by
  cases a with
  | notANumber => cases left
  | infinity s =>
      cases b with
      | notANumber => cases right
      | infinity t => cases s <;> cases t <;> rfl
      | zero t => cases s <;> rfl
      | finite t m e positive => cases s <;> cases t <;> rfl
  | zero s =>
      cases b with
      | notANumber => cases right
      | infinity t => cases t <;> rfl
      | zero t => rfl
      | finite t m e positive => cases t <;> rfl
  | finite s m e positive =>
      cases b with
      | notANumber => cases right
      | infinity t => cases s <;> cases t <;> rfl
      | zero t => cases s <;> rfl
      | finite t n f alsoPositive =>
          cases s with
          | negative =>
              cases t with
              | negative =>
                  simp only [UnpackedFloat.compare, compareKeys, key, compare_neg, compare_natCast,
                    Ordering.swap_then]
                  rfl
              | positive => rfl
          | positive =>
              cases t with
              | negative => rfl
              | positive =>
                  simp only [UnpackedFloat.compare, compareKeys, key, compare_natCast]
                  rfl

theorem le_iff (a b : UnpackedFloat) :
    a.le b = true ↔ a.isNaN = false ∧ b.isNaN = false ∧ ¬Below (key b) (key a) := by
  cases left : a.isNaN with
  | true => cases a <;> simp_all [UnpackedFloat.isNaN, UnpackedFloat.le, UnpackedFloat.compare]
  | false =>
      cases right : b.isNaN with
      | true =>
          cases b <;> cases a <;>
            simp_all [UnpackedFloat.isNaN, UnpackedFloat.le, UnpackedFloat.compare]
      | false =>
          rw [UnpackedFloat.le, compare_eq_compareKeys left right, ← compareKeys_eq_gt_iff]
          cases compareKeys (key a) (key b) <;> decide

theorem lt_iff (a b : UnpackedFloat) :
    a.lt b = true ↔ a.isNaN = false ∧ b.isNaN = false ∧ Below (key a) (key b) := by
  cases left : a.isNaN with
  | true => cases a <;> simp_all [UnpackedFloat.isNaN, UnpackedFloat.lt, UnpackedFloat.compare]
  | false =>
      cases right : b.isNaN with
      | true =>
          cases b <;> cases a <;>
            simp_all [UnpackedFloat.isNaN, UnpackedFloat.lt, UnpackedFloat.compare]
      | false =>
          rw [UnpackedFloat.lt, compare_eq_compareKeys left right, ← compareKeys_eq_lt_iff]
          cases compareKeys (key a) (key b) <;> decide

theorem isNaN_unpack (bits : BitVec Format.binary64.numBits) :
    (unpack Format.binary64 bits).isNaN =
      decide (unpackExponent bits = (-1#_) ∧ unpackMantissa bits ≠ 0#_) := by
  unfold unpack
  by_cases special : unpackExponent bits = (-1#_)
  · rw [if_pos special]
    by_cases empty : unpackMantissa bits = 0#_
    · rw [if_pos empty, decide_eq_false (fun both => both.2 empty), UnpackedFloat.isNaN]
      exact fun impossible => UnpackedFloat.noConfusion impossible
    · rw [if_neg empty, decide_eq_true ⟨special, empty⟩, UnpackedFloat.isNaN]
  · rw [if_neg special, decide_eq_false (fun both => special both.1)]
    split
    · split
      · rfl
      · rfl
    · rfl

/-- Packing keeps what is a number and what is none. -/
theorem isNaN_unpack_pack (a : UnpackedFloat) :
    (unpack Format.binary64 (pack Format.binary64 a)).isNaN = a.isNaN := by
  rw [isNaN_unpack]
  cases a with
  | notANumber => decide
  | infinity s => cases s <;> decide
  | zero s => cases s <;> decide
  | finite s mantissa exponent positive =>
      rw [show (UnpackedFloat.finite s mantissa exponent positive).isNaN = false from rfl]
      unfold pack
      dsimp only
      split
      · simp [packedInfinity]
      · rename_i inRange
        split
        · rw [unpackExponent_packComponents]
          apply decide_eq_false
          rintro ⟨same, _⟩
          have values := congrArg BitVec.toNat same
          rw [BitVec.toNat_ofNat] at values
          have allOnes : (-1#11).toNat = 2047 := by decide
          have size : 2 ^ Format.binary64.exponentBits = 2048 := by decide
          rw [allOnes, size] at values
          rw [size] at inRange
          omega
        · rw [unpackExponent_packComponents]
          apply decide_eq_false
          rintro ⟨same, _⟩
          exact absurd same (by decide)

theorem not_below_infinity (a : UnpackedFloat) :
    ¬Below (key (.infinity .positive)) (key a) := by
  cases a with
  | notANumber => simp [Below, key]
  | infinity s => cases s <;> simp [Below, key]
  | zero s => simp [Below, key]
  | finite s mantissa exponent positive => cases s <;> simp [Below, key]

theorem eq_infinity_of_not_below {a : UnpackedFloat}
    (top : ¬Below (key a) (key (.infinity .positive))) : a = .infinity .positive := by
  cases a with
  | notANumber => exact absurd (Or.inl (by decide)) top
  | infinity s =>
      cases s with
      | negative => exact absurd (Or.inl (by decide)) top
      | positive => rfl
  | zero s => exact absurd (Or.inl (by simp [key])) top
  | finite s mantissa exponent positive =>
      cases s with
      | negative => exact absurd (Or.inl (by simp [key])) top
      | positive => exact absurd (Or.inl (by simp [key])) top

theorem not_below_zero_of_sign {bits : BitVec Format.binary64.numBits}
    (positive : unpackSign bits = 0#1) (s : Sign) :
    ¬Below (key (unpack Format.binary64 bits)) (key (.zero s)) := by
  have sign : Sign.ofBitVec (unpackSign bits) = .positive := if_pos positive
  unfold unpack
  dsimp only
  rw [sign]
  split
  · split
    · simp [Below, key]
    · simp [Below, key]
  · split
    · split
      · simp [Below, key]
      · simp [Below, key]
    · simp [Below, key]

/-- Negating what is below zero clears the sign. -/
theorem unpackSign_pack_neg {a : UnpackedFloat} {s : Sign}
    (negative : Below (key a) (key (.zero s))) :
    unpackSign (pack Format.binary64 a.neg) = 0#1 := by
  cases a with
  | notANumber => simp [Below, key] at negative
  | zero t => simp [Below, key] at negative
  | infinity t =>
      cases t with
      | positive => simp [Below, key] at negative
      | negative => decide
  | finite t mantissa exponent positive =>
      cases t with
      | positive => simp [Below, key] at negative
      | negative =>
          rw [UnpackedFloat.neg, pack]
          dsimp only
          split
          · decide
          · split
            · exact unpackSign_packComponents ..
            · exact unpackSign_packComponents ..

private theorem toBitVec_ofBitVec (bit : BitVec 1) : (Sign.ofBitVec bit).toBitVec = bit := by
  revert bit
  decide

theorem packComponents_fields (bits : BitVec Format.binary64.numBits) :
    packComponents Format.binary64 (Sign.ofBitVec (unpackSign bits)) (unpackExponent bits)
      (unpackMantissa bits) = bits := by
  rw [packComponents, toBitVec_ofBitVec]
  apply BitVec.eq_of_getLsbD_eq
  intro i inRange
  simp only [unpackSign, unpackExponent, unpackMantissa, BitVec.extractLsb]
  grind

/-- Infinity has only one pattern of bits. -/
theorem eq_packedInfinity_of_unpack {bits : BitVec Format.binary64.numBits}
    (infinite : unpack Format.binary64 bits = .infinity .positive) :
    bits = packedInfinity Format.binary64 .positive := by
  unfold unpack at infinite
  dsimp only at infinite
  split at infinite
  · rename_i special
    split at infinite
    · rename_i empty
      have positive : Sign.ofBitVec (unpackSign bits) = .positive := by
        injection infinite
      rw [← packComponents_fields bits, special, empty, positive]
      rfl
    · cases infinite
  · split at infinite
    · split at infinite
      · cases infinite
      · cases infinite
    · cases infinite

end Drafting.Binary64

namespace Drafting

open Binary64
open Float.Model (Format UnpackedFloat)

private theorem float_le_iff (a b : Float) : a ≤ b ↔ a.toModel.unpack.le b.toModel.unpack = true :=
  decide_eq_true_iff

private theorem float_lt_iff (a b : Float) : a < b ↔ a.toModel.unpack.lt b.toModel.unpack = true :=
  decide_eq_true_iff

theorem float_self_le_iff {x : Float} : x ≤ x ↔ x.isNaN = false := by
  rw [float_le_iff, Binary64.le_iff]
  constructor
  · exact And.left
  · intro number
    refine ⟨number, number, ?_⟩
    unfold Below
    omega

instance : LawfulComparison Float where
  le_trans {a b c} first second := by
    rw [float_le_iff, Binary64.le_iff] at first second ⊢
    refine ⟨first.1, second.2.1, ?_⟩
    have left := first.2.2
    have right := second.2.2
    unfold Below at left right ⊢
    omega
  le_total {a b} left right := by
    rw [float_self_le_iff] at left right
    rw [float_le_iff, float_le_iff, Binary64.le_iff, Binary64.le_iff]
    by_cases below : Below (key b.toModel.unpack) (key a.toModel.unpack)
    · refine Or.inr ⟨right, left, ?_⟩
      unfold Below at below ⊢
      omega
    · exact Or.inl ⟨left, right, below⟩
  self_le_of_le {a b} atMost := by
    rw [float_le_iff, Binary64.le_iff] at atMost
    exact float_self_le_iff.mpr atMost.1
  self_le_of_ge {a b} atMost := by
    rw [float_le_iff, Binary64.le_iff] at atMost
    exact float_self_le_iff.mpr atMost.2.1
  lt_iff {a b} := by
    rw [float_lt_iff, float_le_iff, float_le_iff, Binary64.lt_iff, Binary64.le_iff, Binary64.le_iff]
    constructor
    · rintro ⟨left, right, below⟩
      refine ⟨⟨left, right, ?_⟩, fun reverse => reverse.2.2 below⟩
      unfold Below at below ⊢
      omega
    · rintro ⟨⟨left, right, notBelow⟩, notReverse⟩
      refine ⟨left, right, ?_⟩
      by_cases below : Below (key a.toModel.unpack) (key b.toModel.unpack)
      · exact below
      · exact absurd ⟨right, left, below⟩ notReverse

theorem float_isNaN_neg (x : Float) : (-x).isNaN = x.isNaN := by
  have sameSort : x.toModel.unpack.neg.isNaN = x.toModel.unpack.isNaN := by
    cases x.toModel.unpack <;> rfl
  exact (isNaN_unpack_pack x.toModel.unpack.neg).trans sameSort

theorem float_zero_unpack : (0 : Float).toModel.unpack = .zero .positive :=
  rfl

theorem float_infinity_unpack : (Precision.infinity : Float).toModel.unpack = .infinity .positive :=
  rfl

instance : LawfulPrecision Float where
  zero_le_zero := by decide
  neg_self_le {a} number := by
    rw [float_self_le_iff] at number ⊢
    exact (float_isNaN_neg a).trans number
  infinity_self_le := by decide
  le_infinity {a b} number _ := by
    rw [float_self_le_iff] at number
    rw [float_le_iff, Binary64.le_iff, float_infinity_unpack]
    exact ⟨number, rfl, not_below_infinity _⟩

theorem float_zero_le_neg {x : Float} (negative : x < 0) : 0 ≤ -x := by
  rw [float_lt_iff, Binary64.lt_iff, float_zero_unpack] at negative
  obtain ⟨number, _, below⟩ := negative
  rw [float_le_iff, Binary64.le_iff, float_zero_unpack]
  exact ⟨rfl, (float_isNaN_neg x).trans number,
    not_below_zero_of_sign (unpackSign_pack_neg below) .positive⟩

theorem float_zero_le_magnitude {x : Float} (number : x ≤ x) : 0 ≤ magnitude x := by
  unfold magnitude
  split
  · rename_i negative
    exact float_zero_le_neg negative
  · rename_i notNegative
    rcases LawfulComparison.le_total LawfulPrecision.zero_le_zero number with above | below
    · exact above
    · by_contra notAbove
      exact notNegative (LawfulComparison.lt_iff.mpr ⟨below, notAbove⟩)

theorem eq_infinity_of_infinity_le {x : Float} (large : Precision.infinity ≤ x) :
    x = Precision.infinity := by
  rw [float_le_iff, Binary64.le_iff, float_infinity_unpack] at large
  have infinite := eq_infinity_of_not_below large.2.2
  have bits : x.toModel.toBits.toBitVec = (Precision.infinity : Float).toModel.toBits.toBitVec :=
    eq_packedInfinity_of_unpack infinite
  rcases x with ⟨⟨pattern, valid⟩⟩
  have samePattern : pattern = (Precision.infinity : Float).toModel.toBits :=
    UInt64.toBitVec_inj.mp bits
  subst samePattern
  rfl

end Drafting
