import Mathlib.Algebra.Order.Field.Rat
import Mathlib.Algebra.Order.Ring.Abs
import Mathlib.Data.Rat.Cast.Order
import Mathlib.Tactic.FieldSimp
import Mathlib.Tactic.Linarith
import Mathlib.Tactic.Positivity
import Mathlib.Tactic.Ring
import Drafting.Number.Written

/-!
# Numbers with a fixed number of places

A finite number is written by the nearest multiple of the last place, where of two that are as near
the even one is taken, and its sign is kept also when that is zero. The text is determined by this.
-/

namespace Drafting.Number

/-- The whole number is nearest to the value, and even if there is another one. -/
structure IsNearest (n : Nat) (value : ℚ) : Prop where
  near : |value - n| ≤ 1 / 2
  even_of_tie : |value - n| = 1 / 2 → n % 2 = 0

def lastDigits : Nat → Nat → List Char
  | 0, _ => []
  | places + 1, n => lastDigits places (n / 10) ++ [Nat.digitChar (n % 10)]

namespace Dyadic

def value (x : Dyadic) : ℚ := x.mantissa * 2 ^ x.exponent

end Dyadic

def signed (negative : Bool) (text : List Char) : List Char :=
  if negative then '-' :: text else text

inductive SpellsFixed (places : Nat) (x : Float) : List Char → Prop
  | notANumber (stands : unpack x = .notANumber) : SpellsFixed places x ['N', 'a', 'N']
  | infinite {negative : Bool} (stands : unpack x = .infinite negative) :
      SpellsFixed places x (signed negative ['i', 'n', 'f'])
  | finite {negative : Bool} {magnitude : Dyadic} {n : Nat}
      (stands : unpack x = .finite negative magnitude)
      (nearest : IsNearest n (magnitude.value * 10 ^ places)) :
      SpellsFixed places x
        (signed negative (Nat.toDigits 10 (n / 10 ^ places) ++ '.' :: lastDigits places n))

section Rounding

variable {n m : Nat} {value : ℚ}

theorem IsNearest.le (first : IsNearest n value) (second : IsNearest m value) : n ≤ m := by
  by_contra above
  obtain ⟨low, _⟩ := abs_le.mp first.near
  obtain ⟨_, high⟩ := abs_le.mp second.near
  have apart : (m : ℚ) + 1 ≤ n := by exact_mod_cast Nat.lt_of_not_le above
  -- The two are neighbours and the value is halfway between them, but one of them is odd.
  have half : value - m = 1 / 2 := by linarith
  have otherHalf : value - n = -(1 / 2) := by linarith
  have next : (n : ℚ) = m + 1 := by linarith
  have even := second.even_of_tie (by rw [half, abs_of_pos one_half_pos])
  have otherEven := first.even_of_tie (by rw [otherHalf, abs_neg, abs_of_pos one_half_pos])
  norm_cast at next
  omega

theorem IsNearest.unique (first : IsNearest n value) (second : IsNearest m value) : n = m :=
  Nat.le_antisymm (first.le second) (second.le first)

variable (numerator : Nat) {denominator : Nat}

/-- A quotient is its whole part and a part of one that is left. -/
theorem div_eq_add_left (positive : 0 < denominator) :
    (numerator / denominator : ℚ) =
      (numerator / denominator : Nat) + (numerator % denominator : Nat) / (denominator : ℚ) := by
  have nonzero : (denominator : ℚ) ≠ 0 := Nat.cast_ne_zero.mpr (Nat.ne_of_gt positive)
  have split : ((denominator * (numerator / denominator) + numerator % denominator : Nat) : ℚ) =
      numerator := congrArg _ (Nat.div_add_mod numerator denominator)
  rw [div_eq_iff nonzero, add_mul, div_mul_cancel₀ _ nonzero, ← split]
  push_cast
  ring

theorem isNearest_nearestEven (positive : 0 < denominator) :
    IsNearest (nearestEven numerator denominator) (numerator / denominator) := by
  have pos : (0 : ℚ) < denominator := Nat.cast_pos.mpr positive
  rw [div_eq_add_left numerator positive]
  generalize quotient : numerator / denominator = q
  generalize remainder : numerator % denominator = r
  have atLeast : (0 : ℚ) ≤ r / denominator := by positivity
  have below : (r : ℚ) / denominator < 1 := by
    rw [div_lt_one pos, ← remainder]
    exact Nat.cast_lt.mpr (Nat.mod_lt numerator positive)
  have less : (r : ℚ) / denominator < 1 / 2 ↔ 2 * r < denominator := by
    rw [div_lt_div_iff₀ pos two_pos, one_mul, mul_comm]
    norm_cast
  have same : (r : ℚ) / denominator = 1 / 2 ↔ 2 * r = denominator := by
    rw [div_eq_div_iff pos.ne' two_ne_zero, one_mul, mul_comm]
    norm_cast
  generalize (r : ℚ) / denominator = part at atLeast below less same ⊢
  simp only [nearestEven, quotient, remainder]
  split
  · rename_i down
    have toWhole : (q : ℚ) + part - q = part := add_sub_cancel_left _ _
    constructor
    · rw [toWhole, abs_of_nonneg atLeast]
      rcases down with close | ⟨tie, _⟩
      · exact (less.mpr close).le
      · exact (same.mpr tie).le
    · rw [toWhole, abs_of_nonneg atLeast, same]
      intro tie
      exact (down.resolve_left (by omega)).2
  · rename_i up
    rw [not_or, not_and] at up
    have toNext : (q : ℚ) + part - (q + 1 : Nat) = -(1 - part) := by
      push_cast
      ring
    have atHalf : 1 / 2 ≤ part := not_lt.mp (mt less.mp up.1)
    constructor
    · rw [toNext, abs_neg, abs_of_pos (sub_pos.mpr below)]
      linarith
    · rw [toNext, abs_neg, abs_of_pos (sub_pos.mpr below)]
      intro tie
      have odd := up.2 (same.mp (by linarith))
      omega

end Rounding

section Digits

theorem paddedDigits_one (n : Nat) : paddedDigits n 1 = Nat.toDigits 10 n := by
  have some : 1 - (Nat.toDigits 10 n).length = 0 := Nat.sub_eq_zero_of_le Nat.length_toDigits_pos
  rw [paddedDigits, some]
  rfl

/-- The last digit comes off the end, whether the digits are padded or not. -/
theorem paddedDigits_succ (n width : Nat) :
    paddedDigits n (width + 2) = paddedDigits (n / 10) (width + 1) ++ [Nat.digitChar (n % 10)] := by
  unfold paddedDigits
  by_cases small : n < 10
  · have none : n / 10 = 0 := Nat.div_eq_of_lt small
    rw [Nat.toDigits_of_lt_base small, none, Nat.mod_eq_of_lt small]
    change List.replicate (width + 1) '0' ++ _ = (List.replicate width '0' ++ ['0']) ++ _
    rw [List.replicate_succ']
  · rw [Nat.toDigits_of_base_le (by decide) (Nat.le_of_not_lt small)]
    have padding (length : Nat) : width + 2 - (length + 1) = width + 1 - length := by omega
    dsimp only
    rw [List.length_append, List.length_singleton, padding, List.append_assoc]

theorem paddedDigits_eq (places n : Nat) :
    paddedDigits n (places + 1) = Nat.toDigits 10 (n / 10 ^ places) ++ lastDigits places n := by
  induction places generalizing n with
  | zero => rw [paddedDigits_one, pow_zero, Nat.div_one, lastDigits, List.append_nil]
  | succ places ih =>
      rw [paddedDigits_succ, ih, lastDigits, List.append_assoc, Nat.div_div_eq_div_mul, pow_succ']

theorem length_lastDigits (places n : Nat) : (lastDigits places n).length = places := by
  induction places generalizing n with
  | zero => rfl
  | succ places ih => rw [lastDigits, List.length_append, ih, List.length_singleton]

theorem withPoint_append {places : Nat} (some : places ≠ 0) {whole last : List Char}
    (length : last.length = places) : withPoint (whole ++ last) places = whole ++ '.' :: last := by
  have front : (whole ++ last).length - places = whole.length := by
    rw [List.length_append, length, Nat.add_sub_cancel]
  rw [withPoint, if_neg some, front, List.take_left, List.drop_left]

theorem positional_of_places {places : Nat} (some : places ≠ 0) (n : Nat) :
    (Decimal.mk n (-places)).positional =
      Nat.toDigits 10 (n / 10 ^ places) ++ '.' :: lastDigits places n := by
  have negative : ¬0 ≤ (Decimal.mk n (-places)).exponent := by
    dsimp only
    omega
  have shown : (-(Decimal.mk n (-places)).exponent).toNat = places := by
    dsimp only
    omega
  rw [Decimal.positional, if_neg negative, shown]
  dsimp only
  rw [paddedDigits_eq, withPoint_append some (length_lastDigits places n)]

end Digits

section Writing

theorem Dyadic.value_eq (x : Dyadic) : x.value = x.numerator / x.denominator := by
  unfold value numerator denominator twoTo
  by_cases up : 0 ≤ x.exponent
  · have none : (-x.exponent).toNat = 0 := by omega
    have power : (2 : ℚ) ^ x.exponent = 2 ^ x.exponent.toNat := by
      rw [← zpow_natCast, Int.toNat_of_nonneg up]
    rw [none, power]
    simp
  · have none : x.exponent.toNat = 0 := by omega
    have power : (2 : ℚ) ^ x.exponent = (2 ^ (-x.exponent).toNat)⁻¹ := by
      rw [← zpow_natCast, Int.toNat_of_nonneg (by omega), zpow_neg, inv_inv]
    rw [none, power]
    simp [div_eq_mul_inv]

theorem cast_tenTo (n : Nat) : (tenTo n : ℚ) = 10 ^ n := Nat.cast_pow 10 n

theorem isNearest_roundedAt (x : Dyadic) (places : Nat) :
    IsNearest (x.roundedAt (-places)).significand (x.value * 10 ^ places) := by
  have nearest := isNearest_nearestEven (x.numerator * tenTo places) x.denominator_pos
  have moved : x.value * 10 ^ places = (x.numerator * tenTo places : Nat) / (x.denominator : ℚ) := by
    rw [x.value_eq, div_mul_eq_mul_div, Nat.cast_mul, cast_tenTo]
  have up : (-(-places : Int)).toNat = places := by omega
  have down : (-places : Int).toNat = 0 := by omega
  have one : tenTo 0 = 1 := rfl
  rwa [Dyadic.roundedAt, moved, up, down, one, Nat.mul_one]

theorem exists_spellsFixed {places : Nat} (some : places ≠ 0) (x : Float) :
    ∃ text, SpellsFixed places x text ∧ fixed places x = String.ofList text := by
  cases stands : unpack x with
  | notANumber =>
      refine ⟨_, .notANumber stands, ?_⟩
      rw [fixed, written, stands]
  | infinite negative =>
      refine ⟨_, .infinite stands, ?_⟩
      rw [fixed, written, stands]
      rfl
  | finite negative magnitude =>
      refine ⟨_, .finite stands (isNearest_roundedAt magnitude places), ?_⟩
      rw [fixed, written, stands, ← positional_of_places some]
      rfl

theorem SpellsFixed.unique {places : Nat} {x : Float} {text other : List Char}
    (first : SpellsFixed places x text) (second : SpellsFixed places x other) : text = other := by
  cases first with
  | notANumber stands =>
      cases second with
      | notANumber => rfl
      | infinite otherwise | finite otherwise => cases stands.symm.trans otherwise
  | infinite stands =>
      cases second with
      | infinite otherwise =>
          cases stands.symm.trans otherwise
          rfl
      | notANumber otherwise | finite otherwise => cases stands.symm.trans otherwise
  | finite stands nearest =>
      cases second with
      | finite otherwise alsoNearest =>
          cases stands.symm.trans otherwise
          rw [nearest.unique alsoNearest]
      | notANumber otherwise | infinite otherwise => cases stands.symm.trans otherwise

/-- Writing with a number of places follows the rule, and the rule allows nothing else. -/
theorem spellsFixed_iff {places : Nat} (some : places ≠ 0) {x : Float} {text : List Char} :
    SpellsFixed places x text ↔ fixed places x = String.ofList text := by
  obtain ⟨written, spelled, same⟩ := exists_spellsFixed some x
  constructor
  · intro spells
    rw [same, spelled.unique spells]
  · intro equal
    rw [same, String.ofList_inj] at equal
    rwa [← equal]

example : fixed 2 (-0.001) = "-0.00" ∧ fixed 2 0.125 = "0.12" := by decide +kernel

end Writing

end Drafting.Number
