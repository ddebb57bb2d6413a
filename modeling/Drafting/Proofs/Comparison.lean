import Mathlib.Order.Lattice
import Drafting.Number.Precision

/-!
# Comparing numbers that may be no numbers

A value that is not a number is not even at most itself, and every comparison with it fails. The
laws here say that all other values are in linear order, with infinity above them if there is a
value that is not a number. They decide when the largest magnitude of some numbers is small.
-/

namespace Drafting

variable {α : Type}

/-- The values that are at most themselves are linearly ordered, and no others compare. -/
class LawfulComparison (α : Type) [LE α] [LT α] : Prop where
  le_trans : ∀ {a b c : α}, a ≤ b → b ≤ c → a ≤ c
  le_total : ∀ {a b : α}, a ≤ a → b ≤ b → a ≤ b ∨ b ≤ a
  self_le_of_le : ∀ {a b : α}, a ≤ b → a ≤ a
  self_le_of_ge : ∀ {a b : α}, a ≤ b → b ≤ b
  lt_iff : ∀ {a b : α}, a < b ↔ a ≤ b ∧ ¬b ≤ a

/-- Zero is a number, negation keeps numbers, and infinity is above all numbers as soon as there is
something that is not one. -/
class LawfulPrecision (α : Type) [Precision α] [Neg α] [OfNat α 0] [LE α] [LT α] : Prop
    extends LawfulComparison α where
  zero_le_zero : (0 : α) ≤ 0
  neg_self_le : ∀ {a : α}, a ≤ a → -a ≤ -a
  infinity_self_le : (Precision.infinity : α) ≤ Precision.infinity
  le_infinity : ∀ {a b : α}, a ≤ a → ¬b ≤ b → a ≤ Precision.infinity

instance [LinearOrder α] [Precision α] [Neg α] [OfNat α 0] : LawfulPrecision α where
  le_trans := le_trans
  le_total := fun _ _ => le_total _ _
  self_le_of_le := fun _ => le_refl _
  self_le_of_ge := fun _ => le_refl _
  lt_iff := lt_iff_le_not_ge
  zero_le_zero := le_refl 0
  neg_self_le := fun _ => le_refl _
  infinity_self_le := le_refl _
  le_infinity := fun _ notNumber => absurd (le_refl _) notNumber

open LawfulComparison LawfulPrecision

section Larger

variable [LE α] [LT α] [DecidableLT α]

theorem larger_self_le {a b : α} (left : a ≤ a) (right : b ≤ b) :
    larger a b ≤ larger a b := by
  unfold larger
  split
  · exact right
  · exact left

theorem larger_le_iff [LawfulComparison α] {a b bound : α} (left : a ≤ a) (right : b ≤ b) :
    larger a b ≤ bound ↔ a ≤ bound ∧ b ≤ bound := by
  unfold larger
  split
  · rename_i less
    constructor
    · intro bounded
      exact ⟨le_trans (lt_iff.mp less).1 bounded, bounded⟩
    · exact And.right
  · rename_i notLess
    have atMost : b ≤ a := by
      rcases le_total left right with forward | backward
      · by_cases reverse : b ≤ a
        · exact reverse
        · exact absurd (lt_iff.mpr ⟨forward, reverse⟩) notLess
      · exact backward
    constructor
    · intro bounded
      exact ⟨bounded, le_trans atMost bounded⟩
    · exact And.left

end Larger

section Magnitude

variable [Precision α] [Neg α] [OfNat α 0] [LE α] [LT α] [DecidableLT α] [LawfulPrecision α]

theorem magnitude_self_le_iff {x : α} : magnitude x ≤ magnitude x ↔ x ≤ x := by
  unfold magnitude
  split
  · rename_i negative
    have number : x ≤ x := self_le_of_le (lt_iff.mp negative).1
    exact ⟨fun _ => number, neg_self_le⟩
  · exact Iff.rfl

theorem self_le_of_magnitude_le {x bound : α} (small : magnitude x ≤ bound) : x ≤ x :=
  magnitude_self_le_iff.mp (self_le_of_le small)

/-- A residual passes a tolerance if its magnitude is within it. What is not a number counts as
infinitely large. -/
def Passes (tolerance x : α) : Prop :=
  magnitude x ≤ tolerance ∨ ¬x ≤ x ∧ Precision.infinity ≤ tolerance

private theorem foldl_magnitude_le_iff [DecidableLE α] (xs : List α) {start bound : α}
    (number : start ≤ start) :
    xs.foldl (fun size x => if x ≤ x then larger size (magnitude x) else Precision.infinity) start ≤
        bound ↔
      start ≤ bound ∧ ∀ x ∈ xs, Passes bound x := by
  induction xs generalizing start with
  | nil => simp
  | cons x rest ih =>
      rw [List.foldl_cons, List.forall_mem_cons]
      by_cases isNumber : x ≤ x
      · have magnitudeNumber : magnitude x ≤ magnitude x := magnitude_self_le_iff.mpr isNumber
        have passesIff : Passes bound x ↔ magnitude x ≤ bound := by
          simp [Passes, isNumber]
        rw [if_pos isNumber, ih (larger_self_le number magnitudeNumber),
          larger_le_iff number magnitudeNumber, passesIff, and_assoc]
      · have passesIff : Passes bound x ↔ Precision.infinity ≤ bound := by
          constructor
          · rintro (small | ⟨_, infinite⟩)
            · exact absurd (self_le_of_magnitude_le small) isNumber
            · exact infinite
          · intro infinite
            exact Or.inr ⟨isNumber, infinite⟩
        rw [if_neg isNumber, ih infinity_self_le, passesIff]
        constructor
        · rintro ⟨infinite, others⟩
          exact ⟨le_trans (le_infinity number isNumber) infinite, infinite, others⟩
        · exact And.right

theorem largestMagnitude_le_iff [DecidableLE α] {xs : List α} {bound : α} :
    largestMagnitude xs ≤ bound ↔ 0 ≤ bound ∧ ∀ x ∈ xs, Passes bound x :=
  foldl_magnitude_le_iff xs zero_le_zero

/-- The size of some numbers is infinite if one of them is not a number, and else it is the largest of
their magnitudes and zero. -/
structure IsSizeOf (xs : List α) (size : α) : Prop where
  infinite : (∃ x ∈ xs, ¬x ≤ x) → size = Precision.infinity
  zero_le : (∀ x ∈ xs, x ≤ x) → 0 ≤ size
  magnitude_le : (∀ x ∈ xs, x ≤ x) → ∀ x ∈ xs, magnitude x ≤ size
  attained : (∀ x ∈ xs, x ≤ x) → size = 0 ∨ ∃ x ∈ xs, size = magnitude x

theorem larger_infinity {x y : α} (number : x ≤ x) (notNumber : ¬y ≤ y) :
    larger Precision.infinity x = Precision.infinity :=
  if_neg fun less => (lt_iff.mp less).2 (le_infinity number notNumber)

private theorem foldl_magnitude_of_infinity [DecidableLE α] (xs : List α) {y : α}
    (notNumber : ¬y ≤ y) :
    xs.foldl (fun size x => if x ≤ x then larger size (magnitude x) else Precision.infinity)
      Precision.infinity = Precision.infinity := by
  induction xs with
  | nil => rfl
  | cons x rest ih =>
      rw [List.foldl_cons]
      split
      · rename_i number
        rw [larger_infinity (magnitude_self_le_iff.mpr number) notNumber]
        exact ih
      · exact ih

private theorem foldl_magnitude_of_not_number [DecidableLE α] {xs : List α} {y : α}
    (member : y ∈ xs) (notNumber : ¬y ≤ y) (start : α) :
    xs.foldl (fun size x => if x ≤ x then larger size (magnitude x) else Precision.infinity) start =
      Precision.infinity := by
  induction xs generalizing start with
  | nil => cases member
  | cons x rest ih =>
      rw [List.foldl_cons]
      rcases List.mem_cons.mp member with same | later
      · rw [← same, if_neg notNumber]
        exact foldl_magnitude_of_infinity rest notNumber
      · exact ih later _

omit [LawfulPrecision α] in
private theorem foldl_magnitude_attained [DecidableLE α] {xs : List α}
    (numbers : ∀ x ∈ xs, x ≤ x) {start size : α}
    (folded : xs.foldl (fun size x => if x ≤ x then larger size (magnitude x)
      else Precision.infinity) start = size) :
    size = start ∨ ∃ x ∈ xs, size = magnitude x := by
  induction xs generalizing start with
  | nil => exact .inl folded.symm
  | cons x rest ih =>
      obtain ⟨number, laterNumbers⟩ := List.forall_mem_cons.mp numbers
      rw [List.foldl_cons, if_pos number] at folded
      rcases ih laterNumbers folded with here | ⟨y, later, same⟩
      · rw [here]
        unfold larger
        split
        · exact .inr ⟨x, List.mem_cons_self, rfl⟩
        · exact .inl rfl
      · exact .inr ⟨y, List.mem_cons_of_mem x later, same⟩

private theorem foldl_magnitude_self_le [DecidableLE α] (xs : List α) {start : α}
    (number : start ≤ start) :
    xs.foldl (fun size x => if x ≤ x then larger size (magnitude x) else Precision.infinity) start ≤
      xs.foldl (fun size x => if x ≤ x then larger size (magnitude x) else Precision.infinity)
        start := by
  induction xs generalizing start with
  | nil => exact number
  | cons x rest ih =>
      rw [List.foldl_cons]
      apply ih
      split
      · rename_i isNumber
        exact larger_self_le number (magnitude_self_le_iff.mpr isNumber)
      · exact infinity_self_le

theorem isSizeOf_largestMagnitude [DecidableLE α] (xs : List α) :
    IsSizeOf xs (largestMagnitude xs) := by
  obtain ⟨nonnegative, passes⟩ := largestMagnitude_le_iff.mp
    (foldl_magnitude_self_le xs zero_le_zero)
  constructor
  · rintro ⟨x, member, notNumber⟩
    exact foldl_magnitude_of_not_number member notNumber 0
  · intro _
    exact nonnegative
  · intro numbers x member
    exact (passes x member).resolve_right fun infinite => infinite.1 (numbers x member)
  · intro numbers
    exact foldl_magnitude_attained numbers rfl

end Magnitude

end Drafting
