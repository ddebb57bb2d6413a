/-!
# Measuring with inexact numbers

The solver is written once for every kind of number with the operations of an ordered field. The
few things that such numbers do not share, the spacing of machine numbers, infinity and square
roots, are collected in `Precision`. Sizes are compared with `larger` and `magnitude`, which also
say what becomes of a value that is not a number: it is not at most itself.
-/

namespace Drafting

class Precision (α : Type) where
  /-- The gap between one and the next larger number. -/
  epsilon : α
  infinity : α
  sqrt : α → α

instance instNatCastFloat : NatCast Float := ⟨Float.ofNat⟩

instance instPrecisionFloat : Precision Float where
  epsilon := 2.220446049250313e-16
  infinity := 1.0 / 0.0
  sqrt := Float.sqrt

section Sizes

variable {α : Type}

/-- The larger of two numbers; the first if the second is not a number. -/
def larger [LT α] [DecidableLT α] (a b : α) : α := if a < b then b else a

/-- The largest of some numbers and zero, skipping what is not a number. -/
def largest [OfNat α 0] [LT α] [DecidableLT α] (xs : List α) : α := xs.foldl larger 0

def magnitude [Neg α] [OfNat α 0] [LT α] [DecidableLT α] (x : α) : α := if x < 0 then -x else x

/-- The largest magnitude of some numbers. What is not a number counts as infinitely large, so it
can never look small. -/
def largestMagnitude [Precision α] [Neg α] [OfNat α 0] [LE α] [DecidableLE α] [LT α]
    [DecidableLT α] (xs : List α) : α :=
  xs.foldl (fun size x => if x ≤ x then larger size (magnitude x) else Precision.infinity) 0

end Sizes

end Drafting
