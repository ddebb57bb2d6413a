import Drafting.Linear.DenseMatrix
import Drafting.Number.Precision

/-!
# Singular values and the step they give

A decomposition routine factors a matrix into a rotation, a stretch along the axes and another
rotation. It may fail, and the solver takes it as a parameter: nothing here depends on how the
factors are found. `SingularValues.leastSquaresStep` inverts the stretch where it is not numerically
zero, which is the step by the pseudo-inverse.
-/

namespace Drafting

/-- The factors of an `m` by `n` matrix: entry `i j` of the matrix is the sum over `k` of
`left i k * values k * right j k`. -/
structure SingularValues (m n : Nat) (α : Type) where
  left : DenseMatrix m m α
  values : Vector α (min m n)
  right : DenseMatrix n n α
  deriving Repr

abbrev Decomposition (α : Type) : Type :=
  (m n : Nat) → DenseMatrix m n α → Option (SingularValues m n α)

namespace SingularValues

variable {m n : Nat} {α : Type}

def leftIndex (k : Fin (min m n)) : Fin m := ⟨k, Nat.lt_of_lt_of_le k.isLt (Nat.min_le_left m n)⟩

def rightIndex (k : Fin (min m n)) : Fin n := ⟨k, Nat.lt_of_lt_of_le k.isLt (Nat.min_le_right m n)⟩

section Cutoff

variable [Precision α] [NatCast α] [Mul α] [OfNat α 0] [LT α] [DecidableLT α]

/-- Singular values up to here are numerically zero: the precision, scaled by the size of the
matrix and its largest singular value. -/
def cutoff (s : SingularValues m n α) : α :=
  Precision.epsilon * ((max m n : Nat) : α) * largest s.values.toList

def rank (s : SingularValues m n α) : Nat :=
  s.values.toList.countP fun sigma => decide (s.cutoff < sigma)

theorem rank_le (s : SingularValues m n α) : s.rank ≤ min m n := by
  have hCount := List.countP_le_length (p := fun sigma => decide (s.cutoff < sigma))
    (l := s.values.toList)
  rwa [Vector.length_toList] at hCount

end Cutoff

section Step

variable [Precision α] [NatCast α] [Add α] [Mul α] [Div α] [Neg α] [OfNat α 0]
  [LT α] [DecidableLT α] [LE α] [DecidableLE α]

def projection (s : SingularValues m n α) (residual : Vector α m) (k : Fin (min m n)) : α :=
  (List.finRange m).foldl
    (fun sum row => sum + s.left.entry row (leftIndex k) * -residual.get row) 0

/-- The shortest step that brings `matrix * step` as near to `-residual` as possible, when singular
values up to the cutoff are taken for zero. -/
def leastSquaresStep (s : SingularValues m n α) (residual : Vector α m) : Vector α n :=
  let cutoff := s.cutoff
  (List.finRange (min m n)).foldl (fun step k =>
    let sigma := s.values.get k
    if sigma ≤ cutoff then step
    else
      let scale := s.projection residual k / sigma
      Vector.ofFn fun col => step.get col + scale * s.right.entry col (rightIndex k))
    (Vector.replicate n 0)

end Step

end SingularValues

/-- The pseudo-inverse step against a residual, if the matrix can be decomposed. A matrix without
rows or columns leaves nothing to do. -/
def pseudoInverseStep? {m n : Nat} {α : Type} [Precision α] [NatCast α] [Add α] [Mul α] [Div α]
    [Neg α] [OfNat α 0] [LT α] [DecidableLT α] [LE α] [DecidableLE α]
    (decompose : Decomposition α) (matrix : DenseMatrix m n α) (residual : Vector α m) :
    Option (Vector α n) :=
  if m = 0 ∨ n = 0 then some (Vector.replicate n 0)
  else (decompose m n matrix).map fun s => s.leastSquaresStep residual

end Drafting
