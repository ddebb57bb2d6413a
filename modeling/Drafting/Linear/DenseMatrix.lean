/-!
# Matrices

A matrix stores its rows. `entry` is the view that statements use, and every operation that builds a
matrix says what its entries are.
-/

namespace Drafting

@[simp] theorem get_ofFn {n : Nat} {α : Type} (f : Fin n → α) (i : Fin n) :
    (Vector.ofFn f).get i = f i := by
  simp only [Vector.get, Vector.toArray_ofFn, Array.getElem_ofFn]
  rfl

structure DenseMatrix (m n : Nat) (α : Type) where
  rows : Vector (Vector α n) m
  deriving DecidableEq, Repr

namespace DenseMatrix

variable {m n : Nat} {α : Type}

def entry (matrix : DenseMatrix m n α) (i : Fin m) (j : Fin n) : α := (matrix.rows.get i).get j

def ofFn (f : Fin m → Fin n → α) : DenseMatrix m n α :=
  ⟨Vector.ofFn fun i => Vector.ofFn (f i)⟩

@[simp] theorem entry_ofFn (f : Fin m → Fin n → α) (i : Fin m) (j : Fin n) :
    (ofFn f).entry i j = f i j := by
  rw [entry, ofFn, get_ofFn, get_ofFn]

theorem ext_entry {matrix other : DenseMatrix m n α}
    (same : ∀ i j, matrix.entry i j = other.entry i j) : matrix = other := by
  obtain ⟨rows⟩ := matrix
  obtain ⟨otherRows⟩ := other
  congr 1
  apply Vector.ext
  intro i inRows
  apply Vector.ext
  intro j inColumns
  exact same ⟨i, inRows⟩ ⟨j, inColumns⟩

end DenseMatrix

end Drafting
