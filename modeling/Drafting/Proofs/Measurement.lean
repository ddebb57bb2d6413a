import Drafting.Freedom
import Drafting.GaussNewton
import Drafting.Proofs.ComponentColumns

/-!
# Systems that measure alike

A search sees of a system only its residuals and its partial derivatives. Two systems for which these
are the same numbers go through the same steps, and the same columns are free afterwards, whatever
they stand for.
-/

namespace Drafting

variable {α : Type}

section Casts

variable {m m' n n' : Nat}

theorem get_cast (columns : n = n') (values : Vector α n) :
    (values.cast columns).get ∘ Fin.cast columns = values.get := by
  subst columns
  rfl

theorem eq_cast_of_get {rows : m = m'} {values : Vector α m} {others : Vector α m'}
    (same : ∀ i, others.get (Fin.cast rows i) = values.get i) : others = values.cast rows := by
  subst rows
  apply Vector.ext
  intro i bound
  exact same ⟨i, bound⟩

def DenseMatrix.cast (rows : m = m') (columns : n = n') (matrix : DenseMatrix m n α) :
    DenseMatrix m' n' α :=
  DenseMatrix.ofFn fun i j => matrix.entry (Fin.cast rows.symm i) (Fin.cast columns.symm j)

theorem DenseMatrix.cast_rfl (matrix : DenseMatrix m n α) : matrix.cast rfl rfl = matrix :=
  DenseMatrix.ext_entry fun i j => DenseMatrix.entry_ofFn _ i j

theorem DenseMatrix.eq_cast_of_entry {rows : m = m'} {columns : n = n'} {matrix : DenseMatrix m n α}
    {other : DenseMatrix m' n' α}
    (same : ∀ i j, other.entry (Fin.cast rows i) (Fin.cast columns j) = matrix.entry i j) :
    other = matrix.cast rows columns := by
  subst rows columns
  rw [cast_rfl]
  exact ext_entry same

def Solution.cast (columns : n = n') (solution : Solution n α) : Solution n' α :=
  ⟨solution.steps, solution.assignment.cast columns⟩

theorem pseudoInverseStep?_cast [Precision α] [NatCast α] [Add α] [Mul α] [Div α] [Neg α]
    [OfNat α 0] [LT α] [DecidableLT α] [LE α] [DecidableLE α] (decompose : Decomposition α)
    (rows : m = m') (columns : n = n') (matrix : DenseMatrix m n α) (residual : Vector α m) :
    pseudoInverseStep? decompose (matrix.cast rows columns) (residual.cast rows) =
      (pseudoInverseStep? decompose matrix residual).map (Vector.cast columns) := by
  subst rows columns
  rw [DenseMatrix.cast_rfl, Vector.cast_rfl]
  exact Option.map_id'.symm

def ComponentFreedom.rename (rename : UnknownId → UnknownId) (freedom : ComponentFreedom) :
    ComponentFreedom :=
  { freedom with movable := freedom.movable.map rename }

theorem map_movableColumns_cast [Precision α] [NatCast α] [Add α] [Mul α] [Div α] [OfNat α 0]
    [OfNat α 1] [LT α] [DecidableLT α] (decompose : Decomposition α) (rows : m = m')
    (columns : n = n') (matrix : DenseMatrix m n α) {rename : UnknownId → UnknownId}
    {unknown : Fin n → UnknownId} {renamed : Fin n' → UnknownId}
    (same : ∀ j, renamed (Fin.cast columns j) = rename (unknown j)) :
    (decompose m' n' (matrix.cast rows columns)).map (fun s =>
        (⟨n', s.rank, s.movableColumns.map renamed⟩ : ComponentFreedom)) =
      ((decompose m n matrix).map fun s =>
        (⟨n, s.rank, s.movableColumns.map unknown⟩ : ComponentFreedom)).map
          (ComponentFreedom.rename rename) := by
  subst rows columns
  have isRenamed : renamed = rename ∘ unknown := funext same
  rw [DenseMatrix.cast_rfl, isRenamed, Option.map_map]
  refine Option.map_congr fun s _ => ?_
  simp only [Function.comp_apply, ComponentFreedom.rename, List.map_map]

end Casts

namespace ComponentSystem

variable [Add α] [Sub α] [Mul α] [Neg α] [OfNat α 0] [OfNat α 1] [OfNat α 2]

structure MeasuresAlike (system other : ComponentSystem α) : Prop where
  width_eq : system.width = other.width
  height_eq : system.height = other.height
  residual_eq : ∀ assignment : Vector α system.width,
    other.residual (assignment.cast width_eq) = (system.residual assignment).cast height_eq
  jacobian_eq : ∀ assignment : Vector α system.width,
    other.jacobian (assignment.cast width_eq) = (system.jacobian assignment).cast height_eq width_eq

namespace MeasuresAlike

variable [Precision α] [LT α] [DecidableLT α] {system other : ComponentSystem α}
  (alike : system.MeasuresAlike other)
include alike

section Search

variable [LE α] [DecidableLE α]

theorem error_eq (assignment : Vector α system.width) :
    other.error (assignment.cast alike.width_eq) = system.error assignment := by
  rw [error, alike.residual_eq, Vector.toList_cast, error]

variable [NatCast α] [Div α]

theorem next?_eq (decompose : Decomposition α) (assignment : Vector α system.width) :
    other.next? decompose (assignment.cast alike.width_eq) =
      (system.next? decompose assignment).map (Vector.cast alike.width_eq) := by
  have added (step : Vector α system.width) :
      (assignment.cast alike.width_eq).zipWith (· + ·) (step.cast alike.width_eq) =
        (assignment.zipWith (· + ·) step).cast alike.width_eq := by
    apply Vector.ext
    intro i bound
    simp only [Vector.getElem_zipWith, Vector.getElem_cast]
  rw [next?, alike.jacobian_eq, alike.residual_eq, pseudoInverseStep?_cast, next?, Option.map_map,
    Option.map_map]
  exact Option.map_congr fun step _ => added step

theorem refineFrom_eq (decompose : Decomposition α) (tolerance : α) (left done : Nat) (size : α)
    (assignment : Vector α system.width) :
    refineFrom decompose tolerance other left done size (assignment.cast alike.width_eq) =
      (refineFrom decompose tolerance system left done size assignment).map
        (Solution.cast alike.width_eq) := by
  induction left generalizing done size assignment with
  | zero => rfl
  | succ left ih =>
      unfold refineFrom
      dsimp only
      rw [alike.error_eq, alike.next?_eq]
      split
      · rfl
      · cases system.next? decompose assignment with
        | none => rfl
        | some next => exact ih (done + 1) (system.error assignment) next

/-- The search takes the same steps. -/
theorem refine_eq (decompose : Decomposition α) (settings : Settings α)
    (assignment : Vector α system.width) :
    other.refine decompose settings (assignment.cast alike.width_eq) =
      (system.refine decompose settings assignment).map (Solution.cast alike.width_eq) :=
  alike.refineFrom_eq decompose settings.tolerance settings.budget 0 _ assignment

end Search

/-- The same columns are free to move, so the unknowns that they stand for are. -/
theorem freedom?_eq [NatCast α] [Div α] {rename : UnknownId → UnknownId}
    (columns : other.columns = system.columns.map rename) (decompose : Decomposition α)
    (assignment : Vector α system.width) :
    other.freedom? decompose (assignment.cast alike.width_eq) =
      (system.freedom? decompose assignment).map (ComponentFreedom.rename rename) := by
  have column (j : Fin system.width) :
      other.columns.get (Fin.cast alike.width_eq j) = rename (system.columns.get j) := by
    simp only [columns, List.get_eq_getElem, List.getElem_map, Fin.val_cast]
  have empty : (other.height = 0 ∨ other.width = 0) ↔ (system.height = 0 ∨ system.width = 0) := by
    rw [← alike.height_eq, ← alike.width_eq]
  unfold freedom?
  rw [alike.jacobian_eq, if_congr empty rfl rfl]
  split
  · rw [← alike.width_eq, columns]
    rfl
  · exact map_movableColumns_cast decompose _ _ _ column

end MeasuresAlike

end ComponentSystem

end Drafting
