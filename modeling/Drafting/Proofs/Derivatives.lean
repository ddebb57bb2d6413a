import Mathlib.Tactic.Ring
import Drafting.ComponentSystem
import Drafting.Proofs.LeastSquares

/-!
# How residuals change along a direction

To first order the residuals change by the matrix of partial derivatives, and each row of it adds up
the listed partial derivatives of one constraint. For a fixed unknown and for two equal ones that is
the whole change, so their residuals are what a step leaves of them.
-/

namespace Drafting

open Matrix

variable {α : Type} {ι κ : Type}

/-- How much listed partial derivatives add up to along a direction. -/
def along [CommRing α] (direction : ι → α) (partials : List (ι × α)) : α :=
  (partials.map fun entry => entry.2 * direction entry.1).sum

theorem sum_entry_mul [CommRing α] {n : Nat} (direction : Fin n → α)
    (partials : List (Fin n × α)) (start : Fin n → α) :
    ∑ j, partials.foldl (fun sum (column, d) => if column = j then sum + d else sum) (start j) *
        direction j =
      ∑ j, start j * direction j + along direction partials := by
  induction partials generalizing start with
  | nil => simp [along]
  | cons entry rest ih =>
      obtain ⟨column, d⟩ := entry
      have added : ∑ j, (if column = j then start j + d else start j) * direction j =
          ∑ j, start j * direction j + d * direction column := by
        have split (j : Fin n) : (if column = j then start j + d else start j) * direction j =
            start j * direction j + if column = j then d * direction j else 0 := by
          split
          · exact add_mul _ _ _
          · exact (add_zero _).symm
        rw [Finset.sum_congr rfl fun j _ => split j, Finset.sum_add_distrib, Finset.sum_ite_eq,
          if_pos (Finset.mem_univ column)]
      simp only [List.foldl_cons]
      rw [ih, added, along, along, List.map_cons, List.sum_cons, add_assoc]

theorem ComponentSystem.jacobian_mulVec [CommRing α] (system : ComponentSystem α)
    (assignment : Vector α system.width) (direction : Fin system.width → α)
    (i : Fin system.height) :
    ((system.jacobian assignment).toMatrix *ᵥ direction) i =
      along direction ((system.equations.get i).gradient assignment.get) := by
  have summed := sum_entry_mul direction ((system.equations.get i).gradient assignment.get) 0
  simp only [Pi.zero_apply, zero_mul, Finset.sum_const_zero, zero_add] at summed
  rw [← summed, mulVec, dotProduct]
  apply Finset.sum_congr rfl
  intro j _
  simp only [DenseMatrix.toMatrix, of_apply, DenseMatrix.entry, jacobian, get_ofFn]

namespace Constraint

inductive IsLinear : Constraint ι α → Prop where
  | fixed (unknown : ι) (value : α) : IsLinear (.fixed unknown value)
  | equal (a b : ι) : IsLinear (.equal a b)

theorem IsLinear.mapMem {c : Constraint ι α} (linear : c.IsLinear)
    (f : (i : ι) → i ∈ c.unknowns → κ) : (c.mapMem f).IsLinear := by
  cases linear with
  | fixed unknown value => exact .fixed _ value
  | equal a b => exact .equal _ _

variable [CommRing α]

theorem IsLinear.residual_add {c : Constraint ι α} (linear : c.IsLinear)
    (value direction : ι → α) :
    c.residual (value + direction) = along direction (c.gradient value) + c.residual value := by
  cases linear with
  | fixed unknown expected =>
      simp only [residual, gradient, along, Pi.add_apply, List.map_cons, List.map_nil,
        List.sum_cons, List.sum_nil]
      ring
  | equal a b =>
      simp only [residual, gradient, along, Pi.add_apply, List.map_cons, List.map_nil,
        List.sum_cons, List.sum_nil]
      ring

end Constraint

namespace ComponentSystem

def IsLinear (system : ComponentSystem α) : Prop := ∀ c ∈ system.equations, c.IsLinear

theorem isLinear_ofConstraints {constraints : List (Constraint UnknownId α)}
    (linear : ∀ c ∈ constraints, c.IsLinear) : (ofConstraints constraints).IsLinear := by
  intro equation listed
  obtain ⟨c, _, same⟩ := List.mem_map.mp listed
  rw [← same]
  exact (linear c.val c.property).mapMem _

theorem get_residual [Add α] [Sub α] [Mul α] (system : ComponentSystem α)
    (assignment : Vector α system.width) (i : Fin system.height) :
    (system.residual assignment).get i = (system.equations.get i).residual assignment.get :=
  get_ofFn _ i

variable [Field α]

/-- What a step is expected to leave of the residuals of a linear system is what it leaves. -/
theorem IsLinear.remainder_eq {system : ComponentSystem α} (linear : system.IsLinear)
    (assignment step moved : Vector α system.width)
    (moves : moved.get = assignment.get + step.get) :
    remainder (system.jacobian assignment).toMatrix (system.residual assignment).get step.get =
      (system.residual moved).get := by
  funext i
  rw [remainder, Pi.add_apply, jacobian_mulVec, get_residual, get_residual, moves]
  exact ((linear _ (List.get_mem _ i)).residual_add _ _).symm

end ComponentSystem

end Drafting
