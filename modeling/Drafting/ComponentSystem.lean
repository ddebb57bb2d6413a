import Drafting.Constraint.Relabel
import Drafting.Linear.DenseMatrix

/-!
# The equations of a component

A component's unknowns are laid out as columns, in the order in which its constraints first mention
them, and its constraints are the rows. `residual` measures all equations at an assignment to the
columns, and `jacobian` holds their partial derivatives.
-/

namespace Drafting

variable {α : Type}

/-- All unknowns of some constraints, each once, by first mention. -/
def mentioned (constraints : List (Constraint UnknownId α)) : List UnknownId :=
  (constraints.flatMap Constraint.unknowns).eraseDups

theorem mem_mentioned {constraints : List (Constraint UnknownId α)} {id : UnknownId} :
    id ∈ mentioned constraints ↔ ∃ c ∈ constraints, id ∈ c.unknowns := by
  rw [mentioned, List.mem_eraseDups, List.mem_flatMap]

/-- Equations between the columns that stand for some unknowns. -/
structure ComponentSystem (α : Type) where
  columns : List UnknownId
  equations : List (Constraint (Fin columns.length) α)
  deriving Repr

namespace ComponentSystem

def ofConstraints (constraints : List (Constraint UnknownId α)) : ComponentSystem α where
  columns := mentioned constraints
  equations := constraints.attach.map fun c => c.val.mapMem fun id hId =>
    ⟨(mentioned constraints).idxOf id,
      List.idxOf_lt_length_iff.mpr (mem_mentioned.mpr ⟨c.val, c.property, hId⟩)⟩

abbrev width (system : ComponentSystem α) : Nat := system.columns.length

abbrev height (system : ComponentSystem α) : Nat := system.equations.length

@[simp] theorem height_ofConstraints (constraints : List (Constraint UnknownId α)) :
    (ofConstraints constraints).height = constraints.length := by
  simp [height, ofConstraints]

def residual [Add α] [Sub α] [Mul α] (system : ComponentSystem α) (assignment : Vector α system.width) :
    Vector α system.height :=
  Vector.ofFn fun i => (system.equations.get i).residual assignment.get

/-- The partial derivatives of all equations. Entries for one column are summed up. -/
def jacobian [Add α] [Sub α] [Mul α] [Neg α] [OfNat α 0] [OfNat α 1] [OfNat α 2]
    (system : ComponentSystem α) (assignment : Vector α system.width) :
    DenseMatrix system.height system.width α :=
  ⟨Vector.ofFn fun i =>
    let partials := (system.equations.get i).gradient assignment.get
    Vector.ofFn fun j =>
      partials.foldl (fun sum (column, d) => if column = j then sum + d else sum) 0⟩

end ComponentSystem

end Drafting
