import Drafting.ComponentSystem
import Drafting.Linear.SingularValues

/-!
# Gauss-Newton iteration

`refine` repeats the pseudo-inverse step until every residual of a component is within tolerance. It
measures before each step, so an assignment that is good enough already takes no step, and the
assignment after the last allowed step is never looked at.
-/

namespace Drafting

structure Settings (α : Type) where
  /-- How many assignments are measured before giving up. -/
  budget : Nat
  tolerance : α
  deriving Repr

def defaultTolerance {α : Type} [NatCast α] [Div α] [OfNat α 1] : α := 1 / ((10000000000 : Nat) : α)

def Settings.default {α : Type} [NatCast α] [Div α] [OfNat α 1] : Settings α :=
  ⟨100, defaultTolerance⟩

inductive SolveError (α : Type) where
  /-- The budget was used up; `size` is the largest residual that was measured last. -/
  | notConverged (budget : Nat) (size : α)
  | notDecomposed
  deriving Repr

structure Solution (width : Nat) (α : Type) where
  steps : Nat
  assignment : Vector α width
  deriving Repr

namespace ComponentSystem

variable {α : Type} [Precision α] [NatCast α] [Add α] [Sub α] [Mul α] [Div α] [Neg α]
  [OfNat α 0] [OfNat α 1] [OfNat α 2] [LT α] [DecidableLT α] [LE α] [DecidableLE α]

def error (system : ComponentSystem α) (assignment : Vector α system.width) : α :=
  largestMagnitude (system.residual assignment).toList

def next? (decompose : Decomposition α) (system : ComponentSystem α)
    (assignment : Vector α system.width) : Option (Vector α system.width) :=
  (pseudoInverseStep? decompose (system.jacobian assignment) (system.residual assignment)).map
    fun step => assignment.zipWith (· + ·) step

/-- Measure and step up to `left` more times, after `done` steps and a last measured `size`. -/
def refineFrom (decompose : Decomposition α) (tolerance : α) (system : ComponentSystem α) :
    (left done : Nat) → (size : α) → Vector α system.width →
      Except (SolveError α) (Solution system.width α)
  | 0, done, size, _ => .error (.notConverged done size)
  | left + 1, done, _, assignment =>
      let size := system.error assignment
      if size ≤ tolerance then .ok ⟨done, assignment⟩
      else
        match system.next? decompose assignment with
        | none => .error .notDecomposed
        | some assignment => refineFrom decompose tolerance system left (done + 1) size assignment

/-- Search for a solution near an assignment. Before anything is measured the size of the residual
counts as infinite. -/
def refine (decompose : Decomposition α) (settings : Settings α) (system : ComponentSystem α)
    (assignment : Vector α system.width) : Except (SolveError α) (Solution system.width α) :=
  refineFrom decompose settings.tolerance system settings.budget 0 Precision.infinity assignment

end ComponentSystem

end Drafting
