import Drafting.ComponentSystem
import Drafting.Linear.SingularValues
import Drafting.Total

/-!
# Degrees of freedom

At a solved assignment, the directions in which no residual changes to first order are spanned by
the right factor's columns from the rank on. There are as many as the component has degrees of
freedom, and an unknown is free to move if it takes part in one of them noticeably.
-/

namespace Drafting

structure ComponentFreedom where
  unknowns : Nat
  rank : Nat
  movable : List UnknownId
  deriving DecidableEq, Repr

namespace ComponentFreedom

def degrees (freedom : ComponentFreedom) : Nat := freedom.unknowns - freedom.rank

def isFree (freedom : ComponentFreedom) : Bool := decide (0 < freedom.degrees)

end ComponentFreedom

structure Freedom where
  components : List ComponentFreedom
  /-- Positions of the solved components that could not be analysed. -/
  unanalysed : List Nat
  deriving DecidableEq, Repr

namespace Freedom

def ofResults (results : List (Option ComponentFreedom)) : Freedom where
  components := results.filterMap id
  unanalysed := results.zipIdx.filterMap fun (result, i) => if result.isNone then some i else none

def degrees (freedom : Freedom) : Nat := total (freedom.components.map ComponentFreedom.degrees)

def isFree (freedom : Freedom) : Bool := freedom.components.any ComponentFreedom.isFree

def movable (freedom : Freedom) : List UnknownId :=
  freedom.components.flatMap ComponentFreedom.movable

end Freedom

variable {α : Type} [Precision α] [NatCast α] [Add α] [Sub α] [Mul α] [Div α] [Neg α]
  [OfNat α 0] [OfNat α 1] [OfNat α 2] [LT α] [DecidableLT α]

namespace SingularValues

variable {m n : Nat}

/-- The part that an unknown takes in the directions from the rank on: the length of its row in
those columns of the right factor. -/
def participation (s : SingularValues m n α) (column : Fin n) : α :=
  Precision.sqrt <| ((List.finRange n).drop s.rank).foldl
    (fun sum k => sum + s.right.entry column k * s.right.entry column k) 0

/-- Participation up to here is noise: a thousandth of the largest, and what rounding alone brings
about. -/
def noise (s : SingularValues m n α) : α :=
  let rounding := ((10 : Nat) : α) * Precision.sqrt ((n : Nat) : α) * Precision.epsilon
  larger rounding (1 / ((1000 : Nat) : α) * largest ((List.finRange n).map s.participation))

def movableColumns (s : SingularValues m n α) : List (Fin n) :=
  let noise := s.noise
  (List.finRange n).filter fun column => decide (noise < s.participation column)

end SingularValues

namespace ComponentSystem

/-- How free the unknowns are at a solved assignment, if the matrix of partial derivatives can be
decomposed. Without equations or unknowns everything is free. -/
def freedom? (decompose : Decomposition α) (system : ComponentSystem α)
    (assignment : Vector α system.width) : Option ComponentFreedom :=
  if system.height = 0 ∨ system.width = 0 then some ⟨system.width, 0, system.columns⟩
  else
    (decompose system.height system.width (system.jacobian assignment)).map fun s =>
      { unknowns := system.width
        rank := s.rank
        movable := s.movableColumns.map system.columns.get }

end ComponentSystem

end Drafting
