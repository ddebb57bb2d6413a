import Std.Data.HashMap
import Drafting.Arena
import Drafting.Constraint
import Drafting.GaussNewton

/-!
# Suspicious constraints

`lint` looks at the constraints alone, not at any values. It finds distances that are negative,
unknowns that are fixed to two different values, and segments without a direction.
-/

namespace Drafting

inductive Concern (α : Type) where
  /-- Only the square of a distance matters, so its sign has no effect. -/
  | negativeDistance (distance : α)
  | conflictingFixed (unknown : UnknownId) (firstConstraint : Nat) (first second : α)
  | degenerateLine
  deriving DecidableEq, Repr

/-- A concern and the position of the constraint that it is about, if it is about one. -/
structure Warning (α : Type) where
  about : Option Nat
  concern : Concern α
  deriving DecidableEq, Repr

namespace Lint

variable {α : Type} [NatCast α] [Sub α] [Div α] [Neg α] [OfNat α 0] [OfNat α 1]
  [LT α] [DecidableLT α]

/-- The first constraint that fixes an unknown, and the value. -/
abbrev FirstFixed (α : Type) := Std.HashMap UnknownId (Nat × α)

def IsNear (a b : α) : Prop := magnitude (a - b) < defaultTolerance

instance (a b : α) : Decidable (IsNear a b) := inferInstanceAs (Decidable (_ < _))

def concern? (noted : FirstFixed α) : Constraint UnknownId α → Option (Concern α)
  | .fixedDistance _ _ d => if d < 0 then some (.negativeDistance d) else none
  | .fixed unknown second =>
      match noted[unknown]? with
      | some (i, first) =>
          if IsNear first second then none else some (.conflictingFixed unknown i first second)
      | none => none
  | .congruent s t | .parallel s t | .perpendicular s t =>
      if s.IsDegenerate ∨ t.IsDegenerate then some .degenerateLine else none
  | .distance .. | .equal .. => none

def note (noted : FirstFixed α) (i : Nat) : Constraint UnknownId α → FirstFixed α
  | .fixed unknown value => noted.insertIfNew unknown (i, value)
  | _ => noted

def warningsFrom (noted : FirstFixed α) (i : Nat) :
    List (Constraint UnknownId α) → List (Warning α)
  | [] => []
  | c :: rest =>
      ((concern? noted c).map fun concern => ⟨some i, concern⟩).toList ++
        warningsFrom (note noted i c) (i + 1) rest

end Lint

def lint {α : Type} [NatCast α] [Sub α] [Div α] [Neg α] [OfNat α 0] [OfNat α 1] [LT α]
    [DecidableLT α] (constraints : List (Constraint UnknownId α)) : List (Warning α) :=
  Lint.warningsFrom ∅ 0 constraints

end Drafting
