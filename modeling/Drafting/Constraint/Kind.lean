import Drafting.Constraint
import Drafting.Number.Written

/-!
# Constraints for selected features

A user selects points and segments and asks for a kind of constraint. `Kind.build` makes the
constraint if the kind fits the selection; `Kind.applicable` lists the kinds that do. A segment
stands for its two ends where two points are asked for.
-/

namespace Drafting

inductive Feature (ι : Type) where
  | point (p : Point ι)
  | segment (s : Segment ι)
  deriving DecidableEq, Repr

/-- What a user asks for, before it is applied to a selection. -/
inductive Kind (α : Type) where
  | fixedX (x : α)
  | fixedY (y : α)
  | vertical
  | horizontal
  | fixedDistance (distance : α)
  | congruent
  | parallel
  | perpendicular
  deriving DecidableEq, Repr

structure FeatureError (α : Type) where
  kind : Kind α
  points : Nat
  segments : Nat
  deriving DecidableEq, Repr

def Feature.isPoint {ι : Type} : Feature ι → Bool
  | .point _ => true
  | .segment _ => false

namespace Kind

variable {ι α : Type}

def build? : Kind α → List (Feature ι) → Option (Constraint ι α)
  | .fixedX x, [.point p] => some (.fixed p.x x)
  | .fixedY y, [.point p] => some (.fixed p.y y)
  | .vertical, [.point p, .point q] => some (.vertical p q)
  | .vertical, [.segment s] => some (.vertical s.start s.finish)
  | .horizontal, [.point p, .point q] => some (.horizontal p q)
  | .horizontal, [.segment s] => some (.horizontal s.start s.finish)
  | .fixedDistance d, [.point p, .point q] => some (.fixedDistance p q d)
  | .fixedDistance d, [.segment s] => some (.fixedDistance s.start s.finish d)
  | .congruent, [.segment s, .segment t] => some (.congruent s t)
  | .parallel, [.segment s, .segment t] => some (.parallel s t)
  | .perpendicular, [.segment s, .segment t] => some (.perpendicular s t)
  | _, _ => none

def build (kind : Kind α) (features : List (Feature ι)) :
    Except (FeatureError α) (Constraint ι α) :=
  match kind.build? features with
  | some constraint => .ok constraint
  | none =>
      let points := features.countP Feature.isPoint
      .error ⟨kind, points, features.length - points⟩

def accepts (kind : Kind α) (features : List (Feature ι)) : Bool := (kind.build? features).isSome

def all [OfNat α 0] : List (Kind α) :=
  [.fixedX 0, .fixedY 0, .vertical, .horizontal, .fixedDistance 0, .congruent, .parallel,
    .perpendicular]

def applicable [OfNat α 0] (features : List (Feature ι)) : List (Kind α) :=
  all.filter fun kind => kind.accepts features

def text : Kind Float → String
  | .fixedX x => "x = " ++ Number.plain x
  | .fixedY y => "y = " ++ Number.plain y
  | .vertical => "vertical"
  | .horizontal => "horizontal"
  | .fixedDistance d => "distance " ++ Number.plain d
  | .congruent => "congruent"
  | .parallel => "parallel"
  | .perpendicular => "perpendicular"

end Kind

def Kind.refusal (kind : Kind Float) (selection : String) : String :=
  "A " ++ kind.text ++ " constraint cannot be built from " ++ selection

def FeatureError.message (error : FeatureError Float) : String :=
  error.kind.refusal s!"{error.points} point(s) and {error.segments} line(s)"

end Drafting
