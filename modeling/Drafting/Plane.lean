/-!
# Points, segments and displacements

A point is a pair of coordinates of any kind: numbers for a point that has a place, references to
unknowns for a point that is still to be placed. `map` turns the second into the first.
-/

namespace Drafting

structure Point (κ : Type) where
  x : κ
  y : κ
  deriving DecidableEq, Repr

structure Segment (κ : Type) where
  start : Point κ
  finish : Point κ
  deriving DecidableEq, Repr

structure Displacement (α : Type) where
  x : α
  y : α
  deriving DecidableEq, Repr

inductive Axis where
  | x
  | y
  deriving DecidableEq, Repr

variable {κ ι α : Type}

namespace Point

def map (f : κ → ι) (p : Point κ) : Point ι := ⟨f p.x, f p.y⟩

def coordinates (p : Point κ) : List κ := [p.x, p.y]

def coordinate (p : Point κ) : Axis → κ
  | .x => p.x
  | .y => p.y

def coincides [BEq κ] (p q : Point κ) : Bool := p.x == q.x && p.y == q.y

def toward [Sub α] (p q : Point α) : Displacement α := ⟨q.x - p.x, q.y - p.y⟩

end Point

namespace Segment

def map (f : κ → ι) (s : Segment κ) : Segment ι := ⟨s.start.map f, s.finish.map f⟩

def coordinates (s : Segment κ) : List κ := s.start.coordinates ++ s.finish.coordinates

def IsDegenerate (s : Segment κ) : Prop := s.start = s.finish

instance [DecidableEq κ] (s : Segment κ) : Decidable s.IsDegenerate :=
  inferInstanceAs (Decidable (s.start = s.finish))

def direction [Sub α] (s : Segment α) : Displacement α := s.start.toward s.finish

end Segment

namespace Displacement

def scale [Mul α] (d : Displacement α) (factor : α) : Displacement α := ⟨d.x * factor, d.y * factor⟩

def reverse [Neg α] (d : Displacement α) : Displacement α := ⟨-d.x, -d.y⟩

def dot [Add α] [Mul α] (d e : Displacement α) : α := d.x * e.x + d.y * e.y

def cross [Sub α] [Mul α] (d e : Displacement α) : α := d.x * e.y - d.y * e.x

def lengthSquared [Add α] [Mul α] (d : Displacement α) : α := d.dot d

end Displacement

end Drafting
