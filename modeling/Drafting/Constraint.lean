import Drafting.Plane

/-!
# Constraints

A constraint says something about unknowns of a drawing, in the shape of one equation that its
`residual` measures: the residual is zero exactly when the constraint holds, and `gradient` lists
the partial derivatives of the residual. The references `ι` to the unknowns are left open, so the
same formulas are evaluated at the ids of an arena and at the columns of a matrix.
-/

namespace Drafting

/-- One equation between unknowns `ι` and numbers `α`. -/
inductive Constraint (ι α : Type) where
  | fixedDistance (p q : Point ι) (distance : α)
  | distance (p q : Point ι) (length : ι)
  | fixed (unknown : ι) (value : α)
  | equal (a b : ι)
  | congruent (s t : Segment ι)
  | parallel (s t : Segment ι)
  | perpendicular (s t : Segment ι)
  deriving DecidableEq, Repr

namespace Constraint

variable {ι κ α : Type}

def vertical (p q : Point ι) : Constraint ι α := .equal p.x q.x

def horizontal (p q : Point ι) : Constraint ι α := .equal p.y q.y

/-- The unknowns in the order of the constraint's parts; one that is used twice is listed twice. -/
def unknowns : Constraint ι α → List ι
  | .fixedDistance p q _ => p.coordinates ++ q.coordinates
  | .distance p q length => p.coordinates ++ q.coordinates ++ [length]
  | .fixed unknown _ => [unknown]
  | .equal a b => [a, b]
  | .congruent s t | .parallel s t | .perpendicular s t => s.coordinates ++ t.coordinates

def dimension (_ : Constraint ι α) : Nat := 1

def map (f : ι → κ) : Constraint ι α → Constraint κ α
  | .fixedDistance p q d => .fixedDistance (p.map f) (q.map f) d
  | .distance p q length => .distance (p.map f) (q.map f) (f length)
  | .fixed unknown value => .fixed (f unknown) value
  | .equal a b => .equal (f a) (f b)
  | .congruent s t => .congruent (s.map f) (t.map f)
  | .parallel s t => .parallel (s.map f) (t.map f)
  | .perpendicular s t => .perpendicular (s.map f) (t.map f)

theorem map_id (c : Constraint ι α) : c.map id = c := by
  cases c <;> rfl

@[simp] theorem unknowns_map (f : ι → κ) (c : Constraint ι α) :
    (c.map f).unknowns = c.unknowns.map f := by
  cases c <;> rfl

section Residual

variable [Add α] [Sub α] [Mul α]

def residual (value : ι → α) : Constraint ι α → α
  | .fixedDistance p q d =>
      let delta := (p.map value).toward (q.map value)
      delta.lengthSquared - d * d
  | .distance p q length =>
      let delta := (p.map value).toward (q.map value)
      delta.lengthSquared - value length * value length
  | .fixed unknown expected => value unknown - expected
  | .equal a b => value a - value b
  | .congruent s t => (s.map value).direction.lengthSquared - (t.map value).direction.lengthSquared
  | .parallel s t => (s.map value).direction.cross (t.map value).direction
  | .perpendicular s t => (s.map value).direction.dot (t.map value).direction

theorem residual_map (f : ι → κ) (value : κ → α) (c : Constraint ι α) :
    (c.map f).residual value = c.residual (value ∘ f) := by
  cases c <;> rfl

theorem residual_congr {value other : ι → α} (c : Constraint ι α)
    (hSame : ∀ i ∈ c.unknowns, value i = other i) : c.residual value = c.residual other := by
  cases c <;>
    simp_all [residual, unknowns, Point.coordinates, Segment.coordinates, Point.map, Segment.map]

end Residual

section Gradient

variable [Sub α] [Mul α] [Neg α] [OfNat α 1] [OfNat α 2]

def pointPartials (p : Point ι) (d : Displacement α) : List (ι × α) := [(p.x, d.x), (p.y, d.y)]

def segmentPartials (s : Segment ι) (d : Displacement α) : List (ι × α) :=
  pointPartials s.start d.reverse ++ pointPartials s.finish d

/-- The partial derivatives of the residual. An unknown that is used twice has two entries, and its
derivative is their sum. -/
def gradient (value : ι → α) : Constraint ι α → List (ι × α)
  | .fixedDistance p q _ =>
      let delta := (p.map value).toward (q.map value)
      pointPartials p (delta.reverse.scale 2) ++ pointPartials q (delta.scale 2)
  | .distance p q length =>
      let delta := (p.map value).toward (q.map value)
      pointPartials p (delta.reverse.scale 2) ++ pointPartials q (delta.scale 2) ++
        [(length, -2 * value length)]
  | .fixed unknown _ => [(unknown, 1)]
  | .equal a b => [(a, 1), (b, -1)]
  | .congruent s t =>
      segmentPartials s ((s.map value).direction.scale 2) ++
        segmentPartials t ((t.map value).direction.reverse.scale 2)
  | .parallel s t =>
      let u := (s.map value).direction
      let w := (t.map value).direction
      segmentPartials s ⟨w.y, -w.x⟩ ++ segmentPartials t ⟨-u.y, u.x⟩
  | .perpendicular s t =>
      segmentPartials s (t.map value).direction ++ segmentPartials t (s.map value).direction

theorem gradient_map (f : ι → κ) (value : κ → α) (c : Constraint ι α) :
    (c.map f).gradient value = (c.gradient (value ∘ f)).map (Prod.map f id) := by
  cases c <;> rfl

/-- There is one entry for each listed unknown, in the same order. -/
theorem gradient_unknowns (value : ι → α) (c : Constraint ι α) :
    (c.gradient value).map Prod.fst = c.unknowns := by
  cases c <;> rfl

end Gradient

end Constraint

end Drafting
