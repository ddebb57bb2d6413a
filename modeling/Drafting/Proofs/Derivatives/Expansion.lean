import Drafting.Proofs.ComponentColumns
import Drafting.Proofs.Derivatives

/-!
# Residuals expanded along a direction

Every residual is a polynomial of degree two at most. Along a direction it changes by its partial
derivatives and by its quadratic part, which does not depend on the place where the change starts.
So the matrix of partial derivatives is exact, and its columns are what central differences measure.
Nothing is assumed about the unknowns: one that occurs at several places of a constraint moves at all
of them at once, and its listed partial derivatives are added up.
-/

namespace Drafting

open Matrix

variable {α ι : Type} [CommRing α]

section Ways

variable (value direction : ι → α)

theorem Point.toward_map_add (p q : Point ι) :
    (p.map (value + direction)).toward (q.map (value + direction)) =
      ⟨((p.map value).toward (q.map value)).x + ((p.map direction).toward (q.map direction)).x,
        ((p.map value).toward (q.map value)).y + ((p.map direction).toward (q.map direction)).y⟩ := by
  simp only [toward, map, Pi.add_apply, add_sub_add_comm]

theorem Segment.direction_map_add (s : Segment ι) :
    (s.map (value + direction)).direction =
      ⟨(s.map value).direction.x + (s.map direction).direction.x,
        (s.map value).direction.y + (s.map direction).direction.y⟩ :=
  Point.toward_map_add value direction s.start s.finish

theorem Point.toward_map_smul (factor : α) (p q : Point ι) :
    (p.map (factor • direction)).toward (q.map (factor • direction)) =
      ((p.map direction).toward (q.map direction)).scale factor := by
  simp only [toward, map, Displacement.scale, Pi.smul_apply, smul_eq_mul, sub_mul, mul_comm factor]

theorem Segment.direction_map_smul (factor : α) (s : Segment ι) :
    (s.map (factor • direction)).direction = (s.map direction).direction.scale factor :=
  Point.toward_map_smul direction factor s.start s.finish

end Ways

section Parts

variable (direction : ι → α)

theorem along_append (partials more : List (ι × α)) :
    along direction (partials ++ more) = along direction partials + along direction more := by
  rw [along, List.map_append, List.sum_append]
  rfl

theorem along_singleton (i : ι) (d : α) : along direction [(i, d)] = d * direction i := by
  rw [along, List.map_singleton, List.sum_singleton]

theorem along_pointPartials (p : Point ι) (d : Displacement α) :
    along direction (Constraint.pointPartials p d) = d.x * direction p.x + d.y * direction p.y := by
  simp only [along, Constraint.pointPartials, List.map_cons, List.map_nil, List.sum_cons,
    List.sum_nil, add_zero]

/-- Moving both ends of a segment matters as far as it changes the way from one to the other. -/
theorem along_segmentPartials (s : Segment ι) (d : Displacement α) :
    along direction (Constraint.segmentPartials s d) = d.dot (s.map direction).direction := by
  rw [Constraint.segmentPartials, along_append, along_pointPartials, along_pointPartials]
  simp only [Segment.map, Segment.direction, Point.map, Point.toward, Displacement.dot,
    Displacement.reverse]
  ring

theorem along_distancePartials (p q : Point ι) (d : Displacement α) :
    along direction
        (Constraint.pointPartials p (d.reverse.scale 2) ++ Constraint.pointPartials q (d.scale 2)) =
      2 * d.dot ((p.map direction).toward (q.map direction)) := by
  rw [along_append, along_pointPartials, along_pointPartials]
  simp only [Point.map, Point.toward, Displacement.dot, Displacement.reverse, Displacement.scale]
  ring

theorem along_eq_zero {partials : List (ι × α)}
    (still : ∀ entry ∈ partials, direction entry.1 = 0) : along direction partials = 0 := by
  apply List.sum_eq_zero
  intro term listed
  obtain ⟨entry, member, same⟩ := List.mem_map.mp listed
  rw [← same, still entry member, mul_zero]

end Parts

namespace Constraint

/-- The quadratic part of the residual, which a change along a direction adds to the first-order
change. -/
def curvature (direction : ι → α) : Constraint ι α → α
  | .fixedDistance p q _ => ((p.map direction).toward (q.map direction)).lengthSquared
  | .distance p q length =>
      ((p.map direction).toward (q.map direction)).lengthSquared -
        direction length * direction length
  | .fixed _ _ | .equal _ _ => 0
  | .congruent s t =>
      (s.map direction).direction.lengthSquared - (t.map direction).direction.lengthSquared
  | .parallel s t => (s.map direction).direction.cross (t.map direction).direction
  | .perpendicular s t => (s.map direction).direction.dot (t.map direction).direction

theorem residual_add (c : Constraint ι α) (value direction : ι → α) :
    c.residual (value + direction) =
      c.residual value + along direction (c.gradient value) + c.curvature direction := by
  cases c with
  | fixedDistance p q distance =>
      rw [residual, residual, gradient, curvature, along_distancePartials, Point.toward_map_add]
      simp only [Displacement.lengthSquared, Displacement.dot]
      ring
  | distance p q length =>
      rw [residual, residual, gradient, curvature, along_append, along_distancePartials,
        along_singleton, Point.toward_map_add, Pi.add_apply]
      simp only [Displacement.lengthSquared, Displacement.dot]
      ring
  | fixed unknown expected =>
      rw [(IsLinear.fixed unknown expected).residual_add, curvature, add_zero, add_comm]
  | equal a b =>
      rw [(IsLinear.equal a b).residual_add, curvature, add_zero, add_comm]
  | congruent s t =>
      rw [residual, residual, gradient, curvature, along_append, along_segmentPartials,
        along_segmentPartials, Segment.direction_map_add, Segment.direction_map_add]
      simp only [Displacement.lengthSquared, Displacement.dot, Displacement.scale,
        Displacement.reverse]
      ring
  | parallel s t =>
      rw [residual, residual, gradient, curvature, along_append, along_segmentPartials,
        along_segmentPartials, Segment.direction_map_add, Segment.direction_map_add]
      simp only [Displacement.cross, Displacement.dot]
      ring
  | perpendicular s t =>
      rw [residual, residual, gradient, curvature, along_append, along_segmentPartials,
        along_segmentPartials, Segment.direction_map_add, Segment.direction_map_add]
      simp only [Displacement.dot]
      ring

theorem curvature_smul (c : Constraint ι α) (factor : α) (direction : ι → α) :
    c.curvature (factor • direction) = factor ^ 2 * c.curvature direction := by
  cases c with
  | fixedDistance p q distance =>
      rw [curvature, curvature, Point.toward_map_smul]
      simp only [Displacement.lengthSquared, Displacement.dot, Displacement.scale]
      ring
  | distance p q length =>
      rw [curvature, curvature, Point.toward_map_smul, Pi.smul_apply, smul_eq_mul]
      simp only [Displacement.lengthSquared, Displacement.dot, Displacement.scale]
      ring
  | fixed unknown expected => rw [curvature, curvature, mul_zero]
  | equal a b => rw [curvature, curvature, mul_zero]
  | congruent s t =>
      rw [curvature, curvature, Segment.direction_map_smul, Segment.direction_map_smul]
      simp only [Displacement.lengthSquared, Displacement.dot, Displacement.scale]
      ring
  | parallel s t =>
      rw [curvature, curvature, Segment.direction_map_smul, Segment.direction_map_smul]
      simp only [Displacement.cross, Displacement.scale]
      ring
  | perpendicular s t =>
      rw [curvature, curvature, Segment.direction_map_smul, Segment.direction_map_smul]
      simp only [Displacement.dot, Displacement.scale]
      ring

end Constraint

namespace ComponentSystem

section System

variable (system : ComponentSystem α)

def curvature (direction : Fin system.width → α) (i : Fin system.height) : α :=
  (system.equations.get i).curvature direction

theorem residual_add (value direction : Fin system.width → α) :
    (system.residual (.ofFn (value + direction))).get =
      (system.residual (.ofFn value)).get +
        (system.jacobian (.ofFn value)).toMatrix *ᵥ direction + system.curvature direction := by
  have read (f : Fin system.width → α) : (Vector.ofFn f).get = f := funext (get_ofFn f)
  funext i
  rw [Pi.add_apply, Pi.add_apply, get_residual, get_residual, jacobian_mulVec, read, read]
  exact Constraint.residual_add _ value direction

theorem curvature_smul (factor : α) (direction : Fin system.width → α) :
    system.curvature (factor • direction) = factor ^ 2 • system.curvature direction :=
  funext fun i => (system.equations.get i).curvature_smul factor direction

/-- The quadratic parts are the same forwards and backwards, so they cancel. -/
theorem residual_add_sub_residual_sub (value direction : Fin system.width → α) :
    (system.residual (.ofFn (value + direction))).get -
        (system.residual (.ofFn (value - direction))).get =
      (2 : α) • ((system.jacobian (.ofFn value)).toMatrix *ᵥ direction) := by
  have back : system.curvature (-direction) = system.curvature direction := by
    have scaled := system.curvature_smul (-1) direction
    rwa [neg_one_smul, neg_one_sq, one_smul] at scaled
  rw [sub_eq_add_neg value, residual_add, residual_add, back, mulVec_neg,
    add_sub_add_right_eq_sub, add_sub_add_left_eq_sub, sub_neg_eq_add, two_smul]

/-- A row is zero at the columns that its equation does not mention. -/
theorem entry_jacobian_eq_zero (value : Fin system.width → α) {i : Fin system.height}
    {column : Fin system.width} (absent : column ∉ (system.equations.get i).unknowns) :
    (system.jacobian (.ofFn value)).entry i column = 0 := by
  have entry : (system.jacobian (.ofFn value)).entry i column =
      ((system.jacobian (.ofFn value)).toMatrix *ᵥ Pi.single column 1) i := by
    rw [mulVec_single_one]
    rfl
  rw [entry, jacobian_mulVec]
  apply along_eq_zero
  intro partialDerivative listed
  apply Pi.single_eq_of_ne
  intro same
  apply absent
  rw [← same, ← Constraint.gradient_unknowns]
  exact List.mem_map_of_mem listed

end System

/-- The matrix of partial derivatives is the exact derivative of the residuals of a component: what a
change of its unknowns adds to them is the matrix times the change and a quadratic part that does not
depend on where the change starts. Central differences are twice the step times a column, and a row
is zero at the unknowns that its constraint does not mention. -/
theorem jacobian_is_exact_derivative (constraints : List (Constraint UnknownId α)) :
    let system := ofConstraints constraints
    (∀ value : UnknownId → α,
      (system.residual (.ofFn (value ∘ system.columns.get))).toList =
        constraints.map fun c => c.residual value) ∧
    (∀ value direction : Fin system.width → α,
      (system.residual (.ofFn (value + direction))).get =
        (system.residual (.ofFn value)).get +
          (system.jacobian (.ofFn value)).toMatrix *ᵥ direction + system.curvature direction) ∧
    (∀ (factor : α) (direction : Fin system.width → α),
      system.curvature (factor • direction) = factor ^ 2 • system.curvature direction) ∧
    (∀ (value : Fin system.width → α) (step : α) (column : Fin system.width)
        (i : Fin system.height),
      (system.residual (.ofFn (value + Pi.single column step))).get i -
          (system.residual (.ofFn (value - Pi.single column step))).get i =
        2 * step * (system.jacobian (.ofFn value)).entry i column) ∧
    ∀ (value : Fin system.width → α) (i : Fin constraints.length) (column : Fin system.width),
      system.columns.get column ∉ (constraints.get i).unknowns →
        (system.jacobian (.ofFn value)).entry
          (i.cast (height_ofConstraints constraints).symm) column = 0 := by
  intro system
  refine ⟨?_, system.residual_add, system.curvature_smul, ?_, ?_⟩
  · intro value
    apply residual_ofConstraints
    intro column
    rw [get_ofFn]
    rfl
  · intro value step column i
    have differences := system.residual_add_sub_residual_sub value (Pi.single column step)
    rw [mulVec_single] at differences
    rw [mul_assoc, mul_comm step]
    exact congrFun differences i
  · intro value i column absent
    exact system.entry_jacobian_eq_zero value fun mentions =>
      absent (mem_unknowns_of_mem_equation constraints mentions)

abbrev aliased : List (Constraint UnknownId ℤ) := [.distance ⟨0, 1⟩ ⟨2, 1⟩ 1, .equal 3 3]

theorem first_row_of_aliased_skips_last_unknown :
    (ofConstraints aliased).columns.get ⟨3, by decide⟩ ∉ (aliased.get ⟨0, by decide⟩).unknowns ∧
      ∀ value : Fin (ofConstraints aliased).width → ℤ,
        ((ofConstraints aliased).jacobian (.ofFn value)).entry
          ⟨0, by decide⟩ ⟨3, by decide⟩ = 0 := by
  have absent : (ofConstraints aliased).columns.get ⟨3, by decide⟩ ∉
      (aliased.get ⟨0, by decide⟩).unknowns := by
    decide
  obtain ⟨_, _, _, _, skips⟩ := jacobian_is_exact_derivative aliased
  exact ⟨absent, fun value => skips value ⟨0, by decide⟩ ⟨3, by decide⟩ absent⟩

end ComponentSystem

end Drafting
