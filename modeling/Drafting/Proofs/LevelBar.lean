import Drafting.Proofs.Derivatives.Expansion
import Drafting.Proofs.Iteration.Unknowns

/-!
# Bars that are pinned and level

One end of a bar is pinned, and the other one is to be level with it at some distance. To first order
the constraints have a solution unless the ends are above one another, so an exact step meets them to
first order. Then it keeps the ends on the same sides of one another, and it overshoots the distance
rather than falling short of it.
-/

namespace Drafting

open Matrix

open Guarded (valueIn valueIn_columns)

variable {α : Type} [Field α]

/-- One end of a bar is pinned, and the other one is to be level with it at some distance. The order
of the constraints and of the ends does not matter. -/
def IsLevelBar (a b : Point UnknownId) (u v d : α)
    (constraints : List (Constraint UnknownId α)) : Prop :=
  ∃ level ∈ [Constraint.horizontal a b, .horizontal b a],
    ∃ length ∈ [Constraint.fixedDistance a b d, .fixedDistance b a d],
      constraints.Perm [.fixed a.x u, .fixed a.y v, level, length]

omit [Field α] in
theorem IsLevelBar.perm {a b : Point UnknownId} {u v d : α}
    {constraints others : List (Constraint UnknownId α)} (bar : IsLevelBar a b u v d constraints)
    (rearranged : others.Perm constraints) : IsLevelBar a b u v d others := by
  obtain ⟨level, isLevel, length, isLength, perm⟩ := bar
  exact ⟨level, isLevel, length, isLength, rearranged.trans perm⟩

structure LandsFrom (a b : Point UnknownId) (u v d : α) (value next : UnknownId → α) : Prop where
  pinned_x : next a.x = u
  pinned_y : next a.y = v
  level : next b.y = v
  apart : 2 * (value b.x - value a.x) * (next b.x - next a.x) =
    (value b.x - value a.x) ^ 2 + (value b.y - value a.y) ^ 2 + d ^ 2

variable {a b : Point UnknownId} {u v d : α} {constraints : List (Constraint UnknownId α)}
  {value direction : UnknownId → α}

theorem along_fixed (id : UnknownId) (expected : α) :
    along direction (Constraint.gradient value (.fixed id expected)) = direction id := by
  rw [Constraint.gradient, along_singleton, one_mul]

theorem fixed_linearised_iff (id : UnknownId) (expected : α) :
    along direction (Constraint.gradient value (.fixed id expected)) +
        Constraint.residual value (.fixed id expected) = 0 ↔
      (value + direction) id = expected := by
  rw [along_fixed, Constraint.residual, ← add_sub_assoc, sub_eq_zero, add_comm]
  rfl

section Orientation

variable {level length : Constraint UnknownId α}
  (isLevel : level ∈ [Constraint.horizontal a b, .horizontal b a])
  (isLength : length ∈ [Constraint.fixedDistance a b d, .fixedDistance b a d])

theorem along_horizontal (p q : Point UnknownId) :
    along direction ((Constraint.horizontal p q).gradient value) =
      direction p.y - direction q.y := by
  simp only [Constraint.horizontal, Constraint.gradient, along, List.map_cons, List.map_nil,
    List.sum_cons, List.sum_nil]
  ring

include isLevel

theorem level_linearised_iff :
    along direction (level.gradient value) + level.residual value = 0 ↔
      (value + direction) b.y = (value + direction) a.y := by
  have both (p q : Point UnknownId) :
      along direction ((Constraint.horizontal p q).gradient value) +
          (Constraint.horizontal p q).residual value =
        (value + direction) p.y - (value + direction) q.y := by
    rw [along_horizontal, Constraint.horizontal, Constraint.residual, Pi.add_apply, Pi.add_apply]
    ring
  rcases List.mem_pair.mp isLevel with same | same
  · rw [same, both, sub_eq_zero, eq_comm]
  · rw [same, both, sub_eq_zero]

theorem along_level_sq :
    along direction (level.gradient value) ^ 2 = (direction b.y - direction a.y) ^ 2 := by
  rcases List.mem_pair.mp isLevel with same | same
  · rw [same, along_horizontal, ← neg_sub, neg_sq]
  · rw [same, along_horizontal]

omit isLevel

include isLength

theorem along_length :
    along direction (length.gradient value) =
      2 * ((value b.x - value a.x) * (direction b.x - direction a.x) +
        (value b.y - value a.y) * (direction b.y - direction a.y)) := by
  rcases List.mem_pair.mp isLength with same | same
  · rw [same, Constraint.gradient, along_distancePartials]
    rfl
  · rw [same, Constraint.gradient, along_distancePartials]
    simp only [Point.map, Point.toward, Displacement.dot]
    ring

theorem residual_length :
    length.residual value =
      (value b.x - value a.x) ^ 2 + (value b.y - value a.y) ^ 2 - d ^ 2 := by
  rcases List.mem_pair.mp isLength with same | same <;> rw [same, Constraint.residual]
  · simp only [Point.map, Point.toward, Displacement.lengthSquared, Displacement.dot]
    ring
  · simp only [Point.map, Point.toward, Displacement.lengthSquared, Displacement.dot]
    ring

end Orientation

/-- What the constraints of a bar say to first order. -/
theorem IsLevelBar.linearised_iff (bar : IsLevelBar a b u v d constraints) :
    (∀ c ∈ constraints, along direction (c.gradient value) + c.residual value = 0) ↔
      LandsFrom a b u v d value (value + direction) := by
  obtain ⟨level, isLevel, length, isLength, perm⟩ := bar
  have each : (∀ c ∈ constraints, along direction (c.gradient value) + c.residual value = 0) ↔
      (value + direction) a.x = u ∧ (value + direction) a.y = v ∧
        (value + direction) b.y = (value + direction) a.y ∧
        along direction (length.gradient value) + length.residual value = 0 := by
    simp only [perm.mem_iff, List.forall_mem_cons, List.not_mem_nil, false_imp_iff, implies_true,
      and_true, fixed_linearised_iff, level_linearised_iff isLevel]
  rw [each, along_length isLength, residual_length isLength]
  constructor
  · rintro ⟨pinnedX, pinnedY, level, apart⟩
    refine ⟨pinnedX, pinnedY, level.trans pinnedY, ?_⟩
    simp only [Pi.add_apply] at level ⊢
    linear_combination apart - 2 * (value b.y - value a.y) * level
  · rintro ⟨pinnedX, pinnedY, level, apart⟩
    refine ⟨pinnedX, pinnedY, level.trans pinnedY.symm, ?_⟩
    have levelled := level.trans pinnedY.symm
    simp only [Pi.add_apply] at levelled apart
    linear_combination apart + 2 * (value b.y - value a.y) * levelled

/-- To first order the constraints of a bar can be met unless its ends are above one another. -/
theorem exists_landsFrom (two : (2 : α) ≠ 0) (distinct : [a.x, a.y, b.x, b.y].Nodup)
    (apart : value b.x ≠ value a.x) : ∃ next, LandsFrom a b u v d value next := by
  simp only [List.nodup_cons, List.mem_cons, List.not_mem_nil, or_false, not_or] at distinct
  obtain ⟨⟨axNeAy, axNeBx, axNeBy⟩, ⟨ayNeBx, _⟩, bxNeBy, _⟩ := distinct
  have nonzero : 2 * (value b.x - value a.x) ≠ 0 := mul_ne_zero two (sub_ne_zero.mpr apart)
  refine ⟨fun id => if id = a.x then u else if id = b.x then
    u + ((value b.x - value a.x) ^ 2 + (value b.y - value a.y) ^ 2 + d ^ 2) /
      (2 * (value b.x - value a.x)) else v, ?_, ?_, ?_, ?_⟩
  · rw [if_pos rfl]
  · rw [if_neg (Ne.symm axNeAy), if_neg ayNeBx]
  · rw [if_neg (Ne.symm axNeBy), if_neg (Ne.symm bxNeBy)]
  · rw [if_neg (Ne.symm axNeBx), if_pos rfl, if_pos rfl, add_sub_cancel_left,
      mul_div_cancel₀ _ nonzero]

section Ordered

variable [LinearOrder α] [IsStrictOrderedRing α] {next : UnknownId → α}

theorem pos_mul_trans {x y z : α} (first : 0 < x * y) (second : 0 < y * z) : 0 < x * z := by
  have product := mul_pos first second
  have square : 0 < y ^ 2 := sq_pos_of_ne_zero (right_ne_zero_of_mul first.ne')
  apply pos_of_mul_pos_right _ square.le
  calc 0 < x * y * (y * z) := product
    _ = y ^ 2 * (x * z) := by ring

structure InPlace (a b : Point UnknownId) (u v d : α) (value : UnknownId → α) : Prop where
  pinned_x : value a.x = u
  pinned_y : value a.y = v
  level : value b.y = v
  long : |d| ≤ |value b.x - value a.x|

namespace LandsFrom

/-- The ends stay on the same sides of one another. -/
theorem same_side (lands : LandsFrom a b u v d value next) (apart : value b.x ≠ value a.x) :
    0 < (next b.x - next a.x) * (value b.x - value a.x) := by
  have positive : 0 < (value b.x - value a.x) ^ 2 := sq_pos_of_ne_zero (sub_ne_zero.mpr apart)
  have balance := lands.apart
  nlinarith [sq_nonneg (value b.y - value a.y), sq_nonneg d]

theorem inPlace (lands : LandsFrom a b u v d value next) : InPlace a b u v d next := by
  refine ⟨lands.pinned_x, lands.pinned_y, lands.level, sq_le_sq.mp ?_⟩
  have balance := lands.apart
  -- The square of the new length is at least twice the product of both less the square of the old.
  nlinarith [sq_nonneg (value b.y - value a.y),
    sq_nonneg (next b.x - next a.x - (value b.x - value a.x))]

/-- A bar in place gets no longer. -/
theorem abs_le_of_inPlace (lands : LandsFrom a b u v d value next) (apart : value b.x ≠ value a.x)
    (inPlace : InPlace a b u v d value) : |next b.x - next a.x| ≤ |value b.x - value a.x| := by
  have positive : 0 < |value b.x - value a.x| := abs_pos.mpr (sub_ne_zero.mpr apart)
  have balance := lands.apart
  have longSquared := sq_le_sq.mpr inPlace.long
  rw [inPlace.level, inPlace.pinned_y, sub_self] at balance
  apply le_of_mul_le_mul_left _ positive
  calc |value b.x - value a.x| * |next b.x - next a.x|
      = (value b.x - value a.x) * (next b.x - next a.x) := by
        rw [← abs_mul, mul_comm, abs_of_pos (lands.same_side apart), mul_comm]
    _ ≤ (value b.x - value a.x) ^ 2 := by linarith
    _ = |value b.x - value a.x| * |value b.x - value a.x| := by rw [sq, abs_mul_abs_self]

end LandsFrom

end Ordered

namespace ComponentSystem

variable [LinearOrder α] [IsStrictOrderedRing α] [Precision α]

/-- How far the second end of a bar is from the first one along the axis on which they are level. -/
def reach (a b : Point UnknownId) (system : ComponentSystem α) (x : Vector α system.width) : α :=
  valueIn system.columns x b.x - valueIn system.columns x a.x

/-- What all assignments that the steps lead through keep of a bar. -/
structure KeepsSide (decompose : Decomposition α) (a b : Point UnknownId) (u v d : α)
    (system : ComponentSystem α) (start : Vector α system.width) : Prop where
  same_side : ∀ i x, system.iterate? decompose i start = some x →
    0 < system.reach a b x * system.reach a b start
  in_place : ∀ i x, 1 ≤ i → system.iterate? decompose i start = some x →
    InPlace a b u v d (valueIn system.columns x)
  shrinks : ∀ i j x y, 1 ≤ i → i ≤ j → system.iterate? decompose i start = some x →
    system.iterate? decompose j start = some y → |system.reach a b y| ≤ |system.reach a b x|

variable {decompose : Decomposition α} {a b : Point UnknownId} {u v d : α}
  {start x y : Vector α (ofConstraints constraints).width}

theorem landsFrom_of_next (bar : IsLevelBar a b u v d constraints)
    (distinct : [a.x, a.y, b.x, b.y].Nodup)
    (next : (ofConstraints constraints).next? decompose x = some y)
    (exact : ∀ step, pseudoInverseStep? decompose ((ofConstraints constraints).jacobian x)
        ((ofConstraints constraints).residual x) = some step →
      IsShortestLeastSquares ((ofConstraints constraints).jacobian x).toMatrix
        ((ofConstraints constraints).residual x).get step.get)
    (apart : (ofConstraints constraints).reach a b x ≠ 0) :
    LandsFrom a b u v d (valueIn (ofConstraints constraints).columns x)
      (valueIn (ofConstraints constraints).columns y) := by
  obtain ⟨step, found, same⟩ := Option.map_eq_some_iff.mp next
  -- Some direction meets the constraints to first order, so the shortest step does, too.
  obtain ⟨target, lands⟩ := exists_landsFrom two_ne_zero distinct (sub_ne_zero.mp apart)
  have meets : remainder ((ofConstraints constraints).jacobian x).toMatrix
      ((ofConstraints constraints).residual x).get
      (fun j => (target - valueIn (ofConstraints constraints).columns x)
        ((ofConstraints constraints).columns.get j)) = 0 := by
    apply (remainder_eq_zero_iff (valueIn_columns constraints x) fun _ => rfl).mpr
    apply bar.linearised_iff.mpr
    rwa [add_sub_cancel]
  have leavesNothing := (exact step found).remainder_eq_zero meets
  rw [← same, valueIn_zipWith_add]
  exact bar.linearised_iff.mp ((remainder_eq_zero_iff (valueIn_columns constraints x)
    (valueIn_columns constraints step)).mp leavesNothing)

section Run

variable (bar : IsLevelBar a b u v d constraints) (distinct : [a.x, a.y, b.x, b.y].Nodup)
  (exact : (ofConstraints constraints).StepsExactlyFrom decompose start)
  (apart : (ofConstraints constraints).reach a b start ≠ 0)

include bar distinct exact

theorem exists_landsFrom_of_iterate {i : Nat}
    (reached : (ofConstraints constraints).iterate? decompose (i + 1) start = some y)
    (apartBefore : ∀ x, (ofConstraints constraints).iterate? decompose i start = some x →
      (ofConstraints constraints).reach a b x ≠ 0) :
    ∃ x, (ofConstraints constraints).iterate? decompose i start = some x ∧
      LandsFrom a b u v d (valueIn (ofConstraints constraints).columns x)
        (valueIn (ofConstraints constraints).columns y) := by
  rw [iterate?_succ] at reached
  obtain ⟨x, reachedBefore, next⟩ := Option.bind_eq_some_iff.mp reached
  exact ⟨x, reachedBefore, landsFrom_of_next bar distinct next
    (fun step => exact.shortest i x step reachedBefore) (apartBefore x reachedBefore)⟩

include apart

theorem same_side_of_iterate (i : Nat)
    (reached : (ofConstraints constraints).iterate? decompose i start = some x) :
    0 < (ofConstraints constraints).reach a b x * (ofConstraints constraints).reach a b start := by
  induction i generalizing x with
  | zero =>
      cases reached
      exact mul_self_pos.mpr apart
  | succ i ih =>
      have apartBefore (x) (reachedBefore :
          (ofConstraints constraints).iterate? decompose i start = some x) :
          (ofConstraints constraints).reach a b x ≠ 0 :=
        left_ne_zero_of_mul (ih reachedBefore).ne'
      obtain ⟨before, reachedBefore, lands⟩ :=
        exists_landsFrom_of_iterate bar distinct exact reached apartBefore
      have stays := lands.same_side (sub_ne_zero.mp (apartBefore before reachedBefore))
      exact pos_mul_trans stays (ih reachedBefore)

theorem exists_landsFrom_before {i : Nat}
    (reached : (ofConstraints constraints).iterate? decompose (i + 1) start = some y) :
    ∃ x, (ofConstraints constraints).iterate? decompose i start = some x ∧
      valueIn (ofConstraints constraints).columns x b.x ≠
        valueIn (ofConstraints constraints).columns x a.x ∧
      LandsFrom a b u v d (valueIn (ofConstraints constraints).columns x)
        (valueIn (ofConstraints constraints).columns y) := by
  have apartBefore (x) (reachedBefore :
      (ofConstraints constraints).iterate? decompose i start = some x) :
      (ofConstraints constraints).reach a b x ≠ 0 :=
    left_ne_zero_of_mul (same_side_of_iterate bar distinct exact apart i reachedBefore).ne'
  obtain ⟨before, reachedBefore, lands⟩ :=
    exists_landsFrom_of_iterate bar distinct exact reached apartBefore
  exact ⟨before, reachedBefore, sub_ne_zero.mp (apartBefore before reachedBefore), lands⟩

theorem inPlace_of_iterate {i : Nat} (later : 1 ≤ i)
    (reached : (ofConstraints constraints).iterate? decompose i start = some x) :
    InPlace a b u v d (valueIn (ofConstraints constraints).columns x) := by
  obtain ⟨i, same⟩ := Nat.exists_eq_add_of_le' later
  rw [same] at reached
  obtain ⟨_, _, _, lands⟩ := exists_landsFrom_before bar distinct exact apart reached
  exact lands.inPlace

theorem shrinks_of_iterate {i j : Nat} (later : 1 ≤ i) (ordered : i ≤ j)
    (reached : (ofConstraints constraints).iterate? decompose i start = some x)
    (reachedLater : (ofConstraints constraints).iterate? decompose j start = some y) :
    |(ofConstraints constraints).reach a b y| ≤ |(ofConstraints constraints).reach a b x| := by
  induction j, ordered using Nat.le_induction generalizing y with
  | base =>
      cases reached.symm.trans reachedLater
      exact le_rfl
  | succ j ordered ih =>
      obtain ⟨before, reachedBefore, apartBefore, lands⟩ :=
        exists_landsFrom_before bar distinct exact apart reachedLater
      have inPlace :=
        inPlace_of_iterate bar distinct exact apart (later.trans ordered) reachedBefore
      exact (lands.abs_le_of_inPlace apartBefore inPlace).trans (ih reachedBefore)

theorem keepsSide : (ofConstraints constraints).KeepsSide decompose a b u v d start := by
  constructor
  · intro i x
    exact same_side_of_iterate bar distinct exact apart i
  · intro i x
    exact inPlace_of_iterate bar distinct exact apart
  · intro i j x y
    exact shrinks_of_iterate bar distinct exact apart

end Run

end ComponentSystem

end Drafting
