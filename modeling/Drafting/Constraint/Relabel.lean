import Drafting.Arena
import Drafting.Constraint
import Drafting.Number.Precision

/-!
# Constraints over part of the unknowns

`mapMem` relabels a constraint by a function that is only given for the constraint's own unknowns,
which is how a constraint moves from the ids of an arena to the columns of a matrix. The value of
the residual does not depend on the labels. `residualIn?` evaluates it in an arena.
-/

namespace Drafting

variable {ι κ μ α : Type}

namespace Point

def mapMem (p : Point ι) (f : (i : ι) → i ∈ p.coordinates → κ) : Point κ :=
  ⟨f p.x (by simp [coordinates]), f p.y (by simp [coordinates])⟩

end Point

namespace Segment

def mapMem (s : Segment ι) (f : (i : ι) → i ∈ s.coordinates → κ) : Segment κ :=
  ⟨s.start.mapMem fun i h => f i (List.mem_append_left _ h),
    s.finish.mapMem fun i h => f i (List.mem_append_right _ h)⟩

end Segment

namespace Constraint

/-- Refer to other unknowns instead, by a function on this constraint's unknowns. -/
def mapMem : (c : Constraint ι α) → ((i : ι) → i ∈ c.unknowns → κ) → Constraint κ α
  | .fixedDistance p q d, f =>
      .fixedDistance (p.mapMem fun i h => f i (List.mem_append_left _ h))
        (q.mapMem fun i h => f i (List.mem_append_right _ h)) d
  | .distance p q length, f =>
      .distance
        (p.mapMem fun i h => f i (List.mem_append_left _ (List.mem_append_left _ h)))
        (q.mapMem fun i h => f i (List.mem_append_left _ (List.mem_append_right _ h)))
        (f length (List.mem_append_right _ (List.mem_singleton_self _)))
  | .fixed unknown value, f => .fixed (f unknown (List.mem_singleton_self _)) value
  | .equal a b, f =>
      .equal (f a List.mem_cons_self) (f b (List.mem_cons_of_mem _ (List.mem_singleton_self _)))
  | .congruent s t, f =>
      .congruent (s.mapMem fun i h => f i (List.mem_append_left _ h))
        (t.mapMem fun i h => f i (List.mem_append_right _ h))
  | .parallel s t, f =>
      .parallel (s.mapMem fun i h => f i (List.mem_append_left _ h))
        (t.mapMem fun i h => f i (List.mem_append_right _ h))
  | .perpendicular s t, f =>
      .perpendicular (s.mapMem fun i h => f i (List.mem_append_left _ h))
        (t.mapMem fun i h => f i (List.mem_append_right _ h))

theorem mapMem_eq_map (c : Constraint ι α) (f : ι → κ) :
    (c.mapMem fun i _ => f i) = c.map f := by
  cases c <;> rfl

theorem map_mapMem (c : Constraint ι α) (f : (i : ι) → i ∈ c.unknowns → κ) (g : κ → μ) :
    (c.mapMem f).map g = c.mapMem fun i h => g (f i h) := by
  cases c <;> rfl

/-- Relabelling and reading back by the labels is reading directly. -/
theorem residual_mapMem [Add α] [Sub α] [Mul α] (c : Constraint ι α)
    (f : (i : ι) → i ∈ c.unknowns → κ) (value : κ → α) (other : ι → α)
    (hSame : ∀ i h, value (f i h) = other i) :
    (c.mapMem f).residual value = c.residual other := by
  have hMap : (c.mapMem f).map value = c.map other := by
    rw [map_mapMem, ← mapMem_eq_map]
    congr
    funext i h
    exact hSame i h
  have hLeft := residual_map value id (c.mapMem f)
  have hRight := residual_map other id c
  rw [Function.id_comp] at hLeft hRight
  rw [← hLeft, ← hRight, hMap]

section InArena

variable [Add α] [Sub α] [Mul α]

def residualIn (c : Constraint UnknownId α) (arena : Arena α)
    (known : arena.Contains c.unknowns) : α :=
  (c.mapMem fun id h => (⟨id, known id h⟩ : Fin arena.size)).residual fun i =>
    arena.value i.val i.isLt

def residualIn? (c : Constraint UnknownId α) (arena : Arena α) : Option α :=
  if known : arena.Contains c.unknowns then some (c.residualIn arena known) else none

variable [Neg α] [OfNat α 0] [LT α] [DecidableLT α] [LE α] [DecidableLE α]

def satisfiedIn? (c : Constraint UnknownId α) (arena : Arena α) (tolerance : α) : Option Bool :=
  (c.residualIn? arena).map fun r => decide (magnitude r ≤ tolerance)

end InArena

end Constraint

end Drafting
