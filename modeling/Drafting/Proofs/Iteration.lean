import Drafting.GaussNewton
import Drafting.Proofs.Comparison

/-!
# Where the iteration stops

The assignments that the steps lead through depend on the start alone, and the settings only say how
many of them are measured and which of them is good enough. So a search ends at the first assignment
within the tolerance, or at the first one without a next step, or when its budget is used up.
-/

namespace Drafting.ComponentSystem

variable {α : Type} [Precision α] [NatCast α] [Add α] [Sub α] [Mul α] [Div α] [Neg α]
  [OfNat α 0] [OfNat α 1] [OfNat α 2] [LT α] [DecidableLT α] [LE α] [DecidableLE α]

section Iterates

variable (decompose : Decomposition α) (system : ComponentSystem α)

def iterate? : Nat → Vector α system.width → Option (Vector α system.width)
  | 0, start => some start
  | i + 1, start => (system.next? decompose start).bind (iterate? i)

def RejectsFirst (tolerance : α) (count : Nat) (start : Vector α system.width) : Prop :=
  ∀ j < count, ∀ x, system.iterate? decompose j start = some x → ¬system.error x ≤ tolerance

structure AcceptsAt (tolerance : α) (i : Nat) (start x : Vector α system.width) : Prop where
  reached : system.iterate? decompose i start = some x
  small : system.error x ≤ tolerance
  first : system.RejectsFirst decompose tolerance i start

/-- After `i` steps there is no next one, and no assignment up to there is good enough. -/
structure BreaksAt (tolerance : α) (i : Nat) (start : Vector α system.width) : Prop where
  stuck : ∃ x, system.iterate? decompose i start = some x ∧ system.next? decompose x = none
  first : system.RejectsFirst decompose tolerance (i + 1) start

end Iterates

variable {decompose : Decomposition α} {system : ComponentSystem α} {tolerance : α} {i : Nat}
  {start x : Vector α system.width}

theorem rejectsFirst_succ_iff :
    system.RejectsFirst decompose tolerance (i + 1) start ↔
      ¬system.error start ≤ tolerance ∧
        ∀ y, system.next? decompose start = some y → system.RejectsFirst decompose tolerance i y := by
  constructor
  · intro rejects
    refine ⟨rejects 0 i.succ_pos start rfl, fun y next j early x reached => ?_⟩
    apply rejects (j + 1) (Nat.succ_lt_succ early) x
    rw [iterate?, next, Option.bind_some, reached]
  · rintro ⟨large, later⟩ j early x reached
    cases j with
    | zero =>
        cases reached
        exact large
    | succ j =>
        obtain ⟨y, next, onward⟩ := Option.bind_eq_some_iff.mp reached
        exact later y next j (Nat.lt_of_succ_lt_succ early) x onward

theorem acceptsAt_zero_iff :
    system.AcceptsAt decompose tolerance 0 start x ↔ x = start ∧ system.error start ≤ tolerance := by
  constructor
  · rintro ⟨reached, small, _⟩
    cases reached
    exact ⟨rfl, small⟩
  · rintro ⟨same, small⟩
    subst same
    exact ⟨rfl, small, fun j early => absurd early j.not_lt_zero⟩

theorem acceptsAt_succ_iff :
    system.AcceptsAt decompose tolerance (i + 1) start x ↔
      ¬system.error start ≤ tolerance ∧
        ∃ y, system.next? decompose start = some y ∧
          system.AcceptsAt decompose tolerance i y x := by
  constructor
  · rintro ⟨reached, small, first⟩
    obtain ⟨y, next, onward⟩ := Option.bind_eq_some_iff.mp reached
    obtain ⟨large, later⟩ := rejectsFirst_succ_iff.mp first
    exact ⟨large, y, next, onward, small, later y next⟩
  · rintro ⟨large, y, next, onward, small, later⟩
    refine ⟨Option.bind_eq_some_iff.mpr ⟨y, next, onward⟩, small,
      rejectsFirst_succ_iff.mpr ⟨large, ?_⟩⟩
    intro z alsoNext
    rwa [← Option.some.inj (next.symm.trans alsoNext)]

theorem breaksAt_zero_iff :
    system.BreaksAt decompose tolerance 0 start ↔
      ¬system.error start ≤ tolerance ∧ system.next? decompose start = none := by
  constructor
  · rintro ⟨⟨x, reached, stuck⟩, first⟩
    cases reached
    exact ⟨(rejectsFirst_succ_iff.mp first).1, stuck⟩
  · rintro ⟨large, stuck⟩
    refine ⟨⟨start, rfl, stuck⟩, rejectsFirst_succ_iff.mpr ⟨large, ?_⟩⟩
    intro y _ j early
    exact absurd early j.not_lt_zero

theorem breaksAt_succ_iff :
    system.BreaksAt decompose tolerance (i + 1) start ↔
      ¬system.error start ≤ tolerance ∧
        ∃ y, system.next? decompose start = some y ∧ system.BreaksAt decompose tolerance i y := by
  constructor
  · rintro ⟨⟨x, reached, stuck⟩, first⟩
    obtain ⟨y, next, onward⟩ := Option.bind_eq_some_iff.mp reached
    obtain ⟨large, later⟩ := rejectsFirst_succ_iff.mp first
    exact ⟨large, y, next, ⟨x, onward, stuck⟩, later y next⟩
  · rintro ⟨large, y, next, ⟨x, onward, stuck⟩, later⟩
    refine ⟨⟨x, Option.bind_eq_some_iff.mpr ⟨y, next, onward⟩, stuck⟩,
      rejectsFirst_succ_iff.mpr ⟨large, ?_⟩⟩
    intro z alsoNext
    rwa [← Option.some.inj (next.symm.trans alsoNext)]

section Exits

variable {left done : Nat} {size : α}

theorem refineFrom_of_small (small : system.error start ≤ tolerance) :
    refineFrom decompose tolerance system (left + 1) done size start = .ok ⟨done, start⟩ := by
  rw [refineFrom]
  exact if_pos small

theorem refineFrom_of_stuck (large : ¬system.error start ≤ tolerance)
    (stuck : system.next? decompose start = none) :
    refineFrom decompose tolerance system (left + 1) done size start = .error .notDecomposed := by
  rw [refineFrom]
  refine (if_neg large).trans ?_
  rw [stuck]

theorem refineFrom_of_next (large : ¬system.error start ≤ tolerance)
    (next : system.next? decompose start = some x) :
    refineFrom decompose tolerance system (left + 1) done size start =
      refineFrom decompose tolerance system left (done + 1) (system.error start) x := by
  rw [refineFrom]
  refine (if_neg large).trans ?_
  rw [next]

private theorem refineFrom_eq_ok_iff {solution : Solution system.width α} :
    refineFrom decompose tolerance system left done size start = .ok solution ↔
      ∃ i < left, solution.steps = done + i ∧
        system.AcceptsAt decompose tolerance i start solution.assignment := by
  induction left generalizing done size start with
  | zero => simp [refineFrom]
  | succ left ih =>
      by_cases small : system.error start ≤ tolerance
      · rw [refineFrom_of_small small]
        constructor
        · intro found
          cases found
          exact ⟨0, left.succ_pos, rfl, acceptsAt_zero_iff.mpr ⟨rfl, small⟩⟩
        · rintro ⟨i, _, steps, accepts⟩
          obtain ⟨_, assignment⟩ := solution
          cases i with
          | zero =>
              obtain ⟨same, _⟩ := acceptsAt_zero_iff.mp accepts
              dsimp only at same steps
              rw [same, steps, Nat.add_zero]
          | succ i => exact absurd small (acceptsAt_succ_iff.mp accepts).1
      · cases next : system.next? decompose start with
        | none =>
            rw [refineFrom_of_stuck small next]
            constructor
            · intro found
              cases found
            · rintro ⟨i, _, _, accepts⟩
              cases i with
              | zero => exact absurd (acceptsAt_zero_iff.mp accepts).2 small
              | succ i =>
                  obtain ⟨_, y, found, _⟩ := acceptsAt_succ_iff.mp accepts
                  cases next.symm.trans found
        | some y =>
            rw [refineFrom_of_next small next, ih]
            constructor
            · rintro ⟨i, inBudget, steps, accepts⟩
              refine ⟨i + 1, Nat.succ_lt_succ inBudget, ?_,
                acceptsAt_succ_iff.mpr ⟨small, y, next, accepts⟩⟩
              omega
            · rintro ⟨i, inBudget, steps, accepts⟩
              cases i with
              | zero => exact absurd (acceptsAt_zero_iff.mp accepts).2 small
              | succ i =>
                  obtain ⟨_, z, found, later⟩ := acceptsAt_succ_iff.mp accepts
                  cases next.symm.trans found
                  refine ⟨i, Nat.lt_of_succ_lt_succ inBudget, ?_, later⟩
                  omega

private theorem refineFrom_eq_notDecomposed_iff :
    refineFrom decompose tolerance system left done size start = .error .notDecomposed ↔
      ∃ i < left, system.BreaksAt decompose tolerance i start := by
  induction left generalizing done size start with
  | zero => simp [refineFrom]
  | succ left ih =>
      by_cases small : system.error start ≤ tolerance
      · rw [refineFrom_of_small small]
        constructor
        · intro fails
          cases fails
        · rintro ⟨i, _, breaks⟩
          exact absurd small (rejectsFirst_succ_iff.mp breaks.first).1
      · cases next : system.next? decompose start with
        | none =>
            rw [refineFrom_of_stuck small next]
            exact ⟨fun _ => ⟨0, left.succ_pos, breaksAt_zero_iff.mpr ⟨small, next⟩⟩, fun _ => rfl⟩
        | some y =>
            rw [refineFrom_of_next small next, ih]
            constructor
            · rintro ⟨i, inBudget, breaks⟩
              exact ⟨i + 1, Nat.succ_lt_succ inBudget,
                breaksAt_succ_iff.mpr ⟨small, y, next, breaks⟩⟩
            · rintro ⟨i, inBudget, breaks⟩
              cases i with
              | zero => cases next.symm.trans (breaksAt_zero_iff.mp breaks).2
              | succ i =>
                  obtain ⟨_, z, found, later⟩ := breaksAt_succ_iff.mp breaks
                  cases next.symm.trans found
                  exact ⟨i, Nat.lt_of_succ_lt_succ inBudget, later⟩

end Exits

variable {settings : Settings α} {solution : Solution system.width α}

theorem refine_eq_ok_iff :
    system.refine decompose settings start = .ok solution ↔
      solution.steps < settings.budget ∧
        system.AcceptsAt decompose settings.tolerance solution.steps start solution.assignment := by
  rw [refine, refineFrom_eq_ok_iff]
  simp only [Nat.zero_add]
  constructor
  · rintro ⟨i, inBudget, same, accepts⟩
    subst same
    exact ⟨inBudget, accepts⟩
  · rintro ⟨inBudget, accepts⟩
    exact ⟨_, inBudget, rfl, accepts⟩

theorem refine_eq_notDecomposed_iff :
    system.refine decompose settings start = .error .notDecomposed ↔
      ∃ i < settings.budget, system.BreaksAt decompose settings.tolerance i start :=
  refineFrom_eq_notDecomposed_iff

theorem error_le_of_refine (found : system.refine decompose settings start = .ok solution) :
    system.error solution.assignment ≤ settings.tolerance :=
  (refine_eq_ok_iff.mp found).2.small

/-- The last assignment that the budget allows is never accepted without being measured. -/
theorem steps_lt_of_refine (found : system.refine decompose settings start = .ok solution) :
    solution.steps < settings.budget :=
  (refine_eq_ok_iff.mp found).1

/-- No step is taken from an assignment that is good enough. -/
theorem refine_eq_of_error_le (decompose : Decomposition α) (positive : 0 < settings.budget)
    (small : system.error start ≤ settings.tolerance) :
    system.refine decompose settings start = .ok ⟨0, start⟩ :=
  refine_eq_ok_iff.mpr ⟨positive, acceptsAt_zero_iff.mpr ⟨rfl, small⟩⟩

theorem assignment_eq_of_refine (found : system.refine decompose settings start = .ok solution)
    (unmoved : solution.steps = 0) : solution.assignment = start := by
  have accepts := (refine_eq_ok_iff.mp found).2
  rw [unmoved] at accepts
  exact (acceptsAt_zero_iff.mp accepts).1

omit [NatCast α] [Div α] [OfNat α 1] [OfNat α 2] in
theorem error_le_iff [LawfulPrecision α] {assignment : Vector α system.width} :
    system.error assignment ≤ tolerance ↔
      0 ≤ tolerance ∧ ∀ r ∈ (system.residual assignment).toList, Passes tolerance r :=
  largestMagnitude_le_iff

end Drafting.ComponentSystem
