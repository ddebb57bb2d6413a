import Drafting.Proofs.Acceptance
import Drafting.Proofs.LinearSystems
import Drafting.Proofs.Lint.Causes

/-!
# Conflicts that are none

An unknown that is fixed to two values is warned about as soon as they are one tolerance apart. But a
value between them is within the tolerance of both until they are two tolerances apart. So the
warning that a system cannot be solved is true for distant values only.
-/

namespace Drafting

section Calls

variable {α : Type} [Precision α] [NatCast α] [Add α] [Sub α] [Mul α] [Div α] [Neg α]
  [OfNat α 0] [OfNat α 1] [OfNat α 2] [LT α] [DecidableLT α] [LE α] [DecidableLE α]

omit [NatCast α] [Div α] [OfNat α 1] [OfNat α 2] [DecidableLE α] in
theorem Constraint.passesIn_fixed_iff {arena : Arena α} {unknown : UnknownId}
    {value tolerance : α} :
    (Constraint.fixed unknown value).PassesIn arena tolerance ↔
      ∃ present, arena.value? unknown = some present ∧ Passes tolerance (present - value) := by
  unfold PassesIn
  constructor
  · rintro ⟨r, measured, small⟩
    rw [residualIn?_eq] at measured
    obtain ⟨contained, same⟩ := Option.ite_none_right_eq_some.mp measured
    have known : unknown < arena.size := contained unknown List.mem_cons_self
    refine ⟨arena.value unknown known, Arena.value?_of_lt known, ?_⟩
    rw [← Arena.reading_eq (Arena.value?_of_lt known)]
    rwa [← Option.some.inj same] at small
  · rintro ⟨present, found, small⟩
    obtain ⟨known, _⟩ := Arena.value?_eq_some_iff.mp found
    have contained : arena.Contains (Constraint.fixed unknown value).unknowns :=
      List.forall_mem_singleton.mpr known
    refine ⟨present - value, ?_, small⟩
    rw [residualIn?_eq, if_pos contained, residual, Arena.reading_eq found]

/-- No search at the default tolerance solves the system, wherever it starts. -/
def NeverSolved (constraints : List (Constraint UnknownId α)) : Prop :=
  ∀ (decompose : Decomposition α) (budget : Nat) (arena left : Arena α) (report : SolveReport α),
    solve decompose ⟨budget, defaultTolerance⟩ constraints arena ≠ (.solved report, left)

variable [LawfulPrecision α] {first second : α}

/-- An unknown has one value in the end, and it passes for both constraints that fix the unknown. -/
theorem neverSolved_of_conflictingFixed {constraints : List (Constraint UnknownId α)}
    {place : Option Nat} {unknown : UnknownId} {i : Nat}
    (warned : ⟨place, .conflictingFixed unknown i first second⟩ ∈ lint constraints)
    (apart : ∀ present, Passes defaultTolerance (present - first) →
      ¬Passes defaultTolerance (present - second)) :
    NeverSolved constraints := by
  intro decompose budget arena left report solved
  obtain ⟨j, _, fixesSecond, _, isFirst, _⟩ := Lint.conflictingFixed_mem_lint_iff.mp warned
  obtain ⟨complete, _, _⟩ := solve_eq_solved_iff.mp solved
  obtain ⟨present, found, nearFirst⟩ := Constraint.passesIn_fixed_iff.mp
    (passesIn_of_halt_none complete (List.mem_of_getElem? isFirst.fixes))
  obtain ⟨also, alsoFound, nearSecond⟩ := Constraint.passesIn_fixed_iff.mp
    (passesIn_of_halt_none complete (List.mem_of_getElem? fixesSecond))
  cases found.symm.trans alsoFound
  exact apart present nearFirst nearSecond

abbrev fixedTwice (first second : α) : List (Constraint UnknownId α) :=
  [.fixed 0 first, .fixed 0 second]

omit [Precision α] [Add α] [Mul α] [OfNat α 2] [LE α] [DecidableLE α] [LawfulPrecision α] in
theorem conflictingFixed_mem_lint_fixedTwice (apart : ¬Lint.IsNear first second) :
    ⟨some 1, .conflictingFixed 0 0 first second⟩ ∈ lint (fixedTwice first second) := by
  rw [Lint.conflictingFixed_mem_lint_iff]
  refine ⟨1, rfl, rfl, Nat.one_pos, ?_, apart⟩
  constructor
  · rfl
  · intro j before
    exact absurd before j.not_lt_zero

theorem solve_fixedTwice (decompose : Decomposition α) (settings : Settings α)
    (positive : 0 < settings.budget) (tolerant : 0 ≤ settings.tolerance) {present : α}
    (nearFirst : Passes settings.tolerance (present - first))
    (nearSecond : Passes settings.tolerance (present - second)) :
    ∃ report, solve decompose settings (fixedTwice first second) (Arena.ofValues [present]) =
      (.solved report, Arena.ofValues [present]) := by
  apply solve_of_passesIn decompose settings positive tolerant
  rw [List.forall_mem_cons, List.forall_mem_singleton, Constraint.passesIn_fixed_iff,
    Constraint.passesIn_fixed_iff]
  exact ⟨⟨present, rfl, nearFirst⟩, ⟨present, rfl, nearSecond⟩⟩

end Calls

section Exact

variable {α : Type} [Field α] [LinearOrder α] [IsStrictOrderedRing α] [Precision α]

omit [Precision α] in
theorem magnitude_eq_abs (x : α) : magnitude x = |x| := by
  unfold magnitude
  split
  · rename_i negative
    exact (abs_of_neg negative).symm
  · rename_i notNegative
    exact (abs_of_nonneg (not_lt.mp notNegative)).symm

theorem passes_iff_abs_le {tolerance x : α} : Passes tolerance x ↔ |x| ≤ tolerance := by
  rw [Passes, magnitude_eq_abs]
  constructor
  · rintro (small | ⟨notNumber, _⟩)
    · exact small
    · exact absurd (le_refl x) notNumber
  · exact Or.inl

omit [Precision α] in
theorem exists_between_iff {first second tolerance : α} :
    (∃ present, |present - first| ≤ tolerance ∧ |present - second| ≤ tolerance) ↔
      |first - second| ≤ 2 * tolerance := by
  constructor
  · rintro ⟨present, nearFirst, nearSecond⟩
    calc |first - second| ≤ |first - present| + |present - second| := abs_sub_le _ _ _
      _ = |present - first| + |present - second| := by rw [abs_sub_comm first present]
      _ ≤ tolerance + tolerance := add_le_add nearFirst nearSecond
      _ = 2 * tolerance := (two_mul tolerance).symm
  · intro close
    -- The middle is as far from the one as from the other.
    have half : |first - second| / 2 ≤ tolerance := by linarith
    have two : |(2 : α)| = 2 := abs_of_pos two_pos
    refine ⟨(first + second) / 2, ?_, ?_⟩
    · have step : (first + second) / 2 - first = (second - first) / 2 := by ring
      rwa [step, abs_div, two, abs_sub_comm]
    · have step : (first + second) / 2 - second = (first - second) / 2 := by ring
      rwa [step, abs_div, two]

/-- In exact arithmetic the warning about two values is true for every system that gets it exactly if
they are more than two tolerances apart. -/
theorem conflicts_unsolvable_iff_distant {first second : α} (apart : ¬Lint.IsNear first second) :
    (∀ (constraints : List (Constraint UnknownId α)) (place : Option Nat) (unknown : UnknownId)
      (i : Nat), ⟨place, .conflictingFixed unknown i first second⟩ ∈ lint constraints →
        NeverSolved constraints) ↔
      2 * defaultTolerance < |first - second| := by
  rw [← not_le, ← exists_between_iff]
  constructor
  · rintro unsolvable ⟨present, nearFirst, nearSecond⟩
    have tolerant : (0 : α) ≤ defaultTolerance := le_trans (abs_nonneg _) nearFirst
    obtain ⟨report, solved⟩ := solve_fixedTwice (fun _ _ _ => none) ⟨1, defaultTolerance⟩
      Nat.one_pos tolerant (passes_iff_abs_le.mpr nearFirst) (passes_iff_abs_le.mpr nearSecond)
    exact unsolvable _ _ _ _ (conflictingFixed_mem_lint_fixedTwice apart) _ _ _ _ report solved
  · intro distant constraints place unknown i warned
    apply neverSolved_of_conflictingFixed warned
    intro present nearFirst nearSecond
    exact distant ⟨present, passes_iff_abs_le.mp nearFirst, passes_iff_abs_le.mp nearSecond⟩

end Exact

/-- Values are told apart at one tolerance already, where the warning is not true yet. -/
theorem far_and_close_conflicts :
    (∀ (constraints : List (Constraint UnknownId ℝ)) (place : Option Nat) (unknown : UnknownId)
      (i : Nat), ⟨place, .conflictingFixed unknown i 0 1⟩ ∈ lint constraints →
        NeverSolved constraints) ∧
    ¬∀ (constraints : List (Constraint UnknownId ℝ)) (place : Option Nat) (unknown : UnknownId)
      (i : Nat), ⟨place, .conflictingFixed unknown i 0 1.5e-10⟩ ∈ lint constraints →
        NeverSolved constraints := by
  have far : ¬Lint.IsNear (0 : ℝ) 1 := by
    rw [Lint.IsNear, magnitude_eq_abs]
    norm_num [defaultTolerance]
  have close : ¬Lint.IsNear (0 : ℝ) 1.5e-10 := by
    rw [Lint.IsNear, magnitude_eq_abs]
    norm_num [defaultTolerance, abs_of_pos]
  constructor
  · apply (conflicts_unsolvable_iff_distant far).mpr
    norm_num [defaultTolerance]
  · rw [conflicts_unsolvable_iff_distant close]
    norm_num [defaultTolerance, abs_of_pos]

/-- The value between the two passes for both, whatever the matrix factors are. -/
theorem close_conflict_is_solved :
    ⟨some 1, .conflictingFixed 0 0 0 1.5e-10⟩ ∈ lint (fixedTwice (0 : Float) 1.5e-10) ∧
    (∀ c ∈ fixedTwice (0 : Float) 1.5e-10,
      (Arena.ofValues [(7.5e-11 : Float)]).Contains c.unknowns) ∧
    ∀ decompose : Decomposition Float, ∃ report,
      solve decompose Settings.default (fixedTwice 0 1.5e-10) (Arena.ofValues [7.5e-11]) =
        (.solved report, Arena.ofValues [7.5e-11]) := by
  have apart : ¬Lint.IsNear (0 : Float) 1.5e-10 := by decide +kernel
  have tolerant : (0 : Float) ≤ defaultTolerance := by decide +kernel
  have nearFirst : magnitude ((7.5e-11 : Float) - 0) ≤ defaultTolerance := by decide +kernel
  have nearSecond : magnitude ((7.5e-11 : Float) - 1.5e-10) ≤ defaultTolerance := by decide +kernel
  refine ⟨conflictingFixed_mem_lint_fixedTwice apart, by decide +kernel, fun decompose => ?_⟩
  exact solve_fixedTwice decompose Settings.default (Nat.succ_pos 99) tolerant (Or.inl nearFirst)
    (Or.inl nearSecond)

end Drafting
