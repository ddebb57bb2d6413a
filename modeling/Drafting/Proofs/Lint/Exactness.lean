import Drafting.Proofs.Conflict

/-!
# Exactly what is warned about

There is at most one warning for a constraint, in the order of the constraints, and it has one of three
reasons. An unknown that is fixed more than once is compared with the first value only. But of two
values that are two tolerances apart, not both are near the first one, so one of them is found.
-/

namespace Drafting

variable {α : Type}

def Warning.Precedes (warning other : Warning α) : Prop :=
  ∃ i j, warning.about = some i ∧ other.about = some j ∧ i < j

namespace Lint

section Reasons

variable [NatCast α] [Sub α] [Div α] [Neg α] [OfNat α 0] [OfNat α 1] [LT α] [DecidableLT α]

/-- Why the constraint in place `i` is to be warned about. -/
inductive HasReason (constraints : List (Constraint UnknownId α)) (i : Nat) : Concern α → Prop where
  | negativeDistance (p q : Point UnknownId) (d : α)
      (listed : constraints[i]? = some (.fixedDistance p q d)) (negative : d < 0) :
      HasReason constraints i (.negativeDistance d)
  | conflictingFixed (unknown : UnknownId) (j : Nat) (first second : α)
      (listed : constraints[i]? = some (.fixed unknown second)) (earlier : j < i)
      (isFirst : IsFirstFixed constraints unknown j first)
      (apart : ¬magnitude (first - second) < defaultTolerance) :
      HasReason constraints i (.conflictingFixed unknown j first second)
  | degenerateLine (s t : Segment UnknownId)
      (listed : constraints[i]? = some (.congruent s t) ∨ constraints[i]? = some (.parallel s t) ∨
        constraints[i]? = some (.perpendicular s t))
      (degenerate : s.start = s.finish ∨ t.start = t.finish) :
      HasReason constraints i .degenerateLine

variable {constraints : List (Constraint UnknownId α)} {i : Nat} {concern : Concern α}

/-- Of a pair of segments only a missing direction is a concern. -/
theorem concern?_segments {noted : FirstFixed α} {c : Constraint UnknownId α}
    {s t : Segment UnknownId}
    (shape : c = .congruent s t ∨ c = .parallel s t ∨ c = .perpendicular s t) :
    concern? noted c = some concern ↔
      (s.start = s.finish ∨ t.start = t.finish) ∧ concern = .degenerateLine := by
  have same : concern? noted c =
      if s.IsDegenerate ∨ t.IsDegenerate then some .degenerateLine else none := by
    obtain isC | isC | isC := shape <;> rw [isC, concern?]
  rw [same, Option.ite_none_right_eq_some, Option.some.injEq, eq_comm]
  rfl

theorem concernAt?_eq_some_iff :
    concernAt? constraints i = some concern ↔ HasReason constraints i concern := by
  rw [concernAt?, Option.bind_eq_some_iff]
  constructor
  · rintro ⟨c, listed, concerns⟩
    have ofSegments (s t : Segment UnknownId)
        (shape : c = .congruent s t ∨ c = .parallel s t ∨ c = .perpendicular s t) :
        HasReason constraints i concern := by
      obtain ⟨degenerate, same⟩ := (concern?_segments shape).mp concerns
      rw [same]
      refine .degenerateLine s t ?_ degenerate
      obtain isC | isC | isC := shape <;> rw [isC] at listed
      · exact .inl listed
      · exact .inr (.inl listed)
      · exact .inr (.inr listed)
    cases c with
    | fixedDistance p q d =>
        obtain ⟨negative, same⟩ := Option.ite_none_right_eq_some.mp concerns
        cases same
        exact .negativeDistance p q d listed negative
    | fixed unknown second =>
        cases known : (noteAll ∅ 0 (constraints.take i))[unknown]? with
        | none =>
            rw [concern?, known] at concerns
            cases concerns
        | some entry =>
            obtain ⟨j, first⟩ := entry
            rw [concern?, known] at concerns
            obtain ⟨apart, same⟩ := Option.ite_none_left_eq_some.mp concerns
            cases same
            obtain ⟨earlier, isFirst⟩ := getElem?_noteAll_take_iff.mp known
            exact .conflictingFixed unknown j first second listed earlier isFirst apart
    | congruent s t => exact ofSegments s t (.inl rfl)
    | parallel s t => exact ofSegments s t (.inr (.inl rfl))
    | perpendicular s t => exact ofSegments s t (.inr (.inr rfl))
    | distance | equal => cases concerns
  · intro reason
    cases reason with
    | negativeDistance p q d listed negative =>
        exact ⟨_, listed, if_pos negative⟩
    | conflictingFixed unknown j first second listed earlier isFirst apart =>
        exact ⟨_, listed, concern?_eq_conflictingFixed_iff.mpr
          ⟨rfl, getElem?_noteAll_take_iff.mpr ⟨earlier, isFirst⟩, apart⟩⟩
    | degenerateLine s t listed degenerate =>
        obtain listed | listed | listed := listed
        · exact ⟨_, listed, (concern?_segments (.inl rfl)).mpr ⟨degenerate, rfl⟩⟩
        · exact ⟨_, listed, (concern?_segments (.inr (.inl rfl))).mpr ⟨degenerate, rfl⟩⟩
        · exact ⟨_, listed, (concern?_segments (.inr (.inr rfl))).mpr ⟨degenerate, rfl⟩⟩

theorem mem_lint_iff_hasReason {place : Option Nat} :
    ⟨place, concern⟩ ∈ lint constraints ↔ ∃ i, place = some i ∧ HasReason constraints i concern := by
  rw [mem_lint_iff]
  constructor
  · rintro ⟨i, _, concerns, same⟩
    cases same
    exact ⟨i, rfl, concernAt?_eq_some_iff.mp concerns⟩
  · rintro ⟨i, same, reason⟩
    rw [same]
    exact ⟨i, concern, concernAt?_eq_some_iff.mpr reason, rfl⟩

theorem pairwise_precedes_lint (constraints : List (Constraint UnknownId α)) :
    (lint constraints).Pairwise Warning.Precedes := by
  rw [lint_eq_filterMap]
  apply List.pairwise_lt_range.filterMap
  intro i j before warning isFirst other isSecond
  obtain ⟨_, _, same⟩ := Option.map_eq_some_iff.mp isFirst
  obtain ⟨_, _, otherSame⟩ := Option.map_eq_some_iff.mp isSecond
  rw [← same, ← otherSame]
  exact ⟨i, j, rfl, rfl, before⟩

end Reasons

/-- If an unknown is fixed at all, some constraint is the first to fix it. -/
theorem exists_isFirstFixed {constraints : List (Constraint UnknownId α)} {unknown : UnknownId}
    {i : Nat} {value : α} (fixes : constraints[i]? = some (.fixed unknown value)) :
    ∃ j ≤ i, ∃ first, IsFirstFixed constraints unknown j first := by
  induction i using Nat.strong_induction_on generalizing value with
  | h i ih =>
      by_cases earlier : ∃ j < i, ∃ other, constraints[j]? = some (.fixed unknown other)
      · obtain ⟨j, before, other, alsoFixes⟩ := earlier
        obtain ⟨k, atMost, found⟩ := ih j before alsoFixes
        exact ⟨k, atMost.trans before.le, found⟩
      · push Not at earlier
        exact ⟨i, le_rfl, value, fixes, earlier⟩

section Exact

variable [Field α] [LinearOrder α] [IsStrictOrderedRing α]
  {constraints : List (Constraint UnknownId α)} {unknown : UnknownId} {i j : Nat} {first value : α}

theorem defaultTolerance_pos : (0 : α) < defaultTolerance := by
  unfold defaultTolerance
  positivity

/-- A value that is not reported is within the tolerance of the first one. -/
theorem abs_sub_lt_of_no_conflict (isFirst : IsFirstFixed constraints unknown j first)
    (fixes : constraints[i]? = some (.fixed unknown value))
    (unreported : ⟨some i, .conflictingFixed unknown j first value⟩ ∉ lint constraints) :
    |first - value| < defaultTolerance := by
  rcases Nat.lt_trichotomy i j with before | same | after
  · exact absurd fixes (isFirst.first i before value)
  · subst same
    cases fixes.symm.trans isFirst.fixes
    rw [sub_self, abs_zero]
    exact defaultTolerance_pos
  · by_contra distant
    apply unreported
    refine conflictingFixed_mem_lint_iff.mpr ⟨i, rfl, fixes, after, isFirst, ?_⟩
    rwa [IsNear, magnitude_eq_abs]

/-- Of two values that are two tolerances apart, one is too far from the first value. -/
theorem exists_conflict_of_distant {second : α}
    (fixes : constraints[i]? = some (.fixed unknown value))
    (alsoFixes : constraints[j]? = some (.fixed unknown second))
    (distant : 2 * defaultTolerance ≤ |value - second|) :
    ∃ place k a b, ⟨place, .conflictingFixed unknown k a b⟩ ∈ lint constraints := by
  obtain ⟨k, _, first, isFirst⟩ := exists_isFirstFixed fixes
  by_contra none
  push Not at none
  have near := abs_sub_lt_of_no_conflict isFirst fixes (none _ _ _ _)
  have alsoNear := abs_sub_lt_of_no_conflict isFirst alsoFixes (none _ _ _ _)
  have triangle : |value - second| < 2 * defaultTolerance := by
    calc |value - second| ≤ |value - first| + |first - second| := abs_sub_le _ _ _
      _ = |first - value| + |first - second| := by rw [abs_sub_comm value first]
      _ < defaultTolerance + defaultTolerance := add_lt_add near alsoNear
      _ = 2 * defaultTolerance := (two_mul _).symm
  exact absurd distant (not_le.mpr triangle)

end Exact

/-- The warnings are in the order of the constraints, at most one for each, and there is a warning
exactly if there is a reason for it. In exact arithmetic no two values of one unknown that are two
tolerances apart go unnoticed, though each is compared with the first one only. -/
theorem lint_is_exact {β : Type} [NatCast α] [Sub α] [Div α] [Neg α] [OfNat α 0] [OfNat α 1] [LT α]
    [DecidableLT α] [Field β] [LinearOrder β] [IsStrictOrderedRing β] :
    (∀ constraints : List (Constraint UnknownId α),
      (lint constraints).Pairwise Warning.Precedes ∧
      ∀ place concern, ⟨place, concern⟩ ∈ lint constraints ↔
        ∃ i, place = some i ∧ HasReason constraints i concern) ∧
    ∀ (constraints : List (Constraint UnknownId β)) (i j : Nat) (unknown : UnknownId)
      (first second : β), constraints[i]? = some (.fixed unknown first) →
        constraints[j]? = some (.fixed unknown second) →
        2 * defaultTolerance ≤ |first - second| →
          ∃ place k a b, ⟨place, .conflictingFixed unknown k a b⟩ ∈ lint constraints := by
  constructor
  · intro constraints
    exact ⟨pairwise_precedes_lint constraints, fun _ _ => mem_lint_iff_hasReason⟩
  · intro constraints i j unknown first second fixes alsoFixes distant
    exact exists_conflict_of_distant fixes alsoFixes distant

abbrev suspicious : List (Constraint UnknownId Float) :=
  [.fixedDistance ⟨0, 1⟩ ⟨2, 3⟩ (-2), .fixed 0 1, .fixed 0 1, .fixed 0 3,
    .parallel ⟨⟨0, 1⟩, ⟨2, 3⟩⟩ ⟨⟨0, 1⟩, ⟨0, 1⟩⟩]

/-- The second value is near the first one. The third is near neither, and two tolerances away from the
second. -/
abbrev thriceFixed : List (Constraint UnknownId ℚ) :=
  [.fixed 0 0, .fixed 0 (9 / 10 ^ 11), .fixed 0 (-11 / 10 ^ 11)]

theorem suspicious_constraints_are_noticed :
    (⟨some 0, .negativeDistance (-2)⟩ ∈ lint suspicious ∧
      (∀ concern, ⟨some 2, concern⟩ ∉ lint suspicious) ∧
      ⟨some 3, .conflictingFixed 0 1 1 3⟩ ∈ lint suspicious ∧
      ⟨some 4, .degenerateLine⟩ ∈ lint suspicious) ∧
    2 * defaultTolerance ≤ |(9 / 10 ^ 11 : ℚ) - -11 / 10 ^ 11| ∧
    ∃ place k a b, ⟨place, .conflictingFixed 0 k a b⟩ ∈ lint thriceFixed := by
  obtain ⟨warns, notices⟩ := lint_is_exact (α := Float) (β := ℚ)
  obtain ⟨_, iff⟩ := warns suspicious
  have isFirst : IsFirstFixed suspicious 0 1 1 := by
    constructor
    · rfl
    · intro j before other
      obtain rfl : j = 0 := Nat.lt_one_iff.mp before
      exact nofun
  have distant : 2 * defaultTolerance ≤ |(9 / 10 ^ 11 : ℚ) - -11 / 10 ^ 11| := by
    norm_num [defaultTolerance]
  refine ⟨⟨?_, ?_, ?_, ?_⟩, distant, notices thriceFixed 1 2 0 _ _ rfl rfl distant⟩
  · exact (iff _ _).mpr ⟨0, rfl, .negativeDistance ⟨0, 1⟩ ⟨2, 3⟩ (-2) rfl (by decide +kernel)⟩
  · intro concern warned
    obtain ⟨_, same, reason⟩ := (iff _ _).mp warned
    cases same
    -- The value is the first one, and the constraint is of no other kind that could be warned about.
    cases reason with
    | negativeDistance p q d listed _ => cases listed
    | conflictingFixed unknown j first second listed earlier found apart =>
        cases listed
        cases j with
        | zero => cases found.fixes
        | succ j =>
            obtain rfl : j = 0 := by omega
            cases found.fixes
            exact apart (by decide +kernel)
    | degenerateLine s t listed _ => simp at listed
  · refine (iff _ _).mpr ⟨3, rfl, ?_⟩
    exact .conflictingFixed 0 1 1 3 rfl (by decide) isFirst (by decide +kernel)
  · exact (iff _ _).mpr ⟨4, rfl, .degenerateLine _ _ (.inr (.inl rfl)) (.inr rfl)⟩

end Lint

end Drafting
