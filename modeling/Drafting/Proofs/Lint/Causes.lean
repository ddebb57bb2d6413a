import Mathlib.Logic.Basic
import Drafting.Proofs.Lint

/-!
# What causes a warning

A constraint is warned about for what it says itself or, if it fixes an unknown, for what the first
constraint says that fixes the same one. So each warning can be traced back to its constraints, and
no two warnings are about the same constraint.
-/

namespace Drafting.Lint

variable {α : Type}

section Notes

/-- The first constraint that fixes an unknown, counted from `i`, and the value. -/
def firstFixed? (unknown : UnknownId) (i : Nat) : List (Constraint UnknownId α) → Option (Nat × α)
  | [] => none
  | .fixed other value :: rest =>
      if other = unknown then some (i, value) else firstFixed? unknown (i + 1) rest
  | _ :: rest => firstFixed? unknown (i + 1) rest

theorem firstFixed?_cons_of_ne {c : Constraint UnknownId α} {unknown : UnknownId}
    (other : ∀ value, c ≠ .fixed unknown value) (i : Nat) (rest : List (Constraint UnknownId α)) :
    firstFixed? unknown i (c :: rest) = firstFixed? unknown (i + 1) rest := by
  cases c with
  | fixed id value =>
      apply if_neg
      intro same
      exact other value (congrArg (Constraint.fixed · value) same)
  | _ => rfl

/-- The notes on some constraints hold the first constraint that fixes an unknown, unless an earlier
one was noted before. -/
theorem getElem?_noteAll (noted : FirstFixed α) (i : Nat) (constraints : List (Constraint UnknownId α))
    (unknown : UnknownId) :
    (noteAll noted i constraints)[unknown]? =
      (noted[unknown]?).or (firstFixed? unknown i constraints) := by
  induction constraints generalizing noted i with
  | nil => rw [noteAll, firstFixed?, Option.or_none]
  | cons c rest ih =>
      rw [noteAll, ih]
      cases c with
      | fixed other value =>
          rw [note, Std.HashMap.getElem?_insertIfNew, firstFixed?]
          by_cases same : other = unknown
          · subst same
            rw [if_pos rfl]
            cases known : noted[other]? with
            | none =>
                have isNew : other ∉ noted := by
                  rw [Std.HashMap.mem_iff_isSome_getElem?, known]
                  exact Bool.false_ne_true
                rw [if_pos ⟨beq_self_eq_true other, isNew⟩, Option.some_or, Option.none_or]
            | some first =>
                have isKnown : other ∈ noted := by
                  rw [Std.HashMap.mem_iff_isSome_getElem?, known, Option.isSome_some]
                rw [if_neg (fun both => both.2 isKnown), Option.some_or, Option.some_or]
          · rw [if_neg (fun both => same (eq_of_beq both.1)), if_neg same]
      | _ => rfl

structure IsFirstFixed (constraints : List (Constraint UnknownId α)) (unknown : UnknownId) (i : Nat)
    (value : α) : Prop where
  fixes : constraints[i]? = some (.fixed unknown value)
  first : ∀ j < i, ∀ other, constraints[j]? ≠ some (.fixed unknown other)

theorem IsFirstFixed.cons {constraints : List (Constraint UnknownId α)} {unknown : UnknownId}
    {i : Nat} {value : α} (isFirst : IsFirstFixed constraints unknown i value)
    {c : Constraint UnknownId α} (other : ∀ value, c ≠ .fixed unknown value) :
    IsFirstFixed (c :: constraints) unknown (i + 1) value where
  fixes := isFirst.fixes
  first := by
    intro j before another
    cases j with
    | zero => exact fun same => other another (Option.some.inj same)
    | succ j => exact isFirst.first j (Nat.lt_of_succ_lt_succ before) another

theorem IsFirstFixed.tail {c : Constraint UnknownId α} {constraints : List (Constraint UnknownId α)}
    {unknown : UnknownId} {i : Nat} {value : α}
    (isFirst : IsFirstFixed (c :: constraints) unknown (i + 1) value) :
    IsFirstFixed constraints unknown i value where
  fixes := isFirst.fixes
  first := fun j before => isFirst.first (j + 1) (Nat.succ_lt_succ before)

theorem firstFixed?_eq_some_iff {constraints : List (Constraint UnknownId α)} {unknown : UnknownId}
    {start place : Nat} {value : α} :
    firstFixed? unknown start constraints = some (place, value) ↔
      ∃ i, place = start + i ∧ IsFirstFixed constraints unknown i value := by
  induction constraints generalizing start with
  | nil =>
      constructor
      · intro found
        cases found
      · rintro ⟨i, _, isFirst⟩
        cases isFirst.fixes
  | cons c rest ih =>
      by_cases other : ∀ value, c ≠ .fixed unknown value
      · rw [firstFixed?_cons_of_ne other, ih]
        constructor
        · rintro ⟨i, atPlace, isFirst⟩
          exact ⟨i + 1, by omega, isFirst.cons other⟩
        · rintro ⟨i, atPlace, isFirst⟩
          cases i with
          | zero => exact absurd (Option.some.inj isFirst.fixes) (other value)
          | succ i => exact ⟨i, by omega, isFirst.tail⟩
      · obtain ⟨here, isFixed⟩ := not_forall_not.mp other
        subst isFixed
        rw [firstFixed?, if_pos rfl]
        constructor
        · intro found
          cases found
          exact ⟨0, rfl, rfl, fun j before => absurd before j.not_lt_zero⟩
        · rintro ⟨i, atPlace, isFirst⟩
          cases i with
          | zero =>
              cases isFirst.fixes
              rw [atPlace, Nat.add_zero]
          | succ i => exact absurd rfl (isFirst.first 0 i.succ_pos here)

/-- What is noted when the constraint in place `k` is looked at. -/
theorem getElem?_noteAll_take_iff {constraints : List (Constraint UnknownId α)} {k i : Nat}
    {unknown : UnknownId} {value : α} :
    (noteAll ∅ 0 (constraints.take k))[unknown]? = some (i, value) ↔
      i < k ∧ IsFirstFixed constraints unknown i value := by
  rw [getElem?_noteAll, Std.HashMap.getElem?_empty, Option.none_or, firstFixed?_eq_some_iff]
  simp only [Nat.zero_add, exists_eq_left']
  constructor
  · intro isFirst
    have listed := isFirst.fixes
    have early : i < k := by
      rcases Nat.lt_or_ge i k with before | after
      · exact before
      · rw [List.getElem?_take_eq_none after] at listed
        cases listed
    rw [List.getElem?_take_of_lt early] at listed
    refine ⟨early, listed, fun j before other => ?_⟩
    have earlier := isFirst.first j before other
    rwa [List.getElem?_take_of_lt (Nat.lt_trans before early)] at earlier
  · rintro ⟨early, isFirst⟩
    constructor
    · rw [List.getElem?_take_of_lt early]
      exact isFirst.fixes
    · intro j before other
      rw [List.getElem?_take_of_lt (Nat.lt_trans before early)]
      exact isFirst.first j before other

end Notes

variable [NatCast α] [Sub α] [Div α] [Neg α] [OfNat α 0] [OfNat α 1] [LT α] [DecidableLT α]

def concernAt? (constraints : List (Constraint UnknownId α)) (i : Nat) : Option (Concern α) :=
  constraints[i]?.bind (concern? (noteAll ∅ 0 (constraints.take i)))

private theorem warningsFrom_eq_filterMap (noted : FirstFixed α) (k : Nat)
    (constraints : List (Constraint UnknownId α)) :
    warningsFrom noted k constraints =
      (List.range constraints.length).filterMap fun i =>
        (constraints[i]?.bind (concern? (noteAll noted k (constraints.take i)))).map
          fun concern => ⟨some (k + i), concern⟩ := by
  induction constraints generalizing noted k with
  | nil => rfl
  | cons c rest ih =>
      rw [warningsFrom, ih, List.length_cons, List.range_succ_eq_map, List.filterMap_cons,
        List.filterMap_map]
      have here : (c :: rest)[0]?.bind (concern? (noteAll noted k ((c :: rest).take 0))) =
          concern? noted c := rfl
      have later (i : Nat) : k + 1 + i = k + (i + 1) := by omega
      simp only [later, Function.comp_def]
      rw [here]
      cases concern? noted c <;> rfl

/-- The warnings come in the order of the constraints, at most one for each. -/
theorem lint_eq_filterMap (constraints : List (Constraint UnknownId α)) :
    lint constraints =
      (List.range constraints.length).filterMap fun i =>
        (concernAt? constraints i).map fun concern => ⟨some i, concern⟩ := by
  have listed := warningsFrom_eq_filterMap ∅ 0 constraints
  simp only [Nat.zero_add] at listed
  exact listed

theorem mem_lint_iff {constraints : List (Constraint UnknownId α)} {warning : Warning α} :
    warning ∈ lint constraints ↔
      ∃ i concern, concernAt? constraints i = some concern ∧ warning = ⟨some i, concern⟩ := by
  rw [lint_eq_filterMap, List.mem_filterMap]
  constructor
  · rintro ⟨i, _, found⟩
    obtain ⟨concern, concerns, same⟩ := Option.map_eq_some_iff.mp found
    exact ⟨i, concern, concerns, same.symm⟩
  · rintro ⟨i, concern, concerns, same⟩
    obtain ⟨c, listed, _⟩ := Option.bind_eq_some_iff.mp concerns
    obtain ⟨bound, _⟩ := List.getElem?_eq_some_iff.mp listed
    exact ⟨i, List.mem_range.mpr bound, Option.map_eq_some_iff.mpr ⟨concern, concerns, same.symm⟩⟩

theorem concern?_eq_conflictingFixed_iff {noted : FirstFixed α} {c : Constraint UnknownId α}
    {unknown : UnknownId} {i : Nat} {first second : α} :
    concern? noted c = some (.conflictingFixed unknown i first second) ↔
      c = .fixed unknown second ∧ noted[unknown]? = some (i, first) ∧ ¬IsNear first second := by
  cases c with
  | fixed other value =>
      rw [concern?]
      cases known : noted[other]? with
      | none =>
          constructor
          · intro concerns
            cases concerns
          · rintro ⟨same, found, _⟩
            cases same
            cases known.symm.trans found
      | some entry =>
          obtain ⟨j, earlier⟩ := entry
          dsimp only
          by_cases near : IsNear earlier value
          · rw [if_pos near]
            constructor
            · intro concerns
              cases concerns
            · rintro ⟨same, found, apart⟩
              cases same
              cases known.symm.trans found
              exact absurd near apart
          · rw [if_neg near]
            constructor
            · intro concerns
              cases concerns
              exact ⟨rfl, known, near⟩
            · rintro ⟨same, found, _⟩
              cases same
              cases known.symm.trans found
              rfl
  | fixedDistance p q d =>
      rw [concern?]
      split <;> simp
  | congruent s t | parallel s t | perpendicular s t =>
      rw [concern?]
      split <;> simp
  | distance | equal => simp [concern?]

/-- A constraint conflicts if it fixes an unknown that another one fixed first, to a value that is
not near. -/
theorem conflictingFixed_mem_lint_iff {constraints : List (Constraint UnknownId α)}
    {place : Option Nat} {unknown : UnknownId} {i : Nat} {first second : α} :
    (⟨place, .conflictingFixed unknown i first second⟩ : Warning α) ∈ lint constraints ↔
      ∃ j, place = some j ∧ constraints[j]? = some (.fixed unknown second) ∧ i < j ∧
        IsFirstFixed constraints unknown i first ∧ ¬IsNear first second := by
  rw [mem_lint_iff]
  constructor
  · rintro ⟨j, concern, concerns, same⟩
    cases same
    obtain ⟨c, listed, found⟩ := Option.bind_eq_some_iff.mp concerns
    obtain ⟨fixes, known, apart⟩ := concern?_eq_conflictingFixed_iff.mp found
    obtain ⟨before, isFirst⟩ := getElem?_noteAll_take_iff.mp known
    subst fixes
    exact ⟨j, rfl, listed, before, isFirst, apart⟩
  · rintro ⟨j, same, listed, before, isFirst, apart⟩
    subst same
    refine ⟨j, _, ?_, rfl⟩
    rw [concernAt?, listed, Option.bind_some, concern?_eq_conflictingFixed_iff]
    exact ⟨rfl, getElem?_noteAll_take_iff.mpr ⟨before, isFirst⟩, apart⟩

end Drafting.Lint

namespace Drafting

variable {α : Type}

def Concern.isNegativeDistance : Concern α → Bool
  | .negativeDistance _ => true
  | _ => false

namespace Lint

variable [NatCast α] [Sub α] [Div α] [Neg α] [OfNat α 0] [OfNat α 1] [LT α] [DecidableLT α]

def negativeDistance? (i : Nat) : Constraint UnknownId α → Option (Warning α)
  | .fixedDistance _ _ d => if d < 0 then some ⟨some i, .negativeDistance d⟩ else none
  | _ => none

theorem filter_concern? (noted : FirstFixed α) (i : Nat) (c : Constraint UnknownId α) :
    (((concern? noted c).map fun concern => (⟨some i, concern⟩ : Warning α)).toList.filter
      fun warning => warning.concern.isNegativeDistance) = (negativeDistance? i c).toList := by
  cases c with
  | fixedDistance p q d =>
      rw [concern?, negativeDistance?]
      split <;> rfl
  | fixed unknown second =>
      rw [concern?]
      split
      · split <;> rfl
      · rfl
  | congruent s t | parallel s t | perpendicular s t =>
      rw [concern?]
      split <;> rfl
  | distance | equal => rfl

private theorem filter_warningsFrom (noted : FirstFixed α) (i : Nat)
    (constraints : List (Constraint UnknownId α)) :
    (warningsFrom noted i constraints).filter (fun warning => warning.concern.isNegativeDistance) =
      (constraints.zipIdx i).filterMap fun (c, i) => negativeDistance? i c := by
  induction constraints generalizing noted i with
  | nil => rfl
  | cons c rest ih =>
      rw [warningsFrom, List.filter_append, filter_concern?, ih, List.zipIdx_cons,
        List.filterMap_cons]
      dsimp only
      cases negativeDistance? i c <;> rfl

/-- There is one warning about a negative distance for each negative distance, in order. -/
theorem filter_negativeDistance_lint (constraints : List (Constraint UnknownId α)) :
    (lint constraints).filter (fun warning => warning.concern.isNegativeDistance) =
      constraints.zipIdx.filterMap fun (c, i) => negativeDistance? i c :=
  filter_warningsFrom ∅ 0 constraints

end Lint

end Drafting
