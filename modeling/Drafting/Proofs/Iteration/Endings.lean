import Drafting.Proofs.Iteration
import Drafting.Proofs.Solving

/-!
# The three endings of a search

A search finds the first assignment that is good enough, or it has no next step before that, or it
uses up its budget. In the last case it reports the size that it measured last: the assignment that
the last step led to is never measured. Without a budget nothing is measured, and every component
fails.
-/

namespace Drafting

variable {α : Type} [Precision α] [NatCast α] [Add α] [Sub α] [Mul α] [Div α] [Neg α]
  [OfNat α 0] [OfNat α 1] [OfNat α 2] [LT α] [DecidableLT α] [LE α] [DecidableLE α]

namespace ComponentSystem

section Measured

variable (decompose : Decomposition α) (system : ComponentSystem α)

/-- The size that was measured last when some assignments were measured one after the other; what it
was before if none was. -/
def LastMeasured (before : α) (start : Vector α system.width) : Nat → α → Prop
  | 0, size => size = before
  | i + 1, size => ∃ x, system.iterate? decompose i start = some x ∧ size = system.error x

end Measured

variable {decompose : Decomposition α} {system : ComponentSystem α} {tolerance before size : α}
  {start next : Vector α system.width}

theorem iterate?_succ (i : Nat) :
    system.iterate? decompose (i + 1) start =
      (system.iterate? decompose i start).bind (system.next? decompose) := by
  induction i generalizing start with
  | zero =>
      rw [iterate?, iterate?, Option.bind_some]
      exact Option.bind_fun_some _
  | succ i ih =>
      rw [iterate?, iterate?, Option.bind_assoc]
      exact congrArg _ (funext fun _ => ih)

theorem lastMeasured_succ_iff (steps : system.next? decompose start = some next) (i : Nat) :
    system.LastMeasured decompose before start (i + 1) size ↔
      system.LastMeasured decompose (system.error start) next i size := by
  cases i with
  | zero =>
      simp only [LastMeasured, iterate?, Option.some.injEq]
      constructor
      · rintro ⟨x, same, measured⟩
        rw [measured, same]
      · intro measured
        exact ⟨start, rfl, measured⟩
  | succ i => simp only [LastMeasured, iterate?, steps, Option.bind_some]

private theorem refineFrom_eq_notConverged_iff {left done budget : Nat} :
    refineFrom decompose tolerance system left done before start =
        .error (.notConverged budget size) ↔
      budget = done + left ∧ system.RejectsFirst decompose tolerance left start ∧
        (∃ x, system.iterate? decompose left start = some x) ∧
        system.LastMeasured decompose before start left size := by
  induction left generalizing done before start with
  | zero =>
      have none : system.RejectsFirst decompose tolerance 0 start :=
        fun j early => absurd early j.not_lt_zero
      rw [refineFrom]
      constructor
      · intro ends
        cases ends
        exact ⟨rfl, none, ⟨start, rfl⟩, rfl⟩
      · rintro ⟨same, _, _, measured⟩
        rw [same, Nat.add_zero, measured]
  | succ left ih =>
      by_cases small : system.error start ≤ tolerance
      · rw [refineFrom_of_small small]
        constructor
        · intro ends
          cases ends
        · rintro ⟨_, rejects, _⟩
          exact absurd small (rejectsFirst_succ_iff.mp rejects).1
      · cases steps : system.next? decompose start with
        | none =>
            rw [refineFrom_of_stuck small steps, iterate?, steps]
            constructor
            · intro ends
              cases ends
            · rintro ⟨_, _, ⟨x, reached⟩, _⟩
              cases reached
        | some y =>
            have onward : system.RejectsFirst decompose tolerance (left + 1) start ↔
                system.RejectsFirst decompose tolerance left y := by
              rw [rejectsFirst_succ_iff, steps]
              constructor
              · intro rejects
                exact rejects.2 y rfl
              · intro rejects
                exact ⟨small, fun z same => Option.some.inj same ▸ rejects⟩
            rw [refineFrom_of_next small steps, ih, onward, lastMeasured_succ_iff steps, iterate?,
              steps, Option.bind_some, Nat.add_right_comm, Nat.add_assoc]

variable {settings : Settings α}

theorem refine_eq_notConverged_iff {budget : Nat} :
    system.refine decompose settings start = .error (.notConverged budget size) ↔
      budget = settings.budget ∧
        system.RejectsFirst decompose settings.tolerance settings.budget start ∧
        (∃ x, system.iterate? decompose settings.budget start = some x) ∧
        system.LastMeasured decompose Precision.infinity start settings.budget size := by
  rw [refine, refineFrom_eq_notConverged_iff, Nat.zero_add]

/-- What neither finds a solution nor gets stuck uses up its budget. -/
theorem exists_notConverged_iff :
    (∃ size, system.refine decompose settings start =
        .error (.notConverged settings.budget size)) ↔
      (∀ i < settings.budget, ∀ x,
          ¬system.AcceptsAt decompose settings.tolerance i start x) ∧
        ∀ i < settings.budget, ¬system.BreaksAt decompose settings.tolerance i start := by
  constructor
  · rintro ⟨size, ends⟩
    constructor
    · intro i early x accepts
      have found : system.refine decompose settings start = .ok ⟨i, x⟩ :=
        refine_eq_ok_iff.mpr ⟨early, accepts⟩
      cases ends.symm.trans found
    · intro i early breaks
      cases ends.symm.trans (refine_eq_notDecomposed_iff.mpr ⟨i, early, breaks⟩)
  · rintro ⟨neverAccepts, neverBreaks⟩
    cases ends : system.refine decompose settings start with
    | ok solution =>
        obtain ⟨early, accepts⟩ := refine_eq_ok_iff.mp ends
        exact absurd accepts (neverAccepts _ early _)
    | error error =>
        cases error with
        | notDecomposed =>
            obtain ⟨i, early, breaks⟩ := refine_eq_notDecomposed_iff.mp ends
            exact absurd breaks (neverBreaks i early)
        | notConverged budget size =>
            rw [(refine_eq_notConverged_iff.mp ends).1]
            exact ⟨size, rfl⟩

theorem refine_of_no_budget (nothing : settings.budget = 0) :
    system.refine decompose settings start = .error (.notConverged 0 Precision.infinity) := by
  rw [refine, nothing, refineFrom]

end ComponentSystem

/-- Without a budget the first component fails, and nothing changes. -/
theorem solve_of_no_budget (decompose : Decomposition α) {settings : Settings α}
    {constraints : List (Constraint UnknownId α)} {arena : Arena α}
    (nothing : settings.budget = 0) (nonempty : constraints ≠ [])
    (known : ∀ c ∈ constraints, arena.Contains c.unknowns) :
    ∃ block, (blocks constraints)[0]? = some block ∧
      solve decompose settings constraints arena =
        (.failed ⟨.notConverged 0 Precision.infinity, 0, block.positions, [], lint constraints⟩,
          arena) := by
  obtain ⟨c, member⟩ := List.exists_mem_of_ne_nil constraints nonempty
  obtain ⟨first, listed, _⟩ := exists_block_of_mem constraints member
  cases split : blocks constraints with
  | nil =>
      rw [split] at listed
      cases listed
  | cons block rest =>
      have inBlocks : block ∈ blocks constraints := split ▸ List.mem_cons_self
      have fails : solveBlock decompose settings block arena =
          .error (.failed block.positions (.notConverged 0 Precision.infinity)) :=
        solveBlock_eq_failed_iff.mpr ⟨rfl, contains_of_mem_blocks constraints known inBlocks,
          ComponentSystem.refine_of_no_budget nothing⟩
      refine ⟨block, rfl, ?_⟩
      rw [solve, split, walk_cons_error fails]
      rfl

/-- A search measures the assignments that its steps lead through, by the size of their residuals, and
ends in exactly one of three ways: with the first one within the tolerance, at the first one without a
next step, or with its budget used up and the size that it measured last. -/
theorem search_ends_exactly [LawfulPrecision α] (decompose : Decomposition α)
    (settings : Settings α) :
    (∀ (system : ComponentSystem α) (start : Vector α system.width),
      system.iterate? decompose 0 start = some start ∧
      (∀ i, system.iterate? decompose (i + 1) start =
        (system.iterate? decompose i start).bind fun x =>
          (pseudoInverseStep? decompose (system.jacobian x) (system.residual x)).map fun step =>
            x.zipWith (· + ·) step) ∧
      (∀ x, IsSizeOf (system.residual x).toList (system.error x)) ∧
      (∀ i x, system.refine decompose settings start = .ok ⟨i, x⟩ ↔
        i < settings.budget ∧ system.AcceptsAt decompose settings.tolerance i start x) ∧
      (system.refine decompose settings start = .error .notDecomposed ↔
        ∃ i < settings.budget, system.BreaksAt decompose settings.tolerance i start) ∧
      ((∃ size, system.refine decompose settings start =
          .error (.notConverged settings.budget size)) ↔
        (∀ i < settings.budget, ∀ x,
            ¬system.AcceptsAt decompose settings.tolerance i start x) ∧
          ∀ i < settings.budget, ¬system.BreaksAt decompose settings.tolerance i start) ∧
      (∀ budget size,
        system.refine decompose settings start = .error (.notConverged budget size) →
          budget = settings.budget ∧
            system.LastMeasured decompose Precision.infinity start settings.budget size) ∧
      ∀ solution, system.refine decompose settings start = .ok solution →
        solution.steps < settings.budget) ∧
    ∀ (constraints : List (Constraint UnknownId α)) (arena : Arena α),
      constraints ≠ [] → (∀ c ∈ constraints, arena.Contains c.unknowns) → settings.budget = 0 →
        ∃ block, (blocks constraints)[0]? = some block ∧
          solve decompose settings constraints arena =
            (.failed ⟨.notConverged 0 Precision.infinity, 0, block.positions, [],
              lint constraints⟩, arena) := by
  constructor
  · intro system start
    refine ⟨rfl, ComponentSystem.iterate?_succ, fun x => isSizeOf_largestMagnitude _,
      fun i x => ComponentSystem.refine_eq_ok_iff, ComponentSystem.refine_eq_notDecomposed_iff,
      ComponentSystem.exists_notConverged_iff, ?_, fun solution =>
        ComponentSystem.steps_lt_of_refine⟩
    intro budget size ends
    obtain ⟨used, _, _, measured⟩ := ComponentSystem.refine_eq_notConverged_iff.mp ends
    exact ⟨used, measured⟩
  · intro constraints arena nonempty known nothing
    exact solve_of_no_budget decompose nothing nonempty known

/-- An unknown that is to be 3 and starts at 0 takes one step, which two measurements reveal. -/
theorem one_measurement_is_too_few :
    (∃ solution, (ComponentSystem.ofConstraints [.fixed 0 (3 : Float)]).refine unitFactors
        ⟨2, 1e-10⟩ (Vector.replicate _ 0) = .ok solution ∧ solution.steps < 2) ∧
      (∃ size, (ComponentSystem.ofConstraints [.fixed 0 (3 : Float)]).refine unitFactors
          ⟨1, 1e-10⟩ (Vector.replicate _ 0) = .error (.notConverged 1 size) ∧
        (ComponentSystem.ofConstraints [.fixed 0 (3 : Float)]).LastMeasured unitFactors
          Precision.infinity (Vector.replicate _ 0) 1 size) ∧
      ∃ block, (blocks [.fixed 0 (3 : Float)])[0]? = some block ∧
        solve unitFactors ⟨0, 1e-10⟩ [.fixed 0 3] (Arena.ofValues [0]) =
          (.failed ⟨.notConverged 0 Precision.infinity, 0, block.positions, [],
            lint [.fixed 0 3]⟩, Arena.ofValues [0]) := by
  refine ⟨?_, ?_, ?_⟩
  · obtain ⟨searches, _⟩ := search_ends_exactly (unitFactors (α := Float)) ⟨2, 1e-10⟩
    obtain ⟨_, _, _, _, _, _, _, withinBudget⟩ :=
      searches (ComponentSystem.ofConstraints [.fixed 0 3]) (Vector.replicate _ 0)
    have found : ((ComponentSystem.ofConstraints [.fixed 0 (3 : Float)]).refine unitFactors
        ⟨2, 1e-10⟩ (Vector.replicate _ 0)).toOption.isSome = true := by
      decide +kernel
    cases ends : (ComponentSystem.ofConstraints [.fixed 0 (3 : Float)]).refine unitFactors
        ⟨2, 1e-10⟩ (Vector.replicate _ 0) with
    | ok solution => exact ⟨solution, rfl, withinBudget solution ends⟩
    | error error =>
        rw [ends] at found
        cases found
  · obtain ⟨searches, _⟩ := search_ends_exactly (unitFactors (α := Float)) ⟨1, 1e-10⟩
    obtain ⟨_, _, _, _, _, _, exhausted, _⟩ :=
      searches (ComponentSystem.ofConstraints [.fixed 0 3]) (Vector.replicate _ 0)
    have ends : (ComponentSystem.ofConstraints [.fixed 0 (3 : Float)]).refine unitFactors
        ⟨1, 1e-10⟩ (Vector.replicate _ 0) = .error (.notConverged 1 3) := by
      rfl
    exact ⟨3, ends, (exhausted 1 3 ends).2⟩
  · obtain ⟨_, fails⟩ := search_ends_exactly (unitFactors (α := Float)) ⟨0, 1e-10⟩
    exact fails [.fixed 0 3] (Arena.ofValues [0]) (List.cons_ne_nil _ _) (by decide) rfl

end Drafting
