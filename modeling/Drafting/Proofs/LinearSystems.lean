import Mathlib.Analysis.Real.Sqrt
import Mathlib.LinearAlgebra.Matrix.Notation
import Mathlib.Tactic.FinCases
import Drafting.Proofs.Derivatives
import Drafting.Proofs.Walk

/-!
# Linear systems

In exact arithmetic one shortest least-squares step leads to the nearest solution of a linear system
that has one. A component in which unknowns are fixed or equal has all its unknowns equal in each
solution. So the step takes them to the value that is fixed, if there is one, and to the mean of
where they were if there is none.
-/

namespace Drafting

open Matrix

variable {α : Type} [Field α]

section Mean

variable {n : Nat}

def mean (values : Fin n → α) : α := (∑ j, values j) / n

theorem sum_mean_sub [CharZero α] (some : n ≠ 0) (values : Fin n → α) :
    ∑ j, (mean values - values j) = 0 := by
  have count : (n : α) ≠ 0 := Nat.cast_ne_zero.mpr some
  rw [Finset.sum_sub_distrib, Finset.sum_const, Finset.card_univ, Fintype.card_fin, nsmul_eq_mul,
    mean, mul_div_cancel₀ _ count, sub_self]

/-- No constant is nearer to some values than their mean, and no other one is as near. -/
theorem eq_mean_of_nearest [LinearOrder α] [IsStrictOrderedRing α] (some : n ≠ 0)
    {values : Fin n → α} {t : α}
    (nearest : (fun j => t - values j) ⬝ᵥ (fun j => t - values j) ≤
      (fun j => mean values - values j) ⬝ᵥ fun j => mean values - values j) :
    t = mean values := by
  have orthogonal : (fun j => mean values - values j) ⬝ᵥ (fun _ => t - mean values) = 0 := by
    rw [dotProduct, ← Finset.sum_mul, sum_mean_sub some, zero_mul]
  have split := dotProduct_self_add orthogonal
  have shifted : ((fun j => mean values - values j) + fun _ => t - mean values) =
      fun j => t - values j := by
    funext j
    simp only [Pi.add_apply]
    ring
  rw [shifted] at split
  rw [split, add_le_iff_nonpos_right] at nearest
  have same := dotProduct_self_eq_zero.mp (le_antisymm nearest (dotProduct_self_nonneg _))
  exact sub_eq_zero.mp (congrFun same ⟨0, Nat.pos_of_ne_zero some⟩)

end Mean

namespace ComponentSystem

structure NearestSolution [LE α] (system : ComponentSystem α)
    (start found : Vector α system.width) : Prop where
  solves : (system.residual found).get = 0
  nearest : ∀ other : Vector α system.width, (system.residual other).get = 0 →
    (found.get - start.get) ⬝ᵥ (found.get - start.get) ≤
      (other.get - start.get) ⬝ᵥ (other.get - start.get)

/-- A search stays at the start or takes one step to the nearest solution. -/
structure StepsToNearest [LE α] (system : ComponentSystem α) (start : Vector α system.width)
    (solution : Solution system.width α) : Prop where
  steps_le : solution.steps ≤ 1
  unmoved : solution.steps = 0 → solution.assignment = start
  nearest : solution.steps = 1 → system.NearestSolution start solution.assignment

theorem get_zipWith_add {n : Nat} (v w : Vector α n) :
    (v.zipWith (· + ·) w).get = v.get + w.get := by
  funext j
  exact Vector.getElem_zipWith j.isLt

theorem get_eq_zero_iff {n : Nat} {v : Vector α n} : v.get = 0 ↔ ∀ r ∈ v.toList, r = 0 := by
  constructor
  · intro zero r listed
    obtain ⟨i, bound, same⟩ := Vector.mem_iff_getElem.mp (Vector.mem_toList_iff.mp listed)
    rw [← same]
    exact congrFun zero ⟨i, bound⟩
  · intro all
    funext i
    exact all _ (Vector.mem_toList_iff.mpr (Vector.getElem_mem i.isLt))

theorem residual_eq_zero_iff {constraints : List (Constraint UnknownId α)}
    {assignment : Vector α (ofConstraints constraints).width} (value : UnknownId → α)
    (agree : ∀ j, value ((ofConstraints constraints).columns.get j) = assignment.get j) :
    ((ofConstraints constraints).residual assignment).get = 0 ↔
      ∀ c ∈ constraints, c.residual value = 0 := by
  rw [get_eq_zero_iff, residual_ofConstraints constraints assignment value agree,
    List.forall_mem_map]

variable [LinearOrder α] [IsStrictOrderedRing α] {system : ComponentSystem α}
  {start : Vector α system.width}

theorem IsLinear.nearest_of_step (linear : system.IsLinear) {step : Vector α system.width}
    (shortest : IsShortestLeastSquares (system.jacobian start).toMatrix (system.residual start).get
      step.get)
    (solvable : ∃ solution, (system.residual solution).get = 0) :
    system.NearestSolution start (start.zipWith (· + ·) step) := by
  have leaves (other : Vector α system.width) :
      remainder (system.jacobian start).toMatrix (system.residual start).get
          (other.get - start.get) = (system.residual other).get := by
    have further : (Vector.ofFn (other.get - start.get)).get = other.get - start.get :=
      funext fun j => get_ofFn _ j
    rw [← further]
    apply linear.remainder_eq
    rw [further, add_sub_cancel]
  have moves : (start.zipWith (· + ·) step).get - start.get = step.get := by
    rw [get_zipWith_add, add_sub_cancel_left]
  obtain ⟨solution, solves⟩ := solvable
  constructor
  · rw [← leaves, moves]
    exact shortest.remainder_eq_zero ((leaves solution).trans solves)
  · intro other alsoSolves
    rw [moves]
    exact shortest.le_of_solves ((leaves other).trans alsoSolves)

variable [Precision α] {decompose : Decomposition α} {settings : Settings α}

omit [IsStrictOrderedRing α] in
theorem error_le_of_solves (nonnegative : 0 ≤ settings.tolerance)
    {solution : Vector α system.width} (solves : (system.residual solution).get = 0) :
    system.error solution ≤ settings.tolerance := by
  apply error_le_iff.mpr
  constructor
  · exact nonnegative
  · intro r listed
    rw [get_eq_zero_iff.mp solves r listed]
    apply Or.inl
    rwa [magnitude, if_neg (lt_irrefl 0)]

/-- A linear system that has a solution is solved at the start or by the first step. -/
theorem IsLinear.refine_eq_ok (linear : system.IsLinear)
    (exact : StepsExactly decompose (system.jacobian start) (system.residual start))
    (solvable : ∃ solution, (system.residual solution).get = 0)
    (rounds : 2 ≤ settings.budget) (nonnegative : 0 ≤ settings.tolerance) :
    ∃ solution, system.refine decompose settings start = .ok solution ∧
      system.StepsToNearest start solution := by
  by_cases small : system.error start ≤ settings.tolerance
  · refine ⟨⟨0, start⟩, refine_eq_of_error_le decompose (by omega) small, Nat.zero_le 1,
      fun _ => rfl, ?_⟩
    intro impossible
    cases impossible
  · obtain ⟨step, found, shortest⟩ := exact
    have nearest := linear.nearest_of_step shortest solvable
    have next : system.next? decompose start = some (start.zipWith (· + ·) step) := by
      rw [next?, found, Option.map_some]
    have arrives : system.AcceptsAt decompose settings.tolerance 0 (start.zipWith (· + ·) step)
        (start.zipWith (· + ·) step) :=
      acceptsAt_zero_iff.mpr ⟨rfl, error_le_of_solves nonnegative nearest.solves⟩
    refine ⟨⟨1, start.zipWith (· + ·) step⟩, refine_eq_ok_iff.mpr ⟨rounds, ?_⟩, Nat.le_refl 1, ?_,
      fun _ => nearest⟩
    · exact acceptsAt_succ_iff.mpr ⟨small, _, next, arrives⟩
    · intro impossible
      cases impossible

end ComponentSystem

theorem Constraint.IsLinear.uniform {ι : Type} {c : Constraint ι α} (linear : c.IsLinear)
    {value : ι → α} (holds : c.residual value = 0) :
    ∀ id ∈ c.unknowns, ∀ other ∈ c.unknowns, value id = value other := by
  intro id mentions other otherMentions
  cases linear with
  | fixed unknown expected =>
      rw [List.mem_singleton.mp mentions, List.mem_singleton.mp otherMentions]
  | equal a b =>
      have same : value a = value b := sub_eq_zero.mp holds
      have toSecond : ∀ unknown ∈ [a, b], value unknown = value b := by simp [same]
      exact (toSecond id mentions).trans (toSecond other otherMentions).symm

section Blocks

variable {constraints : List (Constraint UnknownId α)} {block : Block α}
  {start found : Vector α (ComponentSystem.ofConstraints block.constraints).width}
  {value : UnknownId → α}

theorem constant_of_solves (member : block ∈ blocks constraints)
    (linear : ∀ c ∈ block.constraints, c.IsLinear)
    (solves : ∀ c ∈ block.constraints, c.residual value = 0) {id other : UnknownId}
    (inBlock : id ∈ block.unknowns) (otherInBlock : other ∈ block.unknowns) :
    value id = value other := by
  apply constant_on_block constraints member _ inBlock otherInBlock
  intro c listed
  exact (linear c listed).uniform (solves c listed)

theorem eq_fixed_of_solves (member : block ∈ blocks constraints)
    (linear : ∀ c ∈ block.constraints, c.IsLinear)
    (solves : ∀ c ∈ block.constraints, c.residual value = 0) {unknown : UnknownId} {expected : α}
    (fixed : .fixed unknown expected ∈ block.constraints) {id : UnknownId}
    (inBlock : id ∈ block.unknowns) : value id = expected := by
  have fixedInBlock : unknown ∈ block.unknowns :=
    mem_mentioned.mpr ⟨_, fixed, List.mem_singleton_self unknown⟩
  rw [constant_of_solves member linear solves inBlock fixedInBlock]
  exact sub_eq_zero.mp (solves _ fixed)

/-- Without fixed unknowns every constant is a solution, so the nearest one is the mean. -/
theorem eq_mean_of_nearestSolution [LinearOrder α] [IsStrictOrderedRing α]
    (member : block ∈ blocks constraints) (linear : ∀ c ∈ block.constraints, c.IsLinear)
    (nearest : (ComponentSystem.ofConstraints block.constraints).NearestSolution start found)
    (agree : ∀ j, value (block.unknowns.get j) = found.get j)
    (free : ∀ unknown expected, .fixed unknown expected ∉ block.constraints) {id : UnknownId}
    (inBlock : id ∈ block.unknowns) : value id = mean start.get := by
  have solves := (ComponentSystem.residual_eq_zero_iff value agree).mp nearest.solves
  have nonempty : block.unknowns.length ≠ 0 :=
    mt List.eq_nil_of_length_eq_zero (unknowns_ne_nil_of_block constraints member)
  have isConstant (j : Fin (ComponentSystem.ofConstraints block.constraints).width) :
      found.get j = value id :=
    (agree j).symm.trans (constant_of_solves member linear solves (List.get_mem _ j) inBlock)
  have constantSolves : ((ComponentSystem.ofConstraints block.constraints).residual
      (Vector.ofFn fun _ => mean start.get)).get = 0 := by
    apply (ComponentSystem.residual_eq_zero_iff (fun _ => mean start.get) fun j =>
      (get_ofFn (fun _ => mean start.get) j).symm).mpr
    intro c listed
    cases linear c listed with
    | fixed unknown expected => exact absurd listed (free unknown expected)
    | equal a b => exact sub_self _
  have asNear := nearest.nearest _ constantSolves
  have isFound : found.get - start.get = fun j => value id - start.get j := by
    funext j
    rw [Pi.sub_apply, isConstant]
  have isMean : (Vector.ofFn fun _ => mean start.get).get - start.get =
      fun j => mean start.get - start.get j := by
    funext j
    rw [Pi.sub_apply, get_ofFn]
  rw [isFound, isMean] at asNear
  exact eq_mean_of_nearest nonempty asNear

variable {arena left : Arena α}

def Block.meanIn (block : Block α) (arena : Arena α) : α :=
  (block.unknowns.map arena.reading).sum / block.unknowns.length

theorem Block.mean_read (known : arena.Contains block.unknowns) :
    mean (arena.read block.unknowns known).get = block.meanIn arena := by
  have listed := Fin.sum_univ_fun_getElem block.unknowns arena.reading
  rw [mean, meanIn, ← listed]
  congr 1
  apply Finset.sum_congr rfl
  intro j _
  exact (Arena.reading_eq (Arena.get_read arena block.unknowns known j)).symm

/-- What became of a block that took at most one step. If it took one, all its unknowns have the
value that is fixed, or their mean before if none is. -/
structure Block.SettlesAs (block : Block α) (arena left : Arena α) (report : ComponentReport) :
    Prop where
  positions_eq : report.positions = block.positions
  steps_le : report.steps ≤ 1
  unmoved : report.steps = 0 → ∀ id ∈ block.unknowns, left.value? id = arena.value? id
  fixed : report.steps = 1 → ∀ unknown expected, .fixed unknown expected ∈ block.constraints →
    ∀ id ∈ block.unknowns, left.value? id = some expected
  mean : report.steps = 1 → (∀ unknown expected, .fixed unknown expected ∉ block.constraints) →
    ∀ id ∈ block.unknowns, left.value? id = some (block.meanIn arena)

/-- A block with a constraint that did not hold at first has taken its step. -/
theorem Block.SettlesAs.steps_eq_one {report : ComponentReport}
    (settles : block.SettlesAs arena left report) {c : Constraint UnknownId α}
    (inBlock : c ∈ block.constraints) (holds : c.residual left.reading = 0)
    (heldNot : c.residual arena.reading ≠ 0) : report.steps = 1 := by
  rcases Nat.le_one_iff_eq_zero_or_eq_one.mp settles.steps_le with noStep | oneStep
  · have same : c.residual arena.reading = c.residual left.reading := by
      apply c.residual_congr
      intro id mentions
      have member : id ∈ block.unknowns := mem_mentioned.mpr ⟨c, inBlock, mentions⟩
      rw [Arena.reading, Arena.reading, settles.unmoved noStep id member]
    exact absurd (same.trans holds) heldNot
  · exact oneStep

variable [LinearOrder α] [IsStrictOrderedRing α]

theorem settlesAs_of_solution (member : block ∈ blocks constraints)
    (linear : ∀ c ∈ block.constraints, c.IsLinear) (known : arena.Contains block.unknowns)
    {solution : Solution (ComponentSystem.ofConstraints block.constraints).width α}
    (steps : (ComponentSystem.ofConstraints block.constraints).StepsToNearest
      (arena.read block.unknowns known) solution)
    (holds : ∀ j, left.value? (block.unknowns.get j) = some (solution.assignment.get j)) :
    block.SettlesAs arena left
      (⟨block.positions, ComponentSystem.ofConstraints block.constraints, solution⟩ :
        SolvedBlock α).report := by
  have agree (j : Fin block.unknowns.length) :
      left.reading (block.unknowns.get j) = solution.assignment.get j := Arena.reading_eq (holds j)
  have isRead {id : UnknownId} (inBlock : id ∈ block.unknowns) :
      left.value? id = some (left.reading id) := by
    obtain ⟨j, same⟩ := List.get_of_mem inBlock
    rw [← same, agree, holds]
  constructor
  · rfl
  · exact steps.steps_le
  · intro noStep id inBlock
    obtain ⟨j, same⟩ := List.get_of_mem inBlock
    rw [← same, holds, steps.unmoved noStep]
    exact (Arena.get_read arena block.unknowns known j).symm
  · intro oneStep unknown expected fixed id inBlock
    have solves := (ComponentSystem.residual_eq_zero_iff _ agree).mp (steps.nearest oneStep).solves
    rw [isRead inBlock, eq_fixed_of_solves member linear solves fixed inBlock]
  · intro oneStep free id inBlock
    have isMean :=
      eq_mean_of_nearestSolution member linear (steps.nearest oneStep) agree free inBlock
    rw [isRead inBlock, isMean]
    exact congrArg some (Block.mean_read known)

variable [Precision α] {decompose : Decomposition α} {settings : Settings α}

/-- From the values in an arena, the step of a block is the shortest least-squares step. -/
def Block.StepsExactlyIn (decompose : Decomposition α) (block : Block α) (arena : Arena α) : Prop :=
  ∀ known : arena.Contains block.unknowns,
    StepsExactly decompose
      ((ComponentSystem.ofConstraints block.constraints).jacobian
        (arena.read block.unknowns known))
      ((ComponentSystem.ofConstraints block.constraints).residual
        (arena.read block.unknowns known))

theorem solveBlock_linear (linear : ∀ c ∈ block.constraints, c.IsLinear)
    (consistent : ∃ value, ∀ c ∈ block.constraints, c.residual value = 0)
    (known : arena.Contains block.unknowns) (exact : block.StepsExactlyIn decompose arena)
    (rounds : 2 ≤ settings.budget) (nonnegative : 0 ≤ settings.tolerance) :
    ∃ solution : Solution (ComponentSystem.ofConstraints block.constraints).width α,
      solveBlock decompose settings block arena =
        .ok ⟨block.positions, ComponentSystem.ofConstraints block.constraints, solution⟩ ∧
      (ComponentSystem.ofConstraints block.constraints).StepsToNearest
        (arena.read block.unknowns known) solution := by
  have solvable : ∃ assignment,
      ((ComponentSystem.ofConstraints block.constraints).residual assignment).get = 0 := by
    obtain ⟨value, solves⟩ := consistent
    refine ⟨Vector.ofFn fun j => value (block.unknowns.get j), ?_⟩
    apply (ComponentSystem.residual_eq_zero_iff value fun j => ?_).mpr solves
    exact (get_ofFn (fun j => value (block.unknowns.get j)) j).symm
  obtain ⟨solution, found, steps⟩ :=
    (ComponentSystem.isLinear_ofConstraints linear).refine_eq_ok (exact known) solvable rounds
      nonnegative
  exact ⟨solution, solveBlock_eq_ok_iff.mpr ⟨known, solution, found, rfl⟩, steps⟩

end Blocks

/-- With tolerance zero, a constraint passes only if it holds exactly. -/
theorem residual_eq_zero_of_passesIn [LinearOrder α] [IsStrictOrderedRing α] [Precision α]
    {c : Constraint UnknownId α} {arena : Arena α} (passes : c.PassesIn arena 0) :
    c.residual arena.reading = 0 := by
  obtain ⟨r, measured, small⟩ := passes
  rw [Constraint.residualIn?_eq] at measured
  obtain ⟨_, same⟩ := Option.ite_none_right_eq_some.mp measured
  rw [Option.some.inj same]
  rcases small with small | notNumber
  · unfold magnitude at small
    split at small
    · rename_i negative
      exact absurd (neg_nonpos.mp small) (not_le_of_gt negative)
    · rename_i notNegative
      exact le_antisymm small (not_lt.mp notNegative)
  · exact absurd (le_refl r) notNumber.1

section Rows

noncomputable instance instPrecisionReal : Precision ℝ where
  epsilon := 1 / 2 ^ 52
  -- Every real is a number, so no size stands for one that is not.
  infinity := 0
  sqrt := Real.sqrt

noncomputable def oneFactors : SingularValues 1 1 ℝ where
  left := DenseMatrix.ofFn fun _ _ => 1
  values := Vector.replicate _ 1
  right := DenseMatrix.ofFn fun _ _ => 1

/-- Factors of the matrix with the one row 1, -1. Its only singular value is the root of two. -/
noncomputable def differenceFactors : SingularValues 1 2 ℝ where
  left := DenseMatrix.ofFn fun _ _ => 1
  values := Vector.replicate _ (Real.sqrt 2)
  right := DenseMatrix.ofFn fun j k =>
    if j = 1 ∧ k = 0 then -(Real.sqrt 2)⁻¹ else (Real.sqrt 2)⁻¹

theorem oneFactors_factors {matrix : DenseMatrix 1 1 ℝ} (entries : matrix.toMatrix = !![1]) :
    oneFactors.Factors matrix := by
  constructor
  · constructor
    · ext i j
      fin_cases i
      fin_cases j
      simp [oneFactors, DenseMatrix.toMatrix, mul_apply]
    · ext i j
      fin_cases i
      fin_cases j
      simp [oneFactors, DenseMatrix.toMatrix, mul_apply]
  · intro k
    simp [oneFactors, Vector.get]
  · rw [entries]
    ext i j
    rw [SingularValues.entry_product]
    change ∑ k : Fin 1, _ = _
    rw [Fin.sum_univ_one]
    fin_cases i
    fin_cases j
    simp [oneFactors, Vector.get]

theorem differenceFactors_factors {matrix : DenseMatrix 1 2 ℝ}
    (entries : matrix.toMatrix = !![1, -1]) : differenceFactors.Factors matrix := by
  have root : Real.sqrt 2 ≠ 0 := by norm_num
  have half : (Real.sqrt 2)⁻¹ * (Real.sqrt 2)⁻¹ = (2 : ℝ)⁻¹ := by
    rw [← mul_inv, Real.mul_self_sqrt (by norm_num)]
  constructor
  · constructor
    · ext i j
      fin_cases i
      fin_cases j
      simp [differenceFactors, DenseMatrix.toMatrix, mul_apply]
    · ext i j
      fin_cases i <;> fin_cases j <;>
        norm_num [differenceFactors, DenseMatrix.toMatrix, mul_apply, half]
  · intro k
    simp [differenceFactors, Vector.get]
  · rw [entries]
    ext i j
    rw [SingularValues.entry_product]
    change ∑ k : Fin 1, _ = _
    rw [Fin.sum_univ_one]
    fin_cases i
    fin_cases j <;> simp [differenceFactors, Vector.get, SingularValues.rightIndex, root]

theorem cutoff_lt_oneFactors (k : Fin (min 1 1)) :
    oneFactors.cutoff < oneFactors.values.get k := by
  norm_num [oneFactors, SingularValues.cutoff, Vector.get, largest, larger, Precision.epsilon]

theorem cutoff_lt_differenceFactors (k : Fin (min 1 2)) :
    differenceFactors.cutoff < differenceFactors.values.get k := by
  have root : 0 < Real.sqrt 2 := by norm_num
  norm_num [differenceFactors, SingularValues.cutoff, Vector.get, largest, larger,
    Precision.epsilon, root]

noncomputable def rowFactors : Decomposition ℝ := fun m n _ =>
  match m, n with
  | 1, 1 => some oneFactors
  | 1, 2 => some differenceFactors
  | _, _ => none

theorem stepsExactly_one {matrix : DenseMatrix 1 1 ℝ} (entries : matrix.toMatrix = !![1])
    (residual : Vector ℝ 1) : StepsExactly rowFactors matrix residual := by
  apply stepsExactly_of_factors one_ne_zero one_ne_zero rfl (oneFactors_factors entries)
  intro k small
  exact absurd (cutoff_lt_oneFactors k) (not_lt_of_ge small)

theorem stepsExactly_difference {matrix : DenseMatrix 1 2 ℝ}
    (entries : matrix.toMatrix = !![1, -1]) (residual : Vector ℝ 1) :
    StepsExactly rowFactors matrix residual := by
  apply stepsExactly_of_factors one_ne_zero two_ne_zero rfl (differenceFactors_factors entries)
  intro k small
  exact absurd (cutoff_lt_differenceFactors k) (not_lt_of_ge small)

abbrev equalAndFixed : List (Constraint UnknownId ℝ) := [.equal 0 1, .fixed 2 5]

theorem components_equalAndFixed :
    components equalAndFixed = [[⟨0, Nat.succ_pos 1⟩], [⟨1, Nat.lt_succ_self 1⟩]] := by
  rw [components_eq]
  cbv

theorem blocks_equalAndFixed :
    blocks equalAndFixed = [[(0, .equal 0 1)], [(1, .fixed 2 5)]] := by
  rw [blocks, components_equalAndFixed]
  rfl

theorem jacobian_equal (assignment : Vector ℝ 2) :
    ((⟨[0, 1], [.equal ⟨0, Nat.zero_lt_two⟩ ⟨1, Nat.one_lt_two⟩]⟩ :
      ComponentSystem ℝ).jacobian assignment).toMatrix = !![1, -1] := by
  ext i j
  fin_cases i
  fin_cases j <;>
    simp [DenseMatrix.toMatrix, DenseMatrix.entry, ComponentSystem.jacobian, Constraint.gradient]

theorem jacobian_fixed (assignment : Vector ℝ 1) :
    ((⟨[2], [.fixed ⟨0, Nat.zero_lt_one⟩ 5]⟩ :
      ComponentSystem ℝ).jacobian assignment).toMatrix = !![1] := by
  ext i j
  fin_cases i
  fin_cases j
  simp [DenseMatrix.toMatrix, DenseMatrix.entry, ComponentSystem.jacobian, Constraint.gradient]

end Rows

/-- In exact arithmetic a system that only fixes unknowns and makes them equal is solved if it has a
solution at all. Each component takes at most one step, and the step takes all its unknowns to the
value that is fixed, or to the mean of where they were if none is. -/
theorem linear_system_takes_one_step [LinearOrder α] [IsStrictOrderedRing α] [Precision α]
    {decompose : Decomposition α} {settings : Settings α}
    {constraints : List (Constraint UnknownId α)} {arena : Arena α}
    (linear : ∀ c ∈ constraints, c.IsLinear)
    (consistent : ∃ value, ∀ c ∈ constraints, c.residual value = 0)
    (known : ∀ c ∈ constraints, arena.Contains c.unknowns)
    (rounds : 2 ≤ settings.budget) (nonnegative : 0 ≤ settings.tolerance)
    (exact : ∀ block ∈ blocks constraints, block.StepsExactlyIn decompose arena) :
    ∃ report left, solve decompose settings constraints arena = (.solved report, left) ∧
      List.Forall₂ (fun block component => block.SettlesAs arena left component)
        (blocks constraints) report.components := by
  have walks := components_walksTo decompose settings constraints arena
  have linearIn {block : Block α} (member : block ∈ blocks constraints) :
      ∀ c ∈ block.constraints, c.IsLinear := by
    intro c listed
    exact linear c (mem_of_mem_block constraints member listed)
  have solvesBlock (block : Block α) (member : block ∈ blocks constraints) := by
    have consistentIn : ∃ value, ∀ c ∈ block.constraints, c.residual value = 0 := by
      obtain ⟨value, solves⟩ := consistent
      exact ⟨value, fun c listed => solves c (mem_of_mem_block constraints member listed)⟩
    exact solveBlock_linear (linearIn member) consistentIn
      (contains_of_mem_blocks constraints known member) (exact block member) rounds nonnegative
  have complete : (walk decompose settings (blocks constraints) arena).halt = none := by
    apply walks.halt_eq_none_iff.mpr
    intro block member
    obtain ⟨solution, solves, _⟩ := solvesBlock block member
    exact ⟨_, solves⟩
  refine ⟨_, _, solve_eq_solved_iff.mpr ⟨complete, rfl, rfl⟩, ?_⟩
  rw [List.forall₂_map_right_iff]
  apply walks.forall₂_solved complete
  intro block member solved listed solves
  obtain ⟨solution, alsoSolves, steps⟩ := solvesBlock block member
  cases alsoSolves.symm.trans solves
  have knownIn := contains_of_mem_blocks constraints known member
  apply settlesAs_of_solution member (linearIn member) knownIn steps
  exact walks.value?_of_solved (separate_blocks constraints) listed (nodup_mentioned _) knownIn

theorem equal_and_fixed_unknowns_settle :
    ∃ report left, solve rowFactors ⟨2, 0⟩ equalAndFixed (Arena.ofValues [1, 4, 3]) =
        (.solved report, left) ∧
      left.value? 0 = some (5 / 2) ∧ left.value? 1 = some (5 / 2) ∧ left.value? 2 = some 5 := by
  have linear : ∀ c ∈ equalAndFixed, c.IsLinear := by
    simp only [List.forall_mem_cons, List.not_mem_nil, false_imp_iff, implies_true, and_true]
    exact ⟨.equal 0 1, .fixed 2 5⟩
  have consistent : ∃ value, ∀ c ∈ equalAndFixed, c.residual value = 0 := by
    refine ⟨fun _ => 5, ?_⟩
    simp [Constraint.residual]
  have known : ∀ c ∈ equalAndFixed, (Arena.ofValues [1, 4, (3 : ℝ)]).Contains c.unknowns := by
    simp [Arena.Contains, Constraint.unknowns, Arena.size, Arena.ofValues]
  have exact : ∀ block ∈ blocks equalAndFixed,
      block.StepsExactlyIn rowFactors (Arena.ofValues [1, 4, 3]) := by
    rw [blocks_equalAndFixed]
    simp only [List.forall_mem_cons, List.not_mem_nil, false_imp_iff, implies_true, and_true]
    constructor
    · intro known
      exact stepsExactly_difference (jacobian_equal _) _
    · intro known
      exact stepsExactly_one (jacobian_fixed _) _
  have nonnegative : 0 ≤ (⟨2, 0⟩ : Settings ℝ).tolerance := le_refl 0
  obtain ⟨report, left, solved, settles⟩ :=
    linear_system_takes_one_step linear consistent known (Nat.le_refl 2) nonnegative exact
  obtain ⟨complete, _, leaves⟩ := solve_eq_solved_iff.mp solved
  have holds : ∀ c ∈ equalAndFixed, c.residual left.reading = 0 := by
    intro c member
    rw [← leaves]
    exact residual_eq_zero_of_passesIn (passesIn_of_halt_none complete member)
  rw [blocks_equalAndFixed] at settles
  obtain ⟨_, _, first, later, _⟩ := List.forall₂_cons_left_iff.mp settles
  obtain ⟨_, _, second, _, _⟩ := List.forall₂_cons_left_iff.mp later
  have firstMoves := first.steps_eq_one List.mem_cons_self (holds _ List.mem_cons_self) (by
    change (1 : ℝ) - 4 ≠ 0
    norm_num)
  have secondMoves := second.steps_eq_one List.mem_cons_self
    (holds _ (List.mem_cons_of_mem _ List.mem_cons_self)) (by
      change (3 : ℝ) - 5 ≠ 0
      norm_num)
  have isMean : Block.meanIn [(0, .equal 0 1)] (Arena.ofValues [1, 4, (3 : ℝ)]) = 5 / 2 := by
    change ([1, 4].sum : ℝ) / ((2 : Nat) : ℝ) = 5 / 2
    norm_num
  have free : ∀ unknown (expected : ℝ), .fixed unknown expected ∉
      Block.constraints [(0, .equal 0 1)] := by
    simp [Block.constraints]
  refine ⟨report, left, solved, ?_, ?_, ?_⟩
  · rw [first.mean firstMoves free 0 List.mem_cons_self, isMean]
  · rw [first.mean firstMoves free 1 (List.mem_cons_of_mem 0 List.mem_cons_self), isMean]
  · exact second.fixed secondMoves 2 5 List.mem_cons_self 2 List.mem_cons_self

end Drafting
