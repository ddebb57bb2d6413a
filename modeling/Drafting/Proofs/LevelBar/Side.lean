import Drafting.Proofs.LeastSquares.Existence
import Drafting.Proofs.LeastSquares.Values
import Drafting.Proofs.LevelBar

/-!
# The free end stays on its side

All constraints of a level bar form one block. So what each step of this block keeps, a solve keeps, and
the free end of the bar is found on the side of the pinned end on which it was guessed.
-/

namespace Drafting

open Matrix

open Guarded (valueIn valueIn_columns)

section Solve

variable {α : Type} [Field α] {constraints : List (Constraint UnknownId α)} {arena : Arena α}
  {a b : Point UnknownId} {u v d : α}

theorem ComponentSystem.reach_eq {system : ComponentSystem α} {x : Vector α system.width}
    (holds : ∀ j, arena.value? (system.columns.get j) = some (x.get j))
    (first : a.x ∈ system.columns) (second : b.x ∈ system.columns) :
    system.reach a b x = arena.reading b.x - arena.reading a.x := by
  rw [reach, valueIn_eq_reading holds first, valueIn_eq_reading holds second]

omit [Field α] in
/-- The length of a bar is a matter of all its unknowns, so its constraint shares one with each of the
others. -/
theorem IsLevelBar.exists_length (bar : IsLevelBar a b u v d constraints) :
    ∃ length ∈ constraints, (∀ id ∈ [a.x, a.y, b.x, b.y], id ∈ length.unknowns) ∧
      ∀ other ∈ constraints, ∃ id ∈ other.unknowns, id ∈ length.unknowns := by
  obtain ⟨level, isLevel, length, isLength, perm⟩ := bar
  have mentions : ∀ id ∈ [a.x, a.y, b.x, b.y], id ∈ length.unknowns := by
    rcases List.mem_pair.mp isLength with same | same <;> rw [same] <;>
      simp [Constraint.unknowns, Point.coordinates]
  have levelMentions : a.y ∈ level.unknowns := by
    rcases List.mem_pair.mp isLevel with same | same <;> rw [same] <;>
      simp [Constraint.horizontal, Constraint.unknowns]
  refine ⟨length, perm.mem_iff.mpr (by simp), mentions, ?_⟩
  simp only [perm.mem_iff, List.forall_mem_cons, List.not_mem_nil, false_imp_iff, implies_true,
    and_true]
  refine ⟨⟨a.x, List.mem_singleton_self _, ?_⟩, ⟨a.y, List.mem_singleton_self _, ?_⟩,
    ⟨a.y, levelMentions, ?_⟩, ⟨a.x, ?_, ?_⟩⟩ <;> exact mentions _ (by simp)

omit [Field α] in
theorem IsLevelBar.exists_single_block (bar : IsLevelBar a b u v d constraints) :
    ∃ block, blocks constraints = [block] ∧ block.constraints.Perm constraints := by
  obtain ⟨length, isConstraint, _, touches⟩ := bar.exists_length
  exact exists_blocks_eq_singleton constraints isConstraint touches

omit [Field α] in
theorem IsLevelBar.columns_perm (bar : IsLevelBar a b u v d constraints)
    (distinct : [a.x, a.y, b.x, b.y].Nodup) :
    (ComponentSystem.ofConstraints constraints).columns.Perm [a.x, a.y, b.x, b.y] := by
  have allEnds : ∀ c ∈ constraints, ∀ id ∈ c.unknowns, id ∈ [a.x, a.y, b.x, b.y] := by
    obtain ⟨level, isLevel, length, isLength, perm⟩ := bar
    simp only [perm.mem_iff, List.forall_mem_cons, List.not_mem_nil, false_imp_iff, implies_true,
      and_true]
    refine ⟨by simp [Constraint.unknowns], by simp [Constraint.unknowns], ?_, ?_⟩
    · rcases List.mem_pair.mp isLevel with same | same <;> rw [same] <;>
        simp [Constraint.horizontal, Constraint.unknowns]
    · rcases List.mem_pair.mp isLength with same | same <;> rw [same] <;>
        simp [Constraint.unknowns, Point.coordinates]
  apply (List.perm_ext_iff_of_nodup (nodup_mentioned constraints) distinct).mpr
  intro id
  constructor
  · intro listed
    obtain ⟨c, member, inUnknowns⟩ := mem_mentioned.mp listed
    exact allEnds c member id inUnknowns
  · intro isEnd
    obtain ⟨length, isConstraint, mentions, _⟩ := bar.exists_length
    exact mem_mentioned.mpr ⟨length, isConstraint, mentions id isEnd⟩

variable [LinearOrder α] [IsStrictOrderedRing α] [Precision α] {decompose : Decomposition α}

/-- If each step is the shortest least-squares step, the free end of a level bar stays on the side of the
pinned end on which it was guessed, at all assignments that the steps lead through. From the first step
on the bar is pinned and level, it is at least as long as it is to be, and it never gets longer again. So
a solve that succeeds leaves the free end on the side on which it was guessed. -/
theorem side_follows_guess (bar : IsLevelBar a b u v d constraints)
    (distinct : [a.x, a.y, b.x, b.y].Nodup) (apart : arena.reading b.x ≠ arena.reading a.x)
    (exact : ∀ block ∈ blocks constraints, ∀ known : arena.Contains block.unknowns,
      (ComponentSystem.ofConstraints block.constraints).StepsExactlyFrom decompose
        (arena.read block.unknowns known)) :
    ∃ block, blocks constraints = [block] ∧ block.constraints.Perm constraints ∧
      (∀ known : arena.Contains block.unknowns,
        (ComponentSystem.ofConstraints block.constraints).KeepsSide decompose a b u v d
          (arena.read block.unknowns known)) ∧
      ∀ settings report left, solve decompose settings constraints arena = (.solved report, left) →
        0 < (left.reading b.x - left.reading a.x) * (arena.reading b.x - arena.reading a.x) := by
  obtain ⟨block, single, perm⟩ := bar.exists_single_block
  have listed : block ∈ blocks constraints := single ▸ List.mem_cons_self
  have columns := (bar.perm perm).columns_perm distinct
  have first : a.x ∈ block.unknowns := columns.mem_iff.mpr (by simp)
  have second : b.x ∈ block.unknowns := columns.mem_iff.mpr (by simp)
  have guessed (known : arena.Contains block.unknowns) :
      (ComponentSystem.ofConstraints block.constraints).reach a b
          (arena.read block.unknowns known) = arena.reading b.x - arena.reading a.x :=
    ComponentSystem.reach_eq (Arena.get_read arena block.unknowns known) first second
  have keeps (known : arena.Contains block.unknowns) :
      (ComponentSystem.ofConstraints block.constraints).KeepsSide decompose a b u v d
        (arena.read block.unknowns known) := by
    apply ComponentSystem.keepsSide (bar.perm perm) distinct (exact block listed known)
    rw [guessed]
    exact sub_ne_zero.mpr apart
  refine ⟨block, single, perm, keeps, ?_⟩
  intro settings report left solved
  obtain ⟨known, solution, refined, holds⟩ := exists_refine_of_solved solved listed
  have accepts := (ComponentSystem.refine_eq_ok_iff.mp refined).2
  have sameSide := (keeps known).same_side _ _ accepts.reached
  rwa [guessed, ComponentSystem.reach_eq holds first second] at sameSide

end Solve

section Exactness

variable {constraints : List (Constraint UnknownId ℝ)} {a b : Point UnknownId} {u v d : ℝ}
  {value direction : UnknownId → ℝ}

/-- What the rows of a level bar make of a direction. -/
theorem IsLevelBar.sum_along_sq (bar : IsLevelBar a b u v d constraints)
    (level : value b.y = value a.y) :
    (constraints.map fun c => along direction (c.gradient value) ^ 2).sum =
      direction a.x ^ 2 + direction a.y ^ 2 + (direction b.y - direction a.y) ^ 2 +
        4 * (value b.x - value a.x) ^ 2 * (direction b.x - direction a.x) ^ 2 := by
  obtain ⟨_, isLevel, _, isLength, perm⟩ := bar
  rw [(perm.map _).sum_eq]
  simp only [List.map_cons, List.map_nil, List.sum_cons, List.sum_nil, along_level_sq isLevel,
    along_length isLength, along_fixed, level]
  ring

namespace ComponentSystem

variable (bar : IsLevelBar a b u v d constraints) (distinct : [a.x, a.y, b.x, b.y].Nodup)

include bar distinct

theorem dotProduct_self_of_bar {w : Fin (ofConstraints constraints).width → ℝ}
    (moves : ∀ j, direction ((ofConstraints constraints).columns.get j) = w j) :
    w ⬝ᵥ w = direction a.x ^ 2 + direction a.y ^ 2 + direction b.x ^ 2 + direction b.y ^ 2 := by
  have listed := Fin.sum_univ_fun_getElem (ofConstraints constraints).columns
    fun id => direction id ^ 2
  rw [((bar.columns_perm distinct).map _).sum_eq] at listed
  simp only [List.map_cons, List.map_nil, List.sum_cons, List.sum_nil, add_zero,
    ← add_assoc] at listed
  rw [← listed]
  apply Finset.sum_congr rfl
  intro j _
  rw [← moves, sq]
  rfl

variable {x : Vector ℝ (ofConstraints constraints).width}
  (level : valueIn (ofConstraints constraints).columns x b.y =
    valueIn (ofConstraints constraints).columns x a.y)

include level

theorem exists_coordinates (w : Fin (ofConstraints constraints).width → ℝ) :
    ∃ p q r s, w ⬝ᵥ w = p ^ 2 + q ^ 2 + r ^ 2 + s ^ 2 ∧
      (((ofConstraints constraints).jacobian x).toMatrix *ᵥ w) ⬝ᵥ
          (((ofConstraints constraints).jacobian x).toMatrix *ᵥ w) =
        p ^ 2 + q ^ 2 + (s - q) ^ 2 +
          4 * (ofConstraints constraints).reach a b x ^ 2 * (r - p) ^ 2 := by
  have moves (j) : valueIn (ofConstraints constraints).columns (Vector.ofFn w)
      ((ofConstraints constraints).columns.get j) = w j :=
    (valueIn_columns constraints _ j).trans (get_ofFn w j)
  refine ⟨_, _, _, _, dotProduct_self_of_bar bar distinct moves, ?_⟩
  rw [jacobian_mulVec_self (valueIn_columns constraints x) moves, bar.sum_along_sq level]
  rfl

theorem le_stretch (long : 1 ≤ (ofConstraints constraints).reach a b x ^ 2)
    (w : Fin (ofConstraints constraints).width → ℝ) :
    1 / 3 * (w ⬝ᵥ w) ≤ (((ofConstraints constraints).jacobian x).toMatrix *ᵥ w) ⬝ᵥ
      (((ofConstraints constraints).jacobian x).toMatrix *ᵥ w) := by
  obtain ⟨p, q, r, s, length, image⟩ := exists_coordinates bar distinct level w
  have scaled := mul_le_mul_of_nonneg_right long (sq_nonneg (r - p))
  rw [length, image]
  nlinarith [sq_nonneg (s - 2 * q), sq_nonneg (r - 2 * p), sq_nonneg (r - p)]

theorem stretch_le (short : (ofConstraints constraints).reach a b x ^ 2 ≤ 10)
    (w : Fin (ofConstraints constraints).width → ℝ) :
    (((ofConstraints constraints).jacobian x).toMatrix *ᵥ w) ⬝ᵥ
      (((ofConstraints constraints).jacobian x).toMatrix *ᵥ w) ≤ 100 * (w ⬝ᵥ w) := by
  obtain ⟨p, q, r, s, length, image⟩ := exists_coordinates bar distinct level w
  have scaled := mul_le_mul_of_nonneg_right short (sq_nonneg (r - p))
  rw [length, image]
  nlinarith [sq_nonneg (s + q), sq_nonneg (r + p), sq_nonneg (r - p)]

/-- Exact factors give the exact step for a bar that is level, not very short and not very long. -/
theorem isShortest_of_reach (long : 1 ≤ (ofConstraints constraints).reach a b x ^ 2)
    (short : (ofConstraints constraints).reach a b x ^ 2 ≤ 10)
    {step : Vector ℝ (ofConstraints constraints).width}
    (found : pseudoInverseStep? exactFactors ((ofConstraints constraints).jacobian x)
      ((ofConstraints constraints).residual x) = some step) :
    IsShortestLeastSquares ((ofConstraints constraints).jacobian x).toMatrix
      ((ofConstraints constraints).residual x).get step.get := by
  have rows : (ofConstraints constraints).height = 4 := by
    obtain ⟨_, _, _, _, perm⟩ := bar
    rw [height_ofConstraints, perm.length_eq]
    rfl
  have columns : (ofConstraints constraints).width = 4 := (bar.columns_perm distinct).length_eq
  have apart : (1 / 2 ^ 52 * ((max (ofConstraints constraints).height
      (ofConstraints constraints).width : Nat) : ℝ)) ^ 2 * 100 < 1 / 3 := by
    rw [rows, columns]
    norm_num
  obtain ⟨s, decomposed, factors, _⟩ :=
    exists_exactFactors ((ofConstraints constraints).jacobian x)
  have exact : StepsExactly exactFactors ((ofConstraints constraints).jacobian x)
      ((ofConstraints constraints).residual x) := by
    apply stepsExactly_of_factors (rows ▸ four_ne_zero) (columns ▸ four_ne_zero) decomposed factors
    intro k below
    have above := factors.cutoff_lt (le_stretch bar distinct level long)
      (stretch_le bar distinct level short) apart k
    exact absurd above (not_lt.mpr below)
  obtain ⟨exactStep, alsoFound, shortest⟩ := exact
  cases found.symm.trans alsoFound
  exact shortest

end ComponentSystem

end Exactness

section Pointing

variable {constraints : List (Constraint UnknownId ℝ)} {a b : Point UnknownId} {u v : ℝ}

/-- A level bar points to the left and is neither very short nor very long. -/
structure PointsLeft (a b : Point UnknownId) (value : UnknownId → ℝ) : Prop where
  level : value b.y = value a.y
  short : -(5 / 2) ≤ value b.x - value a.x
  long : value b.x - value a.x ≤ -1

theorem LandsFrom.pointsLeft {value next : UnknownId → ℝ} (lands : LandsFrom a b u v 2 value next)
    (left : PointsLeft a b value) : PointsLeft a b next := by
  have balance := lands.apart
  obtain ⟨level, short, long⟩ := left
  rw [level, sub_self] at balance
  refine ⟨lands.level.trans lands.pinned_y.symm, ?_, ?_⟩
  · by_contra tooLong
    have negative : value b.x - value a.x < 0 := lt_of_le_of_lt long (by norm_num)
    have beyond : next b.x - next a.x + 5 / 2 < 0 := by linarith
    nlinarith [mul_pos_of_neg_of_neg negative beyond]
  · by_contra tooShort
    have negative : 0 < -(value b.x - value a.x) := by linarith
    have beyond : 0 < next b.x - next a.x + 1 := by linarith
    nlinarith [mul_pos negative beyond, sq_nonneg (value b.x - value a.x + 1)]

namespace ComponentSystem

variable (bar : IsLevelBar a b u v 2 constraints) (distinct : [a.x, a.y, b.x, b.y].Nodup)
  {x y start : Vector ℝ (ofConstraints constraints).width}

include bar distinct

theorem isShortest_of_pointsLeft
    (left : PointsLeft a b (valueIn (ofConstraints constraints).columns x))
    {step : Vector ℝ (ofConstraints constraints).width}
    (found : pseudoInverseStep? exactFactors ((ofConstraints constraints).jacobian x)
      ((ofConstraints constraints).residual x) = some step) :
    IsShortestLeastSquares ((ofConstraints constraints).jacobian x).toMatrix
      ((ofConstraints constraints).residual x).get step.get := by
  obtain ⟨level, short, long⟩ := left
  apply isShortest_of_reach bar distinct level _ _ found
  · rw [reach]
    nlinarith
  · rw [reach]
    nlinarith

theorem pointsLeft_of_iterate
    (left : PointsLeft a b (valueIn (ofConstraints constraints).columns start))
    {i : Nat} (reached : (ofConstraints constraints).iterate? exactFactors i start = some x) :
    PointsLeft a b (valueIn (ofConstraints constraints).columns x) := by
  induction i generalizing x with
  | zero =>
      cases reached
      exact left
  | succ i ih =>
      rw [iterate?_succ] at reached
      obtain ⟨before, reachedBefore, next⟩ := Option.bind_eq_some_iff.mp reached
      have leftBefore := ih reachedBefore
      have apart : (ofConstraints constraints).reach a b before ≠ 0 :=
        (lt_of_le_of_lt leftBefore.long (by norm_num)).ne
      exact (landsFrom_of_next bar distinct next
        (fun _ => isShortest_of_pointsLeft bar distinct leftBefore) apart).pointsLeft leftBefore

theorem stepsExactlyFrom_of_pointsLeft
    (left : PointsLeft a b (valueIn (ofConstraints constraints).columns start)) :
    (ofConstraints constraints).StepsExactlyFrom exactFactors start := by
  constructor
  intro i x step reached
  exact isShortest_of_pointsLeft bar distinct (pointsLeft_of_iterate bar distinct left reached)

end ComponentSystem

abbrev barAtOrigin (length : ℝ) : List (Constraint UnknownId ℝ) :=
  [.fixed 0 0, .fixed 1 0, .horizontal ⟨0, 1⟩ ⟨2, 3⟩, .fixedDistance ⟨0, 1⟩ ⟨2, 3⟩ length]

abbrev leftGuess : Arena ℝ := .ofValues [0, 0, -1, 0]

theorem isLevelBar_barAtOrigin (length : ℝ) :
    IsLevelBar ⟨0, 1⟩ ⟨2, 3⟩ 0 0 length (barAtOrigin length) :=
  ⟨_, List.mem_cons_self, _, List.mem_cons_self, List.Perm.refl _⟩

theorem pointsLeft_leftGuess {block : Block ℝ} (perm : block.constraints.Perm (barAtOrigin 2))
    (known : leftGuess.Contains block.unknowns) :
    PointsLeft ⟨0, 1⟩ ⟨2, 3⟩ (valueIn block.unknowns (leftGuess.read block.unknowns known)) := by
  have columns := ((isLevelBar_barAtOrigin 2).perm perm).columns_perm (by decide)
  have reads (id) (isEnd : id ∈ [0, 1, 2, 3]) :
      valueIn block.unknowns (leftGuess.read block.unknowns known) id = leftGuess.reading id :=
    valueIn_eq_reading (leftGuess.get_read block.unknowns known) (columns.mem_iff.mpr isEnd)
  constructor
  · rw [reads 3 (by decide), reads 1 (by decide)]
    rfl
  · rw [reads 2 (by decide), reads 0 (by decide)]
    change -(5 / 2) ≤ (-1 : ℝ) - 0
    norm_num
  · rw [reads 2 (by decide), reads 0 (by decide)]
    change (-1 : ℝ) - 0 ≤ -1
    norm_num

theorem stepsExactlyFrom_leftGuess {block : Block ℝ} (perm : block.constraints.Perm (barAtOrigin 2))
    (known : leftGuess.Contains block.unknowns) :
    (ComponentSystem.ofConstraints block.constraints).StepsExactlyFrom exactFactors
      (leftGuess.read block.unknowns known) :=
  ComponentSystem.stepsExactlyFrom_of_pointsLeft ((isLevelBar_barAtOrigin 2).perm perm) (by decide)
    (pointsLeft_leftGuess perm known)

theorem exists_iterate_one (system : ComponentSystem ℝ) (start : Vector ℝ system.width) :
    ∃ x, system.iterate? exactFactors 1 start = some x := by
  rw [ComponentSystem.iterate?_succ, ComponentSystem.iterate?, Option.bind_some,
    ComponentSystem.next?, pseudoInverseStep?]
  split
  · exact ⟨_, rfl⟩
  · exact ⟨_, rfl⟩

end Pointing

/-- The first step overshoots to the left, and each solution is found there. -/
theorem left_guess_stays_left :
    [0, 1, 2, 3].Nodup ∧ leftGuess.reading 2 ≠ leftGuess.reading 0 ∧
      ∃ block, blocks (barAtOrigin 2) = [block] ∧
        (∃ (known : leftGuess.Contains block.unknowns) (x : _),
          (ComponentSystem.ofConstraints block.constraints).iterate? exactFactors 1
              (leftGuess.read block.unknowns known) = some x ∧
            (ComponentSystem.ofConstraints block.constraints).reach ⟨0, 1⟩ ⟨2, 3⟩ x ≤ -2) ∧
        ∀ settings report left,
          solve exactFactors settings (barAtOrigin 2) leftGuess = (.solved report, left) →
            left.reading 2 < left.reading 0 := by
  have distinct : [0, 1, 2, 3].Nodup := by decide
  have guess : leftGuess.reading 2 - leftGuess.reading 0 = -1 := by
    change (-1 : ℝ) - 0 = -1
    norm_num
  have apart : leftGuess.reading 2 ≠ leftGuess.reading 0 :=
    sub_ne_zero.mp (guess.trans_ne (by norm_num))
  have exact : ∀ block ∈ blocks (barAtOrigin 2), ∀ known : leftGuess.Contains block.unknowns,
      (ComponentSystem.ofConstraints block.constraints).StepsExactlyFrom exactFactors
        (leftGuess.read block.unknowns known) := by
    obtain ⟨only, single, perm⟩ := (isLevelBar_barAtOrigin 2).exists_single_block
    rw [single]
    intro block listed known
    rw [List.mem_singleton] at listed
    subst listed
    exact stepsExactlyFrom_leftGuess perm known
  obtain ⟨block, single, perm, keeps, sides⟩ :=
    side_follows_guess (isLevelBar_barAtOrigin 2) distinct apart exact
  refine ⟨distinct, apart, block, single, ?_, ?_⟩
  · have known : leftGuess.Contains block.unknowns := by
      have columns := ((isLevelBar_barAtOrigin 2).perm perm).columns_perm distinct
      have inRange : ∀ id ∈ [0, 1, 2, 3], id < leftGuess.size := by
        change ∀ id ∈ [0, 1, 2, 3], id < 4
        decide
      intro id mentions
      exact inRange id (columns.mem_iff.mp mentions)
    obtain ⟨x, reached⟩ := exists_iterate_one
      (ComponentSystem.ofConstraints block.constraints) (leftGuess.read block.unknowns known)
    refine ⟨known, x, reached, ?_⟩
    have inPlace := (keeps known).in_place 1 x le_rfl reached
    have left := ComponentSystem.pointsLeft_of_iterate ((isLevelBar_barAtOrigin 2).perm perm) distinct
      (pointsLeft_leftGuess perm known) reached
    have long := inPlace.long
    rw [abs_of_neg (lt_of_le_of_lt left.long (by norm_num)), abs_two] at long
    exact le_neg_of_le_neg long
  · intro settings report left solved
    have sameSide := sides settings report left solved
    rw [guess] at sameSide
    linarith

end Drafting
