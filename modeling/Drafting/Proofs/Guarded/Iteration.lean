import Drafting.Freedom
import Drafting.GaussNewton
import Drafting.Proofs.Guarded.Equations

/-!
# The guarded search for a solution

The step, the iteration and the analysis of a component read the factors of the matrix of partial
derivatives by row and column. A decomposition gives factors of the right sizes, so no such look-up
fails, and every step has as many entries as there are columns.
-/

namespace Drafting.Guarded

variable {m n : Nat} {α : Type}

section Lists

theorem zipIdx_toList (values : Vector α n) :
    values.toList.zipIdx = (List.finRange n).map fun k => (values.get k, k.val) := by
  apply List.ext_getElem
  · simp
  · intro i _ _
    simp [Vector.get]

theorem range'_eq_drop (k : Nat) :
    List.range' k (n - k) = ((List.finRange n).drop k).map Fin.val := by
  rw [List.map_drop, List.map_coe_finRange_eq_range]
  apply List.ext_getElem
  · simp
  · intro i _ _
    simp

theorem map_fst_filter_zip {β γ : Type} (xs : List β) (value : Fin xs.length → γ)
    (keep : γ → Bool) :
    ((xs.zip ((List.finRange xs.length).map value)).filter fun entry => keep entry.2).map Prod.fst =
      ((List.finRange xs.length).filter fun i => keep (value i)).map xs.get := by
  have paired : xs.zip ((List.finRange xs.length).map value) =
      (List.finRange xs.length).map fun i => (xs.get i, value i) := by
    rw [← List.zip_map', List.map_get_finRange]
  rw [paired, List.filter_map, List.map_map]
  rfl

end Lists

def factorAt (matrix : DenseMatrix m n α) (i j : Nat) : Option α :=
  if inRange : i < m ∧ j < n then some (matrix.entry ⟨i, inRange.1⟩ ⟨j, inRange.2⟩) else none

theorem factorAt_val (matrix : DenseMatrix m n α) (i : Fin m) (j : Fin n) :
    factorAt matrix i.val j.val = some (matrix.entry i j) :=
  dif_pos ⟨i.isLt, j.isLt⟩

section Projection

variable [Add α] [Mul α] [Neg α] [OfNat α 0]

def projection (s : SingularValues m n α) (residual : Vector α m) (k : Nat) : Except Fault α :=
  (List.range m).foldlM (fun sum row => do
    let left ← found .factor (factorAt s.left row k)
    let measured ← found .row residual[row]?
    return sum + left * -measured) 0

theorem projection_eq_ok (s : SingularValues m n α) (residual : Vector α m) (k : Fin (min m n)) :
    projection s residual k.val = .ok (s.projection residual k) := by
  rw [projection, ← List.map_coe_finRange_eq_range, List.foldlM_map]
  apply foldlM_eq_ok id
  intro sum row _
  have left : factorAt s.left row.val k.val =
      some (s.left.entry row (SingularValues.leftIndex k)) :=
    factorAt_val s.left row (SingularValues.leftIndex k)
  rw [left, found_some, ok_bind, Vector.getElem?_eq_getElem row.isLt, found_some, ok_bind]
  rfl

end Projection

variable [Precision α] [NatCast α] [Add α] [Mul α] [Div α] [Neg α] [OfNat α 0]
  [LT α] [DecidableLT α]

section Step

variable [LE α] [DecidableLE α]

def leastSquaresStep (s : SingularValues m n α) (residual : Vector α m) : Except Fault (List α) :=
  s.values.toList.zipIdx.foldlM (fun step (sigma, k) =>
    if sigma ≤ s.cutoff then .ok step
    else do
      let along ← projection s residual k
      let scale := along / sigma
      step.zipIdx.mapM fun (entry, column) => do
        let right ← found .factor (factorAt s.right column k)
        return entry + scale * right) (List.replicate n 0)

def pseudoInverseStep (decompose : Decomposition α) (matrix : DenseMatrix m n α)
    (residual : Vector α m) : Except Fault (Option (List α)) :=
  if m = 0 ∨ n = 0 then .ok (some (List.replicate n 0))
  else
    match decompose m n matrix with
    | none => .ok none
    | some s => do
        let step ← leastSquaresStep s residual
        return some step

theorem leastSquaresStep_eq_ok (s : SingularValues m n α) (residual : Vector α m) :
    leastSquaresStep s residual = .ok (s.leastSquaresStep residual).toList := by
  rw [leastSquaresStep, zipIdx_toList, List.foldlM_map, ← Vector.toList_replicate]
  apply foldlM_eq_ok Vector.toList
  intro step k _
  dsimp only
  by_cases small : s.values.get k ≤ s.cutoff
  · rw [if_pos small, if_pos small]
  · rw [if_neg small, if_neg small, projection_eq_ok, ok_bind, zipIdx_toList, List.mapM_map,
      Vector.toList_ofFn, List.ofFn_eq_map]
    apply mapM_eq_ok
    intro column _
    have right : factorAt s.right column.val k.val =
        some (s.right.entry column (SingularValues.rightIndex k)) :=
      factorAt_val s.right column (SingularValues.rightIndex k)
    rw [Function.comp_apply, right, found_some, ok_bind]
    rfl

theorem pseudoInverseStep_eq_ok (decompose : Decomposition α) (matrix : DenseMatrix m n α)
    (residual : Vector α m) :
    pseudoInverseStep decompose matrix residual =
      .ok ((pseudoInverseStep? decompose matrix residual).map Vector.toList) := by
  unfold pseudoInverseStep pseudoInverseStep?
  by_cases empty : m = 0 ∨ n = 0
  · rw [if_pos empty, if_pos empty, Option.map_some, Vector.toList_replicate]
  · rw [if_neg empty, if_neg empty]
    cases decompose m n matrix with
    | none => rfl
    | some s =>
        dsimp only
        rw [leastSquaresStep_eq_ok, ok_bind]
        rfl

end Step

variable [Sub α] [OfNat α 1] [OfNat α 2]

section Refine

variable [LE α] [DecidableLE α]

/-- Measure and step up to `left` more times. The residuals overwrite those of the round before. -/
def refineFrom (decompose : Decomposition α) (tolerance : α) (columns : List UnknownId) (rows : Nat)
    (constraints : List (Constraint UnknownId α)) :
    (left done : Nat) → (size : α) → Vector α rows → Vector α columns.length →
      Except Fault (Except (SolveError α) (Solution columns.length α))
  | 0, done, size, _, _ => .ok (.error (.notConverged done size))
  | left + 1, done, _, buffer, values => do
      let measured ← fillRows (lookUp columns values) constraints 0 buffer
      let size := largestMagnitude measured.toList
      if size ≤ tolerance then return .ok ⟨done, values⟩
      else
        let matrix : DenseMatrix rows columns.length α ←
          fillCells columns (lookUp columns values) constraints 0 (DenseMatrix.ofFn fun _ _ => 0)
        match ← pseudoInverseStep decompose matrix measured with
        | none => return .error .notDecomposed
        | some step =>
            if sized : step.length = columns.length then
              refineFrom decompose tolerance columns rows constraints left (done + 1) size measured
                (values.zipWith (· + ·) ⟨step.toArray, sized⟩)
            else .error .width

def refine (decompose : Decomposition α) (settings : Settings α) (columns : List UnknownId)
    (rows : Nat) (constraints : List (Constraint UnknownId α)) (values : List α) :
    Except Fault (Except (SolveError α) (Solution columns.length α)) :=
  if sized : values.length = columns.length then
    refineFrom decompose settings.tolerance columns rows constraints settings.budget 0
      Precision.infinity (Vector.replicate rows 0) ⟨values.toArray, sized⟩
  else .error .width

variable (decompose : Decomposition α) (constraints : List (Constraint UnknownId α))

theorem refineFrom_eq_ok (tolerance : α) (left done : Nat) (size : α)
    (buffer : Vector α (ComponentSystem.ofConstraints constraints).height)
    (values : Vector α (ComponentSystem.ofConstraints constraints).columns.length) :
    refineFrom decompose tolerance (ComponentSystem.ofConstraints constraints).columns
        (ComponentSystem.ofConstraints constraints).height constraints left done size buffer values =
      .ok ((ComponentSystem.ofConstraints constraints).refineFrom decompose tolerance left done size
        values) := by
  induction left generalizing done size buffer values with
  | zero => rfl
  | succ left ih =>
      rw [refineFrom, ComponentSystem.refineFrom, fillRows_ofConstraints, ok_bind]
      dsimp only
      by_cases small : (ComponentSystem.ofConstraints constraints).error values ≤ tolerance
      · rw [if_pos small]
        exact if_pos small
      · rw [if_neg small]
        refine (if_neg small).trans ?_
        rw [fillCells_ofConstraints, ok_bind, pseudoInverseStep_eq_ok, ok_bind,
          ComponentSystem.next?]
        cases pseudoInverseStep? decompose
            ((ComponentSystem.ofConstraints constraints).jacobian values)
            ((ComponentSystem.ofConstraints constraints).residual values) with
        | none => rfl
        | some step =>
            have sized : step.toList.length =
                (ComponentSystem.ofConstraints constraints).columns.length := step.length_toList
            refine (dif_pos sized).trans ?_
            exact ih _ _ _ _

theorem refine_eq_ok (settings : Settings α) {rows : Nat}
    (sameRows : rows = (ComponentSystem.ofConstraints constraints).height)
    (values : Vector α (ComponentSystem.ofConstraints constraints).columns.length) :
    refine decompose settings (ComponentSystem.ofConstraints constraints).columns rows constraints
        values.toList =
      .ok ((ComponentSystem.ofConstraints constraints).refine decompose settings values) := by
  subst sameRows
  have sized : values.toList.length = (ComponentSystem.ofConstraints constraints).columns.length :=
    values.length_toList
  rw [refine, dif_pos sized]
  exact refineFrom_eq_ok decompose constraints settings.tolerance settings.budget 0
    Precision.infinity _ values

end Refine

section Freedom

def participation (s : SingularValues m n α) (column : Nat) : Except Fault α := do
  let squares ← (List.range' s.rank (n - s.rank)).foldlM (fun sum k => do
    let entry ← found .factor (factorAt s.right column k)
    return sum + entry * entry) 0
  return Precision.sqrt squares

def freedom (decompose : Decomposition α) (columns : List UnknownId) (rows : Nat)
    (constraints : List (Constraint UnknownId α)) (values : Vector α columns.length) :
    Except Fault (Option ComponentFreedom) := do
  let matrix : DenseMatrix rows columns.length α ←
    fillCells columns (lookUp columns values) constraints 0 (DenseMatrix.ofFn fun _ _ => 0)
  if rows = 0 ∨ columns.length = 0 then return some ⟨columns.length, 0, columns⟩
  else
    match decompose rows columns.length matrix with
    | none => return none
    | some s => do
        let participations ← (List.range columns.length).mapM (participation s)
        let rounding := ((10 : Nat) : α) * Precision.sqrt ((columns.length : Nat) : α) *
          Precision.epsilon
        let noise := larger rounding (1 / ((1000 : Nat) : α) * largest participations)
        let movable := (columns.zip participations).filter fun (_, part) => decide (noise < part)
        return some ⟨columns.length, s.rank, movable.map Prod.fst⟩

omit [Div α] [Neg α] [Sub α] [OfNat α 1] [OfNat α 2] in
theorem participation_eq_ok (s : SingularValues m n α) (column : Fin n) :
    participation s column.val = .ok (s.participation column) := by
  have squares : (List.range' s.rank (n - s.rank)).foldlM (fun sum k => do
      let entry ← found .factor (factorAt s.right column.val k)
      return sum + entry * entry) 0 =
      .ok (((List.finRange n).drop s.rank).foldl
        (fun sum k => sum + s.right.entry column k * s.right.entry column k) 0) := by
    rw [range'_eq_drop, List.foldlM_map]
    apply foldlM_eq_ok id
    intro sum k _
    rw [factorAt_val, found_some, ok_bind]
    rfl
  rw [participation, squares, ok_bind]
  rfl

theorem freedom_eq_ok (decompose : Decomposition α) (constraints : List (Constraint UnknownId α))
    {rows : Nat} (sameRows : rows = (ComponentSystem.ofConstraints constraints).height)
    (values : Vector α (ComponentSystem.ofConstraints constraints).columns.length) :
    freedom decompose (ComponentSystem.ofConstraints constraints).columns rows constraints values =
      .ok ((ComponentSystem.ofConstraints constraints).freedom? decompose values) := by
  subst sameRows
  rw [freedom, fillCells_ofConstraints, ok_bind, ComponentSystem.freedom?]
  by_cases empty : (ComponentSystem.ofConstraints constraints).height = 0 ∨
      (ComponentSystem.ofConstraints constraints).columns.length = 0
  · rw [if_pos empty, if_pos empty]
    rfl
  · rw [if_neg empty, if_neg empty]
    cases decompose (ComponentSystem.ofConstraints constraints).height
        (ComponentSystem.ofConstraints constraints).columns.length
        ((ComponentSystem.ofConstraints constraints).jacobian values) with
    | none => rfl
    | some s =>
        have participations : (List.range
            (ComponentSystem.ofConstraints constraints).columns.length).mapM (participation s) =
            .ok ((List.finRange _).map s.participation) := by
          rw [← List.map_coe_finRange_eq_range, List.mapM_map]
          apply mapM_eq_ok
          intro column _
          exact participation_eq_ok s column
        have movable := map_fst_filter_zip (ComponentSystem.ofConstraints constraints).columns
          s.participation fun part => decide (s.noise < part)
        dsimp only
        rw [participations, ok_bind]
        exact congrArg (fun ids => Except.ok (some (ComponentFreedom.mk _ s.rank ids))) movable

end Freedom

end Drafting.Guarded
