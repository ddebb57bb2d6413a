import Drafting.Proofs.Acceptance
import Drafting.Proofs.Lint.Causes
import Drafting.Proofs.Measurement
import Drafting.Proofs.Negation

/-!
# The sign of a distance

A distance enters the equations by its square only, and the partial derivatives and the components
not at all. So to measure a distance the other way round changes nothing but the warnings about
negative distances.
-/

namespace Drafting

variable {α : Type}

namespace Constraint

inductive SameUpToSign {ι : Type} [Neg α] : Constraint ι α → Constraint ι α → Prop
  | same (c : Constraint ι α) : SameUpToSign c c
  | turned (p q : Point ι) (distance : α) :
      SameUpToSign (.fixedDistance p q distance) (.fixedDistance p q (-distance))

namespace SameUpToSign

variable {ι κ : Type} [Neg α] {c turned : Constraint ι α} (alike : SameUpToSign c turned)
include alike

theorem map (f : ι → κ) : SameUpToSign (c.map f) (turned.map f) := by
  cases alike with
  | same => exact .same _
  | turned p q distance => exact .turned _ _ distance

theorem unknowns_eq : turned.unknowns = c.unknowns := by
  cases alike <;> rfl

theorem residual_eq [Add α] [Sub α] [Mul α] [LawfulNegation α] (value : ι → α) :
    turned.residual value = c.residual value := by
  cases alike with
  | same => rfl
  | turned p q distance =>
      dsimp only [residual]
      rw [LawfulNegation.neg_mul_neg]

theorem gradient_eq [Sub α] [Mul α] [OfNat α 1] [OfNat α 2] (value : ι → α) :
    turned.gradient value = c.gradient value := by
  cases alike <;> rfl

omit alike

/-- Constraints that are the same up to signs once their unknowns are told apart by other names have
the same residuals before. -/
theorem residual_eq_of_map [Add α] [Sub α] [Mul α] [OfNat α 0] [LawfulNegation α] {f : ι → κ}
    (injective : Function.Injective f) (alike : SameUpToSign (c.map f) (turned.map f))
    (value : ι → α) : turned.residual value = c.residual value := by
  have extended := alike.residual_eq (Function.extend f value fun _ => 0)
  rwa [residual_map, residual_map, Function.extend_comp injective] at extended

theorem gradient_eq_of_map [Sub α] [Mul α] [OfNat α 0] [OfNat α 1] [OfNat α 2] {f : ι → κ}
    (injective : Function.Injective f) (alike : SameUpToSign (c.map f) (turned.map f))
    (value : ι → α) : turned.gradient value = c.gradient value := by
  have extended := alike.gradient_eq (Function.extend f value fun _ => 0)
  rw [gradient_map, gradient_map, Function.extend_comp injective] at extended
  exact List.map_injective_iff.mpr (injective.prodMap Function.injective_id) extended

end SameUpToSign

end Constraint

section Blocks

variable {constraints turned : List (Constraint UnknownId α)}

private def componentsBy (n : Nat) (unknowns : Fin n → List UnknownId) : List (List (Fin n)) :=
  let uses : UseLists n := (List.finRange n).foldl
    (fun uses i => (unknowns i).foldl (fun uses id => uses.note i id) uses) ∅
  DepthFirst.parts (fun i => (unknowns i).flatMap uses.users) (List.finRange n)

private theorem componentsBy_cast {m n : Nat} (count : n = m) (unknowns : Fin m → List UnknownId) :
    componentsBy m unknowns =
      (componentsBy n (unknowns ∘ Fin.cast count)).map (List.map (Fin.cast count)) := by
  subst count
  have kept (part : List (Fin n)) : part.map (Fin.cast rfl) = part := List.map_id part
  rw [List.map_congr_left fun part _ => kept part, List.map_id']
  rfl

/-- Components depend on which unknowns each constraint mentions. -/
theorem components_eq_of_unknowns (count : constraints.length = turned.length)
    (same : ∀ i, (turned.get (Fin.cast count i)).unknowns = (constraints.get i).unknowns) :
    components turned = (components constraints).map (List.map (Fin.cast count)) := by
  have cast := componentsBy_cast count fun i => (turned.get i).unknowns
  have unknowns : (fun i => (turned.get i).unknowns) ∘ Fin.cast count =
      fun i => (constraints.get i).unknowns := funext same
  rw [unknowns] at cast
  exact cast

variable [Neg α]

def Block.SameUpToSign (block turned : Block α) : Prop :=
  List.Forall₂ (fun entry other => other.1 = entry.1 ∧ entry.2.SameUpToSign other.2) block turned

theorem blocks_sameUpToSign
    (alike : List.Forall₂ Constraint.SameUpToSign constraints turned) :
    List.Forall₂ Block.SameUpToSign (blocks constraints) (blocks turned) := by
  have count := alike.length_eq
  have each (i : Fin constraints.length) :
      (constraints.get i).SameUpToSign (turned.get (Fin.cast count i)) :=
    alike.get i.isLt (Fin.cast count i).isLt
  rw [blocks_eq_map, blocks_eq_map,
    components_eq_of_unknowns count fun i => (each i).unknowns_eq, List.map_map,
    List.forall₂_map_left_iff, List.forall₂_map_right_iff, List.forall₂_same]
  intro part _
  unfold Block.SameUpToSign blockOf
  rw [Function.comp_apply, List.map_map, List.forall₂_map_left_iff, List.forall₂_map_right_iff,
    List.forall₂_same]
  intro i _
  exact ⟨rfl, each i⟩

namespace Block.SameUpToSign

variable {block other : Block α} (alike : block.SameUpToSign other)
include alike

theorem positions_eq : other.positions = block.positions :=
  (map_eq_of_related alike fun _ _ pair => pair.1.symm).symm

theorem forall₂_constraints :
    List.Forall₂ Constraint.SameUpToSign block.constraints other.constraints := by
  unfold Block.constraints
  rw [List.forall₂_map_left_iff, List.forall₂_map_right_iff]
  exact alike.imp fun _ _ pair => pair.2

end Block.SameUpToSign

end Blocks

namespace ComponentSystem

/-- The equations between columns are the constraints with places for unknowns. -/
theorem map_val_equations (constraints : List (Constraint UnknownId α)) :
    (ofConstraints constraints).equations.map (Constraint.map Fin.val) =
      constraints.map (Constraint.map (mentioned constraints).idxOf) := by
  unfold ofConstraints
  rw [List.map_map]
  refine Eq.trans (List.map_congr_left fun c _ => ?_) List.attach_map_val
  rw [Function.comp_apply, Constraint.map_mapMem, Constraint.mapMem_eq_map]

variable [Neg α] {constraints turned : List (Constraint UnknownId α)}

theorem columns_eq_of_sameUpToSign
    (alike : List.Forall₂ Constraint.SameUpToSign constraints turned) :
    (ofConstraints turned).columns = (ofConstraints constraints).columns := by
  have unknowns : constraints.map Constraint.unknowns = turned.map Constraint.unknowns :=
    map_eq_of_related alike fun _ _ pair => pair.unknowns_eq.symm
  change mentioned turned = mentioned constraints
  unfold mentioned
  rw [List.flatMap_def, List.flatMap_def, unknowns]

variable [Add α] [Sub α] [Mul α] [OfNat α 0] [OfNat α 1] [OfNat α 2] [LawfulNegation α]

theorem measuresAlike_of_equations {system other : ComponentSystem α}
    (columns : other.columns = system.columns)
    (equations : List.Forall₂ Constraint.SameUpToSign
      (system.equations.map (Constraint.map Fin.val)) (other.equations.map (Constraint.map Fin.val))) :
    system.MeasuresAlike other := by
  obtain ⟨ids, rows⟩ := system
  obtain ⟨otherIds, otherRows⟩ := other
  dsimp only at columns equations
  subst columns
  rw [List.forall₂_map_left_iff, List.forall₂_map_right_iff] at equations
  have count := equations.length_eq
  have each (i : Fin rows.length) :
      ((rows.get i).map Fin.val).SameUpToSign ((otherRows.get (Fin.cast count i)).map Fin.val) :=
    equations.get i.isLt (Fin.cast count i).isLt
  constructor
  case width_eq => rfl
  case height_eq => exact count
  case residual_eq =>
    intro assignment
    refine eq_cast_of_get fun i => ?_
    rw [residual, get_ofFn, residual, get_ofFn, Vector.cast_rfl]
    exact (each i).residual_eq_of_map Fin.val_injective assignment.get
  case jacobian_eq =>
    intro assignment
    refine DenseMatrix.eq_cast_of_entry fun i j => ?_
    have gradients : (otherRows.get (Fin.cast count i)).gradient assignment.get =
        (rows.get i).gradient assignment.get :=
      (each i).gradient_eq_of_map Fin.val_injective assignment.get
    simp only [jacobian, DenseMatrix.entry, get_ofFn]
    rw [Vector.cast_rfl, gradients]
    rfl

theorem measuresAlike_of_sameUpToSign
    (alike : List.Forall₂ Constraint.SameUpToSign constraints turned) :
    (ofConstraints constraints).MeasuresAlike (ofConstraints turned) := by
  have columns := columns_eq_of_sameUpToSign alike
  have places : mentioned turned = mentioned constraints := columns
  apply measuresAlike_of_equations columns
  rw [map_val_equations, map_val_equations, places, List.forall₂_map_left_iff,
    List.forall₂_map_right_iff]
  exact alike.imp fun _ _ pair => pair.map _

end ComponentSystem

section Walk

theorem Arena.read_cast {arena : Arena α} {ids others : List UnknownId} (same : others = ids)
    (known : arena.Contains ids) (otherKnown : arena.Contains others) :
    arena.read others otherKnown =
      (arena.read ids known).cast (congrArg List.length same.symm) := by
  subst same
  exact Vector.cast_rfl.symm

variable [Add α] [Sub α] [Mul α] [Neg α] [OfNat α 0] [OfNat α 1] [OfNat α 2]

structure SolvedBlock.Alike (solved other : SolvedBlock α) : Prop where
  positions_eq : other.positions = solved.positions
  columns_eq : other.system.columns = solved.system.columns
  measures : solved.system.MeasuresAlike other.system
  solution_eq : other.solution = solved.solution.cast measures.width_eq

namespace SolvedBlock.Alike

variable {solved other : SolvedBlock α} (alike : solved.Alike other)
include alike

theorem report_eq : other.report = solved.report := by
  have steps : other.solution.steps = solved.solution.steps := by
    rw [alike.solution_eq]
    rfl
  rw [report, report, alike.positions_eq, steps]
  congr 1
  · exact alike.measures.width_eq.symm
  · exact alike.measures.height_eq.symm

theorem writeTo_eq (arena : Arena α) : other.writeTo arena = solved.writeTo arena := by
  unfold writeTo
  rw [alike.columns_eq, alike.solution_eq, Solution.cast, Vector.toList_cast]

theorem freedom?_eq [Precision α] [NatCast α] [Div α] [LT α] [DecidableLT α]
    (decompose : Decomposition α) : other.freedom? decompose = solved.freedom? decompose := by
  have columns : other.system.columns = solved.system.columns.map id := by
    rw [List.map_id, alike.columns_eq]
  unfold freedom?
  rw [alike.solution_eq]
  refine (alike.measures.freedom?_eq columns decompose solved.solution.assignment).trans ?_
  have kept (freedom : ComponentFreedom) : freedom.rename id = freedom := by
    rw [ComponentFreedom.rename, List.map_id]
  rw [funext kept, Option.map_id']

end SolvedBlock.Alike

variable [Precision α] [NatCast α] [Div α] [LT α] [DecidableLT α] [LE α] [DecidableLE α]
  [LawfulNegation α] (decompose : Decomposition α) (settings : Settings α)

/-- Blocks that are the same up to signs are solved alike, or fail in the same way. -/
theorem solveBlock_sameUpToSign {block other : Block α} (alike : block.SameUpToSign other)
    (arena : Arena α) :
    (∃ solved otherSolved, solveBlock decompose settings block arena = .ok solved ∧
      solveBlock decompose settings other arena = .ok otherSolved ∧ solved.Alike otherSolved) ∨
    ∃ halt, solveBlock decompose settings block arena = .error halt ∧
      solveBlock decompose settings other arena = .error halt := by
  have measures := ComponentSystem.measuresAlike_of_sameUpToSign alike.forall₂_constraints
  have columns : other.unknowns = block.unknowns :=
    ComponentSystem.columns_eq_of_sameUpToSign alike.forall₂_constraints
  have otherKnown (known : arena.Contains block.unknowns) : arena.Contains other.unknowns :=
    columns ▸ known
  have refined (known : arena.Contains block.unknowns) :=
    (congrArg ((ComponentSystem.ofConstraints other.constraints).refine decompose settings)
      (Arena.read_cast columns known (otherKnown known))).trans
        (measures.refine_eq decompose settings (arena.read block.unknowns known))
  rcases solveBlock_cases decompose settings block arena with
    ⟨known, solution, found, result⟩ | ⟨known, error, found, result⟩ | ⟨unknown, result⟩
  · left
    have otherFound := refined known
    rw [found] at otherFound
    refine ⟨_, _, result, solveBlock_eq_ok_iff.mpr ⟨otherKnown known, _, otherFound, rfl⟩, ?_⟩
    exact ⟨alike.positions_eq, columns, measures, rfl⟩
  · right
    have otherFound := refined known
    rw [found] at otherFound
    refine ⟨_, result, solveBlock_eq_failed_iff.mpr ⟨?_, otherKnown known, otherFound⟩⟩
    exact alike.positions_eq.symm
  · right
    refine ⟨_, result, solveBlock_outsideArena_iff.mpr ?_⟩
    rwa [columns]

theorem walk_sameUpToSign {blocks others : List (Block α)}
    (alike : List.Forall₂ Block.SameUpToSign blocks others) (arena : Arena α) :
    List.Forall₂ SolvedBlock.Alike (walk decompose settings blocks arena).solved
        (walk decompose settings others arena).solved ∧
      (walk decompose settings others arena).halt = (walk decompose settings blocks arena).halt ∧
      (walk decompose settings others arena).arena = (walk decompose settings blocks arena).arena := by
  induction alike generalizing arena with
  | nil => exact ⟨.nil, rfl, rfl⟩
  | cons head _ ih =>
      rcases solveBlock_sameUpToSign decompose settings head arena with
        ⟨solved, otherSolved, result, otherResult, alike⟩ | ⟨halt, result, otherResult⟩
      · rw [walk_cons_ok result, walk_cons_ok otherResult, alike.writeTo_eq]
        obtain ⟨later, halts, leaves⟩ := ih (solved.writeTo arena)
        exact ⟨.cons alike later, halts, leaves⟩
      · rw [walk_cons_error result, walk_cons_error otherResult]
        exact ⟨.nil, rfl, rfl⟩

end Walk

section Warnings

variable [NatCast α] [Sub α] [Div α] [Neg α] [OfNat α 0] [OfNat α 1] [LT α] [DecidableLT α]

theorem Lint.filter_warningsFrom_sameUpToSign {constraints turned : List (Constraint UnknownId α)}
    (alike : List.Forall₂ Constraint.SameUpToSign constraints turned) (noted : FirstFixed α)
    (i : Nat) :
    (warningsFrom noted i turned).filter (fun warning => !warning.concern.isNegativeDistance) =
      (warningsFrom noted i constraints).filter
        fun warning => !warning.concern.isNegativeDistance := by
  induction alike generalizing noted i with
  | nil => rfl
  | cons head _ ih =>
      rw [warningsFrom, warningsFrom, List.filter_append, List.filter_append]
      cases head with
      | same c => rw [ih]
      | turned p q distance =>
          dsimp only [note, concern?]
          rw [ih]
          congr 1
          split <;> split <;> rfl

end Warnings

section Results

variable {β : Type}

def SolveReport.withWarnings (warnings : List (Warning α)) (report : SolveReport α) :
    SolveReport α :=
  { report with warnings := warnings }

/-- The same result with other warnings, where `rewarn` changes them in the answer. -/
def SolveResult.withWarnings (rewarn : β → β) (warnings : List (Warning α)) :
    SolveResult α β → SolveResult α β
  | .solved answer => .solved (rewarn answer)
  | .failed failure => .failed { failure with warnings := warnings }
  | .outsideArena => .outsideArena

variable [Add α] [Sub α] [Mul α] [Neg α] [OfNat α 0] [OfNat α 1] [OfNat α 2]

theorem map_report_of_alike {solved others : List (SolvedBlock α)}
    (alike : List.Forall₂ SolvedBlock.Alike solved others) :
    others.map SolvedBlock.report = solved.map SolvedBlock.report :=
  (map_eq_of_related alike fun _ _ pair => pair.report_eq.symm).symm

theorem Walk.result_of_alike {walked other : Walk α} {warnings turnedWarnings : List (Warning α)}
    {finish otherFinish : List (SolvedBlock α) → β} {rewarn : β → β}
    (alike : List.Forall₂ SolvedBlock.Alike walked.solved other.solved)
    (halts : other.halt = walked.halt)
    (finishes : otherFinish other.solved = rewarn (finish walked.solved)) :
    other.result turnedWarnings otherFinish =
      (walked.result warnings finish).withWarnings rewarn turnedWarnings := by
  unfold result
  rw [halts]
  cases walked.halt with
  | none => exact congrArg SolveResult.solved finishes
  | some halt =>
      cases halt with
      | failed positions error =>
          dsimp only
          rw [map_report_of_alike alike, ← alike.length_eq]
          rfl
      | outsideArena => rfl

variable [Precision α] [NatCast α] [Div α] [LT α] [DecidableLT α] [LE α] [DecidableLE α]
  [LawfulNegation α] (decompose : Decomposition α) (settings : Settings α)

/-- If some distances change their signs, the system is solved in the same way with the same result,
but for the warnings. Of these the ones about negative distances are those of the negative distances
in the list at hand, and all others stay. -/
theorem distance_sign_never_matters {constraints turned : List (Constraint UnknownId α)}
    (alike : List.Forall₂ Constraint.SameUpToSign constraints turned) (arena : Arena α) :
    (solve decompose settings turned arena).1 =
        (solve decompose settings constraints arena).1.withWarnings
          (SolveReport.withWarnings (lint turned)) (lint turned) ∧
    (solve decompose settings turned arena).2 = (solve decompose settings constraints arena).2 ∧
    (solveWithFreedom decompose settings turned arena).1 =
        (solveWithFreedom decompose settings constraints arena).1.withWarnings
          (Prod.map (SolveReport.withWarnings (lint turned)) id) (lint turned) ∧
    (solveWithFreedom decompose settings turned arena).2 =
        (solveWithFreedom decompose settings constraints arena).2 ∧
    (lint turned).filter (fun warning => !warning.concern.isNegativeDistance) =
        (lint constraints).filter (fun warning => !warning.concern.isNegativeDistance) ∧
    ∀ either ∈ [constraints, turned],
      (lint either).filter (fun warning => warning.concern.isNegativeDistance) =
        either.zipIdx.filterMap fun (c, i) => Lint.negativeDistance? i c := by
  obtain ⟨solved, halts, leaves⟩ :=
    walk_sameUpToSign decompose settings (blocks_sameUpToSign alike) arena
  have reports := map_report_of_alike solved
  refine ⟨?_, leaves, ?_, leaves, Lint.filter_warningsFrom_sameUpToSign alike ∅ 0,
    fun either _ => Lint.filter_negativeDistance_lint either⟩
  · unfold solve
    dsimp only
    apply Walk.result_of_alike solved halts
    rw [reports]
    rfl
  · unfold solveWithFreedom
    dsimp only
    apply Walk.result_of_alike solved halts
    have freedom := map_eq_of_related solved fun _ _ pair => (pair.freedom?_eq decompose).symm
    unfold SolvedBlock.freedom? at freedom
    rw [reports, ← freedom]
    rfl

end Results

abbrev distantBy (distance : Float) : List (Constraint UnknownId Float) :=
  [.fixedDistance ⟨0, 1⟩ ⟨2, 3⟩ distance]

theorem turned_distance_solves_alike :
    List.Forall₂ Constraint.SameUpToSign (distantBy 2) (distantBy (-2)) ∧
    lint (distantBy 2) = [] ∧ lint (distantBy (-2)) = [⟨some 0, .negativeDistance (-2)⟩] ∧
    ∃ report,
      solve unitFactors Settings.default (distantBy 2) (Arena.ofValues [0, 0, 2, 0]) =
        (.solved report, Arena.ofValues [0, 0, 2, 0]) ∧
      solve unitFactors Settings.default (distantBy (-2)) (Arena.ofValues [0, 0, 2, 0]) =
        (.solved (report.withWarnings [⟨some 0, .negativeDistance (-2)⟩]),
          Arena.ofValues [0, 0, 2, 0]) := by
  have alike : List.Forall₂ Constraint.SameUpToSign (distantBy 2) (distantBy (-2)) :=
    .cons (.turned _ _ 2) .nil
  have warns : lint (distantBy (-2)) = [⟨some 0, .negativeDistance (-2)⟩] := by decide +kernel
  have satisfied : ∀ c ∈ distantBy 2,
      c.satisfiedIn? (Arena.ofValues [0, 0, 2, 0]) defaultTolerance = some true := by
    decide +kernel
  have finite : (defaultTolerance : Float) ≠ Precision.infinity := by decide +kernel
  obtain ⟨report, solved⟩ := solve_of_passesIn unitFactors Settings.default (Nat.succ_pos 99)
    (by decide +kernel)
    fun c member => (Constraint.passesIn_iff_satisfiedIn? finite).mpr (satisfied c member)
  obtain ⟨result, left, _⟩ := distance_sign_never_matters unitFactors Settings.default alike
    (Arena.ofValues [0, 0, 2, 0])
  rw [solved, warns] at result
  rw [solved] at left
  exact ⟨alike, by decide +kernel, warns, report, solved, Prod.ext result left⟩

end Drafting
