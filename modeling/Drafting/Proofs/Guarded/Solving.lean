import Drafting.Proofs.Freedom
import Drafting.Proofs.Guarded.Iteration
import Drafting.Proofs.Guarded.Search
import Drafting.Proofs.Solving

/-!
# The guarded solve, and where it stops

A guarded solve changes the arena as it goes, and a fault leaves the arena as it is then. It answers
as the running solve does, and the only fault that comes about is an unknown outside the arena.
-/

namespace Drafting.Guarded

variable {α : Type}

/-- A computation that may change an arena and stop with a fault. -/
def Run (α β : Type) : Type := Arena α → Except Fault β × Arena α

namespace Run

variable {β γ : Type}

instance : Monad (Run α) where
  pure value := fun arena => (.ok value, arena)
  bind run next := fun arena =>
    match run arena with
    | (.ok value, after) => next value after
    | (.error fault, after) => (.error fault, after)

def ofExcept (result : Except Fault β) : Run α β := fun arena => (result, arena)

theorem bind_of_ok {run : Run α β} {arena after : Arena α} {value : β}
    (result : run arena = (.ok value, after)) (next : β → Run α γ) :
    (run >>= next) arena = next value after := by
  change (match run arena with
    | (.ok value, after) => next value after
    | (.error fault, after) => (.error fault, after)) = _
  rw [result]

theorem bind_of_error {run : Run α β} {arena after : Arena α} {fault : Fault}
    (result : run arena = (.error fault, after)) (next : β → Run α γ) :
    (run >>= next) arena = (.error fault, after) := by
  change (match run arena with
    | (.ok value, after) => next value after
    | (.error fault, after) => (.error fault, after)) = _
  rw [result]

theorem ofExcept_ok {result : Except Fault β} {value : β} (succeeds : result = .ok value)
    (arena : Arena α) : ofExcept result arena = (.ok value, arena) := by
  rw [succeeds]
  rfl

end Run

section Values

def readValue (id : UnknownId) : Run α α := fun arena => (found .unknown (arena.value? id), arena)

def readAll : List UnknownId → Run α (List α)
  | [] => pure []
  | id :: rest => do
      let value ← readValue id
      let values ← readAll rest
      return value :: values

def writeValue (id : UnknownId) (value : α) : Run α Unit := fun arena =>
  match arena.set? id value with
  | some after => (.ok (), after)
  | none => (.error .target, arena)

def writeAll : List (UnknownId × α) → Run α Unit
  | [] => pure ()
  | (id, value) :: rest => do
      writeValue id value
      writeAll rest

variable {arena : Arena α}

theorem readValue_known {id : UnknownId} (known : id < arena.size) :
    readValue id arena = (.ok (arena.value id known), arena) := by
  rw [readValue, Arena.value?_of_lt known]
  rfl

theorem readAll_known {ids : List UnknownId} (known : arena.Contains ids) :
    readAll ids arena = (.ok (arena.read ids known).toList, arena) := by
  induction ids with
  | nil => rfl
  | cons id rest ih =>
      obtain ⟨inArena, later⟩ := List.forall_mem_cons.mp known
      rw [readAll, Run.bind_of_ok (readValue_known inArena), Run.bind_of_ok (ih later)]
      simp only [Arena.read, Vector.toList_ofFn, List.ofFn_succ, List.length_cons]
      rfl

theorem readAll_unknown {ids : List UnknownId} (unknown : ¬arena.Contains ids) :
    readAll ids arena = (.error .unknown, arena) := by
  induction ids with
  | nil => exact absurd (fun id member => absurd member List.not_mem_nil) unknown
  | cons id rest ih =>
      by_cases inArena : id < arena.size
      · have restUnknown : ¬arena.Contains rest := by
          intro later
          exact unknown (List.forall_mem_cons.mpr ⟨inArena, later⟩)
        rw [readAll, Run.bind_of_ok (readValue_known inArena), Run.bind_of_error (ih restUnknown)]
      · have here : readValue id arena = (.error .unknown, arena) := by
          rw [readValue, Arena.value?_eq_none_iff.mpr (Nat.le_of_not_lt inArena)]
          rfl
        rw [readAll, Run.bind_of_error here]

theorem writeAll_known {ids : List UnknownId} (known : arena.Contains ids) (values : List α) :
    writeAll (ids.zip values) arena = (.ok (), arena.write ids values) := by
  induction ids generalizing arena values with
  | nil => rfl
  | cons id rest ih =>
      cases values with
      | nil => rfl
      | cons value others =>
          obtain ⟨inArena, later⟩ := List.forall_mem_cons.mp known
          have here : writeValue id value arena = (.ok (), arena.set id value) := by
            rw [writeValue, Arena.set?, if_pos inArena]
          have stillKnown : (arena.set id value).Contains rest := by
            intro other member
            rw [Arena.size_set]
            exact later other member
          rw [List.zip_cons_cons, writeAll, Run.bind_of_ok here]
          exact ih stillKnown others

end Values

private theorem members_eq_ok (constraints : List (Constraint UnknownId α))
    (part : List (Fin constraints.length)) :
    (part.map Fin.val).mapM (fun i => found .constraint constraints[i]?) =
      .ok (blockOf constraints part).constraints := by
  rw [List.mapM_map, constraints_blockOf]
  apply mapM_eq_ok
  intro i _
  rw [Function.comp_apply, List.getElem?_eq_getElem i.isLt]
  rfl

/-- How a guarded call ends where the running one ends in this way. -/
def outcome {β : Type} : SolveResult α β → Except Fault (Except (SolveFailure α) β)
  | .solved answer => .ok (.ok answer)
  | .failed failure => .ok (.error failure)
  | .outsideArena => .error .unknown

theorem outcome_eq_error_iff {β : Type} {result : SolveResult α β} {fault : Fault} :
    outcome result = .error fault ↔ fault = .unknown ∧ result = .outsideArena := by
  cases result with
  | solved answer => simp [outcome]
  | failed failure => simp [outcome]
  | outsideArena => simp [outcome, eq_comm]

variable [Precision α] [NatCast α] [Add α] [Sub α] [Mul α] [Div α] [Neg α]
  [OfNat α 0] [OfNat α 1] [OfNat α 2] [LT α] [DecidableLT α] [LE α] [DecidableLE α]

section Calls

variable (decompose : Decomposition α) (settings : Settings α)
  (constraints : List (Constraint UnknownId α))

def solvePart (analyse : Bool) (part : List Nat) :
    Run α (Except (SolveError α) (ComponentReport × List (Option ComponentFreedom))) := do
  let members ← Run.ofExcept (part.mapM fun i => found .constraint constraints[i]?)
  let columns := mentioned members
  let rows := total (members.map Constraint.dimension)
  let values ← readAll columns
  match ← Run.ofExcept (refine decompose settings columns rows members values) with
  | .error error => return .error error
  | .ok solution =>
      let analyses ← Run.ofExcept
        (if analyse then do
          let result ← freedom decompose columns rows members solution.assignment
          return [result]
        else .ok [])
      writeAll (columns.zip solution.assignment.toList)
      return .ok (⟨part, columns.length, rows, solution.steps⟩, analyses)

def solveFrom (analyse : Bool) :
    List (List Nat) → List ComponentReport → List (Option ComponentFreedom) →
      Run α (Except (SolveFailure α) (SolveReport α × Freedom))
  | [], reports, analyses =>
      return .ok (⟨reports, lint constraints⟩, Freedom.ofResults analyses)
  | part :: rest, reports, analyses => do
      match ← solvePart decompose settings constraints analyse part with
      | .error error => return .error ⟨error, reports.length, part, reports, lint constraints⟩
      | .ok (report, analysed) =>
          solveFrom analyse rest (reports ++ [report]) (analyses ++ analysed)

def solveComponents (analyse : Bool) :
    Run α (Except (SolveFailure α) (SolveReport α × Freedom)) := do
  let parts ← Run.ofExcept (components constraints)
  solveFrom decompose settings constraints analyse parts [] []

def solve : Run α (Except (SolveFailure α) (SolveReport α)) := do
  let result ← solveComponents decompose settings constraints false
  return result.map Prod.fst

def solveWithFreedom : Run α (Except (SolveFailure α) (SolveReport α × Freedom)) :=
  solveComponents decompose settings constraints true

end Calls

section Agreement

def analysesOf (decompose : Decomposition α) (analyse : Bool) (solved : List (SolvedBlock α)) :
    List (Option ComponentFreedom) :=
  if analyse then
    solved.map fun block => block.system.freedom? decompose block.solution.assignment
  else []

def answerOf (decompose : Decomposition α) (constraints : List (Constraint UnknownId α))
    (analyse : Bool) (solved : List (SolvedBlock α)) : SolveReport α × Freedom :=
  (⟨solved.map SolvedBlock.report, lint constraints⟩,
    Freedom.ofResults (analysesOf decompose analyse solved))

omit [LE α] [DecidableLE α] in
theorem analysesOf_append (decompose : Decomposition α) (analyse : Bool)
    (earlier later : List (SolvedBlock α)) :
    analysesOf decompose analyse (earlier ++ later) =
      analysesOf decompose analyse earlier ++ analysesOf decompose analyse later := by
  cases analyse with
  | false => rfl
  | true => exact List.map_append

variable (decompose : Decomposition α) (settings : Settings α)
  (constraints : List (Constraint UnknownId α)) (analyse : Bool)

omit [LE α] [DecidableLE α] in
private theorem analysed_eq_ok (positions : List Nat) {members : List (Constraint UnknownId α)}
    (solution : Solution (ComponentSystem.ofConstraints members).width α) (arena : Arena α) :
    Run.ofExcept
        (if analyse then do
          let result ← freedom decompose (ComponentSystem.ofConstraints members).columns
            (total (members.map Constraint.dimension)) members solution.assignment
          return [result]
        else .ok []) arena =
      (.ok (analysesOf decompose analyse
        [⟨positions, ComponentSystem.ofConstraints members, solution⟩]), arena) := by
  apply Run.ofExcept_ok
  cases analyse with
  | false => rfl
  | true =>
      rw [if_pos rfl, freedom_eq_ok decompose members (total_dimension members), ok_bind]
      rfl

/-- A guarded component ends as the running one does, and it is written only if it is solved. -/
theorem solvePart_eq (part : List (Fin constraints.length)) (arena : Arena α) :
    solvePart decompose settings constraints analyse (part.map Fin.val) arena =
      match solveBlock decompose settings (blockOf constraints part) arena with
      | .ok solved =>
          (.ok (.ok (solved.report, analysesOf decompose analyse [solved])), solved.writeTo arena)
      | .error (.failed _ error) => (.ok (.error error), arena)
      | .error .outsideArena => (.error .unknown, arena) := by
  have members := Run.ofExcept_ok (members_eq_ok constraints part) arena
  have searched (known : arena.Contains (blockOf constraints part).unknowns) :=
    refine_eq_ok decompose (blockOf constraints part).constraints settings (total_dimension _)
      (arena.read _ known)
  rw [solvePart, Run.bind_of_ok members]
  rcases solveBlock_cases decompose settings (blockOf constraints part) arena with
    ⟨known, solution, solves, result⟩ | ⟨known, error, fails, result⟩ | ⟨unknown, result⟩
  · have found := Run.ofExcept_ok ((searched known).trans (congrArg Except.ok solves)) arena
    rw [result]
    refine (Run.bind_of_ok (readAll_known known) _).trans ?_
    refine (Run.bind_of_ok found _).trans ?_
    have analysed := analysed_eq_ok decompose analyse (blockOf constraints part).positions solution
      arena
    refine (Run.bind_of_ok analysed _).trans ?_
    refine (Run.bind_of_ok (writeAll_known known solution.assignment.toList) _).trans ?_
    rw [positions_blockOf, total_dimension]
    rfl
  · have found := Run.ofExcept_ok ((searched known).trans (congrArg Except.ok fails)) arena
    rw [result]
    refine (Run.bind_of_ok (readAll_known known) _).trans ?_
    exact Run.bind_of_ok found _
  · rw [result]
    exact Run.bind_of_error (readAll_unknown unknown) _

theorem solveFrom_eq (parts : List (List (Fin constraints.length)))
    (earlier : List (SolvedBlock α)) (arena : Arena α) :
    solveFrom decompose settings constraints analyse (parts.map (List.map Fin.val))
        (earlier.map SolvedBlock.report) (analysesOf decompose analyse earlier) arena =
      (outcome (({ walk decompose settings (parts.map (blockOf constraints)) arena with
          solved := earlier ++
            (walk decompose settings (parts.map (blockOf constraints)) arena).solved }).result
          (lint constraints) (answerOf decompose constraints analyse)),
        (walk decompose settings (parts.map (blockOf constraints)) arena).arena) := by
  induction parts generalizing earlier arena with
  | nil =>
      rw [List.map_nil, List.map_nil, walk, List.append_nil]
      rfl
  | cons part rest ih =>
      have step := solvePart_eq decompose settings constraints analyse part arena
      rw [List.map_cons, List.map_cons, walk, solveFrom]
      cases result : solveBlock decompose settings (blockOf constraints part) arena with
      | ok solved =>
          rw [result] at step
          have reports : earlier.map SolvedBlock.report ++ [solved.report] =
              (earlier ++ [solved]).map SolvedBlock.report := by
            rw [List.map_append, List.map_singleton]
          refine (Run.bind_of_ok step _).trans ?_
          dsimp only
          rw [reports, ← analysesOf_append, ih, List.append_assoc, List.singleton_append]
      | error halt =>
          rw [result] at step
          cases halt with
          | outsideArena => exact Run.bind_of_error step _
          | failed positions error =>
              have same := positions_of_solveBlock_failed result
              rw [positions_blockOf] at same
              refine (Run.bind_of_ok step _).trans ?_
              rw [same, List.append_nil, List.length_map]
              rfl

theorem solveComponents_eq (arena : Arena α) :
    solveComponents decompose settings constraints analyse arena =
      (outcome ((walk decompose settings (blocks constraints) arena).result (lint constraints)
          (answerOf decompose constraints analyse)),
        (walk decompose settings (blocks constraints) arena).arena) := by
  have none : analysesOf decompose analyse [] = [] := by
    cases analyse with
    | false => rfl
    | true => rfl
  have all := solveFrom_eq decompose settings constraints analyse
    (Drafting.components constraints) [] arena
  rw [List.map_nil, none, ← blocks_eq_map] at all
  rw [solveComponents, Run.bind_of_ok (Run.ofExcept_ok (components_eq_ok constraints) arena)]
  exact all

theorem solve_eq (arena : Arena α) :
    solve decompose settings constraints arena =
      (outcome (Drafting.solve decompose settings constraints arena).1,
        (Drafting.solve decompose settings constraints arena).2) := by
  have result := solveComponents_eq decompose settings constraints false arena
  unfold solve Drafting.solve Walk.result at *
  dsimp only
  cases ends : (walk decompose settings (blocks constraints) arena).halt with
  | none =>
      rw [ends] at result
      exact Run.bind_of_ok result _
  | some halt =>
      rw [ends] at result
      cases halt with
      | outsideArena => exact Run.bind_of_error result _
      | failed positions error => exact Run.bind_of_ok result _

theorem solveWithFreedom_eq (arena : Arena α) :
    solveWithFreedom decompose settings constraints arena =
      (outcome (Drafting.solveWithFreedom decompose settings constraints arena).1,
        (Drafting.solveWithFreedom decompose settings constraints arena).2) :=
  solveComponents_eq decompose settings constraints true arena

end Agreement

section Stops

/-- Some component mentions an unknown outside the arena, and a walk over those before it solves them
all. -/
def StopsAt (decompose : Decomposition α) (settings : Settings α)
    (constraints : List (Constraint UnknownId α)) (arena : Arena α) (k : Nat) : Prop :=
  (∃ block, (blocks constraints)[k]? = some block ∧ ¬arena.Contains block.unknowns) ∧
    (∀ earlier ∈ (blocks constraints).take k, arena.Contains earlier.unknowns) ∧
    (walk decompose settings ((blocks constraints).take k) arena).halt = none

variable {decompose : Decomposition α} {settings : Settings α}
  {constraints : List (Constraint UnknownId α)} {arena : Arena α} {k : Nat}

theorem walk_eq_of_stopsAt (stops : StopsAt decompose settings constraints arena k) :
    walk decompose settings (blocks constraints) arena =
      { walk decompose settings ((blocks constraints).take k) arena with
        halt := some .outsideArena } := by
  obtain ⟨⟨block, atK, unknown⟩, _, complete⟩ := stops
  exact walk_eq_of_unknown atK unknown complete

theorem halt_eq_outsideArena_iff :
    (walk decompose settings (blocks constraints) arena).halt = some .outsideArena ↔
      ∃ k, StopsAt decompose settings constraints arena k := by
  constructor
  · intro halts
    obtain ⟨k, block, atK, unknown, complete⟩ := exists_unknown_of_halt halts
    exact ⟨k, ⟨block, atK, unknown⟩, contains_of_halt_none complete, complete⟩
  · rintro ⟨k, stops⟩
    rw [walk_eq_of_stopsAt stops]

theorem solve_eq_error_iff (fault : Fault) :
    (solve decompose settings constraints arena).1 = .error fault ↔
      fault = .unknown ∧ ∃ k, StopsAt decompose settings constraints arena k := by
  rw [solve_eq, outcome_eq_error_iff, Drafting.solve, Walk.result_eq_outsideArena_iff,
    halt_eq_outsideArena_iff]

theorem solveWithFreedom_eq_error_iff (fault : Fault) :
    (solveWithFreedom decompose settings constraints arena).1 = .error fault ↔
      fault = .unknown ∧ ∃ k, StopsAt decompose settings constraints arena k := by
  rw [solveWithFreedom_eq, outcome_eq_error_iff, Drafting.solveWithFreedom,
    Walk.result_eq_outsideArena_iff, halt_eq_outsideArena_iff]

theorem left_of_stopsAt (stops : StopsAt decompose settings constraints arena k) :
    (∀ earlier ∈ (blocks constraints).take k, ∃ solved,
      solveBlock decompose settings earlier arena = .ok solved ∧
        ∀ j, (walk decompose settings (blocks constraints) arena).arena.value?
          (solved.system.columns.get j) = some (solved.solution.assignment.get j)) ∧
    (∀ id, (∀ earlier ∈ (blocks constraints).take k, id ∉ earlier.unknowns) →
      (walk decompose settings (blocks constraints) arena).arena.value? id = arena.value? id) ∧
    (walk decompose settings (blocks constraints) arena).arena.names = arena.names ∧
    (walk decompose settings (blocks constraints) arena).arena.size = arena.size := by
  have separate : Separate ((blocks constraints).take k) :=
    (separate_blocks constraints).sublist (List.take_sublist k _)
  have walks : WalksTo decompose settings ((blocks constraints).take k) arena
      (walk decompose settings ((blocks constraints).take k) arena) := walk_walksTo separate arena
  have solves := walks.all_solved stops.2.2
  rw [walk_eq_of_stopsAt stops]
  dsimp only
  refine ⟨?_, ?_, ?_, ?_⟩
  · intro earlier member
    obtain ⟨solved, solvedMember, result⟩ := exists_related solves member
    refine ⟨solved, result, ?_⟩
    obtain ⟨known, solution, _, same⟩ := solveBlock_eq_ok_iff.mp result
    subst same
    exact walks.value?_of_solved separate solvedMember (nodup_mentioned _) known
  · intro id unmentioned
    apply walks.value?_of_unsolved
    rwa [walks.length_solved stops.2.2, List.take_length]
  · rw [walks.leaves, names_writeAll]
  · rw [walks.leaves, size_writeAll]

end Stops

section Ranks

variable {decompose : Decomposition α}

/-- No component has a larger rank than unknowns, so its degrees of freedom are a true difference. -/
theorem rank_le_of_solved {settings : Settings α} {constraints : List (Constraint UnknownId α)}
    {arena left : Arena α} {report : SolveReport α} {freedom : Freedom}
    (solved : Drafting.solveWithFreedom decompose settings constraints arena =
      (.solved (report, freedom), left)) :
    ∀ component ∈ freedom.components, component.rank ≤ component.unknowns := by
  intro component member
  have answered := (Walk.result_eq_solved_iff.mp (Prod.mk.inj solved).1).2
  rw [← (Prod.mk.inj answered).2] at member
  obtain ⟨result, listed, same⟩ := List.mem_filterMap.mp member
  obtain ⟨block, _, analysed⟩ := List.mem_map.mp listed
  have found := analysed.trans same
  rw [ComponentSystem.unknowns_of_freedom? found]
  exact (ComponentSystem.rank_le_of_freedom? found).trans (Nat.min_le_right _ _)

end Ranks

/-- A guarded solve ends as the running one, and the only fault that it can stop with is an unknown
outside the arena. This comes about exactly if some component mentions one and all before it are
known and solved, and then only the solutions of these are written. -/
theorem solve_stops_exactly_outside_arena (decompose : Decomposition α) (settings : Settings α)
    (constraints : List (Constraint UnknownId α)) (arena : Arena α) :
    solve decompose settings constraints arena =
      (outcome (Drafting.solve decompose settings constraints arena).1,
        (Drafting.solve decompose settings constraints arena).2) ∧
    solveWithFreedom decompose settings constraints arena =
      (outcome (Drafting.solveWithFreedom decompose settings constraints arena).1,
        (Drafting.solveWithFreedom decompose settings constraints arena).2) ∧
    (∀ fault, (solve decompose settings constraints arena).1 = .error fault ↔
      fault = .unknown ∧ ∃ k, StopsAt decompose settings constraints arena k) ∧
    (∀ fault, (solveWithFreedom decompose settings constraints arena).1 = .error fault ↔
      fault = .unknown ∧ ∃ k, StopsAt decompose settings constraints arena k) ∧
    (∀ k, StopsAt decompose settings constraints arena k → ∃ left,
      (solve decompose settings constraints arena).2 = left ∧
      (solveWithFreedom decompose settings constraints arena).2 = left ∧
      (walk decompose settings ((blocks constraints).take k) arena).arena = left ∧
      (∀ earlier ∈ (blocks constraints).take k, ∃ solved,
        solveBlock decompose settings earlier arena = .ok solved ∧
          ∀ j, left.value? (solved.system.columns.get j) =
            some (solved.solution.assignment.get j)) ∧
      (∀ id, (∀ earlier ∈ (blocks constraints).take k, id ∉ earlier.unknowns) →
        left.value? id = arena.value? id) ∧
      left.names = arena.names ∧ left.size = arena.size) ∧
    ∀ report freedom left, Drafting.solveWithFreedom decompose settings constraints arena =
        (.solved (report, freedom), left) →
      ∀ component ∈ freedom.components, component.rank ≤ component.unknowns := by
  refine ⟨solve_eq decompose settings constraints arena,
    solveWithFreedom_eq decompose settings constraints arena, solve_eq_error_iff,
    solveWithFreedom_eq_error_iff, ?_, ?_⟩
  · intro k stops
    refine ⟨(walk decompose settings (blocks constraints) arena).arena, ?_, ?_, ?_,
      left_of_stopsAt stops⟩
    · rw [solve_eq]
      rfl
    · rw [solveWithFreedom_eq]
      rfl
    · rw [walk_eq_of_stopsAt stops]
  · intro report freedom left solved
    exact rank_le_of_solved solved

theorem second_unknown_outside_arena :
    StopsAt unitFactors ⟨100, 1e-10⟩ twoFixed (Arena.ofValues [1]) 1 ∧
    (solve unitFactors ⟨100, 1e-10⟩ twoFixed (Arena.ofValues [1])).1 = .error .unknown ∧
    (solve unitFactors ⟨100, 1e-10⟩ twoFixed (Arena.ofValues [1])).2 = Arena.ofValues [3] := by
  have stops : StopsAt unitFactors ⟨100, 1e-10⟩ twoFixed (Arena.ofValues [1]) 1 := by
    rw [StopsAt, blocks_twoFixed, ← Option.isNone_iff_eq_none]
    refine ⟨⟨[(1, .fixed 1 5)], rfl, ?_⟩, ?_, ?_⟩
    · decide
    · decide
    · decide +kernel
  obtain ⟨_, _, faults, _, leaves, _⟩ :=
    solve_stops_exactly_outside_arena unitFactors ⟨100, 1e-10⟩ twoFixed (Arena.ofValues [1])
  obtain ⟨left, isLeft, _, walked, _⟩ := leaves 1 stops
  refine ⟨stops, (faults .unknown).mpr ⟨rfl, 1, stops⟩, ?_⟩
  rw [isLeft, ← walked, blocks_twoFixed]
  decide +kernel

end Drafting.Guarded
