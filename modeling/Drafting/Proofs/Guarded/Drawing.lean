import Drafting.Proofs.Allocation
import Drafting.Proofs.Guarded.Solving
import Drafting.Proofs.Observation

/-!
# Solving a drawing never faults

The values and names that are gathered after a solve are looked up, too. In the drawing of a text all
look-ups succeed, before and after each solve: the constraints mention unknowns of the arena only, a
solve changes values but no names, and each unknown that can move has a name of its own.
-/

namespace Drafting

open Text (Label Instruction Problem)

variable {α : Type}

namespace Guarded

section Gathering

def readName (id : UnknownId) : Run α (Option String) := fun arena =>
  (found .unknown ((arena.get? id).map Unknown.name), arena)

def gatherPoints : List (Label × Point UnknownId) → Run α (List (Label × Point α))
  | [] => pure []
  | (label, p) :: rest => do
      let x ← readValue p.x
      let y ← readValue p.y
      let places ← gatherPoints rest
      return (label, ⟨x, y⟩) :: places

def gatherScalars : List (Label × UnknownId) → Run α (List (Label × α))
  | [] => pure []
  | (label, id) :: rest => do
      let value ← readValue id
      let values ← gatherScalars rest
      return (label, value) :: values

def gatherNames : List UnknownId → Run α (List String)
  | [] => pure []
  | id :: rest => do
      let name ← readName id
      let names ← gatherNames rest
      return name.getD s!"#{id}" :: names

def readSize : Run α Nat := fun arena => (.ok arena.size, arena)

def gather (drawing : Drawing α) (report : SolveReport α) (freedom : Option Freedom) :
    Run α (Outcome α) := do
  let points ← gatherPoints drawing.points
  let scalars ← gatherScalars drawing.scalars
  let movable ← gatherNames ((freedom.map Freedom.movable).getD [])
  let unknowns ← readSize
  return ⟨report.steps, report.components.length, report.warnings, points, scalars, freedom, movable,
    unknowns, total (drawing.constraints.map Constraint.dimension)⟩

variable {arena : Arena α}

theorem gatherPoints_known {points : List (Label × Point UnknownId)}
    (known : ∀ entry ∈ points, arena.Contains entry.2.coordinates) :
    gatherPoints points arena =
      (.ok (points.filterMap fun (label, p) => (arena.place? p).map (label, ·)), arena) := by
  induction points with
  | nil => rfl
  | cons entry rest ih =>
      obtain ⟨label, p⟩ := entry
      obtain ⟨here, later⟩ := List.forall_mem_cons.mp known
      have x : p.x < arena.size := here _ List.mem_cons_self
      have y : p.y < arena.size := here _ (List.mem_cons_of_mem _ List.mem_cons_self)
      have place : arena.place? p = some ⟨arena.value p.x x, arena.value p.y y⟩ := by
        rw [Arena.place?, Arena.value?_of_lt x, Arena.value?_of_lt y]
        rfl
      rw [gatherPoints, Run.bind_of_ok (readValue_known x), Run.bind_of_ok (readValue_known y),
        Run.bind_of_ok (ih later), List.filterMap_cons]
      dsimp only
      rw [place]
      rfl

theorem gatherScalars_known {scalars : List (Label × UnknownId)}
    (known : ∀ entry ∈ scalars, entry.2 < arena.size) :
    gatherScalars scalars arena =
      (.ok (scalars.filterMap fun (label, id) => (arena.value? id).map (label, ·)), arena) := by
  induction scalars with
  | nil => rfl
  | cons entry rest ih =>
      obtain ⟨label, id⟩ := entry
      obtain ⟨here, later⟩ := List.forall_mem_cons.mp known
      rw [gatherScalars, Run.bind_of_ok (readValue_known here), Run.bind_of_ok (ih later),
        List.filterMap_cons]
      dsimp only
      rw [Arena.value?_of_lt here]
      rfl

theorem gatherNames_known {ids : List UnknownId} (known : arena.Contains ids) :
    gatherNames ids arena = (.ok (ids.map arena.shownName), arena) := by
  induction ids with
  | nil => rfl
  | cons id rest ih =>
      obtain ⟨here, later⟩ := List.forall_mem_cons.mp known
      have entry : arena.get? id = some arena.unknowns[id] := Array.getElem?_eq_getElem here
      have named : readName id arena = (.ok arena.unknowns[id].name, arena) := by
        rw [readName, entry]
        rfl
      rw [gatherNames, Run.bind_of_ok named, Run.bind_of_ok (ih later), List.map_cons,
        Arena.shownName, entry]
      rfl

/-- Where all ids are known, what is gathered is the outcome. -/
theorem gather_known {drawing : Drawing α} (formed : drawing.WellFormed)
    (size : arena.size = drawing.arena.size) {freedom : Option Freedom}
    (movable : arena.Contains ((freedom.map Freedom.movable).getD [])) (report : SolveReport α) :
    gather drawing report freedom arena = (.ok (drawing.outcome report freedom arena), arena) := by
  have points : ∀ entry ∈ drawing.points, arena.Contains entry.2.coordinates := by
    rintro ⟨label, p⟩ listed
    obtain ⟨⟨other, entity⟩, member, same⟩ := List.mem_filterMap.mp listed
    cases entity with
    | scalar id => cases same
    | point q =>
        cases same
        exact formed.known size member
  have scalars : ∀ entry ∈ drawing.scalars, entry.2 < arena.size := by
    rintro ⟨label, id⟩ listed
    obtain ⟨⟨other, entity⟩, member, same⟩ := List.mem_filterMap.mp listed
    cases entity with
    | point q => cases same
    | scalar other =>
        cases same
        exact formed.known size member id List.mem_cons_self
  rw [gather, Run.bind_of_ok (gatherPoints_known points),
    Run.bind_of_ok (gatherScalars_known scalars), Run.bind_of_ok (gatherNames_known movable)]
  rfl

end Gathering

section Calls

variable [Precision α] [NatCast α] [Add α] [Sub α] [Mul α] [Div α] [Neg α]
  [OfNat α 0] [OfNat α 1] [OfNat α 2] [LT α] [DecidableLT α] [LE α] [DecidableLE α]

def solveDrawing (decompose : Decomposition α) (settings : Settings α) (drawing : Drawing α) :
    Run α (Except (SolveFailure α) (Outcome α)) := do
  match ← solve decompose settings drawing.constraints with
  | .error failure => return .error failure
  | .ok report => do
      let outcome ← gather drawing report none
      return .ok outcome

def solveDrawingWithFreedom (decompose : Decomposition α) (settings : Settings α)
    (drawing : Drawing α) : Run α (Except (SolveFailure α) (Outcome α)) := do
  match ← solveWithFreedom decompose settings drawing.constraints with
  | .error failure => return .error failure
  | .ok (report, freedom) => do
      let outcome ← gather drawing report (some freedom)
      return .ok outcome

end Calls

end Guarded

namespace Arena

variable {arena : Arena α} {id : UnknownId}

theorem shownName_of_names {names : List String} (named : arena.names = names.map some)
    (known : id < names.length) : arena.shownName id = names[id] := by
  rw [shownName, name_of_names named known, Option.getD_some]

/-- In an arena with names of their own for all unknowns, no two are shown alike. -/
theorem shownName_inj {names : List String} (named : arena.names = names.map some)
    (distinct : names.Nodup) {other : UnknownId} (known : id < arena.size)
    (otherKnown : other < arena.size) (same : arena.shownName id = arena.shownName other) :
    id = other := by
  have size : arena.size = names.length := by
    rw [← length_names, named, List.length_map]
  rw [size] at known otherKnown
  rw [shownName_of_names named known, shownName_of_names named otherKnown] at same
  exact distinct.getElem_inj_iff.mp same

end Arena

section Sound

variable [Precision α] [NatCast α] [Add α] [Sub α] [Mul α] [Div α] [Neg α]
  [OfNat α 0] [OfNat α 1] [OfNat α 2] [LT α] [DecidableLT α] [LE α] [DecidableLE α]
  {decompose : Decomposition α} {settings : Settings α} {constraints : List (Constraint UnknownId α)}
  {drawing : Drawing α} {arena left : Arena α} {result : SolveResult α (SolveReport α)}
  {resultWithFreedom : SolveResult α (SolveReport α × Freedom)} {outcome : Outcome α}

theorem Drawing.solveWithFreedom_eq_solved_iff :
    drawing.solveWithFreedom decompose settings = (.solved outcome, left) ↔
      ∃ report freedom, Drafting.solveWithFreedom decompose settings drawing.constraints
          drawing.arena = (.solved (report, freedom), left) ∧
        drawing.outcome report (some freedom) left = outcome := by
  constructor
  · intro solved
    obtain ⟨result, leaves⟩ := Prod.mk.inj solved
    obtain ⟨⟨report, freedom⟩, found, same⟩ := SolveResult.map_eq_solved_iff.mp result
    rw [leaves] at same
    exact ⟨report, freedom, Prod.ext found leaves, same⟩
  · rintro ⟨report, freedom, solved, same⟩
    rw [Drawing.solveWithFreedom, solved, ← same]
    rfl

/-- A solve changes no names. -/
theorem names_solve (solved : solve decompose settings constraints arena = (result, left)) :
    left.names = arena.names := by
  have leaves : (solve decompose settings constraints arena).2 = left := congrArg Prod.snd solved
  rw [← leaves, solve, (components_walksTo decompose settings constraints arena).leaves,
    names_writeAll]

theorem names_solveWithFreedom
    (solved : solveWithFreedom decompose settings constraints arena = (resultWithFreedom, left)) :
    left.names = arena.names := by
  have leaves : (solveWithFreedom decompose settings constraints arena).2 = left :=
    congrArg Prod.snd solved
  rw [← leaves, solveWithFreedom, (components_walksTo decompose settings constraints arena).leaves,
    names_writeAll]

theorem not_stopsAt_of_known (known : ∀ c ∈ constraints, arena.Contains c.unknowns) (k : Nat) :
    ¬ Guarded.StopsAt decompose settings constraints arena k := by
  rintro ⟨⟨block, atK, unknown⟩, _⟩
  exact unknown (contains_of_mem_blocks constraints known (List.mem_of_getElem? atK))

/-- The unknowns that can move after a solve are unknowns of the arena. -/
theorem contains_movable {report : SolveReport α} {freedom : Freedom}
    (solved : solveWithFreedom decompose settings constraints arena =
      (.solved (report, freedom), left)) : left.Contains freedom.movable := by
  intro id moves
  obtain ⟨component, member, inComponent⟩ := List.mem_flatMap.mp moves
  obtain ⟨i, _, block, componentReport, _, _, analysed, fits⟩ :=
    exists_related (solved_freedom_accounts solved).analysed.flip member
  obtain ⟨known, _⟩ := Block.freedomIn?_eq_some_iff.mp analysed
  exact known id (fits.movable_sublist.subset inComponent)

/-- Every call that solves a drawing does all its look-ups: the guarded calls do not fault, and those
that gather an outcome answer as the running ones. Names are kept, and the unknowns that can move are
shown under names of their own. -/
structure Drawing.SolvesSafely (drawing : Drawing α) (decompose : Decomposition α)
    (settings : Settings α) : Prop where
  solve_ok : ∀ fault,
    (Guarded.solve decompose settings drawing.constraints drawing.arena).1 ≠ .error fault
  solveWithFreedom_ok : ∀ fault,
    (Guarded.solveWithFreedom decompose settings drawing.constraints drawing.arena).1 ≠ .error fault
  outcome_ok : ∀ fault,
    (Guarded.solveDrawing decompose settings drawing drawing.arena).1 ≠ .error fault
  outcomeWithFreedom_ok : ∀ fault,
    (Guarded.solveDrawingWithFreedom decompose settings drawing drawing.arena).1 ≠ .error fault
  outcome_eq : Guarded.solveDrawing decompose settings drawing drawing.arena =
    (Guarded.outcome (drawing.solve decompose settings).1, (drawing.solve decompose settings).2)
  outcomeWithFreedom_eq : Guarded.solveDrawingWithFreedom decompose settings drawing drawing.arena =
    (Guarded.outcome (drawing.solveWithFreedom decompose settings).1,
      (drawing.solveWithFreedom decompose settings).2)
  names_eq : (drawing.solve decompose settings).2.names = drawing.arena.names ∧
    (drawing.solveWithFreedom decompose settings).2.names = drawing.arena.names
  movable_named : ∀ outcome left,
    drawing.solveWithFreedom decompose settings = (.solved outcome, left) →
      ∃ freedom, outcome.freedom = some freedom ∧
        outcome.movable.map some =
          freedom.movable.map (fun id => (left.get? id).bind Unknown.name) ∧
        outcome.movable.Nodup

namespace Drawing.Sound

theorem solveDrawing_eq (sound : drawing.Sound) :
    Guarded.solveDrawing decompose settings drawing drawing.arena =
      (Guarded.outcome (drawing.solve decompose settings).1,
        (drawing.solve decompose settings).2) := by
  have guarded := Guarded.solve_eq decompose settings drawing.constraints drawing.arena
  cases solved : Drafting.solve decompose settings drawing.constraints drawing.arena with
  | mk result left =>
      have size := Arena.size_eq_of_names (names_solve solved)
      rw [solved] at guarded
      rw [Guarded.solveDrawing, Drawing.solve, solved]
      cases result with
      | solved report =>
          have none : left.Contains ((Option.map Freedom.movable none).getD []) :=
            List.forall_mem_nil _
          refine (Guarded.Run.bind_of_ok guarded _).trans ?_
          exact Guarded.Run.bind_of_ok (Guarded.gather_known sound.formed size none report) _
      | failed failure => exact Guarded.Run.bind_of_ok guarded _
      | outsideArena => exact Guarded.Run.bind_of_error guarded _

theorem solveDrawingWithFreedom_eq (sound : drawing.Sound) :
    Guarded.solveDrawingWithFreedom decompose settings drawing drawing.arena =
      (Guarded.outcome (drawing.solveWithFreedom decompose settings).1,
        (drawing.solveWithFreedom decompose settings).2) := by
  have guarded := Guarded.solveWithFreedom_eq decompose settings drawing.constraints drawing.arena
  cases solved : Drafting.solveWithFreedom decompose settings drawing.constraints drawing.arena with
  | mk result left =>
      have size := Arena.size_eq_of_names (names_solveWithFreedom solved)
      rw [solved] at guarded
      rw [Guarded.solveDrawingWithFreedom, Drawing.solveWithFreedom, solved]
      cases result with
      | solved answer =>
          obtain ⟨report, freedom⟩ := answer
          have movable : left.Contains ((Option.map Freedom.movable (some freedom)).getD []) :=
            contains_movable solved
          refine (Guarded.Run.bind_of_ok guarded _).trans ?_
          exact Guarded.Run.bind_of_ok (Guarded.gather_known sound.formed size movable report) _
      | failed failure => exact Guarded.Run.bind_of_ok guarded _
      | outsideArena => exact Guarded.Run.bind_of_error guarded _

theorem movable_named (sound : drawing.Sound)
    (solved : drawing.solveWithFreedom decompose settings = (.solved outcome, left)) :
    ∃ freedom, outcome.freedom = some freedom ∧
      outcome.movable.map some = freedom.movable.map (fun id => (left.get? id).bind Unknown.name) ∧
      outcome.movable.Nodup := by
  obtain ⟨report, freedom, whole, same⟩ := Drawing.solveWithFreedom_eq_solved_iff.mp solved
  obtain ⟨names, named, distinct⟩ := sound.named
  have kept : left.names = names.map some := (names_solveWithFreedom whole).trans named
  have size : left.size = names.length := by
    rw [← Arena.length_names, kept, List.length_map]
  have known := contains_movable whole
  rw [← same]
  refine ⟨freedom, rfl, ?_, ?_⟩
  · refine List.map_map.trans (List.map_congr_left fun id moves => ?_)
    have inNames := (known id moves).trans_eq size
    rw [Function.comp_apply, Arena.shownName_of_names kept inNames,
      Arena.name_of_names kept inNames]
  · apply List.Nodup.map_on _ (solved_freedom_accounts whole).movable_nodup
    intro id moves other otherMoves
    exact Arena.shownName_inj kept distinct (known id moves) (known other otherMoves)

/-- A sound drawing is solved without a fault, whatever the settings are. -/
theorem solvesSafely (sound : drawing.Sound) (decompose : Decomposition α) (settings : Settings α) :
    drawing.SolvesSafely decompose settings := by
  have plain (fault : Guarded.Fault) :
      (Guarded.solve decompose settings drawing.constraints drawing.arena).1 ≠ .error fault := by
    intro faults
    obtain ⟨_, k, stops⟩ := (Guarded.solve_eq_error_iff fault).mp faults
    exact not_stopsAt_of_known sound.known k stops
  have analysed (fault : Guarded.Fault) :
      (Guarded.solveWithFreedom decompose settings drawing.constraints drawing.arena).1 ≠
        .error fault := by
    intro faults
    obtain ⟨_, k, stops⟩ := (Guarded.solveWithFreedom_eq_error_iff fault).mp faults
    exact not_stopsAt_of_known sound.known k stops
  refine ⟨plain, analysed, ?_, ?_, sound.solveDrawing_eq, sound.solveDrawingWithFreedom_eq,
    ⟨names_solve rfl, names_solveWithFreedom rfl⟩, fun outcome left => sound.movable_named⟩
  · intro fault faults
    rw [sound.solveDrawing_eq, Guarded.outcome_eq_error_iff] at faults
    apply plain .unknown
    rw [Guarded.solve_eq, Guarded.outcome_eq_error_iff]
    exact ⟨rfl, SolveResult.map_eq_outsideArena_iff.mp faults.2⟩
  · intro fault faults
    rw [sound.solveDrawingWithFreedom_eq, Guarded.outcome_eq_error_iff] at faults
    apply analysed .unknown
    rw [Guarded.solveWithFreedom_eq, Guarded.outcome_eq_error_iff]
    exact ⟨rfl, SolveResult.map_eq_outsideArena_iff.mp faults.2⟩

end Drawing.Sound

end Sound

/-- The drawing of a text has its unknowns in the order of the declarations, and one constraint for each
other instruction. It is sound, so that at these and at all other values of its unknowns no call that
solves it faults. -/
theorem built_drawings_are_safe {text : String} {problem : Problem Float} {drawing : Drawing Float}
    (reads : Problem.read text = .ok problem) (built : Drawing.ofProblem problem = .ok drawing) :
    drawing.Allocated problem ∧ drawing.Sound ∧
      List.Forall₂ (fun instruction c => drawing.constraint? instruction = .ok (some c))
        (problem.instructions.filter fun instruction => !instruction.isDeclaration)
        drawing.constraints ∧
      ∀ (arena : Arena Float), arena.names = drawing.arena.names →
        ∀ (decompose : Decomposition Float) (settings : Settings Float),
          ({ drawing with arena := arena } : Drawing Float).SolvesSafely decompose settings := by
  have sound := sound_of_read reads built
  refine ⟨allocated_of_ofProblem (keepsLabels_of_read reads) built, sound, forall₂_of_ofProblem built, ?_⟩
  intro arena names decompose settings
  exact (sound.withArena names).solvesSafely decompose settings

theorem names_upright : (Drawing.ofText uprightText).toOption.map (fun drawing => drawing.arena.names) =
    some (["p.x", "p.y", "q.x", "q.y", "d"].map some) := by
  decide +kernel

theorem upright_is_solved_safely : ∃ problem drawing,
    Problem.read uprightText = .ok problem ∧ Drawing.ofProblem problem = .ok drawing ∧
      drawing.arena.names = ["p.x", "p.y", "q.x", "q.y", "d"].map some ∧
      drawing.Allocated problem ∧ drawing.SolvesSafely unitFactors Settings.default := by
  obtain ⟨drawing, built, _⟩ := ofText_upright
  obtain ⟨problem, reads, builds⟩ := Drawing.ofText_ok built
  have names := names_upright
  rw [built] at names
  obtain ⟨allocated, _, _, safe⟩ := built_drawings_are_safe reads builds
  exact ⟨problem, drawing, reads, builds, Option.some.inj names, allocated,
    safe drawing.arena rfl unitFactors Settings.default⟩

end Drafting
