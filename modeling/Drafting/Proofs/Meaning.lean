import Drafting.Drawing.Message
import Drafting.Proofs.Acceptance
import Drafting.Proofs.Declarations
import Drafting.Proofs.Observation

/-!
# What a problem says about its labels

Each instruction of a problem, other than a declaration, is a formula over the values of its labels
that should be zero. The constraints of the drawing measure just these formulas, in order. So in a
solved drawing all of them are small at the values that are reported.
-/

namespace Drafting

open Text (Label Instruction Ends Problem)

variable {α : Type}

namespace Text.Instruction

def isDeclaration (instruction : Instruction α) : Bool := instruction.declared?.isSome

variable [Add α] [Sub α] [Mul α]

/-- The formula that an instruction wants to be zero, if the labels that it mentions are known. -/
def formula? (place? : Label → Option (Point α)) (value? : Label → Option α) :
    Instruction α → Option α
  | .declarePoint _ | .declareScalar _ => none
  | .fixCoordinate point .x value => do
      let p ← place? point
      return p.x - value
  | .fixCoordinate point .y value => do
      let p ← place? point
      return p.y - value
  | .fixScalar scalar value => do
      let d ← value? scalar
      return d - value
  | .vertical ends => do
      let p ← place? ends.start
      let q ← place? ends.finish
      return p.x - q.x
  | .horizontal ends => do
      let p ← place? ends.start
      let q ← place? ends.finish
      return p.y - q.y
  | .distance ends value => do
      let p ← place? ends.start
      let q ← place? ends.finish
      return (q.x - p.x) * (q.x - p.x) + (q.y - p.y) * (q.y - p.y) - value * value
  | .distanceScalar ends scalar => do
      let p ← place? ends.start
      let q ← place? ends.finish
      let d ← value? scalar
      return (q.x - p.x) * (q.x - p.x) + (q.y - p.y) * (q.y - p.y) - d * d
  | .congruent s t => do
      let a ← place? s.start
      let b ← place? s.finish
      let c ← place? t.start
      let e ← place? t.finish
      return (b.x - a.x) * (b.x - a.x) + (b.y - a.y) * (b.y - a.y) -
        ((e.x - c.x) * (e.x - c.x) + (e.y - c.y) * (e.y - c.y))
  | .parallel s t => do
      let a ← place? s.start
      let b ← place? s.finish
      let c ← place? t.start
      let e ← place? t.finish
      return (b.x - a.x) * (e.y - c.y) - (b.y - a.y) * (e.x - c.x)
  | .perpendicular s t => do
      let a ← place? s.start
      let b ← place? s.finish
      let c ← place? t.start
      let e ← place? t.finish
      return (b.x - a.x) * (e.x - c.x) + (b.y - a.y) * (e.y - c.y)

end Text.Instruction

namespace Drawing

variable {drawing : Drawing α} {label : Label}

theorem point_ok_iff {p : Point UnknownId} :
    drawing.point label = .ok p ↔ drawing.entity? label = some (.point p) := by
  unfold point
  cases drawing.entity? label with
  | none => simp
  | some entity => cases entity <;> simp

theorem scalar_ok_iff {id : UnknownId} :
    drawing.scalar label = .ok id ↔ drawing.entity? label = some (.scalar id) := by
  unfold scalar
  cases drawing.entity? label with
  | none => simp
  | some entity => cases entity <;> simp

theorem segment_ok_iff {ends : Ends} {s : Segment UnknownId} :
    drawing.segment ends = .ok s ↔
      drawing.entity? ends.start = some (.point s.start) ∧
        drawing.entity? ends.finish = some (.point s.finish) := by
  unfold segment
  rw [bind_eq_ok_iff, ← point_ok_iff, ← point_ok_iff]
  constructor
  · rintro ⟨start, first, built⟩
    obtain ⟨finish, second, same⟩ := bind_eq_ok_iff.mp built
    cases same
    exact ⟨first, second⟩
  · rintro ⟨first, second⟩
    exact ⟨s.start, first, bind_eq_ok_iff.mpr ⟨s.finish, second, rfl⟩⟩

section Values

variable [OfNat α 0] {arena : Arena α}

/-- The labels of a drawing have values in each arena of its size. -/
theorem placeIn?_of_entity (formed : drawing.WellFormed) (size : arena.size = drawing.arena.size)
    {p : Point UnknownId} (found : drawing.entity? label = some (.point p)) :
    arena.Contains p.coordinates ∧ drawing.placeIn? arena label = some (p.map arena.reading) := by
  have known : arena.Contains p.coordinates := formed.known size (mem_of_entity? found)
  refine ⟨known, ?_⟩
  rw [placeIn?, found, Option.bind_some, Entity.place?, place?_eq known]

theorem valueIn?_of_entity (formed : drawing.WellFormed) (size : arena.size = drawing.arena.size)
    {id : UnknownId} (found : drawing.entity? label = some (.scalar id)) :
    id < arena.size ∧ drawing.valueIn? arena label = some (arena.reading id) := by
  have known : id < arena.size :=
    formed.known size (mem_of_entity? found) id List.mem_cons_self
  refine ⟨known, ?_⟩
  rw [valueIn?, found, Option.bind_some, Entity.value?, Arena.value?_of_lt known,
    Arena.reading_eq (Arena.value?_of_lt known)]

theorem ends_of_segment (formed : drawing.WellFormed) (size : arena.size = drawing.arena.size)
    {ends : Ends} {s : Segment UnknownId} (found : drawing.segment ends = .ok s) :
    arena.Contains s.coordinates ∧
      drawing.placeIn? arena ends.start = some (s.start.map arena.reading) ∧
      drawing.placeIn? arena ends.finish = some (s.finish.map arena.reading) := by
  obtain ⟨first, second⟩ := segment_ok_iff.mp found
  obtain ⟨startKnown, start⟩ := placeIn?_of_entity formed size first
  obtain ⟨finishKnown, finish⟩ := placeIn?_of_entity formed size second
  exact ⟨List.forall_mem_append.mpr ⟨startKnown, finishKnown⟩, start, finish⟩

end Values

variable [Add α] [Sub α] [Mul α]

/-- At all values of the unknowns, the constraint measures the formula of the instruction. -/
def States (drawing : Drawing α) (instruction : Instruction α) (c : Constraint UnknownId α) : Prop :=
  ∀ arena : Arena α, arena.size = drawing.arena.size → ∃ r, c.residualIn? arena = some r ∧
    instruction.formula? (drawing.placeIn? arena) (drawing.valueIn? arena) = some r

variable [OfNat α 0]

/-- A constraint that stands for one instruction measures its formula. -/
theorem constraint?_states (formed : drawing.WellFormed) {instruction : Instruction α}
    {c : Constraint UnknownId α} (states : drawing.constraint? instruction = .ok (some c)) :
    drawing.States instruction c := by
  intro arena size
  -- In each case the constraint and the formula are evaluated at the same values.
  suffices measured : arena.Contains c.unknowns ∧
      instruction.formula? (drawing.placeIn? arena) (drawing.valueIn? arena) =
        some (c.residual arena.reading) by
    refine ⟨c.residual arena.reading, ?_, measured.2⟩
    rw [Constraint.residualIn?_eq, if_pos measured.1]
  cases instruction with
  | declarePoint label | declareScalar label => cases states
  | fixCoordinate label axis value =>
      obtain ⟨p, found, same⟩ := bind_eq_ok_iff.mp states
      cases same
      obtain ⟨known, place⟩ := placeIn?_of_entity formed size (point_ok_iff.mp found)
      obtain ⟨xKnown, yKnown⟩ := List.forall_mem_cons.mp known
      cases axis with
      | x =>
          rw [Instruction.formula?, place]
          exact ⟨List.forall_mem_singleton.mpr xKnown, rfl⟩
      | y =>
          rw [Instruction.formula?, place]
          exact ⟨yKnown, rfl⟩
  | fixScalar label value =>
      obtain ⟨id, found, same⟩ := bind_eq_ok_iff.mp states
      cases same
      obtain ⟨known, present⟩ := valueIn?_of_entity formed size (scalar_ok_iff.mp found)
      rw [Instruction.formula?, present]
      exact ⟨List.forall_mem_singleton.mpr known, rfl⟩
  | vertical ends | horizontal ends =>
      obtain ⟨s, found, same⟩ := bind_eq_ok_iff.mp states
      cases same
      obtain ⟨known, start, finish⟩ := ends_of_segment formed size found
      rw [Instruction.formula?, start, finish]
      refine ⟨fun id mentions => known id ?_, rfl⟩
      simp only [Constraint.vertical, Constraint.horizontal, Constraint.unknowns, List.mem_cons,
        List.not_mem_nil, or_false] at mentions
      rcases mentions with same | same <;> simp [same, Segment.coordinates, Point.coordinates]
  | distance ends value =>
      obtain ⟨s, found, same⟩ := bind_eq_ok_iff.mp states
      cases same
      obtain ⟨known, start, finish⟩ := ends_of_segment formed size found
      rw [Instruction.formula?, start, finish]
      exact ⟨known, rfl⟩
  | distanceScalar ends label =>
      obtain ⟨s, found, rest⟩ := bind_eq_ok_iff.mp states
      obtain ⟨length, foundLength, same⟩ := bind_eq_ok_iff.mp rest
      cases same
      obtain ⟨known, start, finish⟩ := ends_of_segment formed size found
      obtain ⟨lengthKnown, present⟩ := valueIn?_of_entity formed size (scalar_ok_iff.mp foundLength)
      rw [Instruction.formula?, start, finish, present]
      exact ⟨List.forall_mem_append.mpr ⟨known, List.forall_mem_singleton.mpr lengthKnown⟩, rfl⟩
  | congruent first second | parallel first second | perpendicular first second =>
      obtain ⟨s, foundFirst, rest⟩ := bind_eq_ok_iff.mp states
      obtain ⟨t, foundSecond, same⟩ := bind_eq_ok_iff.mp rest
      cases same
      obtain ⟨known, start, finish⟩ := ends_of_segment formed size foundFirst
      obtain ⟨otherKnown, otherStart, otherFinish⟩ := ends_of_segment formed size foundSecond
      rw [Instruction.formula?, start, finish, otherStart, otherFinish]
      exact ⟨List.forall_mem_append.mpr ⟨known, otherKnown⟩, rfl⟩

omit [Add α] [Sub α] [Mul α] [OfNat α 0] in
theorem isSome_of_constraint? {instruction : Instruction α} {result : Option (Constraint UnknownId α)}
    (states : drawing.constraint? instruction = .ok result) :
    result.isSome = !instruction.isDeclaration := by
  cases instruction with
  | declarePoint label | declareScalar label =>
      cases states
      rfl
  | fixCoordinate | fixScalar | vertical | horizontal | distance =>
      obtain ⟨_, _, same⟩ := bind_eq_ok_iff.mp states
      cases same
      rfl
  | distanceScalar | congruent | parallel | perpendicular =>
      obtain ⟨_, _, rest⟩ := bind_eq_ok_iff.mp states
      obtain ⟨_, _, same⟩ := bind_eq_ok_iff.mp rest
      cases same
      rfl

omit [Add α] [Sub α] [Mul α] [OfNat α 0] in
/-- Each instruction that is no declaration has its constraint, in order. -/
theorem stateAll_forall₂ {instructions : List (Instruction α)}
    {constraints : List (Constraint UnknownId α)}
    (states : drawing.stateAll instructions = .ok constraints) :
    List.Forall₂ (fun instruction c => drawing.constraint? instruction = .ok (some c))
      (instructions.filter fun instruction => !instruction.isDeclaration) constraints := by
  induction instructions generalizing constraints with
  | nil =>
      cases states
      exact .nil
  | cons instruction rest ih =>
      obtain ⟨result, here, built⟩ := bind_eq_ok_iff.mp states
      obtain ⟨later, laterStates, same⟩ := bind_eq_ok_iff.mp built
      cases same
      have kept := isSome_of_constraint? here
      rw [List.filter_cons, ← kept]
      cases result with
      | none => exact ih laterStates
      | some c => exact .cons here (ih laterStates)

/-- The constraints stand for the instructions that are no declarations, in order. -/
theorem stateAll_states (formed : drawing.WellFormed) {instructions : List (Instruction α)}
    {constraints : List (Constraint UnknownId α)}
    (states : drawing.stateAll instructions = .ok constraints) :
    List.Forall₂ drawing.States (instructions.filter fun instruction => !instruction.isDeclaration)
      constraints :=
  (stateAll_forall₂ states).imp fun _ _ => constraint?_states formed

end Drawing

section Outcomes

/-- An outcome reports the declared labels in order, each with its value in an arena. -/
structure Outcome.Reports (outcome : Outcome α) (problem : Problem α) (drawing : Drawing α)
    (left : Arena α) : Prop where
  points_eq : outcome.points.map Prod.fst = problem.points
  scalars_eq : outcome.scalars.map Prod.fst = problem.scalars
  distinct : (problem.points ++ problem.scalars).Nodup
  point?_eq : ∀ label, outcome.point? label = drawing.placeIn? left label
  scalar?_eq : ∀ label, outcome.scalar? label = drawing.valueIn? left label
  point?_isSome_iff : ∀ label, (outcome.point? label).isSome ↔ label ∈ problem.points
  scalar?_isSome_iff : ∀ label, (outcome.scalar? label).isSome ↔ label ∈ problem.scalars

variable {drawing : Drawing α} {problem : Problem α} {left : Arena α} (report : SolveReport α)
  (freedom : Option Freedom)

theorem Drawing.point?_outcome (distinct : (drawing.entities.map Prod.fst).Nodup) (label : Label) :
    (drawing.outcome report freedom left).point? label = drawing.placeIn? left label := by
  have places : (drawing.outcome report freedom left).points =
      drawing.entities.filterMap fun known => (known.2.place? left).map (known.1, ·) := by
    dsimp only [outcome, points]
    rw [List.filterMap_filterMap]
    apply List.filterMap_congr
    rintro ⟨other, entity⟩ _
    cases entity <;> rfl
  rw [Outcome.point?, places, lookup_filterMap_of_nodup distinct]
  rfl

theorem Drawing.scalar?_outcome (distinct : (drawing.entities.map Prod.fst).Nodup) (label : Label) :
    (drawing.outcome report freedom left).scalar? label = drawing.valueIn? left label := by
  have values : (drawing.outcome report freedom left).scalars =
      drawing.entities.filterMap fun known => (known.2.value? left).map (known.1, ·) := by
    dsimp only [outcome, scalars]
    rw [List.filterMap_filterMap]
    apply List.filterMap_congr
    rintro ⟨other, entity⟩ _
    cases entity <;> rfl
  rw [Outcome.scalar?, values, lookup_filterMap_of_nodup distinct]
  rfl

variable [OfNat α 0]

theorem Drawing.map_fst_points_outcome (formed : drawing.WellFormed)
    (size : left.size = drawing.arena.size) :
    (drawing.outcome report freedom left).points.map Prod.fst = drawing.points.map Prod.fst := by
  apply map_fst_filterMap
  rintro ⟨label, p⟩ listed
  obtain ⟨⟨other, entity⟩, member, same⟩ := List.mem_filterMap.mp listed
  cases entity with
  | scalar id => cases same
  | point q =>
      cases same
      rw [place?_eq (formed.known size member), Option.isSome_some]

omit [OfNat α 0] in
theorem Drawing.map_fst_scalars_outcome (formed : drawing.WellFormed)
    (size : left.size = drawing.arena.size) :
    (drawing.outcome report freedom left).scalars.map Prod.fst = drawing.scalars.map Prod.fst := by
  apply map_fst_filterMap
  rintro ⟨label, id⟩ listed
  obtain ⟨⟨other, entity⟩, member, same⟩ := List.mem_filterMap.mp listed
  cases entity with
  | point q => cases same
  | scalar other =>
      cases same
      have known : id < left.size := formed.known size member id List.mem_cons_self
      rw [Arena.value?_of_lt known, Option.isSome_some]

theorem Drawing.outcome_reports (keeps : problem.KeepsLabels) (formed : drawing.WellFormed)
    (kinds : drawing.kinds = problem.instructions.filterMap Instruction.declared?)
    (size : left.size = drawing.arena.size) :
    (drawing.outcome report freedom left).Reports problem drawing left := by
  have points : (drawing.outcome report freedom left).points.map Prod.fst = problem.points := by
    rw [map_fst_points_outcome report freedom formed size, map_fst_points, kinds, keeps.points_eq]
  have scalars : (drawing.outcome report freedom left).scalars.map Prod.fst = problem.scalars := by
    rw [map_fst_scalars_outcome report freedom formed size, map_fst_scalars, kinds,
      keeps.scalars_eq]
  have distinct : ((problem.instructions.filterMap Instruction.declared?).map Prod.fst).Nodup := by
    have labels : drawing.kinds.map Prod.fst = drawing.entities.map Prod.fst := List.map_map
    rw [← kinds, labels]
    exact formed.distinct
  constructor
  · exact points
  · exact scalars
  · rw [keeps.points_eq, keeps.scalars_eq]
    exact nodup_labelsOf distinct
  · exact point?_outcome report freedom formed.distinct
  · exact scalar?_outcome report freedom formed.distinct
  · intro label
    rw [Outcome.point?, ← points, ← not_iff_not, ← lookup_eq_none_iff_not_mem,
      Option.not_isSome_iff_eq_none]
  · intro label
    rw [Outcome.scalar?, ← scalars, ← not_iff_not, ← lookup_eq_none_iff_not_mem,
      Option.not_isSome_iff_eq_none]

end Outcomes

section Texts

variable [Precision α] [NatCast α] [Add α] [Sub α] [Mul α] [Div α] [Neg α]
  [OfNat α 0] [OfNat α 1] [OfNat α 2] [LT α] [DecidableLT α] [LE α] [DecidableLE α]

def Drawing.SolvesTo (drawing : Drawing α) (decompose : Decomposition α) (settings : Settings α)
    (outcome : Outcome α) (left : Arena α) : Prop :=
  drawing.solve decompose settings = (.solved outcome, left) ∨
    drawing.solveWithFreedom decompose settings = (.solved outcome, left)

variable {drawing : Drawing α} {decompose : Decomposition α} {settings : Settings α}
  {outcome : Outcome α} {left : Arena α}

theorem Drawing.SolvesTo.walks (solves : drawing.SolvesTo decompose settings outcome left) :
    ((walk decompose settings (blocks drawing.constraints) drawing.arena).halt = none ∧
      (walk decompose settings (blocks drawing.constraints) drawing.arena).arena = left) ∧
    ∃ report freedom, outcome = drawing.outcome report freedom left := by
  rcases solves with plain | analysed
  · obtain ⟨result, leaves⟩ := Prod.mk.inj plain
    obtain ⟨report, solved, same⟩ := SolveResult.map_eq_solved_iff.mp result
    rw [leaves] at same
    exact ⟨solve_solved_iff.mp ⟨report, Prod.ext solved leaves⟩, report, none, same.symm⟩
  · obtain ⟨result, leaves⟩ := Prod.mk.inj analysed
    obtain ⟨⟨report, freedom⟩, solved, same⟩ := SolveResult.map_eq_solved_iff.mp result
    rw [leaves] at same
    exact ⟨solveWithFreedom_solved_iff.mp ⟨(report, freedom), Prod.ext solved leaves⟩, report,
      some freedom, same.symm⟩

end Texts

theorem Drawing.ofText_ok {text : String} {drawing : Drawing Float}
    (built : Drawing.ofText text = .ok drawing) :
    ∃ problem, Problem.read text = .ok problem ∧ Drawing.ofProblem problem = .ok drawing := by
  unfold ofText at built
  cases reads : Problem.read text with
  | error error =>
      rw [reads] at built
      cases built
  | ok problem =>
      rw [reads] at built
      refine ⟨problem, rfl, ?_⟩
      dsimp only at built
      cases builds : Drawing.ofProblem problem with
      | error error =>
          rw [builds] at built
          cases built
      | ok other =>
          rw [builds] at built
          cases built
          rfl

section Problems

variable {problem : Problem α} {drawing : Drawing α}

/-- What it takes for a drawing to be one of a problem. -/
theorem Drawing.ofProblem_states [Add α] [Sub α] [Mul α] [OfNat α 0]
    (built : Drawing.ofProblem problem = .ok drawing) :
    drawing.WellFormed ∧ drawing.kinds = problem.instructions.filterMap Instruction.declared? ∧
      List.Forall₂ drawing.States
        (problem.instructions.filter fun instruction => !instruction.isDeclaration)
        drawing.constraints := by
  obtain ⟨declared, constraints, declares, states, same⟩ := ofProblem_ok built
  obtain ⟨formed, kinds⟩ := declareAll_ok wellFormed_empty declares
  subst same
  exact ⟨⟨formed.distinct, formed.unknowns_eq⟩, kinds, stateAll_states formed states⟩

end Problems

/-- The constraints of a problem's drawing measure the formulas of its instructions, whatever the
values are. If the drawing is solved, the outcome reports the values of all labels, and at these each
formula is within the tolerance. -/
theorem problem_is_solved_as_stated {text : String} {drawing : Drawing Float}
    (built : Drawing.ofText text = .ok drawing) :
    ∃ problem, Problem.read text = .ok problem ∧ drawing.WellFormed ∧
      drawing.kinds = problem.instructions.filterMap Instruction.declared? ∧
      List.Forall₂ drawing.States
        (problem.instructions.filter fun instruction => !instruction.isDeclaration)
        drawing.constraints ∧
      ∀ (decompose : Decomposition Float) (settings : Settings Float) (outcome : Outcome Float)
        (left : Arena Float), drawing.SolvesTo decompose settings outcome left →
          outcome.Reports problem drawing left ∧
            (settings.tolerance ≠ Precision.infinity →
              ∀ instruction ∈ problem.instructions, instruction.isDeclaration = false →
                ∃ r, instruction.formula? outcome.point? outcome.scalar? = some r ∧
                  magnitude r ≤ settings.tolerance) := by
  obtain ⟨problem, reads, builds⟩ := Drawing.ofText_ok built
  obtain ⟨formed, kinds, states⟩ := Drawing.ofProblem_states builds
  refine ⟨problem, reads, formed, kinds, states, ?_⟩
  intro decompose settings outcome left solves
  obtain ⟨⟨complete, leaves⟩, report, freedom, same⟩ := solves.walks
  have size : left.size = drawing.arena.size := by
    rw [← leaves, (components_walksTo decompose settings drawing.constraints drawing.arena).leaves,
      size_writeAll]
  have reports : outcome.Reports problem drawing left := by
    rw [same]
    exact Drawing.outcome_reports report freedom (keepsLabels_of_read reads) formed kinds size
  refine ⟨reports, ?_⟩
  intro finite instruction member notDeclaration
  obtain ⟨c, listed, measures⟩ := exists_related states
    (List.mem_filter.mpr ⟨member, by rw [notDeclaration, Bool.not_false]⟩)
  obtain ⟨r, measured, formula⟩ := measures left size
  have passes := passesIn_of_halt_none complete listed
  rw [leaves] at passes
  obtain ⟨found, alsoMeasured, small | ⟨_, infinite⟩⟩ := Constraint.holdsIn_of_passesIn passes
  · cases measured.symm.trans alsoMeasured
    rw [funext reports.point?_eq, funext reports.scalar?_eq]
    exact ⟨r, formula, small⟩
  · exact absurd infinite finite

def uprightText : String :=
  "# constraints\npoint p\npoint q\nscalar d\np.x = 0\nvertical(p, q)\ndistance(p, q, d)\nd = 2\n" ++
    "# guesses\np roughly (0, 0)\nq roughly (0, 2)\nd roughly 2\n"

theorem ofText_upright : ∃ drawing, Drawing.ofText uprightText = .ok drawing ∧
    ∀ c ∈ drawing.constraints, c.satisfiedIn? drawing.arena defaultTolerance = some true := by
  have satisfied : (match Drawing.ofText uprightText with
      | .ok drawing => drawing.constraints.all fun c =>
          c.satisfiedIn? drawing.arena defaultTolerance == some true
      | .error _ => false) = true := by
    decide +kernel
  cases result : Drawing.ofText uprightText with
  | error error =>
      rw [result] at satisfied
      cases satisfied
  | ok drawing =>
      rw [result] at satisfied
      exact ⟨drawing, rfl, fun c member => eq_of_beq (List.all_eq_true.mp satisfied c member)⟩

theorem upright_is_solved_as_stated : ∃ drawing problem outcome left,
    Drawing.ofText uprightText = .ok drawing ∧ Problem.read uprightText = .ok problem ∧
      drawing.SolvesTo unitFactors Settings.default outcome left ∧
      outcome.Reports problem drawing left ∧
      ∀ instruction ∈ problem.instructions, instruction.isDeclaration = false →
        ∃ r, instruction.formula? outcome.point? outcome.scalar? = some r ∧
          magnitude r ≤ defaultTolerance := by
  have finite : (defaultTolerance : Float) ≠ Precision.infinity := by decide +kernel
  obtain ⟨drawing, built, satisfied⟩ := ofText_upright
  obtain ⟨report, solved⟩ := solve_of_passesIn unitFactors Settings.default (Nat.succ_pos 99)
    (by decide +kernel)
    fun c member => (Constraint.passesIn_iff_satisfiedIn? finite).mpr (satisfied c member)
  have solves : drawing.SolvesTo unitFactors Settings.default
      (drawing.outcome report none drawing.arena) drawing.arena := by
    left
    rw [Drawing.solve, solved]
    rfl
  obtain ⟨problem, reads, _, _, _, ends⟩ := problem_is_solved_as_stated built
  obtain ⟨reports, small⟩ := ends unitFactors Settings.default _ _ solves
  exact ⟨drawing, problem, _, _, built, reads, solves, reports, small finite⟩

end Drafting
