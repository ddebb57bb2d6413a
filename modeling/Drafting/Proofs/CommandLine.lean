import Drafting.CommandLine
import Drafting.Proofs.FixedPlaces
import Drafting.Proofs.Guarded.Drawing
import Drafting.Proofs.Rearrangement

/-!
# The command reports what solving gives

Whatever the flags are, the command answers a text with the result of reading it, building its drawing
and solving it with the default settings. A flag adds lines to the report on a solved drawing, and
changes nothing else.
-/

namespace Drafting

open Text (Label Problem)

section Flags

variable {α : Type}

theorem SolveResult.map_eq_failed_iff {β γ : Type} {f : β → γ} {result : SolveResult α β}
    {failure : SolveFailure α} : result.map f = .failed failure ↔ result = .failed failure := by
  cases result <;> simp [SolveResult.map]

def Outcome.withoutFreedom (outcome : Outcome α) : Outcome α :=
  { outcome with freedom := none, movable := [] }

variable [Precision α] [NatCast α] [Add α] [Sub α] [Mul α] [Div α] [Neg α]
  [OfNat α 0] [OfNat α 1] [OfNat α 2] [LT α] [DecidableLT α] [LE α] [DecidableLE α]

theorem Drawing.solve_eq_withoutFreedom (decompose : Decomposition α) (settings : Settings α)
    (drawing : Drawing α) :
    (drawing.solve decompose settings).1 =
      (drawing.solveWithFreedom decompose settings).1.map Outcome.withoutFreedom := by
  unfold solve solveWithFreedom
  rw [solve_eq_solveWithFreedom]
  cases Drafting.solveWithFreedom decompose settings drawing.constraints drawing.arena with
  | mk result left => cases result <;> rfl

variable {decompose : Decomposition α} {settings : Settings α} {problem : Problem α}
  {drawing : Drawing α} {outcome : Outcome α} {left : Arena α}

theorem Drawing.SolvesTo.reports (solves : drawing.SolvesTo decompose settings outcome left)
    (keeps : problem.KeepsLabels) (built : Drawing.ofProblem problem = .ok drawing) :
    outcome.Reports problem drawing left := by
  obtain ⟨formed, kinds, _⟩ := ofProblem_states built
  obtain ⟨⟨_, leaves⟩, report, freedom, same⟩ := solves.walks
  rw [same]
  apply outcome_reports report freedom keeps formed kinds
  rw [← leaves, (components_walksTo decompose settings drawing.constraints drawing.arena).leaves,
    size_writeAll]

end Flags

namespace CommandLine

def SolvedAs (decompose : Decomposition Float) (text : String) (problem : Problem Float)
    (outcome : Outcome Float) : Prop :=
  ∃ drawing, Problem.read text = .ok problem ∧ Drawing.ofProblem problem = .ok drawing ∧
    (drawing.solve decompose .default).1 = .solved outcome

/-- The lines for a solved drawing that do not depend on a flag or on the time. -/
def summaryLines (coloured : Bool) (outcome : Outcome Float) : List String :=
  warningLines coloured outcome.warnings ++
    [sizeLine coloured outcome, s!"Components: {outcome.components}",
      s!"Iterations needed: {outcome.steps}"]

def analysisLines (coloured : Bool) (outcome : Outcome Float) : List String :=
  (outcome.freedom.map fun freedom => freedomLines coloured freedom outcome.movable).getD []

def tinted (coloured : Bool) (code text : String) : String :=
  if coloured then "\x1b[" ++ code ++ "m" ++ text ++ "\x1b[0m" else text

inductive ListsWarnings (coloured : Bool) : List (Warning Float) → List String → Prop
  | none : ListsWarnings coloured [] []
  | some {warnings : List (Warning Float)} {lines : List String} (nonempty : warnings ≠ [])
      (each : List.Forall₂ (fun warning line => line = "\t" ++ tinted coloured "33" warning.message)
        warnings lines) : ListsWarnings coloured warnings ("Warnings:" :: lines)

/-- The warnings, and then the size of the system, how many components it has and how many steps they
took. A size of which the parts differ is tinted. -/
inductive Summarises (coloured : Bool) (outcome : Outcome Float) : List String → Prop
  | mk {warnings : List String} {size shown : String}
      (warned : ListsWarnings coloured outcome.warnings warnings)
      (size_eq : size = toString outcome.equations ++ " rows, " ++ toString outcome.unknowns ++ " vars")
      (shown_eq : outcome.unknowns = outcome.equations ∧ shown = size ∨
        outcome.unknowns ≠ outcome.equations ∧ shown = tinted coloured "33" size) :
      Summarises coloured outcome (warnings ++ ["Problem size: " ++ shown,
        "Components: " ++ toString outcome.components, "Iterations needed: " ++ toString outcome.steps])

inductive TellsFailure (coloured : Bool) (failure : SolveFailure Float) :
    List String → List String → Prop
  | mk {warnings solved : List String} (warned : ListsWarnings coloured failure.warnings warnings)
      (solved_eq : failure.solved = [] ∧ solved = [] ∨ failure.solved ≠ [] ∧
        solved = ["Solved " ++ toString failure.solved.length ++ " component(s) before failing"]) :
      TellsFailure coloured failure (warnings ++ solved)
        [tinted coloured "31" "Could not solve system" ++ ": " ++ failure.message,
          "You might have contradictory constraints."]

inductive ListsPoint (label : Label) (p : Point Float) : String → Prop
  | mk {x y : List Char} (spelledX : Number.SpellsFixed 2 p.x x)
      (spelledY : Number.SpellsFixed 2 p.y y) :
      ListsPoint label p ("\t" ++ label ++ ": (" ++ String.ofList x ++ ", " ++ String.ofList y ++ ")")

inductive ListsScalar (label : Label) (value : Float) : String → Prop
  | mk {text : List Char} (spelled : Number.SpellsFixed 2 value text) :
      ListsScalar label value ("\t" ++ label ++ ": " ++ String.ofList text)

/-- One line for each declared label, in order of declaration, with the value that was found. -/
structure ListsPlaces (lines : List String) (problem : Problem Float) (outcome : Outcome Float) :
    Prop where
  distinct : (problem.points ++ problem.scalars).Nodup
  lines_eq : ∃ points scalars,
    lines = "Points:" :: points ++ (if problem.scalars = [] then [] else "Scalars:" :: scalars) ∧
      List.Forall₂ (fun label line => ∃ p, outcome.point? label = some p ∧ ListsPoint label p line)
        problem.points points ∧
      List.Forall₂ (fun label line => ∃ value, outcome.scalar? label = some value ∧
        ListsScalar label value line) problem.scalars scalars

/-- What the command answers to a text: how it exits, what it writes in any case, and what the flags
add to that. -/
structure Answer where
  status : Nat
  summary : List String
  freedom : List String
  places : List String
  errors : List String

namespace Answer

def report (answer : Answer) (showPoints analysis : Bool) (timing : List String) : Report where
  status := answer.status
  output := answer.summary ++ (if answer.status = 0 then timing else []) ++
    (if analysis then answer.freedom else []) ++ (if showPoints then answer.places else [])
  errors := answer.errors

def ofReport (report : Report) : Answer := ⟨report.status, report.output, [], [], report.errors⟩

theorem report_ofReport {report : Report} (fails : report.status ≠ 0) (showPoints analysis : Bool)
    (timing : List String) : (ofReport report).report showPoints analysis timing = report := by
  rw [Answer.report, ofReport, if_neg fails, ite_self, ite_self, List.append_nil, List.append_nil,
    List.append_nil]

def ofResult (coloured : Bool) : SolveResult Float (Outcome Float) → Answer
  | .solved outcome =>
      ⟨0, summaryLines coloured outcome, analysisLines coloured outcome, placeLines outcome, []⟩
  | .failed failure => ofReport (failedReport coloured failure)
  | .outsideArena => ofReport (errorReport outsideArenaMessage)

/-- Leaving out the analysis leaves out its lines. -/
theorem report_ended (coloured showPoints analysis : Bool) (timing : Option Timing)
    (result : SolveResult Float (Outcome Float)) :
    (Attempt.ended (if analysis then result else result.map Outcome.withoutFreedom)).report coloured
        showPoints timing =
      (ofResult coloured result).report showPoints analysis
        ((timing.map (timingLines coloured)).getD []) := by
  cases result with
  | solved outcome => cases analysis <;> rfl
  | failed failure =>
      have fails : (failedReport coloured failure).status ≠ 0 := Nat.one_ne_zero
      rw [SolveResult.map, ite_self]
      exact (report_ofReport fails _ _ _).symm
  | outsideArena =>
      have fails : (errorReport outsideArenaMessage).status ≠ 0 := Nat.one_ne_zero
      rw [SolveResult.map, ite_self]
      exact (report_ofReport fails _ _ _).symm

end Answer

/-- What the command answers to a text, whatever the flags are. -/
def answer (decompose : Decomposition Float) (coloured : Bool) (text : String) : Answer :=
  match Drawing.ofText text with
  | .error error => .ofReport (errorReport error.message)
  | .ok drawing => .ofResult coloured (drawing.solveWithFreedom decompose .default).1

/-- An answer says how reading, building and solving a text with the default settings ended, and a
flag only adds to an answer that tells of a solved drawing. -/
structure Answer.Tells (answer : Answer) (decompose : Decomposition Float) (coloured : Bool)
    (text : String) : Prop where
  status_eq_zero_iff : answer.status = 0 ↔ ∃ problem outcome, SolvedAs decompose text problem outcome
  fails : answer.status ≠ 0 → answer.status = 1 ∧ answer.freedom = [] ∧ answer.places = []
  solved : ∀ problem outcome, SolvedAs decompose text problem outcome →
    Summarises coloured outcome answer.summary ∧ answer.errors = [] ∧
      ListsPlaces answer.places problem outcome
  failed : ∀ drawing failure, Drawing.ofText text = .ok drawing →
    (drawing.solve decompose .default).1 = .failed failure →
      TellsFailure coloured failure answer.summary answer.errors
  refused : ∀ error, Drawing.ofText text = .error error →
    answer.summary = [] ∧ answer.errors = ("Error: " ++ error.message).splitOn "\n"

variable {decompose : Decomposition Float} {coloured : Bool} {text : String}
  {drawing : Drawing Float} {problem : Problem Float} {outcome : Outcome Float}

theorem attempt_of_drawing (built : Drawing.ofText text = .ok drawing) (runs : Nat)
    (analysis : Bool) :
    attempt decompose runs analysis text =
      .ended (if analysis then (drawing.solveWithFreedom decompose .default).1
        else (drawing.solve decompose .default).1) := by
  rw [attempt, built]
  dsimp only
  split
  · rename_i outcome solved
    rw [laterFailure?_of_first solved, solved]
  · rfl

/-- The constraints of a text mention nothing that the drawing does not have. -/
theorem attempt_ne_outsideArena (decompose : Decomposition Float) (runs : Nat) (analysis : Bool)
    (text : String) : attempt decompose runs analysis text ≠ .ended .outsideArena := by
  cases built : Drawing.ofText text with
  | error error =>
      rw [attempt, built]
      exact Attempt.noConfusion
  | ok drawing =>
      obtain ⟨problem, reads, builds⟩ := Drawing.ofText_ok built
      have safe := (sound_of_read reads builds).solvesSafely decompose .default
      have inside : (drawing.solveWithFreedom decompose .default).1 ≠ .outsideArena := by
        intro outside
        apply safe.outcomeWithFreedom_ok .unknown
        rw [safe.outcomeWithFreedom_eq, Guarded.outcome_eq_error_iff]
        exact ⟨rfl, outside⟩
      rw [attempt_of_drawing built, Drawing.solve_eq_withoutFreedom]
      intro ended
      cases analysis with
      | true => exact inside (Attempt.ended.inj ended)
      | false => exact inside (SolveResult.map_eq_outsideArena_iff.mp (Attempt.ended.inj ended))

theorem answer_of_drawing (built : Drawing.ofText text = .ok drawing) :
    answer decompose coloured text =
      .ofResult coloured (drawing.solveWithFreedom decompose .default).1 := by
  rw [answer, built]

theorem answer_of_error {error : ProblemError} (refuses : Drawing.ofText text = .error error) :
    answer decompose coloured text = .ofReport (errorReport error.message) := by
  rw [answer, refuses]

/-- Every attempt at a text is reported by the one answer to it. -/
theorem report_attempt (decompose : Decomposition Float) (coloured : Bool) (text : String)
    (runs : Nat) (showPoints analysis : Bool) (timing : Option Timing) :
    (attempt decompose runs analysis text).report coloured showPoints timing =
      (answer decompose coloured text).report showPoints analysis
        ((timing.map (timingLines coloured)).getD []) := by
  cases built : Drawing.ofText text with
  | error error =>
      have fails : (errorReport error.message).status ≠ 0 := Nat.one_ne_zero
      rw [answer_of_error built, Answer.report_ofReport fails, attempt, built]
      rfl
  | ok drawing =>
      rw [attempt_of_drawing built, answer_of_drawing built, Drawing.solve_eq_withoutFreedom]
      exact Answer.report_ended _ _ _ _ _

theorem ofText_of_problem (reads : Problem.read text = .ok problem)
    (built : Drawing.ofProblem problem = .ok drawing) : Drawing.ofText text = .ok drawing := by
  rw [Drawing.ofText, reads]
  dsimp only
  rw [built]
  rfl

theorem paint_yellow (coloured : Bool) (text : String) :
    paint coloured .yellow text = tinted coloured "33" text := by
  cases coloured <;> rfl

theorem paint_red (coloured : Bool) (text : String) :
    paint coloured .red text = tinted coloured "31" text := by
  cases coloured <;> rfl

theorem listsWarnings_warningLines (coloured : Bool) (warnings : List (Warning Float)) :
    ListsWarnings coloured warnings (warningLines coloured warnings) := by
  cases warnings with
  | nil => exact .none
  | cons first rest =>
      refine .some (List.cons_ne_nil first rest) ?_
      rw [List.forall₂_map_right_iff, List.forall₂_same]
      intro warning _
      rw [paint_yellow]

theorem summarises_summaryLines (coloured : Bool) (outcome : Outcome Float) :
    Summarises coloured outcome (summaryLines coloured outcome) := by
  refine .mk (listsWarnings_warningLines coloured outcome.warnings) rfl ?_
  split
  · rename_i same
    exact Or.inl ⟨same, rfl⟩
  · rename_i differ
    exact Or.inr ⟨differ, paint_yellow coloured _⟩

theorem tellsFailure_failedReport (coloured : Bool) (failure : SolveFailure Float) :
    TellsFailure coloured failure (failedReport coloured failure).output
      (failedReport coloured failure).errors := by
  rw [failedReport, paint_red]
  refine .mk (listsWarnings_warningLines coloured failure.warnings) ?_
  cases failure.solved with
  | nil => exact Or.inl ⟨rfl, rfl⟩
  | cons first rest => exact Or.inr ⟨List.cons_ne_nil first rest, rfl⟩

theorem listsPoint_pointLine (label : Label) (p : Point Float) :
    ListsPoint label p (pointLine label p) := by
  obtain ⟨x, spelledX, sameX⟩ := Number.exists_spellsFixed two_ne_zero p.x
  obtain ⟨y, spelledY, sameY⟩ := Number.exists_spellsFixed two_ne_zero p.y
  rw [pointLine, sameX, sameY]
  exact .mk spelledX spelledY

theorem listsScalar_scalarLine (label : Label) (value : Float) :
    ListsScalar label value (scalarLine label value) := by
  obtain ⟨text, spelled, same⟩ := Number.exists_spellsFixed two_ne_zero value
  rw [scalarLine, same]
  exact .mk spelled

/-- Under distinct labels, a line for each entry is a line for each label with what is looked up. -/
theorem forall₂_lines {β : Type} {entries : List (Label × β)}
    (distinct : (entries.map Prod.fst).Nodup) {Lists : Label → β → String → Prop}
    {line : Label → β → String} (lists : ∀ label b, Lists label b (line label b)) :
    List.Forall₂ (fun label text => ∃ b, entries.lookup label = some b ∧ Lists label b text)
      (entries.map Prod.fst) (entries.map fun entry => line entry.1 entry.2) := by
  rw [List.forall₂_map_left_iff, List.forall₂_map_right_iff, List.forall₂_same]
  intro entry member
  exact ⟨entry.2, (lookup_eq_some_iff_mem distinct).mpr member, lists entry.1 entry.2⟩

theorem listsPlaces_placeLines {left : Arena Float}
    (reports : outcome.Reports problem drawing left) :
    ListsPlaces (placeLines outcome) problem outcome := by
  obtain ⟨points, scalars, _⟩ := List.nodup_append.mp reports.distinct
  rw [← reports.points_eq] at points
  rw [← reports.scalars_eq] at scalars
  have anyScalar : outcome.scalars = [] ↔ problem.scalars = [] := by
    rw [← reports.scalars_eq, List.map_eq_nil_iff]
  refine ⟨reports.distinct, outcome.points.map fun entry => pointLine entry.1 entry.2,
    outcome.scalars.map fun entry => scalarLine entry.1 entry.2, ?_, ?_, ?_⟩
  · simp only [placeLines, List.isEmpty_iff, List.map_eq_nil_iff, anyScalar]
  · rw [← reports.points_eq]
    exact forall₂_lines points listsPoint_pointLine
  · rw [← reports.scalars_eq]
    exact forall₂_lines scalars listsScalar_scalarLine

theorem solvedAs_iff : SolvedAs decompose text problem outcome ↔
    ∃ drawing whole, Problem.read text = .ok problem ∧ Drawing.ofProblem problem = .ok drawing ∧
      (drawing.solveWithFreedom decompose .default).1 = .solved whole ∧
        whole.withoutFreedom = outcome := by
  constructor
  · rintro ⟨drawing, reads, builds, solved⟩
    rw [Drawing.solve_eq_withoutFreedom, SolveResult.map_eq_solved_iff] at solved
    obtain ⟨whole, found, same⟩ := solved
    exact ⟨drawing, whole, reads, builds, found, same⟩
  · rintro ⟨drawing, whole, reads, builds, found, same⟩
    refine ⟨drawing, reads, builds, ?_⟩
    rw [Drawing.solve_eq_withoutFreedom, SolveResult.map_eq_solved_iff]
    exact ⟨whole, found, same⟩

/-- A text is solved, or its answer fails and has nothing to add. -/
theorem answer_cases (decompose : Decomposition Float) (coloured : Bool) (text : String) :
    ((∃ problem outcome, SolvedAs decompose text problem outcome) ∧
      (answer decompose coloured text).status = 0) ∨
    ((¬∃ problem outcome, SolvedAs decompose text problem outcome) ∧
      (answer decompose coloured text).status = 1 ∧
      (answer decompose coloured text).freedom = [] ∧
      (answer decompose coloured text).places = []) := by
  cases built : Drawing.ofText text with
  | error error =>
      right
      rw [answer_of_error built]
      refine ⟨?_, rfl, rfl, rfl⟩
      rintro ⟨problem, _, drawing, reads, builds, _⟩
      cases built.symm.trans (ofText_of_problem reads builds)
  | ok drawing =>
      have unsolved (never : ∀ whole,
          (drawing.solveWithFreedom decompose .default).1 ≠ .solved whole) :
          ¬∃ problem outcome, SolvedAs decompose text problem outcome := by
        rintro ⟨problem, outcome, solved⟩
        obtain ⟨other, whole, reads, builds, found, _⟩ := solvedAs_iff.mp solved
        cases built.symm.trans (ofText_of_problem reads builds)
        exact never whole found
      rw [answer_of_drawing built]
      cases result : (drawing.solveWithFreedom decompose .default).1 with
      | solved whole =>
          left
          obtain ⟨problem, reads, builds⟩ := Drawing.ofText_ok built
          exact ⟨⟨problem, _, solvedAs_iff.mpr ⟨drawing, whole, reads, builds, result, rfl⟩⟩, rfl⟩
      | failed failure =>
          right
          rw [result] at unsolved
          exact ⟨unsolved nofun, rfl, rfl, rfl⟩
      | outsideArena =>
          right
          rw [result] at unsolved
          exact ⟨unsolved nofun, rfl, rfl, rfl⟩

/-- The result of the library says which answer is given. -/
theorem answer_tells (decompose : Decomposition Float) (coloured : Bool) (text : String) :
    (answer decompose coloured text).Tells decompose coloured text where
  status_eq_zero_iff := by
    rcases answer_cases decompose coloured text with ⟨solved, succeeds⟩ | ⟨unsolved, fails, _⟩
    · exact iff_of_true succeeds solved
    · exact iff_of_false (fails.trans_ne Nat.one_ne_zero) unsolved
  fails nonzero := by
    rcases answer_cases decompose coloured text with ⟨_, succeeds⟩ | ⟨_, fails⟩
    · exact absurd succeeds nonzero
    · exact fails
  solved problem outcome solved := by
    obtain ⟨drawing, whole, reads, builds, found, same⟩ := solvedAs_iff.mp solved
    have solves : drawing.SolvesTo decompose .default whole
        (drawing.solveWithFreedom decompose .default).2 := .inr (Prod.ext found rfl)
    have lists := listsPlaces_placeLines (solves.reports (keepsLabels_of_read reads) builds)
    rw [answer_of_drawing (ofText_of_problem reads builds), found, ← same]
    exact ⟨summarises_summaryLines coloured _, rfl, lists.distinct, lists.lines_eq⟩
  failed drawing failure built fails := by
    rw [Drawing.solve_eq_withoutFreedom, SolveResult.map_eq_failed_iff] at fails
    rw [answer_of_drawing built, fails]
    exact tellsFailure_failedReport coloured failure
  refused error refuses := by
    rw [answer_of_error refuses]
    exact ⟨rfl, rfl⟩

section Arguments

variable {options next last : Gathered} {argument : String} {c : Char} {name : List Char}
  {rest : List String}

theorem readFrom_of_more (spelled : argument.toList = '-' :: '-' :: c :: name)
    (leads : readWord options (c :: name) = .more next) :
    readFrom options (argument :: rest) = readFrom next rest := by
  simp only [readFrom, spelled]
  simp only [leads]

theorem readFrom_of_pathNext (spelled : argument.toList = '-' :: '-' :: c :: name)
    (leads : readWord options (c :: name) = .pathNext next) {path : String}
    (noOption : path.startsWith "-" → path = "-") (takes : next.withPath path = .more last) :
    readFrom options (argument :: path :: rest) = readFrom last rest := by
  have fine : ¬(path.startsWith "-" ∧ path ≠ "-") := fun wrong => wrong.2 (noOption wrong.1)
  simp only [readFrom, spelled]
  simp only [leads, if_neg fine, takes]

theorem readFrom_showPoints (unset : options.showPoints = false) :
    readFrom options ("--show-points" :: rest) = readFrom { options with showPoints := true } rest := by
  apply readFrom_of_more rfl
  simp only [readWord, unset]
  rfl

theorem readFrom_analysis (unset : options.analysis = false) :
    readFrom options ("--analysis" :: rest) = readFrom { options with analysis := true } rest := by
  apply readFrom_of_more rfl
  simp only [readWord, unset]
  rfl

theorem readFrom_path (first : options.path = none) {path : String} (given : path ≠ "")
    (noOption : path.startsWith "-" → path = "-") :
    readFrom options ["--filepath", path] =
      .run ⟨path, options.showPoints, options.analysis, options.verbosity⟩ := by
  have fine : ¬(options.path.isSome ∨ path.isEmpty) := by
    rw [first, String.isEmpty_iff]
    exact fun wrong => wrong.elim Bool.noConfusion given
  rw [readFrom_of_pathNext rfl rfl noOption (if_neg fine), readFrom]
  rfl

end Arguments

def flagArguments (showPoints analysis : Bool) : List String :=
  (if showPoints then ["--show-points"] else []) ++ (if analysis then ["--analysis"] else [])

/-- Every choice of the flags can be asked for, with a file or with standard input. -/
theorem read_flagArguments (showPoints analysis : Bool) {path : String} (given : path ≠ "")
    (noOption : path.startsWith "-" → path = "-") :
    read (flagArguments showPoints analysis ++ ["--filepath", path]) =
      .run ⟨path, showPoints, analysis, 0⟩ := by
  cases showPoints with
  | false =>
      cases analysis with
      | false => exact readFrom_path rfl given noOption
      | true => exact (readFrom_analysis rfl).trans (readFrom_path rfl given noOption)
  | true =>
      refine (readFrom_showPoints rfl).trans ?_
      cases analysis with
      | false => exact readFrom_path rfl given noOption
      | true => exact (readFrom_analysis rfl).trans (readFrom_path rfl given noOption)

/-- The command answers a text by the result of reading it, building its drawing and solving it with
the default settings. The flags choose what is added to a report on a solved drawing, and besides them
only the time makes a difference. A drawing that was solved is solved again each time, and no attempt
ends at an unknown that the drawing does not have. -/
theorem flags_only_add_output (decompose : Decomposition Float) (coloured : Bool) :
    (∀ runs analysis text later, attempt decompose runs analysis text ≠ .endedLater later) ∧
    (∀ runs analysis text, attempt decompose runs analysis text ≠ .ended .outsideArena) ∧
    (∀ text, (answer decompose coloured text).Tells decompose coloured text) ∧
    (∀ showPoints analysis path, path ≠ "" → (path.startsWith "-" → path = "-") →
      read (flagArguments showPoints analysis ++ ["--filepath", path]) =
        .run ⟨path, showPoints, analysis, 0⟩) ∧
    ∀ (m : Type → Type) [Monad m] [LawfulMonad m] (environment : Environment m)
        (clock : m (Option Nat)) (arguments : List String) (options : Options),
      environment.coloured = coloured →
      (∀ work, environment.timed work = (fun lasted => (work (), lasted)) <$> clock) →
      read arguments = .run options →
        run decompose environment arguments = environment.readPath options.path >>= fun
          | .error reason => pure (errorReport (unreadablePath options.path reason))
          | .ok text => (fun lasted =>
              (answer decompose coloured text).report options.showPoints options.analysis
                ((lasted.map fun microseconds => timingLines coloured
                  ⟨environment.runs, microseconds / (environment.runs + 1)⟩).getD [])) <$> clock := by
  refine ⟨attempt_ne_endedLater decompose, attempt_ne_outsideArena decompose,
    answer_tells decompose coloured,
    fun showPoints analysis path => read_flagArguments showPoints analysis, ?_⟩
  intro m _ _ environment clock arguments options sameColour takesTime asks
  subst sameColour
  rw [run, asks]
  apply bind_congr
  intro result
  cases result with
  | error reason => rfl
  | ok text =>
      dsimp only
      rw [takesTime, bind_map_left]
      simp only [report_attempt, Option.map_map, bind_pure_comp]
      rfl

theorem solvedAs_upright : ∃ problem outcome, SolvedAs unitFactors uprightText problem outcome := by
  have finite : (defaultTolerance : Float) ≠ Precision.infinity := by decide +kernel
  obtain ⟨drawing, built, satisfied⟩ := ofText_upright
  obtain ⟨problem, reads, builds⟩ := Drawing.ofText_ok built
  obtain ⟨report, solved⟩ := solve_of_passesIn unitFactors Settings.default (Nat.succ_pos 99)
    (by decide +kernel)
    fun c member => (Constraint.passesIn_iff_satisfiedIn? finite).mpr (satisfied c member)
  refine ⟨problem, drawing.outcome report none drawing.arena, drawing, reads, builds, ?_⟩
  rw [Drawing.solve, solved]
  rfl

def uprightEnvironment : Environment Id where
  coloured := false
  readPath _ := .ok uprightText
  runs := 2
  timed work := (work (), some 300)

theorem upright_is_reported :
    read ["--show-points", "--analysis", "--filepath", "-"] = .run ⟨"-", true, true, 0⟩ ∧
      run unitFactors uprightEnvironment ["--show-points", "--analysis", "--filepath", "-"] =
        (answer unitFactors false uprightText).report true true (timingLines false ⟨2, 100⟩) ∧
      (answer unitFactors false uprightText).status = 0 ∧
      ∃ problem outcome, SolvedAs unitFactors uprightText problem outcome ∧
        (answer unitFactors false uprightText).errors = [] ∧
        ListsPlaces (answer unitFactors false uprightText).places problem outcome := by
  obtain ⟨_, _, tells, reads, runs⟩ := flags_only_add_output unitFactors false
  obtain ⟨problem, outcome, solved⟩ := solvedAs_upright
  have asks := reads true true "-" (by decide) fun _ => rfl
  have told := tells uprightText
  obtain ⟨_, errors, lists⟩ := told.solved problem outcome solved
  have answered := runs Id uprightEnvironment (some 300) _ _ rfl (fun _ => rfl) asks
  exact ⟨asks, answered, told.status_eq_zero_iff.mpr ⟨problem, outcome, solved⟩, problem, outcome,
    solved, errors, lists⟩

end CommandLine

end Drafting
