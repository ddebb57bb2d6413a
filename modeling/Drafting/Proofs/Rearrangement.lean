import Drafting.Proofs.Building
import Drafting.Proofs.Meaning

/-!
# What the order of a problem does not decide

Guesses are looked up by their labels. So unless a label is guessed twice, they can be listed in any
order. Declarations are read before anything else, so they can stand before, between or behind the
instructions that use what they declare. Neither makes a difference to the drawing, nor to the error
if there is none.
-/

namespace Drafting

open Text (Label Instruction Problem)

variable {α : Type}

section Definitions

namespace Text.Problem

def declarations (problem : Problem α) : List (Instruction α) :=
  problem.instructions.filter Instruction.isDeclaration

def statements (problem : Problem α) : List (Instruction α) :=
  problem.instructions.filter fun instruction => !instruction.isDeclaration

structure GuessesPermuted (problem other : Problem α) : Prop where
  instructions_eq : other.instructions = problem.instructions
  points_perm : other.pointGuesses.Perm problem.pointGuesses
  scalars_perm : other.scalarGuesses.Perm problem.scalarGuesses

/-- Declarations stand in other places among the statements, in the order that they had. -/
structure DeclarationsMoved (problem other : Problem α) : Prop where
  pointGuesses_eq : other.pointGuesses = problem.pointGuesses
  scalarGuesses_eq : other.scalarGuesses = problem.scalarGuesses
  declarations_eq : other.declarations = problem.declarations
  statements_eq : other.statements = problem.statements

structure GuessesAgree (problem other : Problem α) : Prop where
  point_eq : ∀ label, other.pointGuesses.lookup label = problem.pointGuesses.lookup label
  scalar_eq : ∀ label, other.scalarGuesses.lookup label = problem.scalarGuesses.lookup label
  firstRepeated_eq : firstRepeated? [] other.guessed = firstRepeated? [] problem.guessed
  sorted_eq : ∀ keep : Label → Bool,
    (other.guessed.filter keep).mergeSort (fun a b => decide (a ≤ b)) =
      (problem.guessed.filter keep).mergeSort fun a b => decide (a ≤ b)

end Text.Problem

end Definitions

section Lookup

variable {β : Type} {entries others : List (Label × β)}

theorem lookup_eq_some_iff_mem (distinct : (entries.map Prod.fst).Nodup) {label : Label} {b : β} :
    entries.lookup label = some b ↔ (label, b) ∈ entries := by
  refine ⟨mem_of_lookup, fun member => ?_⟩
  cases found : entries.lookup label with
  | none => exact absurd (List.mem_map_of_mem member) (lookup_eq_none_iff_not_mem.mp found)
  | some c =>
      cases List.inj_on_of_nodup_map distinct member (mem_of_lookup found) rfl
      rfl

/-- Under distinct labels the order of the entries does not matter. -/
theorem lookup_perm (permuted : others.Perm entries) (distinct : (entries.map Prod.fst).Nodup)
    (label : Label) : others.lookup label = entries.lookup label := by
  have othersDistinct : (others.map Prod.fst).Nodup := (permuted.map _).nodup_iff.mpr distinct
  apply Option.ext
  intro b
  rw [lookup_eq_some_iff_mem othersDistinct, lookup_eq_some_iff_mem distinct, permuted.mem_iff]

theorem guessError_congr (same : ∀ label, others.lookup label = entries.lookup label)
    (label : Label) (expected : EntityKind) :
    Drawing.guessError (others.map Prod.fst) label expected =
      Drawing.guessError (entries.map Prod.fst) label expected := by
  have guessed : label ∈ others.map Prod.fst ↔ label ∈ entries.map Prod.fst := by
    rw [← isSome_lookup_iff_mem, ← isSome_lookup_iff_mem, same]
  rw [Drawing.guessError, Drawing.guessError]
  simp only [guessed]

end Lookup

section Guesses

namespace Text.Problem

variable {problem other : Problem α}

theorem guessesAgree_of_eq (points : other.pointGuesses = problem.pointGuesses)
    (scalars : other.scalarGuesses = problem.scalarGuesses) : problem.GuessesAgree other := by
  have guessed : other.guessed = problem.guessed := by
    rw [guessed, guessed, guessedAs, guessedAs, guessedAs, guessedAs, points, scalars]
  constructor
  · exact fun label => congrArg (List.lookup label) points
  · exact fun label => congrArg (List.lookup label) scalars
  · rw [guessed]
  · intro keep
    rw [guessed]

theorem firstRepeated?_eq_none_iff {labels : List Label} :
    firstRepeated? [] labels = none ↔ labels.Nodup := by
  have checks := checkAll_checkGuess labels fun (label : Label) => Iff.refl (label ∈ [])
  rw [← checkAll_checkGuess_eq_ok_iff, checks]
  cases firstRepeated? [] labels <;> simp

/-- If no label is guessed twice, the order of the guesses cannot be told from what is looked up. -/
theorem GuessesPermuted.agree (permuted : problem.GuessesPermuted other)
    (distinct : problem.guessed.Nodup) : problem.GuessesAgree other := by
  have guessed : other.guessed.Perm problem.guessed :=
    (permuted.points_perm.map Prod.fst).append (permuted.scalars_perm.map Prod.fst)
  have otherDistinct : other.guessed.Nodup := guessed.nodup_iff.mpr distinct
  obtain ⟨points, scalars, _⟩ := List.nodup_append.mp distinct
  constructor
  · exact lookup_perm permuted.points_perm points
  · exact lookup_perm permuted.scalars_perm scalars
  · rw [firstRepeated?_eq_none_iff.mpr distinct, firstRepeated?_eq_none_iff.mpr otherDistinct]
  · intro keep
    apply eq_of_ascending (ascending_mergeSort (otherDistinct.filter keep))
      (ascending_mergeSort (distinct.filter keep))
    intro label
    rw [List.mem_mergeSort, List.mem_mergeSort, (guessed.filter keep).mem_iff]

end Text.Problem

end Guesses

section Building

theorem Text.Problem.declarationsMoved_last (problem : Problem α) :
    problem.DeclarationsMoved
      { problem with instructions := problem.statements ++ problem.declarations } where
  pointGuesses_eq := rfl
  scalarGuesses_eq := rfl
  declarations_eq := by
    simp [Problem.declarations, Problem.statements, List.filter_filter]
  statements_eq := by
    simp [Problem.declarations, Problem.statements, List.filter_filter]

namespace Drawing

variable {problem other : Problem α} {drawing : Drawing α}

theorem declarePoint_agree (agree : problem.GuessesAgree other) (label : Label) :
    drawing.declarePoint other label = drawing.declarePoint problem label := by
  rw [declarePoint, declarePoint, agree.point_eq, guessError_congr agree.scalar_eq]

theorem declareScalar_agree (agree : problem.GuessesAgree other) (label : Label) :
    drawing.declareScalar other label = drawing.declareScalar problem label := by
  rw [declareScalar, declareScalar, agree.scalar_eq, guessError_congr agree.point_eq]

theorem declareAll_agree (agree : problem.GuessesAgree other) (instructions : List (Instruction α)) :
    declareAll other drawing instructions = declareAll problem drawing instructions := by
  induction instructions generalizing drawing with
  | nil => rfl
  | cons instruction rest ih =>
      cases instruction with
      | declarePoint label => simp only [declareAll, declarePoint_agree agree, ih]
      | declareScalar label => simp only [declareAll, declareScalar_agree agree, ih]
      | _ => exact ih

/-- To declare the labels is to read the declarations alone. -/
theorem declareAll_filter (instructions : List (Instruction α)) :
    declareAll problem drawing (instructions.filter Instruction.isDeclaration) =
      declareAll problem drawing instructions := by
  induction instructions generalizing drawing with
  | nil => rfl
  | cons instruction rest ih =>
      cases instruction with
      | declarePoint label | declareScalar label =>
          rw [List.filter_cons_of_pos rfl]
          simp only [declareAll, ih]
      | _ =>
          rw [List.filter_cons_of_neg Bool.false_ne_true]
          exact ih

/-- To state the constraints is to read the statements alone. -/
theorem stateAll_filter (instructions : List (Instruction α)) :
    drawing.stateAll (instructions.filter fun instruction => !instruction.isDeclaration) =
      drawing.stateAll instructions := by
  induction instructions with
  | nil => rfl
  | cons instruction rest ih =>
      cases declares : instruction.isDeclaration with
      | true =>
          rw [List.filter_cons_of_neg (by rw [declares]; exact Bool.false_ne_true), ih, stateAll]
          cases instruction with
          | declarePoint | declareScalar =>
              cases drawing.stateAll rest <;> rfl
          | _ => cases declares
      | false => rw [List.filter_cons_of_pos (by rw [declares]; rfl), stateAll, stateAll, ih]

/-- A drawing depends on no more than what is looked up in the guesses, the declarations and the
statements. -/
theorem ofProblem_agree (agree : problem.GuessesAgree other)
    (declarations : other.declarations = problem.declarations)
    (statements : other.statements = problem.statements) : ofProblem other = ofProblem problem := by
  have declares : declareAll other (empty : Drawing α) other.instructions =
      declareAll problem empty problem.instructions := by
    rw [declareAll_agree agree, ← declareAll_filter other.instructions,
      ← declareAll_filter problem.instructions]
    exact congrArg _ declarations
  have states (drawing : Drawing α) :
      drawing.stateAll other.instructions = drawing.stateAll problem.instructions := by
    rw [← stateAll_filter other.instructions, ← stateAll_filter problem.instructions]
    exact congrArg _ statements
  have unused (keep : Label → Bool) :
      other.guessed.filter keep = [] ↔ problem.guessed.filter keep = [] := by
    -- In ascending order the two lists are the same, and so are their lengths.
    have lengths := congrArg List.length (agree.sorted_eq keep)
    rw [List.length_mergeSort, List.length_mergeSort] at lengths
    rw [← List.length_eq_zero_iff, ← List.length_eq_zero_iff, lengths]
  have repeated := agree.firstRepeated_eq
  have sorted := agree.sorted_eq
  simp only [Problem.guessed, Problem.guessedAs] at repeated unused sorted
  simp only [ofProblem, repeated, declares, states, ne_eq, unused, sorted]

end Drawing

end Building

/-- The order of the guesses makes no difference to the result unless a label is guessed twice, and the
places of the declarations among the statements never make one. In particular all labels may be used
before they are declared. -/
theorem order_of_guesses_and_declarations_is_free (problem : Problem α) :
    (problem.guessed.Nodup → ∀ other, problem.GuessesPermuted other →
      Drawing.ofProblem other = Drawing.ofProblem problem) ∧
    (∀ other, problem.DeclarationsMoved other →
      Drawing.ofProblem other = Drawing.ofProblem problem) ∧
    Drawing.ofProblem
        { problem with instructions := problem.statements ++ problem.declarations } =
      Drawing.ofProblem problem := by
  have moved (other : Problem α) (moves : problem.DeclarationsMoved other) :
      Drawing.ofProblem other = Drawing.ofProblem problem :=
    Drawing.ofProblem_agree
      (Problem.guessesAgree_of_eq moves.pointGuesses_eq moves.scalarGuesses_eq)
      moves.declarations_eq moves.statements_eq
  refine ⟨?_, moved, moved _ problem.declarationsMoved_last⟩
  intro distinct other permuted
  apply Drawing.ofProblem_agree (permuted.agree distinct)
  · exact congrArg (List.filter _) permuted.instructions_eq
  · exact congrArg (List.filter _) permuted.instructions_eq

def lateDeclarations : Problem Int where
  instructions := [.vertical ⟨"p", "q"⟩, .declarePoint "p", .distanceScalar ⟨"p", "q"⟩ "d",
    .declareScalar "d", .declarePoint "q"]
  points := ["p", "q"]
  scalars := ["d"]
  pointGuesses := [("p", ⟨1, 2⟩), ("q", ⟨3, 4⟩)]
  scalarGuesses := [("d", 5)]

def swappedGuesses : Problem Int :=
  { lateDeclarations with pointGuesses := [("q", ⟨3, 4⟩), ("p", ⟨1, 2⟩)] }

def earlierDeclarations : Problem Int :=
  { lateDeclarations with
    instructions := [.declarePoint "p", .vertical ⟨"p", "q"⟩, .declareScalar "d",
      .declarePoint "q", .distanceScalar ⟨"p", "q"⟩ "d"] }

theorem late_declarations_and_swapped_guesses :
    lateDeclarations.guessed.Nodup ∧ lateDeclarations.GuessesPermuted swappedGuesses ∧
    lateDeclarations.DeclarationsMoved earlierDeclarations ∧
    (Drawing.ofProblem lateDeclarations).toOption.map Drawing.constraints =
      some [.vertical ⟨0, 1⟩ ⟨3, 4⟩, .distance ⟨0, 1⟩ ⟨3, 4⟩ 2] ∧
    Drawing.ofProblem swappedGuesses = Drawing.ofProblem lateDeclarations ∧
    Drawing.ofProblem earlierDeclarations = Drawing.ofProblem lateDeclarations := by
  have distinct : lateDeclarations.guessed.Nodup := by decide
  have permuted : lateDeclarations.GuessesPermuted swappedGuesses := ⟨rfl, .swap _ _ _, .refl _⟩
  have moved : lateDeclarations.DeclarationsMoved earlierDeclarations := ⟨rfl, rfl, rfl, rfl⟩
  obtain ⟨guesses, declarations, _⟩ := order_of_guesses_and_declarations_is_free lateDeclarations
  refine ⟨distinct, permuted, moved, by decide +kernel, guesses distinct _ permuted, ?_⟩
  exact declarations _ moved

end Drafting
