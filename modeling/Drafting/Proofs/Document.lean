import Mathlib.Order.Bounds.Defs
import Drafting.Proofs.Declarations
import Drafting.Proofs.Grammar

/-!
# Texts are read by the grammar of documents

A document has up to three parts: lines that mean nothing, the constraints section with its header,
and the guesses section with its header. A text is read just if its lines are a document, and then
the problem holds what the lines mean, in order. A text that is not read fails at the first line after
which no document can go on.
-/

namespace Drafting.Text

section Grammar

def unlines (lines : List (List Char)) : List Char := lines.flatMap fun line => line ++ ['\n']

/-- The lines of a text. The last one may have no line feed at its end. -/
structure HasLines (text : List Char) (lines : List (List Char)) : Prop where
  single : ∀ line ∈ lines, '\n' ∉ line
  ended : unlines lines = text ∨ unlines lines = text ++ ['\n']

def IsHeader (title : String) (line : List Char) : Prop :=
  ∃ text, trimmed line = '#' :: text ∧ trimmed text = title.toList

/-- A line that means nothing: it is blank, or a comment that is no header. -/
def IsNoise (line : List Char) : Prop :=
  trimmed line = [] ∨ ∃ text, trimmed line = '#' :: text ∧
    trimmed text ≠ "constraints".toList ∧ trimmed text ≠ "guesses".toList

/-- What a line is written as, without the blanks at its ends. A length that is written like a label
and like a number is a label. -/
def MeansInstruction (line : List Char) (instruction : Instruction Float) : Prop :=
  DerivesInstruction (trimmed line) instruction ∧
    ∀ other, DerivesInstruction (trimmed line) other → ¬ Supersedes other instruction

def MeansGuess (line : List Char) (guess : Guess Float) : Prop := DerivesGuess (trimmed line) guess

inductive SpellsLines {β : Type} (Means : List Char → β → Prop) : List (List Char) → List β → Prop
  | nil : SpellsLines Means [] []
  | noise {line : List Char} {lines : List (List Char)} {values : List β} (quiet : IsNoise line)
      (later : SpellsLines Means lines values) : SpellsLines Means (line :: lines) values
  | value {line : List Char} {lines : List (List Char)} {value : β} {values : List β}
      (meant : Means line value) (later : SpellsLines Means lines values) :
      SpellsLines Means (line :: lines) (value :: values)

/-- The lines of a document, the part that it ends in, and what its sections mean. -/
inductive SpellsDocument :
    Section → List (List Char) → List (Instruction Float) → List (Guess Float) → Prop
  | preamble {above : List (List Char)} (quiet : ∀ line ∈ above, IsNoise line) :
      SpellsDocument .preamble above [] []
  | constraints {above body : List (List Char)} {header : List Char}
      {instructions : List (Instruction Float)} (quiet : ∀ line ∈ above, IsNoise line)
      (headed : IsHeader "constraints" header)
      (spelled : SpellsLines MeansInstruction body instructions) :
      SpellsDocument .constraints (above ++ header :: body) instructions []
  | guesses {above body : List (List Char)} {header : List Char}
      {instructions : List (Instruction Float)} {guesses : List (Guess Float)}
      (before : SpellsDocument .constraints above instructions [])
      (headed : IsHeader "guesses" header) (spelled : SpellsLines MeansGuess body guesses) :
      SpellsDocument .guesses (above ++ header :: body) instructions guesses

/-- A section with its header, or nothing. -/
inductive SpellsOptional {β : Type} (title : String) (Means : List Char → β → Prop) :
    List (List Char) → List β → Prop
  | missing : SpellsOptional title Means [] []
  | present {header : List Char} {body : List (List Char)} {values : List β}
      (headed : IsHeader title header) (spelled : SpellsLines Means body values) :
      SpellsOptional title Means (header :: body) values

/-- Lines that are noise, then the constraints, and then the guesses, where a section may be missing
whether the other one is there or not. -/
structure HasSections (lines above first second : List (List Char))
    (instructions : List (Instruction Float)) (guesses : List (Guess Float)) : Prop where
  lines_eq : lines = above ++ (first ++ second)
  quiet : ∀ line ∈ above, IsNoise line
  constraints : SpellsOptional "constraints" MeansInstruction first instructions
  guesses : SpellsOptional "guesses" MeansGuess second guesses

def RuledOut (lines : List (List Char)) : Prop :=
  ∀ more part instructions guesses, ¬ SpellsDocument part (lines ++ more) instructions guesses

inductive Unfit : Section → List Char → LineError → Prop
  | constraintsHeader {part : Section} {line : List Char} (headed : IsHeader "constraints" line)
      (elsewhere : part ≠ .preamble) : Unfit part line (.unexpectedHeader "constraints".toList)
  | guessesHeader {part : Section} {line : List Char} (headed : IsHeader "guesses" line)
      (elsewhere : part ≠ .constraints) : Unfit part line (.unexpectedHeader "guesses".toList)
  | missingHeader {line : List Char} (content : HasContent (trimmed line)) :
      Unfit .preamble line .missingHeader
  | instruction {line : List Char} {offset : Nat} (content : HasContent (trimmed line))
      (nothing : ∀ instruction, ¬ DerivesInstruction (trimmed line) instruction) :
      Unfit .constraints line (.malformed (trimmed line) offset)
  | guess {line : List Char} {offset : Nat} (content : HasContent (trimmed line))
      (nothing : ∀ guess, ¬ MeansGuess line guess) :
      Unfit .guesses line (.malformed (trimmed line) offset)

end Grammar

section Parts

variable {α : Type}

def Guess.point? : Guess α → Option (Label × Point α)
  | .point label place => some (label, place)
  | .scalar _ _ => none

def Guess.scalar? : Guess α → Option (Label × α)
  | .point _ _ => none
  | .scalar label value => some (label, value)

namespace Contents

def ofParts (instructions : List (Instruction α)) (guesses : List (Guess α)) : Contents α :=
  ⟨instructions, guesses.filterMap Guess.point?, guesses.filterMap Guess.scalar?⟩

def precededBy (instructions : List (Instruction α)) (guesses : List (Guess α))
    (contents : Contents α) : Contents α :=
  ⟨instructions ++ contents.instructions, guesses.filterMap Guess.point? ++ contents.pointGuesses,
    guesses.filterMap Guess.scalar? ++ contents.scalarGuesses⟩

theorem precededBy_empty (instructions : List (Instruction α)) (guesses : List (Guess α)) :
    empty.precededBy instructions guesses = ofParts instructions guesses := by
  simp only [precededBy, empty, ofParts, List.append_nil]

theorem withInstruction_precededBy (instruction : Instruction α)
    (instructions : List (Instruction α)) (guesses : List (Guess α)) (contents : Contents α) :
    (contents.precededBy instructions guesses).withInstruction instruction =
      contents.precededBy (instruction :: instructions) guesses := rfl

theorem withGuess_precededBy (guess : Guess α) (instructions : List (Instruction α))
    (guesses : List (Guess α)) (contents : Contents α) :
    (contents.precededBy instructions guesses).withGuess guess =
      contents.precededBy instructions (guess :: guesses) := by
  cases guess <;> rfl

end Contents

def Problem.ofParts (instructions : List (Instruction α)) (guesses : List (Guess α)) : Problem α where
  instructions := instructions
  points := labelsOf .point (instructions.filterMap Instruction.declared?)
  scalars := labelsOf .scalar (instructions.filterMap Instruction.declared?)
  pointGuesses := guesses.filterMap Guess.point?
  scalarGuesses := guesses.filterMap Guess.scalar?

theorem ofContents_ofParts (instructions : List (Instruction α)) (guesses : List (Guess α)) :
    Problem.ofContents (.ofParts instructions guesses) = Problem.ofParts instructions guesses := by
  unfold Problem.ofContents Contents.ofParts
  rw [declaredLabels_eq]
  rfl

end Parts

section Lines

variable {part : Section} {line : List Char} {rest : List (List Char)}

/-- Each line is of one of these kinds. -/
theorem line_cases (line : List Char) :
    IsNoise line ∨ IsHeader "constraints" line ∨ IsHeader "guesses" line ∨
      HasContent (trimmed line) := by
  cases split : trimmed line with
  | nil => exact Or.inl (Or.inl split)
  | cons first text =>
      by_cases comment : first = '#'
      · subst comment
        by_cases constraints : trimmed text = "constraints".toList
        · exact Or.inr (Or.inl ⟨text, split, constraints⟩)
        · by_cases guesses : trimmed text = "guesses".toList
          · exact Or.inr (Or.inr (Or.inl ⟨text, split, guesses⟩))
          · exact Or.inl (Or.inr ⟨text, split, constraints, guesses⟩)
      · refine Or.inr (Or.inr (Or.inr ⟨List.cons_ne_nil _ _, ?_⟩))
        intro title same
        exact comment (List.cons.inj same).1

theorem readLineIn_noise (quiet : IsNoise line) (part : Section) :
    readLineIn part (trimmed line) = .ok .skipped ∨
      readLineIn part (trimmed line) = .ok (.comment part) := by
  rcases quiet with blank | ⟨text, comment, noConstraints, noGuesses⟩
  · rw [blank]
    exact Or.inl rfl
  · rw [comment, readLineIn, readComment, if_neg noConstraints, if_neg noGuesses]
    exact Or.inr rfl

theorem readLineIn_constraintsHeader (headed : IsHeader "constraints" line) (part : Section) :
    readLineIn part (trimmed line) =
      if part = .preamble then .ok (.comment .constraints)
      else .error (.unexpectedHeader "constraints".toList) := by
  obtain ⟨text, comment, title⟩ := headed
  rw [comment, readLineIn, readComment, if_pos title, title]
  split <;> rfl

theorem readLineIn_guessesHeader (headed : IsHeader "guesses" line) (part : Section) :
    readLineIn part (trimmed line) =
      if part = .constraints then .ok (.comment .guesses)
      else .error (.unexpectedHeader "guesses".toList) := by
  obtain ⟨text, comment, title⟩ := headed
  have other : "guesses".toList ≠ "constraints".toList := by decide
  rw [comment, readLineIn, readComment, title, if_neg other, if_pos rfl]
  split <;> rfl

theorem readLineIn_preamble (content : HasContent line) :
    readLineIn .preamble line = .error .missingHeader := by
  unfold readLineIn
  split
  · exact absurd rfl content.nonempty
  · exact absurd rfl (content.noComment _)
  · rfl

/-- A line with content either means something in its part or is unfit there. -/
theorem readLineIn_content (content : HasContent (trimmed line)) (part : Section) :
    (part = .constraints ∧ ∃ instruction, MeansInstruction line instruction ∧
      readLineIn part (trimmed line) = .ok (.instruction instruction)) ∨
    (part = .guesses ∧ ∃ guess, MeansGuess line guess ∧
      readLineIn part (trimmed line) = .ok (.guess guess)) ∨
    ∃ cause, Unfit part line cause ∧ readLineIn part (trimmed line) = .error cause := by
  cases part with
  | preamble => exact Or.inr (Or.inr ⟨_, .missingHeader content, readLineIn_preamble content⟩)
  | constraints =>
      have read := readLineIn_constraints content
      cases found : readLine Reader.instruction (trimmed line) with
      | ok instruction =>
          rw [found] at read
          exact Or.inl ⟨rfl, instruction, readLineIn_instruction_iff_derives.mp read, read⟩
      | error offset =>
          rw [found] at read
          refine Or.inr (Or.inr ⟨_, .instruction content ?_, read⟩)
          intro instruction derived
          obtain ⟨other, otherRead, _⟩ := derived.exists_readLine
          rw [found] at otherRead
          cases otherRead
  | guesses =>
      have read := readLineIn_guesses content
      cases found : readLine Reader.guess (trimmed line) with
      | ok guess =>
          rw [found] at read
          exact Or.inr (Or.inl ⟨rfl, guess, readLineIn_guess_iff_derives.mp read, read⟩)
      | error offset =>
          rw [found] at read
          refine Or.inr (Or.inr ⟨_, .guess content ?_, read⟩)
          intro guess derived
          rw [derivesGuess_iff_readLine.mp derived] at found
          cases found

end Lines

section Splitting

variable {text line : List Char} {lines : List (List Char)}

theorem splitLines_cons_of_ne {c : Char} (other : c ≠ '\n') :
    splitLines (c :: text) =
      match splitLines text with
      | [] => [[c]]
      | line :: more => (c :: line) :: more :=
  if_neg other

theorem splitLines_newline : splitLines ('\n' :: text) = [] :: splitLines text := rfl

theorem splitLines_hasLines (text : List Char) : HasLines text (splitLines text) := by
  induction text with
  | nil => exact ⟨List.forall_mem_nil _, Or.inl rfl⟩
  | cons c text ih =>
      by_cases newline : c = '\n'
      · rw [newline, splitLines_newline]
        refine ⟨List.forall_mem_cons.mpr ⟨List.not_mem_nil, ih.single⟩, ?_⟩
        exact ih.ended.imp (congrArg ('\n' :: ·)) (congrArg ('\n' :: ·))
      · rw [splitLines_cons_of_ne newline]
        obtain ⟨single, ended⟩ := ih
        cases lines : splitLines text with
        | nil =>
            rw [lines] at ended
            refine ⟨List.forall_mem_singleton.mpr ?_, ?_⟩
            · rw [List.mem_singleton]
              exact fun same => newline same.symm
            · rcases ended with same | same
              · rw [← same]
                exact Or.inr rfl
              · cases text <;> cases same
        | cons line more =>
            rw [lines] at single ended
            obtain ⟨here, later⟩ := List.forall_mem_cons.mp single
            refine ⟨List.forall_mem_cons.mpr ⟨?_, later⟩, ?_⟩
            · rw [List.mem_cons]
              rintro (same | member)
              · exact newline same.symm
              · exact here member
            · exact ended.imp (congrArg (c :: ·)) (congrArg (c :: ·))

theorem splitLines_append_newline (single : '\n' ∉ line) :
    splitLines (line ++ '\n' :: text) = line :: splitLines text := by
  induction line with
  | nil => rfl
  | cons c rest ih =>
      rw [List.mem_cons, not_or] at single
      rw [List.cons_append, splitLines_cons_of_ne fun same => single.1 same.symm, ih single.2]

theorem splitLines_unlines (single : ∀ line ∈ lines, '\n' ∉ line) :
    splitLines (unlines lines) = lines := by
  induction lines with
  | nil => rfl
  | cons line rest ih =>
      obtain ⟨here, later⟩ := List.forall_mem_cons.mp single
      rw [unlines, List.flatMap_cons, List.append_assoc, List.singleton_append,
        splitLines_append_newline here]
      exact congrArg (line :: ·) (ih later)

theorem splitLines_newline_last (text : List Char) :
    splitLines (text ++ ['\n']) = splitLines text ∨
      splitLines (text ++ ['\n']) = splitLines text ++ [[]] := by
  induction text with
  | nil => exact Or.inr rfl
  | cons c text ih =>
      rw [List.cons_append]
      by_cases newline : c = '\n'
      · rw [newline, splitLines_newline, splitLines_newline]
        exact ih.imp (congrArg ([] :: ·)) (congrArg ([] :: ·))
      · rw [splitLines_cons_of_ne newline, splitLines_cons_of_ne newline]
        rcases ih with same | same
        · rw [same]
          exact Or.inl rfl
        · rw [same]
          cases splitLines text with
          | nil => exact Or.inl rfl
          | cons line more => exact Or.inr rfl

/-- The lines of a text are those that it is split into, but for an empty one at its end. -/
theorem HasLines.eq_splitLines (has : HasLines text lines) :
    lines = splitLines text ∨ lines = splitLines text ++ [[]] := by
  have whole := splitLines_unlines has.single
  rcases has.ended with same | same
  · rw [same] at whole
    exact Or.inl whole.symm
  · rw [same] at whole
    rw [← whole]
    exact splitLines_newline_last text

end Splitting

section Reading

/-- How reading goes on line by line: from a part over some lines to a part, with what these lines
mean. -/
inductive Continues :
    Section → List (List Char) → Section → List (Instruction Float) → List (Guess Float) → Prop
  | nil {part : Section} : Continues part [] part [] []
  | noise {part last : Section} {line : List Char} {rest : List (List Char)}
      {instructions : List (Instruction Float)} {guesses : List (Guess Float)}
      (quiet : IsNoise line) (later : Continues part rest last instructions guesses) :
      Continues part (line :: rest) last instructions guesses
  | constraintsHeader {last : Section} {line : List Char} {rest : List (List Char)}
      {instructions : List (Instruction Float)} {guesses : List (Guess Float)}
      (headed : IsHeader "constraints" line)
      (later : Continues .constraints rest last instructions guesses) :
      Continues .preamble (line :: rest) last instructions guesses
  | guessesHeader {last : Section} {line : List Char} {rest : List (List Char)}
      {instructions : List (Instruction Float)} {guesses : List (Guess Float)}
      (headed : IsHeader "guesses" line)
      (later : Continues .guesses rest last instructions guesses) :
      Continues .constraints (line :: rest) last instructions guesses
  | instruction {last : Section} {line : List Char} {rest : List (List Char)}
      {instruction : Instruction Float} {instructions : List (Instruction Float)}
      {guesses : List (Guess Float)} (meant : MeansInstruction line instruction)
      (later : Continues .constraints rest last instructions guesses) :
      Continues .constraints (line :: rest) last (instruction :: instructions) guesses
  | guess {last : Section} {line : List Char} {rest : List (List Char)} {guess : Guess Float}
      {instructions : List (Instruction Float)} {guesses : List (Guess Float)}
      (meant : MeansGuess line guess)
      (later : Continues .guesses rest last instructions guesses) :
      Continues .guesses (line :: rest) last instructions (guess :: guesses)

variable {part last : Section} {number : Nat} {line : List Char} {lines rest : List (List Char)}
  {instructions : List (Instruction Float)} {guesses : List (Guess Float)}

theorem readLinesFrom_noise (quiet : IsNoise line) :
    readLinesFrom part number (line :: rest) = readLinesFrom part (number + 1) rest := by
  rw [readLinesFrom]
  rcases readLineIn_noise quiet part with read | read
  · rw [read]
  · rw [read]

theorem readLinesFrom_unfit {cause : LineError}
    (read : readLineIn part (trimmed line) = .error cause) :
    readLinesFrom part number (line :: rest) = .error ⟨number, cause⟩ := by
  rw [readLinesFrom, read]

theorem readLinesFrom_constraintsHeader (headed : IsHeader "constraints" line) :
    readLinesFrom .preamble number (line :: rest) =
      readLinesFrom .constraints (number + 1) rest := by
  rw [readLinesFrom, readLineIn_constraintsHeader headed, if_pos rfl]

theorem readLinesFrom_guessesHeader (headed : IsHeader "guesses" line) :
    readLinesFrom .constraints number (line :: rest) = readLinesFrom .guesses (number + 1) rest := by
  rw [readLinesFrom, readLineIn_guessesHeader headed, if_pos rfl]

theorem readLinesFrom_instruction {instruction : Instruction Float}
    (meant : MeansInstruction line instruction) :
    readLinesFrom .constraints number (line :: rest) =
      (readLinesFrom .constraints (number + 1) rest).map
        (Contents.withInstruction instruction) := by
  rw [readLinesFrom, readLineIn_instruction_iff_derives.mpr meant]

theorem readLinesFrom_guess {guess : Guess Float} (meant : MeansGuess line guess) :
    readLinesFrom .guesses number (line :: rest) =
      (readLinesFrom .guesses (number + 1) rest).map (Contents.withGuess guess) := by
  rw [readLinesFrom, readLineIn_guess_iff_derives.mpr meant]

/-- Lines over which reading goes on contribute what they mean, and the rest is read on from there. -/
theorem Continues.readLinesFrom_append
    (continues : Continues part lines last instructions guesses) (number : Nat) :
    readLinesFrom part number (lines ++ rest) =
      (readLinesFrom last (number + lines.length) rest).map
        (Contents.precededBy instructions guesses) := by
  have onward (line : List Char) (lines : List (List Char)) (number : Nat) :
      number + (line :: lines).length = number + 1 + lines.length := by
    rw [List.length_cons]
    omega
  induction continues generalizing number with
  | nil =>
      rw [List.nil_append, List.length_nil, Nat.add_zero]
      cases readLinesFrom _ number rest <;> rfl
  | noise quiet _ ih => rw [List.cons_append, readLinesFrom_noise quiet, ih, onward]
  | constraintsHeader headed _ ih =>
      rw [List.cons_append, readLinesFrom_constraintsHeader headed, ih, onward]
  | guessesHeader headed _ ih =>
      rw [List.cons_append, readLinesFrom_guessesHeader headed, ih, onward]
  | @instruction last _ rest instruction instructions guesses meant _ ih =>
      rw [List.cons_append, readLinesFrom_instruction meant, ih, onward]
      cases readLinesFrom last _ _ with
      | error error => rfl
      | ok contents =>
          exact congrArg Except.ok (Contents.withInstruction_precededBy instruction instructions
            guesses contents)
  | @guess last _ rest guess instructions guesses meant _ ih =>
      rw [List.cons_append, readLinesFrom_guess meant, ih, onward]
      cases readLinesFrom last _ _ with
      | error error => rfl
      | ok contents =>
          exact congrArg Except.ok (Contents.withGuess_precededBy guess instructions guesses contents)

theorem Continues.append {middle : Section} {more : List (List Char)}
    {moreInstructions : List (Instruction Float)} {moreGuesses : List (Guess Float)}
    (first : Continues part lines middle instructions guesses)
    (second : Continues middle more last moreInstructions moreGuesses) :
    Continues part (lines ++ more) last (instructions ++ moreInstructions)
      (guesses ++ moreGuesses) := by
  induction first with
  | nil => exact second
  | noise quiet _ ih => exact .noise quiet (ih second)
  | constraintsHeader headed _ ih => exact .constraintsHeader headed (ih second)
  | guessesHeader headed _ ih => exact .guessesHeader headed (ih second)
  | instruction meant _ ih => exact .instruction meant (ih second)
  | guess meant _ ih => exact .guess meant (ih second)

/-- Over a single line reading goes on, or the line is unfit. -/
theorem continues_line_or_unfit (part : Section) (line : List Char) :
    (∃ next instructions guesses, Continues part [line] next instructions guesses) ∨
      ∃ cause, Unfit part line cause ∧ readLineIn part (trimmed line) = .error cause := by
  rcases line_cases line with quiet | headed | headed | content
  · exact Or.inl ⟨part, [], [], .noise quiet .nil⟩
  · have read := readLineIn_constraintsHeader headed part
    by_cases first : part = .preamble
    · subst first
      exact Or.inl ⟨.constraints, [], [], .constraintsHeader headed .nil⟩
    · rw [if_neg first] at read
      exact Or.inr ⟨_, .constraintsHeader headed first, read⟩
  · have read := readLineIn_guessesHeader headed part
    by_cases second : part = .constraints
    · subst second
      exact Or.inl ⟨.guesses, [], [], .guessesHeader headed .nil⟩
    · rw [if_neg second] at read
      exact Or.inr ⟨_, .guessesHeader headed second, read⟩
  · rcases readLineIn_content content part with ⟨here, instruction, meant, _⟩ |
      ⟨here, guess, meant, _⟩ | unfit
    · subst here
      exact Or.inl ⟨.constraints, [instruction], [], .instruction meant .nil⟩
    · subst here
      exact Or.inl ⟨.guesses, [], [guess], .guess meant .nil⟩
    · exact Or.inr unfit

structure StopsAt (part : Section) (lines : List (List Char)) (before : List (List Char))
    (last : Section) (cause : LineError) : Prop where
  continues : ∃ instructions guesses, Continues part before last instructions guesses
  stops : ∃ line after, lines = before ++ line :: after ∧ Unfit last line cause ∧
    readLineIn last (trimmed line) = .error cause

/-- Lines behind an unfit one are not looked at. -/
theorem StopsAt.append {before more : List (List Char)} {cause : LineError}
    (stops : StopsAt part lines before last cause) :
    StopsAt part (lines ++ more) before last cause := by
  obtain ⟨reached, line, after, split, unfit⟩ := stops
  refine ⟨reached, line, after ++ more, ?_, unfit⟩
  rw [split, List.append_assoc, List.cons_append]

theorem StopsAt.length_lt {before : List (List Char)} {cause : LineError}
    (stops : StopsAt part lines before last cause) : before.length < lines.length := by
  obtain ⟨_, line, after, split, _⟩ := stops
  rw [split, List.length_append, List.length_cons]
  omega

/-- Reading goes on to the end, or it ends early. -/
theorem continues_or_stopsAt (part : Section) (lines : List (List Char)) :
    (∃ last instructions guesses, Continues part lines last instructions guesses) ∨
      ∃ before last cause, StopsAt part lines before last cause := by
  induction lines generalizing part with
  | nil => exact Or.inl ⟨part, [], [], .nil⟩
  | cons line rest ih =>
      rcases continues_line_or_unfit part line with ⟨next, _, _, here⟩ | ⟨cause, unfit, read⟩
      · rcases ih next with ⟨last, _, _, later⟩ |
          ⟨before, last, cause, ⟨_, _, later⟩, stopped, after, split, unfit⟩
        · exact Or.inl ⟨last, _, _, here.append later⟩
        · refine Or.inr ⟨line :: before, last, cause, ⟨_, _, here.append later⟩, stopped, after, ?_,
            unfit⟩
          rw [split, List.cons_append]
      · exact Or.inr ⟨[], part, cause, ⟨[], [], .nil⟩, line, rest, rfl, unfit, read⟩

theorem Continues.readLinesFrom_eq_ok (continues : Continues part lines last instructions guesses)
    (number : Nat) :
    readLinesFrom part number lines = .ok (.ofParts instructions guesses) := by
  rw [← List.append_nil lines, continues.readLinesFrom_append, ← Contents.precededBy_empty]
  rfl

theorem StopsAt.readLinesFrom_eq_error {before : List (List Char)} {cause : LineError}
    (stops : StopsAt part lines before last cause) (number : Nat) :
    readLinesFrom part number lines = .error ⟨number + before.length, cause⟩ := by
  obtain ⟨⟨_, _, continues⟩, line, after, split, _, read⟩ := stops
  rw [split, continues.readLinesFrom_append, readLinesFrom_unfit read]
  rfl

theorem readLinesFrom_eq_ok_iff {contents : Contents Float} :
    readLinesFrom part number lines = .ok contents ↔
      ∃ last instructions guesses, Continues part lines last instructions guesses ∧
        contents = .ofParts instructions guesses := by
  constructor
  · intro read
    rcases continues_or_stopsAt part lines with ⟨last, instructions, guesses, continues⟩ |
      ⟨before, last, cause, stops⟩
    · rw [continues.readLinesFrom_eq_ok] at read
      exact ⟨last, instructions, guesses, continues, (Except.ok.inj read).symm⟩
    · rw [stops.readLinesFrom_eq_error] at read
      cases read
  · rintro ⟨last, instructions, guesses, continues, same⟩
    rw [same, continues.readLinesFrom_eq_ok]

theorem readLinesFrom_eq_error_iff {error : ParseError} :
    readLinesFrom part number lines = .error error ↔
      ∃ before last, StopsAt part lines before last error.cause ∧
        error.line = number + before.length := by
  constructor
  · intro read
    rcases continues_or_stopsAt part lines with ⟨last, instructions, guesses, continues⟩ |
      ⟨before, last, cause, stops⟩
    · rw [continues.readLinesFrom_eq_ok] at read
      cases read
    · rw [stops.readLinesFrom_eq_error] at read
      rw [← Except.error.inj read]
      exact ⟨before, last, stops, rfl⟩
  · rintro ⟨before, last, stops, number_eq⟩
    rw [stops.readLinesFrom_eq_error, ← number_eq]

theorem Problem.read_eq_ok_iff {text : String} {problem : Problem Float} :
    Problem.read text = .ok problem ↔
      ∃ last instructions guesses,
        Continues .preamble (splitLines text.toList) last instructions guesses ∧
          problem = .ofParts instructions guesses := by
  rw [Problem.read, map_eq_ok_iff]
  constructor
  · rintro ⟨contents, read, rfl⟩
    obtain ⟨last, instructions, guesses, continues, rfl⟩ := readLinesFrom_eq_ok_iff.mp read
    exact ⟨last, instructions, guesses, continues, ofContents_ofParts instructions guesses⟩
  · rintro ⟨last, instructions, guesses, continues, rfl⟩
    exact ⟨_, continues.readLinesFrom_eq_ok 1, ofContents_ofParts instructions guesses⟩

theorem Problem.read_eq_error_iff {text : String} {error : ParseError} :
    Problem.read text = .error error ↔
      ∃ before last, StopsAt .preamble (splitLines text.toList) before last error.cause ∧
        error.line = 1 + before.length := by
  rw [Problem.read, map_eq_error_iff, readLinesFrom_eq_error_iff]

end Reading

section Documents

variable {part last : Section} {lines : List (List Char)}
  {instructions : List (Instruction Float)} {guesses : List (Guess Float)}

theorem continues_of_noise (quiet : ∀ line ∈ lines, IsNoise line) (part : Section) :
    Continues part lines part [] [] := by
  induction lines with
  | nil => exact .nil
  | cons line rest ih =>
      obtain ⟨here, later⟩ := List.forall_mem_cons.mp quiet
      exact .noise here (ih later)

theorem continues_of_instructions (spelled : SpellsLines MeansInstruction lines instructions) :
    Continues .constraints lines .constraints instructions [] := by
  induction spelled with
  | nil => exact .nil
  | noise quiet _ ih => exact .noise quiet ih
  | value meant _ ih => exact .instruction meant ih

theorem continues_of_guesses (spelled : SpellsLines MeansGuess lines guesses) :
    Continues .guesses lines .guesses [] guesses := by
  induction spelled with
  | nil => exact .nil
  | noise quiet _ ih => exact .noise quiet ih
  | value meant _ ih => exact .guess meant ih

theorem continues_of_document (document : SpellsDocument last lines instructions guesses) :
    Continues .preamble lines last instructions guesses := by
  induction document with
  | preamble quiet => exact continues_of_noise quiet .preamble
  | constraints quiet headed spelled =>
      exact (continues_of_noise quiet .preamble).append
        (.constraintsHeader headed (continues_of_instructions spelled))
  | guesses _ headed spelled ih =>
      have whole := ih.append (.guessesHeader headed (continues_of_guesses spelled))
      rwa [List.append_nil] at whole

theorem SpellsLines.append {β : Type} {Means : List Char → β → Prop} {more : List (List Char)}
    {values others : List β} (first : SpellsLines Means lines values)
    (second : SpellsLines Means more others) :
    SpellsLines Means (lines ++ more) (values ++ others) := by
  induction first with
  | nil => exact second
  | noise quiet _ ih => exact .noise quiet ih
  | value meant _ ih => exact .value meant ih

/-- More lines of the section that a document ends in. -/
theorem SpellsDocument.append_instructions {more : List (List Char)}
    {others : List (Instruction Float)}
    (document : SpellsDocument .constraints lines instructions guesses)
    (spelled : SpellsLines MeansInstruction more others) :
    SpellsDocument .constraints (lines ++ more) (instructions ++ others) guesses := by
  cases document with
  | constraints quiet headed before =>
      rw [List.append_assoc, List.cons_append]
      exact .constraints quiet headed (before.append spelled)

theorem SpellsDocument.append_guesses {more : List (List Char)} {others : List (Guess Float)}
    (document : SpellsDocument .guesses lines instructions guesses)
    (spelled : SpellsLines MeansGuess more others) :
    SpellsDocument .guesses (lines ++ more) instructions (guesses ++ others) := by
  cases document with
  | guesses above headed before =>
      rw [List.append_assoc, List.cons_append]
      exact .guesses above headed (before.append spelled)

theorem SpellsDocument.append_noise {line : List Char}
    (document : SpellsDocument last lines instructions guesses) (quiet : IsNoise line) :
    SpellsDocument last (lines ++ [line]) instructions guesses := by
  cases last with
  | preamble =>
      cases document with
      | preamble above =>
          apply SpellsDocument.preamble
          exact List.forall_mem_append.mpr ⟨above, List.forall_mem_singleton.mpr quiet⟩
  | constraints =>
      have longer := document.append_instructions (.noise quiet .nil)
      rwa [List.append_nil] at longer
  | guesses =>
      have longer := document.append_guesses (.noise quiet .nil)
      rwa [List.append_nil] at longer

/-- A document stays one as long as reading goes on. -/
theorem SpellsDocument.extend {above : List (List Char)} {earlier : List (Instruction Float)}
    {earlierGuesses : List (Guess Float)}
    (document : SpellsDocument part above earlier earlierGuesses)
    (continues : Continues part lines last instructions guesses) :
    SpellsDocument last (above ++ lines) (earlier ++ instructions) (earlierGuesses ++ guesses) := by
  induction continues generalizing above earlier earlierGuesses with
  | nil =>
      rw [List.append_nil, List.append_nil, List.append_nil]
      exact document
  | noise quiet _ ih =>
      rw [List.append_cons]
      exact ih (document.append_noise quiet)
  | @constraintsHeader _ header _ _ _ headed _ ih =>
      cases document with
      | preamble quiet =>
          have opened : SpellsDocument .constraints (above ++ header :: []) [] [] :=
            .constraints quiet headed .nil
          rw [List.append_cons]
          exact ih opened
  | @guessesHeader _ header _ _ _ headed _ ih =>
      cases document with
      | constraints quiet first spelled =>
          have opened := SpellsDocument.guesses (.constraints quiet first spelled) headed .nil
          rw [List.append_cons]
          exact ih opened
  | instruction meant _ ih =>
      rw [List.append_cons, List.append_cons earlier]
      exact ih (document.append_instructions (.value meant .nil))
  | guess meant _ ih =>
      rw [List.append_cons, List.append_cons earlierGuesses]
      exact ih (document.append_guesses (.value meant .nil))

theorem document_iff_continues :
    SpellsDocument last lines instructions guesses ↔
      Continues .preamble lines last instructions guesses := by
  constructor
  · exact continues_of_document
  · intro continues
    have empty : SpellsDocument .preamble [] [] [] := .preamble (List.forall_mem_nil _)
    exact empty.extend continues

/-- A document is noise and the two sections, where there are no guesses without constraints. -/
theorem exists_document_iff_hasSections :
    (∃ part, SpellsDocument part lines instructions guesses) ↔
      ∃ above first second, HasSections lines above first second instructions guesses ∧
        (first = [] → second = []) := by
  constructor
  · rintro ⟨part, document⟩
    cases document with
    | preamble quiet =>
        refine ⟨lines, [], [], ⟨?_, quiet, .missing, .missing⟩, fun _ => rfl⟩
        rw [List.append_nil, List.append_nil]
    | @constraints above body header _ quiet headed spelled =>
        refine ⟨above, header :: body, [], ⟨?_, quiet, .present headed spelled, .missing⟩, ?_⟩
        · rw [List.append_nil]
        · exact fun _ => rfl
    | @guesses _ body header _ _ before headed spelled =>
        cases before with
        | @constraints above first opening _ quiet opened before =>
            refine ⟨above, opening :: first, header :: body,
              ⟨?_, quiet, .present opened before, .present headed spelled⟩, ?_⟩
            · rw [List.append_assoc]
            · intro impossible
              cases impossible
  · rintro ⟨above, first, second, ⟨rfl, quiet, constraints, guesses⟩, ordered⟩
    cases constraints with
    | missing =>
        cases ordered rfl
        cases guesses
        rw [List.append_nil, List.append_nil]
        exact ⟨.preamble, .preamble quiet⟩
    | present headed spelled =>
        have document := SpellsDocument.constraints quiet headed spelled
        cases guesses with
        | missing =>
            rw [List.append_nil]
            exact ⟨.constraints, document⟩
        | present second spelledSecond =>
            rw [← List.append_assoc]
            exact ⟨.guesses, .guesses document second spelledSecond⟩

/-- Lines are ruled out just if reading ends early in them. -/
theorem ruledOut_iff :
    RuledOut lines ↔ ∃ before last cause, StopsAt .preamble lines before last cause := by
  constructor
  · intro ruledOut
    rcases continues_or_stopsAt .preamble lines with ⟨last, _, _, continues⟩ | stops
    · rw [← List.append_nil lines] at continues
      exact absurd (document_iff_continues.mpr continues) (ruledOut [] last _ _)
    · exact stops
  · rintro ⟨before, last, cause, stops⟩ more part instructions guesses document
    have read := (document_iff_continues.mp document).readLinesFrom_eq_ok 1
    rw [stops.append.readLinesFrom_eq_error] at read
    cases read

theorem StopsAt.isLeast_ruledOut {before : List (List Char)} {cause : LineError}
    (stops : StopsAt .preamble lines before last cause) :
    IsLeast {n | RuledOut (lines.take n)} (before.length + 1) := by
  obtain ⟨⟨_, _, continues⟩, line, after, split, unfit⟩ := stops
  constructor
  · change RuledOut (lines.take (before.length + 1))
    rw [ruledOut_iff, split, List.take_append, List.take_of_length_le (by omega),
      Nat.add_sub_cancel_left, List.take_succ_cons, List.take_zero]
    exact ⟨before, last, cause, ⟨_, _, continues⟩, line, [], rfl, unfit⟩
  · intro n ruledOut
    change RuledOut (lines.take n) at ruledOut
    by_contra early
    have short : n ≤ before.length := by omega
    rw [split, List.take_append_of_le_length short] at ruledOut
    have document := document_iff_continues.mpr continues
    rw [← List.take_append_drop n before] at document
    exact ruledOut _ _ _ _ document

end Documents

/-- A text is read just if its lines are noise, then perhaps the constraints, and only behind these
perhaps the guesses. The problem holds what the lines mean, in order. Otherwise the error is at the
first line after which no document can go on, and it tells why that line cannot stand there. -/
theorem texts_are_read_as_documents (text : String) :
    HasLines text.toList (splitLines text.toList) ∧
    (∀ problem, Problem.read text = .ok problem ↔
      ∃ above first second instructions guesses,
        HasSections (splitLines text.toList) above first second instructions guesses ∧
          (first = [] → second = []) ∧ problem = .ofParts instructions guesses) ∧
    (∀ problem, Problem.read text = .ok problem →
      problem.points = labelsOf .point (problem.instructions.filterMap Instruction.declared?) ∧
        problem.scalars =
          labelsOf .scalar (problem.instructions.filterMap Instruction.declared?)) ∧
    ∀ error, Problem.read text = .error error →
      IsLeast {n | RuledOut ((splitLines text.toList).take n)} error.line ∧
        ∃ before line after part instructions guesses,
          splitLines text.toList = before ++ line :: after ∧ error.line = before.length + 1 ∧
            SpellsDocument part before instructions guesses ∧ Unfit part line error.cause := by
  refine ⟨splitLines_hasLines text.toList, ?_, ?_, ?_⟩
  · intro problem
    rw [Problem.read_eq_ok_iff]
    simp only [← document_iff_continues]
    constructor
    · rintro ⟨part, instructions, guesses, document, same⟩
      obtain ⟨above, first, second, sections, ordered⟩ :=
        exists_document_iff_hasSections.mp ⟨part, document⟩
      exact ⟨above, first, second, instructions, guesses, sections, ordered, same⟩
    · rintro ⟨above, first, second, instructions, guesses, sections, ordered, same⟩
      obtain ⟨part, document⟩ :=
        exists_document_iff_hasSections.mpr ⟨above, first, second, sections, ordered⟩
      exact ⟨part, instructions, guesses, document, same⟩
  · intro problem read
    have keeps := keepsLabels_of_read read
    exact ⟨keeps.points_eq, keeps.scalars_eq⟩
  · intro error read
    obtain ⟨before, part, stops, number⟩ := Problem.read_eq_error_iff.mp read
    rw [Nat.add_comm] at number
    refine ⟨number ▸ stops.isLeast_ruledOut, ?_⟩
    obtain ⟨⟨instructions, guesses, continues⟩, line, after, split, unfit, _⟩ := stops
    exact ⟨before, line, after, part, instructions, guesses, split, number,
      document_iff_continues.mpr continues, unfit⟩

def onePointText : String := "# constraints\npoint a # at rest\n\n#guesses \na roughly (0, 0)\n"

theorem read_onePointText : ∃ problem, Problem.read onePointText = .ok problem ∧
    problem.points = ["a"] := by
  have points : (Problem.read onePointText).toOption.map Problem.points = some ["a"] := by
    decide +kernel
  cases read : Problem.read onePointText with
  | error error =>
      rw [read] at points
      cases points
  | ok problem =>
      rw [read] at points
      exact ⟨problem, rfl, Option.some.inj points⟩

/-- The error of a reading. It can be compared where what is read cannot. -/
def failure? {β : Type} : Except ParseError β → Option ParseError
  | .ok _ => none
  | .error error => some error

theorem eq_error_of_failure? {β : Type} {result : Except ParseError β} {error : ParseError}
    (found : failure? result = some error) : result = .error error := by
  cases result with
  | ok value => cases found
  | error other => exact congrArg Except.error (Option.some.inj found)

theorem read_secondHeader : Problem.read (onePointText ++ "# guesses") =
    .error ⟨6, .unexpectedHeader "guesses".toList⟩ :=
  eq_error_of_failure? (by decide +kernel)

theorem second_header_is_the_error :
    (∃ problem above first second instructions guesses, Problem.read onePointText = .ok problem ∧
      HasSections (splitLines onePointText.toList) above first second instructions guesses ∧
      (first = [] → second = []) ∧ problem = .ofParts instructions guesses ∧
      labelsOf .point (problem.instructions.filterMap Instruction.declared?) = ["a"]) ∧
    Problem.read (onePointText ++ "# guesses") = .error ⟨6, .unexpectedHeader "guesses".toList⟩ ∧
    IsLeast {n | RuledOut ((splitLines (onePointText ++ "# guesses").toList).take n)} 6 := by
  obtain ⟨problem, read, points⟩ := read_onePointText
  obtain ⟨_, documents, labels, _⟩ := texts_are_read_as_documents onePointText
  obtain ⟨_, _, _, stops⟩ := texts_are_read_as_documents (onePointText ++ "# guesses")
  obtain ⟨above, first, second, instructions, guesses, sections, ordered, same⟩ :=
    (documents problem).mp read
  refine ⟨⟨problem, above, first, second, instructions, guesses, read, sections, ordered, same, ?_⟩,
    read_secondHeader, ?_⟩
  · rw [← (labels problem read).1, points]
  · exact (stops _ read_secondHeader).1

/-- A guesses section is not enough, although each of the sections may be missing. -/
theorem guesses_alone_are_not_read :
    (∃ above first second instructions guesses,
      HasSections (splitLines "# guesses\n".toList) above first second instructions guesses) ∧
    (∀ problem, Problem.read "# guesses\n" ≠ .ok problem) ∧
    Problem.read "# guesses\n" = .error ⟨1, .unexpectedHeader "guesses".toList⟩ := by
  have failed : Problem.read "# guesses\n" = .error ⟨1, .unexpectedHeader "guesses".toList⟩ :=
    eq_error_of_failure? (by decide +kernel)
  have headed : IsHeader "guesses" "# guesses".toList := ⟨" guesses".toList, by decide, by decide⟩
  have lines : splitLines "# guesses\n".toList = ["# guesses".toList] := by decide
  refine ⟨⟨[], [], _, [], [], lines, List.forall_mem_nil _, .missing, .present headed .nil⟩, ?_,
    failed⟩
  intro problem read
  rw [failed] at read
  cases read

end Drafting.Text
