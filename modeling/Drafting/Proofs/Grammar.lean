import Drafting.Proofs.Grammar.Choice
import Drafting.Text.Document

/-!
# Lines are read by their grammar

A line of the constraints section is read just if it is written as an instruction, up to blanks and
a comment at its end, and then it gives that instruction. No word is reserved. The only lines that
give two instructions are distances whose length is written as a word that is a label and also a
numeral, and that length is read as a label. A line of the guesses section is read just if it is
written as a guess, and no line gives two guesses.
-/

namespace Drafting.Text

section Derivations

def DerivesInstruction (line : List Char) (instruction : Instruction Float) : Prop :=
  ∃ taken ending, line = taken ++ ending ∧ SpellsInstruction taken instruction ∧ SpellsEnding ending

def DerivesGuess (line : List Char) (guess : Guess Float) : Prop :=
  ∃ taken ending, line = taken ++ ending ∧ SpellsGuess taken guess ∧ SpellsEnding ending

end Derivations

structure HasContent (line : List Char) : Prop where
  nonempty : line ≠ []
  noComment : ∀ title, line ≠ '#' :: title

section Lines

variable {β : Type} {reader : Reader β} {line : List Char} {value : β}

theorem readLine_eq_ok_iff :
    readLine reader line = .ok value ↔
      ∃ ending, reader line = .ok (value, ending) ∧ SpellsEnding ending := by
  have whole : ∀ (result : β) (rest : List Char),
      (do let value ← reader; Reader.endOfLine; return value : Reader β) line =
        .ok (result, rest) ↔
      ∃ ending, reader line = .ok (result, ending) ∧ rest = [] ∧ SpellsEnding ending := by
    intro result rest
    constructor
    · intro read
      obtain ⟨value, ending, valueRead, read⟩ := Reader.bind_eq_ok_iff.mp read
      obtain ⟨_, _, endRead, same⟩ := Reader.bind_eq_ok_iff.mp read
      cases same
      exact ⟨ending, valueRead, Reader.endOfLine_eq_ok_iff.mp endRead⟩
    · rintro ⟨ending, valueRead, ended⟩
      have endRead : Reader.endOfLine ending = .ok ((), rest) :=
        Reader.endOfLine_eq_ok_iff.mpr ended
      rw [Reader.bind_of_ok valueRead, Reader.bind_of_ok endRead]
      rfl
  unfold readLine
  constructor
  · intro read
    dsimp only at read
    split at read
    · rename_i result rest wholeRead
      cases read
      obtain ⟨ending, valueRead, _, ended⟩ := (whole _ _).mp wholeRead
      exact ⟨ending, valueRead, ended⟩
    · cases read
  · rintro ⟨ending, valueRead, ended⟩
    have wholeRead := (whole value []).mpr ⟨ending, valueRead, rfl, ended⟩
    dsimp only
    rw [wholeRead]

theorem hasContent_of_readLineIn {part : Section} {result : Line Float}
    (read : readLineIn part line = .ok result) (notSkipped : result ≠ .skipped)
    (notComment : ∀ next, result ≠ .comment next) : HasContent line := by
  unfold readLineIn at read
  split at read
  · cases read
    exact absurd rfl notSkipped
  · rename_i title
    cases commentRead : readComment part (trimmed title) with
    | error cause =>
        rw [commentRead] at read
        cases read
    | ok next =>
        rw [commentRead] at read
        cases read
        exact absurd rfl (notComment next)
  · rename_i nonempty noComment
    exact ⟨nonempty, noComment⟩

theorem readLineIn_constraints (content : HasContent line) :
    readLineIn .constraints line =
      match readLine Reader.instruction line with
      | .ok instruction => .ok (.instruction instruction)
      | .error offset => .error (.malformed line offset) := by
  unfold readLineIn
  split
  · exact absurd rfl content.nonempty
  · exact absurd rfl (content.noComment _)
  · rfl

theorem readLineIn_guesses (content : HasContent line) :
    readLineIn .guesses line =
      match readLine Reader.guess line with
      | .ok guess => .ok (.guess guess)
      | .error offset => .error (.malformed line offset) := by
  unfold readLineIn
  split
  · exact absurd rfl content.nonempty
  · exact absurd rfl (content.noComment _)
  · rfl

theorem readLineIn_eq_instruction_iff {instruction : Instruction Float} :
    readLineIn .constraints line = .ok (.instruction instruction) ↔
      HasContent line ∧ readLine Reader.instruction line = .ok instruction := by
  constructor
  · intro read
    have content := hasContent_of_readLineIn read nofun nofun
    rw [readLineIn_constraints content] at read
    split at read
    · rename_i lineRead
      cases read
      exact ⟨content, lineRead⟩
    · cases read
  · rintro ⟨content, lineRead⟩
    rw [readLineIn_constraints content, lineRead]

theorem readLineIn_eq_guess_iff {guess : Guess Float} :
    readLineIn .guesses line = .ok (.guess guess) ↔
      HasContent line ∧ readLine Reader.guess line = .ok guess := by
  constructor
  · intro read
    have content := hasContent_of_readLineIn read nofun nofun
    rw [readLineIn_guesses content] at read
    split at read
    · rename_i lineRead
      cases read
      exact ⟨content, lineRead⟩
    · cases read
  · rintro ⟨content, lineRead⟩
    rw [readLineIn_guesses content, lineRead]

end Lines

section Instructions

variable {line : List Char} {I J K : Instruction Float}

theorem Supersedes.unique (one : Supersedes K I) (other : Supersedes K J) : I = J := by
  cases one with
  | @mk ends word numeral spelled =>
      generalize written : String.ofList word = label at other
      cases other with
      | @mk _ again numeral' spelledAgain =>
          rw [String.ofList_injective written] at spelled
          rw [spelled.unique spelledAgain]

/-- A number supersedes nothing. -/
theorem Supersedes.last (one : Supersedes I J) : ¬ Supersedes J K := by
  cases one with
  | mk spelled =>
      intro other
      cases other

theorem DerivesInstruction.form (derived : DerivesInstruction line I) :
    Form.of? line = some I.form := by
  obtain ⟨taken, ending, split, spelled, _⟩ := derived
  rw [split]
  exact Form.of?_of_spells spelled

theorem DerivesInstruction.hasContent (derived : DerivesInstruction line I) : HasContent line := by
  have possible := derived.form
  constructor
  · intro empty
    rw [empty] at possible
    cases possible
  · intro title comment
    rw [comment] at possible
    cases possible

theorem derivesInstruction_of_readLine (read : readLine Reader.instruction line = .ok I) :
    DerivesInstruction line I := by
  obtain ⟨ending, read, ended⟩ := readLine_eq_ok_iff.mp read
  obtain ⟨taken, split, spelled⟩ := Reader.instruction_sound read
  exact ⟨taken, ending, split, spelled, ended⟩

theorem DerivesInstruction.exists_readLine (derived : DerivesInstruction line I) :
    ∃ K, readLine Reader.instruction line = .ok K ∧ (K = I ∨ Supersedes K I) := by
  have possible := derived.form
  obtain ⟨taken, ending, rfl, spelled, ended⟩ := derived
  obtain ⟨K, read, stands⟩ := Form.reader_complete spelled
    (ended.endsRun (by decide) (by decide) (by decide))
    (ended.endsRun (by decide) (by decide) (by decide))
  refine ⟨K, readLine_eq_ok_iff.mpr ⟨ending, ?_, ended⟩, stands⟩
  exact (Reader.instruction_eq_ok_iff possible).mpr read

theorem DerivesInstruction.of_supersedes (derived : DerivesInstruction line I)
    (supersedes : Supersedes I J) : DerivesInstruction line J := by
  obtain ⟨taken, ending, split, spelled, ended⟩ := derived
  refine ⟨taken, ending, split, ?_, ended⟩
  cases supersedes with
  | @mk ends word numeral wordSpelled =>
      cases spelled with
      | distance spelled =>
          apply SpellsInstruction.distance
          cases spelled with
          | mk opened spelled closed =>
              refine .mk opened ?_ closed
              generalize written : String.ofList word = label at spelled
              cases spelled with
              | scalar ended apart given =>
                  rw [given.eq_ofList] at written
                  rw [← String.ofList_injective written]
                  exact .value ended apart (.mk wordSpelled.spellsNumeral)

/-- All that a line gives is what it is read as, or is superseded by that. -/
theorem DerivesInstruction.eq_or_supersedes (one : DerivesInstruction line I)
    (other : DerivesInstruction line J) : I = J ∨ Supersedes I J ∨ Supersedes J I := by
  obtain ⟨K, read, stands⟩ := one.exists_readLine
  obtain ⟨K', readAgain, standsAgain⟩ := other.exists_readLine
  rw [read] at readAgain
  cases readAgain
  rcases stands with same | supersedes
  · rw [← same]
    exact standsAgain.imp_right Or.inl
  · rcases standsAgain with same | supersedesAgain
    · rw [← same]
      exact Or.inr (Or.inr supersedes)
    · exact Or.inl (supersedes.unique supersedesAgain)

theorem readLineIn_instruction_iff_derives :
    readLineIn .constraints line = .ok (.instruction I) ↔
      DerivesInstruction line I ∧ ∀ J, DerivesInstruction line J → ¬ Supersedes J I := by
  rw [readLineIn_eq_instruction_iff]
  constructor
  · rintro ⟨_, read⟩
    refine ⟨derivesInstruction_of_readLine read, ?_⟩
    intro J derived supersedes
    obtain ⟨K, readAgain, stands⟩ := derived.exists_readLine
    rw [read] at readAgain
    cases readAgain
    rcases stands with same | supersedesAgain
    · rw [← same] at supersedes
      exact supersedes.last supersedes
    · exact supersedes.last supersedesAgain
  · rintro ⟨derived, first⟩
    obtain ⟨K, read, stands⟩ := derived.exists_readLine
    rcases stands with same | supersedes
    · rw [← same]
      exact ⟨(derivesInstruction_of_readLine read).hasContent, read⟩
    · exact absurd supersedes (first K (derivesInstruction_of_readLine read))

end Instructions

section Guesses

variable {line : List Char} {G H : Guess Float}

theorem SpellsGuess.hasContent {taken ending : List Char} (spelled : SpellsGuess taken G) :
    HasContent (taken ++ ending) := by
  have ofLabel : ∀ {name more : List Char} {label : Label}, SpellsLabel name label →
      HasContent (name ++ more ++ ending) := by
    intro name more label named
    cases named with
    | mk start =>
        constructor
        · exact List.cons_ne_nil _ _
        · intro title same
          rw [(List.cons.inj same).1] at start
          exact absurd start (by decide)
  cases spelled with
  | point named | scalar named => exact ofLabel named

theorem derivesGuess_iff_readLine :
    DerivesGuess line G ↔ readLine Reader.guess line = .ok G := by
  rw [readLine_eq_ok_iff]
  constructor
  · rintro ⟨taken, ending, rfl, spelled, ended⟩
    exact ⟨ending, Reader.guess_complete spelled
      (ended.endsRun (by decide) (by decide) (by decide)), ended⟩
  · rintro ⟨ending, read, ended⟩
    obtain ⟨taken, split, spelled⟩ := Reader.guess_sound read
    exact ⟨taken, ending, split, spelled, ended⟩

theorem readLineIn_guess_iff_derives :
    readLineIn .guesses line = .ok (.guess G) ↔ DerivesGuess line G := by
  rw [readLineIn_eq_guess_iff, ← derivesGuess_iff_readLine]
  constructor
  · exact And.right
  · intro derived
    obtain ⟨taken, ending, split, spelled, _⟩ := id derived
    refine ⟨?_, derived⟩
    rw [split]
    exact spelled.hasContent

theorem DerivesGuess.unique (one : DerivesGuess line G) (other : DerivesGuess line H) : G = H := by
  have read := derivesGuess_iff_readLine.mp one
  rw [derivesGuess_iff_readLine.mp other] at read
  exact (Except.ok.inj read).symm

end Guesses

/-- What is read from a line is what the line is written as, and nothing is lost by trying the forms
of an instruction one after the other. A line gives at most one instruction, except for a distance
whose length is a word for infinity or for what is not a number, without a sign: it always gives a
label and a number, and is read as the label. -/
theorem lines_are_read_by_their_grammar :
    (∀ line instruction, readLineIn .constraints line = .ok (.instruction instruction) ↔
      DerivesInstruction line instruction ∧
        ∀ other, DerivesInstruction line other → ¬ Supersedes other instruction) ∧
    (∀ line instruction other, DerivesInstruction line instruction → DerivesInstruction line other →
      instruction = other ∨ Supersedes instruction other ∨ Supersedes other instruction) ∧
    (∀ line instruction other, Supersedes instruction other →
      DerivesInstruction line instruction → DerivesInstruction line other) ∧
    (∀ line guess, readLineIn .guesses line = .ok (.guess guess) ↔ DerivesGuess line guess) ∧
    (∀ line guess other, DerivesGuess line guess → DerivesGuess line other → guess = other) := by
  refine ⟨?_, ?_, ?_, ?_, ?_⟩
  · exact fun line instruction => readLineIn_instruction_iff_derives
  · exact fun line instruction other derived again => derived.eq_or_supersedes again
  · exact fun line instruction other supersedes derived => derived.of_supersedes supersedes
  · exact fun line guess => readLineIn_guess_iff_derives
  · exact fun line guess other derived again => derived.unique again

theorem unsigned_infinity_is_read_as_a_label :
    let line := "distance(p,q,Inf)".toList
    let label : Instruction Float := .distanceScalar ⟨"p", "q"⟩ "Inf"
    let number : Instruction Float := .distance ⟨"p", "q"⟩ (Number.Numeral.infinity false).toFloat
    readLineIn .constraints line = .ok (.instruction label) ∧ DerivesInstruction line label ∧
      DerivesInstruction line number ∧ label ≠ number := by
  intro line label number
  have noBlanks : SpellsBlanks [] := nofun
  have comma : SpellsMark ',' [','] := .mk noBlanks noBlanks
  have opening : SpellsMark '(' ['('] := .mk noBlanks noBlanks
  have p : SpellsLabel ['p'] "p" := .mk (by decide) nofun
  have q : SpellsLabel ['q'] "q" := .mk (by decide) nofun
  have word : Number.Numeral.SpellsWord ['I', 'n', 'f'] (.infinity false) :=
    .infinity (Or.inl (by decide))
  have arguments := SpellsDistance.scalar (.mk p comma q) comma (spellsLabel_of_spellsWord word)
  have called : SpellsCall "distance" SpellsDistance line label :=
    SpellsCall.mk opening arguments noBlanks
  have superseded : Supersedes label number := .mk word
  have derived : DerivesInstruction line label :=
    ⟨line, [], (List.append_nil line).symm, .distance called, .blank noBlanks⟩
  have first : ∀ other, DerivesInstruction line other → ¬ Supersedes other label := by
    intro other _ supersedes
    exact supersedes.last superseded
  refine ⟨(lines_are_read_by_their_grammar.1 line label).mpr ⟨derived, first⟩, derived, ?_, nofun⟩
  exact lines_are_read_by_their_grammar.2.2.1 line label number superseded derived

end Drafting.Text
