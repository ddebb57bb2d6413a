import Drafting.Proofs.Document
import Drafting.Proofs.Grammar.Blanks

/-!
# Layout and comments change nothing

Lines that mean nothing can be put in anywhere, blanks at the ends of any line, a comment behind a
line with content, and a carriage return before a line feed. What is read stays the same, and so does
the place of the first error, wherever its line has been moved. Only a comment behind other blanks
than spaces and tabs makes a line unreadable.
-/

namespace Drafting.Text

section Edits

/-- A line that can take a comment: it has one already, or it ends in spaces and tabs at most. -/
def TakesComment (line : List Char) : Prop :=
  '#' ∈ line ∨ ∃ body blanks, line = body ++ blanks ∧ EndsRun isBlank body.reverse ∧
    SpellsBlanks blanks

def IsLineEnd (ending : List Char) : Prop := ending = [] ∨ ending = ['\r']

/-- One change of layout to the lines of a text, and the number that each line has afterwards. -/
inductive Edit (Takes : List Char → Prop) : List (List Char) → List (List Char) → (Nat → Nat) → Prop
  | insertLine {above below : List (List Char)} {line : List Char} (quiet : IsNoise line) :
      Edit Takes (above ++ below) (above ++ line :: below)
        fun number => if number ≤ above.length then number else number + 1
  | pad {above below : List (List Char)} {line left right ending : List Char}
      (blankLeft : ∀ c ∈ left, isBlank c = true) (blankRight : ∀ c ∈ right, isBlank c = true)
      (ended : IsLineEnd ending) :
      Edit Takes (above ++ (line ++ ending) :: below)
        (above ++ (left ++ (line ++ (right ++ ending))) :: below) id
  | appendComment {above below : List (List Char)} {line title ending : List Char}
      (content : HasContent (trimmed line)) (takes : Takes line) (ended : IsLineEnd ending) :
      Edit Takes (above ++ (line ++ ending) :: below)
        (above ++ (line ++ '#' :: (title ++ ending)) :: below) id
  | returnCarriage {above below : List (List Char)} {line : List Char} :
      Edit Takes (above ++ line :: below) (above ++ (line ++ ['\r']) :: below) id

inductive Edits (Takes : List Char → Prop) :
    List (List Char) → List (List Char) → (Nat → Nat) → Prop
  | none {lines : List (List Char)} : Edits Takes lines lines id
  | more {lines between edited : List (List Char)} {move next : Nat → Nat}
      (earlier : Edits Takes lines between move) (last : Edit Takes between edited next) :
      Edits Takes lines edited (next ∘ move)

end Edits

section Comments

variable {β : Type} {Spells : List Char → β → Prop} {core right title : List Char} {value : β}

def Derives (Spells : List Char → β → Prop) (line : List Char) (value : β) : Prop :=
  ∃ taken ending, line = taken ++ ending ∧ Spells taken value ∧ SpellsEnding ending

theorem SpellsBlanks.append {first second : List Char} (one : SpellsBlanks first)
    (other : SpellsBlanks second) : SpellsBlanks (first ++ second) :=
  List.forall_mem_append.mpr ⟨one, other⟩

theorem SpellsBlanks.isBlank {blanks : List Char} (spelled : SpellsBlanks blanks) :
    ∀ c ∈ blanks, isBlank c = true :=
  fun c member => isBlank_of_isSpace (spelled c member)

/-- A text can be cut in one way only before its first number sign. -/
theorem eq_of_append_sign {first second before after : List Char} (free : '#' ∉ first)
    (otherFree : '#' ∉ second) (same : first ++ '#' :: before = second ++ '#' :: after) :
    first = second ∧ before = after := by
  have stops (text : List Char) : EndsRun (· != '#') ('#' :: text) := endsRun_cons (by decide)
  have inside {text : List Char} (free : '#' ∉ text) : ∀ c ∈ text, (c != '#') = true :=
    fun c member => bne_iff_ne.mpr fun same => free (same ▸ member)
  obtain ⟨firsts, rest⟩ :=
    eq_of_append_run (inside free) (stops before) (inside otherFree) (stops after) same
  exact ⟨firsts, (List.cons.inj rest).2⟩

/-- A text can be cut in one way only before the blanks at its end. -/
theorem eq_of_append_blanks {first second before after : List Char}
    (ends : EndsRun isBlank first.reverse) (otherEnds : EndsRun isBlank second.reverse)
    (blank : ∀ c ∈ before, isBlank c = true) (otherBlank : ∀ c ∈ after, isBlank c = true)
    (same : first ++ before = second ++ after) : first = second ∧ before = after := by
  have reversed := congrArg List.reverse same
  rw [List.reverse_append, List.reverse_append] at reversed
  obtain ⟨blanks, texts⟩ := eq_of_append_run
    (fun c member => blank c (List.mem_reverse.mp member)) ends
    (fun c member => otherBlank c (List.mem_reverse.mp member)) otherEnds reversed
  exact ⟨List.reverse_injective texts, List.reverse_injective blanks⟩

/-- A comment does not get into what a line is written as. -/
theorem derives_of_comment (solid : ∀ taken value, Spells taken value → Solid taken)
    (ends : EndsRun isBlank core.reverse) (blank : ∀ c ∈ right, isBlank c = true)
    (derived : Derives Spells (core ++ (right ++ '#' :: title)) value) :
    Derives Spells core value ∧ ('#' ∈ core ∨ SpellsBlanks right) := by
  obtain ⟨taken, ending, split, spelled, ended⟩ := derived
  have free := (solid taken value spelled).noSign
  rw [← List.append_assoc] at split
  -- What is spelled has no number sign in it, so it stops before the first one of the line. That may be
  -- one of the core already, and then the new comment is part of the old one.
  cases ended with
  | blank blanks =>
      have sign : '#' ∈ taken ++ ending := by
        rw [← split]
        exact List.mem_append_right _ List.mem_cons_self
      exact absurd sign (List.not_mem_append free blanks.noSign)
  | @comment spaces rest blanks =>
      have freeTaken : '#' ∉ taken ++ spaces := List.not_mem_append free blanks.noSign
      rw [← List.append_assoc] at split
      by_cases sign : '#' ∈ core
      · obtain ⟨front, back, coreSplit, freeFront⟩ := List.eq_append_cons_of_mem sign
        rw [coreSplit, List.append_assoc, List.append_assoc, List.cons_append] at split
        obtain ⟨same, _⟩ := eq_of_append_sign freeFront freeTaken split
        rw [same, List.append_assoc] at coreSplit
        exact ⟨⟨taken, spaces ++ '#' :: back, coreSplit, spelled, .comment blanks⟩, Or.inl sign⟩
      · have freeRight : '#' ∉ right := fun member => absurd (blank _ member) (by decide)
        obtain ⟨same, _⟩ := eq_of_append_sign (List.not_mem_append sign freeRight) freeTaken split
        obtain ⟨sameCore, sameRight⟩ := eq_of_append_blanks ends (solid taken value spelled).ends
          blank blanks.isBlank same
        rw [sameCore, sameRight]
        exact ⟨⟨taken, [], (List.append_nil taken).symm, spelled, .blank (List.forall_mem_nil _)⟩,
          Or.inr blanks⟩

/-- What a line is written as stays if the comment stands behind another one or behind spaces and tabs. -/
theorem derives_comment (solid : ∀ taken value, Spells taken value → Solid taken)
    (takes : '#' ∈ core ∨ SpellsBlanks right) (derived : Derives Spells core value) :
    Derives Spells (core ++ (right ++ '#' :: title)) value := by
  obtain ⟨taken, ending, split, spelled, ended⟩ := derived
  have free := (solid taken value spelled).noSign
  cases ended with
  | blank blanks =>
      rcases takes with sign | rightBlanks
      · rw [split] at sign
        exact absurd sign (List.not_mem_append free blanks.noSign)
      · refine ⟨taken, (ending ++ right) ++ '#' :: title, ?_, spelled,
          .comment (blanks.append rightBlanks)⟩
        rw [split, List.append_assoc, List.append_assoc]
  | @comment spaces rest blanks =>
      refine ⟨taken, spaces ++ '#' :: (rest ++ (right ++ '#' :: title)), ?_, spelled,
        .comment blanks⟩
      rw [split, List.append_assoc, List.append_assoc, List.cons_append]

end Comments

section Lines

variable {line edited title : List Char}

theorem endsRun_append_of_ne {p : Char → Bool} {run rest : List Char} (nonempty : run ≠ [])
    (ends : EndsRun p run) : EndsRun p (run ++ rest) := by
  cases run with
  | nil => exact absurd rfl nonempty
  | cons c more => exact ends

theorem isBlank_sign : isBlank '#' = false := by decide

/-- Of a comment only blanks at its end are trimmed. -/
theorem exists_shown (title : List Char) :
    ∃ shown trail, title = shown ++ trail ∧ (∀ c ∈ trail, isBlank c = true) ∧
      EndsRun isBlank ('#' :: shown).reverse := by
  refine ⟨(title.reverse.dropWhile isBlank).reverse, (title.reverse.takeWhile isBlank).reverse, ?_,
    ?_, ?_⟩
  · rw [← List.reverse_append, List.takeWhile_append_dropWhile, List.reverse_reverse]
  · exact fun c member => List.mem_takeWhile_imp (List.mem_reverse.mp member)
  · rw [List.reverse_cons, List.reverse_reverse]
    cases kept : title.reverse.dropWhile isBlank with
    | nil => exact endsRun_cons isBlank_sign
    | cons c more =>
        have stops := endsRun_dropWhile isBlank title.reverse
        rw [kept] at stops
        exact stops

/-- A line takes a comment if its content has one, or only spaces and tabs stand behind that. -/
theorem takesComment_iff {left core right : List Char} (split : line = left ++ (core ++ right))
    (nonempty : core ≠ []) (blankLeft : ∀ c ∈ left, isBlank c = true)
    (blankRight : ∀ c ∈ right, isBlank c = true) (ends : EndsRun isBlank core.reverse) :
    TakesComment line ↔ '#' ∈ core ∨ SpellsBlanks right := by
  have noSign {blanks : List Char} (blank : ∀ c ∈ blanks, isBlank c = true) : '#' ∉ blanks :=
    fun member => absurd (blank '#' member) (by decide)
  constructor
  · rintro (sign | ⟨body, blanks, same, bodyEnds, spelled⟩)
    · rw [split, List.mem_append, List.mem_append] at sign
      exact Or.inl ((sign.resolve_left (noSign blankLeft)).resolve_right (noSign blankRight))
    · rw [split, ← List.append_assoc] at same
      have inner : EndsRun isBlank (left ++ core).reverse := by
        rw [List.reverse_append]
        exact endsRun_append_of_ne (mt List.reverse_eq_nil_iff.mp nonempty) ends
      obtain ⟨_, sameBlanks⟩ := eq_of_append_blanks inner bodyEnds blankRight spelled.isBlank same
      rw [sameBlanks]
      exact Or.inr spelled
  · rintro (sign | spelled)
    · rw [split]
      exact Or.inl (List.mem_append_right _ (List.mem_append_left _ sign))
    · refine Or.inr ⟨left ++ core, right, ?_, ?_, spelled⟩
      · rw [split, List.append_assoc]
      · rw [List.reverse_append]
        exact endsRun_append_of_ne (mt List.reverse_eq_nil_iff.mp nonempty) ends

/-- A comment stands behind the line as it was trimmed and some of the blanks there. -/
theorem exists_trimmed_comment (nonempty : trimmed line ≠ []) (title : List Char) :
    ∃ right shown, (∀ c ∈ right, isBlank c = true) ∧
      trimmed (line ++ '#' :: title) = trimmed line ++ (right ++ '#' :: shown) ∧
      (TakesComment line ↔ '#' ∈ trimmed line ∨ SpellsBlanks right) := by
  obtain ⟨left, right, split, blankLeft, blankRight, starts, ends⟩ := exists_trimmed line
  obtain ⟨shown, trail, titleSplit, blankTrail, shownEnds⟩ := exists_shown title
  refine ⟨right, shown, blankRight, ?_,
    takesComment_iff split nonempty blankLeft blankRight ends⟩
  generalize trimmed line = core at *
  have whole : line ++ '#' :: title = left ++ ((core ++ (right ++ '#' :: shown)) ++ trail) := by
    rw [split, titleSplit]
    simp only [List.append_assoc, List.cons_append]
  rw [whole, trimmed_pad blankLeft blankTrail]
  apply trimmed_eq_self
  · exact endsRun_append_of_ne nonempty starts
  · rw [List.reverse_append, List.reverse_append, List.append_assoc]
    apply endsRun_append_of_ne _ shownEnds
    exact mt List.reverse_eq_nil_iff.mp (List.cons_ne_nil _ _)

/-- A comment behind a line with content leaves content there. -/
theorem hasContent_comment (content : HasContent (trimmed line)) (title : List Char) :
    HasContent (trimmed (line ++ '#' :: title)) := by
  obtain ⟨right, shown, _, commented, _⟩ := exists_trimmed_comment content.nonempty title
  rw [commented]
  refine ⟨List.append_ne_nil_of_left_ne_nil content.nonempty _, ?_⟩
  intro other same
  cases split : trimmed line with
  | nil => exact content.nonempty split
  | cons first more =>
      rw [split] at same
      apply content.noComment more
      rw [split, (List.cons.inj same).1]

/-- A comment keeps what a line is written as, if the line takes it. Otherwise the line is written as
nothing. -/
theorem derives_comment_iff {β : Type} {Spells : List Char → β → Prop} {value : β}
    (solid : ∀ taken value, Spells taken value → Solid taken) (content : HasContent (trimmed line))
    (title : List Char) :
    Derives Spells (trimmed (line ++ '#' :: title)) value ↔
      Derives Spells (trimmed line) value ∧ TakesComment line := by
  obtain ⟨right, shown, blank, commented, takes⟩ := exists_trimmed_comment content.nonempty title
  obtain ⟨_, _, _, _, _, _, ends⟩ := exists_trimmed line
  rw [commented, takes]
  constructor
  · exact derives_of_comment solid ends blank
  · rintro ⟨derived, taken⟩
    exact derives_comment solid taken derived

theorem derivesInstruction_comment_iff {instruction : Instruction Float}
    (content : HasContent (trimmed line)) (title : List Char) :
    DerivesInstruction (trimmed (line ++ '#' :: title)) instruction ↔
      DerivesInstruction (trimmed line) instruction ∧ TakesComment line := by
  have solid (taken : List Char) (value : Instruction Float) :
      SpellsInstruction taken value → Solid taken := SpellsInstruction.solid
  exact derives_comment_iff solid content title

theorem derivesGuess_comment_iff {guess : Guess Float} (content : HasContent (trimmed line))
    (title : List Char) :
    DerivesGuess (trimmed (line ++ '#' :: title)) guess ↔
      DerivesGuess (trimmed line) guess ∧ TakesComment line := by
  have solid (taken : List Char) (value : Guess Float) : SpellsGuess taken value → Solid taken :=
    SpellsGuess.solid
  exact derives_comment_iff solid content title

/-- A line is read in its section just if it means something there. -/
theorem readLineIn_eq_ok_iff {part : Section} {result : Line Float}
    (content : HasContent (trimmed line)) :
    readLineIn part (trimmed line) = .ok result ↔
      (part = .constraints ∧
        ∃ instruction, MeansInstruction line instruction ∧ .instruction instruction = result) ∨
      (part = .guesses ∧ ∃ guess, MeansGuess line guess ∧ .guess guess = result) := by
  constructor
  · intro read
    rcases readLineIn_content content part with ⟨here, instruction, meant, found⟩ |
      ⟨here, guess, meant, found⟩ | ⟨cause, _, found⟩
    · exact Or.inl ⟨here, instruction, meant, Except.ok.inj (found.symm.trans read)⟩
    · exact Or.inr ⟨here, guess, meant, Except.ok.inj (found.symm.trans read)⟩
    · rw [found] at read
      cases read
  · rintro (⟨here, instruction, meant, same⟩ | ⟨here, guess, meant, same⟩)
    · rw [here, ← same]
      exact readLineIn_instruction_iff_derives.mpr meant
    · rw [here, ← same]
      exact readLineIn_guess_iff_derives.mpr meant

def ReadAlike (line edited : List Char) : Prop :=
  ∀ part result, readLineIn part (trimmed edited) = .ok result ↔
    readLineIn part (trimmed line) = .ok result

theorem readAlike_of_trimmed (same : trimmed edited = trimmed line) : ReadAlike line edited := by
  intro part result
  rw [same]

theorem ReadAlike.trans {last : List Char} (first : ReadAlike line edited)
    (second : ReadAlike edited last) : ReadAlike line last :=
  fun part result => (second part result).trans (first part result)

theorem IsLineEnd.isBlank {ending : List Char} (ended : IsLineEnd ending) :
    ∀ c ∈ ending, isBlank c = true := by
  rcases ended with same | same
  · rw [same]
    exact List.forall_mem_nil _
  · rw [same]
    exact List.forall_mem_singleton.mpr (by decide)

theorem IsLineEnd.trimmed {ending : List Char} (ended : IsLineEnd ending) :
    Text.trimmed (line ++ ending) = Text.trimmed line := by
  rw [← List.nil_append (line ++ ending)]
  exact trimmed_pad (List.forall_mem_nil _) ended.isBlank

theorem readAlike_pad {left right ending : List Char} (blankLeft : ∀ c ∈ left, isBlank c = true)
    (blankRight : ∀ c ∈ right, isBlank c = true) (ended : IsLineEnd ending) :
    ReadAlike (line ++ ending) (left ++ (line ++ (right ++ ending))) := by
  apply readAlike_of_trimmed
  have padded := List.forall_mem_append.mpr ⟨blankRight, ended.isBlank⟩
  rw [trimmed_pad blankLeft padded, ended.trimmed]

theorem readAlike_returnCarriage : ReadAlike line (line ++ ['\r']) :=
  readAlike_of_trimmed (IsLineEnd.trimmed (Or.inr rfl))

theorem readAlike_comment {ending : List Char} (content : HasContent (trimmed line))
    (takes : TakesComment line) (title : List Char) (ended : IsLineEnd ending) :
    ReadAlike (line ++ ending) (line ++ '#' :: (title ++ ending)) := by
  apply (readAlike_of_trimmed ended.trimmed.symm).trans
  intro part result
  rw [readLineIn_eq_ok_iff content, readLineIn_eq_ok_iff (hasContent_comment content _)]
  simp only [MeansInstruction, MeansGuess, derivesInstruction_comment_iff content,
    derivesGuess_comment_iff content, and_iff_left takes]

/-- A line that does not take a comment can be read nowhere with one. -/
theorem readLineIn_comment_ne_ok (content : HasContent (trimmed line)) (blocked : ¬ TakesComment line)
    (title : List Char) (part : Section) (result : Line Float) :
    readLineIn part (trimmed (line ++ '#' :: title)) ≠ .ok result := by
  rw [Ne, readLineIn_eq_ok_iff (hasContent_comment content title)]
  rintro (⟨_, instruction, ⟨derived, _⟩, _⟩ | ⟨_, guess, derived, _⟩)
  · exact blocked ((derivesInstruction_comment_iff content title).mp derived).2
  · exact blocked ((derivesGuess_comment_iff content title).mp derived).2

end Lines

section Runs

variable {move next : Nat → Nat} {part : Section} {number : Nat} {line edited quiet : List Char}
  {lines above below : List (List Char)}
  {β γ : Type} {result after last : Except ParseError β}

/-- What is read is the same, or the error is where its line was moved to. -/
inductive Follows (move : Nat → Nat) : Except ParseError β → Except ParseError β → Prop
  | ok (value : β) : Follows move (.ok value) (.ok value)
  | error (line : Nat) (cause later : LineError) :
      Follows move (.error ⟨line, cause⟩) (.error ⟨move line, later⟩)

theorem Follows.error_at {line moved : Nat} {cause later : LineError} (same : moved = move line) :
    Follows (β := β) move (.error ⟨line, cause⟩) (.error ⟨moved, later⟩) := by
  rw [same]
  exact .error line cause later

theorem Follows.refl (result : Except ParseError β) : Follows id result result := by
  cases result with
  | ok value => exact .ok value
  | error error => exact .error error.line error.cause error.cause

theorem Follows.trans (first : Follows move result after) (second : Follows next after last) :
    Follows (next ∘ move) result last := by
  cases first with
  | ok value =>
      cases second with
      | ok => exact .ok value
  | error line cause later =>
      cases second with
      | error _ _ latest => exact .error line cause latest

theorem Follows.map (follows : Follows move result after) (f : β → γ) :
    Follows move (result.map f) (after.map f) := by
  cases follows with
  | ok value => exact .ok (f value)
  | error line cause later => exact .error line cause later

theorem Follows.eq_ok_iff (follows : Follows move result after) {value : β} :
    after = .ok value ↔ result = .ok value := by
  cases follows with
  | ok => exact Iff.rfl
  | error =>
      constructor
      · intro impossible
        cases impossible
      · intro impossible
        cases impossible

theorem Follows.eq_error (follows : Follows move result after) {error : ParseError}
    (failed : result = .error error) : ∃ cause, after = .error ⟨move error.line, cause⟩ := by
  cases follows with
  | ok => cases failed
  | error line cause later =>
      rw [← Except.error.inj failed]
      exact ⟨later, rfl⟩

/-- The rest is read in the same part after either line. -/
theorem readLinesFrom_readAlike_head (alike : ReadAlike line edited) :
    Follows id (readLinesFrom part number (line :: below))
      (readLinesFrom part number (edited :: below)) := by
  cases read : readLineIn part (trimmed line) with
  | ok result =>
      have same := (alike part result).mpr read
      rw [readLinesFrom, readLinesFrom, read, same]
      exact .refl _
  | error cause =>
      cases readEdited : readLineIn part (trimmed edited) with
      | ok result =>
          rw [(alike part result).mp readEdited] at read
          cases read
      | error later =>
          rw [readLinesFrom_unfit read, readLinesFrom_unfit readEdited]
          exact .error number cause later

/-- A line that is read as another can take its place. -/
theorem readLinesFrom_readAlike (alike : ReadAlike line edited) :
    Follows id (readLinesFrom part number (above ++ line :: below))
      (readLinesFrom part number (above ++ edited :: below)) := by
  rcases continues_or_stopsAt part above with ⟨last, instructions, guesses, continues⟩ |
    ⟨before, last, cause, stops⟩
  · rw [continues.readLinesFrom_append, continues.readLinesFrom_append]
    exact (readLinesFrom_readAlike_head alike).map _
  · rw [stops.append.readLinesFrom_eq_error, stops.append.readLinesFrom_eq_error]
    exact .refl _

/-- A line that means nothing moves the lines below it down. -/
theorem readLinesFrom_insertLine (noise : IsNoise quiet) :
    Follows (fun number => if number ≤ above.length then number else number + 1)
      (readLinesFrom part 1 (above ++ below)) (readLinesFrom part 1 (above ++ quiet :: below)) := by
  rcases continues_or_stopsAt part above with ⟨last, instructions, guesses, continues⟩ |
    ⟨before, last, cause, stops⟩
  · rw [continues.readLinesFrom_append, continues.readLinesFrom_append, readLinesFrom_noise noise]
    apply Follows.map
    rcases continues_or_stopsAt last below with ⟨reached, more, others, onward⟩ |
      ⟨before, reached, cause, stops⟩
    · rw [onward.readLinesFrom_eq_ok, onward.readLinesFrom_eq_ok]
      exact .ok _
    · rw [stops.readLinesFrom_eq_error, stops.readLinesFrom_eq_error]
      apply Follows.error_at
      rw [if_neg (by omega)]
      omega
  · rw [stops.append.readLinesFrom_eq_error, stops.append.readLinesFrom_eq_error]
    apply Follows.error_at
    have short := stops.length_lt
    rw [if_pos (by omega)]

theorem Edit.follows {editedLines : List (List Char)}
    (edit : Edit TakesComment lines editedLines move) :
    Follows move (readLinesFrom .preamble 1 lines) (readLinesFrom .preamble 1 editedLines) := by
  cases edit with
  | insertLine quiet => exact readLinesFrom_insertLine quiet
  | pad blankLeft blankRight ended =>
      exact readLinesFrom_readAlike (readAlike_pad blankLeft blankRight ended)
  | appendComment content takes ended =>
      exact readLinesFrom_readAlike (readAlike_comment content takes _ ended)
  | returnCarriage => exact readLinesFrom_readAlike readAlike_returnCarriage

theorem Edits.follows {editedLines : List (List Char)}
    (edits : Edits TakesComment lines editedLines move) :
    Follows move (readLinesFrom .preamble 1 lines) (readLinesFrom .preamble 1 editedLines) := by
  induction edits with
  | none => exact .refl _
  | more _ last ih => exact ih.trans last.follows

theorem readLinesFrom_blank_last :
    readLinesFrom part number (lines ++ [[]]) = readLinesFrom part number lines := by
  rcases continues_or_stopsAt part lines with ⟨last, instructions, guesses, continues⟩ |
    ⟨before, last, cause, stops⟩
  · have blank : Continues last [[]] last [] [] := .noise (Or.inl rfl) .nil
    have whole := continues.append blank
    rw [List.append_nil, List.append_nil] at whole
    rw [continues.readLinesFrom_eq_ok, whole.readLinesFrom_eq_ok]
  · rw [stops.append.readLinesFrom_eq_error, stops.readLinesFrom_eq_error]

theorem HasLines.read {text : String} (has : HasLines text.toList lines) :
    Problem.read text = (readLinesFrom .preamble 1 lines).map .ofContents := by
  rcases has.eq_splitLines with same | same
  · rw [same, Problem.read]
  · rw [same, readLinesFrom_blank_last, Problem.read]

end Runs

/-- A text with another layout and more comments is read as the same problem, or it fails at the line
to which the failing line was moved. A line with content that does not take a comment can be read in
no section with one. -/
theorem layout_and_comments_change_nothing {text edited : String}
    {lines editedLines : List (List Char)} {move : Nat → Nat} (before : HasLines text.toList lines)
    (after : HasLines edited.toList editedLines) (edits : Edits TakesComment lines editedLines move) :
    (∀ problem, Problem.read edited = .ok problem ↔ Problem.read text = .ok problem) ∧
    (∀ error, Problem.read text = .error error →
      ∃ cause, Problem.read edited = .error ⟨move error.line, cause⟩) ∧
    ∀ line title, HasContent (trimmed line) → ¬ TakesComment line →
      ∀ part result, readLineIn part (trimmed (line ++ '#' :: title)) ≠ .ok result := by
  have follows := edits.follows.map Problem.ofContents
  rw [← before.read, ← after.read] at follows
  refine ⟨?_, ?_, fun line title content blocked => readLineIn_comment_ne_ok content blocked title⟩
  · exact fun problem => follows.eq_ok_iff
  · exact fun error failed => follows.eq_error failed

section Texts

variable {Takes : List Char → Prop} {above below : List (List Char)} {line left right : List Char}

/-- A change to a line that has no carriage return of its own. -/
theorem Edit.padLine (blankLeft : ∀ c ∈ left, isBlank c = true)
    (blankRight : ∀ c ∈ right, isBlank c = true) :
    Edit Takes (above ++ line :: below) (above ++ (left ++ (line ++ right)) :: below) id := by
  have padded := @Edit.pad Takes above below line left right [] blankLeft blankRight (Or.inl rfl)
  rwa [List.append_nil, List.append_nil] at padded

theorem Edit.commentLine (content : HasContent (trimmed line)) (takes : Takes line)
    (title : List Char) :
    Edit Takes (above ++ line :: below) (above ++ (line ++ '#' :: title) :: below) id := by
  have commented := @Edit.appendComment Takes above below line title [] content takes (Or.inl rfl)
  rwa [List.append_nil, List.append_nil] at commented

theorem hasContent_cons {c : Char} {more : List Char} (other : c ≠ '#') : HasContent (c :: more) :=
  ⟨List.cons_ne_nil c more, fun _ same => other (List.cons.inj same).1⟩

def belowSecond (number : Nat) : Nat := if number ≤ 2 then number else number + 1

/-- One change of each kind. -/
theorem edits_each {header first quiet second title : List Char} (noise : IsNoise quiet)
    (blankLeft : ∀ c ∈ left, isBlank c = true) (blankRight : ∀ c ∈ right, isBlank c = true)
    (content : HasContent (trimmed second)) (takes : Takes second) :
    Edits Takes (header :: first :: second :: below)
      ((header ++ ['\r']) :: (left ++ (first ++ right)) :: quiet :: (second ++ '#' :: title) :: below)
      belowSecond := by
  have returned := Edits.none.more (@Edit.returnCarriage Takes [] (first :: second :: below) header)
  have padded := returned.more (@Edit.padLine Takes [header ++ ['\r']] (second :: below) first left
    right blankLeft blankRight)
  have commented := padded.more (@Edit.commentLine Takes [header ++ ['\r'], left ++ (first ++ right)]
    below second content takes title)
  exact commented.more (@Edit.insertLine Takes [header ++ ['\r'], left ++ (first ++ right)] _ quiet
    noise)

def twoPointsText : String := "# constraints\npoint a\npoint b # at rest\n# constraints\n"

def rearrangedText : String :=
  "# constraints\r\n\u00a0point a\t\n# layout\npoint b # at rest# at all\n# constraints\n"

theorem second_header_is_moved :
    Problem.read twoPointsText = .error ⟨4, .unexpectedHeader "constraints".toList⟩ ∧
      ∃ cause, Problem.read rearrangedText = .error ⟨5, cause⟩ := by
  have sign : TakesComment "point b # at rest".toList := Or.inl (by decide)
  have bare : trimmed "point b # at rest".toList = 'p' :: "oint b # at rest".toList := by decide
  have content : HasContent (trimmed "point b # at rest".toList) :=
    bare ▸ hasContent_cons (by decide)
  have failed : Problem.read twoPointsText = .error ⟨4, .unexpectedHeader "constraints".toList⟩ :=
    eq_error_of_failure? (by decide +kernel)
  have before : HasLines twoPointsText.toList ["# constraints".toList, "point a".toList,
      "point b # at rest".toList, "# constraints".toList] := ⟨by decide, Or.inl (by decide)⟩
  have after : HasLines rearrangedText.toList [ "# constraints".toList ++ ['\r'],
      ['\u00a0'] ++ ("point a".toList ++ ['\t']), "# layout".toList,
      "point b # at rest".toList ++ '#' :: " at all".toList, "# constraints".toList] :=
    ⟨by decide, Or.inl (by decide)⟩
  have noise : IsNoise "# layout".toList :=
    Or.inr ⟨" layout".toList, by decide, by decide, by decide⟩
  have left : ∀ c ∈ ['\u00a0'], isBlank c = true := List.forall_mem_singleton.mpr (by decide)
  have right : ∀ c ∈ ['\t'], isBlank c = true := List.forall_mem_singleton.mpr (by decide)
  obtain ⟨_, moved, _⟩ := layout_and_comments_change_nothing before after
    (edits_each noise left right content sign)
  exact ⟨failed, moved _ failed⟩

/-- A text whose last line ends in a blank that is no space and no tab. -/
def hardSpaceText : String := "# constraints\npoint a\u00a0\n"

def commentedText : String := "# constraints\npoint a\u00a0# c\n"

theorem comment_behind_hard_space_is_not_read :
    HasLines hardSpaceText.toList ["# constraints".toList, "point a\u00a0".toList] ∧
    HasLines commentedText.toList ["# constraints".toList, "point a\u00a0# c".toList] ∧
    Edits (fun _ => True) ["# constraints".toList, "point a\u00a0".toList]
      ["# constraints".toList, "point a\u00a0# c".toList] id ∧
    (∃ problem, Problem.read hardSpaceText = .ok problem) ∧
    ∀ problem, Problem.read commentedText ≠ .ok problem := by
  have bare : trimmed "point a\u00a0".toList = 'p' :: "oint a".toList := by decide
  have content : HasContent (trimmed "point a\u00a0".toList) := bare ▸ hasContent_cons (by decide)
  have readable : (Problem.read hardSpaceText).toOption.isSome = true := by decide +kernel
  have unreadable : (Problem.read commentedText).toOption.isSome = false := by decide +kernel
  refine ⟨⟨by decide, Or.inl (by decide)⟩, ⟨by decide, Or.inl (by decide)⟩, ?_, ?_, ?_⟩
  · exact Edits.none.more (@Edit.appendComment _ ["# constraints".toList] []
      "point a\u00a0".toList " c".toList [] content trivial (Or.inl rfl))
  · cases read : Problem.read hardSpaceText with
    | error error =>
        rw [read] at readable
        cases readable
    | ok problem => exact ⟨problem, rfl⟩
  · intro problem read
    rw [read] at unreadable
    cases unreadable

end Texts

end Drafting.Text
