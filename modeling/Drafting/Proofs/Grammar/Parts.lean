import Drafting.Proofs.Grammar.Numerals
import Drafting.Text.Instruction

/-!
# The grammar of the parts of a line

How blanks, marks, labels and numbers are written, and that the readers for them take just what is
written so. A run that is read takes as much as it can, so each part is read as a whole only if
what follows does not go on with it; the marks between the parts are there for that.
-/

namespace Drafting.Text

open Number (Numeral)

section Runs

variable {p : Char → Bool} {c : Char} {rest : List Char}

theorem endsRun_cons (outside : p c = false) : EndsRun p (c :: rest) := by
  intro d first
  rw [← Option.some.inj first]
  exact outside

theorem endsRun_nil : EndsRun p [] := by
  intro c first
  cases first

end Runs

section Grammar

def SpellsBlanks (taken : List Char) : Prop := ∀ c ∈ taken, Reader.isSpace c = true

inductive SpellsMark (mark : Char) : List Char → Prop
  | mk {before after : List Char} (blanksBefore : SpellsBlanks before)
      (blanksAfter : SpellsBlanks after) : SpellsMark mark (before ++ mark :: after)

inductive SpellsLabel : List Char → Label → Prop
  | mk {first : Char} {more : List Char} (start : isLabelStart first = true)
      (parts : ∀ c ∈ more, isLabelPart c = true) :
      SpellsLabel (first :: more) (String.ofList (first :: more))

inductive SpellsNumber : List Char → Float → Prop
  | mk {taken : List Char} {numeral : Numeral} (spelled : Numeral.SpellsNumeral taken numeral) :
      SpellsNumber taken numeral.toFloat

inductive SpellsEnding : List Char → Prop
  | blank {taken : List Char} (blanks : SpellsBlanks taken) : SpellsEnding taken
  | comment {taken title : List Char} (blanks : SpellsBlanks taken) :
      SpellsEnding (taken ++ '#' :: title)

end Grammar

section Characters

theorem isSpace_iff {c : Char} : Reader.isSpace c = true ↔ c = ' ' ∨ c = '\t' := by
  rw [Reader.isSpace, Bool.or_eq_true, beq_iff_eq, beq_iff_eq]

/-- What holds of neither space nor tab stops at blanks. -/
theorem not_of_isSpace {p : Char → Bool} (space : p ' ' = false) (tab : p '\t' = false) {c : Char}
    (blank : Reader.isSpace c = true) : p c = false := by
  rcases isSpace_iff.mp blank with same | same
  · rw [same]
    exact space
  · rw [same]
    exact tab

theorem isSpace_eq_false {p : Char → Bool} (space : p ' ' = false) (tab : p '\t' = false) {c : Char}
    (other : p c = true) : Reader.isSpace c = false := by
  rw [Bool.eq_false_iff]
  intro blank
  rw [not_of_isSpace space tab blank] at other
  cases other

theorem isLabelPart_of_isLabelStart {c : Char} (start : isLabelStart c = true) :
    isLabelPart c = true := by
  rw [isLabelStart, Bool.or_eq_true] at start
  rw [isLabelPart, Bool.or_eq_true, Bool.or_eq_true]
  exact start.imp_left Or.inl

/-- The first letter of all is `A`. -/
theorem isAlphabetic_of_lt {c : Char} (low : c.toNat < 65) : isAlphabetic c = false := by
  have early : alphabeticSet.takeWhile (fun bound => bound ≤ c.toNat) = [] := by
    have first : alphabeticSet = 65 :: alphabeticSet.tail := rfl
    rw [first]
    apply List.takeWhile_cons_of_neg
    rw [decide_eq_true_eq]
    omega
  rw [isAlphabetic, CharacterSet.contains, early]
  rfl

theorem isLabelStart_of_isDigit {c : Char} (digit : c.isDigit = true) : isLabelStart c = false := by
  obtain ⟨_, high⟩ := Char.isDigit_iff_toNat.mp digit
  have high : c.toNat ≤ 57 := high
  rw [isLabelStart, isAlphabetic_of_lt (by omega), Bool.false_or, beq_eq_false_iff_ne]
  intro same
  rw [same] at digit
  cases digit

theorem isLabelStart_of_isSign {c : Char} (sign : Numeral.isSign c = true) :
    isLabelStart c = false := by
  rw [Numeral.isSign, Bool.or_eq_true, beq_iff_eq, beq_iff_eq] at sign
  rcases sign with same | same
  · rw [same]
    decide
  · rw [same]
    decide

theorem isLabelStart_of_isAlpha {c : Char} (letter : c.isAlpha = true) : isLabelStart c = true := by
  have bounds : alphabeticSet = 65 :: 91 :: 97 :: 123 :: alphabeticSet.drop 4 := rfl
  have alphabetic : isAlphabetic c = true := by
    rw [isAlphabetic, CharacterSet.contains, bounds]
    rcases isAlpha_iff_toNat.mp letter with ⟨low, high⟩ | ⟨low, high⟩
    · rw [List.takeWhile_cons_of_pos (by rw [decide_eq_true_eq]; omega),
        List.takeWhile_cons_of_neg (by rw [decide_eq_true_eq]; omega)]
      rfl
    · rw [List.takeWhile_cons_of_pos (by rw [decide_eq_true_eq]; omega),
        List.takeWhile_cons_of_pos (by rw [decide_eq_true_eq]; omega),
        List.takeWhile_cons_of_pos (by rw [decide_eq_true_eq]; omega),
        List.takeWhile_cons_of_neg (by rw [decide_eq_true_eq]; omega)]
      rfl
  rw [isLabelStart, alphabetic, Bool.true_or]

end Characters

section Starts

variable {p : Char → Bool} {taken rest : List Char}

theorem SpellsBlanks.endsRun (blanks : SpellsBlanks taken) (space : p ' ' = false)
    (tab : p '\t' = false) (ends : EndsRun p rest) : EndsRun p (taken ++ rest) := by
  cases taken with
  | nil => exact ends
  | cons c more => exact endsRun_cons (not_of_isSpace space tab (blanks c List.mem_cons_self))

theorem SpellsMark.endsRun {mark : Char} (marked : SpellsMark mark taken) (space : p ' ' = false)
    (tab : p '\t' = false) (stops : p mark = false) : EndsRun p (taken ++ rest) := by
  cases marked with
  | mk blanksBefore _ =>
      rw [List.append_assoc]
      exact blanksBefore.endsRun space tab (endsRun_cons stops)

theorem SpellsLabel.endsRun_isSpace {label : Label} (spelled : SpellsLabel taken label) :
    EndsRun Reader.isSpace (taken ++ rest) := by
  cases spelled with
  | mk start => exact endsRun_cons (isSpace_eq_false (by decide) (by decide) start)

theorem SpellsNumber.endsRun {value : Float} (spelled : SpellsNumber taken value)
    (outside : ∀ c, p c = true →
      Numeral.continuesNumeral c = false ∧ Numeral.isSign c = false) :
    EndsRun p (taken ++ rest) := by
  cases spelled with
  | mk spelled =>
      apply spelled.endsRun
      intro c starts
      rw [Bool.eq_false_iff]
      intro inside
      obtain ⟨notContinued, notSign⟩ := outside c inside
      rw [notContinued, notSign] at starts
      exact Bool.false_ne_true (starts.elim id id)

theorem SpellsNumber.endsRun_isSpace {value : Float} (spelled : SpellsNumber taken value) :
    EndsRun Reader.isSpace (taken ++ rest) :=
  spelled.endsRun fun _ blank =>
    ⟨not_of_isSpace (by decide) (by decide) blank, not_of_isSpace (by decide) (by decide) blank⟩

theorem SpellsEnding.endsRun (ending : SpellsEnding taken) (space : p ' ' = false)
    (tab : p '\t' = false) (comment : p '#' = false) : EndsRun p taken := by
  cases ending with
  | blank blanks =>
      have ends : EndsRun p (taken ++ []) := blanks.endsRun space tab endsRun_nil
      rw [List.append_nil] at ends
      exact ends
  | comment blanks => exact blanks.endsRun space tab (endsRun_cons comment)

end Starts

section Labels

variable {taken : List Char} {label : Label}

theorem SpellsLabel.eq_ofList (spelled : SpellsLabel taken label) :
    label = String.ofList taken := by
  cases spelled with
  | mk => rfl

theorem SpellsLabel.parts (spelled : SpellsLabel taken label) :
    ∀ c ∈ taken, isLabelPart c = true := by
  cases spelled with
  | mk start parts =>
      intro c member
      rcases List.mem_cons.mp member with same | member
      · rw [same]
        exact isLabelPart_of_isLabelStart start
      · exact parts c member

/-- A numeral of letters alone can be a label. -/
theorem spellsLabel_of_spellsWord {word : List Char} {numeral : Numeral}
    (spelled : Numeral.SpellsWord word numeral) : SpellsLabel word (String.ofList word) := by
  obtain ⟨nonempty, letters⟩ := spelled.letters
  cases word with
  | nil => exact absurd rfl nonempty
  | cons first more =>
      apply SpellsLabel.mk (isLabelStart_of_isAlpha (letters first List.mem_cons_self))
      intro c member
      apply isLabelPart_of_isLabelStart
      exact isLabelStart_of_isAlpha (letters c (List.mem_cons_of_mem first member))

end Labels

namespace Reader

variable {β γ : Type} {text rest taken : List Char}

section Laws

variable {reader first second : Reader β} {next : β → Reader γ} {value : β} {result : γ}

theorem bind_of_ok {middle : List Char} (read : reader text = .ok (value, middle)) :
    (reader >>= next) text = next value middle := by
  unfold bind Monad.toBind instMonad
  dsimp only
  rw [read]

theorem bind_of_error {stop : List Char} (failed : reader text = .error stop) :
    (reader >>= next) text = .error stop := by
  unfold bind Monad.toBind instMonad
  dsimp only
  rw [failed]

theorem bind_eq_ok_iff :
    (reader >>= next) text = .ok (result, rest) ↔
      ∃ value middle, reader text = .ok (value, middle) ∧
        next value middle = .ok (result, rest) := by
  cases read : reader text with
  | error stop =>
      rw [bind_of_error read]
      constructor
      · intro impossible
        cases impossible
      · rintro ⟨_, _, impossible, _⟩
        cases impossible
  | ok found =>
      obtain ⟨value, middle⟩ := found
      rw [bind_of_ok read]
      constructor
      · intro after
        exact ⟨value, middle, rfl, after⟩
      · rintro ⟨value, middle, same, after⟩
        cases same
        exact after

theorem orElse_of_ok {found : β × List Char} (read : first text = .ok found) :
    orElse first second text = .ok found := by
  rw [orElse, read]

theorem orElse_of_error {stop : List Char} (failed : first text = .error stop) :
    orElse first second text = second text := by
  rw [orElse, failed]

theorem ok_of_orElse {found : β × List Char} (read : orElse first second text = .ok found) :
    first text = .ok found ∨ second text = .ok found := by
  unfold orElse at read
  split at read
  · rename_i firstRead
    rw [firstRead]
    exact Or.inl read
  · exact Or.inr read

end Laws

section Parts

theorem one_eq_ok_iff {accepts : Char → Bool} {c : Char} :
    one accepts text = .ok (c, rest) ↔ text = c :: rest ∧ accepts c = true := by
  cases text with
  | nil =>
      constructor
      · intro impossible
        cases impossible
      · rintro ⟨impossible, _⟩
        cases impossible
  | cons d after =>
      rw [one]
      constructor
      · intro read
        split at read
        · rename_i accepted
          cases read
          exact ⟨rfl, accepted⟩
        · cases read
      · rintro ⟨same, accepted⟩
        cases same
        rw [if_pos accepted]

theorem char_eq_ok_iff {expected c : Char} :
    char expected text = .ok (c, rest) ↔ text = expected :: rest ∧ c = expected := by
  rw [char, one_eq_ok_iff, beq_iff_eq]
  constructor
  · rintro ⟨split, same⟩
    rw [same] at split
    exact ⟨split, same⟩
  · rintro ⟨split, same⟩
    rw [same]
    exact ⟨split, rfl⟩

theorem word_eq_ok_iff {expected : String} {result : Unit} :
    word expected text = .ok (result, rest) ↔ text = expected.toList ++ rest := by
  rw [word]
  constructor
  · intro read
    split at read
    · rename_i starts
      cases read
      obtain ⟨after, split⟩ := List.isPrefixOf_iff_prefix.mp starts
      rw [← split, ← String.length_toList, List.drop_left]
    · cases read
  · intro split
    rw [split, if_pos (List.isPrefixOf_iff_prefix.mpr (List.prefix_append _ _)),
      ← String.length_toList, List.drop_left]

theorem many_complete {accepts : Char → Bool} (inside : ∀ c ∈ taken, accepts c = true)
    (ends : EndsRun accepts rest) : many accepts (taken ++ rest) = .ok (taken, rest) := by
  rw [many, takeWhile_run inside ends, dropWhile_run inside ends]

theorem many_sound {accepts : Char → Bool} {run : List Char}
    (read : many accepts text = .ok (run, rest)) :
    text = run ++ rest ∧ ∀ c ∈ run, accepts c = true := by
  cases read
  exact ⟨List.takeWhile_append_dropWhile.symm, fun c member => List.mem_takeWhile_imp member⟩

theorem spaces1_complete (nonempty : taken ≠ []) (blanks : SpellsBlanks taken)
    (ends : EndsRun isSpace rest) : spaces1 (taken ++ rest) = .ok ((), rest) := by
  cases taken with
  | nil => exact absurd rfl nonempty
  | cons c more =>
      have first : one isSpace (c :: (more ++ rest)) = .ok (c, more ++ rest) :=
        one_eq_ok_iff.mpr ⟨rfl, blanks c List.mem_cons_self⟩
      have later : spaces (more ++ rest) = .ok (more, rest) :=
        many_complete (fun d member => blanks d (List.mem_cons_of_mem c member)) ends
      rw [List.cons_append, spaces1, bind_of_ok first, bind_of_ok later]
      rfl

theorem spaces1_sound {result : Unit} (read : spaces1 text = .ok (result, rest)) :
    ∃ taken, text = taken ++ rest ∧ taken ≠ [] ∧ SpellsBlanks taken := by
  obtain ⟨c, _, first, read⟩ := bind_eq_ok_iff.mp read
  obtain ⟨more, _, later, read⟩ := bind_eq_ok_iff.mp read
  cases read
  obtain ⟨split, blank⟩ := one_eq_ok_iff.mp first
  obtain ⟨moreSplit, blanks⟩ := many_sound later
  refine ⟨c :: more, ?_, List.cons_ne_nil c more, ?_⟩
  · rw [split, moreSplit, List.cons_append]
  · intro d member
    rcases List.mem_cons.mp member with same | member
    · rw [same]
      exact blank
    · exact blanks d member

theorem spaced_complete {mark : Char} (marked : SpellsMark mark taken)
    (notSpace : isSpace mark = false) (ends : EndsRun isSpace rest) :
    spaced mark (taken ++ rest) = .ok ((), rest) := by
  cases marked with
  | @mk before after blanksBefore blanksAfter =>
      have first : spaces (before ++ mark :: (after ++ rest)) =
          .ok (before, mark :: (after ++ rest)) :=
        many_complete blanksBefore (endsRun_cons notSpace)
      have middle : char mark (mark :: (after ++ rest)) = .ok (mark, after ++ rest) :=
        char_eq_ok_iff.mpr ⟨rfl, rfl⟩
      have last : spaces (after ++ rest) = .ok (after, rest) := many_complete blanksAfter ends
      rw [List.append_assoc, List.cons_append, spaced, bind_of_ok first, bind_of_ok middle,
        bind_of_ok last]
      rfl

theorem spaced_sound {mark : Char} {result : Unit} (read : spaced mark text = .ok (result, rest)) :
    ∃ taken, text = taken ++ rest ∧ SpellsMark mark taken := by
  obtain ⟨before, _, first, read⟩ := bind_eq_ok_iff.mp read
  obtain ⟨_, _, middle, read⟩ := bind_eq_ok_iff.mp read
  obtain ⟨after, _, last, read⟩ := bind_eq_ok_iff.mp read
  cases read
  obtain ⟨beforeSplit, blanksBefore⟩ := many_sound first
  obtain ⟨markSplit, _⟩ := char_eq_ok_iff.mp middle
  obtain ⟨afterSplit, blanksAfter⟩ := many_sound last
  refine ⟨before ++ mark :: after, ?_, .mk blanksBefore blanksAfter⟩
  rw [beforeSplit, markSplit, afterSplit, List.append_assoc, List.cons_append]

theorem comma_complete (apart : SpellsMark ',' taken) (ends : EndsRun isSpace rest) :
    comma (taken ++ rest) = .ok ((), rest) :=
  spaced_complete apart (by decide) ends

theorem label_complete {value : Label} (spelled : SpellsLabel taken value)
    (ends : EndsRun isLabelPart rest) : label (taken ++ rest) = .ok (value, rest) := by
  cases spelled with
  | @mk first more start parts =>
      have head : one isLabelStart (first :: (more ++ rest)) = .ok (first, more ++ rest) :=
        one_eq_ok_iff.mpr ⟨rfl, start⟩
      have tail : many isLabelPart (more ++ rest) = .ok (more, rest) := many_complete parts ends
      rw [List.cons_append, label, bind_of_ok head, bind_of_ok tail]
      rfl

theorem label_sound {value : Label} (read : label text = .ok (value, rest)) :
    ∃ taken, text = taken ++ rest ∧ SpellsLabel taken value := by
  obtain ⟨first, _, head, read⟩ := bind_eq_ok_iff.mp read
  obtain ⟨more, _, tail, read⟩ := bind_eq_ok_iff.mp read
  cases read
  obtain ⟨split, start⟩ := one_eq_ok_iff.mp head
  obtain ⟨moreSplit, parts⟩ := many_sound tail
  refine ⟨first :: more, ?_, .mk start parts⟩
  rw [split, moreSplit, List.cons_append]

theorem label_of_no_start (ends : EndsRun isLabelStart text) :
    ∃ stop, label text = .error stop := by
  cases read : label text with
  | error stop => exact ⟨stop, rfl⟩
  | ok found =>
      obtain ⟨value, rest⟩ := found
      obtain ⟨taken, split, spelled⟩ := label_sound read
      cases spelled with
      | mk start =>
          rw [split] at ends
          rw [ends _ rfl] at start
          cases start

theorem number_complete {value : Float} (spelled : SpellsNumber taken value)
    (ends : EndsRun Numeral.continuesNumeral rest) :
    number (taken ++ rest) = .ok (value, rest) := by
  cases spelled with
  | mk spelled => rw [number, Numeral.readPrefix?_complete spelled ends]

theorem number_sound {value : Float} (read : number text = .ok (value, rest)) :
    ∃ taken, text = taken ++ rest ∧ SpellsNumber taken value := by
  unfold number at read
  split at read
  · rename_i found
    cases read
    obtain ⟨taken, split, spelled⟩ := Numeral.readPrefix?_sound found
    exact ⟨taken, split, .mk spelled⟩
  · cases read

theorem endOfLine_eq_ok_iff {result : Unit} :
    endOfLine text = .ok (result, rest) ↔ rest = [] ∧ SpellsEnding text := by
  constructor
  · intro read
    have split := text.takeWhile_append_dropWhile (p := isSpace)
    have blanks : SpellsBlanks (text.takeWhile isSpace) :=
      fun c member => List.mem_takeWhile_imp member
    unfold endOfLine at read
    split at read
    · rename_i nothing
      cases read
      rw [nothing, List.append_nil] at split
      rw [← split]
      exact ⟨rfl, .blank blanks⟩
    · rename_i title comment
      cases read
      rw [← split, comment]
      exact ⟨rfl, .comment blanks⟩
    · cases read
  · rintro ⟨same, ending⟩
    rw [same, endOfLine]
    cases ending with
    | blank blanks =>
        rw [List.dropWhile_eq_nil_iff.mpr blanks]
    | @comment taken title blanks =>
        have ends : EndsRun isSpace ('#' :: title) := endsRun_cons (by decide)
        rw [dropWhile_run blanks ends]
        rfl

end Parts

end Reader

end Drafting.Text
