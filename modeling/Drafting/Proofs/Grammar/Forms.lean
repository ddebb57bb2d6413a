import Drafting.Proofs.Grammar.Parts

/-!
# The grammar of instructions and guesses

What the lines of a problem can say and how each form of them is written. Each reader of a form
reads what is written so. Only the length of a distance can be written alike as a label and as a
number, and it is read as a label then.
-/

namespace Drafting.Text

open Number (Numeral)

section Grammar

variable {β : Type}

inductive SpellsEnds : List Char → Ends → Prop
  | mk {start finish : Label} {first between second : List Char} (one : SpellsLabel first start)
      (apart : SpellsMark ',' between) (other : SpellsLabel second finish) :
      SpellsEnds (first ++ (between ++ second)) ⟨start, finish⟩

inductive SpellsTwoEnds : List Char → Ends × Ends → Prop
  | mk {s t : Ends} {first between second : List Char} (one : SpellsEnds first s)
      (apart : SpellsMark ',' between) (other : SpellsEnds second t) :
      SpellsTwoEnds (first ++ (between ++ second)) (s, t)

inductive SpellsDistance : List Char → Instruction Float → Prop
  | scalar {ends : Ends} {length : Label} {first between last : List Char}
      (ended : SpellsEnds first ends) (apart : SpellsMark ',' between)
      (given : SpellsLabel last length) :
      SpellsDistance (first ++ (between ++ last)) (.distanceScalar ends length)
  | value {ends : Ends} {length : Float} {first between last : List Char}
      (ended : SpellsEnds first ends) (apart : SpellsMark ',' between)
      (given : SpellsNumber last length) :
      SpellsDistance (first ++ (between ++ last)) (.distance ends length)

inductive SpellsCall (name : String) (Spells : List Char → β → Prop) : List Char → β → Prop
  | mk {value : β} {opening arguments blanks : List Char} (opened : SpellsMark '(' opening)
      (spelled : Spells arguments value) (closed : SpellsBlanks blanks) :
      SpellsCall name Spells (name.toList ++ (opening ++ (arguments ++ (blanks ++ [')'])))) value

inductive SpellsDeclaration (keyword : String) : List Char → Label → Prop
  | mk {label : Label} {blanks name : List Char} (nonempty : blanks ≠ [])
      (apart : SpellsBlanks blanks) (spelled : SpellsLabel name label) :
      SpellsDeclaration keyword (keyword.toList ++ (blanks ++ name)) label

inductive SpellsAxis : List Char → Axis → Prop
  | x : SpellsAxis ['x'] .x
  | y : SpellsAxis ['y'] .y

inductive SpellsInstruction : List Char → Instruction Float → Prop
  | declarePoint {taken : List Char} {label : Label}
      (spelled : SpellsDeclaration "point" taken label) :
      SpellsInstruction taken (.declarePoint label)
  | declareScalar {taken : List Char} {label : Label}
      (spelled : SpellsDeclaration "scalar" taken label) :
      SpellsInstruction taken (.declareScalar label)
  | fixCoordinate {point : Label} {axis : Axis} {value : Float}
      {name letter between number : List Char} (named : SpellsLabel name point)
      (along : SpellsAxis letter axis) (equals : SpellsMark '=' between)
      (given : SpellsNumber number value) :
      SpellsInstruction (name ++ '.' :: (letter ++ (between ++ number)))
        (.fixCoordinate point axis value)
  | fixScalar {scalar : Label} {value : Float} {name between number : List Char}
      (named : SpellsLabel name scalar) (equals : SpellsMark '=' between)
      (given : SpellsNumber number value) :
      SpellsInstruction (name ++ (between ++ number)) (.fixScalar scalar value)
  | vertical {taken : List Char} {ends : Ends}
      (spelled : SpellsCall "vertical" SpellsEnds taken ends) :
      SpellsInstruction taken (.vertical ends)
  | horizontal {taken : List Char} {ends : Ends}
      (spelled : SpellsCall "horizontal" SpellsEnds taken ends) :
      SpellsInstruction taken (.horizontal ends)
  | distance {taken : List Char} {instruction : Instruction Float}
      (spelled : SpellsCall "distance" SpellsDistance taken instruction) :
      SpellsInstruction taken instruction
  | congruent {taken : List Char} {s t : Ends}
      (spelled : SpellsCall "congruent" SpellsTwoEnds taken (s, t)) :
      SpellsInstruction taken (.congruent s t)
  | parallel {taken : List Char} {s t : Ends}
      (spelled : SpellsCall "parallel" SpellsTwoEnds taken (s, t)) :
      SpellsInstruction taken (.parallel s t)
  | perpendicular {taken : List Char} {s t : Ends}
      (spelled : SpellsCall "perpendicular" SpellsTwoEnds taken (s, t)) :
      SpellsInstruction taken (.perpendicular s t)

inductive SpellsPlace : List Char → Point Float → Prop
  | mk {x y : Float} {blanks first between second closing : List Char}
      (opened : SpellsBlanks blanks) (one : SpellsNumber first x) (apart : SpellsMark ',' between)
      (other : SpellsNumber second y) (closed : SpellsBlanks closing) :
      SpellsPlace ('(' :: (blanks ++ (first ++ (between ++ (second ++ (closing ++ [')'])))))) ⟨x, y⟩

inductive SpellsGuess : List Char → Guess Float → Prop
  | point {label : Label} {place : Point Float} {name apart blanks given : List Char}
      (named : SpellsLabel name label) (nonempty : apart ≠ []) (blanksBefore : SpellsBlanks apart)
      (blanksAfter : SpellsBlanks blanks) (spelled : SpellsPlace given place) :
      SpellsGuess (name ++ (apart ++ ("roughly".toList ++ (blanks ++ given)))) (.point label place)
  | scalar {label : Label} {value : Float} {name apart blanks given : List Char}
      (named : SpellsLabel name label) (nonempty : apart ≠ []) (blanksBefore : SpellsBlanks apart)
      (blanksAfter : SpellsBlanks blanks) (spelled : SpellsNumber given value) :
      SpellsGuess (name ++ (apart ++ ("roughly".toList ++ (blanks ++ given)))) (.scalar label value)

end Grammar

section Choice

inductive Form where
  | declarePoint
  | declareScalar
  | fixCoordinate
  | fixScalar
  | vertical
  | horizontal
  | distance
  | congruent
  | parallel
  | perpendicular
  deriving DecidableEq, Repr

def Instruction.form {α : Type} : Instruction α → Form
  | .declarePoint _ => .declarePoint
  | .declareScalar _ => .declareScalar
  | .fixCoordinate _ _ _ => .fixCoordinate
  | .fixScalar _ _ => .fixScalar
  | .vertical _ => .vertical
  | .horizontal _ => .horizontal
  | .distance _ _ | .distanceScalar _ _ => .distance
  | .congruent _ _ => .congruent
  | .parallel _ _ => .parallel
  | .perpendicular _ _ => .perpendicular

/-- One line can give both of these, and the first is what it is read as: a length that is written
as a word is a label rather than a number. -/
inductive Supersedes : Instruction Float → Instruction Float → Prop
  | mk {ends : Ends} {word : List Char} {numeral : Numeral}
      (spelled : Numeral.SpellsWord word numeral) :
      Supersedes (.distanceScalar ends (String.ofList word)) (.distance ends numeral.toFloat)

end Choice

section Starts

variable {taken rest : List Char}

theorem SpellsEnds.endsRun_isSpace {value : Ends} (spelled : SpellsEnds taken value) :
    EndsRun Reader.isSpace (taken ++ rest) := by
  cases spelled with
  | mk one =>
      rw [List.append_assoc]
      exact one.endsRun_isSpace

theorem SpellsTwoEnds.endsRun_isSpace {value : Ends × Ends} (spelled : SpellsTwoEnds taken value) :
    EndsRun Reader.isSpace (taken ++ rest) := by
  cases spelled with
  | mk one =>
      rw [List.append_assoc]
      exact one.endsRun_isSpace

theorem SpellsDistance.endsRun_isSpace {value : Instruction Float}
    (spelled : SpellsDistance taken value) : EndsRun Reader.isSpace (taken ++ rest) := by
  cases spelled with
  | scalar ended | value ended =>
      rw [List.append_assoc]
      exact ended.endsRun_isSpace

end Starts

theorem form_of_spellsDistance {taken : List Char} {value : Instruction Float}
    (spelled : SpellsDistance taken value) : value.form = .distance := by
  cases spelled with
  | scalar | value => rfl

namespace Reader

variable {β γ : Type} {text rest taken : List Char}

section Arguments

theorem ends_complete {value : Ends} (spelled : SpellsEnds taken value)
    (stops : EndsRun isLabelPart rest) : ends (taken ++ rest) = .ok (value, rest) := by
  cases spelled with
  | mk one apart other =>
      rw [List.append_assoc, List.append_assoc, ends,
        bind_of_ok (label_complete one (apart.endsRun (by decide) (by decide) (by decide))),
        bind_of_ok (comma_complete apart other.endsRun_isSpace),
        bind_of_ok (label_complete other stops)]
      rfl

theorem ends_sound {value : Ends} (read : ends text = .ok (value, rest)) :
    ∃ taken, text = taken ++ rest ∧ SpellsEnds taken value := by
  obtain ⟨start, _, startRead, read⟩ := bind_eq_ok_iff.mp read
  obtain ⟨_, _, commaRead, read⟩ := bind_eq_ok_iff.mp read
  obtain ⟨finish, _, finishRead, read⟩ := bind_eq_ok_iff.mp read
  cases read
  obtain ⟨first, rfl, one⟩ := label_sound startRead
  obtain ⟨between, rfl, apart⟩ := spaced_sound commaRead
  obtain ⟨second, rfl, other⟩ := label_sound finishRead
  refine ⟨first ++ (between ++ second), ?_, .mk one apart other⟩
  rw [List.append_assoc, List.append_assoc]

theorem twoEnds_complete {value : Ends × Ends} (spelled : SpellsTwoEnds taken value)
    (stops : EndsRun isLabelPart rest) : twoEnds (taken ++ rest) = .ok (value, rest) := by
  cases spelled with
  | mk one apart other =>
      rw [List.append_assoc, List.append_assoc, twoEnds,
        bind_of_ok (ends_complete one (apart.endsRun (by decide) (by decide) (by decide))),
        bind_of_ok (comma_complete apart other.endsRun_isSpace),
        bind_of_ok (ends_complete other stops)]
      rfl

theorem twoEnds_sound {value : Ends × Ends} (read : twoEnds text = .ok (value, rest)) :
    ∃ taken, text = taken ++ rest ∧ SpellsTwoEnds taken value := by
  obtain ⟨s, _, sRead, read⟩ := bind_eq_ok_iff.mp read
  obtain ⟨_, _, commaRead, read⟩ := bind_eq_ok_iff.mp read
  obtain ⟨t, _, tRead, read⟩ := bind_eq_ok_iff.mp read
  cases read
  obtain ⟨first, rfl, one⟩ := ends_sound sRead
  obtain ⟨between, rfl, apart⟩ := spaced_sound commaRead
  obtain ⟨second, rfl, other⟩ := ends_sound tRead
  refine ⟨first ++ (between ++ second), ?_, .mk one apart other⟩
  rw [List.append_assoc, List.append_assoc]

theorem distanceArguments_sound {value : Instruction Float}
    (read : distanceArguments text = .ok (value, rest)) :
    ∃ taken, text = taken ++ rest ∧ SpellsDistance taken value := by
  obtain ⟨ends, _, endsRead, read⟩ := bind_eq_ok_iff.mp read
  obtain ⟨_, _, commaRead, read⟩ := bind_eq_ok_iff.mp read
  obtain ⟨first, split, ended⟩ := ends_sound endsRead
  obtain ⟨between, commaSplit, apart⟩ := spaced_sound commaRead
  rcases ok_of_orElse read with scalarRead | valueRead
  · obtain ⟨length, _, lengthRead, same⟩ := bind_eq_ok_iff.mp scalarRead
    cases same
    obtain ⟨last, lengthSplit, given⟩ := label_sound lengthRead
    refine ⟨first ++ (between ++ last), ?_, .scalar ended apart given⟩
    rw [split, commaSplit, lengthSplit, List.append_assoc, List.append_assoc]
  · obtain ⟨length, _, lengthRead, same⟩ := bind_eq_ok_iff.mp valueRead
    cases same
    obtain ⟨last, lengthSplit, given⟩ := number_sound lengthRead
    refine ⟨first ++ (between ++ last), ?_, .value ended apart given⟩
    rw [split, commaSplit, lengthSplit, List.append_assoc, List.append_assoc]

/-- What is read of a distance is what is written, or takes its place. -/
theorem distanceArguments_complete {value : Instruction Float}
    (spelled : SpellsDistance taken value) (stops : EndsRun isLabelPart rest)
    (numberStops : EndsRun Numeral.continuesNumeral rest) :
    ∃ read, distanceArguments (taken ++ rest) = .ok (read, rest) ∧
      (read = value ∨ Supersedes read value) := by
  have labelled : ∀ {first between last : List Char} {ends : Ends} {length : Label},
      SpellsEnds first ends → SpellsMark ',' between → SpellsLabel last length →
      distanceArguments (first ++ (between ++ last) ++ rest) =
        .ok (.distanceScalar ends length, rest) := by
    intro first between last ends length ended apart given
    rw [List.append_assoc, List.append_assoc, distanceArguments,
      bind_of_ok (ends_complete ended (apart.endsRun (by decide) (by decide) (by decide))),
      bind_of_ok (comma_complete apart given.endsRun_isSpace)]
    apply orElse_of_ok
    rw [bind_of_ok (label_complete given stops)]
    rfl
  cases spelled with
  | @scalar ends length first between last ended apart given =>
      exact ⟨_, labelled ended apart given, Or.inl rfl⟩
  | @value ends length first between last ended apart given =>
      cases given with
      | @mk numeral spelled =>
          have starts : Numeral.SpellsWord last numeral ∨ EndsRun isLabelStart (last ++ rest) :=
            spelled.word_or_endsRun (fun c => isLabelStart_of_isDigit) (by decide)
              (fun c => isLabelStart_of_isSign)
          rcases starts with word | noLabel
          · exact ⟨_, labelled ended apart (spellsLabel_of_spellsWord word), Or.inr (.mk word)⟩
          · obtain ⟨stop, failed⟩ := label_of_no_start noLabel
            refine ⟨.distance ends numeral.toFloat, ?_, Or.inl rfl⟩
            have given : SpellsNumber last numeral.toFloat := .mk spelled
            rw [List.append_assoc, List.append_assoc, distanceArguments,
              bind_of_ok (ends_complete ended (apart.endsRun (by decide) (by decide) (by decide))),
              bind_of_ok (comma_complete apart given.endsRun_isSpace),
              orElse_of_error (bind_of_error failed),
              bind_of_ok (number_complete given numberStops)]
            rfl

end Arguments

section Calls

variable {name : String} {arguments : Reader β} {Spells : List Char → β → Prop} {value : β}

theorem call_of_ok {opening shown blanks : List Char} (opened : SpellsMark '(' opening)
    (closed : SpellsBlanks blanks) (starts : EndsRun isSpace (shown ++ (blanks ++ ')' :: rest)))
    (read : arguments (shown ++ (blanks ++ ')' :: rest)) = .ok (value, blanks ++ ')' :: rest)) :
    call name arguments (name.toList ++ (opening ++ (shown ++ (blanks ++ [')']))) ++ rest) =
      .ok (value, rest) := by
  cases opened with
  | @mk before after blanksBefore blanksAfter =>
      have nameRead : word name (name.toList ++ (before ++ '(' :: (after ++
          (shown ++ (blanks ++ ')' :: rest))))) =
          .ok ((), before ++ '(' :: (after ++ (shown ++ (blanks ++ ')' :: rest)))) :=
        word_eq_ok_iff.mpr rfl
      have beforeRead : spaces (before ++ '(' :: (after ++ (shown ++ (blanks ++ ')' :: rest)))) =
          .ok (before, '(' :: (after ++ (shown ++ (blanks ++ ')' :: rest)))) :=
        many_complete blanksBefore (endsRun_cons (by decide))
      have openRead : char '(' ('(' :: (after ++ (shown ++ (blanks ++ ')' :: rest)))) =
          .ok ('(', after ++ (shown ++ (blanks ++ ')' :: rest))) :=
        char_eq_ok_iff.mpr ⟨rfl, rfl⟩
      have afterRead : spaces (after ++ (shown ++ (blanks ++ ')' :: rest))) =
          .ok (after, shown ++ (blanks ++ ')' :: rest)) :=
        many_complete blanksAfter starts
      have blanksRead : spaces (blanks ++ ')' :: rest) = .ok (blanks, ')' :: rest) :=
        many_complete closed (endsRun_cons (by decide))
      have closeRead : char ')' (')' :: rest) = .ok (')', rest) := char_eq_ok_iff.mpr ⟨rfl, rfl⟩
      simp only [List.append_assoc, List.cons_append, List.nil_append]
      rw [call, bind_of_ok nameRead, bind_of_ok beforeRead, bind_of_ok openRead,
        bind_of_ok afterRead, bind_of_ok read, bind_of_ok blanksRead, bind_of_ok closeRead]
      rfl

theorem call_sound
    (sound : ∀ {text rest : List Char} {value : β}, arguments text = .ok (value, rest) →
      ∃ taken, text = taken ++ rest ∧ Spells taken value)
    (read : call name arguments text = .ok (value, rest)) :
    ∃ taken, text = taken ++ rest ∧ SpellsCall name Spells taken value := by
  obtain ⟨_, _, nameRead, read⟩ := bind_eq_ok_iff.mp read
  obtain ⟨before, _, beforeRead, read⟩ := bind_eq_ok_iff.mp read
  obtain ⟨_, _, openRead, read⟩ := bind_eq_ok_iff.mp read
  obtain ⟨after, _, afterRead, read⟩ := bind_eq_ok_iff.mp read
  obtain ⟨_, _, shownRead, read⟩ := bind_eq_ok_iff.mp read
  obtain ⟨blanks, _, blanksRead, read⟩ := bind_eq_ok_iff.mp read
  obtain ⟨_, _, closeRead, read⟩ := bind_eq_ok_iff.mp read
  cases read
  obtain ⟨rfl, blanksBefore⟩ := many_sound beforeRead
  obtain ⟨rfl, blanksAfter⟩ := many_sound afterRead
  obtain ⟨shown, rfl, spelled⟩ := sound shownRead
  obtain ⟨rfl, closed⟩ := many_sound blanksRead
  obtain ⟨rfl, _⟩ := char_eq_ok_iff.mp openRead
  obtain ⟨rfl, _⟩ := char_eq_ok_iff.mp closeRead
  rw [word_eq_ok_iff.mp nameRead]
  refine ⟨_, ?_, .mk (.mk blanksBefore blanksAfter) spelled closed⟩
  simp only [List.append_assoc, List.cons_append, List.nil_append]

theorem call_complete
    (complete : ∀ {taken rest : List Char} {value : β}, Spells taken value →
      EndsRun isLabelPart rest → arguments (taken ++ rest) = .ok (value, rest))
    (starts : ∀ {taken rest : List Char} {value : β}, Spells taken value →
      EndsRun isSpace (taken ++ rest))
    (spelled : SpellsCall name Spells taken value) :
    call name arguments (taken ++ rest) = .ok (value, rest) := by
  cases spelled with
  | @mk _ opening shown blanks opened spelled closed =>
      have stops : EndsRun isLabelPart (blanks ++ ')' :: rest) :=
        closed.endsRun (by decide) (by decide) (endsRun_cons (by decide))
      exact call_of_ok opened closed (starts spelled) (complete spelled stops)

end Calls

section Lines

theorem declaration_complete {keyword : String} {value : Label}
    (spelled : SpellsDeclaration keyword taken value) (stops : EndsRun isLabelPart rest) :
    declaration keyword (taken ++ rest) = .ok (value, rest) := by
  cases spelled with
  | @mk _ blanks name nonempty apart spelled =>
      have keywordRead : word keyword (keyword.toList ++ (blanks ++ (name ++ rest))) =
          .ok ((), blanks ++ (name ++ rest)) := word_eq_ok_iff.mpr rfl
      rw [List.append_assoc, List.append_assoc, declaration, bind_of_ok keywordRead,
        bind_of_ok (spaces1_complete nonempty apart spelled.endsRun_isSpace)]
      exact label_complete spelled stops

theorem declaration_sound {keyword : String} {value : Label}
    (read : declaration keyword text = .ok (value, rest)) :
    ∃ taken, text = taken ++ rest ∧ SpellsDeclaration keyword taken value := by
  obtain ⟨_, _, keywordRead, read⟩ := bind_eq_ok_iff.mp read
  obtain ⟨_, _, blanksRead, nameRead⟩ := bind_eq_ok_iff.mp read
  obtain ⟨blanks, rfl, nonempty, apart⟩ := spaces1_sound blanksRead
  obtain ⟨name, rfl, spelled⟩ := label_sound nameRead
  rw [word_eq_ok_iff.mp keywordRead]
  refine ⟨keyword.toList ++ (blanks ++ name), ?_, .mk nonempty apart spelled⟩
  rw [List.append_assoc, List.append_assoc]

theorem axis_complete {value : Axis} (spelled : SpellsAxis taken value) :
    axis (taken ++ rest) = .ok (value, rest) := by
  cases spelled with
  | x | y => rfl

theorem axis_sound {value : Axis} (read : axis text = .ok (value, rest)) :
    ∃ taken, text = taken ++ rest ∧ SpellsAxis taken value := by
  rcases ok_of_orElse read with read | read
  · obtain ⟨_, _, letterRead, same⟩ := bind_eq_ok_iff.mp read
    cases same
    obtain ⟨split, _⟩ := char_eq_ok_iff.mp letterRead
    exact ⟨['x'], split, .x⟩
  · obtain ⟨_, _, letterRead, same⟩ := bind_eq_ok_iff.mp read
    cases same
    obtain ⟨split, _⟩ := char_eq_ok_iff.mp letterRead
    exact ⟨['y'], split, .y⟩

theorem fixCoordinate_complete {point : Label} {coordinate : Axis} {value : Float}
    {name letter between given : List Char} (named : SpellsLabel name point)
    (along : SpellsAxis letter coordinate) (equals : SpellsMark '=' between)
    (spelled : SpellsNumber given value) (stops : EndsRun Numeral.continuesNumeral rest) :
    fixCoordinate (name ++ '.' :: (letter ++ (between ++ given)) ++ rest) =
      .ok (.fixCoordinate point coordinate value, rest) := by
  have pointRead : char '.' ('.' :: (letter ++ (between ++ (given ++ rest)))) =
      .ok ('.', letter ++ (between ++ (given ++ rest))) := char_eq_ok_iff.mpr ⟨rfl, rfl⟩
  simp only [List.append_assoc, List.cons_append]
  rw [fixCoordinate, bind_of_ok (label_complete named (endsRun_cons (by decide))),
    bind_of_ok pointRead, bind_of_ok (axis_complete along),
    bind_of_ok (spaced_complete equals (by decide) spelled.endsRun_isSpace),
    bind_of_ok (number_complete spelled stops)]
  rfl

theorem fixCoordinate_sound {value : Instruction Float}
    (read : fixCoordinate text = .ok (value, rest)) :
    ∃ taken, text = taken ++ rest ∧ SpellsInstruction taken value ∧
      value.form = .fixCoordinate := by
  obtain ⟨point, _, nameRead, read⟩ := bind_eq_ok_iff.mp read
  obtain ⟨_, _, pointRead, read⟩ := bind_eq_ok_iff.mp read
  obtain ⟨coordinate, _, letterRead, read⟩ := bind_eq_ok_iff.mp read
  obtain ⟨_, _, equalsRead, read⟩ := bind_eq_ok_iff.mp read
  obtain ⟨number, _, numberRead, read⟩ := bind_eq_ok_iff.mp read
  cases read
  obtain ⟨name, rfl, named⟩ := label_sound nameRead
  obtain ⟨rfl, _⟩ := char_eq_ok_iff.mp pointRead
  obtain ⟨letter, rfl, along⟩ := axis_sound letterRead
  obtain ⟨between, rfl, equals⟩ := spaced_sound equalsRead
  obtain ⟨given, rfl, spelled⟩ := number_sound numberRead
  refine ⟨name ++ '.' :: (letter ++ (between ++ given)), ?_,
    .fixCoordinate named along equals spelled, rfl⟩
  simp only [List.append_assoc, List.cons_append]

theorem fixScalar_complete {scalar : Label} {value : Float} {name between given : List Char}
    (named : SpellsLabel name scalar) (equals : SpellsMark '=' between)
    (spelled : SpellsNumber given value) (stops : EndsRun Numeral.continuesNumeral rest) :
    fixScalar (name ++ (between ++ given) ++ rest) = .ok (.fixScalar scalar value, rest) := by
  rw [List.append_assoc, List.append_assoc, fixScalar,
    bind_of_ok (label_complete named (equals.endsRun (by decide) (by decide) (by decide))),
    bind_of_ok (spaced_complete equals (by decide) spelled.endsRun_isSpace),
    bind_of_ok (number_complete spelled stops)]
  rfl

theorem fixScalar_sound {value : Instruction Float} (read : fixScalar text = .ok (value, rest)) :
    ∃ taken, text = taken ++ rest ∧ SpellsInstruction taken value ∧
      value.form = .fixScalar := by
  obtain ⟨scalar, _, nameRead, read⟩ := bind_eq_ok_iff.mp read
  obtain ⟨_, _, equalsRead, read⟩ := bind_eq_ok_iff.mp read
  obtain ⟨number, _, numberRead, read⟩ := bind_eq_ok_iff.mp read
  cases read
  obtain ⟨name, rfl, named⟩ := label_sound nameRead
  obtain ⟨between, rfl, equals⟩ := spaced_sound equalsRead
  obtain ⟨given, rfl, spelled⟩ := number_sound numberRead
  refine ⟨name ++ (between ++ given), ?_, .fixScalar named equals spelled, rfl⟩
  rw [List.append_assoc, List.append_assoc]

end Lines

section Guesses

theorem place_complete {value : Point Float} (spelled : SpellsPlace taken value) :
    place (taken ++ rest) = .ok (value, rest) := by
  cases spelled with
  | @mk x y blanks first between second closing opened one apart other closed =>
      have openRead : char '(' ('(' :: (blanks ++ (first ++ (between ++ (second ++ (closing ++
          ')' :: rest)))))) =
          .ok ('(', blanks ++ (first ++ (between ++ (second ++ (closing ++ ')' :: rest))))) :=
        char_eq_ok_iff.mpr ⟨rfl, rfl⟩
      have blanksRead : spaces (blanks ++ (first ++ (between ++ (second ++ (closing ++
          ')' :: rest))))) =
          .ok (blanks, first ++ (between ++ (second ++ (closing ++ ')' :: rest)))) :=
        many_complete opened one.endsRun_isSpace
      have closingRead : spaces (closing ++ ')' :: rest) = .ok (closing, ')' :: rest) :=
        many_complete closed (endsRun_cons (by decide))
      have closeRead : char ')' (')' :: rest) = .ok (')', rest) := char_eq_ok_iff.mpr ⟨rfl, rfl⟩
      have secondStops : EndsRun Numeral.continuesNumeral (closing ++ ')' :: rest) :=
        closed.endsRun (by decide) (by decide) (endsRun_cons (by decide))
      simp only [List.append_assoc, List.cons_append, List.nil_append]
      rw [place, bind_of_ok openRead, bind_of_ok blanksRead,
        bind_of_ok (number_complete one (apart.endsRun (by decide) (by decide) (by decide))),
        bind_of_ok (comma_complete apart other.endsRun_isSpace),
        bind_of_ok (number_complete other secondStops), bind_of_ok closingRead,
        bind_of_ok closeRead]
      rfl

theorem place_sound {value : Point Float} (read : place text = .ok (value, rest)) :
    ∃ taken, text = taken ++ rest ∧ SpellsPlace taken value := by
  obtain ⟨_, _, openRead, read⟩ := bind_eq_ok_iff.mp read
  obtain ⟨blanks, _, blanksRead, read⟩ := bind_eq_ok_iff.mp read
  obtain ⟨x, _, xRead, read⟩ := bind_eq_ok_iff.mp read
  obtain ⟨_, _, commaRead, read⟩ := bind_eq_ok_iff.mp read
  obtain ⟨y, _, yRead, read⟩ := bind_eq_ok_iff.mp read
  obtain ⟨closing, _, closingRead, read⟩ := bind_eq_ok_iff.mp read
  obtain ⟨_, _, closeRead, read⟩ := bind_eq_ok_iff.mp read
  cases read
  obtain ⟨rfl, _⟩ := char_eq_ok_iff.mp openRead
  obtain ⟨rfl, opened⟩ := many_sound blanksRead
  obtain ⟨first, rfl, one⟩ := number_sound xRead
  obtain ⟨between, rfl, apart⟩ := spaced_sound commaRead
  obtain ⟨second, rfl, other⟩ := number_sound yRead
  obtain ⟨rfl, closed⟩ := many_sound closingRead
  obtain ⟨rfl, _⟩ := char_eq_ok_iff.mp closeRead
  refine ⟨_, ?_, .mk opened one apart other closed⟩
  simp only [List.append_assoc, List.cons_append, List.nil_append]

/-- A number is no place. -/
theorem place_of_number {value : Float} (spelled : SpellsNumber taken value) :
    ∃ stop, place (taken ++ rest) = .error stop := by
  have noPlace : EndsRun (fun c => c == '(') (taken ++ rest) := by
    apply spelled.endsRun
    intro c same
    rw [beq_iff_eq.mp same]
    decide
  cases read : place (taken ++ rest) with
  | error stop => exact ⟨stop, rfl⟩
  | ok found =>
      obtain ⟨_, _, openRead, _⟩ := bind_eq_ok_iff.mp read
      obtain ⟨split, _⟩ := char_eq_ok_iff.mp openRead
      rw [split] at noPlace
      cases noPlace '(' rfl

theorem guess_of_ok {name apart blanks given : List Char} {label : Label} {value : Guess Float}
    (named : SpellsLabel name label) (nonempty : apart ≠ []) (blanksBefore : SpellsBlanks apart)
    (blanksAfter : SpellsBlanks blanks) (starts : EndsRun isSpace (given ++ rest))
    (read : orElse (do let place ← place; return .point label place)
      (do let value ← number; return .scalar label value) (given ++ rest) = .ok (value, rest)) :
    guess (name ++ (apart ++ ("roughly".toList ++ (blanks ++ given))) ++ rest) =
      .ok (value, rest) := by
  have labelStops :
      EndsRun isLabelPart (apart ++ ("roughly".toList ++ (blanks ++ (given ++ rest)))) :=
    endsRun_append nonempty fun c member =>
      not_of_isSpace (by decide) (by decide) (blanksBefore c member)
  have apartStops : EndsRun isSpace ("roughly".toList ++ (blanks ++ (given ++ rest))) :=
    endsRun_cons (by decide)
  have wordRead : word "roughly" ("roughly".toList ++ (blanks ++ (given ++ rest))) =
      .ok ((), blanks ++ (given ++ rest)) := word_eq_ok_iff.mpr rfl
  have blanksRead : spaces (blanks ++ (given ++ rest)) = .ok (blanks, given ++ rest) :=
    many_complete blanksAfter starts
  simp only [List.append_assoc]
  rw [guess, bind_of_ok (label_complete named labelStops),
    bind_of_ok (spaces1_complete nonempty blanksBefore apartStops), bind_of_ok wordRead,
    bind_of_ok blanksRead]
  exact read

theorem guess_complete {value : Guess Float} (spelled : SpellsGuess taken value)
    (stops : EndsRun Numeral.continuesNumeral rest) :
    guess (taken ++ rest) = .ok (value, rest) := by
  cases spelled with
  | point named nonempty blanksBefore blanksAfter spelled =>
      apply guess_of_ok named nonempty blanksBefore blanksAfter
      · cases spelled with
        | mk => exact endsRun_cons (by decide)
      · apply orElse_of_ok
        rw [bind_of_ok (place_complete spelled)]
        rfl
  | scalar named nonempty blanksBefore blanksAfter spelled =>
      apply guess_of_ok named nonempty blanksBefore blanksAfter spelled.endsRun_isSpace
      obtain ⟨stop, failed⟩ := place_of_number spelled
      rw [orElse_of_error (bind_of_error failed), bind_of_ok (number_complete spelled stops)]
      rfl

theorem guess_sound {value : Guess Float} (read : guess text = .ok (value, rest)) :
    ∃ taken, text = taken ++ rest ∧ SpellsGuess taken value := by
  obtain ⟨label, _, labelRead, read⟩ := bind_eq_ok_iff.mp read
  obtain ⟨_, _, apartRead, read⟩ := bind_eq_ok_iff.mp read
  obtain ⟨_, _, wordRead, read⟩ := bind_eq_ok_iff.mp read
  obtain ⟨blanks, _, blanksRead, read⟩ := bind_eq_ok_iff.mp read
  obtain ⟨name, split, named⟩ := label_sound labelRead
  obtain ⟨apart, apartSplit, nonempty, blanksBefore⟩ := spaces1_sound apartRead
  obtain ⟨blanksSplit, blanksAfter⟩ := many_sound blanksRead
  rw [word_eq_ok_iff.mp wordRead, blanksSplit] at apartSplit
  rcases ok_of_orElse read with placeRead | valueRead
  · obtain ⟨place, _, placeRead, same⟩ := bind_eq_ok_iff.mp placeRead
    cases same
    obtain ⟨given, givenSplit, spelled⟩ := place_sound placeRead
    refine ⟨_, ?_, .point named nonempty blanksBefore blanksAfter spelled⟩
    rw [split, apartSplit, givenSplit]
    simp only [List.append_assoc]
  · obtain ⟨number, _, numberRead, same⟩ := bind_eq_ok_iff.mp valueRead
    cases same
    obtain ⟨given, givenSplit, spelled⟩ := number_sound numberRead
    refine ⟨_, ?_, .scalar named nonempty blanksBefore blanksAfter spelled⟩
    rw [split, apartSplit, givenSplit]
    simp only [List.append_assoc]

end Guesses

end Reader

end Drafting.Text
