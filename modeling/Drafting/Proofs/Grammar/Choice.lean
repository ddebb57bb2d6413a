import Drafting.Proofs.Grammar.Forms

/-!
# The choice between the forms of an instruction

A line is read by the first form that fits. Nothing is lost by not trying the others: the word at
the front of a line and the first character after it tell the only form the line can have, so no
form takes a line away from another one.
-/

namespace Drafting.Text

namespace Form

section Openings

/-- The forms that are a name with arguments. -/
def calls : List (String × Form) :=
  [("vertical", .vertical), ("horizontal", .horizontal), ("distance", .distance),
    ("congruent", .congruent), ("parallel", .parallel), ("perpendicular", .perpendicular)]

def declarations : List (String × Form) :=
  [("point", .declarePoint), ("scalar", .declareScalar)]

def ofOpening? (word : List Char) (c : Char) : Option Form :=
  if c = '.' then some .fixCoordinate
  else if c = '=' then some .fixScalar
  else if c = '(' then calls.lookup (String.ofList word)
  else declarations.lookup (String.ofList word)

def of? (text : List Char) : Option Form :=
  match (text.dropWhile isLabelPart).dropWhile Reader.isSpace with
  | [] => none
  | c :: _ => ofOpening? (text.takeWhile isLabelPart) c

theorem of?_append {word blanks rest : List Char} {c : Char}
    (parts : ∀ d ∈ word, isLabelPart d = true) (apart : SpellsBlanks blanks)
    (stops : EndsRun isLabelPart (blanks ++ c :: rest)) (notSpace : Reader.isSpace c = false) :
    of? (word ++ (blanks ++ c :: rest)) = ofOpening? word c := by
  rw [of?, takeWhile_run parts stops, dropWhile_run parts stops,
    dropWhile_run apart (endsRun_cons notSpace)]

theorem of?_mark {word between rest : List Char} {mark : Char}
    (parts : ∀ d ∈ word, isLabelPart d = true) (marked : SpellsMark mark between)
    (stops : isLabelPart mark = false) (notSpace : Reader.isSpace mark = false) :
    of? (word ++ (between ++ rest)) = ofOpening? word mark := by
  have ends : EndsRun isLabelPart (between ++ rest) :=
    marked.endsRun (by decide) (by decide) stops
  cases marked with
  | mk blanksBefore _ =>
      rw [List.append_assoc, List.cons_append] at ends
      rw [List.append_assoc, List.cons_append]
      exact of?_append parts blanksBefore ends notSpace

theorem ofOpening?_of_isLabelStart {word : List Char} {c : Char} (start : isLabelStart c = true) :
    ofOpening? word c = declarations.lookup (String.ofList word) := by
  have different : ∀ mark, isLabelStart mark = false → c ≠ mark := by
    intro mark other same
    rw [same, other] at start
    cases start
  rw [ofOpening?, if_neg (different '.' (by decide)), if_neg (different '=' (by decide)),
    if_neg (different '(' (by decide))]

theorem of?_declaration {keyword : String} {label : Label} {taken rest : List Char}
    (parts : keyword.toList.all isLabelPart = true)
    (spelled : SpellsDeclaration keyword taken label) :
    of? (taken ++ rest) = declarations.lookup keyword := by
  cases spelled with
  | @mk _ blanks name nonempty apart spelled =>
      cases spelled with
      | @mk first more start _ =>
          have stops : EndsRun isLabelPart (blanks ++ first :: (more ++ rest)) :=
            endsRun_append nonempty fun c member =>
              not_of_isSpace (by decide) (by decide) (apart c member)
          have notSpace : Reader.isSpace first = false :=
            isSpace_eq_false (by decide) (by decide) start
          rw [List.append_assoc, List.append_assoc, List.cons_append,
            of?_append (List.all_eq_true.mp parts) apart stops notSpace,
            ofOpening?_of_isLabelStart start, String.ofList_toList]

theorem of?_call {β : Type} {name : String} {Spells : List Char → β → Prop} {value : β}
    {taken rest : List Char} (parts : name.toList.all isLabelPart = true)
    (spelled : SpellsCall name Spells taken value) :
    of? (taken ++ rest) = calls.lookup name := by
  cases spelled with
  | mk opened spelled closed =>
      rw [List.append_assoc, List.append_assoc,
        of?_mark (List.all_eq_true.mp parts) opened (by decide) (by decide)]
      rw [ofOpening?, if_neg (by decide), if_neg (by decide), if_pos rfl, String.ofList_toList]

/-- Whatever follows, the front of an instruction tells its form. -/
theorem of?_of_spells {taken rest : List Char} {instruction : Instruction Float}
    (spelled : SpellsInstruction taken instruction) :
    of? (taken ++ rest) = some instruction.form := by
  cases spelled with
  | declarePoint spelled => exact of?_declaration rfl spelled
  | declareScalar spelled => exact of?_declaration rfl spelled
  | fixCoordinate named =>
      have noBlanks : SpellsBlanks [] := nofun
      rw [List.append_assoc, List.cons_append]
      exact of?_append named.parts noBlanks (endsRun_cons (by decide)) (by decide)
  | fixScalar named equals =>
      rw [List.append_assoc, List.append_assoc, of?_mark named.parts equals (by decide) (by decide)]
      rfl
  | vertical spelled => exact of?_call rfl spelled
  | horizontal spelled => exact of?_call rfl spelled
  | distance spelled =>
      rw [of?_call rfl spelled]
      cases spelled with
      | mk _ spelled _ =>
          rw [form_of_spellsDistance spelled]
          rfl
  | congruent spelled => exact of?_call rfl spelled
  | parallel spelled => exact of?_call rfl spelled
  | perpendicular spelled => exact of?_call rfl spelled

end Openings

section Readers

open Reader

def reader : Form → Reader (Instruction Float)
  | .declarePoint => do let label ← declaration "point"; return .declarePoint label
  | .declareScalar => do let label ← declaration "scalar"; return .declareScalar label
  | .fixCoordinate => Reader.fixCoordinate
  | .fixScalar => Reader.fixScalar
  | .vertical => do let ends ← call "vertical" ends; return .vertical ends
  | .horizontal => do let ends ← call "horizontal" ends; return .horizontal ends
  | .distance => call "distance" distanceArguments
  | .congruent => do let (s, t) ← call "congruent" twoEnds; return .congruent s t
  | .parallel => do let (s, t) ← call "parallel" twoEnds; return .parallel s t
  | .perpendicular => do let (s, t) ← call "perpendicular" twoEnds; return .perpendicular s t

def order : List Form :=
  [.declarePoint, .declareScalar, .fixCoordinate, .vertical, .horizontal, .distance, .congruent,
    .parallel, .perpendicular]

theorem instruction_eq_firstOf : instruction = firstOf (reader .fixScalar) (order.map reader) := rfl

variable {text taken rest : List Char}

theorem exists_of_call {β : Type} {name : String} {arguments : Reader β}
    {Spells : List Char → β → Prop} {build : β → Instruction Float} {value : Instruction Float}
    (sound : ∀ {text rest : List Char} {value : β}, arguments text = .ok (value, rest) →
      ∃ taken, text = taken ++ rest ∧ Spells taken value)
    (read : (call name arguments >>= fun given => pure (build given)) text = .ok (value, rest)) :
    ∃ taken given, text = taken ++ rest ∧ SpellsCall name Spells taken given ∧
      build given = value := by
  obtain ⟨given, _, callRead, same⟩ := bind_eq_ok_iff.mp read
  cases same
  obtain ⟨taken, split, spelled⟩ := call_sound sound callRead
  exact ⟨taken, given, split, spelled, rfl⟩

theorem reader_sound {form : Form} {value : Instruction Float}
    (read : form.reader text = .ok (value, rest)) :
    ∃ taken, text = taken ++ rest ∧ SpellsInstruction taken value ∧ value.form = form := by
  cases form with
  | declarePoint =>
      obtain ⟨label, _, labelRead, same⟩ := bind_eq_ok_iff.mp read
      cases same
      obtain ⟨taken, split, spelled⟩ := declaration_sound labelRead
      exact ⟨taken, split, .declarePoint spelled, rfl⟩
  | declareScalar =>
      obtain ⟨label, _, labelRead, same⟩ := bind_eq_ok_iff.mp read
      cases same
      obtain ⟨taken, split, spelled⟩ := declaration_sound labelRead
      exact ⟨taken, split, .declareScalar spelled, rfl⟩
  | fixCoordinate => exact fixCoordinate_sound read
  | fixScalar => exact fixScalar_sound read
  | vertical =>
      obtain ⟨taken, ends, split, spelled, rfl⟩ := exists_of_call ends_sound read
      exact ⟨taken, split, .vertical spelled, rfl⟩
  | horizontal =>
      obtain ⟨taken, ends, split, spelled, rfl⟩ := exists_of_call ends_sound read
      exact ⟨taken, split, .horizontal spelled, rfl⟩
  | distance =>
      obtain ⟨taken, split, spelled⟩ := call_sound distanceArguments_sound read
      refine ⟨taken, split, .distance spelled, ?_⟩
      cases spelled with
      | mk _ spelled _ => exact form_of_spellsDistance spelled
  | congruent =>
      obtain ⟨taken, ⟨s, t⟩, split, spelled, rfl⟩ := exists_of_call twoEnds_sound read
      exact ⟨taken, split, .congruent spelled, rfl⟩
  | parallel =>
      obtain ⟨taken, ⟨s, t⟩, split, spelled, rfl⟩ := exists_of_call twoEnds_sound read
      exact ⟨taken, split, .parallel spelled, rfl⟩
  | perpendicular =>
      obtain ⟨taken, ⟨s, t⟩, split, spelled, rfl⟩ := exists_of_call twoEnds_sound read
      exact ⟨taken, split, .perpendicular spelled, rfl⟩

theorem call_ends_complete {name : String} {build : Ends → Instruction Float} {ends : Ends}
    (spelled : SpellsCall name SpellsEnds taken ends) :
    (call name Reader.ends >>= fun ends => pure (build ends)) (taken ++ rest) =
      .ok (build ends, rest) := by
  rw [bind_of_ok (call_complete ends_complete SpellsEnds.endsRun_isSpace spelled)]
  rfl

theorem call_twoEnds_complete {name : String} {build : Ends → Ends → Instruction Float} {s t : Ends}
    (spelled : SpellsCall name SpellsTwoEnds taken (s, t)) :
    (call name twoEnds >>= fun (s, t) => pure (build s t)) (taken ++ rest) =
      .ok (build s t, rest) := by
  rw [bind_of_ok (call_complete twoEnds_complete SpellsTwoEnds.endsRun_isSpace spelled)]
  rfl

theorem call_distance_complete {value : Instruction Float}
    (spelled : SpellsCall "distance" SpellsDistance taken value) :
    ∃ read, call "distance" distanceArguments (taken ++ rest) = .ok (read, rest) ∧
      (read = value ∨ Supersedes read value) := by
  cases spelled with
  | @mk _ opening shown blanks opened spelled closed =>
      have labelStops : EndsRun isLabelPart (blanks ++ ')' :: rest) :=
        closed.endsRun (by decide) (by decide) (endsRun_cons (by decide))
      have numberStops : EndsRun Number.Numeral.continuesNumeral (blanks ++ ')' :: rest) :=
        closed.endsRun (by decide) (by decide) (endsRun_cons (by decide))
      obtain ⟨read, shownRead, stands⟩ :=
        distanceArguments_complete spelled labelStops numberStops
      exact ⟨read, call_of_ok opened closed spelled.endsRun_isSpace shownRead, stands⟩

/-- The reader for the form of an instruction reads it, or what takes its place. -/
theorem reader_complete {value : Instruction Float} (spelled : SpellsInstruction taken value)
    (labelStops : EndsRun isLabelPart rest)
    (numberStops : EndsRun Number.Numeral.continuesNumeral rest) :
    ∃ read, value.form.reader (taken ++ rest) = .ok (read, rest) ∧
      (read = value ∨ Supersedes read value) := by
  cases spelled with
  | declarePoint spelled =>
      refine ⟨_, ?_, Or.inl rfl⟩
      exact (bind_of_ok (declaration_complete spelled labelStops)).trans rfl
  | declareScalar spelled =>
      refine ⟨_, ?_, Or.inl rfl⟩
      exact (bind_of_ok (declaration_complete spelled labelStops)).trans rfl
  | fixCoordinate named along equals given =>
      exact ⟨_, fixCoordinate_complete named along equals given numberStops, Or.inl rfl⟩
  | fixScalar named equals given =>
      exact ⟨_, fixScalar_complete named equals given numberStops, Or.inl rfl⟩
  | vertical spelled => exact ⟨_, call_ends_complete spelled, Or.inl rfl⟩
  | horizontal spelled => exact ⟨_, call_ends_complete spelled, Or.inl rfl⟩
  | distance spelled =>
      have isDistance : value.form = .distance := by
        cases spelled with
        | mk _ spelled _ => exact form_of_spellsDistance spelled
      rw [isDistance]
      exact call_distance_complete spelled
  | congruent spelled => exact ⟨_, call_twoEnds_complete spelled, Or.inl rfl⟩
  | parallel spelled => exact ⟨_, call_twoEnds_complete spelled, Or.inl rfl⟩
  | perpendicular spelled => exact ⟨_, call_twoEnds_complete spelled, Or.inl rfl⟩

end Readers

end Form

namespace Reader

open Form

variable {text taken rest : List Char}

section Choice

variable {β : Type} {last : Reader β} {readers : List (Reader β)} {found : β × List Char}

theorem exists_of_firstOf (read : firstOf last readers text = .ok found) :
    ∃ reader, (reader = last ∨ reader ∈ readers) ∧ reader text = .ok found := by
  induction readers with
  | nil => exact ⟨last, Or.inl rfl, read⟩
  | cons reader readers ih =>
      rcases ok_of_orElse read with here | later
      · exact ⟨reader, Or.inr List.mem_cons_self, here⟩
      · obtain ⟨reader, member, read⟩ := ih later
        exact ⟨reader, member.imp_right (List.mem_cons_of_mem _), read⟩

/-- If one of some readers succeeds, the first one to succeed gives its result. -/
theorem exists_firstOf {reader : Reader β} (member : reader = last ∨ reader ∈ readers)
    (read : reader text = .ok found) : ∃ first, firstOf last readers text = .ok first := by
  induction readers with
  | nil =>
      rcases member with same | impossible
      · rw [same] at read
        exact ⟨found, read⟩
      · cases impossible
  | cons other readers ih =>
      cases here : other text with
      | ok first => exact ⟨first, orElse_of_ok here⟩
      | error stop =>
          have later : reader = last ∨ reader ∈ readers := by
            rcases member with isLast | member
            · exact Or.inl isLast
            · rcases List.mem_cons.mp member with same | member
              · rw [same, here] at read
                cases read
              · exact Or.inr member
          obtain ⟨first, firstRead⟩ := ih later
          exact ⟨first, (orElse_of_error here).trans firstRead⟩

end Choice

theorem exists_form_of_instruction {found : Instruction Float × List Char}
    (read : instruction text = .ok found) : ∃ form : Form, form.reader text = .ok found := by
  rw [instruction_eq_firstOf] at read
  obtain ⟨reader, member, read⟩ := exists_of_firstOf read
  rcases member with same | member
  · rw [same] at read
    exact ⟨.fixScalar, read⟩
  · obtain ⟨form, _, rfl⟩ := List.mem_map.mp member
    exact ⟨form, read⟩

/-- What is read as an instruction is written as one. -/
theorem instruction_sound {value : Instruction Float}
    (read : instruction text = .ok (value, rest)) :
    ∃ taken, text = taken ++ rest ∧ SpellsInstruction taken value := by
  obtain ⟨form, read⟩ := exists_form_of_instruction read
  obtain ⟨taken, split, spelled, _⟩ := reader_sound read
  exact ⟨taken, split, spelled⟩

/-- An instruction is read by the reader for the form that the text can have. -/
theorem instruction_eq_ok_iff {form : Form} {found : Instruction Float × List Char}
    (possible : of? text = some form) :
    instruction text = .ok found ↔ form.reader text = .ok found := by
  have only : ∀ (other : Form) (found : Instruction Float × List Char),
      other.reader text = .ok found → other = form := by
    intro other found read
    obtain ⟨taken, split, spelled, same⟩ := reader_sound read
    rw [split, of?_of_spells spelled, same] at possible
    exact Option.some.inj possible
  have chosen : ∀ found, instruction text = .ok found → form.reader text = .ok found := by
    intro found read
    obtain ⟨other, read⟩ := exists_form_of_instruction read
    rw [← only other found read]
    exact read
  constructor
  · exact chosen found
  · intro read
    have member : form.reader = Form.reader .fixScalar ∨ form.reader ∈ order.map Form.reader := by
      have ordered : form = .fixScalar ∨ form ∈ order := by
        cases form <;> decide
      exact ordered.imp (congrArg Form.reader) (List.mem_map_of_mem)
    obtain ⟨first, firstRead⟩ := exists_firstOf member read
    have same : form.reader text = .ok first := chosen first firstRead
    rw [read] at same
    rw [Except.ok.inj same]
    exact firstRead

end Reader

end Drafting.Text
