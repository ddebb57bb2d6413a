import Drafting.Proofs.Grammar.Forms

/-!
# Blanks at the ends of a line

Trimming takes the blanks from both ends of a line and nothing else. An instruction or a guess is
written with no number sign and no blank at its end, so what stands behind it on its line can be
told apart from it.
-/

namespace Drafting.Text

open Number (Numeral)

section Characters

variable {c : Char}

/-- Membership can be told two bounds at a time. -/
theorem CharacterSet.contains_cons_cons (low high : Nat) (more : CharacterSet) (c : Char) :
    CharacterSet.contains (low :: high :: more) c =
      (decide (low ≤ c.toNat) && (decide (c.toNat < high) || CharacterSet.contains more c)) := by
  unfold contains
  rw [List.takeWhile_cons, List.takeWhile_cons]
  by_cases begun : low ≤ c.toNat
  · rw [if_pos (decide_eq_true begun), decide_eq_true begun, Bool.true_and]
    by_cases past : high ≤ c.toNat
    · rw [if_pos (decide_eq_true past), decide_eq_false (Nat.not_lt.mpr past), Bool.false_or]
      simp only [List.length_cons, Nat.add_assoc, Nat.reduceAdd, Nat.add_mod_right]
    · rw [if_neg (by rwa [decide_eq_true_eq]), decide_eq_true (Nat.not_le.mp past), Bool.true_or]
      rfl
  · rw [if_neg (by rwa [decide_eq_true_eq]), decide_eq_false begun, Bool.false_and]
    rfl

def blankCodes : List Nat :=
  [9, 10, 11, 12, 13, 32, 133, 160, 5760, 8192, 8193, 8194, 8195, 8196, 8197, 8198, 8199, 8200, 8201,
    8202, 8232, 8233, 8239, 8287, 12288]

theorem toNat_mem_blankCodes (blank : isBlank c = true) : c.toNat ∈ blankCodes := by
  have none : CharacterSet.contains [] c = false := rfl
  simp only [isBlank, blankSet, CharacterSet.contains_cons_cons, none, Bool.and_eq_true,
    Bool.or_eq_true, decide_eq_true_eq, Bool.false_eq_true, or_false] at blank
  simp only [blankCodes, List.mem_cons, List.not_mem_nil, or_false]
  omega

theorem isBlank_of_isSpace (space : Reader.isSpace c = true) : isBlank c = true := by
  rcases isSpace_iff.mp space with same | same
  · rw [same]
    decide
  · rw [same]
    decide

def isInk (c : Char) : Bool := !isBlank c && c != '#'

theorem isInk_iff : isInk c = true ↔ isBlank c = false ∧ c ≠ '#' := by
  rw [isInk, Bool.and_eq_true, Bool.not_eq_true', bne_iff_ne]

theorem isInk_of_isLabelPart (part : isLabelPart c = true) : isInk c = true := by
  have outside : ∀ code ∈ blankCodes, isLabelPart (Char.ofNat code) = false := by decide +kernel
  rw [isInk_iff]
  constructor
  · rw [Bool.eq_false_iff]
    intro blank
    have here := outside _ (toNat_mem_blankCodes blank)
    rw [Char.ofNat_toNat, part] at here
    cases here
  · intro same
    rw [same] at part
    exact absurd part (by decide +kernel)

/-- The visible characters of ASCII behind the number sign. -/
theorem isInk_of_toNat (low : 36 ≤ c.toNat) (high : c.toNat ≤ 126) : isInk c = true := by
  rw [isInk_iff]
  constructor
  · rw [Bool.eq_false_iff]
    intro blank
    have code := toNat_mem_blankCodes blank
    simp only [blankCodes, List.mem_cons, List.not_mem_nil, or_false] at code
    omega
  · intro same
    rw [same] at low
    exact absurd low (by decide)

theorem isInk_of_isDigit (digit : c.isDigit = true) : isInk c = true := by
  obtain ⟨low, high⟩ := Char.isDigit_iff_toNat.mp digit
  have low : 48 ≤ c.toNat := low
  have high : c.toNat ≤ 57 := high
  exact isInk_of_toNat (by omega) (by omega)

theorem isInk_of_isAlpha (letter : c.isAlpha = true) : isInk c = true := by
  rcases isAlpha_iff_toNat.mp letter with ⟨low, high⟩ | ⟨low, high⟩
  · exact isInk_of_toNat (by omega) (by omega)
  · exact isInk_of_toNat (by omega) (by omega)

end Characters

section Trimming

variable {left text right : List Char}

theorem endsRun_dropWhile (p : Char → Bool) (text : List Char) : EndsRun p (text.dropWhile p) := by
  intro c first
  have stops := List.head?_dropWhile_not p text
  rw [first] at stops
  exact stops

/-- Blanks at the ends of a text make no difference to what is left of it. -/
theorem trimmed_pad (blankLeft : ∀ c ∈ left, isBlank c = true)
    (blankRight : ∀ c ∈ right, isBlank c = true) : trimmed (left ++ (text ++ right)) = trimmed text := by
  have blankReverse : ∀ c ∈ right.reverse, isBlank c = true :=
    fun c member => blankRight c (List.mem_reverse.mp member)
  rw [trimmed, trimmed, List.dropWhile_append_of_pos blankLeft, List.dropWhile_append]
  by_cases empty : (text.dropWhile isBlank).isEmpty
  · rw [if_pos empty, List.isEmpty_iff.mp empty, List.dropWhile_eq_nil_iff.mpr blankRight]
  · rw [if_neg empty, List.reverse_append, List.dropWhile_append_of_pos blankReverse]

theorem trimmed_eq_self (starts : EndsRun isBlank text) (ends : EndsRun isBlank text.reverse) :
    trimmed text = text := by
  have front : text.dropWhile isBlank = text := dropWhile_run (List.forall_mem_nil _) starts
  have back : text.reverse.dropWhile isBlank = text.reverse :=
    dropWhile_run (List.forall_mem_nil _) ends
  rw [trimmed, front, back, List.reverse_reverse]

/-- What a text is trimmed to has no blank at its ends, and all around it is blank. -/
theorem exists_trimmed (text : List Char) :
    ∃ left right, text = left ++ (trimmed text ++ right) ∧ (∀ c ∈ left, isBlank c = true) ∧
      (∀ c ∈ right, isBlank c = true) ∧ EndsRun isBlank (trimmed text) ∧
      EndsRun isBlank (trimmed text).reverse := by
  have front : text.takeWhile isBlank ++ text.dropWhile isBlank = text :=
    List.takeWhile_append_dropWhile
  have stops := endsRun_dropWhile isBlank text
  generalize inner_eq : text.dropWhile isBlank = inner at *
  have back : (inner.reverse.dropWhile isBlank).reverse ++ (inner.reverse.takeWhile isBlank).reverse =
      inner := by
    rw [← List.reverse_append, List.takeWhile_append_dropWhile, List.reverse_reverse]
  refine ⟨text.takeWhile isBlank, (inner.reverse.takeWhile isBlank).reverse, ?_, ?_, ?_, ?_, ?_⟩
  · rw [trimmed, inner_eq, back, front]
  · exact fun c member => List.mem_takeWhile_imp member
  · exact fun c member => List.mem_takeWhile_imp (List.mem_reverse.mp member)
  · rw [trimmed, inner_eq]
    intro c first
    apply stops
    rw [← back]
    rw [List.head?_append, first]
    rfl
  · rw [trimmed, inner_eq, List.reverse_reverse]
    exact endsRun_dropWhile isBlank inner.reverse

/-- A text can be cut in one way only before a run up to its end. -/
theorem eq_of_append_run {p : Char → Bool} {first second before after : List Char}
    (inside : ∀ c ∈ first, p c = true) (ends : EndsRun p before)
    (otherInside : ∀ c ∈ second, p c = true) (otherEnds : EndsRun p after)
    (same : first ++ before = second ++ after) : first = second ∧ before = after := by
  constructor
  · rw [← takeWhile_run inside ends, same, takeWhile_run otherInside otherEnds]
  · rw [← dropWhile_run inside ends, same, dropWhile_run otherInside otherEnds]

end Trimming

section Solid

structure Solid (taken : List Char) : Prop where
  nonempty : taken ≠ []
  noSign : '#' ∉ taken
  ends : EndsRun isBlank taken.reverse

variable {taken before : List Char}

theorem solid_of_ink (nonempty : taken ≠ []) (ink : ∀ c ∈ taken, isInk c = true) : Solid taken where
  nonempty := nonempty
  noSign := fun member => (isInk_iff.mp (ink _ member)).2 rfl
  ends := by
    intro c last
    have member : c ∈ taken.reverse := List.mem_of_mem_head? last
    exact (isInk_iff.mp (ink c (List.mem_reverse.mp member))).1

theorem Solid.prepend (solid : Solid taken) (noSign : '#' ∉ before) : Solid (before ++ taken) where
  nonempty := List.append_ne_nil_of_right_ne_nil before solid.nonempty
  noSign := fun member => (List.mem_append.mp member).elim noSign solid.noSign
  ends := by
    intro c last
    rw [List.reverse_append] at last
    cases split : taken.reverse with
    | nil => exact absurd (List.reverse_eq_nil_iff.mp split) solid.nonempty
    | cons d more =>
        rw [split] at last
        apply solid.ends
        rw [split]
        exact last

theorem SpellsBlanks.noSign (blanks : SpellsBlanks taken) : '#' ∉ taken :=
  fun member => absurd (blanks _ member) (by decide)

theorem SpellsMark.noSign {mark : Char} (marked : SpellsMark mark taken) (other : mark ≠ '#') :
    '#' ∉ taken := by
  cases marked with
  | mk blanksBefore blanksAfter =>
      intro member
      rcases List.mem_append.mp member with early | late
      · exact blanksBefore.noSign early
      · rcases List.mem_cons.mp late with same | after
        · exact other same.symm
        · exact blanksAfter.noSign after

theorem SpellsLabel.solid {label : Label} (spelled : SpellsLabel taken label) : Solid taken := by
  refine solid_of_ink ?_ (fun c member => isInk_of_isLabelPart (spelled.parts c member))
  cases spelled with
  | mk => exact List.cons_ne_nil _ _

theorem solid_of_lower {word lower : List Char} (same : word.map Char.toLower = lower)
    (nonempty : lower ≠ []) (letters : lower.all Char.isAlpha = true) : Solid word := by
  apply solid_of_ink
  · intro empty
    rw [empty] at same
    exact nonempty same.symm
  · intro c member
    exact isInk_of_isAlpha (Numeral.isAlpha_of_map_toLower same letters c member)

theorem solid_of_digits {digits : List Char} (nonempty : digits ≠ [])
    (isNumber : ∀ c ∈ digits, c.isDigit = true) : Solid digits :=
  solid_of_ink nonempty fun c member => isInk_of_isDigit (isNumber c member)

theorem noSign_of_spellsSign {sign : List Char} {negative : Bool}
    (signed : Numeral.SpellsSign sign negative) : '#' ∉ sign := by
  cases signed with
  | none | plus | minus => decide

theorem solid_of_spellsFraction {digits whole part : List Char}
    (fraction : Numeral.SpellsFraction digits whole part) : Solid digits := by
  obtain ⟨nonempty, characters⟩ := fraction.characters
  apply solid_of_ink nonempty
  intro c member
  rcases characters c member with digit | point
  · exact isInk_of_isDigit digit
  · rw [point]
    decide

theorem SpellsNumber.solid {value : Float} (spelled : SpellsNumber taken value) : Solid taken := by
  cases spelled with
  | mk spelled =>
      cases spelled with
      | notANumber same => exact solid_of_lower same (by decide) rfl
      | infinity signed same =>
          rcases same with short | long
          · exact (solid_of_lower short (by decide) rfl).prepend (noSign_of_spellsSign signed)
          · exact (solid_of_lower long (by decide) rfl).prepend (noSign_of_spellsSign signed)
      | decimal signed fraction powered =>
          apply Solid.prepend _ (noSign_of_spellsSign signed)
          cases powered with
          | none =>
              rw [List.append_nil]
              exact solid_of_spellsFraction fraction
          | power isLetter signed nonempty isNumber =>
              apply Solid.prepend _ (solid_of_spellsFraction fraction).noSign
              have digits := (solid_of_digits nonempty isNumber).prepend (noSign_of_spellsSign signed)
              have lower : '#' ∉ ['e'] := by decide
              have upper : '#' ∉ ['E'] := by decide
              rcases isLetter with same | same
              · rw [same]
                exact digits.prepend lower
              · rw [same]
                exact digits.prepend upper

theorem SpellsEnds.solid {ends : Ends} (spelled : SpellsEnds taken ends) : Solid taken := by
  cases spelled with
  | mk one apart other =>
      exact (other.solid.prepend (apart.noSign (by decide))).prepend one.solid.noSign

theorem SpellsTwoEnds.solid {ends : Ends × Ends} (spelled : SpellsTwoEnds taken ends) :
    Solid taken := by
  cases spelled with
  | mk one apart other =>
      exact (other.solid.prepend (apart.noSign (by decide))).prepend one.solid.noSign

theorem SpellsDistance.solid {instruction : Instruction Float}
    (spelled : SpellsDistance taken instruction) : Solid taken := by
  cases spelled with
  | scalar ended apart given =>
      exact (given.solid.prepend (apart.noSign (by decide))).prepend ended.solid.noSign
  | value ended apart given =>
      exact (given.solid.prepend (apart.noSign (by decide))).prepend ended.solid.noSign

theorem solid_closing : Solid [')'] :=
  solid_of_ink (List.cons_ne_nil _ _) (List.forall_mem_singleton.mpr (by decide))

theorem SpellsCall.solid {β : Type} {name : String} {Spells : List Char → β → Prop} {value : β}
    (spelled : SpellsCall name Spells taken value) (named : '#' ∉ name.toList)
    (arguments : ∀ text value, Spells text value → '#' ∉ text) : Solid taken := by
  cases spelled with
  | mk opened inner closed =>
      apply Solid.prepend _ named
      apply Solid.prepend _ (opened.noSign (by decide))
      apply Solid.prepend _ (arguments _ _ inner)
      exact solid_closing.prepend closed.noSign

theorem SpellsDeclaration.solid {keyword : String} {label : Label}
    (spelled : SpellsDeclaration keyword taken label) (named : '#' ∉ keyword.toList) :
    Solid taken := by
  cases spelled with
  | mk nonempty apart spelled => exact (spelled.solid.prepend apart.noSign).prepend named

theorem SpellsAxis.noSign {axis : Axis} (along : SpellsAxis taken axis) : '#' ∉ '.' :: taken := by
  cases along with
  | x | y => decide

theorem SpellsInstruction.solid {instruction : Instruction Float}
    (spelled : SpellsInstruction taken instruction) : Solid taken := by
  cases spelled with
  | declarePoint spelled | declareScalar spelled => exact spelled.solid (by decide)
  | fixCoordinate named along equals given =>
      have axis : '#' ∉ '.' :: _ := along.noSign
      exact ((given.solid.prepend (equals.noSign (by decide))).prepend axis).prepend
        named.solid.noSign
  | fixScalar named equals given =>
      exact (given.solid.prepend (equals.noSign (by decide))).prepend named.solid.noSign
  | vertical spelled | horizontal spelled =>
      exact spelled.solid (by decide) fun _ _ inner => inner.solid.noSign
  | distance spelled => exact spelled.solid (by decide) fun _ _ inner => inner.solid.noSign
  | congruent spelled | parallel spelled | perpendicular spelled =>
      exact spelled.solid (by decide) fun _ _ inner => inner.solid.noSign

theorem SpellsPlace.solid {place : Point Float} (spelled : SpellsPlace taken place) : Solid taken := by
  cases spelled with
  | @mk x y blanks first between second closing opened one apart other closed =>
      have rest := (solid_closing.prepend closed.noSign).prepend other.solid.noSign
      have numbers := (rest.prepend (apart.noSign (by decide))).prepend one.solid.noSign
      have opening : '#' ∉ ['('] := by decide
      exact (numbers.prepend opened.noSign).prepend opening

theorem SpellsGuess.solid {guess : Guess Float} (spelled : SpellsGuess taken guess) : Solid taken := by
  have keyword : '#' ∉ "roughly".toList := by decide
  cases spelled with
  | point named nonempty blanksBefore blanksAfter spelled =>
      have given := (spelled.solid.prepend blanksAfter.noSign).prepend keyword
      exact (given.prepend blanksBefore.noSign).prepend named.solid.noSign
  | scalar named nonempty blanksBefore blanksAfter spelled =>
      have given := (spelled.solid.prepend blanksAfter.noSign).prepend keyword
      exact (given.prepend blanksBefore.noSign).prepend named.solid.noSign

end Solid

end Drafting.Text
