import Mathlib.Data.List.TakeWhile
import Drafting.Number.Numeral

/-!
# The grammar of numerals

A numeral is a word for infinity or for what is not a number, in any case, or a decimal fraction
with at least one digit and perhaps an exponent. `readPrefix?` reads just these: what it takes is a
numeral, and a numeral is taken as a whole if what follows does not go on like one.
-/

namespace Drafting

section Runs

variable {p q : Char → Bool} {run rest text : List Char}

/-- A text that does not go on with such a character. -/
def EndsRun (p : Char → Bool) (rest : List Char) : Prop := ∀ c ∈ rest.head?, p c = false

theorem EndsRun.mono (ends : EndsRun p rest) (fewer : ∀ c, p c = false → q c = false) :
    EndsRun q rest :=
  fun c first => fewer c (ends c first)

theorem takeWhile_run (inside : ∀ c ∈ run, p c = true) (ends : EndsRun p rest) :
    (run ++ rest).takeWhile p = run := by
  rw [List.takeWhile_append_of_pos inside]
  cases rest with
  | nil => rw [List.takeWhile_nil, List.append_nil]
  | cons c after =>
      rw [List.takeWhile_cons_of_neg (Bool.eq_false_iff.mp (ends c rfl)), List.append_nil]

theorem dropWhile_run (inside : ∀ c ∈ run, p c = true) (ends : EndsRun p rest) :
    (run ++ rest).dropWhile p = rest := by
  rw [List.dropWhile_append_of_pos inside]
  cases rest with
  | nil => rfl
  | cons c after => exact List.dropWhile_cons_of_neg (Bool.eq_false_iff.mp (ends c rfl))

theorem endsRun_append (nonempty : run ≠ []) (outside : ∀ c ∈ run, p c = false) :
    EndsRun p (run ++ rest) := by
  cases run with
  | nil => exact absurd rfl nonempty
  | cons c more =>
      intro d first
      rw [← Option.some.inj first]
      exact outside c List.mem_cons_self

end Runs

section Characters

theorem isAlpha_iff_toNat {c : Char} :
    c.isAlpha = true ↔ 65 ≤ c.toNat ∧ c.toNat ≤ 90 ∨ 97 ≤ c.toNat ∧ c.toNat ≤ 122 := by
  have upper : c.isUpper = true ↔ 65 ≤ c.toNat ∧ c.toNat ≤ 90 := decide_eq_true_iff
  have lower : c.isLower = true ↔ 97 ≤ c.toNat ∧ c.toNat ≤ 122 :=
    (Bool.and_eq_true_iff).trans (and_congr decide_eq_true_iff decide_eq_true_iff)
  rw [← upper, ← lower]
  exact Bool.or_eq_true_iff

theorem isAlpha_of_isDigit {c : Char} (digit : c.isDigit = true) : c.isAlpha = false := by
  obtain ⟨low, high⟩ := Char.isDigit_iff_toNat.mp digit
  have low : 48 ≤ c.toNat := low
  have high : c.toNat ≤ 57 := high
  rw [Bool.eq_false_iff]
  intro letter
  have bounds := isAlpha_iff_toNat.mp letter
  omega

/-- Only letters have lower-case letters as their lower case. -/
theorem isAlpha_of_toLower {c d : Char} (lower : c.toLower = d) (letter : d.isAlpha = true) :
    c.isAlpha = true := by
  unfold Char.toLower at lower
  split at lower
  · rename_i upper
    exact isAlpha_iff_toNat.mpr (Or.inl ⟨upper.1, upper.2⟩)
  · rw [lower]
    exact letter

end Characters

namespace Number.Numeral

section Grammar

inductive SpellsSign : List Char → Bool → Prop
  | none : SpellsSign [] false
  | plus : SpellsSign ['+'] false
  | minus : SpellsSign ['-'] true

inductive SpellsExponent : List Char → Int → Prop
  | none : SpellsExponent [] 0
  | power {letter : Char} {sign digits : List Char} {negative : Bool}
      (isLetter : letter = 'e' ∨ letter = 'E') (signed : SpellsSign sign negative)
      (nonempty : digits ≠ []) (isNumber : ∀ c ∈ digits, c.isDigit = true) :
      SpellsExponent (letter :: (sign ++ digits))
        (if negative then -(digitsValue digits : Int) else digitsValue digits)

/-- Digits with or without a point among them, apart in those before it and those after it. -/
inductive SpellsFraction : List Char → List Char → List Char → Prop
  | whole {digits : List Char} (nonempty : digits ≠ [])
      (isNumber : ∀ c ∈ digits, c.isDigit = true) :
      SpellsFraction digits digits []
  | point {whole part : List Char} (nonempty : whole ≠ [] ∨ part ≠ [])
      (wholeIsNumber : ∀ c ∈ whole, c.isDigit = true)
      (partIsNumber : ∀ c ∈ part, c.isDigit = true) :
      SpellsFraction (whole ++ '.' :: part) whole part

inductive SpellsNumeral : List Char → Numeral → Prop
  | notANumber {word : List Char} (same : word.map Char.toLower = ['n', 'a', 'n']) :
      SpellsNumeral word .notANumber
  | infinity {sign word : List Char} {negative : Bool} (signed : SpellsSign sign negative)
      (same : word.map Char.toLower = ['i', 'n', 'f'] ∨
        word.map Char.toLower = ['i', 'n', 'f', 'i', 'n', 'i', 't', 'y']) :
      SpellsNumeral (sign ++ word) (.infinity negative)
  | decimal {sign digits whole part power : List Char} {negative : Bool} {exponent : Int}
      (signed : SpellsSign sign negative) (fraction : SpellsFraction digits whole part)
      (powered : SpellsExponent power exponent) :
      SpellsNumeral (sign ++ (digits ++ power))
        (.decimal negative ⟨digitsValue (whole ++ part), exponent - part.length⟩)

inductive SpellsWord : List Char → Numeral → Prop
  | notANumber {word : List Char} (same : word.map Char.toLower = ['n', 'a', 'n']) :
      SpellsWord word .notANumber
  | infinity {word : List Char} (same : word.map Char.toLower = ['i', 'n', 'f'] ∨
        word.map Char.toLower = ['i', 'n', 'f', 'i', 'n', 'i', 't', 'y']) :
      SpellsWord word (.infinity false)

def continuesNumeral (c : Char) : Bool := c.isDigit || c.isAlpha || c == '.'

end Grammar

variable {text rest : List Char}

theorem endsRun_isDigit (ends : EndsRun continuesNumeral rest) : EndsRun Char.isDigit rest := by
  apply ends.mono
  intro c stops
  rw [continuesNumeral, Bool.or_eq_false_iff, Bool.or_eq_false_iff] at stops
  exact stops.1.1

section Words

theorem afterWord?_eq_some_iff {word : List Char} :
    afterWord? word text = some rest ↔
      ∃ taken, text = taken ++ rest ∧ taken.map Char.toLower = word := by
  induction word generalizing text with
  | nil =>
      rw [afterWord?]
      constructor
      · intro same
        exact ⟨[], Option.some.inj same, rfl⟩
      · rintro ⟨taken, split, same⟩
        rw [List.map_eq_nil_iff.mp same] at split
        rw [split, List.nil_append]
  | cons c word ih =>
      cases text with
      | nil =>
          rw [afterWord?]
          constructor
          · intro impossible
            cases impossible
          · rintro ⟨taken, split, same⟩
            cases taken with
            | nil => cases same
            | cons d taken => cases split
      | cons d text =>
          rw [afterWord?, Option.ite_none_right_eq_some, ih]
          constructor
          · rintro ⟨here, taken, split, same⟩
            exact ⟨d :: taken, congrArg (d :: ·) split, by rw [List.map_cons, here, same]⟩
          · rintro ⟨taken, split, same⟩
            cases taken with
            | nil => cases same
            | cons e taken =>
                obtain ⟨first, later⟩ := List.cons.inj split
                obtain ⟨here, word⟩ := List.cons.inj same
                subst first
                exact ⟨here, taken, later, word⟩

/-- A word does not start where no letter is. -/
theorem afterWord?_of_not_letter {c : Char} {word : List Char} (letter : c.isAlpha = true)
    (ends : EndsRun Char.isAlpha text) : afterWord? (c :: word) text = none := by
  cases text with
  | nil => rfl
  | cons d text =>
      rw [afterWord?]
      apply if_neg
      intro same
      have other := ends d rfl
      rw [isAlpha_of_toLower same letter] at other
      cases other

theorem afterWord?_of_different {c d : Char} {word taken later : List Char} (different : d ≠ c)
    (same : taken.map Char.toLower = d :: later) :
    afterWord? (c :: word) (taken ++ text) = none := by
  cases taken with
  | nil => cases same
  | cons e taken =>
      rw [List.cons_append, afterWord?]
      apply if_neg
      rw [(List.cons.inj same).1]
      exact different

/-- A word that has letters in lower case has letters. -/
theorem isAlpha_of_map_toLower {taken word : List Char} (same : taken.map Char.toLower = word)
    (letters : word.all Char.isAlpha = true) : ∀ c ∈ taken, c.isAlpha = true := by
  intro c member
  apply isAlpha_of_toLower rfl
  apply List.all_eq_true.mp letters
  rw [← same]
  exact List.mem_map_of_mem member

end Words

section Signs

def isSign (c : Char) : Bool := c == '-' || c == '+'

def splitSign : List Char → Bool × List Char
  | '-' :: rest => (true, rest)
  | '+' :: rest => (false, rest)
  | text => (false, text)

theorem isSign_of_other {p : Char → Bool} {c : Char} (other : p c = true)
    (notMinus : p '-' = false) (notPlus : p '+' = false) : isSign c = false := by
  rw [isSign, Bool.or_eq_false_iff, beq_eq_false_iff_ne, beq_eq_false_iff_ne]
  constructor
  · intro same
    rw [same, notMinus] at other
    cases other
  · intro same
    rw [same, notPlus] at other
    cases other

theorem isSign_of_isDigit {c : Char} (digit : c.isDigit = true) : isSign c = false :=
  isSign_of_other digit rfl rfl

theorem isSign_of_isAlpha {c : Char} (letter : c.isAlpha = true) : isSign c = false :=
  isSign_of_other letter rfl rfl

theorem splitSign_of_endsRun (ends : EndsRun isSign text) : splitSign text = (false, text) := by
  unfold splitSign
  split
  · exact absurd (ends '-' rfl) (by decide)
  · exact absurd (ends '+' rfl) (by decide)
  · rfl

theorem splitSign_append {sign : List Char} {negative : Bool} (signed : SpellsSign sign negative)
    (ends : EndsRun isSign text) : splitSign (sign ++ text) = (negative, text) := by
  cases signed with
  | none => exact splitSign_of_endsRun ends
  | plus | minus => rfl

theorem exists_sign (text : List Char) :
    ∃ sign, text = sign ++ (splitSign text).2 ∧ SpellsSign sign (splitSign text).1 := by
  unfold splitSign
  split
  · exact ⟨['-'], rfl, .minus⟩
  · exact ⟨['+'], rfl, .plus⟩
  · exact ⟨[], rfl, .none⟩

end Signs

section Exponents

theorem digits_split (text : List Char) :
    text = text.takeWhile Char.isDigit ++ text.dropWhile Char.isDigit ∧
      ∀ c ∈ text.takeWhile Char.isDigit, c.isDigit = true :=
  ⟨List.takeWhile_append_dropWhile.symm, fun _ member => List.mem_takeWhile_imp member⟩

def power? (negative : Bool) (text : List Char) : Option (Int × List Char) :=
  match text.takeWhile Char.isDigit with
  | [] => none
  | digits =>
      some (if negative then -(digitsValue digits : Int) else digitsValue digits,
        text.dropWhile Char.isDigit)

theorem exponent?_of_letter {letter : Char} (isLetter : letter = 'e' ∨ letter = 'E') :
    exponent? (letter :: text) = power? (splitSign text).1 (splitSign text).2 := by
  unfold exponent?
  refine (if_pos isLetter).trans ?_
  split
  · rfl
  · rfl
  · rename_i notMinus notPlus
    have unsigned : splitSign text = (false, text) := by
      unfold splitSign
      split
      · exact absurd rfl (notMinus _)
      · exact absurd rfl (notPlus _)
      · rfl
    rw [unsigned]
    rfl

theorem exponent?_of_no_letter (noLetter : ∀ c ∈ text.head?, ¬(c = 'e' ∨ c = 'E')) :
    exponent? text = some (0, text) := by
  cases text with
  | nil => rfl
  | cons c after =>
      unfold exponent?
      exact if_neg (noLetter c rfl)

theorem power?_digits {negative : Bool} {digits : List Char} (nonempty : digits ≠ [])
    (isNumber : ∀ c ∈ digits, c.isDigit = true) (ends : EndsRun Char.isDigit rest) :
    power? negative (digits ++ rest) =
      some (if negative then -(digitsValue digits : Int) else digitsValue digits, rest) := by
  unfold power?
  rw [takeWhile_run isNumber ends, dropWhile_run isNumber ends]
  split
  · exact absurd rfl nonempty
  · rfl

theorem exists_digits_of_power? {negative : Bool} {power : Int}
    (found : power? negative text = some (power, rest)) :
    ∃ digits, text = digits ++ rest ∧ digits ≠ [] ∧ (∀ c ∈ digits, c.isDigit = true) ∧
      power = if negative then -(digitsValue digits : Int) else digitsValue digits := by
  unfold power? at found
  split at found
  · cases found
  · rename_i nonempty
    cases found
    obtain ⟨split, isNumber⟩ := digits_split text
    exact ⟨text.takeWhile Char.isDigit, split, nonempty, isNumber, rfl⟩

theorem exponent?_complete {taken : List Char} {power : Int} (spelled : SpellsExponent taken power)
    (ends : EndsRun continuesNumeral rest) : exponent? (taken ++ rest) = some (power, rest) := by
  cases spelled with
  | none =>
      apply exponent?_of_no_letter
      intro c first letter
      have stops := ends c first
      rcases letter with same | same
      · rw [same] at stops
        cases stops
      · rw [same] at stops
        cases stops
  | @power letter sign digits negative isLetter signed nonempty isNumber =>
      have unsigned : EndsRun isSign (digits ++ rest) :=
        endsRun_append nonempty fun c member => isSign_of_isDigit (isNumber c member)
      rw [List.cons_append, List.append_assoc, exponent?_of_letter isLetter,
        splitSign_append signed unsigned, power?_digits nonempty isNumber (endsRun_isDigit ends)]

theorem exponent?_sound {power : Int} (found : exponent? text = some (power, rest)) :
    ∃ taken, text = taken ++ rest ∧ SpellsExponent taken power := by
  cases text with
  | nil =>
      cases found
      exact ⟨[], rfl, .none⟩
  | cons letter after =>
      by_cases isLetter : letter = 'e' ∨ letter = 'E'
      · rw [exponent?_of_letter isLetter] at found
        obtain ⟨digits, split, nonempty, isNumber, same⟩ := exists_digits_of_power? found
        obtain ⟨sign, signSplit, signed⟩ := exists_sign after
        rw [split] at signSplit
        refine ⟨letter :: (sign ++ digits), ?_, ?_⟩
        · rw [signSplit, List.cons_append, List.append_assoc]
        · rw [same]
          exact .power isLetter signed nonempty isNumber
      · have noLetter : ∀ c ∈ (letter :: after).head?, ¬(c = 'e' ∨ c = 'E') := by
          intro c first
          rw [← Option.some.inj first]
          exact isLetter
        rw [exponent?_of_no_letter noLetter] at found
        cases found
        exact ⟨[], rfl, .none⟩

end Exponents

section Fractions

/-- What is read after the digits of a fraction makes it a numeral. -/
theorem fraction?_sound {negative : Bool} {digits whole part after : List Char} {numeral : Numeral}
    (fraction : SpellsFraction digits whole part) (split : text = digits ++ after)
    (found : fraction? negative whole part after = some (numeral, rest)) :
    ∃ taken, text = taken ++ rest ∧ ∀ sign, SpellsSign sign negative →
      SpellsNumeral (sign ++ taken) numeral := by
  obtain ⟨⟨exponent, afterPower⟩, powerFound, same⟩ := Option.map_eq_some_iff.mp found
  cases same
  obtain ⟨power, powerSplit, powered⟩ := exponent?_sound powerFound
  refine ⟨digits ++ power, ?_, fun sign signed => .decimal signed fraction powered⟩
  rw [split, powerSplit, List.append_assoc]

theorem infinity_sound {after : List Char} {negative : Bool}
    (word : afterWord? ['i', 'n', 'f'] text = some after) :
    ∃ taken, text = taken ++ (afterWord? ['i', 'n', 'i', 't', 'y'] after).getD after ∧
      ∀ sign, SpellsSign sign negative → SpellsNumeral (sign ++ taken) (.infinity negative) := by
  obtain ⟨taken, split, same⟩ := afterWord?_eq_some_iff.mp word
  cases longer : afterWord? ['i', 'n', 'i', 't', 'y'] after with
  | none => exact ⟨taken, split, fun sign signed => .infinity signed (Or.inl same)⟩
  | some further =>
      obtain ⟨more, moreSplit, moreSame⟩ := afterWord?_eq_some_iff.mp longer
      refine ⟨taken ++ more, ?_, fun sign signed => .infinity signed (Or.inr ?_)⟩
      · rw [split, moreSplit, List.append_assoc, Option.getD_some]
      · rw [List.map_append, same, moreSame]
        rfl

theorem readUnsigned?_sound {negative : Bool} {numeral : Numeral}
    (found : readUnsigned? negative text = some (numeral, rest)) :
    ∃ taken, text = taken ++ rest ∧ ∀ sign, SpellsSign sign negative →
      SpellsNumeral (sign ++ taken) numeral := by
  unfold readUnsigned? at found
  split at found
  · rename_i after word
    cases found
    exact infinity_sound word
  · obtain ⟨split, isNumber⟩ := digits_split text
    generalize text.takeWhile Char.isDigit = whole at found split isNumber
    generalize text.dropWhile Char.isDigit = after at found split
    dsimp only at found
    -- The cases are a point with and without digits before it, and no point.
    split at found
    · rename_i further
      obtain ⟨partSplit, partIsNumber⟩ := digits_split further
      split at found
      · cases found
      · rename_i nonempty
        refine fraction?_sound (.point (Or.inr nonempty) isNumber partIsNumber) ?_ found
        rw [split, List.append_assoc, List.cons_append, ← partSplit]
    · cases found
    · rename_i further nonempty
      obtain ⟨partSplit, partIsNumber⟩ := digits_split further
      refine fraction?_sound (.point (Or.inl nonempty) isNumber partIsNumber) ?_ found
      rw [split, List.append_assoc, List.cons_append, ← partSplit]
    · rename_i nonempty _ _
      exact fraction?_sound (.whole nonempty isNumber) split found

/-- What is read for the numeral at the front of a text is one. -/
theorem readPrefix?_sound {numeral : Numeral} (found : readPrefix? text = some (numeral, rest)) :
    ∃ taken, text = taken ++ rest ∧ SpellsNumeral taken numeral := by
  rcases Option.or_eq_some_iff.mp found with signed | ⟨_, whole⟩
  · unfold readSigned? at signed
    split at signed
    · obtain ⟨taken, split, spelled⟩ := readUnsigned?_sound signed
      exact ⟨'-' :: taken, congrArg ('-' :: ·) split, spelled ['-'] .minus⟩
    · obtain ⟨taken, split, spelled⟩ := readUnsigned?_sound signed
      exact ⟨'+' :: taken, congrArg ('+' :: ·) split, spelled ['+'] .plus⟩
    · split at signed
      · rename_i after word
        cases signed
        obtain ⟨taken, split, same⟩ := afterWord?_eq_some_iff.mp word
        exact ⟨taken, split, .notANumber same⟩
      · obtain ⟨taken, split, spelled⟩ := readUnsigned?_sound signed
        exact ⟨taken, split, spelled [] .none⟩
  · unfold readWhole? at whole
    split at whole
    · cases whole
    · rename_i nonempty
      cases whole
      obtain ⟨split, isNumber⟩ := digits_split text
      refine ⟨text.takeWhile Char.isDigit, split, ?_⟩
      have spelled := SpellsNumeral.decimal .none (.whole nonempty isNumber) .none
      rw [List.append_nil] at spelled
      exact spelled

end Fractions

section Letters

theorem SpellsWord.spellsNumeral {word : List Char} {numeral : Numeral}
    (spelled : SpellsWord word numeral) : SpellsNumeral word numeral := by
  cases spelled with
  | notANumber same => exact .notANumber same
  | infinity same => exact .infinity .none same

theorem SpellsWord.letters {word : List Char} {numeral : Numeral}
    (spelled : SpellsWord word numeral) : word ≠ [] ∧ ∀ c ∈ word, c.isAlpha = true := by
  have letters : ∀ {lower : List Char}, word.map Char.toLower = lower → lower ≠ [] →
      lower.all Char.isAlpha = true → word ≠ [] ∧ ∀ c ∈ word, c.isAlpha = true := by
    intro lower same nonempty letters
    constructor
    · intro empty
      rw [empty] at same
      exact nonempty same.symm
    · exact isAlpha_of_map_toLower same letters
  cases spelled with
  | notANumber same => exact letters same (by decide) rfl
  | infinity same =>
      rcases same with short | long
      · exact letters short (by decide) rfl
      · exact letters long (by decide) rfl

theorem SpellsWord.endsRun {p : Char → Bool} {word : List Char} {numeral : Numeral}
    (spelled : SpellsWord word numeral) (notLetter : ∀ c, c.isAlpha = true → p c = false) :
    EndsRun p (word ++ text) :=
  endsRun_append spelled.letters.1 fun c member => notLetter c (spelled.letters.2 c member)

theorem SpellsWord.unique {word : List Char} {numeral other : Numeral}
    (spelled : SpellsWord word numeral) (again : SpellsWord word other) : numeral = other := by
  cases spelled with
  | notANumber same =>
      cases again with
      | notANumber _ => rfl
      | infinity different =>
          rw [same] at different
          exact absurd different (by decide)
  | infinity same =>
      cases again with
      | infinity _ => rfl
      | notANumber different =>
          rw [different] at same
          exact absurd same (by decide)

end Letters

section Completeness

/-- A fraction is written with digits and points. -/
theorem SpellsFraction.characters {digits whole part : List Char}
    (fraction : SpellsFraction digits whole part) :
    digits ≠ [] ∧ ∀ c ∈ digits, c.isDigit = true ∨ c = '.' := by
  cases fraction with
  | whole nonempty isNumber => exact ⟨nonempty, fun c member => Or.inl (isNumber c member)⟩
  | point _ wholeIsNumber partIsNumber =>
      constructor
      · exact List.append_ne_nil_of_right_ne_nil _ (List.cons_ne_nil _ _)
      · intro c member
        rcases List.mem_append.mp member with before | after
        · exact Or.inl (wholeIsNumber c before)
        · rcases List.mem_cons.mp after with isPoint | after
          · exact Or.inr isPoint
          · exact Or.inl (partIsNumber c after)

theorem SpellsFraction.endsRun {p : Char → Bool} {digits whole part : List Char}
    (fraction : SpellsFraction digits whole part) (notDigit : ∀ c, c.isDigit = true → p c = false)
    (notPoint : p '.' = false) : EndsRun p (digits ++ text) := by
  obtain ⟨nonempty, characters⟩ := fraction.characters
  apply endsRun_append nonempty
  intro c member
  rcases characters c member with digit | isPoint
  · exact notDigit c digit
  · rw [isPoint]
    exact notPoint

/-- A fraction is over where its exponent starts. -/
theorem endsRun_exponent {power : List Char} {exponent : Int}
    (powered : SpellsExponent power exponent) (ends : EndsRun continuesNumeral rest) :
    EndsRun (fun c => c.isDigit || c == '.') (power ++ rest) := by
  cases powered with
  | none =>
      apply ends.mono
      intro c stops
      rw [continuesNumeral, Bool.or_eq_false_iff, Bool.or_eq_false_iff] at stops
      rw [Bool.or_eq_false_iff]
      exact ⟨stops.1.1, stops.2⟩
  | power isLetter =>
      rcases isLetter with same | same
      · intro c first
        rw [← Option.some.inj first, same]
        rfl
      · intro c first
        rw [← Option.some.inj first, same]
        rfl

theorem readUnsigned?_infinity {negative : Bool} {word : List Char}
    (same : word.map Char.toLower = ['i', 'n', 'f'] ∨
      word.map Char.toLower = ['i', 'n', 'f', 'i', 'n', 'i', 't', 'y'])
    (ends : EndsRun Char.isAlpha rest) :
    readUnsigned? negative (word ++ rest) = some (.infinity negative, rest) := by
  unfold readUnsigned?
  rcases same with short | long
  · rw [afterWord?_eq_some_iff.mpr ⟨word, rfl, short⟩]
    dsimp only
    rw [afterWord?_of_not_letter rfl ends]
    rfl
  · have apart : word.map Char.toLower = ['i', 'n', 'f'] ++ ['i', 'n', 'i', 't', 'y'] := long
    obtain ⟨front, back, split, frontSame, backSame⟩ := List.map_eq_append_iff.mp apart
    rw [split, List.append_assoc, afterWord?_eq_some_iff.mpr ⟨front, rfl, frontSame⟩]
    dsimp only
    rw [afterWord?_eq_some_iff.mpr ⟨back, rfl, backSame⟩]
    rfl

theorem readUnsigned?_decimal {negative : Bool} {digits whole part power : List Char}
    {exponent : Int} (fraction : SpellsFraction digits whole part)
    (powered : SpellsExponent power exponent) (ends : EndsRun continuesNumeral rest) :
    readUnsigned? negative (digits ++ (power ++ rest)) =
      some (.decimal negative ⟨digitsValue (whole ++ part), exponent - part.length⟩, rest) := by
  have noWord : afterWord? ['i', 'n', 'f'] (digits ++ (power ++ rest)) = none :=
    afterWord?_of_not_letter rfl (fraction.endsRun (fun c => isAlpha_of_isDigit) rfl)
  have stops := endsRun_exponent powered ends
  have noDigit : EndsRun Char.isDigit (power ++ rest) :=
    stops.mono fun c stops => (Bool.or_eq_false_iff.mp stops).1
  have found : fraction? negative whole part (power ++ rest) =
      some (.decimal negative ⟨digitsValue (whole ++ part), exponent - part.length⟩, rest) := by
    rw [fraction?, exponent?_complete powered ends]
    rfl
  unfold readUnsigned?
  rw [noWord]
  cases fraction with
  | whole nonempty isNumber =>
      dsimp only
      rw [takeWhile_run isNumber noDigit, dropWhile_run isNumber noDigit]
      split
      · exact absurd rfl nonempty
      · exact absurd rfl nonempty
      · rename_i pointed
        rw [pointed] at stops
        cases stops '.' rfl
      · exact found
  | @point whole part nonempty wholeIsNumber partIsNumber =>
      have atPoint : EndsRun Char.isDigit ('.' :: part ++ (power ++ rest)) := by
        intro c first
        rw [← Option.some.inj first]
        rfl
      dsimp only
      rw [List.append_assoc, takeWhile_run wholeIsNumber atPoint,
        dropWhile_run wholeIsNumber atPoint, List.cons_append]
      cases whole with
      | nil =>
          simp only [takeWhile_run partIsNumber noDigit, dropWhile_run partIsNumber noDigit]
          split
          · exact absurd rfl (nonempty.resolve_left fun impossible => impossible rfl)
          · exact found
      | cons c whole =>
          simp only [takeWhile_run partIsNumber noDigit, dropWhile_run partIsNumber noDigit]
          exact found
theorem readSigned?_append {sign : List Char} {negative : Bool} (signed : SpellsSign sign negative)
    (ends : EndsRun isSign text) (isNumber : afterWord? ['n', 'a', 'n'] text = none) :
    readSigned? (sign ++ text) = readUnsigned? negative text := by
  cases signed with
  | plus | minus => rfl
  | none =>
      unfold readSigned?
      rw [List.nil_append]
      split
      · exact absurd (ends '-' rfl) (by decide)
      · exact absurd (ends '+' rfl) (by decide)
      · rw [isNumber]

theorem readSigned?_notANumber {word : List Char}
    (same : word.map Char.toLower = ['n', 'a', 'n']) :
    readSigned? (word ++ rest) = some (.notANumber, rest) := by
  have unsigned : EndsRun isSign (word ++ rest) :=
    (SpellsWord.notANumber same).endsRun fun c => isSign_of_isAlpha
  unfold readSigned?
  split
  · rename_i minus
    rw [minus] at unsigned
    cases unsigned '-' rfl
  · rename_i plus
    rw [plus] at unsigned
    cases unsigned '+' rfl
  · rw [afterWord?_eq_some_iff.mpr ⟨word, rfl, same⟩]

/-- A numeral is read as a whole if what follows does not go on like one. -/
theorem readPrefix?_complete {taken : List Char} {numeral : Numeral}
    (spelled : SpellsNumeral taken numeral) (ends : EndsRun continuesNumeral rest) :
    readPrefix? (taken ++ rest) = some (numeral, rest) := by
  have noLetter : EndsRun Char.isAlpha rest := by
    apply ends.mono
    intro c stops
    rw [continuesNumeral, Bool.or_eq_false_iff, Bool.or_eq_false_iff] at stops
    exact stops.1.2
  apply Option.or_eq_some_iff.mpr
  left
  cases spelled with
  | notANumber same => exact readSigned?_notANumber same
  | infinity signed same =>
      rw [List.append_assoc, readSigned?_append signed, readUnsigned?_infinity same noLetter]
      · exact (SpellsWord.infinity same).endsRun fun c => isSign_of_isAlpha
      · rcases same with short | long
        · exact afterWord?_of_different (by decide) short
        · exact afterWord?_of_different (by decide) long
  | decimal signed fraction powered =>
      rw [List.append_assoc, List.append_assoc, readSigned?_append signed,
        readUnsigned?_decimal fraction powered ends]
      · exact fraction.endsRun (fun c => isSign_of_isDigit) rfl
      · exact afterWord?_of_not_letter rfl (fraction.endsRun (fun c => isAlpha_of_isDigit) rfl)

end Completeness

section Starts

/-- A numeral is a word, or it starts with no letter. -/
theorem SpellsNumeral.word_or_endsRun {p : Char → Bool} {taken : List Char} {numeral : Numeral}
    (spelled : SpellsNumeral taken numeral) (notDigit : ∀ c, c.isDigit = true → p c = false)
    (notPoint : p '.' = false) (notSign : ∀ c, isSign c = true → p c = false) :
    SpellsWord taken numeral ∨ EndsRun p (taken ++ rest) := by
  have signed : ∀ (text : List Char) {sign : List Char} {negative : Bool},
      SpellsSign sign negative → sign = [] ∧ negative = false ∨ EndsRun p (sign ++ text) := by
    intro text sign negative signed
    cases signed with
    | none => exact Or.inl ⟨rfl, rfl⟩
    | plus | minus =>
        right
        intro c first
        rw [← Option.some.inj first]
        exact notSign _ rfl
  cases spelled with
  | notANumber same => exact Or.inl (.notANumber same)
  | @infinity sign word negative isSigned same =>
      rcases signed (word ++ rest) isSigned with ⟨unsigned, positive⟩ | ends
      · rw [unsigned, positive]
        exact Or.inl (.infinity same)
      · rw [List.append_assoc]
        exact Or.inr ends
  | @decimal sign digits whole part power negative exponent isSigned fraction powered =>
      right
      rw [List.append_assoc, List.append_assoc]
      rcases signed (digits ++ (power ++ rest)) isSigned with ⟨unsigned, _⟩ | ends
      · rw [unsigned]
        exact fraction.endsRun notDigit notPoint
      · exact ends

/-- A numeral starts with a sign, or like it goes on. -/
theorem SpellsNumeral.endsRun {p : Char → Bool} {taken : List Char} {numeral : Numeral}
    (spelled : SpellsNumeral taken numeral)
    (outside : ∀ c, continuesNumeral c = true ∨ isSign c = true → p c = false) :
    EndsRun p (taken ++ rest) := by
  have notDigit : ∀ c, c.isDigit = true → p c = false := by
    intro c digit
    apply outside
    left
    rw [continuesNumeral, digit, Bool.true_or, Bool.true_or]
  have notLetter : ∀ c, c.isAlpha = true → p c = false := by
    intro c letter
    apply outside
    left
    rw [continuesNumeral, letter, Bool.or_true, Bool.true_or]
  rcases spelled.word_or_endsRun notDigit (outside '.' (Or.inl rfl))
      (fun c sign => outside c (Or.inr sign)) with word | ends
  · exact word.endsRun notLetter
  · exact ends

end Starts

end Number.Numeral

end Drafting
