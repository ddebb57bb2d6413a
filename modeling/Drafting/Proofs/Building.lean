import Mathlib.Data.List.Induction
import Mathlib.Data.List.Nodup
import Mathlib.Data.List.Sort
import Mathlib.Data.String.Basic
import Drafting.Constraint.Kind
import Drafting.Proofs.Declarations

/-!
# When a problem makes a drawing

A problem makes a drawing just if each of its labels is declared once and guessed once, as the same
kind, and is used as that kind only. To find out, four lists are checked one after the other: the
guesses, the declarations, the guesses again, and the labels that instructions use. The first entry
that does not pass its check is the error.
-/

namespace Drafting

open Text (Label Instruction Ends Problem)

variable {α : Type}

section Conditions

def EntityKind.other : EntityKind → EntityKind
  | .point => .scalar
  | .scalar => .point

namespace Text

def Ends.uses (ends : Ends) : List (Label × EntityKind) :=
  [(ends.start, .point), (ends.finish, .point)]

/-- The labels that an instruction uses, in reading order, with the kinds that it needs. -/
def Instruction.uses : Instruction α → List (Label × EntityKind)
  | .declarePoint _ | .declareScalar _ => []
  | .fixCoordinate point _ _ => [(point, .point)]
  | .fixScalar scalar _ => [(scalar, .scalar)]
  | .vertical ends | .horizontal ends | .distance ends _ => ends.uses
  | .distanceScalar ends scalar => ends.uses ++ [(scalar, .scalar)]
  | .congruent s t | .parallel s t | .perpendicular s t => s.uses ++ t.uses

namespace Problem

def guessedAs (problem : Problem α) : EntityKind → List Label
  | .point => problem.pointGuesses.map Prod.fst
  | .scalar => problem.scalarGuesses.map Prod.fst

def guessed (problem : Problem α) : List Label :=
  problem.guessedAs .point ++ problem.guessedAs .scalar

def declared (problem : Problem α) : List (Label × EntityKind) :=
  problem.instructions.filterMap Instruction.declared?

def uses (problem : Problem α) : List (Label × EntityKind) :=
  problem.instructions.flatMap Instruction.uses

end Problem

end Text

structure Declarable (problem : Problem α) (declared : List (Label × EntityKind)) : Prop where
  distinct : (declared.map Prod.fst).Nodup
  guessed : ∀ entry ∈ declared, entry.1 ∈ problem.guessedAs entry.2

/-- What a problem must satisfy to make a drawing. -/
structure Buildable (problem : Problem α) : Prop where
  guessedOnce : problem.guessed.Nodup
  declarable : Declarable problem problem.declared
  noneUnused : ∀ label ∈ problem.guessed, label ∈ problem.declared.map Prod.fst
  usesDeclared : ∀ use ∈ problem.uses, use ∈ problem.declared

inductive BadDeclaration (problem : Problem α) (before : List (Label × EntityKind)) :
    Label × EntityKind → BuildError → Prop
  | repeated {label : Label} {kind : EntityKind} (again : label ∈ before.map Prod.fst) :
      BadDeclaration problem before (label, kind) (.duplicateDeclaration label)
  | wrongKind {label : Label} {kind : EntityKind} (fresh : label ∉ before.map Prod.fst)
      (unguessed : label ∉ problem.guessedAs kind) (other : label ∈ problem.guessedAs kind.other) :
      BadDeclaration problem before (label, kind) (.wrongKind label kind)
  | missingGuess {label : Label} {kind : EntityKind} (fresh : label ∉ before.map Prod.fst)
      (unguessed : label ∉ problem.guessedAs kind)
      (noOther : label ∉ problem.guessedAs kind.other) :
      BadDeclaration problem before (label, kind) (.missingGuess label)

inductive BadUse (problem : Problem α) : Label × EntityKind → BuildError → Prop
  | undefined {label : Label} {kind : EntityKind}
      (absent : label ∉ problem.declared.map Prod.fst) :
      BadUse problem (label, kind) (.undefined label)
  | wrongKind {label : Label} {kind : EntityKind} (other : (label, kind.other) ∈ problem.declared) :
      BadUse problem (label, kind) (.wrongKind label kind)

/-- The first thing that is wrong with a problem. -/
inductive FirstError (problem : Problem α) : BuildError → Prop
  | duplicateGuess {before after : List Label} {label : Label}
      (split : problem.guessed = before ++ label :: after) (distinct : before.Nodup)
      (again : label ∈ before) : FirstError problem (.duplicateGuess label)
  | declaration {before after : List (Label × EntityKind)} {entry : Label × EntityKind}
      {error : BuildError} (guessedOnce : problem.guessed.Nodup)
      (split : problem.declared = before ++ entry :: after) (earlier : Declarable problem before)
      (bad : BadDeclaration problem before entry error) : FirstError problem error
  | unusedGuesses {labels : List Label} (guessedOnce : problem.guessed.Nodup)
      (declarable : Declarable problem problem.declared) (nonempty : labels ≠ [])
      (ascending : labels.Pairwise (· < ·))
      (unused : ∀ label, label ∈ labels ↔
        label ∈ problem.guessed ∧ label ∉ problem.declared.map Prod.fst) :
      FirstError problem (.unusedGuesses labels)
  | use {before after : List (Label × EntityKind)} {entry : Label × EntityKind}
      {error : BuildError} (guessedOnce : problem.guessed.Nodup)
      (declarable : Declarable problem problem.declared)
      (noneUnused : ∀ label ∈ problem.guessed, label ∈ problem.declared.map Prod.fst)
      (split : problem.uses = before ++ entry :: after)
      (earlier : ∀ use ∈ before, use ∈ problem.declared) (bad : BadUse problem entry error) :
      FirstError problem error

end Conditions

section Checks

variable {ε β γ : Type} {check : List β → β → Except ε Unit} {before entries : List β}

/-- Check entries in order, each with those before it. -/
def checkAll (check : List β → β → Except ε Unit) (before : List β) : List β → Except ε Unit
  | [] => .ok ()
  | entry :: rest => check before entry >>= fun _ => checkAll check (before ++ [entry]) rest

theorem bind_eq_error_iff {first : Except ε β} {next : β → Except ε γ} {error : ε} :
    (first >>= next) = .error error ↔
      first = .error error ∨ ∃ b, first = .ok b ∧ next b = .error error := by
  cases first <;> simp [bind, Except.bind]

theorem passed_bind (next : Unit → Except ε γ) : (Except.ok () >>= next) = next () := rfl

theorem checkAll_append (more : List β) :
    checkAll check before (entries ++ more) =
      (checkAll check before entries >>= fun _ => checkAll check (before ++ entries) more) := by
  induction entries generalizing before with
  | nil =>
      rw [List.append_nil]
      rfl
  | cons entry rest ih =>
      rw [List.cons_append, checkAll, checkAll]
      cases check before entry with
      | error error => rfl
      | ok passed =>
          rw [List.append_cons before entry rest]
          exact ih

/-- Checking fails at the first entry that does not pass. -/
theorem checkAll_eq_error_iff {error : ε} :
    checkAll check before entries = .error error ↔
      ∃ earlier entry later, entries = earlier ++ entry :: later ∧
        checkAll check before earlier = .ok () ∧ check (before ++ earlier) entry = .error error := by
  constructor
  · intro failed
    induction entries generalizing before with
    | nil => cases failed
    | cons entry rest ih =>
        rcases bind_eq_error_iff.mp failed with here | ⟨_, passed, later⟩
        · exact ⟨[], entry, rest, rfl, rfl, (List.append_nil before).symm ▸ here⟩
        · obtain ⟨earlier, stopped, after, split, passedEarlier, wrong⟩ := ih later
          refine ⟨entry :: earlier, stopped, after, congrArg (entry :: ·) split, ?_, ?_⟩
          · rw [checkAll, passed]
            exact passedEarlier
          · rw [List.append_cons]
            exact wrong
  · rintro ⟨earlier, entry, later, split, passed, wrong⟩
    rw [split, checkAll_append, passed]
    exact bind_eq_error_iff.mpr (Or.inr ⟨(), rfl, bind_eq_error_iff.mpr (Or.inl wrong)⟩)

/-- All entries pass just if they are good together, where one more entry is good just if it passes its
check after the others. -/
theorem checkAll_eq_ok_iff {Good : List β → Prop}
    (step : ∀ before entry, Good (before ++ [entry]) ↔ Good before ∧ check before entry = .ok ())
    (good : Good before) : checkAll check before entries = .ok () ↔ Good (before ++ entries) := by
  induction entries using List.reverseRecOn with
  | nil => exact ⟨fun _ => (List.append_nil before).symm ▸ good, fun _ => rfl⟩
  | append_singleton entries entry ih =>
      rw [checkAll_append, bind_eq_ok_iff, ← List.append_assoc, step, ← ih]
      constructor
      · rintro ⟨_, passed, last⟩
        obtain ⟨_, here, _⟩ := bind_eq_ok_iff.mp last
        exact ⟨passed, here⟩
      · rintro ⟨passed, here⟩
        exact ⟨(), passed, bind_eq_ok_iff.mpr ⟨(), here, rfl⟩⟩

end Checks

section Forgetting

variable {ε β γ : Type}

/-- A result without its value: only whether there is one, or else the error. -/
def forget (result : Except ε β) : Except ε Unit := result.map fun _ => ()

theorem forget_eq_ok_iff {result : Except ε β} : forget result = .ok () ↔ ∃ b, result = .ok b := by
  cases result <;> simp [forget, Except.map]

theorem forget_eq_error_iff {result : Except ε β} {error : ε} :
    forget result = .error error ↔ result = .error error := by
  cases result <;> simp [forget, Except.map]

theorem forget_bind {first : Except ε β} {next : β → Except ε γ} {passed later : Except ε Unit}
    (here : forget first = passed) (after : ∀ b, first = .ok b → forget (next b) = later) :
    forget (first >>= next) = (passed >>= fun _ => later) := by
  rw [← here]
  cases first with
  | error error => rfl
  | ok b => exact after b rfl

theorem forget_bind_ok {first : Except ε β} (f : β → γ) :
    forget (first >>= fun b => .ok (f b)) = forget first := by
  cases first <;> rfl

end Forgetting

section Guesses

def checkGuess (before : List Label) (label : Label) : Except BuildError Unit :=
  if label ∈ before then .error (.duplicateGuess label) else .ok ()

theorem checkGuess_eq_ok_iff {before : List Label} {label : Label} :
    checkGuess before label = .ok () ↔ label ∉ before := by
  unfold checkGuess
  split <;> simp [*]

theorem checkGuess_eq_error_iff {before : List Label} {label : Label} {error : BuildError} :
    checkGuess before label = .error error ↔ label ∈ before ∧ error = .duplicateGuess label := by
  unfold checkGuess
  split <;> simp [*, eq_comm]

theorem checkAll_checkGuess_eq_ok_iff {labels : List Label} :
    checkAll checkGuess [] labels = .ok () ↔ labels.Nodup := by
  have step (before : List Label) (label : Label) :
      (before ++ [label]).Nodup ↔ before.Nodup ∧ checkGuess before label = .ok () := by
    rw [checkGuess_eq_ok_iff, List.nodup_append_comm, List.singleton_append, List.nodup_cons,
      and_comm]
  exact checkAll_eq_ok_iff step List.nodup_nil

/-- The first repeated label is the first that does not pass the check. -/
theorem checkAll_checkGuess {seen before : List Label} (labels : List Label)
    (same : ∀ label, label ∈ seen ↔ label ∈ before) :
    checkAll checkGuess before labels =
      match firstRepeated? seen labels with
      | none => .ok ()
      | some label => .error (.duplicateGuess label) := by
  induction labels generalizing seen before with
  | nil => rfl
  | cons label rest ih =>
      rw [checkAll, checkGuess, firstRepeated?]
      by_cases again : label ∈ before
      · rw [if_pos again, if_pos ((same label).mpr again)]
        rfl
      · rw [if_neg again, if_neg (mt (same label).mp again)]
        refine ih fun other => ?_
        rw [List.mem_cons, List.mem_append, List.mem_singleton, same, or_comm]

def Text.Problem.unused (problem : Problem α) : List Label :=
  problem.guessed.filter fun label => label ∉ problem.declared.map Prod.fst

def checkUnused (problem : Problem α) : Except BuildError Unit :=
  if problem.unused = [] then .ok ()
  else .error (.unusedGuesses (problem.unused.mergeSort fun a b => decide (a ≤ b)))

variable {problem : Problem α}

theorem mem_unused {label : Label} : label ∈ problem.unused ↔
    label ∈ problem.guessed ∧ label ∉ problem.declared.map Prod.fst := by
  rw [Problem.unused, List.mem_filter, decide_eq_true_eq]

theorem checkUnused_eq_ok_iff :
    checkUnused problem = .ok () ↔
      ∀ label ∈ problem.guessed, label ∈ problem.declared.map Prod.fst := by
  have empty : checkUnused problem = .ok () ↔ problem.unused = [] := by
    unfold checkUnused
    split <;> simp only [*, reduceCtorEq]
  rw [empty, List.eq_nil_iff_forall_not_mem]
  constructor
  · intro none label guessed
    by_contra undeclared
    exact none label (mem_unused.mpr ⟨guessed, undeclared⟩)
  · intro all label unused
    obtain ⟨guessed, undeclared⟩ := mem_unused.mp unused
    exact undeclared (all label guessed)

/-- Two ascending lists with the same members are equal. -/
theorem eq_of_ascending {labels others : List Label} (ascending : labels.Pairwise (· < ·))
    (othersAscending : others.Pairwise (· < ·)) (same : ∀ label, label ∈ labels ↔ label ∈ others) :
    labels = others := by
  have permuted : labels.Perm others :=
    (List.perm_ext_iff_of_nodup ascending.nodup othersAscending.nodup).mpr same
  exact permuted.eq_of_pairwise (fun _ _ _ _ less more => absurd (less.trans more) (lt_irrefl _))
    ascending othersAscending

theorem ascending_mergeSort {labels : List Label} (distinct : labels.Nodup) :
    (labels.mergeSort fun a b => decide (a ≤ b)).Pairwise (· < ·) := by
  have sorted : (labels.mergeSort fun a b => decide (a ≤ b)).Pairwise
      fun a b => decide (a ≤ b) = true := by
    apply List.pairwise_mergeSort
    · intro a b c first second
      rw [decide_eq_true_eq] at *
      exact first.trans second
    · intro a b
      rw [Bool.or_eq_true, decide_eq_true_eq, decide_eq_true_eq]
      exact le_total a b
  have different : (labels.mergeSort fun a b => decide (a ≤ b)).Nodup :=
    (List.mergeSort_perm labels _).nodup_iff.mpr distinct
  apply (sorted.and different).imp
  rintro a b ⟨below, apart⟩
  exact lt_of_le_of_ne (of_decide_eq_true below) apart

/-- The unused guesses that an error names are all of them, in ascending order. -/
theorem checkUnused_eq_error_iff (guessedOnce : problem.guessed.Nodup) {error : BuildError} :
    checkUnused problem = .error error ↔ ∃ labels, error = .unusedGuesses labels ∧ labels ≠ [] ∧
      labels.Pairwise (· < ·) ∧ ∀ label, label ∈ labels ↔
        label ∈ problem.guessed ∧ label ∉ problem.declared.map Prod.fst := by
  have ascending : (problem.unused.mergeSort fun a b => decide (a ≤ b)).Pairwise (· < ·) :=
    ascending_mergeSort (guessedOnce.filter _)
  constructor
  · intro failed
    unfold checkUnused at failed
    split at failed
    · cases failed
    · rename_i some
      refine ⟨_, (Except.error.inj failed).symm, ?_, ascending, ?_⟩
      · obtain ⟨label, unused⟩ := List.exists_mem_of_ne_nil _ some
        exact List.ne_nil_of_mem (List.mem_mergeSort.mpr unused)
      · intro label
        rw [List.mem_mergeSort, mem_unused]
  · rintro ⟨labels, same, nonempty, otherAscending, members⟩
    have equal : problem.unused.mergeSort (fun a b => decide (a ≤ b)) = labels := by
      apply eq_of_ascending ascending otherAscending
      intro label
      rw [List.mem_mergeSort, mem_unused, members]
    have some : problem.unused ≠ [] := by
      intro none
      rw [none, List.mergeSort_nil] at equal
      exact nonempty equal.symm
    rw [checkUnused, if_neg some, equal, same]

end Guesses

section Declarations

variable {problem : Problem α}

def checkDeclaration (problem : Problem α) (before : List (Label × EntityKind))
    (entry : Label × EntityKind) : Except BuildError Unit :=
  if entry.1 ∈ before.map Prod.fst then .error (.duplicateDeclaration entry.1)
  else if entry.1 ∈ problem.guessedAs entry.2 then .ok ()
  else .error (Drawing.guessError (problem.guessedAs entry.2.other) entry.1 entry.2)

theorem checkDeclaration_eq_ok_iff {before : List (Label × EntityKind)} {entry : Label × EntityKind} :
    checkDeclaration problem before entry = .ok () ↔
      entry.1 ∉ before.map Prod.fst ∧ entry.1 ∈ problem.guessedAs entry.2 := by
  unfold checkDeclaration
  split
  · simp only [reduceCtorEq, *, not_true_eq_false, false_and]
  · split <;> simp only [reduceCtorEq, *, not_false_eq_true, and_true, and_false]

theorem checkDeclaration_eq_error_iff {before : List (Label × EntityKind)}
    {entry : Label × EntityKind} {error : BuildError} :
    checkDeclaration problem before entry = .error error ↔
      BadDeclaration problem before entry error := by
  obtain ⟨label, kind⟩ := entry
  constructor
  · intro failed
    unfold checkDeclaration at failed
    split at failed
    · rename_i again
      cases failed
      exact .repeated again
    · rename_i fresh
      split at failed
      · cases failed
      · rename_i unguessed
        unfold Drawing.guessError at failed
        split at failed
        · rename_i other
          cases failed
          exact .wrongKind fresh unguessed other
        · rename_i noOther
          cases failed
          exact .missingGuess fresh unguessed noOther
  · intro bad
    cases bad with
    | repeated again => exact if_pos again
    | wrongKind fresh unguessed other =>
        rw [checkDeclaration, if_neg fresh, if_neg unguessed, Drawing.guessError, if_pos other]
    | missingGuess fresh unguessed noOther =>
        rw [checkDeclaration, if_neg fresh, if_neg unguessed, Drawing.guessError, if_neg noOther]

theorem declarable_append_singleton (before : List (Label × EntityKind))
    (entry : Label × EntityKind) : Declarable problem (before ++ [entry]) ↔
      Declarable problem before ∧ checkDeclaration problem before entry = .ok () := by
  rw [checkDeclaration_eq_ok_iff]
  constructor
  · rintro ⟨distinct, guessed⟩
    rw [List.map_append, List.map_singleton, List.nodup_append_comm, List.singleton_append,
      List.nodup_cons] at distinct
    obtain ⟨earlier, here⟩ := List.forall_mem_append.mp guessed
    exact ⟨⟨distinct.2, earlier⟩, distinct.1, here entry List.mem_cons_self⟩
  · rintro ⟨⟨distinct, guessed⟩, fresh, here⟩
    constructor
    · rw [List.map_append, List.map_singleton, List.nodup_append_comm, List.singleton_append]
      exact List.nodup_cons.mpr ⟨fresh, distinct⟩
    · exact List.forall_mem_append.mpr ⟨guessed, List.forall_mem_singleton.mpr here⟩

theorem checkAll_checkDeclaration_eq_ok_iff {declared : List (Label × EntityKind)} :
    checkAll (checkDeclaration problem) [] declared = .ok () ↔ Declarable problem declared :=
  checkAll_eq_ok_iff declarable_append_singleton ⟨List.nodup_nil, List.forall_mem_nil _⟩

namespace Drawing

variable {drawing next : Drawing α} {label : Label}

theorem map_fst_kinds : drawing.kinds.map Prod.fst = drawing.entities.map Prod.fst := by
  rw [kinds, List.map_map]
  rfl

theorem isSome_entity?_iff : (drawing.entity? label).isSome ↔ label ∈ drawing.kinds.map Prod.fst := by
  rw [map_fst_kinds]
  exact isSome_lookup_iff_mem

theorem forget_declarePoint : forget (drawing.declarePoint problem label) =
    checkDeclaration problem drawing.kinds (label, .point) := by
  rw [declarePoint, checkDeclaration]
  simp only [isSome_entity?_iff]
  split
  · rfl
  · cases found : problem.pointGuesses.lookup label with
    | none =>
        have unguessed : label ∉ problem.guessedAs .point := lookup_eq_none_iff_not_mem.mp found
        rw [if_neg unguessed]
        rfl
    | some place =>
        have guessed : label ∈ problem.guessedAs .point :=
          List.mem_map.mpr ⟨_, mem_of_lookup found, rfl⟩
        rw [if_pos guessed]
        rfl

theorem forget_declareScalar : forget (drawing.declareScalar problem label) =
    checkDeclaration problem drawing.kinds (label, .scalar) := by
  rw [declareScalar, checkDeclaration]
  simp only [isSome_entity?_iff]
  split
  · rfl
  · cases found : problem.scalarGuesses.lookup label with
    | none =>
        have unguessed : label ∉ problem.guessedAs .scalar := lookup_eq_none_iff_not_mem.mp found
        rw [if_neg unguessed]
        rfl
    | some value =>
        have guessed : label ∈ problem.guessedAs .scalar :=
          List.mem_map.mpr ⟨_, mem_of_lookup found, rfl⟩
        rw [if_pos guessed]
        rfl

theorem kinds_declarePoint (declares : drawing.declarePoint problem label = .ok next) :
    next.kinds = drawing.kinds ++ [(label, .point)] := by
  obtain ⟨_, _, entities⟩ := declarePoint_ok declares
  rw [kinds, entities, List.map_append]
  rfl

theorem kinds_declareScalar (declares : drawing.declareScalar problem label = .ok next) :
    next.kinds = drawing.kinds ++ [(label, .scalar)] := by
  obtain ⟨_, _, entities⟩ := declareScalar_ok declares
  rw [kinds, entities, List.map_append]
  rfl

/-- To declare the labels is to check the declarations. -/
theorem forget_declareAll (instructions : List (Instruction α)) :
    forget (declareAll problem drawing instructions) =
      checkAll (checkDeclaration problem) drawing.kinds
        (instructions.filterMap Instruction.declared?) := by
  induction instructions generalizing drawing with
  | nil => rfl
  | cons instruction rest ih =>
      rw [List.filterMap_cons]
      cases instruction with
      | declarePoint label =>
          apply forget_bind forget_declarePoint
          intro next declares
          rw [ih, kinds_declarePoint declares]
      | declareScalar label =>
          apply forget_bind forget_declareScalar
          intro next declares
          rw [ih, kinds_declareScalar declares]
      | _ => exact ih

end Drawing

end Declarations

section Uses

/-- Check the use of a label. What is used before makes no difference. -/
def checkUse (declared : List (Label × EntityKind)) (_ : List (Label × EntityKind))
    (use : Label × EntityKind) : Except BuildError Unit :=
  if use ∈ declared then .ok ()
  else if use.1 ∈ declared.map Prod.fst then .error (.wrongKind use.1 use.2)
  else .error (.undefined use.1)

variable {problem : Problem α} {declared before uses : List (Label × EntityKind)}

theorem checkUse_eq_ok_iff {use : Label × EntityKind} :
    checkUse declared before use = .ok () ↔ use ∈ declared := by
  unfold checkUse
  split
  · simp only [*]
  · split <;> simp only [reduceCtorEq, *]

theorem checkAll_checkUse_eq_ok_iff :
    checkAll (checkUse declared) [] uses = .ok () ↔ ∀ use ∈ uses, use ∈ declared := by
  have step (before : List (Label × EntityKind)) (use : Label × EntityKind) :
      (∀ other ∈ before ++ [use], other ∈ declared) ↔
        (∀ other ∈ before, other ∈ declared) ∧ checkUse declared before use = .ok () := by
    rw [checkUse_eq_ok_iff, List.forall_mem_append, List.forall_mem_singleton]
  exact @checkAll_eq_ok_iff _ _ _ _ _ (fun uses => ∀ use ∈ uses, use ∈ declared) step
    (List.forall_mem_nil _)

theorem mem_other_iff {label : Label} {kind : EntityKind} (absent : (label, kind) ∉ declared) :
    (label, kind.other) ∈ declared ↔ label ∈ declared.map Prod.fst := by
  constructor
  · exact fun member => List.mem_map.mpr ⟨_, member, rfl⟩
  · intro listed
    obtain ⟨⟨same, known⟩, member, rfl⟩ := List.mem_map.mp listed
    cases kind <;> cases known
    all_goals first | exact member | exact absurd member absent

theorem checkUse_eq_error_iff (distinct : (problem.declared.map Prod.fst).Nodup)
    {use : Label × EntityKind} {error : BuildError} :
    checkUse problem.declared before use = .error error ↔ BadUse problem use error := by
  obtain ⟨label, kind⟩ := use
  constructor
  · intro failed
    unfold checkUse at failed
    split at failed
    · cases failed
    · rename_i absent
      split at failed
      · rename_i listed
        cases failed
        exact .wrongKind ((mem_other_iff absent).mpr listed)
      · rename_i unlisted
        cases failed
        exact .undefined unlisted
  · intro bad
    cases bad with
    | undefined unlisted =>
        have absent : (label, kind) ∉ problem.declared :=
          fun member => unlisted (List.mem_map.mpr ⟨_, member, rfl⟩)
        rw [checkUse, if_neg absent, if_neg unlisted]
    | wrongKind other =>
        have absent : (label, kind) ∉ problem.declared := by
          intro member
          have same := List.inj_on_of_nodup_map distinct member other rfl
          cases kind <;> cases same
        rw [checkUse, if_neg absent, if_pos ((mem_other_iff absent).mp other)]

namespace Drawing

variable {drawing : Drawing α}

theorem mem_kinds_iff (distinct : (drawing.entities.map Prod.fst).Nodup) {label : Label}
    {kind : EntityKind} {entity : Entity} (found : drawing.entity? label = some entity) :
    (label, kind) ∈ drawing.kinds ↔ entity.kind = kind := by
  have member := mem_of_entity? found
  rw [kinds, List.mem_map]
  constructor
  · rintro ⟨⟨other, another⟩, listed, same⟩
    cases same
    cases List.inj_on_of_nodup_map distinct member listed rfl
    rfl
  · intro same
    exact ⟨_, member, congrArg (label, ·) same⟩

theorem not_mem_kinds {label : Label} {kind : EntityKind} (absent : drawing.entity? label = none) :
    (label, kind) ∉ drawing.kinds := by
  intro member
  have listed := isSome_entity?_iff.mpr (List.mem_map.mpr ⟨_, member, rfl⟩)
  rw [absent] at listed
  cases listed

theorem forget_point (distinct : (drawing.entities.map Prod.fst).Nodup) (label : Label) :
    forget (drawing.point label) = checkUse drawing.kinds before (label, .point) := by
  rw [point, checkUse]
  simp only [← isSome_entity?_iff]
  cases found : drawing.entity? label with
  | none =>
      rw [if_neg (not_mem_kinds found)]
      rfl
  | some entity =>
      simp only [mem_kinds_iff distinct found]
      cases entity <;> rfl

theorem forget_scalar (distinct : (drawing.entities.map Prod.fst).Nodup) (label : Label) :
    forget (drawing.scalar label) = checkUse drawing.kinds before (label, .scalar) := by
  rw [scalar, checkUse]
  simp only [← isSome_entity?_iff]
  cases found : drawing.entity? label with
  | none =>
      rw [if_neg (not_mem_kinds found)]
      rfl
  | some entity =>
      simp only [mem_kinds_iff distinct found]
      cases entity <;> rfl

theorem forget_segment (distinct : (drawing.entities.map Prod.fst).Nodup) (ends : Ends) :
    forget (drawing.segment ends) = checkAll (checkUse drawing.kinds) before ends.uses := by
  apply forget_bind (forget_point distinct ends.start)
  intro start _
  apply forget_bind (forget_point distinct ends.finish)
  intro finish _
  rfl

/-- To state an instruction is to check the labels that it uses. -/
theorem forget_constraint? (distinct : (drawing.entities.map Prod.fst).Nodup)
    (instruction : Instruction α) :
    forget (drawing.constraint? instruction) =
      checkAll (checkUse drawing.kinds) before instruction.uses := by
  cases instruction with
  | declarePoint label | declareScalar label => rfl
  | fixCoordinate label axis value =>
      apply forget_bind (forget_point distinct label)
      intro p _
      rfl
  | fixScalar label value =>
      apply forget_bind (forget_scalar distinct label)
      intro id _
      rfl
  | vertical ends | horizontal ends | distance ends value =>
      rw [Instruction.uses, ← List.append_nil ends.uses, checkAll_append]
      apply forget_bind (forget_segment distinct ends)
      intro s _
      rfl
  | distanceScalar ends label =>
      rw [Instruction.uses, checkAll_append]
      apply forget_bind (forget_segment distinct ends)
      intro s _
      apply forget_bind (forget_scalar distinct label)
      intro length _
      rfl
  | congruent first second | parallel first second | perpendicular first second =>
      rw [Instruction.uses, ← List.append_nil second.uses, checkAll_append, checkAll_append]
      apply forget_bind (forget_segment distinct first)
      intro s _
      apply forget_bind (forget_segment distinct second)
      intro t _
      rfl

theorem forget_stateAll (distinct : (drawing.entities.map Prod.fst).Nodup)
    (instructions : List (Instruction α)) :
    forget (drawing.stateAll instructions) =
      checkAll (checkUse drawing.kinds) before (instructions.flatMap Instruction.uses) := by
  induction instructions generalizing before with
  | nil => rfl
  | cons instruction rest ih =>
      rw [List.flatMap_cons, checkAll_append, ← List.append_nil (rest.flatMap _)]
      apply forget_bind (forget_constraint? distinct instruction)
      intro constraint _
      rw [checkAll_append]
      apply forget_bind ih
      intro later _
      rfl

end Drawing

end Uses

section Features

namespace Drawing

/-- The constraint of an instruction, built as for a selection of its points or segments. Scalars cannot
be selected, so what needs one is stated on its own. -/
def built? (drawing : Drawing α) : Instruction α →
    Except BuildError (Except (FeatureError α) (Option (Constraint UnknownId α)))
  | .declarePoint _ | .declareScalar _ => return .ok none
  | .fixCoordinate label axis value => do
      let p ← drawing.point label
      let kind : Kind α := match axis with
        | .x => .fixedX value
        | .y => .fixedY value
      return (kind.build [.point p]).map some
  | .fixScalar label value => do
      let id ← drawing.scalar label
      return .ok (some (.fixed id value))
  | .vertical ends => do
      let s ← drawing.segment ends
      return (Kind.vertical.build [.point s.start, .point s.finish]).map some
  | .horizontal ends => do
      let s ← drawing.segment ends
      return (Kind.horizontal.build [.point s.start, .point s.finish]).map some
  | .distance ends value => do
      let s ← drawing.segment ends
      return ((Kind.fixedDistance value).build [.point s.start, .point s.finish]).map some
  | .distanceScalar ends label => do
      let s ← drawing.segment ends
      let length ← drawing.scalar label
      return .ok (some (.distance s.start s.finish length))
  | .congruent first second => do
      let s ← drawing.segment first
      let t ← drawing.segment second
      return (Kind.congruent.build [.segment s, .segment t]).map some
  | .parallel first second => do
      let s ← drawing.segment first
      let t ← drawing.segment second
      return (Kind.parallel.build [.segment s, .segment t]).map some
  | .perpendicular first second => do
      let s ← drawing.segment first
      let t ← drawing.segment second
      return (Kind.perpendicular.build [.segment s, .segment t]).map some

theorem map_bind_of {ε β γ δ : Type} {first : Except ε β} {next : β → Except ε γ}
    {other : β → Except ε δ} {f : γ → δ} (same : ∀ b, other b = (next b).map f) :
    (first >>= other) = (first >>= next).map f := by
  cases first with
  | error error => rfl
  | ok b => exact same b

/-- No kind is ever refused for the features that an instruction gives it. -/
theorem built?_eq (drawing : Drawing α) (instruction : Instruction α) :
    drawing.built? instruction = (drawing.constraint? instruction).map .ok := by
  cases instruction with
  | declarePoint label | declareScalar label => rfl
  | fixCoordinate label axis value =>
      cases axis <;> exact map_bind_of fun p => rfl
  | fixScalar label value => exact map_bind_of fun id => rfl
  | vertical ends | horizontal ends | distance ends value => exact map_bind_of fun s => rfl
  | distanceScalar | congruent | parallel | perpendicular =>
      exact map_bind_of fun s => map_bind_of fun other => rfl

end Drawing

end Features

section Result

variable {problem : Problem α}

/-- To make a drawing is to pass four checks in order. -/
theorem forget_ofProblem :
    forget (Drawing.ofProblem problem) =
      (checkAll checkGuess [] problem.guessed >>= fun _ =>
        checkAll (checkDeclaration problem) [] problem.declared >>= fun _ =>
          checkUnused problem >>= fun _ =>
            checkAll (checkUse problem.declared) [] problem.uses) := by
  have listed : problem.guessed =
      problem.pointGuesses.map Prod.fst ++ problem.scalarGuesses.map Prod.fst := rfl
  rw [checkAll_checkGuess problem.guessed fun _ => Iff.rfl, listed, Drawing.ofProblem]
  cases firstRepeated? [] (problem.pointGuesses.map Prod.fst ++
      problem.scalarGuesses.map Prod.fst) with
  | some label => rfl
  | none =>
      apply forget_bind (Drawing.forget_declareAll problem.instructions)
      intro drawing declares
      -- The last two checks look into the drawing, which knows just the declared labels by now.
      obtain ⟨formed, kinds⟩ := Drawing.declareAll_ok Drawing.wellFormed_empty declares
      have declared : drawing.kinds = problem.declared := kinds
      have unused : ((problem.pointGuesses.map Prod.fst ++ problem.scalarGuesses.map Prod.fst).filter
          fun label => (drawing.entity? label).isNone) = problem.unused := by
        apply List.filter_congr
        intro label _
        rw [Bool.eq_iff_iff, decide_eq_true_eq, Option.isNone_iff_eq_none,
          ← Option.not_isSome_iff_eq_none, Drawing.isSome_entity?_iff, declared]
      rw [unused, checkUnused]
      by_cases all : problem.unused = []
      · rw [if_neg (not_not.mpr all), if_pos all]
        have stated : forget (drawing.stateAll problem.instructions) =
            checkAll (checkUse drawing.kinds) [] problem.uses :=
          Drawing.forget_stateAll formed.distinct problem.instructions
        rw [declared] at stated
        exact (forget_bind_ok _).trans stated
      · rw [if_pos all, if_neg all]
        rfl

/-- A problem makes a drawing just if it meets the conditions. -/
theorem exists_ofProblem_iff :
    (∃ drawing, Drawing.ofProblem problem = .ok drawing) ↔ Buildable problem := by
  rw [← forget_eq_ok_iff, forget_ofProblem]
  constructor
  · intro passed
    obtain ⟨_, guesses, rest⟩ := bind_eq_ok_iff.mp passed
    obtain ⟨_, declarations, rest⟩ := bind_eq_ok_iff.mp rest
    obtain ⟨_, unused, uses⟩ := bind_eq_ok_iff.mp rest
    exact ⟨checkAll_checkGuess_eq_ok_iff.mp guesses,
      checkAll_checkDeclaration_eq_ok_iff.mp declarations, checkUnused_eq_ok_iff.mp unused,
      checkAll_checkUse_eq_ok_iff.mp uses⟩
  · rintro ⟨guessedOnce, declarable, noneUnused, usesDeclared⟩
    rw [checkAll_checkGuess_eq_ok_iff.mpr guessedOnce,
      checkAll_checkDeclaration_eq_ok_iff.mpr declarable, checkUnused_eq_ok_iff.mpr noneUnused]
    exact checkAll_checkUse_eq_ok_iff.mpr usesDeclared

/-- The error of a problem is the first thing that is wrong with it. -/
theorem ofProblem_eq_error_iff {error : BuildError} :
    Drawing.ofProblem problem = .error error ↔ FirstError problem error := by
  rw [← forget_eq_error_iff, forget_ofProblem]
  constructor
  · intro failed
    rcases bind_eq_error_iff.mp failed with failed | ⟨_, guesses, failed⟩
    · obtain ⟨before, label, after, split, distinct, wrong⟩ := checkAll_eq_error_iff.mp failed
      obtain ⟨again, same⟩ := checkGuess_eq_error_iff.mp wrong
      rw [same]
      exact .duplicateGuess split (checkAll_checkGuess_eq_ok_iff.mp distinct) again
    have guessedOnce := checkAll_checkGuess_eq_ok_iff.mp guesses
    rcases bind_eq_error_iff.mp failed with failed | ⟨_, declarations, failed⟩
    · obtain ⟨before, entry, after, split, earlier, wrong⟩ := checkAll_eq_error_iff.mp failed
      exact .declaration guessedOnce split (checkAll_checkDeclaration_eq_ok_iff.mp earlier)
        (checkDeclaration_eq_error_iff.mp wrong)
    have declarable := checkAll_checkDeclaration_eq_ok_iff.mp declarations
    rcases bind_eq_error_iff.mp failed with failed | ⟨_, unused, failed⟩
    · obtain ⟨labels, same, nonempty, ascending, members⟩ :=
        (checkUnused_eq_error_iff guessedOnce).mp failed
      rw [same]
      exact .unusedGuesses guessedOnce declarable nonempty ascending members
    · obtain ⟨before, entry, after, split, earlier, wrong⟩ := checkAll_eq_error_iff.mp failed
      exact .use guessedOnce declarable (checkUnused_eq_ok_iff.mp unused) split
        (checkAll_checkUse_eq_ok_iff.mp earlier) ((checkUse_eq_error_iff declarable.distinct).mp wrong)
  · intro first
    cases first with
    | duplicateGuess split distinct again =>
        apply bind_eq_error_iff.mpr (Or.inl _)
        exact checkAll_eq_error_iff.mpr ⟨_, _, _, split,
          checkAll_checkGuess_eq_ok_iff.mpr distinct, checkGuess_eq_error_iff.mpr ⟨again, rfl⟩⟩
    | declaration guessedOnce split earlier bad =>
        rw [checkAll_checkGuess_eq_ok_iff.mpr guessedOnce, passed_bind]
        apply bind_eq_error_iff.mpr (Or.inl _)
        exact checkAll_eq_error_iff.mpr ⟨_, _, _, split,
          checkAll_checkDeclaration_eq_ok_iff.mpr earlier, checkDeclaration_eq_error_iff.mpr bad⟩
    | unusedGuesses guessedOnce declarable nonempty ascending unused =>
        rw [checkAll_checkGuess_eq_ok_iff.mpr guessedOnce, passed_bind,
          checkAll_checkDeclaration_eq_ok_iff.mpr declarable, passed_bind]
        apply bind_eq_error_iff.mpr (Or.inl _)
        exact (checkUnused_eq_error_iff guessedOnce).mpr ⟨_, rfl, nonempty, ascending, unused⟩
    | use guessedOnce declarable noneUnused split earlier bad =>
        rw [checkAll_checkGuess_eq_ok_iff.mpr guessedOnce,
          checkAll_checkDeclaration_eq_ok_iff.mpr declarable, checkUnused_eq_ok_iff.mpr noneUnused]
        exact checkAll_eq_error_iff.mpr ⟨_, _, _, split, checkAll_checkUse_eq_ok_iff.mpr earlier,
          (checkUse_eq_error_iff declarable.distinct).mpr bad⟩

end Result

/-- A problem makes a drawing just if it meets the conditions, and otherwise its error is the first
thing that is wrong with it. To build constraints for the features of an instruction never fails. -/
theorem problems_build_or_first_error (problem : Problem α) :
    ((∃ drawing, Drawing.ofProblem problem = .ok drawing) ↔ Buildable problem) ∧
    (∀ error, Drawing.ofProblem problem = .error error ↔ FirstError problem error) ∧
    ∀ (drawing : Drawing α) (instruction : Instruction α),
      drawing.built? instruction = (drawing.constraint? instruction).map .ok :=
  ⟨exists_ofProblem_iff, fun _ => ofProblem_eq_error_iff, Drawing.built?_eq⟩

end Drafting
