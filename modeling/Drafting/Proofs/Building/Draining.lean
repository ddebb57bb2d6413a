import Std.Data.HashMap.Lemmas
import Drafting.Proofs.Rearrangement

/-!
# Guesses that are used up

To make a drawing, the guesses can also be put into two maps, from which each declaration takes its
own. A guess is unused if it is left over at the end. This comes to the same as looking all guesses up
in whole lists: at every moment the maps hold the guesses of the labels that are not declared yet.
-/

namespace Drafting

open Text (Label Instruction Problem)

variable {α : Type}

structure GuessMaps (α : Type) where
  points : Std.HashMap Label (Point α)
  scalars : Std.HashMap Label α

namespace GuessMaps

section Definitions

/-- Put guesses into a map. A label may be neither in this map nor taken elsewhere. -/
def enter {β : Type} (taken : Label → Bool) (map : Std.HashMap Label β) :
    List (Label × β) → Except BuildError (Std.HashMap Label β)
  | [] => .ok map
  | (label, guess) :: rest =>
      if map.contains label || taken label then .error (.duplicateGuess label)
      else enter taken (map.insert label guess) rest

def ofProblem (problem : Problem α) : Except BuildError (GuessMaps α) := do
  let points ← enter (fun _ => false) ∅ problem.pointGuesses
  let scalars ← enter points.contains ∅ problem.scalarGuesses
  return ⟨points, scalars⟩

def guessError {β : Type} (others : Std.HashMap Label β) (label : Label) (expected : EntityKind) :
    BuildError :=
  if others.contains label then .wrongKind label expected else .missingGuess label

def declarePoint (maps : GuessMaps α) (drawing : Drawing α) (label : Label) :
    Except BuildError (GuessMaps α × Drawing α) :=
  if (drawing.entity? label).isSome then .error (.duplicateDeclaration label)
  else
    match maps.points[label]? with
    | none => .error (guessError maps.scalars label .point)
    | some place =>
        let (p, arena) := drawing.arena.pushPoint place (some label)
        .ok ({ maps with points := maps.points.erase label },
          { drawing with arena := arena, entities := drawing.entities ++ [(label, .point p)] })

def declareScalar (maps : GuessMaps α) (drawing : Drawing α) (label : Label) :
    Except BuildError (GuessMaps α × Drawing α) :=
  if (drawing.entity? label).isSome then .error (.duplicateDeclaration label)
  else
    match maps.scalars[label]? with
    | none => .error (guessError maps.points label .scalar)
    | some value =>
        let (id, arena) := drawing.arena.push value (some label)
        .ok ({ maps with scalars := maps.scalars.erase label },
          { drawing with arena := arena, entities := drawing.entities ++ [(label, .scalar id)] })

def declareAll (maps : GuessMaps α) (drawing : Drawing α) :
    List (Instruction α) → Except BuildError (GuessMaps α × Drawing α)
  | [] => .ok (maps, drawing)
  | .declarePoint label :: rest => do
      let (maps, drawing) ← maps.declarePoint drawing label
      declareAll maps drawing rest
  | .declareScalar label :: rest => do
      let (maps, drawing) ← maps.declareScalar drawing label
      declareAll maps drawing rest
  | _ :: rest => declareAll maps drawing rest

def labels (maps : GuessMaps α) : List Label := maps.points.keys ++ maps.scalars.keys

def drawing (problem : Problem α) : Except BuildError (Drawing α) := do
  let maps ← ofProblem problem
  let (maps, drawing) ← maps.declareAll .empty problem.instructions
  if maps.points.isEmpty = false ∨ maps.scalars.isEmpty = false then
    throw (.unusedGuesses (maps.labels.mergeSort fun a b => decide (a ≤ b)))
  let constraints ← drawing.stateAll problem.instructions
  return { drawing with constraints := constraints }

end Definitions

section Entering

variable {β : Type} {taken : Label → Bool} {map entered : Std.HashMap Label β} {before : List Label}
  {guesses : List (Label × β)}

/-- To put guesses into a map is to check that each of them is the first one for its label. -/
theorem forget_enter (knows : ∀ label, (map.contains label || taken label) = true ↔ label ∈ before) :
    forget (enter taken map guesses) = checkAll checkGuess before (guesses.map Prod.fst) := by
  induction guesses generalizing map before with
  | nil => rfl
  | cons entry rest ih =>
      obtain ⟨label, guess⟩ := entry
      rw [enter, List.map_cons, checkAll, checkGuess]
      by_cases again : label ∈ before
      · rw [if_pos again, if_pos ((knows label).mpr again)]
        rfl
      · rw [if_neg again, if_neg (mt (knows label).mp again)]
        refine ih fun other => ?_
        rw [Std.HashMap.contains_insert, Bool.or_assoc, Bool.or_eq_true, knows other, beq_iff_eq,
          List.mem_append, List.mem_singleton, or_comm, eq_comm]

theorem getElem?_of_enter (enters : enter taken map guesses = .ok entered) (label : Label) :
    entered[label]? = map[label]?.or (guesses.lookup label) := by
  induction guesses generalizing map with
  | nil =>
      cases enters
      rw [List.lookup_nil, Option.or_none]
  | cons entry rest ih =>
      obtain ⟨first, guess⟩ := entry
      unfold enter at enters
      split at enters
      · cases enters
      · rename_i fresh
        rw [ih enters, Std.HashMap.getElem?_insert, List.lookup_cons]
        by_cases same : first = label
        · subst same
          rw [Bool.or_eq_true, not_or, Std.HashMap.contains_eq_isSome_getElem?] at fresh
          rw [Option.not_isSome_iff_eq_none.mp fresh.1, if_pos BEq.rfl, beq_self_eq_true]
          rfl
        · have differs : (first == label) = false := beq_eq_false_iff_ne.mpr same
          have otherwise : (label == first) = false := beq_eq_false_iff_ne.mpr (Ne.symm same)
          rw [differs, otherwise, if_neg Bool.false_ne_true]

end Entering

/-- What is left in the maps are the guesses of the labels that are not declared. -/
structure Undeclared (problem : Problem α) (drawing : Drawing α) (maps : GuessMaps α) : Prop where
  points_eq : ∀ label, maps.points[label]? =
    if (drawing.entity? label).isSome then none else problem.pointGuesses.lookup label
  scalars_eq : ∀ label, maps.scalars[label]? =
    if (drawing.entity? label).isSome then none else problem.scalarGuesses.lookup label

section Start

variable {problem : Problem α} {maps : GuessMaps α}

theorem forget_ofProblem :
    forget (ofProblem problem) = checkAll checkGuess [] problem.guessed := by
  have none (label : Label) :
      ((∅ : Std.HashMap Label (Point α)).contains label || false) = true ↔ label ∈ [] := by simp
  have split : problem.guessed =
      problem.pointGuesses.map Prod.fst ++ problem.scalarGuesses.map Prod.fst := rfl
  rw [split, checkAll_append]
  apply forget_bind (forget_enter none)
  intro points enters
  have knows (label : Label) : ((∅ : Std.HashMap Label α).contains label || points.contains label) =
      true ↔ label ∈ [] ++ problem.pointGuesses.map Prod.fst := by
    rw [Std.HashMap.contains_empty, Bool.false_or, Std.HashMap.contains_eq_isSome_getElem?,
      getElem?_of_enter enters, Std.HashMap.getElem?_empty, Option.none_or, List.nil_append]
    exact isSome_lookup_iff_mem
  rw [← forget_enter knows]
  exact forget_bind_ok _

theorem undeclared_ofProblem (made : ofProblem problem = .ok maps) :
    maps.Undeclared problem .empty := by
  obtain ⟨points, enters, rest⟩ := bind_eq_ok_iff.mp made
  obtain ⟨scalars, entersToo, same⟩ := bind_eq_ok_iff.mp rest
  cases same
  constructor
  · intro label
    rw [getElem?_of_enter enters, Std.HashMap.getElem?_empty, Option.none_or]
    rfl
  · intro label
    rw [getElem?_of_enter entersToo, Std.HashMap.getElem?_empty, Option.none_or]
    rfl

end Start

section Steps

variable {problem : Problem α} {drawing next : Drawing α} {maps : GuessMaps α} {label : Label}

theorem guessError_eq {β : Type} {others : Std.HashMap Label β} {guesses : List (Label × β)}
    (same : others[label]? = guesses.lookup label) (expected : EntityKind) :
    guessError others label expected = Drawing.guessError (guesses.map Prod.fst) label expected := by
  have guessed : others.contains label = true ↔ label ∈ guesses.map Prod.fst := by
    rw [Std.HashMap.contains_eq_isSome_getElem?, same]
    exact isSome_lookup_iff_mem
  rw [guessError, Drawing.guessError]
  simp only [guessed]

theorem isSome_entity?_declare {entity : Entity}
    (entities : next.entities = drawing.entities ++ [(label, entity)]) (other : Label) :
    (next.entity? other).isSome = ((drawing.entity? other).isSome || other == label) := by
  rw [Drawing.entity?, Drawing.entity?, entities, List.lookup_append, Option.isSome_or,
    List.lookup_cons, List.lookup_nil]
  cases other == label <;> rfl

theorem Undeclared.declarePoint_eq (undeclared : maps.Undeclared problem drawing) :
    maps.declarePoint drawing label = (drawing.declarePoint problem label).map
      fun next => ({ maps with points := maps.points.erase label }, next) := by
  rw [declarePoint, Drawing.declarePoint]
  split
  · rfl
  · rename_i fresh
    have point := undeclared.points_eq label
    have scalar := undeclared.scalars_eq label
    rw [if_neg fresh] at point scalar
    rw [point, guessError_eq scalar]
    cases problem.pointGuesses.lookup label <;> rfl

theorem Undeclared.declareScalar_eq (undeclared : maps.Undeclared problem drawing) :
    maps.declareScalar drawing label = (drawing.declareScalar problem label).map
      fun next => ({ maps with scalars := maps.scalars.erase label }, next) := by
  rw [declareScalar, Drawing.declareScalar]
  split
  · rfl
  · rename_i fresh
    have point := undeclared.points_eq label
    have scalar := undeclared.scalars_eq label
    rw [if_neg fresh] at point scalar
    rw [scalar, guessError_eq point]
    cases problem.scalarGuesses.lookup label <;> rfl

/-- A map of which a label was taken has the guesses of the labels that are not declared still. -/
theorem getElem?_erase_declared {β : Type} {map : Std.HashMap Label β} {guesses : List (Label × β)}
    {entity : Entity} (entities : next.entities = drawing.entities ++ [(label, entity)])
    (left : ∀ other, map[other]? =
      if (drawing.entity? other).isSome then none else guesses.lookup other) (other : Label) :
    (map.erase label)[other]? = if (next.entity? other).isSome then none else guesses.lookup other := by
  rw [isSome_entity?_declare entities, Std.HashMap.getElem?_erase, left, Bool.beq_comm]
  cases other == label <;> cases (drawing.entity? other).isSome <;> rfl

/-- The map of the other kind has no guess of the label to lose. -/
theorem getElem?_declared {β : Type} {map : Std.HashMap Label β} {guesses : List (Label × β)}
    {entity : Entity} (entities : next.entities = drawing.entities ++ [(label, entity)])
    (left : ∀ other, map[other]? =
      if (drawing.entity? other).isSome then none else guesses.lookup other)
    (absent : guesses.lookup label = none) (other : Label) :
    map[other]? = if (next.entity? other).isSome then none else guesses.lookup other := by
  rw [isSome_entity?_declare entities, left]
  by_cases same : other = label
  · rw [same, absent, ite_self, ite_self]
  · have differs : (other == label) = false := beq_eq_false_iff_ne.mpr same
    rw [differs, Bool.or_false]

theorem guessed_of_declarePoint (declares : drawing.declarePoint problem label = .ok next) :
    label ∈ problem.guessedAs .point := by
  have passed : checkDeclaration problem drawing.kinds (label, .point) = .ok () := by
    rw [← Drawing.forget_declarePoint, forget_eq_ok_iff]
    exact ⟨next, declares⟩
  exact (checkDeclaration_eq_ok_iff.mp passed).2

theorem guessed_of_declareScalar (declares : drawing.declareScalar problem label = .ok next) :
    label ∈ problem.guessedAs .scalar := by
  have passed : checkDeclaration problem drawing.kinds (label, .scalar) = .ok () := by
    rw [← Drawing.forget_declareScalar, forget_eq_ok_iff]
    exact ⟨next, declares⟩
  exact (checkDeclaration_eq_ok_iff.mp passed).2

theorem Undeclared.declarePoint (undeclared : maps.Undeclared problem drawing)
    (distinct : problem.guessed.Nodup) (declares : drawing.declarePoint problem label = .ok next) :
    ({ maps with points := maps.points.erase label } : GuessMaps α).Undeclared problem next := by
  obtain ⟨_, _, entities⟩ := Drawing.declarePoint_ok declares
  have apart := (List.nodup_append.mp distinct).2.2 label (guessed_of_declarePoint declares)
  have absent : problem.scalarGuesses.lookup label = none :=
    lookup_eq_none_iff_not_mem.mpr fun guessed => apart label guessed rfl
  exact ⟨getElem?_erase_declared entities undeclared.points_eq,
    getElem?_declared entities undeclared.scalars_eq absent⟩

theorem Undeclared.declareScalar (undeclared : maps.Undeclared problem drawing)
    (distinct : problem.guessed.Nodup) (declares : drawing.declareScalar problem label = .ok next) :
    ({ maps with scalars := maps.scalars.erase label } : GuessMaps α).Undeclared problem next := by
  obtain ⟨_, _, entities⟩ := Drawing.declareScalar_ok declares
  have scalar := guessed_of_declareScalar declares
  have absent : problem.pointGuesses.lookup label = none :=
    lookup_eq_none_iff_not_mem.mpr fun guessed =>
      (List.nodup_append.mp distinct).2.2 label guessed label scalar rfl
  exact ⟨getElem?_declared entities undeclared.points_eq absent,
    getElem?_erase_declared entities undeclared.scalars_eq⟩

/-- A whole run of declarations ends in the same drawing, and its guesses are gone from the maps. -/
theorem Undeclared.declareAll (undeclared : maps.Undeclared problem drawing)
    (distinct : problem.guessed.Nodup) (instructions : List (Instruction α)) :
    (∃ error, maps.declareAll drawing instructions = .error error ∧
      Drawing.declareAll problem drawing instructions = .error error) ∨
    ∃ left next, maps.declareAll drawing instructions = .ok (left, next) ∧
      Drawing.declareAll problem drawing instructions = .ok next ∧ left.Undeclared problem next := by
  induction instructions generalizing maps drawing with
  | nil => exact Or.inr ⟨maps, drawing, rfl, rfl, undeclared⟩
  | cons instruction rest ih =>
      cases instruction with
      | declarePoint label =>
          rw [GuessMaps.declareAll, Drawing.declareAll, undeclared.declarePoint_eq]
          cases declares : drawing.declarePoint problem label with
          | error error => exact Or.inl ⟨error, rfl, rfl⟩
          | ok next => exact ih (undeclared.declarePoint distinct declares)
      | declareScalar label =>
          rw [GuessMaps.declareAll, Drawing.declareAll, undeclared.declareScalar_eq]
          cases declares : drawing.declareScalar problem label with
          | error error => exact Or.inl ⟨error, rfl, rfl⟩
          | ok next => exact ih (undeclared.declareScalar distinct declares)
      | _ => exact ih undeclared

end Steps

section Ends

variable {problem : Problem α} {drawing : Drawing α} {maps : GuessMaps α}

theorem mem_keys_iff {β : Type} {map : Std.HashMap Label β} {guesses : List (Label × β)}
    (left : ∀ label, map[label]? =
      if (drawing.entity? label).isSome then none else guesses.lookup label) (label : Label) :
    label ∈ map.keys ↔ label ∈ guesses.map Prod.fst ∧ (drawing.entity? label).isNone := by
  rw [Std.HashMap.mem_keys, Std.HashMap.mem_iff_isSome_getElem?, left, ← isSome_lookup_iff_mem]
  cases drawing.entity? label <;> simp

/-- The labels that are left over are those that are guessed but not declared. -/
theorem Undeclared.labels_perm (undeclared : maps.Undeclared problem drawing)
    (distinct : problem.guessed.Nodup) :
    maps.labels.Perm (problem.guessed.filter fun label => (drawing.entity? label).isNone) := by
  have point := mem_keys_iff undeclared.points_eq
  have scalar := mem_keys_iff undeclared.scalars_eq
  have nodup : maps.labels.Nodup := by
    refine List.nodup_append.mpr ⟨Std.HashMap.nodup_keys, Std.HashMap.nodup_keys, ?_⟩
    intro label first other second
    exact (List.nodup_append.mp distinct).2.2 label ((point label).mp first).1 other
      ((scalar other).mp second).1
  rw [List.perm_ext_iff_of_nodup nodup (distinct.filter _)]
  intro label
  rw [labels, List.mem_append, point, scalar, List.mem_filter, Problem.guessed, List.mem_append,
    ← or_and_right]
  rfl

theorem Undeclared.sorted_labels (undeclared : maps.Undeclared problem drawing)
    (distinct : problem.guessed.Nodup) :
    (maps.labels.mergeSort fun a b => decide (a ≤ b)) =
      (problem.guessed.filter fun label => (drawing.entity? label).isNone).mergeSort
        fun a b => decide (a ≤ b) := by
  have permuted := undeclared.labels_perm distinct
  have filtered := distinct.filter fun label => (drawing.entity? label).isNone
  apply eq_of_ascending (ascending_mergeSort (permuted.nodup_iff.mpr filtered))
    (ascending_mergeSort filtered)
  intro label
  rw [List.mem_mergeSort, List.mem_mergeSort, permuted.mem_iff]

theorem Undeclared.left_iff (undeclared : maps.Undeclared problem drawing)
    (distinct : problem.guessed.Nodup) :
    (maps.points.isEmpty = false ∨ maps.scalars.isEmpty = false) ↔
      problem.guessed.filter (fun label => (drawing.entity? label).isNone) ≠ [] := by
  have none : maps.labels = [] ↔ maps.points.isEmpty ∧ maps.scalars.isEmpty := by
    rw [labels, List.append_eq_nil_iff, ← List.isEmpty_iff, ← List.isEmpty_iff,
      Std.HashMap.isEmpty_keys, Std.HashMap.isEmpty_keys]
  rw [← Bool.not_eq_true, ← Bool.not_eq_true, ← not_and_or, ← none, not_iff_not]
  have permuted := undeclared.labels_perm distinct
  exact ⟨fun empty => (empty ▸ permuted).symm.eq_nil, fun all => (all ▸ permuted).eq_nil⟩

end Ends

/-- To use the guesses up gives the same drawing or the same error as to look them up. -/
theorem drawing_eq_ofProblem (problem : Problem α) : drawing problem = Drawing.ofProblem problem := by
  have listed : problem.guessed =
      problem.pointGuesses.map Prod.fst ++ problem.scalarGuesses.map Prod.fst := rfl
  have checks := forget_ofProblem.trans (checkAll_checkGuess problem.guessed fun _ => Iff.rfl)
  rw [drawing, Drawing.ofProblem, ← listed]
  cases repeated : firstRepeated? [] problem.guessed with
  | some label =>
      rw [repeated] at checks
      rw [forget_eq_error_iff.mp checks]
      rfl
  | none =>
      rw [repeated] at checks
      obtain ⟨maps, made⟩ := forget_eq_ok_iff.mp checks
      have distinct : problem.guessed.Nodup := Problem.firstRepeated?_eq_none_iff.mp repeated
      rw [made]
      change (maps.declareAll .empty problem.instructions >>= _) = _
      rcases (undeclared_ofProblem made).declareAll distinct problem.instructions with
        ⟨error, fails, failsToo⟩ | ⟨left, next, declares, declaresToo, undeclared⟩
      · rw [fails, failsToo]
        rfl
      · rw [declares, declaresToo]
        change (if left.points.isEmpty = false ∨ left.scalars.isEmpty = false then _ else _) =
          if problem.guessed.filter (fun label => (next.entity? label).isNone) ≠ [] then _ else _
        have unused := undeclared.left_iff distinct
        by_cases some : problem.guessed.filter (fun label => (next.entity? label).isNone) ≠ []
        · rw [if_pos some, if_pos (unused.mpr some), undeclared.sorted_labels distinct]
        · rw [if_neg some, if_neg (mt unused.mp some)]

end GuessMaps

end Drafting
