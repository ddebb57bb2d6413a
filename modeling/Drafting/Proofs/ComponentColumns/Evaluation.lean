import Drafting.Proofs.ComponentColumns.FirstMention
import Drafting.Proofs.Iteration.Unknowns

/-!
# Residuals in a component and alone

The residual of a constraint is one formula over the values of its unknowns. Where the values stand
is settled by the columns: those of a whole component, or those of the constraint alone. Both lead to
the same values, so the rows of a component hold what its constraints measure one by one.

All of this holds in every arithmetic, and so also in the one that only writes its operations down:
where two results are equal there, the operations that lead to them are the same.
-/

namespace Drafting

variable {ι α β : Type}

theorem mem_mentioned_singleton {c : Constraint UnknownId α} {id : UnknownId} :
    id ∈ mentioned [c] ↔ id ∈ c.unknowns := by
  simp [mem_mentioned]

inductive Formula (α : Type) where
  | value (id : UnknownId)
  | constant (number : α)
  | sum (left right : Formula α)
  | difference (left right : Formula α)
  | product (left right : Formula α)
  deriving DecidableEq, Repr

namespace Formula

instance : Add (Formula α) := ⟨sum⟩

instance : Sub (Formula α) := ⟨difference⟩

instance : Mul (Formula α) := ⟨product⟩

def eval [Add α] [Sub α] [Mul α] (values : UnknownId → α) : Formula α → α
  | value id => values id
  | constant number => number
  | sum left right => left.eval values + right.eval values
  | difference left right => left.eval values - right.eval values
  | product left right => left.eval values * right.eval values

end Formula

namespace Constraint

def mapNumber (f : α → β) : Constraint ι α → Constraint ι β
  | .fixedDistance p q d => .fixedDistance p q (f d)
  | .distance p q length => .distance p q length
  | .fixed unknown value => .fixed unknown (f value)
  | .equal a b => .equal a b
  | .congruent s t => .congruent s t
  | .parallel s t => .parallel s t
  | .perpendicular s t => .perpendicular s t

/-- What the residual of a constraint computes: its value when the arithmetic only writes down the
operations. -/
def formula (c : Constraint UnknownId α) : Formula α :=
  (c.mapNumber Formula.constant).residual Formula.value

variable [Add α] [Sub α] [Mul α]

theorem eval_formula (values : UnknownId → α) (c : Constraint UnknownId α) :
    c.formula.eval values = c.residual values := by
  cases c <;> rfl

/-- A residual sees of an arena only the values of the constraint's own unknowns. -/
theorem residualIn?_congr [OfNat α 0] (c : Constraint UnknownId α) {arena other : Arena α}
    (agree : Arena.AgreeOn c.unknowns arena other) : c.residualIn? arena = c.residualIn? other := by
  have same : c.residual arena.reading = c.residual other.reading := by
    apply residual_congr
    intro id mentioned
    rw [Arena.reading, Arena.reading, agree id mentioned]
  rw [residualIn?_eq, residualIn?_eq, same]
  simp only [agree.contains_iff]

end Constraint

namespace Guarded

variable [OfNat α 0]

/-- A column holds the value that the arena has for its unknown, wherever the column stands. -/
theorem lookUp_read {columns : List UnknownId} {arena : Arena α} (known : arena.Contains columns)
    {id : UnknownId} (member : id ∈ columns) :
    lookUp columns (arena.read columns known) id = .ok (arena.reading id) := by
  rw [lookUp_eq_ok _ member, valueIn_eq_reading (Arena.get_read arena columns known) member]

variable [Add α] [Sub α] [Mul α]

/-- Measure a constraint in an arena, over columns for the unknowns of this constraint alone. -/
def residualsAlone (c : Constraint UnknownId α) (arena : Arena α) : Except Fault (List α) :=
  let columns := mentioned [c]
  if known : arena.Contains columns then
    residuals (lookUp columns (arena.read columns known)) c
  else .error .unknown

theorem residualsAlone_eq (c : Constraint UnknownId α) (arena : Arena α) :
    residualsAlone c arena = found .unknown ((c.residualIn? arena).map fun r => [r]) := by
  have sameIds : arena.Contains (mentioned [c]) ↔ arena.Contains c.unknowns :=
    forall_congr' fun id => imp_congr_left mem_mentioned_singleton
  rw [residualsAlone, Constraint.residualIn?_eq]
  by_cases known : arena.Contains (mentioned [c])
  · have agree : ∀ id ∈ c.unknowns,
        lookUp (mentioned [c]) (arena.read (mentioned [c]) known) id = .ok (arena.reading id) :=
      fun id mentions => lookUp_read known (mem_mentioned_singleton.mpr mentions)
    rw [dif_pos known, if_pos (sameIds.mp known), residuals_eq_ok c agree]
    rfl
  · rw [dif_neg known, if_neg (fun inArena => known (sameIds.mpr inArena))]
    rfl

theorem residualsAlone_of_contains {c : Constraint UnknownId α} {arena : Arena α}
    (known : arena.Contains c.unknowns) :
    residualsAlone c arena = .ok [c.formula.eval arena.reading] := by
  rw [residualsAlone_eq, Constraint.residualIn?_eq, if_pos known, Constraint.eval_formula]
  rfl

end Guarded

namespace ComponentSystem

variable [OfNat α 0] [Add α] [Sub α] [Mul α]

/-- Over the values of an arena, each row holds the formula of its constraint. -/
theorem residual_read (constraints : List (Constraint UnknownId α)) {arena : Arena α}
    (known : arena.Contains (ofConstraints constraints).columns) :
    ((ofConstraints constraints).residual (arena.read _ known)).toList =
      constraints.map fun c => c.formula.eval arena.reading := by
  rw [residual_ofConstraints constraints _ arena.reading
    fun j => Arena.reading_eq (Arena.get_read arena _ known j)]
  simp only [Constraint.eval_formula]

/-- The columns are the mentioned unknowns by their first mentions, and the place of a column and its
unknown are found from each other. Over the values of an arena, the rows are filled with what the
constraints measure alone, one after the other and by the same operations, and a constraint measures
alike in all arenas that agree on its own unknowns. -/
theorem layouts_are_faithful (constraints : List (Constraint UnknownId α)) :
    (∀ columns, ByFirstMention columns (constraints.flatMap Constraint.unknowns) ↔
      columns = (ofConstraints constraints).columns) ∧
    (∀ id j, (ofConstraints constraints).columns.idxOf? id = some j ↔
      (ofConstraints constraints).columns[j]? = some id) ∧
    (ofConstraints constraints).equations.map
      (Constraint.map (ofConstraints constraints).columns.get) = constraints ∧
    (∀ (arena : Arena α) (known : arena.Contains (ofConstraints constraints).columns)
      (buffer : Vector α (ofConstraints constraints).height),
      ∃ rows, constraints.mapM (fun c => Guarded.residualsAlone c arena) = .ok rows ∧
        ((ofConstraints constraints).residual (arena.read _ known)).toList = rows.flatten ∧
        Guarded.fillRows (Guarded.lookUp _ (arena.read _ known)) constraints 0 buffer =
          .ok ((ofConstraints constraints).residual (arena.read _ known)) ∧
        rows = constraints.map fun c => [c.formula.eval arena.reading]) ∧
    ∀ (c : Constraint UnknownId α) (arena other : Arena α),
      Guarded.residualsAlone c arena =
        Guarded.found .unknown ((c.residualIn? arena).map fun r => [r]) ∧
      (Arena.AgreeOn c.unknowns arena other →
        Guarded.residualsAlone c arena = Guarded.residualsAlone c other) := by
  have listed := byFirstMention_mentioned constraints
  refine ⟨?_, ?_, equations_map_columns constraints, ?_, ?_⟩
  · intro columns
    constructor
    · exact fun alsoListed => alsoListed.unique listed
    · rintro rfl
      exact listed
  · intro id j
    exact idxOf?_eq_some_iff_getElem? listed.distinct
  · intro arena known buffer
    refine ⟨constraints.map fun c => [c.formula.eval arena.reading], ?_, ?_, ?_, rfl⟩
    · apply Guarded.mapM_eq_ok
      intro c member
      apply Guarded.residualsAlone_of_contains
      intro id mentions
      exact known id (mem_mentioned.mpr ⟨c, member, mentions⟩)
    · rw [residual_read, ← List.flatMap_def, List.map_eq_flatMap]
    · exact Guarded.fillRows_ofConstraints constraints _ buffer
  · intro c arena other
    refine ⟨Guarded.residualsAlone_eq c arena, ?_⟩
    intro agree
    rw [Guarded.residualsAlone_eq, Guarded.residualsAlone_eq, c.residualIn?_congr agree]

abbrev foldedCorner : List (Constraint UnknownId Float) :=
  [.perpendicular ⟨⟨4, 1⟩, ⟨2, 1⟩⟩ ⟨⟨2, 1⟩, ⟨2, 0⟩⟩, .distance ⟨2, 2⟩ ⟨4, 0⟩ 2]

abbrev foldedArena : Arena Float := Arena.ofValues [0.1, 0.2, 0.3, 0.4, 0.5]

theorem folded_corner_is_measured_alike :
    ByFirstMention [4, 1, 2, 0] (foldedCorner.flatMap Constraint.unknowns) ∧
    (∃ known : foldedArena.Contains (ofConstraints foldedCorner).columns,
      ∃ rows, foldedCorner.mapM (fun c => Guarded.residualsAlone c foldedArena) = .ok rows ∧
        ((ofConstraints foldedCorner).residual (foldedArena.read _ known)).toList = rows.flatten ∧
        Guarded.fillRows (Guarded.lookUp _ (foldedArena.read _ known)) foldedCorner 0
            (Vector.replicate (ofConstraints foldedCorner).height 7) =
          .ok ((ofConstraints foldedCorner).residual (foldedArena.read _ known)) ∧
        rows = foldedCorner.map fun c => [c.formula.eval foldedArena.reading]) ∧
    Arena.AgreeOn (Constraint.distance ⟨2, 2⟩ ⟨4, 0⟩ 2 : Constraint UnknownId Float).unknowns
      foldedArena (foldedArena.set 3 0.9) ∧
    Guarded.residualsAlone (.distance ⟨2, 2⟩ ⟨4, 0⟩ 2) foldedArena =
      Guarded.residualsAlone (.distance ⟨2, 2⟩ ⟨4, 0⟩ 2) (foldedArena.set 3 0.9) := by
  obtain ⟨columns, _, _, rows, measures⟩ := layouts_are_faithful foldedCorner
  have listed : [4, 1, 2, 0] = (ofConstraints foldedCorner).columns := by decide
  have known : foldedArena.Contains (ofConstraints foldedCorner).columns := by
    rw [← listed]
    decide
  have agree : Arena.AgreeOn (Constraint.distance ⟨2, 2⟩ ⟨4, 0⟩ 2 : Constraint UnknownId Float).unknowns
      foldedArena (foldedArena.set 3 0.9) := by
    intro id mentioned
    refine (Arena.value?_set_of_ne foldedArena ?_ 0.9).symm
    rintro rfl
    exact absurd mentioned (by decide)
  exact ⟨(columns _).mpr listed, ⟨known, rows foldedArena known _⟩, agree, (measures _ _ _).2 agree⟩

end ComponentSystem

end Drafting
