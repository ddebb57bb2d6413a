import Drafting.Proofs.ComponentColumns
import Drafting.Proofs.Guarded
import Drafting.Total

/-!
# The guarded equations of a component

Here every unknown of a constraint is looked up in the columns and then in the assignment, and every
residual and partial derivative is put in its place by row and column. Which unknowns are looked up
is written out once for the residuals and once more for the partial derivatives.
-/

namespace Drafting

variable {ι κ μ α : Type}

section Gradient

variable [Sub α] [Mul α] [Neg α] [OfNat α 1] [OfNat α 2]

theorem Constraint.gradient_mapMem (c : Constraint ι α) (f : (i : ι) → i ∈ c.unknowns → κ)
    (label : κ → μ) (other : ι → μ) (value : κ → α) (otherValue : ι → α)
    (sameLabel : ∀ i h, label (f i h) = other i) (sameValue : ∀ i h, value (f i h) = otherValue i) :
    ((c.mapMem f).gradient value).map (Prod.map label id) =
      (c.gradient otherValue).map (Prod.map other id) := by
  have relabelled : (c.mapMem f).map (fun k => (label k, value k)) =
      c.map fun i => (other i, otherValue i) := by
    rw [map_mapMem, ← mapMem_eq_map]
    congr
    funext i h
    rw [sameLabel, sameValue]
  have same := congrArg (fun d => (d.gradient Prod.snd).map (Prod.map Prod.fst id)) relabelled
  simp only [gradient_map, List.map_map] at same
  exact same

end Gradient

namespace Guarded

section Lookups

variable (look : ι → Except Fault α)

def place (p : Point ι) : Except Fault (Point α) := do
  return ⟨← look p.x, ← look p.y⟩

def direction [Sub α] (s : Segment ι) : Except Fault (Displacement α) := do
  let finish ← place look s.finish
  let start ← place look s.start
  return start.toward finish

def directions [Sub α] (s t : Segment ι) : Except Fault (Displacement α × Displacement α) := do
  let u ← direction look s
  let w ← direction look t
  return (u, w)

def residuals [Add α] [Sub α] [Mul α] : Constraint ι α → Except Fault (List α)
  | .fixedDistance p q d => do
      let finish ← place look q
      let start ← place look p
      let delta := start.toward finish
      return [delta.lengthSquared - d * d]
  | .distance p q length => do
      let finish ← place look q
      let start ← place look p
      let delta := start.toward finish
      let d ← look length
      return [delta.lengthSquared - d * d]
  | .fixed unknown expected => do
      let value ← look unknown
      return [value - expected]
  | .equal a b => do
      let left ← look a
      let right ← look b
      return [left - right]
  | .congruent s t => do
      let (u, w) ← directions look s t
      return [u.lengthSquared - w.lengthSquared]
  | .parallel s t => do
      let (u, w) ← directions look s t
      return [u.cross w]
  | .perpendicular s t => do
      let (u, w) ← directions look s t
      return [u.dot w]

/-- One partial derivative, with its row among those of the constraint. -/
structure Partial (ι α : Type) where
  row : Nat
  unknown : ι
  derivative : α

def pointPartials (p : Point ι) (d : Displacement α) : List (Partial ι α) :=
  [⟨0, p.x, d.x⟩, ⟨0, p.y, d.y⟩]

def segmentPartials [Neg α] (s : Segment ι) (d : Displacement α) : List (Partial ι α) :=
  pointPartials s.start d.reverse ++ pointPartials s.finish d

def partials [Sub α] [Mul α] [Neg α] [OfNat α 1] [OfNat α 2] :
    Constraint ι α → Except Fault (List (Partial ι α))
  | .fixedDistance p q _ => do
      let start ← place look p
      let finish ← place look q
      let delta := start.toward finish
      return pointPartials p (delta.reverse.scale 2) ++ pointPartials q (delta.scale 2)
  | .distance p q length => do
      let start ← place look p
      let finish ← place look q
      let delta := start.toward finish
      let d ← look length
      return pointPartials p (delta.reverse.scale 2) ++ pointPartials q (delta.scale 2) ++
        [⟨0, length, -2 * d⟩]
  | .fixed unknown _ => return [⟨0, unknown, 1⟩]
  | .equal a b => return [⟨0, a, 1⟩, ⟨0, b, -1⟩]
  | .congruent s t => do
      let (u, w) ← directions look s t
      return segmentPartials s (u.scale 2) ++ segmentPartials t (w.reverse.scale 2)
  | .parallel s t => do
      let (u, w) ← directions look s t
      return segmentPartials s ⟨w.y, -w.x⟩ ++ segmentPartials t ⟨-u.y, u.x⟩
  | .perpendicular s t => do
      let (u, w) ← directions look s t
      return segmentPartials s w ++ segmentPartials t u

end Lookups

section Agreement

variable {look : ι → Except Fault α} {value : ι → α}

theorem place_eq_ok {p : Point ι} (agree : ∀ i ∈ p.coordinates, look i = .ok (value i)) :
    place look p = .ok (p.map value) := by
  obtain ⟨atX, later⟩ := List.forall_mem_cons.mp agree
  obtain ⟨atY, _⟩ := List.forall_mem_cons.mp later
  rw [place, atX, ok_bind, atY, ok_bind]
  rfl

theorem direction_eq_ok [Sub α] {s : Segment ι}
    (agree : ∀ i ∈ s.coordinates, look i = .ok (value i)) :
    direction look s = .ok (s.map value).direction := by
  obtain ⟨start, finish⟩ := List.forall_mem_append.mp agree
  rw [direction, place_eq_ok finish, ok_bind, place_eq_ok start, ok_bind]
  rfl

theorem directions_eq_ok [Sub α] {s t : Segment ι}
    (agree : ∀ i ∈ s.coordinates ++ t.coordinates, look i = .ok (value i)) :
    directions look s t = .ok ((s.map value).direction, (t.map value).direction) := by
  obtain ⟨first, second⟩ := List.forall_mem_append.mp agree
  rw [directions, direction_eq_ok first, ok_bind, direction_eq_ok second, ok_bind]
  rfl

/-- A constraint's residual looks up only the constraint's unknowns. -/
theorem residuals_eq_ok [Add α] [Sub α] [Mul α] (c : Constraint ι α)
    (agree : ∀ i ∈ c.unknowns, look i = .ok (value i)) :
    residuals look c = .ok [c.residual value] := by
  cases c with
  | fixedDistance p q d =>
      obtain ⟨start, finish⟩ := List.forall_mem_append.mp agree
      rw [residuals, place_eq_ok finish, ok_bind, place_eq_ok start, ok_bind]
      rfl
  | distance p q length =>
      obtain ⟨points, rest⟩ := List.forall_mem_append.mp agree
      obtain ⟨start, finish⟩ := List.forall_mem_append.mp points
      rw [residuals, place_eq_ok finish, ok_bind, place_eq_ok start, ok_bind,
        rest length (List.mem_singleton_self length), ok_bind]
      rfl
  | fixed unknown expected =>
      rw [residuals, agree unknown (List.mem_singleton_self unknown), ok_bind]
      rfl
  | equal a b =>
      obtain ⟨left, later⟩ := List.forall_mem_cons.mp agree
      obtain ⟨right, _⟩ := List.forall_mem_cons.mp later
      rw [residuals, left, ok_bind, right, ok_bind]
      rfl
  | congruent s t =>
      rw [residuals, directions_eq_ok agree, ok_bind]
      rfl
  | parallel s t =>
      rw [residuals, directions_eq_ok agree, ok_bind]
      rfl
  | perpendicular s t =>
      rw [residuals, directions_eq_ok agree, ok_bind]
      rfl

theorem partials_eq_ok [Sub α] [Mul α] [Neg α] [OfNat α 1] [OfNat α 2] (c : Constraint ι α)
    (agree : ∀ i ∈ c.unknowns, look i = .ok (value i)) :
    partials look c = .ok ((c.gradient value).map fun (unknown, d) => ⟨0, unknown, d⟩) := by
  cases c with
  | fixedDistance p q d =>
      obtain ⟨start, finish⟩ := List.forall_mem_append.mp agree
      rw [partials, place_eq_ok start, ok_bind, place_eq_ok finish, ok_bind]
      rfl
  | distance p q length =>
      obtain ⟨points, rest⟩ := List.forall_mem_append.mp agree
      obtain ⟨start, finish⟩ := List.forall_mem_append.mp points
      rw [partials, place_eq_ok start, ok_bind, place_eq_ok finish, ok_bind,
        rest length (List.mem_singleton_self length), ok_bind]
      rfl
  | fixed unknown expected => rfl
  | equal a b => rfl
  | congruent s t =>
      rw [partials, directions_eq_ok agree, ok_bind]
      rfl
  | parallel s t =>
      rw [partials, directions_eq_ok agree, ok_bind]
      rfl
  | perpendicular s t =>
      rw [partials, directions_eq_ok agree, ok_bind]
      rfl

end Agreement

section Columns

variable {columns : List UnknownId} [OfNat α 0]

def lookUp (columns : List UnknownId) (assignment : Vector α columns.length) (id : UnknownId) :
    Except Fault α := do
  let column ← found .column (columns.idxOf? id)
  found .value assignment[column]?

def valueIn (columns : List UnknownId) (assignment : Vector α columns.length) (id : UnknownId) : α :=
  (assignment[columns.idxOf id]?).getD 0

theorem idxOf?_eq_some {id : UnknownId} (member : id ∈ columns) :
    columns.idxOf? id = some (columns.idxOf id) :=
  List.findIdx?_eq_some_of_exists ⟨id, member, beq_self_eq_true id⟩

theorem valueIn_eq (assignment : Vector α columns.length) {id : UnknownId} (member : id ∈ columns) :
    valueIn columns assignment id =
      assignment.get ⟨columns.idxOf id, List.idxOf_lt_length_iff.mpr member⟩ := by
  have inRange := List.idxOf_lt_length_iff.mpr member
  rw [valueIn, Vector.getElem?_eq_getElem inRange, Option.getD_some]
  rfl

theorem lookUp_eq_ok (assignment : Vector α columns.length) {id : UnknownId}
    (member : id ∈ columns) :
    lookUp columns assignment id = .ok (valueIn columns assignment id) := by
  have inRange := List.idxOf_lt_length_iff.mpr member
  rw [lookUp, idxOf?_eq_some member, found_some, ok_bind, valueIn,
    Vector.getElem?_eq_getElem inRange]
  rfl

end Columns

section Rows

variable {rows : Nat} [Add α] [Sub α] [Mul α]

def writeRow (out : Vector α rows) (row : Nat) (residual : α) : Except Fault (Vector α rows) :=
  if inRange : row < rows then .ok (out.set row residual) else .error .row

/-- Overwrite the residuals from a row on by those of some constraints. -/
def fillRows (look : ι → Except Fault α) :
    List (Constraint ι α) → Nat → Vector α rows → Except Fault (Vector α rows)
  | [], _, out => .ok out
  | c :: rest, row, out => do
      let measured ← residuals look c
      check .dimension (measured.length = c.dimension)
      let (next, out) ← measured.foldlM (fun (row, out) residual => do
        let out ← writeRow out row residual
        return (row + 1, out)) (row, out)
      fillRows look rest next out

theorem fillRows_eq_ok {look : ι → Except Fault α} {value : ι → α}
    {constraints : List (Constraint ι α)}
    (agree : ∀ c ∈ constraints, ∀ i ∈ c.unknowns, look i = .ok (value i)) {row : Nat}
    (fits : row + constraints.length = rows) (out : Vector α rows) :
    ∃ filled, fillRows look constraints row out = .ok filled ∧
      filled.toList = out.toList.take row ++ constraints.map fun c => c.residual value := by
  induction constraints generalizing row out with
  | nil =>
      refine ⟨out, rfl, ?_⟩
      rw [List.map_nil, List.append_nil, List.take_of_length_le]
      rw [Vector.length_toList, ← fits]
      exact Nat.le_refl _
  | cons c rest ih =>
      obtain ⟨here, later⟩ := List.forall_mem_cons.mp agree
      rw [List.length_cons] at fits
      have inRange : row < rows := by omega
      have counted : [c.residual value].length = c.dimension := rfl
      have written : writeRow out row (c.residual value) = .ok (out.set row (c.residual value)) :=
        dif_pos inRange
      obtain ⟨filled, result, entries⟩ :=
        ih later (by omega : row + 1 + rest.length = rows) (out.set row (c.residual value))
      refine ⟨filled, ?_, ?_⟩
      · rw [fillRows, residuals_eq_ok c here, ok_bind, check_of counted, ok_bind]
        simp only [List.foldlM_cons, List.foldlM_nil, written, ok_bind, pure_eq_ok]
        exact result
      · have prior : (out.toList.set row (c.residual value)).take row = out.toList.take row :=
          List.take_set_of_le (Nat.le_refl row)
        have entry : (out.toList.set row (c.residual value))[row]? = some (c.residual value) := by
          rw [List.getElem?_set_self]
          rwa [Vector.length_toList]
        rw [entries, Vector.toList_set, List.take_add_one, prior, entry, List.append_assoc]
        rfl

end Rows

section Cells

variable {rows width : Nat} [Add α] {columns : List UnknownId}

def addTo (matrix : DenseMatrix rows width α) (row column : Nat) (d : α) :
    Except Fault (DenseMatrix rows width α) :=
  if row < rows ∧ column < width then
    .ok (DenseMatrix.ofFn fun i j =>
      if i.val = row ∧ j.val = column then matrix.entry i j + d else matrix.entry i j)
  else .error .cell

/-- What a cell becomes when partial derivatives for its column are added to it. -/
def sumAt (columns : List UnknownId) (partials : List (UnknownId × α)) (column : Nat) (start : α) :
    α :=
  partials.foldl (fun sum entry => if columns.idxOf entry.1 = column then sum + entry.2 else sum) start

private theorem sumAt_cons (id : UnknownId) (d : α) (rest : List (UnknownId × α)) (column : Nat)
    (start : α) :
    sumAt columns ((id, d) :: rest) column start =
      sumAt columns rest column (if columns.idxOf id = column then start + d else start) := rfl

def addPartials (columns : List UnknownId) (c : Constraint UnknownId α) (row : Nat)
    (matrix : DenseMatrix rows width α) (derivatives : List (Partial UnknownId α)) :
    Except Fault (DenseMatrix rows width α) :=
  derivatives.foldlM (fun matrix derivative => do
    check .dimension (derivative.row < c.dimension)
    let column ← found .column (columns.idxOf? derivative.unknown)
    addTo matrix (row + derivative.row) column derivative.derivative) matrix

def fillCells [Sub α] [Mul α] [Neg α] [OfNat α 1] [OfNat α 2] (columns : List UnknownId)
    (look : UnknownId → Except Fault α) :
    List (Constraint UnknownId α) → Nat → DenseMatrix rows width α →
      Except Fault (DenseMatrix rows width α)
  | [], _, matrix => .ok matrix
  | c :: rest, row, matrix => do
      let derivatives ← partials look c
      let matrix ← addPartials columns c row matrix derivatives
      fillCells columns look rest (row + c.dimension) matrix

private theorem addPartials_eq_ok {c : Constraint UnknownId α} {row : Nat} (inRange : row < rows)
    {derivatives : List (UnknownId × α)} (known : ∀ entry ∈ derivatives, entry.1 ∈ columns)
    (matrix : DenseMatrix rows columns.length α) :
    ∃ filled, addPartials columns c row matrix (derivatives.map fun (id, d) => ⟨0, id, d⟩) =
        .ok filled ∧
      ∀ i j, filled.entry i j =
        if i.val = row then sumAt columns derivatives j (matrix.entry i j)
        else matrix.entry i j := by
  induction derivatives generalizing matrix with
  | nil =>
      refine ⟨matrix, rfl, ?_⟩
      intro i j
      exact (ite_self _).symm
  | cons entry rest ih =>
      obtain ⟨id, d⟩ := entry
      obtain ⟨member, later⟩ := List.forall_mem_cons.mp known
      have counted : 0 < c.dimension := Nat.one_pos
      have cell : row + 0 < rows ∧ columns.idxOf id < columns.length :=
        ⟨inRange, List.idxOf_lt_length_iff.mpr member⟩
      obtain ⟨filled, result, entries⟩ := ih later (DenseMatrix.ofFn fun i j =>
        if i.val = row + 0 ∧ j.val = columns.idxOf id then matrix.entry i j + d
        else matrix.entry i j)
      refine ⟨filled, ?_, ?_⟩
      · unfold addPartials at result ⊢
        rw [List.map_cons, List.foldlM_cons, check_of counted, ok_bind, idxOf?_eq_some member,
          found_some, ok_bind, addTo, if_pos cell, ok_bind]
        exact result
      · intro i j
        rw [entries, DenseMatrix.entry_ofFn]
        by_cases inRow : i.val = row
        · rw [if_pos inRow, if_pos inRow]
          by_cases inColumn : columns.idxOf id = j.val
          · rw [if_pos ⟨inRow, inColumn.symm⟩, sumAt_cons, if_pos inColumn]
          · rw [if_neg (fun both => inColumn both.2.symm), sumAt_cons, if_neg inColumn]
        · rw [if_neg inRow, if_neg inRow, if_neg (fun both => inRow both.1)]

variable [Sub α] [Mul α] [Neg α] [OfNat α 1] [OfNat α 2]

/-- The cells of each row collect the partial derivatives of its constraint, and other rows stay. -/
theorem fillCells_eq_ok {look : UnknownId → Except Fault α} {value : UnknownId → α}
    {constraints : List (Constraint UnknownId α)}
    (agree : ∀ c ∈ constraints, ∀ id ∈ c.unknowns, look id = .ok (value id))
    (known : ∀ c ∈ constraints, ∀ id ∈ c.unknowns, id ∈ columns) {row : Nat}
    (fits : row + constraints.length ≤ rows) (matrix : DenseMatrix rows columns.length α) :
    ∃ filled, fillCells columns look constraints row matrix = .ok filled ∧
      ∀ i j, (i.val < row → filled.entry i j = matrix.entry i j) ∧
        ∀ k c, constraints[k]? = some c → i.val = row + k →
          filled.entry i j = sumAt columns (c.gradient value) j (matrix.entry i j) := by
  induction constraints generalizing row matrix with
  | nil =>
      refine ⟨matrix, rfl, ?_⟩
      intro i j
      refine ⟨fun _ => rfl, ?_⟩
      intro k c absent
      cases absent
  | cons c rest ih =>
      obtain ⟨here, laterAgree⟩ := List.forall_mem_cons.mp agree
      obtain ⟨columnsHere, laterKnown⟩ := List.forall_mem_cons.mp known
      rw [List.length_cons] at fits
      have listed : ∀ entry ∈ c.gradient value, entry.1 ∈ columns := by
        intro entry member
        apply columnsHere
        rw [← Constraint.gradient_unknowns value c]
        exact List.mem_map_of_mem member
      obtain ⟨added, addedResult, addedEntries⟩ :=
        addPartials_eq_ok (c := c) (by omega : row < rows) listed matrix
      obtain ⟨filled, result, entries⟩ :=
        ih laterAgree laterKnown (by omega : row + 1 + rest.length ≤ rows) added
      refine ⟨filled, ?_, ?_⟩
      · rw [fillCells, partials_eq_ok c here, ok_bind, addedResult, ok_bind]
        exact result
      · intro i j
        -- The constraints after `c` only touch rows after this one.
        obtain ⟨above, below⟩ := entries i j
        constructor
        · intro isAbove
          rw [above (by omega), addedEntries, if_neg (by omega)]
        · intro k d atK inRow
          cases k with
          | zero =>
              cases atK
              rw [above (by omega), addedEntries, if_pos (by omega)]
          | succ k =>
              rw [below k d atK (by omega), addedEntries, if_neg (by omega)]

end Cells

section System

variable (constraints : List (Constraint UnknownId α))

theorem total_dimension :
    total (constraints.map Constraint.dimension) =
      (ComponentSystem.ofConstraints constraints).height := by
  rw [ComponentSystem.height_ofConstraints]
  exact total_map_one constraints

theorem mem_columns_of_mem {c : Constraint UnknownId α} (member : c ∈ constraints)
    {id : UnknownId} (mentions : id ∈ c.unknowns) :
    id ∈ (ComponentSystem.ofConstraints constraints).columns :=
  mem_mentioned.mpr ⟨c, member, mentions⟩

private theorem equation_relabelled (i : Fin (ComponentSystem.ofConstraints constraints).height)
    {c : Constraint UnknownId α} (atRow : constraints[i.val]? = some c) :
    ∃ column : (id : UnknownId) → id ∈ c.unknowns →
        Fin (ComponentSystem.ofConstraints constraints).columns.length,
      (ComponentSystem.ofConstraints constraints).equations.get i = c.mapMem column ∧
        ∀ id h, (column id h).val = (ComponentSystem.ofConstraints constraints).columns.idxOf id := by
  obtain ⟨inRange, same⟩ := List.getElem?_eq_some_iff.mp atRow
  subst same
  refine ⟨fun id h => ⟨_, List.idxOf_lt_length_iff.mpr
    (mem_columns_of_mem constraints (List.getElem_mem inRange) h)⟩, ?_, fun _ _ => rfl⟩
  refine (List.getElem_map _).trans ?_
  rw [List.getElem_attach]
  rfl

variable [OfNat α 0]
  (assignment : Vector α (ComponentSystem.ofConstraints constraints).columns.length)

theorem valueIn_columns (j : Fin (ComponentSystem.ofConstraints constraints).columns.length) :
    valueIn (ComponentSystem.ofConstraints constraints).columns assignment
      ((ComponentSystem.ofConstraints constraints).columns.get j) = assignment.get j := by
  have distinct : (ComponentSystem.ofConstraints constraints).columns.Nodup :=
    nodup_mentioned constraints
  rw [valueIn_eq assignment (List.get_mem _ j)]
  exact congrArg assignment.get (Fin.ext (distinct.idxOf_getElem j.val j.isLt))

theorem lookUp_columns {c : Constraint UnknownId α} (member : c ∈ constraints) {id : UnknownId}
    (mentions : id ∈ c.unknowns) :
    lookUp (ComponentSystem.ofConstraints constraints).columns assignment id =
      .ok (valueIn (ComponentSystem.ofConstraints constraints).columns assignment id) :=
  lookUp_eq_ok assignment (mem_columns_of_mem constraints member mentions)

variable [Add α] [Sub α] [Mul α]

theorem fillRows_ofConstraints
    (buffer : Vector α (ComponentSystem.ofConstraints constraints).height) :
    fillRows (lookUp (ComponentSystem.ofConstraints constraints).columns assignment) constraints 0
        buffer =
      .ok ((ComponentSystem.ofConstraints constraints).residual assignment) := by
  have fits : 0 + constraints.length = (ComponentSystem.ofConstraints constraints).height := by
    rw [ComponentSystem.height_ofConstraints, Nat.zero_add]
  obtain ⟨filled, result, entries⟩ :=
    fillRows_eq_ok (fun _ member _ => lookUp_columns constraints assignment member) fits buffer
  rw [result]
  congr 1
  rw [← Vector.toList_inj, entries, List.take_zero, List.nil_append,
    ComponentSystem.residual_ofConstraints constraints assignment _
      (valueIn_columns constraints assignment)]

variable [Neg α] [OfNat α 1] [OfNat α 2]

private theorem entry_jacobian (i : Fin (ComponentSystem.ofConstraints constraints).height)
    (j : Fin (ComponentSystem.ofConstraints constraints).columns.length)
    {c : Constraint UnknownId α} (atRow : constraints[i.val]? = some c) :
    ((ComponentSystem.ofConstraints constraints).jacobian assignment).entry i j =
      sumAt (ComponentSystem.ofConstraints constraints).columns
        (c.gradient (valueIn (ComponentSystem.ofConstraints constraints).columns assignment)) j 0 := by
  obtain ⟨column, relabelled, columnOf⟩ := equation_relabelled constraints i atRow
  have member : c ∈ constraints := List.mem_of_getElem? atRow
  have relabelledGradient := Constraint.gradient_mapMem c column Fin.val
    (ComponentSystem.ofConstraints constraints).columns.idxOf assignment.get
    (valueIn (ComponentSystem.ofConstraints constraints).columns assignment) columnOf
    (by
      intro id mentions
      rw [valueIn_eq assignment (mem_columns_of_mem constraints member mentions)]
      exact congrArg assignment.get (Fin.ext (columnOf id mentions)))
  -- Both entries are one sum, over columns by position and over unknowns by their position.
  have summed := congrArg
    (List.foldl (fun sum entry => if entry.1 = j.val then sum + entry.2 else sum) 0)
    relabelledGradient
  rw [List.foldl_map, List.foldl_map] at summed
  rw [DenseMatrix.entry, ComponentSystem.jacobian, get_ofFn]
  dsimp only
  rw [get_ofFn, relabelled]
  simp only [Fin.ext_iff]
  exact summed

theorem fillCells_ofConstraints :
    fillCells (ComponentSystem.ofConstraints constraints).columns
        (lookUp (ComponentSystem.ofConstraints constraints).columns assignment) constraints 0
        (DenseMatrix.ofFn fun _ _ => 0) =
      .ok ((ComponentSystem.ofConstraints constraints).jacobian assignment) := by
  have fits : 0 + constraints.length ≤ (ComponentSystem.ofConstraints constraints).height := by
    rw [ComponentSystem.height_ofConstraints, Nat.zero_add]
  obtain ⟨filled, result, entries⟩ :=
    fillCells_eq_ok (fun _ member _ => lookUp_columns constraints assignment member)
      (fun _ member _ => mem_columns_of_mem constraints member) fits (DenseMatrix.ofFn fun _ _ => 0)
  rw [result]
  congr 1
  apply DenseMatrix.ext_entry
  intro i j
  have inRange : i.val < constraints.length := by
    rw [← ComponentSystem.height_ofConstraints constraints]
    exact i.isLt
  have atRow : constraints[i.val]? = some constraints[i.val] := List.getElem?_eq_getElem inRange
  rw [entry_jacobian constraints assignment i j atRow,
    (entries i j).2 i.val _ atRow (Nat.zero_add _).symm, DenseMatrix.entry_ofFn]

end System

end Guarded

end Drafting
