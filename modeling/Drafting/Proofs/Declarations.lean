import Mathlib.Data.List.Nodup
import Drafting.Drawing.Outcome
import Drafting.Proofs.ComponentColumns

/-!
# What the labels of a drawing stand for

Labels are declared one after the other, each with the next unknowns of the arena. So in a drawing
each label is declared once, each unknown belongs to one label, and the values that are reported for
the labels are those of the arena.
-/

namespace Drafting

open Text (Label Instruction Ends Problem)

variable {α : Type}

theorem bind_eq_ok_iff {ε β γ : Type} {first : Except ε β} {next : β → Except ε γ} {result : γ} :
    (first >>= next) = .ok result ↔ ∃ b, first = .ok b ∧ next b = .ok result := by
  cases first <;> simp [bind, Except.bind]

theorem map_eq_ok_iff {ε β γ : Type} {result : Except ε β} {f : β → γ} {c : γ} :
    result.map f = .ok c ↔ ∃ b, result = .ok b ∧ f b = c := by
  cases result <;> simp [Except.map]

theorem map_eq_error_iff {ε β γ : Type} {result : Except ε β} {f : β → γ} {error : ε} :
    result.map f = .error error ↔ result = .error error := by
  cases result <;> simp [Except.map]

section Lookup

variable {β γ : Type} {entries : List (Label × β)}

theorem lookup_eq_none_iff_not_mem {label : Label} :
    entries.lookup label = none ↔ label ∉ entries.map Prod.fst := by
  rw [List.lookup_eq_none_iff]
  constructor
  · intro differs listed
    obtain ⟨entry, member, same⟩ := List.mem_map.mp listed
    exact bne_iff_ne.mp (differs entry member) same.symm
  · intro absent entry member
    rw [bne_iff_ne]
    intro same
    exact absent (List.mem_map.mpr ⟨entry, member, same.symm⟩)

theorem isSome_lookup_iff_mem {label : Label} :
    (entries.lookup label).isSome ↔ label ∈ entries.map Prod.fst := by
  rw [← not_iff_not, Option.not_isSome_iff_eq_none]
  exact lookup_eq_none_iff_not_mem

theorem mem_of_lookup {label : Label} {b : β} (found : entries.lookup label = some b) :
    (label, b) ∈ entries := by
  obtain ⟨before, after, split, _⟩ := List.lookup_eq_some_iff.mp found
  rw [split]
  exact List.mem_append_right before List.mem_cons_self

/-- Under distinct labels, to keep what `f` gives for each entry changes nothing but the entries. -/
theorem lookup_filterMap_of_nodup (distinct : (entries.map Prod.fst).Nodup) (f : β → Option γ)
    (label : Label) :
    (entries.filterMap fun (other, b) => (f b).map (other, ·)).lookup label =
      (entries.lookup label).bind f := by
  induction entries with
  | nil => rfl
  | cons entry rest ih =>
      obtain ⟨other, b⟩ := entry
      obtain ⟨fresh, restDistinct⟩ := List.nodup_cons.mp distinct
      have later := ih restDistinct
      rw [List.filterMap_cons, List.lookup_cons]
      dsimp only
      by_cases same : label = other
      · subst same
        rw [lookup_eq_none_iff_not_mem.mpr fresh] at later
        rw [beq_self_eq_true, Option.bind_some]
        cases here : f b with
        | none => exact later
        | some c => exact List.lookup_cons_self
      · have differs : (label == other) = false := beq_eq_false_iff_ne.mpr same
        rw [differs]
        cases f b with
        | none => exact later
        | some c =>
            dsimp only [Option.map_some]
            rw [List.lookup_cons, differs]
            exact later

theorem map_fst_filterMap {f : β → Option γ} (all : ∀ entry ∈ entries, (f entry.2).isSome) :
    (entries.filterMap fun (label, b) => (f b).map (label, ·)).map Prod.fst =
      entries.map Prod.fst := by
  induction entries with
  | nil => rfl
  | cons entry rest ih =>
      obtain ⟨here, later⟩ := List.forall_mem_cons.mp all
      obtain ⟨c, found⟩ := Option.isSome_iff_exists.mp here
      rw [List.filterMap_cons]
      dsimp only
      rw [found, Option.map_some, List.map_cons, ih later, List.map_cons]

end Lookup

def Text.Instruction.declared? : Instruction α → Option (Label × EntityKind)
  | .declarePoint label => some (label, .point)
  | .declareScalar label => some (label, .scalar)
  | _ => none

namespace Entity

def kind : Entity → EntityKind
  | .point _ => .point
  | .scalar _ => .scalar

def unknowns : Entity → List UnknownId
  | .point p => p.coordinates
  | .scalar id => [id]

def place? (arena : Arena α) : Entity → Option (Point α)
  | .point p => arena.place? p
  | .scalar _ => none

def value? (arena : Arena α) : Entity → Option α
  | .point _ => none
  | .scalar id => arena.value? id

end Entity

namespace Drawing

def placeIn? (drawing : Drawing α) (arena : Arena α) (label : Label) : Option (Point α) :=
  (drawing.entity? label).bind (Entity.place? arena)

def valueIn? (drawing : Drawing α) (arena : Arena α) (label : Label) : Option α :=
  (drawing.entity? label).bind (Entity.value? arena)

/-- No label is declared twice, and the unknowns of the labels are those of the arena in order. -/
structure WellFormed (drawing : Drawing α) : Prop where
  distinct : (drawing.entities.map Prod.fst).Nodup
  unknowns_eq : drawing.entities.flatMap (fun entry => entry.2.unknowns) =
    List.range drawing.arena.size

theorem wellFormed_empty : (empty : Drawing α).WellFormed where
  distinct := List.nodup_nil
  unknowns_eq := rfl

/-- One more label with the next unknowns. -/
theorem WellFormed.declare {drawing next : Drawing α} (formed : drawing.WellFormed) {label : Label}
    {entity : Entity} (fresh : drawing.entity? label = none)
    (entities : next.entities = drawing.entities ++ [(label, entity)])
    (unknowns : List.range next.arena.size = List.range drawing.arena.size ++ entity.unknowns) :
    next.WellFormed where
  distinct := by
    have absent : label ∉ drawing.entities.map Prod.fst := lookup_eq_none_iff_not_mem.mp fresh
    rw [entities, List.map_append, List.nodup_append]
    refine ⟨formed.distinct, List.nodup_singleton label, ?_⟩
    intro other listed another single same
    rw [List.map_singleton, List.mem_singleton] at single
    rw [same, single] at listed
    exact absent listed
  unknowns_eq := by
    rw [entities, List.flatMap_append, formed.unknowns_eq, unknowns, List.flatMap_singleton]

section Declare

variable {problem : Problem α} {drawing next : Drawing α} {label : Label}

theorem declarePoint_ok (declares : drawing.declarePoint problem label = .ok next) :
    drawing.entity? label = none ∧ next.arena.size = drawing.arena.size + 2 ∧
      next.entities = drawing.entities ++
        [(label, .point ⟨drawing.arena.size, drawing.arena.size + 1⟩)] := by
  unfold declarePoint at declares
  split at declares
  · cases declares
  · rename_i fresh
    split at declares
    · cases declares
    · rename_i place _
      cases declares
      refine ⟨Option.not_isSome_iff_eq_none.mp fresh, ?_, ?_⟩
      · exact (Arena.size_push ..).trans (congrArg (· + 1) (Arena.size_push ..))
      · have second : (drawing.arena.push place.x (some (label ++ ".x"))).2.size =
            drawing.arena.size + 1 := Arena.size_push ..
        dsimp only [Arena.pushPoint]
        rw [← second]
        rfl

theorem declareScalar_ok (declares : drawing.declareScalar problem label = .ok next) :
    drawing.entity? label = none ∧ next.arena.size = drawing.arena.size + 1 ∧
      next.entities = drawing.entities ++ [(label, .scalar drawing.arena.size)] := by
  unfold declareScalar at declares
  split at declares
  · cases declares
  · rename_i fresh
    split at declares
    · cases declares
    · cases declares
      exact ⟨Option.not_isSome_iff_eq_none.mp fresh, Arena.size_push .., rfl⟩

theorem WellFormed.declarePoint (formed : drawing.WellFormed)
    (declares : drawing.declarePoint problem label = .ok next) : next.WellFormed := by
  obtain ⟨fresh, size, entities⟩ := declarePoint_ok declares
  apply formed.declare fresh entities
  rw [size, List.range_succ, List.range_succ, List.append_assoc]
  rfl

theorem WellFormed.declareScalar (formed : drawing.WellFormed)
    (declares : drawing.declareScalar problem label = .ok next) : next.WellFormed := by
  obtain ⟨fresh, size, entities⟩ := declareScalar_ok declares
  apply formed.declare fresh entities
  rw [size, List.range_succ]
  rfl

def kinds (drawing : Drawing α) : List (Label × EntityKind) :=
  drawing.entities.map fun (label, entity) => (label, entity.kind)

theorem declareAll_ok {instructions : List (Instruction α)} (formed : drawing.WellFormed)
    (declares : declareAll problem drawing instructions = .ok next) :
    next.WellFormed ∧ next.kinds = drawing.kinds ++ instructions.filterMap Instruction.declared? := by
  induction instructions generalizing drawing with
  | nil =>
      cases declares
      exact ⟨formed, (List.append_nil _).symm⟩
  | cons instruction rest ih =>
      rw [List.filterMap_cons]
      cases instruction with
      | declarePoint label =>
          obtain ⟨after, first, later⟩ := bind_eq_ok_iff.mp declares
          obtain ⟨nextFormed, kinds⟩ := ih (formed.declarePoint first) later
          obtain ⟨_, _, entities⟩ := declarePoint_ok first
          refine ⟨nextFormed, kinds.trans ?_⟩
          rw [Drawing.kinds, entities, List.map_append, List.append_assoc]
          rfl
      | declareScalar label =>
          obtain ⟨after, first, later⟩ := bind_eq_ok_iff.mp declares
          obtain ⟨nextFormed, kinds⟩ := ih (formed.declareScalar first) later
          obtain ⟨_, _, entities⟩ := declareScalar_ok first
          refine ⟨nextFormed, kinds.trans ?_⟩
          rw [Drawing.kinds, entities, List.map_append, List.append_assoc]
          rfl
      | _ => exact ih formed declares

theorem ofProblem_ok (built : ofProblem problem = .ok drawing) :
    ∃ declared constraints, declareAll problem empty problem.instructions = .ok declared ∧
      declared.stateAll problem.instructions = .ok constraints ∧
      drawing = { declared with constraints := constraints } := by
  unfold ofProblem at built
  dsimp only at built
  split at built
  · cases built
  · obtain ⟨declared, declares, built⟩ := bind_eq_ok_iff.mp built
    split at built
    · cases built
    · obtain ⟨constraints, states, built⟩ := bind_eq_ok_iff.mp built
      cases built
      exact ⟨declared, constraints, declares, states, rfl⟩

end Declare

end Drawing

section Labels

def labelsOf (kind : EntityKind) (declared : List (Label × EntityKind)) : List Label :=
  (declared.filter fun entry => entry.2 = kind).map Prod.fst

theorem nodup_labelsOf {declared : List (Label × EntityKind)}
    (distinct : (declared.map Prod.fst).Nodup) :
    (labelsOf .point declared ++ labelsOf .scalar declared).Nodup := by
  have other : (declared.filter fun entry => entry.2 = .scalar) =
      declared.filter fun entry => !decide (entry.2 = .point) := by
    apply List.filter_congr
    rintro ⟨label, kind⟩ _
    cases kind <;> rfl
  unfold labelsOf
  rw [other, ← List.map_append]
  exact ((List.filter_append_perm _ declared).map Prod.fst).nodup_iff.mpr distinct

theorem declaredLabels_eq (instructions : List (Instruction α)) :
    Text.declaredLabels instructions =
      (labelsOf .point (instructions.filterMap Instruction.declared?),
        labelsOf .scalar (instructions.filterMap Instruction.declared?)) := by
  induction instructions with
  | nil => rfl
  | cons instruction rest ih =>
      rw [List.filterMap_cons]
      cases instruction with
      | declarePoint label | declareScalar label =>
          rw [Text.declaredLabels, ih]
          rfl
      | _ => exact ih

/-- The labels that a problem keeps are those that its instructions declare, by kind and in order. -/
structure Text.Problem.KeepsLabels (problem : Problem α) : Prop where
  points_eq : problem.points = labelsOf .point (problem.instructions.filterMap Instruction.declared?)
  scalars_eq :
    problem.scalars = labelsOf .scalar (problem.instructions.filterMap Instruction.declared?)

theorem keepsLabels_ofContents (contents : Text.Contents α) :
    (Problem.ofContents contents).KeepsLabels where
  points_eq := congrArg Prod.fst (declaredLabels_eq contents.instructions)
  scalars_eq := congrArg Prod.snd (declaredLabels_eq contents.instructions)

theorem keepsLabels_of_read {text : String} {problem : Problem Float}
    (reads : Problem.read text = .ok problem) : problem.KeepsLabels := by
  obtain ⟨contents, _, rfl⟩ := map_eq_ok_iff.mp reads
  exact keepsLabels_ofContents contents

variable (drawing : Drawing α)

theorem map_fst_points : drawing.points.map Prod.fst = labelsOf .point drawing.kinds := by
  unfold Drawing.points Drawing.kinds
  induction drawing.entities with
  | nil => rfl
  | cons entry rest ih =>
      obtain ⟨label, entity⟩ := entry
      rw [List.filterMap_cons]
      cases entity with
      | point p => exact congrArg (label :: ·) ih
      | scalar id => exact ih

theorem map_fst_scalars : drawing.scalars.map Prod.fst = labelsOf .scalar drawing.kinds := by
  unfold Drawing.scalars Drawing.kinds
  induction drawing.entities with
  | nil => rfl
  | cons entry rest ih =>
      obtain ⟨label, entity⟩ := entry
      rw [List.filterMap_cons]
      cases entity with
      | point p => exact ih
      | scalar id => exact congrArg (label :: ·) ih

end Labels

namespace Drawing

variable {drawing : Drawing α} {arena : Arena α}

theorem WellFormed.known (formed : drawing.WellFormed) (size : arena.size = drawing.arena.size)
    {entry : Label × Entity} (member : entry ∈ drawing.entities) :
    arena.Contains entry.2.unknowns := by
  intro id mentioned
  have listed : id ∈ drawing.entities.flatMap (fun entry => entry.2.unknowns) :=
    List.mem_flatMap.mpr ⟨entry, member, mentioned⟩
  rw [formed.unknowns_eq, List.mem_range] at listed
  rwa [size]

theorem mem_of_entity? {label : Label} {entity : Entity}
    (found : drawing.entity? label = some entity) : (label, entity) ∈ drawing.entities :=
  mem_of_lookup found

section Reading

variable [OfNat α 0]

theorem place?_eq {p : Point UnknownId} (known : arena.Contains p.coordinates) :
    arena.place? p = some (p.map arena.reading) := by
  have first : p.x < arena.size := known _ List.mem_cons_self
  have second : p.y < arena.size := known _ (List.mem_cons_of_mem _ List.mem_cons_self)
  rw [Arena.place?, Arena.value?_of_lt first, Arena.value?_of_lt second, Point.map,
    Arena.reading_eq (Arena.value?_of_lt first), Arena.reading_eq (Arena.value?_of_lt second)]
  rfl

end Reading

end Drawing

end Drafting
