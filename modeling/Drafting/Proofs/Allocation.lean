import Drafting.Proofs.ArenaValues
import Drafting.Proofs.Building
import Drafting.Proofs.Document
import Drafting.Proofs.Meaning

/-!
# Where the unknowns of a drawing are

Each declaration takes the next unknowns of the arena, two for a point and one for a scalar. They hold
its guess and are named after its label. No label has a dot in it, so no two unknowns have the same
name.
-/

namespace Drafting

open Text (Label Instruction Problem)

variable {α : Type}

section Definitions

/-- How many unknowns some declarations take. -/
def allotted (declared : List (Label × EntityKind)) : Nat :=
  2 * (labelsOf .point declared).length + (labelsOf .scalar declared).length

def namesOf : Label × EntityKind → List String
  | (label, .point) => [label ++ ".x", label ++ ".y"]
  | (label, .scalar) => [label]

/-- A declared label has its unknowns from the first one on, with its guess and its names. -/
inductive Allots (problem : Problem α) (drawing : Drawing α) (first : UnknownId) :
    Label × EntityKind → Prop
  | point {label : Label} {place : Point α} (guessed : (label, place) ∈ problem.pointGuesses)
      (found : drawing.entity? label = some (.point ⟨first, first + 1⟩))
      (atX : drawing.arena.get? first = some ⟨place.x, some (label ++ ".x")⟩)
      (atY : drawing.arena.get? (first + 1) = some ⟨place.y, some (label ++ ".y")⟩) :
      Allots problem drawing first (label, .point)
  | scalar {label : Label} {value : α} (guessed : (label, value) ∈ problem.scalarGuesses)
      (found : drawing.entity? label = some (.scalar first))
      (atIt : drawing.arena.get? first = some ⟨value, some label⟩) :
      Allots problem drawing first (label, .scalar)

/-- Labels keep what they stand for, and unknowns their values and names. -/
structure Drawing.Extends (drawing next : Drawing α) : Prop where
  entity?_eq : ∀ label entity, drawing.entity? label = some entity → next.entity? label = some entity
  get?_eq : ∀ id unknown, drawing.arena.get? id = some unknown → next.arena.get? id = some unknown

/-- The unknowns of a drawing are those of a problem's declarations, in order. -/
structure Drawing.Allocated (problem : Problem α) (drawing : Drawing α) : Prop where
  kinds_eq : drawing.kinds = problem.declared
  allots : ∀ before entry after, problem.declared = before ++ entry :: after →
    Allots problem drawing (allotted before) entry
  size_eq : drawing.arena.size = 2 * problem.points.length + problem.scalars.length
  disjoint : ∀ label entity other otherEntity, drawing.entity? label = some entity →
    drawing.entity? other = some otherEntity → label ≠ other →
      ∀ id ∈ entity.unknowns, id ∉ otherEntity.unknowns

/-- A drawing whose constraints know their unknowns, and whose unknowns have names of their own. -/
structure Drawing.Sound (drawing : Drawing α) : Prop where
  formed : drawing.WellFormed
  known : ∀ c ∈ drawing.constraints, drawing.arena.Contains c.unknowns
  named : ∃ names : List String, drawing.arena.names = names.map some ∧ names.Nodup

end Definitions

namespace Arena

variable {arena : Arena α} {id : UnknownId} {unknown : Unknown α}

theorem get?_push (value : α) (name : Option String) :
    (arena.push value name).2.get? id =
      if id = arena.size then some ⟨value, name⟩ else arena.get? id :=
  Array.getElem?_push

theorem lt_of_get? (found : arena.get? id = some unknown) : id < arena.size :=
  (Array.getElem?_eq_some_iff.mp found).1

theorem get?_push_of_get? (found : arena.get? id = some unknown) (value : α)
    (name : Option String) : (arena.push value name).2.get? id = some unknown := by
  rw [get?_push, if_neg (Nat.ne_of_lt (lt_of_get? found)), found]

theorem get?_push_size (value : α) (name : Option String) :
    (arena.push value name).2.get? arena.size = some ⟨value, name⟩ := by
  rw [get?_push, if_pos rfl]

theorem names_push (value : α) (name : Option String) :
    (arena.push value name).2.names = arena.names ++ [name] := by
  unfold names push
  rw [Array.toList_push, List.map_append]
  rfl

theorem length_names (arena : Arena α) : arena.names.length = arena.size := by
  rw [names, List.length_map]
  rfl

theorem size_eq_of_names {other : Arena α} (same : other.names = arena.names) :
    other.size = arena.size := by
  rw [← length_names, same, length_names]

theorem name_of_names {names : List String} (named : arena.names = names.map some)
    (known : id < names.length) : (arena.get? id).bind Unknown.name = some names[id] := by
  have entry : arena.names[id]? = (arena.get? id).map Unknown.name := by
    rw [Arena.names, List.getElem?_map, Array.getElem?_toList]
    rfl
  rw [named, List.getElem?_map, List.getElem?_eq_getElem known] at entry
  obtain ⟨unknown, found, same⟩ := Option.map_eq_some_iff.mp entry.symm
  rw [found]
  exact same

end Arena

section Steps

variable {problem : Problem α} {drawing mid next : Drawing α} {label : Label}

theorem Drawing.Extends.refl (drawing : Drawing α) : drawing.Extends drawing :=
  ⟨fun _ _ => id, fun _ _ => id⟩

theorem Drawing.Extends.trans (first : drawing.Extends mid) (second : mid.Extends next) :
    drawing.Extends next where
  entity?_eq label entity found := second.entity?_eq label entity (first.entity?_eq label entity found)
  get?_eq id unknown found := second.get?_eq id unknown (first.get?_eq id unknown found)

theorem Allots.extend {first : UnknownId} {entry : Label × EntityKind}
    (allots : Allots problem drawing first entry) (extended : drawing.Extends next) :
    Allots problem next first entry := by
  cases allots with
  | point guessed found atX atY =>
      exact .point guessed (extended.entity?_eq _ _ found) (extended.get?_eq _ _ atX)
        (extended.get?_eq _ _ atY)
  | scalar guessed found atIt =>
      exact .scalar guessed (extended.entity?_eq _ _ found) (extended.get?_eq _ _ atIt)

structure Declares (problem : Problem α) (drawing next : Drawing α) (entry : Label × EntityKind) :
    Prop where
  allots : Allots problem next drawing.arena.size entry
  extended : drawing.Extends next
  names_eq : next.arena.names = drawing.arena.names ++ (namesOf entry).map some

theorem entity?_append {more : List (Label × Entity)}
    (entities : next.entities = drawing.entities ++ more) {entity : Entity}
    (found : drawing.entity? label = some entity) : next.entity? label = some entity := by
  rw [Drawing.entity?, entities, List.lookup_append]
  exact congrArg (Option.or · _) found

theorem entity?_append_of_none {entity : Entity}
    (entities : next.entities = drawing.entities ++ [(label, entity)])
    (fresh : drawing.entity? label = none) : next.entity? label = some entity := by
  have none : drawing.entities.lookup label = none := fresh
  rw [Drawing.entity?, entities, List.lookup_append, none, Option.none_or]
  exact List.lookup_cons_self

theorem declares_of_declarePoint (declares : drawing.declarePoint problem label = .ok next) :
    Declares problem drawing next (label, .point) := by
  obtain ⟨fresh, _, entities⟩ := Drawing.declarePoint_ok declares
  have found := entity?_append_of_none entities fresh
  unfold Drawing.declarePoint at declares
  split at declares
  · cases declares
  · split at declares
    · cases declares
    · rename_i place guess
      cases declares
      have second : (drawing.arena.push place.x (some (label ++ ".x"))).2.size =
          drawing.arena.size + 1 := Arena.size_push ..
      refine ⟨.point (mem_of_lookup guess) found ?_ ?_, ⟨?_, ?_⟩, ?_⟩
      · exact Arena.get?_push_of_get? (Arena.get?_push_size _ _) _ _
      · rw [← second]
        exact Arena.get?_push_size _ _
      · exact fun other entity => entity?_append entities
      · exact fun id unknown before =>
          Arena.get?_push_of_get? (Arena.get?_push_of_get? before _ _) _ _
      · refine (Arena.names_push _ _).trans ((congrArg (· ++ _) (Arena.names_push _ _)).trans ?_)
        rw [List.append_assoc]
        rfl

theorem declares_of_declareScalar (declares : drawing.declareScalar problem label = .ok next) :
    Declares problem drawing next (label, .scalar) := by
  obtain ⟨fresh, _, entities⟩ := Drawing.declareScalar_ok declares
  have found := entity?_append_of_none entities fresh
  unfold Drawing.declareScalar at declares
  split at declares
  · cases declares
  · split at declares
    · cases declares
    · rename_i value guess
      cases declares
      refine ⟨.scalar (mem_of_lookup guess) found (Arena.get?_push_size _ _), ⟨?_, ?_⟩, ?_⟩
      · exact fun other entity => entity?_append entities
      · exact fun id unknown before => Arena.get?_push_of_get? before _ _
      · exact Arena.names_push _ _

end Steps

section Runs

variable {problem : Problem α} {drawing mid next : Drawing α} {entry : Label × EntityKind}
  {declared : List (Label × EntityKind)}

theorem allotted_cons (entry : Label × EntityKind) (declared : List (Label × EntityKind)) :
    allotted (entry :: declared) = (namesOf entry).length + allotted declared := by
  obtain ⟨label, kind⟩ := entry
  cases kind with
  | point =>
      have both : allotted ((label, .point) :: declared) =
          2 * ((labelsOf .point declared).length + 1) + (labelsOf .scalar declared).length := rfl
      have names : (namesOf (label, .point)).length = 2 := rfl
      rw [both, names, allotted]
      omega
  | scalar =>
      have both : allotted ((label, .scalar) :: declared) =
          2 * (labelsOf .point declared).length + ((labelsOf .scalar declared).length + 1) := rfl
      have names : (namesOf (label, .scalar)).length = 1 := rfl
      rw [both, names, allotted]
      omega

theorem length_flatMap_namesOf (declared : List (Label × EntityKind)) :
    (declared.flatMap namesOf).length = allotted declared := by
  induction declared with
  | nil => rfl
  | cons entry rest ih => rw [List.flatMap_cons, List.length_append, ih, allotted_cons]

structure DeclaresAll (problem : Problem α) (drawing next : Drawing α)
    (declared : List (Label × EntityKind)) : Prop where
  allots : ∀ before entry after, declared = before ++ entry :: after →
    Allots problem next (drawing.arena.size + allotted before) entry
  extended : drawing.Extends next
  names_eq : next.arena.names = drawing.arena.names ++ (declared.flatMap namesOf).map some

theorem declaresAll_nil : DeclaresAll problem drawing drawing [] where
  allots before entry after split := by
    cases before <;> cases split
  extended := .refl drawing
  names_eq := (List.append_nil _).symm

theorem Declares.cons (first : Declares problem drawing mid entry)
    (later : DeclaresAll problem mid next declared) :
    DeclaresAll problem drawing next (entry :: declared) where
  allots before other after split := by
    have size : mid.arena.size = drawing.arena.size + (namesOf entry).length := by
      rw [← Arena.length_names, first.names_eq, List.length_append, List.length_map,
        Arena.length_names]
    -- The first unknown is that of the earlier arena for this entry, and lies behind it for all others.
    cases before with
    | nil =>
        cases split
        exact first.allots.extend later.extended
    | cons head before =>
        cases split
        rw [allotted_cons, ← Nat.add_assoc, ← size]
        exact later.allots before other after rfl
  extended := first.extended.trans later.extended
  names_eq := by
    rw [later.names_eq, first.names_eq, List.append_assoc, List.flatMap_cons, List.map_append]

/-- The labels are allotted unknowns in the order of their declarations. -/
theorem declaresAll_of_declareAll {instructions : List (Instruction α)}
    (declares : Drawing.declareAll problem drawing instructions = .ok next) :
    DeclaresAll problem drawing next (instructions.filterMap Instruction.declared?) := by
  induction instructions generalizing drawing with
  | nil =>
      cases declares
      exact declaresAll_nil
  | cons instruction rest ih =>
      rw [List.filterMap_cons]
      cases instruction with
      | declarePoint label =>
          obtain ⟨mid, first, later⟩ := bind_eq_ok_iff.mp declares
          exact (declares_of_declarePoint first).cons (ih later)
      | declareScalar label =>
          obtain ⟨mid, first, later⟩ := bind_eq_ok_iff.mp declares
          exact (declares_of_declareScalar first).cons (ih later)
      | _ => exact ih declares

end Runs

section Names

theorem append_ne_of_ne {label first second : String} (different : first ≠ second) :
    label ++ first ≠ label ++ second := by
  intro same
  have lists := congrArg String.toList same
  rw [String.toList_append, String.toList_append] at lists
  exact different (String.toList_injective (List.append_cancel_left lists))

theorem nodup_namesOf (entry : Label × EntityKind) : (namesOf entry).Nodup := by
  obtain ⟨label, kind⟩ := entry
  cases kind with
  | point =>
      have different : label ++ ".x" ≠ label ++ ".y" := append_ne_of_ne (by decide)
      exact List.nodup_cons.mpr ⟨mt List.mem_singleton.mp different, List.nodup_singleton _⟩
  | scalar => exact List.nodup_singleton label

/-- Up to a dot, a name is the label. -/
theorem takeWhile_name {entry : Label × EntityKind} {name : String} (named : name ∈ namesOf entry)
    (dotless : '.' ∉ entry.1.toList) : name.toList.takeWhile (· != '.') = entry.1.toList := by
  obtain ⟨label, kind⟩ := entry
  have inside : ∀ c ∈ label.toList, (c != '.') = true :=
    fun c member => bne_iff_ne.mpr fun same => dotless (same ▸ member)
  cases kind with
  | point =>
      rcases List.mem_cons.mp named with same | later
      · rw [same, String.toList_append]
        exact takeWhile_run inside (Text.endsRun_cons (by decide))
      · rw [List.mem_singleton.mp later, String.toList_append]
        exact takeWhile_run inside (Text.endsRun_cons (by decide))
  | scalar =>
      rw [List.mem_singleton.mp named]
      exact List.takeWhile_eq_self_iff.mpr inside

/-- Different labels without dots have different names. -/
theorem nodup_flatMap_namesOf {declared : List (Label × EntityKind)}
    (distinct : (declared.map Prod.fst).Nodup)
    (dotless : ∀ entry ∈ declared, '.' ∉ entry.1.toList) : (declared.flatMap namesOf).Nodup := by
  rw [List.nodup_flatMap]
  refine ⟨fun entry _ => nodup_namesOf entry, ?_⟩
  apply (List.pairwise_map.mp distinct).imp_of_mem
  intro entry other member otherMember different name named alsoNamed
  apply different
  apply String.toList_injective
  rw [← takeWhile_name named (dotless entry member),
    takeWhile_name alsoNamed (dotless other otherMember)]

end Names

section Labels

open Text

theorem Text.Continues.exists_meant {part last : Section} {lines : List (List Char)}
    {instructions : List (Instruction Float)} {guesses : List (Guess Float)}
    (continues : Continues part lines last instructions guesses) {instruction : Instruction Float}
    (member : instruction ∈ instructions) : ∃ line, MeansInstruction line instruction := by
  induction continues with
  | nil => cases member
  | noise _ _ ih | constraintsHeader _ _ ih | guessesHeader _ _ ih | guess _ _ ih => exact ih member
  | instruction meant _ ih =>
      rcases List.mem_cons.mp member with same | later
      · rw [same]
        exact ⟨_, meant⟩
      · exact ih later

theorem Text.SpellsLabel.dotless {taken : List Char} {label : Label}
    (spelled : SpellsLabel taken label) : '.' ∉ label.toList := by
  have noPart : isLabelPart '.' = false := by decide +kernel
  have parts := spelled.parts
  cases spelled with
  | mk =>
      rw [String.toList_ofList]
      intro member
      rw [parts '.' member] at noPart
      cases noPart

/-- No label that is declared in a text has a dot in it. -/
theorem dotless_of_read {text : String} {problem : Problem Float}
    (reads : Problem.read text = .ok problem) : ∀ entry ∈ problem.declared, '.' ∉ entry.1.toList := by
  obtain ⟨last, instructions, guesses, continues, same⟩ := Problem.read_eq_ok_iff.mp reads
  rintro entry declared
  obtain ⟨instruction, member, declares⟩ := List.mem_filterMap.mp declared
  rw [same] at member
  obtain ⟨line, ⟨taken, _, _, spelled, _⟩, _⟩ := continues.exists_meant member
  cases spelled with
  | declarePoint spelled | declareScalar spelled =>
      cases declares
      cases spelled with
      | mk _ _ spelled => exact spelled.dotless
  | distance spelled =>
      cases spelled with
      | mk _ distance _ =>
          cases distance with
          | scalar | value => cases declares
  | _ => cases declares

end Labels

section Drawings

variable {problem : Problem α} {drawing : Drawing α}

theorem declaresAll_of_ofProblem (built : Drawing.ofProblem problem = .ok drawing) :
    DeclaresAll problem .empty drawing problem.declared := by
  obtain ⟨declared, constraints, declares, _, same⟩ := Drawing.ofProblem_ok built
  obtain ⟨allots, extended, names⟩ := declaresAll_of_declareAll declares
  rw [same]
  refine ⟨?_, ⟨extended.entity?_eq, extended.get?_eq⟩, names⟩
  intro before entry after split
  exact (allots before entry after split).extend ⟨fun _ _ => id, fun _ _ => id⟩

theorem constraint?_congr {other : Drawing α} (same : drawing.entities = other.entities)
    (instruction : Instruction α) :
    drawing.constraint? instruction = other.constraint? instruction := by
  have point : drawing.point = other.point := by
    funext label
    rw [Drawing.point, Drawing.point, Drawing.entity?, Drawing.entity?, same]
  have scalar : drawing.scalar = other.scalar := by
    funext label
    rw [Drawing.scalar, Drawing.scalar, Drawing.entity?, Drawing.entity?, same]
  have segment : drawing.segment = other.segment := by
    funext ends
    rw [Drawing.segment, Drawing.segment, point]
  cases instruction <;> simp only [Drawing.constraint?, point, scalar, segment]

/-- Each instruction that is no declaration has one constraint, in order. -/
theorem forall₂_of_ofProblem (built : Drawing.ofProblem problem = .ok drawing) :
    List.Forall₂ (fun instruction c => drawing.constraint? instruction = .ok (some c))
      (problem.instructions.filter fun instruction => !instruction.isDeclaration)
      drawing.constraints := by
  obtain ⟨declared, constraints, _, states, same⟩ := Drawing.ofProblem_ok built
  rw [same]
  apply (Drawing.stateAll_forall₂ states).imp
  intro instruction c found
  rw [← found]
  exact constraint?_congr rfl instruction

theorem Drawing.WellFormed.disjoint (formed : drawing.WellFormed) {label other : Label}
    {entity otherEntity : Entity} (found : drawing.entity? label = some entity)
    (otherFound : drawing.entity? other = some otherEntity) (different : label ≠ other) :
    ∀ id ∈ entity.unknowns, id ∉ otherEntity.unknowns := by
  have distinct : (drawing.entities.flatMap fun entry => entry.2.unknowns).Nodup := by
    rw [formed.unknowns_eq]
    exact List.nodup_range
  have apart := (List.nodup_flatMap.mp distinct).2
  have symmetric : Std.Symm (Function.onFun List.Disjoint fun entry : Label × Entity =>
      entry.2.unknowns) := ⟨fun _ _ separate => separate.symm⟩
  have unlike : (label, entity) ≠ (other, otherEntity) :=
    fun same => different (congrArg Prod.fst same)
  have separate := apart.forall (Drawing.mem_of_entity? found) (Drawing.mem_of_entity? otherFound)
    unlike
  exact fun id member otherMember => separate member otherMember

theorem allocated_of_ofProblem (keeps : problem.KeepsLabels)
    (built : Drawing.ofProblem problem = .ok drawing) : drawing.Allocated problem := by
  obtain ⟨declared, constraints, declares, _, same⟩ := Drawing.ofProblem_ok built
  obtain ⟨formed, kinds⟩ := Drawing.declareAll_ok Drawing.wellFormed_empty declares
  obtain ⟨allots, _, names⟩ := declaresAll_of_ofProblem built
  have formed : drawing.WellFormed := same ▸ ⟨formed.distinct, formed.unknowns_eq⟩
  constructor
  · rw [same]
    exact kinds
  · intro before entry after split
    have here := allots before entry after split
    rwa [show (Drawing.empty : Drawing α).arena.size = 0 from rfl, Nat.zero_add] at here
  · rw [keeps.points_eq, keeps.scalars_eq, ← Arena.length_names, names, List.length_append,
      List.length_map, length_flatMap_namesOf]
    exact Nat.zero_add _
  · exact fun label entity other otherEntity found otherFound => formed.disjoint found otherFound

/-- Other values make no difference to whether a drawing is sound. -/
theorem Drawing.Sound.withArena {arena : Arena α} (sound : drawing.Sound)
    (names : arena.names = drawing.arena.names) :
    ({ drawing with arena := arena } : Drawing α).Sound where
  formed := ⟨sound.formed.distinct, by
    rw [Arena.size_eq_of_names names]
    exact sound.formed.unknowns_eq⟩
  known c member id mentions := by
    rw [Arena.size_eq_of_names names]
    exact sound.known c member id mentions
  named := names ▸ sound.named

theorem sound_of_read {text : String} {problem : Problem Float} {drawing : Drawing Float}
    (reads : Problem.read text = .ok problem) (built : Drawing.ofProblem problem = .ok drawing) :
    drawing.Sound := by
  obtain ⟨formed, kinds, states⟩ := Drawing.ofProblem_states built
  refine ⟨formed, ?_, problem.declared.flatMap namesOf, (declaresAll_of_ofProblem built).names_eq, ?_⟩
  · intro c member
    obtain ⟨instruction, _, measures⟩ := exists_related states.flip member
    obtain ⟨r, measured, _⟩ := measures drawing.arena rfl
    rw [Constraint.residualIn?_eq] at measured
    by_contra unknown
    rw [if_neg unknown] at measured
    cases measured
  · apply nodup_flatMap_namesOf _ (dotless_of_read reads)
    have declared : problem.declared = drawing.kinds := kinds.symm
    rw [declared, Drawing.map_fst_kinds]
    exact formed.distinct

end Drawings

end Drafting
