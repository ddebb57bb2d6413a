import Drafting.Session
import Drafting.Proofs.Guarded.Drawing

/-!
# What stays the same in a session

However long a session is and however its calls end, ids are handed out in order, and an id stays with
its unknown. The unknown keeps its name, and its value changes only where a request sets it or solves
the component that it belongs to.
-/

namespace Drafting

variable {α : Type}

section Definitions

/-- The replies of a session hand out the ids of its arena in order, and the arena lists its unknowns
by them. -/
structure Numbers (replies : List (Reply α)) (arena : Arena α) : Prop where
  ids_eq : replies.flatMap Reply.ids = List.range arena.size
  adjacent : ∀ p, Reply.point p ∈ replies → p.y = p.x + 1
  listed_ids : arena.entries.map Prod.fst = List.range arena.size
  listed_values : arena.entries.map (fun entry => entry.2.value) = arena.values
  value?_of_listed : ∀ entry ∈ arena.entries, arena.value? entry.1 = some entry.2.value

variable [Precision α] [NatCast α] [Add α] [Sub α] [Mul α] [Div α] [Neg α]
  [OfNat α 0] [OfNat α 1] [OfNat α 2] [LT α] [DecidableLT α] [LE α] [DecidableLE α]

/-- How many components a call has solved when it ends, from the first one on. The analysis makes no
difference to that. -/
inductive EndsAfter (decompose : Decomposition α) (settings : Settings α)
    (constraints : List (Constraint UnknownId α)) (arena : Arena α) : Nat → Prop
  | solved {report : SolveReport α} {left : Arena α}
      (ends : solve decompose settings constraints arena = (.solved report, left)) :
      EndsAfter decompose settings constraints arena report.components.length
  | failed {failure : SolveFailure α} {left : Arena α}
      (ends : solve decompose settings constraints arena = (.failed failure, left)) :
      EndsAfter decompose settings constraints arena failure.failedComponent
  | outsideArena {k : Nat} (stops : Guarded.StopsAt decompose settings constraints arena k) :
      EndsAfter decompose settings constraints arena k

/-- A request may change the value of an unknown that it sets, and of one in a component that it has
solved when it ends. -/
def Request.MayChange (decompose : Decomposition α) (arena : Arena α) (id : UnknownId) :
    Request α → Prop
  | .push _ _ | .pushPoint _ _ => False
  | .set other _ => other = id
  | .solve settings constraints _ =>
      ∃ count, EndsAfter decompose settings constraints arena count ∧
        ∃ part ∈ (components constraints).take count, ∃ i ∈ part,
          id ∈ (constraints.get i).unknowns

/-- Requests keep the ids of an arena and their names, and a value differs afterwards only if one of
them may change it. -/
structure Evolves (decompose : Decomposition α) (before : Arena α) (requests : List (Request α))
    (after : Arena α) : Prop where
  keeps : ∀ id unknown, before.get? id = some unknown →
    ∃ value, after.get? id = some ⟨value, unknown.name⟩
  changed : ∀ id < before.size, after.value? id ≠ before.value? id →
    ∃ done request rest, requests = done ++ request :: rest ∧
      request.MayChange decompose (answerAll decompose before done).2 id

end Definitions

namespace Arena

variable {arena after : Arena α}

theorem map_fst_entries (arena : Arena α) : arena.entries.map Prod.fst = List.range arena.size := by
  rw [entries, List.map_map, List.range_eq_range']
  exact List.zipIdx_map_snd 0 arena.unknowns.toList

theorem map_value_entries (arena : Arena α) :
    arena.entries.map (fun entry => entry.2.value) = arena.values := by
  have unknowns : arena.entries.map Prod.snd = arena.unknowns.toList := by
    rw [entries, List.map_map]
    exact List.zipIdx_map_fst 0 arena.unknowns.toList
  rw [values, ← unknowns, List.map_map]
  rfl

theorem get?_of_mem_entries {entry : UnknownId × Unknown α} (member : entry ∈ arena.entries) :
    arena.get? entry.1 = some entry.2 := by
  obtain ⟨numbered, listed, same⟩ := List.mem_map.mp member
  have found := List.mem_zipIdx_iff_getElem?.mp listed
  rw [Array.getElem?_toList] at found
  rw [← same]
  exact found

theorem getElem?_names (arena : Arena α) (id : UnknownId) :
    arena.names[id]? = (arena.get? id).map Unknown.name := by
  rw [names, List.getElem?_map, Array.getElem?_toList]
  rfl

/-- If an arena has the names of another one and more, it has its ids with the same names. -/
theorem get?_of_names_kept (kept : arena.names <+: after.names) {id : UnknownId}
    {unknown : Unknown α} (found : arena.get? id = some unknown) :
    ∃ value, after.get? id = some ⟨value, unknown.name⟩ := by
  obtain ⟨more, names⟩ := kept
  have known : id < arena.names.length := (length_names arena).symm ▸ lt_of_get? found
  have name : (after.get? id).map Unknown.name = some unknown.name := by
    rw [← getElem?_names, ← names, List.getElem?_append_left known, getElem?_names, found,
      Option.map_some]
  obtain ⟨later, laterFound, same⟩ := Option.map_eq_some_iff.mp name
  refine ⟨later.value, ?_⟩
  rw [laterFound, ← same]

theorem value?_push_of_lt {id : UnknownId} (known : id < arena.size) (value : α)
    (name : Option String) : (arena.push value name).2.value? id = arena.value? id := by
  rw [value?, get?_push, if_neg (Nat.ne_of_lt known)]
  rfl

theorem range_size_push (arena : Arena α) (value : α) (name : Option String) :
    List.range (arena.push value name).2.size = List.range arena.size ++ [(arena.push value name).1] := by
  rw [size_push, List.range_succ]
  rfl

end Arena

variable [Precision α] [NatCast α] [Add α] [Sub α] [Mul α] [Div α] [Neg α]
  [OfNat α 0] [OfNat α 1] [OfNat α 2] [LT α] [DecidableLT α] [LE α] [DecidableLE α]

section Calls

variable {decompose : Decomposition α} {settings : Settings α}
  {constraints : List (Constraint UnknownId α)} {arena : Arena α} {count : Nat}

theorem Guarded.StopsAt.length_solved (stops : StopsAt decompose settings constraints arena count) :
    (walk decompose settings (blocks constraints) arena).solved.length = count := by
  have separate : Separate ((blocks constraints).take count) :=
    (separate_blocks constraints).sublist (List.take_sublist count _)
  obtain ⟨block, atCount, _⟩ := stops.1
  rw [walk_eq_of_stopsAt stops, (walk_walksTo separate arena).length_solved stops.2.2]
  exact List.length_take_of_le (List.getElem?_eq_some_iff.mp atCount).1.le

theorem endsAfter_iff : EndsAfter decompose settings constraints arena count ↔
    (walk decompose settings (blocks constraints) arena).solved.length = count := by
  constructor
  · intro ends
    cases ends with
    | solved ends =>
        obtain ⟨_, same, _⟩ := solve_eq_solved_iff.mp ends
        rw [← same, List.length_map]
    | failed ends =>
        obtain ⟨result, _⟩ := solve_failed_iff.mp ends
        exact (Walk.result_eq_failed_iff.mp result).2.1.symm
    | outsideArena stops => exact stops.length_solved
  · intro same
    cases halts : (walk decompose settings (blocks constraints) arena).halt with
    | none =>
        have ends := solve_eq_solved_iff.mpr ⟨halts, rfl, rfl⟩
        rw [← same, ← List.length_map SolvedBlock.report]
        exact .solved ends
    | some halt =>
        cases halt with
        | outsideArena =>
            obtain ⟨k, stops⟩ := Guarded.halt_eq_outsideArena_iff.mp halts
            rw [← same, stops.length_solved]
            exact .outsideArena stops
        | failed positions error =>
            have result : (walk decompose settings (blocks constraints) arena).result
                (lint constraints) id = .failed ⟨error, _, positions, _, lint constraints⟩ :=
              Walk.result_eq_failed_iff.mpr ⟨halts, rfl, rfl, rfl⟩
            have ends := solve_failed_iff.mpr ⟨result, rfl⟩
            rw [← same]
            exact .failed ends

/-- Only components that were solved before the call ended have been written. -/
theorem value?_walk_of_unsolved {id : UnknownId}
    (unsolved : ∀ count, EndsAfter decompose settings constraints arena count →
      ∀ part ∈ (components constraints).take count, ∀ i ∈ part, id ∉ (constraints.get i).unknowns) :
    (walk decompose settings (blocks constraints) arena).arena.value? id = arena.value? id := by
  apply (components_walksTo decompose settings constraints arena).value?_of_unsolved
  rw [blocks_eq_map, ← List.map_take, List.forall_mem_map]
  intro part member mentions
  obtain ⟨i, inPart, inUnknowns⟩ := (mem_unknowns_blockOf constraints).mp mentions
  rw [← blocks_eq_map] at member
  exact unsolved _ (endsAfter_iff.mpr rfl) part member i inPart inUnknowns

end Calls

section Requests

namespace Request

/-- A request hands out no id, and rewrites only values that it may change. -/
structure Rewrites (decompose : Decomposition α) (arena : Arena α) (request : Request α) : Prop where
  ids_eq : (request.answer decompose arena).1.ids = []
  names_eq : (request.answer decompose arena).2.names = arena.names
  value?_eq : ∀ id, ¬request.MayChange decompose arena id →
    (request.answer decompose arena).2.value? id = arena.value? id

variable (decompose : Decomposition α) (arena : Arena α)

theorem rewrites_set (other : UnknownId) (value : α) :
    (set other value).Rewrites decompose arena := by
  by_cases known : other < arena.size
  · have answered : (set other value).answer decompose arena = (.done, arena.set other value) := by
      rw [answer, Arena.set?, if_pos known]
    constructor
    · rw [answered, Reply.ids]
    · rw [answered, Arena.names_set]
    · intro id kept
      rw [answered, Arena.value?_set_of_ne arena (Ne.symm kept)]
  · have refused : (set other value).answer decompose arena = (.outsideArena, arena) := by
      rw [answer, Arena.set?, if_neg known]
    constructor
    · rw [refused, Reply.ids]
    · rw [refused]
    · intro id _
      rw [refused]

/-- With or without the analysis, a solve leaves what the walk over the components leaves. -/
theorem exists_answer_solve (settings : Settings α) (constraints : List (Constraint UnknownId α))
    (analyse : Bool) : ∃ result, (solve settings constraints analyse).answer decompose arena =
      (.ended result, (walk decompose settings (blocks constraints) arena).arena) := by
  cases analyse <;> exact ⟨_, rfl⟩

theorem rewrites_solve (settings : Settings α) (constraints : List (Constraint UnknownId α))
    (analyse : Bool) : (solve settings constraints analyse).Rewrites decompose arena := by
  obtain ⟨result, answered⟩ := exists_answer_solve decompose arena settings constraints analyse
  constructor
  · rw [answered, Reply.ids]
  · rw [answered, (components_walksTo decompose settings constraints arena).leaves, names_writeAll]
  · intro id kept
    rw [answered]
    apply value?_walk_of_unsolved
    intro count ends part member i inPart mentions
    exact kept ⟨count, ends, part, member, i, inPart, mentions⟩

variable {decompose arena} {request : Request α}

theorem Rewrites.range_size (rewrites : request.Rewrites decompose arena) :
    List.range (request.answer decompose arena).2.size =
      List.range arena.size ++ (request.answer decompose arena).1.ids := by
  rw [rewrites.ids_eq, List.append_nil, Arena.size_eq_of_names rewrites.names_eq]

theorem Rewrites.not_point (rewrites : request.Rewrites decompose arena) (p : Point UnknownId) :
    (request.answer decompose arena).1 ≠ .point p := by
  intro answers
  have none := rewrites.ids_eq
  rw [answers] at none
  cases none

theorem Rewrites.keeps_names (rewrites : request.Rewrites decompose arena) :
    arena.names <+: (request.answer decompose arena).2.names := by
  rw [rewrites.names_eq]

variable (decompose arena)

theorem range_size_answer (request : Request α) :
    List.range (request.answer decompose arena).2.size =
      List.range arena.size ++ (request.answer decompose arena).1.ids := by
  cases request with
  | push value name => exact arena.range_size_push value name
  | pushPoint place name =>
      have first := arena.range_size_push place.x (name.map (· ++ ".x"))
      have second := (arena.push place.x (name.map (· ++ ".x"))).2.range_size_push place.y
        (name.map (· ++ ".y"))
      rw [first, List.append_assoc] at second
      exact second
  | set id value => exact (rewrites_set decompose arena id value).range_size
  | solve settings constraints analyse =>
      exact (rewrites_solve decompose arena settings constraints analyse).range_size

theorem adjacent_answer {request : Request α} {p : Point UnknownId}
    (answers : (request.answer decompose arena).1 = .point p) : p.y = p.x + 1 := by
  cases request with
  | push value name => cases answers
  | pushPoint place name =>
      cases answers
      exact Arena.size_push ..
  | set id value => exact absurd answers ((rewrites_set decompose arena id value).not_point p)
  | solve settings constraints analyse =>
      have rewrites := rewrites_solve decompose arena settings constraints analyse
      exact absurd answers (rewrites.not_point p)

theorem names_prefix_answer (request : Request α) :
    arena.names <+: (request.answer decompose arena).2.names := by
  cases request with
  | push value name => exact ⟨_, (Arena.names_push value name).symm⟩
  | pushPoint place name =>
      have first : arena.names <+: (arena.push place.x (name.map (· ++ ".x"))).2.names :=
        ⟨_, (Arena.names_push _ _).symm⟩
      exact first.trans ⟨_, (Arena.names_push _ _).symm⟩
  | set id value => exact (rewrites_set decompose arena id value).keeps_names
  | solve settings constraints analyse =>
      exact (rewrites_solve decompose arena settings constraints analyse).keeps_names

variable {decompose arena}

/-- A request leaves the value of an unknown as it is unless it may change it. -/
theorem value?_answer_of_not_mayChange {id : UnknownId} (known : id < arena.size)
    (kept : ¬request.MayChange decompose arena id) :
    (request.answer decompose arena).2.value? id = arena.value? id := by
  cases request with
  | push value name => exact Arena.value?_push_of_lt known value name
  | pushPoint place name =>
      have stillKnown : id < (arena.push place.x (name.map (· ++ ".x"))).2.size :=
        known.trans_le ((Nat.le_succ _).trans_eq (Arena.size_push ..).symm)
      exact (Arena.value?_push_of_lt stillKnown _ _).trans (Arena.value?_push_of_lt known _ _)
  | set other value => exact (rewrites_set decompose arena other value).value?_eq id kept
  | solve settings constraints analyse =>
      exact (rewrites_solve decompose arena settings constraints analyse).value?_eq id kept

end Request

end Requests

section Runs

variable (decompose : Decomposition α)

theorem replies_answerAll_cons (arena : Arena α) (request : Request α) (rest : List (Request α)) :
    (answerAll decompose arena (request :: rest)).1 = (request.answer decompose arena).1 ::
      (answerAll decompose (request.answer decompose arena).2 rest).1 :=
  rfl

theorem left_answerAll_cons (arena : Arena α) (request : Request α) (rest : List (Request α)) :
    (answerAll decompose arena (request :: rest)).2 =
      (answerAll decompose (request.answer decompose arena).2 rest).2 :=
  rfl

theorem range_size_answerAll (arena : Arena α) (requests : List (Request α)) :
    List.range (answerAll decompose arena requests).2.size =
      List.range arena.size ++ (answerAll decompose arena requests).1.flatMap Reply.ids := by
  induction requests generalizing arena with
  | nil => exact (List.append_nil _).symm
  | cons request rest ih =>
      rw [left_answerAll_cons, ih, request.range_size_answer, replies_answerAll_cons,
        List.flatMap_cons, List.append_assoc]

theorem adjacent_answerAll (arena : Arena α) (requests : List (Request α)) {p : Point UnknownId}
    (answers : Reply.point p ∈ (answerAll decompose arena requests).1) : p.y = p.x + 1 := by
  induction requests generalizing arena with
  | nil => cases answers
  | cons request rest ih =>
      rcases List.mem_cons.mp answers with here | later
      · exact request.adjacent_answer decompose arena here.symm
      · exact ih _ later

theorem names_prefix_answerAll (arena : Arena α) (requests : List (Request α)) :
    arena.names <+: (answerAll decompose arena requests).2.names := by
  induction requests generalizing arena with
  | nil => exact List.prefix_rfl
  | cons request rest ih => exact (request.names_prefix_answer decompose arena).trans (ih _)

theorem exists_mayChange_of_changed (arena : Arena α) (requests : List (Request α)) {id : UnknownId}
    (known : id < arena.size)
    (changed : (answerAll decompose arena requests).2.value? id ≠ arena.value? id) :
    ∃ done request rest, requests = done ++ request :: rest ∧
      request.MayChange decompose (answerAll decompose arena done).2 id := by
  induction requests generalizing arena with
  | nil => exact absurd rfl changed
  | cons request rest ih =>
      by_cases may : request.MayChange decompose arena id
      · exact ⟨[], request, rest, rfl, may⟩
      · have kept := request.value?_answer_of_not_mayChange known may
        have stillKnown : id < (request.answer decompose arena).2.size := by
          have grows := (request.names_prefix_answer decompose arena).length_le
          rw [Arena.length_names, Arena.length_names] at grows
          exact known.trans_le grows
        rw [← kept] at changed
        obtain ⟨done, later, after, split, mayLater⟩ := ih _ stillKnown changed
        exact ⟨request :: done, later, after, congrArg (request :: ·) split, mayLater⟩

theorem evolves_answerAll (arena : Arena α) (requests : List (Request α)) :
    Evolves decompose arena requests (answerAll decompose arena requests).2 where
  keeps _ _ := Arena.get?_of_names_kept (names_prefix_answerAll decompose arena requests)
  changed _ := exists_mayChange_of_changed decompose arena requests

theorem numbers_session (requests : List (Request α)) :
    Numbers (session decompose requests).1 (session decompose requests).2 where
  ids_eq := (range_size_answerAll decompose .empty requests).symm
  adjacent _ := adjacent_answerAll decompose .empty requests
  listed_ids := Arena.map_fst_entries _
  listed_values := Arena.map_value_entries _
  value?_of_listed _ member := congrArg (Option.map Unknown.value) (Arena.get?_of_mem_entries member)

theorem left_answerAll_append (arena : Arena α) (earlier later : List (Request α)) :
    (answerAll decompose arena (earlier ++ later)).2 =
      (answerAll decompose (answerAll decompose arena earlier).2 later).2 := by
  induction earlier generalizing arena with
  | nil => rfl
  | cons request rest ih => exact ih _

end Runs

/-- In a session that starts without unknowns ids are the numbers of their unknowns, in order. Between
two moments ids stay and keep their names, and values change only where a request in between sets them
or solves their components. -/
theorem sessions_keep_identity (decompose : Decomposition α) (earlier later : List (Request α)) :
    Numbers (session decompose (earlier ++ later)).1 (session decompose (earlier ++ later)).2 ∧
      ((session decompose (earlier ++ later)).2.size ≤ 2 ^ 32 →
        ∀ id ∈ (session decompose (earlier ++ later)).1.flatMap Reply.ids, id < 2 ^ 32) ∧
      Evolves decompose (session decompose earlier).2 later
        (session decompose (earlier ++ later)).2 := by
  have numbers := numbers_session decompose (earlier ++ later)
  refine ⟨numbers, ?_, ?_⟩
  · intro few id handedOut
    rw [numbers.ids_eq, List.mem_range] at handedOut
    exact handedOut.trans_le few
  · rw [session, session, left_answerAll_append]
    exact evolves_answerAll decompose _ later

/-- The second unknown is outside the arena, and the first has been solved when the call ends. -/
theorem first_unknown_is_solved_outside_arena :
    (session unitFactors [.push 1 none, .solve ⟨100, 1e-10⟩ twoFixed false]).2 =
        Arena.ofValues [3] ∧
      (∃ value, (Arena.ofValues [3]).get? 0 = some (⟨value, none⟩ : Unknown Float)) ∧
      ∃ done request rest,
        [Request.solve ⟨100, 1e-10⟩ twoFixed false] = done ++ request :: rest ∧
          request.MayChange unitFactors (answerAll unitFactors (Arena.ofValues [1]) done).2 0 := by
  have before : (session unitFactors [Request.push 1 none]).2 = Arena.ofValues [(1 : Float)] := rfl
  have after : (session unitFactors [.push 1 none, .solve ⟨100, 1e-10⟩ twoFixed false]).2 =
      Arena.ofValues [3] := by
    obtain ⟨result, same⟩ := Request.exists_answer_solve unitFactors (Arena.ofValues [(1 : Float)])
      ⟨100, 1e-10⟩ twoFixed false
    have leaves : (walk unitFactors ⟨100, 1e-10⟩ (blocks twoFixed) (Arena.ofValues [1])).arena =
        Arena.ofValues [3] := by
      rw [blocks_twoFixed]
      decide +kernel
    exact (congrArg Prod.snd same).trans leaves
  obtain ⟨_, _, evolves⟩ := sessions_keep_identity unitFactors [Request.push 1 none]
    [.solve ⟨100, 1e-10⟩ twoFixed false]
  rw [before, List.singleton_append, after] at evolves
  refine ⟨after, evolves.keeps 0 ⟨1, none⟩ rfl, evolves.changed 0 (by decide) ?_⟩
  decide +kernel

end Drafting
