import Mathlib.Data.List.Nodup
import Drafting.Arena
import Drafting.Linear.DenseMatrix

/-!
# Reading and writing values

Writing some values changes the values of just these unknowns, and neither a name nor the size.
-/

namespace Drafting.Arena

variable {α : Type}

theorem value?_eq_some_iff {arena : Arena α} {id : UnknownId} {value : α} :
    arena.value? id = some value ↔ ∃ known : id < arena.size, arena.value id known = value := by
  constructor
  · intro found
    obtain ⟨unknown, atId, holds⟩ := Option.map_eq_some_iff.mp found
    obtain ⟨known, entry⟩ := Array.getElem?_eq_some_iff.mp atId
    refine ⟨known, ?_⟩
    rw [← holds, ← entry]
    rfl
  · rintro ⟨known, holds⟩
    have entry : arena.get? id = some arena.unknowns[id] := Array.getElem?_eq_getElem known
    rw [value?, entry, Option.map_some, ← holds]
    rfl

theorem value?_of_lt {arena : Arena α} {id : UnknownId} (known : id < arena.size) :
    arena.value? id = some (arena.value id known) :=
  value?_eq_some_iff.mpr ⟨known, rfl⟩

theorem value?_eq_none_iff {arena : Arena α} {id : UnknownId} :
    arena.value? id = none ↔ arena.size ≤ id := by
  unfold value? get? size
  rw [Option.map_eq_none_iff, Array.getElem?_eq_none_iff]

theorem value?_set (arena : Arena α) (id other : UnknownId) (value : α) :
    (arena.set id value).value? other =
      if id = other then (arena.value? other).map (fun _ => value) else arena.value? other := by
  unfold value? get? set
  rw [Array.getElem?_modify]
  split
  · rw [Option.map_map, Option.map_map]
    rfl
  · rfl

theorem value?_set_of_ne (arena : Arena α) {id other : UnknownId} (different : other ≠ id)
    (value : α) : (arena.set id value).value? other = arena.value? other := by
  rw [value?_set, if_neg different.symm]

theorem value?_set_self {arena : Arena α} {id : UnknownId} (known : id < arena.size) (value : α) :
    (arena.set id value).value? id = some value := by
  rw [value?_set, if_pos rfl, value?_of_lt known, Option.map_some]

@[simp] theorem names_set (arena : Arena α) (id : UnknownId) (value : α) :
    (arena.set id value).names = arena.names := by
  unfold names set
  apply List.ext_getElem?
  intro i
  simp only [List.getElem?_map, Array.getElem?_toList, Array.getElem?_modify]
  by_cases same : id = i
  · rw [if_pos same, Option.map_map]
    rfl
  · rw [if_neg same]

private theorem write_cons (arena : Arena α) (id : UnknownId) (ids : List UnknownId) (value : α)
    (values : List α) :
    arena.write (id :: ids) (value :: values) = (arena.set id value).write ids values := rfl

@[simp] theorem names_write (arena : Arena α) (ids : List UnknownId) (values : List α) :
    (arena.write ids values).names = arena.names := by
  induction ids generalizing arena values with
  | nil => rfl
  | cons id rest ih =>
      cases values with
      | nil => rfl
      | cons value others => rw [write_cons, ih, names_set]

theorem value?_write_of_not_mem (arena : Arena α) {ids : List UnknownId} {other : UnknownId}
    (untouched : other ∉ ids) (values : List α) :
    (arena.write ids values).value? other = arena.value? other := by
  induction ids generalizing arena values with
  | nil => rfl
  | cons id rest ih =>
      obtain ⟨different, later⟩ := not_or.mp (List.mem_cons.not.mp untouched)
      cases values with
      | nil => rfl
      | cons value others =>
          rw [write_cons, ih _ later, value?_set_of_ne arena different]

private theorem value?_write_getElem {arena : Arena α} {ids : List UnknownId} {values : List α}
    (distinct : ids.Nodup) (known : arena.Contains ids) {i : Nat} (inIds : i < ids.length)
    (inValues : i < values.length) : (arena.write ids values).value? ids[i] = some values[i] := by
  induction ids generalizing arena values i with
  | nil => cases inIds
  | cons id rest ih =>
      obtain ⟨fresh, laterDistinct⟩ := List.nodup_cons.mp distinct
      cases values with
      | nil => cases inValues
      | cons value others =>
          rw [write_cons]
          cases i with
          | zero =>
              rw [List.getElem_cons_zero, List.getElem_cons_zero, value?_write_of_not_mem _ fresh,
                value?_set_self (known id List.mem_cons_self)]
          | succ i =>
              rw [List.getElem_cons_succ, List.getElem_cons_succ]
              apply ih laterDistinct
              intro later member
              rw [size_set]
              exact known later (List.mem_cons_of_mem id member)

theorem value?_write_get {arena : Arena α} {ids : List UnknownId} (distinct : ids.Nodup)
    (known : arena.Contains ids) (values : Vector α ids.length) (i : Fin ids.length) :
    (arena.write ids values.toList).value? (ids.get i) = some (values.get i) := by
  have inValues : i.val < values.toList.length := by
    rw [Vector.length_toList]
    exact i.isLt
  exact value?_write_getElem distinct known i.isLt inValues

theorem set_eq_self {arena : Arena α} {id : UnknownId} {value : α}
    (holds : arena.value? id = some value) : arena.set id value = arena := by
  obtain ⟨unknown, atId, same⟩ := Option.map_eq_some_iff.mp holds
  refine congrArg Arena.mk (Array.ext_getElem? fun i => ?_)
  rw [Array.getElem?_modify]
  by_cases isId : id = i
  · subst isId
    have entry : arena.unknowns[id]? = some unknown := atId
    rw [if_pos rfl, entry, ← same, Option.map_some]
  · rw [if_neg isId]

/-- Writing what is there already changes nothing. -/
theorem write_eq_self {arena : Arena α} {ids : List UnknownId} (values : Vector α ids.length)
    (holds : ∀ i, arena.value? (ids.get i) = some (values.get i)) :
    arena.write ids values.toList = arena := by
  have entries : ∀ entry ∈ ids.zip values.toList, arena.value? entry.1 = some entry.2 := by
    intro entry member
    obtain ⟨i, bound, same⟩ := List.mem_iff_getElem.mp member
    rw [List.length_zip] at bound
    subst same
    rw [List.getElem_zip]
    exact holds ⟨i, (Nat.lt_min.mp bound).1⟩
  unfold write
  generalize ids.zip values.toList = written at entries
  induction written with
  | nil => rfl
  | cons entry rest ih =>
      obtain ⟨here, later⟩ := List.forall_mem_cons.mp entries
      rw [List.foldl_cons]
      dsimp only
      rw [set_eq_self here, ih later]

theorem get_read (arena : Arena α) (ids : List UnknownId) (known : arena.Contains ids)
    (i : Fin ids.length) :
    arena.value? (ids.get i) = some ((arena.read ids known).get i) := by
  rw [value?_of_lt (known _ (List.get_mem ids i)), read, get_ofFn]

theorem contains_of_holds {arena : Arena α} {ids : List UnknownId} {values : Vector α ids.length}
    (holds : ∀ i, arena.value? (ids.get i) = some (values.get i)) : arena.Contains ids := by
  intro id member
  obtain ⟨i, same⟩ := List.get_of_mem member
  subst same
  exact (value?_eq_some_iff.mp (holds i)).1

theorem read_eq_of_holds {arena : Arena α} {ids : List UnknownId} {values : Vector α ids.length}
    (holds : ∀ i, arena.value? (ids.get i) = some (values.get i)) (known : arena.Contains ids) :
    arena.read ids known = values := by
  apply Vector.ext
  intro i bound
  have read := get_read arena ids known ⟨i, bound⟩
  exact Option.some.inj (read.symm.trans (holds ⟨i, bound⟩))

theorem set_comm (arena : Arena α) {id other : UnknownId} (different : id ≠ other)
    (value otherValue : α) :
    (arena.set id value).set other otherValue = (arena.set other otherValue).set id value := by
  refine congrArg Arena.mk (Array.ext_getElem? fun i => ?_)
  simp only [set, Array.getElem?_modify]
  by_cases isId : id = i
  · subst isId
    rw [if_neg different.symm, if_pos rfl, if_pos rfl, if_neg different.symm]
  · rw [if_neg isId, if_neg isId]

theorem write_set_comm (arena : Arena α) {ids : List UnknownId} {other : UnknownId}
    (untouched : other ∉ ids) (values : List α) (value : α) :
    (arena.set other value).write ids values = (arena.write ids values).set other value := by
  induction ids generalizing arena values with
  | nil => rfl
  | cons id rest ih =>
      obtain ⟨different, later⟩ := not_or.mp (List.mem_cons.not.mp untouched)
      cases values with
      | nil => rfl
      | cons first others =>
          rw [write_cons, write_cons, set_comm arena different, ih _ later]

/-- Values for different unknowns can be written in either order. -/
theorem write_comm (arena : Arena α) {ids others : List UnknownId} (apart : ∀ id ∈ ids, id ∉ others)
    (values otherValues : List α) :
    (arena.write ids values).write others otherValues =
      (arena.write others otherValues).write ids values := by
  induction ids generalizing arena values with
  | nil => rfl
  | cons id rest ih =>
      obtain ⟨here, later⟩ := List.forall_mem_cons.mp apart
      cases values with
      | nil => rfl
      | cons value remaining =>
          rw [write_cons, write_cons, ih _ later, write_set_comm arena here]

/-- An unknown has the same value in another arena, where it goes by another name. -/
def Corresponds (rename : UnknownId → UnknownId) (arena arena' : Arena α) (id : UnknownId) : Prop :=
  arena'.value? (rename id) = arena.value? id

theorem Corresponds.write {rename : UnknownId → UnknownId} (injective : Function.Injective rename)
    {arena arena' : Arena α} {id : UnknownId} (same : Corresponds rename arena arena' id)
    (ids : List UnknownId) (values : List α) :
    Corresponds rename (arena.write ids values) (arena'.write (ids.map rename) values) id := by
  induction ids generalizing arena arena' values with
  | nil => exact same
  | cons other rest ih =>
      cases values with
      | nil => exact same
      | cons value others =>
          rw [List.map_cons, write_cons, write_cons]
          apply ih
          unfold Corresponds at same ⊢
          rw [value?_set, value?_set, same]
          simp only [injective.eq_iff]

def AgreeOn (ids : List UnknownId) (arena other : Arena α) : Prop :=
  ∀ id ∈ ids, arena.value? id = other.value? id

theorem AgreeOn.contains_iff {ids : List UnknownId} {arena other : Arena α}
    (agree : AgreeOn ids arena other) : arena.Contains ids ↔ other.Contains ids := by
  have sameBound (id : UnknownId) (member : id ∈ ids) : id < arena.size ↔ id < other.size := by
    have same := agree id member
    rw [← not_iff_not, Nat.not_lt, Nat.not_lt, ← value?_eq_none_iff, ← value?_eq_none_iff, same]
  exact forall₂_congr sameBound

theorem AgreeOn.read_eq {ids : List UnknownId} {arena other : Arena α}
    (agree : AgreeOn ids arena other) (known : arena.Contains ids)
    (otherKnown : other.Contains ids) : arena.read ids known = other.read ids otherKnown := by
  apply Vector.ext
  intro i bound
  have same := agree (ids.get ⟨i, bound⟩) (List.get_mem ids ⟨i, bound⟩)
  rw [get_read arena ids known, get_read other ids otherKnown] at same
  exact Option.some.inj same

end Drafting.Arena
