import Mathlib.Data.List.Induction
import Drafting.Proofs.ComponentColumns

/-!
# The order of the columns

The columns of a component grow as its constraints are read: an unknown becomes the last column when
it is mentioned for the first time, and no other mention changes anything. So they list the unknowns
by their first mentions, and the column of an unknown is found from either end.
-/

namespace Drafting

variable {α : Type}

def addColumn (columns : List UnknownId) (id : UnknownId) : List UnknownId :=
  if id ∈ columns then columns else columns ++ [id]

structure ByFirstMention (columns mentions : List UnknownId) : Prop where
  distinct : columns.Nodup
  mem_iff : ∀ id, id ∈ columns ↔ id ∈ mentions
  ordered : columns.Pairwise fun a b => mentions.idxOf a < mentions.idxOf b

namespace ByFirstMention

variable {columns mentions : List UnknownId}

/-- One more mention keeps the order: the places of the earlier mentions are still the first ones. -/
protected theorem addColumn (listed : ByFirstMention columns mentions) (id : UnknownId) :
    ByFirstMention (addColumn columns id) (mentions ++ [id]) := by
  have place {other : UnknownId} (member : other ∈ columns) :
      (mentions ++ [id]).idxOf other = mentions.idxOf other :=
    List.idxOf_append_of_mem ((listed.mem_iff other).mp member)
  have kept : columns.Pairwise fun a b => (mentions ++ [id]).idxOf a < (mentions ++ [id]).idxOf b := by
    refine listed.ordered.imp_of_mem ?_
    intro a b inColumns alsoInColumns before
    rw [place inColumns, place alsoInColumns]
    exact before
  by_cases known : id ∈ columns
  · rw [addColumn, if_pos known]
    refine ⟨listed.distinct, ?_, kept⟩
    intro other
    rw [listed.mem_iff, List.mem_append, List.mem_singleton]
    constructor
    · exact Or.inl
    · rintro (old | rfl)
      · exact old
      · exact (listed.mem_iff other).mp known
  · -- The place of a first mention comes after all places so far.
    have fresh : id ∉ mentions := fun old => known ((listed.mem_iff id).mpr old)
    rw [addColumn, if_neg known]
    refine ⟨?_, ?_, ?_⟩
    · rw [List.nodup_append]
      refine ⟨listed.distinct, List.nodup_singleton id, ?_⟩
      rintro other member last isLast rfl
      rw [List.mem_singleton.mp isLast] at member
      exact known member
    · intro other
      rw [List.mem_append, List.mem_append, listed.mem_iff]
    · refine List.pairwise_append.mpr ⟨kept, List.pairwise_singleton _ id, ?_⟩
      intro other member last isLast
      rw [List.mem_singleton.mp isLast, place member, List.idxOf_append_of_notMem fresh]
      have before := List.idxOf_lt_length_of_mem ((listed.mem_iff other).mp member)
      omega

/-- A run over all mentions lists the unknowns by their first mentions. -/
theorem foldl_addColumn (mentions : List UnknownId) :
    ByFirstMention (mentions.foldl Drafting.addColumn []) mentions := by
  induction mentions using List.reverseRecOn with
  | nil => exact ⟨List.nodup_nil, fun _ => Iff.rfl, List.Pairwise.nil⟩
  | append_singleton mentions id ih =>
      rw [List.foldl_append]
      exact ih.addColumn id

/-- Nothing else has these properties. -/
theorem unique {columns other mentions : List UnknownId} (listed : ByFirstMention columns mentions)
    (otherListed : ByFirstMention other mentions) : columns = other := by
  have permuted : columns.Perm other := by
    refine (List.perm_ext_iff_of_nodup listed.distinct otherListed.distinct).mpr fun id => ?_
    rw [listed.mem_iff, otherListed.mem_iff]
  refine permuted.eq_of_pairwise ?_ listed.ordered otherListed.ordered
  intro a b _ _ before after
  omega

end ByFirstMention

theorem eraseDups_concat (ids : List UnknownId) (id : UnknownId) :
    (ids ++ [id]).eraseDups = addColumn ids.eraseDups id := by
  rw [List.eraseDups_append, addColumn]
  by_cases known : id ∈ ids
  · have removed : [id].removeAll ids = [] := by simp [List.removeAll, known]
    rw [removed, if_pos (List.mem_eraseDups.mpr known)]
    exact List.append_nil _
  · have kept : [id].removeAll ids = [id] := by simp [List.removeAll, known]
    rw [kept, if_neg (fun listed => known (List.mem_eraseDups.mp listed))]
    rfl

/-- Reading the constraints one after the other gives the columns. -/
theorem mentioned_eq_foldl (constraints : List (Constraint UnknownId α)) :
    mentioned constraints =
      constraints.foldl (fun columns c => c.unknowns.foldl addColumn columns) [] := by
  have grown (ids : List UnknownId) : ids.eraseDups = ids.foldl addColumn [] := by
    induction ids using List.reverseRecOn with
    | nil => rfl
    | append_singleton ids id ih => rw [eraseDups_concat, ih, List.foldl_append]; rfl
  rw [mentioned, grown, List.foldl_flatMap]

theorem byFirstMention_mentioned (constraints : List (Constraint UnknownId α)) :
    ByFirstMention (mentioned constraints) (constraints.flatMap Constraint.unknowns) := by
  rw [mentioned_eq_foldl, ← List.foldl_flatMap]
  exact ByFirstMention.foldl_addColumn _

/-- Looking up the place of an unknown and looking up the unknown at a place undo each other. -/
theorem idxOf?_eq_some_iff_getElem? {columns : List UnknownId} (distinct : columns.Nodup)
    {id : UnknownId} {j : Nat} : columns.idxOf? id = some j ↔ columns[j]? = some id := by
  rw [List.idxOf?_eq_some_iff, List.getElem?_eq_some_iff]
  constructor
  · rintro ⟨inRange, atPlace, _⟩
    exact ⟨inRange, atPlace⟩
  · rintro ⟨inRange, atPlace⟩
    refine ⟨inRange, atPlace, ?_⟩
    intro i before same
    have repeated := distinct.getElem_inj_iff.mp (same.trans atPlace.symm)
    exact absurd repeated (Nat.ne_of_lt before)

end Drafting
