import Mathlib.Data.List.Sort
import Drafting.Proofs.Blocks
import Drafting.Proofs.DepthFirst.Transport

/-!
# Systems that contain one another

A system may occur in another one: in other places, under other names for its unknowns, and beside
constraints that have nothing to do with it. As long as its connected constraints keep their order,
its components are found there again, each with its constraints in the same order.
-/

namespace Drafting

open Relation

variable {α : Type}

section Leaders

variable (constraints : List (Constraint UnknownId α))

def searchFrom (i : Fin constraints.length) : List (Fin constraints.length) :=
  (DepthFirst.explore (neighbours constraints (UseLists.ofConstraints constraints))
    (List.finRange constraints.length) [i]).1

def IsFirst (i : Fin constraints.length) : Prop := ∀ j, Connected constraints i j → i ≤ j

open Classical in
noncomputable def firsts : List (Fin constraints.length) :=
  (List.finRange constraints.length).filter (IsFirst constraints ·)

theorem mem_firsts {i : Fin constraints.length} : i ∈ firsts constraints ↔ IsFirst constraints i := by
  simp only [firsts, List.mem_filter, List.mem_finRange, true_and, decide_eq_true_iff]

theorem firsts_ascending : (firsts constraints).Pairwise (· < ·) :=
  (List.pairwise_lt_finRange _).filter _

theorem nodup_firsts : (firsts constraints).Nodup := (firsts_ascending constraints).imp ne_of_lt

theorem components_eq_map_searchFrom :
    components constraints = (firsts constraints).map (searchFrom constraints) := by
  have symmetric : ∀ i j, j ∈ neighbours constraints (UseLists.ofConstraints constraints) i →
      i ∈ neighbours constraints (UseLists.ofConstraints constraints) j :=
    fun i j neighbour => mem_neighbours_iff.mpr (mem_neighbours_iff.mp neighbour).symm
  have leads (i : Fin constraints.length) :
      DepthFirst.Leads (neighbours constraints (UseLists.ofConstraints constraints)) i ↔
        IsFirst constraints i := by
    unfold DepthFirst.Leads DepthFirst.Reaches IsFirst Connected
    simp only [mem_neighbours_iff]
  unfold components
  rw [DepthFirst.parts_eq_map symmetric (List.pairwise_lt_finRange _)
    fun _ _ next _ => List.mem_finRange next]
  exact congrArg _ (List.filter_congr fun i _ => decide_eq_decide.mpr (leads i))

noncomputable def blockFrom (i : Fin constraints.length) : Block α :=
  blockOf constraints (searchFrom constraints i)

theorem blocks_eq_map_blockFrom :
    blocks constraints = (firsts constraints).map (blockFrom constraints) := by
  rw [blocks_eq_map, components_eq_map_searchFrom, List.map_map]
  rfl

end Leaders

section Relabelling

def Block.rename (rename : UnknownId → UnknownId) (block : Block α) : Block α :=
  block.map fun (i, c) => (i, c.map rename)

def Block.reposition (place : Nat → Nat) (block : Block α) : Block α :=
  block.map fun (i, c) => (place i, c)

@[simp] theorem Block.rename_id (block : Block α) : block.rename id = block := by
  simp only [rename, Constraint.map_id]
  exact List.map_id block

@[simp] theorem Block.reposition_id (block : Block α) : block.reposition id = block :=
  List.map_id block

@[simp] theorem Block.positions_reposition (place : Nat → Nat) (block : Block α) :
    (block.reposition place).positions = block.positions.map place := by
  simp only [reposition, positions, List.map_map, Function.comp_def]

@[simp] theorem Block.constraints_reposition (place : Nat → Nat) (block : Block α) :
    (block.reposition place).constraints = block.constraints := by
  simp only [reposition, constraints, List.map_map, Function.comp_def]

@[simp] theorem Block.positions_rename (rename : UnknownId → UnknownId) (block : Block α) :
    (block.rename rename).positions = block.positions := by
  simp only [Block.rename, positions, List.map_map, Function.comp_def]

@[simp] theorem Block.constraints_rename (rename : UnknownId → UnknownId) (block : Block α) :
    (block.rename rename).constraints = block.constraints.map (Constraint.map rename) := by
  simp only [Block.rename, constraints, List.map_map, Function.comp_def]

end Relabelling

/-- A system occurs in another one, with its constraints in some places and its unknowns renamed. No
other constraint shares an unknown with it, and connected constraints keep their order. -/
structure Embeds (rename : UnknownId → UnknownId) (inner outer : List (Constraint UnknownId α))
    (place : Fin inner.length → Fin outer.length) : Prop where
  rename_injective : Function.Injective rename
  place_injective : Function.Injective place
  renames : ∀ i, outer.get (place i) = (inner.get i).map rename
  closed : ∀ i j, SharesUnknown outer (place i) j → ∃ k, place k = j
  ordered : ∀ i j, Connected inner i j → i < j → place i < place j

namespace Embeds

variable {rename : UnknownId → UnknownId} {inner outer : List (Constraint UnknownId α)}
  {place : Fin inner.length → Fin outer.length}

theorem mem_unknowns_iff (embeds : Embeds rename inner outer place) {i : Fin inner.length}
    {id : UnknownId} :
    rename id ∈ (outer.get (place i)).unknowns ↔ id ∈ (inner.get i).unknowns := by
  rw [embeds.renames, Constraint.unknowns_map, List.mem_map_of_injective embeds.rename_injective]

theorem sharesUnknown_iff (embeds : Embeds rename inner outer place) {i j : Fin inner.length} :
    SharesUnknown outer (place i) (place j) ↔ SharesUnknown inner i j := by
  constructor
  · rintro ⟨id, left, right⟩
    have renamed := left
    rw [embeds.renames, Constraint.unknowns_map] at renamed
    obtain ⟨original, inI, same⟩ := List.mem_map.mp renamed
    subst same
    exact ⟨original, inI, embeds.mem_unknowns_iff.mp right⟩
  · rintro ⟨id, left, right⟩
    exact ⟨rename id, embeds.mem_unknowns_iff.mpr left, embeds.mem_unknowns_iff.mpr right⟩

theorem connected_iff (embeds : Embeds rename inner outer place) {i : Fin inner.length}
    {j : Fin outer.length} :
    Connected outer (place i) j ↔ ∃ k, place k = j ∧ Connected inner i k := by
  constructor
  · intro path
    induction path with
    | refl => exact ⟨i, rfl, ReflTransGen.refl⟩
    | tail _ shared ih =>
        obtain ⟨k, same, inside⟩ := ih
        subst same
        obtain ⟨next, same⟩ := embeds.closed k _ shared
        subst same
        exact ⟨next, rfl, inside.tail (embeds.sharesUnknown_iff.mp shared)⟩
  · rintro ⟨k, same, inside⟩
    subst same
    induction inside with
    | refl => exact ReflTransGen.refl
    | tail _ shared ih => exact ih.tail (embeds.sharesUnknown_iff.mpr shared)

theorem isFirst_iff (embeds : Embeds rename inner outer place) {i : Fin inner.length} :
    IsFirst outer (place i) ↔ IsFirst inner i := by
  constructor
  · intro leads j path
    by_contra before
    have backwards : Connected inner j i :=
      have : Std.Symm (SharesUnknown inner) := ⟨fun _ _ shared => shared.symm⟩
      ReflTransGen.stdSymm.symm _ _ path
    exact (embeds.ordered j i backwards (not_le.mp before)).not_ge
      (leads _ (embeds.connected_iff.mpr ⟨j, rfl, path⟩))
  · intro leads j path
    obtain ⟨k, same, inside⟩ := embeds.connected_iff.mp path
    subst same
    rcases (leads k inside).eq_or_lt with equal | before
    · rw [equal]
    · exact (embeds.ordered i k inside before).le

theorem mem_firsts_iff (embeds : Embeds rename inner outer place) {i : Fin inner.length} :
    place i ∈ firsts outer ↔ i ∈ firsts inner := by
  rw [mem_firsts, mem_firsts, embeds.isFirst_iff]

/-- An unknown of the system is used in the places of the constraints that use it there. -/
theorem users_eq (embeds : Embeds rename inner outer place) {i : Fin inner.length} {id : UnknownId}
    (mentions : id ∈ (inner.get i).unknowns) :
    ((List.finRange outer.length).filter fun j => rename id ∈ (outer.get j).unknowns) =
      ((List.finRange inner.length).filter fun j => id ∈ (inner.get j).unknowns).map place := by
  have ascending : (((List.finRange inner.length).filter
      fun j => id ∈ (inner.get j).unknowns).map place).Pairwise (· < ·) := by
    rw [List.pairwise_map]
    refine ((List.pairwise_lt_finRange _).filter _).imp_of_mem ?_
    intro j k inJ inK before
    simp only [List.mem_filter, decide_eq_true_iff] at inJ inK
    exact embeds.ordered j k (ReflTransGen.single ⟨id, inJ.2, inK.2⟩) before
  refine ((List.pairwise_lt_finRange _).filter _).eq_of_mem_iff ascending fun j => ?_
  simp only [List.mem_filter, List.mem_map, List.mem_finRange, true_and, decide_eq_true_iff]
  constructor
  · intro uses
    obtain ⟨k, same⟩ := embeds.closed i j ⟨rename id, embeds.mem_unknowns_iff.mpr mentions, uses⟩
    subst same
    exact ⟨k, embeds.mem_unknowns_iff.mp uses, rfl⟩
  · rintro ⟨k, uses, same⟩
    subst same
    exact embeds.mem_unknowns_iff.mpr uses

theorem neighbours_eq_map (embeds : Embeds rename inner outer place) (i : Fin inner.length) :
    neighbours outer (UseLists.ofConstraints outer) (place i) =
      (neighbours inner (UseLists.ofConstraints inner) i).map place := by
  rw [neighbours_eq, neighbours_eq]
  dsimp only
  rw [embeds.renames, Constraint.unknowns_map, List.flatMap_map, List.map_flatMap]
  exact List.flatMap_congr fun id mentions => embeds.users_eq mentions

theorem searchFrom_eq_map (embeds : Embeds rename inner outer place) (i : Fin inner.length) :
    searchFrom outer (place i) = (searchFrom inner i).map place := by
  have carries : DepthFirst.Carries (neighbours inner (UseLists.ofConstraints inner))
      (neighbours outer (UseLists.ofConstraints outer)) (fun _ => True) place :=
    { closed := fun _ _ _ _ => trivial
      injective := fun _ _ _ _ same => embeds.place_injective same
      keeps := fun j _ => embeds.neighbours_eq_map j }
  have within : ∀ j ∈ [i], True := fun _ _ => trivial
  refine DepthFirst.explore_map carries (List.nodup_finRange _) (List.nodup_finRange _) within ?_
  intro j _
  exact iff_of_true (List.mem_finRange _) (List.mem_finRange _)

/-- A component is found again, with the same constraints in the same order. -/
theorem blockFrom_eq (embeds : Embeds rename inner outer place) (position : Nat → Nat)
    (positions : ∀ i, (place i).val = position i.val) (i : Fin inner.length) :
    blockFrom outer (place i) = ((blockFrom inner i).rename rename).reposition position := by
  unfold blockFrom blockOf Block.rename Block.reposition
  rw [embeds.searchFrom_eq_map, List.map_map, List.map_map, List.map_map]
  refine List.map_congr_left fun j _ => ?_
  exact Prod.ext (positions j) (embeds.renames j)

end Embeds

end Drafting
