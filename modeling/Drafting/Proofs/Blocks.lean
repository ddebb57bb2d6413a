import Drafting.ComponentSystem
import Drafting.Proofs.Connectivity

/-!
# Blocks

The blocks of a system are its components with their constraints. Every constraint is in one of them,
and they are separate: none mentions an unknown of another one.
-/

namespace Drafting

variable {α : Type}

theorem Constraint.unknowns_ne_nil {ι : Type} (c : Constraint ι α) : c.unknowns ≠ [] := by
  cases c <;> exact List.cons_ne_nil _ _

def Block.unknowns (block : Block α) : List UnknownId := mentioned block.constraints

def Separate (blocks : List (Block α)) : Prop :=
  blocks.Pairwise fun block other => ∀ id ∈ block.unknowns, id ∉ other.unknowns

section Blocks

variable (constraints : List (Constraint UnknownId α))

def blockOf (part : List (Fin constraints.length)) : Block α :=
  part.map fun i => (i.val, constraints.get i)

theorem blocks_eq_map : blocks constraints = (components constraints).map (blockOf constraints) :=
  rfl

theorem length_blocks : (blocks constraints).length = (components constraints).length := by
  rw [blocks_eq_map, List.length_map]

@[simp] theorem positions_blockOf (part : List (Fin constraints.length)) :
    (blockOf constraints part).positions = part.map Fin.val := by
  simp only [blockOf, Block.positions, List.map_map, Function.comp_def]

theorem positions_blocks :
    (blocks constraints).map Block.positions =
      (components constraints).map fun part => part.map Fin.val := by
  rw [blocks_eq_map, List.map_map]
  exact List.map_congr_left fun part _ => positions_blockOf constraints part

@[simp] theorem constraints_blockOf (part : List (Fin constraints.length)) :
    (blockOf constraints part).constraints = part.map constraints.get := by
  simp only [blockOf, Block.constraints, List.map_map, Function.comp_def]

theorem mem_unknowns_blockOf {part : List (Fin constraints.length)} {id : UnknownId} :
    id ∈ (blockOf constraints part).unknowns ↔ ∃ i ∈ part, id ∈ (constraints.get i).unknowns := by
  rw [Block.unknowns, mem_mentioned, constraints_blockOf]
  simp only [List.mem_map, exists_exists_and_eq_and]

theorem exists_block_of_mem {c : Constraint UnknownId α} (member : c ∈ constraints) :
    ∃ block ∈ blocks constraints, c ∈ block.constraints := by
  obtain ⟨i, holds⟩ := List.get_of_mem member
  have listed : i ∈ (components constraints).flatten :=
    (components_flatten_perm constraints).symm.subset (List.mem_finRange i)
  obtain ⟨part, partMember, inPart⟩ := List.mem_flatten.mp listed
  refine ⟨blockOf constraints part, List.mem_map_of_mem partMember, ?_⟩
  rw [constraints_blockOf, ← holds]
  exact List.mem_map_of_mem inPart

theorem mem_blocks_iff {block : Block α} :
    block ∈ blocks constraints ↔
      ∃ part ∈ components constraints, blockOf constraints part = block :=
  List.mem_map

theorem mem_of_mem_block {block : Block α} (member : block ∈ blocks constraints)
    {c : Constraint UnknownId α} (inBlock : c ∈ block.constraints) : c ∈ constraints := by
  obtain ⟨part, _, same⟩ := (mem_blocks_iff constraints).mp member
  subst same
  rw [constraints_blockOf] at inBlock
  obtain ⟨i, _, holds⟩ := List.mem_map.mp inBlock
  rw [← holds]
  exact List.get_mem constraints i

theorem exists_mem_of_block {block : Block α} (member : block ∈ blocks constraints) :
    ∃ c, c ∈ block.constraints := by
  obtain ⟨part, partMember, same⟩ := (mem_blocks_iff constraints).mp member
  obtain ⟨first, later, starts, _⟩ := component_first_lt constraints partMember
  subst same
  rw [constraints_blockOf, starts]
  exact ⟨constraints.get first, List.mem_cons_self⟩

theorem unknowns_ne_nil_of_block {block : Block α} (member : block ∈ blocks constraints) :
    block.unknowns ≠ [] := by
  obtain ⟨c, inBlock⟩ := exists_mem_of_block constraints member
  obtain ⟨id, mentions⟩ := List.exists_mem_of_ne_nil _ c.unknowns_ne_nil
  exact List.ne_nil_of_mem (mem_mentioned.mpr ⟨c, inBlock, mentions⟩)

theorem contains_of_mem_blocks {arena : Arena α}
    (known : ∀ c ∈ constraints, arena.Contains c.unknowns) {block : Block α}
    (member : block ∈ blocks constraints) : arena.Contains block.unknowns := by
  intro id mentions
  obtain ⟨c, inBlock, inUnknowns⟩ := mem_mentioned.mp mentions
  exact known c (mem_of_mem_block constraints member inBlock) id inUnknowns

theorem constant_on_block {β : Type} {value : UnknownId → β} {block : Block α}
    (member : block ∈ blocks constraints)
    (uniform : ∀ c ∈ block.constraints, ∀ id ∈ c.unknowns, ∀ other ∈ c.unknowns,
      value id = value other)
    {id other : UnknownId} (inBlock : id ∈ block.unknowns) (otherInBlock : other ∈ block.unknowns) :
    value id = value other := by
  obtain ⟨part, partMember, same⟩ := (mem_blocks_iff constraints).mp member
  subst same
  obtain ⟨i, iInPart, mentions⟩ := (mem_unknowns_blockOf constraints).mp inBlock
  obtain ⟨j, jInPart, otherMentions⟩ := (mem_unknowns_blockOf constraints).mp otherInBlock
  apply constant_on_component constraints partMember _ iInPart jInPart mentions otherMentions
  intro k kInPart
  apply uniform
  rw [constraints_blockOf]
  exact List.mem_map_of_mem kInPart

theorem separate_blocks : Separate (blocks constraints) := by
  unfold Separate
  rw [blocks_eq_map, List.pairwise_map]
  refine (components_separated constraints).imp ?_
  intro part other apart id inPart inOther
  obtain ⟨i, iInPart, inI⟩ := (mem_unknowns_blockOf constraints).mp inPart
  obtain ⟨j, jInOther, inJ⟩ := (mem_unknowns_blockOf constraints).mp inOther
  exact apart i iInPart j jInOther ⟨id, inI, inJ⟩

/-- If all constraints share an unknown with one of them, they form a single block. -/
theorem exists_blocks_eq_singleton {c : Constraint UnknownId α} (member : c ∈ constraints)
    (touches : ∀ other ∈ constraints, ∃ id ∈ other.unknowns, id ∈ c.unknowns) :
    ∃ block, blocks constraints = [block] ∧ block.constraints.Perm constraints := by
  obtain ⟨block, listed, inBlock⟩ := exists_block_of_mem constraints member
  have separate := separate_blocks constraints
  have overlaps : ∀ other ∈ blocks constraints, ∃ id ∈ other.unknowns, id ∈ block.unknowns := by
    intro other otherListed
    obtain ⟨d, inOther⟩ := exists_mem_of_block constraints otherListed
    obtain ⟨id, mentions, shared⟩ := touches d (mem_of_mem_block constraints otherListed inOther)
    exact ⟨id, mem_mentioned.mpr ⟨d, inOther, mentions⟩, mem_mentioned.mpr ⟨c, inBlock, shared⟩⟩
  obtain ⟨before, after, split⟩ := List.append_of_mem listed
  rw [Separate, split, List.pairwise_append, List.pairwise_cons] at separate
  obtain ⟨_, ⟨afterApart, _⟩, beforeApart⟩ := separate
  have noneAfter : after = [] := by
    apply List.eq_nil_iff_forall_not_mem.mpr
    intro other isAfter
    obtain ⟨id, inOther, shared⟩ := overlaps other (by rw [split]; simp [isAfter])
    exact afterApart other isAfter id shared inOther
  have noneBefore : before = [] := by
    apply List.eq_nil_iff_forall_not_mem.mpr
    intro other isBefore
    obtain ⟨id, inOther, shared⟩ := overlaps other (by rw [split]; simp [isBefore])
    exact beforeApart other isBefore block List.mem_cons_self id inOther shared
  rw [noneAfter, noneBefore, List.nil_append] at split
  refine ⟨block, split, ?_⟩
  obtain ⟨part, single, same⟩ := List.map_eq_singleton_iff.mp split
  have all := components_flatten_perm constraints
  rw [single, List.flatten_singleton] at all
  have mapped := all.map constraints.get
  rw [List.map_get_finRange] at mapped
  rw [← same]
  exact (constraints_blockOf constraints part) ▸ mapped

end Blocks

end Drafting
