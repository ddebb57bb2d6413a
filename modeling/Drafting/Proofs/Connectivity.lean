import Mathlib.Data.List.Permutation
import Drafting.ComponentSystem
import Drafting.Proofs.DepthFirst
import Drafting.Proofs.UseLists

/-!
# Components are connectivity classes

Two constraints are in one component exactly if a chain of constraints leads from one to the other
in which each shares an unknown with the next. So different components share no unknown, and a
component does not fall apart any further.
-/

namespace Drafting

open Relation

variable {α : Type}

def Connected (constraints : List (Constraint UnknownId α)) :
    Fin constraints.length → Fin constraints.length → Prop :=
  ReflTransGen (SharesUnknown constraints)

section Components

variable (constraints : List (Constraint UnknownId α))

private theorem reaches_iff_connected {i j : Fin constraints.length} :
    DepthFirst.Reaches (neighbours constraints (UseLists.ofConstraints constraints)) i j ↔
      Connected constraints i j := by
  unfold DepthFirst.Reaches Connected
  simp only [mem_neighbours_iff]

theorem components_eq :
    components constraints =
      DepthFirst.parts
        (fun i => (constraints.get i).unknowns.flatMap fun id =>
          (List.finRange constraints.length).filter fun j => id ∈ (constraints.get j).unknowns)
        (List.finRange constraints.length) := by
  rw [← neighbours_eq]
  rfl

private theorem neighbours_symmetric (i j : Fin constraints.length)
    (neighbour : j ∈ neighbours constraints (UseLists.ofConstraints constraints) i) :
    i ∈ neighbours constraints (UseLists.ofConstraints constraints) j :=
  mem_neighbours_iff.mpr (mem_neighbours_iff.mp neighbour).symm

theorem components_flatten_perm :
    (components constraints).flatten.Perm (List.finRange constraints.length) :=
  DepthFirst.parts_flatten_perm _ _

theorem component_unique {part other : List (Fin constraints.length)}
    (member : part ∈ components constraints) (otherMember : other ∈ components constraints)
    {i : Fin constraints.length} (inPart : i ∈ part) (inOther : i ∈ other) : part = other := by
  have distinct := (components_flatten_perm constraints).nodup_iff.mpr (List.nodup_finRange _)
  have disjoint := (List.nodup_flatten.mp distinct).2
  have : Std.Symm (List.Disjoint (α := Fin constraints.length)) :=
    ⟨fun _ _ apart _ inRight inLeft => apart inLeft inRight⟩
  by_contra different
  exact disjoint.forall member otherMember different inPart inOther

theorem same_component_iff (i j : Fin constraints.length) :
    (∃ part ∈ components constraints, i ∈ part ∧ j ∈ part) ↔ Connected constraints i j :=
  (DepthFirst.same_part_iff _ (List.nodup_finRange _) List.mem_finRange
    (neighbours_symmetric constraints) i j).trans (reaches_iff_connected constraints)

theorem components_separated :
    (components constraints).Pairwise fun part other =>
      ∀ i ∈ part, ∀ j ∈ other, ¬SharesUnknown constraints i j := by
  refine (DepthFirst.parts_separated _ (List.nodup_finRange _)).imp ?_
  intro part other apart i inPart j inOther shared
  exact apart i inPart j inOther (mem_neighbours_iff.mpr shared)

theorem component_first_lt {part : List (Fin constraints.length)}
    (member : part ∈ components constraints) :
    ∃ first later, part = first :: later ∧ ∀ i ∈ later, first < i :=
  DepthFirst.parts_first_precedes _ (List.pairwise_lt_finRange _) member

theorem components_ordered :
    (components constraints).Pairwise fun part other =>
      ∀ first ∈ part.head?, ∀ start ∈ other.head?, first < start := by
  refine (DepthFirst.parts_ordered _ (List.pairwise_lt_finRange _)).imp ?_
  intro part other precedes first isFirst start isStart
  exact precedes first isFirst start (List.mem_of_mem_head? isStart)

private theorem connected_crosses {inside : Fin constraints.length → Prop}
    {i j : Fin constraints.length} (path : Connected constraints i j) (starts : inside i)
    (ends : ¬inside j) :
    ∃ k l, Connected constraints i k ∧ inside k ∧ ¬inside l ∧ SharesUnknown constraints k l := by
  induction path with
  | refl => exact absurd starts ends
  | @tail k l path shared ih =>
      by_cases within : inside k
      · exact ⟨k, l, path, within, ends, shared⟩
      · exact ih within

/-- However a component is cut in two, some unknown is shared across the cut. -/
theorem component_not_split {part : List (Fin constraints.length)}
    (member : part ∈ components constraints) (inside : Fin constraints.length → Prop)
    (someInside : ∃ i ∈ part, inside i) (someOutside : ∃ j ∈ part, ¬inside j) :
    ∃ k ∈ part, ∃ l ∈ part, inside k ∧ ¬inside l ∧ SharesUnknown constraints k l := by
  obtain ⟨i, iInPart, starts⟩ := someInside
  obtain ⟨j, jInPart, ends⟩ := someOutside
  have path := (same_component_iff constraints i j).mp ⟨part, member, iInPart, jInPart⟩
  obtain ⟨k, l, toK, within, outside, shared⟩ := connected_crosses constraints path starts ends
  have onlyPart {m : Fin constraints.length} (connected : Connected constraints i m) : m ∈ part := by
    obtain ⟨other, otherMember, iInOther, mInOther⟩ :=
      (same_component_iff constraints i m).mpr connected
    rw [component_unique constraints member otherMember iInPart iInOther]
    exact mInOther
  exact ⟨k, onlyPart toK, l, onlyPart (toK.tail shared), within, outside, shared⟩

/-- What all unknowns of each constraint have in common, those of a component have in common. -/
theorem constant_on_component {β : Type} {value : UnknownId → β}
    {part : List (Fin constraints.length)} (member : part ∈ components constraints)
    (uniform : ∀ i ∈ part, ∀ id ∈ (constraints.get i).unknowns,
      ∀ other ∈ (constraints.get i).unknowns, value id = value other)
    {i j : Fin constraints.length} (iInPart : i ∈ part) (jInPart : j ∈ part) {id other : UnknownId}
    (mentions : id ∈ (constraints.get i).unknowns)
    (otherMentions : other ∈ (constraints.get j).unknowns) : value id = value other := by
  by_contra different
  have someDiffers : ∃ k ∈ part,
      ¬∀ unknown ∈ (constraints.get k).unknowns, value id = value unknown :=
    ⟨j, jInPart, fun all => different (all other otherMentions)⟩
  obtain ⟨k, _, l, lInPart, kAgrees, lDiffers, link, inK, inL⟩ :=
    component_not_split constraints member
      (fun k => ∀ unknown ∈ (constraints.get k).unknowns, value id = value unknown)
      ⟨i, iInPart, uniform i iInPart id mentions⟩ someDiffers
  apply lDiffers
  intro unknown inUnknowns
  exact (kAgrees link inK).trans (uniform l lInPart link inL unknown inUnknowns)

/-- The components are the classes of connected constraints: every constraint is in exactly one of
them, two constraints are in the same one exactly if they are connected, no unknown occurs in two of
them and none of them can be split. Each starts with its earliest constraint, and they are ordered by
these. -/
theorem components_are_connectivity_classes :
    (∀ part ∈ components constraints, part ≠ []) ∧
    (components constraints).flatten.Perm (List.finRange constraints.length) ∧
    (∀ i j, (∃ part ∈ components constraints, i ∈ part ∧ j ∈ part) ↔ Connected constraints i j) ∧
    (components constraints).Pairwise
      (fun part other => ∀ i ∈ part, ∀ j ∈ other, ¬SharesUnknown constraints i j) ∧
    (∀ part ∈ components constraints, ∀ inside : Fin constraints.length → Prop,
      (∃ i ∈ part, inside i) → (∃ j ∈ part, ¬inside j) →
        ∃ k ∈ part, ∃ l ∈ part, inside k ∧ ¬inside l ∧ SharesUnknown constraints k l) ∧
    (∀ part ∈ components constraints,
      ∃ first later, part = first :: later ∧ ∀ i ∈ later, first < i) ∧
    (components constraints).Pairwise
      (fun part other => ∀ first ∈ part.head?, ∀ start ∈ other.head?, first < start) := by
  refine ⟨?_, components_flatten_perm constraints, same_component_iff constraints,
    components_separated constraints, ?_, ?_, components_ordered constraints⟩
  · intro part member
    obtain ⟨first, later, starts, _⟩ := component_first_lt constraints member
    rw [starts]
    exact List.cons_ne_nil first later
  · intro part member inside
    exact component_not_split constraints member inside
  · intro part member
    exact component_first_lt constraints member

theorem chained_components :
    components [.fixed 0 (1 : Nat), .fixed 1 1, .equal 0 2, .fixed 2 1] =
        [[⟨0, by decide⟩, ⟨2, by decide⟩, ⟨3, by decide⟩], [⟨1, by decide⟩]] ∧
      ∃ k ∈ [(0 : Fin 4), 2, 3], ∃ l ∈ [(0 : Fin 4), 2, 3], k ≠ 3 ∧ ¬l ≠ 3 ∧
        SharesUnknown [.fixed 0 (1 : Nat), .fixed 1 1, .equal 0 2, .fixed 2 1] k l := by
  have found : components [.fixed 0 (1 : Nat), .fixed 1 1, .equal 0 2, .fixed 2 1] =
      [[⟨0, by decide⟩, ⟨2, by decide⟩, ⟨3, by decide⟩], [⟨1, by decide⟩]] := by
    rw [components_eq]
    cbv
  obtain ⟨_, _, _, _, notSplit, _⟩ :=
    components_are_connectivity_classes [.fixed 0 (1 : Nat), .fixed 1 1, .equal 0 2, .fixed 2 1]
  rw [found] at notSplit
  refine ⟨found, notSplit _ List.mem_cons_self (fun i => i ≠ 3) ?_ ?_⟩
  · exact ⟨0, List.mem_cons_self, by decide⟩
  · exact ⟨3, by decide, by decide⟩

end Components

end Drafting
