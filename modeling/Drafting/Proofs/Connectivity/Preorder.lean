import Drafting.Proofs.Connectivity.Embedding
import Drafting.Proofs.DepthFirst.Recursion

/-!
# Components in recursive preorder

The components of a system list their constraints as a recursive search enters them. The search that
is run keeps a stack instead: it may hold constraints twice, and constraints that are visited before
their turn comes, but it ends from any stack and expands no constraint twice.
-/

namespace Drafting

open DepthFirst

variable {α : Type} (constraints : List (Constraint UnknownId α))

def mentioning (id : UnknownId) : List (Fin constraints.length) :=
  (List.finRange constraints.length).filter fun i => id ∈ (constraints.get i).unknowns

abbrev Marked (visited : List (Fin constraints.length)) : Type :=
  { after : List (Fin constraints.length) // visited ⊆ after }

/-- Enter a constraint unless it is visited: note it, and then, for each of its unknowns in order,
enter each constraint that mentions the unknown. What is visited by then stays visited, so fewer
constraints are left each time. -/
def enterFrom (visited : List (Fin constraints.length)) (i : Fin constraints.length) :
    Marked constraints visited :=
  if i ∈ visited then ⟨visited, List.Subset.refl visited⟩
  else
    let start : Marked constraints (visited ++ [i]) := ⟨_, List.Subset.refl _⟩
    let entered := (constraints.get i).unknowns.foldl
      (fun marks id => (mentioning constraints id).foldl
        (fun marks j =>
          let after := enterFrom marks.val j
          ⟨after.val, List.Subset.trans marks.property after.property⟩)
        marks)
      start
    ⟨entered.val, List.Subset.trans (List.subset_append_left visited [i]) entered.property⟩
termination_by pendingCount visited
decreasing_by
  exact (pendingCount_le marks.property).trans_lt (pendingCount_append_lt ‹_›)

def enter (visited : List (Fin constraints.length)) (i : Fin constraints.length) :
    List (Fin constraints.length) :=
  (enterFrom constraints visited i).val

theorem enter_of_mem {visited : List (Fin constraints.length)} {i : Fin constraints.length}
    (noted : i ∈ visited) : enter constraints visited i = visited := by
  rw [enter, enterFrom, if_pos noted]

theorem enter_of_not_mem {visited : List (Fin constraints.length)} {i : Fin constraints.length}
    (fresh : i ∉ visited) :
    enter constraints visited i =
      (constraints.get i).unknowns.foldl
        (fun marks id => (mentioning constraints id).foldl (enter constraints) marks)
        (visited ++ [i]) := by
  rw [enter, enterFrom, if_neg fresh]
  refine (List.foldl_hom Subtype.val ?_).symm
  intro marks id
  exact List.foldl_hom Subtype.val fun _ _ => rfl

theorem enter_entersRecursively :
    EntersRecursively (neighbours constraints (UseLists.ofConstraints constraints))
      (enter constraints) where
  of_mem := enter_of_mem constraints
  of_not_mem {visited i} fresh := by
    rw [enter_of_not_mem constraints fresh, neighbours_eq, List.foldl_flatMap]
    rfl

/-- From any marks, the stack visits what recursion visits, in the same order. -/
theorem drain_eq_enter (visited : List (Fin constraints.length)) (start : Fin constraints.length) :
    drain (neighbours constraints (UseLists.ofConstraints constraints)) visited [start] =
      enter constraints visited start := by
  have splits := splits_filter (List.nodup_finRange constraints.length) List.mem_finRange visited
  rw [(enter_entersRecursively constraints).enter_eq splits start]
  exact drain_reverse visited [start] splits

/-- The components are the searches of a recursive search from each constraint that was not visited by
then, and each of them is what it visits from the component's first constraint. The search by a stack
visits the same in the same order. It ends whatever is visited and whatever is on the stack, and
expands each constraint once. -/
theorem components_are_in_recursive_preorder :
    (∀ visited i, enter constraints visited i =
      if i ∈ visited then visited
      else (constraints.get i).unknowns.foldl
        (fun marks id => (mentioning constraints id).foldl (enter constraints) marks)
        (visited ++ [i])) ∧
      searchEach (enter constraints) [] (List.finRange constraints.length) =
        components constraints ∧
      (∀ part ∈ components constraints,
        ∃ first later, part = first :: later ∧ enter constraints [] first = part) ∧
      (∀ visited start,
        drain (neighbours constraints (UseLists.ofConstraints constraints)) visited [start] =
          enter constraints visited start) ∧
      (∀ visited stack, ∃ expanded,
        drain (neighbours constraints (UseLists.ofConstraints constraints)) visited stack =
            visited ++ expanded ∧
          expanded.Nodup ∧ ∀ i ∈ expanded, i ∉ visited) ∧
      (components constraints).flatten.Perm (List.finRange constraints.length) := by
  have enters := enter_entersRecursively constraints
  have unmarked : Splits (List.finRange constraints.length) [] :=
    ⟨List.nodup_finRange _, fun i => iff_of_true (List.mem_finRange i) List.not_mem_nil⟩
  refine ⟨?_, ?_, ?_, drain_eq_enter constraints, ?_, components_flatten_perm constraints⟩
  · intro visited i
    split
    · exact enter_of_mem constraints ‹_›
    · exact enter_of_not_mem constraints ‹_›
  · exact searchEach_eq_parts enters.enter_eq unmarked (List.nodup_finRange _)
      (List.Sublist.refl _)
  · intro part member
    rw [components_eq_map_searchFrom] at member
    obtain ⟨first, _, found⟩ := List.mem_map.mp member
    subst found
    have starts := congrArg Prod.fst
      (explore_cons_of_mem (neighbours constraints (UseLists.ofConstraints constraints))
        (List.mem_finRange first) [])
    exact ⟨first, _, starts, enters.enter_eq unmarked first⟩
  · intro visited stack
    exact drain_expands_once (splits_filter (List.nodup_finRange _) List.mem_finRange visited) stack

/-- The second constraint is found last, through the third one. -/
theorem later_link_is_found_first :
    components [.fixedDistance ⟨0, 1⟩ ⟨2, 3⟩ (1 : Nat), .fixedDistance ⟨4, 5⟩ ⟨6, 7⟩ 1,
        .fixedDistance ⟨2, 3⟩ ⟨4, 5⟩ 1, .fixedDistance ⟨0, 1⟩ ⟨8, 9⟩ 1] =
        [[⟨0, by decide⟩, ⟨3, by decide⟩, ⟨2, by decide⟩, ⟨1, by decide⟩]] ∧
      enter [.fixedDistance ⟨0, 1⟩ ⟨2, 3⟩ (1 : Nat), .fixedDistance ⟨4, 5⟩ ⟨6, 7⟩ 1,
        .fixedDistance ⟨2, 3⟩ ⟨4, 5⟩ 1, .fixedDistance ⟨0, 1⟩ ⟨8, 9⟩ 1] [] ⟨0, by decide⟩ =
        [⟨0, by decide⟩, ⟨3, by decide⟩, ⟨2, by decide⟩, ⟨1, by decide⟩] := by
  have found : components [.fixedDistance ⟨0, 1⟩ ⟨2, 3⟩ (1 : Nat), .fixedDistance ⟨4, 5⟩ ⟨6, 7⟩ 1,
      .fixedDistance ⟨2, 3⟩ ⟨4, 5⟩ 1, .fixedDistance ⟨0, 1⟩ ⟨8, 9⟩ 1] =
      [[⟨0, by decide⟩, ⟨3, by decide⟩, ⟨2, by decide⟩, ⟨1, by decide⟩]] := by
    rw [components_eq]
    cbv
  obtain ⟨_, _, recursive, _⟩ := components_are_in_recursive_preorder
    [.fixedDistance ⟨0, 1⟩ ⟨2, 3⟩ (1 : Nat), .fixedDistance ⟨4, 5⟩ ⟨6, 7⟩ 1,
      .fixedDistance ⟨2, 3⟩ ⟨4, 5⟩ 1, .fixedDistance ⟨0, 1⟩ ⟨8, 9⟩ 1]
  rw [found] at recursive
  obtain ⟨first, later, starts, entered⟩ := recursive _ List.mem_cons_self
  rw [← (List.cons.inj starts).1] at entered
  exact ⟨found, entered⟩

end Drafting
