import Mathlib.Data.Fintype.Card
import Drafting.Proofs.DepthFirst.Transport

/-!
# Search by recursion and search by a stack

A recursive search notes a node and then enters the node's neighbours one after the other, each
unless it is noted by then. A search by a stack takes the last node from the stack and, if it was not
visited before, puts its unvisited neighbours on the stack in reverse. Among finitely many nodes both
end, and both visit what `explore` visits, in the same order.
-/

namespace Drafting.DepthFirst

variable {ν : Type} [DecidableEq ν]

section Unfiltered

variable (neighbours : ν → List ν)

/-- It makes no difference whether nodes that are visited already go on the work list. -/
theorem explore_filter {unvisited others : List ν} (within : unvisited ⊆ others) (work : List ν) :
    explore neighbours unvisited (work.filter (· ∈ others)) = explore neighbours unvisited work := by
  fun_induction explore neighbours unvisited work with
  | case1 => rw [List.filter_nil, explore]
  | case2 unvisited node work member unvisited' next visited left found ih =>
      have erased : unvisited' ⊆ others := fun other left => within (List.mem_of_mem_erase left)
      have kept : next.filter (· ∈ others) = next := by
        rw [List.filter_eq_self]
        intro other inNext
        exact decide_eq_true (erased (of_decide_eq_true (List.mem_filter.mp inNext).2))
      have later := ih erased
      rw [List.filter_append, kept, found] at later
      rw [List.filter_cons_of_pos (p := fun node => decide (node ∈ others))
        (decide_eq_true (within member)), explore, if_pos member]
      exact congrArg (fun result => (node :: result.1, result.2)) later
  | case3 unvisited node work absent ih =>
      by_cases listed : node ∈ others
      · rw [List.filter_cons_of_pos (p := fun node => decide (node ∈ others))
          (decide_eq_true listed), explore, if_neg absent, ih within]
      · rw [List.filter_cons_of_neg (p := fun node => decide (node ∈ others))
          (by simpa using listed), ih within]

/-- A visited node might as well put all its neighbours in front of the work that is left. -/
theorem explore_cons_of_mem {unvisited : List ν} {node : ν} (member : node ∈ unvisited)
    (work : List ν) :
    explore neighbours unvisited (node :: work) =
      (node :: (explore neighbours (unvisited.erase node) (neighbours node ++ work)).1,
        (explore neighbours (unvisited.erase node) (neighbours node ++ work)).2) := by
  have all := explore_filter neighbours (List.Subset.refl (unvisited.erase node))
    (neighbours node ++ work)
  have fresh := explore_filter neighbours (List.Subset.refl (unvisited.erase node))
    ((neighbours node).filter (· ∈ unvisited.erase node) ++ work)
  have twice : ((neighbours node).filter (· ∈ unvisited.erase node)).filter
      (· ∈ unvisited.erase node) = (neighbours node).filter (· ∈ unvisited.erase node) := by
    simp only [List.filter_filter, Bool.and_self]
  rw [List.filter_append, twice, ← List.filter_append, all] at fresh
  rw [explore, if_pos member, fresh]

end Unfiltered

section Marks

/-- Every node is either still unvisited or noted as visited. -/
structure Splits (unvisited visited : List ν) : Prop where
  distinct : unvisited.Nodup
  mem_iff : ∀ node, node ∈ unvisited ↔ node ∉ visited

variable {unvisited visited : List ν}

theorem Splits.mem_of_not_mem (splits : Splits unvisited visited) {node : ν}
    (absent : node ∉ unvisited) : node ∈ visited := by
  by_contra fresh
  exact absent ((splits.mem_iff node).mpr fresh)

theorem Splits.visit (splits : Splits unvisited visited) (node : ν) :
    Splits (unvisited.erase node) (visited ++ [node]) where
  distinct := splits.distinct.erase node
  mem_iff other := by
    rw [splits.distinct.mem_erase_iff, splits.mem_iff, List.mem_append, List.mem_singleton,
      not_or, and_comm]

theorem Splits.explore (splits : Splits unvisited visited) (neighbours : ν → List ν)
    (work : List ν) :
    Splits (explore neighbours unvisited work).2
      (visited ++ (explore neighbours unvisited work).1) where
  distinct := splits.distinct.sublist (explore_left_sublist neighbours unvisited work)
  mem_iff other := by
    rw [explore_left_eq_filter neighbours splits.distinct, List.mem_filter, splits.mem_iff,
      decide_eq_true_iff, List.mem_append, not_or]

theorem splits_filter {nodes : List ν} (distinct : nodes.Nodup) (complete : ∀ node, node ∈ nodes)
    (visited : List ν) : Splits (nodes.filter (· ∉ visited)) visited where
  distinct := distinct.filter _
  mem_iff node := by
    rw [List.mem_filter, decide_eq_true_iff]
    exact and_iff_right (complete node)

end Marks

section Count

variable [Fintype ν]

def pendingCount (visited : List ν) : Nat := (Finset.univ.filter fun node => node ∉ visited).card

theorem pendingCount_le {visited more : List ν} (grown : visited ⊆ more) :
    pendingCount more ≤ pendingCount visited :=
  Finset.card_le_card (Finset.monotone_filter_right _ fun _ _ fresh noted =>
    fresh (grown noted))

theorem pendingCount_append_lt {visited : List ν} {node : ν} (fresh : node ∉ visited) :
    pendingCount (visited ++ [node]) < pendingCount visited := by
  apply Finset.card_lt_card
  rw [Finset.ssubset_iff_of_subset]
  · refine ⟨node, Finset.mem_filter.mpr ⟨Finset.mem_univ node, fresh⟩, ?_⟩
    intro pending
    exact (Finset.mem_filter.mp pending).2 List.mem_concat_self
  · intro other pending
    rw [Finset.mem_filter, List.mem_append, not_or] at pending
    exact Finset.mem_filter.mpr ⟨pending.1, pending.2.1⟩

end Count

section Searches

variable (neighbours : ν → List ν)

/-- A node that is visited is not entered again, and another one is noted before its neighbours are
entered. -/
structure EntersRecursively (enter : List ν → ν → List ν) : Prop where
  of_mem : ∀ {visited node}, node ∈ visited → enter visited node = visited
  of_not_mem : ∀ {visited node}, node ∉ visited →
    enter visited node = (neighbours node).foldl enter (visited ++ [node])

/-- Take nodes from the end of the stack until it is empty. A node that is visited already makes the
stack shorter, and another one leaves fewer nodes to visit. -/
def drain [Fintype ν] (visited stack : List ν) : List ν :=
  match _ : stack.getLast? with
  | none => visited
  | some node =>
      if node ∈ visited then drain visited stack.dropLast
      else
        let fresh := (neighbours node).filter (· ∉ visited ++ [node])
        drain (visited ++ [node]) (stack.dropLast ++ fresh.reverse)
termination_by (pendingCount visited, stack.length)
decreasing_by
  · apply Prod.Lex.right
    have filled : stack ≠ [] := List.ne_nil_of_mem (List.mem_of_getLast? ‹_›)
    rw [List.length_dropLast]
    exact Nat.sub_one_lt (mt List.eq_nil_of_length_eq_zero filled)
  · exact Prod.Lex.left _ _ (pendingCount_append_lt ‹_›)

/-- Search from each start that is not visited by then. Gives what each search visits. -/
def searchEach (search : List ν → ν → List ν) (visited : List ν) : List ν → List (List ν)
  | [] => []
  | start :: rest =>
      if start ∈ visited then searchEach search visited rest
      else
        (search visited start).drop visited.length ::
          searchEach search (search visited start) rest

variable {neighbours} {unvisited visited work : List ν}

theorem EntersRecursively.foldl_eq {enter : List ν → ν → List ν}
    (enters : EntersRecursively neighbours enter) (splits : Splits unvisited visited)
    (work : List ν) :
    work.foldl enter visited = visited ++ (explore neighbours unvisited work).1 := by
  induction size : unvisited.length using Nat.strongRecOn
    generalizing unvisited visited work with
  | ind size outer =>
      subst size
      induction work with
      | nil => rw [List.foldl_nil, explore, List.append_nil]
      | cons node work inner =>
          rw [List.foldl_cons]
          by_cases member : node ∈ unvisited
          · have shorter : (unvisited.erase node).length < unvisited.length := by
              have positive := List.length_pos_of_mem member
              rw [List.length_erase_of_mem member]
              omega
            -- Entering the neighbours and then the rest of the work is one pass over both.
            have later : (neighbours node ++ work).foldl enter (visited ++ [node]) = _ :=
              outer _ shorter (splits.visit node) _ rfl
            rw [List.foldl_append, ← enters.of_not_mem ((splits.mem_iff node).mp member)] at later
            rw [later, explore_cons_of_mem neighbours member, List.append_assoc]
            rfl
          · rw [enters.of_mem (splits.mem_of_not_mem member), explore, if_neg member]
            exact inner

theorem EntersRecursively.enter_eq {enter : List ν → ν → List ν}
    (enters : EntersRecursively neighbours enter) (splits : Splits unvisited visited) (start : ν) :
    enter visited start = visited ++ (explore neighbours unvisited [start]).1 :=
  enters.foldl_eq splits [start]

section Stack

variable [Fintype ν] {node : ν}

theorem drain_nil : drain neighbours visited [] = visited := by
  rw [drain]
  rfl

theorem drain_append_of_mem (stack : List ν) (noted : node ∈ visited) :
    drain neighbours visited (stack ++ [node]) = drain neighbours visited stack := by
  rw [drain]
  split
  · rename_i last
    rw [List.getLast?_concat] at last
    cases last
  · rename_i other last
    rw [List.getLast?_concat, Option.some.injEq] at last
    subst last
    rw [if_pos noted, List.dropLast_concat]

theorem drain_append_of_not_mem (stack : List ν) (fresh : node ∉ visited) :
    drain neighbours visited (stack ++ [node]) =
      drain neighbours (visited ++ [node])
        (stack ++ ((neighbours node).filter (· ∉ visited ++ [node])).reverse) := by
  rw [drain]
  split
  · rename_i last
    rw [List.getLast?_concat] at last
    cases last
  · rename_i other last
    rw [List.getLast?_concat, Option.some.injEq] at last
    subst last
    rw [if_neg fresh, List.dropLast_concat]

theorem drain_reverse (visited work : List ν) (splits : Splits unvisited visited) :
    drain neighbours visited work.reverse = visited ++ (explore neighbours unvisited work).1 := by
  fun_induction explore neighbours unvisited work generalizing visited with
  | case1 =>
      rw [List.reverse_nil, drain_nil, List.append_nil]
  | case2 unvisited node work member unvisited' next visitedLater left found ih =>
      have pushed : (neighbours node).filter (· ∉ visited ++ [node]) = next :=
        List.filter_congr fun other _ =>
          decide_eq_decide.mpr ((splits.visit node).mem_iff other).symm
      have later := ih _ (splits.visit node)
      rw [found, List.reverse_append] at later
      rw [List.reverse_cons, drain_append_of_not_mem _ ((splits.mem_iff node).mp member), pushed,
        later, List.append_assoc]
      rfl
  | case3 unvisited node work absent ih =>
      rw [List.reverse_cons, drain_append_of_mem _ (splits.mem_of_not_mem absent)]
      exact ih _ splits

/-- Whatever is on the stack, the search expands no node twice. -/
theorem drain_expands_once (splits : Splits unvisited visited) (stack : List ν) :
    ∃ expanded, drain neighbours visited stack = visited ++ expanded ∧
      expanded.Nodup ∧ ∀ node ∈ expanded, node ∉ visited := by
  have ends : drain neighbours visited stack.reverse.reverse = _ :=
    drain_reverse visited stack.reverse splits
  have found := explore_perm neighbours unvisited stack.reverse
  rw [List.reverse_reverse] at ends
  refine ⟨_, ends, (List.nodup_append.mp (found.nodup_iff.mpr splits.distinct)).1, ?_⟩
  intro node expanded
  exact (splits.mem_iff node).mp (found.subset (List.mem_append_left _ expanded))

end Stack

end Searches

section Each

variable {neighbours : ν → List ν} {unvisited visited starts : List ν}

/-- Searches one after the other, each as `explore` does it, find the parts. -/
theorem searchEach_eq_parts {search : List ν → ν → List ν}
    (finds : ∀ {unvisited visited : List ν}, Splits unvisited visited → ∀ start,
      search visited start = visited ++ (explore neighbours unvisited [start]).1)
    (splits : Splits unvisited visited) (distinct : starts.Nodup)
    (pending : unvisited.Sublist starts) :
    searchEach search visited starts = parts neighbours unvisited := by
  induction starts generalizing unvisited visited with
  | nil =>
      rw [List.sublist_nil.mp pending, parts]
      rfl
  | cons start rest ih =>
      have restDistinct := (List.nodup_cons.mp distinct).2
      rcases pending_cases neighbours distinct pending with
        ⟨absent, skipped⟩ | ⟨others, starts, stillPending⟩
      · rw [searchEach, if_pos (splits.mem_of_not_mem absent)]
        exact ih splits restDistinct skipped
      · subst starts
        have fresh : start ∉ visited := (splits.mem_iff start).mp List.mem_cons_self
        rw [searchEach, if_neg fresh, finds splits, List.drop_left, parts]
        exact congrArg _ (ih (splits.explore neighbours [start]) restDistinct stillPending)

end Each

end Drafting.DepthFirst
