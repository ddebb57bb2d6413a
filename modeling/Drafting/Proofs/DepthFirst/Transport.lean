import Mathlib.Order.Basic
import Drafting.Proofs.DepthFirst

/-!
# Searches that look alike

A map of nodes that keeps lists of neighbours carries a search over: the images are visited in the
same order. Only nodes that can be reached matter, so each part of a graph is what one search among
all nodes finds from the part's first node, whatever was searched before it.
-/

namespace Drafting.DepthFirst

open Relation

variable {ν μ : Type} [DecidableEq ν] [DecidableEq μ]

section Transport

/-- A map keeps the neighbours of some nodes, and these have no neighbours outside. -/
structure Carries (neighbours : ν → List ν) (neighbours' : μ → List μ) (inside : ν → Prop)
    (place : ν → μ) : Prop where
  closed : ∀ node, inside node → ∀ next ∈ neighbours node, inside next
  injective : ∀ node other, inside node → inside other → place node = place other → node = other
  keeps : ∀ node, inside node → neighbours' (place node) = (neighbours node).map place

variable {neighbours : ν → List ν} {neighbours' : μ → List μ} {inside : ν → Prop} {place : ν → μ}

theorem Carries.filter_neighbours (carries : Carries neighbours neighbours' inside place)
    {unvisited : List ν} {unvisited' : List μ} {node : ν} (here : inside node)
    (same : ∀ node, inside node → (place node ∈ unvisited' ↔ node ∈ unvisited)) :
    (neighbours' (place node)).filter (· ∈ unvisited') =
      ((neighbours node).filter (· ∈ unvisited)).map place := by
  rw [carries.keeps node here, List.filter_map]
  refine congrArg _ (List.filter_congr fun other isNeighbour => ?_)
  exact decide_eq_decide.mpr (same other (carries.closed node here other isNeighbour))

/-- A search among the images visits the images of what the search visits. -/
theorem explore_map (carries : Carries neighbours neighbours' inside place) {unvisited work : List ν}
    {unvisited' : List μ} (distinct : unvisited.Nodup) (distinct' : unvisited'.Nodup)
    (within : ∀ node ∈ work, inside node)
    (same : ∀ node, inside node → (place node ∈ unvisited' ↔ node ∈ unvisited)) :
    (explore neighbours' unvisited' (work.map place)).1 =
      (explore neighbours unvisited work).1.map place := by
  fun_induction explore neighbours unvisited work generalizing unvisited' with
  | case1 => simp [explore]
  | case2 unvisited node work member unvisitedNext next visited left found =>
      rename_i ih
      obtain ⟨here, later⟩ := List.forall_mem_cons.mp within
      have member' : place node ∈ unvisited' := (same node here).mpr member
      have sameNext (other : ν) (isInside : inside other) :
          place other ∈ unvisited'.erase (place node) ↔ other ∈ unvisitedNext := by
        rw [distinct'.mem_erase_iff, distinct.mem_erase_iff, same other isInside]
        refine and_congr_left fun _ => not_congr ⟨?_, congrArg place⟩
        exact carries.injective other node isInside here
      have fresh : (neighbours' (place node)).filter (· ∈ unvisited'.erase (place node)) =
          next.map place := carries.filter_neighbours here sameNext
      have withinNext : ∀ other ∈ next ++ work, inside other := by
        intro other pending
        rcases List.mem_append.mp pending with isNext | isLater
        · exact carries.closed node here other (List.mem_filter.mp isNext).1
        · exact later other isLater
      have rest := ih (distinct.erase node) (distinct'.erase (place node)) withinNext sameNext
      rw [found, List.map_append] at rest
      rw [List.map_cons, explore, if_pos member']
      dsimp only
      rw [fresh, rest, List.map_cons]
  | case3 unvisited node work absent =>
      rename_i ih
      obtain ⟨here, later⟩ := List.forall_mem_cons.mp within
      rw [List.map_cons, explore, if_neg ((same node here).not.mpr absent)]
      exact ih distinct distinct' later same

theorem explore_congr {unvisited unvisited' work : List ν} (distinct : unvisited.Nodup)
    (distinct' : unvisited'.Nodup)
    (same : ∀ start ∈ work, ∀ node, Reaches neighbours start node →
      (node ∈ unvisited' ↔ node ∈ unvisited)) :
    (explore neighbours unvisited' work).1 = (explore neighbours unvisited work).1 := by
  have carries : Carries neighbours neighbours
      (fun node => ∃ start ∈ work, Reaches neighbours start node) id :=
    { closed := fun _ ⟨start, member, path⟩ _ neighbour => ⟨start, member, path.tail neighbour⟩
      injective := fun _ _ _ _ => id
      keeps := fun _ _ => (List.map_id _).symm }
  have mapped := explore_map carries distinct distinct'
    (fun node member => ⟨node, member, ReflTransGen.refl⟩)
    (fun node ⟨start, member, path⟩ => same start member node path)
  rwa [List.map_id, List.map_id] at mapped

end Transport

section Parts

variable (neighbours : ν → List ν)

theorem explore_left_eq_filter {unvisited work : List ν} (distinct : unvisited.Nodup) :
    (explore neighbours unvisited work).2 =
      unvisited.filter (· ∉ (explore neighbours unvisited work).1) := by
  fun_induction explore neighbours unvisited work with
  | case1 => simp
  | case2 unvisited node work _ unvisitedNext next visited left found ih =>
      have rest := ih (distinct.erase node)
      rw [found] at rest
      dsimp only at rest ⊢
      rw [rest, show unvisitedNext = _ from distinct.erase_eq_filter node, List.filter_filter]
      refine List.filter_congr fun other _ => ?_
      rw [Bool.eq_iff_iff]
      simp [and_comm]
  | case3 _ _ _ _ ih => exact ih distinct

def Leads [LE ν] (first : ν) : Prop := ∀ node, Reaches neighbours first node → first ≤ node

omit [DecidableEq ν] in
theorem mem_of_reaches {unvisited : List ν}
    (closed : ∀ node ∈ unvisited, ∀ next ∈ neighbours node, next ∈ unvisited) {start node : ν}
    (member : start ∈ unvisited) (path : Reaches neighbours start node) : node ∈ unvisited := by
  induction path with
  | refl => exact member
  | tail _ neighbour ih => exact closed _ ih _ neighbour

variable {neighbours}

/-- A visited node cannot be a neighbour of one that is left if neighbours are mutual, so what is
left is closed again. -/
theorem explore_left_closed
    (symmetric : ∀ node next, next ∈ neighbours node → node ∈ neighbours next)
    {unvisited work : List ν} (distinct : unvisited.Nodup)
    (closed : ∀ node ∈ unvisited, ∀ next ∈ neighbours node, next ∈ unvisited) :
    ∀ node ∈ (explore neighbours unvisited work).2, ∀ next ∈ neighbours node,
      next ∈ (explore neighbours unvisited work).2 := by
  intro node isLeft next neighbour
  have sublist := explore_left_sublist neighbours unvisited work
  rw [explore_left_eq_filter neighbours distinct, List.mem_filter]
  refine ⟨closed node (sublist.subset isLeft) next neighbour, decide_eq_true ?_⟩
  intro visited
  exact explore_neighbours_not_left neighbours distinct visited (symmetric node next neighbour) isLeft

section Leads

variable [Preorder ν] {first : ν} {rest : List ν}
  (symmetric : ∀ node next, next ∈ neighbours node → node ∈ neighbours next)
  (ordered : (first :: rest).Pairwise (· < ·))

include ordered

omit [DecidableEq ν] in
theorem leads_first
    (closed : ∀ node ∈ first :: rest, ∀ next ∈ neighbours node, next ∈ first :: rest) :
    Leads neighbours first := by
  intro node path
  obtain ⟨below, _⟩ := List.pairwise_cons.mp ordered
  rcases List.mem_cons.mp (mem_of_reaches neighbours closed List.mem_cons_self path) with
    same | later
  · exact same.ge
  · exact (below node later).le

include symmetric

open Classical in
/-- Of the nodes that a search visits, only the one that it starts from leads. -/
theorem filter_leads_cons
    (closed : ∀ node ∈ first :: rest, ∀ next ∈ neighbours node, next ∈ first :: rest) :
    (first :: rest).filter (Leads neighbours ·) =
      first :: (explore neighbours (first :: rest) [first]).2.filter (Leads neighbours ·) := by
  obtain ⟨below, _⟩ := List.pairwise_cons.mp ordered
  have distinct : (first :: rest).Nodup := ordered.imp ne_of_lt
  have visitedFirst : first ∈ (explore neighbours (first :: rest) [first]).1 := by
    obtain ⟨later, starts, _⟩ := explore_first neighbours first rest
    rw [starts]
    exact List.mem_cons_self
  rw [explore_left_eq_filter neighbours distinct,
    List.filter_cons_of_pos (p := fun node => decide (Leads neighbours node))
      (decide_eq_true (leads_first ordered closed)),
    List.filter_cons_of_neg (by simpa using visitedFirst), List.filter_filter]
  refine congrArg _ (List.filter_congr fun node inRest => ?_)
  rw [← Bool.decide_and, decide_eq_decide]
  refine (and_iff_left_of_imp fun leads visited => ?_).symm
  obtain ⟨start, isFirst, path⟩ := explore_reaches neighbours visited
  rw [List.mem_singleton.mp isFirst] at path
  exact (below node inRest).not_ge (leads first (path.symm symmetric))

end Leads

open Classical in
/-- With mutual neighbours, each part is what a search among all nodes finds from the part's first
node. -/
theorem parts_eq_map [Preorder ν]
    (symmetric : ∀ node next, next ∈ neighbours node → node ∈ neighbours next)
    {unvisited : List ν} (ordered : unvisited.Pairwise (· < ·))
    (closed : ∀ node ∈ unvisited, ∀ next ∈ neighbours node, next ∈ unvisited) :
    parts neighbours unvisited =
      (unvisited.filter (Leads neighbours ·)).map fun first =>
        (explore neighbours unvisited [first]).1 := by
  fun_induction parts neighbours unvisited with
  | case1 => rfl
  | case2 first rest found ih =>
      have distinct : (first :: rest).Nodup := ordered.imp ne_of_lt
      have sublist : found.2.Sublist (first :: rest) :=
        explore_left_sublist neighbours (first :: rest) [first]
      have leftClosed : ∀ node ∈ found.2, ∀ next ∈ neighbours node, next ∈ found.2 :=
        explore_left_closed symmetric distinct closed
      rw [filter_leads_cons symmetric ordered closed, List.map_cons,
        ih (ordered.sublist sublist) leftClosed]
      refine congrArg _ (List.map_congr_left fun start member => ?_)
      have isLeft := (List.mem_filter.mp member).1
      -- From a node that is left only nodes that are left can be reached.
      apply explore_congr distinct (distinct.sublist sublist)
      intro other isStart node path
      rw [List.mem_singleton.mp isStart] at path
      have inLeft := mem_of_reaches neighbours leftClosed isLeft path
      exact iff_of_true inLeft (sublist.subset inLeft)

end Parts

end Drafting.DepthFirst
