/-!
# Depth-first search from a work list

`explore` visits everything that can be reached from a work list, in the order in which a recursive
search would enter it: a visited node puts its neighbours in front of the work that is left. The
work list may hold nodes twice, and nodes that are visited before their turn comes; these are
skipped. What may still be visited is kept as a list in the original order, which is also what makes
the search end. `parts` splits the nodes into the groups that one search after the other visits.
-/

namespace Drafting.DepthFirst

variable {ν : Type} [DecidableEq ν]

/-- Visit what can be reached from the work list through unvisited nodes. Gives the visited nodes in
order, and the nodes that stay unvisited. -/
def explore (neighbours : ν → List ν) (unvisited : List ν) : List ν → List ν × List ν
  | [] => ([], unvisited)
  | node :: work =>
      if node ∈ unvisited then
        let unvisited' := unvisited.erase node
        let next := (neighbours node).filter (· ∈ unvisited')
        let (visited, left) := explore neighbours unvisited' (next ++ work)
        (node :: visited, left)
      else explore neighbours unvisited work
termination_by work => (unvisited.length, work.length)
decreasing_by
  · apply Prod.Lex.left
    have hErase := List.length_erase_of_mem (l := unvisited) ‹node ∈ unvisited›
    have hPositive := List.length_pos_of_mem ‹node ∈ unvisited›
    omega
  · apply Prod.Lex.right
    exact Nat.lt_succ_self _

theorem explore_left_length_le (neighbours : ν → List ν) (unvisited work : List ν) :
    (explore neighbours unvisited work).2.length ≤ unvisited.length := by
  fun_induction explore neighbours unvisited work with
  | case1 => exact Nat.le_refl _
  | case2 unvisited node work _ unvisited' next visited left hResult ih =>
      have hErase := List.length_erase_le (l := unvisited) (a := node)
      rw [hResult] at ih
      exact Nat.le_trans ih hErase
  | case3 _ _ _ _ ih => exact ih

/-- A search that starts at an unvisited node leaves fewer nodes. -/
theorem explore_left_length_lt (neighbours : ν → List ν) (first : ν) (rest : List ν) :
    (explore neighbours (first :: rest) [first]).2.length < (first :: rest).length := by
  rw [explore, if_pos List.mem_cons_self]
  have hLeft := explore_left_length_le neighbours ((first :: rest).erase first)
    ((neighbours first).filter (· ∈ (first :: rest).erase first) ++ [])
  rw [List.erase_cons_head] at hLeft ⊢
  exact Nat.lt_succ_of_le hLeft

def parts (neighbours : ν → List ν) : List ν → List (List ν)
  | [] => []
  | first :: rest =>
      let found := explore neighbours (first :: rest) [first]
      found.1 :: parts neighbours found.2
termination_by unvisited => unvisited.length
decreasing_by exact explore_left_length_lt neighbours first rest

end Drafting.DepthFirst
