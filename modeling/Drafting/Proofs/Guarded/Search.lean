import Drafting.Proofs.Connectivity
import Drafting.Proofs.Guarded

/-!
# The guarded search for components

The search keeps an array of marks and a stack of positions. Every position on the stack has a mark
and a constraint, and every unknown of a constraint has a use list, so the search never stops with a
fault.
-/

namespace Drafting.Guarded

variable {n : Nat} {α : Type}

def listUnmarked (marks : Array Bool) (listed : List Nat) (users : List (Fin n)) :
    Except Fault (List Nat) :=
  users.foldlM (fun listed user => do
    let marked ← found .mark marks[user.val]?
    return if marked then listed else listed ++ [user.val]) listed

def unmarkedUsers (uses : UseLists n) (marks : Array Bool) (ids : List UnknownId) :
    Except Fault (List Nat) :=
  ids.foldlM (fun listed id => do
    let users ← found .useList uses[id]?
    listUnmarked marks listed users.toList) []

private theorem count_mark_lt {marks : Array Bool} {current : Nat}
    (unmarked : marks[current]? = some false) :
    (marks.setIfInBounds current true).count false < marks.count false := by
  obtain ⟨inRange, entry⟩ := Array.getElem?_eq_some_iff.mp unmarked
  have positive : 0 < marks.count false := by
    rw [Array.count_pos_iff, ← entry]
    exact Array.getElem_mem inRange
  rw [Array.setIfInBounds, dif_pos inRange, Array.count_set, entry]
  have other : (true == false) = false := rfl
  rw [other, if_pos BEq.rfl, if_neg Bool.false_ne_true]
  omega

def search (constraints : List (Constraint UnknownId α)) (uses : UseLists n) (marks : Array Bool) :
    List Nat → Except Fault (List Nat × Array Bool)
  | [] => .ok ([], marks)
  | current :: stack =>
      match _state : marks[current]? with
      | none => .error .mark
      | some true => search constraints uses marks stack
      | some false => do
          let marks' := marks.setIfInBounds current true
          let constraint ← found .constraint constraints[current]?
          let next ← unmarkedUsers uses marks' constraint.unknowns
          let (visited, marksLeft) ← search constraints uses marks' (next ++ stack)
          return (current :: visited, marksLeft)
termination_by stack => (marks.count false, stack.length)
decreasing_by
  · apply Prod.Lex.right
    exact Nat.lt_succ_self _
  · apply Prod.Lex.left
    exact count_mark_lt _state

def componentsFrom (constraints : List (Constraint UnknownId α)) (uses : UseLists n) :
    Array Bool → List Nat → Except Fault (List (List Nat))
  | _, [] => .ok []
  | marks, start :: rest => do
      let marked ← found .mark marks[start]?
      if marked then componentsFrom constraints uses marks rest
      else
        let (visited, marks) ← search constraints uses marks [start]
        return visited :: (← componentsFrom constraints uses marks rest)

def components (constraints : List (Constraint UnknownId α)) : Except Fault (List (List Nat)) :=
  componentsFrom constraints (UseLists.ofConstraints constraints)
    (Array.replicate constraints.length false) (List.range constraints.length)

section Marks

def marksOf (unvisited : List (Fin n)) : Array Bool := Array.ofFn fun i => decide (i ∉ unvisited)

theorem getElem?_marksOf (unvisited : List (Fin n)) (i : Fin n) :
    (marksOf unvisited)[i.val]? = some (decide (i ∉ unvisited)) := by
  rw [marksOf, Array.getElem?_ofFn, dif_pos i.isLt]

theorem marksOf_erase {unvisited : List (Fin n)} (distinct : unvisited.Nodup) (node : Fin n) :
    (marksOf unvisited).setIfInBounds node.val true = marksOf (unvisited.erase node) := by
  apply Array.ext
  · simp only [marksOf, Array.size_setIfInBounds, Array.size_ofFn]
  · intro i inRange inOther
    have bound : i < n := by
      rw [marksOf, Array.size_ofFn] at inOther
      exact inOther
    rw [Array.size_setIfInBounds] at inRange
    rw [Array.getElem_setIfInBounds inRange]
    simp only [marksOf, Array.getElem_ofFn, distinct.mem_erase_iff]
    by_cases same : node.val = i
    · have isNode : (⟨i, bound⟩ : Fin n) = node := Fin.ext same.symm
      simp [same, isNode]
    · have otherNode : (⟨i, bound⟩ : Fin n) ≠ node := fun equal => same (congrArg Fin.val equal).symm
      simp [same, otherNode]

theorem marksOf_finRange : marksOf (List.finRange n) = Array.replicate n false := by
  apply Array.ext
  · rw [marksOf, Array.size_ofFn, Array.size_replicate]
  · intro i _ _
    simp [marksOf]

private theorem listUnmarked_eq_ok (unvisited listed users : List (Fin n)) :
    listUnmarked (marksOf unvisited) (listed.map Fin.val) users =
      .ok ((listed ++ users.filter (· ∈ unvisited)).map Fin.val) := by
  induction users generalizing listed with
  | nil =>
      rw [List.filter_nil, List.append_nil]
      rfl
  | cons user rest ih =>
      unfold listUnmarked at ih ⊢
      rw [List.foldlM_cons, getElem?_marksOf, found_some, ok_bind, pure_eq_ok, ok_bind]
      by_cases member : user ∈ unvisited
      · have grown := ih (listed ++ [user])
        rw [List.map_append, List.append_assoc] at grown
        simpa [member] using grown
      · simpa [member] using ih listed

private theorem foldlM_listUnmarked (uses : UseLists n) (unvisited listed : List (Fin n))
    {ids : List UnknownId} (known : ∀ id ∈ ids, ∃ users, uses[id]? = some users) :
    ids.foldlM (fun listed id => do
        let users ← found .useList uses[id]?
        listUnmarked (marksOf unvisited) listed users.toList) (listed.map Fin.val) =
      .ok ((listed ++ (ids.flatMap uses.users).filter (· ∈ unvisited)).map Fin.val) := by
  induction ids generalizing listed with
  | nil =>
      rw [List.flatMap_nil, List.filter_nil, List.append_nil]
      rfl
  | cons id rest ih =>
      obtain ⟨⟨users, atId⟩, later⟩ := List.forall_mem_cons.mp known
      have usersOf : uses.users id = users.toList := by
        rw [UseLists.users, Std.HashMap.getD_eq_getD_getElem?, atId, Option.getD_some]
      rw [List.foldlM_cons, atId, found_some, ok_bind, listUnmarked_eq_ok, ok_bind, ih _ later,
        List.flatMap_cons, List.filter_append, List.append_assoc, usersOf]

theorem unmarkedUsers_eq_ok (uses : UseLists n) (unvisited : List (Fin n)) {ids : List UnknownId}
    (known : ∀ id ∈ ids, ∃ users, uses[id]? = some users) :
    unmarkedUsers uses (marksOf unvisited) ids =
      .ok (((ids.flatMap uses.users).filter (· ∈ unvisited)).map Fin.val) :=
  foldlM_listUnmarked uses unvisited [] known

end Marks

section Components

variable (constraints : List (Constraint UnknownId α))

theorem useList_known {id : UnknownId} {i : Fin constraints.length}
    (mentions : id ∈ (constraints.get i).unknowns) :
    ∃ users, (UseLists.ofConstraints constraints)[id]? = some users := by
  cases atId : (UseLists.ofConstraints constraints)[id]? with
  | some users => exact ⟨users, rfl⟩
  | none =>
      have listed : i ∈ (UseLists.ofConstraints constraints).users id := by
        rw [UseLists.users_ofConstraints]
        exact List.mem_filter.mpr ⟨List.mem_finRange i, decide_eq_true mentions⟩
      rw [UseLists.users, Std.HashMap.getD_eq_getD_getElem?, atId, Option.getD_none] at listed
      cases listed

private theorem search_marked {uses : UseLists n} {marks : Array Bool} {current : Nat}
    (marked : marks[current]? = some true) (stack : List Nat) :
    search constraints uses marks (current :: stack) = search constraints uses marks stack := by
  rw [search]
  split
  · rename_i absent
    cases marked.symm.trans absent
  · rfl
  · rename_i unmarked
    cases marked.symm.trans unmarked

private theorem search_unmarked {uses : UseLists n} {marks : Array Bool} {current : Nat}
    (unmarked : marks[current]? = some false) (stack : List Nat) :
    search constraints uses marks (current :: stack) = (do
      let marks' := marks.setIfInBounds current true
      let constraint ← found .constraint constraints[current]?
      let next ← unmarkedUsers uses marks' constraint.unknowns
      let (visited, marksLeft) ← search constraints uses marks' (next ++ stack)
      return (current :: visited, marksLeft)) := by
  rw [search]
  split
  · rename_i absent
    cases unmarked.symm.trans absent
  · rename_i marked
    cases unmarked.symm.trans marked
  · rfl

/-- The guarded search visits what the search on lists visits, and the marks that it leaves are
those of the nodes that stay unvisited. -/
theorem search_eq_ok {unvisited : List (Fin constraints.length)} (distinct : unvisited.Nodup)
    (work : List (Fin constraints.length)) :
    search constraints (UseLists.ofConstraints constraints) (marksOf unvisited)
        (work.map Fin.val) =
      .ok ((DepthFirst.explore (neighbours constraints (UseLists.ofConstraints constraints))
          unvisited work).1.map Fin.val,
        marksOf (DepthFirst.explore (neighbours constraints (UseLists.ofConstraints constraints))
          unvisited work).2) := by
  fun_induction DepthFirst.explore (neighbours constraints (UseLists.ofConstraints constraints))
    unvisited work with
  | case1 =>
      rw [List.map_nil, search]
  | case2 unvisited node work member unvisited' next visited left result ih =>
      have unmarked : (marksOf unvisited)[node.val]? = some false := by
        rw [getElem?_marksOf, decide_eq_false (not_not_intro member)]
      have atNode : constraints[node.val]? = some (constraints.get node) :=
        List.getElem?_eq_getElem node.isLt
      have users : unmarkedUsers (UseLists.ofConstraints constraints) (marksOf unvisited')
          (constraints.get node).unknowns = .ok (next.map Fin.val) :=
        unmarkedUsers_eq_ok _ _ fun id mentions => useList_known constraints mentions
      have marked : (marksOf unvisited).setIfInBounds node.val true = marksOf unvisited' :=
        marksOf_erase distinct node
      have later := ih (distinct.erase node)
      rw [result, List.map_append] at later
      rw [List.map_cons, search_unmarked constraints unmarked, marked, atNode]
      simp only [found_some, ok_bind, users, later]
      rfl
  | case3 unvisited node work absent ih =>
      have marked : (marksOf unvisited)[node.val]? = some true := by
        rw [getElem?_marksOf, decide_eq_true absent]
      rw [List.map_cons, search_marked constraints marked]
      exact ih distinct

private theorem componentsFrom_eq_ok {unvisited starts : List (Fin constraints.length)}
    (distinct : starts.Nodup) (pending : unvisited.Sublist starts) :
    componentsFrom constraints (UseLists.ofConstraints constraints) (marksOf unvisited)
        (starts.map Fin.val) =
      .ok ((DepthFirst.parts (neighbours constraints (UseLists.ofConstraints constraints))
        unvisited).map (List.map Fin.val)) := by
  induction starts generalizing unvisited with
  | nil =>
      rw [List.sublist_nil.mp pending, DepthFirst.parts]
      rfl
  | cons start rest ih =>
      have restDistinct := (List.nodup_cons.mp distinct).2
      rw [List.map_cons, componentsFrom, getElem?_marksOf, found_some, ok_bind]
      rcases DepthFirst.pending_cases (neighbours constraints (UseLists.ofConstraints constraints))
        distinct pending with ⟨absent, skipped⟩ | ⟨others, starts, stillPending⟩
      · rw [decide_eq_true absent, if_pos rfl]
        exact ih restDistinct skipped
      · subst starts
        have searched := search_eq_ok constraints (distinct.sublist pending) [start]
        rw [List.map_singleton] at searched
        rw [decide_eq_false (not_not_intro List.mem_cons_self), if_neg Bool.false_ne_true, searched,
          DepthFirst.parts]
        simp only [ok_bind, ih restDistinct stillPending]
        rfl

theorem components_eq_ok :
    components constraints = .ok ((Drafting.components constraints).map (List.map Fin.val)) := by
  have all := componentsFrom_eq_ok constraints (List.nodup_finRange constraints.length)
    (List.Sublist.refl _)
  rw [marksOf_finRange, List.map_coe_finRange_eq_range] at all
  exact all

end Components

end Drafting.Guarded
