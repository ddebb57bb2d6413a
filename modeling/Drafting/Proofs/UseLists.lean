import Mathlib.Data.List.FinRange
import Drafting.Components

/-!
# Use lists

The use list of an unknown holds exactly the constraints that mention it, each once and in
ascending order. A look at the last entry keeps a constraint from being listed twice, because
constraints are noted in order.
-/

namespace Drafting.UseLists

variable {n : Nat} {α : Type}

theorem users_note (uses : UseLists n) (user : Fin n) (id other : UnknownId) :
    (uses.note user id).users other =
      if other = id ∧ (uses.users other).getLast? ≠ some user then uses.users other ++ [user]
      else uses.users other := by
  unfold users note
  rw [Std.HashMap.getD_eq_getD_getElem?, Std.HashMap.getElem?_alter,
    Std.HashMap.getD_eq_getD_getElem?]
  by_cases same : other = id
  · subst same
    rw [if_pos (beq_self_eq_true other), Option.getD_some]
    simp only [← Array.getLast?_toList]
    by_cases listed : (uses[other]?.getD #[]).toList.getLast? = some user
    · rw [if_pos listed, if_neg (fun both => both.2 listed)]
    · rw [if_neg listed, if_pos ⟨trivial, listed⟩, Array.toList_push]
  · have different : ¬(id == other) = true := fun equal => same (eq_of_beq equal).symm
    rw [if_neg different, if_neg (fun both => same both.1)]

theorem users_foldl_note (ids : List UnknownId) (uses : UseLists n) (user : Fin n)
    (other : UnknownId) :
    (ids.foldl (fun uses id => uses.note user id) uses).users other =
      if other ∈ ids ∧ (uses.users other).getLast? ≠ some user then uses.users other ++ [user]
      else uses.users other := by
  induction ids generalizing uses with
  | nil => simp
  | cons id rest ih =>
      rw [List.foldl_cons, ih, users_note]
      by_cases listed : (uses.users other).getLast? = some user
      · simp [listed]
      · by_cases same : other = id
        · subst same
          simp [listed]
        · simp [same, listed]

theorem users_foldl_constraints (constraints : Fin n → Constraint UnknownId α) (order : List (Fin n))
    (ascending : order.Pairwise (· < ·)) (uses : UseLists n) (other : UnknownId)
    (earlier : ∀ i ∈ order, (uses.users other).getLast? ≠ some i) :
    (order.foldl (fun uses i =>
        (constraints i).unknowns.foldl (fun uses id => uses.note i id) uses) uses).users other =
      uses.users other ++ order.filter fun i => other ∈ (constraints i).unknowns := by
  induction order generalizing uses with
  | nil => simp
  | cons i rest ih =>
      have restAscending := (List.pairwise_cons.mp ascending).2
      have below := (List.pairwise_cons.mp ascending).1
      have notLast := earlier i List.mem_cons_self
      have step := users_foldl_note (constraints i).unknowns uses i other
      rw [List.foldl_cons]
      by_cases mentions : other ∈ (constraints i).unknowns
      · rw [if_pos ⟨mentions, notLast⟩] at step
        have filtered := List.filter_cons_of_pos
          (p := fun i => decide (other ∈ (constraints i).unknowns)) (l := rest)
          (decide_eq_true mentions)
        rw [ih restAscending, step, filtered, List.append_assoc, List.singleton_append]
        -- The last entry is now `i`, and what comes later is above it.
        intro j inRest
        rw [step, List.getLast?_append_of_ne_nil _ (List.cons_ne_nil i []), List.getLast?_singleton]
        exact fun same => absurd (below j inRest) (by rw [Option.some.inj same]; exact lt_irrefl j)
      · rw [if_neg (fun both => mentions both.1)] at step
        have filtered := List.filter_cons_of_neg
          (p := fun i => decide (other ∈ (constraints i).unknowns)) (l := rest)
          (fun listed => mentions (of_decide_eq_true listed))
        rw [ih restAscending, step, filtered]
        intro j inRest
        rw [step]
        exact earlier j (List.mem_cons_of_mem i inRest)

/-- The use list of an unknown is the list of all constraints that mention it. -/
theorem users_ofConstraints (constraints : List (Constraint UnknownId α)) (id : UnknownId) :
    (ofConstraints constraints).users id =
      (List.finRange constraints.length).filter fun i => id ∈ (constraints.get i).unknowns := by
  have empty : (∅ : UseLists constraints.length).users id = [] := by
    rw [users, Std.HashMap.getD_empty]
  have all := users_foldl_constraints constraints.get (List.finRange constraints.length)
    (List.pairwise_lt_finRange _) ∅ id (by simp [empty])
  rw [empty, List.nil_append] at all
  exact all

end Drafting.UseLists

namespace Drafting

variable {α : Type}

def SharesUnknown (constraints : List (Constraint UnknownId α)) (i j : Fin constraints.length) :
    Prop :=
  ∃ id, id ∈ (constraints.get i).unknowns ∧ id ∈ (constraints.get j).unknowns

theorem SharesUnknown.symm {constraints : List (Constraint UnknownId α)}
    {i j : Fin constraints.length} (shared : SharesUnknown constraints i j) :
    SharesUnknown constraints j i := by
  obtain ⟨id, left, right⟩ := shared
  exact ⟨id, right, left⟩

theorem neighbours_eq (constraints : List (Constraint UnknownId α)) :
    neighbours constraints (UseLists.ofConstraints constraints) = fun i =>
      (constraints.get i).unknowns.flatMap fun id =>
        (List.finRange constraints.length).filter fun j => id ∈ (constraints.get j).unknowns := by
  funext i
  unfold neighbours
  congr
  funext id
  exact UseLists.users_ofConstraints constraints id

theorem mem_neighbours_iff {constraints : List (Constraint UnknownId α)}
    {i j : Fin constraints.length} :
    j ∈ neighbours constraints (UseLists.ofConstraints constraints) i ↔
      SharesUnknown constraints i j := by
  simp [neighbours_eq, SharesUnknown]

end Drafting
