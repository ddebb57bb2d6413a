import Mathlib.Data.List.OfFn
import Drafting.ComponentSystem
import Drafting.Proofs.ArenaValues

/-!
# Columns and residuals

A component's columns are its unknowns, each once. So a residual that is evaluated over the columns
agrees with the one that is evaluated over the unknowns themselves, whenever the columns hold their
values.
-/

namespace Drafting

variable {α : Type}

private theorem nodup_eraseDups (ids : List UnknownId) : ids.eraseDups.Nodup := by
  match ids with
  | [] => exact List.nodup_nil
  | id :: rest =>
      rw [List.eraseDups_cons, List.nodup_cons]
      refine ⟨?_, nodup_eraseDups (rest.filter fun other => !other == id)⟩
      intro again
      have kept := (List.mem_filter.mp (List.mem_eraseDups.mp again)).2
      simp at kept
termination_by ids.length
decreasing_by exact Nat.lt_succ_of_le (List.length_filter_le _ rest)

theorem nodup_mentioned (constraints : List (Constraint UnknownId α)) :
    (mentioned constraints).Nodup :=
  nodup_eraseDups _

def Arena.reading [OfNat α 0] (arena : Arena α) (id : UnknownId) : α := (arena.value? id).getD 0

theorem Arena.reading_eq [OfNat α 0] {arena : Arena α} {id : UnknownId} {value : α}
    (found : arena.value? id = some value) : arena.reading id = value := by
  rw [reading, found, Option.getD_some]

theorem Constraint.residualIn?_eq [Add α] [Sub α] [Mul α] [OfNat α 0] (c : Constraint UnknownId α)
    (arena : Arena α) :
    c.residualIn? arena =
      if arena.Contains c.unknowns then some (c.residual arena.reading) else none := by
  unfold residualIn?
  by_cases known : arena.Contains c.unknowns
  · rw [dif_pos known, if_pos known]
    congr 1
    apply residual_mapMem
    intro id mentioned
    exact (Arena.reading_eq (Arena.value?_of_lt (known id mentioned))).symm
  · rw [dif_neg known, if_neg known]

namespace ComponentSystem

variable (constraints : List (Constraint UnknownId α))

/-- Read back by the columns, the equations are the constraints. -/
theorem equations_map_columns :
    (ofConstraints constraints).equations.map
        (Constraint.map (ofConstraints constraints).columns.get) = constraints := by
  have back : (ofConstraints constraints).equations.map
      (Constraint.map (ofConstraints constraints).columns.get) =
        constraints.attach.map Subtype.val := by
    refine List.map_map.trans (List.map_congr_left ?_)
    intro c _
    have same : (fun id mentions => (ofConstraints constraints).columns.get
        ⟨_, List.idxOf_lt_length_iff.mpr (mem_mentioned.mpr ⟨c.val, c.property, mentions⟩)⟩) =
          fun (i : UnknownId) (_ : i ∈ c.val.unknowns) => id i :=
      funext fun _ => funext fun _ => List.getElem_idxOf _
    refine (Constraint.map_mapMem _ _ _).trans ((congrArg c.val.mapMem same).trans ?_)
    rw [Constraint.mapMem_eq_map, Constraint.map_id]
  rw [back, List.attach_map_subtype_val]

theorem mem_unknowns_of_mem_equation {i : Fin constraints.length}
    {column : Fin (ofConstraints constraints).width}
    (mentions : column ∈ ((ofConstraints constraints).equations.get
      (i.cast (height_ofConstraints constraints).symm)).unknowns) :
    (ofConstraints constraints).columns.get column ∈ (constraints.get i).unknowns := by
  have inRange : i.val < (ofConstraints constraints).equations.length :=
    (i.cast (height_ofConstraints constraints).symm).isLt
  have row := List.map_eq_iff.mp (equations_map_columns constraints) i.val
  rw [List.getElem?_eq_getElem i.isLt, List.getElem?_eq_getElem inRange, Option.map_some,
    Option.some.injEq] at row
  rw [List.get_eq_getElem, row, Constraint.unknowns_map]
  exact List.mem_map_of_mem mentions

/-- Evaluated at values of the columns, the residuals are those of the constraints in order. -/
theorem residual_ofConstraints [Add α] [Sub α] [Mul α]
    (assignment : Vector α (ofConstraints constraints).width) (value : UnknownId → α)
    (agree : ∀ j, value ((ofConstraints constraints).columns.get j) = assignment.get j) :
    ((ofConstraints constraints).residual assignment).toList =
      constraints.map fun c => c.residual value := by
  have rows : (ofConstraints constraints).equations.map (fun c => c.residual assignment.get) =
      constraints.attach.map fun c => c.val.residual value := by
    refine List.map_map.trans (List.map_congr_left ?_)
    intro c _
    apply Constraint.residual_mapMem
    intro id mentions
    exact (agree _).symm.trans (congrArg value (List.getElem_idxOf _))
  have listed := List.map_ofFn (f := (ofConstraints constraints).equations.get)
    (g := fun c => c.residual assignment.get)
  rw [List.ofFn_get, rows, List.attach_map_val] at listed
  rw [residual, Vector.toList_ofFn, listed]
  rfl

end ComponentSystem

end Drafting
