import Drafting.Proofs.Measurement

/-!
# Columns under other names

The columns of a component are its unknowns in the order in which they are first seen, so they keep
their places under an injective renaming. The equations between the columns then are the same, and so
is everything that is computed from them.
-/

namespace Drafting

variable {α : Type}

section Lists

variable {rename : UnknownId → UnknownId}

theorem eraseDups_map (injective : Function.Injective rename) (ids : List UnknownId) :
    (ids.map rename).eraseDups = ids.eraseDups.map rename := by
  match ids with
  | [] => rfl
  | id :: rest =>
      have kept : (rest.map rename).filter (fun other => !other == rename id) =
          (rest.filter fun other => !other == id).map rename := by
        rw [List.filter_map]
        refine congrArg _ (List.filter_congr fun other _ => ?_)
        rw [Function.comp_apply, injective.beq_eq]
      rw [List.map_cons, List.eraseDups_cons, List.eraseDups_cons, kept,
        eraseDups_map injective (rest.filter fun other => !other == id), List.map_cons]
termination_by ids.length
decreasing_by exact Nat.lt_succ_of_le (List.length_filter_le _ rest)

theorem idxOf_map (injective : Function.Injective rename) (id : UnknownId) (ids : List UnknownId) :
    (ids.map rename).idxOf (rename id) = ids.idxOf id := by
  rw [List.idxOf, List.findIdx_map, List.idxOf]
  refine congrArg (List.findIdx · ids) (funext fun other => ?_)
  exact injective.beq_eq

theorem mentioned_map (injective : Function.Injective rename)
    (constraints : List (Constraint UnknownId α)) :
    mentioned (constraints.map (Constraint.map rename)) = (mentioned constraints).map rename := by
  unfold mentioned
  rw [List.flatMap_map, ← eraseDups_map injective, List.map_flatMap]
  simp only [Constraint.unknowns_map]

end Lists

theorem Constraint.mapMem_map {ι κ μ : Type} (f : ι → κ) (c : Constraint ι α)
    (g : (k : κ) → k ∈ (c.map f).unknowns → μ) :
    (c.map f).mapMem g = c.mapMem fun i h => g (f i) (by
      rw [Constraint.unknowns_map]
      exact List.mem_map_of_mem h) := by
  cases c <;> rfl

namespace ComponentSystem

def rename (rename : UnknownId → UnknownId) (system : ComponentSystem α) : ComponentSystem α where
  columns := system.columns.map rename
  equations := system.equations.map (Constraint.map (Fin.cast (List.length_map rename).symm))

theorem width_rename (rename : UnknownId → UnknownId) (system : ComponentSystem α) :
    system.width = (system.rename rename).width :=
  (List.length_map _).symm

theorem height_rename (rename : UnknownId → UnknownId) (system : ComponentSystem α) :
    system.height = (system.rename rename).height :=
  (List.length_map _).symm

theorem ext_columns {system other : ComponentSystem α} (columns : system.columns = other.columns)
    (equations : system.equations.map (Constraint.map (Fin.cast (congrArg List.length columns))) =
      other.equations) : system = other := by
  obtain ⟨ids, rows⟩ := system
  obtain ⟨otherIds, otherRows⟩ := other
  dsimp only at columns equations
  subst columns
  have kept : rows.map (Constraint.map (Fin.cast rfl)) = rows := by
    rw [List.map_congr_left fun c _ => c.map_id, List.map_id']
  rw [← equations, kept]

/-- Renamed constraints have the same equations. -/
theorem ofConstraints_map {rename : UnknownId → UnknownId} (injective : Function.Injective rename)
    (constraints : List (Constraint UnknownId α)) :
    ofConstraints (constraints.map (Constraint.map rename)) =
      (ofConstraints constraints).rename rename := by
  refine ext_columns (mentioned_map injective constraints) ?_
  simp only [ofConstraints, ComponentSystem.rename, List.attach_map, List.map_map]
  refine List.map_congr_left fun c _ => ?_
  simp only [Function.comp_apply, Constraint.map_mapMem, Constraint.mapMem_map]
  congr 1
  funext id mentions
  apply Fin.ext
  change (mentioned (constraints.map (Constraint.map rename))).idxOf (rename id) =
    (mentioned constraints).idxOf id
  rw [mentioned_map injective, idxOf_map injective]

section Evaluation

variable (rename : UnknownId → UnknownId) (system : ComponentSystem α)

theorem equation_rename (i : Fin system.height) :
    (system.rename rename).equations.get (Fin.cast (system.height_rename rename) i) =
      (system.equations.get i).map (Fin.cast (system.width_rename rename)) :=
  List.getElem_map _

theorem residual_rename [Add α] [Sub α] [Mul α] (assignment : Vector α system.width) :
    (system.rename rename).residual (assignment.cast (system.width_rename rename)) =
      (system.residual assignment).cast (system.height_rename rename) := by
  refine eq_cast_of_get fun i => ?_
  rw [residual, get_ofFn, equation_rename, Constraint.residual_map, get_cast, residual, get_ofFn]

variable [Add α] [Sub α] [Mul α] [Neg α] [OfNat α 0] [OfNat α 1] [OfNat α 2]

theorem jacobian_rename (assignment : Vector α system.width) :
    (system.rename rename).jacobian (assignment.cast (system.width_rename rename)) =
      (system.jacobian assignment).cast (system.height_rename rename)
        (system.width_rename rename) := by
  refine DenseMatrix.eq_cast_of_entry fun i j => ?_
  simp only [jacobian, DenseMatrix.entry, get_ofFn]
  rw [equation_rename, Constraint.gradient_map, get_cast, List.foldl_map]
  simp only [Prod.map_fst, Prod.map_snd, id_eq, Fin.cast_inj]

theorem measuresAlike_rename : system.MeasuresAlike (system.rename rename) where
  width_eq := system.width_rename rename
  height_eq := system.height_rename rename
  residual_eq := system.residual_rename rename
  jacobian_eq := system.jacobian_rename rename

end Evaluation

end ComponentSystem

end Drafting
