import Mathlib.Data.List.Forall2
import Mathlib.Data.List.Nodup
import Drafting.Freedom
import Drafting.Proofs.ComponentColumns

/-!
# The bookkeeping of an analysis

An analysis says something about the columns of its component. Every component is analysed or noted
as not analysed. The analyses are kept in the order of the components, without gaps for those that
failed, and the notes tell which these are.
-/

namespace Drafting

theorem forall₂_filterMap {β γ : Type} (f : β → Option γ) (bs : List β) :
    List.Forall₂ (fun b c => f b = some c) (bs.filter fun b => (f b).isSome) (bs.filterMap f) := by
  induction bs with
  | nil => exact List.Forall₂.nil
  | cons b rest ih =>
      rw [List.filter_cons]
      cases value : f b with
      | none =>
          rw [List.filterMap_cons_none value]
          exact ih
      | some c =>
          rw [List.filterMap_cons_some value]
          exact List.Forall₂.cons value ih

namespace Freedom

variable {results : List (Option ComponentFreedom)}

theorem mem_unanalysed_iff {i : Nat} :
    i ∈ (ofResults results).unanalysed ↔ results[i]? = some none := by
  constructor
  · intro member
    obtain ⟨entry, listed, kept⟩ := List.mem_filterMap.mp member
    obtain ⟨result, j⟩ := entry
    have found := List.mem_zipIdx_iff_getElem?.mp listed
    cases result with
    | none =>
        cases kept
        exact found
    | some freedom => cases kept
  · intro found
    exact List.mem_filterMap.mpr ⟨(none, i), List.mem_zipIdx_iff_getElem?.mpr found, rfl⟩

theorem unanalysed_ascending (results : List (Option ComponentFreedom)) :
    (ofResults results).unanalysed.Pairwise (· < ·) := by
  have ascending : results.zipIdx.Pairwise fun entry other => entry.2 < other.2 := by
    apply List.pairwise_map.mp
    rw [List.zipIdx_map_snd]
    exact List.pairwise_lt_range'
  apply ascending.filterMap
  intro entry other before i isFirst j isSecond
  obtain ⟨result, k⟩ := entry
  obtain ⟨otherResult, l⟩ := other
  cases result with
  | some freedom => cases isFirst
  | none =>
      cases otherResult with
      | some freedom => cases isSecond
      | none =>
          cases isFirst
          cases isSecond
          exact before

/-- The analyses belong, in order, to the components that are not noted. -/
theorem forall₂_analysed (results : List (Option ComponentFreedom)) :
    List.Forall₂ (fun i freedom => results[i]? = some (some freedom))
      ((List.range results.length).filter fun i => i ∉ (ofResults results).unanalysed)
      (ofResults results).components := by
  have listed : (List.range results.length).map (fun i => results[i]?.join) = results := by
    apply List.ext_getElem
    · simp
    · intro i _ bound
      rw [List.getElem_map, List.getElem_range, List.getElem?_eq_getElem bound, Option.join_some]
  have components : (ofResults results).components =
      (List.range results.length).filterMap fun i => results[i]?.join := by
    conv_lhs => rw [ofResults, ← listed, List.filterMap_map]
    rfl
  have analysed : ((List.range results.length).filter fun i =>
      i ∉ (ofResults results).unanalysed) =
      (List.range results.length).filter fun i => (results[i]?.join).isSome := by
    apply List.filter_congr
    intro i inRange
    have bound := List.mem_range.mp inRange
    simp only [mem_unanalysed_iff, List.getElem?_eq_getElem bound, Option.join_some]
    cases results[i] <;> simp
  rw [analysed, components]
  refine (forall₂_filterMap _ _).imp ?_
  intro i freedom found
  exact Option.join_eq_some_iff.mp found

theorem length_components_add (results : List (Option ComponentFreedom)) :
    (ofResults results).components.length + (ofResults results).unanalysed.length =
      results.length := by
  have kept : (ofResults results).components.length = results.countP Option.isSome :=
    List.length_filterMap_eq_countP
  have noted : (ofResults results).unanalysed.length = results.countP fun r => !r.isSome := by
    have counted : (results.zipIdx.map Prod.fst).countP (fun r => !r.isSome) =
        (ofResults results).unanalysed.length := by
      rw [List.countP_map, ofResults, List.length_filterMap_eq_countP]
      apply List.countP_congr
      intro entry _
      obtain ⟨result, i⟩ := entry
      cases result <;> simp
    rw [← counted, List.zipIdx_map_fst]
  have counted := results.length_eq_countP_add_countP Option.isSome
  simp only [decide_not, Bool.decide_eq_true] at counted
  rw [kept, noted, ← counted]

end Freedom

variable {α : Type} [Precision α] [NatCast α] [Add α] [Sub α] [Mul α] [Div α] [Neg α]
  [OfNat α 0] [OfNat α 1] [OfNat α 2] [LT α] [DecidableLT α]

omit [Sub α] [Neg α] [OfNat α 2] in
theorem SingularValues.movable_sublist {columns : List UnknownId} {m : Nat}
    (s : SingularValues m columns.length α) :
    (s.movableColumns.map columns.get).Sublist columns := by
  have kept : s.movableColumns.Sublist (List.finRange columns.length) := List.filter_sublist
  have mapped := kept.map columns.get
  rwa [List.map_get_finRange] at mapped

namespace ComponentSystem

variable {decompose : Decomposition α} {system : ComponentSystem α}
  {assignment : Vector α system.width} {freedom : ComponentFreedom}

theorem freedom?_eq_none_iff :
    system.freedom? decompose assignment = none ↔
      system.height ≠ 0 ∧ system.width ≠ 0 ∧
        decompose system.height system.width (system.jacobian assignment) = none := by
  unfold freedom?
  by_cases trivial : system.height = 0 ∨ system.width = 0
  · rw [if_pos trivial]
    simp only [reduceCtorEq, false_iff]
    intro matters
    rcases trivial with noRow | noColumn
    · exact matters.1 noRow
    · exact matters.2.1 noColumn
  · rw [if_neg trivial, Option.map_eq_none_iff]
    obtain ⟨someRow, someColumn⟩ := not_or.mp trivial
    simp only [ne_eq, someRow, someColumn, not_false_eq_true, true_and]

theorem freedom?_cases (found : system.freedom? decompose assignment = some freedom) :
    freedom = ⟨system.width, 0, system.columns⟩ ∨
      ∃ s, decompose system.height system.width (system.jacobian assignment) = some s ∧
        freedom = ⟨system.width, s.rank, s.movableColumns.map system.columns.get⟩ := by
  unfold freedom? at found
  split at found
  · exact Or.inl (Option.some.inj found).symm
  · obtain ⟨s, factors, same⟩ := Option.map_eq_some_iff.mp found
    exact Or.inr ⟨s, factors, same.symm⟩

theorem unknowns_of_freedom? (found : system.freedom? decompose assignment = some freedom) :
    freedom.unknowns = system.width := by
  obtain same | ⟨s, _, same⟩ := freedom?_cases found
  · rw [same]
  · rw [same]

theorem rank_le_of_freedom? (found : system.freedom? decompose assignment = some freedom) :
    freedom.rank ≤ min system.height system.width := by
  obtain same | ⟨s, _, same⟩ := freedom?_cases found
  · rw [same]
    exact Nat.zero_le _
  · rw [same]
    exact s.rank_le

theorem movable_sublist_of_freedom?
    (found : system.freedom? decompose assignment = some freedom) :
    freedom.movable.Sublist system.columns := by
  obtain same | ⟨s, _, same⟩ := freedom?_cases found
  · rw [same]
  · rw [same]
    exact s.movable_sublist

end ComponentSystem

end Drafting
