import Mathlib.Data.List.Pairwise
import Mathlib.Data.List.Perm.Basic
import Mathlib.Logic.Relation
import Drafting.DepthFirst

/-!
# What a depth-first search finds

A search splits the unvisited nodes into those that it visits and those that are left. It visits
only what its work list reaches, and nothing that is left is a neighbour of a visited node. For
mutual neighbours the parts are therefore the classes of nodes that reach each other.
-/

namespace Drafting.DepthFirst

open Relation

variable {ν : Type} [DecidableEq ν]

def Reaches (neighbours : ν → List ν) : ν → ν → Prop :=
  ReflTransGen fun node next => next ∈ neighbours node

omit [DecidableEq ν] in
theorem Reaches.symm {neighbours : ν → List ν}
    (symmetric : ∀ node next, next ∈ neighbours node → node ∈ neighbours next) {start node : ν}
    (path : Reaches neighbours start node) : Reaches neighbours node start :=
  have : Std.Symm fun node next : ν => next ∈ neighbours node := ⟨symmetric⟩
  ReflTransGen.stdSymm.symm _ _ path

section Explore

variable (neighbours : ν → List ν)

theorem explore_left_sublist (unvisited work : List ν) :
    (explore neighbours unvisited work).2.Sublist unvisited := by
  fun_induction explore neighbours unvisited work with
  | case1 => exact List.Sublist.refl _
  | case2 unvisited node work _ unvisited' next visited left found ih =>
      rw [found] at ih
      exact ih.trans List.erase_sublist
  | case3 _ _ _ _ ih => exact ih

theorem explore_perm (unvisited work : List ν) :
    ((explore neighbours unvisited work).1 ++ (explore neighbours unvisited work).2).Perm
      unvisited := by
  fun_induction explore neighbours unvisited work with
  | case1 => exact List.Perm.refl _
  | case2 unvisited node work member unvisited' next visited left found ih =>
      rw [found] at ih
      exact (ih.cons node).trans (List.perm_cons_erase member).symm
  | case3 _ _ _ _ ih => exact ih

/-- Only nodes that the work list reaches are visited. -/
theorem explore_reaches {unvisited work : List ν} {node : ν}
    (visited : node ∈ (explore neighbours unvisited work).1) :
    ∃ start ∈ work, Reaches neighbours start node := by
  fun_induction explore neighbours unvisited work with
  | case1 => cases visited
  | case2 unvisited first work _ unvisited' next visitedLater left found ih =>
      rcases List.mem_cons.mp visited with same | later
      · subst same
        exact ⟨node, List.mem_cons_self, ReflTransGen.refl⟩
      · rw [found] at ih
        obtain ⟨start, member, path⟩ := ih later
        rcases List.mem_append.mp member with fresh | old
        · have neighbour : start ∈ neighbours first := (List.mem_filter.mp fresh).1
          exact ⟨first, List.mem_cons_self, ReflTransGen.head neighbour path⟩
        · exact ⟨start, List.mem_cons_of_mem _ old, path⟩
  | case3 _ _ _ _ ih =>
      obtain ⟨start, member, path⟩ := ih visited
      exact ⟨start, List.mem_cons_of_mem _ member, path⟩

theorem explore_work_not_left {unvisited work : List ν} (distinct : unvisited.Nodup) {node : ν}
    (member : node ∈ work) : node ∉ (explore neighbours unvisited work).2 := by
  fun_induction explore neighbours unvisited work with
  | case1 => cases member
  | case2 unvisited first work _ unvisited' next visited left found ih =>
      have sublist := explore_left_sublist neighbours unvisited' (next ++ work)
      rw [found] at ih sublist
      rcases List.mem_cons.mp member with same | later
      · subst same
        intro left
        exact distinct.not_mem_erase (sublist.subset left)
      · exact ih (distinct.erase first) (List.mem_append_right _ later)
  | case3 unvisited first work absent ih =>
      rcases List.mem_cons.mp member with same | later
      · subst same
        intro left
        exact absent ((explore_left_sublist neighbours unvisited work).subset left)
      · exact ih distinct later

/-- No neighbour of a visited node is left. -/
theorem explore_neighbours_not_left {unvisited work : List ν} (distinct : unvisited.Nodup)
    {node next : ν} (visited : node ∈ (explore neighbours unvisited work).1)
    (neighbour : next ∈ neighbours node) : next ∉ (explore neighbours unvisited work).2 := by
  fun_induction explore neighbours unvisited work with
  | case1 => cases visited
  | case2 unvisited first work _ unvisited' fresh visitedLater left found ih =>
      rcases List.mem_cons.mp visited with same | later
      · subst same
        have distinct' : unvisited'.Nodup := distinct.erase node
        have result : (explore neighbours unvisited' (fresh ++ work)).2 = left := by rw [found]
        -- A neighbour that is still unvisited goes on the work list now, and no other can be left.
        by_cases pending : next ∈ unvisited'
        · have onWork : next ∈ fresh ++ work :=
            List.mem_append_left _ (List.mem_filter.mpr ⟨neighbour, decide_eq_true pending⟩)
          rw [← result]
          exact explore_work_not_left neighbours distinct' onWork
        · rw [← result]
          intro isLeft
          exact pending ((explore_left_sublist neighbours unvisited' _).subset isLeft)
      · rw [found] at ih
        exact ih (distinct.erase first) later
  | case3 _ _ _ _ ih => exact ih distinct visited

theorem explore_first (first : ν) (rest : List ν) :
    ∃ later, (explore neighbours (first :: rest) [first]).1 = first :: later ∧
      (later ++ (explore neighbours (first :: rest) [first]).2).Perm rest := by
  have split := explore_perm neighbours (first :: rest) [first]
  rw [explore, if_pos List.mem_cons_self] at split ⊢
  exact ⟨_, rfl, split.cons_inv⟩

end Explore

section Parts

variable (neighbours : ν → List ν)

/-- While one start after the other is searched from, the unvisited nodes are among the starts that
are left. So a start is either visited already or the first unvisited node. -/
theorem pending_cases {unvisited rest : List ν} {start : ν} (distinct : (start :: rest).Nodup)
    (pending : unvisited.Sublist (start :: rest)) :
    (start ∉ unvisited ∧ unvisited.Sublist rest) ∨
      ∃ others, unvisited = start :: others ∧
        (explore neighbours unvisited [start]).2.Sublist rest := by
  rcases List.sublist_cons_iff.mp pending with skipped | ⟨others, starts, later⟩
  · exact .inl ⟨fun member => (List.nodup_cons.mp distinct).1 (skipped.subset member), skipped⟩
  · refine .inr ⟨others, starts, ?_⟩
    have visited := explore_work_not_left neighbours (distinct.sublist pending)
      (List.mem_singleton_self start)
    have left := explore_left_sublist neighbours unvisited [start]
    rcases List.sublist_cons_iff.mp (starts ▸ left) with skipped | ⟨_, found, _⟩
    · exact starts ▸ skipped.trans later
    · rw [starts, found] at visited
      exact absurd List.mem_cons_self visited

theorem parts_flatten_perm (unvisited : List ν) :
    (parts neighbours unvisited).flatten.Perm unvisited := by
  fun_induction parts neighbours unvisited with
  | case1 => exact List.Perm.refl _
  | case2 first rest found ih =>
      rw [List.flatten_cons]
      exact (ih.append_left found.1).trans (explore_perm neighbours (first :: rest) [first])

theorem parts_reaches {unvisited part : List ν} (member : part ∈ parts neighbours unvisited) :
    ∃ first later, part = first :: later ∧ ∀ node ∈ part, Reaches neighbours first node := by
  fun_induction parts neighbours unvisited with
  | case1 => cases member
  | case2 first rest found ih =>
      rcases List.mem_cons.mp member with same | later
      · obtain ⟨others, starts, _⟩ := explore_first neighbours first rest
        refine ⟨first, others, same.trans starts, ?_⟩
        intro node visited
        rw [same] at visited
        obtain ⟨start, isFirst, path⟩ := explore_reaches neighbours visited
        rw [List.mem_singleton] at isFirst
        rwa [isFirst] at path
      · exact ih later

theorem parts_separated {unvisited : List ν} (distinct : unvisited.Nodup) :
    (parts neighbours unvisited).Pairwise fun part other =>
      ∀ node ∈ part, ∀ next ∈ other, next ∉ neighbours node := by
  fun_induction parts neighbours unvisited with
  | case1 => exact List.Pairwise.nil
  | case2 first rest found ih =>
      have leftDistinct : found.2.Nodup :=
        distinct.sublist (explore_left_sublist neighbours (first :: rest) [first])
      refine List.Pairwise.cons ?_ (ih leftDistinct)
      intro other isLater node visited next inOther neighbour
      have isLeft : next ∈ found.2 :=
        (parts_flatten_perm neighbours found.2).subset (List.mem_flatten_of_mem isLater inOther)
      exact explore_neighbours_not_left neighbours distinct visited neighbour isLeft

theorem parts_first_precedes {precedes : ν → ν → Prop} {unvisited part : List ν}
    (ordered : unvisited.Pairwise precedes) (member : part ∈ parts neighbours unvisited) :
    ∃ first later, part = first :: later ∧ ∀ node ∈ later, precedes first node := by
  fun_induction parts neighbours unvisited with
  | case1 => cases member
  | case2 first rest found ih =>
      rcases List.mem_cons.mp member with same | isLater
      · obtain ⟨others, starts, split⟩ := explore_first neighbours first rest
        refine ⟨first, others, same.trans starts, ?_⟩
        intro node inOthers
        exact List.rel_of_pairwise_cons ordered (split.subset (List.mem_append_left _ inOthers))
      · exact ih (ordered.sublist (explore_left_sublist neighbours (first :: rest) [first])) isLater

theorem parts_ordered {precedes : ν → ν → Prop} {unvisited : List ν}
    (ordered : unvisited.Pairwise precedes) :
    (parts neighbours unvisited).Pairwise fun part other =>
      ∀ first ∈ part.head?, ∀ node ∈ other, precedes first node := by
  fun_induction parts neighbours unvisited with
  | case1 => exact List.Pairwise.nil
  | case2 first rest found ih =>
      refine List.Pairwise.cons ?_
        (ih (ordered.sublist (explore_left_sublist neighbours (first :: rest) [first])))
      intro other isLater start isFirst node inOther
      obtain ⟨others, starts, split⟩ := explore_first neighbours first rest
      have isLeft : node ∈ found.2 :=
        (parts_flatten_perm neighbours found.2).subset (List.mem_flatten_of_mem isLater inOther)
      have inRest : node ∈ rest := split.subset (List.mem_append_right _ isLeft)
      rw [starts, List.head?_cons, Option.mem_some_iff] at isFirst
      rw [← isFirst]
      exact List.rel_of_pairwise_cons ordered inRest

theorem parts_apart {unvisited : List ν} (distinct : unvisited.Nodup)
    (symmetric : ∀ node next, next ∈ neighbours node → node ∈ neighbours next) {part other : List ν}
    (member : part ∈ parts neighbours unvisited) (otherMember : other ∈ parts neighbours unvisited)
    (different : part ≠ other) {node next : ν} (inPart : node ∈ part) (inOther : next ∈ other) :
    next ∉ neighbours node := by
  have : Std.Symm fun part other : List ν =>
      ∀ node ∈ part, ∀ next ∈ other, next ∉ neighbours node :=
    ⟨fun part other apart next inOther node inPart neighbour =>
      apart node inPart next inOther (symmetric next node neighbour)⟩
  exact (parts_separated neighbours distinct).forall member otherMember different node inPart next
    inOther

/-- Two nodes are in one part exactly if they reach each other, when neighbours are mutual and every
node is searched. -/
theorem same_part_iff {nodes : List ν} (distinct : nodes.Nodup) (complete : ∀ node, node ∈ nodes)
    (symmetric : ∀ node next, next ∈ neighbours node → node ∈ neighbours next) (a b : ν) :
    (∃ part ∈ parts neighbours nodes, a ∈ part ∧ b ∈ part) ↔ Reaches neighbours a b := by
  have somePart (node : ν) : ∃ part ∈ parts neighbours nodes, node ∈ part :=
    List.mem_flatten.mp ((parts_flatten_perm neighbours nodes).symm.subset (complete node))
  constructor
  · rintro ⟨part, member, inPart, alsoInPart⟩
    obtain ⟨first, later, _, path⟩ := parts_reaches neighbours member
    exact ((path a inPart).symm symmetric).trans (path b alsoInPart)
  · intro path
    induction path with
    | refl =>
        obtain ⟨part, member, inPart⟩ := somePart a
        exact ⟨part, member, inPart, inPart⟩
    | @tail node next _ neighbour ih =>
        obtain ⟨part, member, inPart, nodeInPart⟩ := ih
        obtain ⟨other, otherMember, nextInOther⟩ := somePart next
        by_cases same : part = other
        · subst same
          exact ⟨part, member, inPart, nextInOther⟩
        · exact absurd neighbour (parts_apart neighbours distinct symmetric member otherMember same
            nodeInPart nextInOther)

end Parts

end Drafting.DepthFirst
