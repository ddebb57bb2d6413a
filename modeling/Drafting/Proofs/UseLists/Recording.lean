import Drafting.Proofs.Guarded.Search

/-!
# Recording the uses of unknowns

The use lists grow by one mention of an unknown at a time. Constraints are recorded in order, so at
every moment a constraint that has been listed for an unknown is the last one in its list, and a look
at the last entry finds out as much as a look at the whole list would.
-/

namespace Drafting.UseLists

variable {n : Nat} {α : Type}

abbrev Mention (n : Nat) := Fin n × UnknownId

/-- Every mention, constraint after constraint and each time in the order of the constraint's parts. -/
def mentions (constraints : List (Constraint UnknownId α)) : List (Mention constraints.length) :=
  (List.finRange constraints.length).flatMap fun i =>
    (constraints.get i).unknowns.map fun id => (i, id)

def ofMentions (noted : List (Mention n)) : UseLists n :=
  noted.foldl (fun uses mention => uses.note mention.1 mention.2) ∅

theorem ofConstraints_eq_ofMentions (constraints : List (Constraint UnknownId α)) :
    ofConstraints constraints = ofMentions (mentions constraints) := by
  rw [ofMentions, mentions, List.foldl_flatMap, ofConstraints]
  simp only [List.foldl_map]

theorem mem_mentions {constraints : List (Constraint UnknownId α)} {i : Fin constraints.length}
    {id : UnknownId} : (i, id) ∈ mentions constraints ↔ id ∈ (constraints.get i).unknowns := by
  simp [mentions]

def InOrder (noted : List (Mention n)) : Prop := noted.Pairwise fun m m' => m.1 ≤ m'.1

theorem inOrder_mentions (constraints : List (Constraint UnknownId α)) :
    InOrder (mentions constraints) := by
  refine List.pairwise_flatMap.mpr ⟨?_, ?_⟩
  · intro i _
    refine List.pairwise_map.mpr (List.pairwise_of_forall fun _ _ => ?_)
    exact le_refl i
  · refine (List.pairwise_lt_finRange constraints.length).imp ?_
    intro i j below m inFirst m' inSecond
    obtain ⟨_, _, rfl⟩ := List.mem_map.mp inFirst
    obtain ⟨_, _, rfl⟩ := List.mem_map.mp inSecond
    exact le_of_lt below

structure Records (uses : UseLists n) (noted : List (Mention n)) : Prop where
  ascending : ∀ id, (uses.users id).Pairwise (· < ·)
  mem_iff : ∀ id i, i ∈ uses.users id ↔ (i, id) ∈ noted

/-- In an ascending list the largest entry can only be the last one. -/
theorem getLast?_eq_some_iff_mem {users : List (Fin n)} (ascending : users.Pairwise (· < ·))
    {user : Fin n} (latest : ∀ other ∈ users, other ≤ user) :
    users.getLast? = some user ↔ user ∈ users := by
  constructor
  · exact List.mem_of_getLast?
  · intro listed
    obtain ⟨front, last, rfl⟩ :=
      (List.eq_nil_or_concat' users).resolve_left (List.ne_nil_of_mem listed)
    rw [List.getLast?_concat, Option.some.injEq]
    rcases List.mem_append.mp listed with inFront | isLast
    · have below := (List.pairwise_append.mp ascending).2.2 user inFront last
        (List.mem_singleton_self last)
      have above := latest last (List.mem_append_right front (List.mem_singleton_self last))
      exact absurd below (not_lt_of_ge above)
    · exact (List.mem_singleton.mp isLast).symm

namespace Records

variable {uses : UseLists n} {noted : List (Mention n)} (records : uses.Records noted)
  {user : Fin n} (latest : ∀ mention ∈ noted, mention.1 ≤ user)
include records latest

theorem users_le (id : UnknownId) {other : Fin n} (listed : other ∈ uses.users id) :
    other ≤ user :=
  latest _ ((records.mem_iff id other).mp listed)

/-- When a constraint is noted, it has been listed already exactly if it is the last entry. -/
theorem getLast?_users_iff (id : UnknownId) :
    (uses.users id).getLast? = some user ↔ user ∈ uses.users id :=
  getLast?_eq_some_iff_mem (records.ascending id) fun _ listed => records.users_le latest id listed

protected theorem note (id : UnknownId) :
    (uses.note user id).Records (noted ++ [(user, id)]) where
  ascending other := by
    rw [users_note]
    split_ifs with added
    · refine List.pairwise_append.mpr ⟨records.ascending other, List.pairwise_singleton _ user, ?_⟩
      intro earlier listed last isUser
      rw [List.mem_singleton.mp isUser]
      refine lt_of_le_of_ne (records.users_le latest other listed) ?_
      rintro rfl
      exact added.2 ((records.getLast?_users_iff latest other).mpr listed)
    · exact records.ascending other
  mem_iff other i := by
    have before := records.mem_iff other i
    rw [users_note, List.mem_append, List.mem_singleton, Prod.mk.injEq, ← before]
    by_cases same : other = id
    · subst same
      by_cases listed : user ∈ uses.users other
      · -- The constraint mentions the unknown once more, and its entry stands already.
        rw [if_neg (fun added => added.2 ((records.getLast?_users_iff latest other).mpr listed))]
        constructor
        · exact Or.inl
        · rintro (old | ⟨rfl, _⟩)
          · exact old
          · exact listed
      · have absent : (uses.users other).getLast? ≠ some user :=
          fun last => listed ((records.getLast?_users_iff latest other).mp last)
        rw [if_pos ⟨rfl, absent⟩, List.mem_append, List.mem_singleton, and_iff_left rfl]
    · rw [if_neg (fun added => same added.1), or_iff_left (fun added => same added.2)]

end Records

theorem records_empty : (∅ : UseLists n).Records [] where
  ascending id := by
    rw [users, Std.HashMap.getD_empty]
    exact List.Pairwise.nil
  mem_iff id i := by
    rw [users, Std.HashMap.getD_empty, List.mem_nil_iff, List.mem_nil_iff]

theorem ofMentions_concat (noted : List (Mention n)) (mention : Mention n) :
    ofMentions (noted ++ [mention]) = (ofMentions noted).note mention.1 mention.2 := by
  rw [ofMentions, List.foldl_append]
  rfl

theorem InOrder.of_concat {noted : List (Mention n)} {mention : Mention n}
    (ordered : InOrder (noted ++ [mention])) :
    InOrder noted ∧ ∀ earlier ∈ noted, earlier.1 ≤ mention.1 := by
  obtain ⟨front, _, below⟩ := List.pairwise_append.mp ordered
  exact ⟨front, fun earlier member => below earlier member mention (List.mem_singleton_self mention)⟩

/-- The lists record all mentions that have been noted, at every moment. -/
theorem records_ofMentions {noted : List (Mention n)} (ordered : InOrder noted) :
    (ofMentions noted).Records noted := by
  induction noted using List.reverseRecOn with
  | nil => exact records_empty
  | append_singleton noted mention ih =>
      -- No earlier mention is of a later constraint, so this one can only be listed as the last.
      obtain ⟨front, latest⟩ := ordered.of_concat
      rw [ofMentions_concat]
      exact (ih front).note latest mention.2

theorem users_eq (uses : UseLists n) (id : UnknownId) :
    uses.users id = (uses[id]?.getD #[]).toList := by
  rw [users, Std.HashMap.getD_eq_getD_getElem?]

/-- Note a mention after a look at the whole list of the unknown. -/
def noteUnlisted (uses : UseLists n) (user : Fin n) (id : UnknownId) : UseLists n :=
  uses.alter id fun users? =>
    let users := users?.getD #[]
    some (if users.contains user then users else users.push user)

def ofMentionsSearched (noted : List (Mention n)) : UseLists n :=
  noted.foldl (fun uses mention => uses.noteUnlisted mention.1 mention.2) ∅

theorem getElem?_noteUnlisted {uses searched : UseLists n} {noted : List (Mention n)}
    (records : uses.Records noted) {user : Fin n} (latest : ∀ mention ∈ noted, mention.1 ≤ user)
    (same : ∀ id : UnknownId, searched[id]? = uses[id]?) (id other : UnknownId) :
    (searched.noteUnlisted user id)[other]? = (uses.note user id)[other]? := by
  have listed : (uses[id]?.getD #[]).contains user ↔ (uses[id]?.getD #[]).back? = some user := by
    rw [Array.contains_iff_mem, ← Array.mem_toList_iff, ← Array.getLast?_toList, ← users_eq,
      records.getLast?_users_iff latest]
  rw [noteUnlisted, note, Std.HashMap.getElem?_alter, Std.HashMap.getElem?_alter, same, same]
  dsimp only
  rw [if_congr listed rfl rfl]

/-- A look at the last entry keeps the same lists as a look at all entries. -/
theorem getElem?_ofMentionsSearched {noted : List (Mention n)} (ordered : InOrder noted)
    (id : UnknownId) : (ofMentionsSearched noted)[id]? = (ofMentions noted)[id]? := by
  induction noted using List.reverseRecOn generalizing id with
  | nil => rfl
  | append_singleton noted mention ih =>
      obtain ⟨front, latest⟩ := ordered.of_concat
      rw [ofMentions_concat, ofMentionsSearched, List.foldl_append]
      exact getElem?_noteUnlisted (records_ofMentions front) latest (ih front) mention.2 id

/-- A mentioned unknown has a list, and it is the ascending list of the constraints that mention the
unknown. -/
theorem exists_users (constraints : List (Constraint UnknownId α)) {i : Fin constraints.length}
    {id : UnknownId} (mentioned : id ∈ (constraints.get i).unknowns) :
    ∃ users, (ofConstraints constraints)[id]? = some users ∧ users.toList.Pairwise (· < ·) ∧
      ∀ j, j ∈ users ↔ id ∈ (constraints.get j).unknowns := by
  have records : (ofConstraints constraints).Records (mentions constraints) := by
    rw [ofConstraints_eq_ofMentions]
    exact records_ofMentions (inOrder_mentions constraints)
  obtain ⟨users, found⟩ := Guarded.useList_known constraints mentioned
  have listed : (ofConstraints constraints).users id = users.toList := by
    rw [users_eq, found, Option.getD_some]
  refine ⟨users, found, ?_, ?_⟩
  · rw [← listed]
    exact records.ascending id
  · intro j
    rw [← Array.mem_toList_iff, ← listed, records.mem_iff, mem_mentions]

/-- The use lists record all mentions. Whenever a constraint is noted, the last entry tells whether it
is listed already, so the lists are those that a search for it would keep, and every list that is
looked up afterwards is there. -/
theorem use_lists_are_complete (constraints : List (Constraint UnknownId α)) :
    ofConstraints constraints = ofMentions (mentions constraints) ∧
    (∀ id : UnknownId, (∃ c ∈ constraints, id ∈ c.unknowns) →
      ∃ users, (ofConstraints constraints)[id]? = some users ∧ users.toList.Pairwise (· < ·) ∧
        ∀ i, i ∈ users ↔ id ∈ (constraints.get i).unknowns) ∧
    (∀ earlier user id later, mentions constraints = earlier ++ (user, id) :: later →
      (((ofMentions earlier).users id).getLast? = some user ↔
        user ∈ (ofMentions earlier).users id)) ∧
    (∀ id : UnknownId,
      (ofConstraints constraints)[id]? = (ofMentionsSearched (mentions constraints))[id]?) ∧
    ∀ i, (∀ id ∈ (constraints.get i).unknowns, id ∈ ofConstraints constraints) ∧
      ∀ unvisited, Guarded.unmarkedUsers (ofConstraints constraints) (Guarded.marksOf unvisited)
          (constraints.get i).unknowns =
        .ok (((neighbours constraints (ofConstraints constraints) i).filter
          (· ∈ unvisited)).map Fin.val) := by
  have ordered := inOrder_mentions constraints
  refine ⟨ofConstraints_eq_ofMentions constraints, ?_, ?_, ?_, ?_⟩
  · rintro id ⟨c, member, mentioned⟩
    obtain ⟨i, rfl⟩ := List.get_of_mem member
    exact exists_users constraints mentioned
  · intro earlier user id later split
    rw [split] at ordered
    obtain ⟨front, _, below⟩ := List.pairwise_append.mp ordered
    refine (records_ofMentions front).getLast?_users_iff ?_ id
    intro mention member
    exact below mention member (user, id) List.mem_cons_self
  · intro id
    rw [ofConstraints_eq_ofMentions, getElem?_ofMentionsSearched ordered]
  · intro i
    constructor
    · intro id mentioned
      obtain ⟨users, found, _⟩ := exists_users constraints mentioned
      rw [Std.HashMap.mem_iff_isSome_getElem?, found, Option.isSome_some]
    · intro unvisited
      exact Guarded.unmarkedUsers_eq_ok (ofConstraints constraints) unvisited
        fun id mentioned => Guarded.useList_known constraints mentioned

abbrev sharedEnds : List (Constraint UnknownId Float) :=
  [.equal 0 0, .perpendicular ⟨⟨0, 1⟩, ⟨2, 1⟩⟩ ⟨⟨2, 1⟩, ⟨0, 3⟩⟩, .distance ⟨2, 2⟩ ⟨3, 0⟩ 2]

/-- The second constraint mentions unknown 0 again as its last point, when it is listed already. -/
theorem shared_ends_are_listed_once :
    (∃ c ∈ sharedEnds, 0 ∈ c.unknowns) ∧
    (∃ users, (ofConstraints sharedEnds)[0]? = some users ∧ users.toList.Pairwise (· < ·) ∧
      ∀ i, i ∈ users ↔ 0 ∈ (sharedEnds.get i).unknowns) ∧
    mentions sharedEnds =
      [(0, 0), (0, 0), (1, 0), (1, 1), (1, 2), (1, 1), (1, 2), (1, 1)] ++
        (1, 0) :: [(1, 3), (2, 2), (2, 2), (2, 3), (2, 0), (2, 2)] ∧
    (((ofMentions ((mentions sharedEnds).take 8)).users 0).getLast? = some 1 ↔
      1 ∈ (ofMentions ((mentions sharedEnds).take 8)).users 0) ∧
    0 ∈ (sharedEnds.get 1).unknowns ∧ 0 ∈ ofConstraints sharedEnds := by
  obtain ⟨_, recorded, last, _, found⟩ := use_lists_are_complete sharedEnds
  have mentioned : 0 ∈ (sharedEnds.get 1).unknowns := by decide
  have inSome : ∃ c ∈ sharedEnds, 0 ∈ c.unknowns := ⟨.equal 0 0, by simp, by decide⟩
  refine ⟨inSome, recorded 0 inSome, rfl, ?_, mentioned, (found 1).1 0 mentioned⟩
  exact last _ 1 0 _ rfl

end Drafting.UseLists
