import Drafting.Lint

/-!
# Warnings of composed and renamed systems

The warnings of a list of constraints come in its order, and each depends only on constraints that
fix the same unknown. So constraints that share no unknown with what comes before them get the
warnings that they get alone, and other names for the unknowns change nothing but names.
-/

namespace Drafting

variable {α : Type}

def Concern.relabel (rename : UnknownId → UnknownId) (offset : Nat) : Concern α → Concern α
  | .negativeDistance d => .negativeDistance d
  | .conflictingFixed unknown i first second =>
      .conflictingFixed (rename unknown) (i + offset) first second
  | .degenerateLine => .degenerateLine

/-- The warning for constraints with other names for their unknowns and so many constraints in front
of them. -/
def Warning.relabel (rename : UnknownId → UnknownId) (offset : Nat) (warning : Warning α) :
    Warning α :=
  ⟨warning.about.map (· + offset), warning.concern.relabel rename offset⟩

namespace Lint

section Notes

/-- Some notes say of an unknown what others say of it under another name and further back. -/
def NotedAlike (rename : UnknownId → UnknownId) (offset : Nat) (noted noted' : FirstFixed α)
    (id : UnknownId) : Prop :=
  noted'[rename id]? = (noted[id]?).map fun (i, value) => (i + offset, value)

variable {rename : UnknownId → UnknownId} {offset : Nat} {noted noted' : FirstFixed α}

theorem note_alike (injective : Function.Injective rename) {i : Nat} {c : Constraint UnknownId α}
    (alike : ∀ id ∈ c.unknowns, NotedAlike rename offset noted noted' id) {id : UnknownId}
    (alikeHere : NotedAlike rename offset noted noted' id) :
    NotedAlike rename offset (note noted i c) (note noted' (i + offset) (c.map rename)) id := by
  cases c with
  | fixed unknown value =>
      have known : rename unknown ∈ noted' ↔ unknown ∈ noted := by
        rw [Std.HashMap.mem_iff_isSome_getElem?, Std.HashMap.mem_iff_isSome_getElem?,
          alike unknown List.mem_cons_self, Option.isSome_map]
      unfold NotedAlike note at *
      dsimp only [Constraint.map]
      rw [Std.HashMap.getElem?_insertIfNew, Std.HashMap.getElem?_insertIfNew]
      simp only [beq_iff_eq, injective.eq_iff, known]
      split
      · rfl
      · exact alikeHere
  | _ => exact alikeHere

def noteAll (noted : FirstFixed α) (i : Nat) : List (Constraint UnknownId α) → FirstFixed α
  | [] => noted
  | c :: rest => noteAll (note noted i c) (i + 1) rest

theorem getElem?_noteAll_of_unmentioned {constraints : List (Constraint UnknownId α)} {i : Nat}
    {id : UnknownId} (unmentioned : ∀ c ∈ constraints, id ∉ c.unknowns) :
    (noteAll noted i constraints)[id]? = noted[id]? := by
  induction constraints generalizing noted i with
  | nil => rfl
  | cons c rest ih =>
      obtain ⟨here, later⟩ := List.forall_mem_cons.mp unmentioned
      rw [noteAll, ih later]
      cases c with
      | fixed unknown value =>
          have different : unknown ≠ id := fun same => here (List.mem_singleton.mpr same.symm)
          rw [note, Std.HashMap.getElem?_insertIfNew, if_neg]
          exact fun both => different (eq_of_beq both.1)
      | _ => rfl

end Notes

theorem isDegenerate_map_iff {rename : UnknownId → UnknownId} (injective : Function.Injective rename)
    (s : Segment UnknownId) : (s.map rename).IsDegenerate ↔ s.IsDegenerate := by
  obtain ⟨⟨startX, startY⟩, ⟨finishX, finishY⟩⟩ := s
  simp [Segment.IsDegenerate, Segment.map, Point.map, injective.eq_iff]

variable [NatCast α] [Sub α] [Div α] [Neg α] [OfNat α 0] [OfNat α 1] [LT α] [DecidableLT α]

theorem concern?_map {rename : UnknownId → UnknownId} {offset : Nat} {noted noted' : FirstFixed α}
    (injective : Function.Injective rename) {c : Constraint UnknownId α}
    (alike : ∀ id ∈ c.unknowns, NotedAlike rename offset noted noted' id) :
    concern? noted' (c.map rename) = (concern? noted c).map (Concern.relabel rename offset) := by
  cases c with
  | fixedDistance p q d =>
      dsimp only [concern?, Constraint.map]
      split <;> rfl
  | fixed unknown second =>
      have same : noted'[rename unknown]? = _ := alike unknown List.mem_cons_self
      dsimp only [concern?, Constraint.map]
      rw [same]
      cases noted[unknown]? with
      | none => rfl
      | some first =>
          dsimp only [Option.map_some]
          split <;> rfl
  | congruent s t | parallel s t | perpendicular s t =>
      simp only [concern?, Constraint.map, isDegenerate_map_iff injective]
      split <;> rfl
  | distance | equal => rfl

theorem warningsFrom_map {rename : UnknownId → UnknownId} {offset : Nat}
    {noted noted' : FirstFixed α} (injective : Function.Injective rename) (i : Nat)
    {constraints : List (Constraint UnknownId α)}
    (alike : ∀ c ∈ constraints, ∀ id ∈ c.unknowns, NotedAlike rename offset noted noted' id) :
    warningsFrom noted' (i + offset) (constraints.map (Constraint.map rename)) =
      (warningsFrom noted i constraints).map (Warning.relabel rename offset) := by
  induction constraints generalizing noted noted' i with
  | nil => rfl
  | cons c rest ih =>
      obtain ⟨here, later⟩ := List.forall_mem_cons.mp alike
      have laterAlike : ∀ c' ∈ rest, ∀ id ∈ c'.unknowns, NotedAlike rename offset (note noted i c)
          (note noted' (i + offset) (c.map rename)) id :=
        fun c' member id mentions => note_alike injective here (later c' member id mentions)
      rw [List.map_cons, warningsFrom, warningsFrom, concern?_map injective here, List.map_append,
        Nat.add_right_comm, ih (i + 1) laterAlike]
      congr 1
      cases concern? noted c <;> rfl

theorem warningsFrom_append (noted : FirstFixed α) (i : Nat)
    (first second : List (Constraint UnknownId α)) :
    warningsFrom noted i (first ++ second) =
      warningsFrom noted i first ++
        warningsFrom (noteAll noted i first) (i + first.length) second := by
  induction first generalizing noted i with
  | nil => rfl
  | cons c rest ih =>
      rw [List.cons_append, warningsFrom, warningsFrom, ih, noteAll, List.length_cons,
        List.append_assoc, Nat.add_right_comm, Nat.add_assoc i rest.length 1]

end Lint

variable [NatCast α] [Sub α] [Div α] [Neg α] [OfNat α 0] [OfNat α 1] [LT α] [DecidableLT α]

theorem lint_map {rename : UnknownId → UnknownId} (injective : Function.Injective rename)
    (constraints : List (Constraint UnknownId α)) :
    lint (constraints.map (Constraint.map rename)) =
      (lint constraints).map (Warning.relabel rename 0) := by
  have alike : ∀ c ∈ constraints, ∀ id ∈ c.unknowns,
      Lint.NotedAlike rename 0 (∅ : Lint.FirstFixed α) ∅ id := by
    intro c _ id _
    unfold Lint.NotedAlike
    rw [Std.HashMap.getElem?_empty, Std.HashMap.getElem?_empty, Option.map_none]
  exact Lint.warningsFrom_map injective 0 alike

/-- The warnings of two systems without a common unknown are those of the one and those of the
other. -/
theorem lint_append {first second : List (Constraint UnknownId α)}
    (apart : ∀ c ∈ first, ∀ d ∈ second, ∀ id ∈ c.unknowns, id ∉ d.unknowns) :
    lint (first ++ second) =
      lint first ++ (lint second).map (Warning.relabel id first.length) := by
  have alike : ∀ d ∈ second, ∀ unknown ∈ d.unknowns,
      Lint.NotedAlike id first.length ∅ (Lint.noteAll ∅ 0 first) unknown := by
    intro d member unknown mentions
    unfold Lint.NotedAlike
    rw [id, Lint.getElem?_noteAll_of_unmentioned
      fun c inFirst inC => apart c inFirst d member unknown inC mentions,
      Std.HashMap.getElem?_empty, Option.map_none]
  have shifted := Lint.warningsFrom_map Function.injective_id 0 alike
  rw [List.map_congr_left fun c _ => c.map_id, List.map_id'] at shifted
  unfold lint
  rw [Lint.warningsFrom_append, shifted]

end Drafting
