import Std.Data.HashMap
import Drafting.Arena
import Drafting.Constraint
import Drafting.DepthFirst

/-!
# Independent components

Two constraints are neighbours if they share an unknown. The components of a list of constraints are
the groups that hang together through neighbours. Different components share no unknown, so each can
be solved on its own. A component starts with its first constraint and goes on in depth-first order;
components are ordered by their first constraints.
-/

namespace Drafting

variable {α : Type}

/-- For each unknown the constraints that mention it, by ascending position. -/
abbrev UseLists (n : Nat) := Std.HashMap UnknownId (Array (Fin n))

namespace UseLists

variable {n : Nat}

/-- Note that a constraint mentions an unknown. Constraints are noted in order, so a look at the
last entry suffices to list none of them twice. -/
def note (uses : UseLists n) (user : Fin n) (id : UnknownId) : UseLists n :=
  uses.alter id fun users? =>
    let users := users?.getD #[]
    some (if users.back? = some user then users else users.push user)

def users (uses : UseLists n) (id : UnknownId) : List (Fin n) := (uses.getD id #[]).toList

def ofConstraints (constraints : List (Constraint UnknownId α)) : UseLists constraints.length :=
  (List.finRange constraints.length).foldl
    (fun uses i => (constraints.get i).unknowns.foldl (fun uses id => uses.note i id) uses) ∅

end UseLists

/-- The constraints that share an unknown with the `i`-th one: for each of its unknowns in order, all
users of the unknown. -/
def neighbours (constraints : List (Constraint UnknownId α)) (uses : UseLists constraints.length)
    (i : Fin constraints.length) : List (Fin constraints.length) :=
  (constraints.get i).unknowns.flatMap uses.users

def components (constraints : List (Constraint UnknownId α)) : List (List (Fin constraints.length)) :=
  let uses := UseLists.ofConstraints constraints
  DepthFirst.parts (neighbours constraints uses) (List.finRange constraints.length)

/-- One component: its constraints in the order in which they are solved, with their positions. -/
abbrev Block (α : Type) := List (Nat × Constraint UnknownId α)

namespace Block

def positions (block : Block α) : List Nat := block.map Prod.fst

def constraints (block : Block α) : List (Constraint UnknownId α) := block.map Prod.snd

end Block

def blocks (constraints : List (Constraint UnknownId α)) : List (Block α) :=
  (components constraints).map fun part => part.map fun i => (i.val, constraints.get i)

end Drafting
