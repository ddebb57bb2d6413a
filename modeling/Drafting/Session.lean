import Drafting.Solve

/-!
# Sessions

A session is a sequence of requests to one arena: to add unknowns, to move them, and to solve systems
of constraints from the values that are there. A request that mentions an unknown outside the arena is
refused, and the session goes on with the arena that is left.
-/

namespace Drafting

variable {α : Type}

inductive Request (α : Type) where
  | push (value : α) (name : Option String)
  | pushPoint (place : Point α) (name : Option String)
  | set (id : UnknownId) (value : α)
  | solve (settings : Settings α) (constraints : List (Constraint UnknownId α)) (analyse : Bool)
  deriving Repr

inductive Reply (α : Type) where
  | unknown (id : UnknownId)
  | point (p : Point UnknownId)
  | done
  | ended (result : SolveResult α (SolveReport α × Option Freedom))
  | outsideArena

def Reply.ids : Reply α → List UnknownId
  | .unknown id => [id]
  | .point p => p.coordinates
  | .done | .ended _ | .outsideArena => []

variable [Precision α] [NatCast α] [Add α] [Sub α] [Mul α] [Div α] [Neg α]
  [OfNat α 0] [OfNat α 1] [OfNat α 2] [LT α] [DecidableLT α] [LE α] [DecidableLE α]

def Request.answer (decompose : Decomposition α) (arena : Arena α) :
    Request α → Reply α × Arena α
  | .push value name =>
      let (id, arena) := arena.push value name
      (.unknown id, arena)
  | .pushPoint place name =>
      let (p, arena) := arena.pushPoint place name
      (.point p, arena)
  | .set id value =>
      match arena.set? id value with
      | some arena => (.done, arena)
      | none => (.outsideArena, arena)
  | .solve settings constraints false =>
      let (result, arena) := Drafting.solve decompose settings constraints arena
      (.ended (result.map (·, none)), arena)
  | .solve settings constraints true =>
      let (result, arena) := Drafting.solveWithFreedom decompose settings constraints arena
      (.ended (result.map fun (report, freedom) => (report, some freedom)), arena)

def answerAll (decompose : Decomposition α) (arena : Arena α) :
    List (Request α) → List (Reply α) × Arena α
  | [] => ([], arena)
  | request :: rest =>
      let (reply, next) := request.answer decompose arena
      let (replies, left) := answerAll decompose next rest
      (reply :: replies, left)

/-- What a session answers that starts without unknowns, and the arena that it leaves. -/
def session (decompose : Decomposition α) (requests : List (Request α)) :
    List (Reply α) × Arena α :=
  answerAll decompose .empty requests

end Drafting
