import Drafting.Proofs.Guarded.Drawing
import Drafting.Proofs.Reports

/-!
# Unknowns that no constraint mentions

Such an unknown may take any value. But it is in no component, and as the analysis goes from component
to component, it neither counts such an unknown nor names it.
-/

namespace Drafting

variable {α : Type}

def Drawing.unmentioned (drawing : Drawing α) : Finset UnknownId :=
  Finset.range drawing.arena.size \ mentionedSet drawing.constraints

section Drawings

variable {drawing : Drawing α} {arena : Arena α} {id : UnknownId}

end Drawings

variable [Precision α] [NatCast α] [Add α] [Sub α] [Mul α] [Div α] [Neg α]
  [OfNat α 0] [OfNat α 1] [OfNat α 2] [LT α] [DecidableLT α] [LE α] [DecidableLE α]
variable {decompose : Decomposition α} {settings : Settings α}
  {constraints : List (Constraint UnknownId α)} {arena left : Arena α} {report : SolveReport α}
  {freedom : Freedom}

section Analyses

end Analyses

section Outcomes

variable {drawing : Drawing α} {outcome : Outcome α}

end Outcomes

section HalfFixed

end HalfFixed

end Drafting
