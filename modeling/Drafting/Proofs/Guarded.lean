import Mathlib.Data.List.FinRange
import Drafting.Linear.DenseMatrix

/-!
# Guarded look-ups

A guarded computation checks every position and key before it uses it, and stops with a `Fault` that
says which look-up found nothing. The modules below this one repeat a whole solve in this way, with
each position computed apart from the bound that it has to respect, and show that only one kind of
fault can come about.
-/

namespace Drafting.Guarded

/-- What a solve looks up or checks. A `dimension` and a `width` are counts that have to agree, an
`unknown` is read from the arena and a `target` is written to it. -/
inductive Fault where
  | constraint
  | mark
  | useList
  | column
  | value
  | row
  | dimension
  | cell
  | factor
  | width
  | unknown
  | target
  deriving DecidableEq, Repr

def found {β : Type} (fault : Fault) : Option β → Except Fault β
  | some value => .ok value
  | none => .error fault

@[simp] theorem found_some {β : Type} (fault : Fault) (value : β) :
    found fault (some value) = .ok value := rfl

def check (fault : Fault) (holds : Prop) [Decidable holds] : Except Fault Unit :=
  if holds then .ok () else .error fault

theorem check_of {fault : Fault} {holds : Prop} [Decidable holds] (succeeds : holds) :
    check fault holds = .ok () :=
  if_pos succeeds

section Loops

variable {ε β γ σ τ : Type}

@[simp] theorem ok_bind (value : β) (next : β → Except ε γ) : (Except.ok value >>= next) = next value :=
  rfl

@[simp] theorem pure_eq_ok (value : β) : (pure value : Except ε β) = .ok value := rfl

theorem mapM_eq_ok {xs : List β} {f : β → Except ε γ} {g : β → γ}
    (all : ∀ x ∈ xs, f x = .ok (g x)) : xs.mapM f = .ok (xs.map g) := by
  induction xs with
  | nil => rfl
  | cons x rest ih =>
      obtain ⟨here, later⟩ := List.forall_mem_cons.mp all
      rw [List.mapM_cons, here, ok_bind, ih later, ok_bind, List.map_cons]
      rfl

/-- A loop keeps in step with another one if each of its rounds does. -/
theorem foldlM_eq_ok {xs : List β} {f : σ → β → Except ε σ} {g : τ → β → τ} (view : τ → σ)
    (round : ∀ state, ∀ x ∈ xs, f (view state) x = .ok (view (g state x))) (start : τ) :
    xs.foldlM f (view start) = .ok (view (xs.foldl g start)) := by
  induction xs generalizing start with
  | nil => rfl
  | cons x rest ih =>
      rw [List.foldlM_cons, round start x List.mem_cons_self, ok_bind, List.foldl_cons]
      exact ih (fun state y member => round state y (List.mem_cons_of_mem x member)) (g start x)

end Loops

end Drafting.Guarded
