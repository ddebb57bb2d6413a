/-!
# Totals

Counts of steps, equations and bytes are added up by `total`.
-/

namespace Drafting

def total : List Nat → Nat
  | [] => 0
  | n :: rest => n + total rest

@[simp] theorem total_nil : total [] = 0 := rfl

@[simp] theorem total_cons (n : Nat) (rest : List Nat) : total (n :: rest) = n + total rest := rfl

theorem total_map_one {α : Type} (items : List α) : total (items.map fun _ => 1) = items.length := by
  induction items with
  | nil => rfl
  | cons item rest ih => rw [List.map_cons, total_cons, ih, List.length_cons, Nat.add_comm]

end Drafting
