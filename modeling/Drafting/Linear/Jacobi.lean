import Drafting.Linear.SingularValues

/-!
# Singular values by plane rotations

Start with the coordinate directions and keep turning pairs of them in their plane until their
images under the matrix are orthogonal. The images then are the left factor's columns, stretched by
the singular values, and the directions are the right factor's columns. The directions stay
orthonormal to working precision whatever the rank, because they only ever take part in rotations.
-/

namespace Drafting.Jacobi

variable {m n : Nat}

def dot (a b : Vector Float n) : Float :=
  n.fold (fun i h sum => sum + a.get ⟨i, h⟩ * b.get ⟨i, h⟩) 0.0

def length (a : Vector Float n) : Float := (dot a a).sqrt

def combine (c : Float) (a : Vector Float n) (s : Float) (b : Vector Float n) : Vector Float n :=
  Vector.ofFn fun i => c * a.get i + s * b.get i

def coordinate (j : Fin n) : Vector Float n := Vector.ofFn fun i => if i = j then 1.0 else 0.0

/-- A direction together with its image under the matrix. -/
structure Ray (m n : Nat) where
  direction : Vector Float n
  image : Vector Float m

namespace Ray

def combine (c : Float) (p : Ray m n) (s : Float) (q : Ray m n) : Ray m n :=
  ⟨Jacobi.combine c p.direction s q.direction, Jacobi.combine c p.image s q.image⟩

end Ray

def orthogonalBound : Float := 1e-15

/-- Turn two rays in their plane by the smaller of the angles that make their images orthogonal, and
say whether there was anything to turn. -/
def turn (p q : Ray m n) : Ray m n × Ray m n × Bool :=
  let pp := dot p.image p.image
  let qq := dot q.image q.image
  let pq := dot p.image q.image
  if pq.abs ≤ orthogonalBound * (pp.sqrt * qq.sqrt) then (p, q, false)
  else
    let slope := (qq - pp) / (2.0 * pq)
    let tangent := (if slope < 0.0 then -1.0 else 1.0) / (slope.abs + (1.0 + slope * slope).sqrt)
    let cosine := 1.0 / (1.0 + tangent * tangent).sqrt
    let sine := cosine * tangent
    (p.combine cosine (-sine) q, p.combine sine cosine q, true)

def turnAgainst (p : Ray m n) : List (Ray m n) → Ray m n × List (Ray m n) × Bool
  | [] => (p, [], false)
  | q :: rest =>
      let (p, q, turnedHere) := turn p q
      let (p, rest, turnedLater) := turnAgainst p rest
      (p, q :: rest, turnedHere || turnedLater)

theorem turnAgainst_length (p : Ray m n) (rays : List (Ray m n)) :
    (turnAgainst p rays).2.1.length = rays.length := by
  induction rays generalizing p with
  | nil => rfl
  | cons q rest ih => simp only [turnAgainst, List.length_cons, ih]

def sweep : List (Ray m n) → List (Ray m n) × Bool
  | [] => ([], false)
  | p :: rest =>
      let turned := turnAgainst p rest
      let (others, turnedLater) := sweep turned.2.1
      (turned.1 :: others, turned.2.2 || turnedLater)
termination_by rays => rays.length
decreasing_by
  rw [turnAgainst_length]
  exact Nat.lt_succ_self _

def settle : Nat → List (Ray m n) → List (Ray m n)
  | 0, rays => rays
  | sweeps + 1, rays =>
      let (rays, turned) := sweep rays
      if turned then settle sweeps rays else rays

/-- Far more sweeps than the quadratic convergence needs. -/
def enoughSweeps : Nat := 40

def outside (family : List (Vector Float n)) (v : Vector Float n) : Vector Float n :=
  family.foldl (fun v u => combine 1.0 v (-(dot v u)) u) v

/-- Extend an orthonormal family by coordinate directions, as long as there is room for more. A
direction is taken if a fair part of it lies outside the span, and while there is room one such
direction is left. -/
def completed (family : List (Vector Float n)) : List (Vector Float n) :=
  (List.finRange n).foldl (fun family j =>
    if n ≤ family.length then family
    else
      let rest := outside family (outside family (coordinate j))
      let size := length rest
      if 0.5 / (Nat.cast n : Float).sqrt ≤ size then
        family ++ [combine (1.0 / size) rest 0.0 rest]
      else family) family

/-- Singular values by plane rotations. Fails when an entry is infinite or not a number. The entries
are first scaled by a power of two, so that their squares stay in range. -/
def decompose : Decomposition Float := fun m n matrix =>
  let entries := matrix.rows.toList.flatMap Vector.toList
  if entries.any fun x => x.isNaN || x.isInf then none
  else
    let (_, scale) := (largestMagnitude entries).frExp
    let start : List (Ray m n) := (List.finRange n).map fun j =>
      ⟨coordinate j, Vector.ofFn fun i => (matrix.entry i j).scaleB (-scale)⟩
    let settled := (settle enoughSweeps start).map fun ray => (length ray.image, ray)
    let rays := settled.mergeSort fun a b => decide (b.1 ≤ a.1)
    let values : Vector Float (min m n) :=
      Vector.ofFn fun k => ((rays[k.val]?.map Prod.fst).getD 0.0).scaleB scale
    let least := Precision.epsilon * (Nat.cast (max m n) : Float) * largest (rays.map Prod.fst)
    let images := (rays.filter fun (size, _) => decide (least < size)).map fun (size, ray) =>
      combine (1.0 / size) ray.image 0.0 ray.image
    let left := (completed images).toArray
    let right := (rays.map fun (_, ray) => ray.direction).toArray
    some {
      left := DenseMatrix.ofFn fun i k => (left[k.val]?.map (·.get i)).getD 0.0
      values := values
      right := DenseMatrix.ofFn fun j k => (right[k.val]?.map (·.get j)).getD 0.0 }

end Drafting.Jacobi
