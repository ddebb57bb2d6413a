import Drafting.Number.Written
import Drafting.Plane

/-!
# Placed points

The text of a placed point and the distance between two of them. The length of a displacement is
found without overflow on the way, and is infinite as soon as one side is.
-/

namespace Drafting

/-- A square as the sum of its rounded value and the exact rounding error. -/
def squareWithError (x : Float) : Float × Float :=
  let split := x * 134217729.0
  let head := x - split + split
  let tail := x - head
  let square := x * x
  (square, head * head - square + 2.0 * head * tail + tail * tail)

/-- The length of the hypotenuse over two sides. Very large and very small sides are measured in
another unit, a power of two so that nothing is rounded; a side too small to matter is only added. -/
def hypotenuse (a b : Float) : Float :=
  let long := if a.abs < b.abs then b.abs else a.abs
  let short := if a.abs < b.abs then a.abs else b.abs
  if a.isInf || b.isInf then 1.0 / 0.0
  else if long.isNaN || short.isNaN then 0.0 / 0.0
  else if short == 0.0 then long
  else if 1.8446744073709552e19 < long / short then long + short
  else
    let unit : Float :=
      if 1e153 < long then 5.2601359015483735e210
      else if short < 1e-135 then 1.90109156629516e-211
      else 1.0
    let (longSquare, longError) := squareWithError (long / unit)
    let (shortSquare, shortError) := squareWithError (short / unit)
    unit * (shortError + longError + shortSquare + longSquare).sqrt

namespace Point

def distance (p q : Point Float) : Float := hypotenuse (p.x - q.x) (p.y - q.y)

def text (p : Point Float) : String :=
  "(" ++ Number.plain p.x ++ "," ++ Number.plain p.y ++ ")"

end Point

end Drafting
