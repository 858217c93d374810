import DemandRide.Number.Rounded
import DemandRide.Plane.Point

/-! The plane over binary floating point. A beeline is computed from the exact values of its
two sides and rounded once, so that nothing in between overflows or underflows. A turn is told
from the cross product, as exactly as it takes to know its sign; where the cross product
outgrows the doubles on the way it is not told from zero. -/
namespace DemandRide

open Float.Model Float.Model.UnpackedFloat

namespace Binary64

/-- The double nearest to `√(m * 2 ^ exponent)`. -/
def nearestRoot (m : Nat) (exponent : Int) : Float :=
  if m = 0 then 0
  else
    let (root, place, accuracy) := sqrtCore Format.binary64 m exponent
    Float.ofModel (pack (roundWithAccuracy Format.binary64 .positive root place accuracy))

/-- The double nearest to `√(dx² + dy²)`. It is infinite if either side is, whatever the other
is, and otherwise not a number if either side is not one. -/
def hypotenuse (dx dy : Float) : Float :=
  match dyadic? dx, dyadic? dy with
  | some a, some b =>
    let low := min a.exponent b.exponent
    let x := (a.scaled low).natAbs
    let y := (b.scaled low).natAbs
    nearestRoot (x * x + y * y) (2 * low)
  | _, _ => if dx.isInf || dy.isInf then 1 / 0 else 0 / 0

/-- The turn that a cross product of the given sign stands for. -/
def turnOfSign (sign : Int) : Turn :=
  if 0 < sign then .left else if sign < 0 then .right else .straight

/-- The sign of a double; zero if it is not a number. -/
def signOf (x : Float) : Int := if 0 < x then 1 else if x < 0 then -1 else 0

/-- Half the distance from one to the next double. -/
def unitRoundoff : Float := 1.1102230246251565e-16

/-- How far a cross product that is rounded at every step can be off, in relation to the sum of
its two terms: a little less than three roundoffs, as long as nothing underflows. -/
def roughError : Float := 3 * unitRoundoff - 94906242 * (unitRoundoff * unitRoundoff)

/-- The turn at `q` on the way from `p` to `r`, by the sign of a cross product. Its value is
computed in stages, each more exact than the one before, and the first that exceeds its own
possible error decides. -/
def turn (p q r : Point Float) : Turn :=
  let px := Rounded.difference p.x r.x
  let py := Rounded.difference p.y r.y
  let qx := Rounded.difference q.x r.x
  let qy := Rounded.difference q.y r.y
  let gain := Rounded.product px.value qy.value
  let loss := Rounded.product py.value qx.value
  let size := (gain.value + loss.value).abs
  let rough := gain.value - loss.value
  if roughError * size ≤ rough.abs then turnOfSign (signOf rough)
  else
    let u := unitRoundoff
    let fair := roundedSum (gain.minus loss)
    if (2 + 12 * u) * u * size ≤ fair.abs ∨ [px, py, qx, qy].all (·.error == 0) then
      turnOfSign (signOf fair)
    else
      let fine := fair + ((px.value * qy.error + qy.value * px.error)
        - (py.value * qx.error + qx.value * py.error))
      if (9 + 64 * u) * u * u * size + (3 + 8 * u) * u * fair.abs ≤ fine.abs then
        turnOfSign (signOf fine)
      else
        let gains := [gain, .product px.error qy.value, .product px.value qy.error,
          .product px.error qy.error]
        let losses := [loss, .product py.error qx.value, .product py.value qx.error,
          .product py.error qx.error]
        turnOfSign (signOfSum (
          (gains.flatMap fun part => [part.value, part.error]) ++
          (losses.flatMap fun part => [-part.value, -part.error])))

end Binary64

instance : Plane Float where
  beeline p q := Binary64.hypotenuse (p.x - q.x) (p.y - q.y)
  turn := Binary64.turn

end DemandRide
