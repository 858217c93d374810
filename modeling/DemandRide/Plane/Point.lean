import DemandRide.Number.Scalar

/-! Points of the plane the network lies in. A type of coordinates has a beeline and a turn
test besides its arithmetic; the rules that use them assume neither that the beeline is the
root of a sum of squares nor that three points are ever found on one line. -/
namespace DemandRide

structure Point (α : Type) where
  x : α
  y : α
deriving DecidableEq, Repr

/-- Which way the path through three points bends at the second. -/
inductive Turn where
  | left
  | straight
  | right
deriving DecidableEq, Repr

/-- Numbers that are coordinates of a plane. -/
class Plane (α : Type) extends Scalar α where
  /-- The straight distance between two points. -/
  beeline : Point α → Point α → α
  /-- How the third point lies to the line from the first through the second. -/
  turn : Point α → Point α → Point α → Turn

namespace Point

variable {α : Type} [Scalar α]

/-- Whether both coordinates are numerically equal. -/
def same (p q : Point α) : Bool := Scalar.eq p.x q.x && Scalar.eq p.y q.y

/-- The midpoint of two points. -/
def midpoint (p q : Point α) : Point α := ⟨(p.x + q.x) / 2, (p.y + q.y) / 2⟩

/-- The square of the distance of two points. -/
def squaredDistance (p q : Point α) : α :=
  (p.x - q.x) * (p.x - q.x) + (p.y - q.y) * (p.y - q.y)

end Point

end DemandRide
