/-! The numbers that times, distances and coordinates are made of. The routing rules are
stated over any type with these operations, so that what holds of exact arithmetic and what
holds of binary floating point can each be said without changing a rule. Nothing here
assumes that addition is associative, that comparison is total or that a number equals
itself. -/
namespace DemandRide

/-- A type of numbers with the four operations, the decimal constants of the service, and
two Boolean comparisons. Both comparisons may be false of the same pair. -/
class Scalar (α : Type) extends Add α, Sub α, Mul α, Div α, Neg α where
  /-- The number `digits / 10 ^ places`. -/
  ofDecimal : (digits places : Nat) → α
  /-- Strictly less. -/
  lt : α → α → Bool
  /-- Numerically equal. -/
  eq : α → α → Bool

namespace Scalar

variable {α : Type} [Scalar α]

/-- A whole number. -/
def ofNat (n : Nat) : α := ofDecimal n 0

instance (priority := low) instOfNat {n : Nat} : OfNat α n := ⟨ofNat n⟩

/-- Less or numerically equal. -/
def le (a b : α) : Bool := lt a b || eq a b

/-- Whether `a` is not a number: the one kind of value that differs from itself. -/
def isNaN (a : α) : Bool := !eq a a

/-- Whether `a` is a number other than the infinities: taking it from itself leaves zero. -/
def isFinite (a : α) : Bool := eq (a - a) 0

/-- The order in which times and distances are ranked: by size, with everything that is not
a number last and of one rank. -/
def rank (a b : α) : Ordering :=
  if lt a b then .lt
  else if lt b a then .gt
  else match isNaN a, isNaN b with
    | false, true => .lt
    | true, false => .gt
    | _, _ => .eq

end Scalar

end DemandRide
