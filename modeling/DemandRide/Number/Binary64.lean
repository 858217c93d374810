import DemandRide.Number.Scalar

/-! Binary floating point as the numbers of the service, and the exact value of a finite
double as a signed significand times a power of two. The exact value is what decimal texts
and geometric tests are computed from, so neither depends on how an operation rounds. -/
namespace DemandRide

open Float.Model

instance : Scalar Float where
  ofDecimal digits places := Float.ofScientific digits true places
  lt a b := decide (a < b)
  eq a b := a == b

namespace Binary64

/-- The exact number `significand * 2 ^ exponent`. -/
structure Dyadic where
  significand : Int
  exponent : Int
deriving DecidableEq, Repr

/-- The exact value of a finite double; infinities and not-a-number have none. -/
def dyadic? (x : Float) : Option Dyadic :=
  match x.toModel.unpack with
  | .finite sign significand exponent _ => some ⟨sign.apply significand, exponent⟩
  | .zero _ => some ⟨0, 0⟩
  | .infinity _ => none
  | .notANumber => none

/-- Whether the sign of `x` is negative, zeros included. -/
def isNegative (x : Float) : Bool :=
  match x.toModel.unpack with
  | .finite .negative _ _ _ => true
  | .zero .negative => true
  | .infinity .negative => true
  | _ => false

/-- `d` as a multiple of `2 ^ low`, for a `low` at most its exponent. -/
def Dyadic.scaled (d : Dyadic) (low : Int) : Int :=
  d.significand * Int.pow 2 (d.exponent - low).toNat

end Binary64

end DemandRide
