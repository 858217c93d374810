import DemandRide.Id
import DemandRide.Number.Scalar

/-! Legs: single movements of a traveller. A leg that rides the service carries the terms of
the ride. Times are seconds since midnight and distances are metres. -/
namespace DemandRide

/-- What the service promises for a ride. -/
structure RideTerms (α : Type) where
  /-- The length of the direct path, last link included. -/
  distance : α
  /-- The time of the direct path, both end links included. -/
  unsharedRideTime : α
  /-- The longest the ride may take. -/
  maxTravelTime : α
  /-- The longest the traveller may wait for pickup. -/
  maxWaitTime : α
deriving DecidableEq, Repr

structure Leg (α : Type) where
  mode : String
  startLink : LinkId
  endLink : LinkId
  departureTime : α
  travelTime : α
  distance : Option α
  ride : Option (RideTerms α)
deriving DecidableEq, Repr

namespace Leg

variable {α : Type}

/-- A leg of unknown distance that does not ride. -/
def plain (mode : String) (startLink endLink : LinkId) (departureTime travelTime : α) : Leg α :=
  ⟨mode, startLink, endLink, departureTime, travelTime, none, none⟩

def withDistance (leg : Leg α) (distance : α) : Leg α :=
  { leg with distance := some distance }

/-- The leg as a ride, which has the distance of its terms. -/
def withRide (leg : Leg α) (terms : RideTerms α) : Leg α :=
  { leg with distance := some terms.distance, ride := some terms }

def withMode (leg : Leg α) (mode : String) : Leg α := { leg with mode := mode }

/-- Whether the leg rides the service. -/
def isRide (leg : Leg α) : Bool := leg.ride.isSome

/-- Departure plus travel time. -/
def arrivalTime [Scalar α] (leg : Leg α) : α := leg.departureTime + leg.travelTime

end Leg

end DemandRide
