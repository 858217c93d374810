import DemandRide.Service.Notice
import DemandRide.Session
import DemandRide.Stops.Area

/-! Finding the stops of a trip. The boarding stop is chosen for the origin and the alighting
stop for the destination, independently of each other. -/
namespace DemandRide

/-- The stops chosen for a trip, where there are any in reach. -/
structure StopPair (α : Type) where
  access : Option (Stop α)
  egress : Option (Stop α)
deriving DecidableEq, Repr

/-- Chooses the stops for trips between two locations. -/
structure StopFinder (α : Type) where
  find : (origin destination : Location α) →
    Session Unit (Notice α) (RoutingError α) (StopPair α)

namespace StopFinder

variable {α : Type}

/-- The same stops for every trip. -/
def constant (pair : StopPair α) : StopFinder α := ⟨fun _ _ => pure pair⟩

/-- The choice for one location, noticed when it is made. -/
def seek [Scalar α] (index : StopIndex α) (network : Network α) (location : Location α) :
    Session Unit (Notice α) (RoutingError α) (Option (Stop α)) := do
  let stop ← (Session.ofExcept (index.choose network location)).mapError RoutingError.network
  Session.note (.stopSought location.link (stop.map Stop.id))
  return stop

/-- The nearest stops of an index. -/
def nearest [Scalar α] (network : Network α) (index : StopIndex α) : StopFinder α :=
  ⟨fun origin destination => do
    let access ← seek index network origin
    let egress ← seek index network destination
    return ⟨access, egress⟩⟩

/-- The nearest of the stops inside an area. -/
def nearestInside [Plane α] (network : Network α) (area : Area α) (stops : List (Stop α))
    (radius : α) : StopFinder α :=
  nearest network (.ofStops (area.stopsInside stops) radius)

end StopFinder

end DemandRide
