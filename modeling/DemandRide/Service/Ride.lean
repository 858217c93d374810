import DemandRide.Service.Pathfinder

/-! The ride of a trip. It takes as long as the service promises at most rather than as long as
the direct path: the vehicle may make a detour to be shared, and the bound is what the
traveller can count on. -/
namespace DemandRide.Ride

variable {σ α : Type} [Scalar α]

/-- The terms of a ride along a direct path. -/
def terms (settings : ServiceSettings α) (path : DirectPath α) : RideTerms α where
  distance := path.distance
  unsharedRideTime := path.travelTime
  maxTravelTime := settings.maxTravelTime path.travelTime
  maxWaitTime := settings.maxWaitTime

/-- The leg that rides along a direct path. -/
def leg (settings : ServiceSettings α) (query : PathQuery α) (path : DirectPath α) : Leg α :=
  (Leg.plain settings.mode query.origin query.destination query.departureTime
    (settings.maxTravelTime path.travelTime)).withRide (terms settings path)

/-- Ask for the direct path and ride along it. -/
def build (settings : ServiceSettings α) (finder : Pathfinder σ α) (query : PathQuery α) :
    Session σ (Notice α) (RoutingError α) (Leg α) := do
  let path ← (finder.find query).mapError RoutingError.path
  Session.note (.rideBuilt query.origin query.destination query.departureTime path.travelTime
    (settings.maxTravelTime path.travelTime))
  return leg settings query path

end DemandRide.Ride
