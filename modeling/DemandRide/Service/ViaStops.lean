import DemandRide.Service.Fallback
import DemandRide.Service.Ride
import DemandRide.Stops.Finder

/-! Trips by way of stops: walk to a stop, board, ride, alight at another stop and walk on.
Where there is no stop in reach of either end, or the two stops are on one link, the whole trip
is walked. The ride keeps the departure time of the trip; the clock of what follows counts the
walk, both stages and the ride. -/
namespace DemandRide.ViaStops

variable {σ α : Type}

/-- What the stops in reach allow. -/
inductive Choice (α : Type) where
  | walk (reason : FallbackReason)
  | ride (access egress : Stop α)
deriving DecidableEq, Repr

/-- Ride between two stops on different links; a missing boarding stop is named before a
missing alighting stop. -/
def choose (pair : StopPair α) : Choice α :=
  match pair.access, pair.egress with
  | none, _ => .walk .noAccessStop
  | _, none => .walk .noEgressStop
  | some access, some egress =>
    if access.link = egress.link then .walk .sameStopLink else .ride access egress

variable [Scalar α]

/-- Ride between two stops, with walks to and from them. -/
def ride (settings : ServiceSettings α) (walker : Walker α) (finder : Pathfinder σ α)
    (request : TripRequest α) (access egress : Stop α) :
    Session σ (Notice α) (RoutingError α) (Trip α) := do
  let toStop ← Fallback.walk walker request request.origin access.location request.departureTime
  let boarding : Element α := .activity (.stage settings.stageType access.location)
  let ride ← Ride.build settings finder ⟨access.link, egress.link, request.departureTime⟩
  let alighting : Element α := .activity (.stage settings.stageType egress.location)
  let time := Element.advanceOver request.departureTime (toStop ++ [boarding, .leg ride, alighting])
  let fromStop ← Fallback.walk walker request egress.location request.destination time
  Session.note (.routedViaStops request.traveller access.id egress.id)
  return ⟨toStop ++ boarding :: .leg ride :: alighting :: fromStop⟩

/-- Route a request by way of stops. -/
def route (settings : ServiceSettings α) (walker : Walker α) (stops : StopFinder α)
    (finder : Pathfinder σ α) (request : TripRequest α) :
    Session σ (Notice α) (RoutingError α) (Trip α) := do
  (Session.ofExcept request.validate).mapError RoutingError.invalidRequest
  let pair ← (stops.find request.origin request.destination).stateless
  match choose pair with
  | .walk reason => Fallback.retagged settings walker request reason
  | .ride access egress => ride settings walker finder request access egress

end DemandRide.ViaStops
