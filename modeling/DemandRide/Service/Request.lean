import DemandRide.Itinerary.Trip
import DemandRide.Number.Style
import DemandRide.Road.Network
import DemandRide.Road.Path

/-! Requests for trips, and why a request may fail. Failures are final for the request: what a
router can make up for, it answers with a walk instead. -/
namespace DemandRide

/-- What is wrong with a departure time. -/
inductive RequestFault (α : Type) where
  | notFinite (departureTime : α)
  | negative (departureTime : α)
deriving DecidableEq, Repr

def RequestFault.message : RequestFault Float → String
  | .notFinite time => "departure time must be finite, got " ++ NumberStyle.message.text time
  | .negative time => "departure time must be non-negative, got " ++ NumberStyle.message.text time

inductive RoutingError (α : Type) where
  | path (cause : PathError)
  | network (cause : NetworkError)
  | invalidRequest (fault : RequestFault α)
deriving DecidableEq, Repr

def RoutingError.message : RoutingError Float → String
  | .path cause => cause.message
  | .network cause => cause.message
  | .invalidRequest fault => "invalid trip request: " ++ fault.message

/-- A request to route one trip. -/
structure TripRequest (α : Type) where
  origin : Location α
  destination : Location α
  departureTime : α
  traveller : TravellerId
  /-- What the traveller does before the trip. -/
  originActivity : String
  /-- What the traveller does after the trip. -/
  destinationActivity : String
deriving DecidableEq, Repr

namespace TripRequest

variable {α : Type}

/-- A departure time has to be finite and not negative. -/
def validate [Scalar α] (request : TripRequest α) : Except (RequestFault α) Unit :=
  if !Scalar.isFinite request.departureTime then .error (.notFinite request.departureTime)
  else if Scalar.lt request.departureTime 0 then .error (.negative request.departureTime)
  else .ok ()

/-- A routed trip between the traveller's activities at its ends. -/
def toPlan (request : TripRequest α) (trip : Trip α) : Plan α :=
  trip.toPlan (.plain request.originActivity request.origin)
    (.plain request.destinationActivity request.destination)

end TripRequest

end DemandRide
