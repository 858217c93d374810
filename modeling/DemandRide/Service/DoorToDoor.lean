import DemandRide.Service.Fallback
import DemandRide.Service.Ride

/-! Trips from door to door. The vehicle comes to the traveller's own link and goes to the
link of the destination, so a trip within one link is walked. Where the service inserts walks,
the traveller first walks from the place to its link, unless the place is a stop, and boards
there, and after the ride alights and walks on. The ride departs when all before it is done. -/
namespace DemandRide.DoorToDoor

variable {σ α : Type} [Scalar α]

/-- The walk to the pickup link and the boarding, where they are inserted. -/
def beforeRide (settings : ServiceSettings α) (walker : Walker α) (request : TripRequest α) :
    Session σ (Notice α) (RoutingError α) (List (Element α)) :=
  if settings.walksToRide && !request.origin.isStop then do
    let pickup := Location.onLink request.origin.link
    let access ← Fallback.walk walker request request.origin pickup request.departureTime
    return access ++ [.activity (.stage settings.stageType pickup)]
  else pure []

/-- The alighting and the walk from the drop-off link, where they are inserted. -/
def afterRide (settings : ServiceSettings α) (walker : Walker α) (request : TripRequest α)
    (time : α) : Session σ (Notice α) (RoutingError α) (List (Element α)) :=
  if settings.walksToRide then do
    let dropOff := Location.onLink request.destination.link
    let alighting : Element α := .activity (.stage settings.stageType dropOff)
    let egress ← Fallback.walk walker request dropOff request.destination
      (Element.advance time alighting)
    return alighting :: egress
  else pure []

/-- Ride between the links of origin and destination. -/
def ride (settings : ServiceSettings α) (walker : Walker α) (finder : Pathfinder σ α)
    (request : TripRequest α) : Session σ (Notice α) (RoutingError α) (Trip α) := do
  let before ← beforeRide settings walker request
  let pickupTime := Element.advanceOver request.departureTime before
  let ride ← Ride.build settings finder
    ⟨request.origin.link, request.destination.link, pickupTime⟩
  let dropOffTime := Element.advance pickupTime (.leg ride)
  let after ← afterRide settings walker request dropOffTime
  let trip : Trip α := ⟨before ++ .leg ride :: after⟩
  Session.note (.routedDoorToDoor request.traveller trip.elements.length
    (trip.endTime request.departureTime))
  return trip

/-- Route a request from door to door. -/
def route (settings : ServiceSettings α) (walker : Walker α) (finder : Pathfinder σ α)
    (request : TripRequest α) : Session σ (Notice α) (RoutingError α) (Trip α) := do
  (Session.ofExcept request.validate).mapError RoutingError.invalidRequest
  if request.origin.link = request.destination.link then
    Fallback.collapsed settings walker request .sameLink
  else ride settings walker finder request

end DemandRide.DoorToDoor
