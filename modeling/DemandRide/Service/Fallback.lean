import DemandRide.Service.Notice
import DemandRide.Session
import DemandRide.Walk.Teleport

/-! Trips that are walked because the service cannot be used. The walk is either collapsed into
one leg of the fallback mode or kept as it is, with its network legs in the fallback mode. A
report precedes the walk. -/
namespace DemandRide.Fallback

variable {σ α : Type}

/-- Report a fallback if the service reports them. -/
def report (settings : ServiceSettings α) (request : TripRequest α) (reason : FallbackReason) :
    Session σ (Notice α) (RoutingError α) Unit :=
  if settings.reportsFallbacks then Session.note (.fallback request reason) else pure ()

/-- The walk between two locations for the traveller of a request. -/
def walk (walker : Walker α) (request : TripRequest α) (origin destination : Location α)
    (departureTime : α) : Session σ (Notice α) (RoutingError α) (List (Element α)) :=
  (Session.ofExcept (walker.walk origin destination departureTime request.traveller)).mapError
    RoutingError.network

/-- A leg of the network walk in the fallback mode, any other leg as it is. -/
def retagLeg (settings : ServiceSettings α) (leg : Leg α) : Leg α :=
  if leg.mode = walkMode then leg.withMode settings.fallbackMode else leg

/-- A walk with its network legs in the fallback mode. -/
def retag (settings : ServiceSettings α) (elements : List (Element α)) : List (Element α) :=
  elements.map (Element.mapLeg (retagLeg settings))

variable [Scalar α]

/-- The sum of the known distances of the legs. The sum of none is negative zero. -/
def walkedDistance (elements : List (Element α)) : α :=
  ((elements.filterMap Element.leg?).filterMap Leg.distance).foldl (· + ·) (-0)

/-- A whole walk as one leg of the fallback mode. -/
def collapse (settings : ServiceSettings α) (request : TripRequest α)
    (elements : List (Element α)) : Leg α :=
  (Leg.plain settings.fallbackMode request.origin.link request.destination.link
    request.departureTime (Element.advanceOver 0 elements)).withDistance (walkedDistance elements)

/-- Walk the whole trip as one leg. -/
def collapsed (settings : ServiceSettings α) (walker : Walker α) (request : TripRequest α)
    (reason : FallbackReason) : Session σ (Notice α) (RoutingError α) (Trip α) := do
  report settings request reason
  let elements ← walk walker request request.origin request.destination request.departureTime
  return ⟨[.leg (collapse settings request elements)]⟩

/-- Walk the whole trip, element by element. -/
def retagged (settings : ServiceSettings α) (walker : Walker α) (request : TripRequest α)
    (reason : FallbackReason) : Session σ (Notice α) (RoutingError α) (Trip α) := do
  report settings request reason
  let elements ← walk walker request request.origin request.destination request.departureTime
  return ⟨retag settings elements⟩

end DemandRide.Fallback
