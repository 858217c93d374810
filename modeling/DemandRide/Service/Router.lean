import DemandRide.Service.DoorToDoor
import DemandRide.Service.ViaStops

/-! A service ready to route requests: its settings and what all of its routers share. What a
router needs for itself, the state of its pathfinder, is handed from request to request. -/
namespace DemandRide

/-- Where travellers board. -/
inductive Boarding (α : Type) where
  | anyLink
  | atStops (finder : StopFinder α)

structure Service (α : Type) where
  settings : ServiceSettings α
  walker : Walker α
  boarding : Boarding α

namespace Service

variable {σ α : Type} [Scalar α]

/-- Open a service. Its settings have to be valid, and if its scheme uses stops it needs
something to find them. -/
def start (settings : ServiceSettings α) (walker : Walker α) (stops : Option (StopFinder α)) :
    Except (SettingsError α) (Service α) :=
  match settings.validate with
  | .error e => .error e
  | .ok () =>
    match settings.scheme.usesStops, stops with
    | false, _ => .ok ⟨settings, walker, .anyLink⟩
    | true, some finder => .ok ⟨settings, walker, .atStops finder⟩
    | true, none => .error (.missingStopFinder settings.scheme)

/-- Route a request. -/
def route (service : Service α) (finder : Pathfinder σ α) (request : TripRequest α) :
    Session σ (Notice α) (RoutingError α) (Trip α) :=
  match service.boarding with
  | .anyLink => DoorToDoor.route service.settings service.walker finder request
  | .atStops stops => ViaStops.route service.settings service.walker stops finder request

end Service

end DemandRide
