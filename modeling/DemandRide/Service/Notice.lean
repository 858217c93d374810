import DemandRide.Itinerary.Alternation
import DemandRide.Service.Request
import DemandRide.Settings

/-! What is noticed while trips are routed and plans are checked. Reports (of trips that fall
back to walking and of malformed plans) and the entries of the log are notices alike, in the
order in which they arise. -/
namespace DemandRide

/-- Why a trip is walked. -/
inductive FallbackReason where
  /-- No boarding stop is in reach of the origin. -/
  | noAccessStop
  /-- No alighting stop is in reach of the destination. -/
  | noEgressStop
  /-- Boarding and alighting stop are on one link. -/
  | sameStopLink
  /-- Origin and destination are on one link. -/
  | sameLink
deriving DecidableEq, Repr

def FallbackReason.message : FallbackReason → String
  | .noAccessStop => "no access stop found"
  | .noEgressStop => "no egress stop found"
  | .sameStopLink => "access and egress stops are on the same link"
  | .sameLink => "origin and destination are on the same link"

/-- Which plan a violation was found in. -/
inductive PlanLabel where
  | ofTraveller (traveller : TravellerId)
  | numbered (index : Nat)
deriving DecidableEq, Repr

def PlanLabel.text : PlanLabel → String
  | .ofTraveller traveller => "plan of traveller " ++ traveller.text
  | .numbered index => "plan " ++ toString index

inductive Notice (α : Type) where
  | fallback (request : TripRequest α) (reason : FallbackReason)
  | violation (plan : PlanLabel) (violation : Violation)
  | networkLoaded (nodes links : Nat) (scheme : OperatingScheme)
  | stopsDerived (stops : Nat)
  | batchStarted (requests : Nat) (workers : Option Nat) (checksPlans : Bool)
  | tripsRouted (trips : Nat)
  | plansChecked (plans failed : Nat)
  | requestRouted (index : Nat) (traveller : TravellerId) (elements : Nat)
  | rideBuilt (origin destination : LinkId) (departureTime unsharedRideTime maxTravelTime : α)
  | routedDoorToDoor (traveller : TravellerId) (elements : Nat) (arrival : α)
  | routedViaStops (traveller : TravellerId) (access egress : StopId)
  | pathFound (query : PathQuery α) (path : DirectPath α)
  | stopSought (link : LinkId) (stop : Option StopId)
deriving DecidableEq, Repr

namespace Notice

variable {α : Type}

/-- The report of a fallback, if the notice is one. -/
def fallback? : Notice α → Option (TripRequest α × FallbackReason)
  | .fallback request reason => some (request, reason)
  | _ => none

/-- The report of a malformed plan, if the notice is one. -/
def violation? : Notice α → Option (PlanLabel × Violation)
  | .violation plan found => some (plan, found)
  | _ => none

end Notice

/-- A list of kinds checked under a label: a violation is reported once. -/
def PlanLabel.check (label : PlanLabel) (kinds : List (Option ElementKind)) :
    Except Violation Unit × List (Notice α) :=
  match Alternation.check kinds with
  | .ok () => (.ok (), [])
  | .error found => (.error found, [.violation label found])

end DemandRide
