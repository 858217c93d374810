import DemandRide.Service.Batch

/-! Scenarios: everything that is needed to route a batch of requests. A scenario is run by
building its network, checking its settings, finding its stops and routing its requests, and
the first of these that fails is its failure. -/
namespace DemandRide

structure Scenario (α : Type) where
  service : ServiceSettings α
  walk : WalkSettings α
  network : NetworkPlan α
  stops : List (Stop α)
  /-- The outer rings of the polygons of the service area, if there is one. -/
  serviceArea : Option (List (Ring α))
  requests : List (TripRequest α)
  checkPlans : Bool
  workers : Option Nat
deriving DecidableEq, Repr

inductive ScenarioError (α : Type) where
  | network (cause : NetworkError)
  | settings (cause : SettingsError α)
  | missingServiceArea (scheme : OperatingScheme)
  | batch (cause : BatchError α)
deriving DecidableEq, Repr

def ScenarioError.message : ScenarioError Float → String
  | .network cause => "invalid network: " ++ cause.message
  | .settings cause => "invalid configuration: " ++ cause.message
  | .missingServiceArea scheme =>
    "operating scheme " ++ scheme.label ++ " requires a service area"
  | .batch cause => cause.message

namespace Scenario

variable {α : Type}

/-- The service area, its rings closed. -/
def area? [Scalar α] (scenario : Scenario α) : Option (Area α) :=
  scenario.serviceArea.map Area.ofRings

variable [Plane α]

/-- What finds the stops of this scenario. The scheme with stops uses the listed stops, those
inside the service area if there is one; the scheme with a service area derives its stops from
the links inside it, whatever stops are listed. -/
def stopFinder (scenario : Scenario α) (network : Network α) :
    Session Unit (Notice α) (ScenarioError α) (Option (StopFinder α)) :=
  let radius := scenario.service.maxWalkDistance
  match scenario.service.scheme, scenario.area? with
  | .doorToDoor, _ => pure none
  | .stopBased, some area =>
    pure (some (.nearestInside network area scenario.stops radius))
  | .stopBased, none => pure (some (.nearest network (.ofStops scenario.stops radius)))
  | .serviceAreaBased, some area => do
    let stops := area.deriveStops network
    Session.note (.stopsDerived stops.length)
    return some (.nearest network (.ofStops stops radius))
  | .serviceAreaBased, none => Session.fail (.missingServiceArea scenario.service.scheme)

/-- The service of this scenario over its network. -/
def openService (scenario : Scenario α) (network : Network α) :
    Session Unit (Notice α) (ScenarioError α) (Service α) := do
  (Session.ofExcept scenario.walk.validate).mapError ScenarioError.settings
  let stops ← scenario.stopFinder network
  (Session.ofExcept (Service.start scenario.service (Teleport.walker network scenario.walk)
    stops)).mapError ScenarioError.settings

/-- Route every request of the scenario under a schedule. -/
def runUnder (scenario : Scenario α) (schedule : Schedule) :
    Session Unit (Notice α) (ScenarioError α) (List (RoutedTrip α)) := do
  let network ← (Session.ofExcept scenario.network.build).mapError ScenarioError.network
  Session.note (.networkLoaded network.nodeCount network.linkCount scenario.service.scheme)
  let service ← scenario.openService network
  let batch : Batch α := ⟨service, scenario.checkPlans, scenario.workers⟩
  (batch.routeUnder (.freeSpeed network) Search.empty schedule scenario.requests).mapError
    ScenarioError.batch

/-- Route every request of the scenario, one after the other. -/
def run (scenario : Scenario α) :
    Session Unit (Notice α) (ScenarioError α) (List (RoutedTrip α)) :=
  scenario.runUnder (.sequential scenario.requests.length)

end Scenario

end DemandRide
