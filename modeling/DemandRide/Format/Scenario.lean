import DemandRide.Format.Itinerary
import DemandRide.Format.Settings
import DemandRide.Scenario

/-! How requests, networks, scenarios and routed trips are written. -/
namespace DemandRide

open Json

variable {α : Type} [Scalar α]

namespace TripRequest

def toJson (request : TripRequest α) : Json α :=
  .obj [
    ("origin", request.origin.toJson),
    ("destination", request.destination.toJson),
    ("departureTime", .number request.departureTime),
    ("traveller", request.traveller.toJson),
    ("originActivity", .str request.originActivity),
    ("destinationActivity", .str request.destinationActivity)]

def ofJson? (json : Json α) : Option (TripRequest α) := do
  let field ← fields?
    ["origin", "destination", "departureTime", "traveller", "originActivity",
      "destinationActivity"] json
  let origin ← required Location.ofJson? (field "origin")
  let destination ← required Location.ofJson? (field "destination")
  let departureTime ← required toNumber? (field "departureTime")
  let traveller ← required Id.ofJson? (field "traveller")
  let originActivity ← withDefault "origin" toText? (field "originActivity")
  let destinationActivity ← withDefault "destination" toText? (field "destinationActivity")
  return ⟨origin, destination, departureTime, traveller, originActivity, destinationActivity⟩

end TripRequest

namespace Node

def toJson (node : Node α) : Json α :=
  .obj [("id", node.id.toJson), ("x", .number node.point.x), ("y", .number node.point.y)]

def ofJson? (json : Json α) : Option (Node α) := do
  let field ← fields? ["id", "x", "y"] json
  let id ← required Id.ofJson? (field "id")
  let x ← required toNumber? (field "x")
  let y ← required toNumber? (field "y")
  return ⟨id, ⟨x, y⟩⟩

end Node

namespace Link

def toJson (link : Link α) : Json α :=
  .obj [
    ("id", link.id.toJson),
    ("from", link.source.toJson),
    ("to", link.target.toJson),
    ("length", .number link.length),
    ("freespeed", .number link.freeSpeed)]

def ofJson? (json : Json α) : Option (Link α) := do
  let field ← fields? ["id", "from", "to", "length", "freespeed"] json
  let id ← required Id.ofJson? (field "id")
  let source ← required Id.ofJson? (field "from")
  let target ← required Id.ofJson? (field "to")
  let length ← required toNumber? (field "length")
  let freeSpeed ← required toNumber? (field "freespeed")
  return ⟨id, source, target, length, freeSpeed⟩

end Link

namespace NetworkPlan

def toJson (plan : NetworkPlan α) : Json α :=
  .obj [
    ("nodes", .arr (plan.nodes.map Node.toJson)),
    ("links", .arr (plan.links.map Link.toJson))]

def ofJson? (json : Json α) : Option (NetworkPlan α) := do
  let field ← fields? ["nodes", "links"] json
  let nodes ← required (toList? Node.ofJson?) (field "nodes")
  let links ← required (toList? Link.ofJson?) (field "links")
  return ⟨nodes, links⟩

end NetworkPlan

namespace Ring

/-- A ring is an array of pairs. -/
def toJson (ring : Ring α) : Json α :=
  .arr (ring.map fun point => .arr [.number point.x, .number point.y])

/-- A corner of a ring, written as a pair. -/
def corner? : Json α → Option (Point α)
  | .arr [x, y] => do
    let x ← x.toNumber?
    let y ← y.toNumber?
    return ⟨x, y⟩
  | _ => none

def ofJson? (json : Json α) : Option (Ring α) := toList? corner? json

end Ring

namespace Scenario

def toJson (scenario : Scenario α) : Json α :=
  .object [
    ("service", some scenario.service.toJson),
    ("walk", some scenario.walk.toJson),
    ("network", some scenario.network.toJson),
    ("stops", some (.arr (scenario.stops.map Stop.toJson))),
    ("serviceArea", scenario.serviceArea.map fun rings => .arr (rings.map Ring.toJson)),
    ("requests", some (.arr (scenario.requests.map TripRequest.toJson))),
    ("checkPlans", some (.bool scenario.checkPlans)),
    ("workers", scenario.workers.map fun count => .int count)]

def ofJson? (json : Json α) : Option (Scenario α) := do
  let field ← fields?
    ["service", "walk", "network", "stops", "serviceArea", "requests", "checkPlans",
      "workers"] json
  let service ← withDefault .default ServiceSettings.ofJson? (field "service")
  let walk ← withDefault .default WalkSettings.ofJson? (field "walk")
  let network ← required NetworkPlan.ofJson? (field "network")
  let stops ← withDefault [] (toList? Stop.ofJson?) (field "stops")
  let serviceArea ← optional (toList? Ring.ofJson?) (field "serviceArea")
  let requests ← withDefault [] (toList? TripRequest.ofJson?) (field "requests")
  let checkPlans ← withDefault false toBool? (field "checkPlans")
  let workers ← optional toNat? (field "workers")
  return ⟨service, walk, network, stops, serviceArea, requests, checkPlans, workers⟩

end Scenario

def RoutedTrip.toJson (routed : RoutedTrip α) : Json α :=
  .obj [
    ("traveller", routed.traveller.toJson),
    ("departureTime", .number routed.departureTime),
    ("trip", routed.trip.toJson)]

end DemandRide
