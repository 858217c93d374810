import DemandRide.Plane.Area
import DemandRide.Stops.Nearest

/-! Stops and service areas: keeping the stops that lie in an area, and deriving stops from the
links that end in it. -/
namespace DemandRide

variable {α : Type} [Plane α]

/-- The listed stops that lie inside the area. -/
def Area.stopsInside (area : Area α) (stops : List (Stop α)) : List (Stop α) :=
  stops.filter fun stop => area.contains stop.point

/-- The stop that a link gives rise to: at its target node, with the name of the link. -/
def Area.stopOfLink? (area : Area α) (network : Network α) (link : Link α) : Option (Stop α) :=
  match network.node? link.target with
  | none => none
  | some point =>
    if area.contains point then some ⟨⟨link.id.text⟩, link.id, point⟩ else none

/-- One stop for every link that ends inside the area, in the order of their identifiers. -/
def Area.deriveStops (area : Area α) (network : Network α) : List (Stop α) :=
  network.linkList.filterMap (area.stopOfLink? network)

end DemandRide
