import DemandRide.Itinerary.Trip
import DemandRide.Road.Network
import DemandRide.Settings

/-! Walks. A teleported walk goes along the beeline at a fixed speed, its distance being the
beeline times a factor. It may leave the network at either end, between a place and the point
that stands for its link. -/
namespace DemandRide

/-- Leads travellers on foot from one place to another. -/
structure Walker (α : Type) where
  walk : (origin destination : Location α) → (departureTime : α) → TravellerId →
    Except NetworkError (List (Element α))

/-- The modes of walk legs and the type of the activity between two of them. -/
def walkMode : String := "walk"

def offNetworkMode : String := "non_network_walk"

def walkInteraction : String := "walk interaction"

namespace Teleport

variable {α : Type}

/-- Changing from one walk leg to the next takes no time. -/
def interaction [Scalar α] (location : Location α) : Element α :=
  .activity ((Activity.plain walkInteraction location).withMaximumDuration 0)

variable [Plane α]

/-- One leg along the beeline between two points. -/
def leg (settings : WalkSettings α) (mode : String) (startLink endLink : LinkId)
    (start goal : Point α) (departureTime : α) : Leg α :=
  let distance := Plane.beeline start goal * settings.beelineFactor
  (Leg.plain mode startLink endLink departureTime (distance / settings.speed)).withDistance
    distance

/-- The walk off the network from a place to the point of its link, empty if they agree. -/
def access (settings : WalkSettings α) (link : LinkId) (place linkPoint : Point α)
    (departureTime : α) : List (Element α) :=
  if place.same linkPoint then []
  else
    [.leg (leg settings offNetworkMode link link place linkPoint departureTime),
      interaction (.onLink link)]

/-- The walk off the network from the point of a link to a place, empty if they agree. -/
def egress (settings : WalkSettings α) (link : LinkId) (place linkPoint : Point α)
    (departureTime : α) : List (Element α) :=
  if place.same linkPoint then []
  else
    let change := interaction (.onLink link)
    [change, .leg (leg settings offNetworkMode link link linkPoint place
      (Element.advance departureTime change))]

/-- A walk over a network. Without access and egress it is one leg between the two places;
with them the leg on the network leads between the points of their links, and each place that
lies elsewhere is joined to its link by a leg of its own. -/
def route (network : Network α) (settings : WalkSettings α)
    (origin destination : Location α) (departureTime : α) :
    Except NetworkError (List (Element α)) := do
  let start ← network.resolve origin
  let goal ← network.resolve destination
  if settings.accessEgress then
    let startPoint ← network.linkPoint origin.link
    let goalPoint ← network.linkPoint destination.link
    let first := access settings origin.link start startPoint departureTime
    let time := Element.advanceOver departureTime first
    let main : Element α :=
      .leg (leg settings walkMode origin.link destination.link startPoint goalPoint time)
    let last := egress settings destination.link goal goalPoint (Element.advance time main)
    return first ++ main :: last
  else
    return [.leg (leg settings walkMode origin.link destination.link start goal departureTime)]

/-- Teleported walks, the same for every traveller. -/
def walker (network : Network α) (settings : WalkSettings α) : Walker α :=
  ⟨fun origin destination departureTime _ =>
    route network settings origin destination departureTime⟩

end Teleport

end DemandRide
