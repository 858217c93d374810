import DemandRide.Road.Network
import DemandRide.Stops.Tiling

/-! Choosing a stop for a place: of the stops within a radius the nearest, and of equally near
ones the one whose identifier comes first. Among stops that agree in both, the one that the
search comes upon first is chosen. -/
namespace DemandRide

/-- Stops to choose from, in the order of search, for travellers that walk no further than the
radius. -/
structure StopIndex (α : Type) where
  stops : List (Stop α)
  radius : α
deriving DecidableEq, Repr

namespace StopIndex

variable {α : Type} [Scalar α]

/-- The index of listed stops. -/
def ofStops (stops : List (Stop α)) (radius : α) : StopIndex α :=
  ⟨Tiling.searchOrder stops, radius⟩

/-- Whether a stop lies within the radius of a point, by their squares. -/
def reaches (index : StopIndex α) (point : Point α) (stop : Stop α) : Bool :=
  Scalar.le (stop.point.squaredDistance point) (index.radius * index.radius)

/-- The order of preference: nearer first, then by identifier. -/
def preference (point : Point α) (a b : Stop α) : Ordering :=
  (Scalar.rank (a.point.squaredDistance point) (b.point.squaredDistance point)).then
    (compare a.id b.id)

/-- The first of the most preferred stops. -/
def best? (point : Point α) : List (Stop α) → Option (Stop α)
  | [] => none
  | stop :: rest =>
    some (rest.foldl
      (fun best stop => if (preference point stop best).isLT then stop else best) stop)

/-- The stop chosen for a point. -/
def nearest? (index : StopIndex α) (point : Point α) : Option (Stop α) :=
  best? point (index.stops.filter (index.reaches point))

/-- The stop chosen for a location. -/
def choose (index : StopIndex α) (network : Network α) (location : Location α) :
    Except NetworkError (Option (Stop α)) :=
  (network.resolve location).map index.nearest?

end StopIndex

end DemandRide
