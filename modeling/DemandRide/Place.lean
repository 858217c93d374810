import DemandRide.Id
import DemandRide.Plane.Point

/-! Places that trips start, end and pass: locations on links, and the designated stops of
the service. -/
namespace DemandRide

/-- A place on a link. Where it has no point of its own it lies at the link's midpoint, and
where it is a designated stop it names that stop. -/
structure Location (α : Type) where
  link : LinkId
  point : Option (Point α)
  stop : Option StopId
deriving DecidableEq, Repr

namespace Location

variable {α : Type}

/-- A location known by its link alone. -/
def onLink (link : LinkId) : Location α := ⟨link, none, none⟩

/-- Whether the location is a designated stop. -/
def isStop (location : Location α) : Bool := location.stop.isSome

end Location

/-- A designated place for boarding and alighting. -/
structure Stop (α : Type) where
  id : StopId
  link : LinkId
  point : Point α
deriving DecidableEq, Repr

/-- The stop as a location of a trip. -/
def Stop.location {α : Type} (stop : Stop α) : Location α :=
  ⟨stop.link, some stop.point, some stop.id⟩

end DemandRide
