import DemandRide.Itinerary.Element

/-! Trips and plans. A trip leads from one place to another and may begin and end with a leg;
a plan puts a trip between the traveller's own activities. -/
namespace DemandRide

/-- The way from an origin to a destination. -/
structure Trip (α : Type) where
  elements : List (Element α)
deriving DecidableEq, Repr

/-- A sequence of activities and legs, of any structure. -/
structure Plan (α : Type) where
  elements : List (Element α)
deriving DecidableEq, Repr

namespace Trip

variable {α : Type}

def legs (trip : Trip α) : List (Leg α) := trip.elements.filterMap Element.leg?

def activities (trip : Trip α) : List (Activity α) := trip.elements.filterMap Element.activity?

/-- The legs that ride the service. -/
def rideLegs (trip : Trip α) : List (Leg α) := trip.legs.filter Leg.isRide

/-- The mode of every leg in order. -/
def modes (trip : Trip α) : List String := trip.legs.map Leg.mode

/-- The trip between the traveller's activities at its ends. -/
def toPlan (trip : Trip α) (origin destination : Activity α) : Plan α :=
  ⟨.activity origin :: trip.elements ++ [.activity destination]⟩

variable [Scalar α]

/-- The clock readings of a trip begun at `start`, one more than it has elements. -/
def timeline (trip : Trip α) (start : α) : List α := Element.readings start trip.elements

/-- When a trip begun at `start` is over. -/
def endTime (trip : Trip α) (start : α) : α := Element.advanceOver start trip.elements

end Trip

end DemandRide
