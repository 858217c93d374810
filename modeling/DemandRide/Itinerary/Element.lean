import DemandRide.Itinerary.Activity
import DemandRide.Itinerary.Leg

/-! The elements of trips and plans, and the time they take. A traveller's clock is moved on
by each element in turn; the readings are sums from the left, in that order. -/
namespace DemandRide

inductive ElementKind where
  | activity
  | leg
deriving DecidableEq, Repr

/-- One step of a trip or plan. -/
inductive Element (α : Type) where
  | activity (activity : Activity α)
  | leg (leg : Leg α)
deriving DecidableEq, Repr

namespace Element

variable {α : Type}

def kind : Element α → ElementKind
  | .activity _ => .activity
  | .leg _ => .leg

def leg? : Element α → Option (Leg α)
  | .leg l => some l
  | .activity _ => none

def activity? : Element α → Option (Activity α)
  | .activity a => some a
  | .leg _ => none

/-- Change an element if it is a leg. -/
def mapLeg (change : Leg α → Leg α) : Element α → Element α
  | .leg l => .leg (change l)
  | .activity a => .activity a

variable [Scalar α]

/-- The travel time of a leg, or the maximum duration of an activity, zero if it has none. -/
def duration : Element α → α
  | .leg l => l.travelTime
  | .activity a => a.maximumDuration.getD 0

/-- A clock reading moved on by one element. -/
def advance (time : α) (element : Element α) : α := time + element.duration

/-- A clock reading moved on by every element in order. -/
def advanceOver (time : α) (elements : List (Element α)) : α := elements.foldl advance time

/-- The clock readings before the first element and after each one. -/
def readings (time : α) : List (Element α) → List α
  | [] => [time]
  | element :: rest => time :: readings (advance time element) rest

end Element

end DemandRide
