import DemandRide.Number.Scalar
import DemandRide.Place

/-! Activities: what a traveller does at a place between legs. -/
namespace DemandRide

structure Activity (α : Type) where
  type : String
  location : Location α
  maximumDuration : Option α
deriving DecidableEq, Repr

namespace Activity

variable {α : Type}

/-- An activity of unbounded duration. -/
def plain (type : String) (location : Location α) : Activity α := ⟨type, location, none⟩

def withMaximumDuration (activity : Activity α) (duration : α) : Activity α :=
  { activity with maximumDuration := some duration }

/-- Boarding or alighting. It lasts one second, so that meeting the vehicle takes a small but
positive time. -/
def stage [Scalar α] (type : String) (location : Location α) : Activity α :=
  (plain type location).withMaximumDuration 1

end Activity

end DemandRide
