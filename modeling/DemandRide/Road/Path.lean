import DemandRide.Id
import DemandRide.Number.Scalar

/-! Path queries between links, and their answers. -/
namespace DemandRide

/-- The least-time path between two links. -/
structure DirectPath (α : Type) where
  /-- The time it takes, both end links included. -/
  travelTime : α
  /-- The length of it, last link included and first link not. -/
  distance : α
deriving DecidableEq, Repr

/-- A question for the path between two links. -/
structure PathQuery (α : Type) where
  origin : LinkId
  destination : LinkId
  departureTime : α
deriving DecidableEq, Repr

inductive PathError where
  | unknownLink (id : LinkId)
  | noPath (origin destination : LinkId)
deriving DecidableEq, Repr

def PathError.message : PathError → String
  | .unknownLink id => "unknown link " ++ id.text
  | .noPath origin destination =>
    "no path from link " ++ origin.text ++ " to link " ++ destination.text

end DemandRide
