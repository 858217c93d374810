import DemandRide.Format.Place
import DemandRide.Itinerary.Trip

/-! How trips and plans are written: as arrays of their elements. An element is the record of
its leg or activity with its kind as one more member, or as the first item where it is written
as an array. All of an element has to be readable, members nobody knows included. -/
namespace DemandRide

open Json

variable {α : Type} [Scalar α]

namespace Activity

def members (activity : Activity α) : List (String × Option (Json α)) := [
  ("type", some (.str activity.type)),
  ("location", some activity.location.toJson),
  ("maximumDuration", activity.maximumDuration.map Json.number)]

def toJson (activity : Activity α) : Json α := .object activity.members

def ofJson? (json : Json α) : Option (Activity α) := do
  let field ← fields? ["type", "location", "maximumDuration"] json
  let type ← required toText? (field "type")
  let location ← required Location.ofJson? (field "location")
  let maximumDuration ← optional toNumber? (field "maximumDuration")
  return ⟨type, location, maximumDuration⟩

end Activity

namespace RideTerms

def toJson (terms : RideTerms α) : Json α :=
  .obj [
    ("distance", .number terms.distance),
    ("unsharedRideTime", .number terms.unsharedRideTime),
    ("maxTravelTime", .number terms.maxTravelTime),
    ("maxWaitTime", .number terms.maxWaitTime)]

def ofJson? (json : Json α) : Option (RideTerms α) := do
  let field ← fields? ["distance", "unsharedRideTime", "maxTravelTime", "maxWaitTime"] json
  let distance ← required toNumber? (field "distance")
  let unsharedRideTime ← required toNumber? (field "unsharedRideTime")
  let maxTravelTime ← required toNumber? (field "maxTravelTime")
  let maxWaitTime ← required toNumber? (field "maxWaitTime")
  return ⟨distance, unsharedRideTime, maxTravelTime, maxWaitTime⟩

end RideTerms

namespace Leg

def members (leg : Leg α) : List (String × Option (Json α)) := [
  ("mode", some (.str leg.mode)),
  ("startLink", some leg.startLink.toJson),
  ("endLink", some leg.endLink.toJson),
  ("departureTime", some (.number leg.departureTime)),
  ("travelTime", some (.number leg.travelTime)),
  ("distance", leg.distance.map Json.number),
  ("ride", leg.ride.map RideTerms.toJson)]

def toJson (leg : Leg α) : Json α := .object leg.members

def ofJson? (json : Json α) : Option (Leg α) := do
  let field ← fields?
    ["mode", "startLink", "endLink", "departureTime", "travelTime", "distance", "ride"] json
  let mode ← required toText? (field "mode")
  let startLink ← required Id.ofJson? (field "startLink")
  let endLink ← required Id.ofJson? (field "endLink")
  let departureTime ← required toNumber? (field "departureTime")
  let travelTime ← required toNumber? (field "travelTime")
  let distance ← optional toNumber? (field "distance")
  let ride ← optional RideTerms.ofJson? (field "ride")
  return ⟨mode, startLink, endLink, departureTime, travelTime, distance, ride⟩

end Leg

/-- The word for a kind of element. -/
def ElementKind.word : ElementKind → String
  | .activity => "activity"
  | .leg => "leg"

/-- The kind that a value names. -/
def ElementKind.ofJson? : Json α → Option ElementKind
  | .str "activity" => some .activity
  | .str "leg" => some .leg
  | _ => none

namespace Element

def toJson (element : Element α) : Json α :=
  let kind := ("kind", some (Json.str element.kind.word))
  match element with
  | .activity a => .object (kind :: a.members)
  | .leg l => .object (kind :: l.members)

/-- An element of a known kind, from what is written beside the kind. -/
def ofKind? (kind : ElementKind) (rest : Json α) : Option (Element α) :=
  match kind with
  | .activity => (Activity.ofJson? rest).map .activity
  | .leg => (Leg.ofJson? rest).map .leg

def ofJson? (json : Json α) : Option (Element α) := do
  guard json.readable
  match json with
  | .obj members =>
    guard (occurrences "kind" members = 1)
    let kind ← (members.lookup "kind").bind ElementKind.ofJson?
    ofKind? kind (.obj (members.filter fun entry => entry.1 != "kind"))
  | .arr (first :: rest) =>
    let kind ← ElementKind.ofJson? first
    ofKind? kind (.arr rest)
  | _ => none

end Element

def Trip.toJson (trip : Trip α) : Json α := .arr (trip.elements.map Element.toJson)

def Trip.ofJson? (json : Json α) : Option (Trip α) := (toList? Element.ofJson? json).map Trip.mk

def Plan.toJson (plan : Plan α) : Json α := .arr (plan.elements.map Element.toJson)

def Plan.ofJson? (json : Json α) : Option (Plan α) := (toList? Element.ofJson? json).map Plan.mk

/-- The kind that an unread element claims by its `kind` member, the last one if it has
several. An element written as an array claims none. -/
def Json.claimedKind? : Json α → Option ElementKind
  | .obj members => (last? "kind" members).bind ElementKind.ofJson?
  | _ => none

/-- A list of plans whose elements are left unread, though everything in them is readable. -/
def Json.rawPlans? (json : Json α) : Option (List (List (Json α))) := do
  guard json.readable
  toList? (toList? some) json

end DemandRide
