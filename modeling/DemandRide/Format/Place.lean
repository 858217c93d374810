import DemandRide.Json.Record
import DemandRide.Place

/-! How places are written. -/
namespace DemandRide

open Json

variable {α : Type}

def Id.toJson {kind : IdKind} (id : Id kind) : Json α := .str id.text

def Id.ofJson? {kind : IdKind} (json : Json α) : Option (Id kind) := json.toText?.map Id.mk

variable [Scalar α]

namespace Point

def toJson (point : Point α) : Json α :=
  .obj [("x", .number point.x), ("y", .number point.y)]

def ofJson? (json : Json α) : Option (Point α) := do
  let field ← fields? ["x", "y"] json
  let x ← required toNumber? (field "x")
  let y ← required toNumber? (field "y")
  return ⟨x, y⟩

end Point

namespace Location

def toJson (location : Location α) : Json α :=
  .object [
    ("link", some location.link.toJson),
    ("coord", location.point.map Point.toJson),
    ("stop", location.stop.map Id.toJson)]

def ofJson? (json : Json α) : Option (Location α) := do
  let field ← fields? ["link", "coord", "stop"] json
  let link ← required Id.ofJson? (field "link")
  let point ← optional Point.ofJson? (field "coord")
  let stop ← optional Id.ofJson? (field "stop")
  return ⟨link, point, stop⟩

end Location

namespace Stop

def toJson (stop : Stop α) : Json α :=
  .obj [("id", stop.id.toJson), ("link", stop.link.toJson), ("coord", stop.point.toJson)]

def ofJson? (json : Json α) : Option (Stop α) := do
  let field ← fields? ["id", "link", "coord"] json
  let id ← required Id.ofJson? (field "id")
  let link ← required Id.ofJson? (field "link")
  let point ← required Point.ofJson? (field "coord")
  return ⟨id, link, point⟩

end Stop

end DemandRide
