import DemandRide.Json.Record
import DemandRide.Settings

/-! How settings are written. Every member may be left out and then has its default. -/
namespace DemandRide

open Json

variable {α : Type}

namespace OperatingScheme

def word : OperatingScheme → String
  | .doorToDoor => "doorToDoor"
  | .stopBased => "stopBased"
  | .serviceAreaBased => "serviceAreaBased"

def ofWord? : String → Option OperatingScheme
  | "doorToDoor" => some .doorToDoor
  | "stopBased" => some .stopBased
  | "serviceAreaBased" => some .serviceAreaBased
  | _ => none

def toJson (scheme : OperatingScheme) : Json α := .str scheme.word

/-- The word of a scheme, alone or as the one member of an object, with nothing to it. -/
def ofJson? : Json α → Option OperatingScheme
  | .str word => ofWord? word
  | .obj [(word, .null)] => ofWord? word
  | _ => none

end OperatingScheme

variable [Scalar α]

namespace ServiceSettings

def toJson (settings : ServiceSettings α) : Json α :=
  .obj [
    ("mode", .str settings.mode),
    ("operatingScheme", settings.scheme.toJson),
    ("maxTravelTimeAlpha", .number settings.alpha),
    ("maxTravelTimeBeta", .number settings.beta),
    ("maxWaitTime", .number settings.maxWaitTime),
    ("insertAccessEgressWalk", .bool settings.walksToRide),
    ("printDetailedWarnings", .bool settings.reportsFallbacks),
    ("maxWalkDistance", .number settings.maxWalkDistance)]

def ofJson? (json : Json α) : Option (ServiceSettings α) := do
  let default : ServiceSettings α := .default
  let field ← fields?
    ["mode", "operatingScheme", "maxTravelTimeAlpha", "maxTravelTimeBeta", "maxWaitTime",
      "insertAccessEgressWalk", "printDetailedWarnings", "maxWalkDistance"] json
  let mode ← withDefault default.mode toText? (field "mode")
  let scheme ← withDefault default.scheme OperatingScheme.ofJson? (field "operatingScheme")
  let alpha ← withDefault default.alpha toNumber? (field "maxTravelTimeAlpha")
  let beta ← withDefault default.beta toNumber? (field "maxTravelTimeBeta")
  let maxWaitTime ← withDefault default.maxWaitTime toNumber? (field "maxWaitTime")
  let walksToRide ← withDefault default.walksToRide toBool? (field "insertAccessEgressWalk")
  let reportsFallbacks ←
    withDefault default.reportsFallbacks toBool? (field "printDetailedWarnings")
  let maxWalkDistance ← withDefault default.maxWalkDistance toNumber? (field "maxWalkDistance")
  return ⟨mode, scheme, alpha, beta, maxWaitTime, walksToRide, reportsFallbacks,
    maxWalkDistance⟩

end ServiceSettings

namespace WalkSettings

def toJson (settings : WalkSettings α) : Json α :=
  .obj [
    ("speed", .number settings.speed),
    ("beelineDistanceFactor", .number settings.beelineFactor),
    ("accessEgress", .bool settings.accessEgress)]

def ofJson? (json : Json α) : Option (WalkSettings α) := do
  let default : WalkSettings α := .default
  let field ← fields? ["speed", "beelineDistanceFactor", "accessEgress"] json
  let speed ← withDefault default.speed toNumber? (field "speed")
  let beelineFactor ← withDefault default.beelineFactor toNumber? (field "beelineDistanceFactor")
  let accessEgress ← withDefault default.accessEgress toBool? (field "accessEgress")
  return ⟨speed, beelineFactor, accessEgress⟩

end WalkSettings

end DemandRide
