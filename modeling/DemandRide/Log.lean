import DemandRide.Scenario
import DemandRide.Text.Terminal

/-! The log: how notices read, and which of them a reader asks for. An entry is a message
followed by its fields, each written `name=value`. A message is shown as a text for terminals,
and the values of the fields are written as they are. -/
namespace DemandRide

/-- How grave an entry is, the gravest first. -/
inductive LogLevel where
  | error
  | warn
  | info
  | debug
  | trace
deriving DecidableEq, Repr

namespace LogLevel

def word : LogLevel → String
  | .error => "error"
  | .warn => "warn"
  | .info => "info"
  | .debug => "debug"
  | .trace => "trace"

def label : LogLevel → String
  | .error => "ERROR"
  | .warn => "WARN"
  | .info => "INFO"
  | .debug => "DEBUG"
  | .trace => "TRACE"

def rank : LogLevel → Nat
  | .error => 0
  | .warn => 1
  | .info => 2
  | .debug => 3
  | .trace => 4

def ofWord? (word : String) : Option LogLevel :=
  [error, warn, info, debug, trace].find? fun level => level.word == word

/-- Whether entries of level `entry` are shown to a reader who asks for `self`. -/
def shows (self entry : LogLevel) : Bool := entry.rank ≤ self.rank

end LogLevel

/-- A message with its weight and the named values that go with it. -/
structure LogEntry where
  level : LogLevel
  message : String
  fields : List (String × String)
deriving DecidableEq, Repr

/-- An entry as one line. -/
def LogEntry.line (entry : LogEntry) : String :=
  entry.level.label ++ ": " ++ Text.shown entry.message ++
    String.join (entry.fields.map fun field => " " ++ field.1 ++ "=" ++ field.2)

namespace Log

def number (x : Float) : String := NumberStyle.log.text x

/-- A value that may be missing. -/
def option (value : Option String) : String :=
  (value.map fun text => "Some(" ++ text ++ ")").getD "None"

/-- A record: its name and, in braces, its members. -/
def record (name : String) (members : List (String × String)) : String :=
  name ++ " \x7b " ++
    String.intercalate ", " (members.map fun entry => entry.1 ++ ": " ++ entry.2) ++ " \x7d"

end Log

namespace Notice

/-- What a notice says in the log. -/
def entry : Notice Float → LogEntry
  | .fallback request reason => ⟨.warn, reason.message ++ ", traveller will walk", [
      ("traveller", request.traveller.text),
      ("origin", request.origin.link.text),
      ("destination", request.destination.link.text),
      ("departure_time", Log.number request.departureTime)]⟩
  | .violation plan found => ⟨.warn, plan.text, [("violation", found.message)]⟩
  | .networkLoaded nodes links scheme => ⟨.info, "loaded network", [
      ("nodes", toString nodes),
      ("links", toString links),
      ("scheme", scheme.label)]⟩
  | .stopsDerived stops =>
    ⟨.info, "derived stops from service area", [("stops", toString stops)]⟩
  | .batchStarted requests workers checksPlans => ⟨.info, "routing batch", [
      ("requests", toString requests),
      ("workers", Log.option (workers.map toString)),
      ("check_plans", if checksPlans then "true" else "false")]⟩
  | .tripsRouted trips => ⟨.info, "routed scenario", [("trips", toString trips)]⟩
  | .plansChecked plans failed => ⟨.info, "checked plans", [
      ("plans", toString plans),
      ("failed", toString failed)]⟩
  | .requestRouted index traveller elements => ⟨.debug, "routed request", [
      ("index", toString index),
      ("traveller", traveller.text),
      ("elements", toString elements)]⟩
  | .rideBuilt origin destination departureTime unsharedRideTime maxTravelTime =>
    ⟨.debug, "built direct ride", [
      ("from", origin.text),
      ("to", destination.text),
      ("departure_time", Log.number departureTime),
      ("unshared_ride_time", Log.number unsharedRideTime),
      ("max_travel_time", Log.number maxTravelTime)]⟩
  | .routedDoorToDoor traveller elements arrival => ⟨.debug, "routed door-to-door trip", [
      ("traveller", traveller.text),
      ("elements", toString elements),
      ("arrival", Log.number arrival)]⟩
  | .routedViaStops traveller access egress => ⟨.debug, "routed stop-based trip", [
      ("traveller", traveller.text),
      ("access", access.text),
      ("egress", egress.text)]⟩
  | .pathFound query path => ⟨.trace, "calculated path", [
      ("from", query.origin.text),
      ("to", query.destination.text),
      ("departure_time", Log.number query.departureTime),
      ("path", Log.record "PathData" [
        ("travel_time", Log.number path.travelTime),
        ("distance", Log.number path.distance)])]⟩
  | .stopSought link stop => ⟨.trace, "closest stop", [
      ("link", link.text),
      ("stop", Log.option (stop.map Id.describe))]⟩

end Notice

namespace StopIndex

/-- An index as it is described to a reader of the log. -/
def describe (index : StopIndex Float) : String :=
  Log.record "ClosestStopFinder" [
    ("stops", toString index.stops.length),
    ("max_distance", Log.number index.radius)]

/-- The same for an index that holds the stops inside an area. -/
def describeInside (index : StopIndex Float) : String :=
  Log.record "ServiceAreaStopFinder" [("inner", index.describe)]

end StopIndex

end DemandRide
