import DemandRide.Format.Scenario
import DemandRide.Json.Parser
import DemandRide.Json.Printer
import DemandRide.Log
import DemandRide.Plane.Binary64

/-! The command line. `route` runs a scenario file and writes the routed trips to a file or to
the standard output; `check` reports the malformed plans of a file. What a command does is a
function of its arguments and of the files it can see: it says what is to be written, and
nothing is to be written unless all went well. How arguments and texts are read, how a document
is laid out and who serves the requests is left to tools. -/
namespace DemandRide.CommandLine

inductive Command where
  | route (scenario : String) (output : Option String)
  | check (plans : String)
deriving DecidableEq, Repr

/-- What a command can see of the files: their contents where they can be read as text, and
whether a file can be written. -/
structure Files where
  content? : String → Option String
  writable : String → Bool

inductive Failure where
  | unreadableScenario (path : String)
  | unreadablePlans (path : String)
  | unwritable (path : String)
  | scenarioJson
  | plansJson
  | scenario (cause : ScenarioError Float)
  | workers (cause : String)
  | malformedPlans (failed total : Nat)

def Failure.message : Failure → String
  | .unreadableScenario path => "failed to read " ++ path
  | .unreadablePlans path => "failed to access " ++ path
  | .unwritable path => "failed to access " ++ path
  | .scenarioJson => "invalid scenario JSON"
  | .plansJson => "invalid plans JSON"
  | .scenario cause => cause.message
  | .workers cause => "failed to build worker pool: " ++ cause
  | .malformedPlans failed total =>
    toString failed ++ " of " ++ toString total ++ " plans are malformed"

/-- What a failure says in the log. -/
def Failure.entry (failure : Failure) : LogEntry := ⟨.error, failure.message, []⟩

/-- What a command writes: a text to the standard output or to a file. -/
inductive Output where
  | nothing
  | standard (text : String)
  | file (path text : String)
deriving DecidableEq, Repr

/-! ### Arguments -/

/-- Whether an argument can stand for the value of the option before it. -/
def isValue (argument : String) : Bool :=
  argument = "-" || (argument ≠ "" && argument.toList.head? != some '-')

/-- The value in an argument of the form `--name=value`. -/
def attached? (name argument : String) : Option String :=
  let lead := ("--" ++ name ++ "=").toList
  if lead.isPrefixOf argument.toList then some (String.ofList (argument.toList.drop lead.length))
  else none

/-- The options of a command with their values, each of them known and given at most once and
nothing else beside them. -/
def options? (known : List String) : List String → Option (List (String × String))
  | [] => some []
  | ["--"] => some []
  | argument :: rest =>
    match known.findSome? fun name => (attached? name argument).map fun value => (name, value) with
    | some (name, value) => if value.isEmpty then none else add name value (options? known rest)
    | none =>
      match known.find? fun name => argument == "--" ++ name, rest with
      | some name, value :: rest =>
        if isValue value then add name value (options? known rest) else none
      | _, _ => none
where
  /-- One more option, unless it has been given already. -/
  add (name value : String) (others : Option (List (String × String))) :
      Option (List (String × String)) :=
    others.bind fun others =>
      if (others.lookup name).isSome then none else some ((name, value) :: others)

/-- The command that the arguments ask for, if they ask for one. -/
def Command.ofArguments? : List String → Option Command
  | "route" :: rest => do
    let given ← options? ["scenario", "output"] rest
    let scenario ← given.lookup "scenario"
    return .route scenario (given.lookup "output")
  | "check" :: rest => do
    let given ← options? ["plans"] rest
    let plans ← given.lookup "plans"
    return .check plans
  | _ => none

/-! ### Outcomes -/

/-- Where a text goes: to the file, if one is named and can be written, or else to the standard
output. -/
def deliver (files : Files) (output : Option String) (text : String) : Except Failure Output :=
  match output with
  | none => .ok (.standard text)
  | some path => if files.writable path then .ok (.file path text) else .error (.unwritable path)

/-- Check plans from number `index` on: how many are malformed, and the reports of them. -/
def review (index : Nat) : List (List (Option ElementKind)) → Nat × List (Notice Float)
  | [] => (0, [])
  | plan :: rest =>
    let (failed, later) := review (index + 1) rest
    let (checked, found) := (PlanLabel.numbered index).check plan
    match checked with
    | .ok () => (failed, found ++ later)
    | .error _ => (failed + 1, found ++ later)

/-- Report what was found in the plans, and fail if anything was. -/
def conclude (total : Nat) (found : Nat × List (Notice Float)) :
    Session Unit (Notice Float) Failure Output :=
  ⟨fun s => {
    result := if 0 < found.1 then .error (.malformedPlans found.1 total) else .ok .nothing
    state := s
    notices := found.2 ++ [.plansChecked total found.1] }⟩

/-! ### Tools -/

/-- What the commands leave to others. -/
structure Tools where
  /-- The command that arguments ask for, if they are accepted. -/
  command? : List String → Option Command
  /-- The value of a JSON text. -/
  value? : String → Option (Json Float)
  /-- A value laid out over lines. -/
  layOut : Json Float → String
  /-- Start a number of workers. What stands in the way is said in words. -/
  start : Nat → Except String Unit
  /-- Who serves which of a number of requests, if so many workers are asked for. -/
  schedule : Option Nat → Nat → Schedule

/-- The tools of this library. One worker serves all requests, however many are asked for. -/
def Tools.own : Tools where
  command? := Command.ofArguments?
  value? := Json.parse?
  layOut := Json.pretty
  start _ := .ok ()
  schedule _ := .sequential

namespace Tools

variable (tools : Tools)

/-! ### Commands -/

/-- The document of routed trips: a list, with a line feed at the end. -/
def document (routed : List (RoutedTrip Float)) : String :=
  tools.layOut (Json.arr (routed.map RoutedTrip.toJson)) ++ "\n"

/-- Read a scenario. -/
def readScenario (files : Files) (path : String) : Except Failure (Scenario Float) :=
  match files.content? path with
  | none => .error (.unreadableScenario path)
  | some text =>
    match (tools.value? text).bind Scenario.ofJson? with
    | none => .error .scenarioJson
    | some scenario => .ok scenario

/-- Run a scenario with the workers it asks for. If they cannot be started, its batch ends before
anyone is served. -/
def run (scenario : Scenario Float) :
    Session Unit (Notice Float) Failure (List (RoutedTrip Float)) :=
  match scenario.workers.map tools.start with
  | some (.error cause) => do
    let _ ← (scenario.runUnder []).mapError Failure.scenario
    Session.fail (.workers cause)
  | _ =>
    (scenario.runUnder (tools.schedule scenario.workers scenario.requests.length)).mapError
      Failure.scenario

/-- Route the requests of a scenario file. -/
def route (files : Files) (scenario : String) (output : Option String) :
    Session Unit (Notice Float) Failure Output := do
  let scenario ← Session.ofExcept (tools.readScenario files scenario)
  let routed ← tools.run scenario
  Session.note (.tripsRouted routed.length)
  Session.ofExcept (deliver files output (tools.document routed))

/-- Read a list of plans and the kinds that their elements claim. -/
def readPlans (files : Files) (path : String) :
    Except Failure (List (List (Option ElementKind))) :=
  match files.content? path with
  | none => .error (.unreadablePlans path)
  | some text =>
    match (tools.value? text).bind Json.rawPlans? with
    | none => .error .plansJson
    | some plans => .ok (plans.map fun plan => plan.map Json.claimedKind?)

/-- Check the plans of a file. -/
def check (files : Files) (path : String) : Session Unit (Notice Float) Failure Output := do
  let plans ← Session.ofExcept (tools.readPlans files path)
  conclude plans.length (review 0 plans)

def perform (files : Files) : Command → Session Unit (Notice Float) Failure Output
  | .route scenario output => tools.route files scenario output
  | .check plans => tools.check files plans

end Tools

/-- Perform a command with the tools of this library. -/
def Command.perform (files : Files) (command : Command) :
    Session Unit (Notice Float) Failure Output :=
  Tools.own.perform files command

end DemandRide.CommandLine
