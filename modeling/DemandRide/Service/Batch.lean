import DemandRide.Service.Router

/-! Batches of requests served by workers. Each worker has a pathfinder state of its own and
serves its share of the requests in some order until one of them fails; answers are gathered
in the order of the requests, whoever served them. If requests fail, the failure of the first
of them that was served is the failure of the batch. -/
namespace DemandRide

/-- A routed trip with the request it answers. -/
structure RoutedTrip (α : Type) where
  traveller : TravellerId
  departureTime : α
  trip : Trip α
deriving DecidableEq, Repr

/-- The failure of a batch: a request that was not routed, or a trip whose plan is malformed. -/
inductive BatchError (α : Type) where
  | routing (index : Nat) (traveller : TravellerId) (cause : RoutingError α)
  | malformed (index : Nat) (traveller : TravellerId) (cause : Violation)
deriving DecidableEq, Repr

def BatchError.message : BatchError Float → String
  | .routing index traveller cause =>
    "request " ++ toString index ++ " for traveller " ++ traveller.text ++ " failed: " ++
      cause.message
  | .malformed index traveller cause =>
    "plan of traveller " ++ traveller.text ++ " (request " ++ toString index ++
      ") is malformed: " ++ cause.message

structure Batch (α : Type) where
  service : Service α
  /-- Whether the plan of every routed trip is checked. -/
  checksPlans : Bool
  /-- How many workers are asked for. -/
  workers : Option Nat

/-- The shares of the workers: for each of them the indices of the requests it serves, in the
order in which it serves them. -/
abbrev Schedule := List (List Nat)

/-- One worker serves `count` requests in their order. -/
def Schedule.sequential (count : Nat) : Schedule := [List.range count]

/-- Every request is served by exactly one worker. -/
def Schedule.Covers (schedule : Schedule) (count : Nat) : Prop :=
  schedule.flatten.Perm (List.range count)

/-- Gather the answers to `count` requests by their indices: the first failure, or else all
answers. -/
def gather {ε β : Type} (count : Nat) (answers : List (Nat × Except ε β)) : Except ε (List β) :=
  let answer? (index : Nat) : Option (Except ε β) := answers.lookup index
  let failure? (index : Nat) : Option ε := match answer? index with
    | some (.error e) => some e
    | _ => none
  match (List.range count).findSome? failure? with
  | some e => .error e
  | none => .ok ((List.range count).filterMap fun index => match answer? index with
    | some (.ok b) => some b
    | _ => none)

namespace Batch

variable {σ α : Type} [Scalar α]

/-- Check the plan of a routed trip if plans are checked. -/
def checkPlan (batch : Batch α) (index : Nat) (request : TripRequest α) (trip : Trip α) :
    Session σ (Notice α) (BatchError α) Unit :=
  if batch.checksPlans then
    let plan := request.toPlan trip
    let (checked, notices) := (PlanLabel.ofTraveller request.traveller).check
      (plan.elements.map fun element => some element.kind)
    ⟨fun s => ⟨checked.mapError (.malformed index request.traveller), s, notices⟩⟩
  else pure ()

/-- Route one request of the batch. -/
def routeOne (batch : Batch α) (finder : Pathfinder σ α) (index : Nat)
    (request : TripRequest α) : Session σ (Notice α) (BatchError α) (RoutedTrip α) := do
  let trip ← (batch.service.route finder request).mapError
    (BatchError.routing index request.traveller)
  batch.checkPlan index request trip
  Session.note (.requestRouted index request.traveller trip.elements.length)
  return ⟨request.traveller, request.departureTime, trip⟩

/-- Serve a share from a given pathfinder state, up to the first request that fails. -/
def serve (batch : Batch α) (finder : Pathfinder σ α) (requests : List (TripRequest α)) :
    σ → List Nat → List (Nat × Except (BatchError α) (RoutedTrip α)) × List (Notice α)
  | _, [] => ([], [])
  | s, index :: rest =>
    match requests[index]? with
    | none => batch.serve finder requests s rest
    | some request =>
      let reached := (batch.routeOne finder index request).run s
      match reached.result with
      | .error e => ([(index, .error e)], reached.notices)
      | .ok routed =>
        let (answers, notices) := batch.serve finder requests reached.state rest
        ((index, .ok routed) :: answers, reached.notices ++ notices)

/-- Route every request under a schedule, each worker starting from the state `fresh`. -/
def routeUnder (batch : Batch α) (finder : Pathfinder σ α) (fresh : σ) (schedule : Schedule)
    (requests : List (TripRequest α)) :
    Session Unit (Notice α) (BatchError α) (List (RoutedTrip α)) :=
  let served := schedule.map (batch.serve finder requests fresh)
  ⟨fun s => {
    result := gather requests.length (served.flatMap Prod.fst)
    state := s
    notices := .batchStarted requests.length batch.workers batch.checksPlans ::
      served.flatMap Prod.snd }⟩

/-- Route every request, one after the other. -/
def routeAll (batch : Batch α) (finder : Pathfinder σ α) (fresh : σ)
    (requests : List (TripRequest α)) :
    Session Unit (Notice α) (BatchError α) (List (RoutedTrip α)) :=
  batch.routeUnder finder fresh (.sequential requests.length) requests

end Batch

end DemandRide
