import DemandRide.Proofs.Service.Batch
import DemandRide.Scenario

/-! Runs of whole scenarios. Every walk of a scenario is teleported over its own network, so
no trip it routes has a malformed plan, under whatever schedule. -/
namespace DemandRide

namespace Scenario

variable {α : Type} [Plane α] {scenario : Scenario α} {network : Network α}

/-- The service of a scenario is opened with its settings and with teleported walks. -/
theorem start_of_openService {service : Service α}
    (hOpen : ((scenario.openService network).run ()).result = .ok service) :
    ∃ stops, Service.start scenario.service (Teleport.walker network scenario.walk) stops =
      .ok service := by
  unfold openService at hOpen
  obtain ⟨_, -, hOpen⟩ := Session.result_bind_eq_ok_iff.mp hOpen
  obtain ⟨stops, -, hOpen⟩ := Session.result_bind_eq_ok_iff.mp hOpen
  exact ⟨stops, (Session.mapError_eq_ok_iff _ _ _).mp hOpen⟩

/-- A scenario that cannot open its service does not blame its batch. -/
theorem openService_ne_batch (cause : BatchError α) :
    ((scenario.openService network).run ()).result ≠ .error (.batch cause) := by
  have hSettings {β : Type} (result : Except (SettingsError α) β) :
      result.mapError ScenarioError.settings ≠ .error (.batch cause) := by
    cases result <;> simp
  have hStops : ((scenario.stopFinder network).run ()).result ≠ .error (.batch cause) := by
    unfold stopFinder
    split <;> simp [Session.run_bind]
  intro hFailed
  unfold openService at hFailed
  rcases Session.result_bind_eq_error_iff.mp hFailed with hWalk | ⟨_, -, hFailed⟩
  · exact hSettings _ hWalk
  rcases Session.result_bind_eq_error_iff.mp hFailed with hFound | ⟨stops, -, hStart⟩
  · exact hStops hFound
  · exact hSettings _ hStart

/-- The failure of a batch is the failure of a scenario only once its network is built and its
service is open. -/
theorem batch_of_run {cause : BatchError α}
    (hFailed : (scenario.run.run ()).result = .error (.batch cause)) :
    ∃ network service, scenario.network.build = .ok network ∧
      ((scenario.openService network).run ()).result = .ok service ∧
      ((Batch.routeAll ⟨service, scenario.checkPlans, scenario.workers⟩ (.freeSpeed network)
        Search.empty scenario.requests).run ()).result = .error cause := by
  unfold run runUnder at hFailed
  rcases Session.result_bind_eq_error_iff.mp hFailed with hBuild | ⟨network, hBuild, hFailed⟩
  · obtain ⟨_, -, hCause⟩ := (Session.mapError_eq_error_iff _ _ _).mp hBuild
    cases hCause
  rcases Session.result_bind_eq_error_iff.mp hFailed with hNoted | ⟨_, -, hFailed⟩
  · cases hNoted
  rcases Session.result_bind_eq_error_iff.mp hFailed with hOpen | ⟨service, hOpen, hFailed⟩
  · exact absurd hOpen (openService_ne_batch cause)
  obtain ⟨_, hBatch, hCause⟩ := (Session.mapError_eq_error_iff _ _ _).mp hFailed
  cases hCause
  exact ⟨network, service, (Session.mapError_eq_ok_iff _ _ _).mp hBuild, hOpen, hBatch⟩

/-- No schedule makes an open service route a trip whose plan is malformed. -/
theorem routeUnder_ne_malformed {service : Service α}
    (hOpen : ((scenario.openService network).run ()).result = .ok service)
    (checksPlans : Bool) (workers : Option Nat) (schedule : Schedule)
    (requests : List (TripRequest α)) (index : Nat) (traveller : TravellerId)
    (cause : Violation) :
    ((Batch.routeUnder ⟨service, checksPlans, workers⟩ (.freeSpeed network) Search.empty
      schedule requests).run ()).result ≠ .error (.malformed index traveller cause) := by
  intro hFailed
  obtain ⟨stops, hStart⟩ := start_of_openService hOpen
  obtain ⟨_, _, _, -, -, hCause⟩ := Batch.routing_of_routeUnder
    (Service.wellFormed_walker_of_start hStart) (Pathfinder.historyFree_freeSpeed network)
    Search.empty schedule hFailed
  cases hCause

end Scenario

/-- In a plan every walk of a trip stands between two activities, so the plan passes its check
exactly if the walks are well formed, and always if the trip stays on one link and is told as
one leg. Teleported walks are well formed, so that no scenario finds the plan of a routed trip
malformed. -/
theorem check_of_routed_trips {σ α : Type} [Plane α] :
    (∀ (settings : ServiceSettings α) (walker : Walker α) (stops : StopFinder α)
        (finder : Pathfinder σ α) (request : TripRequest α) (s : σ) (trip : Trip α),
      ((ViaStops.route settings walker stops finder request).run s).result = .ok trip →
      ∃ course,
        (∀ other, ViaStops.Takes settings walker stops finder request s other ↔ other = course) ∧
        course.trip settings request = trip ∧
        ((request.toPlan trip).check = .ok () ↔ ∀ walk ∈ course.walks, WellFormedWalk walk)) ∧
    (∀ (settings : ServiceSettings α) (walker : Walker α) (finder : Pathfinder σ α)
        (request : TripRequest α) (s : σ) (trip : Trip α),
      ((DoorToDoor.route settings walker finder request).run s).result = .ok trip →
      (request.origin.link = request.destination.link →
        (request.toPlan trip).check = .ok ()) ∧
      (request.origin.link ≠ request.destination.link → ∃ course,
        (∀ other, DoorToDoor.Takes settings walker finder request s other ↔ other = course) ∧
        course.trip settings request = trip ∧
        ((request.toPlan trip).check = .ok () ↔ ∀ walk ∈ course.walks, WellFormedWalk walk))) ∧
    (∀ (network : Network α) (settings : WalkSettings α) (origin destination : Location α)
        (time : α) (elements : List (Element α)),
      Teleport.route network settings origin destination time = .ok elements →
      WellFormedWalk elements) ∧
    (∀ (network : Network α) (settings : ServiceSettings α) (walk : WalkSettings α)
        (boarding : Boarding α) (finder : Pathfinder σ α) (request : TripRequest α) (s : σ)
        (trip : Trip α),
      ((Service.route ⟨settings, Teleport.walker network walk, boarding⟩ finder request).run
        s).result = .ok trip →
      (request.toPlan trip).check = .ok ()) ∧
    (∀ (scenario : Scenario α) (network : Network α) (service : Service α) (schedule : Schedule)
        (index : Nat) (traveller : TravellerId) (cause : Violation),
      ((scenario.openService network).run ()).result = .ok service →
      ((Batch.routeUnder ⟨service, scenario.checkPlans, scenario.workers⟩ (.freeSpeed network)
        Search.empty schedule scenario.requests).run ()).result ≠
          .error (.malformed index traveller cause)) ∧
    (∀ (scenario : Scenario α) (index : Nat) (traveller : TravellerId) (cause : Violation),
      (scenario.run.run ()).result ≠ .error (.batch (.malformed index traveller cause))) := by
  refine ⟨?stops, ?doors, ?walks, ?trips, ?batches, ?runs⟩
  case stops =>
    intro settings walker stops finder request s trip hTrip
    exact ViaStops.exists_course hTrip
  case doors =>
    intro settings walker finder request s trip hTrip
    exact ⟨fun hLink => DoorToDoor.check_of_same_link hLink hTrip,
      fun hLink => DoorToDoor.exists_course hLink hTrip⟩
  case walks =>
    intro network settings origin destination time elements hWalk
    exact Teleport.wellFormedWalk_of_route hWalk
  case trips =>
    intro network settings walk boarding finder request s trip hTrip
    exact Service.check_of_route (Teleport.wellFormed_walker network walk) hTrip
  case batches =>
    intro scenario network service schedule index traveller cause hOpen
    exact Scenario.routeUnder_ne_malformed hOpen _ _ _ _ _ _ _
  case runs =>
    intro scenario index traveller cause hFailed
    obtain ⟨network, service, -, hOpen, hBatch⟩ := Scenario.batch_of_run hFailed
    exact Scenario.routeUnder_ne_malformed hOpen _ _ _ _ _ _ _ hBatch

/-- A stroll that ends on another link. -/
def crossingRequest : TripRequest Float :=
  { strollRequest 0 with destination := ⟨⟨"b"⟩, some ⟨3, 4⟩, none⟩ }

/-- The course of a ride that is asked for after an empty walk and followed by another. -/
def crossingCourse (settings : ServiceSettings Float) : Course Float :=
  let access : Transfer Float := ⟨[], .onLink ⟨"a"⟩⟩
  let query := DoorToDoor.query settings crossingRequest (some access)
  .ridden (some access) (Ride.leg settings query ⟨10, 100⟩) (some ⟨[], .onLink ⟨"b"⟩⟩)

/-- A scenario of one stroll. -/
def strollScenario : Scenario Float where
  service := .default
  walk := .default
  network := ⟨[], []⟩
  stops := []
  serviceArea := none
  requests := [strollRequest 0]
  checkPlans := true
  workers := none

/-- A walker that returns nothing spoils every trip but the one that is told as one leg;
teleported walks spoil none. -/
theorem check_of_empty_walks :
    let walking : ServiceSettings Float := { ServiceSettings.default with walksToRide := true }
    ((strollRequest 0).toPlan ⟨[]⟩).check ≠ .ok () ∧
    ((strollRequest 0).toPlan
      ((Course.collapsed []).trip .default (strollRequest 0))).check = .ok () ∧
    (crossingRequest.toPlan ((crossingCourse walking).trip walking crossingRequest)).check ≠
      .ok () ∧
    WellFormedWalk [Element.leg (Teleport.leg .default walkMode ⟨"a"⟩ ⟨"a"⟩ ⟨0, 0⟩
      (⟨3, 4⟩ : Point Float) 0)] ∧
    ((strollRequest 0).toPlan (strollTrip 0)).check = .ok () ∧
    ((Batch.routeUnder ⟨⟨.default, Teleport.walker .empty .default, .anyLink⟩, true, none⟩
        (.freeSpeed .empty) Search.empty [[0]] [strollRequest 0]).run ()).result ≠
      .error (.malformed 0 ⟨"p"⟩ .empty) := by
  intro walking
  let mute : Walker Float := ⟨fun _ _ _ _ => .ok []⟩
  let away : Pathfinder Unit Float := .constant ⟨10, 100⟩
  have hEmpty : ¬WellFormedWalk ([] : List (Element Float)) := fun h => by cases h.begins
  obtain ⟨hStops, hDoors, hWalks, hTrips, hBatches, -⟩ := @check_of_routed_trips Unit Float _
  refine ⟨?stops, ?link, ?doors, ?walk, ?trip, ?batch⟩
  case stops =>
    intro hCheck
    obtain ⟨course, hOnly, -, hIff⟩ := hStops .default mute (.constant ⟨none, none⟩) away
      (strollRequest 0) () ⟨[]⟩ (by rfl)
    obtain rfl := (hOnly (.walked [])).mp (.walked rfl rfl rfl rfl)
    exact hEmpty (hIff.mp hCheck [] List.mem_cons_self)
  case link =>
    exact (hDoors .default mute away (strollRequest 0) () _ (by rfl)).1 (by rfl)
  case doors =>
    intro hCheck
    obtain ⟨course, hOnly, -, hIff⟩ := (hDoors walking mute away crossingRequest ()
      ((crossingCourse walking).trip walking crossingRequest) (by rfl)).2 (by decide)
    obtain rfl := (hOnly (crossingCourse walking)).mp (.ridden rfl (by decide) rfl rfl rfl rfl)
    exact hEmpty (hIff.mp hCheck [] List.mem_cons_self)
  case walk =>
    exact hWalks .empty .default (strollRequest 0).origin (strollRequest 0).destination 0 _ (by rfl)
  case trip =>
    exact hTrips .empty .default .default .anyLink away (strollRequest 0) () _ (by rfl)
  case batch =>
    exact hBatches strollScenario .empty _ [[0]] 0 ⟨"p"⟩ .empty (by rfl)

end DemandRide
