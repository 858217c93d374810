import DemandRide.Proofs.Scenario.Stops

/-! What keeps a scenario from being run. Its network cannot be built, a constant is out of range,
its stops are to be derived from an area that is not there, or there is a request that cannot be
routed. Nothing else does: a scenario without any of these is answered, request by request and in
their order, whoever serves the requests. -/
namespace DemandRide.Scenario

variable {α : Type} [Plane α] {scenario : Scenario α} {network : Network α}
  {schedule : Schedule}

/-- What a router that is opened for one request of the scenario alone comes to. -/
def ComesTo (scenario : Scenario α) (request : TripRequest α)
    (result : Except (RoutingError α) (Trip α)) : Prop :=
  ∃ network service, scenario.network.build = .ok network ∧
    ((scenario.openService network).run ()).result = .ok service ∧
    ((service.route (.freeSpeed network) request).run Search.empty).result = result

theorem ComesTo.unique {request : TripRequest α} {result other : Except (RoutingError α) (Trip α)}
    (h : scenario.ComesTo request result) (h' : scenario.ComesTo request other) :
    result = other := by
  obtain ⟨network, service, hBuild, hOpen, rfl⟩ := h
  obtain ⟨network', service', hBuild', hOpen', rfl⟩ := h'
  obtain rfl := Except.ok.inj (hBuild.symm.trans hBuild')
  obtain rfl := Except.ok.inj (hOpen.symm.trans hOpen')
  rfl

/-- A reason why a scenario cannot be run. -/
inductive Obstacle (scenario : Scenario α) : Prop where
  | network {cause : NetworkError} (h : scenario.network.build = .error cause)
  | walk {cause : SettingsError α} (h : scenario.walk.validate = .error cause)
  | service {cause : SettingsError α} (h : scenario.service.validate = .error cause)
  | area (hScheme : scenario.service.scheme = .serviceAreaBased)
      (hArea : scenario.serviceArea = none)
  | request {request : TripRequest α} {cause : RoutingError α}
      (hRequest : request ∈ scenario.requests) (h : scenario.ComesTo request (.error cause))

/-- A routed trip that answers a request: the trip of a router opened for the request alone, with
the traveller and the departure time that were asked for. -/
def Answers (scenario : Scenario α) (request : TripRequest α) (routed : RoutedTrip α) : Prop :=
  routed.traveller = request.traveller ∧ routed.departureTime = request.departureTime ∧
    scenario.ComesTo request (.ok routed.trip)

/-- Stops are found by some finder or by none, unless the area they are derived from is missing. -/
theorem exists_stopFinder_iff :
    (∃ stops, ((scenario.stopFinder network).run ()).result = .ok stops) ↔
      ¬(scenario.service.scheme = .serviceAreaBased ∧ scenario.serviceArea = none) := by
  unfold stopFinder area?
  cases scenario.service.scheme <;> cases scenario.serviceArea <;>
    simp [Session.run_bind, Option.map]

/-- A service is opened exactly if its constants and those of walks are in range, and there is an
area if stops are derived from one. -/
theorem exists_openService_iff :
    (∃ service, ((scenario.openService network).run ()).result = .ok service) ↔
      scenario.walk.validate = .ok () ∧ scenario.service.validate = .ok () ∧
        ¬(scenario.service.scheme = .serviceAreaBased ∧ scenario.serviceArea = none) := by
  constructor
  · rintro ⟨service, hOpen⟩
    obtain ⟨stops, hStart⟩ := start_of_openService hOpen
    unfold openService at hOpen
    obtain ⟨_, hWalk, hOpen⟩ := Session.result_bind_eq_ok_iff.mp hOpen
    obtain ⟨stops, hStops, -⟩ := Session.result_bind_eq_ok_iff.mp hOpen
    exact ⟨(Session.mapError_eq_ok_iff _ _ _).mp hWalk, (Service.start_eq_ok_iff.mp hStart).1,
      exists_stopFinder_iff.mp ⟨stops, hStops⟩⟩
  · rintro ⟨hWalk, hService, hArea⟩
    obtain ⟨stops, hStops⟩ := exists_stopFinder_iff.mpr hArea
    have hStart : ∃ service, Service.start scenario.service
        (Teleport.walker network scenario.walk) stops = .ok service := by
      cases hScheme : scenario.service.scheme.usesStops with
      | false =>
          exact ⟨⟨_, _, .anyLink⟩,
            Service.start_eq_ok_iff.mpr ⟨hService, rfl, rfl, .inl ⟨hScheme, rfl⟩⟩⟩
      | true =>
          exact ⟨⟨_, _, .atStops _⟩, Service.start_eq_ok_iff.mpr
            ⟨hService, rfl, rfl, .inr ⟨_, hScheme, finder_of_stopFinder hScheme hStops, rfl⟩⟩⟩
    obtain ⟨service, hStart⟩ := hStart
    refine ⟨service, Session.result_bind_eq_ok_iff.mpr ⟨(), ?_, ?_⟩⟩
    · exact (Session.mapError_eq_ok_iff _ _ _).mpr hWalk
    · exact Session.result_bind_eq_ok_iff.mpr
        ⟨stops, hStops, (Session.mapError_eq_ok_iff _ _ _).mpr hStart⟩

/-- With a network and a service at hand, what the batch comes to is what the scenario comes
to. -/
theorem runUnder_of_batch {service : Service α} {routed : List (RoutedTrip α)}
    (hBuild : scenario.network.build = .ok network)
    (hOpen : ((scenario.openService network).run ()).result = .ok service)
    (hBatch : ((Batch.routeUnder ⟨service, scenario.checkPlans, scenario.workers⟩
      (.freeSpeed network) Search.empty schedule scenario.requests).run ()).result = .ok routed) :
    ((scenario.runUnder schedule).run ()).result = .ok routed := by
  refine Session.result_bind_eq_ok_iff.mpr
    ⟨network, (Session.mapError_eq_ok_iff _ _ _).mpr hBuild, ?_⟩
  refine Session.result_bind_eq_ok_iff.mpr ⟨(), rfl, ?_⟩
  exact Session.result_bind_eq_ok_iff.mpr
    ⟨service, hOpen, (Session.mapError_eq_ok_iff _ _ _).mpr hBatch⟩

section Run

variable {routed : List (RoutedTrip α)} (hCovers : schedule.Covers scenario.requests.length)
include hCovers

/-- Every request of a scenario that is run is answered. -/
theorem forall₂_answers_of_runUnder
    (hRun : ((scenario.runUnder schedule).run ()).result = .ok routed) :
    List.Forall₂ scenario.Answers scenario.requests routed := by
  obtain ⟨network, service, hBuild, hOpen, hBatch⟩ := service_of_runUnder hRun
  obtain ⟨stops, hStart⟩ := start_of_openService hOpen
  obtain ⟨hLength, hRouted⟩ := Batch.routed_of_routeUnder
    (Service.wellFormed_walker_of_start hStart) (Pathfinder.historyFree_freeSpeed network)
    Search.empty hCovers hBatch
  refine List.forall₂_iff_get.mpr ⟨hLength.symm, fun index hRequest hAnswer => ?_⟩
  obtain ⟨trip, hTrip, hAt⟩ := hRouted index _ (List.getElem?_eq_getElem hRequest)
  have hRouted : routed[index] = scenario.requests[index].routed trip :=
    Option.some.inj ((List.getElem?_eq_getElem hAnswer).symm.trans hAt)
  rw [List.get_eq_getElem, List.get_eq_getElem, hRouted]
  exact ⟨rfl, rfl, network, service, hBuild, hOpen, hTrip⟩

theorem not_obstacle_of_runUnder
    (hRun : ((scenario.runUnder schedule).run ()).result = .ok routed) :
    ¬scenario.Obstacle := by
  obtain ⟨network, service, hBuild, hOpen, -⟩ := service_of_runUnder hRun
  obtain ⟨hWalk, hService, hArea⟩ := exists_openService_iff.mp ⟨service, hOpen⟩
  intro hObstacle
  cases hObstacle with
  | network h => cases hBuild.symm.trans h
  | walk h => cases hWalk.symm.trans h
  | service h => cases hService.symm.trans h
  | area hScheme hNone => exact hArea ⟨hScheme, hNone⟩
  | request hRequest h =>
      obtain ⟨index, hIndex, rfl⟩ := List.getElem_of_mem hRequest
      obtain ⟨hLength, hAnswers⟩ := List.forall₂_iff_get.mp
        (forall₂_answers_of_runUnder hCovers hRun)
      obtain ⟨-, -, hTrip⟩ := hAnswers index hIndex (hLength ▸ hIndex)
      cases h.unique hTrip

/-- A scenario without an obstacle is run. -/
theorem exists_runUnder_of_not_obstacle (h : ¬scenario.Obstacle) :
    ∃ routed, ((scenario.runUnder schedule).run ()).result = .ok routed := by
  obtain ⟨network, hBuild⟩ : ∃ network, scenario.network.build = .ok network := by
    cases hBuild : scenario.network.build with
    | ok network => exact ⟨network, rfl⟩
    | error cause => exact absurd (.network hBuild) h
  have hWalk : scenario.walk.validate = .ok () := by
    cases hWalk : scenario.walk.validate with
    | ok => rfl
    | error cause => exact absurd (.walk hWalk) h
  have hService : scenario.service.validate = .ok () := by
    cases hService : scenario.service.validate with
    | ok => rfl
    | error cause => exact absurd (.service hService) h
  obtain ⟨service, hOpen⟩ :
      ∃ service, ((scenario.openService network).run ()).result = .ok service :=
    exists_openService_iff.mpr ⟨hWalk, hService, fun hArea => h (.area hArea.1 hArea.2)⟩
  have hTrips : ∀ request ∈ scenario.requests, ∃ trip,
      ((service.route (.freeSpeed network) request).run Search.empty).result = .ok trip := by
    intro request hRequest
    cases hTrip : ((service.route (.freeSpeed network) request).run Search.empty).result with
    | ok trip => exact ⟨trip, rfl⟩
    | error cause => exact absurd (.request hRequest ⟨network, service, hBuild, hOpen, hTrip⟩) h
  obtain ⟨trips, hTrips⟩ := exists_map_eq_map_ok hTrips
  obtain ⟨stops, hStart⟩ := start_of_openService hOpen
  exact ⟨_, runUnder_of_batch hBuild hOpen (Batch.result_routeUnder_of_ok
    (Service.wellFormed_walker_of_start hStart) (Pathfinder.historyFree_freeSpeed network)
    Search.empty hCovers hTrips)⟩

/-- What a scenario comes to, whatever it holds and whoever serves its requests. -/
theorem runUnder_cases :
    scenario.Obstacle ∧
        (∃ cause, ((scenario.runUnder schedule).run ()).result = .error cause) ∨
      ¬scenario.Obstacle ∧ ∃ routed, ((scenario.runUnder schedule).run ()).result = .ok routed ∧
        List.Forall₂ scenario.Answers scenario.requests routed := by
  cases hRun : ((scenario.runUnder schedule).run ()).result with
  | ok routed =>
      exact .inr ⟨not_obstacle_of_runUnder hCovers hRun, routed, rfl,
        forall₂_answers_of_runUnder hCovers hRun⟩
  | error cause =>
      refine .inl ⟨?_, cause, rfl⟩
      by_contra hNone
      obtain ⟨routed, hRouted⟩ := exists_runUnder_of_not_obstacle hCovers hNone
      cases hRun.symm.trans hRouted

end Run

end DemandRide.Scenario
