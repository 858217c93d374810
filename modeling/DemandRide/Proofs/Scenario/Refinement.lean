import DemandRide.Proofs.Scenario.Stops

/-! Service areas as lists of stops. A scenario with a service area is the scenario that lists the
stops derived from it: both search the same stops, and once a service is open nothing asks for its
scheme or for the stops that were listed. -/
namespace DemandRide

variable {σ α : Type} [Plane α]

/-- Once travellers board where they board, the scheme has no part in how they are routed. -/
theorem Service.route_scheme (settings : ServiceSettings α) (scheme : OperatingScheme)
    (walker : Walker α) (boarding : Boarding α) (finder : Pathfinder σ α) :
    route ⟨{ settings with scheme := scheme }, walker, boarding⟩ finder =
      route ⟨settings, walker, boarding⟩ finder := by
  cases boarding with
  | anyLink => rfl
  | atStops stops => rfl

namespace Scenario

/-- The scenario that lists its stops, with or without a service area to keep them to. -/
def listing (scenario : Scenario α) (stops : List (Stop α))
    (serviceArea : Option (List (Ring α))) : Scenario α :=
  { scenario with
    service := { scenario.service with scheme := .stopBased }
    stops := stops
    serviceArea := serviceArea }

variable {scenario : Scenario α} {network : Network α}

/-- A scenario comes to the failure of its network or its service, or to what its batch comes
to. -/
theorem result_runUnder (scenario : Scenario α) (schedule : Schedule) :
    ((scenario.runUnder schedule).run ()).result = (do
      let network ← scenario.network.build.mapError .network
      let service ← ((scenario.openService network).run ()).result
      ((Batch.routeUnder ⟨service, scenario.checkPlans, scenario.workers⟩ (.freeSpeed network)
        Search.empty schedule scenario.requests).run ()).result.mapError .batch) := by
  unfold runUnder
  rw [Session.result_bind]
  refine bind_congr fun network => ?_
  rw [Session.result_bind, Session.run_note, Session.ok_bind, Session.result_bind]
  rfl

/-- Where the scheme uses stops and has the area it needs, the stops of the index are found. -/
theorem result_stopFinder (hScheme : scenario.service.scheme.usesStops)
    (hArea : scenario.service.scheme = .serviceAreaBased → scenario.area?.isSome) :
    ((scenario.stopFinder network).run ()).result =
      .ok (some (.nearest network (scenario.index network))) := by
  unfold stopFinder index offered
  cases hKind : scenario.service.scheme with
  | doorToDoor => simp [hKind, OperatingScheme.usesStops] at hScheme
  | stopBased => cases scenario.area? <;> rfl
  | serviceAreaBased =>
      obtain ⟨area, hSome⟩ := Option.isSome_iff_exists.mp (hArea hKind)
      rw [hSome]
      rfl

/-- What remains to be checked once the stops are found are the settings. -/
theorem result_openService (hScheme : scenario.service.scheme.usesStops)
    (hArea : scenario.service.scheme = .serviceAreaBased → scenario.area?.isSome) :
    ((scenario.openService network).run ()).result = (do
      scenario.walk.validate.mapError .settings
      scenario.service.validate.mapError .settings
      return ⟨scenario.service, Teleport.walker network scenario.walk,
        .atStops (.nearest network (scenario.index network))⟩) := by
  unfold openService
  rw [Session.result_bind, Session.run_mapError, Session.run_ofExcept]
  cases scenario.walk.validate with
  | error e => rfl
  | ok valid =>
      simp only [Session.mapError_ok, Session.ok_bind, Session.result_bind,
        result_stopFinder hScheme hArea, Session.run_mapError, Session.run_ofExcept, Service.start,
        hScheme]
      cases scenario.service.validate <;> rfl

section Listing

variable {area : Area α} {stops : List (Stop α)} {serviceArea : Option (List (Ring α))}

/-- What lists the stops of an area searches the same stops. -/
theorem index_listing (hScheme : scenario.service.scheme = .serviceAreaBased)
    (hArea : scenario.area? = some area)
    (hKept : serviceArea = scenario.serviceArea ∨ serviceArea = none) :
    (scenario.listing (area.deriveStops network) serviceArea).index network =
      scenario.index network := by
  have hOffered : (scenario.listing (area.deriveStops network) serviceArea).offered network =
      area.deriveStops network := by
    rcases hKept with rfl | rfl
    · have hSame : (scenario.listing (area.deriveStops network) scenario.serviceArea).area? =
          some area := hArea
      unfold offered
      rw [hSame]
      exact area.stopsInside_deriveStops network
    · rfl
  unfold index
  rw [hOffered, offered, hScheme, hArea]
  rfl

/-- What lists the stops of an area comes to the same, whoever serves which request. -/
theorem result_runUnder_listing (hScheme : scenario.service.scheme = .serviceAreaBased)
    (hArea : scenario.area? = some area)
    (hStops : ∀ network, scenario.network.build = .ok network → stops = area.deriveStops network)
    (hKept : serviceArea = scenario.serviceArea ∨ serviceArea = none) (schedule : Schedule) :
    (((scenario.listing stops serviceArea).runUnder schedule).run ()).result =
      ((scenario.runUnder schedule).run ()).result := by
  have hUses : scenario.service.scheme.usesStops := by rw [hScheme]; rfl
  have hThere (_ : scenario.service.scheme = .serviceAreaBased) : scenario.area?.isSome := by
    rw [hArea]
    rfl
  rw [result_runUnder, result_runUnder]
  change (scenario.network.build.mapError _ >>= _) = _
  cases hBuild : scenario.network.build with
  | error e => rfl
  | ok network =>
      obtain rfl := hStops network hBuild
      simp only [Session.mapError_ok, Session.ok_bind]
      rw [result_openService hUses hThere, result_openService (by rfl) (by rintro ⟨⟩),
        index_listing hScheme hArea hKept]
      change (scenario.walk.validate.mapError _ >>= fun _ =>
        scenario.service.validate.mapError _ >>= _) >>= _ = _
      cases scenario.walk.validate with
      | error e => rfl
      | ok validWalk =>
          cases scenario.service.validate with
          | error e => rfl
          | ok validService =>
              -- Past the checks only the scheme differs, which no router reads.
              have hBatch := Batch.routeUnder_congr (Service.route_scheme scenario.service
                .stopBased (Teleport.walker network scenario.walk)
                (.atStops (.nearest network (scenario.index network))) (.freeSpeed network))
                scenario.checkPlans scenario.workers Search.empty schedule scenario.requests
              exact congrArg (fun session => (session.run ()).result.mapError ScenarioError.batch)
                hBatch

end Listing

/-- A scheme that derives its stops does not look at those that are listed. -/
theorem runUnder_stops (hScheme : scenario.service.scheme = .serviceAreaBased)
    (listed : List (Stop α)) (schedule : Schedule) :
    runUnder { scenario with stops := listed } schedule = scenario.runUnder schedule := by
  have hFinder (network : Network α) :
      stopFinder { scenario with stops := listed } network = scenario.stopFinder network := by
    have hArea : area? { scenario with stops := listed } = scenario.area? := rfl
    unfold stopFinder
    rw [hScheme, hArea]
    cases scenario.area? <;> rfl
  have hOpen (network : Network α) :
      openService { scenario with stops := listed } network = scenario.openService network := by
    unfold openService
    rw [hFinder]
  unfold runUnder
  simp only [hOpen]

/-- No two requests of a scenario fail, once its service is open. -/
def FailsAtMostOnce (scenario : Scenario α) : Prop :=
  ∀ network service, scenario.network.build = .ok network →
    ((scenario.openService network).run ()).result = .ok service →
    service.FailsAtMostOnce (.freeSpeed network) Search.empty scenario.requests

/-- If no two requests fail, it does not matter who serves them. -/
theorem result_runUnder_of_failsAtMostOnce (hOnce : scenario.FailsAtMostOnce)
    {first second : Schedule} (hFirst : first.Covers scenario.requests.length)
    (hSecond : second.Covers scenario.requests.length) :
    ((scenario.runUnder first).run ()).result = ((scenario.runUnder second).run ()).result := by
  rw [result_runUnder, result_runUnder]
  cases hBuild : scenario.network.build with
  | error e => rfl
  | ok network =>
      simp only [Session.mapError_ok, Session.ok_bind]
      cases hOpen : ((scenario.openService network).run ()).result with
      | error e => rfl
      | ok service =>
          obtain ⟨stops, hStart⟩ := start_of_openService hOpen
          exact congrArg (Except.mapError ScenarioError.batch)
            (Batch.result_routeUnder_of_failsAtMostOnce
              (Service.wellFormed_walker_of_start hStart)
              (Pathfinder.historyFree_freeSpeed network) hFirst hSecond
              (hOnce network service hBuild hOpen))

end Scenario

/-- A scenario that derives its stops from a service area comes to what the scenario that lists
these stops comes to, whether that one keeps the area or not: to the same trips or to the same
failure, and under another schedule too if no two requests fail. The stops that it lists itself do
not matter. -/
theorem Scenario.run_listing {α : Type} [Plane α] {scenario : Scenario α} {area : Area α}
    {stops : List (Stop α)} {serviceArea : Option (List (Ring α))}
    (hScheme : scenario.service.scheme = .serviceAreaBased)
    (hArea : scenario.area? = some area)
    (hStops : ∀ network, scenario.network.build = .ok network → stops = area.deriveStops network)
    (hKept : serviceArea = scenario.serviceArea ∨ serviceArea = none) :
    ((scenario.listing stops serviceArea).run.run ()).result = (scenario.run.run ()).result ∧
    (∀ first second, first.Covers scenario.requests.length →
      second.Covers scenario.requests.length → scenario.FailsAtMostOnce →
      (((scenario.listing stops serviceArea).runUnder second).run ()).result =
        ((scenario.runUnder first).run ()).result) ∧
    ∀ listed, run { scenario with stops := listed } = scenario.run ∧
      ∀ schedule, runUnder { scenario with stops := listed } schedule =
        scenario.runUnder schedule := by
  have hListing := result_runUnder_listing hScheme hArea hStops hKept
  refine ⟨?_, ?_, fun listed => ⟨runUnder_stops hScheme listed _, runUnder_stops hScheme listed⟩⟩
  · exact hListing _
  · intro first second hFirst hSecond hOnce
    exact (hListing second).trans (result_runUnder_of_failsAtMostOnce hOnce hSecond hFirst)

/-- From the end of the one street to just past the end of the other. -/
def endsRequest : TripRequest Float :=
  { southboundRequest with destination := ⟨⟨"b"⟩, some ⟨0, 22⟩, none⟩ }

/-- The area around both streets. -/
def streetRings : List (Ring Float) := [[⟨-20, -20⟩, ⟨20, -20⟩, ⟨20, 30⟩, ⟨-20, 30⟩]]

/-- A service between the ends of the two streets, which lie inside its area. -/
def areaScenario : Scenario Float :=
  { streetScenario with
    service := { ServiceSettings.default with scheme := .serviceAreaBased }
    serviceArea := some streetRings
    requests := [endsRequest, remoteRequest] }

/-- One of two trips is ridden between the ends of the streets, whether these are derived or
listed and whoever serves which request. -/
theorem run_listing_streets :
    let stops := (Area.ofRings streetRings).deriveStops streetNetwork
    stops.length = 2 ∧
    ((areaScenario.run.run ()).result.toOption.map
      (List.map fun one => one.trip.rideLegs.length)) = some [1, 0] ∧
    ((areaScenario.listing stops none).run.run ()).result = (areaScenario.run.run ()).result ∧
    areaScenario.FailsAtMostOnce ∧
    (((areaScenario.listing stops none).runUnder [[1], [0]]).run ()).result =
      ((areaScenario.runUnder [[0, 1]]).run ()).result := by
  intro stops
  have hStops (network : Network Float) (hBuild : areaScenario.network.build = .ok network) :
      stops = (Area.ofRings streetRings).deriveStops network := by
    obtain rfl := Except.ok.inj (build_streets.symm.trans hBuild)
    rfl
  have hOnce : areaScenario.FailsAtMostOnce := by
    intro network service hBuild hOpen
    obtain rfl := Except.ok.inj (build_streets.symm.trans hBuild)
    obtain ⟨-, rfl⟩ := Scenario.service_of_openService rfl hOpen
    let service : Service Float := ⟨areaScenario.service,
      Teleport.walker streetNetwork areaScenario.walk,
      .atStops (.nearest streetNetwork (areaScenario.index streetNetwork))⟩
    have hRouted : ((service.route (.freeSpeed streetNetwork) endsRequest).run
        Search.empty).result.isOk := by
      decide +kernel
    refine List.pairwise_pair.mpr ?_
    cases hResult : ((service.route (.freeSpeed streetNetwork) endsRequest).run
      Search.empty).result with
    | ok trip => exact ⟨trip, .inl rfl⟩
    | error e =>
        rw [hResult] at hRouted
        cases hRouted
  obtain ⟨hRun, hSchedules, -⟩ := Scenario.run_listing rfl rfl hStops (.inr rfl)
  exact ⟨by decide +kernel, by decide +kernel, hRun, hOnce,
    hSchedules [[0, 1]] [[1], [0]] (by decide) (by decide) hOnce⟩

end DemandRide
